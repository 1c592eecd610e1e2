import RequestPipeline.Routing

/-!
# The loops of initialising and destroying

A routing initialises its interceptors, its units and its error unit in three loops, each of which
undoes what it and the loops before it have done.  Together they are one loop over all participants
with one list of those initialised so far.
-/

namespace RequestPipeline

namespace Participant

/-- One loop over participants; `done` are those initialised so far, the latest first, and they are
destroyed in that order when one fails. -/
def startFrom (done : List Participant) :
    List Participant → Journal → Except Error Unit × Journal
  | [], journal => (.ok (), journal)
  | participant :: rest, journal =>
      match participant.start journal with
      | (.ok (), journal) => startFrom (participant :: done) rest journal
      | (.error e, journal) => (.error e, stopAll done journal)

theorem stopAll_append (first later : List Participant) (journal : Journal) :
    stopAll (first ++ later) journal = stopAll later (stopAll first journal) :=
  List.foldl_append

/-- A loop over two lists goes on with the second one when the first has passed. -/
theorem startFrom_append (done first later : List Participant) (journal : Journal) :
    startFrom done (first ++ later) journal =
      match startFrom done first journal with
      | (.ok (), journal) => startFrom (first.reverse ++ done) later journal
      | (.error e, journal) => (.error e, journal) := by
  induction first generalizing done journal with
  | nil => rfl
  | cons participant rest ih =>
      rw [List.cons_append, startFrom, startFrom]
      cases participant.start journal with
      | mk outcome journal =>
        cases outcome with
        | error e => rfl
        | ok accepted =>
            dsimp only
            rw [ih, List.reverse_cons, List.append_assoc]
            rfl

/-- A loop that finds what to undo by the position at which it failed. -/
theorem startEach_eq {rollback : Nat → Journal → Journal} {whole before : List Participant}
    (undoes : ∀ index, rollback index = stopAll ((whole.take index).reverse ++ before))
    (tried rest : List Participant) (split : whole = tried ++ rest) (journal : Journal) :
    startEach rollback (rest.zipIdx tried.length) journal =
      startFrom (tried.reverse ++ before) rest journal := by
  induction rest generalizing tried journal with
  | nil => rfl
  | cons participant rest ih =>
      rw [List.zipIdx_cons, startEach, startFrom]
      cases participant.start journal with
      | mk outcome journal =>
        cases outcome with
        | error e =>
            dsimp only
            rw [undoes, split, List.take_left]
        | ok accepted =>
            have further := ih (tried ++ [participant]) (by rw [split, List.append_cons]) journal
            rw [List.length_append, List.reverse_append] at further
            exact further

end Participant

namespace RoutingTable

open Participant

def participants (routing : RoutingTable) : List Participant :=
  routing.snapshot.interceptors.map (fun entry => .ofInterceptor entry.1 entry.2)
    ++ routing.snapshot.units.map (fun entry => .ofUnit entry.1 entry.2)
    ++ (routing.errorUnit.map Participant.ofErrorUnit).toList

theorem destroyRegistered_eq (routing : RoutingTable) (journal : Journal) :
    routing.destroyRegistered journal = stopAll
      (routing.unitParticipants.reverse ++ routing.interceptorParticipants.reverse) journal :=
  (stopAll_append ..).symm

/-- Destroying goes through all participants, the last one initialised first. -/
theorem destroyAll_eq (routing : RoutingTable) (journal : Journal) :
    routing.destroyAll journal = stopAll routing.participants.reverse journal := by
  have registered (journal : Journal) := routing.destroyRegistered_eq journal
  rw [participants, List.reverse_append, List.reverse_append, destroyAll]
  cases routing.errorUnit with
  | none => exact registered journal
  | some unit => exact registered ((ofErrorUnit unit).stop journal)

theorem initInterceptors_eq (routing : RoutingTable) (journal : Journal) :
    routing.initInterceptors journal = startFrom [] routing.interceptorParticipants journal :=
  startEach_eq (fun _ => by rw [List.append_nil]) [] routing.interceptorParticipants
    (List.nil_append _).symm journal

theorem initUnits_eq (routing : RoutingTable) (journal : Journal) : routing.initUnits journal =
    startFrom routing.interceptorParticipants.reverse routing.unitParticipants journal :=
  startEach_eq (fun _ => funext fun journal => (stopAll_append _ _ journal).symm) []
    routing.unitParticipants (List.nil_append _).symm journal

theorem initErrorUnit_eq (routing : RoutingTable) (journal : Journal) :
    routing.initErrorUnit journal =
      startFrom (routing.unitParticipants.reverse ++ routing.interceptorParticipants.reverse)
        (routing.errorUnit.map ofErrorUnit).toList journal := by
  cases given : routing.errorUnit with
  | none => simp only [initErrorUnit, given]; rfl
  | some unit =>
      simp only [initErrorUnit, given, Option.map_some, Option.toList_some, startFrom]
      cases (ofErrorUnit unit).start journal with
      | mk outcome journal =>
        cases outcome with
        | error e => exact congrArg (Prod.mk _) (routing.destroyRegistered_eq journal)
        | ok accepted => rfl

/-- The three loops are one loop over all participants. -/
theorem initAll_eq (routing : RoutingTable) (journal : Journal) :
    routing.initAll journal = startFrom [] routing.participants journal := by
  change _ = startFrom [] (routing.interceptorParticipants ++ routing.unitParticipants ++ _) journal
  rw [startFrom_append, startFrom_append, initAll, routing.initInterceptors_eq, List.append_nil]
  cases startFrom [] routing.interceptorParticipants journal with
  | mk outcome journal =>
    cases outcome with
    | error e => rfl
    | ok accepted =>
        dsimp only
        rw [routing.initUnits_eq]
        cases startFrom routing.interceptorParticipants.reverse routing.unitParticipants journal with
        | mk outcome journal =>
          cases outcome with
          | error e => rfl
          | ok accepted =>
              dsimp only
              rw [routing.initErrorUnit_eq, List.reverse_append, List.append_nil]

end RoutingTable

end RequestPipeline
