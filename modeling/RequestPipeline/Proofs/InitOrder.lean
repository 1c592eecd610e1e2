import RequestPipeline.Proofs.Rerouting

/-!
# The order of initialising and destroying

The three loops of a routing initialise interceptors before units and units before the error
handler, each kind in order of registration.  What the journal gains is told entry by entry: one
entry for each participant that was initialised, one for the participant that refused, and then one
for each that is destroyed again, the latest first.
-/

namespace RequestPipeline

namespace Participant

def begun (participant : Participant) : Entry :=
  ⟨participant.entry .initialized, participant.initLine⟩

def refused (participant : Participant) : Entry :=
  ⟨participant.entry .initFailed, participant.initLine⟩

def ended (participant : Participant) : Entry :=
  ⟨participant.entry .destroyed, participant.destroyLine⟩

/-- Participants accept being initialised one after the other, each after what those before it have
entered in the journal. -/
inductive Begins : List Participant → Journal → Prop
  | nil (journal : Journal) : Begins [] journal
  | cons {participant : Participant} {rest : List Participant} {journal : Journal}
      (accepts : participant.init journal = .ok ())
      (onward : Begins rest (journal ++ [participant.begun])) :
      Begins (participant :: rest) journal

/-- A participant in a row refuses to be initialised after all before it have been. -/
structure Breaks (participants : List Participant) (journal : Journal)
    (tried : List Participant) (failing : Participant) (fault : Error) : Prop where
  place : ∃ rest, participants = tried ++ failing :: rest
  before : Begins tried journal
  refuses : failing.init (journal ++ tried.map begun) = .error fault

variable {participant : Participant} {journal : Journal} {fault : Error}

theorem start_of_accepts (accepts : participant.init journal = .ok ()) :
    participant.start journal = (.ok (), journal ++ [participant.begun]) := by
  rw [start, accepts]
  rfl

theorem start_of_refuses (refuses : participant.init journal = .error fault) :
    participant.start journal = (.error fault, journal ++ [participant.refused]) := by
  rw [start, refuses]
  rfl

theorem stopAll_eq (participants : List Participant) (journal : Journal) :
    stopAll participants journal = journal ++ participants.map ended := by
  induction participants generalizing journal with
  | nil => exact (List.append_nil journal).symm
  | cons participant rest ih =>
      refine (ih (participant.stop journal)).trans ?_
      rw [List.map_cons, List.append_cons]
      rfl

theorem begins_or_breaks (participants : List Participant) (journal : Journal) :
    Begins participants journal ∨
      ∃ tried failing fault, Breaks participants journal tried failing fault := by
  induction participants generalizing journal with
  | nil => exact Or.inl (.nil journal)
  | cons participant rest ih =>
      cases verdict : participant.init journal with
      | error fault =>
          refine Or.inr ⟨[], participant, fault, ⟨rest, rfl⟩, .nil journal, ?_⟩
          rw [List.map_nil, List.append_nil]
          exact verdict
      | ok accepted =>
          rcases ih (journal ++ [participant.begun]) with
            onward | ⟨tried, failing, fault, ⟨behind, rfl⟩, before, refuses⟩
          · exact Or.inl (.cons verdict onward)
          · refine Or.inr ⟨participant :: tried, failing, fault, ⟨behind, rfl⟩,
              .cons verdict before, ?_⟩
            rw [List.append_assoc] at refuses
            exact refuses

theorem startFrom_of_begins {participants : List Participant}
    (begins : Begins participants journal) (done rest : List Participant) :
    startFrom done (participants ++ rest) journal =
      startFrom (participants.reverse ++ done) rest (journal ++ participants.map begun) := by
  induction begins generalizing done with
  | nil journal => rw [List.map_nil, List.append_nil]; rfl
  | @cons participant others journal accepts _ ih =>
      rw [List.cons_append, startFrom, start_of_accepts accepts]
      dsimp only
      rw [ih, List.reverse_cons, List.append_assoc, List.append_assoc]
      rfl

theorem startFrom_of_breaks {participants tried : List Participant} {failing : Participant}
    (breaks : Breaks participants journal tried failing fault) (done : List Participant) :
    startFrom done participants journal =
      (.error fault, journal ++ tried.map begun ++ [failing.refused] ++
        (tried.reverse ++ done).map ended) := by
  obtain ⟨⟨rest, rfl⟩, before, refuses⟩ := breaks
  rw [startFrom_of_begins before, startFrom, start_of_refuses refuses]
  dsimp only
  rw [stopAll_eq]

end Participant

namespace RoutingTable

open Participant

/-- Of a frozen table with an error handler or none, the interceptors are initialised in order of
registration, then the units in order of registration, then the error handler.  Either all accept,
or the first that refuses gives its error back and those before it, and no others, are destroyed
again in reverse order.  Whenever the routing is destroyed later, all are, in reverse order. -/
theorem initAll_in_order {table : RegistrationTable} {loader : ClassLoader}
    {before after : Journal} {snapshot : Snapshot}
    (frozen : table.freeze loader before = (.ok snapshot, after))
    (errorUnit : Option (Instance ServiceUnit)) :
    let routing := build snapshot errorUnit
    snapshot.interceptors.map Prod.fst = table.interceptors.map (·.name) ∧
    snapshot.units.map Prod.fst = table.units.map (·.name) ∧
    routing.participants =
      snapshot.interceptors.map (fun entry => .ofInterceptor entry.1 entry.2) ++
        snapshot.units.map (fun entry => .ofUnit entry.1 entry.2) ++
        (errorUnit.map ofErrorUnit).toList ∧
    ∀ journal : Journal,
      ((Begins routing.participants journal ∧
          routing.initAll journal = (.ok (), journal ++ routing.participants.map begun)) ∨
        ∃ tried failing fault, Breaks routing.participants journal tried failing fault ∧
          routing.initAll journal = (.error fault, journal ++ tried.map begun ++
            [failing.refused] ++ tried.reverse.map ended)) ∧
      routing.destroyAll journal = journal ++ routing.participants.reverse.map ended := by
  intro routing
  obtain ⟨units, interceptors⟩ := RegistrationTable.names_of_freeze frozen
  refine ⟨interceptors, units, rfl, fun journal => ?_⟩
  rw [routing.initAll_eq, routing.destroyAll_eq, stopAll_eq]
  refine ⟨?_, rfl⟩
  rcases begins_or_breaks routing.participants journal with
    begins | ⟨tried, failing, fault, breaks⟩
  · refine Or.inl ⟨begins, ?_⟩
    have whole := startFrom_of_begins begins [] []
    rw [List.append_nil] at whole
    exact whole
  · refine Or.inr ⟨tried, failing, fault, breaks, ?_⟩
    have undone := startFrom_of_breaks breaks []
    rw [List.append_nil] at undone
    exact undone

/-- A hall and a cellar, whose unit refuses to be initialised, behind a porter. -/
def household : RegistrationTable where
  units := [⟨"hall", .shared (clerk 1)⟩, ⟨"cellar", .shared Deployment.stubborn⟩]
  interceptors := [⟨"porter", .shared (doorman 3), .only .request⟩]

def householdSnapshot : Snapshot :=
  ⟨household, [("hall", clerk 1), ("cellar", Deployment.stubborn)], [("porter", doorman 3)]⟩

/-- The cellar refuses, so that the hall and then the porter are destroyed again, and the error
handler is never initialised. -/
theorem household_fails_in_cellar :
    let porter := ofInterceptor "porter" (doorman 3)
    let hall := ofUnit "hall" (clerk 1)
    let cellar := ofUnit "cellar" Deployment.stubborn
    let guide := ofErrorUnit (clerk 4)
    let routing := build householdSnapshot (some (clerk 4))
    household.freeze .none [] = (.ok householdSnapshot, []) ∧
      routing.initAll [] = (.error (.configuration "stubborn"),
        [porter.begun, hall.begun, cellar.refused, hall.ended, porter.ended]) ∧
      routing.destroyAll [] = [guide.ended, cellar.ended, hall.ended, porter.ended] := by
  intro porter hall cellar guide routing
  have frozen : household.freeze .none [] = (.ok householdSnapshot, []) := rfl
  obtain ⟨-, -, participants, outcome⟩ := initAll_in_order frozen (some (clerk 4))
  refine ⟨frozen, rfl, ?_⟩
  rw [(outcome []).2, participants]
  rfl

end RoutingTable

end RequestPipeline
