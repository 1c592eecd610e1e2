import Mathlib.Logic.Function.Iterate
import RequestPipeline.Context.Job
import RequestPipeline.Proofs.InitLoops

/-!
# Uninterrupted calls

A call whose chores follow one another with nothing in between answers as it does when it is
carried out at once, and leaves the same deployment behind.
-/

namespace RequestPipeline

/-! ## The chores of a routing -/

/-- Initialises participants one after the other; `done` are those initialised so far. -/
def initializeFrom (done : List Participant) : List Participant → List Chore
  | [] => []
  | participant :: rest =>
      .init participant done :: initializeFrom (participant :: done) rest

theorem initializeFrom_append (done first later : List Participant) :
    initializeFrom done (first ++ later) =
      initializeFrom done first ++ initializeFrom (first.reverse ++ done) later := by
  induction first generalizing done with
  | nil => rfl
  | cons participant rest ih =>
      rw [List.cons_append, initializeFrom, initializeFrom, ih, List.reverse_cons,
        List.append_assoc]
      rfl

/-- A loop that finds what to undo by position. -/
theorem initializeEach_eq {whole : List Participant} (before tried rest : List Participant)
    (split : whole = tried ++ rest) :
    (rest.zipIdx tried.length).map (fun (participant, index) =>
        Chore.init participant ((whole.take index).reverse ++ before)) =
      initializeFrom (tried.reverse ++ before) rest := by
  induction rest generalizing tried with
  | nil => rfl
  | cons participant rest ih =>
      have further := ih (tried ++ [participant]) (by rw [split, List.append_cons])
      rw [List.length_append, List.reverse_append] at further
      rw [List.zipIdx_cons, List.map_cons, initializeFrom]
      refine List.cons_eq_cons.mpr ⟨?_, further⟩
      dsimp only
      rw [split, List.take_left]

namespace RoutingTable

theorem initialization_eq (routing : RoutingTable) :
    routing.initialization = initializeFrom [] routing.participants := by
  have interceptors := initializeEach_eq [] [] routing.interceptorParticipants rfl
  have units := initializeEach_eq routing.interceptorParticipants.reverse []
    routing.unitParticipants rfl
  simp only [List.append_nil] at interceptors
  change _ = initializeFrom []
    (routing.interceptorParticipants ++ routing.unitParticipants ++ _)
  rw [initializeFrom_append, initializeFrom_append, List.append_nil, List.append_nil,
    List.reverse_append, initialization]
  refine congrArg₂ (· ++ ·) (congrArg₂ (· ++ ·) interceptors units) ?_
  cases routing.errorUnit <;> rfl

theorem destruction_eq (routing : RoutingTable) :
    routing.destruction = routing.participants.reverse.map .destroy := by
  rw [destruction, participants, List.reverse_append, List.reverse_append]
  cases routing.errorUnit <;> simp [unitParticipants, interceptorParticipants]

end RoutingTable

namespace Deployment

def proceeded (reached : Job × Deployment) : Job × Deployment := reached.2.proceed reached.1

/-- Chore after chore, a call comes from one point to another. -/
def Leads (before after : Job × Deployment) : Prop := ∃ steps, proceeded^[steps] before = after

theorem Leads.refl (reached : Job × Deployment) : Leads reached reached := ⟨0, rfl⟩

theorem Leads.head {before middle after : Job × Deployment} (step : proceeded before = middle)
    (leads : Leads middle after) : Leads before after := by
  obtain ⟨steps, reached⟩ := leads
  refine ⟨steps + 1, ?_⟩
  rw [Function.iterate_succ_apply, step, reached]

theorem Leads.trans {before middle after : Job × Deployment} (first : Leads before middle)
    (second : Leads middle after) : Leads before after := by
  obtain ⟨steps, rfl⟩ := first
  obtain ⟨more, reached⟩ := second
  refine ⟨more + steps, ?_⟩
  rw [Function.iterate_add_apply, reached]

variable {deployment : Deployment} {answer : Except Error Answer} {rest : List Chore}

/-! ## Chores at a stretch -/

def withHost (deployment : Deployment) (host : Host) : Deployment :=
  { deployment with host := host }

def withJournal (deployment : Deployment) (journal : Journal) : Deployment :=
  deployment.withHost { deployment.host with journal := journal }

theorem leads_destroy (participants : List Participant) (deployment : Deployment) :
    Leads (⟨participants.map .destroy ++ rest, answer⟩, deployment) (⟨rest, answer⟩,
      deployment.withJournal (Participant.stopAll participants deployment.host.journal)) := by
  induction participants generalizing deployment with
  | nil => exact .refl _
  | cons participant participants ih => exact .head rfl (ih _)

/-- Initialising passes on to what comes after it, or to giving the start up. -/
theorem leads_init (done participants : List Participant) (deployment : Deployment) :
    Leads (⟨initializeFrom done participants ++ rest, answer⟩, deployment)
      (match Participant.startFrom done participants deployment.host.journal with
        | (.ok (), journal) => (⟨rest, answer⟩, deployment.withJournal journal)
        | (.error e, journal) => (⟨[.abort e], answer⟩, deployment.withJournal journal)) := by
  induction participants generalizing done deployment with
  | nil => exact .refl _
  | cons participant participants ih =>
      rw [initializeFrom, Participant.startFrom]
      cases started : participant.start deployment.host.journal with
      | mk outcome journal =>
        cases outcome with
        | ok accepted =>
            refine .head ?_ (ih (participant :: done) (deployment.withJournal journal))
            simp only [proceeded, proceed, List.cons_append, started]
            rfl
        | error e =>
            refine .head ?_ (leads_destroy done (deployment.withJournal journal))
            simp only [proceeded, proceed, List.cons_append, started]
            rfl

theorem leads_install (index : Nat) (routing : RoutingTable) (deployment : Deployment) :
    Leads (⟨.install index routing :: rest, answer⟩, deployment) (⟨rest, answer⟩,
      deployment.withHost (deployment.host.replaceRouting index routing)) := by
  unfold Host.replaceRouting
  cases found : deployment.host.dispatches[index]? with
  | none =>
      refine .head ?_ (.refl _)
      simp only [proceeded, proceed, Host.installRouting, found]
      rfl
  | some cell =>
      cases held : cell.routing with
      | none =>
          refine .head ?_ (.refl _)
          simp only [proceeded, proceed, Host.installRouting, found, held]
          rfl
      | some previous =>
          simp only [held, previous.destroyAll_eq]
          refine .head ?_ (leads_destroy previous.participants.reverse
            (deployment.withHost (deployment.host.updateDispatch index fun cell =>
              { cell with routing := some routing })))
          simp only [proceeded, proceed, Host.installRouting, found, held,
            previous.destruction_eq]
          rfl

theorem leads_withdraw (index : Nat) (deployment : Deployment) :
    Leads (⟨.withdraw index :: rest, answer⟩, deployment) (⟨rest, answer⟩,
      deployment.withHost (deployment.host.clearRouting index)) := by
  unfold Host.clearRouting
  cases found : deployment.host.dispatches[index]? with
  | none =>
      refine .head ?_ (.refl _)
      simp only [proceeded, proceed, Host.withdrawRouting, found]
      rfl
  | some cell =>
      cases held : cell.routing with
      | none =>
          refine .head ?_ (.refl _)
          simp only [proceeded, proceed, Host.withdrawRouting, found, held]
          rfl
      | some routing =>
          simp only [held, routing.destroyAll_eq]
          refine .head ?_ (leads_destroy routing.participants.reverse
            (deployment.withHost ((deployment.host.note (.stage (.dispatch index) .cleared)
              cell.stage.clearLine).updateDispatch index fun cell =>
                { cell with routing := none })))
          simp only [proceeded, proceed, Host.withdrawRouting, found, held,
            routing.destruction_eq]
          rfl

theorem leads_takeDown (pipeline : Pipeline) (deployment : Deployment) :
    Leads (⟨[.withdraw pipeline.dispatch, .unlink pipeline], answer⟩, deployment) (⟨[], answer⟩,
      deployment.withHost (pipeline.unlink (deployment.host.clearRouting pipeline.dispatch))) :=
  (leads_withdraw pipeline.dispatch deployment).trans (.head rfl (.refl _))

theorem leads_abort (e : Error) (deployment : Deployment) :
    Leads (⟨[.abort e], answer⟩, deployment) (⟨[], .error e⟩, deployment.abortStart) := by
  cases installed : deployment.context.pipeline with
  | none =>
      refine .head ?_ (.refl _)
      simp only [proceeded, proceed, abortStart, installed]
  | some pipeline =>
      let failed := deployment.context.lifecycle.fail deployment.host.journal
      let stopped : Deployment :=
        ⟨{ deployment.context with lifecycle := failed.1, pipeline := none },
          pipeline.stopAll { deployment.host with journal := failed.2 }⟩
      have first : proceeded (⟨[.abort e], answer⟩, deployment) =
          (⟨[.withdraw pipeline.dispatch, .unlink pipeline], .error e⟩, stopped) := by
        simp only [proceeded, proceed, installed]
        rfl
      have last : deployment.abortStart = stopped.withHost
          (pipeline.unlink (stopped.host.clearRouting pipeline.dispatch)) := by
        simp only [abortStart, installed]
        rfl
      rw [last]
      exact .head first (leads_takeDown pipeline stopped)

/-! ## Whole calls -/

/-- A step that may fail, with nothing left to do for it. -/
def stepped (step : Except Error Unit × Deployment) : Job × Deployment :=
  (.after (step.1.map fun _ => []), step.2)

theorem leads_orAbort (step : Except Error Unit × Deployment) :
    Leads (stepped step) (⟨[], (settleMove (orAbort step)).1⟩, (settleMove (orAbort step)).2) := by
  obtain ⟨outcome, reached⟩ := step
  cases outcome with
  | ok accepted => exact .refl _
  | error e => exact leads_abort e reached

/-- Routing by a snapshot, from what is left of it once it has been prepared. -/
theorem leads_finalizeRouting (index : Nat) (snapshot : Snapshot) (deployment : Deployment) :
    let prepared := deployment.host.prepareRouting index snapshot
    let finalized := deployment.host.finalizeRouting index snapshot
    Leads (.after prepared.1, deployment.withHost prepared.2)
      (stepped (finalized.1, deployment.withHost finalized.2)) := by
  unfold Host.prepareRouting Host.finalizeRouting
  cases deployment.host.dispatches[index]? with
  | none => exact .refl _
  | some cell =>
      dsimp only
      cases cell.stage.finalize deployment.host.journal with
      | error e => exact .refl _
      | ok accepted =>
          dsimp only [Job.after]
          rw [RoutingTable.initialization_eq, RoutingTable.initAll_eq]
          refine (leads_init [] _ _).trans ?_
          dsimp only [withHost]
          cases Participant.startFrom [] _ _ with
          | mk outcome journal =>
            cases outcome with
            | error e => exact .refl _
            | ok accepted => exact leads_install index _ _

/-- A start that has been prepared is completed by the chores that are left. -/
theorem leads_complete (deployment : Deployment) :
    Leads (.after deployment.prepare.1, deployment.prepare.2) (stepped deployment.complete) := by
  unfold prepare complete
  cases deployment.freeze with
  | mk outcome frozen =>
  cases outcome with
  | error e => exact .refl _
  | ok snapshot =>
  dsimp only
  cases frozen.move "finish_start" .started with
  | mk outcome moved =>
  cases outcome with
  | error e => exact .refl _
  | ok accepted =>
  dsimp only
  unfold routeBy
  cases moved.context.pipeline with
  | none => exact .refl _
  | some pipeline =>
  by_cases started : moved.host.isStarted pipeline.dispatch
  · simp only [started, if_true]
    exact leads_finalizeRouting pipeline.dispatch snapshot (moved.withHost
      (moved.host.setErrorHandler pipeline.dispatch moved.context.errorUnit))
  · simp only [started]
    exact .refl _

/-- A call that is begun and carried on to its end comes to what it does at once. -/
theorem leads_begin (deployment : Deployment) (call : Call) :
    Leads (deployment.begin call)
      (⟨[], (deployment.perform call).1⟩, (deployment.perform call).2) := by
  cases call with
  | beginStart =>
      simp only [begin, perform, beginStart]
      cases deployment.move "begin_start" .starting with
      | mk outcome moved =>
      cases outcome with
      | error e => exact .refl _
      | ok accepted => exact leads_orAbort moved.setUp
  | finishStart =>
      simp only [begin, perform, finishStart]
      cases deployment.context.lifecycle.require "finish_start" [.starting] with
      | error e => exact .refl _
      | ok accepted => exact deployment.leads_complete.trans (leads_orAbort deployment.complete)
  | finishStop =>
      simp only [begin, perform, finishStop]
      cases deployment.move "finish_stop" .stopped with
      | mk outcome moved =>
      cases outcome with
      | error e => exact .refl _
      | ok accepted =>
      dsimp only
      cases moved.context.pipeline with
      | none => exact .refl _
      | some pipeline => exact leads_takeDown pipeline _
  | _ => exact .refl _

end Deployment

end RequestPipeline
