import RequestPipeline.Context.Call

/-!
# Life-cycle calls in steps

A call on a context as a sequence of steps, as requests on their way may see it: every object is
initialised in a step of its own, routing is exchanged in one, and every object is destroyed in
one.  What a call does before, between and after that is one step each.
-/

namespace RequestPipeline

/-- Something that a call has yet to do.  When an initialisation fails, what it undoes is
destroyed and the start is given up. -/
inductive Chore
  | init (participant : Participant) (undo : List Participant)
  | install (stage : Nat) (routing : RoutingTable)
  | withdraw (stage : Nat)
  | destroy (participant : Participant)
  | abort (failure : Error)
  | unlink (pipeline : Pipeline)

/-- A call under way, and what it answers unless a chore fails. -/
structure Job where
  chores : List Chore := []
  answer : Except Error Answer := .ok .done

/-- The stage whose routing the next chore exchanges, if it does. -/
def Job.exchanged (job : Job) : Option Nat :=
  match job.chores with
  | .install stage _ :: _ | .withdraw stage :: _ => some stage
  | _ => none

/-- What is left to do after a step of a start: the start is given up when it has failed. -/
def Job.after : Except Error (List Chore) → Job
  | .error e => { chores := [.abort e] }
  | .ok chores => { chores := chores }

namespace RoutingTable

/-- Initialises what the routing has, in three loops that undo what they and the loops before them
have done. -/
def initialization (routing : RoutingTable) : List Chore :=
  let interceptors := routing.interceptorParticipants
  let units := routing.unitParticipants
  interceptors.zipIdx.map (fun (interceptor, index) =>
      .init interceptor (interceptors.take index).reverse)
    ++ units.zipIdx.map (fun (unit, index) =>
      .init unit ((units.take index).reverse ++ interceptors.reverse))
    ++ routing.errorUnit.toList.map fun unit =>
      .init (.ofErrorUnit unit) (units.reverse ++ interceptors.reverse)

def destruction (routing : RoutingTable) : List Chore :=
  (routing.errorUnit.toList.map Participant.ofErrorUnit ++ routing.unitParticipants.reverse
    ++ routing.interceptorParticipants.reverse).map .destroy

end RoutingTable

namespace Host

def prepareRouting (host : Host) (index : Nat) (snapshot : Snapshot) :
    Except Error (List Chore) × Host :=
  match host.dispatches[index]? with
  | none => (.ok [], host)
  | some cell =>
      let noted := host.note (.stage (.dispatch index) .finalized) cell.stage.finalizeLine
      match cell.stage.finalize host.journal with
      | .error e => (.error e, noted)
      | .ok () =>
          let routing := RoutingTable.build snapshot cell.errorUnit
          (.ok (routing.initialization ++ [.install index routing]), noted)

/-- Puts new routing in place; the old one is to be destroyed. -/
def installRouting (host : Host) (index : Nat) (routing : RoutingTable) : List Chore × Host :=
  match host.dispatches[index]? with
  | none => ([], host)
  | some cell =>
      let placed := host.updateDispatch index fun cell => { cell with routing := some routing }
      match cell.routing with
      | none => ([], placed)
      | some previous => (previous.destruction, placed)

def withdrawRouting (host : Host) (index : Nat) : List Chore × Host :=
  match host.dispatches[index]? with
  | none => ([], host)
  | some cell =>
      let noted := host.note (.stage (.dispatch index) .cleared) cell.stage.clearLine
      match cell.routing with
      | none => ([], noted)
      | some routing =>
          (routing.destruction,
            noted.updateDispatch index fun cell => { cell with routing := none })

end Host

namespace Deployment

/-- The first step of completing a start: registrations are frozen, and what is left to do is to
route requests by them. -/
def prepare (deployment : Deployment) : Except Error (List Chore) × Deployment :=
  match deployment.freeze with
  | (.error e, deployment) => (.error e, deployment)
  | (.ok snapshot, deployment) =>
      match deployment.move "finish_start" .started with
      | (.error e, deployment) => (.error e, deployment)
      | (.ok (), deployment) =>
          match deployment.context.pipeline with
          | none => (.ok [], deployment)
          | some pipeline =>
              if deployment.host.isStarted pipeline.dispatch then
                let handled := deployment.host.setErrorHandler pipeline.dispatch
                  deployment.context.errorUnit
                let (result, host) := handled.prepareRouting pipeline.dispatch snapshot
                (result, { deployment with host := host })
              else (.ok [], deployment)

def begin (deployment : Deployment) : Call → Job × Deployment
  | .beginStart =>
      match deployment.move "begin_start" .starting with
      | (.error e, deployment) => (⟨[], .error e⟩, deployment)
      | (.ok (), deployment) =>
          let (result, deployment) := deployment.setUp
          (.after (result.map fun _ => []), deployment)
  | .finishStart =>
      match deployment.context.lifecycle.require "finish_start" [.starting] with
      | .error e => (⟨[], .error e⟩, deployment)
      | .ok () =>
          let (result, deployment) := deployment.prepare
          (.after result, deployment)
  | .finishStop =>
      match deployment.move "finish_stop" .stopped with
      | (.error e, deployment) => (⟨[], .error e⟩, deployment)
      | (.ok (), deployment) =>
          let context := { deployment.context with
            registrations := deployment.context.registrations.thaw }
          match context.pipeline with
          | none => ({}, { deployment with context := context })
          | some pipeline =>
              ({ chores := [.withdraw pipeline.dispatch, .unlink pipeline] },
                { deployment with context := { context with pipeline := none } })
  | call =>
      let (answer, deployment) := deployment.perform call
      (⟨[], answer⟩, deployment)

/-- Goes on with a call by one chore. -/
def proceed (deployment : Deployment) (job : Job) : Job × Deployment :=
  match job.chores with
  | [] => (job, deployment)
  | .init participant undo :: rest =>
      let (result, journal) := participant.start deployment.host.journal
      let chores := match result with
        | .ok () => rest
        | .error e => undo.map .destroy ++ [.abort e]
      ({ job with chores := chores },
        { deployment with host := { deployment.host with journal := journal } })
  | .install stage routing :: rest =>
      let (chores, host) := deployment.host.installRouting stage routing
      ({ job with chores := chores ++ rest }, { deployment with host := host })
  | .withdraw stage :: rest =>
      let (chores, host) := deployment.host.withdrawRouting stage
      ({ job with chores := chores ++ rest }, { deployment with host := host })
  | .destroy participant :: rest =>
      let journal := participant.stop deployment.host.journal
      ({ job with chores := rest },
        { deployment with host := { deployment.host with journal := journal } })
  | .abort e :: rest =>
      let (lifecycle, journal) := deployment.context.lifecycle.fail deployment.host.journal
      let context := { deployment.context with lifecycle := lifecycle }
      let host := { deployment.host with journal := journal }
      match context.pipeline with
      | none => (⟨rest, .error e⟩, { context := context, host := host })
      | some pipeline =>
          (⟨.withdraw pipeline.dispatch :: .unlink pipeline :: rest, .error e⟩,
            { context := { context with pipeline := none }, host := pipeline.stopAll host })
  | .unlink pipeline :: rest =>
      ({ job with chores := rest },
        { deployment with host := pipeline.unlink deployment.host })

end Deployment

end RequestPipeline
