import RequestPipeline.Context.Registering

/-!
# Deployments

A context together with the host it lives on, and the calls that work on both: asking for stages,
starting and stopping.
-/

namespace RequestPipeline

structure Deployment where
  context : Context
  host : Host := {}

namespace Deployment

def move (deployment : Deployment) (operation : String) (target : LifecycleState) :
    Except Error Unit × Deployment :=
  let (result, lifecycle, journal) :=
    deployment.context.lifecycle.move operation target deployment.host.journal
  (result, {
    context := { deployment.context with lifecycle := lifecycle }
    host := { deployment.host with journal := journal } })

def sessionStage (deployment : Deployment) : Except Error (Option Nat) × Deployment :=
  let context := deployment.context
  let (result, slot, host) := context.session.getOrCreate (context.options.enables .session)
    context.state context.factory.createSession deployment.host
  (result, { context := { context with session := slot }, host := host })

def securityStage (deployment : Deployment) : Except Error (Option Nat) × Deployment :=
  let context := deployment.context
  let (result, slot, host) := context.security.getOrCreate (context.options.enables .security)
    context.state context.factory.createSecurity deployment.host
  (result, { context := { context with security := slot }, host := host })

def dispatchStage (deployment : Deployment) : Except Error (Option Nat) × Deployment :=
  let context := deployment.context
  let (result, slot, host) := context.dispatch.getOrCreate (context.options.enables .dispatch)
    context.state context.factory.createDispatch deployment.host
  (result, { context := { context with dispatch := slot }, host := host })

def install (deployment : Deployment) (pipeline : Pipeline) : Except Error Unit × Deployment :=
  let (result, host) := pipeline.startAll (pipeline.assemble deployment.host)
  (result, { context := { deployment.context with pipeline := some pipeline }, host := host })

def installPipeline (deployment : Deployment) : Except Error Unit × Deployment :=
  match deployment.sessionStage with
  | (.error e, deployment) => (.error e, deployment)
  | (.ok session, deployment) =>
      match deployment.securityStage with
      | (.error e, deployment) => (.error e, deployment)
      | (.ok security, deployment) =>
          match deployment.dispatchStage with
          | (.error e, deployment) => (.error e, deployment)
          | (.ok none, deployment) =>
              (.error (.configuration "no dispatch stage available"), deployment)
          | (.ok (some dispatch), deployment) =>
              deployment.install ⟨session, security, dispatch⟩

def runHooks (deployment : Deployment) : Except Error Unit × Deployment :=
  let context := deployment.context
  if context.startupHooks.isEmpty then (.ok (), deployment)
  else
    match context.registrations.openFor "begin_start" context.state with
    | .error e => (.error e, deployment)
    | .ok table =>
        let (result, table, journal) :=
          runStartupHooks context.name context.startupHooks table deployment.host.journal
        (result, {
          context := context.withTable table
          host := { deployment.host with journal := journal } })

/-- Fails the context and takes its pipeline down. -/
def abortStart (deployment : Deployment) : Deployment :=
  let (lifecycle, journal) := deployment.context.lifecycle.fail deployment.host.journal
  let context := { deployment.context with lifecycle := lifecycle }
  let host := { deployment.host with journal := journal }
  match context.pipeline with
  | none => { context := context, host := host }
  | some pipeline =>
      { context := { context with pipeline := none }
        host := pipeline.unlink ((pipeline.stopAll host).clearRouting pipeline.dispatch) }

def orAbort (step : Except Error Unit × Deployment) : Except Error Unit × Deployment :=
  match step with
  | (.ok (), deployment) => (.ok (), deployment)
  | (.error e, deployment) => (.error e, deployment.abortStart)

def setUp (deployment : Deployment) : Except Error Unit × Deployment :=
  match deployment.installPipeline with
  | (.error e, deployment) => (.error e, deployment)
  | (.ok (), deployment) => deployment.runHooks

/-- Begins a start: stages are made, linked and started, and the startup hooks run. -/
def beginStart (deployment : Deployment) : Except Error Unit × Deployment :=
  match deployment.move "begin_start" .starting with
  | (.error e, deployment) => (.error e, deployment)
  | (.ok (), deployment) => orAbort deployment.setUp

/-- Routes requests by a snapshot, if the installed dispatch stage is started. -/
def routeBy (deployment : Deployment) (snapshot : Snapshot) : Except Error Unit × Deployment :=
  match deployment.context.pipeline with
  | none => (.ok (), deployment)
  | some pipeline =>
      if deployment.host.isStarted pipeline.dispatch then
        let prepared :=
          deployment.host.setErrorHandler pipeline.dispatch deployment.context.errorUnit
        let (result, host) := prepared.finalizeRouting pipeline.dispatch snapshot
        (result, { deployment with host := host })
      else (.ok (), deployment)

def freeze (deployment : Deployment) : Except Error Snapshot × Deployment :=
  let (result, registrations, journal) :=
    deployment.context.registrations.freeze deployment.context.loader deployment.host.journal
  (result, {
    context := { deployment.context with registrations := registrations }
    host := { deployment.host with journal := journal } })

def complete (deployment : Deployment) : Except Error Unit × Deployment :=
  match deployment.freeze with
  | (.error e, deployment) => (.error e, deployment)
  | (.ok snapshot, deployment) =>
      match deployment.move "finish_start" .started with
      | (.error e, deployment) => (.error e, deployment)
      | (.ok (), deployment) => deployment.routeBy snapshot

/-- Completes a start: registrations are frozen and requests are routed. -/
def finishStart (deployment : Deployment) : Except Error Unit × Deployment :=
  match deployment.context.lifecycle.require "finish_start" [.starting] with
  | .error e => (.error e, deployment)
  | .ok () => orAbort deployment.complete

/-- Begins a stop: the shutdown hooks run and the stages are stopped. -/
def beginStop (deployment : Deployment) : Except Error Unit × Deployment :=
  match deployment.move "begin_stop" .stopping with
  | (.error e, deployment) => (.error e, deployment)
  | (.ok (), deployment) =>
      let host := { deployment.host with
        journal := runShutdownHooks deployment.context.shutdownHooks deployment.host.journal }
      match deployment.context.pipeline with
      | none => (.ok (), { deployment with host := host })
      | some pipeline => (.ok (), { deployment with host := pipeline.stopAll host })

/-- Completes a stop: routing is cleared, the pipeline taken down, and registrations are open
again. -/
def finishStop (deployment : Deployment) : Except Error Unit × Deployment :=
  match deployment.move "finish_stop" .stopped with
  | (.error e, deployment) => (.error e, deployment)
  | (.ok (), deployment) =>
      let context := { deployment.context with
        registrations := deployment.context.registrations.thaw }
      match context.pipeline with
      | none => (.ok (), { deployment with context := context })
      | some pipeline =>
          (.ok (), {
            context := { context with pipeline := none }
            host := pipeline.unlink (deployment.host.clearRouting pipeline.dispatch) })

def handle (deployment : Deployment) (request : Request) : Response × Deployment :=
  let (response, host) := deployment.context.handle request deployment.host
  (response, { deployment with host := host })

end Deployment

end RequestPipeline
