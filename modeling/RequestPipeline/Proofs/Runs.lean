import RequestPipeline.Proofs.Steps

/-!
# Runs

Every call on a context is one of a few steps.  What each of them keeps holds after every run,
whatever the calls are and whatever they give back.
-/

namespace RequestPipeline

/-- Whether a call moves the life cycle. -/
def Call.isMove : Call → Bool
  | .beginStart | .finishStart | .beginStop | .finishStop => true
  | _ => false

def Call.isRegistration : Call → Bool
  | .addUnit .. | .addInterceptor .. | .registerUnit .. | .registerInterceptor .. | .mapUnit ..
  | .mapInterceptorToUnits .. => true
  | _ => false

namespace Context

/-- No start has been tried and nothing is registered.  Options, factory, class loader, error
handler, hooks and stages are as the application has chosen them. -/
structure IsNew (context : Context) : Prop where
  state : context.state = .uninitialized
  registrations : context.registrations = .empty
  pipeline : context.pipeline = none

theorem isNew_withOptions (options : PipelineOptions) : (withOptions options).IsNew where
  state := rfl
  registrations := rfl
  pipeline := rfl

/-- An accepted setter leaves the life cycle and the pipeline alone, and the registrations as they
are or empty. -/
structure Reconfigures (before after : Context) : Prop where
  allowed : before.state ∈ configurable
  state : after.state = before.state
  pipeline : after.pipeline = before.pipeline
  registrations : after.registrations = before.registrations ∨ after.registrations = .empty

/-- A setter is refused or replaces one field. -/
theorem reconfigures_of_set {context after changed : Context} {operation : String}
    (set : (match context.lifecycle.require operation configurable with
      | .error e => Except.error e
      | .ok () => Except.ok changed) = Except.ok after)
    (state : changed.state = context.state) (pipeline : changed.pipeline = context.pipeline)
    (registrations : changed.registrations = context.registrations ∨
      changed.registrations = .empty) : context.Reconfigures after := by
  split at set
  · cases set
  · next accepted =>
      rw [← Except.ok.inj set]
      exact ⟨require_ok_iff.mp accepted, state, pipeline, registrations⟩

end Context

namespace Deployment

/-- What a call may come to. -/
inductive Step (deployment : Deployment) : Deployment → Prop
  | same : Step deployment deployment
  | reconfigured {context : Context} (reconfigures : deployment.context.Reconfigures context) :
      Step deployment { deployment with context := context }
  | registered {context : Context} (registers : deployment.context.Registers context) :
      Step deployment { deployment with context := context }
  | fetched {kind : StageKind} {result : Except Error (Option Nat)} {after : Deployment}
      (fetch : deployment.Fetch kind result after) : Step deployment after
  | kept (key : String) (dispatcher : NamedDispatcher) :
      Step deployment { deployment with host := deployment.host.keepDispatcher key dispatcher }
  | served {host : Host} (serves : deployment.host.Serves host) :
      Step deployment { deployment with host := host }
  | startBegun {result : Except Error Unit} {after : Deployment}
      (begins : deployment.BeginStart result after) : Step deployment after
  | startFinished {result : Except Error Unit} {after : Deployment}
      (finishes : deployment.FinishStart result after) : Step deployment after
  | stopBegun {result : Except Error Unit} {after : Deployment}
      (begins : deployment.BeginStop result after) : Step deployment after
  | stopFinished {result : Except Error Unit} {after : Deployment}
      (finishes : deployment.FinishStop result after) : Step deployment after

/-- What a call comes to that leaves the life cycle alone. -/
inductive Aside (deployment : Deployment) : Deployment → Prop
  | same : Aside deployment deployment
  | reconfigured {context : Context} (reconfigures : deployment.context.Reconfigures context) :
      Aside deployment { deployment with context := context }
  | registered {context : Context} (registers : deployment.context.Registers context) :
      Aside deployment { deployment with context := context }
  | fetched {kind : StageKind} {result : Except Error (Option Nat)} {after : Deployment}
      (fetch : deployment.Fetch kind result after) : Aside deployment after
  | kept (key : String) (dispatcher : NamedDispatcher) :
      Aside deployment { deployment with host := deployment.host.keepDispatcher key dispatcher }
  | served {host : Host} (serves : deployment.host.Serves host) :
      Aside deployment { deployment with host := host }

theorem Aside.step {before after : Deployment} (aside : before.Aside after) :
    before.Step after := by
  cases aside with
  | same => exact .same
  | reconfigured reconfigures => exact .reconfigured reconfigures
  | registered registers => exact .registered registers
  | fetched fetch => exact .fetched fetch
  | kept key dispatcher => exact .kept key dispatcher
  | served serves => exact .served serves

theorem settle_aside {deployment : Deployment} {result : Except Error Context}
    (reconfigures : ∀ context, result = .ok context → deployment.context.Reconfigures context) :
    deployment.Aside (deployment.settle result).2 := by
  cases result with
  | error e => exact .same
  | ok context => exact .reconfigured (reconfigures context rfl)

theorem settleWith_aside {α : Type} {deployment : Deployment} {answer : α → Answer}
    {result : Except Error (α × Context)}
    (registers : ∀ a context, result = .ok (a, context) →
      deployment.context.Registers context) :
    deployment.Aside (deployment.settleWith answer result).2 := by
  cases result with
  | error e => exact .same
  | ok pair => exact .registered (registers pair.1 pair.2 rfl)

/-- A setter keeps the part of a context that it does not replace. -/
theorem settle_set_part {β : Type} (part : Context → β) {deployment : Deployment}
    {operation : String} {changed : Context} (kept : part changed = part deployment.context) :
    part (deployment.settle (match deployment.context.lifecycle.require operation
        Context.configurable with
      | .error e => Except.error e
      | .ok () => Except.ok changed)).2.context = part deployment.context := by
  split
  · rfl
  · exact kept

theorem settleWith_part {α β : Type} (part : Context → β)
    (kept : ∀ context table, part (context.withTable table) = part context)
    {deployment : Deployment} {answer : α → Answer} {result : Except Error (α × Context)}
    (registers : ∀ a context, result = .ok (a, context) →
      deployment.context.Registers context) :
    part (deployment.settleWith answer result).2.context = part deployment.context := by
  cases result with
  | error e => rfl
  | ok pair =>
      obtain ⟨-, table, grown, -, -, same⟩ := registers pair.1 pair.2 rfl
      exact (congrArg part same).trans (kept _ grown)

open Context in
/-- A registration keeps the part of a context that does not depend on the table. -/
theorem perform_registration_part {β : Type} (part : Context → β)
    (kept : ∀ context table, part (context.withTable table) = part context)
    (deployment : Deployment) {call : Call} (registers : call.isRegistration = true) :
    part (deployment.perform call).2.context = part deployment.context := by
  cases call with
  | addUnit binding pattern =>
      exact settleWith_part part kept fun _ _ added => addUnit_registers added
  | addInterceptor binding pattern phases =>
      exact settleWith_part part kept fun _ _ added => addInterceptor_registers added
  | registerUnit name binding calls =>
      exact settleWith_part part kept fun _ _ registered => registerUnit_registers registered
  | registerInterceptor name binding phases calls =>
      exact settleWith_part part kept fun _ _ registered => registerInterceptor_registers registered
  | mapUnit name patterns =>
      exact settleWith_part part kept fun _ _ mapped => mapUnit_registers mapped
  | mapInterceptorToUnits name phases after units =>
      exact settleWith_part part kept fun _ _ mapped => mapInterceptorToUnits_registers mapped
  | _ => cases registers

open Context in
theorem perform_aside (deployment : Deployment) {call : Call} (resting : call.isMove = false) :
    deployment.Aside (deployment.perform call).2 := by
  cases call with
  | beginStart => cases resting
  | finishStart => cases resting
  | beginStop => cases resting
  | finishStop => cases resting
  | sessionStage => exact .fetched (deployment.fetch_spec .session)
  | securityStage => exact .fetched (deployment.fetch_spec .security)
  | dispatchStage => exact .fetched (deployment.fetch_spec .dispatch)
  | setSessionStage stage =>
      exact settle_aside fun _ set => reconfigures_of_set set rfl rfl (Or.inl rfl)
  | setSecurityStage stage =>
      exact settle_aside fun _ set => reconfigures_of_set set rfl rfl (Or.inl rfl)
  | setDispatchStage stage =>
      exact settle_aside fun _ set => reconfigures_of_set set rfl rfl (Or.inl rfl)
  | setStageFactory factory =>
      exact settle_aside fun _ set => reconfigures_of_set set rfl rfl (Or.inl rfl)
  | setErrorHandler unit =>
      exact settle_aside fun _ set => reconfigures_of_set set rfl rfl (Or.inl rfl)
  | clearRegistrations =>
      exact settle_aside fun _ set => reconfigures_of_set set rfl rfl (Or.inr rfl)
  | addUnit binding pattern => exact settleWith_aside fun _ _ added => addUnit_registers added
  | addInterceptor binding pattern phases =>
      exact settleWith_aside fun _ _ added => addInterceptor_registers added
  | registerUnit name binding calls =>
      exact settleWith_aside fun _ _ registered => registerUnit_registers registered
  | registerInterceptor name binding phases calls =>
      exact settleWith_aside fun _ _ registered => registerInterceptor_registers registered
  | mapUnit name patterns => exact settleWith_aside fun _ _ mapped => mapUnit_registers mapped
  | mapInterceptorToUnits name phases after units =>
      exact settleWith_aside fun _ _ mapped => mapInterceptorToUnits_registers mapped
  | resolveDispatcher name => exact .same
  | keepDispatcher key dispatcher => exact .kept key dispatcher
  | callNamed dispatcher mode request =>
      exact .served (Host.callNamed_gentle dispatcher mode request deployment.host)
  | serve request => exact .served (deployment.context.handle_serves request deployment.host)
  | serveFrom head request => exact .served (deployment.host.handle_serves head request)

theorem perform_step (deployment : Deployment) (call : Call) :
    deployment.Step (deployment.perform call).2 := by
  cases moves : call.isMove with
  | false => exact (deployment.perform_aside moves).step
  | true =>
      cases call with
      | beginStart => exact .startBegun deployment.beginStart_spec
      | finishStart => exact .startFinished deployment.finishStart_spec
      | beginStop => exact .stopBegun deployment.beginStop_spec
      | finishStop => exact .stopFinished deployment.finishStop_spec
      | _ => cases moves

/-- What holds at first and is kept by every step holds after every run. -/
theorem runCalls_keeps {Holds : Deployment → Prop}
    (keeps : ∀ {before after : Deployment}, before.Step after → Holds before → Holds after)
    (calls : List Call) {deployment : Deployment} (holds : Holds deployment) :
    Holds (deployment.runCalls calls) := by
  induction calls generalizing deployment with
  | nil => exact holds
  | cons call rest ih => exact ih (keeps (deployment.perform_step call) holds)

end Deployment

end RequestPipeline
