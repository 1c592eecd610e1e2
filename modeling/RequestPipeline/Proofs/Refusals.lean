import RequestPipeline.Proofs.Accounts

/-!
# Refused calls

Registering, mapping, setting, clearing and the four life-cycle calls ask for the state before
anything else.  A call that comes at the wrong time is refused under its own name, and a
registration or a setting that is refused for whatever reason has changed nothing.
-/

namespace RequestPipeline

namespace Call

/-- Whether a call begins or completes a start, and so may fail after it has been admitted. -/
def isStart : Call → Bool
  | .beginStart | .finishStart => true
  | _ => false

/-- The operation under which a call is refused, and the states that admit it.  Getters, requests
and dispatchers are not asked for the state. -/
def gate? : Call → Option (String × List LifecycleState)
  | .beginStart => some ("begin_start", Context.configurable)
  | .finishStart => some ("finish_start", [.starting])
  | .beginStop => some ("begin_stop", [.started])
  | .finishStop => some ("finish_stop", [.stopping])
  | .setSessionStage _ => some ("set_session_stage", Context.configurable)
  | .setSecurityStage _ => some ("set_security_stage", Context.configurable)
  | .setDispatchStage _ => some ("set_dispatch_stage", Context.configurable)
  | .setStageFactory _ => some ("set_stage_factory", Context.configurable)
  | .setErrorHandler _ => some ("set_error_handler", Context.configurable)
  | .clearRegistrations => some ("clear_registrations", Context.configurable)
  | call => call.admission?

/-- A failed context admits no call that asks for the state. -/
theorem failed_not_mem_of_gate {call : Call} {operation : String}
    {allowed : List LifecycleState} (gated : call.gate? = some (operation, allowed)) :
    LifecycleState.failed ∉ allowed := by
  cases call <;> cases gated <;> decide

end Call

theorem canMoveTo_starting_iff (state : LifecycleState) :
    state.canMoveTo .starting = true ↔ state ∈ Context.configurable := by
  cases state <;> decide

/-! ## Registrations are made as a whole -/

namespace RegistrationTable

variable {table after : RegistrationTable} {name : String} {e : Error}

end RegistrationTable

namespace Deployment

variable {deployment before after : Deployment}

/-! ## Refusals that change nothing -/

theorem settle_error {result : Except Error Context} {e : Error}
    (refused : (deployment.settle result).1 = .error e) :
    (deployment.settle result).2 = deployment := by
  cases result with
  | error fault => rfl
  | ok context => cases refused

theorem settleMove_error_iff {step : Except Error Unit × Deployment} {e : Error} :
    (settleMove step).1 = .error e ↔ step.1 = .error e := by
  obtain ⟨result, reached⟩ := step
  cases result <;> simp [settleMove, Except.map]

theorem settleWith_error {α : Type} {answer : α → Answer}
    {result : Except Error (α × Context)} {e : Error}
    (refused : (deployment.settleWith answer result).1 = .error e) :
    (deployment.settleWith answer result).2 = deployment := by
  cases result with
  | error fault => rfl
  | ok pair => cases refused

theorem beginStop_error {e : Error} (refused : deployment.beginStop.1 = .error e) :
    deployment.beginStop =
        (.error (.illegalState "begin_stop" deployment.context.state), deployment) ∧
      deployment.context.state ≠ .started := by
  have spec := deployment.beginStop_spec
  generalize deployment.beginStop = outcome at spec refused ⊢
  obtain ⟨result, reached⟩ := outcome
  dsimp only at spec refused
  cases spec with
  | barred barred => exact ⟨rfl, barred⟩
  | bare started bare rests kept => cases refused
  | begun started installed rests kept => cases refused

theorem finishStop_error {e : Error} (refused : deployment.finishStop.1 = .error e) :
    deployment.finishStop =
        (.error (.illegalState "finish_stop" deployment.context.state), deployment) ∧
      deployment.context.state ≠ .stopping := by
  have spec := deployment.finishStop_spec
  generalize deployment.finishStop = outcome at spec refused ⊢
  obtain ⟨result, reached⟩ := outcome
  dsimp only at spec refused
  cases spec with
  | barred barred => exact ⟨rfl, barred⟩
  | bare stopping bare => cases refused
  | finished stopping installed => cases refused

/-- Only a start can fail after it has been admitted: every other call that asks for the state and
is refused, for whatever reason, leaves everything as it was. -/
theorem perform_error_keeps {call : Call} {gate : String × List LifecycleState}
    (gated : call.gate? = some gate) (prompt : call.isStart = false) {e : Error}
    (refused : (deployment.perform call).1 = .error e) :
    (deployment.perform call).2 = deployment := by
  cases call with
  | beginStart => cases prompt
  | finishStart => cases prompt
  | beginStop =>
      exact congrArg Prod.snd (beginStop_error (settleMove_error_iff.mp refused)).1
  | finishStop =>
      exact congrArg Prod.snd (finishStop_error (settleMove_error_iff.mp refused)).1
  | setSessionStage stage => exact settle_error refused
  | setSecurityStage stage => exact settle_error refused
  | setDispatchStage stage => exact settle_error refused
  | setStageFactory factory => exact settle_error refused
  | setErrorHandler unit => exact settle_error refused
  | clearRegistrations => exact settle_error refused
  | addUnit binding pattern => exact settleWith_error refused
  | addInterceptor binding pattern phases => exact settleWith_error refused
  | registerUnit name binding calls => exact settleWith_error refused
  | registerInterceptor name binding phases calls => exact settleWith_error refused
  | mapUnit name patterns => exact settleWith_error refused
  | mapInterceptorToUnits name phases after units => exact settleWith_error refused
  | _ => cases gated

theorem settleMove_refused_iff {step : Except Error Unit × Deployment} {e : Error} :
    settleMove step = (.error e, deployment) ↔ step = (.error e, deployment) := by
  obtain ⟨result, reached⟩ := step
  cases result <;> simp [settleMove, Except.map]

/-- A start that fails once it is under way is given up. -/
theorem BeginStart.given_up {e : Error} (begins : before.BeginStart (.error e) after)
    (admitted : before.context.state ∈ Context.configurable) :
    ∃ ready, (before.entered .starting).SetUp (.error e) ready ∧ after = ready.abortStart := by
  cases begins with
  | barred barred =>
      rw [(canMoveTo_starting_iff _).mpr admitted] at barred
      cases barred
  | failed allowed setUp => exact ⟨_, setUp, rfl⟩

/-- A start that fails while it is completed is given up. -/
theorem FinishStart.given_up {e : Error} (finishes : before.FinishStart (.error e) after)
    (starting : before.context.state = .starting) :
    ∃ ready, before.Complete (.error e) ready ∧ after = ready.abortStart := by
  cases finishes with
  | barred barred => exact absurd starting barred
  | failed starting complete => exact ⟨_, complete, rfl⟩

theorem SetUp.active {result : Except Error Unit}
    (setUp : (before.entered .starting).SetUp result after) :
    after.context.state = .starting :=
  setUp.state

theorem canMoveTo_failed_of_active {state : LifecycleState}
    (active : state ∈ [.starting, .started]) : state.canMoveTo .failed = true := by
  rcases List.mem_cons.mp active with rfl | started
  · rfl
  · rw [List.mem_singleton.mp started]
    rfl

theorem abortStart_state (active : deployment.context.state ∈ [.starting, .started]) :
    deployment.abortStart.context.state = .failed := by
  rw [abortStart_eq (canMoveTo_failed_of_active active)]
  rfl

theorem abortStart_bare (active : deployment.context.state ∈ [.starting, .started]) :
    deployment.abortStart.context.pipeline = none := by
  rw [abortStart_eq (canMoveTo_failed_of_active active)]
  rfl

/-! ## The state is asked for first -/

open Context

/-- A setter asks for nothing but the state. -/
theorem settle_refused_iff {operation : String} {changed : Context} :
    (deployment.settle (match deployment.context.lifecycle.require operation configurable with
      | .error e => Except.error e
      | .ok () => Except.ok changed)).1 =
        .error (.illegalState operation deployment.context.state) ↔
      deployment.context.state ∉ configurable := by
  by_cases admitted : deployment.context.state ∈ configurable
  · have accepted : deployment.context.lifecycle.require operation configurable = .ok () :=
      require_ok_iff.mpr admitted
    simp [accepted, settle, accept, admitted]
  · simp [require_outside operation admitted, settle, admitted]

theorem beginStart_refused_iff :
    deployment.beginStart =
        (.error (.illegalState "begin_start" deployment.context.state), deployment) ↔
      deployment.context.state ∉ configurable := by
  have spec := deployment.beginStart_spec
  constructor
  · intro refused admitted
    rw [refused] at spec
    obtain ⟨ready, setUp, same⟩ := spec.given_up admitted
    have failed : ready.abortStart.context.state = .failed :=
      abortStart_state (by simp [setUp.active])
    rw [← same] at failed
    rw [failed] at admitted
    revert admitted
    decide
  · intro outside
    have barred : deployment.context.state.canMoveTo .starting = false :=
      Bool.eq_false_iff.mpr fun allowed => outside ((canMoveTo_starting_iff _).mp allowed)
    rw [beginStart, move_barred barred]

theorem finishStart_refused_iff :
    deployment.finishStart =
        (.error (.illegalState "finish_start" deployment.context.state), deployment) ↔
      deployment.context.state ∉ [.starting] := by
  have spec := deployment.finishStart_spec
  constructor
  · intro refused admitted
    rw [refused] at spec
    have starting := List.mem_singleton.mp admitted
    obtain ⟨ready, complete, same⟩ := spec.given_up starting
    have failed : ready.abortStart.context.state = .failed :=
      abortStart_state (complete.keeps starting).2.2
    rw [← same] at failed
    cases starting.symm.trans failed
  · intro outside
    have refused := require_outside "finish_start" outside
    simp only [finishStart, refused]

theorem beginStop_refused_iff :
    deployment.beginStop.1 = .error (.illegalState "begin_stop" deployment.context.state) ↔
      deployment.context.state ∉ [.started] := by
  rw [List.mem_singleton]
  constructor
  · exact fun refused => (beginStop_error refused).2
  · intro outside
    have barred : deployment.context.state.canMoveTo .stopping = false :=
      Bool.eq_false_iff.mpr fun allowed => outside ((canMoveTo_stopping_iff _).mp allowed)
    rw [beginStop, move_barred barred]

theorem finishStop_refused_iff :
    deployment.finishStop.1 = .error (.illegalState "finish_stop" deployment.context.state) ↔
      deployment.context.state ∉ [.stopping] := by
  rw [List.mem_singleton]
  constructor
  · exact fun refused => (finishStop_error refused).2
  · intro outside
    have barred : deployment.context.state.canMoveTo .stopped = false :=
      Bool.eq_false_iff.mpr fun allowed => outside ((canMoveTo_stopped_iff _).mp allowed)
    rw [finishStop, move_barred barred]

/-- A call other than a start is refused as coming at the wrong time in exactly the states that do
not admit it. -/
theorem prompt_refused_iff (coherent : deployment.context.Coherent) {call : Call}
    {operation : String} {allowed : List LifecycleState}
    (gated : call.gate? = some (operation, allowed)) (prompt : call.isStart = false) :
    (deployment.perform call).1 = .error (.illegalState operation deployment.context.state) ↔
      deployment.context.state ∉ allowed := by
  cases call with
  | beginStart => cases prompt
  | finishStart => cases prompt
  | beginStop =>
      cases gated
      exact settleMove_error_iff.trans beginStop_refused_iff
  | finishStop =>
      cases gated
      exact settleMove_error_iff.trans finishStop_refused_iff
  | setSessionStage stage =>
      cases gated
      exact settle_refused_iff
  | setSecurityStage stage =>
      cases gated
      exact settle_refused_iff
  | setDispatchStage stage =>
      cases gated
      exact settle_refused_iff
  | setStageFactory factory =>
      cases gated
      exact settle_refused_iff
  | setErrorHandler unit =>
      cases gated
      exact settle_refused_iff
  | clearRegistrations =>
      cases gated
      exact settle_refused_iff
  | _ => exact perform_refused_iff coherent gated

/-- A start may fail with any error, also with one that reads like a refusal; it is refused when
besides nothing has changed. -/
theorem gated_refused_iff (coherent : deployment.context.Coherent) {call : Call}
    {operation : String} {allowed : List LifecycleState}
    (gated : call.gate? = some (operation, allowed)) :
    deployment.perform call =
        (.error (.illegalState operation deployment.context.state), deployment) ↔
      deployment.context.state ∉ allowed := by
  cases prompt : call.isStart with
  | false =>
      rw [← prompt_refused_iff coherent gated prompt]
      constructor
      · exact fun refused => congrArg Prod.fst refused
      · exact fun refused => Prod.ext refused (perform_error_keeps gated prompt refused)
  | true =>
      cases call with
      | beginStart =>
          cases gated
          exact settleMove_refused_iff.trans beginStart_refused_iff
      | finishStart =>
          cases gated
          exact settleMove_refused_iff.trans finishStart_refused_iff
      | _ => cases prompt

/-! ## Handles -/

end Deployment

end RequestPipeline
