import RequestPipeline.Proofs.Coherence

/-!
# Admitted registrations

A registration call asks twice whether it comes at the right time: the life cycle by its state, the
registrations by whether they are open.  For a coherent context the second question never refuses
what the first has admitted, and the agreement of everything is stated for runs of a new context.
-/

namespace RequestPipeline

/-- The operation under which a registration call is refused, and the states that admit it. -/
def Call.admission? : Call → Option (String × List LifecycleState)
  | .addUnit .. => some ("add_unit", Context.registering)
  | .addInterceptor .. => some ("add_interceptor", Context.registering)
  | .registerUnit .. => some (FacadeCall.registerUnit.operation, FacadeCall.registerUnit.allowed)
  | .registerInterceptor .. =>
      some (FacadeCall.registerInterceptor.operation, FacadeCall.registerInterceptor.allowed)
  | .mapUnit .. => some (FacadeCall.mapUnit.operation, FacadeCall.mapUnit.allowed)
  | .mapInterceptorToUnits .. =>
      some (FacadeCall.mapInterceptorToUnits.operation, FacadeCall.mapInterceptorToUnits.allowed)
  | _ => none

/-- Whether an error is not about a call that comes at the wrong time. -/
def Error.OnTime (e : Error) : Prop := ∀ operation state, e ≠ .illegalState operation state

/-! ## What the table itself refuses -/

theorem PathPattern.parse_error {text : String} {e : Error} (malformed : parse text = .error e) :
    e.OnTime := by
  unfold parse at malformed
  split at malformed
  · cases malformed
  · rw [← Except.error.inj malformed]
    intro operation state
    exact Error.noConfusion

theorem PathPattern.parseAll_error {texts : List String} {e : Error}
    (malformed : parseAll texts = .error e) : e.OnTime := by
  induction texts with
  | nil => cases malformed
  | cons text rest ih =>
      unfold parseAll at malformed
      split at malformed
      · next first =>
          rw [← Except.error.inj malformed]
          exact parse_error first
      · split at malformed
        · next later =>
            exact ih (later.trans (congrArg Except.error (Except.error.inj malformed)))
        · cases malformed

namespace RegistrationTable

variable {table : RegistrationTable} {name : String} {e : Error}

theorem registerUnit_onTime {binding : Binding ServiceUnit}
    (refused : table.registerUnit name binding = .error e) : e.OnTime := by
  rw [(registerUnit_error refused).1]
  intro operation state
  exact Error.noConfusion

theorem registerInterceptor_onTime {binding : Binding Interceptor} {phases : Phases}
    (refused : table.registerInterceptor name binding phases = .error e) : e.OnTime := by
  unfold registerInterceptor at refused
  split at refused
  · rw [← Except.error.inj refused]
    intro operation state
    exact Error.noConfusion
  · cases refused

theorem registerUnitWith_onTime {binding : Binding ServiceUnit} {calls : List (List String)}
    {after : RegistrationTable}
    (refused : table.registerUnitWith name binding calls = (.error e, after)) : e.OnTime := by
  unfold registerUnitWith at refused
  split at refused
  · next taken =>
      rw [← Except.error.inj (congrArg Prod.fst refused)]
      exact registerUnit_onTime taken
  · cases congrArg Prod.fst refused

theorem registerInterceptorWith_onTime {binding : Binding Interceptor} {phases : Phases}
    {calls : List InterceptorFollowUp} {after : RegistrationTable}
    (refused : table.registerInterceptorWith name binding phases calls = (.error e, after)) :
    e.OnTime := by
  unfold registerInterceptorWith at refused
  split at refused
  · next taken =>
      rw [← Except.error.inj (congrArg Prod.fst refused)]
      exact registerInterceptor_onTime taken
  · cases congrArg Prod.fst refused

theorem mapUnit_onTime {patterns : List String}
    (refused : table.mapUnit name patterns = .error e) : e.OnTime := by
  unfold mapUnit at refused
  split at refused
  · next malformed =>
      rw [← Except.error.inj refused]
      exact PathPattern.parseAll_error malformed
  · cases refused

end RegistrationTable

/-! ## What a context refuses -/

namespace Context

variable {context : Context}

theorem require_outside (operation : String) {admitted : List LifecycleState}
    (outside : context.state ∉ admitted) : context.lifecycle.require operation admitted =
      .error (.illegalState operation context.state) :=
  if_neg outside

theorem Coherent.openFor (coherent : context.Coherent) (operation : String)
    (admitted : context.state ∈ registering) :
    ∃ table, context.registrations.openFor operation context.state = .ok table := by
  have early : context.state ∈ [.uninitialized, .starting, .stopped] := by
    rcases List.mem_cons.mp admitted with new | starting
    · simp [new]
    · simp [List.mem_singleton.mp starting]
  obtain ⟨table, opened⟩ := coherent.opened early
  exact ⟨table, openFor_ok_iff.mpr opened⟩

theorem changeTable_refused_iff {α : Type} {call : FacadeCall}
    {step : RegistrationTable → Except Error (α × RegistrationTable)}
    (coherent : context.Coherent) (within : call.allowed ⊆ registering)
    (onTime : ∀ table e, step table = .error e → e.OnTime) :
    context.changeTable call step = .error (.illegalState call.operation context.state) ↔
      context.state ∉ call.allowed := by
  by_cases admitted : context.state ∈ call.allowed
  · have accepted : context.lifecycle.require call.operation call.allowed = .ok () :=
      require_ok_iff.mpr admitted
    obtain ⟨table, opened⟩ := coherent.openFor call.operation (within admitted)
    simp only [changeTable, openTable, accepted, opened]
    cases stepped : step table with
    | error e => simp [admitted, onTime table e stepped _ _]
    | ok pair => simp [admitted]
  · have refused := require_outside call.operation admitted
    simp [changeTable, openTable, refused, admitted]

theorem addUnit_refused_iff (coherent : context.Coherent) (binding : Binding ServiceUnit)
    (pattern : String) :
    context.addUnit binding pattern = .error (.illegalState "add_unit" context.state) ↔
      context.state ∉ registering := by
  by_cases admitted : context.state ∈ registering
  · have accepted : context.lifecycle.require "add_unit" registering = .ok () :=
      require_ok_iff.mpr admitted
    obtain ⟨table, opened⟩ := coherent.openFor "add_unit" admitted
    simp only [addUnit, accepted, opened]
    cases read : PathPattern.parse pattern with
    | error e => simp [admitted, PathPattern.parse_error read _ _]
    | ok parsed =>
        dsimp only
        split
        · next refused =>
            simp [admitted, RegistrationTable.registerUnit_onTime refused _ _]
        · simp [admitted]
  · have refused := require_outside "add_unit" admitted
    simp [addUnit, refused, admitted]

theorem addInterceptor_refused_iff (coherent : context.Coherent) (binding : Binding Interceptor)
    (pattern : String) (phases : Phases) :
    context.addInterceptor binding pattern phases =
        .error (.illegalState "add_interceptor" context.state) ↔
      context.state ∉ registering := by
  by_cases admitted : context.state ∈ registering
  · have accepted : context.lifecycle.require "add_interceptor" registering = .ok () :=
      require_ok_iff.mpr admitted
    obtain ⟨table, opened⟩ := coherent.openFor "add_interceptor" admitted
    simp only [addInterceptor, accepted, opened]
    cases read : PathPattern.parse pattern with
    | error e => simp [admitted, PathPattern.parse_error read _ _]
    | ok parsed =>
        dsimp only
        split
        · next refused =>
            simp [admitted, RegistrationTable.registerInterceptor_onTime refused _ _]
        · simp [admitted]
  · have refused := require_outside "add_interceptor" admitted
    simp [addInterceptor, refused, admitted]

theorem registerUnit_refused_iff (coherent : context.Coherent) (name : String)
    (binding : Binding ServiceUnit) (calls : List (List String)) :
    context.registerUnit name binding calls =
        .error (.illegalState FacadeCall.registerUnit.operation context.state) ↔
      context.state ∉ FacadeCall.registerUnit.allowed := by
  apply changeTable_refused_iff coherent (by decide)
  intro table e refused
  split at refused
  · next taken =>
      rw [← Except.error.inj refused]
      exact RegistrationTable.registerUnitWith_onTime taken
  · cases refused

theorem registerInterceptor_refused_iff (coherent : context.Coherent) (name : String)
    (binding : Binding Interceptor) (phases : Phases) (calls : List InterceptorFollowUp) :
    context.registerInterceptor name binding phases calls =
        .error (.illegalState FacadeCall.registerInterceptor.operation context.state) ↔
      context.state ∉ FacadeCall.registerInterceptor.allowed := by
  apply changeTable_refused_iff coherent (by decide)
  intro table e refused
  split at refused
  · next taken =>
      rw [← Except.error.inj refused]
      exact RegistrationTable.registerInterceptorWith_onTime taken
  · cases refused

theorem mapUnit_refused_iff (coherent : context.Coherent) (name : String)
    (patterns : List String) :
    context.mapUnit name patterns =
        .error (.illegalState FacadeCall.mapUnit.operation context.state) ↔
      context.state ∉ FacadeCall.mapUnit.allowed := by
  apply changeTable_refused_iff coherent (by decide)
  intro table e refused
  cases mapped : table.mapUnit name patterns with
  | error fault =>
      rw [mapped] at refused
      rw [← Except.error.inj refused]
      exact RegistrationTable.mapUnit_onTime mapped
  | ok grown =>
      rw [mapped] at refused
      cases refused

theorem mapInterceptorToUnits_refused_iff (coherent : context.Coherent) (name : String)
    (phases : Phases) (after : Bool) (units : List String) :
    context.mapInterceptorToUnits name phases after units =
        .error (.illegalState FacadeCall.mapInterceptorToUnits.operation context.state) ↔
      context.state ∉ FacadeCall.mapInterceptorToUnits.allowed := by
  apply changeTable_refused_iff coherent (by decide)
  intro table e refused
  cases refused

end Context

namespace Deployment

theorem settleWith_refused {α : Type} {deployment : Deployment} {answer : α → Answer}
    {result : Except Error (α × Context)} {e : Error} :
    (deployment.settleWith answer result).1 = .error e ↔ result = .error e := by
  cases result <;> simp [settleWith, accept]

open Context in
/-- A registration call is refused as coming at the wrong time in exactly the states that do not
admit it. -/
theorem perform_refused_iff {deployment : Deployment} (coherent : deployment.context.Coherent)
    {call : Call} {operation : String} {admitted : List LifecycleState}
    (admission : call.admission? = some (operation, admitted)) :
    (deployment.perform call).1 = .error (.illegalState operation deployment.context.state) ↔
      deployment.context.state ∉ admitted := by
  cases call with
  | addUnit binding pattern =>
      cases admission
      exact settleWith_refused.trans (addUnit_refused_iff coherent binding pattern)
  | addInterceptor binding pattern phases =>
      cases admission
      exact settleWith_refused.trans (addInterceptor_refused_iff coherent binding pattern phases)
  | registerUnit name binding calls =>
      cases admission
      exact settleWith_refused.trans (registerUnit_refused_iff coherent name binding calls)
  | registerInterceptor name binding phases calls =>
      cases admission
      exact settleWith_refused.trans
        (registerInterceptor_refused_iff coherent name binding phases calls)
  | mapUnit name patterns =>
      cases admission
      exact settleWith_refused.trans (mapUnit_refused_iff coherent name patterns)
  | mapInterceptorToUnits name phases after units =>
      cases admission
      exact settleWith_refused.trans
        (mapInterceptorToUnits_refused_iff coherent name phases after units)
  | _ => cases admission

/-! ## Runs of a new context -/

theorem isRunning_iff (state : LifecycleState) :
    state.isRunning = true ↔ state ∈ [.started, .stopping] := by
  cases state <;> decide

/-- A failed context has no pipeline and an opening one no snapshot, so the two together tell that
requests may be under way. -/
theorem isRunning_iff_piped_and_frozen {context : Context} (coherent : context.Coherent) :
    context.state.isRunning = true ↔
      context.pipeline.isSome = true ∧ ∃ snapshot, context.registrations = .frozen snapshot := by
  constructor
  · intro running
    have serving := (isRunning_iff _).mp running
    exact ⟨coherent.installed.mpr (List.mem_cons_of_mem _ serving), coherent.frozen serving⟩
  · rintro ⟨installed, snapshot, frozen⟩
    rcases List.mem_cons.mp (coherent.installed.mp installed) with starting | serving
    · obtain ⟨table, opened⟩ := coherent.opened (by simp [starting])
      cases frozen.symm.trans opened
    · exact (isRunning_iff _).mpr serving

/-- After any calls on a new context, whatever each of them gave back, life cycle, registrations,
pipeline and slots agree. -/
theorem runCalls_agrees {context : Context} (new : context.IsNew) (host : Host)
    (calls : List Call) :
    let reached := runCalls ⟨context, host⟩ calls
    let state := reached.context.state
    (reached.context.pipeline.isSome = true ↔ state ∈ [.starting, .started, .stopping]) ∧
    (state ∈ [.uninitialized, .starting, .stopped] →
      ∃ table, reached.context.registrations = .opened table) ∧
    (state ∈ [.started, .stopping] →
      ∃ snapshot, reached.context.registrations = .frozen snapshot) ∧
    (state.isRunning = true ↔ reached.context.pipeline.isSome = true ∧
      ∃ snapshot, reached.context.registrations = .frozen snapshot) ∧
    (∀ call operation admitted, call.admission? = some (operation, admitted) →
      ((reached.perform call).1 = .error (.illegalState operation state) ↔ state ∉ admitted)) ∧
    (∀ pipeline, reached.context.pipeline = some pipeline →
      pipeline.session = reached.context.session.stage ∧
      pipeline.security = reached.context.security.stage ∧
      some pipeline.dispatch = reached.context.dispatch.stage ∧
      pipeline.stages = reached.context.session.stage.toList.map StageRef.wrapper
        ++ reached.context.security.stage.toList.map StageRef.wrapper
        ++ reached.context.dispatch.stage.toList.map StageRef.dispatch) := by
  intro reached state
  have coherent : reached.context.Coherent := runCalls_coherent new.coherent calls
  refine ⟨coherent.installed, coherent.opened, coherent.frozen,
    isRunning_iff_piped_and_frozen coherent, ?_, ?_⟩
  · intro call operation admitted admission
    exact perform_refused_iff coherent admission
  · intro pipeline installed
    have chains := coherent.chains pipeline installed
    exact ⟨chains.session, chains.security, chains.dispatch.symm, chains.stages⟩

/-- Three stock stages stay installed, and the registrations frozen, until a stop is completed. -/
theorem runCalls_agrees_stopping :
    let reached := runCalls ⟨.withOptions ⟨true, true⟩, {}⟩ [.beginStart, .finishStart, .beginStop]
    reached.context.state = .stopping ∧ reached.context.pipeline.isSome = true ∧
      (∃ snapshot, reached.context.registrations = .frozen snapshot) ∧
      (reached.perform (.mapUnit "home" ["/"])).1 =
        .error (.illegalState "add_unit_mapping" .stopping) := by
  intro reached
  have stopping : reached.context.state = .stopping := rfl
  obtain ⟨installed, -, frozen, -, refused, -⟩ :=
    runCalls_agrees (Context.isNew_withOptions ⟨true, true⟩) {}
      [.beginStart, .finishStart, .beginStop]
  refine ⟨stopping, installed.mpr (by decide), frozen (by decide), ?_⟩
  exact (refused (.mapUnit "home" ["/"]) _ _ rfl).mpr (by decide)

end Deployment

end RequestPipeline
