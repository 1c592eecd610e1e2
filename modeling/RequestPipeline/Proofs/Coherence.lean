import RequestPipeline.Proofs.Runs

/-!
# Coherence

Life cycle, registrations, pipeline and slots are changed by different calls, and each life-cycle
call may fail half way.  They nevertheless always agree: the state tells whether a pipeline is
installed and whether the registrations are open, and an installed pipeline has the stages of the
slots.
-/

namespace RequestPipeline

namespace Context

/-- Life cycle, registrations, pipeline and slots agree.  After a failure the registrations may be
open or frozen. -/
structure Coherent (context : Context) : Prop where
  installed : context.pipeline.isSome = true ↔ context.state ∈ [.starting, .started, .stopping]
  opened : context.state ∈ [.uninitialized, .starting, .stopped] →
    ∃ table, context.registrations = .opened table
  frozen : context.state ∈ [.started, .stopping] →
    ∃ snapshot, context.registrations = .frozen snapshot
  chains : ∀ pipeline, context.pipeline = some pipeline → context.Chains pipeline

theorem IsNew.coherent {context : Context} (new : context.IsNew) : context.Coherent where
  installed := by simp [new.state, new.pipeline]
  opened _ := ⟨_, new.registrations⟩
  frozen running := by simp [new.state] at running
  chains pipeline installed := nomatch new.pipeline.symm.trans installed

/-- A failed context without a pipeline is coherent, whatever became of its registrations. -/
theorem coherent_of_failed {context : Context} (failed : context.state = .failed)
    (bare : context.pipeline = none) : context.Coherent where
  installed := by simp [failed, bare]
  opened early := by simp [failed] at early
  frozen running := by simp [failed] at running
  chains pipeline installed := nomatch bare.symm.trans installed

/-- Pipelines and stages are compared slot by slot. -/
theorem Chains.congr {before after : Context} {pipeline : Pipeline}
    (chains : before.Chains pipeline) (slots : ∀ kind, after.slot kind = before.slot kind)
    (options : after.options = before.options) : after.Chains pipeline where
  session := chains.session.trans (congrArg Slot.stage (slots .session)).symm
  security := chains.security.trans (congrArg Slot.stage (slots .security)).symm
  dispatch := (congrArg Slot.stage (slots .dispatch)).trans chains.dispatch
  furnished kind enabled := by
    rw [slots kind]
    exact chains.furnished kind (options ▸ enabled)

/-- The stages of the pipeline are those of the filled slots. -/
theorem Chains.stages {context : Context} {pipeline : Pipeline}
    (chains : context.Chains pipeline) :
    pipeline.stages = context.session.stage.toList.map StageRef.wrapper
      ++ context.security.stage.toList.map StageRef.wrapper
      ++ context.dispatch.stage.toList.map StageRef.dispatch := by
  rw [Pipeline.stages, chains.session, chains.security, chains.dispatch]
  rfl

namespace Coherent

variable {context after : Context}

theorem bare (coherent : context.Coherent)
    (outside : context.state ∉ [.starting, .started, .stopping]) : context.pipeline = none := by
  cases held : context.pipeline with
  | none => rfl
  | some pipeline => exact absurd (coherent.installed.mp (by rw [held]; rfl)) outside

theorem piped (coherent : context.Coherent)
    (inside : context.state ∈ [.starting, .started, .stopping]) :
    ∃ pipeline, context.pipeline = some pipeline ∧ context.Chains pipeline := by
  obtain ⟨pipeline, held⟩ := Option.isSome_iff_exists.mp (coherent.installed.mpr inside)
  exact ⟨pipeline, held, coherent.chains pipeline held⟩

/-- While a pipeline is installed no stage is made any more. -/
theorem uninstalled_of_wants (coherent : context.Coherent) {kind : StageKind}
    (wants : context.Wants kind) : context.pipeline = none := by
  cases held : context.pipeline with
  | none => rfl
  | some pipeline =>
      exact absurd wants ((coherent.chains pipeline held).furnished.not_wants kind)

theorem reconfigures (coherent : context.Coherent)
    (reconfigures : context.Reconfigures after) : after.Coherent := by
  have bare : context.pipeline = none := by
    apply coherent.bare
    rcases List.mem_cons.mp reconfigures.allowed with new | stopped
    · simp [new]
    · simp [List.mem_singleton.mp stopped]
  refine ⟨?_, ?_, ?_, ?_⟩
  · rw [reconfigures.pipeline, reconfigures.state]
    exact coherent.installed
  · intro early
    rcases reconfigures.registrations with same | empty
    · rw [same]
      exact coherent.opened (reconfigures.state ▸ early)
    · exact ⟨_, empty⟩
  · intro running
    have allowed := reconfigures.allowed
    rw [← reconfigures.state] at allowed
    rcases List.mem_cons.mp allowed with new | stopped
    · simp [new] at running
    · simp [List.mem_singleton.mp stopped] at running
  · intro pipeline installed
    rw [reconfigures.pipeline, bare] at installed
    cases installed

theorem registers (coherent : context.Coherent) (registers : context.Registers after) :
    after.Coherent := by
  obtain ⟨allowed, table, grown, -, -, rfl⟩ := registers
  refine ⟨coherent.installed, fun _ => ⟨grown, rfl⟩, ?_, ?_⟩
  · intro running
    have state : context.state ∈ [.started, .stopping] := running
    rcases List.mem_cons.mp allowed with new | starting
    · simp [new] at state
    · simp [List.mem_singleton.mp starting] at state
  · intro pipeline installed
    exact (coherent.chains pipeline installed).congr (fun kind => by cases kind <;> rfl) rfl

end Coherent

end Context

namespace Deployment

open Context

theorem Fetch.coherent {before after : Deployment} {kind : StageKind}
    {result : Except Error (Option Nat)} (fetch : before.Fetch kind result after)
    (coherent : before.context.Coherent) : after.context.Coherent := by
  cases fetch with
  | kept settled => exact coherent
  | refused wants e line => exact coherent
  | @made wants index host makes =>
      have bare := coherent.uninstalled_of_wants wants
      have refits : before.context.Refits (before.context.withStage kind (some index)) :=
        .withStage _ ((wants_iff _ _).mp wants).1
      refine ⟨?_, ?_, ?_, ?_⟩
      · rw [refits.pipeline, refits.state]
        exact coherent.installed
      · intro early
        rw [refits.registrations]
        exact coherent.opened (refits.state ▸ early)
      · intro running
        rw [refits.registrations]
        exact coherent.frozen (refits.state ▸ running)
      · intro pipeline installed
        rw [refits.pipeline, bare] at installed
        cases installed

/-! ## Starting -/

theorem RunHooks.keeps {before after : Deployment} {result : Except Error Unit}
    (hooks : before.RunHooks result after) :
    after.context.state = before.context.state ∧
      after.context.pipeline = before.context.pipeline ∧
      (∀ kind, after.context.slot kind = before.context.slot kind) ∧
      after.context.options = before.context.options := by
  cases hooks with
  | hookless none => exact ⟨rfl, rfl, fun _ => rfl, rfl⟩
  | closed closed => exact ⟨rfl, rfl, fun _ => rfl, rfl⟩
  | ran opened grows adds => exact ⟨rfl, rfl, fun kind => by cases kind <;> rfl, rfl⟩

theorem RunHooks.opened {before after : Deployment} {result : Except Error Unit}
    (hooks : before.RunHooks result after)
    (opened : ∃ table, before.context.registrations = .opened table) :
    ∃ table, after.context.registrations = .opened table := by
  cases hooks with
  | hookless none => exact opened
  | closed closed => exact opened
  | ran opened grows adds => exact ⟨_, rfl⟩

theorem withPipeline_chains {ready : Deployment} {pipeline : Pipeline} {host : Host}
    (chains : ready.context.Chains pipeline) :
    (ready.withPipeline pipeline host).context.Chains pipeline :=
  chains.congr (fun kind => by cases kind <;> rfl) rfl

theorem SetUp.state {before after : Deployment} {result : Except Error Unit}
    (setUp : before.SetUp result after) : after.context.state = before.context.state := by
  cases setUp with
  | unfurnished fetches => exact fetches.refits.state
  | refused fetches chains outcome => exact fetches.refits.state
  | hooked fetches chains outcome hooks => exact hooks.keeps.1.trans fetches.refits.state

/-- A start that is set up has its pipeline and still accepts registrations. -/
theorem SetUp.coherent {before after : Deployment} (setUp : before.SetUp (.ok ()) after)
    (starting : before.context.state = .starting)
    (opened : ∃ table, before.context.registrations = .opened table) :
    after.context.Coherent := by
  have state := setUp.state.trans starting
  cases setUp with
  | hooked fetches chains outcome hooks =>
      obtain ⟨-, pipeline, slots, options⟩ := hooks.keeps
      refine ⟨?_, ?_, ?_, ?_⟩
      · rw [pipeline, state]
        simp [withPipeline]
      · intro _
        apply hooks.opened
        exact fetches.refits.registrations ▸ opened
      · intro running
        simp [state] at running
      · intro other installed
        rw [pipeline] at installed
        cases installed
        exact (withPipeline_chains chains).congr slots options

theorem abortStart_coherent {deployment : Deployment}
    (active : deployment.context.state.canMoveTo .failed = true) :
    deployment.abortStart.context.Coherent := by
  rw [abortStart_eq active]
  exact coherent_of_failed rfl rfl

/-- A start begins from a state in which the registrations are open. -/
theorem opened_of_canStart {context : Context} (coherent : context.Coherent)
    (allowed : context.state.canMoveTo .starting = true) :
    ∃ table, context.registrations = .opened table := by
  apply coherent.opened
  cases state : context.state with
  | uninitialized => simp
  | stopped => simp
  | _ => simp [state, LifecycleState.canMoveTo] at allowed

theorem BeginStart.coherent {before after : Deployment} {result : Except Error Unit}
    (begins : before.BeginStart result after) (coherent : before.context.Coherent) :
    after.context.Coherent := by
  cases begins with
  | barred barred => exact coherent
  | failed allowed setUp =>
      apply abortStart_coherent
      rw [setUp.state]
      rfl
  | begun allowed setUp =>
      have opened := opened_of_canStart coherent allowed
      exact setUp.coherent rfl opened

theorem RouteBy.context {before after : Deployment} {snapshot : Snapshot}
    {result : Except Error Unit} (route : before.RouteBy snapshot result after) :
    after.context = before.context := by
  cases route <;> rfl

theorem Freeze.registrations {before after : Deployment} {snapshot : Snapshot}
    (freeze : before.Freeze (.ok snapshot) after) :
    after.context.registrations = .frozen snapshot := by
  cases freeze with
  | frozen opened outcome => rfl
  | already frozen => exact frozen

theorem Freeze.chains {before after : Deployment} {result : Except Error Snapshot}
    (freeze : before.Freeze result after) {pipeline : Pipeline}
    (chains : before.context.Chains pipeline) : after.context.Chains pipeline := by
  cases freeze with
  | failed opened outcome => exact chains
  | frozen opened outcome => exact chains.congr (fun kind => by cases kind <;> rfl) rfl
  | already frozen => exact chains

theorem FinishStart.coherent {before after : Deployment} {result : Except Error Unit}
    (finishes : before.FinishStart result after) (coherent : before.context.Coherent) :
    after.context.Coherent := by
  cases finishes with
  | barred barred => exact coherent
  | failed starting complete =>
      apply abortStart_coherent
      cases complete with
      | unfrozen freeze =>
          rw [freeze.state, starting]
          rfl
      | frozen freeze route =>
          rw [route.context]
          rfl
  | finished starting complete =>
      cases complete with
      | frozen freeze route =>
          obtain ⟨pipeline, installed, chains⟩ := coherent.piped (by simp [starting])
          have held : after.context.pipeline = some pipeline := by
            rw [route.context]
            exact freeze.pipeline.trans installed
          have state : after.context.state = .started := by
            rw [route.context]
            rfl
          refine ⟨?_, ?_, ?_, ?_⟩
          · simp [held, state]
          · intro early
            simp [state] at early
          · intro _
            rw [route.context]
            exact ⟨_, freeze.registrations⟩
          · intro other same
            rw [held] at same
            cases same
            rw [route.context]
            exact (freeze.chains chains).congr (fun kind => by cases kind <;> rfl) rfl

/-! ## Stopping -/

theorem entered_stopping_coherent {deployment : Deployment}
    (started : deployment.context.state = .started) (coherent : deployment.context.Coherent) :
    (deployment.entered .stopping).context.Coherent := by
  obtain ⟨pipeline, installed, chains⟩ := coherent.piped (by simp [started])
  have held : (deployment.entered .stopping).context.pipeline = some pipeline := installed
  have state : (deployment.entered .stopping).context.state = .stopping := rfl
  refine ⟨?_, ?_, ?_, ?_⟩
  · simp [held, state]
  · intro early
    simp [state] at early
  · intro _
    exact coherent.frozen (by simp [started])
  · intro other same
    rw [held] at same
    cases same
    exact chains.congr (fun kind => by cases kind <;> rfl) rfl

theorem BeginStop.coherent {before after : Deployment} {result : Except Error Unit}
    (begins : before.BeginStop result after) (coherent : before.context.Coherent) :
    after.context.Coherent := by
  cases begins with
  | barred barred => exact coherent
  | bare started bare rests => exact entered_stopping_coherent started coherent
  | begun started installed rests => exact entered_stopping_coherent started coherent

theorem thaw_opened (registrations : Registrations) :
    ∃ table, registrations.thaw = .opened table := by
  cases registrations with
  | opened table => exact ⟨table, rfl⟩
  | frozen snapshot => exact ⟨snapshot.thaw, rfl⟩

theorem FinishStop.coherent {before after : Deployment} {result : Except Error Unit}
    (finishes : before.FinishStop result after) (coherent : before.context.Coherent) :
    after.context.Coherent := by
  cases finishes with
  | barred barred => exact coherent
  | bare stopping bare =>
      have installed := coherent.installed.mpr (by simp [stopping])
      rw [bare] at installed
      cases installed
  | finished stopping installed =>
      refine ⟨?_, fun _ => thaw_opened _, ?_, ?_⟩
      · change none.isSome = true ↔ LifecycleState.stopped ∈ _
        simp
      · intro running
        change LifecycleState.stopped ∈ _ at running
        simp at running
      · intro pipeline installed
        cases installed

theorem Step.coherent {before after : Deployment} (step : before.Step after)
    (coherent : before.context.Coherent) : after.context.Coherent := by
  cases step with
  | same => exact coherent
  | reconfigured reconfigures => exact coherent.reconfigures reconfigures
  | registered registers => exact coherent.registers registers
  | fetched fetch => exact fetch.coherent coherent
  | kept key dispatcher => exact coherent
  | served serves => exact coherent
  | startBegun begins => exact begins.coherent coherent
  | startFinished finishes => exact finishes.coherent coherent
  | stopBegun begins => exact begins.coherent coherent
  | stopFinished finishes => exact finishes.coherent coherent

theorem runCalls_coherent {deployment : Deployment} (coherent : deployment.context.Coherent)
    (calls : List Call) : (deployment.runCalls calls).context.Coherent :=
  runCalls_keeps (fun step => step.coherent) calls coherent

end Deployment

end RequestPipeline
