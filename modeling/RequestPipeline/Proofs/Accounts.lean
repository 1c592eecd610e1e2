import RequestPipeline.Proofs.Admission
import RequestPipeline.Proofs.Balance
import RequestPipeline.Proofs.Freezing

/-!
# Accounts of starts and stops

Whether each stop of a stage answers a start of it, over every run of a context.  It does as long
as no stage refuses to start.  A refusal is undone twice, once by the pipeline and once more by the
context, so that from then on every stage of the pipeline has been stopped once too often.
-/

namespace RequestPipeline

namespace Deployment

def running (deployment : Deployment) : List StageRef :=
  match deployment.context.pipeline with
  | none => []
  | some pipeline =>
      if deployment.context.state ∈ [.starting, .started] then
        deployment.host.present pipeline.stages
      else []

/-- Starts and stops are in balance, or a stage has refused to start and the pipeline has been
stopped twice. -/
inductive Accounted (base : List Event) (deployment : Deployment) : Prop
  | balanced (since : deployment.host.journal.Since base (Balanced deployment.running))
  | overstopped {pipeline : Pipeline} (failed : deployment.context.state = .failed)
      (chains : deployment.context.Chains pipeline)
      (stage : ∃ ref, ref ∈ deployment.host.present pipeline.stages)
      (since : deployment.host.journal.Since base
        (Overstopped (deployment.host.present pipeline.stages)))

variable {base : List Event} {before after deployment : Deployment}

theorem running_bare (bare : deployment.context.pipeline = none) : deployment.running = [] := by
  rw [running, bare]

theorem running_piped {pipeline : Pipeline}
    (installed : deployment.context.pipeline = some pipeline)
    (active : deployment.context.state ∈ [.starting, .started]) :
    deployment.running = deployment.host.present pipeline.stages := by
  rw [running, installed]
  exact if_pos active

theorem running_settled (settled : deployment.context.state ∉ [.starting, .started]) :
    deployment.running = [] := by
  rw [running]
  split
  · rfl
  · exact if_neg settled

theorem running_congr (state : after.context.state = before.context.state)
    (pipeline : after.context.pipeline = before.context.pipeline)
    (present : ∀ refs, after.host.present refs = before.host.present refs) :
    after.running = before.running := by
  simp only [running, state, pipeline, present]

namespace Accounted

/-- Unless a context has failed, its account is in balance. -/
theorem since (accounted : before.Accounted base) (lives : before.context.state ≠ .failed) :
    before.host.journal.Since base (Balanced before.running) := by
  cases accounted with
  | balanced since => exact since
  | overstopped failed chains stage since => exact absurd failed lives

/-- Quiet steps keep the account; a failed context keeps its slots as well. -/
theorem quiet (accounted : before.Accounted base) (quiet : before.host.Quiet after.host)
    (state : after.context.state = before.context.state)
    (pipeline : after.context.pipeline = before.context.pipeline)
    (kept : before.context.state = .failed →
      ∀ pipeline, before.context.Chains pipeline → after.context.Chains pipeline) :
    after.Accounted base := by
  cases accounted with
  | balanced since =>
      refine .balanced ?_
      rw [running_congr state pipeline quiet.present]
      exact since.balanced quiet.journal
  | @overstopped chain failed chains stage since =>
      refine .overstopped (state.trans failed) (kept failed chain chains) ?_ ?_
      · rw [quiet.present]
        exact stage
      · rw [quiet.present]
        exact since.overstopped quiet.journal

end Accounted

/-! ## Steps that start and stop nothing -/

theorem Fetch.accounted {kind : StageKind} {result : Except Error (Option Nat)}
    (fetch : before.Fetch kind result after) (coherent : before.context.Coherent)
    (accounted : before.Accounted base) : after.Accounted base := by
  cases fetch with
  | kept settled => exact accounted
  | refused wants e line =>
      refine accounted.quiet (.withJournal _ (.note _ line ?_)) rfl rfl fun _ _ chains => chains
      rfl
  | @made wants index host makes =>
      have bare := coherent.uninstalled_of_wants wants
      obtain ⟨empty, -, early⟩ := (Context.wants_iff _ _).mp wants
      have refits : before.context.Refits (before.context.withStage kind (some index)) :=
        .withStage _ empty
      have lives : before.context.state ≠ .failed := by
        intro failed
        rw [failed] at early
        cases early
      have since := accounted.since lives
      rw [running_bare bare] at since
      refine .balanced ?_
      rw [running_bare (refits.pipeline.trans bare)]
      exact since.balanced (makes.widens.journal.mono fun _ => Event.not_isPower_of_isMinor)

theorem RunHooks.quiet {result : Except Error Unit} (hooks : before.RunHooks result after) :
    before.host.Quiet after.host := by
  cases hooks with
  | hookless none => exact .refl _
  | closed closed => exact .refl _
  | ran opened grows adds =>
      refine .withJournal _ (adds.mono ?_)
      rintro event rfl
      rfl

theorem Freeze.quiet {result : Except Error Snapshot} (freeze : before.Freeze result after) :
    before.host.Quiet after.host := by
  cases freeze with
  | @failed table e journal opened outcome =>
      have adds := table.freeze_adds before.context.loader before.host.journal
      rw [outcome] at adds
      exact .withJournal _ (adds.mono fun _ => Event.not_isPower_of_isMinor)
  | @frozen table snapshot journal opened outcome =>
      have adds := table.freeze_adds before.context.loader before.host.journal
      rw [outcome] at adds
      exact .withJournal _ (adds.mono fun _ => Event.not_isPower_of_isMinor)
  | already frozen => exact .refl _

theorem RouteBy.quiet {snapshot : Snapshot} {result : Except Error Unit}
    (route : before.RouteBy snapshot result after) : before.host.Quiet after.host := by
  cases route with
  | unrouted => exact .refl _
  | @routed pipeline result host installed outcome =>
      have handled := Host.quiet_of_rests (before.host.setErrorHandler_rests pipeline.dispatch
        before.context.errorUnit)
      have finalized := Host.finalizeRouting_quiet (before.host.setErrorHandler
        pipeline.dispatch before.context.errorUnit) pipeline.dispatch snapshot
      rw [outcome] at finalized
      exact handled.trans finalized

theorem entered_quiet (deployment : Deployment) (target : LifecycleState) :
    deployment.host.Quiet (deployment.entered target).host :=
  Host.quiet_of_rests (deployment.entered_rests target)

/-- Completing a start, whether it succeeds or fails, is quiet. -/
theorem Complete.keeps {result : Except Error Unit} (complete : before.Complete result after)
    (starting : before.context.state = .starting) :
    before.host.Quiet after.host ∧ after.context.pipeline = before.context.pipeline ∧
      after.context.state ∈ [.starting, .started] := by
  cases complete with
  | unfrozen freeze =>
      refine ⟨freeze.quiet, freeze.pipeline, ?_⟩
      rw [freeze.state, starting]
      decide
  | frozen freeze route =>
      refine ⟨(freeze.quiet.trans (entered_quiet _ _)).trans route.quiet, ?_, ?_⟩
      · rw [route.context]
        exact freeze.pipeline
      · rw [route.context]
        exact List.mem_cons_of_mem _ List.mem_cons_self

/-! ## Steps that start and stop -/

/-- What taking a pipeline down does besides stopping it is quiet. -/
theorem takenDown_quiet {pipeline : Pipeline}
    (installed : deployment.context.pipeline = some pipeline) :
    (pipeline.stopAll deployment.host).Quiet deployment.takenDown := by
  rw [takenDown, installed]
  exact (Host.clearRouting_quiet _ _).trans (Host.quiet_of_rests (pipeline.unlink_rests _))

theorem takenDown_balanced {running : List StageRef}
    (since : deployment.host.journal.Since base (Balanced running))
    (all : ∀ pipeline, deployment.context.pipeline = some pipeline →
      running = deployment.host.present pipeline.stages)
    (none : deployment.context.pipeline = none → running = []) :
    deployment.takenDown.journal.Since base (Balanced []) := by
  cases held : deployment.context.pipeline with
  | none =>
      rw [takenDown, held, ← none held]
      exact since
  | some pipeline =>
      rw [all pipeline held] at since
      exact (Pipeline.stopAll_balanced since).balanced (takenDown_quiet held).journal

/-- Giving up a start whose stages all run stops each of them once. -/
theorem abortStart_balanced (active : deployment.context.state ∈ [.starting, .started])
    (since : deployment.host.journal.Since base (Balanced deployment.running)) :
    deployment.abortStart.Accounted base := by
  have possible : deployment.context.state.canMoveTo .failed = true := by
    revert active
    cases deployment.context.state <;> decide
  rw [abortStart_eq possible]
  refine .balanced ?_
  have entered := since.balanced (deployment.entered_quiet .failed).journal
  refine takenDown_balanced entered ?_ fun bare => running_bare bare
  intro pipeline installed
  rw [(deployment.entered_quiet .failed).present]
  exact running_piped installed active

/-- A pipeline of which a stage has refused to start is stopped once more. -/
theorem abortStart_overstopped {pipeline : Pipeline}
    (active : deployment.context.state.canMoveTo .failed = true)
    (installed : deployment.context.pipeline = some pipeline)
    (chains : deployment.context.Chains pipeline)
    (stage : ∃ ref, ref ∈ deployment.host.present pipeline.stages)
    (since : deployment.host.journal.Since base (Overstopped [])) :
    deployment.abortStart.Accounted base := by
  have entered := deployment.entered_quiet .failed
  have down : (pipeline.stopAll (deployment.entered .failed).host).Quiet
      (deployment.entered .failed).takenDown := takenDown_quiet installed
  have stopped : (pipeline.stopAll (deployment.entered .failed).host).journal.Since base _ :=
    Pipeline.stopAll_overstopped (since.overstopped entered.journal)
  have stops := Pipeline.stopEach_evolves pipeline.stages (deployment.entered .failed).host
  have same (refs : List StageRef) :
      (deployment.entered .failed).takenDown.present refs = deployment.host.present refs := by
    rw [down.present, Pipeline.stopAll, stops.present, entered.present]
  rw [abortStart_eq active]
  refine .overstopped rfl (chains.congr (fun kind => by cases kind <;> rfl) rfl) ?_ ?_
  · change ∃ ref, ref ∈ (deployment.entered .failed).takenDown.present pipeline.stages
    rw [same]
    exact stage
  · change (deployment.entered .failed).takenDown.journal.Since base
      (Overstopped ((deployment.entered .failed).takenDown.present pipeline.stages))
    rw [same, ← entered.present]
    exact stopped.overstopped down.journal

/-- Setting up leaves the account in balance, or a stage has refused to start. -/
theorem SetUp.since {result : Except Error Unit} (setUp : before.SetUp result after)
    (since : before.host.journal.Since base (Balanced []))
    (starting : before.context.state = .starting)
    (bare : before.context.pipeline = none) :
    after.host.journal.Since base (Balanced after.running) ∨
      result ≠ .ok () ∧ ∃ pipeline, after.context.pipeline = some pipeline ∧
        after.context.Chains pipeline ∧ (∃ ref, ref ∈ after.host.present pipeline.stages) ∧
        after.host.journal.Since base (Overstopped []) := by
  have ready {middle : Deployment} (fetches : before.Fetches middle) :
      middle.host.journal.Since base (Balanced []) :=
    since.balanced (fetches.widens.journal.mono fun _ => Event.not_isPower_of_isMinor)
  cases setUp with
  | unfurnished fetches =>
      refine Or.inl ?_
      rw [running_bare (fetches.refits.pipeline.trans bare)]
      exact ready fetches
  | @refused middle pipeline host e fetches chains outcome =>
      have assembled := (ready fetches).balanced
        (Host.quiet_of_rests (pipeline.assemble_rests middle.host)).journal
      have starts := pipeline.startAll_evolves (pipeline.assemble middle.host)
      rw [outcome] at starts
      refine Or.inr ⟨nofun, pipeline, rfl, withPipeline_chains chains, ?_,
        Pipeline.startAll_overstopped assembled outcome⟩
      change ∃ ref, ref ∈ host.present pipeline.stages
      rw [starts.present]
      exact Pipeline.present_of_startAll_error outcome
  | @hooked middle after pipeline host result fetches chains outcome hooks =>
      have assembled := (ready fetches).balanced
        (Host.quiet_of_rests (pipeline.assemble_rests middle.host)).journal
      have starts := pipeline.startAll_evolves (pipeline.assemble middle.host)
      rw [outcome] at starts
      obtain ⟨state, installed, -, -⟩ := hooks.keeps
      have active : after.context.state ∈ [.starting, .started] := by
        rw [state]
        change middle.context.state ∈ _
        rw [fetches.refits.state, starting]
        decide
      refine Or.inl ?_
      rw [running_piped installed active, hooks.quiet.present]
      change after.host.journal.Since base (Balanced (host.present pipeline.stages))
      rw [starts.present]
      exact (Pipeline.startAll_balanced assembled outcome).balanced hooks.quiet.journal

theorem BeginStart.accounted {result : Except Error Unit}
    (begins : before.BeginStart result after) (coherent : before.context.Coherent)
    (accounted : before.Accounted base) : after.Accounted base := by
  have startable (allowed : before.context.state.canMoveTo .starting = true) :
      before.context.pipeline = none ∧
        (before.entered .starting).host.journal.Since base (Balanced []) := by
    have settled : before.context.state ∉ [.starting, .started, .stopping] ∧
        before.context.state ≠ .failed := by
      revert allowed
      cases before.context.state <;> decide
    have bare := coherent.bare settled.1
    have since := accounted.since settled.2
    rw [running_bare bare] at since
    exact ⟨bare, since.balanced (before.entered_quiet .starting).journal⟩
  cases begins with
  | barred barred => exact accounted
  | failed allowed setUp =>
      obtain ⟨bare, since⟩ := startable allowed
      have state := setUp.state
      rcases setUp.since since rfl bare with
        balanced | ⟨-, pipeline, installed, chains, stage, ahead⟩
      · apply abortStart_balanced ?_ balanced
        rw [state]
        exact List.mem_cons_self
      · apply abortStart_overstopped ?_ installed chains stage ahead
        rw [state]
        rfl
  | begun allowed setUp =>
      obtain ⟨bare, since⟩ := startable allowed
      rcases setUp.since since rfl bare with balanced | ⟨failed, -⟩
      · exact .balanced balanced
      · exact absurd rfl failed

theorem FinishStart.accounted {result : Except Error Unit}
    (finishes : before.FinishStart result after) (coherent : before.context.Coherent)
    (accounted : before.Accounted base) : after.Accounted base := by
  have completed {result : Except Error Unit} {ready : Deployment}
      (starting : before.context.state = .starting) (complete : before.Complete result ready) :
      ready.context.state ∈ [.starting, .started] ∧
        ready.host.journal.Since base (Balanced ready.running) := by
    obtain ⟨quiet, same, active⟩ := complete.keeps starting
    obtain ⟨pipeline, installed, -⟩ := coherent.piped (by simp [starting])
    have since := accounted.since (by simp [starting])
    rw [running_piped installed (by simp [starting])] at since
    refine ⟨active, ?_⟩
    rw [running_piped (same.trans installed) active, quiet.present]
    exact since.balanced quiet.journal
  cases finishes with
  | barred barred => exact accounted
  | failed starting complete =>
      obtain ⟨active, since⟩ := completed starting complete
      exact abortStart_balanced active since
  | finished starting complete =>
      obtain ⟨-, since⟩ := completed starting complete
      exact .balanced since

theorem BeginStop.accounted {result : Except Error Unit}
    (begins : before.BeginStop result after) (coherent : before.context.Coherent)
    (accounted : before.Accounted base) : after.Accounted base := by
  cases begins with
  | barred barred => exact accounted
  | bare started bare rests =>
      have installed := coherent.installed.mpr (by simp [started])
      rw [bare] at installed
      cases installed
  | @begun host pipeline started installed rests =>
      have since := accounted.since (by simp [started])
      rw [running_piped installed (by simp [started]),
        ← (Host.quiet_of_rests rests).present] at since
      have reached := since.balanced (Host.quiet_of_rests rests).journal
      have settled : (Deployment.mk (before.entered .stopping).context
          (pipeline.stopAll host)).running = [] :=
        running_settled (show LifecycleState.stopping ∉ _ by decide)
      refine .balanced ?_
      rw [settled]
      exact Pipeline.stopAll_balanced reached

theorem FinishStop.accounted {result : Except Error Unit}
    (finishes : before.FinishStop result after) (coherent : before.context.Coherent)
    (accounted : before.Accounted base) : after.Accounted base := by
  cases finishes with
  | barred barred => exact accounted
  | bare stopping bare =>
      have installed := coherent.installed.mpr (by simp [stopping])
      rw [bare] at installed
      cases installed
  | @finished pipeline stopping installed =>
      have since := accounted.since (by simp [stopping])
      rw [running_settled (by simp [stopping])] at since
      have entered := since.balanced (before.entered_quiet .stopped).journal
      have cleared := entered.balanced
        (Host.clearRouting_quiet (before.entered .stopped).host pipeline.dispatch).journal
      refine .balanced ?_
      rw [running_bare rfl]
      exact cleared.balanced (Host.quiet_of_rests (pipeline.unlink_rests _)).journal

theorem Step.accounted (step : before.Step after) (coherent : before.context.Coherent)
    (accounted : before.Accounted base) : after.Accounted base := by
  cases step with
  | same => exact accounted
  | reconfigured reconfigures =>
      refine accounted.quiet (.refl _) reconfigures.state reconfigures.pipeline fun failed => ?_
      have allowed := reconfigures.allowed
      rw [failed] at allowed
      exact absurd allowed (by decide)
  | registered registers =>
      obtain ⟨allowed, table, grown, -, -, rfl⟩ := registers
      refine accounted.quiet (.refl _) rfl rfl fun failed => ?_
      rw [failed] at allowed
      exact absurd allowed (by decide)
  | fetched fetch => exact fetch.accounted coherent accounted
  | kept key dispatcher =>
      exact accounted.quiet ⟨rfl, rfl, .refl _⟩ rfl rfl fun _ _ chains => chains
  | served serves => exact accounted.quiet serves.quiet rfl rfl fun _ _ chains => chains
  | startBegun begins => exact begins.accounted coherent accounted
  | startFinished finishes => exact finishes.accounted coherent accounted
  | stopBegun begins => exact begins.accounted coherent accounted
  | stopFinished finishes => exact finishes.accounted coherent accounted

/-- Starts and stops are accounted for after any calls on a new context. -/
theorem runCalls_accounted {context : Context} (new : context.IsNew) (host : Host)
    (calls : List Call) :
    (runCalls ⟨context, host⟩ calls).Accounted host.journal.events := by
  have initial : (⟨context, host⟩ : Deployment).Accounted host.journal.events := by
    refine .balanced ⟨[], (List.append_nil _).symm, ?_⟩
    rw [running_bare new.pipeline]
    exact .nil
  have keeps {before after : Deployment} (step : before.Step after)
      (holds : before.context.Coherent ∧ before.Accounted host.journal.events) :
      after.context.Coherent ∧ after.Accounted host.journal.events :=
    ⟨step.coherent holds.1, step.accounted holds.1 holds.2⟩
  exact (runCalls_keeps keeps calls ⟨new.coherent, initial⟩).2

/-- After any calls on a new context, every stop answers a start if and only if no stage has refused
to start.  Then what has been started and not stopped is what runs.  Otherwise the context has
failed, and each stage of its pipeline has been stopped once more than it was started. -/
theorem stops_answer_starts_iff {context : Context} (new : context.IsNew) (host : Host)
    (calls : List Call) :
    let reached := runCalls ⟨context, host⟩ calls
    ∃ added, reached.host.journal.events = host.journal.events ++ added ∧
      ((∀ ref, Answered ref added) ↔ ∀ ref, Event.stage ref .startFailed ∉ added) ∧
      ((∀ ref, Event.stage ref .startFailed ∉ added) →
        ∀ ref, added.count (.stage ref .started) =
          added.count (.stage ref .stopped) + reached.running.count ref) ∧
      ((∃ ref, Event.stage ref .startFailed ∈ added) →
        reached.context.state = .failed ∧
        ∃ pipeline, reached.context.Chains pipeline ∧
          ∀ ref, added.count (.stage ref .stopped) =
            added.count (.stage ref .started)
              + (reached.host.present pipeline.stages).count ref) := by
  intro reached
  have accounted : reached.Accounted host.journal.events := runCalls_accounted new host calls
  cases accounted with
  | balanced since =>
      obtain ⟨added, events, balanced⟩ := since
      refine ⟨added, events, ?_, fun _ => balanced.count, ?_⟩
      · exact ⟨fun _ => balanced.accepted, fun _ => balanced.answered⟩
      · rintro ⟨ref, refused⟩
        exact absurd refused (balanced.accepted ref)
  | @overstopped pipeline failed chains stage since =>
      obtain ⟨added, events, ahead⟩ := since
      obtain ⟨refusing, refused⟩ := ahead.refused
      refine ⟨added, events, ⟨?_, ?_⟩, ?_, fun _ => ⟨failed, pipeline, chains, ahead.count⟩⟩
      · intro answered
        obtain ⟨ref, member⟩ := stage
        have twice := ahead.count ref
        have once := answered ref added (List.prefix_refl added)
        have counted := List.count_pos_iff.mpr member
        omega
      · exact fun accepted => absurd refused (accepted refusing)
      · exact fun accepted => absurd refused (accepted refusing)

def refusingSession : CustomWrapper where
  name := "refusing"
  start _ := .error (.configuration "refused")
  handle _ request := .pass request id

/-- The dispatch stage is stopped twice for its one start, and the session stage that refused to
start is stopped as well. -/
theorem refusal_is_undone_twice :
    let reached := runCalls
      ⟨.withOptions ⟨true, false⟩, { wrappers := [{ wrapper := .custom refusingSession }] }⟩
      [.setSessionStage (some 0), .beginStart]
    ¬ (∀ ref, Answered ref reached.host.journal.events) ∧
      reached.host.journal.events.count (.stage (.dispatch 0) .started) = 1 ∧
      reached.host.journal.events.count (.stage (.dispatch 0) .stopped) = 2 ∧
      reached.host.journal.events.count (.stage (.wrapper 0) .stopped) = 1 := by
  intro reached
  have entered : reached.host.journal.events =
      [.moved "default" .starting, .requested .dispatch,
        .stage (.wrapper 0) (.linked (.dispatch 0)),
        .stage (.dispatch 0) .started, .stage (.wrapper 0) .startFailed,
        .stage (.dispatch 0) .stopped, .moved "default" .failed,
        .stage (.wrapper 0) .stopped, .stage (.dispatch 0) .stopped,
        .stage (.dispatch 0) .cleared, .stage (.wrapper 0) .unlinked] := rfl
  obtain ⟨added, events, answered, -⟩ := stops_answer_starts_iff
    (Context.isNew_withOptions ⟨true, false⟩)
    { wrappers := [{ wrapper := .custom refusingSession }] }
    [.setSessionStage (some 0), .beginStart]
  have same : reached.host.journal.events = added := events.trans (List.nil_append added)
  rw [← same] at answered
  refine ⟨fun all => answered.mp all (.wrapper 0) ?_, ?_, ?_, ?_⟩
  · rw [entered]
    decide
  · rw [entered]
    rfl
  · rw [entered]
    rfl
  · rw [entered]
    rfl

end Deployment

end RequestPipeline
