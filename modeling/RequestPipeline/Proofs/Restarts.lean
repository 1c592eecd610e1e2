import RequestPipeline.Proofs.Renewal
import RequestPipeline.Proofs.RoutedStages

/-!
# Restarts

A context without startup hooks that is stopped and started again.  As long as its stages, units
and interceptors do as they have done, each of the four calls is accepted, and the context is set up
as it was before it was taken down: but for the snapshot of its registrations, which is made anew.
-/

namespace RequestPipeline

/-! ## Stages that go on to start -/

namespace Host

variable {before after host : Host}

/-- From now on the stage, if there is one, agrees to being started. -/
def Willing (host : Host) : StageRef → Prop
  | .wrapper index => ∀ wrapper, host.wrapperAt? index = some wrapper →
      ∀ later, host.journal.Continues later → wrapper.start later = .ok ()
  | .dispatch index => ∀ stage, host.stageAt? index = some stage →
      ∀ later, host.journal.Continues later → ∃ reported, stage.start later = .ok reported

theorem Willing.persists {ref : StageRef} (willing : before.Willing ref)
    (persists : before.Persists after) : after.Willing ref := by
  cases ref with
  | wrapper index =>
      intro wrapper there later continues
      rw [persists.wrapperAt?] at there
      exact willing wrapper there later (persists.journal.trans continues)
  | dispatch index =>
      intro stage there later continues
      rw [persists.stageAt?] at there
      exact willing stage there later (persists.journal.trans continues)

theorem startStage_willing {ref : StageRef} (willing : host.Willing ref) :
    (host.startStage ref).1 = .ok () := by
  cases ref with
  | wrapper index =>
      rw [startStage, startWrapper]
      cases found : host.wrappers[index]? with
      | none => rfl
      | some cell => exact willing cell.wrapper (by simp [wrapperAt?, found]) _ (.refl _)
  | dispatch index =>
      rw [startStage, startDispatch]
      cases found : host.dispatches[index]? with
      | none => rfl
      | some cell =>
          obtain ⟨reported, begun⟩ :=
            willing cell.stage (by simp [stageAt?, found]) host.journal (.refl _)
          dsimp only
          rw [begun]

/-- Routing is accepted when the stage accepts it and everything in it can be initialised. -/
theorem finalizeRouting_succeeds {index : Nat} {cell : DispatchCell}
    (found : host.dispatches[index]? = some cell) {snapshot : Snapshot}
    (accepts : cell.stage.finalize host.journal = .ok ())
    (initialises : ∀ start, host.journal.Continues start →
      ((RoutingTable.build snapshot cell.errorUnit).initAll start).1 = .ok ()) :
    (host.finalizeRouting index snapshot).1 = .ok () := by
  have noted : host.journal.Continues (host.journal.note (.stage (.dispatch index) .finalized)
      cell.stage.finalizeLine) := .note _ _ trivial
  have begun := initialises _ noted
  unfold finalizeRouting
  rw [found]
  dsimp only
  rw [accepts]
  dsimp only
  split
  · next refused =>
      change (RoutingTable.initAll _ (host.journal.note _ _)) = _ at refused
      rw [refused] at begun
      cases begun
  · rfl

end Host

/-- Stages last while a table is frozen in between. -/
theorem Host.persists_of_freeze {table : RegistrationTable} {loader : ClassLoader}
    {before middle after : Host} {result : Except Error Snapshot} {journal : Journal}
    (retains : before.Retains middle)
    (found : table.freeze loader middle.journal = (result, journal))
    (idles : Idles { middle with journal := journal } after) : before.Persists after := by
  have adds := table.freeze_adds loader middle.journal
  rw [found] at adds
  exact retains.persists.trans ((Remains.withJournal middle adds).persists.trans idles.persists)

/-- Stages that are willing are all started. -/
theorem Pipeline.startFrom_willing {refs : List StageRef} {host : Host}
    (willing : ∀ ref ∈ refs, host.Willing ref) (done : List StageRef) :
    (startFrom done refs host).1 = .ok () := by
  induction refs generalizing done host with
  | nil => rfl
  | cons ref rest ih =>
      have begins := Host.startStage_willing (willing ref List.mem_cons_self)
      have works := host.startStage_works ref
      unfold startFrom
      split
      · next started =>
          rw [started] at works
          exact ih (fun other member => (willing other (List.mem_cons_of_mem _ member)).persists
            works.persists) _
      · next refused =>
          rw [refused] at begins
          cases begins

namespace Context

/-- The context once it has stopped: its registrations are open again, and its pipeline is gone. -/
def stoppedWith (context : Context) (table : RegistrationTable) : Context :=
  { context with
    lifecycle := { context.lifecycle with state := .stopped }
    registrations := .opened table
    pipeline := none }

/-- The context while it starts again with the same pipeline. -/
def startingWith (context : Context) (table : RegistrationTable) : Context :=
  { context with
    lifecycle := { context.lifecycle with state := .starting }
    registrations := .opened table }

end Context

namespace Deployment

variable {before middle after deployment : Deployment} {pipeline : Pipeline}
  {snapshot : Snapshot}

/-! ## Calls that are accepted -/

/-- Each of the calls is accepted, and together they lead from one deployment to the other. -/
inductive Passes : Deployment → List Call → Deployment → Prop
  | nil (deployment : Deployment) : Passes deployment [] deployment
  | cons {before middle after : Deployment} {call : Call} {answer : Answer} {rest : List Call}
      (accepted : before.perform call = (.ok answer, middle)) (passes : Passes middle rest after) :
      Passes before (call :: rest) after

theorem Passes.runCalls {calls : List Call} (passes : before.Passes calls after) :
    before.runCalls calls = after := by
  induction passes with
  | nil deployment => rfl
  | cons accepted _ ih =>
      rw [← ih, Deployment.runCalls, List.foldl_cons, accepted]
      rfl

theorem Passes.append {first second : List Call} (early : before.Passes first middle)
    (late : middle.Passes second after) : before.Passes (first ++ second) after := by
  induction early with
  | nil deployment => exact late
  | cons accepted _ ih => exact .cons accepted (ih late)

theorem settleMove_ok {step : Except Error Unit × Deployment} (moved : step = (.ok (), after)) :
    settleMove step = (.ok .done, after) := by
  rw [moved]
  rfl

/-! ## Stopping -/

theorem beginStop_succeeds (started : deployment.context.state = .started)
    (installed : deployment.context.pipeline = some pipeline) :
    ∃ host, deployment.host.Retains host ∧
      deployment.beginStop = (.ok (), ⟨(deployment.entered .stopping).context, host⟩) := by
  have shut := deployment.shutdown_idles deployment.context.shutdownHooks
  exact ⟨_, shut.toRemains.trans (pipeline.stopAll_works _).retains,
    beginStop_started started installed⟩

theorem finishStop_succeeds (deployment : Deployment)
    (stopping : deployment.context.state = .stopping)
    (installed : deployment.context.pipeline = some pipeline)
    (frozen : deployment.context.registrations = .frozen snapshot) :
    ∃ host, deployment.host.Retains host ∧
      deployment.finishStop = (.ok (), ⟨{ (deployment.entered .stopped).context with
        registrations := .opened snapshot.table
        pipeline := none }, host⟩) := by
  have spec := deployment.finishStop_spec
  generalize deployment.finishStop = outcome at spec ⊢
  obtain ⟨result, after⟩ := outcome
  dsimp only at spec
  cases spec with
  | barred barred => exact absurd stopping barred
  | bare _ bare => cases bare.symm.trans installed
  | @finished pipeline _ there =>
      have entered : deployment.host.Idles (deployment.entered .stopped).host := .note _ none rfl
      have unrouted := entered.trans (pipeline.unlink_clearRouting_arranges _).idles
      refine ⟨_, unrouted.toRemains, ?_⟩
      rw [frozen]
      rfl

/-- A started context can be stopped. -/
theorem stops (started : deployment.context.state = .started)
    (installed : deployment.context.pipeline = some pipeline)
    (frozen : deployment.context.registrations = .frozen snapshot) :
    ∃ host, deployment.host.Retains host ∧
      deployment.Passes [.beginStop, .finishStop]
        ⟨deployment.context.stoppedWith snapshot.table, host⟩ := by
  obtain ⟨quiet, toQuiet, begun⟩ := beginStop_succeeds started installed
  obtain ⟨host, toHost, finished⟩ := finishStop_succeeds
    ⟨(deployment.entered .stopping).context, quiet⟩ rfl installed frozen
  exact ⟨host, toQuiet.trans toHost,
    .cons (settleMove_ok begun) (.cons (settleMove_ok finished) (.nil _))⟩

/-! ## Starting -/

/-- No stage is made when the slots hold those of the pipeline. -/
theorem installPipeline_of_chains (chains : deployment.context.Chains pipeline) :
    deployment.installPipeline = deployment.install pipeline := by
  have settled := chains.furnished.not_wants
  have session : deployment.sessionStage = (.ok pipeline.session, deployment) := by
    rw [chains.session]
    exact fetch_of_not_wants (settled .session)
  have security : deployment.securityStage = (.ok pipeline.security, deployment) := by
    rw [chains.security]
    exact fetch_of_not_wants (settled .security)
  have dispatch : deployment.dispatchStage = (.ok (some pipeline.dispatch), deployment) := by
    rw [← chains.dispatch]
    exact fetch_of_not_wants (settled .dispatch)
  unfold installPipeline
  rw [session]
  dsimp only
  rw [security]
  dsimp only
  rw [dispatch]

/-- A start of a context whose stages are there is begun when they are willing. -/
theorem beginStart_succeeds (deployment : Deployment)
    (admitted : deployment.context.state.canMoveTo .starting = true)
    (chains : deployment.context.Chains pipeline)
    (hookless : deployment.context.startupHooks = [])
    (willing : ∀ ref ∈ pipeline.stages, deployment.host.Willing ref) :
    ∃ host, deployment.host.Retains host ∧
      deployment.beginStart =
        (.ok (), (deployment.entered .starting).withPipeline pipeline host) ∧
      ∀ stage, host.stageAt? pipeline.dispatch = some stage →
        ∃ later, deployment.host.journal.Continues later ∧
          stage.start later = .ok (host.isStarted pipeline.dispatch) := by
  have entered : deployment.host.Idles (deployment.entered .starting).host := .note _ none rfl
  have assembled := entered.trans (pipeline.assemble_arranges _).idles
  have works := pipeline.startAll_works
    (pipeline.assemble (deployment.entered .starting).host)
  have begins := Pipeline.startFrom_willing (fun ref member =>
    (willing ref (List.mem_reverse.mp member)).persists assembled.persists) []
  rw [← Pipeline.startAll] at begins
  cases outcome : pipeline.startAll (pipeline.assemble (deployment.entered .starting).host) with
  | mk result host =>
  rw [outcome] at begins works
  obtain rfl : result = .ok () := begins
  refine ⟨host, assembled.toRemains.trans works.retains, ?_, ?_⟩
  · have kept : (deployment.entered .starting).context.Chains pipeline :=
      chains.congr (fun kind => by cases kind <;> rfl) rfl
    have installed : (deployment.entered .starting).installPipeline =
        (.ok (), (deployment.entered .starting).withPipeline pipeline host) := by
      rw [installPipeline_of_chains kept, install, outcome]
      rfl
    rw [beginStart, move_allowed admitted]
    dsimp only
    rw [setUp, installed]
    dsimp only
    rw [runHooks]
    have none : ((deployment.entered .starting).withPipeline pipeline
        host).context.startupHooks = [] := hookless
    rw [none]
    rfl
  · intro stage there
    rw [works.stageAt?] at there
    exact ⟨_, assembled.journal.continues, Pipeline.startAll_reports outcome there⟩

def withSnapshot (deployment : Deployment) (snapshot : Snapshot) (journal : Journal) :
    Deployment where
  context := { deployment.context with registrations := .frozen snapshot }
  host := { deployment.host with journal := journal }

theorem freeze_opened {table : RegistrationTable} {later : Journal}
    (opened : deployment.context.registrations = .opened table)
    (frozen : table.freeze deployment.context.loader deployment.host.journal =
      (.ok snapshot, later)) :
    deployment.freeze = (.ok snapshot, deployment.withSnapshot snapshot later) := by
  unfold freeze Registrations.freeze
  rw [opened]
  dsimp only
  rw [frozen]
  rfl

/-- Requests are routed when the dispatch stage, if it is started, accepts routing, and everything
can be initialised. -/
theorem routeBy_succeeds (installed : deployment.context.pipeline = some pipeline)
    (accepts : deployment.host.isStarted pipeline.dispatch = true →
      ∀ stage, deployment.host.stageAt? pipeline.dispatch = some stage →
      ∀ later, deployment.host.journal.Continues later → stage.finalize later = .ok ())
    (initialises : deployment.host.isStarted pipeline.dispatch = true →
      ∀ start, deployment.host.journal.Continues start →
        ((RoutingTable.build snapshot deployment.context.errorUnit).initAll start).1 = .ok ()) :
    (deployment.routeBy snapshot).1 = .ok () := by
  cases started : deployment.host.isStarted pipeline.dispatch with
  | false => rw [routeBy_unstarted installed started]
  | true =>
      rw [routeBy_started installed started]
      cases found : deployment.host.dispatches[pipeline.dispatch]? with
      | none => simp [Host.isStarted, found] at started
      | some cell =>
          have handled := Host.setErrorHandler_arranges deployment.host pipeline.dispatch
            deployment.context.errorUnit
          have onward := handled.journal.continues
          refine Host.finalizeRouting_succeeds
            (Host.dispatches_setErrorHandler found deployment.context.errorUnit) ?_ ?_
          · exact accepts started cell.stage (by simp [Host.stageAt?, found]) _ onward
          · exact fun start further => initialises started start (onward.trans further)

/-- A start is completed when the registrations freeze and requests are routed. -/
theorem finishStart_succeeds (deployment : Deployment) {table : RegistrationTable}
    {later : Journal} (starting : deployment.context.state = .starting)
    (opened : deployment.context.registrations = .opened table)
    (frozen : table.freeze deployment.context.loader deployment.host.journal =
      (.ok snapshot, later))
    (routed : (((deployment.withSnapshot snapshot later).entered .started).routeBy snapshot).1 =
      .ok ()) :
    deployment.finishStart = (.ok (),
      (((deployment.withSnapshot snapshot later).entered .started).routeBy snapshot).2) := by
  have accepted : deployment.context.lifecycle.require "finish_start" [.starting] = .ok () :=
    Context.require_ok_iff.mpr (List.mem_singleton.mpr starting)
  have allowed : (deployment.withSnapshot snapshot later).context.state.canMoveTo .started =
      true := by
    change deployment.context.state.canMoveTo .started = true
    rw [starting]
    rfl
  have completed : deployment.complete =
      ((deployment.withSnapshot snapshot later).entered .started).routeBy snapshot := by
    unfold complete
    rw [freeze_opened opened frozen]
    dsimp only
    rw [move_allowed allowed]
  unfold finishStart
  rw [accepted]
  dsimp only
  rw [completed]
  cases outcome : ((deployment.withSnapshot snapshot later).entered .started).routeBy snapshot with
  | mk result after =>
  rw [outcome] at routed
  obtain rfl : result = .ok () := routed
  rfl

/-! ## Round the cycle -/

/-- A stop and the start after it. -/
def restart : List Call := [.beginStop, .finishStop, .beginStart, .finishStart]

def restartsOf (rounds : Nat) : List Call := (List.replicate rounds restart).flatten

theorem restartsOf_succ (rounds : Nat) :
    restartsOf (rounds + 1) = restartsOf rounds ++ restart := by
  rw [restartsOf, List.replicate_succ', List.flatten_concat]
  rfl

/-- From now on everything does as it has done: the stages of the pipeline start, the dispatch
stage reports what it reports now, and if it is started it accepts routing, and the units, the
interceptors and the error handler can be initialised.  Classes are found as they have been. -/
structure Steady (deployment : Deployment) (pipeline : Pipeline) : Prop where
  loads : deployment.context.loader.Steady
  willing : ∀ ref ∈ pipeline.stages, deployment.host.Willing ref
  reports : ∀ stage, deployment.host.stageAt? pipeline.dispatch = some stage →
    ∀ later reported, deployment.host.journal.Continues later →
      stage.start later = .ok reported → reported = deployment.host.isStarted pipeline.dispatch
  accepts : deployment.host.isStarted pipeline.dispatch = true →
    ∀ stage, deployment.host.stageAt? pipeline.dispatch = some stage →
    ∀ later, deployment.host.journal.Continues later → stage.finalize later = .ok ()
  units : deployment.host.isStarted pipeline.dispatch = true →
    Ready deployment.context.loader.unit ServiceUnit.init
      deployment.context.registrations.declared.unitBindings deployment.host.journal
  interceptors : deployment.host.isStarted pipeline.dispatch = true →
    Ready deployment.context.loader.interceptor Interceptor.init
      deployment.context.registrations.declared.interceptorBindings deployment.host.journal
  handler : deployment.host.isStarted pipeline.dispatch = true →
    ∀ unit, deployment.context.errorUnit = some unit →
    ∀ later, deployment.host.journal.Continues later →
      unit.body.init later Participant.errorHandlerName = .ok ()

/-- A dispatch stage that has been started again reports what it did before. -/
theorem Steady.resumes {host : Host} (steady : deployment.Steady pipeline)
    (persists : deployment.host.Persists host)
    (begun : ∀ stage, host.stageAt? pipeline.dispatch = some stage →
      ∃ later, deployment.host.journal.Continues later ∧
        stage.start later = .ok (host.isStarted pipeline.dispatch)) :
    host.isStarted pipeline.dispatch = deployment.host.isStarted pipeline.dispatch := by
  cases there : host.stageAt? pipeline.dispatch with
  | none =>
      have nowhere := (persists.stageAt? pipeline.dispatch).symm.trans there
      rw [Host.isStarted, Option.map_eq_none_iff.mp there, Host.isStarted,
        Option.map_eq_none_iff.mp nowhere]
  | some stage =>
      obtain ⟨later, continues, started⟩ := begun stage there
      rw [persists.stageAt?] at there
      exact steady.reports stage there later _ continues started

/-- It goes on like that as long as stages and bindings remain. -/
theorem Steady.later (steady : before.Steady pipeline)
    (persists : before.host.Persists after.host)
    (reports : after.host.isStarted pipeline.dispatch = before.host.isStarted pipeline.dispatch)
    (loader : after.context.loader = before.context.loader)
    (errorUnit : after.context.errorUnit = before.context.errorUnit)
    (declared : after.context.registrations.declared = before.context.registrations.declared) :
    after.Steady pipeline := by
  have grown := persists.journal
  refine ⟨?_, ?_, ?_, ?_, ?_, ?_, ?_⟩
  · rw [loader]
    exact steady.loads
  · exact fun ref member => (steady.willing ref member).persists persists
  · intro stage there later reported continues
    rw [persists.stageAt?] at there
    rw [reports]
    exact steady.reports stage there later reported (grown.trans continues)
  · rw [reports]
    intro started stage there later continues
    rw [persists.stageAt?] at there
    exact steady.accepts started stage there later (grown.trans continues)
  · rw [reports, loader, declared]
    exact fun started => (steady.units started).continues grown
  · rw [reports, loader, declared]
    exact fun started => (steady.interceptors started).continues grown
  · rw [reports, errorUnit]
    exact fun started unit given later continues =>
      steady.handler started unit given later (grown.trans continues)

/-- Requests can be routed by a snapshot that is made while it goes on like that. -/
theorem Steady.routes {journal later : Journal} (steady : before.Steady pipeline)
    (installed : after.context.pipeline = some pipeline)
    (errorUnit : after.context.errorUnit = before.context.errorUnit)
    (persists : before.host.Persists after.host)
    (reports : after.host.isStarted pipeline.dispatch = before.host.isStarted pipeline.dispatch)
    (found : before.context.registrations.declared.freeze before.context.loader journal =
      (.ok snapshot, later))
    (early : before.host.journal.Continues journal)
    (late : later.Continues after.host.journal) :
    (after.routeBy snapshot).1 = .ok () := by
  refine routeBy_succeeds installed ?_ ?_
  · rw [reports]
    intro started stage there further continues
    rw [persists.stageAt?] at there
    exact steady.accepts started stage there further (persists.journal.trans continues)
  · rw [reports, errorUnit]
    intro started start continues
    exact RoutingTable.initAll_succeeds found ((steady.units started).continues early)
      ((steady.interceptors started).continues early)
      (fun unit given onward further =>
        steady.handler started unit given onward (early.trans further))
      (late.trans continues)

/-- After a number of rounds: the context is what it was but for its snapshot, which is of the same
table, the stages are those of before, and in each round one object has been constructed for every
binding that declares a class. -/
structure Restarted (pipeline : Pipeline) (rounds : Nat) (before after : Deployment) : Prop where
  context : ∃ snapshot, snapshot.table = before.context.registrations.declared ∧
    after.context = { before.context with registrations := .frozen snapshot }
  persists : before.host.Persists after.host
  reports : after.host.isStarted pipeline.dispatch = before.host.isStarted pipeline.dispatch
  constructions : after.host.journal.constructions = before.host.journal.constructions +
    rounds * before.context.registrations.declared.declaredBindings

namespace Restarted

theorem refl (frozen : deployment.context.registrations = .frozen snapshot) :
    Restarted pipeline 0 deployment deployment := by
  refine ⟨⟨snapshot, ?_, ?_⟩, .refl _, rfl, by simp⟩
  · rw [frozen]
    rfl
  · rw [← frozen]

theorem declared {rounds : Nat} (restarted : Restarted pipeline rounds before after) :
    after.context.registrations.declared = before.context.registrations.declared := by
  obtain ⟨snapshot, table, context⟩ := restarted.context
  rw [context]
  exact table

theorem trans {rounds more : Nat} (first : Restarted pipeline rounds before middle)
    (second : Restarted pipeline more middle after) :
    Restarted pipeline (rounds + more) before after := by
  have declared := first.declared
  obtain ⟨early, -, toMiddle⟩ := first.context
  obtain ⟨snapshot, table, toAfter⟩ := second.context
  refine ⟨⟨snapshot, table.trans declared, ?_⟩, first.persists.trans second.persists,
    second.reports.trans first.reports, ?_⟩
  · rw [toAfter, toMiddle]
  · rw [second.constructions, first.constructions, declared, Nat.add_mul, Nat.add_assoc]

end Restarted

/-- What a restart asks for: a started context without startup hooks, whose registrations have been
frozen, and whose stages, units and interceptors do as they have done. -/
structure Restartable (deployment : Deployment) (pipeline : Pipeline) : Prop where
  started : deployment.context.state = .started
  installed : deployment.context.pipeline = some pipeline
  chains : deployment.context.Chains pipeline
  hookless : deployment.context.startupHooks = []
  frozen : ∃ snapshot journal later, deployment.context.registrations = .frozen snapshot ∧
    snapshot.table.freeze deployment.context.loader journal = (.ok snapshot, later)
  steady : deployment.Steady pipeline

/-- Such a context is stopped and begins a start: nothing has been constructed since. -/
theorem Restartable.begins (restartable : before.Restartable pipeline) :
    ∃ host, before.host.Retains host ∧
      host.isStarted pipeline.dispatch = before.host.isStarted pipeline.dispatch ∧
      before.Passes [.beginStop, .finishStop, .beginStart]
        ⟨before.context.startingWith before.context.registrations.declared, host⟩ := by
  obtain ⟨snapshot, -, -, frozen, -⟩ := restartable.frozen
  have declared : before.context.registrations.declared = snapshot.table := by
    rw [frozen]
    rfl
  obtain ⟨stopped, toStopped, stopping⟩ :=
    stops restartable.started restartable.installed frozen
  have chains : (before.context.stoppedWith snapshot.table).Chains pipeline :=
    restartable.chains.congr (fun kind => by cases kind <;> rfl) rfl
  obtain ⟨host, toHost, begun, reports⟩ := beginStart_succeeds
    ⟨before.context.stoppedWith snapshot.table, stopped⟩ rfl chains restartable.hookless
    fun ref member => (restartable.steady.willing ref member).persists toStopped.persists
  have retains := toStopped.trans toHost
  refine ⟨host, retains, restartable.steady.resumes retains.persists ?_, ?_⟩
  · intro stage there
    obtain ⟨later, continues, started⟩ := reports stage there
    exact ⟨later, toStopped.persists.journal.trans continues, started⟩
  · refine stopping.append (.cons (settleMove_ok begun) ?_)
    rw [withPipeline, ← restartable.installed, declared]
    exact .nil _

/-- A start that has been begun so is completed, with objects that are found anew. -/
theorem Restartable.completes (restartable : before.Restartable pipeline) {host : Host}
    (retains : before.host.Retains host)
    (reports : host.isStarted pipeline.dispatch = before.host.isStarted pipeline.dispatch) :
    ∃ renewed journal after, before.context.registrations.declared.freeze before.context.loader
        host.journal = (.ok renewed, journal) ∧
      Host.Idles { host with journal := journal } after.host ∧
      after.context = { before.context with registrations := .frozen renewed } ∧
      Passes ⟨before.context.startingWith before.context.registrations.declared, host⟩
        [.finishStart] after := by
  obtain ⟨snapshot, past, later, frozen, made⟩ := restartable.frozen
  have declared : before.context.registrations.declared = snapshot.table := by
    rw [frozen]
    rfl
  rw [← declared] at made
  obtain ⟨renewed, journal, found⟩ :=
    RegistrationTable.freezes_again restartable.steady.loads ⟨snapshot, later, made⟩ host.journal
  let starting : Deployment :=
    ⟨before.context.startingWith before.context.registrations.declared, host⟩
  let ready : Deployment := (starting.withSnapshot renewed journal).entered .started
  have entered : Host.Idles { host with journal := journal } ready.host := .note _ none rfl
  have routed : (ready.routeBy renewed).1 = .ok () :=
    restartable.steady.routes restartable.installed rfl
      (Host.persists_of_freeze retains found entered) ((entered.isStarted _).trans reports) found
      retains.persists.journal entered.persists.journal
  have finished := starting.finishStart_succeeds rfl rfl found routed
  refine ⟨renewed, journal, _, found, entered.trans (ready.routeBy_idles renewed), ?_,
    .cons (settleMove_ok finished) (.nil _)⟩
  have lifecycle : ({ before.context.lifecycle with state := .started } : Lifecycle) =
      before.context.lifecycle := by
    rw [← restartable.started]
    rfl
  rw [(ready.routeBy_spec renewed).context]
  change { before.context with
    lifecycle := { before.context.lifecycle with state := .started }
    registrations := .frozen renewed } = _
  rw [lifecycle]

/-- A restart is accepted call by call and can be repeated.  Every binding that declares a class
gets an object of its own in it. -/
theorem Restartable.restarts (restartable : before.Restartable pipeline) :
    ∃ renewed after, before.Passes restart after ∧ after.Restartable pipeline ∧
      Restarted pipeline 1 before after ∧ after.context.registrations = .frozen renewed ∧
      before.context.registrations.declared.RenewedFrom before.host.journal.constructions
        renewed := by
  obtain ⟨host, retains, reports, begun⟩ := restartable.begins
  obtain ⟨renewed, journal, after, found, idles, context, completed⟩ :=
    restartable.completes retains reports
  have table := RegistrationTable.table_of_freeze found
  obtain ⟨objects, made⟩ := RegistrationTable.freeze_renews found
  rw [Journal.constructions_of_adds retains.journal] at objects made
  have restarted : Restarted pipeline 1 before after := by
    refine ⟨⟨renewed, table, context⟩, Host.persists_of_freeze retains found idles,
      (idles.isStarted pipeline.dispatch).trans reports, ?_⟩
    rw [Journal.constructions_of_adds idles.journal, Nat.one_mul]
    exact made
  have registrations : after.context.registrations = .frozen renewed := by rw [context]
  refine ⟨renewed, after, begun.append completed, ?_, restarted, registrations, objects⟩
  refine ⟨?_, ?_, ?_, ?_, ⟨renewed, host.journal, journal, registrations, ?_⟩, ?_⟩
  · rw [context]
    exact restartable.started
  · rw [context]
    exact restartable.installed
  · rw [context]
    exact restartable.chains.congr (fun kind => by cases kind <;> rfl) rfl
  · rw [context]
    exact restartable.hookless
  · rw [table, context]
    exact found
  · refine restartable.steady.later restarted.persists restarted.reports ?_ ?_ restarted.declared
    · rw [context]
    · rw [context]

/-- Any number of restarts is accepted, call by call. -/
theorem Restartable.passes (restartable : before.Restartable pipeline) (rounds : Nat) :
    ∃ after, before.Passes (restartsOf rounds) after ∧ after.Restartable pipeline ∧
      Restarted pipeline rounds before after := by
  induction rounds with
  | zero =>
      obtain ⟨snapshot, -, -, frozen, -⟩ := restartable.frozen
      exact ⟨before, .nil _, restartable, .refl frozen⟩
  | succ rounds ih =>
      obtain ⟨middle, passed, again, early⟩ := ih
      obtain ⟨renewed, after, once, afresh, restarted, -⟩ := again.restarts
      rw [restartsOf_succ]
      exact ⟨after, passed.append once, afresh, early.trans restarted⟩

end Deployment

end RequestPipeline
