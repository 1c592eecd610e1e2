import RequestPipeline.Proofs.Serving
import RequestPipeline.Proofs.Slots
import RequestPipeline.Proofs.TableGrowth

/-!
# What a life-cycle call does

For each of the four calls, once: under which condition it is accepted, which part of a deployment
it changes, and at which step it may fail.
-/

namespace RequestPipeline

/-- The pipeline has the stages of the slots, and no slot has yet to be filled. -/
structure Context.Chains (context : Context) (pipeline : Pipeline) : Prop where
  session : pipeline.session = context.session.stage
  security : pipeline.security = context.security.stage
  dispatch : context.dispatch.stage = some pipeline.dispatch
  furnished : context.Furnished

namespace Deployment

def entered (deployment : Deployment) (target : LifecycleState) : Deployment where
  context := { deployment.context with
    lifecycle := { deployment.context.lifecycle with state := target } }
  host := deployment.host.note (.moved deployment.context.name target) none

def withPipeline (deployment : Deployment) (pipeline : Pipeline) (host : Host) : Deployment :=
  ⟨{ deployment.context with pipeline := some pipeline }, host⟩

def withoutPipeline (deployment : Deployment) (host : Host) : Deployment :=
  ⟨{ deployment.context with pipeline := none }, host⟩

theorem entered_rests (deployment : Deployment) (target : LifecycleState) :
    deployment.host.Rests (deployment.entered target).host :=
  .note _ none rfl

/-! ## Moves -/

theorem move_allowed {deployment : Deployment} {target : LifecycleState}
    (allowed : deployment.context.state.canMoveTo target = true) (operation : String) :
    deployment.move operation target = (.ok (), deployment.entered target) := by
  have possible : deployment.context.lifecycle.state.canMoveTo target = true := allowed
  simp only [move, Lifecycle.move, possible]
  rfl

theorem move_barred {deployment : Deployment} {target : LifecycleState}
    (barred : deployment.context.state.canMoveTo target = false) (operation : String) :
    deployment.move operation target =
      (.error (.illegalState operation deployment.context.state), deployment) := by
  have impossible : deployment.context.lifecycle.state.canMoveTo target = false := barred
  simp only [move, Lifecycle.move_refused impossible]
  rfl

/-! ## Giving a start up -/

/-- The host once the pipeline, if there is one, has been stopped, unrouted and unlinked. -/
def takenDown (deployment : Deployment) : Host :=
  match deployment.context.pipeline with
  | none => deployment.host
  | some pipeline => pipeline.unlink
      ((pipeline.stopAll deployment.host).clearRouting pipeline.dispatch)

theorem abortStart_eq {deployment : Deployment}
    (active : deployment.context.state.canMoveTo .failed = true) :
    deployment.abortStart =
      (deployment.entered .failed).withoutPipeline (deployment.entered .failed).takenDown := by
  have possible : deployment.context.lifecycle.state.canMoveTo .failed = true := active
  obtain ⟨context, host⟩ := deployment
  cases installed : context.pipeline with
  | none =>
      simp only [abortStart, Lifecycle.fail, possible, if_true, installed, takenDown, entered,
        withoutPipeline]
      rfl
  | some pipeline =>
      simp only [abortStart, Lifecycle.fail, possible, if_true, installed, takenDown, entered,
        withoutPipeline]
      rfl

/-! ## Beginning a start -/

inductive RunHooks (deployment : Deployment) : Except Error Unit → Deployment → Prop
  | hookless (none : deployment.context.startupHooks.isEmpty = true) :
      RunHooks deployment (.ok ()) deployment
  | closed {e : Error} (closed : deployment.context.registrations.openFor "begin_start"
      deployment.context.state = .error e) : RunHooks deployment (.error e) deployment
  | ran {table grown : RegistrationTable} {journal : Journal} {result : Except Error Unit}
      (opened : deployment.context.registrations = .opened table) (grows : table.Grows grown)
      (adds : Journal.Adds (· = .remark) deployment.host.journal journal) :
      RunHooks deployment result
        ⟨deployment.context.withTable grown, { deployment.host with journal := journal }⟩

/-- What installing a pipeline comes to: stages are asked for, linked and started. -/
inductive InstallPipeline (deployment : Deployment) : Except Error Unit → Deployment → Prop
  | unfurnished {ready : Deployment} {e : Error} (fetches : deployment.Fetches ready) :
      InstallPipeline deployment (.error e) ready
  | installed {ready : Deployment} {pipeline : Pipeline} {host : Host}
      {result : Except Error Unit}
      (fetches : deployment.Fetches ready) (chains : ready.context.Chains pipeline)
      (outcome : pipeline.startAll (pipeline.assemble ready.host) = (result, host)) :
      InstallPipeline deployment result (ready.withPipeline pipeline host)

/-- What setting up comes to: stages are asked for, linked and started, and the hooks run. -/
inductive SetUp (deployment : Deployment) : Except Error Unit → Deployment → Prop
  | unfurnished {ready : Deployment} {e : Error} (fetches : deployment.Fetches ready) :
      SetUp deployment (.error e) ready
  | refused {ready : Deployment} {pipeline : Pipeline} {host : Host} {e : Error}
      (fetches : deployment.Fetches ready) (chains : ready.context.Chains pipeline)
      (outcome : pipeline.startAll (pipeline.assemble ready.host) = (.error e, host)) :
      SetUp deployment (.error e) (ready.withPipeline pipeline host)
  | hooked {ready after : Deployment} {pipeline : Pipeline} {host : Host}
      {result : Except Error Unit}
      (fetches : deployment.Fetches ready) (chains : ready.context.Chains pipeline)
      (outcome : pipeline.startAll (pipeline.assemble ready.host) = (.ok (), host))
      (hooks : (ready.withPipeline pipeline host).RunHooks result after) :
      SetUp deployment result after

inductive BeginStart (deployment : Deployment) : Except Error Unit → Deployment → Prop
  | barred (barred : deployment.context.state.canMoveTo .starting = false) :
      BeginStart deployment
        (.error (.illegalState "begin_start" deployment.context.state)) deployment
  | failed {ready : Deployment} {e : Error}
      (allowed : deployment.context.state.canMoveTo .starting = true)
      (setUp : (deployment.entered .starting).SetUp (.error e) ready) :
      BeginStart deployment (.error e) ready.abortStart
  | begun {ready : Deployment}
      (allowed : deployment.context.state.canMoveTo .starting = true)
      (setUp : (deployment.entered .starting).SetUp (.ok ()) ready) :
      BeginStart deployment (.ok ()) ready

theorem runHooks_spec (deployment : Deployment) :
    deployment.RunHooks deployment.runHooks.1 deployment.runHooks.2 := by
  unfold runHooks
  dsimp only
  split
  · next none => exact .hookless none
  · split
    · next e closed => exact .closed closed
    · next table opened =>
        obtain ⟨grows, adds⟩ := runStartupHooks_grows deployment.context.name
          deployment.context.startupHooks table deployment.host.journal
        exact .ran (Context.openFor_ok_iff.mp opened) grows adds

theorem fetch_eq {deployment after : Deployment} (kind : StageKind)
    {result : Except Error (Option Nat)} (outcome : deployment.fetch kind = (result, after)) :
    deployment.Fetch kind result after := by
  have spec := deployment.fetch_spec kind
  rwa [outcome] at spec

/-- Once the three stages have been given back, the slots hold them: the later requests leave the
earlier slots alone. -/
theorem chains_of_fetch {deployment first second ready : Deployment}
    {session security : Option Nat} {dispatch : Nat}
    (early : deployment.context.state.isStartedOrLater = false)
    (one : deployment.Fetch .session (.ok session) first)
    (two : first.Fetch .security (.ok security) second)
    (three : second.Fetch .dispatch (.ok (some dispatch)) ready) :
    ready.context.Chains ⟨session, security, dispatch⟩ := by
  have sessionKept : ready.context.session.stage = session := by
    have toSecond := two.other .session (by decide)
    have toReady := three.other .session (by decide)
    exact congrArg Slot.stage (toReady.trans toSecond) |>.trans one.stage
  have securityKept : ready.context.security.stage = security :=
    congrArg Slot.stage (three.other .security (by decide)) |>.trans two.stage
  have dispatchKept : ready.context.dispatch.stage = some dispatch := three.stage
  have options : ready.context.options = deployment.context.options := by
    rw [three.refits.options, two.refits.options, one.refits.options]
  refine ⟨sessionKept.symm, securityKept.symm, dispatchKept, ?_⟩
  intro kind enabled
  rw [options] at enabled
  cases kind with
  | session =>
      have filled := one.filled early enabled
      rw [one.stage] at filled
      exact (congrArg Option.isSome sessionKept).trans filled
  | security =>
      have filled := two.filled (one.refits.state ▸ early) (one.refits.options ▸ enabled)
      rw [two.stage] at filled
      exact (congrArg Option.isSome securityKept).trans filled
  | dispatch => exact congrArg Option.isSome dispatchKept

theorem installPipeline_spec (deployment : Deployment)
    (early : deployment.context.state.isStartedOrLater = false) :
    deployment.InstallPipeline deployment.installPipeline.1 deployment.installPipeline.2 := by
  unfold installPipeline
  cases one : deployment.sessionStage with
  | mk result first =>
  have fetchSession := fetch_eq .session one
  have reachFirst : deployment.Fetches first := .single ⟨_, _, fetchSession⟩
  cases result with
  | error e => exact .unfurnished reachFirst
  | ok session =>
  cases two : first.securityStage with
  | mk result second =>
  have fetchSecurity := fetch_eq .security two
  have reachSecond : deployment.Fetches second := reachFirst.tail ⟨_, _, fetchSecurity⟩
  cases result with
  | error e => simpa only [two] using InstallPipeline.unfurnished reachSecond
  | ok security =>
  cases three : second.dispatchStage with
  | mk result ready =>
  have fetchDispatch := fetch_eq .dispatch three
  have reachReady : deployment.Fetches ready := reachSecond.tail ⟨_, _, fetchDispatch⟩
  cases result with
  | error e => simpa only [two, three] using InstallPipeline.unfurnished reachReady
  | ok found =>
  cases found with
  | none => simpa only [two, three] using InstallPipeline.unfurnished reachReady
  | some dispatch =>
  have chains := chains_of_fetch early fetchSession fetchSecurity fetchDispatch
  simp only [two, three, install]
  exact .installed reachReady chains rfl

theorem setUp_spec (deployment : Deployment)
    (early : deployment.context.state.isStartedOrLater = false) :
    deployment.SetUp deployment.setUp.1 deployment.setUp.2 := by
  unfold setUp
  have spec := deployment.installPipeline_spec early
  generalize deployment.installPipeline = outcome at spec
  obtain ⟨result, ready⟩ := outcome
  cases spec with
  | unfurnished fetches => exact .unfurnished fetches
  | installed fetches chains outcome =>
      cases result with
      | error e => exact .refused fetches chains outcome
      | ok _ => exact .hooked fetches chains outcome (runHooks_spec _)

theorem beginStart_spec (deployment : Deployment) :
    deployment.BeginStart deployment.beginStart.1 deployment.beginStart.2 := by
  unfold beginStart
  cases allowed : deployment.context.state.canMoveTo .starting with
  | false =>
      rw [move_barred allowed]
      exact .barred allowed
  | true =>
      rw [move_allowed allowed]
      have spec := setUp_spec (deployment.entered .starting) rfl
      dsimp only
      generalize (deployment.entered .starting).setUp = outcome at spec
      obtain ⟨result, ready⟩ := outcome
      cases result with
      | error e => exact .failed allowed spec
      | ok _ => exact .begun allowed spec

/-! ## Completing a start -/

inductive Freeze (deployment : Deployment) : Except Error Snapshot → Deployment → Prop
  | failed {table : RegistrationTable} {e : Error} {journal : Journal}
      (opened : deployment.context.registrations = .opened table)
      (outcome : table.freeze deployment.context.loader deployment.host.journal
        = (.error e, journal)) :
      Freeze deployment (.error e)
        { deployment with host := { deployment.host with journal := journal } }
  | frozen {table : RegistrationTable} {snapshot : Snapshot} {journal : Journal}
      (opened : deployment.context.registrations = .opened table)
      (outcome : table.freeze deployment.context.loader deployment.host.journal
        = (.ok snapshot, journal)) :
      Freeze deployment (.ok snapshot)
        ⟨{ deployment.context with registrations := .frozen snapshot },
          { deployment.host with journal := journal }⟩
  | already {snapshot : Snapshot}
      (frozen : deployment.context.registrations = .frozen snapshot) :
      Freeze deployment (.ok snapshot) deployment

inductive RouteBy (deployment : Deployment) (snapshot : Snapshot) :
    Except Error Unit → Deployment → Prop
  | unrouted : RouteBy deployment snapshot (.ok ()) deployment
  | routed {pipeline : Pipeline} {result : Except Error Unit} {host : Host}
      (installed : deployment.context.pipeline = some pipeline)
      (outcome : (deployment.host.setErrorHandler pipeline.dispatch
        deployment.context.errorUnit).finalizeRouting pipeline.dispatch snapshot
          = (result, host)) :
      RouteBy deployment snapshot result { deployment with host := host }

/-- What completing comes to: the registrations are frozen and requests are routed. -/
inductive Complete (deployment : Deployment) : Except Error Unit → Deployment → Prop
  | unfrozen {after : Deployment} {e : Error} (freeze : deployment.Freeze (.error e) after) :
      Complete deployment (.error e) after
  | frozen {ready after : Deployment} {snapshot : Snapshot} {result : Except Error Unit}
      (freeze : deployment.Freeze (.ok snapshot) ready)
      (route : (ready.entered .started).RouteBy snapshot result after) :
      Complete deployment result after

inductive FinishStart (deployment : Deployment) : Except Error Unit → Deployment → Prop
  | barred (barred : deployment.context.state ≠ .starting) :
      FinishStart deployment
        (.error (.illegalState "finish_start" deployment.context.state)) deployment
  | failed {ready : Deployment} {e : Error} (starting : deployment.context.state = .starting)
      (complete : deployment.Complete (.error e) ready) :
      FinishStart deployment (.error e) ready.abortStart
  | finished {ready : Deployment} (starting : deployment.context.state = .starting)
      (complete : deployment.Complete (.ok ()) ready) :
      FinishStart deployment (.ok ()) ready

theorem freeze_spec (deployment : Deployment) :
    deployment.Freeze deployment.freeze.1 deployment.freeze.2 := by
  unfold freeze Registrations.freeze
  cases held : deployment.context.registrations with
  | frozen snapshot =>
      have same : (⟨{ deployment.context with registrations := .frozen snapshot },
          { deployment.host with journal := deployment.host.journal }⟩ : Deployment)
            = deployment := by
        rw [← held]
      simp only
      rw [same]
      exact .already held
  | opened table =>
      cases outcome : table.freeze deployment.context.loader deployment.host.journal with
      | mk result journal =>
      cases result with
      | error e =>
          simp only [outcome]
          rw [← held]
          exact .failed held outcome
      | ok snapshot =>
          simp only [outcome]
          exact .frozen held outcome

theorem Freeze.state {before after : Deployment} {result : Except Error Snapshot}
    (freeze : before.Freeze result after) : after.context.state = before.context.state := by
  cases freeze <;> rfl

theorem Freeze.pipeline {before after : Deployment} {result : Except Error Snapshot}
    (freeze : before.Freeze result after) :
    after.context.pipeline = before.context.pipeline := by
  cases freeze <;> rfl

theorem routeBy_spec (deployment : Deployment) (snapshot : Snapshot) :
    deployment.RouteBy snapshot (deployment.routeBy snapshot).1
      (deployment.routeBy snapshot).2 := by
  unfold routeBy
  split
  · exact .unrouted
  · next pipeline installed =>
      split
      · exact .routed installed rfl
      · exact .unrouted

theorem complete_spec {deployment : Deployment}
    (starting : deployment.context.state = .starting) :
    deployment.Complete deployment.complete.1 deployment.complete.2 := by
  unfold complete
  have spec := deployment.freeze_spec
  generalize deployment.freeze = outcome at spec
  obtain ⟨result, ready⟩ := outcome
  cases result with
  | error e => exact .unfrozen spec
  | ok snapshot =>
      have allowed : ready.context.state.canMoveTo .started = true := by
        rw [spec.state, starting]
        rfl
      dsimp only
      rw [move_allowed allowed]
      exact .frozen spec (routeBy_spec _ snapshot)

theorem finishStart_spec (deployment : Deployment) :
    deployment.FinishStart deployment.finishStart.1 deployment.finishStart.2 := by
  unfold finishStart
  split
  · next e refused =>
      obtain ⟨rfl, outside⟩ := Lifecycle.require_error refused
      refine .barred fun starting => outside ?_
      exact List.mem_singleton.mpr starting
  · next accepted =>
      have starting : deployment.context.state = .starting :=
        List.mem_singleton.mp (Context.require_ok_iff.mp accepted)
      have spec := complete_spec starting
      generalize deployment.complete = outcome at spec
      obtain ⟨result, ready⟩ := outcome
      cases result with
      | error e => exact .failed starting spec
      | ok _ => exact .finished starting spec

/-! ## Stopping -/

inductive BeginStop (deployment : Deployment) : Except Error Unit → Deployment → Prop
  | barred (barred : deployment.context.state ≠ .started) :
      BeginStop deployment
        (.error (.illegalState "begin_stop" deployment.context.state)) deployment
  | bare {host : Host} (started : deployment.context.state = .started)
      (bare : deployment.context.pipeline = none)
      (rests : deployment.host.Rests host) (kept : host.wrappers = deployment.host.wrappers) :
      BeginStop deployment (.ok ()) ⟨(deployment.entered .stopping).context, host⟩
  | begun {host : Host} {pipeline : Pipeline} (started : deployment.context.state = .started)
      (installed : deployment.context.pipeline = some pipeline)
      (rests : deployment.host.Rests host) (kept : host.wrappers = deployment.host.wrappers) :
      BeginStop deployment (.ok ())
        ⟨(deployment.entered .stopping).context, pipeline.stopAll host⟩

inductive FinishStop (deployment : Deployment) : Except Error Unit → Deployment → Prop
  | barred (barred : deployment.context.state ≠ .stopping) :
      FinishStop deployment
        (.error (.illegalState "finish_stop" deployment.context.state)) deployment
  | bare (stopping : deployment.context.state = .stopping)
      (bare : deployment.context.pipeline = none) :
      FinishStop deployment (.ok ())
        ⟨{ (deployment.entered .stopped).context with
            registrations := deployment.context.registrations.thaw },
          (deployment.entered .stopped).host⟩
  | finished {pipeline : Pipeline} (stopping : deployment.context.state = .stopping)
      (installed : deployment.context.pipeline = some pipeline) :
      FinishStop deployment (.ok ())
        ⟨{ (deployment.entered .stopped).context with
            registrations := deployment.context.registrations.thaw
            pipeline := none },
          pipeline.unlink ((deployment.entered .stopped).host.clearRouting pipeline.dispatch)⟩

theorem runShutdownHooks_adds (hooks : List ShutdownHook) (journal : Journal) :
    Journal.Adds (· = .remark) journal (runShutdownHooks hooks journal) := by
  refine .foldl (fun journal hook => ?_) hooks.reverse journal
  exact .note journal hook.line rfl

theorem canMoveTo_stopping_iff (state : LifecycleState) :
    state.canMoveTo .stopping = true ↔ state = .started := by
  cases state <;> decide

theorem canMoveTo_stopped_iff (state : LifecycleState) :
    state.canMoveTo .stopped = true ↔ state = .stopping := by
  cases state <;> decide

theorem beginStop_spec (deployment : Deployment) :
    deployment.BeginStop deployment.beginStop.1 deployment.beginStop.2 := by
  unfold beginStop
  cases allowed : deployment.context.state.canMoveTo .stopping with
  | false =>
      rw [move_barred allowed]
      refine .barred fun started => ?_
      rw [(canMoveTo_stopping_iff _).mpr started] at allowed
      cases allowed
  | true =>
      have started := (canMoveTo_stopping_iff _).mp allowed
      rw [move_allowed allowed]
      have remarked : Journal.Adds (·.isMinor = true) _ _ :=
        (runShutdownHooks_adds deployment.context.shutdownHooks
          (deployment.entered .stopping).host.journal).mono (by rintro event rfl; rfl)
      have rests := (deployment.entered_rests .stopping).trans (.withJournal _ remarked)
      dsimp only
      split
      · next none => exact .bare started none rests rfl
      · next pipeline installed => exact .begun started installed rests rfl

theorem finishStop_spec (deployment : Deployment) :
    deployment.FinishStop deployment.finishStop.1 deployment.finishStop.2 := by
  unfold finishStop
  cases allowed : deployment.context.state.canMoveTo .stopped with
  | false =>
      rw [move_barred allowed]
      refine .barred fun stopping => ?_
      rw [(canMoveTo_stopped_iff _).mpr stopping] at allowed
      cases allowed
  | true =>
      have stopping := (canMoveTo_stopped_iff _).mp allowed
      rw [move_allowed allowed]
      dsimp only
      split
      · next none => exact .bare stopping none
      · next pipeline installed => exact .finished stopping installed

end Deployment

end RequestPipeline
