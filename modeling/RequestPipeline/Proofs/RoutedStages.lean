import RequestPipeline.Proofs.InterceptorOrder
import RequestPipeline.Proofs.Refusals
import RequestPipeline.Proofs.Retention
import RequestPipeline.Proofs.Tenancy

/-!
# Routed stages

A started dispatch stage is routed by the snapshot of the registrations from the end of a start to
the end of the next stop.  So looking a name up among the registrations, on the dispatch stage and
through a dispatcher comes to the same while the context is started.
-/

namespace RequestPipeline

/-! ## Giving a stage its routing -/

namespace Host

variable {host after : Host} {index : Nat} {cell : DispatchCell}

theorem isStock_congr (same : after.dispatches = host.dispatches) (index : Nat) :
    after.IsStock index ↔ host.IsStock index := by
  simp only [IsStock, stageAt?, same]

theorem isStarted_congr (same : after.dispatches = host.dispatches) (index : Nat) :
    after.isStarted index = host.isStarted index := by
  simp only [isStarted, same]

theorem replaceRouting_self (found : host.dispatches[index]? = some cell)
    (routing : RoutingTable) :
    (host.replaceRouting index routing).routing? index = some routing := by
  unfold replaceRouting
  rw [found]
  dsimp only
  split
  · exact routing?_updateDispatch_self found _
  · exact routing?_updateDispatch_self found _

theorem dispatches_setErrorHandler (found : host.dispatches[index]? = some cell)
    (unit : Option (Instance ServiceUnit)) :
    (host.setErrorHandler index unit).dispatches[index]? =
      some { cell with errorUnit := unit } := by
  unfold setErrorHandler
  rw [found]
  simp [updateDispatch, note, found]

/-- An accepted routing is that of the snapshot, with the error handler set before. -/
theorem finalizeRouting_ok (found : host.dispatches[index]? = some cell) {snapshot : Snapshot}
    (finalized : host.finalizeRouting index snapshot = (.ok (), after)) :
    after.routing? index = some (.build snapshot cell.errorUnit) := by
  unfold finalizeRouting at finalized
  rw [found] at finalized
  dsimp only at finalized
  split at finalized
  · cases congrArg Prod.fst finalized
  · split at finalized
    · cases congrArg Prod.fst finalized
    · cases finalized
      apply replaceRouting_self
      exact found

end Host

namespace Deployment

open Context

variable {base : List Event} {before after deployment : Deployment} {pipeline : Pipeline}
  {snapshot : Snapshot}

theorem routeBy_started (installed : deployment.context.pipeline = some pipeline)
    (started : deployment.host.isStarted pipeline.dispatch = true) :
    deployment.routeBy snapshot =
      (((deployment.host.setErrorHandler pipeline.dispatch
          deployment.context.errorUnit).finalizeRouting pipeline.dispatch snapshot).1,
        { deployment with host := ((deployment.host.setErrorHandler pipeline.dispatch
          deployment.context.errorUnit).finalizeRouting pipeline.dispatch snapshot).2 }) := by
  unfold routeBy
  rw [installed]
  exact if_pos started

theorem routeBy_unstarted (installed : deployment.context.pipeline = some pipeline)
    (unstarted : deployment.host.isStarted pipeline.dispatch = false) :
    deployment.routeBy snapshot = (.ok (), deployment) := by
  unfold routeBy
  rw [installed]
  exact if_neg (by simp [unstarted])

theorem routeBy_idles (deployment : Deployment) (snapshot : Snapshot) :
    deployment.host.Idles (deployment.routeBy snapshot).2.host := by
  unfold routeBy
  split
  · exact .refl _
  · split
    · have handled := deployment.host.setErrorHandler_arranges
      exact ((handled _ _).trans (Host.finalizeRouting_arranges _ _ _)).idles
    · exact .refl _

/-- After a start has been completed, a dispatch stage that is started is routed. -/
theorem routeBy_routes (installed : deployment.context.pipeline = some pipeline)
    (unrouted : deployment.host.routing? pipeline.dispatch = none)
    (routed : deployment.routeBy snapshot = (.ok (), after)) :
    after.host.routing? pipeline.dispatch =
      if after.host.isStarted pipeline.dispatch then
        some (.build snapshot deployment.context.errorUnit)
      else none := by
  have reports := (deployment.routeBy_idles snapshot).isStarted pipeline.dispatch
  rw [routed] at reports
  rw [reports]
  cases started : deployment.host.isStarted pipeline.dispatch with
  | false =>
      rw [routeBy_unstarted installed started] at routed
      cases routed
      exact unrouted
  | true =>
      rw [routeBy_started installed started, Prod.mk.injEq] at routed
      obtain ⟨accepted, rfl⟩ := routed
      obtain ⟨cell, found⟩ : ∃ cell,
          deployment.host.dispatches[pipeline.dispatch]? = some cell := by
        cases found : deployment.host.dispatches[pipeline.dispatch]? with
        | none => simp [Host.isStarted, found] at started
        | some cell => exact ⟨cell, rfl⟩
      have given := Host.dispatches_setErrorHandler found deployment.context.errorUnit
      exact Host.finalizeRouting_ok given (Prod.ext accepted rfl)

/-! ## Being up to date -/

/-- The snapshot is that of its own table, a stock dispatch stage runs while its pipeline does, and
dispatch stages are routed by the snapshot. -/
structure Current (deployment : Deployment) : Prop where
  frozen : deployment.context.state ∈ [.started, .stopping] → ∀ snapshot,
    deployment.context.registrations = .frozen snapshot →
    ∃ journal later, snapshot.table.freeze deployment.context.loader journal =
      (.ok snapshot, later)
  powered : deployment.context.state ∈ [.starting, .started] → ∀ pipeline,
    deployment.context.pipeline = some pipeline → deployment.host.IsStock pipeline.dispatch →
    deployment.host.isStarted pipeline.dispatch = true
  routed : deployment.context.state = .started → ∀ pipeline snapshot,
    deployment.context.pipeline = some pipeline →
    deployment.context.registrations = .frozen snapshot →
    deployment.host.routing? pipeline.dispatch =
      if deployment.host.isStarted pipeline.dispatch then
        some (.build snapshot deployment.context.errorUnit)
      else none
  lasting : deployment.context.state = .stopping → ∀ pipeline snapshot,
    deployment.context.pipeline = some pipeline →
    deployment.context.registrations = .frozen snapshot →
    deployment.host.IsStock pipeline.dispatch →
    deployment.host.routing? pipeline.dispatch =
      some (.build snapshot deployment.context.errorUnit)

/-- Without a pipeline there is nothing to be kept up to date. -/
theorem current_of_inactive
    (inactive : deployment.context.state ∉ [.starting, .started, .stopping]) :
    deployment.Current := by
  refine ⟨?_, ?_, ?_, ?_⟩
  · intro running
    exact absurd (List.mem_cons_of_mem _ running) inactive
  · intro active
    rcases List.mem_cons.mp active with starting | started
    · simp [starting] at inactive
    · simp [List.mem_singleton.mp started] at inactive
  · intro started
    simp [started] at inactive
  · intro stopping
    simp [stopping] at inactive

/-- While a start is under way, all there is to keep is that the dispatch stage runs. -/
theorem current_of_starting (starting : deployment.context.state = .starting)
    (powered : ∀ pipeline, deployment.context.pipeline = some pipeline →
      deployment.host.IsStock pipeline.dispatch →
      deployment.host.isStarted pipeline.dispatch = true) : deployment.Current := by
  refine ⟨?_, fun _ => powered, ?_, ?_⟩
  · intro running
    simp [starting] at running
  · intro started
    rw [starting] at started
    cases started
  · intro stopping
    rw [starting] at stopping
    cases stopping

/-- With one pipeline and one snapshot in place, a started context is up to date if these are. -/
theorem current_of_started (started : deployment.context.state = .started)
    (installed : deployment.context.pipeline = some pipeline)
    (frozen : deployment.context.registrations = .frozen snapshot)
    (made : ∃ journal later, snapshot.table.freeze deployment.context.loader journal =
      (.ok snapshot, later))
    (powered : deployment.host.IsStock pipeline.dispatch →
      deployment.host.isStarted pipeline.dispatch = true)
    (routed : deployment.host.routing? pipeline.dispatch =
      if deployment.host.isStarted pipeline.dispatch then
        some (.build snapshot deployment.context.errorUnit)
      else none) : deployment.Current := by
  refine ⟨?_, ?_, ?_, ?_⟩
  · intro _ other held
    cases frozen.symm.trans held
    exact made
  · intro _ other there
    cases installed.symm.trans there
    exact powered
  · intro _ other latest there held
    cases installed.symm.trans there
    cases frozen.symm.trans held
    exact routed
  · intro stopping
    cases started.symm.trans stopping

/-- Requests change none of it. -/
theorem Current.withHost (current : deployment.Current) {host : Host}
    (same : host.dispatches = deployment.host.dispatches) :
    Current { deployment with host := host } := by
  refine ⟨current.frozen, ?_, ?_, ?_⟩
  · intro active pipeline installed stock
    rw [Host.isStock_congr same] at stock
    rw [Host.isStarted_congr same]
    exact current.powered active pipeline installed stock
  · intro started pipeline snapshot installed frozen
    rw [Host.routing?_congr same, Host.isStarted_congr same]
    exact current.routed started pipeline snapshot installed frozen
  · intro stopping pipeline snapshot installed frozen stock
    rw [Host.isStock_congr same] at stock
    rw [Host.routing?_congr same]
    exact current.lasting stopping pipeline snapshot installed frozen stock

theorem Aside.current (aside : before.Aside after) (coherent : before.context.Coherent)
    (current : before.Current) : after.Current := by
  cases aside with
  | same => exact current
  | reconfigured reconfigures =>
      apply current_of_inactive
      rw [reconfigures.state]
      rcases List.mem_cons.mp reconfigures.allowed with new | stopped
      · simp [new]
      · simp [List.mem_singleton.mp stopped]
  | registered registers =>
      obtain ⟨allowed, table, grown, -, -, rfl⟩ := registers
      rcases List.mem_cons.mp allowed with new | starting
      · apply current_of_inactive
        change before.context.state ∉ _
        simp [new]
      · exact current_of_starting (List.mem_singleton.mp starting)
          (current.powered (by simp [List.mem_singleton.mp starting]))
  | fetched fetch =>
      cases held : before.context.pipeline with
      | none =>
          apply current_of_inactive
          rw [fetch.refits.state]
          intro active
          have installed := coherent.installed.mpr active
          rw [held] at installed
          cases installed
      | some pipeline =>
          have full := (coherent.chains pipeline held).furnished.not_wants
          cases fetch with
          | kept settled => exact current
          | refused wants e line => exact absurd wants (full _)
          | made wants makes => exact absurd wants (full _)
  | kept key dispatcher => exact current.withHost rfl
  | served serves => exact current.withHost serves.dispatches

/-! ## Starting -/

theorem RunHooks.dispatches {result : Except Error Unit} (hooks : before.RunHooks result after) :
    after.host.dispatches = before.host.dispatches := by
  cases hooks <;> rfl

theorem BeginStart.current {result : Except Error Unit} (begins : before.BeginStart result after)
    (current : before.Current) : after.Current := by
  cases begins with
  | barred barred => exact current
  | failed allowed setUp =>
      apply current_of_inactive
      rw [abortStart_state (by simp [setUp.active])]
      decide
  | begun allowed setUp =>
      refine current_of_starting setUp.active fun pipeline installed stock => ?_
      cases setUp with
      | @hooked ready _ chained host _ fetches chains outcome hooks =>
          have held : some chained = some pipeline := hooks.keeps.2.1.symm.trans installed
          obtain rfl := Option.some.inj held
          have same : after.host.dispatches = host.dispatches := hooks.dispatches
          have works := chained.startAll_works (chained.assemble ready.host)
          rw [outcome] at works
          rw [Host.isStock_congr same] at stock
          have reported := Pipeline.startAll_reports outcome (works.isStock stock)
          rw [Host.isStarted_congr same]
          exact (Except.ok.inj reported).symm

/-- A start that is completed freezes the registrations and routes by the snapshot. -/
theorem finishStart_ok (finished : before.finishStart = (.ok (), after)) :
    before.context.state = .starting ∧ ∃ snapshot ready, before.Freeze (.ok snapshot) ready ∧
      (ready.entered .started).routeBy snapshot = (.ok (), after) := by
  unfold finishStart at finished
  split at finished
  · cases congrArg Prod.fst finished
  · next accepted =>
      have starting : before.context.state = .starting :=
        List.mem_singleton.mp (require_ok_iff.mp accepted)
      refine ⟨starting, ?_⟩
      have freeze := before.freeze_spec
      unfold complete at finished
      cases frozen : before.freeze with
      | mk result ready =>
      rw [frozen] at freeze finished
      cases result with
      | error e => cases congrArg Prod.fst finished
      | ok snapshot =>
          have allowed : ready.context.state.canMoveTo .started = true := by
            rw [freeze.state, starting]
            rfl
          dsimp only at finished
          rw [move_allowed allowed] at finished
          dsimp only at finished
          cases routed : (ready.entered .started).routeBy snapshot with
          | mk result last =>
          rw [routed] at finished
          cases result with
          | error e => cases congrArg Prod.fst finished
          | ok _ =>
              cases finished
              exact ⟨snapshot, ready, freeze, routed⟩

theorem Freeze.dispatches {result : Except Error Snapshot} (freeze : before.Freeze result after) :
    after.host.dispatches = before.host.dispatches := by
  cases freeze <;> rfl

/-- A snapshot made of open registrations is that of its own table. -/
theorem Freeze.of_opened (freeze : before.Freeze (.ok snapshot) after)
    (opened : ∃ table, before.context.registrations = .opened table) :
    ∃ journal later, snapshot.table.freeze after.context.loader journal =
      (.ok snapshot, later) := by
  cases freeze with
  | frozen opened outcome =>
      rw [RegistrationTable.table_of_freeze outcome]
      exact ⟨_, _, outcome⟩
  | already frozen =>
      obtain ⟨table, held⟩ := opened
      cases frozen.symm.trans held

/-- A start that is completed leaves the stage routed by the snapshot it has just made. -/
theorem finishStart_ok_current (coherent : before.context.Coherent) (tended : before.Tended base)
    (current : before.Current) (finished : before.finishStart = (.ok (), after)) :
    after.Current := by
  obtain ⟨starting, snapshot, ready, freeze, routed⟩ := finishStart_ok finished
  obtain ⟨pipeline, installed, -⟩ := coherent.piped (by simp [starting])
  have kept : ready.context.pipeline = some pipeline := freeze.pipeline.trans installed
  have same := freeze.dispatches
  have idles := (ready.entered .started).routeBy_idles snapshot
  have route := (ready.entered .started).routeBy_spec snapshot
  rw [routed] at idles route
  have context : after.context = (ready.entered .started).context := route.context
  have held : after.context.pipeline = some pipeline := context ▸ kept
  have frozen : after.context.registrations = .frozen snapshot := context ▸ freeze.registrations
  refine current_of_started (context ▸ rfl) held frozen ?_ ?_ ?_
  · rw [context]
    exact freeze.of_opened (coherent.opened (by simp [starting]))
  · intro stock
    have early : ready.host.IsStock pipeline.dispatch := idles.isStock stock
    rw [Host.isStock_congr same] at early
    rw [idles.isStarted]
    exact (Host.isStarted_congr same _).trans
      (current.powered (by simp [starting]) pipeline installed early)
  · have unrouted : ready.host.routing? pipeline.dispatch = none := by
      rw [Host.routing?_congr same]
      cases tended.vacant (by simp [starting]) with
      | vacant unrouted since => exact unrouted _
    rw [context]
    exact routeBy_routes kept unrouted routed

theorem finishStart_current (coherent : before.context.Coherent) (tended : before.Tended base)
    (current : before.Current) : before.finishStart.2.Current := by
  have spec := before.finishStart_spec
  cases outcome : before.finishStart with
  | mk result after =>
  rw [outcome] at spec
  dsimp only at spec
  cases result with
  | ok done => exact finishStart_ok_current coherent tended current outcome
  | error e =>
      cases spec with
      | barred barred => exact current
      | failed starting complete =>
          apply current_of_inactive
          rw [abortStart_state (complete.keeps starting).2.2]
          decide

/-! ## Stopping -/

theorem beginStop_started (started : deployment.context.state = .started)
    (installed : deployment.context.pipeline = some pipeline) :
    deployment.beginStop = (.ok (), {
      context := (deployment.entered .stopping).context
      host := pipeline.stopAll { (deployment.entered .stopping).host with
        journal := runShutdownHooks deployment.context.shutdownHooks
          (deployment.entered .stopping).host.journal } }) := by
  have allowed := (canMoveTo_stopping_iff _).mpr started
  have held : (deployment.entered .stopping).context.pipeline = some pipeline := installed
  unfold beginStop
  rw [move_allowed allowed]
  dsimp only
  rw [held]
  rfl

theorem shutdown_idles (deployment : Deployment) (hooks : List ShutdownHook) :
    deployment.host.Idles { (deployment.entered .stopping).host with
      journal := runShutdownHooks hooks (deployment.entered .stopping).host.journal } := by
  have entered : deployment.host.Idles (deployment.entered .stopping).host := .note _ none rfl
  refine entered.trans (.withJournal _ ((runShutdownHooks_adds _ _).mono ?_))
  rintro event rfl
  rfl

/-- Stopping the stages leaves the routing in place. -/
theorem beginStop_current (coherent : before.context.Coherent) (current : before.Current) :
    before.beginStop.2.Current := by
  have spec := before.beginStop_spec
  by_cases started : before.context.state = .started
  · obtain ⟨pipeline, installed, -⟩ := coherent.piped (by simp [started])
    rw [beginStop_started started installed]
    have shut := before.shutdown_idles before.context.shutdownHooks
    have stopped := Pipeline.stopEach_works pipeline.stages { (before.entered .stopping).host with
      journal := runShutdownHooks before.context.shutdownHooks
        (before.entered .stopping).host.journal }
    have routing := (Pipeline.stopEach_evolves pipeline.stages
      { (before.entered .stopping).host with
        journal := runShutdownHooks before.context.shutdownHooks
          (before.entered .stopping).host.journal }).routing pipeline.dispatch
    refine ⟨fun _ => current.frozen (by simp [started]), ?_, ?_, ?_⟩
    · intro active
      change LifecycleState.stopping ∈ _ at active
      simp at active
    · intro impossible
      cases impossible
    · intro _ other snapshot there frozen stock
      cases installed.symm.trans there
      have early := shut.isStock (stopped.isStock stock)
      have routed := current.routed started pipeline snapshot installed frozen
      rw [current.powered (by simp [started]) pipeline installed early] at routed
      exact routing.trans routed
  · generalize before.beginStop = outcome at spec ⊢
    obtain ⟨result, after⟩ := outcome
    dsimp only at spec
    cases spec with
    | barred barred => exact current
    | bare here => exact absurd here started
    | begun here => exact absurd here started

theorem FinishStop.current {result : Except Error Unit} (finishes : before.FinishStop result after)
    (current : before.Current) : after.Current := by
  cases finishes with
  | barred barred => exact current
  | bare stopping bare =>
      apply current_of_inactive
      change LifecycleState.stopped ∉ _
      decide
  | finished stopping installed =>
      apply current_of_inactive
      change LifecycleState.stopped ∉ _
      decide

/-! ## Runs -/

theorem perform_current (deployment : Deployment) (call : Call)
    (coherent : deployment.context.Coherent) (tended : deployment.Tended base)
    (current : deployment.Current) : (deployment.perform call).2.Current := by
  cases moves : call.isMove with
  | false => exact (deployment.perform_aside moves).current coherent current
  | true =>
      cases call with
      | beginStart => exact deployment.beginStart_spec.current current
      | finishStart => exact finishStart_current coherent tended current
      | beginStop => exact beginStop_current coherent current
      | finishStop => exact deployment.finishStop_spec.current current
      | _ => cases moves

/-- Over every run of a new context whose host has no routing yet, everything is up to date. -/
theorem runCalls_current {context : Context} (new : context.IsNew) {host : Host}
    (unrouted : ∀ index, host.routing? index = none) (calls : List Call) :
    (runCalls ⟨context, host⟩ calls).Current := by
  have keeps (calls : List Call) {deployment : Deployment}
      (coherent : deployment.context.Coherent) (tended : deployment.Tended host.journal.events)
      (current : deployment.Current) : (deployment.runCalls calls).Current := by
    induction calls generalizing deployment with
    | nil => exact current
    | cons call rest ih =>
        have step := deployment.perform_step call
        exact ih (step.coherent coherent) (step.tended coherent tended)
          (deployment.perform_current call coherent tended current)
  refine keeps calls new.coherent (runCalls_tended new unrouted []) (current_of_inactive ?_)
  change context.state ∉ _
  simp [new.state]

end Deployment

/-! ## Looking names up -/

namespace Host

variable {host : Host} {stage : Nat} {routing : RoutingTable}

/-- A routed stock stage hands every request to its routing. -/
theorem dispatch_routed (stock : host.IsStock stage) (routed : host.routing? stage = some routing)
    (request : Request) : host.dispatch stage request =
      route routing request (host.note (.stage (.dispatch stage) .entered) none) := by
  obtain ⟨cell, found, plain⟩ := Option.map_eq_some_iff.mp stock
  have held : cell.routing = some routing := by
    rw [routing?, found] at routed
    exact routed
  unfold dispatch
  rw [found]
  dsimp only
  rw [held, plain]
  rfl

/-- A dispatcher for a routed unit runs the object of that name inside its chain. -/
theorem callNamed_routed {name : String} {object : Instance ServiceUnit}
    (routed : host.routing? stage = some routing)
    (found : routing.snapshot.unit? name = some object) (mode : NamedMode) (request : Request) :
    callNamed ⟨stage, name⟩ mode request host =
      let served := runChain (callWithin (2 * host.dispatchers.length + host.spareDepth))
        (.unit ⟨name, object⟩)
        ((routing.interceptorsForUnit name mode.phase).map Called.interceptor)
        { request with phase := some mode.phase } host
      (mode.present (some served.1), served.2) := by
  have placed : (host.dispatches[stage]?).bind (·.routing) = some routing := routed
  have depth : host.nesting = 2 * host.dispatchers.length + host.spareDepth + 1 := by
    unfold nesting
    omega
  rw [callNamed, depth, callWithin]
  unfold dispatchNamedBy
  dsimp only
  rw [placed]
  dsimp only
  rw [found]

end Host

namespace Deployment

variable {base : List Event} {deployment : Deployment} {stage : Nat}

/-- The pipeline of a running context dispatches to the stage in the dispatch slot. -/
theorem pipeline_of_running (coherent : deployment.context.Coherent)
    (held : deployment.context.dispatch.stage = some stage)
    (running : deployment.context.state ∈ [.starting, .started, .stopping]) :
    ∃ pipeline, deployment.context.pipeline = some pipeline ∧ pipeline.dispatch = stage := by
  obtain ⟨pipeline, installed, chains⟩ := coherent.piped running
  exact ⟨pipeline, installed, Option.some.inj (chains.dispatch.symm.trans held)⟩

/-- A stock stage of a started context is routed by the snapshot. -/
theorem Current.routed_stock (current : deployment.Current)
    (coherent : deployment.context.Coherent)
    (held : deployment.context.dispatch.stage = some stage)
    (stock : deployment.host.IsStock stage) (started : deployment.context.state = .started) :
    ∃ snapshot, deployment.context.registrations = .frozen snapshot ∧
      deployment.host.routing? stage = some (.build snapshot deployment.context.errorUnit) := by
  obtain ⟨pipeline, there, rfl⟩ := pipeline_of_running coherent held (by simp [started])
  obtain ⟨snapshot, frozen⟩ := coherent.frozen (by simp [started])
  have routed := current.routed started pipeline snapshot there frozen
  rw [current.powered (by simp [started]) pipeline there stock] at routed
  exact ⟨snapshot, frozen, routed⟩

/-- A stock stage is routed exactly while the context is started or stopping. -/
theorem Current.isSome_routing_iff (current : deployment.Current)
    (coherent : deployment.context.Coherent) (tended : deployment.Tended base)
    (held : deployment.context.dispatch.stage = some stage)
    (stock : deployment.host.IsStock stage) :
    (deployment.host.routing? stage).isSome = true ↔
      deployment.context.state ∈ [.started, .stopping] := by
  constructor
  · intro routed
    by_contra idle
    cases tended.vacant idle with
    | vacant nowhere since =>
        rw [nowhere stage] at routed
        cases routed
  · intro running
    rcases List.mem_cons.mp running with started | rest
    · obtain ⟨snapshot, -, routed⟩ := current.routed_stock coherent held stock started
      rw [routed]
      rfl
    · have stopping := List.mem_singleton.mp rest
      obtain ⟨pipeline, there, rfl⟩ := pipeline_of_running coherent held (by simp [stopping])
      obtain ⟨snapshot, frozen⟩ := coherent.frozen running
      rw [current.lasting stopping pipeline snapshot there frozen stock]
      rfl

/-- Over every run of a new context: a stock dispatch stage in its slot is routed if and only if the
context is started or stopping.  While it is started, a name is found among the registrations, on
the stage and by a dispatcher, or nowhere.  The dispatcher runs the very object that the stage
shows, and every request that reaches the stage is routed, also when others are served in
between. -/
theorem name_lookups_agree {context : Context} (new : context.IsNew) {host : Host}
    (unrouted : ∀ index, host.routing? index = none) (calls : List Call) {stage : Nat}
    (held : (runCalls ⟨context, host⟩ calls).context.dispatch.stage = some stage)
    (stock : (runCalls ⟨context, host⟩ calls).host.IsStock stage) :
    let reached := runCalls ⟨context, host⟩ calls
    ((reached.host.routing? stage).isSome = true ↔
      reached.context.state ∈ [.started, .stopping]) ∧
    (reached.context.state = .started →
      (∀ name, (reached.context.findUnit name).isSome =
          (reached.host.lookupUnit stage name).isSome ∧
        (reached.context.resolveDispatcher name).isSome =
          (reached.host.lookupUnit stage name).isSome) ∧
      ∃ routing, reached.host.routing? stage = some routing ∧
        ∀ later, reached.host.Serves later →
          (∀ name dispatcher, reached.context.resolveDispatcher name = some dispatcher →
            ∃ object, later.lookupUnit stage name = some object ∧ ∀ mode request,
              Host.callNamed dispatcher mode request later =
                let served := runChain
                  (Host.callWithin (2 * later.dispatchers.length + later.spareDepth))
                  (.unit ⟨name, object⟩)
                  ((routing.interceptorsForUnit name mode.phase).map Called.interceptor)
                  { request with phase := some mode.phase } later
                (mode.present (some served.1), served.2)) ∧
          ∀ request, later.dispatch stage request =
            Host.route routing request (later.note (.stage (.dispatch stage) .entered) none)) := by
  intro reached
  have coherent : reached.context.Coherent := runCalls_coherent new.coherent calls
  have tended : reached.Tended host.journal.events := runCalls_tended new unrouted calls
  have current : reached.Current := runCalls_current new unrouted calls
  refine ⟨current.isSome_routing_iff coherent tended held stock, ?_⟩
  intro serving
  obtain ⟨snapshot, frozen, routed⟩ := current.routed_stock coherent held stock serving
  obtain ⟨journal, after, made⟩ := current.frozen (by simp [serving]) snapshot frozen
  have known := RoutingTable.unit?_isSome made
  have looked (name : String) :
      reached.host.lookupUnit stage name = snapshot.unit? name := by
    rw [Host.lookupUnit, routed]
    rfl
  have resolved (name : String) : reached.context.resolveDispatcher name =
      if snapshot.table.containsUnit name then some ⟨stage, name⟩ else none := by
    obtain ⟨pipeline, there, rfl⟩ := pipeline_of_running coherent held (by simp [serving])
    rw [Context.resolveDispatcher, Context.dispatchTarget?, there, frozen]
    rfl
  refine ⟨fun name => ⟨?_, ?_⟩, _, routed, fun later serves => ⟨?_, ?_⟩⟩
  · rw [looked, known, Context.findUnit, frozen]
    simp [RegistrationTable.findUnit, RegistrationTable.containsUnit, Registrations.declared]
  · rw [looked, known, resolved]
    cases snapshot.table.containsUnit name <;> rfl
  · intro name dispatcher found
    have kept := (Host.routing?_congr serves.dispatches stage).trans routed
    rw [resolved] at found
    split at found
    · next registered =>
        cases found
        obtain ⟨object, present⟩ := RoutingTable.unit?_of_registered made registered
        refine ⟨object, ?_, Host.callNamed_routed kept present⟩
        rw [Host.lookupUnit, kept]
        exact present
    · cases found
  · have kept := (Host.routing?_congr serves.dispatches stage).trans routed
    exact Host.dispatch_routed ((Host.isStock_congr serves.dispatches stage).mpr stock) kept

/-- A unit registered while the context starts is found in all three ways once it has started, and
the dispatcher kept for it runs it. -/
theorem home_found_alike :
    let reached := runCalls ⟨.withOptions {}, {}⟩
      [.beginStart, .registerUnit "home" (.shared greeter) [["/home"]], .finishStart]
    reached.context.dispatch.stage = some 0 ∧ reached.host.IsStock 0 ∧
      reached.context.state = .started ∧
      (reached.context.findUnit "home").isSome = true ∧
      (reached.host.lookupUnit 0 "home").isSome = true ∧
      (reached.context.resolveDispatcher "home").isSome = true ∧
      (reached.host.lookupUnit 0 "away").isSome = false ∧
      (reached.context.resolveDispatcher "away").isSome = false ∧
      (Host.callNamed ⟨0, "home"⟩ .forward (.get "/elsewhere") reached.host).1 =
        .text 200 "hello" := by
  intro reached
  obtain ⟨-, started⟩ := name_lookups_agree (Context.isNew_withOptions {})
    (fun _ => rfl : ∀ index, Host.routing? {} index = none)
    [.beginStart, .registerUnit "home" (.shared greeter) [["/home"]], .finishStart]
    (rfl : reached.context.dispatch.stage = some 0) rfl
  obtain ⟨names, routing, routed, serving⟩ := started rfl
  obtain ⟨home, homeDispatcher⟩ := names "home"
  obtain ⟨away, awayDispatcher⟩ := names "away"
  have registered : (reached.context.findUnit "home").isSome = true := rfl
  have unknown : (reached.context.findUnit "away").isSome = false := rfl
  obtain ⟨object, present, calls⟩ := (serving reached.host (.refl _)).1 "home" ⟨0, "home"⟩ rfl
  have same : object = greeter := Option.some.inj (present.symm.trans rfl)
  refine ⟨rfl, rfl, rfl, registered, home ▸ registered,
    homeDispatcher ▸ home ▸ registered, away ▸ unknown, awayDispatcher ▸ away ▸ unknown, ?_⟩
  rw [calls, same]
  cases routed
  rfl

end Deployment

end RequestPipeline
