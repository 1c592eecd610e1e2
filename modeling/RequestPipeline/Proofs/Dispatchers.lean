import Mathlib.Data.List.Permutation
import RequestPipeline.Proofs.Resemblance

/-!
# Dispatchers that are kept

A dispatcher remembers a stage and a name, and finds the unit anew at every call.  Whenever it was
resolved, it leads to the object that the latest freeze has found for the name while its stage is
the one in use, and to nobody at any other time.
-/

namespace RequestPipeline

/-! ## Calls by name -/

namespace Host

/-- A dispatcher whose stage does not show its unit answers for itself, and nothing happens. -/
theorem callNamed_unknown {host : Host} {stage : Nat} {name : String}
    (unknown : host.lookupUnit stage name = none) (mode : NamedMode) (request : Request) :
    callNamed ⟨stage, name⟩ mode request host = (.notFound, host) := by
  have depth : host.nesting = 2 * host.dispatchers.length + host.spareDepth + 1 := by
    unfold nesting
    omega
  rw [callNamed, depth, callWithin]
  unfold lookupUnit routing? at unknown
  unfold dispatchNamedBy
  dsimp only
  cases placed : (host.dispatches[stage]?).bind (·.routing) with
  | none => rfl
  | some routing =>
      rw [placed] at unknown
      change routing.snapshot.unit? name = none at unknown
      dsimp only
      rw [unknown]
      rfl

end Host

namespace Deployment

variable {base : List Event} {before after deployment start : Deployment} {stage : Nat}
  {snapshot : Snapshot}

/-! ## The latest freeze -/

/-- The context was started or stopping before, with the registrations that it has now. -/
structure RunsOn (before after : Deployment) : Prop where
  running : before.context.state ∈ [.started, .stopping]
  registrations : after.context.registrations = before.context.registrations

theorem Aside.runsOn (aside : before.Aside after)
    (running : after.context.state ∈ [.started, .stopping]) : before.RunsOn after := by
  cases aside with
  | same | kept | served => exact ⟨running, rfl⟩
  | reconfigured reconfigures =>
      have state := running
      rw [reconfigures.state] at state
      rcases List.mem_cons.mp reconfigures.allowed with new | stopped
      · simp [new] at state
      · simp [List.mem_singleton.mp stopped] at state
  | registered registers =>
      obtain ⟨allowed, table, grown, -, -, rfl⟩ := registers
      have state : before.context.state ∈ [.started, .stopping] := running
      rcases List.mem_cons.mp allowed with new | starting
      · simp [new] at state
      · simp [List.mem_singleton.mp starting] at state
  | fetched fetch =>
      rw [fetch.refits.state] at running
      exact ⟨running, fetch.refits.registrations⟩

theorem BeginStart.runsOn {result : Except Error Unit} (begins : before.BeginStart result after)
    (running : after.context.state ∈ [.started, .stopping]) : before.RunsOn after := by
  cases begins with
  | barred barred => exact ⟨running, rfl⟩
  | failed allowed setUp =>
      rw [abortStart_state (List.mem_cons.mpr (.inl setUp.active))] at running
      simp at running
  | begun allowed setUp =>
      rw [setUp.active] at running
      simp at running

theorem BeginStop.runsOn {result : Except Error Unit} (begins : before.BeginStop result after)
    (running : after.context.state ∈ [.started, .stopping]) : before.RunsOn after := by
  cases begins with
  | barred barred => exact ⟨running, rfl⟩
  | bare started bare rests kept => exact ⟨by simp [started], rfl⟩
  | begun started installed rests kept => exact ⟨by simp [started], rfl⟩

theorem FinishStop.runsOn {result : Except Error Unit} (finishes : before.FinishStop result after)
    (running : after.context.state ∈ [.started, .stopping]) : before.RunsOn after := by
  have stopped : LifecycleState.stopped ∉ [LifecycleState.started, .stopping] := by decide
  cases finishes with
  | barred barred => exact ⟨running, rfl⟩
  | bare stopping bare => exact absurd running stopped
  | finished stopping installed => exact absurd running stopped

/-- The open registrations are frozen to this snapshot. -/
def Freezes (deployment : Deployment) (snapshot : Snapshot) : Prop :=
  ∃ table journal, deployment.context.registrations = .opened table ∧
    table.freeze deployment.context.loader deployment.host.journal = (.ok snapshot, journal)

theorem FinishStart.runsOn_or_freezes {result : Except Error Unit}
    (finishes : before.FinishStart result after) (coherent : before.context.Coherent)
    (running : after.context.state ∈ [.started, .stopping]) :
    before.RunsOn after ∨ before.context.state = .starting ∧
      ∃ snapshot, before.Freezes snapshot ∧ after.context.registrations = .frozen snapshot := by
  cases finishes with
  | barred barred => exact .inl ⟨running, rfl⟩
  | failed starting complete =>
      rw [abortStart_state (complete.keeps starting).2.2] at running
      simp at running
  | finished starting complete =>
      refine .inr ⟨starting, ?_⟩
      cases complete with
      | @frozen ready _ snapshot _ freeze route =>
          have held : after.context.registrations = .frozen snapshot := by
            rw [route.context]
            exact freeze.registrations
          obtain ⟨table, opened⟩ := coherent.opened (by simp [starting])
          cases freeze with
          | already frozen => cases frozen.symm.trans opened
          | frozen opened outcome => exact ⟨snapshot, ⟨_, _, opened, outcome⟩, held⟩

/-- A call under which the context comes to be started or stopping is the end of a start, which
freezes the registrations; under any other call it only goes on to be so. -/
theorem perform_runsOn_or_freezes (coherent : deployment.context.Coherent) (call : Call)
    (running : (deployment.perform call).2.context.state ∈ [.started, .stopping]) :
    deployment.RunsOn (deployment.perform call).2 ∨
      call = .finishStart ∧ deployment.context.state = .starting ∧
        ∃ snapshot, deployment.Freezes snapshot ∧
          (deployment.perform call).2.context.registrations = .frozen snapshot := by
  cases moves : call.isMove with
  | false => exact .inl ((deployment.perform_aside moves).runsOn running)
  | true =>
      cases call with
      | beginStart => exact .inl (deployment.beginStart_spec.runsOn running)
      | finishStart =>
          have spec := deployment.finishStart_spec
          exact (spec.runsOn_or_freezes coherent running).imp_right fun freezes => ⟨rfl, freezes⟩
      | beginStop => exact .inl (deployment.beginStop_spec.runsOn running)
      | finishStop => exact .inl (deployment.finishStop_spec.runsOn running)
      | _ => cases moves

/-- The latest freeze of a run made this snapshot: a start that was completed froze the
registrations to it, and the context has been started or stopping ever since. -/
def LastFroze (start : Deployment) (calls : List Call) (snapshot : Snapshot) : Prop :=
  ∃ early rest, calls = early ++ .finishStart :: rest ∧
    (start.runCalls early).context.state = .starting ∧
    (start.runCalls early).Freezes snapshot ∧
    ∀ steps, steps <+: rest →
      (start.runCalls (early ++ .finishStart :: steps)).context.state ∈ [.started, .stopping]

/-- The snapshot of a context that is started or stopping is the one made by the latest freeze. -/
theorem lastFroze_of_running (coherent : start.context.Coherent)
    (idle : start.context.state ∉ [.started, .stopping]) {calls : List Call}
    (running : (start.runCalls calls).context.state ∈ [.started, .stopping])
    (frozen : (start.runCalls calls).context.registrations = .frozen snapshot) :
    start.LastFroze calls snapshot := by
  induction calls using List.reverseRecOn with
  | nil => exact absurd running idle
  | append_singleton init call ih =>
      have last : start.runCalls (init ++ [call]) = ((start.runCalls init).perform call).2 :=
        runCalls_append start init [call]
      have running' := last ▸ running
      have coherentNow := runCalls_coherent coherent init
      obtain runsOn | ⟨rfl, starting, made, freezes, held⟩ :=
        perform_runsOn_or_freezes coherentNow call running'
      · have same := runsOn.registrations
        rw [← last, frozen] at same
        obtain ⟨early, rest, rfl, starting, freezes, always⟩ := ih runsOn.running same.symm
        refine ⟨early, rest ++ [call], by simp, starting, freezes, fun steps within => ?_⟩
        obtain rfl | before := List.prefix_concat_iff.mp within
        · simpa using running
        · exact always steps before
      · rw [last, held] at frozen
        cases frozen
        refine ⟨init, [], rfl, starting, freezes, fun steps within => ?_⟩
        obtain rfl := List.prefix_nil.mp within
        exact running

/-! ## Who answers -/

/-- A dispatcher leads to an object: the context is started or stopping, the dispatcher's stage is
the one in the dispatch slot, and the snapshot has the object under the dispatcher's name. -/
structure LeadsTo (deployment : Deployment) (dispatcher : NamedDispatcher) (snapshot : Snapshot)
    (object : Instance ServiceUnit) : Prop where
  running : deployment.context.state ∈ [.started, .stopping]
  slot : deployment.context.dispatch.stage = some dispatcher.stage
  frozen : deployment.context.registrations = .frozen snapshot
  unit : snapshot.unit? dispatcher.unit = some object

/-- A stock stage in use is routed by the snapshot. -/
theorem Current.routed_running (current : deployment.Current)
    (coherent : deployment.context.Coherent)
    (running : deployment.context.state ∈ [.started, .stopping])
    (held : deployment.context.dispatch.stage = some stage)
    (stock : deployment.host.IsStock stage)
    (frozen : deployment.context.registrations = .frozen snapshot) :
    deployment.host.routing? stage = some (.build snapshot deployment.context.errorUnit) := by
  rcases List.mem_cons.mp running with started | rest
  · obtain ⟨other, same, routed⟩ := current.routed_stock coherent held stock started
    cases frozen.symm.trans same
    exact routed
  · have stopping := List.mem_singleton.mp rest
    obtain ⟨pipeline, there, rfl⟩ := pipeline_of_running coherent held (by simp [stopping])
    exact current.lasting stopping pipeline snapshot there frozen stock

/-- A stage that is routed is in use. -/
theorem Tended.running_of_routed (tended : deployment.Tended base)
    (coherent : deployment.context.Coherent) {routing : RoutingTable}
    (routed : deployment.host.routing? stage = some routing) :
    deployment.context.state ∈ [.started, .stopping] ∧
      deployment.context.dispatch.stage = some stage := by
  obtain ⟨-, place, houses, serving⟩ := tended
  cases houses with
  | vacant unrouted since => cases (unrouted stage).symm.trans routed
  | @occupied index _ here others =>
      have same : stage = index := by
        by_contra differs
        cases (others stage differs).symm.trans routed
      obtain ⟨running, pipeline, installed, dispatches⟩ := serving index rfl
      refine ⟨running, ?_⟩
      rw [(coherent.chains pipeline installed).dispatch, dispatches, same]

/-- A stock stage shows the unit of a dispatcher exactly when the dispatcher leads to it. -/
theorem lookupUnit_iff_leadsTo (current : deployment.Current)
    (coherent : deployment.context.Coherent) (tended : deployment.Tended base)
    {dispatcher : NamedDispatcher} (stock : deployment.host.IsStock dispatcher.stage)
    (object : Instance ServiceUnit) :
    deployment.host.lookupUnit dispatcher.stage dispatcher.unit = some object ↔
      ∃ snapshot, deployment.LeadsTo dispatcher snapshot object := by
  constructor
  · intro shown
    obtain ⟨routing, routed, found⟩ := Option.bind_eq_some_iff.mp shown
    obtain ⟨running, held⟩ := tended.running_of_routed coherent routed
    obtain ⟨snapshot, frozen⟩ := coherent.frozen running
    have placed := current.routed_running coherent running held stock frozen
    cases routed.symm.trans placed
    exact ⟨snapshot, running, held, frozen, found⟩
  · rintro ⟨snapshot, running, held, frozen, found⟩
    have placed := current.routed_running coherent running held stock frozen
    exact Option.bind_eq_some_iff.mpr ⟨_, placed, found⟩

/-- A dispatcher resolved at any point of a run of a new context, and used at any later one, its
stage being a stock one.  If the context is then started or stopping, the stage is the one in the
dispatch slot and the snapshot has a unit of the dispatcher's name, that unit is the object which the
latest freeze has found, and a call goes to it through the interceptors whose mappings name it in
the phase; resolving the name now gives the same dispatcher.  In every other case the answer is
that there is no such unit, and nothing happens. -/
theorem dispatchers_lead_to_latest_freeze {context : Context} (new : context.IsNew) {host : Host}
    (unrouted : ∀ index, host.routing? index = none) (past later : List Call) {name : String}
    {dispatcher : NamedDispatcher}
    (resolved : (runCalls ⟨context, host⟩ past).context.resolveDispatcher name = some dispatcher)
    (stock : (runCalls ⟨context, host⟩ (past ++ later)).host.IsStock dispatcher.stage) :
    let reached := runCalls ⟨context, host⟩ (past ++ later)
    (∀ snapshot object, reached.LeadsTo dispatcher snapshot object →
      LastFroze ⟨context, host⟩ (past ++ later) snapshot ∧
      reached.context.resolveDispatcher name = some dispatcher ∧
      ∀ mode request, ∃ chain events,
        List.Forall₂ (fun mapping named => named.name = mapping.interceptor ∧
            snapshot.interceptor? mapping.interceptor = some named.object)
          (snapshot.table.interceptorMappings.filter fun mapping =>
            mapping.phases.contains mode.phase && mapping.coversUnit name) chain ∧
        let served := runChain
          (Host.callWithin (2 * reached.host.dispatchers.length + reached.host.spareDepth))
          (.unit ⟨name, object⟩) (chain.map Called.interceptor)
          { request with phase := some mode.phase } reached.host
        reached.perform (.callNamed dispatcher mode request) =
          (.ok (.response (mode.present (some served.1))), { reached with host := served.2 }) ∧
        served.2.journal.events = reached.host.journal.events ++ events ∧
        Called.GoneThrough (.unit ⟨name, object⟩) reached.host.journal
          { request with phase := some mode.phase } (chain.map Called.interceptor) events) ∧
    ((¬ ∃ snapshot object, reached.LeadsTo dispatcher snapshot object) →
      ∀ mode request, reached.perform (.callNamed dispatcher mode request) =
        (.ok (.response .notFound), reached)) := by
  intro reached
  have coherent : reached.context.Coherent := runCalls_coherent new.coherent _
  have tended : reached.Tended host.journal.events := runCalls_tended new unrouted _
  have current : reached.Current := runCalls_current new unrouted _
  obtain ⟨stage, unit⟩ := dispatcher
  obtain rfl : unit = name := by
    unfold Context.resolveDispatcher at resolved
    split at resolved
    · cases resolved
    · split at resolved
      · cases resolved
        rfl
      · cases resolved
  have shows := lookupUnit_iff_leadsTo current coherent tended stock
  constructor
  · rintro snapshot object ⟨running, held, frozen, found⟩
    obtain ⟨journal, after, made⟩ := current.frozen running snapshot frozen
    have routed := current.routed_running coherent running held stock frozen
    refine ⟨lastFroze_of_running new.coherent ?_ running frozen, ?_, fun mode request => ?_⟩
    · change context.state ∉ _
      simp [new.state]
    · obtain ⟨pipeline, there, rfl⟩ :=
        pipeline_of_running coherent held (List.mem_cons_of_mem _ running)
      have known : snapshot.table.containsUnit unit = true := by
        rw [← RoutingTable.unit?_isSome made, found]
        rfl
      rw [Context.resolveDispatcher, Context.dispatchTarget?, there, frozen]
      exact if_pos known
    · have chain := RoutingTable.interceptorsWhere_found made reached.context.errorUnit mode.phase
        (·.coversUnit unit)
      obtain ⟨events, grown, through⟩ := runChain_events
        (Host.callWithin_gentle (2 * reached.host.dispatchers.length + reached.host.spareDepth))
        (.unit ⟨unit, object⟩)
        ((((RoutingTable.build snapshot reached.context.errorUnit).interceptorsForUnit unit
          mode.phase)).map Called.interceptor)
        { request with phase := some mode.phase } reached.host
      refine ⟨_, events, chain, ?_, grown, through⟩
      rw [perform, Host.callNamed_routed routed found]
      rfl
  · intro nowhere mode request
    have unknown : reached.host.lookupUnit stage unit = none := by
      cases shown : reached.host.lookupUnit stage unit with
      | none => rfl
      | some object =>
          obtain ⟨snapshot, leads⟩ := (shows object).mp shown
          exact absurd ⟨snapshot, object, leads⟩ nowhere
    rw [perform, Host.callNamed_unknown unknown]
    rfl

/-- A start in the course of which a dispatcher for a unit is resolved. -/
def openingHome : List Call := [.beginStart, .registerUnit "home" (.shared greeter) [["/home"]]]

def closingHome : List Call := [.finishStart, .beginStop, .finishStop]

def reopeningHome : List Call := closingHome ++ [.beginStart, .finishStart]

def homeSnapshot : Snapshot where
  table := { units := [⟨"home", .shared greeter⟩], unitMappings := [⟨"home", .exact "/home"⟩] }
  units := [("home", greeter)]
  interceptors := []

/-- The dispatcher that was resolved during the first start answers for nobody once the context has
stopped, and leads to the unit again after the next start. -/
theorem home_dispatcher_outlives_stop :
    (runCalls ⟨.withOptions {}, {}⟩ (openingHome ++ closingHome)).perform
        (.callNamed ⟨0, "home"⟩ .forward (.get "/elsewhere")) =
      (.ok (.response .notFound),
        runCalls ⟨.withOptions {}, {}⟩ (openingHome ++ closingHome)) ∧
    LastFroze ⟨.withOptions {}, {}⟩ (openingHome ++ reopeningHome) homeSnapshot := by
  have new := Context.isNew_withOptions {}
  have unrouted : ∀ index, Host.routing? {} index = none := fun _ => rfl
  have resolved : (runCalls ⟨.withOptions {}, {}⟩ openingHome).context.resolveDispatcher "home" =
      some ⟨0, "home"⟩ := by decide +kernel
  constructor
  · have stock : (runCalls ⟨.withOptions {}, {}⟩
        (openingHome ++ closingHome)).host.stageAt? 0 = some .stock := by cbv
    obtain ⟨-, nowhere⟩ := dispatchers_lead_to_latest_freeze new unrouted openingHome closingHome
      resolved stock
    refine nowhere ?_ _ _
    rintro ⟨snapshot, object, leads⟩
    have running := leads.running
    revert running
    decide +kernel
  · have stock : (runCalls ⟨.withOptions {}, {}⟩
        (openingHome ++ reopeningHome)).host.stageAt? 0 = some .stock := by cbv
    obtain ⟨leads, -⟩ := dispatchers_lead_to_latest_freeze new unrouted openingHome reopeningHome
      resolved stock
    have frozen : (runCalls ⟨.withOptions {}, {}⟩
        (openingHome ++ reopeningHome)).context.registrations = .frozen homeSnapshot := by cbv
    have running : (runCalls ⟨.withOptions {}, {}⟩
        (openingHome ++ reopeningHome)).context.state ∈ [.started, .stopping] := by decide +kernel
    have slot : (runCalls ⟨.withOptions {}, {}⟩
        (openingHome ++ reopeningHome)).context.dispatch.stage = some 0 := by decide +kernel
    exact (leads homeSnapshot greeter ⟨running, slot, frozen, rfl⟩).1

end Deployment

end RequestPipeline
