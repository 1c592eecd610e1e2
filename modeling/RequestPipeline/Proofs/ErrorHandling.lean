import RequestPipeline.Proofs.Dispatchers
import RequestPipeline.Proofs.LatestHandler
import RequestPipeline.Proofs.Rerouting

/-!
# The error handler in effect

A dispatch stage is handed the error handler of the context at the end of a start, and indexes it
along with the routing.  A running context accepts no other one, so until the stop is completed the
stage leaves what no pattern accepts to the handler that was the latest one at the start.
-/

namespace RequestPipeline

namespace Deployment

/-! ## Runs with choices -/

variable {base : List Event} {before after deployment : Deployment} {stage : Nat}
  {snapshot : Snapshot} {handler : Option (Instance ServiceUnit)}

/-- A choice made before any start leaves everything in order. -/
theorem choose_keeps (coherent : deployment.context.Coherent) (tended : deployment.Tended base)
    (new : deployment.context.state = .uninitialized) (choice : Choice) :
    let after := (deployment.take (.choose choice)).2
    after.context.Coherent ∧ after.Tended base ∧ after.Current := by
  refine ⟨Context.choose_coherent coherent choice, ?_, current_of_inactive ?_⟩
  · cases choice <;> exact ⟨tended.distinct, tended.houses⟩
  · change (deployment.context.choose choice).state ∉ _
    simp [Context.choose_state, new]

/-- Over every run in which choices come before any start, everything is in order. -/
theorem takeAll_keeps {acts : List Act} (early : deployment.ChoosesEarly acts)
    (coherent : deployment.context.Coherent) (tended : deployment.Tended base)
    (current : deployment.Current) :
    (deployment.takeAll acts).context.Coherent ∧ (deployment.takeAll acts).Current := by
  induction acts generalizing deployment with
  | nil => exact ⟨coherent, current⟩
  | cons act rest ih =>
      obtain ⟨inTime, later⟩ := early
      cases act with
      | choose choice =>
          obtain ⟨coherent, tended, current⟩ :=
            choose_keeps coherent tended (inTime rfl) choice
          exact ih later coherent tended current
      | call call =>
          have step := deployment.perform_step call
          exact ih later (step.coherent coherent) (step.tended coherent tended)
            (deployment.perform_current call coherent tended current)

/-! ## What stays in effect -/

/-- A context is started or stopping with a stock dispatch stage, a snapshot and an error handler
or none. -/
structure InEffect (deployment : Deployment) (stage : Nat) (snapshot : Snapshot)
    (handler : Option (Instance ServiceUnit)) : Prop where
  coherent : deployment.context.Coherent
  current : deployment.Current
  running : deployment.context.state ∈ [.started, .stopping]
  slot : deployment.context.dispatch.stage = some stage
  stock : deployment.host.IsStock stage
  frozen : deployment.context.registrations = .frozen snapshot
  handler : deployment.context.errorUnit = handler

/-- No stop is completed by any of the calls. -/
def Unstopped : Deployment → List Call → Prop
  | _, [] => True
  | deployment, call :: rest =>
      (call = .finishStop → ∃ e, (deployment.perform call).1 = .error e) ∧
        Unstopped (deployment.perform call).2 rest

theorem not_configurable_of_running {state : LifecycleState}
    (running : state ∈ [.started, .stopping]) : state ∉ Context.configurable := by
  revert running
  cases state <;> decide

theorem not_registering_of_running {state : LifecycleState}
    (running : state ∈ [.started, .stopping]) : state ∉ Context.registering := by
  revert running
  cases state <;> decide

/-- While a context runs, a call that leaves the life cycle alone changes neither the context nor
the dispatch stages. -/
theorem Aside.keeps_running (aside : before.Aside after) (coherent : before.context.Coherent)
    (running : before.context.state ∈ [.started, .stopping]) :
    ∃ host, host.dispatches = before.host.dispatches ∧ after = { before with host := host } := by
  cases aside with
  | same => exact ⟨before.host, rfl, rfl⟩
  | reconfigured reconfigures =>
      exact absurd reconfigures.allowed (not_configurable_of_running running)
  | registered registers => exact absurd registers.allowed (not_registering_of_running running)
  | @fetched kind result _ fetch =>
      obtain ⟨pipeline, -, chains⟩ := coherent.piped (List.mem_cons_of_mem _ running)
      have settled := chains.furnished.not_wants kind
      cases fetch with
      | kept settled => exact ⟨before.host, rfl, rfl⟩
      | refused wants e line => exact absurd wants settled
      | made wants makes => exact absurd wants settled
  | kept key dispatcher => exact ⟨before.host.keepDispatcher key dispatcher, rfl, rfl⟩
  | served serves => exact ⟨_, serves.dispatches, rfl⟩

theorem InEffect.withHost (inEffect : deployment.InEffect stage snapshot handler) {host : Host}
    (same : host.dispatches = deployment.host.dispatches) :
    InEffect { deployment with host := host } stage snapshot handler where
  coherent := inEffect.coherent
  current := inEffect.current.withHost same
  running := inEffect.running
  slot := inEffect.slot
  stock := (Host.isStock_congr same stage).mpr inEffect.stock
  frozen := inEffect.frozen
  handler := inEffect.handler

theorem BeginStart.inEffect {result : Except Error Unit} (begins : before.BeginStart result after)
    (inEffect : before.InEffect stage snapshot handler) :
    after.InEffect stage snapshot handler := by
  have idle := not_configurable_of_running inEffect.running
  cases begins with
  | barred barred => exact inEffect
  | failed allowed setUp => exact absurd ((canMoveTo_starting_iff _).mp allowed) idle
  | begun allowed setUp => exact absurd ((canMoveTo_starting_iff _).mp allowed) idle

theorem FinishStart.inEffect {result : Except Error Unit}
    (finishes : before.FinishStart result after)
    (inEffect : before.InEffect stage snapshot handler) :
    after.InEffect stage snapshot handler := by
  have running := inEffect.running
  cases finishes with
  | barred barred => exact inEffect
  | failed starting complete => simp [starting] at running
  | finished starting complete => simp [starting] at running

theorem BeginStop.inEffect {result : Except Error Unit} (begins : before.BeginStop result after)
    (inEffect : before.InEffect stage snapshot handler) (current : after.Current)
    (stock : after.host.IsStock stage) : after.InEffect stage snapshot handler := by
  have coherent := begins.coherent inEffect.coherent
  have stopping : LifecycleState.stopping ∈ [LifecycleState.started, .stopping] := by decide
  cases begins with
  | barred barred => exact inEffect
  | bare started bare rests kept =>
      exact ⟨coherent, current, stopping, inEffect.slot, stock, inEffect.frozen, inEffect.handler⟩
  | begun started installed rests kept =>
      exact ⟨coherent, current, stopping, inEffect.slot, stock, inEffect.frozen, inEffect.handler⟩

namespace InEffect

/-- What one call keeps, as long as it does not complete a stop. -/
theorem perform (inEffect : deployment.InEffect stage snapshot handler) (call : Call)
    (lasts : call = .finishStop → ∃ e, (deployment.perform call).1 = .error e) :
    (deployment.perform call).2.InEffect stage snapshot handler := by
  cases moves : call.isMove with
  | false =>
      obtain ⟨host, same, outcome⟩ :=
        (deployment.perform_aside moves).keeps_running inEffect.coherent inEffect.running
      rw [outcome]
      exact inEffect.withHost same
  | true =>
      cases call with
      | beginStart => exact deployment.beginStart_spec.inEffect inEffect
      | finishStart => exact deployment.finishStart_spec.inEffect inEffect
      | beginStop =>
          have stages := deployment.beginStop_unasked.host.stageAt? stage
          exact deployment.beginStop_spec.inEffect inEffect
            (beginStop_current inEffect.coherent inEffect.current) (stages.trans inEffect.stock)
      | finishStop =>
          obtain ⟨e, refused⟩ := lasts rfl
          have kept := (finishStop_error (settleMove_error_iff.mp refused)).1
          rw [show (deployment.perform .finishStop).2 = deployment.finishStop.2 from rfl, kept]
          exact inEffect
      | _ => cases moves

/-- The handler in effect stays in effect until a stop is completed. -/
theorem runCalls {calls : List Call} (inEffect : deployment.InEffect stage snapshot handler)
    (unstopped : deployment.Unstopped calls) :
    (deployment.runCalls calls).InEffect stage snapshot handler := by
  induction calls generalizing deployment with
  | nil => exact inEffect
  | cons call rest ih => exact ih (inEffect.perform call unstopped.1) unstopped.2

/-- The stage is routed by the snapshot with the handler in effect. -/
theorem routed (inEffect : deployment.InEffect stage snapshot handler) :
    deployment.host.routing? stage = some (.build snapshot handler) := by
  rw [← inEffect.handler]
  exact inEffect.current.routed_running inEffect.coherent inEffect.running inEffect.slot
    inEffect.stock inEffect.frozen

end InEffect

end Deployment

/-! ## Requests that no pattern accepts -/

/-- Where there is no unit, interceptors are told by their patterns alone. -/
theorem RoutingTable.interceptorsFor_none (routing : RoutingTable) (path : String)
    (phase : Phase) : routing.interceptorsFor path none phase =
      routing.interceptorsWhere phase (·.coversPath path) := by
  simp only [interceptorsFor, InterceptorMapping.appliesTo, Option.any_none, Bool.or_false]

namespace Host

variable {routing : RoutingTable} {request : Request}

/-- Without an error handler, a request that resolves to no unit finds nothing. -/
theorem route_unhandled (unresolved : routing.resolve? request.routedPath = none)
    (bare : routing.errorUnit = none) (host : Host) :
    route routing request host = (.notFound, host.note .unmatched none) := by
  unfold route
  dsimp only
  rw [unresolved]
  dsimp only
  rw [bare]

/-- An error handler is called inside the interceptors for errors, and is told the path. -/
theorem route_handled (unresolved : routing.resolve? request.routedPath = none)
    {unit : Instance ServiceUnit} (held : routing.errorUnit = some unit) (host : Host) :
    route routing request host = runChain callNamed (.errorHandler unit)
      ((routing.interceptorsFor request.routedPath none .error).map Called.interceptor)
      { request with failure := some ⟨404, request.routedPath⟩, phase := some .error }
      (host.note .unmatched none) := by
  unfold route
  dsimp only
  rw [unresolved]
  dsimp only
  rw [held]

/-- A dispatch stage leaves a request to an error handler: the handler is told the status 404 and the
path inside the context, and stands behind one interceptor for each mapping that is for errors and
has a pattern that accepts the path, in the order of the mappings.  Without a handler the answer is
that nothing is found, and nobody is called. -/
def LeavesTo (host : Host) (stage : Nat) (snapshot : Snapshot)
    (handler : Option (Instance ServiceUnit)) (request : Request) : Prop :=
  let entered := (host.note (.stage (.dispatch stage) .entered) none).note .unmatched none
  match handler with
  | none => host.dispatch stage request = (.notFound, entered)
  | some unit => ∃ chain events,
      List.Forall₂ (fun mapping named => named.name = mapping.interceptor ∧
          snapshot.interceptor? mapping.interceptor = some named.object)
        (snapshot.table.interceptorMappings.filter fun mapping =>
          mapping.phases.contains .error && mapping.coversPath request.routedPath) chain ∧
      host.dispatch stage request = runChain callNamed (.errorHandler unit)
        (chain.map Called.interceptor)
        { request with failure := some ⟨404, request.routedPath⟩, phase := some .error } entered ∧
      (host.dispatch stage request).2.journal.events = entered.journal.events ++ events ∧
      Called.GoneThrough (.errorHandler unit) entered.journal
        { request with failure := some ⟨404, request.routedPath⟩, phase := some .error }
        (chain.map Called.interceptor) events

theorem leavesTo_of_unresolved {host : Host} {stage : Nat} {snapshot : Snapshot}
    {handler : Option (Instance ServiceUnit)} {loader : ClassLoader} {journal later : Journal}
    (frozen : snapshot.table.freeze loader journal = (.ok snapshot, later))
    (stock : host.IsStock stage) (routed : host.routing? stage = some (.build snapshot handler))
    (unmatched : ∀ mapping ∈ snapshot.table.unitMappings,
      mapping.pattern.accepts request.routedPath = false) :
    host.LeavesTo stage snapshot handler request := by
  have unresolved :=
    (RoutingTable.resolve?_eq_none_iff frozen handler request.routedPath).mpr unmatched
  have routes := dispatch_routed stock routed request
  cases handler with
  | none => exact routes.trans (route_unhandled unresolved rfl _)
  | some unit =>
      have served := routes.trans (route_handled unresolved rfl _)
      have chain := RoutingTable.interceptorsWhere_found frozen (some unit) .error
        (·.coversPath request.routedPath)
      rw [← RoutingTable.interceptorsFor_none] at chain
      obtain ⟨events, grown, through⟩ := runChain_events callNamed_gentle (.errorHandler unit)
        (((RoutingTable.build snapshot (some unit)).interceptorsFor request.routedPath none
          .error).map Called.interceptor)
        { request with failure := some ⟨404, request.routedPath⟩, phase := some .error }
        ((host.note (.stage (.dispatch stage) .entered) none).note .unmatched none)
      refine ⟨_, events, chain, served, ?_, through⟩
      rw [served]
      exact grown

end Host

namespace Deployment

/-- Over every run of a new context in which choices come before any start: once the context has
been started with a stock dispatch stage, every request that reaches the stage for a path no mapped
pattern accepts is left to the latest error handler that was set with success.  This goes on for
other calls and other requests until a stop is completed.  A handler that was set or taken away
while the context was stopped is the latest one if none has been set since. -/
theorem unmatched_left_to_latest_handler {context : Context} (new : context.IsNew) {host : Host}
    (unrouted : ∀ index, host.routing? index = none) {acts : List Act}
    (early : ChoosesEarly ⟨context, host⟩ acts) {stage : Nat}
    (held : (takeAll ⟨context, host⟩ acts).context.dispatch.stage = some stage)
    (stock : (takeAll ⟨context, host⟩ acts).host.IsStock stage)
    (started : (takeAll ⟨context, host⟩ acts).context.state = .started) :
    let start : Deployment := ⟨context, host⟩
    let reached := start.takeAll acts
    let handler := start.latestHandler context.errorUnit acts
    (∃ snapshot, reached.context.registrations = .frozen snapshot ∧
      ∀ calls, reached.Unstopped calls →
        (reached.runCalls calls).host.routing? stage = some (.build snapshot handler) ∧
        ∀ later, (reached.runCalls calls).host.Serves later → ∀ request : Request,
          (∀ mapping ∈ snapshot.table.unitMappings,
            mapping.pattern.accepts request.routedPath = false) →
          later.LeavesTo stage snapshot handler request) ∧
    ∀ (past : List Act) (set : Option (Instance ServiceUnit)) (calls : List Call),
      acts = past ++ .call (.setErrorHandler set) :: calls.map .call →
      (start.takeAll past).context.state = .stopped →
      (∀ other, .setErrorHandler other ∉ calls) → handler = set := by
  intro start reached handler
  constructor
  · obtain ⟨coherent, current⟩ := takeAll_keeps early new.coherent
      (runCalls_tended new unrouted []) (runCalls_current new unrouted [])
    have running : reached.context.state ∈ [.started, .stopping] :=
      started ▸ List.mem_cons_self
    obtain ⟨snapshot, frozen⟩ := coherent.frozen running
    obtain ⟨journal, after, made⟩ := current.frozen running snapshot frozen
    have inEffect : reached.InEffect stage snapshot handler :=
      ⟨coherent, current, running, held, stock, frozen, start.takeAll_errorUnit acts⟩
    refine ⟨snapshot, frozen, fun calls unstopped => ?_⟩
    have lasting := inEffect.runCalls unstopped
    refine ⟨lasting.routed, fun later serves request unmatched => ?_⟩
    exact Host.leavesTo_of_unresolved made
      ((Host.isStock_congr serves.dispatches stage).mpr lasting.stock)
      ((Host.routing?_congr serves.dispatches stage).trans lasting.routed) unmatched
  · rintro past set calls rfl stopped others
    have admitted : (start.takeAll past).context.state ∈ Context.configurable :=
      stopped ▸ List.mem_cons_of_mem _ List.mem_cons_self
    exact latestHandler_of_set start context.errorUnit admitted set others

/-- A context that is built with the greeter as error handler, started, and stopped again. -/
def firstLife : List Act :=
  [.choose (.errorHandler greeter), .call .beginStart, .call .finishStart, .call .beginStop,
    .call .finishStop]

/-- The greeter is replaced by a clerk before the next start. -/
def handover : List Act :=
  firstLife ++ .call (.setErrorHandler (some (RoutingTable.clerk 4))) ::
    [.beginStart, .finishStart].map .call

/-- The clerk answers what no pattern accepts. -/
theorem clerk_takes_over_from_greeter :
    let reached := takeAll ⟨.withOptions {}, {}⟩ handover
    reached.context.state = .started ∧
      (reached.host.dispatch 0 (.get "/lost")).1 = .text 200 "next" := by
  intro reached
  have started : reached.context.state = .started := rfl
  have early : ChoosesEarly ⟨.withOptions {}, {}⟩ handover := by
    refine ⟨fun _ => rfl, nofun, nofun, nofun, nofun, nofun, nofun, nofun, trivial⟩
  obtain ⟨⟨snapshot, frozen, serving⟩, latest⟩ :=
    unmatched_left_to_latest_handler (Context.isNew_withOptions {})
      (fun _ => rfl : ∀ index, Host.routing? {} index = none) early
      (rfl : reached.context.dispatch.stage = some 0) rfl started
  have clerk := latest firstLife (some (RoutingTable.clerk 4)) [.beginStart, .finishStart] rfl rfl
    (by simp)
  have empty : reached.context.registrations = .frozen Host.emptySnapshot := rfl
  obtain rfl := Registrations.frozen.inj (empty.symm.trans frozen)
  have left := (serving [] trivial).2 reached.host (.refl _) (.get "/lost") (by nofun)
  rw [clerk] at left
  obtain ⟨chain, events, applied, dispatched, -⟩ := left
  obtain rfl := List.forall₂_nil_left_iff.mp applied
  exact ⟨started, congrArg Prod.fst dispatched⟩

end Deployment

end RequestPipeline
