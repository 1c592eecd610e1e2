import RequestPipeline.Proofs.InterceptorOrder
import RequestPipeline.Proofs.Mounts
import RequestPipeline.Proofs.Resolution
import RequestPipeline.Proofs.TransitionCounts

/-!
# Counted requests

A request is counted where it is dispatched by its path: once, for the unit that it leads to with
the status of the response, or as leading nowhere.  What units and interceptors do on the way is not
counted, and neither is a request that does not get to a dispatch stage.
-/

namespace RequestPipeline

/-! ## Chains count nothing -/

namespace Host

/-- A call upon another unit counts nothing. -/
def Plain (caller : Caller) : Prop :=
  ∀ dispatcher mode request (host : Host),
    Journal.Adds Event.Uncounted host.journal (caller dispatcher mode request host).2.journal

end Host

open Host (Plain)

theorem ServiceStep.run_uncounted {caller : Caller} (plain : Plain caller) (step : ServiceStep)
    (host : Host) : Journal.Adds Event.Uncounted host.journal (step.run caller host).2.journal := by
  induction step generalizing host with
  | answer response => exact .refl _
  | call key mode request resume ih =>
      unfold ServiceStep.run
      split
      · exact ih none host
      · next dispatcher _ => exact (plain dispatcher mode request host).trans (ih _ _)

theorem runChain_uncounted {caller : Caller} (plain : Plain caller) (unit : Called ServiceUnit)
    (interceptors : List (Called Interceptor)) (request : Request) (host : Host) :
    Journal.Adds Event.Uncounted host.journal
      (runChain caller unit interceptors request host).2.journal := by
  induction interceptors generalizing host request with
  | nil =>
      have noted : Journal.Adds Event.Uncounted host.journal
          (host.note (.registration unit.role unit.object.id .entered)
            unit.object.body.serviceLine).journal := .note _ _ rfl
      exact noted.trans (ServiceStep.run_uncounted plain _ _)
  | cons interceptor inner ih =>
      have noted : Journal.Adds Event.Uncounted host.journal
          (host.note (.registration interceptor.role interceptor.object.id .entered)
            interceptor.object.body.enterLine).journal := .note _ _ rfl
      unfold runChain
      dsimp only
      split
      · exact noted
      · next passed finish _ => exact (noted.trans (ih passed _)).trans (.note _ _ rfl)

namespace Host

theorem dispatchNamedBy_uncounted {caller : Caller} (plain : Plain caller) (stage : Nat)
    (unit : String) (phase : Phase) (request : Request) (host : Host) :
    Journal.Adds Event.Uncounted host.journal
      (dispatchNamedBy caller stage unit phase request host).2.journal := by
  unfold dispatchNamedBy
  split
  · exact .refl _
  · split
    · exact .refl _
    · exact runChain_uncounted plain _ _ _ _

theorem callWithin_plain (depth : Nat) : Plain (callWithin depth) := by
  induction depth with
  | zero => exact fun _ _ _ host => .refl _
  | succ depth ih =>
      intro dispatcher mode request host
      exact dispatchNamedBy_uncounted ih _ _ _ request host

theorem callNamed_plain : Plain callNamed :=
  fun dispatcher mode request host => callWithin_plain host.nesting dispatcher mode request host

end Host

/-! ## What a dispatch stage counts -/

/-- The counter that a request to a path is due to increment when its response has a status. -/
def RoutingTable.due (routing : RoutingTable) (path : String) (status : Nat) : Counter :=
  match routing.resolve? path with
  | some unit => .dispatched unit.name status
  | none => .unmatched

namespace Host

/-- Routing a request increments the one counter that is due. -/
theorem route_increments (routing : RoutingTable) (request : Request) (host : Host) :
    (route routing request host).2.journal.increments = host.journal.increments ++
      [routing.due request.routedPath (route routing request host).1.status] := by
  unfold route RoutingTable.due
  dsimp only
  cases routing.resolve? request.routedPath with
  | some unit =>
      have chain := Journal.increments_of_adds (runChain_uncounted callNamed_plain (.unit unit)
        ((routing.interceptorsFor request.routedPath (some unit.name) (phaseOf request)).map
          Called.interceptor) request host)
      exact (Journal.increments_note ..).trans (congrArg (· ++ _) chain)
  | none =>
      have noted : (host.note .unmatched none).journal.increments =
          host.journal.increments ++ [.unmatched] := Journal.increments_note ..
      dsimp only
      cases routing.errorUnit with
      | none => exact noted
      | some unit =>
          have chain := Journal.increments_of_adds (runChain_uncounted callNamed_plain
            (.errorHandler unit) ((routing.interceptorsFor request.routedPath none .error).map
              Called.interceptor)
            { request with failure := some ⟨404, request.routedPath⟩, phase := some .error }
            (host.note .unmatched none))
          exact chain.trans noted

/-- A dispatch stage increments the counter that is due, unless it has no routing. -/
theorem dispatch_increments (host : Host) (stage : Nat) (request : Request) :
    (host.dispatch stage request).2.journal.increments = host.journal.increments ++
      ((host.routing? stage).map fun routing =>
        routing.due request.routedPath (host.dispatch stage request).1.status).toList := by
  unfold dispatch routing?
  cases found : host.dispatches[stage]? with
  | none => exact (List.append_nil _).symm
  | some cell =>
      have entered : (host.note (.stage (.dispatch stage) .entered)
          cell.stage.enterLine).journal.increments = host.journal.increments :=
        (Journal.increments_note ..).trans (List.append_nil _)
      dsimp only
      rw [Option.bind_some]
      cases cell.routing with
      | none => exact entered.trans (List.append_nil _).symm
      | some routing => exact (route_increments ..).trans (congrArg (· ++ _) entered)

end Host

/-! ## How a request gets to a dispatch stage -/

/-- A request that has got to a dispatch stage, and the host by then. -/
structure Arrival where
  stage : Nat
  request : Request
  host : Host

namespace Arrival

def response (arrival : Arrival) : Response :=
  (arrival.host.dispatch arrival.stage arrival.request).1

/-- The counter that the arrival is due to increment; none where the stage has no routing. -/
def due? (arrival : Arrival) : Option Counter :=
  (arrival.host.routing? arrival.stage).map fun routing =>
    routing.due arrival.request.routedPath arrival.response.status

end Arrival

namespace Host

/-- What a stage in front of dispatch hands on, and the host by then.  It hands nothing on if it
answers the request itself, or is missing. -/
def handsOn? (host : Host) (index : Nat) (request : Request) : Option (Request × Host) :=
  (host.wrappers[index]?).bind fun cell =>
    let noted := host.note (.stage (.wrapper index) .entered) cell.wrapper.enterLine
    match cell.wrapper with
    | .session stage =>
        let (session, noted) := noted.resolveSession stage request
        some ({ request with session := some session }, noted)
    | .security mode =>
        match (mode.decide request).answer? with
        | some _ => none
        | none => some (request, noted)
    | .custom stage =>
        match stage.handle host.journal request with
        | .answer _ => none
        | .pass request _ => some (request, noted)

/-- Where a request arrives that is handed to the first of some stages. -/
def arrival? : List StageRef → Request → Host → Option Arrival
  | [], _, _ => none
  | .dispatch stage :: _, request, host => some ⟨stage, request, host⟩
  | .wrapper index :: rest, request, host =>
      (host.handsOn? index request).bind fun (passed, reached) => arrival? rest passed reached

/-- On the way to a dispatch stage nothing has been counted, and the dispatch stages are as they
were. -/
structure Nears (before after : Host) : Prop where
  dispatches : after.dispatches = before.dispatches
  journal : Journal.Adds Event.Uncounted before.journal after.journal

variable {before middle after : Host}

theorem Nears.refl (host : Host) : host.Nears host := ⟨rfl, .refl _⟩

theorem Nears.trans (first : before.Nears middle) (second : middle.Nears after) :
    before.Nears after :=
  ⟨second.dispatches.trans first.dispatches, first.journal.trans second.journal⟩

theorem Nears.note (host : Host) {event : Event} (line : Option String)
    (uncounted : event.Uncounted) : host.Nears (host.note event line) :=
  ⟨rfl, .note _ line uncounted⟩

theorem resolveSession_nears (host : Host) (stage : SessionStage) (request : Request) :
    host.Nears (host.resolveSession stage request).2 := by
  unfold resolveSession
  split
  · exact .refl host
  · exact .note host none rfl

/-- A stage in front of dispatch counts nothing.  It leaves what becomes of the host to the stages
behind it if it hands a request on, and otherwise to none of them. -/
inductive Handles (host : Host) (index : Nat) (request : Request) : Option (Request × Host) → Prop
  | handed {passed : Request} {reached : Host} (nears : host.Nears reached)
      (onward : ∀ rest, (handleAlong (.wrapper index :: rest) request host).2 =
        (handleAlong rest passed reached).2) :
      Handles host index request (some (passed, reached))
  | kept {after : Host} (nears : host.Nears after)
      (ends : ∀ rest, (handleAlong (.wrapper index :: rest) request host).2 = after) :
      Handles host index request none

/-- A request that a stage in front does not hand on arrives nowhere, whatever the stage is linked
to. -/
theorem arrival?_of_kept {host : Host} {index : Nat} {request : Request}
    (kept : host.handsOn? index request = none) :
    arrival? (host.linkedFrom (.wrapper index)) request host = none := by
  obtain ⟨rest, links⟩ : ∃ rest, host.linkedFrom (.wrapper index) = .wrapper index :: rest := by
    unfold linkedFrom
    cases host.wrappers.length <;> exact ⟨_, rfl⟩
  rw [links, arrival?, kept, Option.bind_none]

theorem handles_handsOn (host : Host) (index : Nat) (request : Request) :
    host.Handles index request (host.handsOn? index request) := by
  unfold handsOn?
  cases found : host.wrappers[index]? with
  | none =>
      refine .kept (.refl host) fun rest => ?_
      simp only [handleAlong, found]
  | some cell =>
      obtain ⟨wrapper, next⟩ := cell
      have noted : host.Nears (host.note (.stage (.wrapper index) .entered) wrapper.enterLine) :=
        .note host _ rfl
      rw [Option.bind_some]
      cases wrapper with
      | session stage =>
          refine .handed (noted.trans (resolveSession_nears _ stage request)) fun rest => ?_
          simp only [handleAlong, found]
          rfl
      | security mode =>
          dsimp only
          cases decided : (mode.decide request).answer? with
          | some response =>
              refine .kept noted fun rest => ?_
              simp only [handleAlong, found, decided]
          | none =>
              refine .handed noted fun rest => ?_
              simp only [handleAlong, found, decided]
      | custom stage =>
          dsimp only
          cases decided : stage.handle host.journal request with
          | answer response =>
              refine .kept noted fun rest => ?_
              simp only [handleAlong, found, decided]
          | pass passed finish =>
              refine .handed noted fun rest => ?_
              simp only [handleAlong, found, decided]

/-- A request has been counted on its way nowhere, and the dispatch stage that it arrived at, if at
any, has left the host as it is. -/
inductive Delivers (before : Host) : Option Arrival → Host → Prop
  | arrived (arrival : Arrival) (nears : before.Nears arrival.host) :
      Delivers before (some arrival) (arrival.host.dispatch arrival.stage arrival.request).2
  | missed {after : Host} (nears : before.Nears after) : Delivers before none after

namespace Delivers

variable {arrival? : Option Arrival}

theorem of_nears (nears : before.Nears middle) (delivers : middle.Delivers arrival? after) :
    before.Delivers arrival? after := by
  cases delivers with
  | arrived arrival further => exact .arrived arrival (nears.trans further)
  | missed further => exact .missed (nears.trans further)

theorem of_some {arrival : Arrival} (delivers : before.Delivers (some arrival) after) :
    before.Nears arrival.host ∧
      after = (arrival.host.dispatch arrival.stage arrival.request).2 := by
  cases delivers with
  | arrived _ nears => exact ⟨nears, rfl⟩

theorem increments (delivers : before.Delivers arrival? after) : after.journal.increments =
    before.journal.increments ++ (arrival?.bind Arrival.due?).toList := by
  cases delivers with
  | arrived arrival nears =>
      rw [dispatch_increments, Journal.increments_of_adds nears.journal]
      rfl
  | missed nears =>
      rw [Journal.increments_of_adds nears.journal]
      exact (List.append_nil _).symm

end Delivers

theorem handleAlong_delivers (refs : List StageRef) (request : Request) (host : Host) :
    host.Delivers (arrival? refs request host) (handleAlong refs request host).2 := by
  induction refs generalizing request host with
  | nil => exact .missed (.refl host)
  | cons ref rest ih =>
      cases ref with
      | dispatch stage => exact .arrived ⟨stage, request, host⟩ (.refl host)
      | wrapper index =>
          have handles := host.handles_handsOn index request
          unfold arrival?
          -- The stage may still change the response on its way back, but no longer the host.
          generalize host.handsOn? index request = handed at handles ⊢
          cases handles with
          | handed nears onward =>
              rw [onward rest]
              exact .of_nears nears (ih _ _)
          | kept nears ends =>
              rw [ends rest]
              exact .missed nears

theorem callNamed_delivers (dispatcher : NamedDispatcher) (mode : NamedMode) (request : Request)
    (host : Host) : host.Delivers none (callNamed dispatcher mode request host).2 := by
  have serves := callNamed_gentle dispatcher mode request host
  exact .missed ⟨serves.dispatches, callNamed_plain dispatcher mode request host⟩

end Host

/-- Where a request to a context arrives; nowhere unless the context is started and the request is
inside its path. -/
def Context.arrival? (context : Context) (request : Request) (host : Host) : Option Arrival :=
  match context.pipeline with
  | none => none
  | some pipeline =>
      if context.state = .started then
        match ContextPath.split context.contextPath request.path with
        | none => none
        | some inside =>
            Host.arrival? (host.linkedFrom pipeline.head)
              { request with inside := some inside } host
      else none

theorem Context.handle_delivers (context : Context) (request : Request) (host : Host) :
    host.Delivers (context.arrival? request host) (context.handle request host).2 := by
  have missed : host.Delivers none host := .missed (.refl host)
  unfold Context.handle Context.arrival?
  cases context.pipeline with
  | none => exact missed
  | some pipeline =>
      by_cases started : context.state = .started
      · simp only [if_pos started]
        cases ContextPath.split context.contextPath request.path with
        | none => exact missed
        | some inside => exact Host.handleAlong_delivers ..
      · simp only [if_neg started]
        exact missed

/-! ## The counter that is due, by the mappings -/

namespace RegistrationTable

variable {table : RegistrationTable} {loader : ClassLoader} {journal later : Journal}
  {snapshot : Snapshot}

/-- What a request to a path counts as when its response has a status: for the unit of the last
mapping of the pattern that stands highest for the path, or as unmatched if no mapped pattern
accepts the path. -/
def Due (table : RegistrationTable) (path : String) (status : Nat) : Counter → Prop
  | .dispatched unit counted => counted = status ∧
      ∃ best, table.Leads path best ∧ lastUnit? table.unitMappings best = some unit
  | .unmatched => ∀ mapping ∈ table.unitMappings, mapping.pattern.accepts path = false
  | .transitions .. => False

theorem not_leads_of_refused {path : String}
    (refused : ∀ mapping ∈ table.unitMappings, mapping.pattern.accepts path = false)
    (best : PathPattern) : ¬ table.Leads path best := by
  intro leads
  obtain ⟨mapping, member, same⟩ := leads.mapped
  have misses := refused mapping member
  rw [same, leads.accepts] at misses
  cases misses

/-- The mappings determine the counter that is due. -/
theorem due_iff (grown : Grows {} table)
    (frozen : table.freeze loader journal = (.ok snapshot, later))
    (errorUnit : Option (Instance ServiceUnit)) (path : String) (status : Nat)
    (counter : Counter) : table.Due path status counter ↔
      counter = (RoutingTable.build snapshot errorUnit).due path status := by
  unfold RoutingTable.due
  cases resolved : (RoutingTable.build snapshot errorUnit).resolve? path with
  | none =>
      have refused := (RoutingTable.resolve?_eq_none_iff frozen errorUnit path).mp resolved
      cases counter with
      | dispatched unit counted =>
          refine ⟨?_, nofun⟩
          rintro ⟨-, best, leads, -⟩
          exact absurd leads (not_leads_of_refused refused best)
      | unmatched => exact ⟨fun _ => rfl, fun _ => refused⟩
      | transitions context target => exact ⟨nofun, nofun⟩
  | some named =>
      obtain ⟨best, leads, last, -⟩ := RoutingTable.resolve?_eq_some frozen resolved
      cases counter with
      | dispatched unit counted =>
          constructor
          · rintro ⟨rfl, other, otherLeads, otherLast⟩
            rw [otherLeads.unique (grown.legible legible_empty) leads, last] at otherLast
            obtain rfl := Option.some.inj otherLast
            rfl
          · intro same
            cases same
            exact ⟨rfl, best, leads, last⟩
      | unmatched =>
          refine ⟨fun refused => ?_, nofun⟩
          exact absurd leads (not_leads_of_refused refused best)
      | transitions context target => exact ⟨nofun, nofun⟩

end RegistrationTable

/-! ## Runs -/

def Counter.isDispatch : Counter → Bool
  | .dispatched .. | .unmatched => true
  | .transitions .. => false

theorem RoutingTable.due_isDispatch (routing : RoutingTable) (path : String) (status : Nat) :
    (routing.due path status).isDispatch = true := by
  unfold due
  split <;> rfl

namespace Deployment

variable {deployment : Deployment}

def arrival? (deployment : Deployment) : Call → Option Arrival
  | .serve request => deployment.context.arrival? request deployment.host
  | .serveFrom head request =>
      Host.arrival? (deployment.host.linkedFrom head) request deployment.host
  | _ => none

theorem arrival?_of_idle {call : Call} (idle : call.isServing = false) :
    deployment.arrival? call = none := by
  cases call <;> first | rfl | cases idle

def arrivals : Deployment → List Call → List Arrival
  | _, [] => []
  | deployment, call :: rest =>
      (deployment.arrival? call).toList ++ arrivals (deployment.perform call).2 rest

def answers : Deployment → List Call → List (Except Error Answer)
  | _, [] => []
  | deployment, call :: rest =>
      (deployment.perform call).1 :: answers (deployment.perform call).2 rest

theorem perform_delivers (deployment : Deployment) {call : Call}
    (serving : call.isServing = true) :
    deployment.host.Delivers (deployment.arrival? call) (deployment.perform call).2.host := by
  cases call with
  | serve request => exact deployment.context.handle_delivers request deployment.host
  | serveFrom head request => exact Host.handleAlong_delivers ..
  | callNamed dispatcher mode request => exact Host.callNamed_delivers ..
  | _ => cases serving

/-- Every call counts the requests that arrive, each once. -/
theorem perform_dispatches (deployment : Deployment) (call : Call) :
    (deployment.perform call).2.host.journal.increments.filter Counter.isDispatch =
      deployment.host.journal.increments.filter Counter.isDispatch ++
        (deployment.arrival? call).toList.filterMap Arrival.due? := by
  cases serving : call.isServing with
  | true =>
      rw [(deployment.perform_delivers serving).increments, List.filter_append]
      cases deployment.arrival? call with
      | none => rfl
      | some arrival =>
          simp only [Option.bind_some, Option.toList_some, List.filterMap_cons,
            List.filterMap_nil, Arrival.due?]
          cases arrival.host.routing? arrival.stage with
          | none => rfl
          | some routing => simp [RoutingTable.due_isDispatch]
  | false =>
      obtain ⟨states, enters⟩ := deployment.perform_enters serving
      rw [enters.journal, List.filter_append, arrival?_of_idle serving]
      congr 1
      simp [List.filter_map, Function.comp_def, Counter.isDispatch]

theorem runCalls_dispatches (deployment : Deployment) (calls : List Call) :
    (deployment.runCalls calls).host.journal.increments.filter Counter.isDispatch =
      deployment.host.journal.increments.filter Counter.isDispatch ++
        (deployment.arrivals calls).filterMap Arrival.due? := by
  induction calls generalizing deployment with
  | nil => exact (List.append_nil _).symm
  | cons call rest ih =>
      have first := deployment.perform_dispatches call
      have onward := ih (deployment.perform call).2
      rw [first, List.append_assoc, ← List.filterMap_append] at onward
      exact onward

variable {stage : Nat} {routing : RoutingTable}

/-- Requests that are handed to a routed stage one after the other are all answered, and each
increments the counter that is due. -/
theorem handed_increments (deployment : Deployment)
    (routed : deployment.host.routing? stage = some routing)
    (requests : List Request) : ∃ served : List (Request × Response),
      served.map Prod.fst = requests ∧
      deployment.answers (requests.map (.serveFrom (.dispatch stage))) =
        served.map (fun pair => .ok (.response pair.2)) ∧
      (deployment.runCalls (requests.map (.serveFrom (.dispatch stage)))).host.journal.increments =
        deployment.host.journal.increments ++
          served.map fun pair => routing.due pair.1.routedPath pair.2.status := by
  induction requests generalizing deployment with
  | nil => exact ⟨[], rfl, rfl, (List.append_nil _).symm⟩
  | cons request rest ih =>
      have serves := deployment.host.dispatch_serves stage request
      have counts := deployment.host.dispatch_increments stage request
      rw [routed] at counts
      cases dispatched : deployment.host.dispatch stage request with
      | mk response host =>
      rw [dispatched] at serves counts
      have handed : deployment.perform (.serveFrom (.dispatch stage) request) =
          (.ok (.response response), { deployment with host := host }) := by
        rw [perform, Host.handle, Host.linkedFrom_dispatch]
        exact congrArg deployment.settleResponse dispatched
      -- Serving leaves the dispatch stages alone, so the next request meets the same routing.
      have still : host.routing? stage = some routing :=
        (Host.routing?_congr serves.dispatches stage).trans routed
      obtain ⟨served, same, answered, counted⟩ :=
        ih { deployment with host := host } still
      refine ⟨(request, response) :: served, congrArg _ same, ?_, ?_⟩
      · rw [List.map_cons, answers, handed, answered]
        rfl
      · rw [List.map_cons, runCalls, List.foldl_cons, handed, ← runCalls]
        rw [counted, counts, List.append_assoc]
        rfl

/-- A context that is not started, or that a request is outside of, leaves everything as it is. -/
theorem serve_unserved {request : Request} (unserved : deployment.context.state ≠ .started ∨
    ¬ ContextPath.Below deployment.context.contextPath request.path) :
    (deployment.perform (.serve request)).2 = deployment := by
  rw [perform, Context.handle]
  cases deployment.context.pipeline with
  | none => rfl
  | some pipeline =>
      by_cases started : deployment.context.state = .started
      · have outside := unserved.resolve_left (not_not_intro started)
        simp only [if_pos started, ContextPath.split_eq_none_iff.mpr outside]
        rfl
      · simp only [if_neg started]
        rfl

/-- At a stage that is routed by the mappings of a table, requests that are handed to it one after
the other are all answered, and each of them increments one counter once: the one that is due by
the mappings for its path and the status of its response, whatever the units called upon each other
and whoever answered.  So does a request that arrives at the stage behind others.  In the course of
any calls the requests that arrive at dispatch stages are counted and nothing else is: not calls
upon units by name, not requests that a stage in front answers, and not requests to a context that
is not started or that they are outside of. -/
theorem requests_are_counted_once {table : RegistrationTable} {loader : ClassLoader}
    {journal later : Journal} {snapshot : Snapshot} (grown : RegistrationTable.Grows {} table)
    (frozen : table.freeze loader journal = (.ok snapshot, later)) (deployment : Deployment)
    {stage : Nat} {errorUnit : Option (Instance ServiceUnit)}
    (routed : deployment.host.routing? stage = some (.build snapshot errorUnit)) :
    let increments (deployment : Deployment) : List Counter := deployment.host.journal.increments
    (∀ requests : List Request, ∃ (served : List (Request × Response)) (counters : List Counter),
      let calls := requests.map (Call.serveFrom (.dispatch stage))
      served.map Prod.fst = requests ∧
      deployment.answers calls = served.map (fun pair => .ok (.response pair.2)) ∧
      List.Forall₂ (fun pair counter => ∀ other,
        table.Due pair.1.routedPath pair.2.status other ↔ other = counter) served counters ∧
      increments (deployment.runCalls calls) = increments deployment ++ counters) ∧
    (∀ call arrival, deployment.arrival? call = some arrival → arrival.stage = stage →
      (deployment.perform call).2.host =
          (arrival.host.dispatch stage arrival.request).2 ∧
        ∃ counter, (∀ other,
            table.Due arrival.request.routedPath arrival.response.status other ↔ other = counter) ∧
          increments (deployment.perform call).2 = increments deployment ++ [counter]) ∧
    (∀ calls, (increments (deployment.runCalls calls)).filter Counter.isDispatch =
      (increments deployment).filter Counter.isDispatch ++
        (deployment.arrivals calls).filterMap Arrival.due?) ∧
    (∀ dispatcher mode request,
      increments (deployment.perform (.callNamed dispatcher mode request)).2 =
        increments deployment) ∧
    (∀ unit phase request,
      (deployment.host.dispatchNamed stage unit phase request).2.journal.increments =
        increments deployment) ∧
    (∀ call, call.isServing = true → deployment.arrival? call = none →
      increments (deployment.perform call).2 = increments deployment) ∧
    (∀ index request, deployment.host.handsOn? index request = none →
      increments (deployment.perform (.serveFrom (.wrapper index) request)).2 =
        increments deployment) ∧
    (∀ request, deployment.context.state ≠ .started ∨
        ¬ ContextPath.Below deployment.context.contextPath request.path →
      (deployment.perform (.serve request)).2 = deployment) := by
  intro increments
  have due (path : String) (status : Nat) (other : Counter) : table.Due path status other ↔
      other = (RoutingTable.build snapshot errorUnit).due path status :=
    RegistrationTable.due_iff grown frozen errorUnit path status other
  have unarrived (call : Call) (serving : call.isServing = true)
      (nowhere : deployment.arrival? call = none) :
      increments (deployment.perform call).2 = increments deployment := by
    have counted := (deployment.perform_delivers serving).increments
    rw [nowhere] at counted
    exact counted.trans (List.append_nil _)
  refine ⟨?_, ?_, deployment.runCalls_dispatches, ?_, ?_, unarrived, ?_,
    fun _ => serve_unserved⟩
  · intro requests
    obtain ⟨served, same, answered, counted⟩ := handed_increments deployment routed requests
    refine ⟨served, _, same, answered, ?_, counted⟩
    rw [List.forall₂_map_right_iff, List.forall₂_same]
    exact fun pair _ => due pair.1.routedPath pair.2.status
  · rintro call arrival arrives rfl
    have serving : call.isServing = true := by
      by_contra idle
      rw [Bool.not_eq_true] at idle
      rw [arrival?_of_idle idle] at arrives
      cases arrives
    have delivers := deployment.perform_delivers serving
    have counted := delivers.increments
    rw [arrives] at delivers counted
    obtain ⟨nears, dispatched⟩ := delivers.of_some
    have still : arrival.host.routing? arrival.stage = some (.build snapshot errorUnit) :=
      (Host.routing?_congr nears.dispatches _).trans routed
    rw [Option.bind_some, Arrival.due?, still] at counted
    exact ⟨dispatched, _, due _ _, counted⟩
  · exact fun dispatcher mode request => unarrived _ rfl rfl
  · intro unit phase request
    exact Journal.increments_of_adds
      (Host.dispatchNamedBy_uncounted Host.callNamed_plain stage unit phase request deployment.host)
  · exact fun index request kept => unarrived _ rfl (Host.arrival?_of_kept kept)

open RoutingTable (clerk)

/-- A kiosk whose window has everything fetched from the store. -/
def window : Instance ServiceUnit where
  id := .supplied 1
  body.service _ request :=
    .call "store" .forward request fun response => .answer (response.getD .notFound)

def shutter : Instance Interceptor where
  id := .supplied 3
  body.intercept _ request :=
    if request.path = "/window/late" then .answer (.text 403 "closed") else .pass request id

def kiosk : List TableCall :=
  [.registerUnit "window" (.shared window), .registerUnit "store" (.shared (clerk 2)),
    .registerInterceptor "shutter" (.shared shutter) .none, .mapUnit "window" ["/window/*"],
    .mapInterceptorToUnits "shutter" .none true ["window"]]

def kioskSnapshot : Snapshot :=
  ⟨RegistrationTable.afterCalls {} kiosk, [("window", window), ("store", clerk 2)],
    [("shutter", shutter)]⟩

/-- The kiosk behind a dispatch stage, with a clerk who answers whatever is asked elsewhere. -/
def kioskOpen : Deployment where
  context := .withOptions {}
  host := {
    dispatches :=
      [{ stage := .stock, running := true, reported := true,
         routing := some (.build kioskSnapshot (some (clerk 4))) }]
    dispatchers := [("store", ⟨0, "store"⟩)] }

/-- The window counts once though it calls upon the store, and also when it is closed; what is asked
elsewhere counts as unmatched though it is answered. -/
theorem window_counts_for_the_store :
    let requests := [Request.get "/window/day", .get "/window/late", .get "/door"]
    let calls := requests.map (Call.serveFrom (.dispatch 0))
    (kioskOpen.runCalls calls).host.journal.increments =
        [.dispatched "window" 200, .dispatched "window" 403, .unmatched] ∧
      ∃ day late door : Response, kioskOpen.answers calls =
          [.ok (.response day), .ok (.response late), .ok (.response door)] ∧
        day.status = 200 ∧ late.status = 403 := by
  intro requests calls
  have frozen : (RegistrationTable.afterCalls {} kiosk).freeze .none {} =
      (.ok kioskSnapshot, {}) := rfl
  have routed : kioskOpen.host.routing? 0 = some (.build kioskSnapshot (some (clerk 4))) := rfl
  have counted : (kioskOpen.runCalls calls).host.journal.increments =
      [.dispatched "window" 200, .dispatched "window" 403, .unmatched] := by
    decide +kernel
  have grown := RegistrationTable.afterCalls_grows {} kiosk
  obtain ⟨handed, -⟩ := requests_are_counted_once grown frozen kioskOpen routed
  obtain ⟨served, counters, -, answered, due, increased⟩ := handed requests
  obtain rfl := counted.symm.trans increased
  obtain _ | ⟨day, _ | ⟨late, _ | ⟨door, _ | _⟩⟩⟩ := due
  refine ⟨counted, _, _, _, answered, ?_, ?_⟩
  · exact ((day _).mpr rfl).1.symm
  · exact ((late _).mpr rfl).1.symm

end Deployment

end RequestPipeline
