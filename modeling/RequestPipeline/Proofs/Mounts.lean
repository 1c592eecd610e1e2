import RequestPipeline.Proofs.AccessPaths
import RequestPipeline.Proofs.RoutedStages

/-!
# Contexts mounted below a path

What a dispatch stage does with a request depends on a selection, which is made by the path inside
the context alone.  So a context that is mounted below a path selects what the same registrations
select at the root, and answers by itself only what lies outside.
-/

namespace RequestPipeline

/-! ## Inside and outside a mount -/

namespace ContextPath

open Text

variable {mount rest full : String}

/-- A path is the mount itself, or goes on with a slash behind it. -/
def Below (mount full : String) : Prop := full = mount ∨ ∃ rest, full = mount ++ "/" ++ rest

def innerPath (rest : String) : String := if rest = "" then "/" else rest

theorem below_root_iff : Below "" rest ↔ rest = "" ∨ rest.toList.head? = some '/' := by
  refine or_congr_right ?_
  constructor
  · rintro ⟨more, rfl⟩
    simp
  · intro slash
    obtain ⟨more, chars⟩ := List.head?_eq_some_iff.mp slash
    refine ⟨String.ofList more, String.toList_inj.mp ?_⟩
    simp [chars]

theorem below_append : Below mount (mount ++ rest) ↔ Below "" rest := by
  simp only [Below, String.append_assoc, String.append_right_inj, String.empty_append,
    String.append_eq_left_iff]

theorem split_append_below (mount : String) (below : Below "" rest) :
    split mount (mount ++ rest) = some ⟨mount, innerPath rest⟩ := by
  rcases below_root_iff.mp below with rfl | slash
  · have stripped : stripStart? mount.toList (mount ++ "").toList = some [] := by
      rw [stripStart?_eq_some, String.append_empty, List.append_nil]
    simp only [split, stripped, innerPath, if_true]
  · have filled : rest ≠ "" := by
      rintro rfl
      cases slash
    rw [split_append mount slash, innerPath, if_neg filled]

/-- The inside of a path that is already inside is the path itself. -/
theorem innerPath_innerPath (rest : String) : innerPath (innerPath rest) = innerPath rest := by
  unfold innerPath
  split <;> simp_all

theorem below_innerPath (below : Below "" rest) : Below "" (innerPath rest) := by
  unfold innerPath
  split
  · exact Or.inr ⟨"", rfl⟩
  · exact below

/-- A context takes up the paths below its mount, and no others. -/
theorem split_eq_none_iff : split mount full = none ↔ ¬ Below mount full := by
  constructor
  · intro outside below
    obtain ⟨rest, whole, inner⟩ : ∃ rest, full = mount ++ rest ∧ Below "" rest := by
      rcases below with rfl | ⟨rest, rfl⟩
      · exact ⟨"", String.append_empty.symm, Or.inl rfl⟩
      · exact ⟨"/" ++ rest, String.append_assoc, Or.inr ⟨rest, by rw [String.empty_append]⟩⟩
    rw [whole, split_append_below mount inner] at outside
    cases outside
  · intro outside
    cases splits : split mount full with
    | none => rfl
    | some inside =>
        refine absurd ?_ outside
        rcases split_cases splits with ⟨same, -⟩ | ⟨whole, slash⟩
        · exact Or.inl same
        · rw [whole]
          exact below_append.mpr (below_root_iff.mpr (Or.inr slash))

end ContextPath

/-! ## What is selected for a path -/

/-- What a dispatch stage selects for a request: a unit inside its interceptors, the error handler
inside those for errors together with what it is told, or nothing. -/
inductive Selection
  | served (unit : Named ServiceUnit) (chain : List (Named Interceptor))
  | failed (handler : Instance ServiceUnit) (chain : List (Named Interceptor))
      (failure : DispatchFailure)
  | unserved

/-- The selection for a path inside the context. -/
def RoutingTable.select (routing : RoutingTable) (path : String) (phase : Phase) : Selection :=
  match routing.resolve? path with
  | some unit => .served unit (routing.interceptorsFor path (some unit.name) phase)
  | none =>
      match routing.errorUnit with
      | some handler => .failed handler (routing.interceptorsFor path none .error) ⟨404, path⟩
      | none => .unserved

/-- Serves a request by what has been selected for it. -/
def Selection.carryOut (request : Request) (host : Host) : Selection → Response × Host
  | .served unit chain =>
      let (response, host) := runChain Host.callNamed (.unit unit) (chain.map Called.interceptor)
        request host
      (response, host.note (.dispatched unit.name response.status) none)
  | .failed handler chain failure =>
      runChain Host.callNamed (.errorHandler handler) (chain.map Called.interceptor)
        { request with failure := some failure, phase := some .error } (host.note .unmatched none)
  | .unserved => (.notFound, host.note .unmatched none)

/-- Routing a request is carrying out the selection for its path inside the context. -/
theorem Host.route_eq (routing : RoutingTable) (request : Request) (host : Host) :
    route routing request host =
      (routing.select request.routedPath (phaseOf request)).carryOut request host := by
  unfold route RoutingTable.select
  dsimp only
  cases routing.resolve? request.routedPath with
  | some unit => rfl
  | none =>
      dsimp only
      cases routing.errorUnit with
      | some handler => rfl
      | none => rfl

/-- A request that is handed to a dispatch stage enters it before anything else happens. -/
theorem Host.dispatch_enters {host : Host} {stage : Nat}
    (present : stage < host.dispatches.length) (request : Request) :
    ∃ added, (host.dispatch stage request).2.journal.events =
      host.journal.events ++ .stage (.dispatch stage) .entered :: added := by
  obtain ⟨cell, found⟩ : ∃ cell, host.dispatches[stage]? = some cell :=
    ⟨_, List.getElem?_eq_getElem present⟩
  have noted : (host.note (.stage (.dispatch stage) .entered)
      cell.stage.enterLine).journal.events =
      host.journal.events ++ [.stage (.dispatch stage) .entered] := Journal.events_note ..
  unfold dispatch
  rw [found]
  dsimp only
  cases held : cell.routing with
  | none => exact ⟨[], noted⟩
  | some routing =>
      have placed : (host.note (.stage (.dispatch stage) .entered)
          cell.stage.enterLine).routing? stage = some routing := by
        simp [routing?, note, found, held]
      obtain ⟨added, grown, -⟩ := (route_serves placed request).journal
      refine ⟨added, grown.trans ?_⟩
      rw [noted, List.append_assoc]
      rfl

theorem Host.IsStock.lt {host : Host} {stage : Nat} (stock : host.IsStock stage) :
    stage < host.dispatches.length := by
  obtain ⟨cell, found, -⟩ := Option.map_eq_some_iff.mp stock
  exact (List.getElem?_eq_some_iff.mp found).1

/-! ## Serving by dispatch alone -/

namespace Deployment

open ContextPath

variable {deployment : Deployment} {stage : Nat} {snapshot : Snapshot}

/-- A context has been started with a stock dispatch stage as its only stage. -/
structure DispatchesOnly (deployment : Deployment) (stage : Nat) (snapshot : Snapshot) :
    Prop where
  started : deployment.context.state = .started
  installed : deployment.context.pipeline = some ⟨none, none, stage⟩
  stock : deployment.host.IsStock stage
  frozen : deployment.context.registrations = .frozen snapshot

namespace DispatchesOnly

variable (only : deployment.DispatchesOnly stage snapshot)
include only

theorem serve_outside {request : Request}
    (outside : ¬ Below deployment.context.contextPath request.path) :
    deployment.perform (.serve request) = (.ok (.response .notFound), deployment) := by
  rw [perform, Context.handle, only.installed]
  dsimp only
  rw [if_pos only.started, split_eq_none_iff.mpr outside]
  rfl

theorem serve_inside {request : Request} {inside : PathInContext}
    (splits : split deployment.context.contextPath request.path = some inside) :
    deployment.perform (.serve request) = deployment.settleResponse
      (deployment.host.dispatch stage { request with inside := some inside }) := by
  rw [perform, Context.handle, only.installed]
  dsimp only
  rw [if_pos only.started, splits]
  dsimp only [Pipeline.head, Pipeline.afterSession]
  rw [Host.handle, Host.linkedFrom_dispatch]
  rfl

theorem routed (current : deployment.Current) :
    deployment.host.routing? stage = some (.build snapshot deployment.context.errorUnit) := by
  have running : deployment.context.state ∈ [.starting, .started] := by simp [only.started]
  have routed := current.routed only.started _ snapshot only.installed only.frozen
  rw [current.powered running _ only.installed only.stock] at routed
  exact routed

/-- Below the mount, the selection for the path inside the context is carried out. -/
theorem serve_below (current : deployment.Current) {rest : String} (below : Below "" rest)
    (request : Request) (path : request.path = deployment.context.contextPath ++ rest) :
    deployment.perform (.serve request) = deployment.settleResponse
      (((RoutingTable.build snapshot deployment.context.errorUnit).select (innerPath rest)
          (Host.phaseOf request)).carryOut
        { request with inside := some ⟨deployment.context.contextPath, innerPath rest⟩ }
        (deployment.host.note (.stage (.dispatch stage) .entered) none)) := by
  have splits := split_append_below deployment.context.contextPath below
  rw [← path] at splits
  rw [only.serve_inside splits, Host.dispatch_routed only.stock (only.routed current),
    Host.route_eq]
  rfl

/-- A request is answered without any stage exactly outside the mount. -/
theorem unentered_iff (request : Request) :
    (∃ response after, deployment.perform (.serve request) = (.ok (.response response), after) ∧
      response.status = 404 ∧
      Journal.Adds (fun event => ∀ ref, event ≠ .stage ref .entered) deployment.host.journal
        after.host.journal) ↔
      ¬ Below deployment.context.contextPath request.path := by
  constructor
  · rintro ⟨response, after, served, -, added, grown, idle⟩
    rw [← split_eq_none_iff]
    cases splits : split deployment.context.contextPath request.path with
    | none => rfl
    | some inside =>
        rw [only.serve_inside splits] at served
        obtain ⟨more, entered⟩ := Host.dispatch_enters only.stock.lt
          { request with inside := some inside }
        obtain rfl := congrArg Prod.snd served
        have same := entered.symm.trans grown
        obtain rfl := List.append_cancel_left same
        exact absurd rfl (idle _ List.mem_cons_self (.dispatch stage))
  · intro outside
    exact ⟨_, _, only.serve_outside outside, rfl, .refl _⟩

end DispatchesOnly

/-- Two contexts have been started with the same registrations and error handler, each with a stock
dispatch stage only, one of them at the root.  The other one answers what lies outside its mount
without any stage, and nothing else.  Below the mount it carries out the selection that the context
at the root carries out for the rest of the path: the same unit inside the same interceptors, or the
error handler told the same path, or nothing.  The mount is dispatched like the mount and a
slash. -/
theorem mounts_select_alike {context root : Context} (new : context.IsNew) (rootNew : root.IsNew)
    {host rootHost : Host} (unrouted : ∀ index, host.routing? index = none)
    (rootUnrouted : ∀ index, rootHost.routing? index = none) (calls rootCalls : List Call)
    {stage rootStage : Nat} {snapshot : Snapshot}
    (only : (runCalls ⟨context, host⟩ calls).DispatchesOnly stage snapshot)
    (rootOnly : (runCalls ⟨root, rootHost⟩ rootCalls).DispatchesOnly rootStage snapshot)
    (atRoot : (runCalls ⟨root, rootHost⟩ rootCalls).context.contextPath = "")
    (sameHandler : (runCalls ⟨root, rootHost⟩ rootCalls).context.errorUnit =
      (runCalls ⟨context, host⟩ calls).context.errorUnit) :
    let reached := runCalls ⟨context, host⟩ calls
    let rootReached := runCalls ⟨root, rootHost⟩ rootCalls
    let mount := reached.context.contextPath
    let routing := RoutingTable.build snapshot reached.context.errorUnit
    let entered := reached.host.note (.stage (.dispatch stage) .entered) none
    let rootEntered := rootReached.host.note (.stage (.dispatch rootStage) .entered) none
    (∀ request : Request,
      ((∃ response after, reached.perform (.serve request) = (.ok (.response response), after) ∧
        response.status = 404 ∧
        Journal.Adds (fun event => ∀ ref, event ≠ .stage ref .entered) reached.host.journal
          after.host.journal) ↔
        ¬ (request.path = mount ∨ ∃ rest, request.path = mount ++ "/" ++ rest)) ∧
      (¬ (request.path = mount ∨ ∃ rest, request.path = mount ++ "/" ++ rest) →
        reached.perform (.serve request) = (.ok (.response .notFound), reached))) ∧
    (∀ (request : Request) (rest : String), rest = "" ∨ rest.toList.head? = some '/' →
      let path := innerPath rest
      let selection := routing.select path (Host.phaseOf request)
      reached.perform (.serve { request with path := mount ++ rest }) =
        reached.settleResponse (selection.carryOut
          { request with path := mount ++ rest, inside := some ⟨mount, path⟩ } entered) ∧
      ∀ full, full = rest ∨ full = path →
        rootReached.perform (.serve { request with path := full }) =
          rootReached.settleResponse (selection.carryOut
            { request with path := full, inside := some ⟨"", path⟩ } rootEntered)) ∧
    ∀ (request : Request) (full : String), full = mount ∨ full = mount ++ "/" →
      reached.perform (.serve { request with path := full }) =
        reached.settleResponse ((routing.select "/" (Host.phaseOf request)).carryOut
          { request with path := full, inside := some ⟨mount, "/"⟩ } entered) := by
  intro reached rootReached mount routing entered rootEntered
  have current : reached.Current := runCalls_current new unrouted calls
  have rootCurrent : rootReached.Current := runCalls_current rootNew rootUnrouted rootCalls
  have inside (request : Request) {rest : String} (below : Below "" rest) :=
    only.serve_below current below { request with path := mount ++ rest } rfl
  have insideRoot (request : Request) {rest : String} (below : Below "" rest) :=
    rootOnly.serve_below rootCurrent below { request with path := rest }
      (by rw [atRoot, String.empty_append])
  refine ⟨?_, ?_, ?_⟩
  · intro request
    exact ⟨only.unentered_iff request, only.serve_outside⟩
  · intro request rest starts path selection
    have below : Below "" rest := below_root_iff.mpr starts
    refine ⟨inside request below, ?_⟩
    rintro full (rfl | rfl)
    · rw [insideRoot request below, sameHandler, atRoot]
      rfl
    · rw [insideRoot request (below_innerPath below), innerPath_innerPath, sameHandler, atRoot]
      rfl
  · rintro request full (rfl | rfl)
    · have served := inside request (Or.inl rfl : Below "" "")
      rw [String.append_empty] at served
      exact served
    · exact inside request (Or.inr ⟨"", rfl⟩ : Below "" "/")

def greeting : List Call := [.addUnit (.shared greeter) "/*", .beginStart, .finishStart]

/-- What is below the mount is greeted as at the root, and what only begins alike is not. -/
theorem cart_greeted_below_shop :
    let shop := runCalls ⟨(Context.withOptions {}).mounted "/shop", {}⟩ greeting
    let root := runCalls ⟨.withOptions {}, {}⟩ greeting
    (shop.perform (.serve (.get "/shopping"))) = (.ok (.response .notFound), shop) ∧
    (shop.perform (.serve (.get "/shop/cart"))).1 = .ok (.response (.text 200 "hello")) ∧
    (root.perform (.serve (.get "/cart"))).1 = .ok (.response (.text 200 "hello")) ∧
    ∃ selection : Selection,
      shop.perform (.serve (.get "/shop/cart")) = shop.settleResponse (selection.carryOut
        { Request.get "/shop/cart" with inside := some ⟨"/shop", "/cart"⟩ }
        (shop.host.note (.stage (.dispatch 0) .entered) none)) ∧
      root.perform (.serve (.get "/cart")) = root.settleResponse (selection.carryOut
        { Request.get "/cart" with inside := some ⟨"", "/cart"⟩ }
        (root.host.note (.stage (.dispatch 0) .entered) none)) := by
  intro shop root
  obtain ⟨snapshot, frozen⟩ : ∃ snapshot, shop.context.registrations = .frozen snapshot :=
    ⟨_, rfl⟩
  have only : shop.DispatchesOnly 0 snapshot := ⟨rfl, rfl, rfl, frozen⟩
  have rootOnly : root.DispatchesOnly 0 snapshot := ⟨rfl, rfl, rfl, frozen⟩
  obtain ⟨outside, below, -⟩ := mounts_select_alike ⟨rfl, rfl, rfl⟩
    (Context.isNew_withOptions {}) (fun _ => rfl) (fun _ => rfl) greeting greeting
    only rootOnly rfl rfl
  have mounted : shop.context.contextPath = "/shop" := by decide +kernel
  have beside : ¬ Below shop.context.contextPath "/shopping" := by
    rw [mounted]
    exact split_eq_none_iff.mp (by decide +kernel)
  have greeted : ((runCalls ⟨(Context.withOptions {}).mounted "/shop", {}⟩ greeting).perform
      (.serve (.get "/shop/cart"))).1 = .ok (.response (.text 200 "hello")) := rfl
  have greetedRoot : ((runCalls ⟨.withOptions {}, {}⟩ greeting).perform
      (.serve (.get "/cart"))).1 = .ok (.response (.text 200 "hello")) := rfl
  obtain ⟨inside, insideRoot⟩ := below (.get "/cart") "/cart" (Or.inr rfl)
  rw [mounted] at inside
  exact ⟨(outside (.get "/shopping")).2 beside, greeted, greetedRoot, _, inside,
    insideRoot "/cart" (Or.inl rfl)⟩

end Deployment

end RequestPipeline
