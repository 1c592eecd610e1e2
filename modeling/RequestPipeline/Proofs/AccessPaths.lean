import RequestPipeline.Proofs.Links
import RequestPipeline.Proofs.Tenancy

/-!
# The path by which access is judged

The dispatch stage routes a request by its path inside the context, and access control judges it by
its full path.  The two paths are the same in a context at the root only, so that in a context
mounted elsewhere a pattern protects a path other than the one it leads to as a mapping.
-/

namespace RequestPipeline

/-! ## Full paths and paths inside a context -/

namespace ContextPath

open Text

/-- The mount itself reads as `/` inside the context; behind it a path goes on with `/`. -/
theorem split_cases {mount full : String} {inside : PathInContext}
    (splits : split mount full = some inside) :
    (full = mount ∧ inside.path = "/") ∨
      (full = mount ++ inside.path ∧ inside.path.toList.head? = some '/') := by
  unfold split at splits
  split at splits
  · cases splits
  · next same =>
      cases splits
      have chars := stripStart?_eq_some.mp same
      rw [List.append_nil] at chars
      exact Or.inl ⟨String.toList_inj.mp chars, rfl⟩
  · next rest longer =>
      cases splits
      have chars := stripStart?_eq_some.mp longer
      refine Or.inr ⟨String.toList_inj.mp ?_, ?_⟩
      · rw [String.toList_append, String.toList_ofList]
        exact chars
      · rw [String.toList_ofList]
        rfl
  · cases splits

theorem split_append (mount : String) {path : String} (slash : path.toList.head? = some '/') :
    split mount (mount ++ path) = some ⟨mount, path⟩ := by
  obtain ⟨rest, chars⟩ : ∃ rest, path.toList = '/' :: rest := List.head?_eq_some_iff.mp slash
  have stripped : stripStart? mount.toList (mount ++ path).toList = some ('/' :: rest) := by
    rw [stripStart?_eq_some, String.toList_append, chars]
  simp only [split, stripped]
  rw [← chars, String.ofList_toList]

theorem dropEndWhile_last {p : Char → Bool} {cs : List Char} {last : Char}
    (ends : (dropEndWhile p cs).getLast? = some last) : p last = false := by
  rw [dropEndWhile, List.getLast?_reverse] at ends
  have stopped := List.head?_dropWhile_not p cs.reverse
  rw [ends] at stopped
  simpa using stopped

/-- No context is mounted under `/`: the slash at the end is dropped. -/
theorem normalize_ne_slash (text : String) : normalize text ≠ "/" := by
  intro same
  have chars : normalizeChars text.toList = ['/'] := by
    have both := congrArg String.toList same
    rwa [normalize, String.toList_ofList] at both
  unfold normalizeChars at chars
  dsimp only at chars
  split at chars
  · have ends := dropEndWhile_last (congrArg List.getLast? chars)
    simp at ends
  · next kept =>
      exact kept (Or.inl (List.cons.inj chars).2)

/-- Only at the root is the path inside a context the full path, and not for the empty path
there. -/
theorem inside_eq_full_iff {mount full : String} {inside : PathInContext}
    (splits : split mount full = some inside) (mounted : mount ≠ "/") :
    inside.path = full ↔ mount = "" ∧ full ≠ "" := by
  rcases split_cases splits with ⟨rfl, root⟩ | ⟨whole, slash⟩
  · rw [root]
    constructor
    · exact fun same => absurd same.symm mounted
    · exact fun both => absurd both.1 both.2
  · constructor
    · intro same
      have lengths := congrArg String.length whole
      rw [String.length_append, ← same] at lengths
      refine ⟨String.length_eq_zero_iff.mp (by omega), ?_⟩
      rintro rfl
      rw [same] at slash
      cases slash
    · rintro ⟨rfl, -⟩
      rw [whole, String.empty_append]

end ContextPath

/-- In a context mounted below the root, a pattern for one path inside the context does not accept
the full path, and a pattern for the full path does not accept the path inside. -/
theorem PathPattern.exact_misses {mount : String} (below : mount ≠ "") (path : String) :
    (PathPattern.exact path).accepts (mount ++ path) = false ∧
      (PathPattern.exact (mount ++ path)).accepts path = false := by
  have differs : mount ++ path ≠ path := by
    intro same
    have lengths := congrArg String.length same
    rw [String.length_append] at lengths
    exact below (String.length_eq_zero_iff.mp (by omega))
  simp [accepts, differs, Ne.symm differs]

/-! ## The stages that a request passes -/

namespace Deployment

variable {deployment : Deployment}

/-- The links of an installed pipeline lead from its head through all its stages, provided that the
wrappers exist and differ. -/
theorem Linked.linkedFrom_head (linked : deployment.Linked) {pipeline : Pipeline}
    (installed : deployment.context.pipeline = some pipeline)
    (there : ∀ index ∈ pipeline.wrappers, index < deployment.host.wrappers.length)
    (apart : pipeline.wrappers.Nodup) :
    deployment.host.linkedFrom pipeline.head = pipeline.stages := by
  have next (index : Nat) (inside : index < deployment.host.wrappers.length) :
      deployment.host.nextOf (.wrapper index) = pipeline.link? index := by
    rw [linked index, installed, if_pos inside]
    rfl
  have last (fuel index : Nat) :
      deployment.host.follow fuel (.dispatch index) = [.dispatch index] := by
    cases fuel <;> rfl
  obtain ⟨session, security, dispatch⟩ := pipeline
  cases session with
  | none =>
      cases security with
      | none => exact Host.linkedFrom_dispatch _ dispatch
      | some inner =>
          have inside := there inner (by simp [Pipeline.wrappers])
          obtain ⟨fuel, length⟩ := Nat.exists_eq_add_of_lt inside
          have inward := next inner inside
          simp only [Host.linkedFrom, length, Host.follow, Pipeline.head, Pipeline.afterSession,
            inward, Pipeline.link?]
          simp [last, Pipeline.stages]
  | some outer =>
      have outside := there outer (by simp [Pipeline.wrappers])
      cases security with
      | none =>
          obtain ⟨fuel, length⟩ := Nat.exists_eq_add_of_lt outside
          have inward := next outer outside
          simp only [Host.linkedFrom, length, Host.follow, Pipeline.head, inward, Pipeline.link?]
          simp [Pipeline.afterSession, last, Pipeline.stages]
      | some inner =>
          have inside := there inner (by simp [Pipeline.wrappers])
          have differs : inner ≠ outer := by simpa [Pipeline.wrappers] using apart
          obtain ⟨fuel, length⟩ : ∃ fuel, deployment.host.wrappers.length = fuel + 2 :=
            ⟨deployment.host.wrappers.length - 2, by omega⟩
          have first := next outer outside
          have second := next inner inside
          simp only [Pipeline.link?, if_true] at first
          simp only [Pipeline.link?, Option.some.injEq, Ne.symm differs, if_false, if_true]
            at second
          simp [Host.linkedFrom, length, Host.follow, Pipeline.head, Pipeline.afterSession, first,
            second, last, Pipeline.stages]

end Deployment

namespace Host

variable {host : Host} {pipeline : Pipeline} {sessions : Option SessionStage}
  {protectedPaths : List PathPattern}

def wrapper? (host : Host) (index : Nat) : Option Wrapper :=
  (host.wrappers[index]?).map (·.wrapper)

/-- In front of access control stands a stock session stage or nothing. -/
inductive Fronts (host : Host) : Option Nat → Option SessionStage → Prop
  | bare : Fronts host none none
  | stock {index : Nat} {stage : SessionStage}
      (held : host.wrapper? index = some (.session stage)) : Fronts host (some index) (some stage)

/-- The stages of a pipeline in front of dispatch are stock ones, and access control requires a
session under some patterns. -/
structure Guards (host : Host) (pipeline : Pipeline) (sessions : Option SessionStage)
    (protectedPaths : List PathPattern) : Prop where
  front : host.Fronts pipeline.session sessions
  guard : ∃ index, pipeline.security = some index ∧
    host.wrapper? index = some (.security (.requireSession protectedPaths))

theorem lt_of_wrapper {index : Nat} {wrapper : Wrapper}
    (held : host.wrapper? index = some wrapper) : index < host.wrappers.length := by
  obtain ⟨cell, found, -⟩ := Option.map_eq_some_iff.mp held
  exact (List.getElem?_eq_some_iff.mp found).1

theorem Guards.wrappers_lt (guards : host.Guards pipeline sessions protectedPaths) :
    ∀ index ∈ pipeline.wrappers, index < host.wrappers.length := by
  obtain ⟨front, inner, secured, guard⟩ := guards
  obtain ⟨session, security, dispatch⟩ := pipeline
  cases secured
  intro index member
  rcases List.mem_append.mp member with isInner | isOuter
  · rw [List.mem_singleton.mp isInner]
    exact lt_of_wrapper guard
  · cases front with
    | bare => cases isOuter
    | stock held =>
        rw [List.mem_singleton.mp isOuter]
        exact lt_of_wrapper held

theorem Guards.wrappers_nodup (guards : host.Guards pipeline sessions protectedPaths) :
    pipeline.wrappers.Nodup := by
  obtain ⟨front, inner, secured, guard⟩ := guards
  obtain ⟨session, security, dispatch⟩ := pipeline
  cases secured
  cases front with
  | bare => simp [Pipeline.wrappers]
  | @stock outer stage held =>
      have differs : inner ≠ outer := by
        rintro rfl
        cases guard.symm.trans held
      simpa [Pipeline.wrappers] using differs

end Host

/-- Whether a request comes with a session that its client has brought back. -/
def comesBack (sessions : Option SessionStage) (request : Request) : Bool :=
  match sessions with
  | none => AccessMode.hasReturned request.session
  | some stage => (stage.identifier? request).isSome

namespace Host

/-- A request has reached a stage: nothing was called, and the stages are as they were. -/
structure Passed (before after : Host) : Prop where
  wrappers : after.wrappers = before.wrappers
  dispatches : after.dispatches = before.dispatches
  journal : Journal.Adds (·.isCall = false) before.journal after.journal

namespace Passed

variable {before middle after : Host}

theorem refl (host : Host) : host.Passed host := ⟨rfl, rfl, .refl _⟩

theorem trans (first : before.Passed middle) (second : middle.Passed after) :
    before.Passed after where
  wrappers := second.wrappers.trans first.wrappers
  dispatches := second.dispatches.trans first.dispatches
  journal := first.journal.trans second.journal

theorem note (host : Host) {event : Event} (line : Option String)
    (silent : event.isCall = false) : host.Passed (host.note event line) :=
  ⟨rfl, rfl, .note _ line silent⟩

end Passed

variable {host : Host} {protectedPaths : List PathPattern}

/-- The session stage tells a session that was brought back from one that it has just issued. -/
theorem resolveSession_passed (host : Host) (stage : SessionStage) (request : Request) :
    (!(host.resolveSession stage request).1.fresh) = (stage.identifier? request).isSome ∧
      host.Passed (host.resolveSession stage request).2 := by
  unfold resolveSession
  split
  · next id found => exact ⟨by rw [found]; rfl, .refl host⟩
  · next missing => exact ⟨by rw [missing]; rfl, .note host _ rfl⟩

/-- Access control answers a request itself, or hands it to the stages behind. -/
theorem handleAlong_guard {index : Nat} (rest : List StageRef) (request : Request)
    (held : host.wrapper? index = some (.security (.requireSession protectedPaths))) :
    ∃ entered, host.Passed entered ∧
      handleAlong (.wrapper index :: rest) request host =
        if protectedPaths.any (·.accepts request.path) = true ∧
            AccessMode.hasReturned request.session = false then
          (.errorReport 401 "AUTHENTICATION_REQUIRED"
            ("A session is required for '" ++ request.path ++ "'"), entered)
        else handleAlong rest request entered := by
  obtain ⟨⟨wrapper, next⟩, found, rfl⟩ := Option.map_eq_some_iff.mp held
  refine ⟨host.note (.stage (.wrapper index) .entered) none, .note host none rfl, ?_⟩
  simp only [handleAlong, found, AccessMode.decide, Wrapper.enterLine]
  cases guarded : protectedPaths.any (·.accepts request.path) with
  | false => simp [AccessDecision.answer?]
  | true =>
      cases back : AccessMode.hasReturned request.session with
      | false => simp [AccessDecision.answer?]
      | true => simp [AccessDecision.answer?]

/-- A session stage hands a request on with its session, and leaves the status of the response. -/
theorem handleAlong_session {index : Nat} {stage : SessionStage} (rest : List StageRef)
    (request : Request) (held : host.wrapper? index = some (.session stage)) :
    ∃ session entered, host.Passed entered ∧
      AccessMode.hasReturned (some session) = (stage.identifier? request).isSome ∧
      handleAlong (.wrapper index :: rest) request host =
        (stage.offer session (handleAlong rest { request with session := some session } entered).1,
          (handleAlong rest { request with session := some session } entered).2) := by
  obtain ⟨⟨wrapper, next⟩, found, rfl⟩ := Option.map_eq_some_iff.mp held
  have noted : host.Passed (host.note (.stage (.wrapper index) .entered) none) :=
    .note host none rfl
  obtain ⟨back, passed⟩ :=
    (host.note (.stage (.wrapper index) .entered) none).resolveSession_passed stage request
  refine ⟨_, _, noted.trans passed, back, ?_⟩
  simp only [handleAlong, found, Wrapper.enterLine]

theorem status_offer (stage : SessionStage) (session : Session) (response : Response) :
    (stage.offer session response).status = response.status := by
  unfold SessionStage.offer Response.addField
  split
  · split <;> rfl
  · rfl

/-- What becomes of a request at the guard of a pipeline: without a session that has come back it is
challenged under the protected full paths, and otherwise it reaches the dispatch stage. -/
theorem Guards.handleAlong_stages {pipeline : Pipeline} {sessions : Option SessionStage}
    (guards : host.Guards pipeline sessions protectedPaths) (request : Request) :
    ∃ session entered, host.Passed entered ∧
      (protectedPaths.any (·.accepts request.path) = true ∧ comesBack sessions request = false →
        ∃ response, response.status = 401 ∧
          handleAlong pipeline.stages request host = (response, entered)) ∧
      (¬ (protectedPaths.any (·.accepts request.path) = true ∧
          comesBack sessions request = false) →
        ∃ response,
          response.status =
            (entered.dispatch pipeline.dispatch { request with session := session }).1.status ∧
          handleAlong pipeline.stages request host = (response,
            (entered.dispatch pipeline.dispatch { request with session := session }).2)) := by
  obtain ⟨front, inner, secured, guard⟩ := guards
  obtain ⟨session, security, dispatch⟩ := pipeline
  cases secured
  cases front with
  | bare =>
      obtain ⟨entered, passed, handled⟩ := handleAlong_guard [.dispatch dispatch] request guard
      refine ⟨request.session, entered, passed, ?_, ?_⟩
      · intro challenged
        exact ⟨_, rfl, handled.trans (if_pos challenged)⟩
      · intro admitted
        exact ⟨_, rfl, handled.trans (if_neg admitted)⟩
  | @stock outer stage held =>
      obtain ⟨session, reached, passed, back, handled⟩ :=
        handleAlong_session [.wrapper inner, .dispatch dispatch] request held
      have still : reached.wrapper? inner = some (.security (.requireSession protectedPaths)) := by
        rw [← guard, wrapper?, wrapper?, passed.wrappers]
      obtain ⟨entered, further, guarded⟩ := handleAlong_guard [.dispatch dispatch]
        { request with session := some session } still
      rw [back] at guarded
      refine ⟨some session, entered, passed.trans further, ?_, ?_⟩
      · intro challenged
        have answered := guarded.trans (if_pos challenged)
        refine ⟨_, ?_, handled.trans (by rw [answered])⟩
        exact status_offer _ _ _
      · intro admitted
        have answered := guarded.trans (if_neg admitted)
        refine ⟨_, ?_, handled.trans (by rw [answered]; rfl)⟩
        exact status_offer _ _ _

end Host

namespace Deployment

/-- Under access control that requires a session, after any calls on a new context: a request inside
the context is challenged, and nothing is called, if a protected pattern accepts its full path and
its session is missing or new; otherwise it reaches the dispatch stage, which routes it by its path
inside the context.  The two paths agree only in a context at the root.  In any other, a pattern
for one path inside the context leaves that path open, and one for the full path protects it though
it would not lead to it. -/
theorem access_is_judged_by_full_path {context : Context} (new : context.IsNew) {host : Host}
    (unlinked : host.Unlinked) (calls : List Call) {pipeline : Pipeline}
    {sessions : Option SessionStage} {protectedPaths : List PathPattern}
    (started : (runCalls ⟨context, host⟩ calls).context.state = .started)
    (installed : (runCalls ⟨context, host⟩ calls).context.pipeline = some pipeline)
    (guards : (runCalls ⟨context, host⟩ calls).host.Guards pipeline sessions protectedPaths)
    {request : Request} {inside : PathInContext}
    (splits : ContextPath.split (runCalls ⟨context, host⟩ calls).context.contextPath request.path
      = some inside) :
    let reached := runCalls ⟨context, host⟩ calls
    let mount := reached.context.contextPath
    (protectedPaths.any (·.accepts request.path) = true ∧ comesBack sessions request = false →
      ∃ response after, response.status = 401 ∧
        reached.perform (.serve request) =
          (.ok (.response response), { reached with host := after }) ∧
        Journal.Adds (·.isCall = false) reached.host.journal after.journal) ∧
    (¬ (protectedPaths.any (·.accepts request.path) = true ∧
        comesBack sessions request = false) →
      ∃ response session entered,
        let routed := { request with inside := some inside, session := session }
        let dispatched := Host.dispatch entered pipeline.dispatch routed
        routed.routedPath = inside.path ∧ entered.dispatches = reached.host.dispatches ∧
        Journal.Adds (·.isCall = false) reached.host.journal entered.journal ∧
        reached.perform (.serve request) =
          (.ok (.response response), { reached with host := dispatched.2 }) ∧
        response.status = dispatched.1.status) ∧
    (∀ text, mount = ContextPath.normalize text →
      (inside.path = request.path ↔ mount = "" ∧ request.path ≠ "")) ∧
    (mount ≠ "" → ∀ path : String, path.toList.head? = some '/' →
      ContextPath.split mount (mount ++ path) = some ⟨mount, path⟩ ∧
      (PathPattern.exact path).accepts path = true ∧
      (PathPattern.exact path).accepts (mount ++ path) = false ∧
      (PathPattern.exact (mount ++ path)).accepts (mount ++ path) = true ∧
      (PathPattern.exact (mount ++ path)).accepts path = false) := by
  intro reached mount
  have linked : reached.Linked := runCalls_linked new unlinked calls
  have stages : reached.host.linkedFrom pipeline.head = pipeline.stages :=
    linked.linkedFrom_head installed guards.wrappers_lt guards.wrappers_nodup
  have served : reached.perform (.serve request) = reached.settleResponse
      (Host.handleAlong pipeline.stages { request with inside := some inside } reached.host) := by
    rw [perform, Context.handle, installed]
    dsimp only
    rw [if_pos started, splits, ← stages]
    rfl
  obtain ⟨session, entered, passed, challenge, reach⟩ :=
    guards.handleAlong_stages { request with inside := some inside }
  refine ⟨?_, ?_, ?_, ?_⟩
  · intro challenged
    obtain ⟨response, status, handled⟩ := challenge challenged
    refine ⟨response, entered, status, ?_, passed.journal⟩
    rw [served, handled]
    rfl
  · intro admitted
    obtain ⟨response, status, handled⟩ := reach admitted
    refine ⟨response, session, entered, rfl, passed.dispatches, passed.journal, ?_, status⟩
    rw [served, handled]
    rfl
  · intro text normal
    apply ContextPath.inside_eq_full_iff splits
    change mount ≠ "/"
    rw [normal]
    exact ContextPath.normalize_ne_slash text
  · intro below path slash
    obtain ⟨missed, other⟩ := PathPattern.exact_misses below path
    refine ⟨ContextPath.split_append mount slash, ?_, missed, ?_, other⟩
    · exact beq_self_eq_true path
    · exact beq_self_eq_true (mount ++ path)

/-- A context under `/shop` whose access control requires a session under `/account`. -/
def shop : Deployment where
  context := (Context.withOptions ⟨false, true⟩).mounted "/shop"
  host := { wrappers := [{ wrapper := .security (.requireSession [.subtree "/account"]) }] }

def opening : List Call :=
  [.setSecurityStage (some 0), .addUnit (.shared greeter) "/*", .beginStart, .finishStart]

/-- What stands under `/account` inside the shop is served to a stranger. -/
theorem account_open_below_shop :
    let reached := runCalls shop opening
    let request := Request.get "/shop/account/settings"
    (PathPattern.subtree "/account").accepts "/account/settings" = true ∧
    (∃ response, (reached.perform (.serve request)).1 = .ok (.response response) ∧
      response.status = 200) ∧
    ∃ response session entered,
      let routed := { request with
        inside := some ⟨"/shop", "/account/settings"⟩, session := session }
      routed.routedPath = "/account/settings" ∧
      reached.perform (.serve request) = (.ok (.response response),
        { reached with host := (Host.dispatch entered 0 routed).2 }) := by
  intro reached request
  have started : (runCalls shop opening).context.state = .started := by decide +kernel
  have installed : (runCalls shop opening).context.pipeline = some ⟨none, some 0, 0⟩ := by
    decide +kernel
  have guards : (runCalls shop opening).host.Guards ⟨none, some 0, 0⟩ none [.subtree "/account"] :=
    ⟨.bare, 0, rfl, rfl⟩
  have splits : ContextPath.split (runCalls shop opening).context.contextPath request.path =
      some ⟨"/shop", "/account/settings"⟩ := by
    decide +kernel
  have unlinked : shop.host.Unlinked := fun index => by cases index <;> rfl
  have greeted : ((runCalls shop opening).perform (.serve (.get "/shop/account/settings"))).1 =
      .ok (.response (.text 200 "hello")) := rfl
  obtain ⟨-, admitted, -⟩ :=
    access_is_judged_by_full_path ⟨rfl, rfl, rfl⟩ unlinked opening started installed guards splits
  obtain ⟨response, session, entered, routed, -, -, served, -⟩ := admitted (by decide)
  exact ⟨by decide, ⟨_, greeted, rfl⟩, response, session, entered, routed, served⟩

end Deployment

end RequestPipeline
