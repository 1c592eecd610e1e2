import RequestPipeline.Metrics
import RequestPipeline.Proofs.Identifiers
import RequestPipeline.Proofs.Mounts
import RequestPipeline.Proofs.Resemblance

/-!
# Exchanging a session

A session stage and access control in front of dispatch: who comes without a session is given one
along with the refusal, and who brings it back is let in and known by it.
-/

namespace RequestPipeline

open Http

/-! ## What is handed along a chain -/

/-- An interceptor that passes requests on with the session they came with. -/
def Interceptor.KeepsSession (interceptor : Interceptor) : Prop :=
  ∀ journal request passed finish,
    interceptor.intercept journal request = .pass passed finish → passed.session = request.session

namespace Called

/-- What the members of a chain are handed, as far as the request gets: each is entered with what
the one in front of it has passed on. -/
def handed (unit : Called ServiceUnit) :
    List (Called Interceptor) → Request → Host → List (Event × Request)
  | [], request, _ => [(unit.enters, request)]
  | interceptor :: inner, request, host =>
      (interceptor.enters, request) ::
        match interceptor.object.body.intercept host.journal request with
        | .answer _ => []
        | .pass passed _ => handed unit inner passed
            (host.note interceptor.enters interceptor.object.body.enterLine)

/-- Whoever stands behind interceptors that keep the session is handed the session. -/
theorem session_of_handed {unit : Called ServiceUnit} {chain : List (Called Interceptor)}
    {request given : Request} {host : Host} {place : Nat} {event : Event}
    (found : (handed unit chain request host)[place]? = some (event, given))
    (keep : ∀ interceptor ∈ chain.take place, interceptor.object.body.KeepsSession) :
    given.session = request.session := by
  induction chain generalizing request host place with
  | nil =>
      cases place with
      | zero =>
          cases found
          rfl
      | succ place => cases found
  | cons interceptor inner ih =>
      cases place with
      | zero =>
          cases found
          rfl
      | succ place =>
          simp only [handed, List.getElem?_cons_succ] at found
          cases verdict : interceptor.object.body.intercept host.journal request with
          | answer response =>
              rw [verdict] at found
              cases found
          | pass passed finish =>
              rw [verdict] at found
              have kept := keep interceptor List.mem_cons_self _ _ _ _ verdict
              rw [← kept]
              exact ih found fun other member => keep other (List.mem_cons_of_mem _ member)

end Called

/-- The members of a chain are entered in order with what they are handed, before anything else. -/
theorem runChain_handed {caller : Caller} (gentle : Host.Gentle caller)
    (unit : Called ServiceUnit) (chain : List (Called Interceptor)) (request : Request)
    (host : Host) : ∃ rest, (runChain caller unit chain request host).2.journal.events =
      host.journal.events ++ (Called.handed unit chain request host).map Prod.fst ++ rest := by
  induction chain generalizing request host with
  | nil =>
      obtain ⟨served, grown, -⟩ := (ServiceStep.run_serves gentle
        (unit.object.body.service host.journal request)
        (host.note unit.enters unit.object.body.serviceLine)).journal
      refine ⟨served, grown.trans ?_⟩
      rw [Host.journal_note, Journal.events_note]
      rfl
  | cons interceptor inner ih =>
      have entered : (host.note interceptor.enters
          interceptor.object.body.enterLine).journal.events =
          host.journal.events ++ [interceptor.enters] := Journal.events_note ..
      simp only [runChain, Called.handed]
      cases interceptor.object.body.intercept host.journal request with
      | answer response => exact ⟨[], entered.trans (List.append_nil _).symm⟩
      | pass passed finish =>
          obtain ⟨rest, grown⟩ := ih passed
            (host.note interceptor.enters interceptor.object.body.enterLine)
          refine ⟨rest ++ [interceptor.leaves], (Journal.events_note ..).trans ?_⟩
          have whole := grown.trans (congrArg (· ++ _ ++ rest) entered)
          refine (congrArg (· ++ [interceptor.leaves]) whole).trans ?_
          simp

namespace Selection

def chain : Selection → List (Called Interceptor)
  | .served _ chain => chain.map Called.interceptor
  | .failed _ chain _ => chain.map Called.interceptor
  | .unserved => []

def opening : Selection → List Event
  | .served .. => []
  | .failed .. => [.unmatched]
  | .unserved => [.unmatched]

/-- What the members of a selected chain are handed. -/
def handed (request : Request) (host : Host) : Selection → List (Event × Request)
  | .served unit chain =>
      Called.handed (.unit unit) (chain.map Called.interceptor) request host
  | .failed handler chain failure =>
      Called.handed (.errorHandler handler) (chain.map Called.interceptor)
        { request with failure := some failure, phase := some .error } (host.note .unmatched none)
  | .unserved => []

variable {selection : Selection}

theorem carryOut_handed (selection : Selection) (request : Request) (host : Host) :
    ∃ rest, (selection.carryOut request host).2.journal.events = host.journal.events ++
      selection.opening ++ (selection.handed request host).map Prod.fst ++ rest := by
  cases selection with
  | served unit chain =>
      obtain ⟨rest, grown⟩ := runChain_handed Host.callNamed_gentle (.unit unit)
        (chain.map Called.interceptor) request host
      simp only [carryOut]
      generalize runChain Host.callNamed (.unit unit) (chain.map Called.interceptor) request host
        = ran at grown
      refine ⟨rest ++ [.dispatched unit.name ran.1.status], (Journal.events_note ..).trans ?_⟩
      rw [grown]
      simp [opening, handed]
  | failed handler chain failure =>
      obtain ⟨rest, grown⟩ := runChain_handed Host.callNamed_gentle (.errorHandler handler)
        (chain.map Called.interceptor)
        { request with failure := some failure, phase := some .error } (host.note .unmatched none)
      refine ⟨rest, grown.trans ?_⟩
      rw [Host.journal_note, Journal.events_note]
      rfl
  | unserved =>
      refine ⟨[], (Journal.events_note ..).trans ?_⟩
      simp [opening, handed]

theorem session_of_handed {request given : Request} {host : Host} {place : Nat} {event : Event}
    (found : (selection.handed request host)[place]? = some (event, given))
    (keep : ∀ interceptor ∈ selection.chain.take place, interceptor.object.body.KeepsSession) :
    given.session = request.session := by
  cases selection with
  | served unit chain => exact Called.session_of_handed found keep
  | failed handler chain failure =>
      have kept := Called.session_of_handed found keep
      exact kept
  | unserved => cases found

end Selection

/-! ## Session, access control, dispatch -/

/-- A session stage, access control that requires a session under some patterns, and a dispatch
stage. -/
structure SecuredChain where
  outer : Nat
  inner : Nat
  dispatch : Nat
  stage : SessionStage
  protectedPaths : List PathPattern

namespace Host

/-- The stages of a secured chain are there, and are linked one behind the other. -/
structure Secured (host : Host) (head : StageRef) (chain : SecuredChain) : Prop where
  linked : host.linkedFrom head =
    [.wrapper chain.outer, .wrapper chain.inner, .dispatch chain.dispatch]
  session : host.wrapper? chain.outer = some (.session chain.stage)
  guard : host.wrapper? chain.inner = some (.security (.requireSession chain.protectedPaths))
  present : chain.dispatch < host.dispatches.length

variable {host : Host} {head : StageRef} {chain : SecuredChain}

/-- A secured chain stays as long as stages and links do. -/
theorem Secured.congr (secured : host.Secured head chain) {after : Host}
    (wrappers : after.wrappers = host.wrappers) (dispatches : after.dispatches = host.dispatches) :
    after.Secured head chain where
  linked := by
    rw [← secured.linked, linkedFrom, linkedFrom, wrappers, follow_congr wrappers]
  session := by rw [← secured.session, wrapper?, wrapper?, wrappers]
  guard := by rw [← secured.guard, wrapper?, wrapper?, wrappers]
  present := by rw [dispatches]; exact secured.present

/-- Access control hands a request on, unless it is for a protected path and has no session that
was brought back. -/
theorem handleAlong_guarded {index : Nat} {protectedPaths : List PathPattern}
    (held : host.wrapper? index = some (.security (.requireSession protectedPaths)))
    (rest : List StageRef) (request : Request) :
    handleAlong (.wrapper index :: rest) request host =
      if protectedPaths.any (·.accepts request.path) = true ∧
          AccessMode.hasReturned request.session = false then
        (.errorReport 401 "AUTHENTICATION_REQUIRED"
          ("A session is required for '" ++ request.path ++ "'"),
          host.note (.stage (.wrapper index) .entered) none)
      else handleAlong rest request (host.note (.stage (.wrapper index) .entered) none) := by
  obtain ⟨⟨wrapper, next⟩, found, rfl⟩ := Option.map_eq_some_iff.mp held
  simp only [handleAlong, found, AccessMode.decide, Wrapper.enterLine]
  cases protectedPaths.any (·.accepts request.path) with
  | false => simp [AccessDecision.answer?]
  | true => cases AccessMode.hasReturned request.session <;> simp [AccessDecision.answer?]

/-- A session stage hands a request on with the session that it has resolved. -/
theorem handleAlong_resolved {index : Nat} {stage : SessionStage}
    (held : host.wrapper? index = some (.session stage)) (rest : List StageRef)
    (request : Request) :
    handleAlong (.wrapper index :: rest) request host =
      let noted := host.note (.stage (.wrapper index) .entered) none
      let resolved := noted.resolveSession stage request
      let inward := handleAlong rest { request with session := some resolved.1 } resolved.2
      (stage.offer resolved.1 inward.1, inward.2) := by
  obtain ⟨⟨wrapper, next⟩, found, rfl⟩ := Option.map_eq_some_iff.mp held
  simp only [handleAlong, found, Wrapper.enterLine]

/-- A stage that is entered issues no session by that. -/
theorem sessionsIssued_entered (host : Host) (ref : StageRef) :
    (host.note (.stage ref .entered) none).journal.sessionsIssued =
      host.journal.sessionsIssued := by
  rw [journal_note, Journal.sessionsIssued, Journal.count_note]
  rfl

theorem wrapper?_resolveSession (host : Host) (stage : SessionStage) (request : Request)
    (index : Nat) : (host.resolveSession stage request).2.wrapper? index = host.wrapper? index := by
  unfold resolveSession
  cases stage.identifier? request <;> rfl

namespace Secured

variable (secured : host.Secured head chain)
include secured

/-- A request is handed on with its session, and is refused at a protected path if the session is a
new one. -/
theorem handle_eq (request : Request) :
    let noted := host.note (.stage (.wrapper chain.outer) .entered) none
    let resolved := noted.resolveSession chain.stage request
    let reached := resolved.2.note (.stage (.wrapper chain.inner) .entered) none
    host.handle head request =
      if chain.protectedPaths.any (·.accepts request.path) = true ∧ resolved.1.fresh = true then
        (chain.stage.offer resolved.1 (.errorReport 401 "AUTHENTICATION_REQUIRED"
          ("A session is required for '" ++ request.path ++ "'")), reached)
      else
        let dispatched :=
          reached.dispatch chain.dispatch { request with session := some resolved.1 }
        (chain.stage.offer resolved.1 dispatched.1, dispatched.2) := by
  intro noted resolved reached
  have guard : resolved.2.wrapper? chain.inner =
      some (.security (.requireSession chain.protectedPaths)) :=
    (wrapper?_resolveSession ..).trans secured.guard
  have guarded := handleAlong_guarded guard [.dispatch chain.dispatch]
    { request with session := some resolved.1 }
  have known : AccessMode.hasReturned (some resolved.1) = !resolved.1.fresh := rfl
  simp only [known, Bool.not_eq_false'] at guarded
  rw [handle, secured.linked, handleAlong_resolved secured.session]
  dsimp only
  rw [guarded]
  split
  · rfl
  · rfl

/-- Who brings a session back is known by it to access control. -/
theorem handle_known {request : Request} {id : Identifier}
    (returned : chain.stage.identifier? request = some id) :
    host.handle head request =
      handleAlong [.wrapper chain.inner, .dispatch chain.dispatch]
        { request with session := some ⟨id, false⟩ }
        (host.note (.stage (.wrapper chain.outer) .entered) none) := by
  rw [handle, secured.linked, handleAlong_resolved secured.session]
  simp only [resolveSession, returned, SessionStage.offer, Bool.false_eq_true, if_false]

/-- Who brings a session back passes access control, and is known by it to dispatch. -/
theorem handle_returned {request : Request} {id : Identifier}
    (returned : chain.stage.identifier? request = some id) :
    host.handle head request =
      ((host.note (.stage (.wrapper chain.outer) .entered) none).note
        (.stage (.wrapper chain.inner) .entered) none).dispatch chain.dispatch
          { request with session := some ⟨id, false⟩ } := by
  have handled := secured.handle_eq request
  simp only [resolveSession, returned] at handled
  simpa [SessionStage.offer] using handled

/-- Who comes to a protected path without a session is refused, and offered one. -/
theorem handle_challenged {request : Request}
    (guarded : chain.protectedPaths.any (·.accepts request.path) = true)
    (missing : chain.stage.identifier? request = none) :
    host.handle head request =
      (chain.stage.offer
        ⟨chain.stage.identifiers.issue (host.journal.sessionsIssued + 1), true⟩
        (.errorReport 401 "AUTHENTICATION_REQUIRED"
          ("A session is required for '" ++ request.path ++ "'")),
        ((host.note (.stage (.wrapper chain.outer) .entered) none).note .sessionIssued none).note
          (.stage (.wrapper chain.inner) .entered) none) := by
  have handled := secured.handle_eq request
  simp only [resolveSession, missing, guarded, and_self, if_true] at handled
  rw [handled, sessionsIssued_entered]

/-- A path that is not protected is open to everybody. -/
theorem handle_open {request : Request}
    (unguarded : chain.protectedPaths.any (·.accepts request.path) = false) :
    ∃ session reached, session.fresh = (chain.stage.identifier? request).isNone ∧
      host.Passed reached ∧
      let dispatched := reached.dispatch chain.dispatch { request with session := some session }
      host.handle head request = (chain.stage.offer session dispatched.1, dispatched.2) := by
  obtain ⟨known, passed⟩ := (host.note (.stage (.wrapper chain.outer) .entered)
    none).resolveSession_passed chain.stage request
  refine ⟨_, _, ?_, ?_, (secured.handle_eq request).trans (if_neg ?_)⟩
  · rw [← Option.not_isSome, ← known, Bool.not_not]
  · exact (Passed.note host none rfl).trans (passed.trans (.note _ none rfl))
  · simp [unguarded]

end Secured

/-- The response to a challenge carries one cookie, with the new identifier. -/
theorem values_offer_errorReport {stage : SessionStage} {supply : Nat}
    (lawful : stage.identifiers.Lawful supply) (token : isToken stage.cookieName = true)
    (printable : ∀ c ∈ stage.cookiePath.toList, 32 ≤ c.val ∧ c.val ≠ 127) (id : Identifier)
    (status : Nat) (code message : String) :
    (stage.offer ⟨id, true⟩ (.errorReport status code message)).fields.values "set-cookie" =
      [Cookie.setValue stage.cookieName stage.cookiePath (stage.identifiers.text id)] := by
  rw [SessionStage.offer, if_pos rfl, Response.addField,
    if_pos (Cookie.isFieldValue_setValue token (lawful.isInert id) printable)]
  dsimp only
  rw [Fields.values_append, if_pos rfl]
  rfl

/-- A cookie put in front of the fields of a request is the one that is read. -/
theorem identifier?_presented {stage : SessionStage} {supply : Nat}
    (lawful : stage.identifiers.Lawful supply) (token : isToken stage.cookieName = true)
    (request : Request) (id : Identifier) :
    let cookie := Cookie.presented stage.cookieName (stage.identifiers.text id)
    stage.identifier? { request with fields := ("cookie", cookie) :: request.fields } =
      some id := by
  intro cookie
  have values : Fields.values (("cookie", cookie) :: request.fields) "cookie" =
      cookie :: Fields.values request.fields "cookie" := rfl
  rw [SessionStage.identifier?, values, Cookie.value?_presented token (lawful.isInert id),
    Option.bind_some, lawful.read_text]

/-- A dispatch stage serves a request by what is selected for it, and whoever is called for it is
handed the session of the request, as long as the interceptors in front keep it. -/
def HandsSession (host : Host) (index : Nat) (request : Request) : Prop :=
  ∀ routing, host.routing? index = some routing →
    let selection := routing.select request.routedPath (phaseOf request)
    ∃ reached rest, reached.journal.events =
        host.journal.events ++ [.stage (.dispatch index) .entered] ∧
      host.dispatch index request = selection.carryOut request reached ∧
      (host.dispatch index request).2.journal.events = reached.journal.events ++
        selection.opening ++ (selection.handed request reached).map Prod.fst ++ rest ∧
      ∀ place event given, (selection.handed request reached)[place]? = some (event, given) →
        (∀ interceptor ∈ selection.chain.take place, interceptor.object.body.KeepsSession) →
        given.session = request.session

theorem dispatch_handsSession (host : Host) (index : Nat) (request : Request) :
    host.HandsSession index request := by
  intro routing routed selection
  obtain ⟨cell, found, held⟩ := Option.bind_eq_some_iff.mp routed
  have carried : host.dispatch index request = selection.carryOut request
      (host.note (.stage (.dispatch index) .entered) cell.stage.enterLine) := by
    rw [dispatch, found]
    dsimp only
    rw [held]
    exact route_eq ..
  obtain ⟨rest, grown⟩ := selection.carryOut_handed request
    (host.note (.stage (.dispatch index) .entered) cell.stage.enterLine)
  refine ⟨_, rest, Journal.events_note .., carried, carried ▸ grown, ?_⟩
  intro place event given handed keep
  exact Selection.session_of_handed handed keep

/-- A session stage, whose identifiers follow the laws, stands in front of access control in front
of dispatch.  A request to a protected path that brings no session back is refused along with one
cookie for a newly issued identifier, none of those issued before as long as the supply lasts; the
two stages are all that is entered, and nothing is called or counted.  When the same
request comes with that cookie in front of all others, at any time while the stages stand like
this, access control is handed it with that session and hands it to dispatch, whoever is called for
it there is handed the session, and the response is left as it is.  A request to a path that is not
protected enters dispatch in any case. -/
theorem sessions_are_exchanged (secured : host.Secured head chain) {supply : Nat}
    (lawful : chain.stage.identifiers.Lawful supply)
    (token : isToken chain.stage.cookieName = true)
    (printable : ∀ c ∈ chain.stage.cookiePath.toList, 32 ≤ c.val ∧ c.val ≠ 127) :
    (∀ request : Request, chain.protectedPaths.any (·.accepts request.path) = true →
      chain.stage.identifier? request = none →
      let issued := host.journal.sessionsIssued
      let id := chain.stage.identifiers.issue (issued + 1)
      let text := chain.stage.identifiers.text id
      let offered := Cookie.setValue chain.stage.cookieName chain.stage.cookiePath text
      let cookie := Cookie.presented chain.stage.cookieName text
      let answered := host.handle head request
      (issued < supply → ∀ earlier ≤ issued, chain.stage.identifiers.issue earlier ≠ id) ∧
      (answered.1.status = 401 ∧ answered.1.fields.values "set-cookie" = [offered] ∧
        ∃ attributes, Text.cutFirst? ';' offered.toList = some (cookie.toList, attributes)) ∧
      (answered.2.journal.events = host.journal.events ++ [.stage (.wrapper chain.outer) .entered,
          .sessionIssued, .stage (.wrapper chain.inner) .entered] ∧
        (∀ counter, answered.2.journal.counted counter = host.journal.counted counter) ∧
        answered.2.Secured head chain) ∧
      ∀ later : Host, later.Secured head chain →
        let again := { request with fields := ("cookie", cookie) :: request.fields }
        let known := { again with session := some ⟨id, false⟩ }
        let outside := later.note (.stage (.wrapper chain.outer) .entered) none
        let entered := outside.note (.stage (.wrapper chain.inner) .entered) none
        later.handle head again =
          handleAlong [.wrapper chain.inner, .dispatch chain.dispatch] known outside ∧
        later.handle head again = entered.dispatch chain.dispatch known ∧
        (∃ rest, (entered.dispatch chain.dispatch known).2.journal.events =
          entered.journal.events ++ .stage (.dispatch chain.dispatch) .entered :: rest) ∧
        entered.HandsSession chain.dispatch known) ∧
    ∀ request : Request, chain.protectedPaths.any (·.accepts request.path) = false →
      ∃ session reached rest, session.fresh = (chain.stage.identifier? request).isNone ∧
        host.Passed reached ∧
        let dispatched := reached.dispatch chain.dispatch { request with session := some session }
        host.handle head request = (chain.stage.offer session dispatched.1, dispatched.2) ∧
        dispatched.2.journal.events =
          reached.journal.events ++ .stage (.dispatch chain.dispatch) .entered :: rest := by
  constructor
  · intro request guarded missing issued id text offered cookie answered
    have refused : answered = _ := secured.handle_challenged guarded missing
    refine ⟨?_, ⟨?_, ?_, ?_⟩, ⟨?_, ?_, ?_⟩, ?_⟩
    · exact fun within earlier before => lawful.issue_ne (Nat.lt_succ_of_le before) within
    · rw [refused]
      exact status_offer _ _ _
    · rw [refused]
      exact values_offer_errorReport lawful token printable id _ _ _
    · exact Cookie.cutFirst?_setValue token (lawful.isInert id) chain.stage.cookiePath
    · rw [refused]
      simp [journal_note, Journal.events_note]
    · intro counter
      rw [refused]
      simp [journal_note, Journal.counted_note, Counter.ofEvent?]
    · rw [refused]
      exact secured.congr rfl rfl
    · intro later standing again known outside entered
      have returned : chain.stage.identifier? again = some id :=
        identifier?_presented lawful token request id
      have present : chain.dispatch < entered.dispatches.length := standing.present
      exact ⟨standing.handle_known returned, standing.handle_returned returned,
        dispatch_enters present known, entered.dispatch_handsSession chain.dispatch known⟩
  · intro request unguarded
    obtain ⟨session, reached, fresh, passed, handled⟩ := secured.handle_open unguarded
    have present : chain.dispatch < reached.dispatches.length := by
      rw [passed.dispatches]
      exact secured.present
    obtain ⟨rest, entered⟩ := dispatch_enters present { request with session := some session }
    exact ⟨session, reached, rest, fresh, passed, handled, entered⟩

/-- A shop with sessions, whose account pages require one. -/
def guardedShop : Deployment where
  context := .withOptions ⟨true, true⟩
  host.wrappers :=
    [{ wrapper := .session {} }, { wrapper := .security (.requireSession [.subtree "/account"]) }]

/-- The shop is opened with its two stages, and greets everybody who gets in. -/
def openShop : List Call :=
  [.setSessionStage (some 0), .setSecurityStage (some 1),
    .addUnit (.shared Deployment.greeter) "/*", .beginStart, .finishStart]

/-- A stranger at the account pages is refused, and greeted with the cookie that came along. -/
theorem stranger_returns_with_cookie :
    let host := (guardedShop.runCalls openShop).host
    let request := Request.get "/account"
    let refused := host.handle (.wrapper 0) request
    let id := Identifier.issued 1
    let again := { request with
      fields := [("cookie", "PLINTHSESSION=019a7c4e-5b36-7d2f-984e-000000000001")] }
    refused.1.status = 401 ∧
    refused.1.fields.values "set-cookie" =
      ["PLINTHSESSION=019a7c4e-5b36-7d2f-984e-000000000001; Path=/; HttpOnly; SameSite=Lax"] ∧
    (refused.2.handle (.wrapper 0) again).1 = .text 200 "hello" ∧
    ∃ entered : Host, refused.2.handle (.wrapper 0) again =
      entered.dispatch 0 { again with session := some ⟨id, false⟩ } := by
  intro host request refused id again
  have secured : host.Secured (.wrapper 0) ⟨0, 1, 0, {}, [.subtree "/account"]⟩ :=
    ⟨by decide +kernel, rfl, rfl, by decide +kernel⟩
  have printable : ∀ c ∈ "/".toList, 32 ≤ c.val ∧ c.val ≠ 127 :=
    List.forall_mem_singleton.mpr (by decide)
  obtain ⟨exchanged, -⟩ :=
    sessions_are_exchanged secured IdentifierScheme.standard_lawful (by decide) printable
  obtain ⟨-, ⟨status, offered, -⟩, ⟨-, -, standing⟩, returns⟩ :=
    exchanged request (by decide) (by decide)
  obtain ⟨-, returned, -⟩ := returns _ standing
  have issued : IdentifierScheme.standard.issue (host.journal.sessionsIssued + 1) = id := by
    decide +kernel
  have cookie : Cookie.presented "PLINTHSESSION" (IdentifierScheme.standard.text id) =
      "PLINTHSESSION=019a7c4e-5b36-7d2f-984e-000000000001" := by decide +kernel
  have greeted : (((guardedShop.runCalls openShop).host.handle (.wrapper 0)
      (.get "/account")).2.handle (.wrapper 0) { Request.get "/account" with
        fields := [("cookie", "PLINTHSESSION=019a7c4e-5b36-7d2f-984e-000000000001")] }).1 =
      .text 200 "hello" := by decide +kernel
  dsimp only at offered returned
  rw [issued] at offered returned
  rw [cookie] at returned
  exact ⟨status, offered.trans (by decide +kernel), greeted, _, returned⟩

end Host

end RequestPipeline
