import RequestPipeline.Host.Service
import RequestPipeline.Host.Stages

/-!
# Requests in steps

Serving a request as a sequence of steps, each of which reads something shared or calls upon one
collaborator.  Between two steps of a request anything may happen on the host.  A request that has
reached a dispatch stage keeps to the routing that it found there, whatever becomes of the stage.
-/

namespace RequestPipeline

/-- Routing that a request took from a dispatch stage.  `generation` tells it from the others that
the stage has had, or will have, even where they are made of the same registrations. -/
structure Holding where
  stage : Nat
  generation : Nat
  routing : RoutingTable

/-- A request on its way: its next step, and how it goes on after it.  One that is over has its
response, unless it was dropped before there was one. -/
inductive Visit
  | done (response : Option Response)
  | look (next : Host → Visit)
  | note (event : Event) (line : Option String) (next : Journal → Visit)
  | take (stage : Nat) (next : Option Holding → Visit)
  | call (holding : Holding) (role : Role) (id : InstanceId) (moment : Moment)
      (line : Option String) (next : Journal → Visit)

namespace Visit

/-- How a call upon another unit is visited; the last argument goes on with the response. -/
abbrev Caller := NamedDispatcher → NamedMode → Request → (Response → Visit) → Visit

def isOver : Visit → Bool
  | .done _ => true
  | _ => false

/-- A request that nobody waits for any more goes no further. -/
def drop : Visit → Visit
  | .done response => .done response
  | _ => .done none

/-- Makes the next step; `generation` numbers the routing that each stage has now. -/
def step (generation : Nat → Nat) : Visit → Host → Visit × Host
  | .done response, host => (.done response, host)
  | .look next, host => (next host, host)
  | .note event line next, host => (next host.journal, host.note event line)
  | .take stage next, host =>
      (next ((host.routing? stage).map (Holding.mk stage (generation stage))), host)
  | .call _ role id moment line next, host =>
      (next host.journal, host.note (.registration role id moment) line)

/-! ## Behind a dispatch stage -/

def service (caller : Caller) : ServiceStep → (Response → Visit) → Visit
  | .answer response, back => back response
  | .call key mode request resume, back =>
      .look fun host =>
        match host.dispatcher? key with
        | none => service caller (resume none) back
        | some dispatcher =>
            caller dispatcher mode request fun response =>
              service caller (resume (some response)) back

def chain (caller : Caller) (holding : Holding) (unit : Called ServiceUnit) :
    List (Called Interceptor) → Request → (Response → Visit) → Visit
  | [], request, back =>
      .call holding unit.role unit.object.id .entered unit.object.body.serviceLine fun journal =>
        service caller (unit.object.body.service journal request) back
  | interceptor :: inner, request, back =>
      let object := interceptor.object
      .call holding interceptor.role object.id .entered object.body.enterLine fun journal =>
        match object.body.intercept journal request with
        | .answer response => back response
        | .pass request finish =>
            chain caller holding unit inner request fun response =>
              .call holding interceptor.role object.id .left object.body.leaveLine fun _ =>
                back (finish response)

def dispatchNamedBy (caller : Caller) (stage : Nat) (unit : String) (phase : Phase)
    (request : Request) (back : Option Response → Visit) : Visit :=
  .take stage fun
    | none => back none
    | some holding =>
        match holding.routing.snapshot.unit? unit with
        | none => back none
        | some object =>
            let interceptors := holding.routing.interceptorsForUnit unit phase
            chain caller holding (.unit ⟨unit, object⟩) (interceptors.map Called.interceptor)
              { request with phase := some phase } fun response => back (some response)

def callWithin : Nat → Caller
  | 0 => fun _ _ _ back => back .notFound
  | depth + 1 => fun dispatcher mode request back =>
      dispatchNamedBy (callWithin depth) dispatcher.stage dispatcher.unit mode.phase request
        fun response => back (mode.present response)

def callNamed : Caller := fun dispatcher mode request back =>
  .look fun host => callWithin host.nesting dispatcher mode request back

def route (holding : Holding) (request : Request) (back : Response → Visit) : Visit :=
  let path := request.routedPath
  match holding.routing.resolve? path with
  | some unit =>
      let interceptors :=
        holding.routing.interceptorsFor path (some unit.name) (Host.phaseOf request)
      chain callNamed holding (.unit unit) (interceptors.map Called.interceptor) request
        fun response => .note (.dispatched unit.name response.status) none fun _ => back response
  | none =>
      .note .unmatched none fun _ =>
        match holding.routing.errorUnit with
        | none => back .notFound
        | some unit =>
            let interceptors := holding.routing.interceptorsFor path none .error
            chain callNamed holding (.errorHandler unit) (interceptors.map Called.interceptor)
              { request with failure := some ⟨404, path⟩, phase := some .error } back

def dispatch (index : Nat) (request : Request) (back : Response → Visit) : Visit :=
  .look fun host =>
    match host.dispatches[index]? with
    | none => back .notFound
    | some cell =>
        .note (.stage (.dispatch index) .entered) cell.stage.enterLine fun _ =>
          .take index fun
            | none => back .unavailable
            | some holding => route holding request back

/-! ## Through the stages -/

def resolveSession (stage : SessionStage) (request : Request) (go : Session → Visit) : Visit :=
  match stage.identifier? request with
  | some id => go ⟨id, false⟩
  | none =>
      .note .sessionIssued none fun journal =>
        go ⟨stage.identifiers.issue (journal.sessionsIssued + 1), true⟩

/-- A wrapper, which hands on by `onward` the requests that it does not answer. -/
def wrapper (index : Nat) (onward : Request → (Response → Visit) → Visit) (request : Request)
    (back : Response → Visit) : Visit :=
  .look fun host =>
    match host.wrappers[index]? with
    | none => back .notFound
    | some cell =>
        .note (.stage (.wrapper index) .entered) cell.wrapper.enterLine fun journal =>
          match cell.wrapper with
          | .session stage =>
              resolveSession stage request fun session =>
                onward { request with session := some session } fun response =>
                  back (stage.offer session response)
          | .security mode =>
              match (mode.decide request).answer? with
              | some response => back response
              | none => onward request back
          | .custom stage =>
              match stage.handle journal request with
              | .answer response => back response
              | .pass request finish => onward request fun response => back (finish response)

/-- A stage and those behind it.  Each link is read when the request gets there, and at most
`links` of them are followed. -/
def along : Nat → StageRef → Request → (Response → Visit) → Visit
  | _, .dispatch index, request, back => dispatch index request back
  | 0, .wrapper index, request, back =>
      wrapper index (fun _ back => back .notFound) request back
  | links + 1, .wrapper index, request, back =>
      wrapper index
        (fun request back => .look fun host =>
          match host.nextOf (.wrapper index) with
          | none => back .notFound
          | some next => along links next request back)
        request back

/-- A request that is handed to a stage.  Stages may be linked anew while it is on its way, so it
may come through as many more links than there are wrappers now as its `patience` allows. -/
def handle (patience : Nat) (ref : StageRef) (request : Request) : Visit :=
  .look fun host => along (host.wrappers.length + patience) ref request (.done ∘ some)

end Visit

end RequestPipeline
