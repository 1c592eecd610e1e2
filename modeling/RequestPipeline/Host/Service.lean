import RequestPipeline.Host.Basic

/-!
# Serving a request

A chain of interceptors around a unit, the routing of a request to a chain, and named dispatch,
by which a unit calls upon another one.
-/

namespace RequestPipeline

structure Called (α : Type) where
  role : Role
  object : Instance α

namespace Called

def interceptor (named : Named Interceptor) : Called Interceptor :=
  ⟨.interceptor named.name, named.object⟩

def unit (named : Named ServiceUnit) : Called ServiceUnit := ⟨.unit named.name, named.object⟩

def errorHandler (unit : Instance ServiceUnit) : Called ServiceUnit := ⟨.errorHandler, unit⟩

def unregistered {α : Type} (object : Instance α) : Called α := ⟨.unregistered, object⟩

end Called

abbrev Caller := NamedDispatcher → NamedMode → Request → Host → Response × Host

namespace ServiceStep

def run (caller : Caller) : ServiceStep → Host → Response × Host
  | .answer response, host => (response, host)
  | .call key mode request resume, host =>
      match host.dispatcher? key with
      | none => (resume none).run caller host
      | some dispatcher =>
          let (response, host) := caller dispatcher mode request host
          (resume (some response)).run caller host

end ServiceStep

def serveUnit (caller : Caller) (unit : Called ServiceUnit) (request : Request) (host : Host) :
    Response × Host :=
  let noted := host.note (.registration unit.role unit.object.id .entered)
    unit.object.body.serviceLine
  (unit.object.body.service host.journal request).run caller noted

/-- Runs interceptors around a unit, the first one outermost. -/
def runChain (caller : Caller) (unit : Called ServiceUnit) :
    List (Called Interceptor) → Request → Host → Response × Host
  | [], request, host => serveUnit caller unit request host
  | interceptor :: inner, request, host =>
      let object := interceptor.object
      let noted := host.note (.registration interceptor.role object.id .entered)
        object.body.enterLine
      match object.body.intercept host.journal request with
      | .answer response => (response, noted)
      | .pass request finish =>
          let (response, host) := runChain caller unit inner request noted
          (finish response, host.note (.registration interceptor.role object.id .left)
            object.body.leaveLine)

/-- What the caller by name makes of the response of a unit, or of there being none. -/
def NamedMode.present : NamedMode → Option Response → Response
  | _, none => .notFound
  | .forward, some response => response
  | .inclusion, some response => response.included

namespace Host

/-- Dispatches a request to the unit of a name; none when the stage has no such unit. What the
unit calls upon is served by `caller`. -/
def dispatchNamedBy (caller : Caller) (stage : Nat) (unit : String) (phase : Phase)
    (request : Request) (host : Host) : Option Response × Host :=
  match (host.dispatches[stage]?).bind (·.routing) with
  | none => (none, host)
  | some routing =>
      match routing.snapshot.unit? unit with
      | none => (none, host)
      | some object =>
          let chain := (routing.interceptorsForUnit unit phase).map Called.interceptor
          let (response, host) := runChain caller (.unit ⟨unit, object⟩) chain
            { request with phase := some phase } host
          (some response, host)

def callWithin : Nat → Caller
  | 0 => fun _ _ _ host => (.notFound, host)
  | depth + 1 => fun dispatcher mode request host =>
      let (response, host) := host |> dispatchNamedBy (callWithin depth) dispatcher.stage
        dispatcher.unit mode.phase request
      (mode.present response, host)

/-- How deep calls upon kept dispatchers may nest. Units that always do the same never end once
they meet a dispatcher again in the same mode; for those that do end, there is spare depth. -/
def nesting (host : Host) : Nat := 2 * host.dispatchers.length + 1 + host.spareDepth

def callNamed : Caller := fun dispatcher mode request host =>
  callWithin host.nesting dispatcher mode request host

/-- Dispatches a request to the unit of a name; none when the stage has no such unit. -/
def dispatchNamed (host : Host) (stage : Nat) (unit : String) (phase : Phase)
    (request : Request) : Option Response × Host :=
  dispatchNamedBy callNamed stage unit phase request host

def serve (host : Host) (unit : Instance ServiceUnit) (request : Request) : Response × Host :=
  serveUnit callNamed (.unregistered unit) request host

def phaseOf (request : Request) : Phase := request.phase.getD .request

def route (routing : RoutingTable) (request : Request) (host : Host) : Response × Host :=
  let path := request.routedPath
  match routing.resolve? path with
  | some unit =>
      let chain := routing.interceptorsFor path (some unit.name) (phaseOf request)
      let (response, host) := runChain callNamed (.unit unit) (chain.map Called.interceptor)
        request host
      (response, host.note (.dispatched unit.name response.status) none)
  | none =>
      let host := host.note .unmatched none
      match routing.errorUnit with
      | none => (.notFound, host)
      | some unit =>
          let chain := routing.interceptorsFor path none .error
          runChain callNamed (.errorHandler unit) (chain.map Called.interceptor)
            { request with failure := some ⟨404, path⟩, phase := some .error } host

def dispatch (host : Host) (index : Nat) (request : Request) : Response × Host :=
  match host.dispatches[index]? with
  | none => (.notFound, host)
  | some cell =>
      let host := host.note (.stage (.dispatch index) .entered) cell.stage.enterLine
      match cell.routing with
      | none => (.unavailable, host)
      | some routing => route routing request host

def resolveSession (host : Host) (stage : SessionStage) (request : Request) : Session × Host :=
  match stage.identifier? request with
  | some id => (⟨id, false⟩, host)
  | none =>
      (⟨stage.identifiers.issue (host.journal.sessionsIssued + 1), true⟩,
        host.note .sessionIssued none)

/-- Hands a request to the first of a list of stages, each of which may hand it to the next. -/
def handleAlong : List StageRef → Request → Host → Response × Host
  | [], _, host => (.notFound, host)
  | .dispatch index :: _, request, host => host.dispatch index request
  | .wrapper index :: rest, request, host =>
      match host.wrappers[index]? with
      | none => (.notFound, host)
      | some cell =>
          let noted := host.note (.stage (.wrapper index) .entered) cell.wrapper.enterLine
          match cell.wrapper with
          | .session stage =>
              let (session, noted) := noted.resolveSession stage request
              let (response, host) :=
                handleAlong rest { request with session := some session } noted
              (stage.offer session response, host)
          | .security mode =>
              match (mode.decide request).answer? with
              | some response => (response, noted)
              | none => handleAlong rest request noted
          | .custom stage =>
              match stage.handle host.journal request with
              | .answer response => (response, noted)
              | .pass request finish =>
                  let (response, host) := handleAlong rest request noted
                  (finish response, host)

/-- Hands a request to a stage, with nothing in between until it is answered. -/
def handle (host : Host) (ref : StageRef) (request : Request) : Response × Host :=
  handleAlong (host.linkedFrom ref) request host

end Host

end RequestPipeline
