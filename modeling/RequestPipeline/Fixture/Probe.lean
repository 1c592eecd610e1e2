import RequestPipeline.Fixture.Placeholder
import RequestPipeline.Stage.Dispatch
import RequestPipeline.Stage.Wrapper

/-!
# Probes

Units, interceptors and stages that remark on everything that happens to them, describe the
requests they see, and fail where they are told to.
-/

namespace RequestPipeline.Fixture

structure UnitProbe where
  label : String
  status : Nat := 200
  withContentType : Bool := true
  fields : List (String × String) := []
  initFault : Option Error := none
  forwardTo : Option String := none
  includeFrom : Option String := none

def outcome (fault : Option Error) : Except Error Unit :=
  match fault with
  | some e => .error e
  | none => .ok ()

def describeSession (session : Session) : String :=
  shownIdentifier session.id ++ (if session.fresh then "/new" else "/old")

/-- How a request is described: what is not attached to it is shown as a dash. -/
def describe (label : String) (request : Request) : String :=
  let shown (part : Option String) : String := part.getD "-"
  label ++ "|" ++ request.method ++ "|" ++ request.path
    ++ "|dispatch=" ++ shown (request.phase.map Phase.word)
    ++ "|split=" ++ shown (request.inside.map fun inside =>
        inside.contextPath ++ "+" ++ inside.path)
    ++ "|error=" ++ shown (request.failure.map fun failure =>
        toString failure.status ++ "@" ++ failure.path)
    ++ "|session=" ++ shown (request.session.map describeSession)

namespace UnitProbe

def response (probe : UnitProbe) (request : Request) : Response :=
  let described := Response.text probe.status (describe probe.label request)
  let described :=
    if probe.withContentType then described
    else { described with fields := Http.Fields.erase described.fields "content-type" }
  probe.fields.foldl (fun response (name, value) => response.addField name value) described

def target? (probe : UnitProbe) : Option (String × NamedMode) :=
  match probe.forwardTo with
  | some key => some (key, .forward)
  | none => probe.includeFrom.map (·, .inclusion)

def unit (probe : UnitProbe) : ServiceUnit where
  init _ _ := outcome probe.initFault
  service _ request :=
    match probe.target? with
    | none => .answer (probe.response request)
    | some (key, mode) =>
        .call key mode request fun
          | some response => .answer response
          | none => .answer (probe.response request)
  initLine name := some ("init:" ++ probe.label ++ ":" ++ name)
  serviceLine := some ("service:" ++ probe.label)
  destroyLine := some ("destroy:" ++ probe.label)

end UnitProbe

structure InterceptorProbe where
  label : String
  initFault : Option Error := none
  gate : Option Nat := none
  phase : Option Phase := none

def InterceptorProbe.interceptor (probe : InterceptorProbe) : Interceptor where
  init _ _ := outcome probe.initFault
  intercept _ request :=
    match probe.gate with
    | some status => .answer (Response.text status ("gated by " ++ probe.label))
    | none =>
        .pass { request with phase := probe.phase <|> request.phase } fun response =>
          response.addField "x-trail" probe.label
  initLine name := some ("init:" ++ probe.label ++ ":" ++ name)
  enterLine := some ("enter:" ++ probe.label)
  leaveLine := some ("exit:" ++ probe.label)
  destroyLine := some ("destroy:" ++ probe.label)

def probeWrapper (name : String) (block : Option Nat) (startFault : Option Error) :
    CustomWrapper where
  name := name
  start _ := outcome startFault
  handle _ request :=
    match block with
    | some status => .answer (Response.text status name)
    | none => .pass request id
  startLine := some ("start:" ++ name)
  stopLine := some ("stop:" ++ name)
  linkLine next := some ("link:" ++ name ++ ":" ++ next)
  unlinkLine := some ("unlink:" ++ name)
  enterLine := some ("handle:" ++ name)

/-- A guard that does not report itself as started when it is lazy. -/
def probeGuard (name : String) (startFault : Option Error) (isLazy : Bool)
    (finalizeFault : Option Error) : DispatchGuard where
  name := name
  start _ :=
    match startFault with
    | some e => .error e
    | none => .ok (!isLazy)
  finalize _ := outcome finalizeFault
  startLine := some ("start:" ++ name)
  stopLine := some ("stop:" ++ name)
  enterLine := some ("handle:" ++ name)
  finalizeLine := some ("finalize:" ++ name)
  clearLine := some ("clear:" ++ name)
  errorHandlerLine given := some ("error_handler:" ++ name ++ ":" ++ toString given)

/-- One rule of an access policy; a method or path that is not given is not compared. -/
structure AccessRule where
  method : Option String
  path : Option String
  decision : AccessDecision

def AccessRule.concerns (rule : AccessRule) (request : Request) : Bool :=
  rule.method.all (· == request.method) && rule.path.all (· == request.path)

def rulePolicy (rules : List AccessRule) (request : Request) : AccessDecision :=
  match rules.find? (·.concerns request) with
  | some rule => rule.decision
  | none => .allow

end RequestPipeline.Fixture
