import RequestPipeline.ContextPath
import RequestPipeline.Document
import RequestPipeline.Http.Field
import RequestPipeline.Identifier
import RequestPipeline.Phase

/-!
# Messages

Requests with what the stages have attached to them, and responses.
-/

namespace RequestPipeline

open Http

structure Session where
  id : Identifier
  fresh : Bool
  deriving DecidableEq

structure DispatchFailure where
  status : Nat
  path : String
  deriving DecidableEq, Repr

structure Request where
  method : String
  path : String
  fields : Fields
  phase : Option Phase := none
  inside : Option PathInContext := none
  failure : Option DispatchFailure := none
  session : Option Session := none
  deriving DecidableEq

namespace Request

def get (path : String) : Request := { method := "GET", path := path, fields := [] }

/-- The path by which a request is routed: the part inside the context, once it is known. -/
def routedPath (request : Request) : String :=
  match request.inside with
  | some inside => inside.path
  | none => request.path

end Request

structure Response where
  status : Nat
  fields : Fields
  body : String
  deriving DecidableEq, Repr

namespace Response

def text (status : Nat) (body : String) : Response :=
  ⟨status, [("content-type", "text/plain; charset=utf-8")], body⟩

def errorReport (status : Nat) (code message : String) : Response :=
  ⟨status, [("content-type", "application/json")],
    (Document.table [("error",
      .table [("code", .text code), ("message", .text message)])]).compact⟩

def notFound : Response := text 404 "Not Found"

def unavailable : Response := text 503 "Service Unavailable"

def setField (response : Response) (name value : String) : Response :=
  if isFieldValue value then { response with fields := response.fields.insert name value }
  else response

def addField (response : Response) (name value : String) : Response :=
  if isFieldValue value then { response with fields := response.fields.append name value }
  else response

/-- What an including unit may show of a response: its body and content type. -/
def included (response : Response) : Response :=
  ⟨200, ((response.fields.values "content-type").take 1).map ("content-type", ·), response.body⟩

end Response

end RequestPipeline
