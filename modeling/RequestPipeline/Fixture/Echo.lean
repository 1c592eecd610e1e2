import RequestPipeline.Collaborator

/-!
# Simple units and interceptors

A unit that echoes the path, an interceptor that only leaves a remark, and two that do neither.
-/

namespace RequestPipeline.Fixture

/-- Answers with its label and the path; remarks on what happens to it if it is to. -/
def echo (label : String) (remarks : Bool) : ServiceUnit where
  service _ request :=
    .answer ((Response.text 200 (label ++ ":" ++ request.path)).setField "x-unit" label)
  initLine name := if remarks then some ("init:" ++ name) else none
  serviceLine := if remarks then some ("service:" ++ label) else none
  destroyLine := if remarks then some ("destroy:" ++ label) else none

def recorder (label : String) : Interceptor where
  intercept _ request := .pass request id
  enterLine := some label

def blank : ServiceUnit where
  service _ _ := .answer (Response.text 200 "blank")

def pass : Interceptor where
  intercept _ request := .pass request id

def finish : ServiceUnit where
  service _ _ := .answer (Response.text 200 "end")

end RequestPipeline.Fixture
