import RequestPipeline.Error
import RequestPipeline.Http.Message
import RequestPipeline.Journal

/-!
# Units and interceptors

The objects that an application supplies. What one does may depend on everything that has
happened before, so each answer is a function of the journal.
-/

namespace RequestPipeline

inductive NamedMode
  | forward
  | inclusion
  deriving DecidableEq, Repr

def NamedMode.phase : NamedMode → Phase
  | .forward => .forward
  | .inclusion => .inclusion

/-- What a unit does with a request: it answers, or it hands a request to the dispatcher kept
under a key and goes on with the response, or with nothing when no dispatcher is kept there. -/
inductive ServiceStep
  | answer (response : Response)
  | call (key : String) (mode : NamedMode) (request : Request)
      (resume : Option Response → ServiceStep)

/-- What an interceptor or a wrapper does with a request: it answers, or it passes a request on
and finishes the response that comes back. -/
inductive Verdict
  | answer (response : Response)
  | pass (request : Request) (finish : Response → Response)

structure ServiceUnit where
  init : Journal → String → Except Error Unit := fun _ _ => .ok ()
  service : Journal → Request → ServiceStep
  initLine : String → Option String := fun _ => none
  serviceLine : Option String := none
  destroyLine : Option String := none

structure Interceptor where
  init : Journal → String → Except Error Unit := fun _ _ => .ok ()
  intercept : Journal → Request → Verdict
  initLine : String → Option String := fun _ => none
  enterLine : Option String := none
  leaveLine : Option String := none
  destroyLine : Option String := none

structure Instance (α : Type) where
  id : InstanceId
  body : α

end RequestPipeline
