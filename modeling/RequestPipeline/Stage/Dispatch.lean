import RequestPipeline.Routing

/-!
# Dispatch stages

The innermost stage. The stock stage holds a routing table; an application may put a guard of its
own around it, which then decides on starting and on new routing.
-/

namespace RequestPipeline

/-- A guard around a stock dispatch stage. Its start says whether it reports itself as started. -/
structure DispatchGuard where
  name : String
  start : Journal → Except Error Bool := fun _ => .ok true
  finalize : Journal → Except Error Unit := fun _ => .ok ()
  startLine : Option String := none
  stopLine : Option String := none
  enterLine : Option String := none
  finalizeLine : Option String := none
  clearLine : Option String := none
  errorHandlerLine : Bool → Option String := fun _ => none

inductive DispatchStage
  | stock
  | guarded (stage : DispatchGuard)

namespace DispatchStage

def name : DispatchStage → String
  | .stock => "dispatch"
  | .guarded stage => stage.name

def start : DispatchStage → Journal → Except Error Bool
  | .stock => fun _ => .ok true
  | .guarded stage => stage.start

def finalize : DispatchStage → Journal → Except Error Unit
  | .stock => fun _ => .ok ()
  | .guarded stage => stage.finalize

def startLine : DispatchStage → Option String
  | .stock => none
  | .guarded stage => stage.startLine

def stopLine : DispatchStage → Option String
  | .stock => none
  | .guarded stage => stage.stopLine

def enterLine : DispatchStage → Option String
  | .stock => none
  | .guarded stage => stage.enterLine

def finalizeLine : DispatchStage → Option String
  | .stock => none
  | .guarded stage => stage.finalizeLine

def clearLine : DispatchStage → Option String
  | .stock => none
  | .guarded stage => stage.clearLine

def errorHandlerLine : DispatchStage → Bool → Option String
  | .stock => fun _ => none
  | .guarded stage => stage.errorHandlerLine

end DispatchStage

structure NamedDispatcher where
  stage : Nat
  unit : String
  deriving DecidableEq, Repr

end RequestPipeline
