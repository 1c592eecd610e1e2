import RequestPipeline.Context.Startup
import RequestPipeline.Registration.View

/-!
# Scripted hooks

Startup hooks that follow a script and remark on each step of it.
-/

namespace RequestPipeline.Fixture

inductive HookAction
  | registerUnit (name : String) (binding : Binding ServiceUnit) (calls : List (List String))
  | registerInterceptor (name : String) (binding : Binding Interceptor) (phases : Phases)
      (calls : List InterceptorFollowUp)
  | mapUnit (name : String) (patterns : List String)
  | findUnit (name : String)
  | findInterceptor (name : String)
  | fail (e : Error)

/-- A step of a script. It is left out when the unit `unlessUnit` is registered, and its error is
only remarked on when it is `tolerant`. -/
structure HookStep where
  word : String
  action : HookAction
  unlessUnit : Option String := none
  tolerant : Bool := false

namespace HookStep

def line (step : HookStep) (text : String) : String := "hook-step:" ++ step.word ++ ":" ++ text

def recover (step : HookStep) (next : StartupProgram) (e : Error) : StartupProgram :=
  if step.tolerant then .remark (step.line e.code) next else .fail e

/-- Goes on after a registration; a failed call on its handle is only remarked on. -/
def registered (step : HookStep) (next : StartupProgram) :
    Except Error (Except Error Unit) → StartupProgram
  | .error e => step.recover next e
  | .ok (.error e) => .remark (step.line e.code) next
  | .ok (.ok ()) => .remark (step.line "ok") next

def found (view : Option Document) : String := (view.getD .null).compact

def act (step : HookStep) (next : StartupProgram) : StartupProgram :=
  match step.action with
  | .registerUnit name binding calls =>
      .registerUnit name binding calls (step.registered next)
  | .registerInterceptor name binding phases calls =>
      .registerInterceptor name binding phases calls (step.registered next)
  | .mapUnit name patterns =>
      .mapUnit name patterns fun
        | .error e => step.recover next e
        | .ok () => .remark (step.line "ok") next
  | .findUnit name =>
      .findUnit name fun view => .remark (step.line (found (view.map UnitView.document))) next
  | .findInterceptor name =>
      .findInterceptor name fun view =>
        .remark (step.line (found (view.map InterceptorView.document))) next
  | .fail e => step.recover next e

def program (step : HookStep) (next : StartupProgram) : StartupProgram :=
  match step.unlessUnit with
  | none => step.act next
  | some unit => .findUnit unit fun
      | some _ => next
      | none => step.act next

end HookStep

def script (label : String) (steps : List HookStep) (context : String) : StartupProgram :=
  .remark ("hook:" ++ label ++ ":" ++ context) (steps.foldr HookStep.program .done)

end RequestPipeline.Fixture
