import RequestPipeline.Context.Basic

/-!
# Registering with a context

The registration calls of a context and of its facade. A call is checked before anything changes,
so a refused call gives no new context.
-/

namespace RequestPipeline

inductive FacadeCall
  | mapInterceptorToUnits
  | mapUnit
  | registerInterceptor
  | registerUnit
  | findInterceptor
  | findUnit
  | createInterceptor
  | createUnit
  deriving DecidableEq, Repr

namespace FacadeCall

def all : List FacadeCall :=
  [.mapInterceptorToUnits, .mapUnit, .registerInterceptor, .registerUnit, .findInterceptor,
    .findUnit, .createInterceptor, .createUnit]

def operation : FacadeCall → String
  | .mapInterceptorToUnits => "add_interceptor_mapping_for_unit_names"
  | .mapUnit => "add_unit_mapping"
  | .registerInterceptor => "register_interceptor"
  | .registerUnit => "register_unit"
  | .findInterceptor => "find_interceptor"
  | .findUnit => "find_unit"
  | .createInterceptor => "create_interceptor"
  | .createUnit => "create_unit"

/-- The states in which a call is allowed: looking up always is, units are registered while
starting. -/
def allowed : FacadeCall → List LifecycleState
  | .mapInterceptorToUnits | .mapUnit | .registerInterceptor => [.uninitialized, .starting]
  | .registerUnit => [.starting]
  | .findInterceptor | .findUnit | .createInterceptor | .createUnit => LifecycleState.all

def permits (call : FacadeCall) (state : LifecycleState) : Bool := call.allowed.contains state

end FacadeCall

/-- The first of `base`, `base-1`, `base-2` and so on that is not taken, looking at `fuel`
numbered names. -/
def firstFree (base : String) (taken : String → Bool) (k : Nat) : Nat → String
  | 0 => base ++ "-" ++ toString k
  | fuel + 1 =>
      let candidate := base ++ "-" ++ toString k
      if taken candidate then firstFree base taken (k + 1) fuel else candidate

/-- A name that is not among those taken: the base, or the base with the least number behind it.
One of as many numbers as there are names taken is free. -/
def uniqueName (base : String) (names : List String) : String :=
  if names.contains base then firstFree base names.contains 1 names.length else base

namespace Context

def openTable (context : Context) (operation : String) (allowed : List LifecycleState) :
    Except Error RegistrationTable :=
  match context.lifecycle.require operation allowed with
  | .error e => .error e
  | .ok () => context.registrations.openFor operation context.state

def withTable (context : Context) (table : RegistrationTable) : Context :=
  { context with registrations := .opened table }

def changeTable {α : Type} (context : Context) (call : FacadeCall)
    (step : RegistrationTable → Except Error (α × RegistrationTable)) :
    Except Error (α × Context) :=
  match context.openTable call.operation call.allowed with
  | .error e => .error e
  | .ok table =>
      match step table with
      | .error e => .error e
      | .ok (a, table) => .ok (a, context.withTable table)

def registerUnit (context : Context) (name : String) (binding : Binding ServiceUnit)
    (calls : List (List String)) : Except Error (Except Error Unit × Context) :=
  context.changeTable .registerUnit fun table =>
    match table.registerUnitWith name binding calls with
    | (.error e, _) => .error e
    | (.ok result, table) => .ok (result, table)

def registerInterceptor (context : Context) (name : String) (binding : Binding Interceptor)
    (phases : Phases) (calls : List InterceptorFollowUp) :
    Except Error (Except Error Unit × Context) :=
  context.changeTable .registerInterceptor fun table =>
    match table.registerInterceptorWith name binding phases calls with
    | (.error e, _) => .error e
    | (.ok result, table) => .ok (result, table)

def mapUnit (context : Context) (name : String) (patterns : List String) :
    Except Error (Unit × Context) :=
  context.changeTable .mapUnit fun table => (table.mapUnit name patterns).map ((), ·)

def mapInterceptorToUnits (context : Context) (name : String) (phases : Phases) (after : Bool)
    (units : List String) : Except Error (Unit × Context) :=
  context.changeTable .mapInterceptorToUnits fun table =>
    .ok ((), table.mapInterceptorToUnits name phases after units)

/-- Registers a unit under a name of its own and maps one pattern to it. -/
def addUnit (context : Context) (binding : Binding ServiceUnit) (pattern : String) :
    Except Error (String × Context) :=
  match context.lifecycle.require "add_unit" registering with
  | .error e => .error e
  | .ok () =>
      match PathPattern.parse pattern with
      | .error e => .error e
      | .ok parsed =>
          match context.registrations.openFor "add_unit" context.state with
          | .error e => .error e
          | .ok table =>
              let base := binding.declaredClass?.getD ("unit-" ++ toString table.units.length)
              let name := uniqueName base (table.units.map (·.name))
              match table.registerUnit name binding with
              | .error e => .error e
              | .ok table =>
                  .ok (name, context.withTable
                    { table with unitMappings := table.unitMappings ++ [⟨name, parsed⟩] })

def addInterceptor (context : Context) (binding : Binding Interceptor) (pattern : String)
    (phases : Phases) : Except Error (String × Context) :=
  match context.lifecycle.require "add_interceptor" registering with
  | .error e => .error e
  | .ok () =>
      match PathPattern.parse pattern with
      | .error e => .error e
      | .ok parsed =>
          match context.registrations.openFor "add_interceptor" context.state with
          | .error e => .error e
          | .ok table =>
              let base := binding.declaredClass?.getD
                ("interceptor-" ++ toString table.interceptors.length)
              let name := uniqueName base (table.interceptors.map (·.name))
              match table.registerInterceptor name binding phases with
              | .error e => .error e
              | .ok table =>
                  .ok (name, context.withTable
                    (table.mapInterceptor ⟨name, phases, [parsed], []⟩ true))

/-- The dispatch stage that dispatchers are resolved on: the installed one, or that of the
slot. -/
def dispatchTarget? (context : Context) : Option Nat :=
  match context.pipeline with
  | some pipeline => some pipeline.dispatch
  | none => context.dispatch.stage

def resolveDispatcher (context : Context) (name : String) : Option NamedDispatcher :=
  match context.dispatchTarget? with
  | none => none
  | some stage =>
      if context.registrations.declared.containsUnit name then some ⟨stage, name⟩ else none

/-- The facade makes no unit of a class. -/
def createUnit (_context : Context) (_className : String) : Option (Instance ServiceUnit) := none

def createInterceptor (_context : Context) (_className : String) :
    Option (Instance Interceptor) := none

def setSessionStage (context : Context) (stage : Option Nat) : Except Error Context :=
  match context.lifecycle.require "set_session_stage" configurable with
  | .error e => .error e
  | .ok () => .ok { context with session := { context.session with stage := stage } }

def setSecurityStage (context : Context) (stage : Option Nat) : Except Error Context :=
  match context.lifecycle.require "set_security_stage" configurable with
  | .error e => .error e
  | .ok () => .ok { context with security := { context.security with stage := stage } }

def setDispatchStage (context : Context) (stage : Option Nat) : Except Error Context :=
  match context.lifecycle.require "set_dispatch_stage" configurable with
  | .error e => .error e
  | .ok () => .ok { context with dispatch := { context.dispatch with stage := stage } }

def setStageFactory (context : Context) (factory : StageFactory) : Except Error Context :=
  match context.lifecycle.require "set_stage_factory" configurable with
  | .error e => .error e
  | .ok () => .ok { context with factory := factory }

/-- Sets the unit that serves what no pattern accepts, from the next start on. -/
def setErrorHandler (context : Context) (unit : Option (Instance ServiceUnit)) :
    Except Error Context :=
  match context.lifecycle.require "set_error_handler" configurable with
  | .error e => .error e
  | .ok () => .ok { context with errorUnit := unit }

def clearRegistrations (context : Context) : Except Error Context :=
  match context.lifecycle.require "clear_registrations" configurable with
  | .error e => .error e
  | .ok () => .ok { context with registrations := .empty }

end Context

end RequestPipeline
