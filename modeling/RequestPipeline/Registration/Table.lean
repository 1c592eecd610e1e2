import RequestPipeline.Binding
import RequestPipeline.PathPattern

/-!
# The registration table

Units, interceptors and the mappings of both, each kept in the order in which it takes effect.
-/

namespace RequestPipeline

def everyUnit : String := "*"

structure UnitRecord where
  name : String
  binding : Binding ServiceUnit

structure InterceptorRecord where
  name : String
  binding : Binding Interceptor
  phases : Phases

structure UnitMapping where
  unit : String
  pattern : PathPattern
  deriving DecidableEq, Repr

/-- The paths and units that an interceptor is put around, and in which phases. -/
structure InterceptorMapping where
  interceptor : String
  phases : Phases
  paths : List PathPattern
  units : List String
  deriving DecidableEq, Repr

namespace InterceptorMapping

def coversPath (mapping : InterceptorMapping) (path : String) : Bool :=
  mapping.paths.any (·.accepts path)

/-- Whether the unit is named, by itself or along with every unit. -/
def coversUnit (mapping : InterceptorMapping) (unit : String) : Bool :=
  mapping.units.any fun name => name == everyUnit || name == unit

/-- Whether the mapping applies to a request for a path that has been resolved to a unit, or to
none. -/
def appliesTo (mapping : InterceptorMapping) (path : String) (unit : Option String) : Bool :=
  mapping.coversPath path || unit.any mapping.coversUnit

end InterceptorMapping

structure RegistrationTable where
  units : List UnitRecord := []
  interceptors : List InterceptorRecord := []
  unitMappings : List UnitMapping := []
  interceptorMappings : List InterceptorMapping := []

structure UnitView where
  name : String
  binding : Binding ServiceUnit
  mappings : List String

structure InterceptorView where
  name : String
  binding : Binding Interceptor
  phases : Phases
  mappings : List InterceptorMapping

inductive InterceptorFollowUp
  | path (pattern : String)
  | unit (name : String)
  | paths (phases : Phases) (after : Bool) (patterns : List String)
  | units (phases : Phases) (after : Bool) (names : List String)

namespace RegistrationTable

def unit? (table : RegistrationTable) (name : String) : Option UnitRecord :=
  table.units.find? (·.name == name)

def interceptor? (table : RegistrationTable) (name : String) : Option InterceptorRecord :=
  table.interceptors.find? (·.name == name)

def containsUnit (table : RegistrationTable) (name : String) : Bool :=
  (table.unit? name).isSome

def containsInterceptor (table : RegistrationTable) (name : String) : Bool :=
  (table.interceptor? name).isSome

def registerUnit (table : RegistrationTable) (name : String) (binding : Binding ServiceUnit) :
    Except Error RegistrationTable :=
  if table.containsUnit name then .error (.duplicateName .unit name)
  else .ok { table with units := table.units ++ [⟨name, binding⟩] }

/-- Registers an interceptor under a name that no interceptor has; no phases stand for the
request phase. -/
def registerInterceptor (table : RegistrationTable) (name : String)
    (binding : Binding Interceptor) (phases : Phases) : Except Error RegistrationTable :=
  if table.containsInterceptor name then .error (.duplicateName .interceptor name)
  else .ok { table with
    interceptors := table.interceptors ++ [⟨name, binding, phases.orDefault⟩] }

/-- Maps patterns to a unit, registered or not; one malformed pattern adds none. -/
def mapUnit (table : RegistrationTable) (name : String) (patterns : List String) :
    Except Error RegistrationTable :=
  match PathPattern.parseAll patterns with
  | .error e => .error e
  | .ok parsed => .ok { table with
      unitMappings := table.unitMappings ++ parsed.map (UnitMapping.mk name) }

/-- Adds a mapping of an interceptor, behind all the others or in front of them. -/
def mapInterceptor (table : RegistrationTable) (mapping : InterceptorMapping) (after : Bool) :
    RegistrationTable :=
  let mapping := { mapping with phases := mapping.phases.orDefault }
  { table with
    interceptorMappings :=
      if after then table.interceptorMappings ++ [mapping]
      else mapping :: table.interceptorMappings }

def mapInterceptorTo (table : RegistrationTable) (name : String) (phases : Phases)
    (after : Bool) (patterns units : List String) : Except Error RegistrationTable :=
  match PathPattern.parseAll patterns with
  | .error e => .error e
  | .ok parsed => .ok (table.mapInterceptor ⟨name, phases, parsed, units⟩ after)

def mapInterceptorToPaths (table : RegistrationTable) (name : String) (phases : Phases)
    (after : Bool) (patterns : List String) : Except Error RegistrationTable :=
  table.mapInterceptorTo name phases after patterns []

def mapInterceptorToUnits (table : RegistrationTable) (name : String) (phases : Phases)
    (after : Bool) (units : List String) : RegistrationTable :=
  table.mapInterceptor ⟨name, phases, [], units⟩ after

def phasesOf (table : RegistrationTable) (name : String) : Phases :=
  match table.interceptor? name with
  | some record => record.phases
  | none => .only .request

def followInterceptor (table : RegistrationTable) (name : String) :
    InterceptorFollowUp → Except Error RegistrationTable
  | .path pattern => table.mapInterceptorToPaths name (table.phasesOf name) true [pattern]
  | .unit unit => .ok (table.mapInterceptorToUnits name (table.phasesOf name) true [unit])
  | .paths phases after patterns => table.mapInterceptorToPaths name phases after patterns
  | .units phases after names => .ok (table.mapInterceptorToUnits name phases after names)

/-- Applies steps until one fails; those before it stay. -/
def followAll {α : Type} (step : RegistrationTable → α → Except Error RegistrationTable) :
    RegistrationTable → List α → Except Error Unit × RegistrationTable
  | table, [] => (.ok (), table)
  | table, a :: rest =>
      match step table a with
      | .error e => (.error e, table)
      | .ok table => followAll step table rest

def followUnitAll (table : RegistrationTable) (name : String) (calls : List (List String)) :
    Except Error Unit × RegistrationTable :=
  followAll (fun table patterns => table.mapUnit name patterns) table calls

def followInterceptorAll (table : RegistrationTable) (name : String)
    (calls : List InterceptorFollowUp) : Except Error Unit × RegistrationTable :=
  followAll (fun table call => table.followInterceptor name call) table calls

def patternsFor (table : RegistrationTable) (unit : String) : List String :=
  (table.unitMappings.filter (·.unit == unit)).map (·.pattern.text)

/-- The mappings of an interceptor, in the order in which they take effect. -/
def mappingsFor (table : RegistrationTable) (interceptor : String) : List InterceptorMapping :=
  table.interceptorMappings.filter (·.interceptor == interceptor)

def findUnit (table : RegistrationTable) (name : String) : Option UnitView :=
  (table.unit? name).map fun record => ⟨record.name, record.binding, table.patternsFor record.name⟩

def findInterceptor (table : RegistrationTable) (name : String) : Option InterceptorView :=
  (table.interceptor? name).map fun record =>
    ⟨record.name, record.binding, record.phases, table.mappingsFor record.name⟩

def isEmpty (table : RegistrationTable) : Bool :=
  table.units.isEmpty && table.interceptors.isEmpty && table.unitMappings.isEmpty
    && table.interceptorMappings.isEmpty

theorem registerUnit_error {table : RegistrationTable} {name : String}
    {binding : Binding ServiceUnit} {e : Error}
    (refused : table.registerUnit name binding = .error e) :
    e = .duplicateName .unit name ∧ table.containsUnit name = true := by
  unfold registerUnit at refused
  split at refused
  · next taken => exact ⟨by injection refused with e_eq; exact e_eq.symm, taken⟩
  · cases refused

end RegistrationTable

end RequestPipeline
