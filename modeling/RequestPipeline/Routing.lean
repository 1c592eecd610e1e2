import RequestPipeline.Registration.Snapshot

/-!
# Routing

The index that a dispatch stage builds from a snapshot: which unit a path leads to, which
interceptors stand around it, and the order in which everything is initialised and destroyed.
-/

namespace RequestPipeline

/-- A snapshot with its patterns indexed, each with the unit of its last mapping. -/
structure RoutingTable where
  snapshot : Snapshot
  routes : List (PathPattern × String)
  errorUnit : Option (Instance ServiceUnit)

structure Named (α : Type) where
  name : String
  object : Instance α

/-- Something to be initialised and destroyed along with the routing. -/
structure Participant where
  role : Role
  id : InstanceId
  init : Journal → Except Error Unit
  initLine : Option String
  destroyLine : Option String

namespace Participant

def ofUnit (name : String) (unit : Instance ServiceUnit) : Participant :=
  ⟨.unit name, unit.id, (unit.body.init · name), unit.body.initLine name, unit.body.destroyLine⟩

def ofInterceptor (name : String) (interceptor : Instance Interceptor) : Participant :=
  ⟨.interceptor name, interceptor.id, (interceptor.body.init · name),
    interceptor.body.initLine name, interceptor.body.destroyLine⟩

def errorHandlerName : String := "error-handler"

def ofErrorUnit (unit : Instance ServiceUnit) : Participant :=
  ⟨.errorHandler, unit.id, (unit.body.init · errorHandlerName),
    unit.body.initLine errorHandlerName, unit.body.destroyLine⟩

def start (participant : Participant) (journal : Journal) : Except Error Unit × Journal :=
  match participant.init journal with
  | .ok () =>
      (.ok (), journal.note (.registration participant.role participant.id .initialized)
        participant.initLine)
  | .error e =>
      (.error e, journal.note (.registration participant.role participant.id .initFailed)
        participant.initLine)

def stop (participant : Participant) (journal : Journal) : Journal :=
  journal.note (.registration participant.role participant.id .destroyed) participant.destroyLine

def stopAll (participants : List Participant) (journal : Journal) : Journal :=
  participants.foldl (fun journal participant => participant.stop journal) journal

/-- Initialises participants in order, each given with its position; when one fails, `rollback`
gets its position and destroys what has been initialised by then. -/
def startEach (rollback : Nat → Journal → Journal) :
    List (Participant × Nat) → Journal → Except Error Unit × Journal
  | [], journal => (.ok (), journal)
  | (participant, index) :: rest, journal =>
      match participant.start journal with
      | (.ok (), journal) => startEach rollback rest journal
      | (.error e, journal) => (.error e, rollback index journal)

end Participant

namespace RoutingTable

/-- Enters a pattern: a later unit takes the place of the one that the pattern led to. -/
def enter : List (PathPattern × String) → UnitMapping → List (PathPattern × String)
  | [], mapping => [(mapping.pattern, mapping.unit)]
  | (pattern, unit) :: routes, mapping =>
      if pattern = mapping.pattern then (pattern, mapping.unit) :: routes
      else (pattern, unit) :: enter routes mapping

def build (snapshot : Snapshot) (errorUnit : Option (Instance ServiceUnit)) : RoutingTable where
  snapshot := snapshot
  routes := snapshot.table.unitMappings.foldl enter []
  errorUnit := errorUnit

/-- Of two routes for the same path, the one of higher precedence; the later one of equals. -/
def prefer (best candidate : PathPattern × String) : PathPattern × String :=
  if best.1.precedence candidate.1 = .gt then best else candidate

def bestRoute? (routes : List (PathPattern × String)) (path : String) :
    Option (PathPattern × String) :=
  match routes.filter (·.1.accepts path) with
  | [] => none
  | first :: others => some (others.foldl prefer first)

def resolve? (routing : RoutingTable) (path : String) : Option (Named ServiceUnit) :=
  match bestRoute? routing.routes path with
  | none => none
  | some (_, unit) => (routing.snapshot.unit? unit).map (Named.mk unit)

/-- The interceptors of the mappings that are for the phase and satisfy a condition, in the order
of the mappings. -/
def interceptorsWhere (routing : RoutingTable) (phase : Phase)
    (applies : InterceptorMapping → Bool) : List (Named Interceptor) :=
  (routing.snapshot.table.interceptorMappings.filter fun mapping =>
    mapping.phases.contains phase && applies mapping).filterMap fun mapping =>
      (routing.snapshot.interceptor? mapping.interceptor).map (Named.mk mapping.interceptor)

def interceptorsFor (routing : RoutingTable) (path : String) (unit : Option String)
    (phase : Phase) : List (Named Interceptor) :=
  routing.interceptorsWhere phase (·.appliesTo path unit)

/-- The interceptors around a unit that is called by name; patterns play no part. -/
def interceptorsForUnit (routing : RoutingTable) (unit : String) (phase : Phase) :
    List (Named Interceptor) :=
  routing.interceptorsWhere phase (·.coversUnit unit)

def interceptorParticipants (routing : RoutingTable) : List Participant :=
  routing.snapshot.interceptors.map fun entry => .ofInterceptor entry.1 entry.2

def unitParticipants (routing : RoutingTable) : List Participant :=
  routing.snapshot.units.map fun entry => .ofUnit entry.1 entry.2

def destroyRegistered (routing : RoutingTable) (journal : Journal) : Journal :=
  Participant.stopAll routing.interceptorParticipants.reverse
    (Participant.stopAll routing.unitParticipants.reverse journal)

def destroyAll (routing : RoutingTable) (journal : Journal) : Journal :=
  match routing.errorUnit with
  | none => routing.destroyRegistered journal
  | some unit => routing.destroyRegistered ((Participant.ofErrorUnit unit).stop journal)

def initInterceptors (routing : RoutingTable) (journal : Journal) :
    Except Error Unit × Journal :=
  let interceptors := routing.interceptorParticipants
  Participant.startEach (fun index => Participant.stopAll (interceptors.take index).reverse)
    interceptors.zipIdx journal

/-- Initialises the units; when one fails, those before it and all interceptors are destroyed
again. -/
def initUnits (routing : RoutingTable) (journal : Journal) : Except Error Unit × Journal :=
  let units := routing.unitParticipants
  Participant.startEach
    (fun index journal => Participant.stopAll routing.interceptorParticipants.reverse
      (Participant.stopAll (units.take index).reverse journal))
    units.zipIdx journal

/-- Initialises the error unit, if there is one; when it fails, what is registered is destroyed
again. -/
def initErrorUnit (routing : RoutingTable) (journal : Journal) : Except Error Unit × Journal :=
  match routing.errorUnit with
  | none => (.ok (), journal)
  | some unit =>
      match (Participant.ofErrorUnit unit).start journal with
      | (.ok (), journal) => (.ok (), journal)
      | (.error e, journal) => (.error e, routing.destroyRegistered journal)

def initAll (routing : RoutingTable) (journal : Journal) : Except Error Unit × Journal :=
  match routing.initInterceptors journal with
  | (.error e, journal) => (.error e, journal)
  | (.ok (), journal) =>
      match routing.initUnits journal with
      | (.error e, journal) => (.error e, journal)
      | (.ok (), journal) => routing.initErrorUnit journal

def shownRoutes (routing : RoutingTable) : List (String × String) :=
  routing.routes.map fun (pattern, unit) => (pattern.text, unit)

theorem bestRoute?_eq_none {routes : List (PathPattern × String)} {path : String} :
    bestRoute? routes path = none ↔ ∀ route ∈ routes, route.1.accepts path = false := by
  unfold bestRoute?
  split
  · next empty =>
      simp only [true_iff]
      intro route member
      simpa using (List.filter_eq_nil_iff.1 empty) route member
  · next filled =>
      simp only [reduceCtorEq, false_iff]
      intro refused
      rw [List.filter_eq_nil_iff.2 (fun route member => by simp [refused route member])] at filled
      cases filled

end RoutingTable

end RequestPipeline
