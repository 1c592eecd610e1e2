import Mathlib.Data.List.Forall2
import RequestPipeline.Proofs.ChainNesting
import RequestPipeline.Proofs.Resolution

/-!
# The order of interceptors

The interceptors around a request stand in the order of the stored mappings, and that order is told
from the calls alone: mappings put in front in reverse, then those put behind.  Freezing checks that
every mapping has its interceptor, so that none is lost when a chain is picked from the mappings.
-/

namespace RequestPipeline

/-- A call that registers or maps something. -/
inductive TableCall
  | registerUnit (name : String) (binding : Binding ServiceUnit)
  | registerInterceptor (name : String) (binding : Binding Interceptor) (phases : Phases)
  | mapUnit (name : String) (patterns : List String)
  | mapInterceptor (mapping : InterceptorMapping) (after : Bool)
  | mapInterceptorToPaths (name : String) (phases : Phases) (after : Bool)
      (patterns : List String)
  | mapInterceptorToUnits (name : String) (phases : Phases) (after : Bool) (units : List String)
  | followInterceptor (name : String) (call : InterceptorFollowUp)

/-- A mapping as it was asked for, and whether behind all others or in front of them. -/
structure Placement where
  mapping : InterceptorMapping
  after : Bool

namespace Placement

/-- The mapping as it is stored: no phases stand for the request phase. -/
def stored (placement : Placement) : InterceptorMapping :=
  { placement.mapping with phases := placement.mapping.phases.orDefault }

def among (placement : Placement) (mappings : List InterceptorMapping) :
    List InterceptorMapping :=
  if placement.after then mappings ++ [placement.stored] else placement.stored :: mappings

def toPaths? (name : String) (phases : Phases) (after : Bool) (patterns : List String) :
    Option Placement :=
  match PathPattern.parseAll patterns with
  | .error _ => none
  | .ok parsed => some ⟨⟨name, phases, parsed, []⟩, after⟩

def toUnits (name : String) (phases : Phases) (after : Bool) (units : List String) : Placement :=
  ⟨⟨name, phases, [], units⟩, after⟩

theorem stored_isEmpty (placement : Placement) : placement.stored.phases.isEmpty = false :=
  beq_eq_false_iff_ne.mpr placement.mapping.phases.orDefault_ne_none

end Placement

namespace RegistrationTable

def carryOut (table : RegistrationTable) : TableCall → Except Error RegistrationTable
  | .registerUnit name binding => table.registerUnit name binding
  | .registerInterceptor name binding phases => table.registerInterceptor name binding phases
  | .mapUnit name patterns => table.mapUnit name patterns
  | .mapInterceptor mapping after => .ok (table.mapInterceptor mapping after)
  | .mapInterceptorToPaths name phases after patterns =>
      table.mapInterceptorToPaths name phases after patterns
  | .mapInterceptorToUnits name phases after units =>
      .ok (table.mapInterceptorToUnits name phases after units)
  | .followInterceptor name call => table.followInterceptor name call

/-- The table after a call; a refused one leaves it as it was. -/
def afterCall (table : RegistrationTable) (call : TableCall) : RegistrationTable :=
  (table.attempt (table.carryOut call)).2

def afterCalls (table : RegistrationTable) (calls : List TableCall) : RegistrationTable :=
  calls.foldl afterCall table

/-- The mapping that a call asks for. A handle that is told no phases takes those that its
interceptor was registered for. -/
def placement? (table : RegistrationTable) : TableCall → Option Placement
  | .registerUnit .. | .registerInterceptor .. | .mapUnit .. => none
  | .mapInterceptor mapping after => some ⟨mapping, after⟩
  | .mapInterceptorToPaths name phases after patterns =>
      Placement.toPaths? name phases after patterns
  | .mapInterceptorToUnits name phases after units => some (.toUnits name phases after units)
  | .followInterceptor name (.path pattern) =>
      Placement.toPaths? name (table.phasesOf name) true [pattern]
  | .followInterceptor name (.unit unit) => some (.toUnits name (table.phasesOf name) true [unit])
  | .followInterceptor name (.paths phases after patterns) =>
      Placement.toPaths? name phases after patterns
  | .followInterceptor name (.units phases after units) =>
      some (.toUnits name phases after units)

def placements : RegistrationTable → List TableCall → List Placement
  | _, [] => []
  | table, call :: rest => (table.placement? call).toList ++ placements (table.afterCall call) rest

/-! ## What the calls do -/

theorem afterCall_grows (table : RegistrationTable) (call : TableCall) :
    table.Grows (table.afterCall call) := by
  refine table.attempt_grows _ fun grown carried => ?_
  cases call with
  | registerUnit name binding => exact .single (.unit carried)
  | registerInterceptor name binding phases => exact .single (.interceptor carried)
  | mapUnit name patterns => exact .single (.mapUnit carried)
  | mapInterceptor mapping after =>
      rw [← Except.ok.inj carried]
      exact .single (.mapInterceptor mapping after)
  | mapInterceptorToPaths name phases after patterns => exact mapInterceptorTo_grows carried
  | mapInterceptorToUnits name phases after units =>
      rw [← Except.ok.inj carried]
      exact .single (.mapInterceptor _ after)
  | followInterceptor name call => exact followInterceptor_grows carried

theorem afterCalls_grows (table : RegistrationTable) (calls : List TableCall) :
    table.Grows (table.afterCalls calls) := by
  induction calls generalizing table with
  | nil => exact .refl
  | cons call rest ih => exact (table.afterCall_grows call).trans (ih _)

theorem attempt_keeps (table : RegistrationTable) {result : Except Error RegistrationTable}
    (keeps : ∀ grown, result = .ok grown →
      grown.interceptorMappings = table.interceptorMappings) :
    (table.attempt result).2.interceptorMappings = table.interceptorMappings := by
  cases result with
  | error e => rfl
  | ok grown => exact keeps grown rfl

theorem attempt_toPaths (table : RegistrationTable) (name : String) (phases : Phases)
    (after : Bool) (patterns : List String) :
    (table.attempt (table.mapInterceptorToPaths name phases after patterns)).2.interceptorMappings =
      (Placement.toPaths? name phases after patterns).elim table.interceptorMappings
        (·.among table.interceptorMappings) := by
  unfold mapInterceptorToPaths mapInterceptorTo Placement.toPaths?
  cases PathPattern.parseAll patterns with
  | error e => rfl
  | ok parsed => rfl

/-- A call puts the mapping that it asks for among the others and leaves those as they are. -/
theorem afterCall_mappings (table : RegistrationTable) (call : TableCall) :
    (table.afterCall call).interceptorMappings =
      (table.placement? call).elim table.interceptorMappings
        (·.among table.interceptorMappings) := by
  unfold afterCall
  cases call with
  | registerUnit name binding =>
      refine table.attempt_keeps fun grown registered => ?_
      obtain ⟨-, rfl⟩ := registerUnit_ok registered
      rfl
  | registerInterceptor name binding phases =>
      refine table.attempt_keeps fun grown registered => ?_
      obtain ⟨-, rfl⟩ := registerInterceptor_ok registered
      rfl
  | mapUnit name patterns =>
      refine table.attempt_keeps fun grown mapped => ?_
      obtain ⟨parsed, -, rfl⟩ := mapUnit_ok mapped
      rfl
  | mapInterceptor mapping after => rfl
  | mapInterceptorToPaths name phases after patterns => exact table.attempt_toPaths ..
  | mapInterceptorToUnits name phases after units => rfl
  | followInterceptor name call =>
      cases call with
      | path pattern => exact table.attempt_toPaths ..
      | unit unit => rfl
      | paths phases after patterns => exact table.attempt_toPaths ..
      | units phases after units => rfl

/-- Whatever calls are made, the mappings that they ask for stand around those that were there. -/
theorem afterCalls_mappings (table : RegistrationTable) (calls : List TableCall) :
    (table.afterCalls calls).interceptorMappings =
      ((table.placements calls).filter (!·.after)).reverse.map Placement.stored
        ++ table.interceptorMappings
        ++ ((table.placements calls).filter (·.after)).map Placement.stored := by
  induction calls generalizing table with
  | nil => simp [afterCalls, placements]
  | cons call rest ih =>
      have later := ih (table.afterCall call)
      rw [afterCall_mappings] at later
      rw [afterCalls, List.foldl_cons, placements]
      refine later.trans ?_
      cases table.placement? call with
      | none => rfl
      | some placement =>
          obtain ⟨mapping, after⟩ := placement
          cases after <;> simp [Placement.among]

/-- The mappings of a table built from nothing. -/
theorem built_mappings (calls : List TableCall) :
    (afterCalls {} calls).interceptorMappings =
      ((placements {} calls).filter (!·.after)).reverse.map Placement.stored ++
        ((placements {} calls).filter (·.after)).map Placement.stored := by
  rw [afterCalls_mappings, List.append_nil]

/-- The mappings around a request for a path that leads to a unit, in the order in which they are
stored. -/
def around (table : RegistrationTable) (path unit : String) (phase : Phase) :
    List InterceptorMapping :=
  table.interceptorMappings.filter fun mapping =>
    mapping.phases.contains phase && (mapping.coversPath path || mapping.coversUnit unit)

end RegistrationTable

/-! ## Chains -/

open RegistrationTable

variable {table : RegistrationTable} {loader : ClassLoader} {journal later : Journal}
  {snapshot : Snapshot}

/-- A named object stands for a mapping: it is the one object of that name in the snapshot, and was
found behind what the mapping's interceptor is bound to. -/
structure StandsFor (table : RegistrationTable) (loader : ClassLoader) (snapshot : Snapshot)
    (mapping : InterceptorMapping) (named : Named Interceptor) : Prop where
  name : named.name = mapping.interceptor
  only : ∀ other, (mapping.interceptor, other) ∈ snapshot.interceptors ↔ other = named.object
  bound : ∃ record ∈ table.interceptors, record.name = mapping.interceptor ∧
    ∃ before after, record.binding.resolve loader.interceptor before = (.ok named.object, after)

/-- No two interceptors of a snapshot share a name. -/
theorem nodup_interceptors (grown : RegistrationTable.Grows {} table)
    (frozen : table.freeze loader journal = (.ok snapshot, later)) :
    (snapshot.interceptors.map Prod.fst).Nodup := by
  rw [(names_of_freeze frozen).2]
  exact (grown.distinct distinct_empty).interceptors

/-- No mapping of a frozen table has lost its interceptor. -/
theorem interceptor?_of_mapped (frozen : table.freeze loader journal = (.ok snapshot, later))
    {mapping : InterceptorMapping} (member : mapping ∈ table.interceptorMappings) :
    ∃ object, snapshot.interceptor? mapping.interceptor = some object := by
  obtain ⟨sound, -⟩ := freeze_ok frozen
  have known : table.containsInterceptor mapping.interceptor = true := by
    have faultless := (targetFault?_eq_none_iff.mp sound).2 mapping member
    unfold interceptorMappingFault? at faultless
    split at faultless
    · cases faultless
    · next contained => simpa using contained
  rw [containsInterceptor_iff, ← (names_of_freeze frozen).2] at known
  exact Snapshot.interceptor?_of_listed known

/-- What is found for a mapping stands for it. -/
theorem standsFor_of_mapped (grown : RegistrationTable.Grows {} table)
    (frozen : table.freeze loader journal = (.ok snapshot, later))
    {mapping : InterceptorMapping} {object : Instance Interceptor}
    (found : snapshot.interceptor? mapping.interceptor = some object) :
    StandsFor table loader snapshot mapping ⟨mapping.interceptor, object⟩ := by
  obtain ⟨-, middle, -, resolved⟩ := freeze_ok frozen
  have listed := Snapshot.mem_interceptors found
  obtain ⟨binding, bound, resolves⟩ := resolve_of_mem_resolveAll resolved listed
  obtain ⟨record, among, same⟩ := List.mem_map.mp bound
  obtain ⟨name_eq, rfl⟩ := Prod.mk.inj same
  refine ⟨rfl, fun other => ?_, record, among, name_eq, resolves⟩
  constructor
  · intro here
    exact congrArg Prod.snd
      (List.inj_on_of_nodup_map (nodup_interceptors grown frozen) here listed rfl)
  · intro same
    rw [same]
    exact listed

/-- Picking the objects of mappings loses none when each mapping has its object. -/
theorem forall₂_filterMap_of_some {α β : Type} {related : α → β → Prop}
    {pick : α → Option β} {items : List α}
    (each : ∀ item ∈ items, ∃ picked, pick item = some picked ∧ related item picked) :
    List.Forall₂ related items (items.filterMap pick) := by
  induction items with
  | nil => exact .nil
  | cons item rest ih =>
      obtain ⟨picked, found, holds⟩ := each item List.mem_cons_self
      rw [List.filterMap_cons_some found]
      exact .cons holds (ih fun other member => each other (List.mem_cons_of_mem _ member))

namespace RoutingTable

/-- A chain is one object for each mapping that applies, in the order of the mappings. -/
theorem interceptorsWhere_found (frozen : table.freeze loader journal = (.ok snapshot, later))
    (errorUnit : Option (Instance ServiceUnit)) (phase : Phase)
    (applies : InterceptorMapping → Bool) :
    List.Forall₂ (fun mapping named => named.name = mapping.interceptor ∧
        snapshot.interceptor? mapping.interceptor = some named.object)
      (table.interceptorMappings.filter fun mapping =>
        mapping.phases.contains phase && applies mapping)
      ((build snapshot errorUnit).interceptorsWhere phase applies) := by
  have same : (build snapshot errorUnit).snapshot.table = table := table_of_freeze frozen
  rw [interceptorsWhere, same]
  refine forall₂_filterMap_of_some fun mapping selected => ?_
  obtain ⟨object, found⟩ := interceptor?_of_mapped frozen (List.mem_of_mem_filter selected)
  refine ⟨⟨mapping.interceptor, object⟩, ?_, rfl, found⟩
  rw [show (build snapshot errorUnit).snapshot = snapshot from rfl, found]
  rfl

theorem interceptorsWhere_standFor (grown : RegistrationTable.Grows {} table)
    (frozen : table.freeze loader journal = (.ok snapshot, later))
    (errorUnit : Option (Instance ServiceUnit)) (phase : Phase)
    (applies : InterceptorMapping → Bool) :
    List.Forall₂ (StandsFor table loader snapshot)
      (table.interceptorMappings.filter fun mapping =>
        mapping.phases.contains phase && applies mapping)
      ((build snapshot errorUnit).interceptorsWhere phase applies) := by
  refine (interceptorsWhere_found frozen errorUnit phase applies).imp ?_
  rintro mapping ⟨name, object⟩ ⟨rfl, found⟩
  exact standsFor_of_mapped grown frozen found

/-- Interceptors that are named after mappings have the names that the mappings give. -/
theorem names_of_forall₂ {mappings : List InterceptorMapping} {chain : List (Named Interceptor)}
    (named : List.Forall₂ (fun mapping named => named.name = mapping.interceptor) mappings chain) :
    chain.map (·.name) = mappings.map (·.interceptor) := by
  induction named with
  | nil => rfl
  | cons first _ ih => rw [List.map_cons, List.map_cons, first, ih]

/-- The names in a chain are told from the table alone. -/
theorem names_interceptorsWhere (frozen : table.freeze loader journal = (.ok snapshot, later))
    (errorUnit : Option (Instance ServiceUnit)) (phase : Phase)
    (applies : InterceptorMapping → Bool) :
    ((build snapshot errorUnit).interceptorsWhere phase applies).map (·.name) =
      (table.interceptorMappings.filter fun mapping =>
        mapping.phases.contains phase && applies mapping).map (·.interceptor) :=
  names_of_forall₂ ((interceptorsWhere_found frozen errorUnit phase applies).imp
    fun _ _ found => found.1)

/-- The chain of a call by name is a part of the chain around any path, in the same order. -/
theorem interceptorsForUnit_sublist (routing : RoutingTable) (path unit : String)
    (phase : Phase) :
    (routing.interceptorsForUnit unit phase).Sublist
      (routing.interceptorsFor path (some unit) phase) := by
  refine List.Sublist.filterMap _ (List.monotone_filter_right _ fun mapping => ?_)
  simp only [InterceptorMapping.appliesTo, Option.any_some, Bool.and_eq_true, Bool.or_eq_true]
  exact fun ⟨inPhase, covers⟩ => ⟨inPhase, Or.inr covers⟩

/-- The mappings that name a unit are those around any path that do so. -/
theorem filter_around (table : RegistrationTable) (path unit : String) (phase : Phase) :
    (table.around path unit phase).filter (·.coversUnit unit) =
      table.interceptorMappings.filter fun mapping =>
        mapping.phases.contains phase && mapping.coversUnit unit := by
  rw [RegistrationTable.around, List.filter_filter]
  congr 1
  funext mapping
  cases mapping.phases.contains phase <;> cases mapping.coversPath path <;>
    cases mapping.coversUnit unit <;> rfl

end RoutingTable

/-! ## Going through a chain -/

open Host (Gentle)

namespace RoutingTable

/-- A request for a path that leads to a unit goes through the chain around that path. -/
theorem route_events {routing : RoutingTable} {request : Request} {unit : Named ServiceUnit}
    (resolved : routing.resolve? request.routedPath = some unit) (host : Host) :
    ∃ events, (Host.route routing request host).2.journal.events = host.journal.events ++ events ++
        [.dispatched unit.name (Host.route routing request host).1.status] ∧
      Called.GoneThrough (.unit unit) host.journal request
        ((routing.interceptorsFor request.routedPath (some unit.name)
          (Host.phaseOf request)).map Called.interceptor) events := by
  obtain ⟨events, grown, through⟩ := runChain_events Host.callNamed_gentle (.unit unit)
    ((routing.interceptorsFor request.routedPath (some unit.name)
      (Host.phaseOf request)).map Called.interceptor) request host
  refine ⟨events, ?_, through⟩
  unfold Host.route
  dsimp only
  rw [resolved]
  refine (Journal.events_note ..).trans ?_
  rw [grown]

/-- A call by name goes through the chain around the unit, whatever path the request is for. -/
theorem dispatchNamedBy_events {caller : Caller} (gentle : Gentle caller)
    {routing : RoutingTable} {host : Host} {stage : Nat}
    (installed : host.routing? stage = some routing) {unit : String}
    {object : Instance ServiceUnit} (found : routing.snapshot.unit? unit = some object)
    (phase : Phase) (request : Request) :
    ∃ events, (Host.dispatchNamedBy caller stage unit phase request host).2.journal.events =
        host.journal.events ++ events ∧
      Called.GoneThrough (.unit ⟨unit, object⟩) host.journal { request with phase := some phase }
        ((routing.interceptorsForUnit unit phase).map Called.interceptor) events := by
  have placed : (host.dispatches[stage]?).bind (·.routing) = some routing := installed
  obtain ⟨events, grown, through⟩ := runChain_events gentle (.unit ⟨unit, object⟩)
    ((routing.interceptorsForUnit unit phase).map Called.interceptor)
    { request with phase := some phase } host
  refine ⟨events, ?_, through⟩
  unfold Host.dispatchNamedBy
  rw [placed]
  dsimp only
  rw [found]
  exact grown

/-- Of a table built by calls and then frozen: the mappings put in front are stored in reverse order
of the calls, before those put behind in order of the calls, and none is for no phase.  A request
for a path goes through one interceptor for each mapping that is for its phase and either accepts
the path or names the unit, in that order, none being missing.  A call by name to the same unit in
the same phase goes through those of them whose mapping names the unit, whatever the path. -/
theorem interceptors_run_as_mapped (calls : List TableCall)
    (frozen : (afterCalls {} calls).freeze loader journal = (.ok snapshot, later))
    (errorUnit : Option (Instance ServiceUnit)) :
    ((afterCalls {} calls).interceptorMappings =
        ((placements {} calls).filter (!·.after)).reverse.map Placement.stored ++
          ((placements {} calls).filter (·.after)).map Placement.stored ∧
      ∀ mapping ∈ (afterCalls {} calls).interceptorMappings, mapping.phases.isEmpty = false) ∧
    (∀ path unit phase,
      List.Forall₂ (StandsFor (afterCalls {} calls) loader snapshot)
        ((afterCalls {} calls).around path unit phase)
        ((build snapshot errorUnit).interceptorsFor path (some unit) phase) ∧
      List.Forall₂ (StandsFor (afterCalls {} calls) loader snapshot)
        (((afterCalls {} calls).around path unit phase).filter (·.coversUnit unit))
        ((build snapshot errorUnit).interceptorsForUnit unit phase) ∧
      ((build snapshot errorUnit).interceptorsForUnit unit phase).Sublist
        ((build snapshot errorUnit).interceptorsFor path (some unit) phase)) ∧
    (∀ request unit host,
      (build snapshot errorUnit).resolve? request.routedPath = some unit →
      ∃ events, (Host.route (build snapshot errorUnit) request host).2.journal.events =
          host.journal.events ++ events ++ [.dispatched unit.name
            (Host.route (build snapshot errorUnit) request host).1.status] ∧
        Called.GoneThrough (.unit unit) host.journal request
          (((build snapshot errorUnit).interceptorsFor request.routedPath (some unit.name)
            (Host.phaseOf request)).map Called.interceptor) events) ∧
    (∀ caller unit phase request (host : Host) stage, Gentle caller →
      (afterCalls {} calls).containsUnit unit = true →
      host.routing? stage = some (build snapshot errorUnit) →
      ∃ object events, snapshot.unit? unit = some object ∧
        (Host.dispatchNamedBy caller stage unit phase request host).2.journal.events =
          host.journal.events ++ events ∧
        Called.GoneThrough (.unit ⟨unit, object⟩) host.journal
          { request with phase := some phase }
          (((build snapshot errorUnit).interceptorsForUnit unit phase).map Called.interceptor)
          events) := by
  have grown : RegistrationTable.Grows {} (afterCalls {} calls) := afterCalls_grows {} calls
  have stored := built_mappings calls
  refine ⟨⟨stored, ?_⟩, ?_, ?_, ?_⟩
  · intro mapping member
    rw [stored] at member
    rcases List.mem_append.mp member with front | behind
    · obtain ⟨placement, -, rfl⟩ := List.mem_map.mp front
      exact placement.stored_isEmpty
    · obtain ⟨placement, -, rfl⟩ := List.mem_map.mp behind
      exact placement.stored_isEmpty
  · intro path unit phase
    refine ⟨?_, ?_, interceptorsForUnit_sublist _ path unit phase⟩
    · exact interceptorsWhere_standFor grown frozen errorUnit phase (·.appliesTo path (some unit))
    · rw [filter_around]
      exact interceptorsWhere_standFor grown frozen errorUnit phase (·.coversUnit unit)
  · intro request unit host resolved
    exact route_events resolved host
  · intro caller unit phase request host stage gentle registered installed
    obtain ⟨object, found⟩ := unit?_of_registered frozen registered
    obtain ⟨events, entered, through⟩ :=
      dispatchNamedBy_events gentle installed found phase request
    exact ⟨object, events, found, entered, through⟩

def doorman (number : Nat) : Instance Interceptor :=
  ⟨.supplied number, { intercept := fun _ request => .pass request id }⟩

/-- A hall with a porter at all paths, who is mapped first, and a guard for every unit, who is put
in front and told no phase. -/
def gatehouse : List TableCall :=
  [.registerUnit "hall" (.shared (clerk 1)),
    .registerInterceptor "porter" (.shared (doorman 2)) (.only .request),
    .registerInterceptor "guard" (.shared (doorman 3)) .none,
    .mapUnit "hall" ["/hall/*"],
    .followInterceptor "porter" (.path "/*"),
    .mapInterceptorToUnits "guard" .none false ["*"]]

def gatehouseSnapshot : Snapshot :=
  ⟨afterCalls {} gatehouse, [("hall", clerk 1)],
    [("porter", doorman 2), ("guard", doorman 3)]⟩

/-- The guard stands before the porter around a request, and alone around a call by name. -/
theorem guard_before_porter :
    (afterCalls {} gatehouse).freeze .none {} = (.ok gatehouseSnapshot, {}) ∧
      ((afterCalls {} gatehouse).interceptorMappings.map (·.interceptor) = ["guard", "porter"]) ∧
      ((build gatehouseSnapshot none).interceptorsFor "/hall/a" (some "hall") .request).map
        (·.name) = ["guard", "porter"] ∧
      ((build gatehouseSnapshot none).interceptorsForUnit "hall" .request).map (·.name) =
        ["guard"] := by
  have frozen : (afterCalls {} gatehouse).freeze .none {} = (.ok gatehouseSnapshot, {}) := rfl
  obtain ⟨⟨stored, -⟩, chains, -⟩ := interceptors_run_as_mapped gatehouse frozen none
  obtain ⟨around, byName, -⟩ := chains "/hall/a" "hall" .request
  refine ⟨frozen, ?_, ?_, ?_⟩
  · rw [stored]
    rfl
  · rw [names_of_forall₂ (around.imp fun _ _ stands => stands.name)]
    rfl
  · rw [names_of_forall₂ (byName.imp fun _ _ stands => stands.name)]
    rfl

end RoutingTable

end RequestPipeline
