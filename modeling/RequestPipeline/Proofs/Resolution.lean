import Mathlib.Data.List.Induction
import RequestPipeline.Proofs.Freezing
import RequestPipeline.Proofs.Precedence
import RequestPipeline.Proofs.Serving
import RequestPipeline.Proofs.TableGrowth

/-!
# Resolution of paths

The unit that a path leads to, told from the mappings alone: that of the last mapping of the one
pattern that stands highest among those that accept the path.  The index is a way of finding it, and
the order in which things were registered plays no further part.
-/

namespace RequestPipeline

/-- The unit of the last mapping of a pattern. -/
def lastUnit? (mappings : List UnitMapping) (pattern : PathPattern) : Option String :=
  ((mappings.filter (·.pattern = pattern)).getLast?).map (·.unit)

theorem lastUnit?_append (mappings : List UnitMapping) (mapping : UnitMapping)
    (pattern : PathPattern) : lastUnit? (mappings ++ [mapping]) pattern =
      if mapping.pattern = pattern then some mapping.unit else lastUnit? mappings pattern := by
  by_cases same : mapping.pattern = pattern
  · simp [lastUnit?, List.filter_append, same]
  · simp [lastUnit?, List.filter_append, same]

theorem mem_of_lastUnit? {mappings : List UnitMapping} {pattern : PathPattern} {unit : String}
    (last : lastUnit? mappings pattern = some unit) :
    ∃ mapping ∈ mappings, mapping.pattern = pattern ∧ mapping.unit = unit := by
  obtain ⟨mapping, found, rfl⟩ := Option.map_eq_some_iff.mp last
  obtain ⟨member, same⟩ := List.mem_filter.mp (List.mem_of_getLast? found)
  exact ⟨mapping, member, of_decide_eq_true same, rfl⟩

theorem lastUnit?_of_mem {mappings : List UnitMapping} {mapping : UnitMapping}
    (member : mapping ∈ mappings) : ∃ unit, lastUnit? mappings mapping.pattern = some unit := by
  have among : mapping ∈ mappings.filter (·.pattern = mapping.pattern) :=
    List.mem_filter.mpr ⟨member, decide_eq_true rfl⟩
  cases last : (mappings.filter (·.pattern = mapping.pattern)).getLast? with
  | none =>
      rw [List.getLast?_eq_none_iff.mp last] at among
      cases among
  | some found => exact ⟨found.unit, by rw [lastUnit?, last]; rfl⟩

/-! ## The index -/

namespace RoutingTable

theorem mem_enter {routes : List (PathPattern × String)} {mapping : UnitMapping}
    (distinct : (routes.map Prod.fst).Nodup) {pattern : PathPattern} {unit : String} :
    (pattern, unit) ∈ enter routes mapping ↔
      if mapping.pattern = pattern then unit = mapping.unit else (pattern, unit) ∈ routes := by
  induction routes with
  | nil =>
      by_cases same : mapping.pattern = pattern
      · simp [enter, same]
      · simp [enter, same, Ne.symm same]
  | cons route rest ih =>
      obtain ⟨first, held⟩ := route
      obtain ⟨fresh, others⟩ := List.nodup_cons.mp distinct
      have missing (unit : String) : (first, unit) ∉ rest := fun member =>
        fresh (List.mem_map.mpr ⟨_, member, rfl⟩)
      unfold enter
      by_cases here : first = mapping.pattern
      · rw [if_pos here]
        by_cases same : mapping.pattern = pattern
        · have absent := missing unit
          rw [here, same] at absent
          simp [here, same, absent]
        · have differs : first ≠ pattern := fun first_eq => same (here.symm.trans first_eq)
          simp [same, differs.symm]
      · rw [if_neg here, List.mem_cons, ih others]
        by_cases same : mapping.pattern = pattern
        · have differs : pattern ≠ first := fun same' => here (same'.symm.trans same.symm)
          simp [same, differs]
        · simp [same]

theorem fst_enter (routes : List (PathPattern × String)) (mapping : UnitMapping) :
    (enter routes mapping).map Prod.fst =
      if mapping.pattern ∈ routes.map Prod.fst then routes.map Prod.fst
      else routes.map Prod.fst ++ [mapping.pattern] := by
  induction routes with
  | nil => rfl
  | cons route rest ih =>
      obtain ⟨first, held⟩ := route
      unfold enter
      by_cases here : first = mapping.pattern
      · simp [here]
      · rw [if_neg here, List.map_cons, ih]
        by_cases later : mapping.pattern ∈ rest.map Prod.fst
        · have present : mapping.pattern ∈ ((first, held) :: rest).map Prod.fst :=
            List.mem_cons_of_mem _ later
          rw [if_pos later, if_pos present, List.map_cons]
        · have absent : mapping.pattern ∉ ((first, held) :: rest).map Prod.fst := by
            rintro (_ | ⟨_, member⟩)
            · exact here rfl
            · exact later member
          rw [if_neg later, if_neg absent, List.map_cons, List.cons_append]

/-- The index has one route for each mapped pattern, to the unit of its last mapping. -/
theorem mem_foldl_enter (mappings : List UnitMapping) :
    ((mappings.foldl enter []).map Prod.fst).Nodup ∧ ∀ pattern unit,
      (pattern, unit) ∈ mappings.foldl enter [] ↔ lastUnit? mappings pattern = some unit := by
  induction mappings using List.reverseRecOn with
  | nil => exact ⟨List.nodup_nil, fun pattern unit => by simp [lastUnit?]⟩
  | append_singleton mappings mapping ih =>
      obtain ⟨distinct, routes⟩ := ih
      rw [List.foldl_append, List.foldl_cons, List.foldl_nil]
      constructor
      · rw [fst_enter]
        split
        · exact distinct
        · next absent =>
            refine List.nodup_append.mpr ⟨distinct, List.nodup_singleton _, ?_⟩
            intro old member new only same
            rw [List.mem_singleton.mp only] at same
            exact absent (same ▸ member)
      · intro pattern unit
        rw [mem_enter distinct, lastUnit?_append]
        by_cases same : mapping.pattern = pattern
        · rw [if_pos same, if_pos same, Option.some.injEq]
          exact eq_comm
        · rw [if_neg same, if_neg same]
          exact routes pattern unit

/-- Of several routes, one is kept that none of them outranks. -/
theorem foldl_prefer (first : PathPattern × String) (others : List (PathPattern × String)) :
    others.foldl prefer first ∈ first :: others ∧
      ∀ route ∈ first :: others, ¬ route.1.Outranks (others.foldl prefer first).1 := by
  induction others generalizing first with
  | nil =>
      refine ⟨List.mem_cons_self, ?_⟩
      intro route member
      rw [List.mem_singleton.mp member]
      exact first.1.not_outranks_self
  | cons next rest ih =>
      obtain ⟨member, highest⟩ := ih (prefer first next)
      rw [List.foldl_cons]
      by_cases outranks : first.1.Outranks next.1
      · have kept : prefer first next = first :=
          if_pos ((PathPattern.precedence_eq_gt_iff _ _).mpr outranks)
        rw [kept] at member highest ⊢
        constructor
        · rcases List.mem_cons.mp member with same | later
          · rw [same]
            exact List.mem_cons_self
          · exact List.mem_cons_of_mem _ (List.mem_cons_of_mem _ later)
        · intro route among
          rcases List.mem_cons.mp among with rfl | among
          · exact highest _ List.mem_cons_self
          · rcases List.mem_cons.mp among with rfl | later
            · exact fun above => highest first List.mem_cons_self (outranks.trans above)
            · exact highest route (List.mem_cons_of_mem _ later)
      · have taken : prefer first next = next :=
          if_neg fun gt => outranks ((PathPattern.precedence_eq_gt_iff _ _).mp gt)
        rw [taken] at member highest ⊢
        constructor
        · exact List.mem_cons_of_mem _ member
        · intro route among
          rcases List.mem_cons.mp among with rfl | among
          · exact PathPattern.not_outranks_trans outranks (highest next List.mem_cons_self)
          · exact highest route among

theorem bestRoute?_spec {routes : List (PathPattern × String)} {path : String}
    {best : PathPattern × String} (found : bestRoute? routes path = some best) :
    best ∈ routes ∧ best.1.accepts path = true ∧
      ∀ route ∈ routes, route.1.accepts path = true → ¬ route.1.Outranks best.1 := by
  unfold bestRoute? at found
  split at found
  · cases found
  · next first others filtered =>
      obtain ⟨member, highest⟩ := foldl_prefer first others
      rw [← Option.some.inj found]
      rw [← filtered] at member highest
      obtain ⟨among, accepts⟩ := List.mem_filter.mp member
      refine ⟨among, accepts, ?_⟩
      intro route listed accepted
      exact highest route (List.mem_filter.mpr ⟨listed, accepted⟩)

end RoutingTable

/-! ## What the mappings say -/

namespace RegistrationTable

/-- A pattern stands highest for a path: it is mapped and accepts the path, and no other mapped
pattern that accepts it outranks it. -/
structure Leads (table : RegistrationTable) (path : String) (pattern : PathPattern) : Prop where
  mapped : ∃ mapping ∈ table.unitMappings, mapping.pattern = pattern
  accepts : pattern.accepts path = true
  highest : ∀ mapping ∈ table.unitMappings, mapping.pattern.accepts path = true →
    ¬ mapping.pattern.Outranks pattern

theorem Leads.unique {table : RegistrationTable} (legible : table.Legible) {path : String}
    {a b : PathPattern} (first : table.Leads path a) (second : table.Leads path b) : a = b := by
  obtain ⟨here, mappedHere, rfl⟩ := first.mapped
  obtain ⟨there, mappedThere, rfl⟩ := second.mapped
  exact PathPattern.eq_of_tie (legible here mappedHere) (legible there mappedThere)
    first.accepts second.accepts (second.highest here mappedHere first.accepts)
    (first.highest there mappedThere second.accepts)

/-- Units and the mappings of different patterns may stand in another order. -/
structure Reordered (table other : RegistrationTable) : Prop where
  units : other.units.Perm table.units
  unitMappings : ∀ pattern, other.unitMappings.filter (·.pattern = pattern) =
    table.unitMappings.filter (·.pattern = pattern)
  interceptors : other.interceptors = table.interceptors
  interceptorMappings : other.interceptorMappings = table.interceptorMappings

theorem targetFault?_eq_none_iff {table : RegistrationTable} : table.targetFault? = none ↔
    (∀ mapping ∈ table.unitMappings, table.containsUnit mapping.unit = true) ∧
      ∀ mapping ∈ table.interceptorMappings, table.interceptorMappingFault? mapping = none := by
  simp only [targetFault?, Option.orElse_eq_orElse, Option.orElse_eq_or, Option.or_eq_none_iff,
    List.findSome?_eq_none_iff]
  constructor
  · rintro ⟨units, interceptors⟩
    refine ⟨fun mapping member => ?_, interceptors⟩
    have sound := units mapping member
    unfold unitMappingFault? at sound
    split at sound
    · assumption
    · cases sound
  · rintro ⟨units, interceptors⟩
    refine ⟨fun mapping member => ?_, interceptors⟩
    exact if_pos (units mapping member)

namespace Reordered

variable {table other : RegistrationTable}

theorem mem_unitMappings (reordered : table.Reordered other) (mapping : UnitMapping) :
    mapping ∈ other.unitMappings ↔ mapping ∈ table.unitMappings := by
  have same := reordered.unitMappings mapping.pattern
  constructor
  · intro member
    have among : mapping ∈ other.unitMappings.filter (·.pattern = mapping.pattern) :=
      List.mem_filter.mpr ⟨member, decide_eq_true rfl⟩
    rw [same] at among
    exact (List.mem_filter.mp among).1
  · intro member
    have among : mapping ∈ table.unitMappings.filter (·.pattern = mapping.pattern) :=
      List.mem_filter.mpr ⟨member, decide_eq_true rfl⟩
    rw [← same] at among
    exact (List.mem_filter.mp among).1

theorem containsUnit (reordered : table.Reordered other) (name : String) :
    other.containsUnit name = table.containsUnit name := by
  rw [Bool.eq_iff_iff, containsUnit_iff, containsUnit_iff]
  exact (reordered.units.map _).mem_iff

theorem lastUnit? (reordered : table.Reordered other) (pattern : PathPattern) :
    lastUnit? other.unitMappings pattern = lastUnit? table.unitMappings pattern := by
  rw [RequestPipeline.lastUnit?, reordered.unitMappings pattern]
  rfl

theorem leads (reordered : table.Reordered other) {path : String} {pattern : PathPattern}
    (leads : other.Leads path pattern) : table.Leads path pattern := by
  obtain ⟨mapping, member, same⟩ := leads.mapped
  refine ⟨⟨mapping, (reordered.mem_unitMappings mapping).mp member, same⟩, leads.accepts, ?_⟩
  intro mapping member
  exact leads.highest mapping ((reordered.mem_unitMappings mapping).mpr member)

theorem targetFault? (reordered : table.Reordered other) (sound : table.targetFault? = none) :
    other.targetFault? = none := by
  obtain ⟨units, interceptors⟩ := targetFault?_eq_none_iff.mp sound
  refine targetFault?_eq_none_iff.mpr ⟨?_, ?_⟩
  · intro mapping member
    rw [reordered.containsUnit]
    exact units mapping ((reordered.mem_unitMappings mapping).mp member)
  · intro mapping member
    rw [reordered.interceptorMappings] at member
    have known : other.containsUnit = table.containsUnit := funext reordered.containsUnit
    have same :
        other.interceptorMappingFault? mapping = table.interceptorMappingFault? mapping := by
      unfold interceptorMappingFault? unknownUnit? containsInterceptor interceptor?
      rw [reordered.interceptors, known]
    rw [same]
    exact interceptors mapping member

/-- A table that freezes does so in any order. -/
theorem freezes (reordered : table.Reordered other) {loader : ClassLoader}
    (steady : loader.Steady) {journal : Journal}
    (frozen : ∃ snapshot later, table.freeze loader journal = (.ok snapshot, later))
    (start : Journal) : ∃ snapshot later, other.freeze loader start = (.ok snapshot, later) := by
  obtain ⟨sound, units, interceptors⟩ :=
    (table.freezes_iff steady start).mp (freezes_again steady frozen start)
  refine (other.freezes_iff steady start).mpr ⟨reordered.targetFault? sound, ?_, ?_⟩
  · exact fun record member => units record (reordered.units.mem_iff.mp member)
  · rw [reordered.interceptors]
    exact interceptors

end Reordered

end RegistrationTable

namespace RoutingTable

open RegistrationTable

variable {table : RegistrationTable} {loader : ClassLoader} {journal later : Journal}
  {snapshot : Snapshot}

/-- Every unit that is registered has an object in the snapshot. -/
theorem unit?_of_registered (frozen : table.freeze loader journal = (.ok snapshot, later))
    {unit : String} (registered : table.containsUnit unit = true) :
    ∃ object, snapshot.unit? unit = some object := by
  rw [containsUnit_iff, ← (names_of_freeze frozen).1] at registered
  exact Snapshot.unit?_of_listed registered

/-- The snapshot has the units that are registered and no others. -/
theorem unit?_isSome (frozen : table.freeze loader journal = (.ok snapshot, later))
    (name : String) : (snapshot.unit? name).isSome = table.containsUnit name := by
  cases registered : table.containsUnit name with
  | true =>
      obtain ⟨object, found⟩ := unit?_of_registered frozen registered
      rw [found]
      rfl
  | false =>
      cases found : snapshot.unit? name with
      | none => rfl
      | some object =>
          have listed : name ∈ snapshot.units.map Prod.fst :=
            List.mem_map.mpr ⟨_, Snapshot.mem_units found, rfl⟩
          rw [(names_of_freeze frozen).1, ← containsUnit_iff, registered] at listed
          cases listed

/-- Every unit that is mapped has an object in the snapshot. -/
theorem unit?_of_mapped (frozen : table.freeze loader journal = (.ok snapshot, later))
    {mapping : UnitMapping} (member : mapping ∈ table.unitMappings) :
    ∃ object, snapshot.unit? mapping.unit = some object := by
  obtain ⟨sound, -⟩ := freeze_ok frozen
  exact unit?_of_registered frozen ((targetFault?_eq_none_iff.mp sound).1 mapping member)

theorem mem_routes (frozen : table.freeze loader journal = (.ok snapshot, later))
    (errorUnit : Option (Instance ServiceUnit)) (pattern : PathPattern) (unit : String) :
    (pattern, unit) ∈ (build snapshot errorUnit).routes ↔
      lastUnit? table.unitMappings pattern = some unit := by
  rw [build, table_of_freeze frozen]
  exact (mem_foldl_enter table.unitMappings).2 pattern unit

theorem resolve?_eq_none_iff (frozen : table.freeze loader journal = (.ok snapshot, later))
    (errorUnit : Option (Instance ServiceUnit)) (path : String) :
    (build snapshot errorUnit).resolve? path = none ↔
      ∀ mapping ∈ table.unitMappings, mapping.pattern.accepts path = false := by
  have routes := mem_routes frozen errorUnit
  constructor
  · intro unresolved mapping member
    obtain ⟨unit, last⟩ := lastUnit?_of_mem member
    have listed := (routes mapping.pattern unit).mpr last
    cases best : bestRoute? (build snapshot errorUnit).routes path with
    | none => exact bestRoute?_eq_none.mp best _ listed
    | some route =>
        obtain ⟨mapped, among, -, same⟩ := mem_of_lastUnit?
          ((routes route.1 route.2).mp (bestRoute?_spec best).1)
        obtain ⟨object, found⟩ := unit?_of_mapped frozen among
        rw [same] at found
        simp only [resolve?, best] at unresolved
        rw [show (build snapshot errorUnit).snapshot.unit? route.2 = some object from found]
          at unresolved
        cases unresolved
  · intro refused
    have none : bestRoute? (build snapshot errorUnit).routes path = none := by
      refine bestRoute?_eq_none.mpr ?_
      intro route listed
      obtain ⟨mapping, member, same, -⟩ := mem_of_lastUnit? ((routes route.1 route.2).mp listed)
      rw [← same]
      exact refused mapping member
    rw [resolve?, none]

/-- What a path resolves to is the unit of the last mapping of the pattern that stands highest. -/
theorem resolve?_eq_some (frozen : table.freeze loader journal = (.ok snapshot, later))
    {errorUnit : Option (Instance ServiceUnit)} {path : String} {named : Named ServiceUnit}
    (resolved : (build snapshot errorUnit).resolve? path = some named) :
    ∃ best, table.Leads path best ∧ lastUnit? table.unitMappings best = some named.name ∧
      (named.name, named.object) ∈ snapshot.units := by
  have routes := mem_routes frozen errorUnit
  unfold resolve? at resolved
  split at resolved
  · cases resolved
  · next pattern unit best =>
      obtain ⟨object, found, rfl⟩ := Option.map_eq_some_iff.mp resolved
      obtain ⟨listed, accepts, highest⟩ := bestRoute?_spec best
      have last := (routes pattern unit).mp listed
      obtain ⟨mapping, member, same, -⟩ := mem_of_lastUnit? last
      refine ⟨pattern, ⟨⟨mapping, member, same⟩, accepts, ?_⟩, last, Snapshot.mem_units found⟩
      intro other among accepted
      obtain ⟨otherUnit, otherLast⟩ := lastUnit?_of_mem among
      exact highest _ ((routes other.pattern otherUnit).mpr otherLast) accepted

/-- No two units of a snapshot share a name. -/
theorem nodup_units (grown : RegistrationTable.Grows {} table)
    (frozen : table.freeze loader journal = (.ok snapshot, later)) :
    (snapshot.units.map Prod.fst).Nodup := by
  rw [(names_of_freeze frozen).1]
  exact (grown.distinct distinct_empty).units

/-- A path that some mapped pattern accepts leads to the object that was found behind a unit. -/
theorem resolves_of_accepts (grown : RegistrationTable.Grows {} table)
    (frozen : table.freeze loader journal = (.ok snapshot, later))
    (errorUnit : Option (Instance ServiceUnit)) {path : String} {mapping : UnitMapping}
    (member : mapping ∈ table.unitMappings) (accepts : mapping.pattern.accepts path = true) :
    ∃ best, table.Leads path best ∧ ∃ unit object,
      lastUnit? table.unitMappings best = some unit ∧
      (∀ other, (unit, other) ∈ snapshot.units ↔ other = object) ∧
      (∃ record ∈ table.units, record.name = unit ∧
        ∃ before after, record.binding.resolve loader.unit before = (.ok object, after)) ∧
      (build snapshot errorUnit).resolve? path = some ⟨unit, object⟩ := by
  cases resolved : (build snapshot errorUnit).resolve? path with
  | none =>
      have refused := (resolve?_eq_none_iff frozen errorUnit path).mp resolved mapping member
      rw [accepts] at refused
      cases refused
  | some named =>
      obtain ⟨best, leads, last, listed⟩ := resolve?_eq_some frozen resolved
      obtain ⟨-, middle, units, -⟩ := freeze_ok frozen
      obtain ⟨binding, bound, resolves⟩ := resolve_of_mem_resolveAll units listed
      obtain ⟨record, among, same⟩ := List.mem_map.mp bound
      obtain ⟨name_eq, rfl⟩ := Prod.mk.inj same
      have only (other : Instance ServiceUnit) :
          (named.name, other) ∈ snapshot.units ↔ other = named.object := by
        constructor
        · intro here
          have distinct := nodup_units grown frozen
          exact congrArg Prod.snd (List.inj_on_of_nodup_map distinct here listed rfl)
        · intro same
          rw [same]
          exact listed
      exact ⟨best, leads, named.name, named.object, last, only,
        ⟨record, among, name_eq, resolves⟩, rfl⟩

/-- In another order, a path leads to the unit of the same name. -/
theorem name_of_reordered {other : RegistrationTable} {reshot : Snapshot} {start after : Journal}
    (legible : table.Legible) (reordered : table.Reordered other)
    (frozen : table.freeze loader journal = (.ok snapshot, later))
    (refrozen : other.freeze loader start = (.ok reshot, after))
    (errorUnit handler : Option (Instance ServiceUnit)) (path : String) :
    ((build reshot handler).resolve? path).map (·.name) =
      ((build snapshot errorUnit).resolve? path).map (·.name) := by
  cases resolved : (build snapshot errorUnit).resolve? path with
  | none =>
      have refused := (resolve?_eq_none_iff frozen errorUnit path).mp resolved
      have unresolved : (build reshot handler).resolve? path = none := by
        refine (resolve?_eq_none_iff refrozen handler path).mpr ?_
        intro mapping member
        exact refused mapping ((reordered.mem_unitMappings mapping).mp member)
      rw [unresolved]
  | some named =>
      obtain ⟨best, leads, last, -⟩ := resolve?_eq_some frozen resolved
      cases again : (build reshot handler).resolve? path with
      | none =>
          obtain ⟨mapping, member, rfl⟩ := leads.mapped
          have refused := (resolve?_eq_none_iff refrozen handler path).mp again mapping
            ((reordered.mem_unitMappings mapping).mpr member)
          rw [leads.accepts] at refused
          cases refused
      | some renamed =>
          obtain ⟨found, foundLeads, foundLast, -⟩ := resolve?_eq_some refrozen again
          have same : found = best := (reordered.leads foundLeads).unique legible leads
          rw [same, reordered.lastUnit?, last] at foundLast
          exact foundLast.symm

/-- Every path of a table that freezes resolves by the mappings alone.  It leads nowhere if and
only if no mapped pattern accepts it.  Otherwise one mapped pattern stands highest for it, and it
leads to the unit of the last mapping of that pattern, with the object found behind the unit.  The
order of units, and of mappings of different patterns, plays no part: in any other order the table
freezes as well, as long as classes are found as before, and leads to units of the same names. -/
theorem resolution_by_mappings (grown : RegistrationTable.Grows {} table)
    (frozen : table.freeze loader journal = (.ok snapshot, later))
    (errorUnit : Option (Instance ServiceUnit)) :
    (∀ path, (build snapshot errorUnit).resolve? path = none ↔
      ∀ mapping ∈ table.unitMappings, mapping.pattern.accepts path = false) ∧
    (∀ path, (∃ mapping ∈ table.unitMappings, mapping.pattern.accepts path = true) →
      ∃ best, (∀ pattern, table.Leads path pattern ↔ pattern = best) ∧
        ∃ unit object, lastUnit? table.unitMappings best = some unit ∧
          (∀ other, (unit, other) ∈ snapshot.units ↔ other = object) ∧
          (∃ record ∈ table.units, record.name = unit ∧
            ∃ before after, record.binding.resolve loader.unit before = (.ok object, after)) ∧
          (build snapshot errorUnit).resolve? path = some ⟨unit, object⟩) ∧
    (∀ other, table.Reordered other → ∀ start,
      (loader.Steady → ∃ reshot after, other.freeze loader start = (.ok reshot, after)) ∧
      ∀ reshot after, other.freeze loader start = (.ok reshot, after) →
        ∀ handler path, ((build reshot handler).resolve? path).map (·.name) =
          ((build snapshot errorUnit).resolve? path).map (·.name)) := by
  have legible : table.Legible := grown.legible legible_empty
  refine ⟨resolve?_eq_none_iff frozen errorUnit, ?_, ?_⟩
  · rintro path ⟨mapping, member, accepts⟩
    obtain ⟨best, leads, target⟩ := resolves_of_accepts grown frozen errorUnit member accepts
    refine ⟨best, fun pattern => ?_, target⟩
    constructor
    · exact fun other => other.unique legible leads
    · intro same
      rw [same]
      exact leads
  · intro other reordered start
    refine ⟨fun steady => reordered.freezes steady ⟨snapshot, later, frozen⟩ start, ?_⟩
    intro reshot after refrozen
    exact name_of_reordered legible reordered frozen refrozen errorUnit

def clerk (number : Nat) : Instance ServiceUnit :=
  ⟨.supplied number, { service := fun _ _ => .answer (.text 200 "next") }⟩

/-- A unit for all paths and for pages, and one for a subtree, which moved from another place. -/
def counters : RegistrationTable where
  units := [⟨"hall", .shared (clerk 1)⟩, ⟨"till", .shared (clerk 2)⟩]
  unitMappings := [⟨"hall", .fallback⟩, ⟨"hall", .extension "html"⟩, ⟨"hall", .subtree "/till"⟩,
    ⟨"till", .subtree "/till"⟩]

def countersSnapshot : Snapshot :=
  ⟨counters, [("hall", clerk 1), ("till", clerk 2)], []⟩

/-- The same counters, with units and different patterns the other way round. -/
def swappedCounters : RegistrationTable where
  units := [⟨"till", .shared (clerk 2)⟩, ⟨"hall", .shared (clerk 1)⟩]
  unitMappings := [⟨"hall", .subtree "/till"⟩, ⟨"till", .subtree "/till"⟩,
    ⟨"hall", .extension "html"⟩, ⟨"hall", .fallback⟩]

/-- A page below the subtree is accepted by all three patterns and leads to the unit that the
subtree was mapped to last, also with everything the other way round. -/
theorem page_below_till :
    RegistrationTable.Grows {} counters ∧
      counters.freeze .none {} = (.ok countersSnapshot, {}) ∧
      (∃ best, (∀ pattern, counters.Leads "/till/a.html" pattern ↔ pattern = best) ∧
        lastUnit? counters.unitMappings best = some "till") ∧
      ∃ reshot after, swappedCounters.freeze .none {} = (.ok reshot, after) ∧
        ((build reshot none).resolve? "/till/a.html").map (·.name) = some "till" := by
  have grown : RegistrationTable.Grows {} counters := by
    have hall : RegistrationTable.registerUnit {} "hall" (.shared (clerk 1)) =
        .ok { units := [⟨"hall", .shared (clerk 1)⟩] } := rfl
    have till : RegistrationTable.registerUnit { units := [⟨"hall", .shared (clerk 1)⟩] } "till"
        (.shared (clerk 2)) = .ok { units := counters.units } := rfl
    have spread : RegistrationTable.mapUnit { units := counters.units } "hall"
        ["/", "*.html", "/till/*"] =
          .ok { units := counters.units, unitMappings := counters.unitMappings.take 3 } := rfl
    have moved : RegistrationTable.mapUnit
        { units := counters.units, unitMappings := counters.unitMappings.take 3 } "till"
        ["/till/*"] = .ok counters := rfl
    exact .head (.unit hall) (.head (.unit till)
      (.head (.mapUnit spread) (.single (.mapUnit moved))))
  have frozen : counters.freeze .none {} = (.ok countersSnapshot, {}) := rfl
  have here : (build countersSnapshot none).resolve? "/till/a.html" = some ⟨"till", clerk 2⟩ := rfl
  have swapped : counters.Reordered swappedCounters := by
    refine ⟨.swap _ _ _, fun pattern => ?_, rfl, rfl⟩
    by_cases all : PathPattern.fallback = pattern
    · rw [← all]
      rfl
    by_cases page : PathPattern.extension "html" = pattern
    · rw [← page]
      rfl
    by_cases below : PathPattern.subtree "/till" = pattern
    · rw [← below]
      rfl
    · simp [swappedCounters, counters, all, page, below]
  obtain ⟨-, leads, reordered⟩ := resolution_by_mappings grown frozen none
  obtain ⟨best, only, unit, object, last, -, -, found⟩ :=
    leads "/till/a.html" ⟨⟨"hall", .fallback⟩, List.mem_cons_self, rfl⟩
  refine ⟨grown, frozen, ⟨best, only, ?_⟩, ?_⟩
  · rw [here] at found
    cases found
    exact last
  · obtain ⟨freezes, same⟩ := reordered swappedCounters swapped {}
    obtain ⟨reshot, after, refrozen⟩ := freezes ClassLoader.none_steady
    refine ⟨reshot, after, refrozen, ?_⟩
    rw [same reshot after refrozen none, here]
    rfl

end RoutingTable

end RequestPipeline
