import Mathlib.Data.List.Forall2
import RequestPipeline.Proofs.Renewal
import RequestPipeline.Proofs.Resolution

/-!
# Constructions at a freeze

When a table freezes, which objects are constructed on the way, also when it does not freeze, and
what stands in the snapshot.  Registrations are looked behind in order, units before interceptors,
and the first one that is refused ends it.
-/

namespace RequestPipeline

/-! ## Looking behind bindings in order -/

/-- What looking behind a binding comes to: a class of which an object is made, none if an object is
held, or a refusal. -/
abbrev Outcome := Except Error (Option String)

namespace Outcome

def isRefused : Outcome → Bool
  | .error _ => true
  | .ok _ => false

def refusal? : Outcome → Option Error
  | .error e => some e
  | .ok _ => none

def construction? : Outcome → Option Event
  | .ok (some className) => some (.constructed className)
  | _ => none

def constructions (outcomes : List Outcome) : List Event :=
  (outcomes.takeWhile (!·.isRefused)).filterMap construction?

def firstRefusal? (outcomes : List Outcome) : Option Error := outcomes.findSome? refusal?

theorem constructions_cons_ok (made : Option String) (rest : List Outcome) :
    constructions (.ok made :: rest) =
      (construction? (.ok made)).toList ++ constructions rest := by
  cases made <;> rfl

/-- What comes later is constructed unless something was refused before. -/
theorem constructions_append (first second : List Outcome) : constructions (first ++ second) =
    constructions first ++ if (firstRefusal? first).isSome then [] else constructions second := by
  induction first with
  | nil => rfl
  | cons outcome rest ih =>
      cases outcome with
      | error e => rfl
      | ok made =>
          have later : firstRefusal? (.ok made :: rest) = firstRefusal? rest := rfl
          rw [List.cons_append, constructions_cons_ok, constructions_cons_ok, ih, later,
            List.append_assoc]

theorem firstRefusal?_append (first second : List Outcome) :
    firstRefusal? (first ++ second) = (firstRefusal? first).or (firstRefusal? second) :=
  List.findSome?_append

end Outcome

namespace Binding

variable {α : Type} {load : String → Except Error (ClassRef α)} {binding : Binding α}

def outcome (load : String → Except Error (ClassRef α)) : Binding α → Outcome
  | .shared _ => .ok none
  | .constructed source => .ok (some source.name)
  | .named className => (load className).map fun source => some source.name

/-- An object stands behind a binding: the one that is held, or one made of the class that is
given, by itself or by a name that is known. -/
inductive Backs (load : String → Except Error (ClassRef α)) : Binding α → Instance α → Prop
  | held (object : Instance α) : Backs load (.shared object) object
  | made (source : ClassRef α) (journal : Journal) :
      Backs load (.constructed source) (construct source journal).1
  | loaded {className : String} {source : ClassRef α} (known : load className = .ok source)
      (journal : Journal) : Backs load (.named className) (construct source journal).1

theorem backs_of_resolve {journal later : Journal} {object : Instance α}
    (resolved : binding.resolve (fun _ => load) journal = (.ok object, later)) :
    binding.Backs load object := by
  cases binding with
  | shared held =>
      cases resolved
      exact .held object
  | constructed source =>
      cases resolved
      exact .made source journal
  | named className =>
      unfold resolve at resolved
      dsimp only at resolved
      split at resolved
      · cases congrArg Prod.fst resolved
      · next source known =>
          cases resolved
          exact .loaded known journal

/-- A binding is looked behind with the outcome that was told. -/
theorem resolve_outcome (load : String → Except Error (ClassRef α)) (binding : Binding α)
    (journal : Journal) :
    (binding.resolve (fun _ => load) journal).2.events =
      journal.events ++ (binding.outcome load).construction?.toList ∧
    ∀ e, (binding.resolve (fun _ => load) journal).1 = .error e ↔
      (binding.outcome load).refusal? = some e := by
  cases binding with
  | shared object => simp [resolve, outcome, Outcome.construction?, Outcome.refusal?]
  | constructed source =>
      simp [resolve, construct, outcome, Outcome.construction?, Outcome.refusal?,
        Journal.events_note]
  | named className =>
      cases known : load className with
      | error e =>
          simp [resolve, outcome, known, Except.map, Outcome.construction?, Outcome.refusal?]
      | ok source =>
          simp [resolve, construct, outcome, known, Except.map, Outcome.construction?,
            Outcome.refusal?, Journal.events_note]

end Binding

namespace RegistrationTable

/-! ## Freezing -/

/-- What looking behind the bindings of a table comes to, with the classes that a loader knows by
now: units before interceptors. -/
def outcomes (table : RegistrationTable) (loader : ClassLoader) (journal : Journal) :
    List Outcome :=
  table.units.map (·.binding.outcome (loader.unit journal)) ++
    table.interceptors.map (·.binding.outcome (loader.interceptor journal))

/-- Bindings are looked behind in order, up to the first refusal. -/
theorem resolveAll_outcomes {α : Type} (load : String → Except Error (ClassRef α))
    (bindings : List (String × Binding α)) (journal : Journal) :
    (resolveAll (fun _ => load) bindings journal).2.events =
      journal.events ++ Outcome.constructions (bindings.map (·.2.outcome load)) ∧
    ∀ e, (resolveAll (fun _ => load) bindings journal).1 = .error e ↔
      Outcome.firstRefusal? (bindings.map (·.2.outcome load)) = some e := by
  induction bindings generalizing journal with
  | nil => simp [resolveAll, Outcome.constructions, Outcome.firstRefusal?]
  | cons head rest ih =>
      obtain ⟨name, binding⟩ := head
      obtain ⟨events, refused⟩ := binding.resolve_outcome load journal
      rw [List.map_cons]
      unfold resolveAll
      cases resolved : binding.resolve (fun _ => load) journal with
      | mk result middle =>
      rw [resolved] at events refused
      cases told : binding.outcome load with
      | error e =>
          rw [told] at events refused
          obtain rfl := (refused e).mpr rfl
          have first :
              Outcome.firstRefusal? (.error e :: rest.map (·.2.outcome load)) = some e := rfl
          refine ⟨events, fun other => ?_⟩
          rw [first]
          simp
      | ok made =>
          rw [told] at events refused
          cases result with
          | error e => cases (refused e).mp rfl
          | ok object =>
              -- the rest starts behind what was constructed for this binding
              obtain ⟨later, refusedLater⟩ := ih middle
              rw [Outcome.constructions_cons_ok, ← List.append_assoc, ← events]
              have first : Outcome.firstRefusal? (.ok made :: rest.map (·.2.outcome load)) =
                  Outcome.firstRefusal? (rest.map (·.2.outcome load)) := rfl
              rw [first]
              dsimp only
              cases others : resolveAll (fun _ => load) rest middle with
              | mk result last =>
              rw [others] at later refusedLater
              cases result with
              | error e => exact ⟨later, refusedLater⟩
              | ok objects =>
                  refine ⟨later, fun e => ?_⟩
                  rw [← refusedLater e]
                  simp

/-- A table all of whose targets are known is looked behind in order, up to the first refusal. -/
theorem freeze_outcomes {table : RegistrationTable} (sound : table.targetFault? = none)
    {loader : ClassLoader} (steady : loader.Steady) (journal : Journal) :
    (table.freeze loader journal).2.events =
      journal.events ++ Outcome.constructions (table.outcomes loader journal) ∧
    ∀ e, (table.freeze loader journal).1 = .error e ↔
      Outcome.firstRefusal? (table.outcomes loader journal) = some e := by
  obtain ⟨unit, interceptor, rfl⟩ := steady.constant
  have units := resolveAll_outcomes unit table.unitBindings journal
  have told : table.outcomes ⟨fun _ => unit, fun _ => interceptor⟩ journal =
      table.unitBindings.map (·.2.outcome unit) ++
        table.interceptorBindings.map (·.2.outcome interceptor) := by
    simp only [outcomes, unitBindings, interceptorBindings, List.map_map]
    rfl
  rw [told, Outcome.constructions_append, Outcome.firstRefusal?_append]
  unfold freeze
  rw [sound]
  dsimp only
  cases found : resolveAll (fun _ => unit) table.unitBindings journal with
  | mk result middle =>
  rw [found] at units
  obtain ⟨events, refused⟩ := units
  cases result with
  | error e =>
      have first := (refused e).mp rfl
      rw [first]
      exact ⟨by simpa using events, by simp⟩
  | ok objects =>
      -- no unit was refused, so it is left to the interceptors whether anything is
      have interceptors := resolveAll_outcomes interceptor table.interceptorBindings middle
      have first : Outcome.firstRefusal? (table.unitBindings.map (·.2.outcome unit)) = none := by
        refine Option.eq_none_iff_forall_ne_some.mpr fun e refusal => ?_
        cases (refused e).mpr refusal
      rw [first]
      dsimp only
      cases others : resolveAll (fun _ => interceptor) table.interceptorBindings middle with
      | mk result last =>
      rw [others] at interceptors
      obtain ⟨later, refusedLater⟩ := interceptors
      have grown : last.events = journal.events ++
          (Outcome.constructions (table.unitBindings.map (·.2.outcome unit)) ++
            Outcome.constructions (table.interceptorBindings.map (·.2.outcome interceptor))) := by
        rw [later, events, List.append_assoc]
      constructor
      · cases result <;> exact grown
      · intro e
        rw [Option.none_or, ← refusedLater e]
        cases result <;> simp

/-- Every mapping leads to what is registered; an interceptor may also be put around every unit. -/
structure TargetsKnown (table : RegistrationTable) : Prop where
  units : ∀ mapping ∈ table.unitMappings, mapping.unit ∈ table.units.map (·.name)
  interceptors : ∀ mapping ∈ table.interceptorMappings,
    mapping.interceptor ∈ table.interceptors.map (·.name)
  around : ∀ mapping ∈ table.interceptorMappings, ∀ unit ∈ mapping.units,
    unit = everyUnit ∨ unit ∈ table.units.map (·.name)

theorem interceptorMappingFault?_eq_none_iff {table : RegistrationTable}
    {mapping : InterceptorMapping} : table.interceptorMappingFault? mapping = none ↔
      mapping.interceptor ∈ table.interceptors.map (·.name) ∧
      ∀ unit ∈ mapping.units, unit = everyUnit ∨ unit ∈ table.units.map (·.name) := by
  have around : (∀ unit ∈ mapping.units, unit = everyUnit ∨ unit ∈ table.units.map (·.name)) ↔
      table.unknownUnit? mapping = none := by
    simp only [unknownUnit?, List.find?_eq_none, ← containsUnit_iff]
    refine forall₂_congr fun unit _ => ?_
    by_cases every : unit = everyUnit <;> simp [every]
  rw [around, ← containsInterceptor_iff]
  unfold interceptorMappingFault?
  cases table.containsInterceptor mapping.interceptor <;> simp

theorem targetsKnown_iff {table : RegistrationTable} :
    table.targetFault? = none ↔ table.TargetsKnown := by
  simp only [targetFault?_eq_none_iff, containsUnit_iff, interceptorMappingFault?_eq_none_iff]
  constructor
  · rintro ⟨units, interceptors⟩
    exact ⟨units, fun mapping member => (interceptors mapping member).1,
      fun mapping member => (interceptors mapping member).2⟩
  · rintro ⟨units, interceptors, around⟩
    exact ⟨units, fun mapping member => ⟨interceptors mapping member, around mapping member⟩⟩

theorem resolveAll_backs {α : Type} {load : String → Except Error (ClassRef α)}
    {bindings : List (String × Binding α)} {journal later : Journal}
    {objects : List (String × Instance α)}
    (resolved : resolveAll (fun _ => load) bindings journal = (.ok objects, later)) :
    List.Forall₂ (fun entry found => entry.1 = found.1 ∧ entry.2.Backs load found.2)
      bindings objects := by
  induction bindings generalizing journal objects with
  | nil =>
      cases resolved
      exact .nil
  | cons head rest ih =>
      obtain ⟨object, middle, others, here, there, rfl⟩ := resolveAll_cons_ok resolved
      exact .cons ⟨rfl, Binding.backs_of_resolve here⟩ (ih there)

/-- With a steady loader, freezing succeeds if and only if every mapping leads to what is registered
and the loader knows every class of which only the name is given.  Nothing is constructed if some mapping leads nowhere.
Otherwise the objects of classes are constructed in the order of their registrations, units before
interceptors, up to the first class that the loader refuses, which is what freezing then ends in.
A snapshot has one object for each registration, in the same order, behind its binding: the one
that is held, or one constructed for this freeze alone.  Thawed, it is the table again, which the
same loader freezes again. -/
theorem freezing_finds_each_object_once (table : RegistrationTable) {loader : ClassLoader}
    (steady : loader.Steady) (journal : Journal) :
    ((∃ snapshot later, table.freeze loader journal = (.ok snapshot, later)) ↔
      table.TargetsKnown ∧
      (∀ record ∈ table.units, record.binding.Resolves (loader.unit journal)) ∧
      (∀ record ∈ table.interceptors,
        record.binding.Resolves (loader.interceptor journal))) ∧
    (¬ table.TargetsKnown → (table.freeze loader journal).2 = journal) ∧
    (table.TargetsKnown →
      (table.freeze loader journal).2.events =
        journal.events ++ Outcome.constructions (table.outcomes loader journal) ∧
      ∀ e, (table.freeze loader journal).1 = .error e ↔
        Outcome.firstRefusal? (table.outcomes loader journal) = some e) ∧
    (∀ snapshot later, table.freeze loader journal = (.ok snapshot, later) →
      List.Forall₂ (fun record found =>
        record.name = found.1 ∧ record.binding.Backs (loader.unit journal) found.2)
          table.units snapshot.units ∧
      List.Forall₂ (fun record found =>
        record.name = found.1 ∧ record.binding.Backs (loader.interceptor journal) found.2)
          table.interceptors snapshot.interceptors ∧
      table.RenewedFrom journal.constructions snapshot ∧
      (RegistrationTable.Grows {} table →
        (snapshot.units.map Prod.fst).Nodup ∧ (snapshot.interceptors.map Prod.fst).Nodup) ∧
      snapshot.thaw = table ∧
      ∀ again, ∃ next last, snapshot.thaw.freeze loader again = (.ok next, last)) := by
  refine ⟨?_, ?_, ?_, ?_⟩
  · rw [freezes_iff table steady, targetsKnown_iff]
  · intro unknown
    rw [← targetsKnown_iff] at unknown
    obtain ⟨e, fault⟩ := Option.ne_none_iff_exists'.mp unknown
    rw [freeze, fault]
  · intro known
    exact freeze_outcomes (targetsKnown_iff.mpr known) steady journal
  · intro snapshot later frozen
    obtain ⟨-, middle, units, interceptors⟩ := freeze_ok frozen
    have thawed : snapshot.thaw = table := table_of_freeze frozen
    have again := freezes_again steady ⟨snapshot, later, frozen⟩
    refine ⟨?_, ?_, (freeze_renews frozen).1, fun grown => ?_, thawed, ?_⟩
    · obtain ⟨unit, interceptor, rfl⟩ := steady.constant
      exact List.forall₂_map_left_iff.mp (resolveAll_backs units)
    · obtain ⟨unit, interceptor, rfl⟩ := steady.constant
      exact List.forall₂_map_left_iff.mp (resolveAll_backs interceptors)
    · obtain ⟨unitNames, interceptorNames⟩ := names_of_freeze frozen
      rw [unitNames, interceptorNames]
      exact ⟨(grown.distinct distinct_empty).units, (grown.distinct distinct_empty).interceptors⟩
    · rw [thawed]
      exact again

def clerks : ClassRef ServiceUnit :=
  ⟨"Clerk", fun _ => { service := fun _ _ => .answer (.text 200 "next") }⟩

def guards : ClassRef Interceptor :=
  ⟨"Guard", fun _ => { intercept := fun _ request => .pass request id }⟩

/-- An office with a desk that is there and two that are not, and a guard. -/
def office : RegistrationTable where
  units := [⟨"door", .shared ⟨.supplied 1, clerks.construct {}⟩⟩, ⟨"till", .constructed clerks⟩,
    ⟨"hall", .named "Clerk"⟩]
  interceptors := [⟨"guard", .named "Guard", { request := true }⟩]
  unitMappings := [⟨"hall", .fallback⟩]
  interceptorMappings := [⟨"guard", { request := true }, [], [everyUnit]⟩]

/-- The desks behind units are set up in order and the guard comes after them.  Without a class of
guards the desks are set up in vain, and if paths lead to a desk that was not registered, none is
set up. -/
theorem office_is_set_up_in_order :
    (∃ snapshot later,
      office.freeze (ClassCatalog.loader ⟨[("Clerk", clerks)], [("Guard", guards)]⟩) {} =
        (.ok snapshot, later) ∧
      later.events = [.constructed "Clerk", .constructed "Clerk", .constructed "Guard"] ∧
      snapshot.units.map (fun unit => (unit.1, unit.2.id)) =
        [("door", .supplied 1), ("till", .constructed 1), ("hall", .constructed 2)] ∧
      (snapshot.units.map Prod.fst).Nodup ∧ snapshot.thaw = office) ∧
    (office.freeze (ClassCatalog.loader ⟨[("Clerk", clerks)], []⟩) {}).2.events =
      [.constructed "Clerk", .constructed "Clerk"] ∧
    (office.freeze (ClassCatalog.loader ⟨[("Clerk", clerks)], []⟩) {}).1 = .error
      (.classResolution "Guard" "no interceptor class registered under this name") ∧
    ({ office with unitMappings := [⟨"attic", .fallback⟩] }.freeze
      (ClassCatalog.loader ⟨[("Clerk", clerks)], [("Guard", guards)]⟩) {}).2 = {} := by
  have known : office.TargetsKnown := by constructor <;> simp [office]
  have grown : RegistrationTable.Grows {} office := by
    have door : registerUnit {} "door" (.shared ⟨.supplied 1, clerks.construct {}⟩) =
        .ok { units := office.units.take 1 } := rfl
    have till : registerUnit { units := office.units.take 1 } "till" (.constructed clerks) =
        .ok { units := office.units.take 2 } := rfl
    have hall : registerUnit { units := office.units.take 2 } "hall" (.named "Clerk") =
        .ok { units := office.units } := rfl
    have guarded : registerInterceptor { units := office.units } "guard" (.named "Guard") {} =
        .ok { units := office.units, interceptors := office.interceptors } := rfl
    have led : mapUnit { units := office.units, interceptors := office.interceptors } "hall"
        ["/"] = .ok { office with interceptorMappings := [] } := rfl
    exact .head (.unit door) (.head (.unit till) (.head (.unit hall)
      (.head (.interceptor guarded) (.head (.mapUnit led)
        (.single (.mapInterceptor ⟨"guard", { request := true }, [], [everyUnit]⟩ true))))))
  refine ⟨?_, ?_, ?_, ?_⟩
  · obtain ⟨succeeds, -, ordered, found⟩ := freezing_finds_each_object_once office
      (ClassCatalog.loader_steady ⟨[("Clerk", clerks)], [("Guard", guards)]⟩) {}
    obtain ⟨snapshot, later, frozen⟩ := succeeds.mpr ⟨known, by
      constructor <;> simp [office, Binding.Resolves, ClassCatalog.loader, ClassCatalog.find?]⟩
    obtain ⟨-, -, -, distinct, thawed, -⟩ := found snapshot later frozen
    refine ⟨snapshot, later, frozen, ?_, ?_, (distinct grown).1, thawed⟩
    · have events := (ordered known).1
      rw [frozen] at events
      exact events
    · cases congrArg Prod.fst frozen
      rfl
  · exact (((freezing_finds_each_object_once office (ClassCatalog.loader_steady _) {}).2.2.1)
      known).1
  · exact ((((freezing_finds_each_object_once office (ClassCatalog.loader_steady _) {}).2.2.1)
      known).2 _).mpr rfl
  · refine (freezing_finds_each_object_once _ (ClassCatalog.loader_steady _) {}).2.1 fun lost => ?_
    simpa [office] using lost.units

end RegistrationTable

end RequestPipeline
