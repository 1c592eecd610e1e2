import RequestPipeline.Proofs.JournalGrowth
import RequestPipeline.Registration.Snapshot

/-!
# Freezing

What freezing a table enters in the journal, constructions and nothing else; when it succeeds; and
what a snapshot takes over from the table.
-/

namespace RequestPipeline

theorem Journal.isMinor_of_isConstruction {event : Event}
    (constructs : isConstruction event = true) : event.isMinor = true := by
  cases event <;> first | rfl | cases constructs

theorem Binding.resolve_constructs {α : Type} (load : Journal → String → Except Error (ClassRef α))
    (binding : Binding α) (journal : Journal) :
    Journal.Adds (Journal.isConstruction · = true) journal (binding.resolve load journal).2 := by
  cases binding with
  | shared object => exact .refl journal
  | constructed source => exact .note journal none rfl
  | named className =>
      simp only [resolve]
      split
      · exact .refl journal
      · exact .note journal none rfl

theorem Binding.resolve_adds {α : Type} (load : Journal → String → Except Error (ClassRef α))
    (binding : Binding α) (journal : Journal) :
    Journal.Adds (·.isMinor = true) journal (binding.resolve load journal).2 :=
  (binding.resolve_constructs load journal).mono fun _ => Journal.isMinor_of_isConstruction

/-- A loader that gives the same answers whatever has happened, as one does that looks classes up in
a catalogue. -/
structure ClassLoader.Steady (loader : ClassLoader) : Prop where
  unit : ∀ journal later, loader.unit journal = loader.unit later
  interceptor : ∀ journal later, loader.interceptor journal = loader.interceptor later

theorem ClassLoader.none_steady : ClassLoader.none.Steady := ⟨fun _ _ => rfl, fun _ _ => rfl⟩

theorem ClassCatalog.loader_steady (catalog : ClassCatalog) : catalog.loader.Steady :=
  ⟨fun _ _ => rfl, fun _ _ => rfl⟩

theorem ClassLoader.Steady.constant {loader : ClassLoader} (steady : loader.Steady) :
    ∃ unit interceptor, loader = ⟨fun _ => unit, fun _ => interceptor⟩ := by
  refine ⟨loader.unit {}, loader.interceptor {}, ?_⟩
  obtain ⟨unit, interceptor⟩ := loader
  rw [ClassLoader.mk.injEq]
  exact ⟨funext fun journal => steady.unit journal {},
    funext fun journal => steady.interceptor journal {}⟩

/-- Whether an object can be found behind a binding: the loader knows the class if only its name
is given. -/
def Binding.Resolves {α : Type} (load : String → Except Error (ClassRef α))
    (binding : Binding α) : Prop :=
  ∀ className, binding = .named className → ∃ source, load className = .ok source

theorem Binding.resolve_ok_iff {α : Type} {load : String → Except Error (ClassRef α)}
    {binding : Binding α} (journal : Journal) :
    (∃ object later, binding.resolve (fun _ => load) journal = (.ok object, later)) ↔
      binding.Resolves load := by
  cases binding with
  | shared object => simp [resolve, Resolves]
  | constructed source => simp [resolve, construct, Resolves]
  | named className =>
      cases found : load className with
      | error e => simp [resolve, Resolves, found]
      | ok source => simp [resolve, construct, Resolves, found]

namespace RegistrationTable

theorem resolveAll_constructs {α : Type} (load : Journal → String → Except Error (ClassRef α))
    (bindings : List (String × Binding α)) (journal : Journal) :
    Journal.Adds (Journal.isConstruction · = true) journal
      (resolveAll load bindings journal).2 := by
  induction bindings generalizing journal with
  | nil => exact .refl journal
  | cons head rest ih =>
      have first := head.2.resolve_constructs load journal
      unfold resolveAll
      split
      · next failed =>
          rw [failed] at first
          exact first
      · next object later resolved =>
          have others := ih later
          rw [resolved] at first
          split
          · next failed =>
              rw [failed] at others
              exact first.trans others
          · next found =>
              rw [found] at others
              exact first.trans others

/-- Freezing constructs objects and does nothing else. -/
theorem freeze_constructs (table : RegistrationTable) (loader : ClassLoader) (journal : Journal) :
    Journal.Adds (Journal.isConstruction · = true) journal (table.freeze loader journal).2 := by
  unfold freeze
  split
  · exact .refl journal
  · have units := resolveAll_constructs loader.unit table.unitBindings journal
    split
    · next failed =>
        rw [failed] at units
        exact units
    · next found later resolved =>
        have interceptors :=
          resolveAll_constructs loader.interceptor table.interceptorBindings later
        rw [resolved] at units
        split
        · next failed =>
            rw [failed] at interceptors
            exact units.trans interceptors
        · next all =>
            rw [all] at interceptors
            exact units.trans interceptors

theorem resolveAll_adds {α : Type} (load : Journal → String → Except Error (ClassRef α))
    (bindings : List (String × Binding α)) (journal : Journal) :
    Journal.Adds (·.isMinor = true) journal (resolveAll load bindings journal).2 :=
  (resolveAll_constructs load bindings journal).mono fun _ => Journal.isMinor_of_isConstruction

theorem freeze_adds (table : RegistrationTable) (loader : ClassLoader) (journal : Journal) :
    Journal.Adds (·.isMinor = true) journal (table.freeze loader journal).2 :=
  (table.freeze_constructs loader journal).mono fun _ => Journal.isMinor_of_isConstruction

/-- A snapshot holds what was found behind the bindings of a table without faults. -/
theorem freeze_ok {table : RegistrationTable} {loader : ClassLoader} {journal later : Journal}
    {snapshot : Snapshot} (frozen : table.freeze loader journal = (.ok snapshot, later)) :
    table.targetFault? = none ∧ ∃ middle,
      resolveAll loader.unit table.unitBindings journal = (.ok snapshot.units, middle) ∧
      resolveAll loader.interceptor table.interceptorBindings middle =
        (.ok snapshot.interceptors, later) := by
  unfold freeze at frozen
  split at frozen
  · cases congrArg Prod.fst frozen
  · next sound =>
      refine ⟨sound, ?_⟩
      split at frozen
      · cases congrArg Prod.fst frozen
      · next units middle resolved =>
          split at frozen
          · cases congrArg Prod.fst frozen
          · next interceptors last found =>
              obtain ⟨same, rfl⟩ := Prod.mk.inj frozen
              rw [← Except.ok.inj same]
              exact ⟨middle, resolved, found⟩

/-- Objects are found behind all bindings if and only if one can be found behind each. -/
theorem resolveAll_ok_iff {α : Type} {load : String → Except Error (ClassRef α)}
    (bindings : List (String × Binding α)) (journal : Journal) :
    (∃ objects later, resolveAll (fun _ => load) bindings journal = (.ok objects, later)) ↔
      ∀ entry ∈ bindings, entry.2.Resolves load := by
  induction bindings generalizing journal with
  | nil => simp [resolveAll]
  | cons head rest ih =>
      obtain ⟨name, binding⟩ := head
      rw [List.forall_mem_cons, ← binding.resolve_ok_iff journal]
      unfold resolveAll
      cases first : binding.resolve (fun _ => load) journal with
      | mk result middle =>
      cases result with
      | error e => simp
      | ok object =>
          rw [← ih middle]
          cases others : resolveAll (fun _ => load) rest middle with
          | mk result last =>
          cases result with
          | error e => simp [others]
          | ok objects => simp [others]

/-- With a steady loader, a table freezes if and only if every mapping leads somewhere and every
binding resolves. -/
theorem freezes_iff (table : RegistrationTable) {loader : ClassLoader} (steady : loader.Steady)
    (journal : Journal) :
    (∃ snapshot later, table.freeze loader journal = (.ok snapshot, later)) ↔
      table.targetFault? = none ∧
      (∀ record ∈ table.units, record.binding.Resolves (loader.unit journal)) ∧
      (∀ record ∈ table.interceptors,
        record.binding.Resolves (loader.interceptor journal)) := by
  obtain ⟨unit, interceptor, rfl⟩ := steady.constant
  dsimp only
  have units : (∀ record ∈ table.units, record.binding.Resolves unit) ↔
      ∀ entry ∈ table.unitBindings, entry.2.Resolves unit := by
    simp [unitBindings]
  have interceptors : (∀ record ∈ table.interceptors, record.binding.Resolves interceptor) ↔
      ∀ entry ∈ table.interceptorBindings, entry.2.Resolves interceptor := by
    simp [interceptorBindings]
  rw [units, interceptors, ← resolveAll_ok_iff table.unitBindings journal]
  unfold freeze
  cases fault : table.targetFault? with
  | some e => simp
  | none =>
      cases found : resolveAll (fun _ => unit) table.unitBindings journal with
      | mk result middle =>
      cases result with
      | error e => simp
      | ok objects =>
          rw [← resolveAll_ok_iff table.interceptorBindings middle]
          cases others : resolveAll (fun _ => interceptor) table.interceptorBindings middle with
          | mk result last =>
          cases result with
          | error e => simp [others]
          | ok more => simp [others]

/-- With a steady loader, a table that froze once freezes at any time. -/
theorem freezes_again {table : RegistrationTable} {loader : ClassLoader}
    (steady : loader.Steady) {journal : Journal}
    (frozen : ∃ snapshot later, table.freeze loader journal = (.ok snapshot, later))
    (start : Journal) : ∃ snapshot later, table.freeze loader start = (.ok snapshot, later) := by
  rw [freezes_iff table steady] at frozen ⊢
  rw [steady.unit start journal, steady.interceptor start journal]
  exact frozen

/-- Objects are found one binding after the other. -/
theorem resolveAll_cons_ok {α : Type} {load : Journal → String → Except Error (ClassRef α)} {name : String}
    {binding : Binding α} {rest : List (String × Binding α)} {journal later : Journal}
    {objects : List (String × Instance α)}
    (resolved : resolveAll load ((name, binding) :: rest) journal = (.ok objects, later)) :
    ∃ object middle others, binding.resolve load journal = (.ok object, middle) ∧
      resolveAll load rest middle = (.ok others, later) ∧ objects = (name, object) :: others := by
  unfold resolveAll at resolved
  split at resolved
  · cases congrArg Prod.fst resolved
  · next object middle here =>
      split at resolved
      · cases congrArg Prod.fst resolved
      · next others last there =>
          obtain ⟨same, rfl⟩ := Prod.mk.inj resolved
          exact ⟨object, middle, others, here, there, (Except.ok.inj same).symm⟩

/-- What was found was found behind the binding of that name, at some point in between. -/
theorem resolveAll_found {α : Type} {load : Journal → String → Except Error (ClassRef α)}
    {bindings : List (String × Binding α)} {journal later : Journal}
    {objects : List (String × Instance α)}
    (resolved : resolveAll load bindings journal = (.ok objects, later)) {name : String}
    {object : Instance α} (member : (name, object) ∈ objects) :
    ∃ binding, (name, binding) ∈ bindings ∧ ∃ before after,
      Journal.Adds (·.isMinor = true) journal before ∧
      binding.resolve load before = (.ok object, after) ∧
      Journal.Adds (·.isMinor = true) after later := by
  induction bindings generalizing journal objects with
  | nil =>
      obtain ⟨same, -⟩ := Prod.mk.inj resolved
      rw [← Except.ok.inj same] at member
      cases member
  | cons head rest ih =>
      obtain ⟨first, binding⟩ := head
      obtain ⟨found, middle, others, here, there, rfl⟩ := resolveAll_cons_ok resolved
      have begun := binding.resolve_adds load journal
      rw [here] at begun
      rcases List.mem_cons.mp member with this | among
      · obtain ⟨rfl, rfl⟩ := Prod.mk.inj this
        have ended := resolveAll_adds load rest middle
        rw [there] at ended
        exact ⟨binding, List.mem_cons_self, journal, middle, .refl journal, here, ended⟩
      · obtain ⟨other, listed, before, after, grown, resolves, ended⟩ := ih there among
        exact ⟨other, List.mem_cons_of_mem _ listed, before, after, begun.trans grown, resolves,
          ended⟩

/-- What was found stands behind the binding of that name. -/
theorem resolve_of_mem_resolveAll {α : Type} {load : Journal → String → Except Error (ClassRef α)}
    {bindings : List (String × Binding α)} {journal later : Journal}
    {objects : List (String × Instance α)}
    (resolved : resolveAll load bindings journal = (.ok objects, later)) {name : String}
    {object : Instance α} (member : (name, object) ∈ objects) :
    ∃ binding, (name, binding) ∈ bindings ∧
      ∃ before after, binding.resolve load before = (.ok object, after) := by
  obtain ⟨binding, listed, before, after, -, resolves, -⟩ := resolveAll_found resolved member
  exact ⟨binding, listed, before, after, resolves⟩

/-- The objects of a snapshot stand under the names of the registrations, in order. -/
theorem names_of_freeze {table : RegistrationTable} {loader : ClassLoader}
    {journal later : Journal} {snapshot : Snapshot}
    (frozen : table.freeze loader journal = (.ok snapshot, later)) :
    snapshot.units.map Prod.fst = table.units.map (·.name) ∧
      snapshot.interceptors.map Prod.fst = table.interceptors.map (·.name) := by
  obtain ⟨-, middle, units, interceptors⟩ := freeze_ok frozen
  constructor
  · rw [names_of_resolveAll units, unitBindings, List.map_map]
    rfl
  · rw [names_of_resolveAll interceptors, interceptorBindings, List.map_map]
    rfl

end RegistrationTable

end RequestPipeline
