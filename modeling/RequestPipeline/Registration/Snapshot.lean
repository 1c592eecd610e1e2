import RequestPipeline.Registration.Table

/-!
# Snapshots

A table is frozen by checking that every mapping leads somewhere and then finding the object
behind every registration. The snapshot keeps the table, so it can be thawed again.
-/

namespace RequestPipeline

/-- A frozen table with the objects behind its registrations. -/
structure Snapshot where
  table : RegistrationTable
  units : List (String × Instance ServiceUnit)
  interceptors : List (String × Instance Interceptor)

namespace RegistrationTable

def unknownUnit? (table : RegistrationTable) (mapping : InterceptorMapping) : Option String :=
  mapping.units.find? fun unit => unit != everyUnit && !table.containsUnit unit

/-- What is wrong with an interceptor mapping: its interceptor is looked for first. -/
def interceptorMappingFault? (table : RegistrationTable) (mapping : InterceptorMapping) :
    Option Error :=
  if !table.containsInterceptor mapping.interceptor then
    some (.configuration
      ("mapping refers to unknown interceptor '" ++ mapping.interceptor ++ "'"))
  else
    (table.unknownUnit? mapping).map fun unit =>
      .configuration ("interceptor '" ++ mapping.interceptor ++ "' is mapped to unknown unit '"
        ++ unit ++ "'")

def unitMappingFault? (table : RegistrationTable) (mapping : UnitMapping) : Option Error :=
  if table.containsUnit mapping.unit then none
  else some (.configuration ("pattern '" ++ mapping.pattern.text ++ "' is mapped to unknown unit '"
    ++ mapping.unit ++ "'"))

/-- The first mapping that leads nowhere: unit mappings come before interceptor mappings. -/
def targetFault? (table : RegistrationTable) : Option Error :=
  table.unitMappings.findSome? table.unitMappingFault?
    <|> table.interceptorMappings.findSome? table.interceptorMappingFault?

/-- Finds the object behind each binding, in order, up to the first that cannot be found. -/
def resolveAll {α : Type} (load : Journal → String → Except Error (ClassRef α)) :
    List (String × Binding α) → Journal → Except Error (List (String × Instance α)) × Journal
  | [], journal => (.ok [], journal)
  | (name, binding) :: rest, journal =>
      match binding.resolve load journal with
      | (.error e, journal) => (.error e, journal)
      | (.ok object, journal) =>
          match resolveAll load rest journal with
          | (.error e, journal) => (.error e, journal)
          | (.ok objects, journal) => (.ok ((name, object) :: objects), journal)

def unitBindings (table : RegistrationTable) : List (String × Binding ServiceUnit) :=
  table.units.map fun record => (record.name, record.binding)

def interceptorBindings (table : RegistrationTable) : List (String × Binding Interceptor) :=
  table.interceptors.map fun record => (record.name, record.binding)

/-- Freezes a table: targets are checked, then units and after them interceptors are resolved. -/
def freeze (table : RegistrationTable) (loader : ClassLoader) (journal : Journal) :
    Except Error Snapshot × Journal :=
  match table.targetFault? with
  | some e => (.error e, journal)
  | none =>
      match resolveAll loader.unit table.unitBindings journal with
      | (.error e, journal) => (.error e, journal)
      | (.ok units, journal) =>
          match resolveAll loader.interceptor table.interceptorBindings journal with
          | (.error e, journal) => (.error e, journal)
          | (.ok interceptors, journal) => (.ok ⟨table, units, interceptors⟩, journal)

theorem names_of_resolveAll {α : Type} {load : Journal → String → Except Error (ClassRef α)}
    {bindings : List (String × Binding α)} {journal later : Journal}
    {objects : List (String × Instance α)}
    (resolved : resolveAll load bindings journal = (.ok objects, later)) :
    objects.map Prod.fst = bindings.map Prod.fst := by
  induction bindings generalizing journal objects later with
  | nil =>
      simp only [resolveAll, Prod.mk.injEq, Except.ok.injEq] at resolved
      simp [← resolved.1]
  | cons head rest ih =>
      obtain ⟨name, binding⟩ := head
      unfold resolveAll at resolved
      split at resolved
      · simp at resolved
      · split at resolved
        · simp at resolved
        · next tail =>
            simp only [Prod.mk.injEq, Except.ok.injEq] at resolved
            simp [← resolved.1, ih tail]

theorem table_of_freeze {table : RegistrationTable} {loader : ClassLoader}
    {journal later : Journal} {snapshot : Snapshot}
    (frozen : table.freeze loader journal = (.ok snapshot, later)) :
    snapshot.table = table := by
  unfold freeze at frozen
  split at frozen
  · simp at frozen
  · split at frozen
    · simp at frozen
    · split at frozen
      · simp at frozen
      · simp only [Prod.mk.injEq, Except.ok.injEq] at frozen
        rw [← frozen.1]

end RegistrationTable

namespace Snapshot

def unit? (snapshot : Snapshot) (name : String) : Option (Instance ServiceUnit) :=
  (snapshot.units.find? (·.1 == name)).map Prod.snd

def interceptor? (snapshot : Snapshot) (name : String) : Option (Instance Interceptor) :=
  (snapshot.interceptors.find? (·.1 == name)).map Prod.snd

def thaw (snapshot : Snapshot) : RegistrationTable := snapshot.table

end Snapshot

end RequestPipeline
