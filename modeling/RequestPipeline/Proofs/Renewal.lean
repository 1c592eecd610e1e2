import RequestPipeline.Proofs.Freezing
import RequestPipeline.Proofs.InitLoops

/-!
# Renewal

Freezing registrations finds an object behind each of them.  A binding that holds an object is
served by that object every time; behind every other binding stands an object constructed for this
freeze alone.  Constructed objects are numbered through, so none of them comes back at a later
freeze.
-/

namespace RequestPipeline

namespace Journal

def constructions (journal : Journal) : Nat := journal.count isConstruction

theorem constructions_note (journal : Journal) (className : String) (line : Option String) :
    (journal.note (.constructed className) line).constructions = journal.constructions + 1 :=
  journal.count_note ..

theorem constructions_of_adds {before after : Journal}
    (adds : Adds (isConstruction · = false) before after) :
    after.constructions = before.constructions := by
  obtain ⟨added, events, none⟩ := adds
  have silent : added.countP isConstruction = 0 :=
    List.countP_eq_zero.mpr fun event member => by simp [none event member]
  rw [constructions, count, events, List.countP_append, silent]
  rfl

end Journal

def Binding.isDeclared {α : Type} (binding : Binding α) : Bool := binding.object?.isNone

/-- Objects behind bindings, after `made` constructions and with `total` of them afterwards.  What a
binding holds is taken; every other binding gets an object of its own, of the next number. -/
inductive Renews {α : Type} :
    Nat → List (String × Binding α) → List (String × Instance α) → Nat → Prop
  | nil (made : Nat) : Renews made [] [] made
  | held {made total : Nat} {bindings : List (String × Binding α)}
      {objects : List (String × Instance α)} (name : String) (object : Instance α)
      (rest : Renews made bindings objects total) :
      Renews made ((name, .shared object) :: bindings) ((name, object) :: objects) total
  | fresh {made total : Nat} {bindings : List (String × Binding α)}
      {objects : List (String × Instance α)} (name : String) {binding : Binding α}
      (declared : binding.isDeclared = true) (body : α)
      (rest : Renews (made + 1) bindings objects total) :
      Renews made ((name, binding) :: bindings)
        ((name, ⟨.constructed (made + 1), body⟩) :: objects) total

/-- There is one construction for each binding that declares a class. -/
theorem Renews.total_eq {α : Type} {made total : Nat} {bindings : List (String × Binding α)}
    {objects : List (String × Instance α)} (renews : Renews made bindings objects total) :
    total = made + bindings.countP (·.2.isDeclared) := by
  induction renews with
  | nil made => rfl
  | held name object rest ih => simpa [Binding.isDeclared, Binding.object?] using ih
  | fresh name declared body rest ih =>
      rw [ih, List.countP_cons, if_pos declared]
      omega

/-- An object serves a binding after `total` constructions, `made` of which were made before: it is
the one that the binding holds, or one of the others. -/
def Binding.ServedBy {α : Type} (binding : Binding α) (made total : Nat) (object : Instance α) :
    Prop :=
  binding = .shared object ∨ binding.isDeclared = true ∧
    ∃ number, object.id = .constructed number ∧ made < number ∧ number ≤ total

theorem Binding.ServedBy.held {α : Type} {made total : Nat} {object other : Instance α}
    (served : (Binding.shared object).ServedBy made total other) : other = object := by
  rcases served with same | ⟨declared, -⟩
  · cases same
    rfl
  · cases declared

theorem Binding.ServedBy.mono {α : Type} {binding : Binding α} {object : Instance α}
    {made total fewer more : Nat} (served : binding.ServedBy made total object)
    (early : fewer ≤ made) (late : total ≤ more) : binding.ServedBy fewer more object := by
  refine served.imp_right ?_
  rintro ⟨declared, number, numbered, after, within⟩
  exact ⟨declared, number, numbered, Nat.lt_of_le_of_lt early after, Nat.le_trans within late⟩

/-- The first binding of a name is served by the first object of that name. -/
theorem Renews.find?_served {α : Type} {made total : Nat} {bindings : List (String × Binding α)}
    {objects : List (String × Instance α)} (renews : Renews made bindings objects total)
    {name : String} {binding : Binding α}
    (bound : bindings.find? (·.1 == name) = some (name, binding)) :
    ∃ object, objects.find? (·.1 == name) = some (name, object) ∧
      binding.ServedBy made total object := by
  induction renews with
  | nil made => cases bound
  | held other object rest ih =>
      rw [List.find?_cons] at bound ⊢
      cases same : other == name with
      | true =>
          simp only [same] at bound ⊢
          cases bound
          exact ⟨object, rfl, Or.inl rfl⟩
      | false =>
          simp only [same] at bound ⊢
          exact ih bound
  | fresh other declared body rest ih =>
      rw [List.find?_cons] at bound ⊢
      cases same : other == name with
      | true =>
          simp only [same] at bound ⊢
          cases bound
          refine ⟨_, rfl, Or.inr ⟨declared, _, rfl, Nat.lt_succ_self _, ?_⟩⟩
          rw [rest.total_eq]
          exact Nat.le_add_right _ _
      | false =>
          simp only [same] at bound ⊢
          obtain ⟨object, found, served⟩ := ih bound
          exact ⟨object, found, served.mono (Nat.le_succ _) (Nat.le_refl _)⟩

theorem Binding.resolve_renews {α : Type} {load : Journal → String → Except Error (ClassRef α)}
    {binding : Binding α} {journal later : Journal} {object : Instance α}
    (found : binding.resolve load journal = (.ok object, later)) :
    (binding = .shared object ∧ later = journal) ∨
      (binding.isDeclared = true ∧ object.id = .constructed (journal.constructions + 1) ∧
        later.constructions = journal.constructions + 1) := by
  cases binding with
  | shared held =>
      cases found
      exact Or.inl ⟨rfl, rfl⟩
  | constructed source =>
      cases found
      exact Or.inr ⟨rfl, rfl, journal.constructions_note ..⟩
  | named className =>
      unfold resolve at found
      dsimp only at found
      split at found
      · cases congrArg Prod.fst found
      · cases found
        exact Or.inr ⟨rfl, rfl, journal.constructions_note ..⟩

namespace RegistrationTable

theorem resolveAll_renews {α : Type} {load : Journal → String → Except Error (ClassRef α)}
    {bindings : List (String × Binding α)} {journal later : Journal}
    {objects : List (String × Instance α)}
    (resolved : resolveAll load bindings journal = (.ok objects, later)) :
    Renews journal.constructions bindings objects later.constructions := by
  induction bindings generalizing journal objects with
  | nil =>
      cases resolved
      exact .nil _
  | cons head rest ih =>
      obtain ⟨name, binding⟩ := head
      obtain ⟨object, middle, others, here, there, rfl⟩ := resolveAll_cons_ok resolved
      have remaining := ih there
      rcases Binding.resolve_renews here with ⟨rfl, rfl⟩ | ⟨declared, numbered, counted⟩
      · exact .held name object remaining
      · obtain ⟨id, body⟩ := object
        obtain rfl : id = _ := numbered
        rw [counted] at remaining
        exact .fresh name declared body remaining

/-- How many bindings of a table declare a class. -/
def declaredBindings (table : RegistrationTable) : Nat :=
  table.unitBindings.countP (·.2.isDeclared) + table.interceptorBindings.countP (·.2.isDeclared)

/-- The objects of a snapshot after `made` constructions: units are found before interceptors. -/
def RenewedFrom (table : RegistrationTable) (made : Nat) (snapshot : Snapshot) : Prop :=
  ∃ middle, Renews made table.unitBindings snapshot.units middle ∧
    Renews middle table.interceptorBindings snapshot.interceptors (made + table.declaredBindings)

/-- Every registered unit is served, by what its binding holds or by an object of its own. -/
theorem RenewedFrom.unit?_served {table : RegistrationTable} {made : Nat} {snapshot : Snapshot}
    (renewed : table.RenewedFrom made snapshot) {name : String} {record : UnitRecord}
    (registered : table.unit? name = some record) :
    ∃ object, snapshot.unit? name = some object ∧
      record.binding.ServedBy made (made + table.declaredBindings) object := by
  obtain ⟨middle, units, interceptors⟩ := renewed
  have named : record.name = name := by simpa using List.find?_some registered
  have bound : table.unitBindings.find? (·.1 == name) = some (name, record.binding) := by
    rw [unitBindings, List.find?_map]
    change Option.map _ (table.unit? name) = _
    rw [registered, Option.map_some, named]
  obtain ⟨object, found, served⟩ := units.find?_served bound
  refine ⟨object, congrArg (Option.map Prod.snd) found, served.mono (Nat.le_refl _) ?_⟩
  rw [interceptors.total_eq]
  exact Nat.le_add_right _ _

/-- Every registered interceptor is served, by what its binding holds or by an object of its own. -/
theorem RenewedFrom.interceptor?_served {table : RegistrationTable} {made : Nat}
    {snapshot : Snapshot} (renewed : table.RenewedFrom made snapshot) {name : String}
    {record : InterceptorRecord} (registered : table.interceptor? name = some record) :
    ∃ object, snapshot.interceptor? name = some object ∧
      record.binding.ServedBy made (made + table.declaredBindings) object := by
  obtain ⟨middle, units, interceptors⟩ := renewed
  have named : record.name = name := by simpa using List.find?_some registered
  have bound : table.interceptorBindings.find? (·.1 == name) = some (name, record.binding) := by
    rw [interceptorBindings, List.find?_map]
    change Option.map _ (table.interceptor? name) = _
    rw [registered, Option.map_some, named]
  obtain ⟨object, found, served⟩ := interceptors.find?_served bound
  refine ⟨object, congrArg (Option.map Prod.snd) found, served.mono ?_ (Nat.le_refl _)⟩
  rw [units.total_eq]
  exact Nat.le_add_right _ _

/-- Freezing constructs one object for each binding that declares a class. -/
theorem freeze_renews {table : RegistrationTable} {loader : ClassLoader}
    {journal later : Journal} {snapshot : Snapshot}
    (frozen : table.freeze loader journal = (.ok snapshot, later)) :
    table.RenewedFrom journal.constructions snapshot ∧
      later.constructions = journal.constructions + table.declaredBindings := by
  obtain ⟨-, middle, units, interceptors⟩ := freeze_ok frozen
  have first := resolveAll_renews units
  have second := resolveAll_renews interceptors
  have total : later.constructions = journal.constructions + table.declaredBindings := by
    rw [second.total_eq, first.total_eq, declaredBindings, Nat.add_assoc]
  rw [total] at second
  exact ⟨⟨_, first, second⟩, total⟩

end RegistrationTable

/-! ## Initialising again -/

/-- Whatever is found behind the bindings from now on can be initialised from then on. -/
def Ready {α : Type} (load : Journal → String → Except Error (ClassRef α))
    (init : α → Journal → String → Except Error Unit) (bindings : List (String × Binding α))
    (journal : Journal) : Prop :=
  ∀ name binding, (name, binding) ∈ bindings → ∀ before object after,
    journal.Continues before → binding.resolve load before = (.ok object, after) →
    ∀ later, after.Continues later → init object.body later name = .ok ()

theorem Ready.continues {α : Type} {load : Journal → String → Except Error (ClassRef α)}
    {init : α → Journal → String → Except Error Unit} {bindings : List (String × Binding α)}
    {journal later : Journal} (ready : Ready load init bindings journal)
    (continues : journal.Continues later) : Ready load init bindings later :=
  fun name binding listed before object after onward =>
    ready name binding listed before object after (continues.trans onward)

/-- What was found behind such bindings is initialised. -/
theorem Ready.init_ok {α : Type} {load : Journal → String → Except Error (ClassRef α)}
    {init : α → Journal → String → Except Error Unit} {bindings : List (String × Binding α)}
    {journal later start : Journal} {objects : List (String × Instance α)}
    (ready : Ready load init bindings journal)
    (resolved : RegistrationTable.resolveAll load bindings journal = (.ok objects, later))
    {entry : String × Instance α} (member : entry ∈ objects) (onward : later.Continues start) :
    init entry.2.body start entry.1 = .ok () := by
  obtain ⟨binding, listed, before, after, grown, found, ended⟩ :=
    RegistrationTable.resolveAll_found resolved member
  exact ready _ binding listed before _ after grown.continues found start
    (ended.continues.trans onward)

theorem Participant.startFrom_succeeds {participants : List Participant} {journal : Journal}
    (willing : ∀ participant ∈ participants, ∀ later, journal.Continues later →
      participant.init later = .ok ()) (done : List Participant) :
    (startFrom done participants journal).1 = .ok () := by
  induction participants generalizing done journal with
  | nil => rfl
  | cons participant rest ih =>
      have begins := willing participant List.mem_cons_self journal (.refl journal)
      unfold startFrom start
      rw [begins]
      refine ih (fun other member later onward => ?_) _
      refine willing other (List.mem_cons_of_mem _ member) later (.trans (.note _ _ ?_) onward)
      trivial

/-- A snapshot of such bindings is initialised as a whole. -/
theorem RoutingTable.initAll_succeeds {table : RegistrationTable} {loader : ClassLoader}
    {journal later start : Journal} {snapshot : Snapshot}
    (frozen : table.freeze loader journal = (.ok snapshot, later))
    (units : Ready loader.unit ServiceUnit.init table.unitBindings journal)
    (interceptors : Ready loader.interceptor Interceptor.init table.interceptorBindings journal)
    {errorUnit : Option (Instance ServiceUnit)}
    (handler : ∀ unit, errorUnit = some unit → ∀ onward, journal.Continues onward →
      unit.body.init onward Participant.errorHandlerName = .ok ())
    (continues : later.Continues start) :
    ((build snapshot errorUnit).initAll start).1 = .ok () := by
  obtain ⟨-, middle, foundUnits, foundInterceptors⟩ := RegistrationTable.freeze_ok frozen
  have toMiddle := RegistrationTable.resolveAll_adds loader.unit table.unitBindings journal
  have toLater :=
    RegistrationTable.resolveAll_adds loader.interceptor table.interceptorBindings middle
  rw [foundUnits] at toMiddle
  rw [foundInterceptors] at toLater
  rw [initAll_eq]
  refine Participant.startFrom_succeeds (fun participant member onward further => ?_) []
  have reached := continues.trans further
  rcases List.mem_append.mp member with registered | given
  · rcases List.mem_append.mp registered with around | inside
    · obtain ⟨entry, listed, rfl⟩ := List.mem_map.mp around
      exact (interceptors.continues toMiddle.continues).init_ok foundInterceptors listed reached
    · obtain ⟨entry, listed, rfl⟩ := List.mem_map.mp inside
      exact units.init_ok foundUnits listed (toLater.continues.trans reached)
  · cases errorUnit with
    | none => cases given
    | some unit =>
        obtain rfl := List.mem_singleton.mp given
        exact handler unit rfl onward
          ((toMiddle.continues.trans toLater.continues).trans reached)

end RequestPipeline
