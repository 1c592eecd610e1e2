import Mathlib.Data.List.Perm.Subperm
import RequestPipeline.Proofs.Admission

/-!
# Made-up names

The two calls that make up a name look for the least number that makes it a free one.  Different
numbers make different names and the base itself is taken when a number is looked for, so there is
a free one among as many numbers as there are names; and what is free is accepted.
-/

namespace RequestPipeline

def suffixed (base : String) (number : Nat) : String := base ++ "-" ++ toString number

theorem suffixed_injective (base : String) : Function.Injective (suffixed base) := by
  intro first second same
  have digits := (String.append_right_inj (base ++ "-")).mp same
  rw [Nat.toString_eq_ofList_toDigits, Nat.toString_eq_ofList_toDigits, String.ofList_inj]
    at digits
  have read := congrArg (Nat.ofDigitChars 10 · 0) digits
  simpa using read

theorem ne_suffixed (base : String) (number : Nat) : base ≠ suffixed base number := by
  intro same
  have lengths := congrArg String.length same
  simp only [suffixed, String.length_append] at lengths
  have dash : "-".length = 1 := rfl
  omega

/-- A name made up while some names are taken: the base when it is free, and otherwise the base
with the least number from one on that makes it free.  That number is never more than there are
names. -/
inductive MadeUp (base : String) (names : List String) : String → Prop
  | plain (free : base ∉ names) : MadeUp base names base
  | counted {number : Nat} (taken : base ∈ names) (positive : 1 ≤ number)
      (within : number ≤ names.length) (free : suffixed base number ∉ names)
      (least : ∀ smaller, 1 ≤ smaller → smaller < number → suffixed base smaller ∈ names) :
      MadeUp base names (suffixed base number)

theorem MadeUp.not_mem {base name : String} {names : List String}
    (madeUp : MadeUp base names name) : name ∉ names := by
  cases madeUp with
  | plain free => exact free
  | counted _ _ _ free _ => exact free

/-- The search passes over taken names alone, and stops early only at a free one. -/
theorem firstFree_spec (base : String) (names : List String) (start fuel : Nat) :
    ∃ number, firstFree base names.contains start fuel = suffixed base number ∧
      start ≤ number ∧ number ≤ start + fuel ∧
      (∀ smaller, start ≤ smaller → smaller < number → suffixed base smaller ∈ names) ∧
      (number < start + fuel → suffixed base number ∉ names) := by
  induction fuel generalizing start with
  | zero =>
      refine ⟨start, rfl, Nat.le_refl start, Nat.le_refl start, ?_, ?_⟩
      · intro smaller above below
        omega
      · intro early
        omega
  | succ fuel ih =>
      by_cases taken : suffixed base start ∈ names
      · obtain ⟨number, found, above, below, passed, stopped⟩ := ih (start + 1)
        refine ⟨number, ?_, by omega, by omega, ?_, ?_⟩
        · exact (if_pos (List.contains_iff_mem.mpr taken)).trans found
        · intro smaller least less
          rcases Nat.eq_or_lt_of_le least with rfl | later
          · exact taken
          · exact passed smaller later less
        · intro early
          exact stopped (by omega)
      · refine ⟨start, if_neg (mt List.contains_iff_mem.mp taken), Nat.le_refl start, by omega,
          ?_, fun _ => taken⟩
        intro smaller above below
        omega

/-- A base and all numbered names up to a number are no more than the names among which they are. -/
theorem lt_length_of_suffixed_mem {base : String} {names : List String} {count : Nat}
    (taken : base ∈ names)
    (numbered : ∀ number, 1 ≤ number → number < 1 + count → suffixed base number ∈ names) :
    count < names.length := by
  have distinct : (base :: (List.range' 1 count).map (suffixed base)).Nodup := by
    refine List.nodup_cons.mpr ⟨?_, (List.nodup_range' 1).map (suffixed_injective base)⟩
    intro member
    obtain ⟨number, -, same⟩ := List.mem_map.mp member
    exact ne_suffixed base number same.symm
  have among : base :: (List.range' 1 count).map (suffixed base) ⊆ names := by
    refine List.cons_subset.mpr ⟨taken, ?_⟩
    intro name member
    obtain ⟨number, listed, rfl⟩ := List.mem_map.mp member
    obtain ⟨above, below⟩ := List.mem_range'_1.mp listed
    exact numbered number above below
  have counted := (distinct.subperm among).length_le
  rw [List.length_cons, List.length_map, List.length_range'] at counted
  exact counted

theorem uniqueName_madeUp (base : String) (names : List String) :
    MadeUp base names (uniqueName base names) := by
  by_cases taken : base ∈ names
  · obtain ⟨number, found, positive, below, passed, stopped⟩ :=
      firstFree_spec base names 1 names.length
    have early : number < 1 + names.length := by
      refine Nat.lt_of_le_of_ne below fun last => ?_
      rw [last] at passed
      exact Nat.lt_irrefl _ (lt_length_of_suffixed_mem taken passed)
    rw [uniqueName, if_pos (List.contains_iff_mem.mpr taken), found]
    exact .counted taken positive (by omega) (stopped early) passed
  · rw [uniqueName, if_neg (mt List.contains_iff_mem.mp taken)]
    exact .plain taken

namespace RegistrationTable

/-- The table with a unit registered last and a pattern mapped to it last. -/
def addUnit (table : RegistrationTable) (name : String) (binding : Binding ServiceUnit)
    (pattern : PathPattern) : RegistrationTable :=
  { table with
    units := table.units ++ [⟨name, binding⟩]
    unitMappings := table.unitMappings ++ [⟨name, pattern⟩] }

/-- The table with an interceptor registered last and mapped last, to one pattern. -/
def addInterceptor (table : RegistrationTable) (name : String) (binding : Binding Interceptor)
    (pattern : PathPattern) (phases : Phases) : RegistrationTable :=
  { table with
    interceptors := table.interceptors ++ [⟨name, binding, phases.orDefault⟩]
    interceptorMappings :=
      table.interceptorMappings ++ [⟨name, phases.orDefault, [pattern], []⟩] }

def unitBase (table : RegistrationTable) (binding : Binding ServiceUnit) : String :=
  binding.declaredClass?.getD ("unit-" ++ toString table.units.length)

def interceptorBase (table : RegistrationTable) (binding : Binding Interceptor) : String :=
  binding.declaredClass?.getD ("interceptor-" ++ toString table.interceptors.length)

variable {table : RegistrationTable} {name : String}

theorem registerUnit_of_free (free : name ∉ table.units.map (·.name))
    (binding : Binding ServiceUnit) :
    table.registerUnit name binding =
      .ok { table with units := table.units ++ [⟨name, binding⟩] } :=
  if_neg (mt (table.containsUnit_iff name).mp free)

theorem registerInterceptor_of_free (free : name ∉ table.interceptors.map (·.name))
    (binding : Binding Interceptor) (phases : Phases) :
    table.registerInterceptor name binding phases = .ok { table with
      interceptors := table.interceptors ++ [⟨name, binding, phases.orDefault⟩] } :=
  if_neg (mt (table.containsInterceptor_iff name).mp free)

end RegistrationTable

namespace Context

variable {context : Context} {table : RegistrationTable} {pattern : String} {parsed : PathPattern}

theorem addUnit_of_open (admitted : context.state ∈ registering)
    (opened : context.registrations = .opened table)
    (read : PathPattern.parse pattern = .ok parsed) (binding : Binding ServiceUnit) :
    ∃ name, MadeUp (table.unitBase binding) (table.units.map (·.name)) name ∧
      context.addUnit binding pattern =
        .ok (name, context.withTable (table.addUnit name binding parsed)) := by
  have madeUp := uniqueName_madeUp (table.unitBase binding) (table.units.map (·.name))
  refine ⟨_, madeUp, ?_⟩
  have accepted : context.lifecycle.require "add_unit" registering = .ok () :=
    require_ok_iff.mpr admitted
  have registered := RegistrationTable.registerUnit_of_free madeUp.not_mem binding
  rw [RegistrationTable.unitBase] at registered
  simp only [addUnit, accepted, read, openFor_ok_iff.mpr opened, registered]
  rfl

theorem addInterceptor_of_open (admitted : context.state ∈ registering)
    (opened : context.registrations = .opened table)
    (read : PathPattern.parse pattern = .ok parsed) (binding : Binding Interceptor)
    (phases : Phases) :
    ∃ name, MadeUp (table.interceptorBase binding) (table.interceptors.map (·.name)) name ∧
      context.addInterceptor binding pattern phases =
        .ok (name, context.withTable (table.addInterceptor name binding parsed phases)) := by
  have madeUp :=
    uniqueName_madeUp (table.interceptorBase binding) (table.interceptors.map (·.name))
  refine ⟨_, madeUp, ?_⟩
  have accepted : context.lifecycle.require "add_interceptor" registering = .ok () :=
    require_ok_iff.mpr admitted
  have registered := RegistrationTable.registerInterceptor_of_free madeUp.not_mem binding phases
  rw [RegistrationTable.interceptorBase] at registered
  simp only [addInterceptor, accepted, read, openFor_ok_iff.mpr opened, registered]
  rfl

/-- A refused call that makes up a name was too late, or could not read its pattern. -/
theorem addUnit_error (coherent : context.Coherent) {binding : Binding ServiceUnit} {e : Error}
    (refused : context.addUnit binding pattern = .error e) :
    e = .illegalState "add_unit" context.state ∨ PathPattern.parse pattern = .error e := by
  by_cases admitted : context.state ∈ registering
  · cases read : PathPattern.parse pattern with
    | error fault =>
        rw [addUnit, require_ok_iff.mpr admitted, read] at refused
        exact Or.inr (congrArg Except.error (Except.error.inj refused))
    | ok parsed =>
        obtain ⟨table, opened⟩ := coherent.openFor "add_unit" admitted
        obtain ⟨name, -, added⟩ :=
          addUnit_of_open admitted (openFor_ok_iff.mp opened) read binding
        cases added.symm.trans refused
  · rw [(addUnit_refused_iff coherent binding pattern).mpr admitted] at refused
    exact Or.inl (Except.error.inj refused).symm

theorem addInterceptor_error (coherent : context.Coherent) {binding : Binding Interceptor}
    {phases : Phases} {e : Error}
    (refused : context.addInterceptor binding pattern phases = .error e) :
    e = .illegalState "add_interceptor" context.state ∨ PathPattern.parse pattern = .error e := by
  by_cases admitted : context.state ∈ registering
  · cases read : PathPattern.parse pattern with
    | error fault =>
        rw [addInterceptor, require_ok_iff.mpr admitted, read] at refused
        exact Or.inr (congrArg Except.error (Except.error.inj refused))
    | ok parsed =>
        obtain ⟨table, opened⟩ := coherent.openFor "add_interceptor" admitted
        obtain ⟨name, -, added⟩ :=
          addInterceptor_of_open admitted (openFor_ok_iff.mp opened) read binding phases
        cases added.symm.trans refused
  · rw [(addInterceptor_refused_iff coherent binding pattern phases).mpr admitted] at refused
    exact Or.inl (Except.error.inj refused).symm

end Context

def Error.IsDuplicate (e : Error) : Prop := ∃ kind name, e = .duplicateName kind name

theorem PathPattern.not_isDuplicate_of_parse {text : String} {e : Error}
    (malformed : parse text = .error e) : ¬ e.IsDuplicate := by
  rintro ⟨kind, name, rfl⟩
  unfold parse at malformed
  split at malformed
  · cases malformed
  · cases Except.error.inj malformed

namespace Deployment

/-- After any calls on a new context, whatever each of them gave back: in a state that admits
registrations, a call that makes up a name for a binding and a readable pattern is accepted.  It
gives back a name that none of the same kind has, made up from the declared class or from how many
there are; one registration and one mapping of the pattern are put last under that name, and nothing
else changes.  In no state does such a call complain about a name that is taken. -/
theorem made_up_names_are_accepted {context : Context} (new : context.IsNew) (host : Host)
    (calls : List Call) :
    let reached := runCalls ⟨context, host⟩ calls
    (reached.context.state ∈ [.uninitialized, .starting] →
      ∃ table, reached.context.registrations = .opened table ∧
        (∀ binding pattern parsed, PathPattern.parse pattern = .ok parsed →
          ∃ name, MadeUp (table.unitBase binding) (table.units.map (·.name)) name ∧
            reached.perform (.addUnit binding pattern) = (.ok (.name name),
              { reached with
                context := reached.context.withTable (table.addUnit name binding parsed) })) ∧
        ∀ binding pattern phases parsed, PathPattern.parse pattern = .ok parsed →
          ∃ name,
            MadeUp (table.interceptorBase binding) (table.interceptors.map (·.name)) name ∧
            reached.perform (.addInterceptor binding pattern phases) = (.ok (.name name),
              { reached with
                context := reached.context.withTable
                  (table.addInterceptor name binding parsed phases) })) ∧
    (∀ binding pattern e, (reached.perform (.addUnit binding pattern)).1 = .error e →
      ¬ e.IsDuplicate) ∧
    ∀ binding pattern phases e,
      (reached.perform (.addInterceptor binding pattern phases)).1 = .error e →
      ¬ e.IsDuplicate := by
  intro reached
  have coherent : reached.context.Coherent := runCalls_coherent new.coherent calls
  refine ⟨?_, ?_, ?_⟩
  · intro admitted
    obtain ⟨table, opened⟩ := coherent.openFor "add_unit" admitted
    rw [Context.openFor_ok_iff] at opened
    refine ⟨table, opened, ?_, ?_⟩
    · intro binding pattern parsed read
      obtain ⟨name, madeUp, added⟩ := Context.addUnit_of_open admitted opened read binding
      exact ⟨name, madeUp, congrArg (reached.settleWith Answer.name) added⟩
    · intro binding pattern phases parsed read
      obtain ⟨name, madeUp, added⟩ :=
        Context.addInterceptor_of_open admitted opened read binding phases
      exact ⟨name, madeUp, congrArg (reached.settleWith Answer.name) added⟩
  · intro binding pattern e refused
    rcases Context.addUnit_error coherent (settleWith_refused.mp refused) with late | malformed
    · rintro ⟨kind, name, rfl⟩
      cases late
    · exact PathPattern.not_isDuplicate_of_parse malformed
  · intro binding pattern phases e refused
    rcases Context.addInterceptor_error coherent (settleWith_refused.mp refused) with
      late | malformed
    · rintro ⟨kind, name, rfl⟩
      cases late
    · exact PathPattern.not_isDuplicate_of_parse malformed

def waiter (number : Nat) : Binding ServiceUnit :=
  .shared ⟨.supplied number, { service := fun _ _ => .answer (.text 200 "served") }⟩

/-- Calls that take the names which the third unit and its first variant would get. -/
def squatting : List Call :=
  [.beginStart, .registerUnit "unit-2" (waiter 1) [], .registerUnit "unit-2-1" (waiter 2) []]

/-- A third unit makes do with the second variant. -/
theorem squatted_unit_gets_second_variant :
    let reached := runCalls ⟨.withOptions {}, {}⟩ squatting
    reached.context.state = .starting ∧
      (reached.perform (.addUnit (waiter 3) "/tables/*")).1 = .ok (.name "unit-2-2") := by
  intro reached
  have starting : reached.context.state = .starting := rfl
  refine ⟨starting, ?_⟩
  obtain ⟨accepted, -⟩ :=
    made_up_names_are_accepted (Context.isNew_withOptions {}) {} squatting
  obtain ⟨table, opened, units, -⟩ := accepted (by decide)
  obtain rfl := Registrations.opened.inj opened
  obtain ⟨name, madeUp, performed⟩ := units (waiter 3) "/tables/*" (.subtree "/tables") rfl
  rw [performed]
  cases madeUp with
  | plain free => exact absurd List.mem_cons_self free
  | @counted number taken positive within free least =>
      change number ≤ 2 at within
      rcases Nat.lt_or_ge number 2 with small | large
      · obtain rfl : number = 1 := by omega
        exact absurd (List.mem_cons_of_mem _ List.mem_cons_self) free
      · obtain rfl : number = 2 := by omega
        rfl

end Deployment

end RequestPipeline
