import Mathlib.Data.List.Nodup
import Mathlib.Logic.Relation
import RequestPipeline.Context.Registering
import RequestPipeline.Proofs.JournalGrowth

/-!
# How a registration table grows

Every route by which something is registered, be it the facade, a handle, a startup hook or a call
that makes up a name, is a sequence of four steps on the table.  Names stay distinct under them,
and a mapped pattern is always one that was read from a text.
-/

namespace RequestPipeline

namespace RegistrationTable

inductive Step (table : RegistrationTable) : RegistrationTable → Prop
  | unit {name : String} {binding : Binding ServiceUnit} {grown : RegistrationTable}
      (registered : table.registerUnit name binding = .ok grown) : Step table grown
  | interceptor {name : String} {binding : Binding Interceptor} {phases : Phases}
      {grown : RegistrationTable}
      (registered : table.registerInterceptor name binding phases = .ok grown) : Step table grown
  | mapUnit {name : String} {patterns : List String} {grown : RegistrationTable}
      (mapped : table.mapUnit name patterns = .ok grown) : Step table grown
  | mapInterceptor (mapping : InterceptorMapping) (after : Bool) :
      Step table (table.mapInterceptor mapping after)

/-- Any number of registrations and mappings. -/
abbrev Grows : RegistrationTable → RegistrationTable → Prop := Relation.ReflTransGen Step

/-- No two units and no two interceptors share a name. -/
structure Distinct (table : RegistrationTable) : Prop where
  units : (table.units.map (·.name)).Nodup
  interceptors : (table.interceptors.map (·.name)).Nodup

/-- Every mapped pattern was read from a text. -/
def Legible (table : RegistrationTable) : Prop :=
  ∀ mapping ∈ table.unitMappings, ∃ text, PathPattern.parse text = .ok mapping.pattern

/-! ## Lookups by name -/

theorem containsUnit_iff (table : RegistrationTable) (name : String) :
    table.containsUnit name = true ↔ name ∈ table.units.map (·.name) := by
  simp [containsUnit, unit?]

theorem containsInterceptor_iff (table : RegistrationTable) (name : String) :
    table.containsInterceptor name = true ↔ name ∈ table.interceptors.map (·.name) := by
  simp [containsInterceptor, interceptor?]

/-! ## The four steps -/

theorem registerUnit_ok {table grown : RegistrationTable} {name : String}
    {binding : Binding ServiceUnit} (registered : table.registerUnit name binding = .ok grown) :
    name ∉ table.units.map (·.name) ∧
      grown = { table with units := table.units ++ [⟨name, binding⟩] } := by
  unfold registerUnit at registered
  split at registered
  · cases registered
  · next free =>
      rw [containsUnit_iff] at free
      exact ⟨free, (Except.ok.inj registered).symm⟩

theorem registerInterceptor_ok {table grown : RegistrationTable} {name : String}
    {binding : Binding Interceptor} {phases : Phases}
    (registered : table.registerInterceptor name binding phases = .ok grown) :
    name ∉ table.interceptors.map (·.name) ∧
      grown = { table with
        interceptors := table.interceptors ++ [⟨name, binding, phases.orDefault⟩] } := by
  unfold registerInterceptor at registered
  split at registered
  · cases registered
  · next free =>
      rw [containsInterceptor_iff] at free
      exact ⟨free, (Except.ok.inj registered).symm⟩

theorem mapUnit_ok {table grown : RegistrationTable} {name : String} {patterns : List String}
    (mapped : table.mapUnit name patterns = .ok grown) :
    ∃ parsed, PathPattern.parseAll patterns = .ok parsed ∧
      grown = { table with
        unitMappings := table.unitMappings ++ parsed.map (UnitMapping.mk name) } := by
  unfold mapUnit at mapped
  split at mapped
  · cases mapped
  · next parsed read => exact ⟨parsed, read, (Except.ok.inj mapped).symm⟩

theorem mapInterceptorTo_grows {table grown : RegistrationTable} {name : String}
    {phases : Phases} {after : Bool} {patterns units : List String}
    (mapped : table.mapInterceptorTo name phases after patterns units = .ok grown) :
    table.Grows grown := by
  unfold mapInterceptorTo at mapped
  split at mapped
  · cases mapped
  · rw [← Except.ok.inj mapped]
    exact .single (.mapInterceptor _ after)

/-! ## What the steps keep -/

theorem nodup_map_append_singleton {α : Type} {f : α → String} {records : List α} {record : α}
    (distinct : (records.map f).Nodup) (fresh : f record ∉ records.map f) :
    ((records ++ [record]).map f).Nodup := by
  rw [List.map_append, List.map_singleton]
  refine List.nodup_append.mpr ⟨distinct, List.nodup_singleton _, ?_⟩
  intro old member new fromRecord same
  rw [List.mem_singleton.mp fromRecord] at same
  exact fresh (same ▸ member)

theorem Step.distinct {table grown : RegistrationTable} (step : table.Step grown)
    (distinct : table.Distinct) : grown.Distinct := by
  cases step with
  | unit registered =>
      obtain ⟨fresh, rfl⟩ := registerUnit_ok registered
      exact ⟨nodup_map_append_singleton distinct.units fresh, distinct.interceptors⟩
  | interceptor registered =>
      obtain ⟨fresh, rfl⟩ := registerInterceptor_ok registered
      exact ⟨distinct.units, nodup_map_append_singleton distinct.interceptors fresh⟩
  | mapUnit mapped =>
      obtain ⟨parsed, -, rfl⟩ := mapUnit_ok mapped
      exact ⟨distinct.units, distinct.interceptors⟩
  | mapInterceptor mapping after => exact ⟨distinct.units, distinct.interceptors⟩

end RegistrationTable

theorem PathPattern.parse_of_mem_parseAll {texts : List String} {patterns : List PathPattern}
    (read : parseAll texts = .ok patterns) {pattern : PathPattern} (member : pattern ∈ patterns) :
    ∃ text, parse text = .ok pattern := by
  induction texts generalizing patterns with
  | nil =>
      rw [parseAll] at read
      rw [← Except.ok.inj read] at member
      exact absurd member (List.not_mem_nil)
  | cons text texts ih =>
      unfold parseAll at read
      split at read
      · cases read
      · next first parsed =>
          split at read
          · cases read
          · next others rest =>
              rw [← Except.ok.inj read] at member
              rcases List.mem_cons.mp member with rfl | later
              · exact ⟨text, parsed⟩
              · exact ih rest later

namespace RegistrationTable

theorem Step.legible {table grown : RegistrationTable} (step : table.Step grown)
    (legible : table.Legible) : grown.Legible := by
  cases step with
  | unit registered =>
      obtain ⟨-, rfl⟩ := registerUnit_ok registered
      exact legible
  | interceptor registered =>
      obtain ⟨-, rfl⟩ := registerInterceptor_ok registered
      exact legible
  | mapUnit mapped =>
      obtain ⟨parsed, read, rfl⟩ := mapUnit_ok mapped
      intro mapping member
      rcases List.mem_append.mp member with old | new
      · exact legible mapping old
      · obtain ⟨pattern, among, rfl⟩ := List.mem_map.mp new
        exact PathPattern.parse_of_mem_parseAll read among
  | mapInterceptor mapping after => exact legible

theorem Grows.distinct {table grown : RegistrationTable} (grows : table.Grows grown)
    (distinct : table.Distinct) : grown.Distinct := by
  induction grows with
  | refl => exact distinct
  | tail _ step ih => exact step.distinct ih

theorem Grows.legible {table grown : RegistrationTable} (grows : table.Grows grown)
    (legible : table.Legible) : grown.Legible := by
  induction grows with
  | refl => exact legible
  | tail _ step ih => exact step.legible ih

theorem distinct_empty : RegistrationTable.Distinct {} := ⟨List.nodup_nil, List.nodup_nil⟩

theorem legible_empty : RegistrationTable.Legible {} :=
  fun _ member => absurd member (List.not_mem_nil)

/-! ## Handles -/

theorem followAll_grows {α : Type} {step : RegistrationTable → α → Except Error RegistrationTable}
    (grows : ∀ table a grown, step table a = .ok grown → table.Grows grown) (calls : List α)
    (table : RegistrationTable) : table.Grows (followAll step table calls).2 := by
  induction calls generalizing table with
  | nil => exact .refl
  | cons call rest ih =>
      unfold followAll
      split
      · exact .refl
      · next grown taken => exact (grows table call grown taken).trans (ih grown)

theorem followInterceptor_grows {table grown : RegistrationTable} {name : String}
    {call : InterceptorFollowUp} (followed : table.followInterceptor name call = .ok grown) :
    table.Grows grown := by
  cases call with
  | path pattern => exact mapInterceptorTo_grows followed
  | unit unit =>
      rw [← Except.ok.inj followed]
      exact .single (.mapInterceptor _ true)
  | paths phases after patterns => exact mapInterceptorTo_grows followed
  | units phases after names =>
      rw [← Except.ok.inj followed]
      exact .single (.mapInterceptor _ after)

theorem registerUnitWith_grows (table : RegistrationTable) (name : String)
    (binding : Binding ServiceUnit) (calls : List (List String)) :
    table.Grows (table.registerUnitWith name binding calls).2 := by
  unfold registerUnitWith
  split
  · exact .refl
  · next grown registered =>
      exact .head (.unit registered)
        (followAll_grows (fun _ _ _ mapped => .single (.mapUnit mapped)) calls grown)

theorem registerInterceptorWith_grows (table : RegistrationTable) (name : String)
    (binding : Binding Interceptor) (phases : Phases) (calls : List InterceptorFollowUp) :
    table.Grows (table.registerInterceptorWith name binding phases calls).2 := by
  unfold registerInterceptorWith
  split
  · exact .refl
  · next grown registered =>
      exact .head (.interceptor registered)
        (followAll_grows (fun _ _ _ => followInterceptor_grows) calls grown)

theorem attempt_grows (table : RegistrationTable) (result : Except Error RegistrationTable)
    (grows : ∀ grown, result = .ok grown → table.Grows grown) :
    table.Grows (table.attempt result).2 := by
  unfold attempt
  split
  · exact .refl
  · next grown => exact grows grown rfl

end RegistrationTable

/-! ## Startup hooks -/

theorem StartupProgram.run_grows (program : StartupProgram) (table : RegistrationTable)
    (journal : Journal) : table.Grows (program.run table journal).2.1 ∧
      Journal.Adds (· = .remark) journal (program.run table journal).2.2 := by
  induction program generalizing table journal with
  | done => exact ⟨.refl, .refl journal⟩
  | fail e => exact ⟨.refl, .refl journal⟩
  | remark line next ih =>
      obtain ⟨grows, adds⟩ := ih table (journal.note .remark (some line))
      have noted : Journal.Adds (· = .remark) journal (journal.note .remark (some line)) :=
        .note journal _ rfl
      exact ⟨grows, noted.trans adds⟩
  | registerUnit name binding calls next ih =>
      obtain ⟨grows, adds⟩ := ih _ (table.registerUnitWith name binding calls).2 journal
      exact ⟨(table.registerUnitWith_grows name binding calls).trans grows, adds⟩
  | registerInterceptor name binding phases calls next ih =>
      obtain ⟨grows, adds⟩ :=
        ih _ (table.registerInterceptorWith name binding phases calls).2 journal
      exact ⟨(table.registerInterceptorWith_grows name binding phases calls).trans grows, adds⟩
  | mapUnit name patterns next ih =>
      obtain ⟨grows, adds⟩ := ih _ (table.attempt (table.mapUnit name patterns)).2 journal
      have first := table.attempt_grows (table.mapUnit name patterns)
        fun _ mapped => .single (.mapUnit mapped)
      exact ⟨first.trans grows, adds⟩
  | findUnit name next ih => exact ih _ table journal
  | findInterceptor name next ih => exact ih _ table journal

theorem runStartupHooks_grows (context : String) (hooks : List StartupHook)
    (table : RegistrationTable) (journal : Journal) :
    table.Grows (runStartupHooks context hooks table journal).2.1 ∧
      Journal.Adds (· = .remark) journal (runStartupHooks context hooks table journal).2.2 := by
  induction hooks generalizing table journal with
  | nil => exact ⟨.refl, .refl journal⟩
  | cons hook rest ih =>
      obtain ⟨grows, adds⟩ := (hook.program journal context).run_grows table journal
      unfold runStartupHooks
      split
      · next failed =>
          rw [failed] at grows adds
          exact ⟨grows, adds⟩
      · next passed =>
          rw [passed] at grows adds
          obtain ⟨laterGrows, laterAdds⟩ := ih _ _
          exact ⟨grows.trans laterGrows, adds.trans laterAdds⟩

/-! ## Calls on a context -/

namespace Context

theorem require_ok_iff {lifecycle : Lifecycle} {operation : String}
    {allowed : List LifecycleState} :
    lifecycle.require operation allowed = .ok () ↔ lifecycle.state ∈ allowed := by
  unfold Lifecycle.require
  split <;> simp_all

theorem openFor_ok_iff {registrations : Registrations} {operation : String}
    {state : LifecycleState} {table : RegistrationTable} :
    registrations.openFor operation state = .ok table ↔ registrations = .opened table := by
  cases registrations <;> simp [Registrations.openFor]

/-- An accepted registration call replaces an open table by a grown one, in one of the states in
which registrations are allowed. -/
structure Registers (before after : Context) : Prop where
  allowed : before.state ∈ registering
  grows : ∃ table grown, before.registrations = .opened table ∧ table.Grows grown ∧
    after = before.withTable grown

variable {context after : Context}

/-- A changed table comes from an open one by the step of the call, which the state admits. -/
theorem changeTable_ok_iff {α : Type} {call : FacadeCall}
    {step : RegistrationTable → Except Error (α × RegistrationTable)} {a : α} :
    context.changeTable call step = .ok (a, after) ↔
      context.state ∈ call.allowed ∧ ∃ table grown, context.registrations = .opened table ∧
        step table = .ok (a, grown) ∧ after = context.withTable grown := by
  unfold changeTable openTable
  constructor
  · intro changed
    cases checked : context.lifecycle.require call.operation call.allowed with
    | error e => simp [checked] at changed
    | ok _ =>
        cases opened : context.registrations.openFor call.operation context.state with
        | error e => simp [checked, opened] at changed
        | ok table =>
            cases stepped : step table with
            | error e => simp [checked, opened, stepped] at changed
            | ok pair =>
                simp only [checked, opened, stepped, Except.ok.injEq, Prod.mk.injEq] at changed
                obtain ⟨rfl, rfl⟩ := changed
                exact ⟨require_ok_iff.mp checked, table, pair.2, openFor_ok_iff.mp opened,
                  stepped, rfl⟩
  · rintro ⟨admitted, table, grown, opened, stepped, rfl⟩
    have accepted : context.lifecycle.require call.operation call.allowed = .ok () :=
      require_ok_iff.mpr admitted
    simp only [accepted, openFor_ok_iff.mpr opened, stepped]

theorem registerUnit_ok_iff {name : String} {binding : Binding ServiceUnit}
    {calls : List (List String)} {result : Except Error Unit} :
    context.registerUnit name binding calls = .ok (result, after) ↔
      context.state ∈ FacadeCall.registerUnit.allowed ∧
        ∃ table grown, context.registrations = .opened table ∧
          table.registerUnitWith name binding calls = (.ok result, grown) ∧
          after = context.withTable grown := by
  refine changeTable_ok_iff.trans (and_congr_right fun _ => ?_)
  refine exists_congr fun table => exists_congr fun grown => and_congr_right fun _ => ?_
  refine and_congr_left fun _ => ?_
  cases outcome : table.registerUnitWith name binding calls with
  | mk first second => cases first <;> simp

theorem registerInterceptor_ok_iff {name : String} {binding : Binding Interceptor}
    {phases : Phases} {calls : List InterceptorFollowUp} {result : Except Error Unit} :
    context.registerInterceptor name binding phases calls = .ok (result, after) ↔
      context.state ∈ FacadeCall.registerInterceptor.allowed ∧
        ∃ table grown, context.registrations = .opened table ∧
          table.registerInterceptorWith name binding phases calls = (.ok result, grown) ∧
          after = context.withTable grown := by
  refine changeTable_ok_iff.trans (and_congr_right fun _ => ?_)
  refine exists_congr fun table => exists_congr fun grown => and_congr_right fun _ => ?_
  refine and_congr_left fun _ => ?_
  cases outcome : table.registerInterceptorWith name binding phases calls with
  | mk first second => cases first <;> simp

theorem mapUnit_ok_iff {name : String} {patterns : List String} {a : Unit} :
    context.mapUnit name patterns = .ok (a, after) ↔
      context.state ∈ FacadeCall.mapUnit.allowed ∧
        ∃ table grown, context.registrations = .opened table ∧
          table.mapUnit name patterns = .ok grown ∧ after = context.withTable grown := by
  refine changeTable_ok_iff.trans (and_congr_right fun _ => ?_)
  refine exists_congr fun table => exists_congr fun grown => and_congr_right fun _ => ?_
  refine and_congr_left fun _ => ?_
  cases table.mapUnit name patterns <;> simp [Except.map]

theorem mapInterceptorToUnits_ok_iff {name : String} {phases : Phases} {behind : Bool}
    {units : List String} {a : Unit} :
    context.mapInterceptorToUnits name phases behind units = .ok (a, after) ↔
      context.state ∈ FacadeCall.mapInterceptorToUnits.allowed ∧
        ∃ table, context.registrations = .opened table ∧
          after = context.withTable (table.mapInterceptorToUnits name phases behind units) := by
  refine changeTable_ok_iff.trans (and_congr_right fun _ => exists_congr fun table => ?_)
  simp

/-- The facade changes the table in states in which registrations are allowed only. -/
theorem registering_of_facade {call : FacadeCall} {state : LifecycleState}
    (registers : call ∈ [.mapInterceptorToUnits, .mapUnit, .registerInterceptor, .registerUnit])
    (admitted : state ∈ call.allowed) : state ∈ registering := by
  revert registers admitted
  cases call <;> cases state <;> decide

theorem registerUnit_registers {name : String} {binding : Binding ServiceUnit}
    {calls : List (List String)} {result : Except Error Unit}
    (registered : context.registerUnit name binding calls = .ok (result, after)) :
    context.Registers after := by
  obtain ⟨admitted, table, grown, opened, carried, same⟩ := registerUnit_ok_iff.mp registered
  refine ⟨registering_of_facade (by decide) admitted, table, grown, opened, ?_, same⟩
  have grows := table.registerUnitWith_grows name binding calls
  rwa [carried] at grows

theorem registerInterceptor_registers {name : String} {binding : Binding Interceptor}
    {phases : Phases} {calls : List InterceptorFollowUp} {result : Except Error Unit}
    (registered : context.registerInterceptor name binding phases calls = .ok (result, after)) :
    context.Registers after := by
  obtain ⟨admitted, table, grown, opened, carried, same⟩ :=
    registerInterceptor_ok_iff.mp registered
  refine ⟨registering_of_facade (by decide) admitted, table, grown, opened, ?_, same⟩
  have grows := table.registerInterceptorWith_grows name binding phases calls
  rwa [carried] at grows

theorem mapUnit_registers {name : String} {patterns : List String} {a : Unit}
    (mapped : context.mapUnit name patterns = .ok (a, after)) : context.Registers after := by
  obtain ⟨admitted, table, grown, opened, stepped, same⟩ := mapUnit_ok_iff.mp mapped
  exact ⟨registering_of_facade (by decide) admitted, table, grown, opened,
    .single (.mapUnit stepped), same⟩

theorem mapInterceptorToUnits_registers {name : String} {phases : Phases} {behind : Bool}
    {units : List String} {a : Unit}
    (mapped : context.mapInterceptorToUnits name phases behind units = .ok (a, after)) :
    context.Registers after := by
  obtain ⟨admitted, table, opened, same⟩ := mapInterceptorToUnits_ok_iff.mp mapped
  exact ⟨registering_of_facade (by decide) admitted, table, _, opened,
    .single (.mapInterceptor _ behind), same⟩

/-- The call that makes up a name registers the unit and then maps the one pattern to it. -/
theorem addUnit_ok {binding : Binding ServiceUnit} {pattern name : String}
    (added : context.addUnit binding pattern = .ok (name, after)) :
    context.state ∈ registering ∧ ∃ table larger grown, context.registrations = .opened table ∧
      table.registerUnit name binding = .ok larger ∧
      larger.mapUnit name [pattern] = .ok grown ∧ after = context.withTable grown := by
  unfold addUnit at added
  split at added
  · cases added
  · next checked =>
      split at added
      · cases added
      · next parsed read =>
          split at added
          · cases added
          · next table opened =>
              dsimp only at added
              split at added
              · cases added
              · next larger registered =>
                  simp only [Except.ok.injEq, Prod.mk.injEq] at added
                  obtain ⟨rfl, rfl⟩ := added
                  refine ⟨require_ok_iff.mp checked, table, larger, _, openFor_ok_iff.mp opened,
                    registered, ?_, rfl⟩
                  simp [RegistrationTable.mapUnit, PathPattern.parseAll, read]

theorem addUnit_registers {binding : Binding ServiceUnit} {pattern name : String}
    (added : context.addUnit binding pattern = .ok (name, after)) :
    context.Registers after := by
  obtain ⟨allowed, table, larger, grown, opened, registered, mapped, same⟩ := addUnit_ok added
  exact ⟨allowed, table, grown, opened, .head (.unit registered) (.single (.mapUnit mapped)), same⟩

/-- The call that makes up a name registers the interceptor and then maps it to the one pattern,
behind what is mapped already. -/
theorem addInterceptor_ok {binding : Binding Interceptor} {pattern name : String}
    {phases : Phases}
    (added : context.addInterceptor binding pattern phases = .ok (name, after)) :
    context.state ∈ registering ∧ ∃ table larger grown, context.registrations = .opened table ∧
      table.registerInterceptor name binding phases = .ok larger ∧
      larger.mapInterceptorTo name phases true [pattern] [] = .ok grown ∧
      after = context.withTable grown := by
  unfold addInterceptor at added
  split at added
  · cases added
  · next checked =>
      split at added
      · cases added
      · next parsed read =>
          split at added
          · cases added
          · next table opened =>
              dsimp only at added
              split at added
              · cases added
              · next larger registered =>
                  simp only [Except.ok.injEq, Prod.mk.injEq] at added
                  obtain ⟨rfl, rfl⟩ := added
                  refine ⟨require_ok_iff.mp checked, table, larger, _, openFor_ok_iff.mp opened,
                    registered, ?_, rfl⟩
                  simp [RegistrationTable.mapInterceptorTo, PathPattern.parseAll, read]

theorem addInterceptor_registers {binding : Binding Interceptor} {pattern name : String}
    {phases : Phases}
    (added : context.addInterceptor binding pattern phases = .ok (name, after)) :
    context.Registers after := by
  obtain ⟨allowed, table, larger, grown, opened, registered, mapped, same⟩ :=
    addInterceptor_ok added
  exact ⟨allowed, table, grown, opened,
    .head (.interceptor registered) (RegistrationTable.mapInterceptorTo_grows mapped), same⟩

end Context

end RequestPipeline
