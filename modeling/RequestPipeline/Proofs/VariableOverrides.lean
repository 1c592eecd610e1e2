import RequestPipeline.Settings.Loader
import Mathlib.Data.List.Nodup

/-!
# Overriding settings by variables

What one variable does to one setting, and what an environment does to all of them: the last entry
for the variable of a setting decides, and no other entry touches it.
-/

namespace RequestPipeline

inductive SettingValue
  | text (value : String)
  | flag (value : Bool)
  | format (value : LogFormat)
  deriving DecidableEq, Repr

def Settings.value (settings : Settings) : SettingField → SettingValue
  | .contextName => .text settings.context.name
  | .contextPath => .text settings.context.contextPath
  | .sessions => .flag settings.context.sessions
  | .security => .flag settings.context.security
  | .level => .text settings.logging.level
  | .format => .format settings.logging.format
  | .ansiEnabled => .flag settings.logging.ansiEnabled

namespace SettingField

def ofText? (field : SettingField) (text : String) : Option SettingValue :=
  match field with
  | .contextName | .contextPath | .level => some (.text text)
  | .sessions | .security | .ansiEnabled => (flag? text).map .flag
  | .format => (LogFormat.ofWord? text.toLower).map .format

theorem readFlag_ok {name text : String} {flag : Bool} :
    readFlag name text = .ok flag ↔ flag? text = some flag := by
  unfold readFlag
  cases flag? text <;> simp

theorem readFormat_ok {name text : String} {read : LogFormat} :
    readFormat name text = .ok read ↔ LogFormat.ofWord? text.toLower = some read := by
  unfold readFormat
  cases LogFormat.ofWord? text.toLower <;> simp

/-- A variable gives its own field the value of its text and leaves the others alone. -/
theorem override_value {field : SettingField} {name text : String} {settings after : Settings}
    (overridden : field.override name text settings = .ok after) :
    ∃ value, field.ofText? text = some value ∧
      ∀ other, after.value other = if other = field then value else settings.value other := by
  cases field <;>
    simp only [override, Except.map, Except.ok.injEq] at overridden
  case contextName | contextPath | level =>
      subst overridden
      exact ⟨.text text, rfl, fun other => by cases other <;> rfl⟩
  case sessions | security | ansiEnabled =>
      split at overridden
      · cases overridden
      next flag read =>
        cases overridden
        refine ⟨.flag flag, ?_, fun other => by cases other <;> rfl⟩
        simp only [ofText?, readFlag_ok.mp read, Option.map_some]
  case format =>
      split at overridden
      · cases overridden
      next value read =>
        cases overridden
        refine ⟨.format value, ?_, fun other => by cases other <;> rfl⟩
        simp only [ofText?, readFormat_ok.mp read, Option.map_some]

theorem path_injective : Function.Injective path :=
  fun field other same =>
    List.inj_on_of_nodup_map (by decide : (all.map path).Nodup) field.mem_all other.mem_all same

theorem variableName_injective (leader : String) :
    Function.Injective (variableName leader) := by
  intro field other same
  refine path_injective (String.ext ?_)
  have chars := congrArg String.toList same
  simpa only [variableName, String.toList_append, List.append_assoc, List.append_cancel_left_eq]
    using chars

/-- A name overrides a field when it is the name of that field's variable. -/
theorem ofVariable?_eq_some {leader name : String} {field : SettingField} :
    ofVariable? leader name = some field ↔ name = field.variableName leader := by
  have named {other : SettingField} (found : ofVariable? leader name = some other) :
      other.variableName leader = name := by
    rw [ofVariable?] at found
    simpa using List.find?_some found
  constructor
  · intro found
    exact (named found).symm
  · intro same
    cases found : ofVariable? leader name with
    | none => simpa [same] using List.find?_eq_none.mp found field field.mem_all
    | some other => rw [variableName_injective leader ((named found).trans same)]

end SettingField

namespace Environment

/-- The values that an environment has for a name, in its order. -/
def values (environment : Environment) (name : String) : List String :=
  (environment.filter (·.1 == name)).map Prod.snd

theorem values_cons (name text : String) (rest : Environment) (asked : String) :
    values ((name, text) :: rest) asked =
      if name = asked then text :: values rest asked else values rest asked := by
  by_cases same : name = asked <;> simp [values, same]

/-- The order of names keeps the entries of one name as they follow each other. -/
theorem values_inNameOrder (environment : Environment) (name : String) :
    values (Loader.inNameOrder environment) name = values environment name := by
  let named (entry : String × String) : Bool := entry.1 == name
  have sorted : (environment.filter named).Sublist (Loader.inNameOrder environment) := by
    refine List.sublist_mergeSort ?_ ?_ ?_ List.filter_sublist
    · intro first second third
      simpa using fun below above => String.le_trans below above
    · intro first second
      simpa using String.le_total first.1 second.1
    · refine List.pairwise_of_forall_mem_list fun first one second two => ?_
      have sameName : first.1 = second.1 := by
        simp only [List.mem_filter, named, beq_iff_eq] at one two
        exact one.2.trans two.2.symm
      simp [sameName]
  have kept : (environment.filter named).Sublist
      ((Loader.inNameOrder environment).filter named) := by
    simpa using sorted.filter named
  have lengths : (environment.filter named).length =
      ((Loader.inNameOrder environment).filter named).length :=
    ((List.mergeSort_perm environment _).filter named).length_eq.symm
  exact congrArg (List.map Prod.snd) (kept.eq_of_length lengths).symm

/-- The value that an environment gives a field: that of the last entry for its variable. -/
def given? (environment : Environment) (leader : String) (field : SettingField) :
    Option SettingValue :=
  (environment.values (field.variableName leader)).getLast?.bind field.ofText?

theorem given?_inNameOrder (environment : Environment) (leader : String) (field : SettingField) :
    given? (Loader.inNameOrder environment) leader field = environment.given? leader field := by
  rw [given?, given?, values_inNameOrder]

end Environment

namespace Loader

/-- Every text that an environment has for a field's variable is read, in order. -/
theorem overrideAll_reads {leader : String} {environment : Environment}
    {settings after : Settings} (overridden : overrideAll leader environment settings = .ok after)
    (field : SettingField) :
    ∃ read : List SettingValue,
      (environment.values (field.variableName leader)).map field.ofText? = read.map some ∧
        after.value field = read.getLast?.getD (settings.value field) := by
  induction environment generalizing settings with
  | nil =>
      cases overridden
      exact ⟨[], rfl, rfl⟩
  | cons entry rest ih =>
      obtain ⟨name, text⟩ := entry
      rw [Environment.values_cons]
      unfold overrideAll at overridden
      cases known : SettingField.ofVariable? leader name with
      | none =>
          have other : name ≠ field.variableName leader := fun same => by
            rw [SettingField.ofVariable?_eq_some.mpr same] at known
            cases known
          rw [known] at overridden
          rw [if_neg other]
          exact ih overridden
      | some named =>
          have variable_eq := SettingField.ofVariable?_eq_some.mp known
          simp only [known] at overridden
          cases first : named.override name text settings with
          | error fault => simp only [first] at overridden; cases overridden
          | ok between =>
              simp only [first] at overridden
              obtain ⟨value, readable, values⟩ := SettingField.override_value first
              obtain ⟨read, texts, last⟩ := ih overridden
              by_cases own : field = named
              · subst own
                refine ⟨value :: read, ?_, ?_⟩
                · rw [if_pos variable_eq, List.map_cons, texts, readable, List.map_cons]
                · rw [last, values, if_pos rfl, List.getLast?_cons, Option.getD_some]
              · have other : name ≠ field.variableName leader := fun same =>
                  own (SettingField.variableName_injective leader (same.symm.trans variable_eq))
                rw [if_neg other, last, values, if_neg own]
                exact ⟨read, texts, rfl⟩

/-- An environment gives each field the value of the last entry for its variable, and leaves a
field alone that has no such entry. -/
theorem overrideAll_value {leader : String} {environment : Environment}
    {settings after : Settings} (overridden : overrideAll leader environment settings = .ok after)
    (field : SettingField) :
    after.value field = (environment.given? leader field).getD (settings.value field) := by
  obtain ⟨read, texts, last⟩ := overrideAll_reads overridden field
  have chosen : environment.given? leader field = read.getLast? := by
    have lastTexts := congrArg (fun texts => texts.getLast?.bind id) texts
    simpa [Environment.given?, Option.bind_map, Function.comp_def] using lastTexts
  rw [last, chosen]

end Loader

end RequestPipeline
