import RequestPipeline.Proofs.UncheckedSettings

/-!
# The order of overriding variables

Every setting has a variable of its own, whose name is read as a beginning, a section and a key with
double underscores between them.  So variables with different names never meet in one setting, and
the order in which they are taken shows only in which of several unacceptable ones is named.
-/

namespace RequestPipeline

/-! ## Texts split at double underscores -/

namespace Text

def separator : List Char := ['_', '_']

/-- The pieces of a text between separators, which are looked for from the left and do not
overlap; there is always at least one. -/
def splitAtSeparators : List Char → List (List Char)
  | [] => [[]]
  | [c] => [[c]]
  | c :: d :: rest =>
      if [c, d] = separator then [] :: splitAtSeparators rest
      else
        match splitAtSeparators (d :: rest) with
        | [] => [[c]]
        | piece :: pieces => (c :: piece) :: pieces

theorem splitAtSeparators_ne_nil (cs : List Char) : splitAtSeparators cs ≠ [] := by
  fun_cases splitAtSeparators cs <;> simp

/-- The pieces with separators between them are the text again. -/
theorem intercalate_splitAtSeparators (cs : List Char) :
    separator.intercalate (splitAtSeparators cs) = cs := by
  fun_induction splitAtSeparators cs with
  | case1 => rfl
  | case2 c => rfl
  | case3 c d rest marked ih =>
      obtain ⟨piece, pieces, split⟩ := List.exists_cons_of_ne_nil (splitAtSeparators_ne_nil rest)
      rw [split] at ih ⊢
      rw [List.intercalate_cons_cons, ih, ← marked]
      rfl
  | case4 c d rest unmarked none ih => exact absurd none (splitAtSeparators_ne_nil _)
  | case5 c d rest unmarked piece pieces split ih =>
      rw [split] at ih
      cases pieces with
      | nil => simpa using ih
      | cons next others =>
          rw [List.intercalate_cons_cons] at ih ⊢
          exact congrArg (c :: ·) ih

end Text

/-! ## The names of variables -/

namespace SettingField

open Text

/-- The section and the key in the name of a setting's variable. -/
def words : SettingField → String × String
  | .contextName => ("CONTEXT", "NAME")
  | .contextPath => ("CONTEXT", "CONTEXT_PATH")
  | .sessions => ("CONTEXT", "SESSIONS")
  | .security => ("CONTEXT", "SECURITY")
  | .level => ("LOGGING", "LEVEL")
  | .format => ("LOGGING", "FORMAT")
  | .ansiEnabled => ("LOGGING", "ANSI_ENABLED")

theorem splitAtSeparators_path (field : SettingField) :
    splitAtSeparators field.path.toList = [field.words.1.toList, field.words.2.toList] := by
  cases field <;> decide

/-- The pieces of a name after its beginning and one separator. -/
def pieces? (leader name : String) : Option (List (List Char)) :=
  ((stripStart? leader.toList name.toList).bind (stripStart? separator)).map splitAtSeparators

theorem pieces?_eq_some {leader name : String} {pieces : List (List Char)} :
    pieces? leader name = some pieces ↔
      ∃ rest, name.toList = leader.toList ++ separator ++ rest ∧
        splitAtSeparators rest = pieces := by
  simp only [pieces?, Option.map_eq_some_iff, Option.bind_eq_some_iff, stripStart?_eq_some,
    List.append_assoc]
  constructor
  · rintro ⟨rest, ⟨after, named, rfl⟩, split⟩
    exact ⟨rest, named, split⟩
  · rintro ⟨rest, named, split⟩
    exact ⟨rest, ⟨separator ++ rest, named, rfl⟩, split⟩

/-- A name has a section and a key as its pieces exactly if it is put together from them. -/
theorem pieces?_eq_words {leader name : String} {field : SettingField} :
    pieces? leader name = some [field.words.1.toList, field.words.2.toList] ↔
      name = field.variableName leader := by
  rw [pieces?_eq_some, ← splitAtSeparators_path, ← String.toList_inj, variableName,
    String.toList_append, String.toList_append]
  constructor
  · rintro ⟨rest, named, split⟩
    have same : rest = field.path.toList := by
      rw [← intercalate_splitAtSeparators rest, split, intercalate_splitAtSeparators]
    rw [named, same]
    rfl
  · intro named
    exact ⟨field.path.toList, named, rfl⟩

end SettingField

/-! ## Texts that are not accepted -/

namespace SettingField

variable {field : SettingField} {name text : String} {settings : Settings} {fault : LoadError}

/-- Whether a text is acceptable for a setting: a flag and a log format are given in one of a few
words, and anything else may be any text. -/
def Accepts : SettingField → String → Prop
  | .contextName, _ | .contextPath, _ | .level, _ => True
  | .sessions, text | .security, text | .ansiEnabled, text =>
      text.toLower ∈ ["true", "1", "yes", "on"] ∨ text.toLower ∈ ["false", "0", "no", "off"]
  | .format, text => text.toLower = "json" ∨ text.toLower = "pretty"

/-- What is asked for where a text is not acceptable. -/
def wanted : SettingField → String
  | .format => "expected 'json' or 'pretty'"
  | _ => "expected boolean"

theorem isSome_flag?_iff : (flag? text).isSome ↔
    text.toLower ∈ ["true", "1", "yes", "on"] ∨ text.toLower ∈ ["false", "0", "no", "off"] := by
  simp only [flag?, List.contains_iff_mem]
  split
  · next on => simp only [Option.isSome_some, on, true_or]
  · next on =>
      split
      · next off => simp only [Option.isSome_some, off, or_true]
      · next off => simp only [Option.isSome_none, Bool.false_eq_true, on, off, or_self]

theorem isSome_ofWord?_iff {word : String} :
    (LogFormat.ofWord? word).isSome ↔ word = "json" ∨ word = "pretty" := by
  rw [LogFormat.ofWord?, List.find?_isSome]
  constructor
  · rintro ⟨format, -, same⟩
    rw [← of_decide_eq_true same]
    cases format with
    | json => exact .inl rfl
    | pretty => exact .inr rfl
  · rintro (rfl | rfl)
    · exact ⟨.json, by decide, by decide⟩
    · exact ⟨.pretty, by decide, by decide⟩

/-- An acceptable text stands for a value, and no other text does. -/
theorem isSome_ofText?_iff : (field.ofText? text).isSome ↔ field.Accepts text := by
  cases field with
  | contextName | contextPath | level => simp [ofText?, Accepts]
  | sessions | security | ansiEnabled => simpa [ofText?, Accepts] using isSome_flag?_iff
  | format => simpa [ofText?, Accepts] using isSome_ofWord?_iff

theorem ofText?_eq_none_iff : field.ofText? text = none ↔ ¬field.Accepts text := by
  rw [← isSome_ofText?_iff, Option.not_isSome_iff_eq_none]

/-- A variable fails for its text alone, whatever the settings are. -/
theorem override_error : field.override name text settings = .error fault ↔
    ¬field.Accepts text ∧ fault = .badVariable name field.wanted := by
  rw [← ofText?_eq_none_iff]
  cases field with
  | contextName | contextPath | level => simp [override, ofText?]
  | sessions | security | ansiEnabled =>
      cases read : flag? text <;>
        simp [override, readFlag, ofText?, wanted, Except.map, read, eq_comm]
  | format =>
      cases read : LogFormat.ofWord? text.toLower <;>
        simp [override, readFormat, ofText?, wanted, Except.map, read, eq_comm]

end SettingField

namespace Environment

variable {environment : Environment} {leader name text : String} {field : SettingField}

/-- An environment has a text for the variable of a setting that is not acceptable. -/
def Misgives (environment : Environment) (leader : String) (field : SettingField) : Prop :=
  ∃ text, (field.variableName leader, text) ∈ environment ∧ ¬field.Accepts text

/-- What overriding comes to: each setting has the value of the text that its own variable has,
and is as before where there is no such variable. -/
def Overrides (environment : Environment) (leader : String) (before after : Settings) : Prop :=
  ∀ field : SettingField,
    (∀ text, (field.variableName leader, text) ∈ environment →
      field.ofText? text = some (after.value field)) ∧
    ((∀ text, (field.variableName leader, text) ∉ environment) →
      after.value field = before.value field)

theorem values_of_not_mem (absent : ∀ text, (name, text) ∉ environment) :
    values environment name = [] := by
  rw [values, List.map_eq_nil_iff, List.filter_eq_nil_iff]
  rintro ⟨other, text⟩ member same
  cases beq_iff_eq.mp same
  exact absent text member

/-- Where names are distinct, a name has the value of its one entry. -/
theorem values_of_mem (distinct : (environment.map Prod.fst).Nodup)
    (member : (name, text) ∈ environment) : values environment name = [text] := by
  induction environment with
  | nil => cases member
  | cons entry rest ih =>
      obtain ⟨first, value⟩ := entry
      obtain ⟨fresh, distinct⟩ := List.nodup_cons.mp distinct
      have absent (text : String) : (first, text) ∉ rest :=
        fun later => fresh (List.mem_map.mpr ⟨_, later, rfl⟩)
      rw [values_cons]
      obtain same | later := List.mem_cons.mp member
      · cases same
        rw [if_pos rfl, values_of_not_mem absent]
      · have other : first ≠ name := by
          rintro rfl
          exact absent text later
        rw [if_neg other, ih distinct later]

end Environment

/-! ## Overriding in some order -/

namespace Loader

open Environment SettingField

variable {environment order : Environment} {leader : String} {settings after : Settings}
  {fault : LoadError}

theorem overrides_of_overrideAll (distinct : (environment.map Prod.fst).Nodup)
    (overridden : overrideAll leader environment settings = .ok after) :
    Overrides environment leader settings after := by
  intro field
  obtain ⟨read, texts, value⟩ := overrideAll_reads overridden field
  constructor
  · intro text member
    rw [values_of_mem distinct member] at texts
    obtain ⟨given, rfl, reads⟩ := List.map_eq_singleton_iff.mp texts.symm
    rw [value, ← reads]
    rfl
  · intro absent
    rw [values_of_not_mem absent] at texts
    cases List.map_eq_nil_iff.mp texts.symm
    exact value

/-- An entry with which nothing is wrong leaves it to the others whether a setting is misgiven. -/
theorem misgives_cons {entry : String × String} {rest : Environment}
    (fine : ∀ field : SettingField, entry.1 = field.variableName leader → field.Accepts entry.2)
    (field : SettingField) :
    Misgives (entry :: rest) leader field ↔ Misgives rest leader field := by
  constructor
  · rintro ⟨text, member, refused⟩
    obtain rfl | later := List.mem_cons.mp member
    · exact absurd (fine field rfl) refused
    · exact ⟨text, later, refused⟩
  · rintro ⟨text, member, refused⟩
    exact ⟨text, List.mem_cons_of_mem _ member, refused⟩

/-- Overriding fails at the first entry that belongs to a setting and is not acceptable for it. -/
theorem overrideAll_error (failed : overrideAll leader environment settings = .error fault) :
    ∃ (before : Environment) (field : SettingField) (text : String) (rest : Environment),
      environment = before ++ (field.variableName leader, text) :: rest ∧
      ¬field.Accepts text ∧ fault = .badVariable (field.variableName leader) field.wanted ∧
      ∀ other, ¬Misgives before leader other := by
  induction environment generalizing settings with
  | nil => cases failed
  | cons entry rest ih =>
      obtain ⟨name, text⟩ := entry
      unfold overrideAll at failed
      cases known : ofVariable? leader name with
      | none =>
          rw [known] at failed
          obtain ⟨before, field, bad, later, rfl, refused, named, first⟩ := ih failed
          have fine (other : SettingField) (own : name = other.variableName leader) :
              other.Accepts text := by
            rw [ofVariable?_eq_some.mpr own] at known
            cases known
          exact ⟨(name, text) :: before, field, bad, later, rfl, refused, named,
            fun other => (misgives_cons fine other).not.mpr (first other)⟩
      | some field =>
          obtain rfl := ofVariable?_eq_some.mp known
          simp only [known] at failed
          cases taken : field.override (field.variableName leader) text settings with
          | error fault' =>
              simp only [taken] at failed
              cases failed
              obtain ⟨refused, named⟩ := override_error.mp taken
              exact ⟨[], field, text, rest, rfl, refused, named,
                fun _ ⟨_, member, _⟩ => nomatch member⟩
          | ok between =>
              simp only [taken] at failed
              obtain ⟨before, field', bad, later, rfl, refused, named, first⟩ := ih failed
              have fine (other : SettingField)
                  (own : field.variableName leader = other.variableName leader) :
                  other.Accepts text := by
                obtain rfl := variableName_injective leader own
                obtain ⟨value, readable, -⟩ := override_value taken
                exact isSome_ofText?_iff.mp (Option.isSome_of_eq_some readable)
              exact ⟨_ :: before, field', bad, later, rfl, refused, named,
                fun other => (misgives_cons fine other).not.mpr (first other)⟩

/-- Where names are distinct, overriding succeeds exactly with what it comes to. -/
theorem overrideAll_ok_iff (distinct : (environment.map Prod.fst).Nodup) :
    overrideAll leader environment settings = .ok after ↔
      Overrides environment leader settings after := by
  refine ⟨overrides_of_overrideAll distinct, fun overrides => ?_⟩
  cases done : overrideAll leader environment settings with
  | error fault =>
      obtain ⟨before, field, text, rest, rfl, refused, -⟩ := overrideAll_error done
      have reads := (overrides field).1 text (by simp)
      exact absurd (isSome_ofText?_iff.mp (Option.isSome_of_eq_some reads)) refused
  | ok other =>
      have others := overrides_of_overrideAll distinct done
      refine congrArg _ (Settings.ext_value fun field => ?_)
      by_cases given : ∃ text, (field.variableName leader, text) ∈ environment
      · obtain ⟨text, member⟩ := given
        have reads := (others field).1 text member
        rw [(overrides field).1 text member] at reads
        exact (Option.some.inj reads).symm
      · have absent := not_exists.mp given
        rw [(others field).2 absent, (overrides field).2 absent]

/-- Overriding fails exactly if a setting is misgiven. -/
theorem overrideAll_fails_iff (distinct : (environment.map Prod.fst).Nodup) :
    (∃ fault, overrideAll leader environment settings = .error fault) ↔
      ∃ field, Misgives environment leader field := by
  constructor
  · rintro ⟨fault, failed⟩
    obtain ⟨before, field, text, rest, rfl, refused, -⟩ := overrideAll_error failed
    exact ⟨field, text, by simp, refused⟩
  · rintro ⟨field, text, member, refused⟩
    cases done : overrideAll leader environment settings with
    | error fault => exact ⟨fault, rfl⟩
    | ok after =>
        have reads := (overrides_of_overrideAll distinct done field).1 text member
        exact absurd (isSome_ofText?_iff.mp (Option.isSome_of_eq_some reads)) refused

/-- An entry with a name that is no setting's variable makes no difference where it stands. -/
theorem overrideAll_foreign {name : String}
    (foreign : ∀ field : SettingField, name ≠ field.variableName leader) (text : String)
    (before rest : Environment) (settings : Settings) :
    overrideAll leader (before ++ (name, text) :: rest) settings =
      overrideAll leader (before ++ rest) settings := by
  induction before generalizing settings with
  | nil =>
      have unknown : ofVariable? leader name = none := by
        cases known : ofVariable? leader name with
        | none => rfl
        | some field => exact absurd (ofVariable?_eq_some.mp known) (foreign field)
      simp only [List.nil_append, overrideAll, unknown]
  | cons entry before ih =>
      obtain ⟨first, value⟩ := entry
      simp only [List.cons_append, overrideAll, ih]

/-! ## Overriding in the order of names -/

theorem inNameOrder_perm (environment : Environment) :
    (inNameOrder environment).Perm environment :=
  List.mergeSort_perm environment _

theorem inNameOrder_sorted (environment : Environment) :
    (inNameOrder environment).Pairwise fun entry later => entry.1 ≤ later.1 := by
  refine (List.pairwise_mergeSort ?_ ?_ environment).imp of_decide_eq_true
  · intro first second third
    simpa using fun below above => String.le_trans below above
  · intro first second
    simpa using String.le_total first.1 second.1

variable {loader : Loader}

/-- A loader names the first variable, in the order of names, with a text that is not
acceptable. -/
theorem overridden_error_iff (led : loader.leader = some leader)
    (distinct : (environment.map Prod.fst).Nodup) :
    loader.overridden environment = .error fault ↔
      ∃ field, Misgives environment leader field ∧
        fault = .badVariable (field.variableName leader) field.wanted ∧
        ∀ other, Misgives environment leader other →
          field.variableName leader ≤ other.variableName leader := by
  have ordered := inNameOrder_perm environment
  have named {fault : LoadError} (failed : loader.overridden environment = .error fault) :
      ∃ field, Misgives environment leader field ∧
        fault = .badVariable (field.variableName leader) field.wanted ∧
        ∀ other, Misgives environment leader other →
          field.variableName leader ≤ other.variableName leader := by
    simp only [overridden, led] at failed
    obtain ⟨before, field, text, rest, whole, refused, named, first⟩ := overrideAll_error failed
    refine ⟨field, ⟨text, ordered.mem_iff.mp (by simp [whole]), refused⟩, named, ?_⟩
    rintro other ⟨given, member, refuses⟩
    have sorted := inNameOrder_sorted environment
    rw [← ordered.mem_iff, whole, List.mem_append, List.mem_cons] at member
    rw [whole, List.pairwise_append, List.pairwise_cons] at sorted
    obtain ⟨-, ⟨below, -⟩, -⟩ := sorted
    obtain earlier | same | later := member
    · exact absurd ⟨given, earlier, refuses⟩ (first other)
    · obtain ⟨names, -⟩ := Prod.mk.inj same
      exact names ▸ String.le_refl _
    · exact below _ later
  refine ⟨named, ?_⟩
  rintro ⟨field, misgiven, rfl, least⟩
  have distinctly := (ordered.map Prod.fst).nodup_iff.mpr distinct
  obtain ⟨text, member, refused⟩ := misgiven
  obtain ⟨fault, failed⟩ :
      ∃ fault, overrideAll leader (inNameOrder environment) loader.settings = .error fault :=
    (overrideAll_fails_iff distinctly).mpr ⟨field, text, ordered.mem_iff.mpr member, refused⟩
  have fails : loader.overridden environment = .error fault := by
    simpa only [overridden, led] using failed
  obtain ⟨other, misgiven, rfl, lowest⟩ := named fails
  have same : field.variableName leader = other.variableName leader :=
    String.le_antisymm (least other misgiven) (lowest field ⟨text, member, refused⟩)
  rw [fails, variableName_injective leader same]

/-- What a loader makes of an environment depends on the entries for settings alone. -/
theorem overridden_congr {other : Environment} (led : loader.leader = some leader)
    (distinct : (environment.map Prod.fst).Nodup) (distinct' : (other.map Prod.fst).Nodup)
    (same : ∀ field : SettingField, ∀ text, (field.variableName leader, text) ∈ other ↔
      (field.variableName leader, text) ∈ environment) :
    loader.overridden other = loader.overridden environment := by
  cases done : loader.overridden environment with
  | error fault =>
      rw [overridden_error_iff led distinct] at done
      rw [overridden_error_iff led distinct']
      simpa only [Misgives, same] using done
  | ok after =>
      simp only [overridden, led] at done ⊢
      have ordered := inNameOrder_perm environment
      have ordered' := inNameOrder_perm other
      rw [overrideAll_ok_iff ((ordered.map Prod.fst).nodup_iff.mpr distinct)] at done
      rw [overrideAll_ok_iff ((ordered'.map Prod.fst).nodup_iff.mpr distinct')]
      simpa only [Overrides, ordered.mem_iff, ordered'.mem_iff, same] using done

/-- Each setting has one variable, whose name is made of the beginning, the section and the key with
double underscores between them, and is read as nothing else.  In whatever order variables with
distinct names are taken, each setting gets the value of its own variable and is left alone without
one, unless some variable has a text that is not acceptable; then overriding fails, and a loader
names the first such variable in the order of names.  An entry with any other name makes no
difference. -/
theorem overriding_is_independent_of_order (led : loader.leader = some leader)
    (distinct : (environment.map Prod.fst).Nodup) :
    (∀ order : Environment, order.Perm environment →
      (∀ after, overrideAll leader order loader.settings = .ok after ↔
        Overrides environment leader loader.settings after) ∧
      ((∃ fault, overrideAll leader order loader.settings = .error fault) ↔
        ∃ field, Misgives environment leader field)) ∧
    (∀ after, loader.overridden environment = .ok after ↔
      Overrides environment leader loader.settings after) ∧
    (∀ fault, loader.overridden environment = .error fault ↔
      ∃ field, Misgives environment leader field ∧
        fault = .badVariable (field.variableName leader) field.wanted ∧
        ∀ other, Misgives environment leader other →
          field.variableName leader ≤ other.variableName leader) ∧
    (∀ name field, ofVariable? leader name = some field ↔
      pieces? leader name = some [field.words.1.toList, field.words.2.toList]) ∧
    (∀ name other field, ofVariable? leader name = some field →
      ofVariable? leader other = some field → name = other) ∧
    ∀ before name text rest, environment = before ++ (name, text) :: rest →
      (∀ field : SettingField,
        pieces? leader name ≠ some [field.words.1.toList, field.words.2.toList]) →
      overrideAll leader environment loader.settings =
          overrideAll leader (before ++ rest) loader.settings ∧
        loader.overridden environment = loader.overridden (before ++ rest) := by
  have inOrder (order : Environment) (reordered : order.Perm environment) :
      (∀ after, overrideAll leader order loader.settings = .ok after ↔
        Overrides environment leader loader.settings after) ∧
      ((∃ fault, overrideAll leader order loader.settings = .error fault) ↔
        ∃ field, Misgives environment leader field) := by
    have distinctly := (reordered.map Prod.fst).nodup_iff.mpr distinct
    constructor
    · intro after
      rw [overrideAll_ok_iff distinctly]
      simp only [Overrides, reordered.mem_iff]
    · rw [overrideAll_fails_iff distinctly]
      simp only [Misgives, reordered.mem_iff]
  refine ⟨inOrder, ?_, fun fault => overridden_error_iff led distinct, ?_, ?_, ?_⟩
  · intro after
    simpa only [overridden, led] using
      (inOrder (inNameOrder environment) (inNameOrder_perm environment)).1 after
  · intro name field
    rw [ofVariable?_eq_some, pieces?_eq_words]
  · intro name other field own own'
    rw [ofVariable?_eq_some.mp own, ofVariable?_eq_some.mp own']
  · rintro before name text rest rfl unread
    have foreign (field : SettingField) : name ≠ field.variableName leader :=
      fun named => unread field (pieces?_eq_words.mpr named)
    refine ⟨overrideAll_foreign foreign text before rest loader.settings, ?_⟩
    have shorter : (before ++ rest).Sublist (before ++ (name, text) :: rest) :=
      (List.sublist_cons_self (name, text) rest).append_left before
    refine (overridden_congr led distinct (distinct.sublist (shorter.map Prod.fst)) ?_).symm
    intro field given
    have differs : (field.variableName leader, given) ≠ (name, text) :=
      fun same => foreign field (Prod.mk.inj same).1.symm
    simp [differs]

/-- A flag that is no flag, the name of a context, a name with a separator too few and one with a
separator too many. -/
def strayVariables : Environment :=
  [("SHOP__LOGGING__ANSI_ENABLED", "sometimes"), ("SHOP__CONTEXT__NAME", "shop"),
    ("SHOP__CONTEXTNAME", "inn"), ("SHOP____CONTEXT__NAME", "inn")]

/-- The flag is refused by its name.  Without it the context gets its one name, in any order. -/
theorem strayVariables_overridden :
    let loader : Loader := { leader := some "SHOP" }
    loader.overridden strayVariables =
        .error (.badVariable "SHOP__LOGGING__ANSI_ENABLED" "expected boolean") ∧
      loader.overridden strayVariables.tail = .ok { context := { name := "shop" } } ∧
      ∀ order, order.Perm strayVariables.tail →
        overrideAll "SHOP" order {} = .ok { context := { name := "shop" } } := by
  intro loader
  have led : loader.leader = some "SHOP" := rfl
  have distinct : (strayVariables.map Prod.fst).Nodup := by decide
  obtain ⟨-, -, misgives, -⟩ := overriding_is_independent_of_order led distinct
  obtain ⟨inOrder, inNames, -⟩ := overriding_is_independent_of_order led distinct.tail
  have named : overrideAll "SHOP" strayVariables.tail {} =
      .ok { context := { name := "shop" } } := by decide +kernel
  have overrides := ((inOrder _ (List.Perm.refl _)).1 _).mp named
  have fine (field : SettingField) : ¬Misgives strayVariables.tail "SHOP" field := by
    intro misgiven
    obtain ⟨fault, failed⟩ := (inOrder _ (List.Perm.refl _)).2.mpr ⟨field, misgiven⟩
    exact nomatch named.symm.trans failed
  refine ⟨(misgives _).mpr ⟨.ansiEnabled, ?_, rfl, ?_⟩, (inNames _).mpr overrides,
    fun order reordered => ((inOrder order reordered).1 _).mpr overrides⟩
  · exact ⟨"sometimes", by decide, ofText?_eq_none_iff.mp (by decide +kernel)⟩
  · rintro other ⟨text, member, refused⟩
    obtain same | later := List.mem_cons.mp member
    · obtain ⟨own, -⟩ := Prod.mk.inj same
      rw [own]
      decide
    · exact absurd ⟨text, later, refused⟩ (fine other)

end Loader

end RequestPipeline
