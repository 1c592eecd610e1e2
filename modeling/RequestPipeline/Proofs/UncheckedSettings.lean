import RequestPipeline.Proofs.LayeredSettings

/-!
# Settings that are not checked

Loading overrides settings by variables and then checks them.  Settings that are taken without the
check are not overridden either, so they are the loaded ones only where no variable changes a
setting.
-/

namespace RequestPipeline

/-- Settings are known by the values of their fields. -/
theorem Settings.ext_value {settings other : Settings}
    (same : ∀ field, settings.value field = other.value field) : settings = other := by
  obtain ⟨⟨name, path, sessions, security⟩, ⟨level, format, ansi⟩⟩ := settings
  obtain ⟨⟨name', path', sessions', security'⟩, ⟨level', format', ansi'⟩⟩ := other
  have nameSame := same .contextName
  have pathSame := same .contextPath
  have sessionsSame := same .sessions
  have securitySame := same .security
  have levelSame := same .level
  have formatSame := same .format
  have ansiSame := same .ansiEnabled
  simp only [value, SettingValue.text.injEq, SettingValue.flag.injEq,
    SettingValue.format.injEq] at *
  simp [*]

namespace Loader

variable {loader reached : Loader} {surroundings around : Surroundings} {number : Nat}
  {layers : List Layer} {environment : Environment} {settings : Settings}

/-- Settings are loaded if they are the overridden ones and have no fault. -/
theorem load_ok_iff : loader.load environment = .ok settings ↔
    loader.overridden environment = .ok settings ∧ settings.fault? = none := by
  unfold load check
  cases loader.overridden environment with
  | error fault => simp
  | ok overridden =>
      simp only [Except.ok.injEq]
      cases faulty : overridden.fault? with
      | some fault =>
          simp only [Except.map, reduceCtorEq, false_iff, not_and]
          rintro rfl
          simp [faulty]
      | none =>
          simp only [Except.map, Except.ok.injEq]
          constructor
          · rintro rfl
            exact ⟨rfl, faulty⟩
          · exact fun both => both.1

/-- A setting that a variable gives has the value of the variable, and any other one the value that
it has without a check. -/
theorem load_value_unchecked
    (applied : loader.applyAll surroundings number layers = .ok (reached, around))
    (loaded : reached.load environment = .ok settings) (field : SettingField) :
    settings.value field = (loader.overriding? layers environment field).getD
      (reached.loadUnchecked.value field) := by
  rw [load_value loaded, (applyAll_value applied).1]
  rfl

/-- Settings loaded after layers are the overridden ones, and they have no fault.  Those taken
without a check lack what the variables give: a field differs exactly when the variables give it a
value other than the one it had from the layers, and so both are the same settings only if no
variable changes a field. -/
theorem unchecked_lacks_overrides
    (applied : loader.applyAll surroundings number layers = .ok (reached, around))
    (loaded : reached.load environment = .ok settings) :
    let given := loader.overriding? layers environment
    let unchecked := reached.loadUnchecked
    (reached.overridden environment = .ok settings ∧ settings.fault? = none) ∧
    (∀ field, settings.value field = (given field).getD (unchecked.value field)) ∧
    (∀ field, unchecked.value field ≠ settings.value field ↔
      ∃ value, given field = some value ∧ value ≠ unchecked.value field) ∧
    (unchecked = settings ↔
      ∀ field value, given field = some value → value = unchecked.value field) := by
  intro given unchecked
  have values (field : SettingField) :
      settings.value field = (given field).getD (unchecked.value field) :=
    load_value_unchecked applied loaded field
  refine ⟨load_ok_iff.mp loaded, values, ?_, ?_⟩
  · intro field
    rw [values field]
    cases given field with
    | none => simp
    | some value => simp [eq_comm]
  · constructor
    · intro same field value gives
      rw [same, values field, gives]
      rfl
    · intro idle
      apply Settings.ext_value
      intro field
      rw [values field]
      cases gives : given field with
      | none => rfl
      | some value => exact (idle field value gives).symm

def namedShop : Environment := [("SHOP__CONTEXT__NAME", "shop")]

/-- The name that a variable gives is loaded, and lost where the check is left out. -/
theorem namedShop_unchecked :
    let reached : Loader := { leader := some "SHOP" }
    reached.load namedShop = .ok { context := { name := "shop" } } ∧
      reached.loadUnchecked.value .contextName = .text "default" ∧
      reached.loadUnchecked ≠ { context := { name := "shop" } } := by
  intro reached
  have upper : Text.Uppercase.upper "shop" = "SHOP" := by decide +kernel
  have applied : ({} : Loader).applyAll {} 0 [.overrides "shop"] = .ok (reached, {}) := by
    rw [applyAll, apply, upper]
    rfl
  have loaded : reached.load namedShop = .ok { context := { name := "shop" } } := by
    decide +kernel
  have gives : ({} : Loader).overriding? [.overrides "shop"] namedShop .contextName =
      some (.text "shop") := by
    decide +kernel
  obtain ⟨-, -, -, agree⟩ := unchecked_lacks_overrides applied loaded
  refine ⟨loaded, rfl, fun same => ?_⟩
  have idle := agree.mp same .contextName (.text "shop") gives
  revert idle
  decide

end Loader

end RequestPipeline
