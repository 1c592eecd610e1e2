import RequestPipeline.Proofs.AccessPaths
import RequestPipeline.Proofs.UncheckedSettings

/-!
# The paths under which contexts are mounted

The path of a context is looked at twice: settings are refused unless it is in form, and a context
that is mounted under a text brings the text into form.  Both mean the same form, so that mounting
changes a text exactly if settings with this text as their context path are refused.
-/

namespace RequestPipeline

/-! ## What is dropped at the end of a text -/

namespace Text

variable {p : Char → Bool} {cs : List Char}

theorem dropEndWhile_append_dropped (p : Char → Bool) (cs : List Char) :
    ∃ dropped, cs = dropEndWhile p cs ++ dropped ∧ ∀ c ∈ dropped, p c = true := by
  refine ⟨(cs.reverse.takeWhile p).reverse, ?_, fun c member => ?_⟩
  · rw [dropEndWhile, ← List.reverse_append, List.takeWhile_append_dropWhile, List.reverse_reverse]
  · exact List.all_eq_true.mp List.all_takeWhile c (List.mem_reverse.mp member)

/-- Where the last character may stay, nothing is dropped. -/
theorem dropEndWhile_eq_self (stays : ∀ last, cs.getLast? = some last → p last = false) :
    dropEndWhile p cs = cs := by
  have kept : cs.reverse.dropWhile p = cs.reverse := by
    cases turned : cs.reverse with
    | nil => rfl
    | cons last rest =>
        have ends : cs.getLast? = some last := by
          rw [List.getLast?_eq_head?_reverse, turned, List.head?_cons]
        exact List.dropWhile_cons_of_neg (by simp [stays last ends])
  rw [dropEndWhile, kept, List.reverse_reverse]

end Text

/-! ## Texts in form -/

namespace ContextPath

open Text

variable {text : String}

/-- The form of a context path: it is empty, or has a slash in front and none at the end. -/
def InForm (text : String) : Prop :=
  text = "" ∨ text.toList.head? = some '/' ∧ text.toList.getLast? ≠ some '/'

theorem fault?_eq_none_iff : fault? text = none ↔ InForm text := by
  unfold fault? InForm
  rw [← String.toList_eq_nil_iff]
  dsimp only
  split
  · next empty => simp [empty]
  · next filled =>
      split
      · next bare => simp [filled, bare]
      · next slash =>
          split
          · next ends => simp [filled, ends]
          · next ends => simp [filled, Decidable.not_not.mp slash, ends]

/-- Any text is brought into form. -/
theorem normalize_inForm (text : String) : InForm (normalize text) := by
  have trimmed {last : Char} := @dropEndWhile_last (· == '/') text.toList last
  unfold InForm
  rw [← String.toList_eq_nil_iff, normalize, String.toList_ofList, normalizeChars]
  generalize dropEndWhile (· == '/') text.toList = kept at trimmed
  split
  · next front =>
      refine front.imp id fun slash => ⟨slash, fun ends => ?_⟩
      simpa using trimmed ends
  · next bare =>
      obtain ⟨filled, -⟩ := not_or.mp bare
      refine .inr ⟨rfl, fun ends => ?_⟩
      rw [List.getLast?_cons_of_ne_nil filled] at ends
      simpa using trimmed ends

/-- A text in form is left as it is. -/
theorem normalize_of_inForm (inForm : InForm text) : normalize text = text := by
  have kept : dropEndWhile (· == '/') text.toList = text.toList := by
    apply dropEndWhile_eq_self
    intro last ends
    obtain rfl | ⟨-, noSlash⟩ := inForm
    · cases ends
    · rw [ends] at noSlash
      simpa using noSlash
  have front : text.toList = [] ∨ text.toList.head? = some '/' :=
    inForm.imp String.toList_eq_nil_iff.mpr And.left
  rw [normalize, normalizeChars, kept, if_pos front, String.ofList_toList]

theorem normalize_eq_self_iff : normalize text = text ↔ InForm text :=
  ⟨fun same => same ▸ normalize_inForm text, normalize_of_inForm⟩

/-- Nothing but slashes is dropped at the end, and nothing but one slash is put in front. -/
theorem append_normalize (text : String) : ∃ slashes : String, (∀ c ∈ slashes.toList, c = '/') ∧
    (text = normalize text ++ slashes ∨ "/" ++ text = normalize text ++ slashes) := by
  obtain ⟨dropped, whole, all⟩ := dropEndWhile_append_dropped (· == '/') text.toList
  refine ⟨String.ofList dropped, fun c member => ?_, ?_⟩
  · rw [String.toList_ofList] at member
    simpa using all c member
  · simp only [← String.toList_inj, String.toList_append, String.toList_ofList, normalize,
      normalizeChars]
    split
    · exact .inl whole
    · exact .inr (congrArg ('/' :: ·) whole)

end ContextPath

/-! ## Settings and contexts -/

namespace Settings

/-- Settings with a name are refused for their context path unless it is in form. -/
theorem fault?_contextPath_iff {settings : Settings}
    (named : Text.isBlankText settings.context.name = false) :
    (∃ reason, settings.fault? = some ⟨"context.context_path", reason⟩) ↔
      ContextPath.fault? settings.context.contextPath ≠ none := by
  unfold fault?
  rw [named]
  cases ContextPath.fault? settings.context.contextPath with
  | some fault => simp
  | none =>
      simp only [Bool.false_eq_true, if_false, ne_eq, not_true_eq_false, iff_false]
      rintro ⟨reason, refused⟩
      split at refused
      · simp at refused
      · cases refused

/-- Settings without a fault have a context path in form. -/
theorem inForm_of_faultless {settings : Settings} (faultless : settings.fault? = none) :
    ContextPath.InForm settings.context.contextPath := by
  rw [← ContextPath.fault?_eq_none_iff]
  unfold fault? at faultless
  split at faultless
  · cases faultless
  · split at faultless
    · cases faultless
    · assumption

end Settings

namespace Context

open ContextPath

/-- A context that is mounted under a text has a path in form, which the rule for settings accepts;
mounting it once more under this path changes nothing.  The text itself becomes the path exactly if
the rule accepts it, and otherwise only slashes are dropped at the end and one put in front.  So
settings with a name are refused for a context path exactly if mounting would change it, and a
context described by loaded settings is mounted under the very path that they have. -/
theorem mounts_are_paths_in_form (context : Context) (text : String) :
    let mounted := context.mounted text
    let path := mounted.contextPath
    (ContextPath.fault? path = none ∧
      (path = "" ∨ path.toList.head? = some '/' ∧ path.toList.getLast? ≠ some '/')) ∧
    mounted.mounted path = mounted ∧
    (path = text ↔ ContextPath.fault? text = none) ∧
    (∃ slashes : String, (∀ c ∈ slashes.toList, c = '/') ∧
      (text = path ++ slashes ∨ "/" ++ text = path ++ slashes)) ∧
    (∀ settings : Settings, settings.context.contextPath = text →
      Text.isBlankText settings.context.name = false →
      ((∃ reason, settings.fault? = some ⟨"context.context_path", reason⟩) ↔ path ≠ text)) ∧
    ∀ (loader : Loader) (environment : Environment) (settings : Settings),
      loader.load environment = .ok settings →
      (Context.ofSettings settings.context).contextPath = settings.context.contextPath := by
  intro mounted path
  have inForm : InForm path := normalize_inForm text
  have kept : path = text ↔ ContextPath.fault? text = none :=
    normalize_eq_self_iff.trans fault?_eq_none_iff.symm
  refine ⟨⟨fault?_eq_none_iff.mpr inForm, inForm⟩, ?_, kept, append_normalize text, ?_, ?_⟩
  · have again : normalize path = path := normalize_of_inForm inForm
    exact congrArg (fun path => { context with contextPath := path }) again
  · rintro settings rfl named
    exact (Settings.fault?_contextPath_iff named).trans (not_congr kept).symm
  · intro loader environment settings loaded
    obtain ⟨-, faultless⟩ := Loader.load_ok_iff.mp loaded
    exact normalize_of_inForm (Settings.inForm_of_faultless faultless)

/-- Slashes at the end and a missing one in front are put right, and settings with such a path are
refused; what is loaded is mounted as it is. -/
theorem shop_is_mounted_as_loaded :
    let loader : Loader := { settings := { context := { contextPath := "/shop" } } }
    loader.load [] = .ok loader.settings ∧
      (Context.ofSettings loader.settings.context).contextPath = "/shop" ∧
      ((withOptions {}).mounted "shop//").contextPath = "/shop" ∧
      ∃ reason, Settings.fault? { context := { contextPath := "shop//" } } =
        some ⟨"context.context_path", reason⟩ := by
  intro loader
  have loaded : loader.load [] = .ok loader.settings := by decide
  have path : ((withOptions {}).mounted "shop//").contextPath = "/shop" := by decide
  have differs : ((withOptions {}).mounted "shop//").contextPath ≠ "shop//" := by decide
  obtain ⟨-, -, -, -, refused, asLoaded⟩ := mounts_are_paths_in_form (withOptions {}) "shop//"
  exact ⟨loaded, asLoaded loader [] loader.settings loaded, path,
    (refused { context := { contextPath := "shop//" } } rfl (by decide)).mpr differs⟩

end Context

end RequestPipeline
