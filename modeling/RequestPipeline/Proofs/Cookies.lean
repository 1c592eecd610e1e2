import Mathlib.Algebra.GroupWithZero.Nat
import RequestPipeline.Http.Cookie

/-!
# Cookies that are brought back

The text that a cookie was given is the one that is read from it when the cookie comes back,
whatever other cookies come behind it.
-/

namespace RequestPipeline

/-! ## Cutting and trimming -/

namespace Text

variable {mark : Char} {cs before after : List Char}

theorem splitAt_free (free : mark ∉ cs) : splitAt mark cs = [cs] := by
  induction cs with
  | nil => rfl
  | cons c rest ih =>
      obtain ⟨differs, freeRest⟩ := not_or.mp (mt List.mem_cons.mpr free)
      rw [splitAt, if_neg (Ne.symm differs), ih freeRest]

theorem cutFirst?_append (free : mark ∉ before) :
    cutFirst? mark (before ++ mark :: after) = some (before, after) := by
  induction before with
  | nil => rw [List.nil_append, cutFirst?, if_pos rfl]
  | cons c rest ih =>
      obtain ⟨differs, freeRest⟩ := not_or.mp (mt List.mem_cons.mpr free)
      rw [List.cons_append, cutFirst?, if_neg (Ne.symm differs), ih freeRest]
      rfl

/-- A text without white space is trimmed already. -/
theorem trim_visible (visible : ∀ c ∈ cs, isBlank c = false) : trim cs = cs := by
  have kept {cs : List Char} (visible : ∀ c ∈ cs, isBlank c = false) :
      cs.dropWhile isBlank = cs := by
    cases cs with
    | nil => rfl
    | cons c rest => rw [List.dropWhile_cons_of_neg (by simp [visible c List.mem_cons_self])]
  rw [trim, kept visible, dropEndWhile,
    kept fun c member => visible c (List.mem_reverse.mp member), List.reverse_reverse]

end Text

/-! ## Characters of names -/

namespace Http

/-- A character that ends neither a piece of a cookie nor its name, and is no white space. -/
structure IsInert (c : Char) : Prop where
  plain : isPlainChar c = true
  visible : Text.isBlank c = false
  semicolon : c ≠ ';'
  equals : c ≠ '='

/-- A visible character of ASCII is inert unless it is one of the two marks. -/
theorem isInert_of_range {c : Char} (low : 33 ≤ c.toNat) (high : c.toNat < 127)
    (semicolon : c ≠ ';') (equals : c ≠ '=') : IsInert c := by
  have value : c.val.toNat = c.toNat := rfl
  refine ⟨?_, ?_, semicolon, equals⟩
  · simp only [isPlainChar, Bool.or_eq_true, Bool.and_eq_true, decide_eq_true_eq,
      UInt32.le_iff_toNat_le, UInt32.lt_iff_toNat_lt, value]
    exact Or.inr ⟨Nat.le_trans (by decide) low, high⟩
  · simp only [Text.isBlank, Bool.or_eq_false_iff, Bool.and_eq_false_iff, decide_eq_false_iff_not,
      beq_eq_false_iff_ne, ne_eq, ← UInt32.toNat_inj, UInt32.le_iff_toNat_le, value,
      UInt32.reduceToNat]
    omega

theorem isInert_of_isTokenChar {c : Char} (token : isTokenChar c = true) : IsInert c := by
  have alphanumeric (inside : c.isAlphanum = true) : IsInert c := by
    have value : c.val.toNat = c.toNat := rfl
    delta Char.isAlphanum Char.isAlpha Char.isUpper Char.isLower Char.isDigit at inside
    simp only [Bool.or_eq_true, Bool.and_eq_true, decide_eq_true_eq, ge_iff_le,
      UInt32.le_iff_toNat_le, value, Char.reduceVal, UInt32.reduceToNat] at inside
    apply isInert_of_range
    · omega
    · omega
    · rintro rfl
      revert inside
      decide
    · rintro rfl
      revert inside
      decide
  rcases Bool.or_eq_true_iff.mp token with inside | mark
  · exact alphanumeric inside
  · -- one mark after the other, rather than every character there is
    have inert : "!#$%&'*+-.^_\x60|~".toList.all (fun mark => decide (isPlainChar mark = true ∧
        Text.isBlank mark = false ∧ mark ≠ ';' ∧ mark ≠ '=')) = true := by
      decide
    obtain ⟨plain, visible, semicolon, equals⟩ :=
      of_decide_eq_true (List.all_eq_true.mp inert c (List.contains_iff_mem.mp mark))
    exact ⟨plain, visible, semicolon, equals⟩

/-! ## Cookies -/

namespace Cookie

variable {name path text : String} {others : List String}

/-- A cookie as it comes back: its name with the text that it was given. -/
def presented (name text : String) : String := name ++ "=" ++ text

theorem toList_presented (name text : String) :
    (presented name text).toList = name.toList ++ '=' :: text.toList := by
  simp [presented]

theorem isInert_of_mem_name (token : isToken name = true) {c : Char} (member : c ∈ name.toList) :
    IsInert c :=
  isInert_of_isTokenChar (List.all_eq_true.mp (Bool.and_eq_true_iff.mp token).2 c member)

section Presented

variable (token : isToken name = true) (inert : ∀ c ∈ text.toList, IsInert c)
include token inert

/-- What comes back is plain, without white space, and of one piece. -/
theorem presented_chars : ∀ c ∈ (presented name text).toList,
    isPlainChar c = true ∧ Text.isBlank c = false ∧ c ≠ ';' := by
  intro c member
  rw [toList_presented] at member
  rcases List.mem_append.mp member with early | late
  · have inert := isInert_of_mem_name token early
    exact ⟨inert.plain, inert.visible, inert.semicolon⟩
  · rcases List.mem_cons.mp late with rfl | later
    · decide
    · have inert := inert c later
      exact ⟨inert.plain, inert.visible, inert.semicolon⟩

theorem pairs_presented : pairs (presented name text) = [(name.toList, text.toList)] := by
  have chars := presented_chars token inert
  have whole : Text.splitAt ';' (presented name text).toList = [(presented name text).toList] :=
    Text.splitAt_free fun member => (chars _ member).2.2 rfl
  have read : pair? (presented name text).toList = some (name.toList, text.toList) := by
    rw [pair?, Text.trim_visible fun c member => (chars c member).2.1, toList_presented]
    exact Text.cutFirst?_append fun member => (isInert_of_mem_name token member).equals rfl
  rw [pairs, whole, List.filterMap_cons_some read, List.filterMap_nil]

/-- A cookie that comes back in front of all others gives its text. -/
theorem value?_presented (others : List String) :
    value? name (presented name text :: others) = some text.toList := by
  have plain : isPlainValue (presented name text) = true :=
    List.all_eq_true.mpr fun c member => (presented_chars token inert c member).1
  have first : allPairs (presented name text :: others) =
      (name.toList, text.toList) :: allPairs others := by
    rw [allPairs, List.filter_cons_of_pos plain, List.flatMap_cons, pairs_presented token inert]
    rfl
  rw [value?, first, List.find?_cons_of_pos (by exact beq_self_eq_true name.toList),
    Option.map_some, Text.trim_visible fun c member => (inert c member).visible]

end Presented

theorem toList_setValue (name path text : String) :
    (setValue name path text).toList = (presented name text).toList ++
      ';' :: (" Path=".toList ++ (path.toList ++ "; HttpOnly; SameSite=Lax".toList)) := by
  simp [setValue, presented]

/-- What comes back is what stands before the first semicolon of the value that was set. -/
theorem cutFirst?_setValue (token : isToken name = true) (inert : ∀ c ∈ text.toList, IsInert c)
    (path : String) : ∃ attributes, Text.cutFirst? ';' (setValue name path text).toList =
      some ((presented name text).toList, attributes) := by
  rw [toList_setValue]
  exact ⟨_, Text.cutFirst?_append fun member => (presented_chars token inert _ member).2.2 rfl⟩

/-- The value that asks for a cookie may stand in a field. -/
theorem isFieldValue_setValue (token : isToken name = true)
    (inert : ∀ c ∈ text.toList, IsInert c)
    (printable : ∀ c ∈ path.toList, 32 ≤ c.val ∧ c.val ≠ 127) :
    isFieldValue (setValue name path text) = true := by
  have pair : (presented name text).toList.all isFieldChar = true :=
    List.all_eq_true.mpr fun c member =>
      isFieldChar_of_isPlainChar (presented_chars token inert c member).1
  have inside : path.toList.all isFieldChar = true := by
    refine List.all_eq_true.mpr fun c member => ?_
    obtain ⟨low, delete⟩ := printable c member
    simp [isFieldChar, low, delete]
  rw [isFieldValue, toList_setValue, List.all_append, List.all_cons, List.all_append,
    List.all_append, pair, inside]
  decide

end Cookie

end Http

end RequestPipeline
