import RequestPipeline.Identifier
import RequestPipeline.Proofs.Cookies

/-!
# Schemes of identifiers

What a session stage relies on in the identifiers that it exchanges, and that the standard scheme
can be relied on.
-/

namespace RequestPipeline

namespace Identifier

/-- A character of an identifier's text. -/
def isTextChar (c : Char) : Prop := c = '-' ∨ ∃ digit, c = hexDigit digit

end Identifier

/-- Identifiers are read back from their texts, which are hyphens and lower-case digits, and the
first `supply` that are issued all differ. -/
structure IdentifierScheme.Lawful (scheme : IdentifierScheme) (supply : Nat) : Prop where
  read_text : ∀ id, scheme.read? (scheme.text id).toList = some id
  text_chars : ∀ id, ∀ c ∈ (scheme.text id).toList, Identifier.isTextChar c
  issue_ne : ∀ {earlier later : Nat}, earlier < later → later ≤ supply →
    scheme.issue earlier ≠ scheme.issue later

/-- What is written of an identifier ends no piece of a cookie and no name. -/
theorem Http.isInert_of_isTextChar {c : Char} (written : Identifier.isTextChar c) :
    Http.IsInert c := by
  rcases written with rfl | ⟨digit, rfl⟩
  · exact ⟨by decide, by decide, by decide, by decide⟩
  · have inert : ∀ digit, Http.isPlainChar (hexDigit digit) = true ∧
        Text.isBlank (hexDigit digit) = false ∧ hexDigit digit ≠ ';' ∧ hexDigit digit ≠ '=' := by
      decide
    obtain ⟨plain, visible, semicolon, equals⟩ := inert digit
    exact ⟨plain, visible, semicolon, equals⟩

theorem IdentifierScheme.Lawful.isInert {scheme : IdentifierScheme} {supply : Nat}
    (lawful : scheme.Lawful supply) (id : Identifier) :
    ∀ c ∈ (scheme.text id).toList, Http.IsInert c :=
  fun c member => Http.isInert_of_isTextChar (lawful.text_chars id c member)

/-! ## The standard scheme -/

namespace Identifier

theorem readDigits_map_hexDigit (digits : List (Fin 16)) (rest : List Char) :
    readDigits digits.length (digits.map hexDigit ++ rest) = some (digits, rest) := by
  induction digits with
  | nil => rfl
  | cons digit digits ih => simp [readDigits, hexValue?_hexDigit, ih]

theorem readDigits_hyphen {digits : List (Fin 16)} {width : Nat} (short : digits.length < width)
    (rest : List Char) : readDigits width (digits.map hexDigit ++ '-' :: rest) = none := by
  induction digits generalizing width with
  | nil =>
      obtain ⟨more, rfl⟩ := Nat.exists_eq_add_of_lt short
      rfl
  | cons digit digits ih =>
      obtain ⟨more, rfl⟩ := Nat.exists_eq_add_of_lt short
      have shorter : digits.length < digits.length + more + 1 := by omega
      simp [readDigits, ih shorter, Nat.add_right_comm _ 1]

/-- Groups that were written are read back. -/
theorem readGroups_writeGroups (group : Nat) (groups : List Nat) (digits : List (Fin 16))
    (whole : digits.length = group + groups.sum) :
    readGroups (group :: groups) (writeGroups (group :: groups) digits) = some digits := by
  induction groups generalizing group digits with
  | nil =>
      rw [List.sum_nil, Nat.add_zero] at whole
      have read := readDigits_map_hexDigit digits []
      rw [List.append_nil, whole] at read
      rw [writeGroups, List.take_of_length_le (Nat.le_of_eq whole), readGroups, read]
  | cons next groups ih =>
      rw [List.sum_cons] at whole
      have taken : (digits.take group).length = group := by
        rw [List.length_take]
        omega
      have read := readDigits_map_hexDigit (digits.take group)
        ('-' :: writeGroups (next :: groups) (digits.drop group))
      have rest := ih next (digits.drop group) (by rw [List.length_drop]; omega)
      rw [taken] at read
      rw [writeGroups, readGroups, read]
      · change Option.map _ (readGroups (next :: groups) _) = _
        rw [rest, Option.map_some, List.take_append_drop]
      · simp

/-- The text of an identifier is read as that identifier. -/
theorem parse?_text (id : Identifier) : parse? id.text.toList = some id := by
  have plain : readPlain? id.text.toList = none := by
    have short : (id.digits.take 8).length < 32 := by
      rw [List.length_take]
      omega
    have stopped : readDigits 32 (writeGroups groups id.digits) = none :=
      readDigits_hyphen short (writeGroups [4, 4, 4, 12] (id.digits.drop 8))
    rw [text, String.toList_ofList, readPlain?, readGroups, stopped]
    rfl
  have hyphenated : readHyphenated? id.text.toList = some id := by
    have read := readGroups_writeGroups 8 [4, 4, 4, 12] id.digits id.length_digits
    rw [text, String.toList_ofList, readHyphenated?, groups, read, Option.bind_some, ofDigits?,
      dif_pos id.length_digits]
  rw [parse?, plain, hyphenated]
  rfl

theorem isTextChar_of_mem {groups : List Nat} {digits : List (Fin 16)} {c : Char}
    (member : c ∈ writeGroups groups digits) : isTextChar c := by
  have ofDigits {digits : List (Fin 16)} (member : c ∈ digits.map hexDigit) : isTextChar c := by
    obtain ⟨digit, -, rfl⟩ := List.mem_map.mp member
    exact Or.inr ⟨digit, rfl⟩
  induction groups generalizing digits with
  | nil => cases member
  | cons group rest ih =>
      cases rest with
      | nil => exact ofDigits member
      | cons next rest =>
          rcases List.mem_append.mp member with early | late
          · exact ofDigits early
          · rcases List.mem_cons.mp late with hyphen | later
            · exact Or.inl hyphen
            · exact ih later

/-- The digits of a number give it back, as long as they are enough. -/
theorem foldl_lowDigits (width n : Nat) :
    (lowDigits width n).foldl (fun n digit => n * 16 + digit.val) 0 = n % 16 ^ width := by
  induction width generalizing n with
  | zero => simp [lowDigits, Nat.mod_one]
  | succ width ih =>
      rw [lowDigits, List.foldl_append, ih, Nat.pow_succ', Nat.mod_mul]
      simp only [List.foldl_cons, List.foldl_nil, Fin.val_ofNat]
      omega

/-- An identifier that was issued tells its number. -/
theorem issuedNumber?_issued {n : Nat} (within : n < 16 ^ 12) :
    (issued n).issuedNumber? = some n := by
  have head : (issued n).digits.take 20 = issuedHead :=
    List.take_left' rfl
  have tail : (issued n).digits.drop 20 = lowDigits 12 n :=
    List.drop_left' rfl
  rw [issuedNumber?, if_pos head, tail, foldl_lowDigits, Nat.mod_eq_of_lt within]

end Identifier

theorem IdentifierScheme.standard_lawful : standard.Lawful (16 ^ 12 - 1) where
  read_text := Identifier.parse?_text
  text_chars id c member := by
    change c ∈ id.text.toList at member
    rw [Identifier.text, String.toList_ofList] at member
    exact Identifier.isTextChar_of_mem member
  issue_ne := by
    intro earlier later before within same
    have told := congrArg Identifier.issuedNumber? same
    change (Identifier.issued earlier).issuedNumber? = (Identifier.issued later).issuedNumber? at told
    rw [Identifier.issuedNumber?_issued (by omega), Identifier.issuedNumber?_issued (by omega)]
      at told
    exact absurd (Option.some.inj told) (Nat.ne_of_lt before)

end RequestPipeline
