import RequestPipeline.Proofs.PatternTexts

/-!
# What patterns stand for

The paths that the text of a pattern stands for, and the paths that are accepted.  They are the same
unless an extension holds a dot: of a path only what follows its last dot is compared, so that no
path is accepted for such an extension.
-/

namespace RequestPipeline

/-! ## The last part of a text -/

namespace Text

variable {mark : Char} {cs rest : List Char}

theorem afterLast_append (free : mark ∉ rest) (before : List Char) :
    afterLast mark (before ++ mark :: rest) = rest := by
  have kept : ∀ c ∈ rest.reverse, decide (c ≠ mark) = true := by
    rintro c member
    refine decide_eq_true ?_
    rintro rfl
    exact free (List.mem_reverse.mp member)
  have turned : (before ++ mark :: rest).reverse = rest.reverse ++ mark :: before.reverse := by
    simp
  rw [afterLast, turned, List.takeWhile_append_of_pos kept, List.takeWhile_cons_of_neg (by simp),
    List.append_nil, List.reverse_reverse]

theorem afterLast?_eq_some : afterLast? mark cs = some rest ↔
    ∃ before, cs = before ++ mark :: rest ∧ mark ∉ rest := by
  constructor
  · intro found
    unfold afterLast? at found
    split at found
    · next inside =>
        obtain ⟨late, early, turned, free⟩ :=
          List.eq_append_cons_of_mem (List.mem_reverse.mpr inside)
        have whole : cs = early.reverse ++ mark :: late.reverse := by
          rw [← List.reverse_reverse cs, turned]
          simp
        rw [← List.mem_reverse] at free
        rw [whole, afterLast_append free] at found
        rw [← Option.some.inj found]
        exact ⟨_, whole, free⟩
    · cases found
  · rintro ⟨before, rfl, free⟩
    rw [afterLast?, if_pos (by simp), afterLast_append free]

end Text

namespace PathPattern

open Text

variable {text ext stem rest path : List Char}

/-! ## The meaning of a text -/

/-- The paths that the text of a pattern stands for. -/
inductive Covers : List Char → List Char → Prop
  | root : Covers [] ['/']
  | fallback (path : List Char) : Covers ['/'] path
  | exact {path : List Char} (rooted : path.head? = some '/') (longer : path ≠ ['/'])
      (starless : '*' ∉ path) : Covers path path
  | stem (stem : List Char) : Covers (stem ++ ['/', '*']) stem
  | below (stem rest : List Char) : Covers (stem ++ ['/', '*']) (stem ++ '/' :: rest)
  | extension {ext name : List Char} (last : '/' ∉ name ++ '.' :: ext) (folder : List Char) :
      Covers ('*' :: '.' :: ext) (folder ++ '/' :: (name ++ '.' :: ext))

theorem covers_empty : Covers [] path ↔ path = ['/'] := by
  constructor
  · generalize written : ([] : List Char) = text
    intro covers
    cases covers with
    | root => rfl
    | fallback path => cases written
    | exact rooted longer starless =>
        rw [← written] at rooted
        cases rooted
    | stem stem => simp at written
    | below stem rest => simp at written
    | extension last folder => cases written
  · rintro rfl
    exact .root

theorem covers_exact (filled : rest ≠ []) (starless : '*' ∉ rest) :
    Covers ('/' :: rest) path ↔ path = '/' :: rest := by
  constructor
  · generalize written : '/' :: rest = text
    intro covers
    have free : '*' ∉ text := by simp [← written, starless]
    cases covers with
    | root => cases written
    | fallback path => exact absurd (List.cons.inj written).2 filled
    | exact rooted longer starless => rfl
    | stem stem => simp at free
    | below stem rest => simp at free
    | extension last folder => cases written
  · rintro rfl
    exact .exact rfl (by simp [filled]) (by simp [starless])

theorem covers_subtree (rooted : (stem ++ ['/']).head? = some '/') :
    Covers (stem ++ ['/', '*']) path ↔ path = stem ∨ ∃ rest, path = stem ++ '/' :: rest := by
  constructor
  · generalize written : stem ++ ['/', '*'] = text
    intro covers
    have star : '*' ∈ text := by simp [← written]
    cases covers with
    | root => cases star
    | fallback path => simp at star
    | exact rooted longer starless => exact absurd star starless
    | stem other => exact Or.inl (List.append_cancel_right written).symm
    | below other rest => exact Or.inr ⟨rest, by rw [List.append_cancel_right written]⟩
    | extension last folder =>
        obtain ⟨rest, whole⟩ := slash_of_rooted rooted ['*']
        rw [List.append_assoc] at whole
        cases whole.symm.trans written
  · rintro (rfl | ⟨rest, rfl⟩)
    · exact .stem path
    · exact .below stem rest

theorem covers_extension (slashless : '/' ∉ ext) : Covers ('*' :: '.' :: ext) path ↔
    ∃ folder name, path = folder ++ '/' :: (name ++ '.' :: ext) ∧ '/' ∉ name ++ '.' :: ext := by
  constructor
  · generalize written : '*' :: '.' :: ext = text
    intro covers
    have free : '/' ∉ text := by simp [← written, slashless]
    cases covers with
    | root => cases written
    | fallback path => simp at free
    | exact rooted longer starless =>
        rw [← written] at rooted
        cases rooted
    | stem stem => simp at free
    | below stem rest => simp at free
    | @extension other name last folder =>
        cases written
        exact ⟨folder, name, rfl, last⟩
  · rintro ⟨folder, name, rfl, last⟩
    exact .extension last folder

/-! ## What is accepted -/

theorem accepts_subtree_iff {stem path : String} : (subtree stem).accepts path = true ↔
    path.toList = stem.toList ∨ ∃ rest, path.toList = stem.toList ++ '/' :: rest := by
  constructor
  · intro accepted
    simp only [accepts] at accepted
    split at accepted
    · next rest stripped =>
        have whole := stripStart?_eq_some.mp stripped
        cases rest with
        | nil => exact Or.inl (whole.trans (List.append_nil _))
        | cons c rest =>
            have slash : c = '/' := by simpa using accepted
            exact Or.inr ⟨rest, slash ▸ whole⟩
    · cases accepted
  · rintro (whole | ⟨rest, whole⟩)
    · simp [accepts, stripStart?_eq_some.mpr (whole.trans (List.append_nil _).symm)]
    · simp [accepts, stripStart?_eq_some.mpr whole]

/-- What is compared with an extension has no dot. -/
theorem undotted_of_accepts {ext path : String} (accepted : (extension ext).accepts path = true) :
    '.' ∉ ext.toList := by
  obtain ⟨-, -, undotted⟩ := afterLast?_eq_some.mp (eq_of_beq accepted)
  exact undotted

/-- What is accepted for an extension without a dot ends in it behind a dot, in the last segment. -/
theorem accepts_extension_iff {ext path : String} (rooted : '/' ∈ path.toList) :
    (extension ext).accepts path = true ↔ (∃ folder name,
      path.toList = folder ++ '/' :: (name ++ '.' :: ext.toList) ∧
      '/' ∉ name ++ '.' :: ext.toList) ∧ '.' ∉ ext.toList := by
  have segment (last : List Char) : afterLast '/' path.toList = last ↔
      ∃ folder, path.toList = folder ++ '/' :: last ∧ '/' ∉ last := by
    rw [← afterLast?_eq_some, afterLast?, if_pos rooted, Option.some.injEq]
  have compared : (extension ext).accepts path = true ↔
      ∃ name, afterLast '/' path.toList = name ++ '.' :: ext.toList ∧ '.' ∉ ext.toList := by
    rw [← afterLast?_eq_some]
    exact beq_iff_eq
  rw [compared]
  constructor
  · rintro ⟨name, last, undotted⟩
    obtain ⟨folder, whole, slashless⟩ := (segment _).mp last
    exact ⟨⟨folder, name, whole, slashless⟩, undotted⟩
  · rintro ⟨⟨folder, name, whole, slashless⟩, undotted⟩
    exact ⟨name, (segment _).mpr ⟨folder, whole, slashless⟩, undotted⟩

/-- The text is that of an extension with a dot in it. -/
def IsDotted (text : List Char) : Prop := ∃ ext, text = '*' :: '.' :: ext ∧ '.' ∈ ext

theorem not_isDotted_of_slash (rooted : text.head? = some '/') : ¬ IsDotted text := by
  rintro ⟨ext, rfl, -⟩
  cases rooted

/-- A star and a dot in front make an extension. -/
theorem extension_of_spells {pattern : PathPattern} (spells : Spells ('*' :: '.' :: ext) pattern) :
    pattern = extension (String.ofList ext) ∧ '/' ∉ ext := by
  have read := ofChars?_of_spells spells
  simp only [ofChars?] at read
  split at read
  · cases read
  · next plain =>
      rw [not_or, not_or] at plain
      exact ⟨(Option.some.inj read).symm, plain.2.1⟩

/-- A rooted path is accepted for what a text spells if the text stands for it and is not that of an
extension with a dot. -/
theorem Spells.accepts_iff {pattern : PathPattern} (spells : Spells text pattern) {path : String}
    (rooted : path.toList.head? = some '/') :
    pattern.accepts path = true ↔ Covers text path.toList ∧ ¬ IsDotted text := by
  cases spells with
  | root =>
      have plain : ¬ IsDotted [] := by
        rintro ⟨ext, written, -⟩
        cases written
      have filled : path ≠ "" := by
        rintro rfl
        cases rooted
      have slash : path.toList = ['/'] ↔ path = "/" := by
        rw [← String.toList_inj]
        rfl
      simp [accepts, plain, covers_empty, slash, filled]
  | fallback => exact iff_of_true rfl ⟨.fallback _, not_isDotted_of_slash rfl⟩
  | @exact rest filled starless =>
      have accepted : (PathPattern.exact (String.ofList ('/' :: rest))).accepts path = true ↔
          String.ofList ('/' :: rest) = path := beq_iff_eq
      rw [accepted, covers_exact filled starless, and_iff_left (not_isDotted_of_slash rfl),
        eq_comm, ← String.toList_inj, String.toList_ofList]
  | @subtree stem inside starless =>
      have plain : ¬ IsDotted (stem ++ ['/', '*']) := by
        obtain ⟨rest, whole⟩ := slash_of_rooted inside ['*']
        rw [List.append_assoc] at whole
        exact whole ▸ not_isDotted_of_slash rfl
      rw [accepts_subtree_iff, covers_subtree inside, and_iff_left plain, String.toList_ofList]
  | @extension ext filled slashless starless =>
      have dotted : IsDotted ('*' :: '.' :: ext) ↔ '.' ∈ ext := by
        constructor
        · rintro ⟨other, written, inside⟩
          cases written
          exact inside
        · exact fun inside => ⟨ext, rfl, inside⟩
      rw [accepts_extension_iff (List.mem_of_mem_head? rooted), covers_extension slashless, dotted,
        String.toList_ofList]

/-- A pattern that was read accepts the rooted paths that its text stands for, and no others, unless
the text is that of an extension with a dot in it.  For such an extension, which is read like any
other, no path is accepted at all, although its text stands for every path whose last segment ends
in the dot and the extension. -/
theorem covered_paths_are_accepted_unless_dotted {text : String} {pattern : PathPattern}
    (read : parse text = .ok pattern) :
    (∀ path : String, path.toList.head? = some '/' →
      (pattern.accepts path = true ↔ Covers text.toList path.toList ∧ ¬ IsDotted text.toList)) ∧
    (IsDotted text.toList →
      (∀ path : String, pattern.accepts path = false) ∧
      ∀ folder name : List Char, '/' ∉ name →
        Covers text.toList (folder ++ '/' :: (name ++ text.toList.tail))) := by
  have spells := parse_eq_ok_iff.mp read
  refine ⟨fun path rooted => spells.accepts_iff rooted, ?_⟩
  rintro ⟨ext, written, dotted⟩
  rw [written] at spells ⊢
  obtain ⟨rfl, slashless⟩ := extension_of_spells spells
  constructor
  · intro path
    rw [Bool.eq_false_iff]
    intro accepted
    have undotted := undotted_of_accepts accepted
    rw [String.toList_ofList] at undotted
    exact undotted dotted
  · intro folder name plain
    exact .extension (by simp [plain, slashless]) folder

/-- An archive is not accepted for its own extension. -/
theorem archive_is_not_accepted :
    parse "*.tar.gz" = .ok (extension "tar.gz") ∧
    Covers "*.tar.gz".toList "/f.tar.gz".toList ∧
    (extension "tar.gz").accepts "/f.tar.gz" = false ∧
    (extension "gz").accepts "/f.tar.gz" = true := by
  have read : parse "*.tar.gz" = .ok (extension "tar.gz") := by decide
  obtain ⟨-, missed⟩ := covered_paths_are_accepted_unless_dotted read
  obtain ⟨refused, covered⟩ := missed ⟨"tar.gz".toList, by decide, by decide⟩
  obtain ⟨accepted, -⟩ := covered_paths_are_accepted_unless_dotted
    (by decide : parse "*.gz" = .ok (extension "gz"))
  refine ⟨read, covered [] ['f'] (by decide), refused "/f.tar.gz", ?_⟩
  refine (accepted "/f.tar.gz" rfl).mpr
    ⟨@Covers.extension "gz".toList "f.tar".toList (by decide) [], ?_⟩
  rintro ⟨ext, written, dotted⟩
  cases written
  exact absurd dotted (by decide)

end PathPattern

end RequestPipeline
