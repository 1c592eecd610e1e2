import RequestPipeline.Proofs.RegistrationLog
import RequestPipeline.Proofs.Resolution

/-!
# Texts of patterns

Which texts are patterns, and why a pattern is known by its text: it is shown as it was written, and
no two texts are read as the same pattern.  The routing index, which is kept by pattern, is thereby
kept by text.
-/

namespace RequestPipeline

namespace PathPattern

open Text

/-- A text spells a pattern, in one way for each shape. -/
inductive Spells : List Char → PathPattern → Prop
  | root : Spells [] .root
  | fallback : Spells ['/'] .fallback
  | extension {ext : List Char} (filled : ext ≠ []) (slashless : '/' ∉ ext) (starless : '*' ∉ ext) :
      Spells ('*' :: '.' :: ext) (.extension (String.ofList ext))
  | subtree {stem : List Char} (rooted : (stem ++ ['/']).head? = some '/') (starless : '*' ∉ stem) :
      Spells (stem ++ ['/', '*']) (.subtree (String.ofList stem))
  | exact {rest : List Char} (filled : rest ≠ []) (starless : '*' ∉ rest) :
      Spells ('/' :: rest) (.exact (String.ofList ('/' :: rest)))

variable {cs rest stem : List Char} {pattern : PathPattern}

theorem slash_of_rooted (rooted : (stem ++ ['/']).head? = some '/') (more : List Char) :
    ∃ rest, stem ++ ['/'] ++ more = '/' :: rest := by
  obtain ⟨rest, whole⟩ := List.head?_eq_some_iff.mp rooted
  exact ⟨rest ++ more, by rw [whole]; rfl⟩

/-- What a text with a slash in front and more behind it is read as. -/
theorem ofChars?_slash (filled : rest ≠ []) : ofChars? ('/' :: rest) =
    match stem? ('/' :: rest) with
    | some stem => if '*' ∈ stem then none else some (.subtree (String.ofList stem))
    | none => if '*' ∈ rest then none else some (.exact (String.ofList ('/' :: rest))) := by
  cases rest with
  | nil => exact absurd rfl filled
  | cons c rest => rfl

/-- A text that is read spells what it is read as. -/
theorem spells_of_ofChars? (read : ofChars? cs = some pattern) : Spells cs pattern := by
  unfold ofChars? at read
  split at read
  · cases read
    exact .root
  · cases read
    exact .fallback
  · next ext =>
      split at read
      · cases read
      · next plain =>
          cases read
          obtain ⟨filled, slashless, starless⟩ := not_or.mp plain |>.imp_right not_or.mp
          exact .extension filled slashless starless
  · next rest longer =>
      split at read
      · next stem stripped =>
          split at read
          · cases read
          · next starless =>
              cases read
              have written : '/' :: rest = stem ++ ['/', '*'] := stripEnd?_eq_some.mp stripped
              have rooted : (stem ++ ['/']).head? = some '/' := by
                cases stem with
                | nil => rfl
                | cons c stem => rw [(List.cons.inj written).1]; rfl
              rw [written]
              exact .subtree rooted starless
      · split at read
        · cases read
        · next starless =>
            cases read
            exact .exact longer starless
  · cases read

theorem ofChars?_of_spells (spells : Spells cs pattern) : ofChars? cs = some pattern := by
  cases spells with
  | root => rfl
  | fallback => rfl
  | extension filled slashless starless => simp [ofChars?, filled, slashless, starless]
  | @subtree stem rooted starless =>
      obtain ⟨rest, written⟩ := slash_of_rooted rooted ['*']
      rw [List.append_assoc] at written
      change stem ++ ['/', '*'] = '/' :: rest at written
      have filled : rest ≠ [] := by
        rintro rfl
        have lengths := congrArg List.length written
        simp at lengths
      have stripped : stem? ('/' :: rest) = some stem := stripEnd?_eq_some.mpr written.symm
      rw [written, ofChars?_slash filled, stripped]
      exact if_neg starless
  | @exact rest filled starless =>
      have unstripped : stem? ('/' :: rest) = none := by
        refine Option.eq_none_iff_forall_ne_some.mpr fun stem stripped => ?_
        have written : '/' :: rest = stem ++ ['/', '*'] := stripEnd?_eq_some.mp stripped
        have star : '*' ∈ '/' :: rest := by simp [written]
        exact starless (List.mem_of_ne_of_mem (by decide) star)
      rw [ofChars?_slash filled, unstripped]
      exact if_neg starless

/-- Reading finds the pattern that a text spells. -/
theorem ofChars?_eq_some_iff : ofChars? cs = some pattern ↔ Spells cs pattern :=
  ⟨spells_of_ofChars?, ofChars?_of_spells⟩

theorem parse_eq_ok_iff {text : String} :
    parse text = .ok pattern ↔ Spells text.toList pattern := by
  rw [← ofChars?_eq_some_iff, parse]
  cases ofChars? text.toList with
  | none => simp
  | some found => simp

/-! ## Which texts are patterns -/

/-- The texts that are patterns: a star stands in front of a dot and an extension, or at the very
end behind a slash. -/
inductive IsPatternText : List Char → Prop
  | empty : IsPatternText []
  | extension {ext : List Char} (filled : ext ≠ []) (slashless : '/' ∉ ext)
      (starless : '*' ∉ ext) : IsPatternText ('*' :: '.' :: ext)
  | slashed {rest : List Char} (stars : ∀ before after, '/' :: rest = before ++ '*' :: after →
      after = [] ∧ before.getLast? = some '/') : IsPatternText ('/' :: rest)

theorem Spells.isPatternText (spells : Spells cs pattern) : IsPatternText cs := by
  cases spells with
  | root => exact .empty
  | fallback =>
      refine .slashed fun before after split => ?_
      have star : '*' ∈ ['/'] := by simp [split]
      exact absurd star (by decide)
  | extension filled slashless starless => exact .extension filled slashless starless
  | @subtree stem rooted starless =>
      obtain ⟨rest, written⟩ := slash_of_rooted rooted ['*']
      have whole : stem ++ ['/', '*'] = '/' :: rest := by rw [← written]; simp
      rw [whole]
      refine .slashed fun before after split => ?_
      have free : '*' ∉ stem ++ ['/'] := by simp [starless]
      obtain ⟨rfl, -, rfl⟩ :=
        (List.append_cons_inj_of_notMem free List.not_mem_nil).mp (written.trans split)
      exact ⟨rfl, List.getLast?_concat⟩
  | @exact rest filled starless =>
      refine .slashed fun before after split => ?_
      have star : '*' ∈ '/' :: rest := by simp [split]
      exact absurd (List.mem_of_ne_of_mem (by decide) star) starless

theorem IsPatternText.spells (isText : IsPatternText cs) : ∃ pattern, Spells cs pattern := by
  cases isText with
  | empty => exact ⟨_, .root⟩
  | extension filled slashless starless => exact ⟨_, .extension filled slashless starless⟩
  | @slashed rest stars =>
      by_cases star : '*' ∈ rest
      · obtain ⟨before, after, split⟩ := List.append_of_mem star
        obtain ⟨rfl, last⟩ := stars ('/' :: before) after (by rw [split]; rfl)
        obtain ⟨stem, slash⟩ := List.getLast?_eq_some_iff.mp last
        have written : '/' :: rest = stem ++ ['/', '*'] := by
          rw [split, ← List.cons_append, slash, List.append_assoc]
          rfl
        have rooted : (stem ++ ['/']).head? = some '/' := by rw [← slash]; rfl
        rw [written]
        refine ⟨_, .subtree rooted fun inner => ?_⟩
        obtain ⟨early, late, parts⟩ := List.append_of_mem inner
        have ended := (stars early (late ++ ['/', '*']) (by rw [written, parts]; simp)).1
        simp at ended
      · cases rest with
        | nil => exact ⟨_, .fallback⟩
        | cons c rest => exact ⟨_, .exact (List.cons_ne_nil c rest) star⟩

theorem isPatternText_iff {written : String} :
    IsPatternText written.toList ↔ ∃ pattern, parse written = .ok pattern := by
  constructor
  · intro isText
    obtain ⟨pattern, spells⟩ := isText.spells
    exact ⟨pattern, parse_eq_ok_iff.mpr spells⟩
  · rintro ⟨pattern, read⟩
    exact (parse_eq_ok_iff.mp read).isPatternText

/-- Patterns that were read from texts are the same if they are shown alike. -/
theorem eq_of_text_eq {a b : PathPattern} (readFirst : ∃ written, parse written = .ok a)
    (readSecond : ∃ written, parse written = .ok b) (alike : a.text = b.text) : a = b := by
  obtain ⟨first, readFirst⟩ := readFirst
  obtain ⟨second, readSecond⟩ := readSecond
  have same : first = second := by
    rw [← text_of_parse readFirst, alike, text_of_parse readSecond]
  rw [same] at readFirst
  exact Except.ok.inj (readFirst.symm.trans readSecond)

end PathPattern

/-! ## The routing index by text -/

/-- The unit of the last mapping whose pattern is written so. -/
def lastUnitUnder? (mappings : List UnitMapping) (text : String) : Option String :=
  ((mappings.filter (·.pattern.text = text)).getLast?).map (·.unit)

theorem lastUnitUnder?_text {table : RegistrationTable} (legible : table.Legible)
    {pattern : PathPattern} (read : ∃ text, PathPattern.parse text = .ok pattern) :
    lastUnitUnder? table.unitMappings pattern.text = lastUnit? table.unitMappings pattern := by
  rw [lastUnitUnder?, lastUnit?]
  congr 2
  refine List.filter_congr fun mapping member => ?_
  refine decide_eq_decide.mpr ⟨fun alike => ?_, fun same => by rw [same]⟩
  exact PathPattern.eq_of_text_eq (legible mapping member) read alike

theorem mem_of_lastUnitUnder? {mappings : List UnitMapping} {text unit : String}
    (last : lastUnitUnder? mappings text = some unit) :
    ∃ mapping ∈ mappings, mapping.pattern.text = text := by
  obtain ⟨mapping, found, -⟩ := Option.map_eq_some_iff.mp last
  obtain ⟨member, alike⟩ := List.mem_filter.mp (List.mem_of_getLast? found)
  exact ⟨mapping, member, of_decide_eq_true alike⟩

namespace RoutingTable

variable {snapshot : Snapshot}

/-- Every route leads from a pattern that was read from a text. -/
theorem read_of_mem_routes (legible : snapshot.table.Legible)
    {errorUnit : Option (Instance ServiceUnit)} {route : PathPattern × String}
    (listed : route ∈ (build snapshot errorUnit).routes) :
    ∃ text, PathPattern.parse text = .ok route.1 := by
  have last := ((mem_foldl_enter snapshot.table.unitMappings).2 route.1 route.2).mp listed
  obtain ⟨mapping, member, same, -⟩ := mem_of_lastUnit? last
  rw [← same]
  exact legible mapping member

theorem nodup_shownRoutes (legible : snapshot.table.Legible)
    (errorUnit : Option (Instance ServiceUnit)) :
    ((build snapshot errorUnit).shownRoutes.map Prod.fst).Nodup := by
  have distinct := (mem_foldl_enter snapshot.table.unitMappings).1
  have texts : (build snapshot errorUnit).shownRoutes.map Prod.fst =
      ((build snapshot errorUnit).routes.map Prod.fst).map PathPattern.text := by
    rw [shownRoutes, List.map_map, List.map_map]
    rfl
  rw [texts]
  refine List.Nodup.map_on ?_ distinct
  intro a first b second alike
  obtain ⟨here, listedHere, rfl⟩ := List.mem_map.mp first
  obtain ⟨there, listedThere, rfl⟩ := List.mem_map.mp second
  exact PathPattern.eq_of_text_eq (read_of_mem_routes legible listedHere)
    (read_of_mem_routes legible listedThere) alike

theorem mem_shownRoutes (legible : snapshot.table.Legible)
    (errorUnit : Option (Instance ServiceUnit)) {text unit : String} :
    (text, unit) ∈ (build snapshot errorUnit).shownRoutes ↔
      lastUnitUnder? snapshot.table.unitMappings text = some unit := by
  have routes := (mem_foldl_enter snapshot.table.unitMappings).2
  constructor
  · intro shown
    obtain ⟨route, listed, same⟩ := List.mem_map.mp shown
    obtain ⟨rfl, rfl⟩ := Prod.mk.inj same
    rw [lastUnitUnder?_text legible (read_of_mem_routes legible listed)]
    exact (routes route.1 route.2).mp listed
  · intro last
    obtain ⟨mapping, member, rfl⟩ := mem_of_lastUnitUnder? last
    rw [lastUnitUnder?_text legible (legible mapping member)] at last
    exact List.mem_map.mpr ⟨_, (routes mapping.pattern unit).mpr last, rfl⟩

end RoutingTable

namespace PathPattern

/-- A text is a pattern if it is empty, if it is an extension behind a star and a dot, or if it
begins with a slash and has no star but at its end behind a slash.  A pattern that was read is shown
as the text it was read from, and is read from that text again.  No two texts are read as the same
pattern, and the routing index shows one route for each text that is mapped, to the unit of the last
mapping written so. -/
theorem patterns_are_known_by_text :
    (∀ text : String, (∃ pattern, parse text = .ok pattern) ↔ IsPatternText text.toList) ∧
    (∀ (text : String) (pattern : PathPattern), parse text = .ok pattern →
      pattern.text = text ∧ parse pattern.text = .ok pattern) ∧
    (∀ (text other : String) (a b : PathPattern), parse text = .ok a → parse other = .ok b →
      (a = b ↔ text = other)) ∧
    ∀ (snapshot : Snapshot) (errorUnit : Option (Instance ServiceUnit)),
      snapshot.table.Legible →
      let shown := (RoutingTable.build snapshot errorUnit).shownRoutes
      (shown.map Prod.fst).Nodup ∧ ∀ text unit, (text, unit) ∈ shown ↔
        lastUnitUnder? snapshot.table.unitMappings text = some unit := by
  refine ⟨fun text => isPatternText_iff.symm, ?_, ?_, ?_⟩
  · intro text pattern read
    have same := text_of_parse read
    exact ⟨same, by rw [same]; exact read⟩
  · intro text other a b first second
    rw [← text_of_parse first, ← text_of_parse second]
    exact ⟨congrArg PathPattern.text, eq_of_text_eq ⟨text, first⟩ ⟨other, second⟩⟩
  · intro snapshot errorUnit legible shown
    exact ⟨RoutingTable.nodup_shownRoutes legible errorUnit, fun text unit =>
      RoutingTable.mem_shownRoutes legible errorUnit⟩

def tillSnapshot : Snapshot where
  table := { unitMappings := [⟨"cart", .exact "/cart"⟩, ⟨"shop", .subtree "/cart"⟩,
    ⟨"till", .exact "/cart"⟩] }
  units := []
  interceptors := []

/-- The till takes the place of the cart, and what is below is left to the shop. -/
theorem cart_leads_to_till :
    (∃ pattern, parse "*.tar.gz" = .ok pattern) ∧ ¬ (∃ pattern, parse "/cart*" = .ok pattern) ∧
    (subtree "/cart").text = "/cart/*" ∧ subtree "/cart" ≠ exact "/cart/" ∧
    let shown := (RoutingTable.build tillSnapshot none).shownRoutes
    ("/cart", "till") ∈ shown ∧ ("/cart", "cart") ∉ shown ∧ ("/cart/*", "shop") ∈ shown := by
  obtain ⟨language, texts, distinct, routes⟩ := patterns_are_known_by_text
  have legible : tillSnapshot.table.Legible := by
    intro mapping member
    simp only [tillSnapshot, List.mem_cons, List.not_mem_nil, or_false] at member
    rcases member with rfl | rfl | rfl
    · exact ⟨"/cart", by decide⟩
    · exact ⟨"/cart/*", by decide⟩
    · exact ⟨"/cart", by decide⟩
  obtain ⟨-, shown⟩ := routes tillSnapshot none legible
  refine ⟨?_, ?_, (texts "/cart/*" (subtree "/cart") (by decide)).1, ?_, ?_, ?_, ?_⟩
  · exact (language "*.tar.gz").mpr (.extension (by decide) (by decide) (by decide))
  · rw [language]
    rintro (_ | _ | stars)
    exact absurd (stars "/cart".toList [] rfl).2 (by decide)
  · intro same
    have alike := (distinct "/cart/*" "/cart/" _ _ (by decide) (by decide)).mp same
    exact absurd alike (by decide)
  · exact (shown "/cart" "till").mpr (by decide)
  · exact fun listed => absurd ((shown "/cart" "cart").mp listed) (by decide)
  · exact (shown "/cart/*" "shop").mpr (by decide)

end PathPattern

end RequestPipeline
