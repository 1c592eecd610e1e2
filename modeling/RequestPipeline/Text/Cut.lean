/-!
# Cutting a text at a character

Splitting at every occurrence, cutting at the first one, and reading what follows the last one.
-/

namespace RequestPipeline.Text

/-- The pieces between the occurrences of `mark`; there is always at least one. -/
def splitAt (mark : Char) : List Char → List (List Char)
  | [] => [[]]
  | c :: rest =>
      if c = mark then [] :: splitAt mark rest
      else
        match splitAt mark rest with
        | [] => [[c]]
        | piece :: pieces => (c :: piece) :: pieces

theorem splitAt_ne_nil (mark : Char) (cs : List Char) : splitAt mark cs ≠ [] := by
  cases cs with
  | nil => simp [splitAt]
  | cons c rest =>
      unfold splitAt
      split
      · simp
      · split <;> simp

def cutFirst? (mark : Char) : List Char → Option (List Char × List Char)
  | [] => none
  | c :: rest =>
      if c = mark then some ([], rest)
      else (cutFirst? mark rest).map fun (before, after) => (c :: before, after)

theorem cutFirst?_eq_some {mark : Char} {cs before after : List Char}
    (cut : cutFirst? mark cs = some (before, after)) :
    cs = before ++ mark :: after ∧ mark ∉ before := by
  induction cs generalizing before with
  | nil => simp [cutFirst?] at cut
  | cons c rest ih =>
      unfold cutFirst? at cut
      split at cut
      · next same =>
          simp only [Option.some.injEq, Prod.mk.injEq] at cut
          obtain ⟨rfl, rfl⟩ := cut
          simp [same]
      · next differs =>
          obtain ⟨⟨b, a⟩, found, pair⟩ := Option.map_eq_some_iff.1 cut
          simp only [Prod.mk.injEq] at pair
          obtain ⟨rfl, rfl⟩ := pair
          obtain ⟨text, free⟩ := ih found
          refine ⟨by simp [text], ?_⟩
          simp only [List.mem_cons, not_or]
          exact ⟨fun same => differs same.symm, free⟩

def afterLast (mark : Char) (cs : List Char) : List Char :=
  (cs.reverse.takeWhile (· ≠ mark)).reverse

/-- The ending after the last `mark`, if there is one. -/
def afterLast? (mark : Char) (cs : List Char) : Option (List Char) :=
  if mark ∈ cs then some (afterLast mark cs) else none

def stripStart? : List Char → List Char → Option (List Char)
  | [], cs => some cs
  | _ :: _, [] => none
  | h :: head, c :: cs => if h = c then stripStart? head cs else none

theorem stripStart?_eq_some {head cs rest : List Char} :
    stripStart? head cs = some rest ↔ cs = head ++ rest := by
  induction head generalizing cs with
  | nil => simp [stripStart?]
  | cons h head ih =>
      cases cs with
      | nil => simp [stripStart?]
      | cons c cs =>
          unfold stripStart?
          split
          · next same => simp [ih, same]
          · next differs =>
              simp only [reduceCtorEq, List.cons_append, List.cons.injEq, false_iff, not_and]
              exact fun same => absurd same.symm differs

def stripEnd? (tail cs : List Char) : Option (List Char) :=
  (stripStart? tail.reverse cs.reverse).map List.reverse

theorem stripEnd?_eq_some {tail cs stem : List Char} :
    stripEnd? tail cs = some stem ↔ cs = stem ++ tail := by
  unfold stripEnd?
  constructor
  · intro stripped
    obtain ⟨turned, found, rfl⟩ := Option.map_eq_some_iff.1 stripped
    have text := congrArg List.reverse (stripStart?_eq_some.1 found)
    simpa using text
  · rintro rfl
    rw [Option.map_eq_some_iff]
    exact ⟨stem.reverse, stripStart?_eq_some.2 (by simp), by simp⟩

end RequestPipeline.Text
