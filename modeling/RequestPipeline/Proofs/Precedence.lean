import RequestPipeline.Routing

/-!
# Precedence of patterns

When one pattern outranks another, as an order on shapes and lengths, and why no two patterns that
were read from texts tie for a path that both accept.
-/

namespace RequestPipeline

namespace PathPattern

/-- The length in bytes of the part that a subtree shares with every path in it. -/
def reach : PathPattern → Nat
  | .subtree stem => stem.utf8ByteSize
  | _ => 0

/-- The shape stands higher, or the stem of a subtree is longer. -/
def Outranks (a b : PathPattern) : Prop := b.rank < a.rank ∨ a.rank = b.rank ∧ b.reach < a.reach

theorem precedence_eq_gt_iff (a b : PathPattern) : a.precedence b = .gt ↔ a.Outranks b := by
  cases a <;> cases b <;> simp [precedence, Outranks, rank, reach, Nat.compare_eq_gt]

theorem not_outranks_self (a : PathPattern) : ¬ a.Outranks a := by
  simp only [Outranks]
  omega

theorem Outranks.trans {a b c : PathPattern} (first : a.Outranks b) (second : b.Outranks c) :
    a.Outranks c := by
  simp only [Outranks] at first second ⊢
  omega

/-- What does not outrank something does not outrank what is above it. -/
theorem not_outranks_trans {a b c : PathPattern} (first : ¬ a.Outranks b)
    (second : ¬ b.Outranks c) : ¬ a.Outranks c := by
  simp only [Outranks] at first second ⊢
  omega

/-! ## No ties -/

/-- Of the texts that stand for the context root none is read as a single path. -/
theorem exact_of_parse {text path : String} (read : parse text = .ok (.exact path)) :
    path ≠ "" ∧ path ≠ "/" := by
  unfold parse at read
  split at read
  · next pattern found =>
      cases read
      unfold ofChars? at found
      split at found
      · cases found
      · cases found
      · split at found
        · cases found
        · cases found
      · next rest longer _ =>
          split at found
          · split at found
            · cases found
            · cases found
          · split at found
            · cases found
            · cases found
              constructor
              · intro same
                have chars := congrArg String.toList same
                simp at chars
              · intro same
                have chars := congrArg String.toList same
                simp only [String.toList_ofList] at chars
                exact longer (List.cons.inj chars).2
      · cases found
  · cases read

/-- No path falls under both a single path that was read from a text and the context root. -/
theorem not_root_of_exact {text wanted path : String} (read : parse text = .ok (.exact wanted))
    (accepts : (exact wanted).accepts path = true) : root.accepts path = false := by
  obtain ⟨filled, below⟩ := exact_of_parse read
  have here : wanted = path := by simpa [PathPattern.accepts] using accepts
  rw [here] at filled below
  simp [PathPattern.accepts, filled, below]

/-- Two beginnings of one text that are equally long in bytes are the same. -/
theorem eq_of_beginnings {s t : String} {path rest other : List Char}
    (first : path = s.toList ++ rest) (second : path = t.toList ++ other)
    (equally : s.utf8ByteSize = t.utf8ByteSize) : s = t := by
  have longer {s t : String} (early : s.toList <+: t.toList)
      (equally : s.utf8ByteSize = t.utf8ByteSize) : s = t := by
    obtain ⟨more, joined⟩ := early
    have whole : t = s ++ String.ofList more := by
      apply String.toList_inj.mp
      rw [String.toList_append, String.toList_ofList, joined]
    have size := congrArg String.utf8ByteSize whole
    rw [String.utf8ByteSize_append] at size
    have none : (String.ofList more).utf8ByteSize = 0 := by omega
    rw [String.utf8ByteSize_eq_zero_iff.mp none, String.append_empty] at whole
    exact whole.symm
  have early : s.toList <+: path := ⟨rest, first.symm⟩
  have late : t.toList <+: path := ⟨other, second.symm⟩
  rcases List.prefix_or_prefix_of_prefix early late with shorter | shorter
  · exact longer shorter equally
  · exact (longer shorter equally.symm).symm

theorem subtree_accepts {stem path : String} (accepts : (subtree stem).accepts path = true) :
    ∃ rest, path.toList = stem.toList ++ rest := by
  simp only [PathPattern.accepts] at accepts
  split at accepts
  · next rest stripped => exact ⟨rest, Text.stripStart?_eq_some.mp stripped⟩
  · cases accepts

/-- Two patterns that were read from texts and accept the same path are the same, or one of them
outranks the other. -/
theorem eq_of_tie {a b : PathPattern} (readFirst : ∃ text, parse text = .ok a)
    (readSecond : ∃ text, parse text = .ok b) {path : String} (first : a.accepts path = true)
    (second : b.accepts path = true) (below : ¬ a.Outranks b) (above : ¬ b.Outranks a) :
    a = b := by
  obtain ⟨firstText, readFirst⟩ := readFirst
  obtain ⟨secondText, readSecond⟩ := readSecond
  have rank : a.rank = b.rank := by
    simp only [Outranks] at below above
    omega
  have reach : a.reach = b.reach := by
    simp only [Outranks] at below above
    omega
  cases a with
  | exact wanted =>
      have here : wanted = path := by simpa [accepts] using first
      cases b with
      | exact other =>
          have there : other = path := by simpa [accepts] using second
          rw [here, there]
      | root => cases second.symm.trans (not_root_of_exact readFirst first)
      | _ => cases rank
  | root =>
      cases b with
      | exact wanted => cases first.symm.trans (not_root_of_exact readSecond second)
      | root => rfl
      | _ => cases rank
  | subtree stem =>
      cases b with
      | subtree other =>
          obtain ⟨rest, here⟩ := subtree_accepts first
          obtain ⟨more, there⟩ := subtree_accepts second
          rw [eq_of_beginnings here there reach]
      | _ => cases rank
  | extension ext =>
      cases b with
      | extension other =>
          have here : extensionOf? path.toList = some ext.toList := by
            simpa [accepts] using first
          have there : extensionOf? path.toList = some other.toList := by
            simpa [accepts] using second
          have same := Option.some.inj (here.symm.trans there)
          rw [String.toList_inj.mp same]
      | _ => cases rank
  | fallback =>
      cases b with
      | fallback => rfl
      | _ => cases rank

end PathPattern

end RequestPipeline
