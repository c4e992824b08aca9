import PageServer.Text.Blank
/-! Membership in a class of characters that is given by ranges of code points. A table lists
closed ranges in ascending order, so a search may stop at the first range that starts above the
character; `inRanges_iff` says that it misses none. -/
namespace PageServer.Text

/-- Whether a code point lies in one of the closed ranges of an ascending table. -/
def inRanges : List (Nat × Nat) → Nat → Bool
  | [], _ => false
  | (low, high) :: rest, n => if n < low then false else n ≤ high || inRanges rest n

/-- Whether each range of a table starts at or after every earlier one. -/
def Ascending (table : List (Nat × Nat)) : Prop :=
  table.Pairwise fun earlier later => earlier.1 ≤ later.1

theorem inRanges_iff (table : List (Nat × Nat)) (ordered : Ascending table) (n : Nat) :
    inRanges table n = true ↔ ∃ range ∈ table, range.1 ≤ n ∧ n ≤ range.2 := by
  induction table with
  | nil => simp [inRanges]
  | cons range rest ih =>
      obtain ⟨low, high⟩ := range
      have tail := ih (List.Pairwise.of_cons ordered)
      have above : ∀ later ∈ rest, low ≤ later.1 := by
        intro later member
        exact (List.pairwise_cons.mp ordered).1 later member
      simp only [inRanges]
      by_cases below : n < low
      · simp only [below, if_true]
        constructor
        · intro impossible
          cases impossible
        · rintro ⟨later, member, low_le, _⟩
          rcases List.mem_cons.mp member with rfl | member
          · exact absurd low_le (Nat.not_le.mpr below)
          · exact absurd (Nat.le_trans (above later member) low_le) (Nat.not_le.mpr below)
      · simp only [below, if_false, Bool.or_eq_true, decide_eq_true_eq, tail]
        constructor
        · rintro (within | ⟨later, member, bounds⟩)
          · exact ⟨(low, high), List.mem_cons_self, Nat.not_lt.mp below, within⟩
          · exact ⟨later, List.mem_cons_of_mem _ member, bounds⟩
        · rintro ⟨later, member, bounds⟩
          rcases List.mem_cons.mp member with rfl | member
          · exact Or.inl bounds.2
          · exact Or.inr ⟨later, member, bounds⟩

/-- The entries of a table that is written in lines, with bars between them. -/
def entriesOf (lines : List String) : List (List Char) :=
  lines.flatMap fun line => splitAt '|' line.toList

end PageServer.Text
