import PageServer.Text.Blank
/-! Pieces of a text. Taking a text apart at a separator and putting it together again are inverse
to each other, and leaving pieces out leaves characters out. -/
namespace PageServer.Text

section Splitting

variable {sep : Char}

theorem splitAt_of_not_mem {s : List Char} (absent : sep ∉ s) : splitAt sep s = [s] := by
  induction s with
  | nil => rfl
  | cons head rest ih =>
      simp only [List.mem_cons, not_or] at absent
      simp [splitAt, Ne.symm absent.1, ih absent.2]

theorem splitAt_append_sep (front back : List Char) :
    splitAt sep (front ++ sep :: back) = splitAt sep front ++ splitAt sep back := by
  induction front with
  | nil => simp [splitAt]
  | cons head rest ih =>
      by_cases ends : head = sep
      · simp [splitAt, ends, ih]
      · cases pieces : splitAt sep rest with
        | nil => exact absurd pieces (splitAt_ne_nil sep rest)
        | cons first others => simp [splitAt, ends, ih, pieces]

theorem mem_splitAt (sep : Char) {c : Char} {s : List Char} (member : c ∈ s) :
    c = sep ∨ ∃ piece ∈ splitAt sep s, c ∈ piece := by
  induction s with
  | nil => simp at member
  | cons head rest ih =>
      by_cases ends : head = sep
      · rcases List.mem_cons.mp member with rfl | later
        · exact .inl ends
        · rcases ih later with same | ⟨piece, among, inside⟩
          · exact .inl same
          · exact .inr ⟨piece, by simp [splitAt, ends, among], inside⟩
      · cases pieces : splitAt sep rest with
        | nil => exact absurd pieces (splitAt_ne_nil sep rest)
        | cons first others =>
            simp only [splitAt, ends, ↓reduceIte, pieces]
            rcases List.mem_cons.mp member with rfl | later
            · exact .inr ⟨_, List.mem_cons_self, List.mem_cons_self⟩
            · rcases ih later with same | ⟨piece, among, inside⟩
              · exact .inl same
              · rw [pieces] at among
                rcases List.mem_cons.mp among with rfl | among
                · exact .inr ⟨_, List.mem_cons_self, List.mem_cons_of_mem _ inside⟩
                · exact .inr ⟨piece, List.mem_cons_of_mem _ among, inside⟩

theorem not_mem_of_mem_splitAt {s piece : List Char} (among : piece ∈ splitAt sep s) :
    sep ∉ piece := by
  induction s generalizing piece with
  | nil => simp_all [splitAt]
  | cons head rest ih =>
      by_cases ends : head = sep
      · simp only [splitAt, ends, ↓reduceIte, List.mem_cons] at among
        rcases among with rfl | later
        · exact List.not_mem_nil
        · exact ih later
      · cases pieces : splitAt sep rest with
        | nil => exact absurd pieces (splitAt_ne_nil sep rest)
        | cons first others =>
            simp only [splitAt, ends, ↓reduceIte, pieces, List.mem_cons] at among
            rcases among with rfl | later
            · have first := ih (pieces ▸ List.mem_cons_self)
              simp [Ne.symm ends, first]
            · exact ih (pieces ▸ List.mem_cons_of_mem _ later)

end Splitting

section Joining

variable {sep : Char}

theorem joinWith_splitAt (s : List Char) : joinWith [sep] (splitAt sep s) = s := by
  induction s with
  | nil => rfl
  | cons head rest ih =>
      cases pieces : splitAt sep rest with
      | nil => exact absurd pieces (splitAt_ne_nil sep rest)
      | cons first others =>
          rw [pieces] at ih
          by_cases ends : head = sep
          · simp [splitAt, ends, pieces, joinWith, ih]
          · simp only [splitAt, ends, ↓reduceIte, pieces]
            cases others with
            | nil => simpa [joinWith] using ih
            | cons second others => simpa [joinWith] using ih

theorem splitAt_joinWith {pieces : List (List Char)} (some_piece : pieces ≠ [])
    (whole : ∀ piece ∈ pieces, sep ∉ piece) : splitAt sep (joinWith [sep] pieces) = pieces := by
  induction pieces with
  | nil => exact absurd rfl some_piece
  | cons first others ih =>
      have alone := splitAt_of_not_mem (whole first List.mem_cons_self)
      cases others with
      | nil => exact alone
      | cons second others =>
          have rest := ih (by simp) fun piece member => whole piece (.tail _ member)
          have joined : joinWith [sep] (first :: second :: others) =
              first ++ sep :: joinWith [sep] (second :: others) := by
            simp [joinWith]
          rw [joined, splitAt_append_sep, alone, rest]
          rfl

theorem flatten_sublist_joinWith (sep : List Char) (pieces : List (List Char)) :
    pieces.flatten.Sublist (joinWith sep pieces) := by
  induction pieces with
  | nil => exact .slnil
  | cons first others ih =>
      cases others with
      | nil => simp [joinWith]
      | cons second others =>
          have behind := (ih.trans (List.sublist_append_right sep _)).append_left first
          simpa only [List.flatten_cons, joinWith, List.append_assoc] using behind

-- A piece takes the separator behind it along, so the last piece is a case of its own.
theorem joinWith_sublist {sep : List Char} {fewer pieces : List (List Char)}
    (kept : fewer.Sublist pieces) : (joinWith sep fewer).Sublist (joinWith sep pieces) := by
  induction kept with
  | slnil => exact .slnil
  | @cons fewer pieces first _ ih =>
      refine ih.trans ?_
      cases pieces with
      | nil => exact List.nil_sublist _
      | cons second others => exact List.sublist_append_right _ _
  | @cons_cons fewer pieces first kept ih =>
      cases fewer with
      | nil =>
          cases pieces with
          | nil => exact .refl _
          | cons second others =>
              simp only [joinWith, List.append_assoc]
              exact List.sublist_append_left _ _
      | cons second others =>
          cases pieces with
          | nil => cases kept
          | cons _ _ => exact ih.append_left _

end Joining

end PageServer.Text
