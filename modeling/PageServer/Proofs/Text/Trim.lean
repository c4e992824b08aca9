import PageServer.Text.Blank
import Mathlib.Data.List.DropRight
/-! Trimming a text. What is left of it, if anything is, is the part between two runs of the
characters left out, with none of them at its own ends. -/
namespace PageServer.Text

section Trimming

variable {p : Char → Bool} {s t : List Char}

/-- A text has none of some characters at its ends. -/
def Trimmed (p : Char → Bool) (s : List Char) : Prop :=
  (∀ c ∈ s.head?, p c = false) ∧ ∀ c ∈ s.getLast?, p c = false

theorem dropTrailing_eq_rdropWhile (p : Char → Bool) (s : List Char) :
    dropTrailing p s = s.rdropWhile p := rfl

theorem dropWhile_of_head (bare : ∀ c ∈ s.head?, p c = false) : s.dropWhile p = s := by
  cases s with
  | nil => rfl
  | cons c rest => exact List.dropWhile_cons_of_neg (by simp [bare c rfl])

theorem dropTrailing_of_last (bare : ∀ c ∈ s.getLast?, p c = false) : dropTrailing p s = s := by
  rw [dropTrailing, dropWhile_of_head, List.reverse_reverse]
  intro c first
  rw [List.head?_reverse] at first
  exact bare c first

theorem dropTrailing_append (kept : List Char) {run : List Char} (all : ∀ c ∈ run, p c = true) :
    dropTrailing p (kept ++ run) = dropTrailing p kept := by
  have turned : ∀ c ∈ run.reverse, p c = true := fun c member => all c (List.mem_reverse.mp member)
  rw [dropTrailing, List.reverse_append, List.dropWhile_append_of_pos turned, dropTrailing]

theorem trimmed_trim (p : Char → Bool) (s : List Char) : Trimmed p (trim p s) := by
  constructor
  · intro c first
    -- The first character is that of the text behind the run at its start.
    obtain ⟨run, kept⟩ := List.rdropWhile_prefix p (s.dropWhile p)
    have ahead : (s.dropWhile p).head? = some c := by
      have leads : (s.dropWhile p).rdropWhile p = trim p s := rfl
      rw [← kept, leads, List.head?_append, first, Option.some_or]
    have bare := List.head?_dropWhile_not p s
    rw [ahead] at bare
    simpa using bare
  · intro c last
    have filled : trim p s ≠ [] := by
      intro empty
      rw [empty] at last
      cases last
    have bare := List.rdropWhile_last_not p (s.dropWhile p) filled
    rw [List.getLast?_eq_some_getLast filled, Option.mem_some_iff] at last
    rw [← last]
    exact (Bool.not_eq_true _).mp bare

theorem trim_of_trimmed (trimmed : Trimmed p t) {left right : List Char}
    (before : ∀ c ∈ left, p c = true) (behind : ∀ c ∈ right, p c = true) (filled : t ≠ []) :
    trim p (left ++ t ++ right) = t := by
  have bare : ∀ c ∈ (t ++ right).head?, p c = false := by
    intro c first
    rw [List.head?_append_of_ne_nil _ filled] at first
    exact trimmed.1 c first
  rw [trim, List.append_assoc, List.dropWhile_append_of_pos before, dropWhile_of_head bare,
    dropTrailing_append t behind, dropTrailing_of_last trimmed.2]

theorem trim_eq_iff (filled : t ≠ []) :
    trim p s = t ↔ Trimmed p t ∧ ∃ left right, left ++ t ++ right = s ∧
      (∀ c ∈ left, p c = true) ∧ ∀ c ∈ right, p c = true := by
  constructor
  · rintro rfl
    refine ⟨trimmed_trim p s, s.takeWhile p, (s.dropWhile p).rtakeWhile p, ?_,
      fun c => List.mem_takeWhile_imp, fun c => List.mem_rtakeWhile_imp⟩
    rw [List.append_assoc, trim, dropTrailing_eq_rdropWhile, List.rdropWhile_append_rtakeWhile,
      List.takeWhile_append_dropWhile]
  · rintro ⟨trimmed, left, right, rfl, before, behind⟩
    exact trim_of_trimmed trimmed before behind filled

end Trimming

end PageServer.Text
