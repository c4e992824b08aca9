import Mathlib.Data.List.Flatten
import Mathlib.Data.List.TakeWhile
import Mathlib.Tactic.ByContra
import PageServer.Proofs.Text.Pieces
import PageServer.Template.Directory
/-! Normal path names. A normal name has the proper components of the path it was made of and starts
in the same place, but is never longer. Names that are joined part by part, as templates are looked
up, and names that are joined as a whole have the same normal form. -/
namespace PageServer.Files

open Text

/-! Proper components -/

section Parts

/-- The components that say where a path leads. -/
def properParts (path : List Char) : List Name :=
  (components path).filter isProper

variable {path : List Char} {part : Name}

theorem properParts_append_slash (front back : List Char) :
    properParts (front ++ '/' :: back) = properParts front ++ properParts back := by
  simp only [properParts, components, splitAt_append_sep, List.filter_append]

theorem isProper_of_mem (member : part ∈ properParts path) : isProper part :=
  (List.mem_filter.mp member).2

theorem slash_not_mem_of_mem (member : part ∈ properParts path) : '/' ∉ part :=
  not_mem_of_mem_splitAt (List.mem_filter.mp member).1

/-- The parts of a normal path are its proper components. -/
theorem properParts_joinWith (parts : List Name) (proper : ∀ part ∈ parts, isProper part)
    (whole : ∀ part ∈ parts, '/' ∉ part) : properParts (joinWith ['/'] parts) = parts := by
  cases parts with
  | nil => rfl
  | cons first others =>
      unfold properParts components
      rw [splitAt_joinWith (List.cons_ne_nil _ _) whole, List.filter_eq_self.mpr proper]

/-- Characters other than slashes and dots stand in proper components. -/
theorem mem_iff_mem_properParts {c : Char} (noSlash : c ≠ '/') (noDot : c ≠ '.') :
    c ∈ path ↔ ∃ part ∈ properParts path, c ∈ part := by
  constructor
  · intro member
    obtain ⟨part, among, inside⟩ := (mem_splitAt '/' member).resolve_left noSlash
    refine ⟨part, List.mem_filter.mpr ⟨among, ?_⟩, inside⟩
    have filled : part ≠ [] := List.ne_nil_of_mem inside
    have named : part ≠ dot := by
      rintro rfl
      exact noDot (List.mem_singleton.mp inside)
    simp [isProper, filled, named]
  · rintro ⟨part, among, inside⟩
    have piece : part ∈ splitAt '/' path := (List.mem_filter.mp among).1
    have joined : (joinWith ['/'] [part]).Sublist (joinWith ['/'] (splitAt '/' path)) :=
      joinWith_sublist (List.singleton_sublist.mpr piece)
    rw [joinWith_splitAt] at joined
    exact joined.mem inside

theorem properParts_ne_nil {c : Char} (noSlash : c ≠ '/') (noDot : c ≠ '.') (member : c ∈ path) :
    properParts path ≠ [] := by
  obtain ⟨part, among, _⟩ := (mem_iff_mem_properParts noSlash noDot).mp member
  exact List.ne_nil_of_mem among

end Parts

namespace PathName

/-! Normal form -/

section Text

theorem leadingSlashes_le (path : List Char) :
    leadingSlashes path ≤ (path.takeWhile (· == '/')).length := by
  unfold leadingSlashes
  generalize (path.takeWhile (· == '/')).length = count
  match count with
  | 0 | 1 | 2 => simp
  | count + 3 => simp

theorem leadingSlashes_eq_zero (path : List Char) :
    leadingSlashes path = 0 ↔ path.head? ≠ some '/' := by
  cases path with
  | nil => simp [leadingSlashes]
  | cons c rest =>
      by_cases slash : c = '/'
      · have some_slash : leadingSlashes (c :: rest) ≠ 0 := by
          unfold leadingSlashes
          split <;> simp_all
        simp [slash ▸ some_slash, slash]
      · simp [leadingSlashes, slash]

variable {path : List Char}

theorem head?_joinWith (parts : List Name) (proper : ∀ part ∈ parts, isProper part)
    (whole : ∀ part ∈ parts, '/' ∉ part) : (joinWith ['/'] parts).head? ≠ some '/' := by
  cases parts with
  | nil => simp [joinWith]
  | cons first others =>
      have filled := proper first List.mem_cons_self
      have no_slash := whole first List.mem_cons_self
      cases first with
      | nil => cases filled
      | cons c rest =>
          have other : c ≠ '/' := fun same => no_slash (same ▸ List.mem_cons_self)
          cases others <;> simp [joinWith, other]

theorem head?_replicate_append (count : Nat) {rest : List Char} (other : rest.head? ≠ some '/') :
    (List.replicate count '/' ++ rest).head? = some '/' ↔ count ≠ 0 := by
  cases count with
  | zero => simpa using other
  | succ count => simp [List.replicate_succ]

theorem components_replicate_append (count : Nat) (rest : List Char) :
    components (List.replicate count '/' ++ rest) = List.replicate count [] ++ components rest := by
  induction count with
  | zero => rfl
  | succ count ih =>
      rw [List.replicate_succ, List.replicate_succ, List.cons_append, List.cons_append, ← ih]
      exact splitAt_append_sep [] _

theorem properParts_replicate_append (count : Nat) (rest : List Char) :
    properParts (List.replicate count '/' ++ rest) = properParts rest := by
  have slashes : (List.replicate count ([] : Name)).filter isProper = [] := by
    simp [isProper]
  rw [properParts, components_replicate_append, List.filter_append, slashes, List.nil_append]
  rfl

theorem properParts_text (path : List Char) :
    properParts (ofPath path).text = properParts path := by
  unfold text
  split
  · rename_i bare
    exact bare.2.symm
  · rw [properParts_replicate_append]
    exact properParts_joinWith _ (fun _ => isProper_of_mem) fun _ => slash_not_mem_of_mem

theorem components_text (goes : properParts path ≠ []) :
    components (ofPath path).text =
      List.replicate (leadingSlashes path) [] ++ properParts path := by
  have named : ¬((ofPath path).slashes = 0 ∧ (ofPath path).parts = []) := fun bare => goes bare.2
  rw [text, if_neg named, components_replicate_append]
  exact congrArg _ (splitAt_joinWith goes fun _ => slash_not_mem_of_mem)

theorem head?_text (path : List Char) :
    (ofPath path).text.head? = some '/' ↔ path.head? = some '/' := by
  have starts : path.head? = some '/' ↔ (ofPath path).slashes ≠ 0 := by
    change _ ↔ leadingSlashes path ≠ 0
    rw [ne_eq, leadingSlashes_eq_zero, not_not]
  rw [starts]
  unfold text
  split
  · rename_i bare
    simp [bare.1, dot]
  · exact head?_replicate_append _
      (head?_joinWith _ (fun _ => isProper_of_mem) fun _ => slash_not_mem_of_mem)

theorem text_ne_nil (path : List Char) : (ofPath path).text ≠ [] := by
  unfold text
  split
  · exact List.cons_ne_nil _ _
  · rename_i bare
    intro empty
    obtain ⟨no_slash, no_parts⟩ := List.append_eq_nil_iff.mp empty
    have slashes : (ofPath path).slashes = 0 := by simpa using no_slash
    have parts : (ofPath path).parts = [] := by
      have same := properParts_joinWith (ofPath path).parts (fun _ => isProper_of_mem)
        fun _ => slash_not_mem_of_mem
      rw [no_parts] at same
      exact same.symm
    exact bare ⟨slashes, parts⟩

theorem mem_text {c : Char} (noSlash : c ≠ '/') (noDot : c ≠ '.') :
    c ∈ (ofPath path).text ↔ c ∈ path := by
  rw [mem_iff_mem_properParts noSlash noDot, mem_iff_mem_properParts noSlash noDot,
    properParts_text]

/-- The slashes at the start of a path, and what comes after them. -/
theorem eq_replicate_append (path : List Char) :
    ∃ rest, path = List.replicate (path.takeWhile (· == '/')).length '/' ++ rest := by
  refine ⟨path.dropWhile (· == '/'), ?_⟩
  have slashes : path.takeWhile (· == '/') =
      List.replicate (path.takeWhile (· == '/')).length '/' := by
    refine List.eq_replicate_iff.mpr ⟨rfl, fun c member => ?_⟩
    simpa using List.mem_takeWhile_imp member
  rw [← slashes, List.takeWhile_append_dropWhile]

theorem joinWith_properParts_sublist (path : List Char) :
    (joinWith ['/'] (properParts path)).Sublist path := by
  have kept : (properParts path).Sublist (components path) := List.filter_sublist
  have fewer : (joinWith ['/'] (properParts path)).Sublist (joinWith ['/'] (components path)) :=
    joinWith_sublist kept
  rwa [components, joinWith_splitAt] at fewer

theorem utf8_properParts_le (path : List Char) :
    (encodeUtf8 (properParts path).flatten).length ≤ (encodeUtf8 path).length :=
  (((flatten_sublist_joinWith ['/'] _).trans (joinWith_properParts_sublist path)).flatMap
    utf8Bytes).length_le

/-- A path of nothing but improper components that does not start with a slash has a dot. -/
theorem dot_mem (filled : path ≠ []) (relative : path.head? ≠ some '/')
    (bare : properParts path = []) : '.' ∈ path := by
  cases path with
  | nil => exact absurd rfl filled
  | cons c rest =>
      by_contra no_dot
      have slash : c ≠ '/' := fun same => relative (by simp [same])
      have other : c ≠ '.' := fun same => no_dot (by simp [same])
      exact properParts_ne_nil slash other List.mem_cons_self bare

/-- Making a path normal only leaves characters out. -/
theorem text_sublist (filled : path ≠ []) : (ofPath path).text.Sublist path := by
  unfold text
  split
  · rename_i bare
    have relative := (leadingSlashes_eq_zero path).mp bare.1
    exact List.singleton_sublist.mpr (dot_mem filled relative bare.2)
  · obtain ⟨rest, whole⟩ := eq_replicate_append path
    have parts : (ofPath path).parts = properParts rest := by
      change properParts path = _
      rw [whole, properParts_replicate_append]
    have slashes : (List.replicate (ofPath path).slashes '/').Sublist
        (List.replicate (path.takeWhile (· == '/')).length '/') :=
      List.replicate_sublist_replicate _ |>.mpr (leadingSlashes_le path)
    rw [parts]
    have both := slashes.append (joinWith_properParts_sublist rest)
    rwa [← whole] at both

theorem utf8_text_le (filled : path ≠ []) :
    (encodeUtf8 (ofPath path).text).length ≤ (encodeUtf8 path).length :=
  ((text_sublist filled).flatMap utf8Bytes).length_le

end Text

/-! Joined paths -/

section Join

open Template

variable {path : List Char} {part : Name}

theorem components_pathBelow (path : List Char) (whole : '/' ∉ part) :
    ∃ front, components (pathBelow path part) = front ++ [part] ∧
      front.filter isProper = properParts path := by
  have alone := splitAt_of_not_mem whole
  unfold pathBelow
  split
  · rename_i ends
    -- The last slash is the separator, and the empty component behind it says nothing.
    obtain ⟨front, rfl⟩ := List.getLast?_eq_some_iff.mp (beq_iff_eq.mp ends)
    refine ⟨components front, ?_, ?_⟩
    · rw [List.append_assoc, List.singleton_append, components, splitAt_append_sep, alone]
      rfl
    · rw [properParts_append_slash]
      exact (List.append_nil _).symm
  · refine ⟨components path, ?_, rfl⟩
    rw [List.append_assoc, List.singleton_append, components, splitAt_append_sep, alone]
    rfl

theorem properParts_pathBelow (proper : isProper part) (whole : '/' ∉ part) :
    properParts (pathBelow path part) = properParts path ++ [part] := by
  obtain ⟨front, split, same⟩ := components_pathBelow path whole
  rw [properParts, split, List.filter_append, same, List.filter_cons_of_pos proper]
  rfl

theorem leadingSlashes_pathBelow (filled : path ≠ []) (proper : isProper part)
    (whole : '/' ∉ part) : leadingSlashes (pathBelow path part) = leadingSlashes path := by
  have same : (pathBelow path part).takeWhile (· == '/') = path.takeWhile (· == '/') := by
    unfold pathBelow
    split
    · -- The part itself starts with no slash, so it does not go on with those of the path.
      have stops : part.takeWhile (· == '/') = [] := by
        cases part with
        | nil => rfl
        | cons c rest =>
            have other : c ≠ '/' := fun same => whole (same ▸ List.mem_cons_self)
            simp [other]
      rw [List.takeWhile_append, stops, List.append_nil]
      split
      · rename_i all
        exact ((List.takeWhile_prefix _).eq_of_length all).symm
      · rfl
    · rename_i other
      -- The path ends with another character, so its slashes end inside it.
      rw [List.append_assoc, List.takeWhile_append, if_neg]
      intro all
      have slashes := (List.takeWhile_prefix (· == '/')).eq_of_length all
      obtain ⟨c, last⟩ := Option.ne_none_iff_exists'.mp
        (mt List.getLast?_eq_none_iff.mp filled)
      have member := slashes.symm ▸ List.mem_of_getLast? last
      have slash : c = '/' := by simpa using List.mem_takeWhile_imp member
      exact other (by simp [last, slash])
  unfold leadingSlashes
  rw [same]

theorem pathBelow_ne_nil (filled : path ≠ []) (part : Name) : pathBelow path part ≠ [] := by
  unfold pathBelow
  split <;> simp [filled]

/-- Going down part by part and joining a whole name lead to the same normal name. -/
theorem ofPath_filePath (filled : path ≠ []) {parts : List Name}
    (proper : ∀ part ∈ parts, isProper part) (whole : ∀ part ∈ parts, '/' ∉ part) :
    ofPath (filePath path parts) = ⟨leadingSlashes path, properParts path ++ parts⟩ := by
  induction parts generalizing path with
  | nil => exact (congrArg (PathName.mk _) (List.append_nil _)).symm
  | cons part rest ih =>
      have first := proper part List.mem_cons_self
      have no_slash := whole part List.mem_cons_self
      have deeper := ih (pathBelow_ne_nil filled part)
        (fun other member => proper other (.tail _ member))
        (fun other member => whole other (.tail _ member))
      rw [properParts_pathBelow first no_slash, leadingSlashes_pathBelow filled first no_slash,
        List.append_assoc, List.singleton_append] at deeper
      exact deeper

theorem join_eq_ofPath (filled : path ≠ []) {name : List Char} (relative : name.head? ≠ some '/') :
    (ofPath path).join name = ofPath (filePath path (properParts name)) := by
  rw [ofPath_filePath filled (fun _ => isProper_of_mem) fun _ => slash_not_mem_of_mem]
  exact if_pos ((leadingSlashes_eq_zero name).mpr relative)

end Join

end PathName

end PageServer.Files
