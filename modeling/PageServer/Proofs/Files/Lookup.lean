import PageServer.Proofs.Files.PathName
import PageServer.Proofs.Template.Cache
/-! Lookups under normal names. Components that name nothing only ask for a directory to stand in,
so a path and its normal name lead to the same directory, and to the same file unless the path ends
with such a component. Going below a path needs a directory there. -/
namespace PageServer.Files

open Text Template

namespace Tree

variable {tree : Tree}

/-! Steps -/

section Walks

variable {start place next : Place} {name : Name} {names : List Name}

theorem directory_of_enter (entered : tree.enter place name = .ok next) :
    tree.node? place = some .directory := by
  unfold enter at entered
  split at entered
  · cases entered
  · cases entered
  · assumption

theorem enter_of_improper (here : tree.node? place = some .directory)
    (improper : isProper name = false) : tree.enter place name = .ok place := by
  simp [enter, here, improper]

theorem isProper_of_long (long : mostNameBytes < (encodeUtf8 name).length) :
    isProper name := by
  cases proper : isProper name with
  | true => rfl
  | false =>
      have short : name = [] ∨ name = dot := by
        simpa [isProper, or_iff_not_imp_left] using proper
      rcases short with rfl | rfl <;> exact absurd long (by decide)

theorem enter_nameTooLong_iff :
    tree.enter place name = .error .nameTooLong ↔
      tree.node? place = some .directory ∧ mostNameBytes < (encodeUtf8 name).length := by
  unfold enter
  cases tree.node? place with
  | none => simp
  | some node =>
      cases node with
      | file bytes => simp
      | directory =>
          by_cases long : mostNameBytes < (encodeUtf8 name).length
          · have proper := isProper_of_long long
            have down : name ≠ dotDot := by
              rintro rfl
              exact absurd long (by decide)
            simp [proper, down, long]
          · refine iff_of_false (fun ended => ?_) fun found => long found.2
            simp only [long, ↓reduceIte] at ended
            split at ended
            · cases ended
            · split at ended
              · cases ended
              · split at ended <;> cases ended

theorem walk_cons (place : Place) (name : Name) (rest : List Name) :
    tree.walk place (name :: rest) = (tree.enter place name).bind fun next => tree.walk next rest :=
  rfl

theorem walk_cons_ok {rest : List Name} :
    tree.walk start (name :: rest) = .ok place ↔
      ∃ next, tree.enter start name = .ok next ∧ tree.walk next rest = .ok place := by
  rw [walk_cons]
  cases tree.enter start name <;> simp [Except.bind]

theorem walk_append_ok {front back : List Name} :
    tree.walk start (front ++ back) = .ok place ↔
      ∃ between, tree.walk start front = .ok between ∧ tree.walk between back = .ok place := by
  induction front generalizing start with
  | nil => simp [walk]
  | cons name rest ih =>
      simp only [List.cons_append, walk_cons_ok]
      constructor
      · rintro ⟨next, entered, walked⟩
        obtain ⟨between, first, last⟩ := ih.mp walked
        exact ⟨between, ⟨next, entered, first⟩, last⟩
      · rintro ⟨between, ⟨next, entered, first⟩, last⟩
        exact ⟨next, entered, ih.mpr ⟨between, first, last⟩⟩

theorem directory_of_walk (walked : tree.walk start names = .ok place)
    (goes : names ≠ [] ∨ tree.node? place = some .directory) :
    tree.node? start = some .directory := by
  cases names with
  | nil =>
      cases walked
      exact goes.resolve_left (absurd rfl)
  | cons name rest =>
      obtain ⟨next, entered, _⟩ := walk_cons_ok.mp walked
      exact directory_of_enter entered

/-- Leaving out what names nothing leads to the same place. -/
theorem walk_proper (walked : tree.walk start names = .ok place) :
    tree.walk start (names.filter isProper) = .ok place := by
  induction names generalizing start with
  | nil => exact walked
  | cons name rest ih =>
      obtain ⟨next, entered, others⟩ := walk_cons_ok.mp walked
      cases proper : isProper name with
      | true =>
          rw [List.filter_cons_of_pos proper]
          exact walk_cons_ok.mpr ⟨next, entered, ih others⟩
      | false =>
          have stays : next = start := by
            have same := enter_ok entered
            rwa [proper, Bool.not_false, if_pos rfl] at same
          rw [List.filter_cons_of_neg (by simp [proper])]
          exact ih (stays ▸ others)

/-- What names nothing can be put back on the way to a directory. -/
theorem walk_of_proper (walked : tree.walk start (names.filter isProper) = .ok place)
    (there : tree.node? place = some .directory) : tree.walk start names = .ok place := by
  induction names generalizing start with
  | nil => exact walked
  | cons name rest ih =>
      cases proper : isProper name with
      | true =>
          rw [List.filter_cons_of_pos proper] at walked
          obtain ⟨next, entered, others⟩ := walk_cons_ok.mp walked
          exact walk_cons_ok.mpr ⟨next, entered, ih others⟩
      | false =>
          rw [List.filter_cons_of_neg (by simp [proper])] at walked
          -- Wherever the rest goes, it starts in a directory.
          have here := directory_of_walk walked (.inr there)
          exact walk_cons_ok.mpr ⟨start, enter_of_improper here proper, ih walked⟩

/-- The same on the way to anything, if the way ends with a component that names it. -/
theorem walk_of_proper_last (proper : isProper name)
    (walked : tree.walk start ((names ++ [name]).filter isProper) = .ok place) :
    tree.walk start (names ++ [name]) = .ok place := by
  rw [List.filter_append, List.filter_cons_of_pos proper] at walked
  obtain ⟨between, front, last⟩ := walk_append_ok.mp walked
  have above := directory_of_walk last (.inl (List.cons_ne_nil _ _))
  exact walk_append_ok.mpr ⟨between, walk_of_proper front above, last⟩

/-- A walk ends at a name that is too long if the names in front of it lead to a directory. -/
theorem walk_nameTooLong_iff :
    tree.walk start names = .error .nameTooLong ↔
      ∃ front name back place, names = front ++ name :: back ∧
        tree.walk start front = .ok place ∧ tree.node? place = some .directory ∧
        mostNameBytes < (encodeUtf8 name).length := by
  induction names generalizing start with
  | nil => simp [walk]
  | cons first rest ih =>
      rw [walk_cons]
      constructor
      · intro long
        cases entered : tree.enter start first with
        | error fault =>
            rw [entered] at long
            cases long
            exact ⟨[], first, rest, start, rfl, rfl, enter_nameTooLong_iff.mp entered⟩
        | ok next =>
            rw [entered] at long
            obtain ⟨front, name, back, place, split, walked, stops⟩ := ih.mp long
            refine ⟨first :: front, name, back, place, congrArg (first :: ·) split, ?_, stops⟩
            exact walk_cons_ok.mpr ⟨next, entered, walked⟩
      · rintro ⟨front, name, back, place, split, walked, stops⟩
        cases front with
        | nil =>
            cases split
            cases walked
            rw [enter_nameTooLong_iff.mpr stops]
            rfl
        | cons other between =>
            cases split
            obtain ⟨next, entered, further⟩ := walk_cons_ok.mp walked
            rw [entered]
            exact ih.mpr ⟨between, name, back, place, rfl, further, stops⟩

theorem walk_nameTooLong (long : tree.walk start names = .error .nameTooLong) :
    ∃ name ∈ names.filter isProper, mostNameBytes < (encodeUtf8 name).length := by
  obtain ⟨front, name, back, place, split, _, _, bytes⟩ := walk_nameTooLong_iff.mp long
  have member : name ∈ names := by
    rw [split]
    exact List.mem_append_right front List.mem_cons_self
  exact ⟨name, List.mem_filter.mpr ⟨member, isProper_of_long bytes⟩, bytes⟩

end Walks

/-! Paths -/

section Paths

variable {path : List Char} {node : Node}

/-- A path that can be looked up at all: there is one, it has no NUL, and it is not too long. -/
structure Usable (path : List Char) : Prop where
  filled : path ≠ []
  noNul : '\x00' ∉ path
  fits : (encodeUtf8 path).length < tooManyPathBytes

def startOf (path : List Char) : Place :=
  if path.head? == some '/' then [] else workingPlace

theorem find_ok_iff_walk :
    tree.find path = .ok node ↔ Usable path ∧
      ∃ place, tree.walk (startOf path) (components path) = .ok place ∧
        tree.node? place = some node := by
  unfold find
  by_cases refused : path = [] ∨ '\x00' ∈ path
  · have stopped : (path.isEmpty || path.contains '\x00') = true := by simpa using refused
    rw [if_pos stopped]
    refine ⟨fun ended => (nomatch ended), fun found => ?_⟩
    rcases refused with empty | nul
    · exact absurd empty found.1.filled
    · exact absurd nul found.1.noNul
  · have goes : ¬(path.isEmpty || path.contains '\x00') = true := by simpa using refused
    obtain ⟨filled, noNul⟩ := not_or.mp refused
    rw [if_neg goes]
    by_cases long : tooManyPathBytes ≤ (encodeUtf8 path).length
    · rw [if_pos long]
      exact ⟨fun ended => (nomatch ended), fun found => absurd found.1.fits (by omega)⟩
    · rw [if_neg long]
      have usable : Usable path := ⟨filled, noNul, by omega⟩
      simp only [usable, true_and]
      change (tree.walk (startOf path) (components path)).bind _ = _ ↔ _
      cases tree.walk (startOf path) (components path) with
      | error fault => simp [Except.bind]
      | ok place =>
          simp only [Except.bind, Except.ok.injEq, exists_eq_left']
          cases tree.node? place <;> simp

theorem find_of_long (filled : path ≠ []) (noNul : '\x00' ∉ path)
    (long : tooManyPathBytes ≤ (encodeUtf8 path).length) :
      tree.find path = .error .nameTooLong := by
  simp [find, filled, noNul, long]

/-- A path with a NUL, or no path at all, leads nowhere. Any other one cannot be looked up if it is
too long as a whole, or if one of its components is and those in front of it lead to a directory. -/
structure Overlong (tree : Tree) (path : List Char) : Prop where
  filled : path ≠ []
  noNul : '\x00' ∉ path
  long : tooManyPathBytes ≤ (encodeUtf8 path).length ∨
    ∃ front name back place, components path = front ++ name :: back ∧
      tree.walk (startOf path) front = .ok place ∧ tree.node? place = some .directory ∧
      mostNameBytes < (encodeUtf8 name).length

theorem find_nameTooLong_iff : tree.find path = .error .nameTooLong ↔ tree.Overlong path := by
  unfold find
  by_cases refused : path = [] ∨ '\x00' ∈ path
  · have stopped : (path.isEmpty || path.contains '\x00') = true := by simpa using refused
    rw [if_pos stopped]
    refine ⟨fun ended => (nomatch ended), fun overlong => ?_⟩
    rcases refused with empty | nul
    · exact absurd empty overlong.filled
    · exact absurd nul overlong.noNul
  · have goes : ¬(path.isEmpty || path.contains '\x00') = true := by simpa using refused
    obtain ⟨filled, noNul⟩ := not_or.mp refused
    rw [if_neg goes]
    by_cases whole : tooManyPathBytes ≤ (encodeUtf8 path).length
    · rw [if_pos whole]
      exact ⟨fun _ => ⟨filled, noNul, .inl whole⟩, fun _ => rfl⟩
    · rw [if_neg whole]
      change (tree.walk (startOf path) (components path)).bind _ = _ ↔ _
      have stops : tree.walk (startOf path) (components path) = .error .nameTooLong ↔ _ :=
        walk_nameTooLong_iff
      constructor
      · intro long
        cases walked : tree.walk (startOf path) (components path) with
        | error fault =>
            rw [walked] at long
            cases long
            exact ⟨filled, noNul, .inr (stops.mp walked)⟩
        | ok place =>
            rw [walked] at long
            simp only [Except.bind] at long
            split at long <;> cases long
      · intro overlong
        rw [stops.mpr (overlong.long.resolve_left whole)]
        rfl

theorem find_nameTooLong (long : tree.find path = .error .nameTooLong) :
    tooManyPathBytes ≤ (encodeUtf8 path).length ∨
      ∃ part ∈ properParts path, mostNameBytes < (encodeUtf8 part).length := by
  rcases (find_nameTooLong_iff.mp long).long with whole | stops
  · exact .inl whole
  · exact .inr (walk_nameTooLong (walk_nameTooLong_iff.mpr stops))

/-! Normal names -/

theorem Usable.text (usable : Usable path) : Usable (PathName.ofPath path).text where
  filled := PathName.text_ne_nil path
  noNul := by
    rw [PathName.mem_text (by decide) (by decide)]
    exact usable.noNul
  fits := Nat.lt_of_le_of_lt (PathName.utf8_text_le usable.filled) usable.fits

theorem startOf_text (path : List Char) : startOf (PathName.ofPath path).text = startOf path := by
  have same := PathName.head?_text path
  by_cases slash : path.head? = some '/'
  · simp [startOf, slash, same.mpr slash]
  · simp [startOf, slash, mt same.mp slash]

/-- A path whose last component names something. -/
def EndsProper (path : List Char) : Prop :=
  ∃ front last, components path = front ++ [last] ∧ isProper last

/-- Paths that start in the same place and have the same proper components lead to the same
directory, and to the same file if one of its paths ends with its name. -/
theorem find_same {other : List Char} (parts : properParts path = properParts other)
    (starts : startOf path = startOf other) (usable : Usable other)
    (found : tree.find path = .ok node) (ends : node = .directory ∨ EndsProper other) :
    tree.find other = .ok node := by
  obtain ⟨_, place, walked, there⟩ := find_ok_iff_walk.mp found
  have proper : tree.walk (startOf other) (properParts other) = .ok place := by
    rw [← parts, ← starts]
    exact walk_proper walked
  refine find_ok_iff_walk.mpr ⟨usable, place, ?_, there⟩
  rcases ends with rfl | ⟨front, last, split, named⟩
  · exact walk_of_proper proper there
  · rw [properParts, split] at proper
    rw [split]
    exact walk_of_proper_last named proper

/-- What a path leads to, its normal name leads to. -/
theorem find_text (found : tree.find path = .ok node) :
    tree.find (PathName.ofPath path).text = .ok node := by
  obtain ⟨usable, place, walked, there⟩ := find_ok_iff_walk.mp found
  refine find_same (PathName.properParts_text path).symm
    (startOf_text path).symm usable.text found ?_
  by_cases goes : properParts path = []
  · -- The path stays where it starts, and for that alone it needs a directory there.
    left
    have stays := walk_proper walked
    rw [← properParts, goes] at stays
    cases stays
    have here := directory_of_walk walked (.inl (splitAt_ne_nil '/' path))
    exact Option.some.inj (there.symm.trans here)
  · right
    refine ⟨List.replicate (PathName.leadingSlashes path) [] ++ (properParts path).dropLast,
      (properParts path).getLast goes, ?_, isProper_of_mem (List.getLast_mem goes)⟩
    rw [PathName.components_text goes, List.append_assoc, List.dropLast_append_getLast]

theorem find_of_text (filled : path ≠ []) (fits : (encodeUtf8 path).length < tooManyPathBytes)
    (found : tree.find (PathName.ofPath path).text = .ok node)
    (ends : node = .directory ∨ EndsProper path) : tree.find path = .ok node := by
  have noNul := (find_ok_iff_walk.mp found).1.noNul
  rw [PathName.mem_text (by decide) (by decide)] at noNul
  exact find_same (PathName.properParts_text path) (startOf_text path)
    ⟨filled, noNul, fits⟩ found ends

theorem text_not_nameTooLong (filled : path ≠ [])
    (fits : (encodeUtf8 path).length < tooManyPathBytes)
    (short : ∀ part ∈ properParts path, (encodeUtf8 part).length ≤ mostNameBytes) :
    tree.find (PathName.ofPath path).text ≠ .error .nameTooLong := by
  intro long
  rcases find_nameTooLong long with bytes | ⟨part, member, bytes⟩
  · have shorter := PathName.utf8_text_le filled
    omega
  · rw [PathName.properParts_text] at member
    exact absurd (short part member) (by omega)

end Paths

/-! Paths below others -/

section Below

variable {path : List Char} {parts : List Name} {node : Node}

theorem prefix_filePath (path : List Char) (parts : List Name) : path <+: filePath path parts := by
  induction parts generalizing path with
  | nil => exact List.prefix_refl path
  | cons part rest ih =>
      refine List.IsPrefix.trans ?_ (ih (pathBelow path part))
      unfold pathBelow
      split
      · exact List.prefix_append _ _
      · rw [List.append_assoc]
        exact List.prefix_append _ _

theorem endsProper_filePath (path : List Char) (goes : parts ≠ [])
    (proper : ∀ part ∈ parts, isProper part) (whole : ∀ part ∈ parts, '/' ∉ part) :
    EndsProper (filePath path parts) := by
  have last := List.getLast_mem goes
  obtain ⟨front, split, _⟩ :=
    PathName.components_pathBelow (filePath path parts.dropLast) (whole _ last)
  refine ⟨front, parts.getLast goes, ?_, proper _ last⟩
  rw [← split]
  conv_lhs => rw [← List.dropLast_append_getLast goes]
  rw [filePath, List.foldl_append]
  rfl

theorem utf8_le_filePath (path : List Char) (parts : List Name) :
    (encodeUtf8 path).length ≤ (encodeUtf8 (filePath path parts)).length :=
  ((prefix_filePath path parts).sublist.flatMap utf8Bytes).length_le

theorem Usable.of_filePath (filled : path ≠ []) (usable : Usable (filePath path parts)) :
    Usable path where
  filled := filled
  noNul := fun nul => usable.noNul ((prefix_filePath path parts).mem nul)
  fits := Nat.lt_of_le_of_lt (utf8_le_filePath path parts) usable.fits

theorem startOf_filePath (filled : path ≠ []) (parts : List Name) :
    startOf (filePath path parts) = startOf path := by
  obtain ⟨rest, whole⟩ := prefix_filePath path parts
  cases path with
  | nil => exact absurd rfl filled
  | cons c others =>
      rw [← whole]
      rfl

/-- Where anything is found below a path, the path leads to a directory. -/
theorem directory_of_below (filled : path ≠ []) (goes : parts ≠ [])
    (proper : ∀ part ∈ parts, isProper part) (whole : ∀ part ∈ parts, '/' ∉ part)
    (found : tree.find (filePath path parts) = .ok node) : tree.find path = .ok .directory := by
  obtain ⟨usable, place, walked, there⟩ := find_ok_iff_walk.mp found
  have starts : startOf (filePath path parts) = startOf path := startOf_filePath filled parts
  have below := congrArg PathName.parts (PathName.ofPath_filePath filled proper whole)
  have named : properParts (filePath path parts) = properParts path ++ parts := below
  have both := walk_proper walked
  rw [← properParts, named, starts] at both
  obtain ⟨between, above, rest⟩ := walk_append_ok.mp both
  have here := directory_of_walk rest (.inl goes)
  exact find_ok_iff_walk.mpr ⟨usable.of_filePath filled, between, walk_of_proper above here, here⟩

/-- In a directory that is there, a single name that is too long cannot be looked up. -/
theorem overlong_of_long_name (filled : path ≠ [])
    (there : tree.find (PathName.ofPath path).text = .ok .directory) {name : Name}
    (noNul : '\x00' ∉ name) (whole : '/' ∉ name) (long : mostNameBytes < (encodeUtf8 name).length) :
    tree.Overlong ((PathName.ofPath path).join name).text := by
  have proper := isProper_of_long long
  have relative : name.head? ≠ some '/' := fun slash => whole (List.mem_of_head? slash)
  have own : properParts name = [name] := by
    rw [properParts, components, splitAt_of_not_mem whole, List.filter_cons_of_pos proper]
    rfl
  have parts : properParts (filePath path [name]) = properParts path ++ [name] :=
    PathName.properParts_pathBelow proper whole
  obtain ⟨usable, place, walked, here⟩ := find_ok_iff_walk.mp there
  have noNul_text : '\x00' ∉ (PathName.ofPath (filePath path [name])).text := by
    rw [PathName.mem_text (by decide) (by decide), mem_iff_mem_properParts (by decide) (by decide),
      parts]
    rintro ⟨part, among, nul⟩
    rcases List.mem_append.mp among with above | last
    · apply usable.noNul
      rw [PathName.mem_text (by decide) (by decide)]
      exact (mem_iff_mem_properParts (by decide) (by decide)).mpr ⟨part, above, nul⟩
    · exact noNul (List.mem_singleton.mp last ▸ nul)
  have split : components (PathName.ofPath (filePath path [name])).text =
      (List.replicate (PathName.leadingSlashes (filePath path [name])) [] ++ properParts path) ++
        name :: [] := by
    rw [PathName.components_text (by simp [parts]), parts, List.append_assoc]
  -- What stands in front of the name leads where the directory's own path leads.
  have front : tree.walk (startOf (PathName.ofPath (filePath path [name])).text)
      (List.replicate (PathName.leadingSlashes (filePath path [name])) [] ++ properParts path) =
        .ok place := by
    have down := walk_proper walked
    rw [← properParts, PathName.properParts_text, startOf_text] at down
    rw [startOf_text, startOf_filePath filled]
    apply walk_of_proper _ here
    have same : (List.replicate (PathName.leadingSlashes (filePath path [name])) [] ++
        properParts path).filter isProper = properParts path := by
      have empty (count : Nat) : (List.replicate count ([] : Name)).filter isProper = [] := by
        simp [isProper]
      rw [List.filter_append, empty, List.nil_append]
      exact List.filter_eq_self.mpr fun _ => isProper_of_mem
    rwa [same]
  rw [PathName.join_eq_ofPath filled relative, own]
  exact ⟨PathName.text_ne_nil _, noNul_text, .inr ⟨_, name, [], place, split, front, here, long⟩⟩

end Below

end Tree

end PageServer.Files
