import PageServer.Http.Url
import PageServer.Proofs.Text.Pieces
import Mathlib.Data.List.TakeWhile
import Mathlib.Tactic.SplitIfs
/-! What a sound host looks like: which characters it has, and that a URL with such a host part can
be read. An address in brackets has a colon, so it is not taken for one of four numbers. -/
namespace PageServer.Http

open Text

/-! Addresses -/

section Addresses

/-- Whether the character can stand in an address of eight groups. -/
def isAddressChar (c : Char) : Bool :=
  (hexValue? c).isSome || c == ':' || c == '.'

theorem isAddressChar_of_isDigit {c : Char} (digit : c.isDigit) : isAddressChar c := by
  simp only [Char.isDigit, Bool.and_eq_true, decide_eq_true_eq] at digit
  have low : '0' ≤ c := digit.1
  have high : c ≤ '9' := digit.2
  simp [isAddressChar, hexValue?, low, high]

theorem chars_of_isShortAddress {s : List Char} (short : isShortAddress s) :
    ∀ c ∈ s, c.isDigit ∨ c = '.' := by
  intro c member
  simp only [isShortAddress, Bool.and_eq_true, List.all_eq_true] at short
  rcases mem_splitAt '.' member with same | ⟨piece, among, inside⟩
  · exact .inr same
  · have byte := short.2 piece among
    simp only [isByte, Bool.and_eq_true, List.all_eq_true] at byte
    exact .inl (byte.1.1.2 c inside)

theorem isAddressChar_of_isShortAddress {s : List Char} (short : isShortAddress s) :
    ∀ c ∈ s, isAddressChar c := by
  intro c member
  rcases chars_of_isShortAddress short c member with digit | rfl
  · exact isAddressChar_of_isDigit digit
  · decide

theorem isAddressChar_of_isGroup {s : List Char} (group : isGroup s) :
    ∀ c ∈ s, isAddressChar c := by
  intro c member
  simp only [isGroup, Bool.and_eq_true, List.all_eq_true] at group
  simp [isAddressChar, group.2 c member]

theorem isAddressChar_of_groupCount? {last : Bool} {parts : List (List Char)} {count : Nat}
    (counted : groupCount? last parts = some count) :
    ∀ part ∈ parts, ∀ c ∈ part, isAddressChar c := by
  fun_induction groupCount? last parts generalizing count with
  | case1 => simp
  | case2 s group => simpa using isAddressChar_of_isGroup group
  | case3 s _ short =>
      simp only [Bool.and_eq_true] at short
      simpa using isAddressChar_of_isShortAddress short.2
  | case4 => simp at counted
  | case5 s rest more group ih =>
      obtain ⟨others, found, _⟩ := Option.map_eq_some_iff.mp counted
      intro part member
      rcases List.mem_cons.mp member with rfl | later
      · exact isAddressChar_of_isGroup group
      · exact ih found part later
  | case6 => simp at counted

theorem eq_of_splitPair {s before after : List Char} (split : splitPair s = some (before, after)) :
    s = before ++ ':' :: ':' :: after := by
  fun_induction splitPair s generalizing before with
  | case1 rest =>
      obtain ⟨rfl, rfl⟩ := Prod.mk.inj (Option.some.inj split)
      rfl
  | case2 c rest _ ih =>
      obtain ⟨⟨front, back⟩, found, same⟩ := Option.map_eq_some_iff.mp split
      obtain ⟨rfl, rfl⟩ := Prod.mk.inj same
      rw [ih found]
      rfl
  | case3 => simp at split

theorem isAddressChar_of_groupsOf {last : Bool} {s : List Char} {count : Nat}
    (counted : groupCount? last (groupsOf s) = some count) : ∀ c ∈ s, isAddressChar c := by
  intro c member
  have filled : s.isEmpty = false := by
    cases s with
    | nil => simp at member
    | cons head rest => rfl
  simp only [groupsOf, filled, Bool.false_eq_true, ↓reduceIte] at counted
  rcases mem_splitAt ':' member with rfl | ⟨piece, among, inside⟩
  · decide
  · exact isAddressChar_of_groupCount? counted piece among c inside

theorem isAddressChar_of_isLongAddress {s : List Char} (long : isLongAddress s) :
    ∀ c ∈ s, isAddressChar c := by
  unfold isLongAddress at long
  cases split : splitPair s with
  | none =>
      simp only [split, beq_iff_eq] at long
      exact isAddressChar_of_groupsOf long
  | some pair =>
      obtain ⟨before, after⟩ := pair
      simp only [split] at long
      cases front : groupCount? false (groupsOf before) with
      | none => simp [front] at long
      | some m =>
          cases back : groupCount? true (groupsOf after) with
          | none => simp [front, back] at long
          | some n =>
              rw [eq_of_splitPair split]
              intro c member
              rcases List.mem_append.mp member with early | late
              · exact isAddressChar_of_groupsOf front c early
              · rcases List.mem_cons.mp late with rfl | late
                · decide
                · rcases List.mem_cons.mp late with rfl | late
                  · decide
                  · exact isAddressChar_of_groupsOf back c late

/-- Without a colon there is one group at most, which counts as two if it is four numbers. -/
theorem groupCount?_le_two {last : Bool} {s : List Char} {count : Nat} (alone : ':' ∉ s)
    (counted : groupCount? last (groupsOf s) = some count) : count ≤ 2 := by
  simp only [groupsOf, splitAt_of_not_mem alone] at counted
  split_ifs at counted with empty
  · cases Option.some.inj counted
    omega
  · simp only [groupCount?] at counted
    split_ifs at counted <;> cases Option.some.inj counted <;> omega

theorem colon_mem_of_isLongAddress {s : List Char} (long : isLongAddress s) : ':' ∈ s := by
  unfold isLongAddress at long
  cases split : splitPair s with
  | some pair =>
      rw [eq_of_splitPair split]
      simp
  | none =>
      by_cases colon : ':' ∈ s
      · exact colon
      · simp only [split, beq_iff_eq] at long
        have few := groupCount?_le_two colon long
        omega

theorem addressFault?_of_isLongAddress {s : List Char} (long : isLongAddress s) :
    addressFault? s = none := by
  have chars := isAddressChar_of_isLongAddress long
  have absent {c : Char} (other : isAddressChar c = false) : c ∉ s := by
    intro member
    simp [chars c member] at other
  have version : s.head? ≠ some 'v' := by
    intro first
    exact absent (by decide) (List.mem_of_mem_head? first)
  have zone : '%' ∉ s := absent (by decide)
  have short : ¬ isShortAddress s := by
    intro short
    have colon := colon_mem_of_isLongAddress long
    rcases chars_of_isShortAddress short ':' colon with digit | dot
    · simp [Char.isDigit] at digit
    · simp at dot
  have whole : s.takeWhile (· != '%') = s := by
    rw [List.takeWhile_eq_self_iff]
    intro c member
    simpa using ne_of_mem_of_not_mem member zone
  simp [addressFault?, version, short, isZonedAddress, whole, long, zone]

end Addresses

/-! Hosts -/

section Hosts

/-- Whether the character can stand in a host part without brackets. -/
def isNameChar (c : Char) : Bool :=
  isHostChar c || c == ':'

/-- A host part that a URL can have: its characters end nothing and are kept as they are, and what
it has in brackets is an address. -/
structure Names (authority : List Char) : Prop where
  chars : ∀ c ∈ authority, isNameChar c ∨ c = '[' ∨ c = ']'
  brackets : bracketFault? authority = none

theorem isNameChar_of_isDigit {c : Char} (digit : c.isDigit) : isNameChar c := by
  simp [isNameChar, isHostChar, Char.isAlphanum, digit]

theorem isAlphanum_iff {c : Char} :
    c.isAlphanum ↔ ('A'.val.toNat ≤ c.val.toNat ∧ c.val.toNat ≤ 'Z'.val.toNat ∨
      'a'.val.toNat ≤ c.val.toNat ∧ c.val.toNat ≤ 'z'.val.toNat) ∨
        '0'.val.toNat ≤ c.val.toNat ∧ c.val.toNat ≤ '9'.val.toNat := by
  have unfolded : c.isAlphanum =
      (((decide ('A'.val ≤ c.val ∧ c.val ≤ 'Z'.val)) || (decide ('a'.val ≤ c.val) &&
        decide (c.val ≤ 'z'.val))) || (decide ('0'.val ≤ c.val) && decide (c.val ≤ '9'.val))) := rfl
  simp only [unfolded, Bool.or_eq_true, Bool.and_eq_true, decide_eq_true_eq,
    UInt32.le_iff_toNat_le]

theorem isAlphanum_of_hexValue? {c : Char} (digit : (hexValue? c).isSome) : c.isAlphanum := by
  simp only [hexValue?, Bool.and_eq_true, decide_eq_true_eq, Char.le_def,
    UInt32.le_iff_toNat_le] at digit
  rw [isAlphanum_iff]
  split_ifs at digit with decimal small large
  · exact .inr decimal
  · exact .inl (.inr ⟨small.1, Nat.le_trans small.2 (by decide)⟩)
  · exact .inl (.inl ⟨large.1, Nat.le_trans large.2 (by decide)⟩)
  · cases digit

theorem isNameChar_of_isAddressChar {c : Char} (address : isAddressChar c) : isNameChar c := by
  simp only [isAddressChar, Bool.or_eq_true, beq_iff_eq] at address
  rcases address with (digit | rfl) | rfl
  · simp [isNameChar, isHostChar, isAlphanum_of_hexValue? digit]
  · decide
  · decide

theorem isNameChar_of_isPort {s : List Char} (port : isPort s) : ∀ c ∈ s, isNameChar c := by
  intro c member
  unfold isPort at port
  split at port
  · simp only [Bool.and_eq_true, List.all_eq_true] at port
    rcases List.mem_cons.mp member with rfl | later
    · decide
    · exact isNameChar_of_isDigit (port.1.2 c later)
  · cases port

/-- A host part without brackets. -/
theorem Names.of_isNameChar {s : List Char} (plain : ∀ c ∈ s, isNameChar c) : Names s := by
  have absent {c : Char} (other : isNameChar c = false) : c ∉ s := by
    intro member
    simp [plain c member] at other
  have opening : '[' ∉ s := absent (by decide)
  have closing : ']' ∉ s := absent (by decide)
  exact ⟨fun c member => .inl (plain c member), by simp [bracketFault?, opening, closing]⟩

/-- A host part with an address in brackets. -/
theorem Names.of_isLongAddress {address port : List Char} (long : isLongAddress address)
    (plain : ∀ c ∈ port, isNameChar c) : Names ('[' :: (address ++ ']' :: port)) := by
  have chars := isAddressChar_of_isLongAddress long
  constructor
  · intro c member
    simp only [List.mem_cons, List.mem_append] at member
    rcases member with same | inside | same | later
    · exact .inr (.inl same)
    · exact .inl (isNameChar_of_isAddressChar (chars c inside))
    · exact .inr (.inr same)
    · exact .inl (plain c later)
  · have kept : ∀ c ∈ address, (c != ']') = true := by
      intro c member
      have other : isAddressChar ']' = false := by decide
      simp only [bne_iff_ne, ne_eq]
      rintro rfl
      simp [chars _ member] at other
    have whole : (address ++ ']' :: port).takeWhile (· != ']') = address := by
      rw [List.takeWhile_append_of_pos kept]
      simp
    simp [bracketFault?, whole, addressFault?_of_isLongAddress long]

/-- The part of a sound host behind its name or its brackets. -/
theorem isNameChar_of_rest {rest : List Char} (sound : (rest.isEmpty || isPort rest) = true) :
    ∀ c ∈ rest, isNameChar c := by
  rcases Bool.or_eq_true_iff.mp sound with empty | port
  · simp [List.isEmpty_iff.mp empty]
  · exact isNameChar_of_isPort port

theorem exists_of_isBracketed {s : List Char} (bracketed : isBracketed s) :
    ∃ address, s = '[' :: (address ++ [']']) ∧ isLongAddress address := by
  unfold isBracketed at bracketed
  split at bracketed
  · rename_i rest
    obtain ⟨last, long⟩ := Bool.and_eq_true_iff.mp bracketed
    obtain ⟨address, rfl⟩ := List.getLast?_eq_some_iff.mp (beq_iff_eq.mp last)
    rw [List.dropLast_concat] at long
    exact ⟨address, rfl, long⟩
  · cases bracketed

theorem Names.of_isSoundHost {host : List Char} (sound : isSoundHost host) : Names host := by
  unfold isSoundHost at sound
  by_cases bracket : host.head? = some '['
  · simp only [bracket, beq_self_eq_true, ↓reduceIte] at sound
    let length := (host.takeWhile (· != ']')).length + 1
    obtain ⟨front, back⟩ := Bool.and_eq_true_iff.mp sound
    have plain := isNameChar_of_rest back
    rcases Bool.or_eq_true_iff.mp front with bracketed | named
    · obtain ⟨address, same, long⟩ := exists_of_isBracketed bracketed
      have whole := List.take_append_drop length host
      rw [same] at whole
      rw [← whole, List.cons_append, List.append_assoc]
      exact Names.of_isLongAddress long plain
    -- A name has no brackets, so it cannot be what a bracket starts.
    · obtain ⟨rest, rfl⟩ := List.head?_eq_some_iff.mp bracket
      have other : isHostChar '[' = false := by decide
      simp [other] at named
  · have unbracketed : (host.head? == some '[') = false := by simpa using bracket
    simp only [unbracketed, Bool.false_eq_true, ↓reduceIte] at sound
    obtain ⟨front, back⟩ := Bool.and_eq_true_iff.mp sound
    have plain := isNameChar_of_rest back
    have whole := List.takeWhile_append_dropWhile (p := (· != ':')) (l := host)
    rcases Bool.or_eq_true_iff.mp front with bracketed | named
    · obtain ⟨address, same, _⟩ := exists_of_isBracketed bracketed
      rw [same] at whole
      rw [← whole] at bracket
      exact absurd rfl bracket
    · simp only [Bool.and_eq_true, List.all_eq_true] at named
      refine Names.of_isNameChar fun c member => ?_
      rw [← whole] at member
      rcases List.mem_append.mp member with early | late
      · simp [isNameChar, named.2 c early]
      · exact plain c late

end Hosts

end PageServer.Http
