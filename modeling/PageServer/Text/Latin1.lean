import PageServer.Text.Hex
/-! The first 256 characters, which header text is made of. A text with others has no such form;
the fault names the first run of them. -/
namespace PageServer.Text

def isLatin1 (c : Char) : Bool :=
  c.toNat ≤ 0xFF

structure Latin1Fault where
  first : Char
  position : Nat
  length : Nat
  deriving DecidableEq, Repr

/-- The first run of characters outside the first 256, if there is one. -/
def latin1Fault? (s : List Char) : Option Latin1Fault :=
  match s.dropWhile isLatin1 with
  | [] => none
  | c :: rest =>
      some ⟨c, (s.takeWhile isLatin1).length, ((c :: rest).takeWhile (!isLatin1 ·)).length⟩

/-- The fault in words: one character is shown escaped, several are given by their positions. -/
def Latin1Fault.message (fault : Latin1Fault) : String :=
  let n := fault.first.toNat
  let escaped :=
    if n ≤ 0xFFFF then "\\u" ++ String.ofList (hexFixed 4 n)
    else "\\U" ++ String.ofList (hexFixed 8 n)
  let place :=
    if fault.length == 1 then
      "character '" ++ escaped ++ "' in position " ++ toString fault.position
    else
      "characters in position " ++ toString fault.position ++ "-"
        ++ toString (fault.position + fault.length - 1)
  "'latin-1' codec can't encode " ++ place ++ ": ordinal not in range(256)"

theorem dropWhile_isLatin1_eq_nil_iff (s : List Char) :
    s.dropWhile isLatin1 = [] ↔ ∀ c ∈ s, isLatin1 c = true := by
  induction s with
  | nil => simp
  | cons c rest ih =>
      by_cases first : isLatin1 c = true
      · simp [first, ih]
      · simp [first]

theorem latin1Fault?_eq_none_iff (s : List Char) :
    latin1Fault? s = none ↔ ∀ c ∈ s, isLatin1 c = true := by
  rw [← dropWhile_isLatin1_eq_nil_iff, latin1Fault?]
  cases s.dropWhile isLatin1 <;> simp

end PageServer.Text
