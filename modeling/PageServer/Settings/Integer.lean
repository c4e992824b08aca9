import PageServer.Value
import PageServer.Text.Blank
import PageServer.Validation
/-! Integers from values of other kinds. Truth values count as 1 and 0, and floating-point numbers
that are whole as themselves. A text is a bare numeral, or else one that becomes bare once white
space around it is dropped, with a sign, zeros in front, single underscores between digits, and a
point with nothing but zeros behind it. -/
namespace PageServer.Settings

open Text Numeral

/-- A numeral without the zeros in front of its first other digit, between which underscores may
stand; a numeral of zeros alone keeps its last character. Zeros may also stand in front of a minus.
`last` is the character before. -/
def dropZeros (last : Char) : List Char → Option (List Char)
  | [] => some [last]
  | c :: rest =>
      if c == '0' || c == '_' then dropZeros c rest
      else if isDigit c || c == '-' then some (c :: rest)
      else if c == '.' then some (last :: c :: rest)
      else none

/-- A numeral that starts with a digit or a minus, without its leading zeros. -/
def withoutLeadingZeros : List Char → Option (List Char)
  | [] => none
  | c :: rest =>
      if c == '0' then dropZeros c rest
      else if isDigit c || c == '-' then some (c :: rest)
      else none

/-- A numeral without a point that only zeros follow. -/
def withoutZeroPlaces (s : List Char) : List Char :=
  match s.dropWhile (· != '.') with
  | _ :: places => if !places.isEmpty && places.all (· == '0') then s.takeWhile (· != '.') else s
  | [] => s

def doubleUnderscore : List Char → Bool
  | '_' :: '_' :: _ => true
  | _ :: rest => doubleUnderscore rest
  | [] => false

/-- A numeral without its underscores, which stand one by one and neither first nor last. -/
def withoutUnderscores (s : List Char) : List Char :=
  if s.head? == some '_' || s.getLast? == some '_' || doubleUnderscore s then s
  else s.filter (· != '_')

/-- The integer that a bare numeral denotes: an optional minus and digits, of which the first is
zero only if it is the only one. One that is too long is refused before what follows it is read. -/
def bareInteger (s : List Char) : Except Complaint Int :=
  let (negative, ds) := match s with
    | '-' :: ds => (true, ds)
    | ds => (false, ds)
  let run := ds.takeWhile isDigit
  let length := run.length + if negative then 1 else 0
  if run.isEmpty || (run.head? == some '0' && 1 < run.length) then .error .unreadableInteger
  else if length > mostDigits then .error .oversizedInteger
  else if !(ds.dropWhile isDigit).isEmpty then .error .unreadableInteger
  else .ok (if negative then -(digitsValue run : Int) else digitsValue run)

/-- The bare numeral behind a looser one. -/
def bareNumeral? (s : List Char) : Option (List Char) :=
  let tidy (s : List Char) : Option (List Char) :=
    (withoutLeadingZeros s).map fun s => withoutUnderscores (withoutZeroPlaces s)
  match trim isWhiteSpace s with
  | '+' :: '-' :: _ => none
  | '+' :: rest => tidy rest
  | '-' :: rest => (tidy rest).map ('-' :: ·)
  | s => tidy s

/-- The integer that a text denotes. Only of a bare numeral is it said that it is too long. -/
def integerOfText (s : List Char) : Except Complaint Int :=
  match bareInteger s with
  | .error .unreadableInteger =>
      match (bareNumeral? s).map bareInteger with
      | some (.ok n) => .ok n
      | _ => .error .unreadableInteger
  | outcome => outcome

/-- The integer that a floating-point number is; it lies between the ends of the 64-bit range. -/
def integerOfFloat (x : Float) : Except Complaint Int :=
  match valueOf x with
  | .finite b =>
      let (num, den) := b.scaled
      if num % den ≠ 0 then .error .fractionalInteger
      else
        let n := num / den
        if n ≤ -0x8000000000000000 ∨ 0x8000000000000000 ≤ n then .error .oversizedInteger else .ok n
  | _ => .error .unreadableInteger

def integerOfValue : Value → Except Complaint Int
  | .bool b => .ok (if b then 1 else 0)
  | .number (.whole n) => .ok n
  | .number (.real x) => integerOfFloat x
  | .text s => integerOfText s.toList
  | _ => .error .notInteger

def checkLimits (least most n : Int) : Except Complaint Int :=
  if n < least then .error (.belowLeast least)
  else if most < n then .error (.aboveMost most)
  else .ok n

theorem checkLimits_eq_ok_iff (least most n m : Int) :
    checkLimits least most n = .ok m ↔ m = n ∧ least ≤ n ∧ n ≤ most := by
  unfold checkLimits
  split
  · simp only [reduceCtorEq, false_iff]
    omega
  · split
    · simp only [reduceCtorEq, false_iff]
      omega
    · simp only [Except.ok.injEq]
      omega

example : (integerOfText " 0_9_000.0 ".toList).toOption = some 9000 ∧
    (integerOfText "-09000".toList).toOption = some (-9000) ∧
    (integerOfText "8080.".toList).toOption = none := by decide +kernel

end PageServer.Settings
