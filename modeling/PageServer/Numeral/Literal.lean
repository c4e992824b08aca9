import PageServer.Numeral.Decimal
/-! Reading decimal numerals. A numeral has digits, an optional point with more digits, and an
optional exponent; the digits before and after the point may not both be missing. -/
namespace PageServer.Numeral

def isDigit (c : Char) : Bool :=
  '0' ≤ c && c ≤ '9'

/-- The number that a run of digits denotes, after a number already read. -/
def digitsValueFrom (read : Nat) (ds : List Char) : Nat :=
  ds.foldl (fun n c => 10 * n + (c.toNat - '0'.toNat)) read

def digitsValue (ds : List Char) : Nat :=
  digitsValueFrom 0 ds

/-- A sign in front of a text: whether it is a minus, and the rest. -/
def takeSign : List Char → Bool × List Char
  | '-' :: rest => (true, rest)
  | '+' :: rest => (false, rest)
  | s => (false, s)

/-- The exponent that a text with nothing in front of it denotes; the empty text denotes 0. -/
def readExponent? : List Char → Option Int
  | [] => some 0
  | c :: rest =>
      if c == 'e' || c == 'E' then
        let (negative, ds) := takeSign rest
        if ds.isEmpty || !ds.all isDigit then none
        else some (if negative then -(digitsValue ds : Int) else digitsValue ds)
      else none

def readDecimal? (s : List Char) : Option Decimal :=
  let whole := s.takeWhile isDigit
  let rest := s.dropWhile isDigit
  let (fraction, rest) := match rest with
    | '.' :: rest => (rest.takeWhile isDigit, rest.dropWhile isDigit)
    | rest => ([], rest)
  if whole.isEmpty && fraction.isEmpty then none
  else (readExponent? rest).map fun e => ⟨digitsValue (whole ++ fraction), e - fraction.length⟩

/-- The floating-point number nearest to a decimal. Decimals that are far outside the range of
finite numbers are sorted out first, so that no power of ten gets large. -/
def Decimal.toFloat (d : Decimal) : Float :=
  let leading := d.exponent + (digits d.significand).length
  if d.significand = 0 ∨ leading < -400 then 0
  else if 400 < leading then 1.0 / 0.0
  else match d.exponent with
    | .ofNat e => Float.ofScientific (d.significand * Nat.pow 10 e) false 0
    | .negSucc e => Float.ofScientific d.significand true (e + 1)

/-- The floating-point number nearest to an integer. -/
def floatOfInt (n : Int) : Float :=
  let magnitude := Decimal.toFloat ⟨n.natAbs, 0⟩
  if n < 0 then -magnitude else magnitude

/-- The floating-point number that a signed numeral or one of the words for infinity and for no
number denotes. The words may have letters of either case. -/
def readFloat? (s : List Char) : Option Float :=
  let (negative, s) := takeSign s
  let word := s.map Char.toLower
  let magnitude :=
    if word == "inf".toList || word == "infinity".toList then some (1.0 / 0.0 : Float)
    else if word == "nan".toList then some (0.0 / 0.0 : Float)
    else (readDecimal? s).map Decimal.toFloat
  magnitude.map fun x => if negative then -x else x

example : readDecimal? "12.50e-3".toList = some ⟨1250, -5⟩ ∧ readDecimal? ".".toList = none ∧
    readDecimal? "1e".toList = none := by decide +kernel

end PageServer.Numeral
