/-! Decimal numerals of non-negative numbers: a significand and a power of ten. Writing one is a
matter of style, which a `NumeralStyle` fixes: the exponents that are written positionally, and the
least number of digits of an exponent. -/
namespace PageServer.Numeral

structure Decimal where
  significand : Nat
  exponent : Int
  deriving DecidableEq, Repr

/-- How decimals are written: a decimal whose leading digit stands for `10 ^ e` is written
positionally iff `positionalFrom ≤ e < positionalBelow`. -/
structure NumeralStyle where
  positionalFrom : Int
  positionalBelow : Int
  exponentDigits : Nat

/-- Positional from `10 ^ -4` to below `10 ^ 16`; exponents have two digits at least. -/
def plainStyle : NumeralStyle := ⟨-4, 16, 2⟩

def digits (n : Nat) : List Char :=
  Nat.toDigits 10 n

def mostDigits : Nat := 4300

/-- What is said of a whole number with too many digits; `counted` tells their number, if it is
known. -/
def digitLimitMessage (counted : String) : String :=
  "Exceeds the limit (" ++ toString mostDigits ++ " digits) for integer string conversion" ++
    counted ++ "; use sys.set_int_max_str_digits() to increase the limit"

def digitsPadded (width n : Nat) : List Char :=
  List.replicate (width - (digits n).length) '0' ++ digits n

/-- A significand without its trailing zeros, and their number; `fuel` bounds that number. -/
def stripZeros : Nat → Nat → Nat × Nat
  | 0, n => (n, 0)
  | fuel + 1, n =>
      if n ≠ 0 ∧ n % 10 = 0 then
        let (m, count) := stripZeros fuel (n / 10)
        (m, count + 1)
      else (n, 0)

def Decimal.normal (d : Decimal) : Decimal :=
  let (m, count) := stripZeros (digits d.significand).length d.significand
  if m = 0 then ⟨0, 0⟩ else ⟨m, d.exponent + count⟩

/-- The exponent part of a numeral: a sign is always written. -/
def exponentText (style : NumeralStyle) (e : Int) : List Char :=
  ['e', if e < 0 then '-' else '+'] ++ digitsPadded style.exponentDigits e.natAbs

/-- A decimal as a numeral that always shows that it need not be whole: by a point with a digit on
either side, or by an exponent. -/
def Decimal.text (style : NumeralStyle) (d : Decimal) : List Char :=
  let d := d.normal
  let ds := digits d.significand
  let count : Int := ds.length
  let leading := d.exponent + count - 1
  if style.positionalFrom ≤ leading ∧ leading < style.positionalBelow then
    if 0 ≤ d.exponent then ds ++ List.replicate d.exponent.toNat '0' ++ ['.', '0']
    else if 0 ≤ leading then
      ds.take (leading.toNat + 1) ++ ['.'] ++ ds.drop (leading.toNat + 1)
    else ['0', '.'] ++ List.replicate (-leading - 1).toNat '0' ++ ds
  else
    let mantissa := match ds with
      | first :: second :: rest => first :: '.' :: second :: rest
      | short => short
    mantissa ++ exponentText style leading

example : (Decimal.text plainStyle ⟨100, -3⟩, Decimal.text plainStyle ⟨1, 16⟩,
    Decimal.text plainStyle ⟨12345, -9⟩) =
      ("0.1".toList, "1e+16".toList, "1.2345e-05".toList) := by decide +kernel

end PageServer.Numeral
