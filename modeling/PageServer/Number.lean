import PageServer.Numeral.Places
import PageServer.Numeral.Literal
/-! Numbers as they come in: whole numbers of any size, or floating-point ones. Comparison is
exact across the two kinds. Arithmetic stays exact between whole numbers and is rounded as soon as
a floating-point number takes part. -/
namespace PageServer

open Numeral

/-- A number, whole or not. -/
inductive Number where
  | whole (n : Int)
  | real (x : Float)
  deriving Inhabited

/-- Why an operation on numbers has no result. -/
inductive NumberFault where
  | divisionByZero (message : String)
  | overflow (message : String)
  deriving DecidableEq, Repr

namespace Number

/-- How a whole number compares to a floating-point one; none if that is no number. -/
def compareWholeReal (n : Int) (x : Float) : Option Ordering :=
  match valueOf x with
  | .notANumber => none
  | .infinite negative => some (if negative then .gt else .lt)
  | .finite b =>
      let (num, den) := b.scaled
      some (compare (n * den) num)

/-- How two numbers compare; none if one is no number. -/
def compare? : Number → Number → Option Ordering
  | .whole m, .whole n => some (compare m n)
  | .whole m, .real y => compareWholeReal m y
  | .real x, .whole n => (compareWholeReal n x).map Ordering.swap
  | .real x, .real y =>
      if x < y then some .lt else if y < x then some .gt else if x == y then some .eq else none

def less (a b : Number) : Bool :=
  compare? a b == some .lt

def same (a b : Number) : Bool :=
  compare? a b == some .eq

/-- The floating-point number nearest to a number. -/
def toFloat : Number → Float
  | .whole n => floatOfInt n
  | .real x => x

def text : Number → String
  | .whole n => toString n
  | .real x => floatText plainStyle x

/-- What is said of a number that has too many digits to be written, if it has. -/
def limitFault? : Number → Option String
  | .whole n => if Nat.pow 10 mostDigits ≤ n.natAbs then some (digitLimitMessage "") else none
  | .real _ => none

def isReal : Number → Bool
  | .whole _ => false
  | .real _ => true

def isZero : Number → Bool
  | .whole n => n == 0
  | .real x => x == 0

def add : Number → Number → Number
  | .whole m, .whole n => .whole (m + n)
  | a, b => .real (a.toFloat + b.toFloat)

def sub : Number → Number → Number
  | .whole m, .whole n => .whole (m - n)
  | a, b => .real (a.toFloat - b.toFloat)

/-- The whole part of a number; none of what is not finite. -/
def truncated? : Number → Option Int
  | .whole n => some n
  | .real x =>
      match valueOf x with
      | .finite b => let (num, den) := b.scaled; some (Int.tdiv num den)
      | _ => none

/-- The number without the odd part of a scale: `m * 2 ^ -k` as a floating-point number, for an `m`
with no more significant bits than the format holds. -/
def floatOfScaled : Nat → Int → Nat → Float
  | 0, m, k => (floatOfInt m).scaleB (-(k : Int))
  | fuel + 1, m, k =>
      if m ≠ 0 ∧ m % 2 = 0 ∧ k ≠ 0 then floatOfScaled fuel (m / 2) (k - 1)
      else (floatOfInt m).scaleB (-(k : Int))

/-- The remainder of two finite numbers with the sign of the first, which is exact. -/
def remainder (x y : Float) : Float :=
  match valueOf x, valueOf y with
  | .finite a, .finite b =>
      let (m, dm) := a.scaled
      let (n, dn) := b.scaled
      let scale := dm.log2 + dn.log2
      let r := Int.tmod (m * dn) (n * dm)
      if r == 0 then (if a.negative then -0.0 else 0.0) else floatOfScaled (scale + 1) r scale
  | .finite _, .infinite _ => x
  | _, _ => 0.0 / 0.0

def floorDivMod (x y : Float) : Float × Float :=
  let r := remainder x y
  let q := (x - r) / y
  let (q, r) :=
    if r != 0 then if (y < 0) != (r < 0) then (q - 1, r + y) else (q, r)
    else (q, if y < 0 || 1 / y < 0 then -0.0 else 0.0)
  if q != 0 then
    let whole := q.floor
    (if 0.5 < q - whole then whole + 1 else whole, r)
  else (if x / y < 0 || 1 / (x / y) < 0 then -0.0 else 0.0, r)

/-- The quotient of whole numbers, rounded once. Enough bits of it are computed, and the last one of
them is set if any bit was left out; below the normal range the quotient is rounded to the smallest
unit there is. -/
def quotient (m n : Int) : Float :=
  let num := m.natAbs
  let den := n.natAbs
  let shift := den.log2 + 66 - min num.log2 (den.log2 + 66)
  let x :=
    if 1087 < shift then
      (Decimal.toFloat ⟨roundQuotient (num * Nat.pow 2 1074) den, 0⟩).scaleB (-1074)
    else
      let scaled := num * Nat.pow 2 shift
      let q := scaled / den
      let q := if scaled % den = 0 then q else q / 2 * 2 + 1
      (Decimal.toFloat ⟨q, 0⟩).scaleB (-(shift : Int))
  if (m < 0) != (n < 0) then -x else x

def isInfinite (x : Float) : Bool :=
  match valueOf x with
  | .infinite _ => true
  | _ => false

/-- Both numbers as floating-point ones; a whole number that is too large has no such form. -/
def asFloats (a b : Number) : Except NumberFault (Float × Float) :=
  let tooLarge : Number → Bool
    | .whole n => isInfinite (floatOfInt n)
    | .real _ => false
  if tooLarge a || tooLarge b then .error (.overflow "int too large to convert to float")
  else .ok (a.toFloat, b.toFloat)

def divide : Number → Number → Except NumberFault Number
  | .whole m, .whole n =>
      if n = 0 then .error (.divisionByZero "division by zero")
      else
        let x := quotient m n
        if isInfinite x then
          .error (.overflow "integer division result too large for a float")
        else .ok (.real x)
  | a, b => do
      let (x, y) ← asFloats a b
      if y == 0 then .error (.divisionByZero "float division by zero") else .ok (.real (x / y))

def floorDivide : Number → Number → Except NumberFault Number
  | .whole m, .whole n =>
      if n = 0 then .error (.divisionByZero "integer division or modulo by zero")
      else .ok (.whole (Int.fdiv m n))
  | a, b => do
      let (x, y) ← asFloats a b
      if y == 0 then .error (.divisionByZero "float floor division by zero")
      else .ok (.real (floorDivMod x y).1)

def modulo : Number → Number → Except NumberFault Number
  | .whole m, .whole n =>
      if n = 0 then .error (.divisionByZero "integer modulo by zero")
      else .ok (.whole (Int.fmod m n))
  | a, b => do
      let (x, y) ← asFloats a b
      if y == 0 then .error (.divisionByZero "float modulo")
      else .ok (.real (floorDivMod x y).2)

end Number

end PageServer
