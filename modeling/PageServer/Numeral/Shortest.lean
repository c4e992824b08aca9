import PageServer.Numeral.Binary
import PageServer.Numeral.Decimal
/-! The shortest decimal that reads back as a given binary number. The reals that round to the
number form an interval, which holds its ends iff the mantissa is even. For one, two, … digits the
two points of the decimal grid around the number are tried: the first grid with a point in the
interval decides, of two such points the nearer is taken, and of two equally near ones the even. -/
namespace PageServer.Numeral

/-- Whether `10 ^ e ≤ num / den`. -/
def powerLe (e : Int) (num den : Nat) : Bool :=
  match e with
  | .ofNat e => Nat.pow 10 e * den ≤ num
  | .negSucc e => den ≤ num * Nat.pow 10 (e + 1)

def leadingExponent (num den : Nat) : Int :=
  let estimate := ((num.log2 : Int) - den.log2) * 30103 / 100000
  match [2, 1, 0, -1].find? (fun step => powerLe (estimate + step) num den) with
  | some step => estimate + step
  | none => estimate - 2

def inUnits (e : Int) (num den : Nat) : Nat × Nat :=
  match e with
  | .ofNat e => (num, den * Nat.pow 10 e)
  | .negSucc e => (num * Nat.pow 10 (e + 1), den)

/-- The interval of reals that round to a number, in quarters of the number's own grid: its value
and the distances to the lower and the upper end. -/
structure Rounding where
  value : Nat
  below : Nat
  above : Nat
  closed : Bool

/-- The neighbour below is only half as far away where the mantissa is the least of its binade. -/
def Binary.rounding (b : Binary) : Rounding :=
  ⟨4 * b.mantissa, if b.mantissa = 0x10000000000000 ∧ -1074 < b.exponent then 1 else 2, 2,
    b.mantissa % 2 == 0⟩

/-- A point of the grid of `count` significant digits that rounds to the number, if the grid has
one. -/
def gridPoint? (b : Binary) (leading : Int) (count : Nat) : Option Decimal :=
  let r := b.rounding
  let unit := leading - (count : Int) + 1
  let quarter (n : Nat) : Nat × Nat :=
    inUnits unit (({ b with mantissa := n } : Binary).quotient.1)
      (({ b with mantissa := n } : Binary).quotient.2 * 4)
  let (num, den) := quarter r.value
  let (low, _) := quarter (r.value - r.below)
  let (high, _) := quarter (r.value + r.above)
  let within (n : Nat) : Bool :=
    if r.closed then low ≤ n * den && n * den ≤ high else low < n * den && n * den < high
  let floor := num / den
  let lower := within floor
  let upper := within (floor + 1)
  if lower && upper then
    let left := num - floor * den
    let right := (floor + 1) * den - num
    if left < right || (left == right && floor % 2 == 0) then some ⟨floor, unit⟩
    else some ⟨floor + 1, unit⟩
  else if lower then some ⟨floor, unit⟩
  else if upper then some ⟨floor + 1, unit⟩
  else none

/-- The first grid with a point that rounds to the number, from `count` digits on. -/
def firstGridPoint (b : Binary) (leading : Int) : Nat → Nat → Decimal
  | 0, _ => ⟨b.mantissa, 0⟩
  | fuel + 1, count => (gridPoint? b leading count).getD (firstGridPoint b leading fuel (count + 1))

def Binary.shortest (b : Binary) : Decimal :=
  if b.mantissa = 0 then ⟨0, 0⟩
  else
    let (num, den) := b.quotient
    firstGridPoint b (leadingExponent num den) 17 1

def floatText (style : NumeralStyle) (x : Float) : String :=
  match valueOf x with
  | .notANumber => "nan"
  | .infinite negative => if negative then "-inf" else "inf"
  | .finite b => String.ofList ((if b.negative then ['-'] else []) ++ b.shortest.text style)

example : valueOf (0.0 / 0.0) = .notANumber := by decide +kernel
example : (Binary.shortest ⟨false, 1, -1074⟩, Binary.shortest ⟨false, 3602879701896397, -55⟩) =
    ((⟨5, -324⟩ : Decimal), (⟨1, -1⟩ : Decimal)) := by decide +kernel

end PageServer.Numeral
