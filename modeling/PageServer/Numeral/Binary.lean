/-! The exact value of a binary floating-point number: a sign, a natural mantissa and a power of
two, or one of the values that are no number of that form. -/
namespace PageServer.Numeral

/-- A finite binary number: its magnitude is `mantissa * 2 ^ exponent`. -/
structure Binary where
  negative : Bool
  mantissa : Nat
  exponent : Int
  deriving DecidableEq, Repr

/-- What a floating-point number stands for. -/
inductive FloatValue where
  | notANumber
  | infinite (negative : Bool)
  | finite (value : Binary)
  deriving DecidableEq, Repr

def valueOfBits (bits : UInt64) : FloatValue :=
  let negative := bits >>> 63 == 1
  let biased := ((bits >>> 52) &&& 0x7FF).toNat
  let fraction := (bits &&& 0xFFFFFFFFFFFFF).toNat
  if biased = 0x7FF then
    if fraction = 0 then .infinite negative else .notANumber
  else if biased = 0 then .finite ⟨negative, fraction, -1074⟩
  else .finite ⟨negative, 0x10000000000000 + fraction, (biased : Int) - 1075⟩

/-- What a floating-point number stands for, by its bits. -/
def valueOf (x : Float) : FloatValue :=
  valueOfBits x.toBits

def Binary.quotient (b : Binary) : Nat × Nat :=
  match b.exponent with
  | .ofNat e => (b.mantissa * Nat.pow 2 e, 1)
  | .negSucc e => (b.mantissa, Nat.pow 2 (e + 1))

/-- The value scaled to an integer, with the positive scale. -/
def Binary.scaled (b : Binary) : Int × Nat :=
  let (num, den) := b.quotient
  (if b.negative then -(num : Int) else (num : Int), den)

theorem Binary.quotient_denominator_pos (b : Binary) : 0 < b.quotient.2 := by
  unfold Binary.quotient
  split
  · exact Nat.one_pos
  · exact Nat.two_pow_pos _

end PageServer.Numeral
