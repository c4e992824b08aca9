import PageServer.Numeral.Shortest
/-! Rounding to a fixed number of places. The exact value is rounded to the nearest point of the
grid, and a tie goes to the even one. -/
namespace PageServer.Numeral

/-- The natural number nearest to `num / den`, of two equally near ones the even. -/
def roundQuotient (num den : Nat) : Nat :=
  let floor := num / den
  let left := 2 * (num - floor * den)
  if left < den || (left == den && floor % 2 == 0) then floor else floor + 1

/-- A finite magnitude counted in units of `10 ^ -places`, rounded. -/
def Binary.inPlaces (b : Binary) (places : Nat) : Nat :=
  let (num, den) := b.quotient
  roundQuotient (num * Nat.pow 10 places) den

def pointed (places n : Nat) : List Char :=
  let ds := digitsPadded (places + 1) n
  if places = 0 then ds
  else ds.take (ds.length - places) ++ ['.'] ++ ds.drop (ds.length - places)

/-- A number with a fixed number of places. The sign stays where the digits are all zero. -/
def fixedText (places : Nat) (x : Float) : String :=
  match valueOf x with
  | .notANumber => "nan"
  | .infinite negative => if negative then "-inf" else "inf"
  | .finite b =>
      String.ofList ((if b.negative then ['-'] else []) ++ pointed places (b.inPlaces places))

/-- The number nearest to the decimal with `places` places that is nearest to a number. -/
def roundToPlaces (places : Nat) (x : Float) : Float :=
  match valueOf x with
  | .finite b =>
      let rounded := Float.ofScientific (b.inPlaces places) true places
      if b.negative then -rounded else rounded
  | _ => x

def Binary.significant (b : Binary) (count : Nat) : Decimal :=
  if b.mantissa = 0 then ⟨0, 0⟩
  else
    let (num, den) := b.quotient
    let unit := leadingExponent num den - (count : Int) + 1
    let (num, den) := inUnits unit num den
    ⟨roundQuotient num den, unit⟩

/-- What is rounded lies at most half a unit from what it is rounded to. -/
theorem roundQuotient_near (num den : Nat) (positive : 0 < den) :
    2 * num ≤ (2 * roundQuotient num den + 1) * den ∧
      2 * roundQuotient num den * den ≤ 2 * num + den := by
  have division := Nat.div_add_mod num den
  have remainder := Nat.mod_lt num positive
  have product : num / den * den = num - num % den := by
    rw [Nat.mul_comm]; omega
  unfold roundQuotient
  simp only [Bool.or_eq_true, decide_eq_true_eq, Bool.and_eq_true, beq_iff_eq]
  split
  · rename_i near
    constructor
    · have : (2 * (num / den) + 1) * den = 2 * (num / den * den) + den := by
        rw [Nat.add_mul, Nat.mul_assoc, Nat.one_mul]
      rw [this]; omega
    · have : 2 * (num / den) * den = 2 * (num / den * den) := Nat.mul_assoc ..
      rw [this]; omega
  · rename_i far
    have : (num / den + 1) * den = num / den * den + den := by
      rw [Nat.add_mul, Nat.one_mul]
    constructor
    · have : (2 * (num / den + 1) + 1) * den = 2 * (num / den * den) + 3 * den := by
        simp only [Nat.add_mul, Nat.mul_add, Nat.mul_assoc, Nat.one_mul]; omega
      rw [this]; omega
    · have : 2 * (num / den + 1) * den = 2 * (num / den * den) + 2 * den := by
        simp only [Nat.add_mul, Nat.mul_add, Nat.mul_assoc]; omega
      rw [this]; omega

theorem Binary.inPlaces_near (b : Binary) (places : Nat) :
    let (num, den) := b.quotient
    2 * (num * Nat.pow 10 places) ≤ (2 * b.inPlaces places + 1) * den ∧
      2 * b.inPlaces places * den ≤ 2 * (num * Nat.pow 10 places) + den :=
  roundQuotient_near _ _ b.quotient_denominator_pos

end PageServer.Numeral
