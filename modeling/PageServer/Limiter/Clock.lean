import PageServer.Number
/-! Readings of a clock, in seconds. The limiter asks where a window starts and which of two
readings is earlier. Readings may be numbers as they come in or exact fractions; numbers as they
come in may be too large to reckon with. -/
namespace PageServer

/-- Why there is no number of seconds between readings. -/
inductive ClockFault where
  /-- A whole number takes part that is too large for a floating-point one. -/
  | tooLarge
  | infinite
  | notANumber
  /-- The number of seconds itself is too large for a floating-point one. -/
  | unrepresentable (seconds : Int)
  deriving DecidableEq, Repr

class Clock (τ : Type) where
  /-- The start of the window of so many seconds that ends at a reading. -/
  windowStart : τ → Int → τ
  /-- Whether a reading is earlier than another one. -/
  earlier : τ → τ → Bool
  /-- The whole seconds, rounded toward zero, from the last reading to the end of the window that
  starts at the first one. -/
  wholeSeconds : τ → Int → τ → Except ClockFault Int
  /-- The seconds from the second reading to the first one, in hundredths. -/
  elapsed : τ → τ → Except ClockFault Float

namespace Number

/-- The sum of two numbers, unless one of them is too large. -/
def plus (a b : Number) : Except ClockFault Number :=
  match a, b with
  | .whole m, .whole n => .ok (.whole (m + n))
  | a, b =>
      match asFloats a b with
      | .ok (x, y) => .ok (.real (x + y))
      | .error _ => .error .tooLarge

/-- The difference of two numbers, unless one of them is too large. -/
def minus (a b : Number) : Except ClockFault Number :=
  match a, b with
  | .whole m, .whole n => .ok (.whole (m - n))
  | a, b =>
      match asFloats a b with
      | .ok (x, y) => .ok (.real (x - y))
      | .error _ => .error .tooLarge

/-- The whole part of a number. -/
def wholePart : Number → Except ClockFault Int
  | .whole n => .ok n
  | .real x =>
      match Numeral.valueOf x with
      | .finite b => let (num, den) := b.scaled; .ok (Int.tdiv num den)
      | .infinite _ => .error .infinite
      | .notANumber => .error .notANumber

/-- A number rounded to hundredths, as a floating-point number. -/
def hundredths : Number → Except ClockFault Float
  | .whole n =>
      let x := Numeral.floatOfInt n
      if isInfinite x then .error (.unrepresentable n) else .ok x
  | .real x => .ok (Numeral.roundToPlaces 2 x)

instance : Clock Number where
  windowStart now window := now.sub (.whole window)
  earlier := less
  wholeSeconds first window now := do
    let left ← (← first.plus (.whole window)).minus now
    left.wholePart
  elapsed now start := do
    let seconds ← now.minus start
    seconds.hundredths

end Number

namespace ExactClock

/-- A fraction rounded to hundredths, as a floating-point number. -/
def hundredths (q : Rat) : Float :=
  let rounded := Float.ofScientific (Numeral.roundQuotient (q.num.natAbs * 100) q.den) true 2
  if q < 0 then -rounded else rounded

instance : Clock Rat where
  windowStart now window := now - window
  earlier a b := decide (a < b)
  wholeSeconds first window now :=
    let left := first + window - now
    .ok (Int.tdiv left.num left.den)
  elapsed now start := .ok (hundredths (now - start))

end ExactClock

end PageServer
