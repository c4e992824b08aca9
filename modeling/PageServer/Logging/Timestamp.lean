import PageServer.Number
/-! Points in time as dates with a time of day. Seconds are counted from the start of 1970, and a
part of a second is left out. Dates and times of day are those of UTC, to which the clock of the
place is taken to be set. Days are counted in years that start in March, so that a leap day ends its
year; the calendar repeats after 400 of them. -/
namespace PageServer

structure Timestamp where
  year : Int
  month : Nat
  day : Nat
  secondOfDay : Nat
  deriving DecidableEq, Repr

namespace Timestamp

def daysPerEra : Int := 146097

def daysToEpoch : Int := 719468

def yearOfEra (day : Nat) : Nat :=
  (day - day / 1460 + day / 36524 - day / 146096) / 365

/-- The date of a day, counted from the start of 1970. -/
def ofDay (days : Int) (secondOfDay : Nat) : Timestamp :=
  let shifted := days + daysToEpoch
  let era := shifted.fdiv daysPerEra
  let dayOfEra := (shifted.fmod daysPerEra).toNat
  let year := yearOfEra dayOfEra
  let dayOfYear := dayOfEra - (365 * year + year / 4 - year / 100)
  let fromMarch := (5 * dayOfYear + 2) / 153
  let month := if fromMarch < 10 then fromMarch + 3 else fromMarch - 9
  { year := era * 400 + year + (if month ≤ 2 then 1 else 0)
    month := month
    day := dayOfYear - (153 * fromMarch + 2) / 5 + 1
    secondOfDay := secondOfDay }

/-- The date and the time of day of a second, counted from the start of 1970. -/
def ofSeconds (seconds : Int) : Timestamp :=
  ofDay (seconds.fdiv 86400) (seconds.fmod 86400).toNat

/-- The earliest year that can be written: the least machine integer counted from 1900. -/
def firstYear : Int := -2147481748

/-- The latest year that can be written: the largest machine integer. -/
def lastYear : Int := 2147483647

def isWritable (t : Timestamp) : Bool :=
  firstYear ≤ t.year && t.year ≤ lastYear

def twoDigits (n : Nat) : String :=
  String.ofList (Numeral.digitsPadded 2 n)

def text (t : Timestamp) : String :=
  toString t.year ++ "-" ++ twoDigits t.month ++ "-" ++ twoDigits t.day ++ "T" ++
    twoDigits (t.secondOfDay / 3600) ++ ":" ++ twoDigits (t.secondOfDay / 60 % 60) ++ ":" ++
    twoDigits (t.secondOfDay % 60)

example : ofSeconds 951782400 = ⟨2000, 2, 29, 0⟩ ∧ ofSeconds (-1) = ⟨1969, 12, 31, 86399⟩ ∧
    ofSeconds 4107542400 = ⟨2100, 3, 1, 0⟩ := by decide +kernel

end Timestamp

/-- The largest whole number that is not larger than a number. -/
def Number.floor? : Number → Option Int
  | .whole n => some n
  | .real x =>
      match Numeral.valueOf x with
      | .finite b => let (num, den) := b.scaled; some (Int.fdiv num den)
      | _ => none

end PageServer
