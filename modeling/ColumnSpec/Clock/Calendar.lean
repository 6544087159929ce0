/-!
# The proleptic Gregorian calendar

Days are counted from 1970-01-01, day 0. `civilOfDays` and `daysOfCivil` convert between a
day number and a date by the era arithmetic of 400-year cycles of 146097 days, with the
year taken to start on the first of March so that the leap day falls last.
-/
namespace ColumnSpec.Calendar

/-- A date: year, month from 1 to 12, day from 1. -/
structure Date where
  year : Int
  month : Nat
  day : Nat
deriving DecidableEq, Repr

/-- The day number of a date. Days past the end of a month run on into the next. -/
def daysOfCivil (y : Int) (m d : Nat) : Int :=
  let y := if m ≤ 2 then y - 1 else y
  let era := y / 400
  let yoe := (y - era * 400).toNat
  let mp := if m > 2 then m - 3 else m + 9
  let doy := (153 * mp + 2) / 5 + d - 1
  let doe := yoe * 365 + yoe / 4 - yoe / 100 + doy
  era * 146097 + doe - 719468

def civilOfDays (z : Int) : Date :=
  let z := z + 719468
  let era := z / 146097
  let doe := (z - era * 146097).toNat
  let yoe := (doe - doe / 1460 + doe / 36524 - doe / 146096) / 365
  let doy := doe - (365 * yoe + yoe / 4 - yoe / 100)
  let mp := (5 * doy + 2) / 153
  let d := doy - (153 * mp + 2) / 5 + 1
  let mo := if mp < 10 then mp + 3 else mp - 9
  ⟨yoe + era * 400 + (if mo ≤ 2 then 1 else 0), mo, d⟩

def isLeap (y : Int) : Bool := y % 4 == 0 && (y % 100 != 0 || y % 400 == 0)

def monthLengths (y : Int) : List Nat :=
  [31, if isLeap y then 29 else 28, 31, 30, 31, 30, 31, 31, 30, 31, 30, 31]

/-- The day of the year, 1 for the first of January. -/
def dayOfYear (y : Int) (m d : Nat) : Nat := ((monthLengths y).take (m - 1)).foldr (· + ·) 0 + d

end ColumnSpec.Calendar
