import Gatehouse.Text.Decimal
/-!
# The calendar

Days counted from the start of 1970 against years, months and days of the Gregorian calendar,
extended in both directions.  A year is taken to start in March, so that the day which only leap
years have is the last of its year.
-/

namespace Gatehouse.Calendar

/-- A day by year, month and day of the month. -/
structure Date where
  year : Int
  month : Nat
  day : Nat
deriving DecidableEq, Repr

/-- Days in four hundred years. -/
def daysPerEra : Int := 146097

/-- Days from the first of March of the year 0 to the start of 1970. -/
def epochOffset : Int := 719468

/-- Days from the first of March to the first of the `m`-th month after March. -/
def daysBeforeMonth (m : Nat) : Nat := (153 * m + 2) / 5

/-- The day with a given number, counted from the start of 1970. -/
def ofDays (number : Int) : Date :=
  let shifted := number + epochOffset
  let era := shifted / daysPerEra
  let dayOfEra := (shifted % daysPerEra).toNat
  let century := min 3 (dayOfEra / 36524)
  let dayOfCentury := dayOfEra - century * 36524
  let cycle := dayOfCentury / 1461
  let dayOfCycle := dayOfCentury - cycle * 1461
  let yearOfCycle := min 3 (dayOfCycle / 365)
  let dayOfYear := dayOfCycle - yearOfCycle * 365
  let monthOfYear := (5 * dayOfYear + 2) / 153
  let year : Int := era * 400 + (century * 100 + cycle * 4 + yearOfCycle : Nat)
  { year := if monthOfYear < 10 then year else year + 1
    month := if monthOfYear < 10 then monthOfYear + 3 else monthOfYear - 9
    day := dayOfYear - daysBeforeMonth monthOfYear + 1 }

/-- The number of a day, counted from the start of 1970. -/
def toDays (date : Date) : Int :=
  let year := if 2 < date.month then date.year else date.year - 1
  let monthOfYear := if 2 < date.month then date.month - 3 else date.month + 9
  let era := year / 400
  let yearOfEra := (year % 400).toNat
  let dayOfYear := daysBeforeMonth monthOfYear + date.day - 1
  let dayOfEra := yearOfEra * 365 + yearOfEra / 4 - yearOfEra / 100 + dayOfYear
  era * daysPerEra + dayOfEra - epochOffset

/-- Whether a year has a twenty-ninth of February. -/
def isLeap (year : Int) : Bool := year % 4 = 0 && (year % 100 ≠ 0 || year % 400 = 0)

/-- The length of a month. -/
def daysInMonth (year : Int) (month : Nat) : Nat :=
  if month = 2 then if isLeap year then 29 else 28
  else if month = 4 || month = 6 || month = 9 || month = 11 then 30 else 31

/-- Whether the parts of a date name a day. -/
def Date.exists (date : Date) : Bool :=
  1 ≤ date.month && date.month ≤ 12 && 1 ≤ date.day && date.day ≤ daysInMonth date.year date.month

end Gatehouse.Calendar
