import Mathlib.Tactic.IntervalCases
import Gatehouse.Time.Calendar
/-!
# Days and dates

Every number of a day is that of the date which the calendar gives it, and that date exists.  Both
follow from a year that starts in March: it has 365 days, or 366 if it ends with the twenty-ninth of
February.
-/

namespace Gatehouse.Calendar

/-! ## Eras -/

/-- How a day lies in its era: centuries of an era, cycles of four years, years of a cycle, and days of
a year that starts in March.  Only the last day of a leap year has the number 365. -/
structure Place where
  century : Nat
  cycle : Nat
  year : Nat
  day : Nat
  century_le : century ≤ 3
  cycle_le : cycle ≤ 24
  year_le : year ≤ 3
  day_le : day ≤ 365
  leap : day = 365 → year = 3 ∧ (cycle = 24 → century = 3)

namespace Place

/-- The number of the year in its era. -/
def yearOfEra (place : Place) : Nat := place.century * 100 + place.cycle * 4 + place.year

/-- The number of the day in its era. -/
def dayOfEra (place : Place) : Nat :=
  place.century * 36524 + place.cycle * 1461 + place.year * 365 + place.day

/-- The place of a day of an era. -/
def ofDay (day : Nat) (inEra : day < 146097) : Place :=
  let century := min 3 (day / 36524)
  let dayOfCentury := day - century * 36524
  let cycle := dayOfCentury / 1461
  let dayOfCycle := dayOfCentury - cycle * 1461
  let year := min 3 (dayOfCycle / 365)
  { century := century
    cycle := cycle
    year := year
    day := dayOfCycle - year * 365
    century_le := by omega
    cycle_le := by omega
    year_le := by omega
    day_le := by omega
    leap := by omega }

theorem dayOfEra_ofDay {day : Nat} (inEra : day < 146097) : (ofDay day inEra).dayOfEra = day := by
  simp only [dayOfEra, ofDay]
  omega

theorem yearOfEra_lt (place : Place) : place.yearOfEra < 400 := by
  have century := place.century_le
  have cycle := place.cycle_le
  have year := place.year_le
  unfold yearOfEra
  omega

/-- The days before a year of an era: one more in every fourth year, but not in every hundredth. -/
theorem dayOfEra_eq (place : Place) :
    place.dayOfEra =
      place.yearOfEra * 365 + place.yearOfEra / 4 - place.yearOfEra / 100 + place.day := by
  have cycle := place.cycle_le
  have year := place.year_le
  unfold dayOfEra yearOfEra
  omega

end Place

/-! ## Years that start in March -/

/-- The day of a year that starts in March, counted from zero. -/
def fromMarch (year : Int) (dayOfYear : Nat) : Date :=
  let month := (5 * dayOfYear + 2) / 153
  { year := if month < 10 then year else year + 1
    month := if month < 10 then month + 3 else month - 9
    day := dayOfYear - daysBeforeMonth month + 1 }

/-- A day is found at its place in its era. -/
theorem exists_place (number : Int) : ∃ (era : Int) (place : Place),
    number = era * daysPerEra + place.dayOfEra - epochOffset ∧
      ofDays number = fromMarch (era * 400 + place.yearOfEra) place.day := by
  have inEra : ((number + epochOffset) % daysPerEra).toNat < 146097 := by
    unfold daysPerEra epochOffset
    omega
  refine ⟨(number + epochOffset) / daysPerEra, .ofDay _ inEra, ?_, rfl⟩
  rw [Place.dayOfEra_ofDay]
  unfold daysPerEra epochOffset
  omega

/-- Year and month of a day, both counted from March. -/
theorem toDays_eq {date : Date} (year : Int) (month : Nat)
    (yearIs : (if 2 < date.month then date.year else date.year - 1) = year)
    (monthIs : (if 2 < date.month then date.month - 3 else date.month + 9) = month) :
    toDays date = year / 400 * daysPerEra +
      ((year % 400).toNat * 365 + (year % 400).toNat / 4 - (year % 400).toNat / 100 +
        (daysBeforeMonth month + date.day - 1) : Nat) - epochOffset := by
  simp only [toDays, yearIs, monthIs]

/-- The number of a day of a year that starts in March. -/
theorem toDays_fromMarch (era : Int) (place : Place) :
    toDays (fromMarch (era * 400 + place.yearOfEra) place.day) =
      era * daysPerEra + place.dayOfEra - epochOffset := by
  have bound := place.yearOfEra_lt
  have day := place.day_le
  have inMonth : daysBeforeMonth ((5 * place.day + 2) / 153) ≤ place.day := by
    unfold daysBeforeMonth
    omega
  rw [toDays_eq (era * 400 + place.yearOfEra) ((5 * place.day + 2) / 153)]
  · have yearIs : ((era * 400 + (place.yearOfEra : Int)) % 400).toNat = place.yearOfEra := by omega
    have eraIs : (era * 400 + (place.yearOfEra : Int)) / 400 = era := by omega
    have dayIs : daysBeforeMonth ((5 * place.day + 2) / 153) +
        (place.day - daysBeforeMonth ((5 * place.day + 2) / 153) + 1) - 1 = place.day := by omega
    rw [yearIs, eraIs, fromMarch, dayIs, place.dayOfEra_eq]
  · simp only [fromMarch]
    split <;> split <;> omega
  · simp only [fromMarch]
    split <;> split <;> omega

/-- The months from March to January follow each other by their lengths. -/
theorem daysBeforeMonth_succ {month : Nat} (beforeFebruary : month < 11) (year : Int) :
    daysBeforeMonth (month + 1) =
      daysBeforeMonth month + daysInMonth year (if month < 10 then month + 3 else month - 9) := by
  interval_cases month <;> rfl

theorem Date.exists_iff {date : Date} :
    date.exists = true ↔ 1 ≤ date.month ∧ date.month ≤ 12 ∧ 1 ≤ date.day ∧
      date.day ≤ daysInMonth date.year date.month := by
  simp [Date.exists, and_assoc]

/-- A day of a year that starts in March is a day of the calendar, if the year is long enough. -/
theorem exists_fromMarch {year : Int} {dayOfYear : Nat} (bound : dayOfYear ≤ 365)
    (leap : dayOfYear = 365 → isLeap (year + 1) = true) :
    (fromMarch year dayOfYear).exists = true := by
  have inMonth : daysBeforeMonth ((5 * dayOfYear + 2) / 153) ≤ dayOfYear := by
    unfold daysBeforeMonth
    omega
  have beforeNext : dayOfYear < daysBeforeMonth ((5 * dayOfYear + 2) / 153 + 1) := by
    unfold daysBeforeMonth
    omega
  have inYear : (5 * dayOfYear + 2) / 153 ≤ 11 := by omega
  rw [Date.exists_iff]
  simp only [fromMarch]
  generalize (5 * dayOfYear + 2) / 153 = month at *
  refine ⟨?_, ?_, Nat.le_add_left _ _, ?_⟩
  · split <;> omega
  · split <;> omega
  · by_cases beforeFebruary : month < 11
    · have length := daysBeforeMonth_succ beforeFebruary (if month < 10 then year else year + 1)
      omega
    · -- In February the year tells how many days there are.
      obtain rfl : month = 11 := by omega
      have start : daysBeforeMonth 11 = 337 := rfl
      simp only [Nat.reduceLT, if_false, daysInMonth, Nat.reduceSub, if_true, start]
      split
      · omega
      · rename_i short
        have notLast : dayOfYear ≠ 365 := fun last => short (leap last)
        omega

theorem isLeap_of_last {era : Int} {place : Place} (last : place.day = 365) :
    isLeap (era * 400 + place.yearOfEra + 1) = true := by
  obtain ⟨year, century⟩ := place.leap last
  have cycle := place.cycle_le
  have bound := place.century_le
  simp only [isLeap, Bool.and_eq_true, Bool.or_eq_true, decide_eq_true_eq]
  unfold Place.yearOfEra
  omega

/-! ## All days -/

/-- A day has the number that its date was made for. -/
theorem toDays_ofDays (number : Int) : toDays (ofDays number) = number := by
  obtain ⟨era, place, same, date⟩ := exists_place number
  rw [date, toDays_fromMarch, same]

/-- The date of a day exists. -/
theorem exists_ofDays (number : Int) : (ofDays number).exists = true := by
  obtain ⟨era, place, _, date⟩ := exists_place number
  rw [date]
  exact exists_fromMarch place.day_le isLeap_of_last

end Gatehouse.Calendar
