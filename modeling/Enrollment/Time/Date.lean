/-! # Dates of the Gregorian calendar

Days are counted from 1 January 1970. The count goes through years that begin on 1 March, so that
the leap day is the last day of its year, and through eras of 400 such years, 146097 days each.

* `ofDays_after_february`: the counts meet at the ends of February. -/

namespace Enrollment

/-- A date of the Gregorian calendar, extended to all years. -/
structure Date where
  year : Int
  month : Nat
  day : Nat
deriving DecidableEq, Repr

namespace Date

/-- A year with 366 days. -/
def isLeap (year : Int) : Bool := year % 4 == 0 && (year % 100 != 0 || year % 400 == 0)

/-- The count of days of a month. -/
def daysIn (year : Int) (month : Nat) : Nat :=
  match month with
  | 1 | 3 | 5 | 7 | 8 | 10 | 12 => 31
  | 4 | 6 | 9 | 11 => 30
  | 2 => if isLeap year then 29 else 28
  | _ => 0

/-- The month has the day, and the year has the month. -/
def isValid (d : Date) : Bool := 1 ≤ d.day && d.day ≤ daysIn d.year d.month

/-- The first and the last year of the dates that a text can name. -/
def firstYear : Int := -262143
def lastYear : Int := 262142

/-- The year of a date is one that a text can name. -/
def isInRange (d : Date) : Bool := firstYear ≤ d.year && d.year ≤ lastYear

/-- Days from 1 January 1970. -/
def toDays (d : Date) : Int :=
  let year := if d.month ≤ 2 then d.year - 1 else d.year
  let era := year / 400
  let yearOfEra := year % 400
  let monthFromMarch : Int := (d.month + 9) % 12
  let dayOfYear := (153 * monthFromMarch + 2) / 5 + d.day - 1
  let dayOfEra := yearOfEra * 365 + yearOfEra / 4 - yearOfEra / 100 + dayOfYear
  era * 146097 + dayOfEra - 719468

/-- The date so many days from 1 January 1970. -/
def ofDays (days : Int) : Date :=
  let z := days + 719468
  let era := z / 146097
  let dayOfEra := z % 146097
  let yearOfEra := (dayOfEra - dayOfEra / 1460 + dayOfEra / 36524 - dayOfEra / 146096) / 365
  let dayOfYear := dayOfEra - (365 * yearOfEra + yearOfEra / 4 - yearOfEra / 100)
  let monthFromMarch := (5 * dayOfYear + 2) / 153
  let day := dayOfYear - (153 * monthFromMarch + 2) / 5 + 1
  let month := if monthFromMarch < 10 then monthFromMarch + 3 else monthFromMarch - 9
  let year := yearOfEra + era * 400 + if month ≤ 2 then 1 else 0
  ⟨year, month.toNat, day.toNat⟩

theorem toDays_epoch : (Date.mk 1970 1 1).toDays = 0 := by decide

theorem ofDays_after_february :
    ofDays ((Date.mk 2024 2 29).toDays + 1) = ⟨2024, 3, 1⟩ ∧
      ofDays ((Date.mk 1900 2 28).toDays + 1) = ⟨1900, 3, 1⟩ := by decide

end Date

end Enrollment
