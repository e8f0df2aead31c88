/-!
# The calendar

* `Date` : a year, a month and a day; `Date.isValid` : the day exists;
* `Date.toDays` : the days from 1970-01-01 to a date; `Date.ofDays` : the date that many days after.

Both count from the first of March of year 0, so that a leap day is the last day of its year, and in
eras of 400 years, which all have 146097 days.
-/

namespace Entitlement

structure Date where
  year : Int
  month : Nat
  day : Nat
  deriving DecidableEq, Repr

def isLeapYear (y : Int) : Bool := y % 4 = 0 && (y % 100 ≠ 0 || y % 400 = 0)

def daysInMonth (y : Int) (m : Nat) : Nat :=
  if m = 2 then (if isLeapYear y then 29 else 28)
  else if m = 4 ∨ m = 6 ∨ m = 9 ∨ m = 11 then 30
  else 31

namespace Date

def isValid (d : Date) : Bool :=
  1 ≤ d.month && d.month ≤ 12 && 1 ≤ d.day && d.day ≤ daysInMonth d.year d.month

/-- The days of a year that starts in March before one of its months, which count from zero. -/
def daysBefore (month : Int) : Int := (153 * month + 2) / 5

def toDays (d : Date) : Int :=
  let year := if d.month ≤ 2 then d.year - 1 else d.year
  let month : Int := if d.month ≤ 2 then d.month + 9 else d.month - 3
  let era := year / 400
  let y := year % 400
  era * 146097 + (y * 365 + y / 4 - y / 100) + daysBefore month + (d.day - 1) - 719468

def ofDays (n : Int) : Date :=
  let z := n + 719468
  let era := z / 146097
  let doe := z % 146097
  let y := (doe - doe / 1460 + doe / 36524 - doe / 146096) / 365
  let doy := doe - (365 * y + y / 4 - y / 100)
  let m := (5 * doy + 2) / 153
  let day := doy - daysBefore m + 1
  let month := if m < 10 then m + 3 else m - 9
  ⟨era * 400 + y + (if month ≤ 2 then 1 else 0), month.toNat, day.toNat⟩

end Date

end Entitlement
