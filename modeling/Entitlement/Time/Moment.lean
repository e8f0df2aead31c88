import Entitlement.Text.Digits
import Entitlement.Time.Calendar

/-!
# Moments

* `Moment` : seconds since 1970-01-01T00:00:00 UTC and nanoseconds, of which a leap second has more
  than a second's;
* `Moment.ofParts` : a date and a time of day; `Moment.date`, `secondOfDay` : back;
* `Moment.rfc3339`, `Moment.display`, `Moment.stamp`, `Moment.day` : written forms;
* `Moment.addSeconds?` : later by whole seconds, if the date can be written.
-/

namespace Entitlement

structure Moment where
  seconds : Int
  nanos : Nat
  deriving DecidableEq, Repr

namespace Moment

def ofParts (d : Date) (hour minute second : Nat) (nanos : Nat) : Moment :=
  ⟨d.toDays * 86400 + (hour * 3600 + minute * 60 + second : Nat), nanos⟩

def date (m : Moment) : Date := .ofDays (m.seconds / 86400)

def secondOfDay (m : Moment) : Nat := (m.seconds % 86400).toNat

/-- A moment is later than another. -/
def isAfter (a b : Moment) : Bool :=
  b.seconds < a.seconds || (a.seconds = b.seconds && b.nanos < a.nanos)

/-! ## Range -/

/-- The years of the dates that are kept. -/
def yearInRange (y : Int) : Bool := -262143 ≤ y && y ≤ 262142

/-- Whole seconds later, at least one. A leap second is left by counting from the second before. -/
def addSeconds? (m : Moment) (n : Nat) : Option Moment :=
  let later : Moment :=
    ⟨m.seconds + n, if 1000000000 ≤ m.nanos then m.nanos - 1000000000 else m.nanos⟩
  if yearInRange later.date.year then some later else none

/-! ## Text -/

/-- Four digits; a year before 0 or after 9999 has a sign. -/
def yearText (y : Int) : String :=
  if y < 0 then "-" ++ Text.padded 4 y.natAbs
  else if 9999 < y then "+" ++ Text.padded 4 y.natAbs
  else Text.padded 4 y.natAbs

/-- A point and 3, 6 or 9 digits, as many as are needed; nothing for whole seconds. -/
def fractionText (nanos : Nat) : String :=
  if nanos = 0 then ""
  else if nanos % 1000000 = 0 then "." ++ Text.padded 3 (nanos / 1000000)
  else if nanos % 1000 = 0 then "." ++ Text.padded 6 (nanos / 1000)
  else "." ++ Text.padded 9 nanos

def hour (m : Moment) : String := Text.padded 2 (m.secondOfDay / 3600)

def minute (m : Moment) : String := Text.padded 2 (m.secondOfDay / 60 % 60)

/-- A leap second is the second number 60. -/
def second (m : Moment) : String := Text.padded 2 (m.secondOfDay % 60 + m.nanos / 1000000000)

def dateText (m : Moment) (separator : String) : String :=
  yearText m.date.year ++ separator ++ Text.padded 2 m.date.month ++ separator ++
    Text.padded 2 m.date.day

/-- The time of day with its fraction. -/
def clockText (m : Moment) : String :=
  m.hour ++ ":" ++ m.minute ++ ":" ++ m.second ++ fractionText (m.nanos % 1000000000)

def rfc3339 (m : Moment) : String := m.dateText "-" ++ "T" ++ m.clockText ++ "+00:00"

def display (m : Moment) : String := m.dateText "-" ++ " " ++ m.clockText ++ " UTC"

/-- The date in one word. -/
def day (m : Moment) : String := m.dateText ""

/-- The date and the time in one word, in whole seconds. -/
def stamp (m : Moment) : String := m.day ++ "T" ++ m.hour ++ m.minute ++ m.second ++ "Z"

end Moment

end Entitlement
