import Entitlement.Text.Blank
import Entitlement.Time.Moment

/-!
# Reading moments

* `Moment.ofStamp?` : the compact form `20240115T103000Z`. White space may stand before a number, a
  number may be shorter than its place where the next character is no digit, and a signed year may
  be longer;
* `Moment.ofRfc3339?` : the form `2024-01-15T10:30:00.5+01:00`.
-/

namespace Entitlement.Moment
open Text

/-- A number of at least `least` and at most `most` digits, and what follows it. -/
def number? (least most : Nat) (cs : List Char) : Option (Nat × List Char) :=
  let digits := (cs.take most).takeWhile isDigit
  if digits.length < least then none else some (decimalValue digits, cs.drop digits.length)

def char? (c : Char) : List Char → Option (List Char)
  | d :: rest => if d = c then some rest else none
  | [] => none

/-- The moment of a date and a time of day that exist. Second 60 is a leap second. -/
def ofFields? (year : Int) (month day hour minute second nanos : Nat) : Option Moment :=
  let d : Date := ⟨year, month, day⟩
  if d.isValid && yearInRange year && hour < 24 && minute < 60 && second ≤ 60 then
    if second = 60 then some (ofParts d hour minute 59 (1000000000 + nanos))
    else some (ofParts d hour minute second nanos)
  else none

/-- A number after white space. -/
def field? (most : Nat) (cs : List Char) : Option (Nat × List Char) :=
  number? 1 most (dropSpace cs)

/-- A year of up to four digits, or of any number of digits after a sign. -/
def year? (cs : List Char) : Option (Int × List Char) :=
  match dropSpace cs with
  | '-' :: rest => (number? 1 rest.length rest).map fun r => (-(r.1 : Int), r.2)
  | '+' :: rest => (number? 1 rest.length rest).map fun r => ((r.1 : Int), r.2)
  | rest => (number? 1 4 rest).map fun r => ((r.1 : Int), r.2)

def ofStamp? (s : String) : Option Moment := do
  let (year, cs) ← year? s.toList
  let (month, cs) ← field? 2 cs
  let (day, cs) ← field? 2 cs
  let cs ← char? 'T' cs
  let (hour, cs) ← field? 2 cs
  let (minute, cs) ← field? 2 cs
  let (second, cs) ← field? 2 cs
  let cs ← char? 'Z' cs
  if cs.isEmpty then ofFields? year month day hour minute second 0 else none

/-- The nanoseconds of a fraction, whose digits after the ninth do not count. -/
def fraction? : List Char → Option (Nat × List Char)
  | '.' :: cs => do
    let (_, rest) ← number? 1 9 cs
    let taken := cs.take (cs.length - rest.length)
    return (decimalValue taken * Nat.pow 10 (9 - taken.length), rest.dropWhile isDigit)
  | cs => some (0, cs)

/-- The offset from UTC in seconds: a letter for none, or a sign, two digits, a colon and two
digits. The minus sign may also be the typographic one. -/
def offset? : List Char → Option (Int × List Char)
  | c :: cs => do
    if c = 'Z' ∨ c = 'z' then return (0, cs)
    let (hours, rest) ← number? 2 2 cs
    let rest ← char? ':' rest
    let (minutes, rest) ← number? 2 2 rest
    if 59 < minutes ∨ 23 < hours then none
    let seconds : Int := ↑(hours * 3600 + minutes * 60)
    if c = '+' then return (seconds, rest)
    if c = '-' ∨ c = '\u2212' then return (-seconds, rest)
    none
  | [] => none

def ofRfc3339? (s : String) : Option Moment := do
  let (year, cs) ← number? 4 4 s.toList
  let cs ← char? '-' cs
  let (month, cs) ← number? 2 2 cs
  let cs ← char? '-' cs
  let (day, cs) ← number? 2 2 cs
  let cs ← match cs with
    | c :: rest => if c = 'T' ∨ c = 't' ∨ c = ' ' then some rest else none
    | [] => none
  let (hour, cs) ← number? 2 2 cs
  let cs ← char? ':' cs
  let (minute, cs) ← number? 2 2 cs
  let cs ← char? ':' cs
  let (second, cs) ← number? 2 2 cs
  let (nanos, cs) ← fraction? cs
  let (offset, cs) ← offset? cs
  let m ← ofFields? year month day hour minute second nanos
  if cs.isEmpty then some ⟨m.seconds - offset, m.nanos⟩ else none

end Entitlement.Moment
