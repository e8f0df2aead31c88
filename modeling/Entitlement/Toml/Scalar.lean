import Entitlement.Time.Calendar
import Entitlement.Toml.Scan

/-!
# Words of TOML

* `Word` : a value that is written without quotes or brackets;
* `integer?` : an integer of 64 bits in base ten, sixteen, eight or two;
* `isFloat` : a number with a fraction or an exponent that is not too large;
* `isDate`, `isTime` : dates and times of day;
* `word` : the longest word at the start of a text.
-/

namespace Entitlement.Toml

inductive Word where
  | boolean (b : Bool)
  | integer (n : Int)
  | float
  | moment
  deriving DecidableEq, Repr

/-! ## Numbers -/

/-- Digits, with single underscores between them. -/
def digits? (digit : Char → Bool) (cs : List Char) : Option (List Char) :=
  let runs := cs.splitOn '_'
  if runs.all fun run => run ≠ [] && run.all digit then some runs.flatten else none

/-- In base ten, nothing follows a leading zero. -/
def wholeDigits? (cs : List Char) : Option (List Char) := do
  let digits ← digits? Text.isDigit cs
  if digits.head? = some '0' ∧ cs ≠ ['0'] then none else some digits

def splitSign : List Char → Bool × List Char
  | '-' :: rest => (true, rest)
  | '+' :: rest => (false, rest)
  | cs => (false, cs)

/-- The digits in a base. -/
def isDigitIn (base : Nat) (c : Char) : Bool := (Text.digitValue? c).any (· < base)

def inBase? (base : Nat) (cs : List Char) : Option Int := do
  let digits ← digits? (isDigitIn base) cs
  return Text.valueIn base (digits.map fun c => (Text.digitValue? c).getD 0)

def unbounded? : List Char → Option Int
  | '0' :: 'x' :: cs => inBase? 16 cs
  | '0' :: 'o' :: cs => inBase? 8 cs
  | '0' :: 'b' :: cs => inBase? 2 cs
  | cs => do
    let (negative, cs) := splitSign cs
    let n : Int := Text.decimalValue (← wholeDigits? cs)
    return if negative then -n else n

def integer? (cs : List Char) : Option Int :=
  (unbounded? cs).filter fun n => -9223372036854775808 ≤ n && n ≤ 9223372036854775807

/-- From here on a decimal number rounds to infinity in binary floating point. -/
def infinite : Nat := Nat.pow 2 1024 - Nat.pow 2 970

/-- A whole number times a power of ten is too large for a floating point number. -/
def overflows (whole : Nat) (power : Int) : Bool :=
  let size := ((Text.digitsIn 10 whole).length : Int) + power
  if whole = 0 ∨ size < 300 then false
  else if 320 < size then true
  else if 0 ≤ power then infinite ≤ whole * Nat.pow 10 power.toNat
  else infinite * Nat.pow 10 (-power).toNat ≤ whole

/-- The value of an exponent; `none` if it is malformed. -/
def exponent? (cs : List Char) : Option Int := do
  let (negative, cs) := splitSign cs
  let n : Int := Text.decimalValue (← digits? Text.isDigit cs)
  return if negative then -n else n

/-- A fraction, an exponent, or both. -/
def isFloat (cs : List Char) : Bool :=
  let (negative, cs) := splitSign cs
  let mantissa := cs.takeWhile fun c => c ≠ 'e' && c ≠ 'E'
  let tail := cs.drop mantissa.length
  let whole := mantissa.takeWhile (· ≠ '.')
  let fraction := mantissa.drop whole.length
  let power := if tail = [] then some 0 else exponent? (tail.drop 1)
  let places := if fraction = [] then some [] else digits? Text.isDigit (fraction.drop 1)
  match wholeDigits? whole, places, power with
  | some whole, some places, some power =>
    (tail ≠ [] || fraction ≠ []) &&
      (negative || !overflows (Text.decimalValue (whole ++ places)) (power - places.length))
  | _, _, _ => false

def isSpecial (cs : List Char) : Bool :=
  let cs := (splitSign cs).2
  cs = ['i', 'n', 'f'] || cs = ['n', 'a', 'n']

/-! ## Dates and times -/

/-- The value of two digits. -/
def pair? (a b : Char) : Option Nat := Text.natural? [a, b]

def isDate : List Char → Bool
  | [a, b, c, d, '-', e, f, '-', g, h] =>
    match Text.natural? [a, b, c, d], pair? e f, pair? g h with
    | some year, some month, some day => (Date.mk year month day).isValid
    | _, _, _ => false
  | _ => false

/-- Nothing, or a point and digits. -/
def isFraction : List Char → Bool
  | [] => true
  | '.' :: cs => (Text.natural? cs).isSome
  | _ => false

/-- The second may be a leap second. -/
def isTime : List Char → Bool
  | a :: b :: ':' :: c :: d :: ':' :: e :: f :: rest =>
    match pair? a b, pair? c d, pair? e f with
    | some hour, some minute, some second =>
      hour < 24 && minute < 60 && second ≤ 60 && isFraction rest
    | _, _, _ => false
  | _ => false

def isOffset : List Char → Bool
  | [c] => c = 'Z' || c = 'z'
  | [sign, a, b, ':', c, d] =>
    (sign = '+' || sign = '-') && (pair? a b).any (· < 24) && (pair? c d).any (· < 60)
  | _ => false

/-- A time of day, alone or with an offset. -/
def isOffsetTime (cs : List Char) : Bool :=
  let time := cs.takeWhile fun c => Text.isDigit c || c = ':' || c = '.'
  let offset := cs.drop time.length
  isTime time && (offset = [] || isOffset offset)

/-- A date, a date and a time of day, or a time of day. -/
def isMoment (cs : List Char) : Bool :=
  isDate cs || isTime cs ||
    (isDate (cs.take 10) && isOffsetTime (cs.drop 11) &&
      ((cs.drop 10).head?.any fun c => c = 'T' || c = 't' || c = ' '))

/-! ## Words -/

def isWordChar (c : Char) : Bool := isBare c || c = '+' || c = '.' || c = ':'

def word? (cs : List Char) : Option Word :=
  if cs = ['t', 'r', 'u', 'e'] then some (.boolean true)
  else if cs = ['f', 'a', 'l', 's', 'e'] then some (.boolean false)
  else if isMoment cs then some .moment
  else if isFloat cs || isSpecial cs then some .float
  else (integer? cs).map .integer

/-- The characters of a word. A blank may stand between a date and a time of day. -/
def wordChars (s : List Char) : List Char :=
  let first := s.takeWhile isWordChar
  match s.drop first.length with
  | ' ' :: c :: rest =>
    if isDate first && Text.isDigit c then first ++ ' ' :: (c :: rest).takeWhile isWordChar
    else first
  | _ => first

def word (s : List Char) : Option (Reading Word) :=
  (word? (wordChars s)).map (·, s.drop (wordChars s).length)

end Entitlement.Toml
