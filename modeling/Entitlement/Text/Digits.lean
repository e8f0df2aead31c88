/-!
# Numerals

* `digit`, `upperDigit` : a hexadecimal digit; `digitValue?` : its value, in either case;
* `decimal` : a natural number in base ten;
* `padded` : with leading zeros up to a width; `hexadecimal` : in base sixteen, lower case;
* `natural?` : the value of a non-empty run of decimal digits; `integer?` : with an optional sign.
-/

namespace Entitlement.Text

def digit (n : Nat) : Char := if n < 10 then Char.ofNat (0x30 + n) else Char.ofNat (0x57 + n)

def upperDigit (n : Nat) : Char := if n < 10 then Char.ofNat (0x30 + n) else Char.ofNat (0x37 + n)

def digitValue? (c : Char) : Option Nat :=
  if '0' ≤ c ∧ c ≤ '9' then some (c.toNat - 0x30)
  else if 'a' ≤ c ∧ c ≤ 'f' then some (c.toNat - 0x57)
  else if 'A' ≤ c ∧ c ≤ 'F' then some (c.toNat - 0x37)
  else none

def isDigit (c : Char) : Bool := '0' ≤ c && c ≤ '9'

def digitsIn (base n : Nat) : List Char :=
  if _h : n < base ∨ base < 2 then [digit n] else digitsIn base (n / base) ++ [digit (n % base)]
termination_by n
decreasing_by exact Nat.div_lt_self (by omega) (by omega)

def decimal (n : Nat) : String := String.ofList (digitsIn 10 n)

def hexadecimal (n : Nat) : String := String.ofList (digitsIn 16 n)

/-- The decimal digits, after as many zeros as the width still needs. -/
def padded (width n : Nat) : String :=
  String.ofList (List.replicate (width - (digitsIn 10 n).length) '0' ++ digitsIn 10 n)

/-- The value of a list of digits in a base. -/
def valueIn (base : Nat) (digits : List Nat) : Nat := digits.foldl (fun n d => n * base + d) 0

/-- The value of the decimal digits, whatever else the list holds counting as zero. -/
def decimalValue (cs : List Char) : Nat := valueIn 10 (cs.map fun c => (digitValue? c).getD 0)

def natural? (cs : List Char) : Option Nat :=
  if cs ≠ [] ∧ cs.all isDigit then some (decimalValue cs) else none

def integer? : List Char → Option Int
  | '+' :: cs => (natural? cs).map Int.ofNat
  | '-' :: cs => (natural? cs).map fun n => -n
  | cs => (natural? cs).map Int.ofNat

end Entitlement.Text
