import Entitlement.Text.Digits

/-!
# Version 4 addresses

* `Ipv4.number?` : one part of an address, in base 8, 10 or 16;
* `Ipv4.endsInNumber` : a domain that has to be an address;
* `Ipv4.parse?` : the address as a number of 32 bits.
-/

namespace Entitlement.Ipv4
open Text

/-- The parts between full stops. -/
def parts : List Char → List (List Char)
  | [] => [[]]
  | c :: cs =>
    if c = '.' then [] :: parts cs
    else match parts cs with
      | [] => [[c]]
      | p :: ps => (c :: p) :: ps

/-- The parts without the empty one after a full stop at the end. -/
def innerParts (cs : List Char) : List (List Char) :=
  let ps := parts cs
  if ps.getLast? = some [] then ps.dropLast else ps

/-- The value of digits that all lie below a base; no digits count as zero. -/
def valueBelow? (base : Nat) (cs : List Char) : Option Nat := do
  let digits ← cs.mapM digitValue?
  if digits.all (· < base) then some (valueIn base digits) else none

/-- A part: hexadecimal after `0x`, octal after another leading zero, else decimal. -/
def number? : List Char → Option Nat
  | [] => none
  | ['0'] => some 0
  | '0' :: c :: rest =>
    if c = 'x' ∨ c = 'X' then valueBelow? 16 rest else valueBelow? 8 (c :: rest)
  | cs => valueBelow? 10 cs

def endsInNumber (cs : List Char) : Bool :=
  let ps := parts cs
  let last := if ps.getLast? = some [] then ps.dropLast.getLast? else ps.getLast?
  match last with
  | none => false
  | some p => (!p.isEmpty && p.all isDigit) || (number? p).isSome

/-- The parts before the last one have a byte each, and the last one has what is left. -/
def parse? (cs : List Char) : Option Nat := do
  let numbers ← (innerParts cs).mapM number?
  let last ← numbers.getLast?
  let front := numbers.dropLast
  if front.length < 4 ∧ front.all (· < 256) ∧ last < Nat.pow 256 (4 - front.length) then
    some (last + (front.zipIdx.map fun p => p.1 * Nat.pow 256 (3 - p.2)).foldl (· + ·) 0)
  else none

end Entitlement.Ipv4
