import Entitlement.Url.Ipv4

/-!
# Version 6 addresses

* `Ipv6.parse?` : the eight pieces of an address;
* `Ipv6.pieces?` : the pieces as they are written, and where the gap is, if there is one.
-/

namespace Entitlement.Ipv6
open Text

/-- A part of the version 4 form inside an address: a byte without leading zeros. -/
def byte? (cs : List Char) : Option Nat :=
  if cs.isEmpty || !cs.all isDigit || (cs.length ≠ 1 && cs.head? = some '0') then none
  else if decimalValue cs < 256 then some (decimalValue cs)
  else none

/-- The last two pieces, in the version 4 form. -/
def lastPieces? (cs : List Char) : Option (List Nat) := do
  match ← (Ipv4.parts cs).mapM byte? with
  | [a, b, c, d] => some [a * 256 + b, c * 256 + d]
  | _ => none

def hexDigits (cs : List Char) : List Char :=
  (cs.take 4).takeWhile fun c => (digitValue? c).isSome

def pieceValue (digits : List Char) : Nat := valueIn 16 (digits.map fun c => (digitValue? c).getD 0)

theorem length_drop_hexDigits {cs rest : List Char} {c : Char}
    (h : cs.drop (hexDigits cs).length = c :: rest) : rest.length < cs.length := by
  have := congrArg List.length h
  simp only [List.length_drop, List.length_cons] at this
  omega

/-- A gap counts as a piece, which is the one before the place that it is remembered by. -/
def pieces? (cs : List Char) (found : List Nat) (gap : Option Nat) :
    Option (List Nat × Option Nat) :=
  match cs with
  | [] => some (found, gap)
  | ':' :: rest =>
    if found.length = 8 ∨ gap.isSome then none
    else pieces? rest (found ++ [0]) (some (found.length + 1))
  | c :: rest =>
    let digits := hexDigits (c :: rest)
    if found.length = 8 then none
    else match _h : (c :: rest).drop digits.length with
      | [] => some (found ++ [pieceValue digits], gap)
      | ':' :: after =>
        if after.isEmpty then none
        else pieces? after (found ++ [pieceValue digits]) gap
      | '.' :: _ =>
        if digits.isEmpty ∨ 6 < found.length then none
        else (lastPieces? (c :: rest)).map fun last => (found ++ last, gap)
      | _ => none
termination_by cs.length
decreasing_by
  · simp
  · exact length_drop_hexDigits _h

/-- Fills the gap, or else needs eight pieces. -/
def fill (found : List Nat) : Option Nat → Option (List Nat)
  | some gap =>
    some (found.take gap ++ List.replicate (8 - found.length) 0 ++ found.drop gap)
  | none => if found.length = 8 then some found else none

def parse? (cs : List Char) : Option (List Nat) :=
  match cs with
  | ':' :: ':' :: rest => (pieces? rest [0] (some 1)).bind fun r => fill r.1 r.2
  | ':' :: _ => none
  | [_] => none
  | [] => none
  | cs => (pieces? cs [] none).bind fun r => fill r.1 r.2

end Entitlement.Ipv6
