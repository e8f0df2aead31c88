import Entitlement.Text.Digits
import Entitlement.Text.Utf8

/-!
# Percent coding

* `isUnreserved` : the characters that stand for themselves anywhere in an address;
* `percentEncode` : every other UTF-8 byte as a percent sign and two upper-case digits;
* `percentDecode` : each percent sign with two digits after it as that byte, all else as it is;
* `formPairs` : the names and values of a query.
-/

namespace Entitlement.Text

def isUnreserved (b : UInt8) : Bool :=
  let n := b.toNat
  (0x41 ≤ n && n ≤ 0x5A) || (0x61 ≤ n && n ≤ 0x7A) || (0x30 ≤ n && n ≤ 0x39) ||
    n == 0x2D || n == 0x2E || n == 0x5F || n == 0x7E

def percentByte (b : UInt8) : List Char :=
  if isUnreserved b then [Char.ofNat b.toNat]
  else ['%', upperDigit (b.toNat / 16), upperDigit (b.toNat % 16)]

def percentEncode (s : String) : String :=
  String.ofList ((Utf8.encode s).flatMap percentByte)

/-- The value of a byte that is a hexadecimal digit. -/
def byteDigit? (b : UInt8) : Option Nat :=
  if b.toNat < 0x80 then digitValue? (Char.ofNat b.toNat) else none

def percentDecode : List UInt8 → List UInt8
  | [] => []
  | [b] => [b]
  | [b, c] => [b, c]
  | p :: a :: b :: rest =>
    if p.toNat = 0x25 then
      match byteDigit? a, byteDigit? b with
      | some high, some low => .ofNat (high * 16 + low) :: percentDecode rest
      | _, _ => p :: percentDecode (a :: b :: rest)
    else p :: percentDecode (a :: b :: rest)

/-- The stretches between the bytes that equal `sep`. -/
def splitBytes (sep : Nat) : List UInt8 → List (List UInt8)
  | [] => [[]]
  | b :: rest =>
    if b.toNat = sep then [] :: splitBytes sep rest
    else match splitBytes sep rest with
      | [] => [[b]]
      | part :: parts => (b :: part) :: parts

/-- A plus sign is a space; then percent coding, then UTF-8. -/
def formDecode (bytes : List UInt8) : String :=
  Utf8.decodeLossy (percentDecode (bytes.map fun b => if b.toNat = 0x2B then 0x20 else b))

/-- The name and the value of one part of a query, cut at the first equals sign. -/
def formPair (bytes : List UInt8) : String × String :=
  (formDecode (bytes.takeWhile (·.toNat ≠ 0x3D)),
   formDecode ((bytes.dropWhile (·.toNat ≠ 0x3D)).drop 1))

def formPairs (query : String) : List (String × String) :=
  ((splitBytes 0x26 (Utf8.encode query)).filter (· ≠ [])).map formPair

end Entitlement.Text
