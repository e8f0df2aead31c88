/-!
# UTF-8

* `encodeChar`, `encode` : a character, a text as bytes;
* `decode` : bytes as characters, `none` for each longest stretch that starts no character;
* `decodeText?` : the text, if every byte belongs to a character;
* `decodeLossy` : the text with U+FFFD for each stretch that starts no character.
-/

namespace Entitlement.Text.Utf8

def encodeChar (c : Char) : List UInt8 :=
  let n := c.toNat
  if n < 0x80 then [.ofNat n]
  else if n < 0x800 then [.ofNat (0xC0 + n / 0x40), .ofNat (0x80 + n % 0x40)]
  else if n < 0x10000 then
    [.ofNat (0xE0 + n / 0x1000), .ofNat (0x80 + n / 0x40 % 0x40), .ofNat (0x80 + n % 0x40)]
  else
    [.ofNat (0xF0 + n / 0x40000), .ofNat (0x80 + n / 0x1000 % 0x40),
     .ofNat (0x80 + n / 0x40 % 0x40), .ofNat (0x80 + n % 0x40)]

def encode (s : String) : List UInt8 := s.toList.flatMap encodeChar

/-- The second bytes that may follow a lead byte of three or four. -/
def secondRange (lead : Nat) : Nat × Nat :=
  if lead = 0xE0 then (0xA0, 0xBF)
  else if lead = 0xED then (0x80, 0x9F)
  else if lead = 0xF0 then (0x90, 0xBF)
  else if lead = 0xF4 then (0x80, 0x8F)
  else (0x80, 0xBF)

def isTail (b : UInt8) : Bool := 0x80 ≤ b.toNat && b.toNat ≤ 0xBF

def isSecond (lead b : UInt8) : Bool :=
  (secondRange lead.toNat).1 ≤ b.toNat && b.toNat ≤ (secondRange lead.toNat).2

/-- The six low bits of a byte after the lead. -/
def tailBits (b : UInt8) : Nat := b.toNat % 0x40

/-- The character that starts a list of bytes, or `none` for a stretch that starts no character,
with the number of further bytes that belong to it. -/
def first (lead : UInt8) (rest : List UInt8) : Option Char × Nat :=
  let n := lead.toNat
  if n < 0x80 then (some (Char.ofNat n), 0)
  else if 0xC2 ≤ n ∧ n ≤ 0xDF then
    match rest with
    | b :: _ => if isTail b then (some (Char.ofNat (n % 0x20 * 0x40 + tailBits b)), 1) else (none, 0)
    | [] => (none, 0)
  else if 0xE0 ≤ n ∧ n ≤ 0xEF then
    match rest with
    | b :: c :: _ =>
      if isSecond lead b then
        if isTail c then
          (some (Char.ofNat (n % 0x10 * 0x1000 + tailBits b * 0x40 + tailBits c)), 2)
        else (none, 1)
      else (none, 0)
    | [b] => (none, if isSecond lead b then 1 else 0)
    | [] => (none, 0)
  else if 0xF0 ≤ n ∧ n ≤ 0xF4 then
    match rest with
    | b :: c :: d :: _ =>
      if isSecond lead b then
        if isTail c then
          if isTail d then
            (some (Char.ofNat
              (n % 8 * 0x40000 + tailBits b * 0x1000 + tailBits c * 0x40 + tailBits d)), 3)
          else (none, 2)
        else (none, 1)
      else (none, 0)
    | [b, c] => (none, if isSecond lead b then (if isTail c then 2 else 1) else 0)
    | [b] => (none, if isSecond lead b then 1 else 0)
    | [] => (none, 0)
  else (none, 0)

def decode : List UInt8 → List (Option Char)
  | [] => []
  | lead :: rest => (first lead rest).1 :: decode (rest.drop (first lead rest).2)
termination_by bytes => bytes.length
decreasing_by simp only [List.length_drop, List.length_cons]; omega

def decodeText? (bytes : List UInt8) : Option String :=
  ((decode bytes).mapM id).map String.ofList

def decodeLossy (bytes : List UInt8) : String :=
  String.ofList ((decode bytes).map (·.getD '\uFFFD'))

end Entitlement.Text.Utf8
