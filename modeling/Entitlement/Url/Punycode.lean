/-!
# Punycode

* `Punycode.adapt` : the bias after a character was placed;
* `Punycode.number` : a number of digits of growing weight, and what follows it;
* `Punycode.decode?` : the text that a label without its prefix stands for.
-/

namespace Entitlement.Punycode

def base : Nat := 36

def initialCode : Nat := 0x80

def initialBias : Nat := 72

/-- The value of a digit: letters first, then figures. -/
def digit? (c : Char) : Option Nat :=
  if 'a' ≤ c ∧ c ≤ 'z' then some (c.toNat - 0x61)
  else if '0' ≤ c ∧ c ≤ '9' then some (c.toNat - 0x30 + 26)
  else none

/-- A digit below its threshold is the last one. -/
def threshold (bias k : Nat) : Nat := min (max (k - bias) 1) 26

/-- Halving the distance until it is small. -/
def settle (delta k : Nat) : Nat :=
  if _h : 455 < delta then settle (delta / 35) (k + base) else k + base * delta / (delta + 38)
termination_by delta

/-- The bias after a number, given how long the text is now and whether it was the first one. -/
def adapt (delta size : Nat) (first : Bool) : Nat :=
  let delta := if first then delta / 700 else delta / 2
  settle (delta + delta / size) 0

/-- A number whose digits so far come to `n`; the next digit has this weight. -/
def number (bias : Nat) (n weight k : Nat) : List Char → Option (Nat × List Char)
  | [] => none
  | c :: rest =>
    match digit? c with
    | none => none
    | some d =>
      if d < threshold bias k then some (n + d * weight, rest)
      else number bias (n + d * weight) (weight * (base - threshold bias k)) (k + base) rest

/-- Where the last character was placed, and which one it was. -/
structure Cursor where
  code : Nat
  place : Nat
  bias : Nat

/-- Places one character after the other. -/
def place (s : Cursor) (text cs : List Char) : Option (List Char) :=
  if cs = [] then some text
  else do
    let (n, rest) ← number s.bias s.place 1 base cs
    let size := text.length + 1
    let code := s.code + n / size
    if ¬ code.isValidChar then none
    if _h : rest.length < cs.length then
      place ⟨code, n % size + 1, adapt (n - s.place) size (s.place = 0)⟩
        (text.insertIdx (n % size) (Char.ofNat code)) rest
    else none
termination_by cs.length

/-- Before the last hyphen stand the characters of ASCII as they are. -/
def decode? (cs : List Char) : Option (List Char) :=
  let tail := (cs.reverse.takeWhile (· ≠ '-')).reverse
  let plain := (cs.take (cs.length - tail.length)).dropLast
  place ⟨initialCode, 0, initialBias⟩ plain (if plain = [] then cs else tail)

end Entitlement.Punycode
