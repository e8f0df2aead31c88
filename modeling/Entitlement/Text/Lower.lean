import Entitlement.Text.CaseTable
import Entitlement.Text.Range

/-!
# Lower case

* `lowerChar` : the lower case of one character, by itself;
* `endsWord` : a capital sigma between these two texts is the last letter of a word;
* `lower` : the lower case of a text. It differs from the characters' only in the capital sigma,
  which becomes `ς` at the end of a word and `σ` elsewhere.
-/

namespace Entitlement.Text

def isCased (c : Char) : Bool := inRanges casedRanges c.toNat

def isCaseIgnorable (c : Char) : Bool := inRanges ignorableRanges c.toNat

/-- The lower case of a code point, as a code point. -/
def lowerCode (n : Nat) : Nat :=
  if n < 0x80 then (if 0x41 ≤ n ∧ n ≤ 0x5A then n + 32 else n)
  else match caseRuns.find? (·.covers n) with
    | some r => (n + r.shift).toNat
    | none => n

/-- Only the dotted capital I has a lower case of two characters. -/
def lowerChar (c : Char) : List Char :=
  if c = 'İ' then ['i', '\u0307'] else [Char.ofNat (lowerCode c.toNat)]

/-- The first character that is not case-ignorable is cased. -/
def meetsCased (cs : List Char) : Bool :=
  match cs.dropWhile isCaseIgnorable with
  | [] => false
  | c :: _ => isCased c

/-- Whether a letter stands at the end of a word; `before` runs away from the letter. -/
def endsWord (before after : List Char) : Bool := meetsCased before && !meetsCased after

def lowerIn (before : List Char) : List Char → List Char
  | [] => []
  | c :: rest =>
    (if c = 'Σ' then [if endsWord before rest then 'ς' else 'σ'] else lowerChar c) ++
      lowerIn (c :: before) rest

def lower (s : String) : String := String.ofList (lowerIn [] s.toList)

@[simp] theorem lower_empty : lower "" = "" := by simp [lower, lowerIn]

end Entitlement.Text
