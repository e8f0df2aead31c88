import Entitlement.Text.Digits
import Entitlement.Text.Lower
import Entitlement.Text.PrintTable
import Entitlement.Text.Utf8
import Entitlement.Url.DomainTable
import Entitlement.Url.Punycode
import Entitlement.Url.Script

/-!
# Domain names

* `Domain.mapped` : the characters that a character of a name stands for;
* `Domain.isLabel` : a part of a name is well formed;
* `Domain.label?` : the text that a part stands for, which may be in the encoding for characters
  beyond ASCII (`Domain.decoded?`);
* `Domain.ofBytes?` : the name that bytes stand for, in lower case, unless it has a character or a
  part that no name has, or its parts do not run one way.
-/

namespace Entitlement.Domain

/-! ## Characters -/

/-- Characters with a meaning in addresses, controls and the space. -/
def isForbidden (c : Char) : Bool :=
  c.toNat ≤ 0x20 || c.toNat == 0x7F || "%#/:<>?@[\\]^|".toList.contains c

/-- A character beyond ASCII that no name has. -/
def isRefused (c : Char) : Bool :=
  0x80 ≤ c.toNat && !isJoiner c &&
    (Text.inRanges Text.unprintableRanges c.toNat || Text.inRanges refusedRanges c.toNat)

/-- A mark, which needs a character before it. -/
def isMark (c : Char) : Bool :=
  Text.inRanges Text.extendingRanges c.toNat || Text.inRanges spacingMarkRanges c.toNat

/-- The characters of ASCII that a character beyond it stands for. -/
def plain? (n : Nat) : Option (List Char) :=
  match shiftedRuns.find? fun r => r.first ≤ n && n ≤ r.last with
  | some r => some [Char.ofNat (n - r.shift)]
  | none =>
    match numberRuns.find? fun r => r.1 ≤ n && n ≤ r.2.1 with
    | some r => some (Text.digitsIn 10 (r.2.2 + (n - r.1)))
    | none => if Text.inRanges punctuatedRanges n then some [' '] else none

def mapped (c : Char) : List Char :=
  if c.toNat < 0x80 then [c.toLower]
  else if Text.inRanges ignoredRanges c.toNat then []
  else (plain? c.toNat).getD (Text.lowerChar c)

/-! ## Parts -/

/-- A part does not start with a mark, has no character that no name has, and no joiner where
nothing joins. -/
def isLabel (cs : List Char) : Bool :=
  !(cs.head?.any isMark) && !(cs.any fun c => isForbidden c || isRefused c) && areJoined [] cs

/-- What is encoded is more than ASCII, and stands for itself. -/
def decoded? (code : List Char) : Option (List Char) :=
  (Punycode.decode? code).filter fun cs =>
    cs.any (fun c => 0x80 ≤ c.toNat) && cs.all (fun c => mapped c = [c])

def label? (part : List Char) : Option (List Char) :=
  let text := match part with
    | 'x' :: 'n' :: '-' :: '-' :: code => decoded? code
    | _ => some part
  text.filter isLabel

def ofBytes? (bytes : List UInt8) : Option String := do
  let text ← Text.Utf8.decodeText? bytes
  let name := text.toList.flatMap mapped
  let labels ← (name.splitOn '.').mapM label?
  if direct labels then some (String.ofList name) else none

end Entitlement.Domain
