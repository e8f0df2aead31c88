import Entitlement.Text.Range

/-!
# White space

* `isSpace` : the characters with the Unicode property White_Space;
* `isBlank` : a text of white space only, the empty text included;
* `dropSpace` : a text without the white space it starts with.
-/

namespace Entitlement.Text

def spaceRanges : List (Nat × Nat) :=
  [(0x9, 0xD), (0x20, 0x20), (0x85, 0x85), (0xA0, 0xA0), (0x1680, 0x1680), (0x2000, 0x200A),
   (0x2028, 0x2029), (0x202F, 0x202F), (0x205F, 0x205F), (0x3000, 0x3000)]

def isSpace (c : Char) : Bool := inRanges spaceRanges c.toNat

def isBlank (s : String) : Bool := s.toList.all isSpace

def dropSpace (cs : List Char) : List Char := cs.dropWhile isSpace

end Entitlement.Text
