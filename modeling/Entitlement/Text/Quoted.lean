import Entitlement.Text.Digits
import Entitlement.Text.PrintTable
import Entitlement.Text.Range

/-!
# Quoted text

* `quoted` : a text between double quotes in which every character can be seen: a quote, a
  backslash, a control character, a combining or an unprintable character is escaped.
-/

namespace Entitlement.Text

/-- Combining characters and those that print nothing of their own. -/
def isHidden (c : Char) : Bool :=
  inRanges extendingRanges c.toNat || inRanges unprintableRanges c.toNat

def quotedChar (c : Char) : String :=
  if c = '\u0000' then "\\0"
  else if c = '\t' then "\\t"
  else if c = '\r' then "\\r"
  else if c = '\n' then "\\n"
  else if c = '"' then "\\\""
  else if c = '\\' then "\\\\"
  else if isHidden c then "\\u\x7b" ++ hexadecimal c.toNat ++ "\x7d"
  else c.toString

def quoted (s : String) : String := "\"" ++ String.join (s.toList.map quotedChar) ++ "\""

end Entitlement.Text
