import Entitlement.Text.Digits

/-!
# Writing JSON

* `string` : a text between quotes, with quotes, backslashes and control characters escaped;
* `array`, `object` : values one after the other, without blanks.
-/

namespace Entitlement.Json

def escaped (c : Char) : List Char :=
  if c = '"' then ['\\', '"']
  else if c = '\\' then ['\\', '\\']
  else if c = '\u0008' then ['\\', 'b']
  else if c = '\u000c' then ['\\', 'f']
  else if c = '\n' then ['\\', 'n']
  else if c = '\r' then ['\\', 'r']
  else if c = '\t' then ['\\', 't']
  else if c.toNat < 0x20 then
    ['\\', 'u', '0', '0', Text.digit (c.toNat / 16), Text.digit (c.toNat % 16)]
  else [c]

def string (s : String) : List Char := '"' :: s.toList.flatMap escaped ++ ['"']

/-- Values with commas between them. -/
def separated : List (List Char) → List Char
  | [] => []
  | [v] => v
  | v :: vs => v ++ ',' :: separated vs

def array (values : List (List Char)) : List Char := '[' :: separated values ++ [']']

def member (m : String × List Char) : List Char := string m.1 ++ ':' :: m.2

def object (members : List (String × List Char)) : List Char :=
  '{' :: separated (members.map member) ++ ['}']

/-- A list of strings. -/
def strings (items : List String) : List Char := array (items.map string)

end Entitlement.Json
