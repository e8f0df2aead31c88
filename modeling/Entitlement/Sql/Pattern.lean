import Entitlement.Text.Lower

/-!
# Patterns of a database

* `Pattern.accepts` : a pattern is one of a text, as `LIKE` has it;
* `Pattern.acceptsAnyCase` : after both are in lower case, as `ILIKE` has it.
-/

namespace Entitlement.Pattern

/-- `%` stands for any text, `_` for any character, a backslash for the character after it, and
every other character for itself. -/
def accepts : List Char → List Char → Bool
  | [], text => text.isEmpty
  | '%' :: p, text => (List.range (text.length + 1)).any fun n => accepts p (text.drop n)
  | ['\\'], _ => false
  | '\\' :: c :: p, d :: text => c = d && accepts p text
  | '_' :: p, _ :: text => accepts p text
  | c :: p, d :: text => c = d && accepts p text
  | _ :: _, [] => false

def acceptsAnyCase (pattern text : String) : Bool :=
  accepts (Text.lower pattern).toList (Text.lower text).toList

end Entitlement.Pattern
