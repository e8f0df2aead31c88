import Entitlement.Store.Query

/-!
# Rows of a database

* `SqlRow` : the columns of a row and its cells, of which one may be null;
* `SqlRow.text` : the text in a column;
* `Role.ofRow`, `Permission.ofRow`, `OverrideRow.ofRow`, `Resource.ofRow` : what a row stands for.
-/

namespace Entitlement

structure SqlRow where
  columns : List String
  cells : List (Option String)

/-- Why a row cannot be read. -/
inductive RowError where
  | noColumn (name : String)
  | null (column : String)
  deriving DecidableEq, Repr

def RowError.message : RowError → String
  | noColumn name => "no column found for name: " ++ name
  | null column => "error occurred while decoding column \"" ++ column ++
      "\": unexpected null; try decoding as an `Option`"

namespace SqlRow

/-- Of several columns of one name the last one counts. -/
def cell? (r : SqlRow) (column : String) : Option (Option String) :=
  (r.columns.zip r.cells).reverse.lookup column

def text (r : SqlRow) (column : String) : Except RowError String :=
  match r.cell? column with
  | none => .error (.noColumn column)
  | some none => .error (.null column)
  | some (some s) => .ok s

end SqlRow

def Role.ofRow (r : SqlRow) : Except RowError Role := do
  return ⟨← r.text "id", ← r.text "name"⟩

def Permission.ofRow (r : SqlRow) : Except RowError Permission := do
  return ⟨← r.text "id", ← r.text "name"⟩

def OverrideRow.ofRow (r : SqlRow) : Except RowError OverrideRow := do
  return ⟨← Permission.ofRow r, ← r.text "permission_type"⟩

def Resource.ofRow (r : SqlRow) : Except RowError Resource := do
  return ⟨← r.text "id", ← r.text "resource_type"⟩

end Entitlement
