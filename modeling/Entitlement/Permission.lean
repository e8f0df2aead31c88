/-!
# Roles, permissions and resources

* `Role`, `Permission`, `Resource` : an identifier with a name or a type;
* `Permission.resource`, `Permission.action` : the two halves of a permission's name, which are
  separated by its first colon;
* `byName`, `sortByName` : the order of lists, by name and then by identifier.
-/

namespace Entitlement

abbrev RoleId := String

abbrev PermissionId := String

structure Role where
  id : RoleId
  name : String
  deriving DecidableEq, Repr

structure Permission where
  id : PermissionId
  name : String
  deriving DecidableEq, Repr

/-- A concrete object that a user can act on. -/
structure Resource where
  id : String
  type : String
  deriving DecidableEq, Repr

def Role.ids (roles : List Role) : List RoleId := roles.map Role.id

namespace Permission

/-- What stands before the first colon: all of a name without one. -/
def resource (p : Permission) : String := String.ofList (p.name.toList.takeWhile (· ≠ ':'))

/-- What stands after the first colon: nothing in a name without one. -/
def action (p : Permission) : String :=
  String.ofList ((p.name.toList.dropWhile (· ≠ ':')).drop 1)

end Permission

/-! ## Order -/

/-- One key does not come after another: the first halves decide, then the second. -/
def byName (a b : String × String) : Bool :=
  if a.1 = b.1 then !decide (b.2 < a.2) else decide (a.1 < b.1)

/-- Sorted by a key of two halves; entries of one key stay in their order. -/
def sortByName (key : α → String × String) (items : List α) : List α :=
  items.mergeSort fun a b => byName (key a) (key b)

theorem mem_sortByName {key : α → String × String} {items : List α} {a : α} :
    a ∈ sortByName key items ↔ a ∈ items := List.mem_mergeSort

def Role.key (r : Role) : String × String := (r.name, r.id)

def Permission.key (p : Permission) : String × String := (p.name, p.id)

def Resource.key (r : Resource) : String × String := (r.type, r.id)

end Entitlement
