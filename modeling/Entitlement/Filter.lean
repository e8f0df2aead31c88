import Entitlement.Permission
import Entitlement.Text.Lower

/-!
# Resource filters

* `Filter` : the resource types that a request is about; without any, about everything;
* `Filter.matchesPermission` : a permission of one of the types; `Filter.matchesType` : a resource
  of one of the types. Both ignore case;
* `Filter.patterns`, `Filter.lowered` : the same two tests as a database asks them.
-/

namespace Entitlement

structure Filter where
  resources : List String
  deriving DecidableEq, Repr

namespace Filter

def all : Filter := ⟨[]⟩

/-- Empty names are dropped. -/
def ofResources (resources : List String) : Filter := ⟨resources.filter (· ≠ "")⟩

def isEmpty (f : Filter) : Bool := f.resources.isEmpty

/-- The name starts with one of the resource types and a colon. -/
def matchesPermission (f : Filter) (name : String) : Bool :=
  f.isEmpty || f.resources.any fun r =>
    ((Text.lower r).toList ++ [':']).isPrefixOf (Text.lower name).toList

def matchesType (f : Filter) (type : String) : Bool :=
  f.isEmpty || f.resources.any fun r => Text.lower r = Text.lower type

/-- A backslash before each character that a pattern gives a meaning. -/
def escape (cs : List Char) : List Char :=
  cs.flatMap fun c => if c = '\\' ∨ c = '%' ∨ c = '_' then ['\\', c] else [c]

/-- The pattern of the names that start with a resource type and a colon. -/
def pattern (r : String) : String := String.ofList (escape r.toList ++ [':', '%'])

def patterns (f : Filter) : List String := f.resources.map pattern

def lowered (f : Filter) : List String := f.resources.map Text.lower

@[simp] theorem matchesPermission_all (name : String) : all.matchesPermission name = true := rfl

@[simp] theorem matchesType_all (type : String) : all.matchesType type = true := rfl

end Filter

end Entitlement
