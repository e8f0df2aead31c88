import Entitlement.Store.Dataset
import Entitlement.Store.Transaction

/-!
# The store in memory

* `Memory` : the data of the tenants; `put`, `remove`, `size`;
* `Memory.snapshot?` : the data that a transaction begun now sees to its end;
* `memoryStore` : its transactions, which never fail once begun.
-/

namespace Entitlement

/-- One tenant and its data. -/
structure TenantData where
  tenant : TenantId
  data : Dataset

structure Memory where
  tenants : Table TenantData.tenant

namespace Memory

def empty : Memory := ⟨.empty⟩

def put (m : Memory) (tenant : TenantId) (data : Dataset) : Memory :=
  ⟨m.tenants.put ⟨tenant, data⟩⟩

def contains (m : Memory) (tenant : TenantId) : Bool := m.tenants.contains tenant

def remove (m : Memory) (tenant : TenantId) : Memory := ⟨m.tenants.erase tenant⟩

def size (m : Memory) : Nat := m.tenants.size

def snapshot? (m : Memory) (tenant : TenantId) : Except Error Dataset :=
  match m.tenants.find? tenant with
  | some found => .ok found.data
  | none => .error (.connection ("database \"" ++ tenant.text ++ "\" does not exist"))

end Memory

/-- Answers from its snapshot, whatever the store holds by then. -/
def Dataset.transaction (d : Dataset) (σ : Type) : Transaction σ where
  known := d.roles.keys
  ask q s := (.ok (d.answer q), s)
  commit s := (.ok (), s)
  rollback s := (.ok (), s)

def memoryStore : Store Memory where
  begin tenant m := (((m.snapshot? tenant).mapError .failed).map (·.transaction Memory), m)
  waited _ := ⟨0⟩

end Entitlement
