import Entitlement.Store.Run

/-!
# Transactions

* `Transaction` : answers queries until it is committed or rolled back;
* `Store` : begins transactions on the data of a tenant;
* `Transaction.finish` : a commit after work that succeeded, a rollback after work that failed;
* `Store.transact` : work in one transaction, from its beginning to its end.
-/

namespace Entitlement

structure Transaction (σ : Type) where
  /-- The identifiers that children can have. -/
  known : List RoleId
  ask : (q : Query) → σ → Except Stop (List (q.Row known)) × σ
  commit : σ → Except Stop Unit × σ
  rollback : σ → Except Stop Unit × σ

structure Store (σ : Type) where
  begin : TenantId → σ → Except Stop (Transaction σ) × σ
  /-- How long its answers have taken so far. -/
  waited : σ → Span

variable {σ α : Type}

namespace Transaction

def query (tx : Transaction σ) (q : Query) : Run σ (List (q.Row tx.known)) := do
  Run.note (.query q)
  Run.act (tx.ask q)

/-- An error of the rollback is only logged: the work's own error is the one that counts. After a
crash nothing more is done. -/
def finish (tx : Transaction σ) : Except Stop α → Run σ α
  | .ok value => do
    Run.note .commit
    Run.act tx.commit
    return value
  | .error (.failed e) => do
    Run.note .rollback
    match ← Run.attempt (Run.act tx.rollback) with
    | .ok _ => throw (.failed e)
    | .error (.failed other) =>
      Run.log (.warn "Transaction rollback failed" [("error", other.message)])
      throw (.failed e)
    | .error crash => throw crash
  | .error crash => throw crash

end Transaction

namespace Store

/-- A transaction on a tenant's data. Only a beginning that succeeds is a step. -/
def start (store : Store σ) (tenant : TenantId) : Run σ (Transaction σ) := do
  let tx ← Run.act (store.begin tenant)
  Run.note (.begin tenant)
  return tx

def transact (store : Store σ) (tenant : TenantId) (work : Transaction σ → Run σ α) :
    Run σ α := do
  let tx ← Run.context "get tenant connection" (store.start tenant)
  tx.finish (← Run.attempt (work tx))

end Store

end Entitlement
