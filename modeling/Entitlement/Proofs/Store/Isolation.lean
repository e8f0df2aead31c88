import Entitlement.Proofs.Store.Alike
import Entitlement.Proofs.Store.Transcript
import Entitlement.Proofs.Table

/-!
# A transaction sees the data that were there when it began

* `Action`, `Shared.step` : what the users of one store in memory do, and what they are told. Any
  number of transactions is open at a time;
* `held?` : the data that the last put or remove of a tenant left, read off the actions alone;
* `Shared.Sound` : each open transaction has its own snapshot. No step breaks this (`Sound.step`);
* `Shared.find?_tenants`, `Shared.find?_live` : what the store holds, and which transactions are
  open on which data, after any actions;
* `sharedStore` : the store as one user has it while others act before each step;
  `run_transact_sharedStore` : what is done in a transaction comes to what it would without them;
* `Shared.isolation` : all of this together.
-/

namespace Entitlement

/-! ## Actions -/

inductive Action where
  | put (tenant : TenantId) (data : Dataset)
  | remove (tenant : TenantId)
  | begin (tenant : TenantId)
  /-- In the transaction of a number, like the two below. -/
  | query (n : Nat) (q : Query)
  | commit (n : Nat)
  | rollback (n : Nat)

namespace Action

/-- The tenant whose data change. -/
def changes? : Action → Option TenantId
  | put tenant _ | remove tenant => some tenant
  | _ => none

/-- The data that a changed tenant is left with. -/
def leaves? : Action → Option Dataset
  | put _ d => some d
  | _ => none

/-- The transaction that ends. -/
def ends? : Action → Option Nat
  | commit n | rollback n => some n
  | _ => none

def isBegin : Action → Bool
  | begin _ => true
  | _ => false

end Action

/-- The data of the last put of a tenant, unless it was removed since. -/
def held? (h : List Action) (tenant : TenantId) : Option Dataset :=
  (h.filter (·.changes? = some tenant)).getLast?.bind Action.leaves?

def begins (h : List Action) : Nat := h.countP Action.isBegin

theorem held?_concat (h : List Action) (a : Action) (tenant : TenantId) :
    held? (h ++ [a]) tenant = if a.changes? = some tenant then a.leaves? else held? h tenant := by
  unfold held?
  rw [List.filter_append]
  by_cases ha : a.changes? = some tenant
  · rw [if_pos ha, List.filter_cons_of_pos (by simpa using ha), List.filter_nil,
      List.getLast?_concat, Option.bind_some]
  · rw [if_neg ha, List.filter_cons_of_neg (by simpa using ha), List.filter_nil, List.append_nil]

/-! ## Steps -/

/-- What the user who acts is told. -/
inductive Shared.Reply where
  | done
  | removed (was : Bool)
  | began (n : Nat)
  | stopped (stop : Stop)
  | rows (q : Query) (values : List q.Value)
  /-- There is no such transaction, or it has ended. -/
  | closed

structure Opened where
  number : Nat
  transaction : Transaction Memory

/-- A store, how many transactions its users have tried to begin, and those that are open. -/
structure Shared where
  memory : Memory
  begun : Nat
  live : Table Opened.number

namespace Shared

def start : Shared := ⟨.empty, 0, .empty⟩

def begin (s : Shared) (tenant : TenantId) : Reply × Shared :=
  match memoryStore.begin tenant s.memory with
  | (.ok tx, m) => (.began s.begun, ⟨m, s.begun + 1, s.live.put ⟨s.begun, tx⟩⟩)
  | (.error stop, m) => (.stopped stop, ⟨m, s.begun + 1, s.live⟩)

def query (s : Shared) (n : Nat) (q : Query) : Reply × Shared :=
  match s.live.find? n with
  | none => (.closed, s)
  | some o =>
    match o.transaction.ask q s.memory with
    | (.ok rows, m) => (.rows q (q.values rows), { s with memory := m })
    | (.error stop, m) => (.stopped stop, { s with memory := m })

/-- Commit and rollback end a transaction even if they fail. -/
def finish (s : Shared) (n : Nat)
    (last : Transaction Memory → Memory → Except Stop Unit × Memory) : Reply × Shared :=
  match s.live.find? n with
  | none => (.closed, s)
  | some o =>
    match last o.transaction s.memory with
    | (.ok _, m) => (.done, ⟨m, s.begun, s.live.erase n⟩)
    | (.error stop, m) => (.stopped stop, ⟨m, s.begun, s.live.erase n⟩)

def step (s : Shared) : Action → Reply × Shared
  | .put tenant d => (.done, { s with memory := s.memory.put tenant d })
  | .remove tenant =>
    (.removed (s.memory.contains tenant), { s with memory := s.memory.remove tenant })
  | .begin tenant => s.begin tenant
  | .query n q => s.query n q
  | .commit n => s.finish n Transaction.commit
  | .rollback n => s.finish n Transaction.rollback

def after (s : Shared) (h : List Action) : Shared := h.foldl (fun s a => (s.step a).2) s

theorem after_concat (s : Shared) (h : List Action) (a : Action) :
    s.after (h ++ [a]) = ((s.after h).step a).2 := by
  rw [after, List.foldl_append]
  rfl

/-! ## What a step does -/

/-- Each open transaction was begun and has its own snapshot. -/
structure Sound (s : Shared) : Prop where
  below : ∀ o ∈ s.live.rows, o.number < s.begun
  snapshot : ∀ o ∈ s.live.rows, ∃ d : Dataset, o.transaction = d.transaction Memory

variable {s : Shared} {tenant : TenantId} {n : Nat}

/-- The number of the next transaction is free. -/
theorem Sound.find?_begun (hs : s.Sound) : s.live.find? s.begun = none :=
  Option.eq_none_iff_forall_not_mem.2 fun o ho => by
    obtain ⟨hmem, he⟩ := Table.find?_eq_some_iff.1 ho
    exact Nat.lt_irrefl _ (he ▸ hs.below o hmem)

theorem begin_of_missing (h : s.memory.tenants.find? tenant = none) : s.begin tenant =
    (.stopped (.failed (.connection ("database \"" ++ tenant.text ++ "\" does not exist"))),
      ⟨s.memory, s.begun + 1, s.live⟩) := by
  unfold begin
  rw [begin_memoryStore, Memory.snapshot?, h]
  rfl

theorem begin_of_found {found : TenantData} (h : s.memory.tenants.find? tenant = some found) :
    s.begin tenant = (.began s.begun, ⟨s.memory, s.begun + 1,
      s.live.put ⟨s.begun, found.data.transaction Memory⟩⟩) := by
  unfold begin
  rw [begin_memoryStore, Memory.snapshot?, h]
  rfl

theorem query_of_found {d : Dataset}
    (h : s.live.find? n = some ⟨n, d.transaction Memory⟩) (q : Query) :
    s.query n q = (.rows q (q.values (d.answer q)), s) := by
  unfold query
  rw [h]
  rfl

theorem query_of_missing (h : s.live.find? n = none) (q : Query) : s.query n q = (.closed, s) := by
  unfold query
  rw [h]

theorem Sound.exists_opened (hs : s.Sound) {o : Opened} (h : s.live.find? n = some o) :
    ∃ d : Dataset, o = ⟨n, d.transaction Memory⟩ := by
  obtain ⟨hmem, rfl⟩ := Table.find?_eq_some_iff.1 h
  obtain ⟨d, hd⟩ := hs.snapshot o hmem
  exact ⟨d, hd ▸ rfl⟩

theorem Sound.query (hs : s.Sound) (n : Nat) (q : Query) : (s.query n q).2 = s := by
  cases ho : s.live.find? n with
  | none => rw [query_of_missing ho]
  | some o =>
    obtain ⟨d, rfl⟩ := hs.exists_opened ho
    rw [query_of_found ho]

theorem Sound.finish (hs : s.Sound) (n : Nat)
    {last : Transaction Memory → Memory → Except Stop Unit × Memory}
    (hlast : ∀ (d : Dataset) m, last (d.transaction Memory) m = (.ok (), m)) :
    (s.finish n last).2 = { s with live := s.live.erase n } := by
  unfold Shared.finish
  cases ho : s.live.find? n with
  | none => rw [Table.erase_of_find?_eq_none ho]
  | some o =>
    obtain ⟨d, rfl⟩ := hs.exists_opened ho
    dsimp only
    rw [hlast]

theorem Sound.commit (hs : s.Sound) (n : Nat) :
    (s.step (.commit n)).2 = { s with live := s.live.erase n } := hs.finish n fun _ _ => rfl

theorem Sound.rollback (hs : s.Sound) (n : Nat) :
    (s.step (.rollback n)).2 = { s with live := s.live.erase n } := hs.finish n fun _ _ => rfl

theorem Sound.erase (hs : s.Sound) (n : Nat) : Sound { s with live := s.live.erase n } :=
  ⟨fun o ho => hs.below o (Table.mem_rows_erase.1 ho).1,
    fun o ho => hs.snapshot o (Table.mem_rows_erase.1 ho).1⟩

theorem Sound.begin (hs : s.Sound) (tenant : TenantId) : (s.begin tenant).2.Sound := by
  cases hfound : s.memory.tenants.find? tenant with
  | none =>
    rw [begin_of_missing hfound]
    exact ⟨fun o ho => Nat.lt_succ_of_lt (hs.below o ho), hs.snapshot⟩
  | some found =>
    rw [begin_of_found hfound]
    constructor
    · intro o ho
      rcases Table.mem_rows_put.1 ho with rfl | ⟨ho, -⟩
      · exact Nat.lt_succ_self _
      · exact Nat.lt_succ_of_lt (hs.below o ho)
    · intro o ho
      rcases Table.mem_rows_put.1 ho with rfl | ⟨ho, -⟩
      · exact ⟨found.data, rfl⟩
      · exact hs.snapshot o ho

/-- One case an action. -/
theorem Sound.step (hs : s.Sound) (a : Action) : (s.step a).2.Sound := by
  cases a with
  | put tenant d => exact ⟨hs.below, hs.snapshot⟩
  | remove tenant => exact ⟨hs.below, hs.snapshot⟩
  | begin tenant => exact hs.begin tenant
  | query n q => exact (hs.query n q).symm ▸ hs
  | commit n => exact (hs.commit n).symm ▸ hs.erase n
  | rollback n => exact (hs.rollback n).symm ▸ hs.erase n

/-- Only puts and removes change data, those of one tenant. -/
theorem Sound.find?_tenants_step (hs : s.Sound) (a : Action) (tenant : TenantId) :
    (s.step a).2.memory.tenants.find? tenant =
      if a.changes? = some tenant then a.leaves?.map (TenantData.mk tenant)
      else s.memory.tenants.find? tenant := by
  cases a with
  | put other d =>
    refine (Table.find?_put _ _ _).trans ?_
    by_cases h : other = tenant
    · subst h
      simp [Action.changes?, Action.leaves?]
    · simp [Action.changes?, h]
  | remove other =>
    refine (Table.find?_erase _ _ _).trans ?_
    by_cases h : tenant = other
    · subst h
      simp [Action.changes?, Action.leaves?]
    · simp [Action.changes?, h, Ne.symm h]
  | begin other =>
    cases hfound : s.memory.tenants.find? other with
    | none => exact congrArg (·.2.memory.tenants.find? tenant) (begin_of_missing hfound)
    | some found => exact congrArg (·.2.memory.tenants.find? tenant) (begin_of_found hfound)
  | query n q => exact congrArg (·.memory.tenants.find? tenant) (hs.query n q)
  | commit n => exact congrArg (·.memory.tenants.find? tenant) (hs.commit n)
  | rollback n => exact congrArg (·.memory.tenants.find? tenant) (hs.rollback n)

theorem Sound.begun_step (hs : s.Sound) (a : Action) :
    (s.step a).2.begun = s.begun + if a.isBegin then 1 else 0 := by
  cases a with
  | put other d => rfl
  | remove other => rfl
  | begin other =>
    cases hfound : s.memory.tenants.find? other with
    | none => exact congrArg (·.2.begun) (begin_of_missing hfound)
    | some found => exact congrArg (·.2.begun) (begin_of_found hfound)
  | query n q => exact congrArg (·.begun) (hs.query n q)
  | commit n => exact congrArg (·.begun) (hs.commit n)
  | rollback n => exact congrArg (·.begun) (hs.rollback n)

/-- A transaction that was begun stays as it is until it ends. -/
theorem Sound.find?_live_step (hs : s.Sound) (a : Action) (hn : n < s.begun) :
    (s.step a).2.live.find? n = if a.ends? = some n then none else s.live.find? n := by
  have hend : ∀ m, (s.live.erase m).find? n = if some m = some n then none else s.live.find? n := by
    intro m
    rw [Table.find?_erase]
    exact if_congr (by rw [Option.some.injEq, eq_comm]) rfl rfl
  cases a with
  | put other d => rfl
  | remove other => rfl
  | begin other =>
    cases hfound : s.memory.tenants.find? other with
    | none => exact congrArg (·.2.live.find? n) (begin_of_missing hfound)
    | some found =>
      refine (congrArg (·.2.live.find? n) (begin_of_found hfound)).trans ?_
      exact (Table.find?_put _ _ _).trans (if_neg (Nat.ne_of_gt hn))
  | query m q => exact congrArg (·.live.find? n) (hs.query m q)
  | commit m => exact (congrArg (·.live.find? n) (hs.commit m)).trans (hend m)
  | rollback m => exact (congrArg (·.live.find? n) (hs.rollback m)).trans (hend m)

/-! ## Runs -/

variable (h : List Action)

theorem sound_after : (start.after h).Sound := by
  induction h using List.reverseRecOn with
  | nil => exact ⟨nofun, nofun⟩
  | append_singleton h a ih =>
    rw [after_concat]
    exact ih.step a

theorem begun_after : (start.after h).begun = begins h := by
  induction h using List.reverseRecOn with
  | nil => rfl
  | append_singleton h a ih =>
    rw [after_concat, (sound_after h).begun_step, ih]
    exact (List.countP_append.trans (congrArg _ List.countP_singleton)).symm

/-- The store holds what the last put or remove left. -/
theorem find?_tenants (tenant : TenantId) : (start.after h).memory.tenants.find? tenant =
    (held? h tenant).map (TenantData.mk tenant) := by
  induction h using List.reverseRecOn with
  | nil => rfl
  | append_singleton h a ih =>
    rw [after_concat, (sound_after h).find?_tenants_step, ih, held?_concat]
    split
    · rfl
    · rfl

/-- As it is right after it was begun. -/
theorem find?_live_begin (tenant : TenantId) :
    ((start.after h).begin tenant).2.live.find? (begins h) =
      (held? h tenant).map fun d => ⟨begins h, d.transaction Memory⟩ := by
  have hfound := find?_tenants h tenant
  rw [← begun_after]
  cases hd : held? h tenant with
  | none =>
    rw [hd] at hfound
    rw [begin_of_missing hfound]
    exact (sound_after h).find?_begun
  | some d =>
    rw [hd] at hfound
    rw [begin_of_found hfound]
    exact (Table.find?_put _ _ _).trans (if_pos rfl)

/-- The induction is on what was done since the transaction began. -/
theorem find?_live (tenant : TenantId) (later : List Action) :
    (start.after (h ++ .begin tenant :: later)).live.find? (begins h) =
      if some (begins h) ∈ later.map Action.ends? then none
      else (held? h tenant).map fun d => ⟨begins h, d.transaction Memory⟩ := by
  induction later using List.reverseRecOn with
  | nil =>
    rw [after_concat, List.map_nil, if_neg List.not_mem_nil]
    exact find?_live_begin h tenant
  | append_singleton later a ih =>
    have hbegun : begins h < (start.after (h ++ .begin tenant :: later)).begun := by
      have hcount : begins (h ++ .begin tenant :: later) = begins h + (begins later + 1) :=
        List.countP_append.trans (congrArg _ (List.countP_cons_of_pos rfl))
      rw [begun_after, hcount]
      omega
    -- the number was given out before, so the action cannot give it to another transaction
    rw [← List.cons_append, ← List.append_assoc, after_concat,
      (sound_after _).find?_live_step a hbegun, ih]
    simp only [List.map_append, List.map_cons, List.map_nil, List.mem_append, List.mem_singleton]
    by_cases ha : a.ends? = some (begins h)
    · rw [if_pos ha, if_pos (.inr ha.symm)]
    · rw [if_neg ha]
      exact if_congr (or_iff_left (Ne.symm ha)).symm rfl rfl

/-- A tenant is open to transactions after a put that no remove has followed. -/
theorem reply_begin (tenant : TenantId) : ((start.after h).step (.begin tenant)).1 =
    match held? h tenant with
    | some _ => .began (begins h)
    | none => .stopped (.failed
        (.connection ("database \"" ++ tenant.text ++ "\" does not exist"))) := by
  have hfound := find?_tenants h tenant
  rw [← begun_after]
  cases hd : held? h tenant with
  | none =>
    rw [hd] at hfound
    exact congrArg Prod.fst (begin_of_missing hfound)
  | some d =>
    rw [hd] at hfound
    exact congrArg Prod.fst (begin_of_found hfound)

/-- A transaction that has not ended answers from the data of its beginning. -/
theorem reply_query (tenant : TenantId) (later : List Action) (q : Query) :
    ((start.after (h ++ .begin tenant :: later)).step (.query (begins h) q)).1 =
      match held? h tenant with
      | some d =>
        if some (begins h) ∈ later.map Action.ends? then .closed
        else .rows q (q.values (d.answer q))
      | none => .closed := by
  have hlive := find?_live h tenant later
  split at hlive
  · next hended =>
    refine (congrArg Prod.fst (query_of_missing hlive q)).trans ?_
    cases held? h tenant with
    | none => rfl
    | some d => exact (if_pos hended).symm
  · next hopen =>
    cases hd : held? h tenant with
    | none =>
      rw [hd] at hlive
      exact congrArg Prod.fst (query_of_missing hlive q)
    | some d =>
      rw [hd] at hlive
      exact (congrArg Prod.fst (query_of_found hlive q)).trans (if_neg hopen).symm

theorem reply_remove (tenant : TenantId) :
    ((start.after h).step (.remove tenant)).1 = .removed (held? h tenant).isSome := by
  refine congrArg Reply.removed ?_
  rw [Memory.contains, Table.contains, find?_tenants, Option.isSome_map]

/-- A tenant counts after a put that no remove has followed. -/
theorem size_after :
    (start.after h).memory.size = {tenant | (held? h tenant).isSome}.ncard := by
  have hheld : {tenant | (held? h tenant).isSome} =
      {tenant | ((start.after h).memory.tenants.find? tenant).isSome} := by
    ext tenant
    rw [Set.mem_ofPred_eq, Set.mem_ofPred_eq, find?_tenants, Option.isSome_map]
  rw [hheld, Table.ncard_find?]
  rfl

end Shared

/-! ## One user among others -/

/-- A store, and what others do to it before each further step of one user. -/
structure Turns where
  shared : Shared
  turns : List (List Action)

namespace Turns

/-- The others have had their turn. -/
def next (s : Turns) : Turns := ⟨s.shared.after (s.turns.headD []), s.turns.tail⟩

def step (s : Turns) (a : Action) : Turns := { s with shared := (s.shared.step a).2 }

end Turns

/-- A transaction of a number, with the others' turns in between. -/
def Transaction.amid (tx : Transaction Memory) (n : Nat) : Transaction Turns where
  known := tx.known
  ask q s := ((tx.ask q s.next.shared.memory).1, s.next.step (.query n q))
  commit s := ((tx.commit s.next.shared.memory).1, s.next.step (.commit n))
  rollback s := ((tx.rollback s.next.shared.memory).1, s.next.step (.rollback n))

def sharedStore : Store Turns where
  begin tenant s := ((memoryStore.begin tenant s.shared.memory).1.map
    (·.amid s.shared.begun), s.step (.begin tenant))
  waited _ := ⟨0⟩

open Run

theorem begin_sharedStore (tenant : TenantId) (s : Turns) : sharedStore.begin tenant s =
    ((memoryStore.begin tenant s.shared.memory).1.map (·.amid s.shared.begun),
      s.step (.begin tenant)) := rfl

theorem alike_amid (d : Dataset) (n : Nat) :
    ((d.transaction Memory).amid n).Alike (fun _ _ => True) (d.transaction Memory) where
  ask _ _ _ _ := ⟨.ok rfl, trivial⟩
  commit _ _ _ := ⟨.ok rfl, trivial⟩
  rollback _ _ _ := ⟨.ok rfl, trivial⟩

/-- Work that goes by the answers comes to what it would come to alone. -/
theorem run_transact_sharedStore {α : Type} (s : Turns) (tenant : TenantId)
    {work : Transaction Turns → Run Turns α} {work' : Transaction Memory → Run Memory α}
    (hwork : ∀ tx tx', Transaction.Alike (fun _ _ => True) tx tx' →
      Alike (fun _ _ => True) Eq (work tx) (work' tx')) :
    ((sharedStore.transact tenant work).run (.ofState s)).1 =
      ((memoryStore.transact tenant work').run (.ofState s.shared.memory)).1 := by
  cases hd : s.shared.memory.snapshot? tenant with
  | error e =>
    have halone := begin_of_snapshot_error hd
    have hshared : sharedStore.begin tenant s =
        (.error (.failed e), s.step (.begin tenant)) := by
      rw [begin_sharedStore, halone]
      rfl
    rw [Store.run_transact_refused (w := .ofState s) hshared,
      Store.run_transact_refused (w := .ofState s.shared.memory) halone]
  | ok d =>
    have halone := begin_of_snapshot hd
    have hshared : sharedStore.begin tenant s =
        (.ok ((d.transaction Memory).amid s.shared.begun), s.step (.begin tenant)) := by
      rw [begin_sharedStore, halone]
      rfl
    rw [Store.run_transact (w := .ofState s) hshared,
      Store.run_transact (w := .ofState s.shared.memory) halone]
    obtain ⟨hagree, -⟩ := hwork _ _ (alike_amid d s.shared.begun) _ _ trivial
    exact agree_eq_iff.1 (Transaction.alike_finish (alike_amid d s.shared.begun)
      (agree_eq_iff.1 hagree) _ _ trivial).1

/-- **A transaction is answered from the data of its tenant at its beginning**, which are those of
the tenant's last put or remove, whatever is done by others until it ends. Whoever finds roles or
builds the map in it gets what there would be to get alone. -/
theorem Shared.isolation (h : List Action) (tenant : TenantId) :
    ((start.after h).step (.begin tenant)).1 = (match held? h tenant with
      | some _ => .began (begins h)
      | none => .stopped (.failed
          (.connection ("database \"" ++ tenant.text ++ "\" does not exist")))) ∧
    (∀ later q, ((start.after (h ++ .begin tenant :: later)).step (.query (begins h) q)).1 =
      match held? h tenant with
      | some d =>
        if some (begins h) ∈ later.map Action.ends? then .closed
        else .rows q (q.values (d.answer q))
      | none => .closed) ∧
    (∀ turns user,
      ((sharedStore.transact tenant fun tx => resolveRoles tx user).run
        (.ofState ⟨start.after h, turns⟩)).1 =
      ((memoryStore.transact tenant fun tx => resolveRoles tx user).run
        (.ofState (start.after h).memory)).1) ∧
    (∀ turns f,
      ((sharedStore.transact tenant fun tx => buildRoleMap tx f).run
        (.ofState ⟨start.after h, turns⟩)).1 =
      ((memoryStore.transact tenant fun tx => buildRoleMap tx f).run
        (.ofState (start.after h).memory)).1) ∧
    ((start.after h).step (.remove tenant)).1 = .removed (held? h tenant).isSome ∧
    (start.after h).memory.size = {tenant | (held? h tenant).isSome}.ncard := by
  refine ⟨reply_begin h tenant, reply_query h tenant, fun turns user => ?_, fun turns f => ?_,
    reply_remove h tenant, size_after h⟩
  · exact run_transact_sharedStore ⟨start.after h, turns⟩ tenant fun _ _ htx =>
      Transaction.alike_resolveRoles htx user
  · exact run_transact_sharedStore ⟨start.after h, turns⟩ tenant fun _ _ htx =>
      Transaction.alike_buildRoleMap htx f

end Entitlement
