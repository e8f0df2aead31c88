import Entitlement.Pool.Registry
import Entitlement.Proofs.Table
import Mathlib.Data.List.Induction

/-!
# A tenant keeps its pool

* `Registry.after` : the registry after any calls; `Registry.asked` : what the next event asks of
  whoever connects and prepares pools;
* `Registry.Event.brings?` : the pool that an event has for a tenant. A tenant's pool is the first
  one brought (`Registry.pool?_after`);
* `Registry.Awaits` : a call's pool is being prepared, read off the calls alone
  (`Registry.find?_calls_of_awaits`, `Registry.exists_get_of_find?`);
* `Registry.Keeps` : the pools of tenants, the answers to calls and what they ask, together;
* `Registry.one_pool` : **after any calls, each tenant keeps its pool.**
-/

namespace Entitlement.Registry
variable {π : Type}

/-! ## Events -/

namespace Event

/-- The call that the event is about. -/
def id? : Event π → Option CallId
  | get id _ _ | prepared id _ | dropped id => some id
  | register _ _ => none

/-- The pool that the event has for a tenant, should the tenant need one. -/
def brings? (e : Event π) (tenant : TenantId) : Option π :=
  match e with
  | get _ t (.ok pool) | register t pool => if t = tenant then some pool else none
  | _ => none

end Event

def after (h : List (Event π)) : Registry π := h.foldl step empty

/-- What an event after others asks of whoever makes pools. -/
def asked (h : List (Event π)) (e : Event π) : List (Request π) := (after h).requests e

/-- What a call is told when its pool is ready or could not be made ready. -/
def answer (h : List (Event π)) (id : CallId) (result : Except Error Unit) :
    Option (Except Error π) := ((after h).prepared id result).2

/-- The call was given the pool, and nothing has been heard of it since. -/
def Awaits (h : List (Event π)) (id : CallId) (tenant : TenantId) (pool : π) : Prop :=
  ∃ before connect since, h = before ++ .get id tenant connect :: since ∧
    ((after before).found tenant connect).pool? = some pool ∧ ∀ e ∈ since, e.id? ≠ some id

theorem after_concat (h : List (Event π)) (e : Event π) : after (h ++ [e]) = (after h).step e := by
  rw [after, List.foldl_append]
  rfl

/-! ## One event -/

variable {r : Registry π} {tenant : TenantId}

theorem pool?_found (r : Registry π) (tenant : TenantId) (connect : Except Error π) :
    (r.found tenant connect).pool? = (r.pool? tenant).or connect.toOption := by
  unfold found
  cases r.pool? tenant with
  | some pool => rfl
  | none => cases connect with
    | ok pool => rfl
    | error e => rfl

theorem found_get (r : Registry π) (id : CallId) (tenant : TenantId) (connect : Except Error π) :
    (r.get id tenant connect).found = r.found tenant connect := by
  unfold get
  cases r.found tenant connect with
  | existing pool => rfl
  | created pool => rfl
  | failed e => rfl

theorem calls_get (r : Registry π) (id : CallId) (tenant : TenantId) (connect : Except Error π) :
    (r.step (.get id tenant connect)).calls =
      match (r.found tenant connect).pool? with
      | some pool => r.calls.put ⟨id, tenant, pool⟩
      | none => r.calls := by
  simp only [step, get]
  cases r.found tenant connect with
  | existing pool => rfl
  | created pool => rfl
  | failed e => rfl

theorem pools_get (r : Registry π) (id : CallId) (tenant : TenantId) (connect : Except Error π) :
    (r.step (.get id tenant connect)).pools =
      match r.pool? tenant, connect with
      | none, .ok pool => r.pools.put ⟨tenant, pool⟩
      | _, _ => r.pools := by
  simp only [step, get, found]
  cases r.pool? tenant with
  | some pool => rfl
  | none => cases connect with
    | ok pool => rfl
    | error e => rfl

/-- Ready or not, the call is over. -/
theorem step_prepared (r : Registry π) (id : CallId) (result : Except Error Unit) :
    r.step (.prepared id result) = { r with calls := r.calls.erase id } := by
  simp only [step, prepared]
  cases h : r.calls.find? id with
  | some call => rfl
  | none => rw [Table.erase_of_find?_eq_none h]

theorem register_eq (r : Registry π) (tenant : TenantId) (pool : π) : r.register tenant pool =
    match r.pool? tenant with
    | some _ => (r, false)
    | none => ({ r with pools := r.pools.put ⟨tenant, pool⟩ }, true) := by
  have hcontains : r.contains tenant = (r.pool? tenant).isSome := by
    rw [pool?, Option.isSome_map, contains, Table.contains]
  rw [register, hcontains]
  cases r.pool? tenant with
  | some pool => rfl
  | none => rfl

theorem find?_put_pools (r : Registry π) (t tenant : TenantId) (pool : π) :
    ((r.pools.put ⟨t, pool⟩).find? tenant).map PoolEntry.pool =
      if t = tenant then some pool else r.pool? tenant := by
  rw [Table.find?_put]
  split
  · rfl
  · rfl

/-- A pool for a tenant without one is its pool, one for a tenant that has one is nothing. -/
theorem pool?_brought (r : Registry π) (t tenant : TenantId) (pool : π) :
    (if r.pool? t = none then ((r.pools.put ⟨t, pool⟩).find? tenant).map PoolEntry.pool
      else r.pool? tenant) = (r.pool? tenant).or (if t = tenant then some pool else none) := by
  rw [find?_put_pools]
  by_cases ht : t = tenant
  · rw [if_pos ht, if_pos ht, ht]
    cases r.pool? tenant with
    | some pool => rfl
    | none => rfl
  · rw [if_neg ht, if_neg ht, Option.or_none, ite_self]

/-- A tenant with a pool keeps it; another one gets the pool that the event has for it. -/
theorem pool?_step (r : Registry π) (e : Event π) (tenant : TenantId) :
    (r.step e).pool? tenant = (r.pool? tenant).or (e.brings? tenant) := by
  cases e with
  | get id t connect =>
    rw [pool?, pools_get]
    cases connect with
    | ok pool =>
      refine Eq.trans ?_ (pool?_brought r t tenant pool)
      cases r.pool? t with
      | some _ => rfl
      | none => rfl
    | error e =>
      refine Eq.trans ?_ Option.or_none.symm
      cases r.pool? t with
      | some _ => rfl
      | none => rfl
  | register t pool =>
    refine Eq.trans ?_ (pool?_brought r t tenant pool)
    rw [step, register_eq]
    cases r.pool? t with
    | some _ => rfl
    | none => rfl
  | prepared id result =>
    rw [step_prepared]
    exact Option.or_none.symm
  | dropped id => exact Option.or_none.symm

/-- A call leaves its tenant with the pool that it is given. -/
theorem pool?_get (r : Registry π) (id : CallId) (tenant : TenantId) (connect : Except Error π) :
    (r.step (.get id tenant connect)).pool? tenant = (r.found tenant connect).pool? := by
  rw [pool?_step, pool?_found]
  cases connect with
  | ok pool => simp [Event.brings?, Except.toOption]
  | error e => rfl

/-- An event is nothing to other calls. -/
theorem find?_calls_step_of_ne {e : Event π} {id : CallId} (h : e.id? ≠ some id) :
    (r.step e).calls.find? id = r.calls.find? id := by
  cases e with
  | get id' t connect =>
    have hne : id' ≠ id := fun he => h (congrArg some he)
    rw [calls_get]
    cases (r.found t connect).pool? with
    | some pool => exact (Table.find?_put _ _ _).trans (if_neg hne)
    | none => rfl
  | prepared id' result =>
    have hne : id ≠ id' := fun he => h (congrArg some he.symm)
    rw [step_prepared]
    exact (Table.find?_erase _ _ _).trans (if_neg hne)
  | dropped id' =>
    have hne : id ≠ id' := fun he => h (congrArg some he.symm)
    exact (Table.find?_erase _ _ _).trans (if_neg hne)
  | register t pool =>
    rw [step, register_eq]
    cases r.pool? t with
    | some _ => rfl
    | none => rfl

theorem find?_calls_get {id : CallId} {connect : Except Error π} {pool : π}
    (h : (r.found tenant connect).pool? = some pool) :
    (r.step (.get id tenant connect)).calls.find? id = some ⟨id, tenant, pool⟩ := by
  rw [calls_get, h]
  exact (Table.find?_put _ _ _).trans (if_pos rfl)

theorem find?_calls_erase (r : Registry π) (id : CallId) : (r.calls.erase id).find? id = none := by
  rw [Table.find?_erase, if_pos rfl]

/-- A call is new with an event that gets a pool for it, or it was there before. -/
theorem find?_calls_step {e : Event π} {id : CallId} {call : Preparing π}
    (h : (r.step e).calls.find? id = some call) : r.calls.find? id = some call ∨
      ∃ connect, e = .get id call.tenant connect ∧
        (r.found call.tenant connect).pool? = some call.pool := by
  by_cases hid : e.id? = some id
  · cases e with
    | get id' t connect =>
      obtain rfl : id' = id := Option.some.inj hid
      cases hfound : (r.found t connect).pool? with
      | some pool =>
        obtain rfl : ⟨id', t, pool⟩ = call :=
          Option.some.inj ((find?_calls_get hfound).symm.trans h)
        exact .inr ⟨connect, rfl, hfound⟩
      | none =>
        rw [calls_get, hfound] at h
        exact .inl h
    | prepared id' result =>
      obtain rfl : id' = id := Option.some.inj hid
      rw [step_prepared] at h
      exact absurd ((find?_calls_erase r id').symm.trans h) nofun
    | dropped id' =>
      obtain rfl : id' = id := Option.some.inj hid
      exact absurd ((find?_calls_erase r id').symm.trans h) nofun
    | register t pool => cases hid
  · exact .inl ((find?_calls_step_of_ne hid).symm.trans h)

/-! ## Any events -/

variable (h : List (Event π))

/-- A tenant's pool is the first one that was brought for it. -/
theorem pool?_after (tenant : TenantId) :
    (after h).pool? tenant = h.findSome? fun e => e.brings? tenant := by
  induction h using List.reverseRecOn with
  | nil => rfl
  | append_singleton h e ih =>
    rw [after_concat, pool?_step, ih, List.findSome?_append, List.findSome?_singleton]

variable {h}

theorem pool?_append {pool : π} (hpool : (after h).pool? tenant = some pool)
    (later : List (Event π)) : (after (h ++ later)).pool? tenant = some pool := by
  rw [pool?_after] at hpool ⊢
  rw [List.findSome?_append, hpool, Option.some_or]

/-- A pool comes from a connection made for its tenant or was registered for it. -/
theorem exists_brought {pool : π} (hpool : (after h).pool? tenant = some pool) :
    ∃ before e since, h = before ++ e :: since ∧ (after before).pool? tenant = none ∧
      ((∃ id, e = .get id tenant (.ok pool)) ∨ e = .register tenant pool) := by
  rw [pool?_after, List.findSome?_eq_some_iff] at hpool
  obtain ⟨before, e, since, rfl, hbrings, hbefore⟩ := hpool
  refine ⟨before, e, since, rfl, ?_, ?_⟩
  · rw [pool?_after, List.findSome?_eq_none_iff]
    exact hbefore
  · unfold Event.brings? at hbrings
    split at hbrings
    · split at hbrings
      · next ht =>
        cases hbrings
        exact .inl ⟨_, by rw [ht]⟩
      · cases hbrings
    · split at hbrings
      · next ht =>
        cases hbrings
        exact .inr (by rw [ht])
      · cases hbrings
    · cases hbrings

theorem pool?_of_found {connect : Except Error π} {pool : π}
    (hfound : ((after h).found tenant connect).pool? = some pool) (id : CallId)
    (since : List (Event π)) :
    (after (h ++ .get id tenant connect :: since)).pool? tenant = some pool := by
  have hfirst : (after (h ++ [.get id tenant connect])).pool? tenant = some pool := by
    rw [after_concat, pool?_get, hfound]
  have hlater := pool?_append hfirst since
  rwa [List.append_assoc] at hlater

/-- The induction is on what happens since the call was given its pool. -/
theorem find?_calls_of_awaits {id : CallId} {pool : π} (hawaits : Awaits h id tenant pool) :
    (after h).calls.find? id = some ⟨id, tenant, pool⟩ := by
  obtain ⟨before, connect, since, rfl, hfound, hsince⟩ := hawaits
  induction since using List.reverseRecOn with
  | nil =>
    rw [after_concat]
    exact find?_calls_get hfound
  | append_singleton since e ih =>
    rw [← List.cons_append, ← List.append_assoc, after_concat,
      find?_calls_step_of_ne (hsince e (by simp))]
    exact ih fun e' he' => hsince e' (List.mem_append_left _ he')

theorem exists_get_of_find? {id : CallId} {call : Preparing π}
    (hcall : (after h).calls.find? id = some call) :
    ∃ before connect since, h = before ++ .get id call.tenant connect :: since ∧
      ((after before).found call.tenant connect).pool? = some call.pool := by
  induction h using List.reverseRecOn with
  | nil => cases hcall
  | append_singleton h e ih =>
    rw [after_concat] at hcall
    rcases find?_calls_step hcall with hbefore | ⟨connect, rfl, hfound⟩
    · obtain ⟨before, connect, since, rfl, hfound⟩ := ih hbefore
      exact ⟨before, connect, since ++ [e], by simp, hfound⟩
    · exact ⟨h, connect, [], rfl, hfound⟩

theorem answer_of_find? {id : CallId} {call : Preparing π}
    (hcall : (after h).calls.find? id = some call) (result : Except Error Unit) :
    answer h id result = some (result.map fun _ => call.pool) := by
  rw [answer, prepared, hcall]

/-- Who is answered with a pool has asked for it, and it is still the tenant's. -/
theorem exists_get_of_answer {id : CallId} {result : Except Error Unit} {pool : π}
    (hanswer : answer h id result = some (.ok pool)) :
    ∃ tenant before connect since, h = before ++ .get id tenant connect :: since ∧
      ((after before).found tenant connect).pool? = some pool ∧
      (after h).pool? tenant = some pool := by
  cases hcall : (after h).calls.find? id with
  | none =>
    rw [answer, prepared, hcall] at hanswer
    cases hanswer
  | some call =>
    rw [answer_of_find? hcall] at hanswer
    cases result with
    | error e => cases hanswer
    | ok _ =>
      cases hanswer
      obtain ⟨before, connect, since, rfl, hfound⟩ := exists_get_of_find? hcall
      exact ⟨call.tenant, before, connect, since, rfl, hfound, pool?_of_found hfound _ since⟩

theorem asked_get (h : List (Event π)) (id : CallId) (tenant : TenantId)
    (connect : Except Error π) : asked h (.get id tenant connect) =
      (if (after h).pool? tenant = none then [.connect tenant] else []) ++
        (((after h).pool? tenant).or connect.toOption).toList.map (.prepare tenant) := by
  simp only [asked, requests, get, found]
  cases (after h).pool? tenant with
  | some pool => rfl
  | none => cases connect with
    | ok pool => rfl
    | error e => rfl

/-- A connection is asked for only if the tenant has no pool. -/
theorem pool?_of_connect_mem {e : Event π} (hask : .connect tenant ∈ asked h e) :
    (after h).pool? tenant = none := by
  cases e with
  | get id t connect =>
    rw [asked_get, List.mem_append] at hask
    rcases hask with hask | hask
    · split at hask
      · next hnone =>
        cases List.mem_singleton.1 hask
        exact hnone
      · cases hask
    · obtain ⟨_, -, he⟩ := List.mem_map.1 hask
      cases he
  | _ => cases hask

/-- A tenant counts once it has obtained a pool. -/
theorem size_after (h : List (Event π)) : (after h).size =
    {tenant | ∃ before, before <+: h ∧ ((after before).pool? tenant).isSome}.ncard := by
  have htenants : {tenant | ∃ before, before <+: h ∧ ((after before).pool? tenant).isSome} =
      {tenant | ((after h).pools.find? tenant).isSome} := by
    ext tenant
    have hpool : ((after h).pools.find? tenant).isSome = ((after h).pool? tenant).isSome := by
      rw [pool?, Option.isSome_map]
    rw [Set.mem_ofPred_eq, Set.mem_ofPred_eq, hpool]
    constructor
    · rintro ⟨before, ⟨since, rfl⟩, hbefore⟩
      obtain ⟨pool, hpool⟩ := Option.isSome_iff_exists.1 hbefore
      rw [pool?_append hpool]
      rfl
    · exact fun hnow => ⟨h, List.prefix_refl h, hnow⟩
  rw [htenants, Table.ncard_find?]
  rfl

/-- What holds of a registry after any events. -/
structure Keeps (h : List (Event π)) : Prop where
  /-- No tenant has two pools, -/
  distinct : (after h).pools.keys.Nodup
  /-- a pool is neither replaced nor taken away, -/
  kept : ∀ tenant pool later, (after h).pool? tenant = some pool →
    (after (h ++ later)).pool? tenant = some pool
  /-- and it was connected or registered for its tenant, when there was none. -/
  origin : ∀ tenant pool, (after h).pool? tenant = some pool →
    ∃ before e since, h = before ++ e :: since ∧ (after before).pool? tenant = none ∧
      ((∃ id, e = .get id tenant (.ok pool)) ∨ e = .register tenant pool)
  /-- A call is answered with the pool of the tenant that it asked for. -/
  answered : ∀ id result pool, answer h id result = some (.ok pool) →
    ∃ tenant before connect since, h = before ++ .get id tenant connect :: since ∧
      ((after before).found tenant connect).pool? = some pool ∧
      (after h).pool? tenant = some pool
  /-- A call whose pool is being prepared is answered once, with the pool or with what went wrong,
  and either way the pool stays. -/
  awaited : ∀ id tenant pool, Awaits h id tenant pool → (after h).pool? tenant = some pool ∧
    ∀ result, answer h id result = some (result.map fun _ => pool) ∧
      (after (h ++ [.prepared id result])).pools = (after h).pools ∧
      ∀ again, answer (h ++ [.prepared id result]) id again = none
  /-- A call asks to connect if its tenant has no pool, and then to prepare the pool once. -/
  asks : ∀ id tenant connect, asked h (.get id tenant connect) =
    (if (after h).pool? tenant = none then [.connect tenant] else []) ++
      (((after h).pool? tenant).or connect.toOption).toList.map (.prepare tenant)
  /-- The tenant's pool is the one that it had, or else the one that was connected. -/
  gets : ∀ id tenant connect,
    ((after h).get id tenant connect).found.pool? =
      ((after h).pool? tenant).or connect.toOption ∧
    (after (h ++ [.get id tenant connect])).pool? tenant =
      ((after h).pool? tenant).or connect.toOption
  /-- No other event asks for anything. -/
  silent : ∀ e, (∀ id tenant connect, e ≠ .get id tenant connect) → asked h e = []
  /-- Once connecting has succeeded for a tenant, it is not asked for again. -/
  once : ∀ id tenant pool later e, (after h).pool? tenant = none →
    .connect tenant ∉ asked (h ++ .get id tenant (.ok pool) :: later) e
  /-- Connecting that fails leaves the registry as it is, and nothing is prepared. -/
  refused : ∀ id tenant error, (after h).pool? tenant = none →
    (after h).get id tenant (.error error) = ⟨after h, .failed error, [.connect tenant]⟩
  /-- A pool is registered for a tenant that has none, and nothing changes for another one. -/
  registers : ∀ tenant pool, ((after h).register tenant pool).2 = ((after h).pool? tenant).isNone ∧
    (((after h).pool? tenant).isSome → ((after h).register tenant pool).1 = after h) ∧
    ((after h).pool? tenant = none →
      (after (h ++ [.register tenant pool])).pool? tenant = some pool)
  /-- The size is the number of tenants that have ever had a pool. -/
  size : (after h).size =
    {tenant | ∃ before, before <+: h ∧ ((after before).pool? tenant).isSome}.ncard

theorem awaited_of_awaits {id : CallId} {pool : π} (hawaits : Awaits h id tenant pool) :
    (after h).pool? tenant = some pool ∧
      ∀ result, answer h id result = some (result.map fun _ => pool) ∧
        (after (h ++ [.prepared id result])).pools = (after h).pools ∧
        ∀ again, answer (h ++ [.prepared id result]) id again = none := by
  have hcall := find?_calls_of_awaits hawaits
  obtain ⟨before, connect, since, rfl, hfound, -⟩ := hawaits
  refine ⟨pool?_of_found hfound _ since, fun result => ⟨answer_of_find? hcall result, ?_, ?_⟩⟩
  · rw [after_concat, step_prepared]
  · intro again
    rw [answer, after_concat, step_prepared, prepared, find?_calls_erase]

/-- **A tenant has one pool, for good**: the first that was connected or registered for it. Whoever
asks for the tenant's pool is given that one to be prepared, once, and nobody connects for a tenant
that has a pool. What fails changes no pool. -/
theorem one_pool (h : List (Event π)) : Keeps h where
  distinct := (after h).pools.distinct
  kept _ _ later hpool := pool?_append hpool later
  origin _ _ := exists_brought
  answered _ _ _ := exists_get_of_answer
  awaited _ _ _ := awaited_of_awaits
  asks := asked_get h
  gets id tenant connect := by
    rw [found_get, after_concat, pool?_get, pool?_found]
    exact ⟨rfl, rfl⟩
  silent e he := by
    cases e with
    | get id tenant connect => exact absurd rfl (he id tenant connect)
    | _ => rfl
  once id tenant pool later e hnone hask := by
    have hfound : ((after h).found tenant (.ok pool)).pool? = some pool := by
      rw [pool?_found, hnone]
      rfl
    have hpool := pool?_of_found hfound id later
    exact absurd (hpool.symm.trans (pool?_of_connect_mem hask)) nofun
  refused id tenant error hnone := by
    simp only [get, found, hnone]
  registers tenant pool := by
    rw [register_eq, after_concat, pool?_step]
    cases hpool : (after h).pool? tenant with
    | some _ => exact ⟨rfl, fun _ => rfl, nofun⟩
    | none => exact ⟨rfl, nofun, fun _ => by simp [Event.brings?]⟩
  size := size_after h

end Entitlement.Registry
