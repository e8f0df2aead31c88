import Entitlement.Pool.TenantPool
import Entitlement.Proofs.Gate
import Mathlib.Data.List.Destutter

/-!
# The password fetched last is the one installed

* `TenantPool.after`, `TenantPool.reply` : a pool after any events, and what the next event brings
  to its call;
* `TenantPool.Fetching` : a call's fetch is on its way, read off the events alone;
* `TenantPool.fetched`, `TenantPool.replaced` : the passwords that fetches brought and the options
  that the pool was given, one after the other;
* `TenantPool.gate_step`, `works_step`, `applied_step`, `current_step`, `Installed.step` : what one
  event does;
* `TenantPool.works_after`, `applied_after`, `applied_eq`, `given_after`, `replaced_eq` : what any
  events do;
* `TenantPool.Installs` : who fetches, what is installed and what calls are told, together;
  `TenantPool.Untouched` : the same for a pool from elsewhere;
* `TenantPool.newest_installed` : **the password fetched last is the one installed.**
-/

namespace Entitlement

/-- A list without consecutive repetitions, one item longer. -/
theorem destutter_concat {α : Type} [DecidableEq α] (l : List α) (x : α) :
    (l ++ [x]).destutter (· ≠ ·) =
      l.destutter (· ≠ ·) ++ (if l.getLast? = some x then [] else [x]) := by
  cases l with
  | nil => rfl
  | cons a l =>
    rw [List.cons_append, List.destutter_cons', List.destutter_cons']
    induction l generalizing a with
    | nil =>
      rw [List.nil_append, List.destutter'_cons, List.destutter'_nil, List.getLast?_singleton]
      by_cases h : a = x
      · simp [h]
      · simp [h]
    | cons b l ih =>
      rw [List.cons_append, List.destutter'_cons, List.destutter'_cons, List.getLast?_cons_cons]
      by_cases h : a = b
      · rw [if_neg (not_not.2 h), if_neg (not_not.2 h), h]
        exact ih b
      · rw [if_pos h, if_pos h, List.cons_append, ih b]

namespace ConnectOptions

theorem withPassword_injective (o : ConnectOptions) : Function.Injective o.withPassword :=
  fun _ _ h => Option.some.inj (congrArg ConnectOptions.password h)

theorem eq_withPassword_iff {o : ConnectOptions} {password : String} :
    o = o.withPassword password ↔ o.password = some password := by
  constructor
  · intro h
    exact congrArg ConnectOptions.password h
  · intro h
    rw [withPassword, ← h]

end ConnectOptions

namespace TenantPool
open ConnectOptions

/-! ## Events -/

namespace Event

/-- The call whose fetch is over, if it has one. -/
def ends? : Event → Option CallId
  | arrived id _ | dropped id => some id
  | _ => none

end Event

def after (p : TenantPool) (h : List Event) : TenantPool := h.foldl (fun p e => (p.step e).1) p

/-- What comes of an event after others. -/
def reply (p : TenantPool) (h : List Event) (e : Event) : Progress Unit := ((p.after h).step e).2

/-- The call began a fetch, which has neither come back nor been given up. -/
def Fetching (p : TenantPool) (h : List Event) (id : CallId) : Prop :=
  Since (fun before e => e = .turn id ∧ p.reply before e = .fetches) (fun e => e.ends? = some id) h

/-- What the events tell of a pool, one after the other. -/
def story {α : Type} (tells : TenantPool → Event → Option α) : TenantPool → List Event → List α
  | _, [] => []
  | p, e :: h => (tells p e).toList ++ story tells (p.step e).1 h

/-- The password that a call at work has fetched. -/
def brings? (p : TenantPool) : Event → Option String
  | .arrived id (.ok password) => if p.gate.works id then some password else none
  | _ => none

/-- The options that the pool is given then. -/
def replaces? (p : TenantPool) (e : Event) : Option ConnectOptions := (p.brings? e).bind p.given?

/-- The passwords that fetches brought, the last one at the end. -/
def fetched (p : TenantPool) (h : List Event) : List String := story brings? p h

/-- The options that the pool was given, the last ones at the end. -/
def replaced (p : TenantPool) (h : List Event) : List ConnectOptions := story replaces? p h

theorem after_concat (p : TenantPool) (h : List Event) (e : Event) :
    p.after (h ++ [e]) = ((p.after h).step e).1 := by
  rw [after, List.foldl_append]
  rfl

theorem story_concat {α : Type} (tells : TenantPool → Event → Option α) (p : TenantPool)
    (h : List Event) (e : Event) :
    story tells p (h ++ [e]) = story tells p h ++ (tells (p.after h) e).toList := by
  induction h generalizing p with
  | nil => exact List.append_nil _
  | cons first h ih =>
    rw [List.cons_append, story, story, ih, List.append_assoc]
    rfl

/-! ## One event -/

variable {p : TenantPool} {base : ConnectOptions}

/-- All that an event can do to a pool that was connected: what becomes of it, and what the call is
told. -/
inductive Outcome (p : TenantPool) : Event → TenantPool × Progress Unit → Prop
  | waits {id} : Outcome p (.ask id) ({ p with gate := p.gate.enter id }, .waits)
  | fetches {id} (hturn : p.gate.mayStart id = true) :
    Outcome p (.turn id) ({ p with gate := p.gate.start id }, .fetches)
  | early {id} (hturn : ¬ p.gate.mayStart id = true) : Outcome p (.turn id) (p, .ignored)
  | brought {id password} (hworks : p.gate.works id = true) :
    Outcome p (.arrived id (.ok password))
      ({ p.install password with gate := p.gate.leave id }, .answered (.ok ()))
  | failed {id e} (hworks : p.gate.works id = true) :
    Outcome p (.arrived id (.error e))
      ({ p with gate := p.gate.leave id }, .answered (.error (noPassword e)))
  | late {id fetched} (hworks : ¬ p.gate.works id = true) :
    Outcome p (.arrived id fetched) (p, .ignored)
  | dropped {id} : Outcome p (.dropped id) ({ p with gate := p.gate.leave id }, .ignored)

theorem step_ask (hbase : p.base = some base) (id : CallId) :
    p.step (.ask id) = ({ p with gate := p.gate.enter id }, .waits) := by
  simp only [step, ask, hbase]

theorem outcome_step (hbase : p.base = some base) (e : Event) : p.Outcome e (p.step e) := by
  cases e with
  | ask id => exact step_ask hbase id ▸ .waits
  | turn id =>
    change p.Outcome _ (p.turn id)
    unfold turn
    split
    · next hturn => exact .fetches hturn
    · next hturn => exact .early hturn
  | arrived id fetched =>
    change p.Outcome _ (p.arrived id fetched)
    unfold arrived
    split
    · next hworks => cases fetched with
      | ok password => exact .brought hworks
      | error e => exact .failed hworks
    · next hworks => exact .late hworks
  | dropped id => exact .dropped

theorem given?_eq (hbase : p.base = some base) (password : String) : p.given? password =
    if p.applied = some password then none else some (base.withPassword password) := by
  rw [given?, hbase]
  rfl

theorem install_eq (hbase : p.base = some base) (password : String) : p.install password =
    if p.applied = some password then p
    else { p with current := base.withPassword password, applied := some password } := by
  rw [install, given?_eq hbase]
  by_cases h : p.applied = some password
  · rw [if_pos h, if_pos h]
  · rw [if_neg h, if_neg h]

theorem base_step (hbase : p.base = some base) (e : Event) : (p.step e).1.base = some base := by
  have ho := outcome_step hbase e
  generalize p.step e = s at *
  cases ho with
  | @brought id password hworks =>
    change (p.install password).base = some base
    rw [install_eq hbase]
    split
    · exact hbase
    · exact hbase
  | _ => exact hbase

/-- An event enters the gate, starts behind it, leaves it or lets it be. -/
theorem gate_step (hbase : p.base = some base) (e : Event) : p.gate.Step (p.step e).1.gate := by
  have ho := outcome_step hbase e
  generalize p.step e = s at *
  cases ho with
  | waits => exact .enter _
  | fetches hturn => exact .start _ hturn
  | early hturn => exact .stay
  | brought hworks => exact .leave _
  | failed hworks => exact .leave _
  | late hworks => exact .stay
  | dropped => exact .leave _

/-- A call works from its turn until its fetch is over. -/
theorem works_step (hbase : p.base = some base) (e : Event) (id : CallId) :
    (p.step e).1.gate.works id = true ↔
      (e = .turn id ∧ (p.step e).2 = .fetches) ∨
        (p.gate.works id = true ∧ ¬ e.ends? = some id) := by
  have ho := outcome_step hbase e
  generalize p.step e = s at *
  cases ho with
  | waits => simp [Event.ends?]
  | fetches hturn => simp [Event.ends?]
  | early hturn => simp [Event.ends?]
  | brought hworks => simp [Event.ends?]
  | failed hworks => simp [Event.ends?]
  | late hworks =>
    simp only [Event.ends?, reduceCtorEq, false_and, false_or]
    exact ⟨fun h => ⟨h, fun he => hworks (Option.some.inj he ▸ h)⟩, And.left⟩
  | dropped => simp [Event.ends?]

/-- A fetch begins in the turn of a call, whatever is installed. -/
theorem fetches_iff (hbase : p.base = some base) {e : Event} : (p.step e).2 = .fetches ↔
    ∃ id, e = .turn id ∧ p.gate.mayStart id = true := by
  constructor
  · intro h
    have ho := outcome_step hbase e
    generalize p.step e = s at *
    cases ho with
    | fetches hturn => exact ⟨_, rfl, hturn⟩
    | _ => cases h
  · rintro ⟨id, rfl, hturn⟩
    simp [step, turn, hturn]

theorem brings?_eq_some_iff {e : Event} {password : String} : p.brings? e = some password ↔
    ∃ id, e = .arrived id (.ok password) ∧ p.gate.works id = true := by
  constructor
  · intro h
    unfold brings? at h
    split at h
    · split at h
      · next hworks =>
        cases h
        exact ⟨_, rfl, hworks⟩
      · cases h
    · cases h
  · rintro ⟨id, rfl, hworks⟩
    exact if_pos hworks

/-- The password that a fetch brings is the one installed then, also if it was before. -/
theorem applied_step (hbase : p.base = some base) (e : Event) :
    (p.step e).1.applied = (p.brings? e).or p.applied := by
  have ho := outcome_step hbase e
  generalize p.step e = s at *
  cases ho with
  | @brought id password hworks =>
    change (p.install password).applied = _
    rw [install_eq hbase, brings?, if_pos hworks, Option.some_or]
    split
    · next hsame => exact hsame
    · rfl
  | late hworks => cases hb : p.brings? _ with
    | none => rfl
    | some password =>
      obtain ⟨id, he, hworks'⟩ := brings?_eq_some_iff.1 hb
      cases he
      exact absurd hworks' hworks
  | _ => rfl

/-- Other options are in place only if the pool is given them. -/
theorem current_step (hbase : p.base = some base) (e : Event) :
    (p.step e).1.current = (p.replaces? e).getD p.current := by
  have ho := outcome_step hbase e
  generalize p.step e = s at *
  cases ho with
  | @brought id password hworks =>
    change (p.install password).current = _
    rw [install_eq hbase, replaces?, brings?, if_pos hworks, Option.bind_some, given?_eq hbase]
    split
    · rfl
    · rfl
  | late hworks => cases hb : p.brings? _ with
    | none => rw [replaces?, hb]; rfl
    | some password =>
      obtain ⟨id, he, hworks'⟩ := brings?_eq_some_iff.1 hb
      cases he
      exact absurd hworks' hworks
  | _ => rfl

theorem replaces?_eq_some_iff (hbase : p.base = some base) {e : Event}
    {options : ConnectOptions} : p.replaces? e = some options ↔
      ∃ password, p.brings? e = some password ∧ p.applied ≠ some password ∧
        options = base.withPassword password := by
  rw [replaces?, Option.bind_eq_some_iff]
  refine exists_congr fun password => and_congr_right fun _ => ?_
  rw [given?_eq hbase]
  by_cases h : p.applied = some password
  · simp [h]
  · simp [h, eq_comm]

/-- The options are those that passwords are added to, with the password that was applied. -/
structure Installed (base : ConnectOptions) (p : TenantPool) : Prop where
  base_eq : p.base = some base
  current_eq : p.current = p.applied.elim base base.withPassword

theorem Installed.step (hp : Installed base p) (e : Event) : Installed base (p.step e).1 := by
  refine ⟨base_step hp.base_eq e, ?_⟩
  have ho := outcome_step hp.base_eq e
  generalize p.step e = s at *
  cases ho with
  | @brought id password hworks =>
    change (p.install password).current = (p.install password).applied.elim base base.withPassword
    rw [install_eq hp.base_eq]
    split
    · exact hp.current_eq
    · rfl
  | _ => exact hp.current_eq

/-- The options have a password that was applied, or the one that they had before any was. -/
theorem Installed.current_eq_iff (hp : Installed base p) {password : String} :
    p.current = base.withPassword password ↔
      p.applied = some password ∨ p.applied = none ∧ base.password = some password := by
  rw [hp.current_eq]
  cases p.applied with
  | none => simp [eq_withPassword_iff]
  | some old => simpa using (withPassword_injective base).eq_iff

/-! ## Any events -/

section Run
variable (hp : Installed base p) (h : List Event)
include hp

theorem installed_after : Installed base (p.after h) := by
  induction h using List.reverseRecOn with
  | nil => exact hp
  | append_singleton h e ih =>
    rw [after_concat]
    exact ih.step e

theorem sound_after (hgate : p.gate.Sound) : (p.after h).gate.Sound := by
  induction h using List.reverseRecOn with
  | nil => exact hgate
  | append_singleton h e ih =>
    rw [after_concat]
    exact ih.step (gate_step (installed_after hp h).base_eq e)

/-- The calls at work are those whose fetches are on their way. -/
theorem works_after (hgate : ∀ id, ¬ p.gate.works id = true) (id : CallId) :
    (p.after h).gate.works id = true ↔ p.Fetching h id := by
  refine since_iff (fun h => (p.after h).gate.works id = true) (hgate id) (fun h e => ?_) h
  rw [after_concat, works_step (installed_after hp h).base_eq]
  rfl

/-- What is applied is what the last fetch brought. -/
theorem applied_after : (p.after h).applied = (p.fetched h).getLast?.or p.applied := by
  induction h using List.reverseRecOn with
  | nil => rfl
  | append_singleton h e ih =>
    rw [after_concat, applied_step (installed_after hp h).base_eq, fetched, story_concat]
    cases (p.after h).brings? e with
    | none => simpa [fetched] using ih
    | some password => simp

theorem applied_eq (hfirst : p.applied = none) :
    (p.after h).applied = (p.fetched h).getLast? := by
  rw [applied_after hp h, hfirst, Option.or_none]

/-- The options that the pool was given last have the password that is applied. -/
theorem given_after (hfirst : p.applied = none) :
    (p.replaced h).getLast? = (p.after h).applied.map base.withPassword := by
  induction h using List.reverseRecOn with
  | nil =>
    show none = p.applied.map base.withPassword
    rw [hfirst]
    rfl
  | append_singleton h e ih =>
    have hbase := (installed_after hp h).base_eq
    rw [after_concat, applied_step hbase, replaced, story_concat, ← replaced, List.getLast?_append,
      ih, replaces?]
    cases (p.after h).brings? e with
    | none => simp
    | some password =>
      rw [Option.bind_some, given?_eq hbase]
      by_cases hsame : (p.after h).applied = some password
      · simp [hsame]
      · simp [hsame]

/-- **The options follow the fetched passwords**, and a password that is fetched again at once is
installed once. -/
theorem replaced_eq (hfirst : p.applied = none) :
    p.replaced h = ((p.fetched h).destutter (· ≠ ·)).map base.withPassword := by
  induction h using List.reverseRecOn with
  | nil => rfl
  | append_singleton h e ih =>
    rw [replaced, fetched, story_concat, story_concat, ← replaced, ← fetched, ih, replaces?]
    cases (p.after h).brings? e with
    | none => simp
    | some password =>
      rw [Option.bind_some, given?_eq (installed_after hp h).base_eq, applied_eq hp h hfirst,
        Option.toList_some, destutter_concat, List.map_append]
      split
      · rfl
      · rfl

end Run

/-! ## Connected pools -/

section Connect
variable {s : PoolSettings} {tenant : TenantId} {defaults : ConnectOptions}

theorem eq_of_connect (hp : connect s tenant defaults = .ok p) :
    p = ⟨some (s.options tenant defaults), s.options tenant defaults, s.limits, none, .clear⟩ := by
  unfold connect at hp
  split at hp
  · cases hp
  · exact (Except.ok.inj hp).symm

theorem installed_of_connect (hp : connect s tenant defaults = .ok p) :
    Installed (s.options tenant defaults) p := by
  rw [eq_of_connect hp]
  exact ⟨rfl, rfl⟩

theorem sound_of_connect (hp : connect s tenant defaults = .ok p) :
    p.gate.Sound ∧ (∀ id, ¬ p.gate.works id = true) ∧ p.applied = none := by
  rw [eq_of_connect hp]
  exact ⟨Gate.sound_clear, fun _ => nofun, rfl⟩

end Connect

/-- What holds of a pool after any events, if it was connected with some options. -/
structure Installs (base : ConnectOptions) (p : TenantPool) (h : List Event) : Prop where
  /-- One call fetches at a time. -/
  alone : ∀ a b, p.Fetching h a → p.Fetching h b → a = b
  /-- A call comes to the gate, -/
  enters : ∀ id, p.reply h (.ask id) = .waits ∧
    ((p.after (h ++ [.ask id])).gate.stage? id).isSome
  /-- where one call may start or fetches as long as any is there. -/
  moves : ∀ id, ((p.after h).gate.stage? id).isSome →
    ∃ next, (p.after h).gate.mayStart next = true ∨ p.Fetching h next
  /-- A call begins to fetch in its turn, -/
  fetches : ∀ e, p.reply h e = .fetches ↔ ∃ id, e = .turn id ∧ (p.after h).gate.mayStart id = true
  /-- and its password counts if it has not given up before. -/
  brings : ∀ e password, (p.after h).brings? e = some password ↔
    ∃ id, e = .arrived id (.ok password) ∧ p.Fetching h id
  /-- The password applied is the one fetched last. -/
  applied : (p.after h).applied = (p.fetched h).getLast?
  /-- The options in place are those given last, or the first ones, -/
  current : (p.after h).current = (p.replaced h).getLast?.getD base
  /-- and those given last have the password that is applied. -/
  given : ∀ password, (p.after h).applied = some password ↔
    (p.replaced h).getLast? = some (base.withPassword password)
  /-- A password is the one applied just if the options in place have it and it was fetched last. -/
  shown : ∀ password, (p.after h).applied = some password ↔
    (p.after h).current = base.withPassword password ∧ (p.fetched h).getLast? = some password
  /-- The options in place tell it by themselves, unless the first ones had the password: -/
  told : ∀ password, base.password ≠ some password →
    ((p.after h).applied = some password ↔ (p.after h).current = base.withPassword password)
  /-- this one is also there as long as none is applied. -/
  first : ∀ password, base.password = some password →
    ((p.after h).applied = some password ∨ (p.after h).applied = none ↔
      (p.after h).current = base.withPassword password)
  /-- An event gives the pool options just if it brings a password that is not the one applied. -/
  replaces : ∀ e options, (p.after h).replaces? e = some options ↔
    ∃ password, (p.after h).brings? e = some password ∧ (p.after h).applied ≠ some password ∧
      options = base.withPassword password
  /-- The options in place change with these alone. -/
  changes : ∀ e, (p.after (h ++ [e])).current =
    ((p.after h).replaces? e).getD (p.after h).current
  /-- All options given, in order, are those with the fetched passwords, of which one that comes
  again at once counts once. -/
  replaced : p.replaced h = ((p.fetched h).destutter (· ≠ ·)).map base.withPassword
  /-- A call is told that its fetch has succeeded, -/
  succeeds : ∀ id password, p.Fetching h id →
    p.reply h (.arrived id (.ok password)) = .answered (.ok ())
  /-- or why it has failed, and then nothing is installed. -/
  fails : ∀ id e, p.Fetching h id →
    p.reply h (.arrived id (.error e)) =
        .answered (.error (.connection ("get password: " ++ e.message))) ∧
      (p.after (h ++ [.arrived id (.error e)])).current = (p.after h).current ∧
      (p.after (h ++ [.arrived id (.error e)])).applied = (p.after h).applied

theorem installs_of_installed (hp : Installed base p) (hfirst : p.applied = none)
    (hgate : p.gate.Sound) (hidle : ∀ id, ¬ p.gate.works id = true) (h : List Event) :
    p.Installs base h := by
  have hnow := installed_after hp h
  have hsound := sound_after hp h hgate
  have hworks := works_after hp h hidle
  have hgiven := given_after hp h hfirst
  have hlast := applied_eq hp h hfirst
  refine
    { alone := fun a b ha hb => hsound.eq_of_works ((hworks a).2 ha) ((hworks b).2 hb)
      enters := fun id => ?_
      moves := fun id hid => ?_
      fetches := fun e => fetches_iff hnow.base_eq
      brings := fun e password => ?_
      applied := hlast
      current := ?_
      given := fun password => ?_
      shown := fun password => ?_
      told := fun password hother => ?_
      first := fun password hown => ?_
      replaces := fun e options => replaces?_eq_some_iff hnow.base_eq
      changes := fun e => ?_
      replaced := replaced_eq hp h hfirst
      succeeds := fun id password hid => ?_
      fails := fun id e hid => ?_ }
  · rw [after_concat, reply, step_ask hnow.base_eq]
    exact ⟨rfl, Gate.isSome_stage?_enter _ id⟩
  · obtain ⟨next, hnext⟩ := hsound.exists_next hid
    exact ⟨next, hnext.imp_right (hworks next).1⟩
  · rw [brings?_eq_some_iff]
    exact exists_congr fun id => and_congr_right fun _ => hworks id
  · rw [hnow.current_eq, hgiven]
    cases (p.after h).applied with
    | none => rfl
    | some password => rfl
  · rw [hgiven, Option.map_eq_some_iff]
    simp only [(withPassword_injective base).eq_iff, exists_eq_right]
  · rw [hnow.current_eq_iff, ← hlast]
    exact ⟨fun happlied => ⟨.inl happlied, happlied⟩, And.right⟩
  · simp [hnow.current_eq_iff, hother]
  · simp [hnow.current_eq_iff, hown]
  · rw [after_concat, current_step hnow.base_eq]
  · rw [reply, step, arrived, if_pos ((hworks id).2 hid)]
  · rw [after_concat, reply, step, arrived, if_pos ((hworks id).2 hid)]
    exact ⟨rfl, rfl, rfl⟩

/-! ## Pools from elsewhere -/

/-- What holds of a pool from elsewhere after any events. -/
structure Untouched (p : TenantPool) (h : List Event) : Prop where
  /-- It stays as it is, -/
  same : p.after h = p
  /-- nothing is fetched for it, -/
  idle : ∀ e, p.reply h e ≠ .fetches
  /-- it is given no options, -/
  replaced : p.replaced h = []
  /-- and a call has nothing to wait for. -/
  ready : ∀ id, p.reply h (.ask id) = .answered (.ok ())

theorem step_external (current : ConnectOptions) (limits : PoolLimits) (e : Event) :
    ((external current limits).step e).1 = external current limits ∧
      ((external current limits).step e).2 ≠ .fetches ∧
      (external current limits).replaces? e = none := by
  cases e with
  | ask id => exact ⟨rfl, nofun, rfl⟩
  | turn id => exact ⟨rfl, nofun, rfl⟩
  | arrived id fetched =>
    refine ⟨rfl, nofun, ?_⟩
    cases fetched with
    | ok password => rfl
    | error e => rfl
  | dropped id => exact ⟨rfl, nofun, rfl⟩

theorem after_external (current : ConnectOptions) (limits : PoolLimits) (h : List Event) :
    (external current limits).after h = external current limits := by
  induction h using List.reverseRecOn with
  | nil => rfl
  | append_singleton h e ih =>
    rw [after_concat, ih]
    exact (step_external current limits e).1

theorem untouched_external (current : ConnectOptions) (limits : PoolLimits) (h : List Event) :
    (external current limits).Untouched h where
  same := after_external current limits h
  idle e := by
    rw [reply, after_external]
    exact (step_external current limits e).2.1
  replaced := by
    induction h using List.reverseRecOn with
    | nil => rfl
    | append_singleton h e ih =>
      rw [TenantPool.replaced, story_concat, ← TenantPool.replaced, ih, after_external,
        (step_external current limits e).2.2]
      rfl
  ready id := by
    rw [reply, after_external]
    rfl

/-- **A pool connects with the password that was fetched last**, whatever the driver sets by itself.
One call fetches at a time; the pool is given options for a password that is news and for nothing
else. A pool from elsewhere keeps its options, and nothing is fetched for it. -/
theorem newest_installed {s : PoolSettings} {tenant : TenantId} {defaults : ConnectOptions}
    {p : TenantPool} (hp : connect s tenant defaults = .ok p) (h : List Event) :
    p.Installs (s.options tenant defaults) h ∧
      ∀ current limits, (external current limits).Untouched h := by
  obtain ⟨hgate, hidle, hfirst⟩ := sound_of_connect hp
  exact ⟨installs_of_installed (installed_of_connect hp) hfirst hgate hidle h,
    fun current limits => untouched_external current limits h⟩

/-- Two calls fetch one after the other, and a third one is given up while it fetches. -/
def rotation : List Event :=
  [.ask 0, .ask 1, .turn 0, .arrived 0 (.ok "old"), .turn 1, .arrived 1 (.ok "new"), .ask 2,
   .turn 2, .dropped 2, .arrived 2 (.ok "lost")]

/-- What a driver sets that finds a password of its own. -/
def preset : ConnectOptions := ConnectOptions.unset.withPassword "old"

theorem newest_installed_rotation :
    ∃ p, connect .standard ⟨"acme", by decide⟩ preset = .ok p ∧
      p.fetched rotation = ["old", "new"] ∧ (p.after rotation).applied = some "new" ∧
      p.replaced rotation = ["old", "new"].map
        (PoolSettings.standard.options ⟨"acme", by decide⟩ preset).withPassword := by
  have hp : connect .standard ⟨"acme", by decide⟩ preset = .ok _ := rfl
  obtain ⟨hinstalls, -⟩ := newest_installed hp rotation
  exact ⟨_, hp, rfl, hinstalls.applied, hinstalls.replaced⟩

end TenantPool

end Entitlement
