import Entitlement.Credential.Provider
import Entitlement.Proofs.Gate
import Mathlib.Data.List.Induction

/-!
# Tokens are fetched by one call at a time, and only when they are needed

* `Provider.after`, `Provider.reply` : the provider after any events, and what the next event
  brings to its call;
* `Provider.Fetching` : a call's fetch is on its way, read off the events alone;
* `Provider.cached_step`, `works_step`, `fetches_iff`, `answered_cases` : what one event does;
* `Provider.works_after`, `cached_after`, `cached_append` : what any events do;
* `Provider.exists_fetches` : a call without a valid token gets to fetch one;
* `Provider.SingleFlight` : who fetches, what is cached and what calls are told, together;
* `Provider.single_flight` : **one call fetches at a time, and only for want of a valid token.**
-/

namespace Entitlement.Provider

/-! ## Events -/

namespace Event

/-- The call that the event is about. -/
def id : Event → CallId
  | ask id _ | turn id _ | arrived id _ | dropped id => id

/-- What the call reads on its clock. -/
def now? : Event → Option Moment
  | ask _ now | turn _ now => some now
  | _ => none

/-- The call whose fetch is over, if it has one. -/
def ends? : Event → Option CallId
  | arrived id _ | dropped id => some id
  | _ => none

end Event

def after (h : List Event) : Provider := h.foldl (fun p e => (p.step e).1) empty

/-- What comes of an event after others. -/
def reply (h : List Event) (e : Event) : Progress String := ((after h).step e).2

/-- The call began a fetch, which has neither come back nor been given up. -/
def Fetching (h : List Event) (id : CallId) : Prop :=
  ∃ before now since, h = before ++ .turn id now :: since ∧
    reply before (.turn id now) = .fetches ∧ ∀ e ∈ since, e.ends? ≠ some id

theorem after_concat (h : List Event) (e : Event) : after (h ++ [e]) = ((after h).step e).1 := by
  rw [after, List.foldl_append]
  rfl

theorem fetching_iff {h : List Event} {id : CallId} : Fetching h id ↔
    Since (fun before e => ∃ now, e = .turn id now ∧ reply before e = .fetches)
      (fun e => e.ends? = some id) h := by
  constructor
  · rintro ⟨before, now, since, hh, hbegan, hsince⟩
    exact ⟨before, _, since, hh, ⟨now, rfl, hbegan⟩, hsince⟩
  · rintro ⟨before, _, since, hh, ⟨now, rfl, hbegan⟩, hsince⟩
    exact ⟨before, now, since, hh, hbegan, hsince⟩

theorem fetching_concat {h : List Event} {e : Event} {id : CallId} :
    Fetching (h ++ [e]) id ↔
      (∃ now, e = .turn id now ∧ reply h e = .fetches) ∨ (Fetching h id ∧ e.ends? ≠ some id) := by
  rw [fetching_iff, since_concat, fetching_iff]

/-! ## One event -/

variable {p : Provider} {now : Moment}

theorem valid?_eq_some_iff {token : String} : p.valid? now = some token ↔
    ∃ c, p.cached = some c ∧ c.token = token ∧ c.expiry.isAfter now = true := by
  unfold valid?
  cases p.cached with
  | none => simp
  | some c => cases h : c.expiry.isAfter now <;> simp [h]

theorem valid?_eq_none_iff : p.valid? now = none ↔
    ∀ c, p.cached = some c → c.expiry.isAfter now = false := by
  unfold valid?
  cases p.cached with
  | none => simp
  | some c => cases h : c.expiry.isAfter now <;> simp [h]

theorem reading_eq_ok_iff {fetched : Except Error String} {c : CachedToken} :
    reading fetched = .ok c ↔ fetched = .ok c.token ∧ Token.expiry c.token = .ok c.expiry := by
  cases fetched with
  | error e => exact iff_of_false nofun nofun
  | ok token =>
    cases hexpiry : Token.expiry token with
    | error e =>
      have hreading : reading (.ok token) = .error e := by
        simp only [reading, bind, Except.bind, hexpiry]
      refine iff_of_false (fun h => absurd (hreading.symm.trans h) nofun) ?_
      rintro ⟨htoken, hc⟩
      cases htoken
      exact absurd (hexpiry.symm.trans hc) nofun
    | ok expiry =>
      have hreading : reading (.ok token) = .ok ⟨token, expiry⟩ := by
        simp only [reading, bind, Except.bind, hexpiry, pure, Except.pure]
      rw [hreading]
      constructor
      · intro h
        cases h
        exact ⟨rfl, hexpiry⟩
      · rintro ⟨htoken, hc⟩
        cases htoken
        rw [hexpiry] at hc
        cases hc
        rfl

/-- All that an event can do: what becomes of the provider, and what the call is told. -/
inductive Outcome (p : Provider) : Event → Provider × Progress String → Prop
  | told {id now token} (hv : p.valid? now = some token) :
    Outcome p (.ask id now) (p, .answered (.ok token))
  | waits {id now} (hv : p.valid? now = none) :
    Outcome p (.ask id now) ({ p with gate := p.gate.enter id }, .waits)
  | spared {id now token} (hturn : p.gate.mayStart id = true) (hv : p.valid? now = some token) :
    Outcome p (.turn id now) ({ p with gate := p.gate.leave id }, .answered (.ok token))
  | fetches {id now} (hturn : p.gate.mayStart id = true) (hv : p.valid? now = none) :
    Outcome p (.turn id now) ({ p with gate := p.gate.start id }, .fetches)
  | early {id now} (hturn : ¬ p.gate.mayStart id = true) : Outcome p (.turn id now) (p, .ignored)
  | refreshed {id fetched c} (hworks : p.gate.works id = true) (hc : reading fetched = .ok c) :
    Outcome p (.arrived id fetched) (⟨some c, p.gate.leave id⟩, .answered (.ok c.token))
  | failed {id fetched e} (hworks : p.gate.works id = true) (he : reading fetched = .error e) :
    Outcome p (.arrived id fetched) ({ p with gate := p.gate.leave id }, .answered (.error e))
  | late {id fetched} (hworks : ¬ p.gate.works id = true) :
    Outcome p (.arrived id fetched) (p, .ignored)
  | dropped {id} : Outcome p (.dropped id) ({ p with gate := p.gate.leave id }, .ignored)

theorem outcome_step (p : Provider) (e : Event) : p.Outcome e (p.step e) := by
  cases e with
  | ask id now =>
    change p.Outcome _ (p.ask id now)
    unfold ask
    cases hv : p.valid? now with
    | some token => exact .told hv
    | none => exact .waits hv
  | turn id now =>
    change p.Outcome _ (p.turn id now)
    unfold turn
    split
    · next hturn =>
      cases hv : p.valid? now with
      | some token => exact .spared hturn hv
      | none => exact .fetches hturn hv
    · next hturn => exact .early hturn
  | arrived id fetched =>
    change p.Outcome _ (p.arrived id fetched)
    unfold arrived
    split
    · next hworks =>
      cases hr : reading fetched with
      | ok c => exact .refreshed hworks hr
      | error e => exact .failed hworks hr
    · next hworks => exact .late hworks
  | dropped id => exact .dropped

theorem Outcome.step_eq {e : Event} {s : Provider × Progress String} (h : p.Outcome e s) :
    p.step e = s := by
  cases h with
  | told hv => simp [step, ask, hv]
  | waits hv => simp [step, ask, hv]
  | spared hturn hv => simp [step, turn, hturn, hv]
  | fetches hturn hv => simp [step, turn, hturn, hv]
  | early hturn => simp [step, turn, hturn]
  | refreshed hworks hc => simp [step, arrived, hworks, hc]
  | failed hworks he => simp [step, arrived, hworks, he]
  | late hworks => simp [step, arrived, hworks]
  | dropped => rfl

/-- An event enters the gate, starts behind it, leaves it or lets it be. -/
theorem gate_step (p : Provider) (e : Event) : p.gate.Step (p.step e).1.gate := by
  have ho := outcome_step p e
  generalize p.step e = s at *
  cases ho with
  | told hv => exact .stay
  | waits hv => exact .enter _
  | spared hturn hv => exact .leave _
  | fetches hturn hv => exact .start _ hturn
  | early hturn => exact .stay
  | refreshed hworks hc => exact .leave _
  | failed hworks he => exact .leave _
  | late hworks => exact .stay
  | dropped => exact .leave _

/-- The cache takes what a fetch of its call brought, and nothing else. -/
theorem cached_step (p : Provider) (e : Event) : (p.step e).1.cached = p.cached ∨
    ∃ id fetched c, e = .arrived id fetched ∧ p.gate.works id = true ∧ reading fetched = .ok c ∧
      (p.step e).1.cached = some c := by
  have ho := outcome_step p e
  generalize p.step e = s at *
  cases ho with
  | refreshed hworks hc => exact .inr ⟨_, _, _, rfl, hworks, hc, rfl⟩
  | _ => exact .inl rfl

/-- A fetch begins in the turn of a call that finds no valid token. -/
theorem fetches_iff {e : Event} : (p.step e).2 = .fetches ↔
    ∃ id now, e = .turn id now ∧ p.gate.mayStart id = true ∧ p.valid? now = none := by
  constructor
  · intro h
    have ho := outcome_step p e
    generalize p.step e = s at *
    cases ho with
    | fetches hturn hv => exact ⟨_, _, rfl, hturn, hv⟩
    | _ => cases h
  · rintro ⟨id, now, rfl, hturn, hv⟩
    rw [Outcome.step_eq (.fetches hturn hv)]

/-- A call is told a token that is valid on its clock, or what its own fetch came to. -/
theorem answered_cases {e : Event} {r : Except Error String} (h : (p.step e).2 = .answered r) :
    (∃ id now token, (e = .ask id now ∨ e = .turn id now) ∧ p.valid? now = some token ∧
      r = .ok token) ∨
    ∃ id fetched, e = .arrived id fetched ∧ p.gate.works id = true ∧
      r = (reading fetched).map CachedToken.token := by
  have ho := outcome_step p e
  generalize p.step e = s at *
  cases ho with
  | told hv => cases h; exact .inl ⟨_, _, _, .inl rfl, hv, rfl⟩
  | spared hturn hv => cases h; exact .inl ⟨_, _, _, .inr rfl, hv, rfl⟩
  | refreshed hworks hc => cases h; exact .inr ⟨_, _, rfl, hworks, by rw [hc]; rfl⟩
  | failed hworks he => cases h; exact .inr ⟨_, _, rfl, hworks, by rw [he]; rfl⟩
  | _ => cases h

/-- A call works from the turn in which it begins to fetch until the fetch is over. -/
theorem works_step (p : Provider) (e : Event) (id : CallId) : (p.step e).1.gate.works id = true ↔
    (∃ now, e = .turn id now ∧ (p.step e).2 = .fetches) ∨
      (p.gate.works id = true ∧ e.ends? ≠ some id) := by
  have ho := outcome_step p e
  generalize p.step e = s at *
  cases ho with
  | told hv => simp [Event.ends?]
  | waits hv => simp [Event.ends?]
  | spared hturn hv =>
    -- the call that leaves was waiting, so nobody stops working
    have hwaits := Gate.not_works_of_mayStart hturn
    simp only [Gate.works_leave, Event.ends?]
    constructor
    · exact fun h => .inr ⟨h.1, (Option.some_ne_none _).symm⟩
    · rintro (⟨_, -, h⟩ | ⟨h, -⟩)
      · cases h
      · exact ⟨h, fun he => hwaits (he ▸ h)⟩
  | fetches hturn hv => simp [Event.ends?]
  | early hturn => simp [Event.ends?]
  | refreshed hworks hc => simp [Event.ends?]
  | failed hworks he => simp [Event.ends?]
  | late hworks =>
    simp only [Event.ends?]
    constructor
    · exact fun h => .inr ⟨h, fun he => hworks (Option.some.inj he ▸ h)⟩
    · rintro (⟨_, h, -⟩ | ⟨h, -⟩)
      · cases h
      · exact h
  | dropped => simp [Event.ends?]

/-- An event moves its own call only. -/
theorem stage?_step (p : Provider) {e : Event} {other : CallId} (h : other ≠ e.id) :
    (p.step e).1.gate.stage? other = p.gate.stage? other := by
  have ho := outcome_step p e
  generalize p.step e = s at *
  cases ho with
  | told hv => rfl
  | waits hv => exact (Gate.stage?_enter _ _ _).trans (if_neg fun he => h he.1)
  | spared hturn hv => exact (Gate.stage?_leave _ _ _).trans (if_neg h)
  | fetches hturn hv => exact (Gate.stage?_start _ _ _).trans (if_neg h)
  | early hturn => rfl
  | refreshed hworks hc => exact (Gate.stage?_leave _ _ _).trans (if_neg h)
  | failed hworks he => exact (Gate.stage?_leave _ _ _).trans (if_neg h)
  | late hworks => rfl
  | dropped => exact (Gate.stage?_leave _ _ _).trans (if_neg h)

/-! ## Any events -/

variable (h : List Event)

theorem sound_after : (after h).gate.Sound := by
  induction h using List.reverseRecOn with
  | nil => exact Gate.sound_clear
  | append_singleton h e ih =>
    rw [after_concat]
    exact ih.step (gate_step _ e)

/-- The calls at work are those whose fetches are on their way. -/
theorem works_after (id : CallId) : (after h).gate.works id = true ↔ Fetching h id := by
  induction h using List.reverseRecOn with
  | nil => exact iff_of_false nofun (mt fetching_iff.1 not_since_nil)
  | append_singleton h e ih =>
    rw [after_concat, works_step, fetching_concat, ih]
    rfl

/-- What is cached was brought by a fetch, with the expiry that it names itself. -/
theorem cached_after {c : CachedToken} (hc : (after h).cached = some c) :
    Token.expiry c.token = .ok c.expiry ∧
      ∃ before id since, h = before ++ .arrived id (.ok c.token) :: since ∧
        Fetching before id := by
  induction h using List.reverseRecOn with
  | nil => cases hc
  | append_singleton h e ih =>
    rw [after_concat] at hc
    rcases cached_step (after h) e with hsame | ⟨id, fetched, c', rfl, hworks, hreading, hnew⟩
    · obtain ⟨hexpiry, before, id, since, rfl, hfetching⟩ := ih (hsame ▸ hc)
      exact ⟨hexpiry, before, id, since ++ [e], by simp, hfetching⟩
    · obtain rfl : c' = c := Option.some.inj (hnew.symm.trans hc)
      obtain ⟨rfl, hexpiry⟩ := reading_eq_ok_iff.1 hreading
      exact ⟨hexpiry, h, id, [], rfl, (works_after h id).1 hworks⟩

/-- While nobody fetches and no call's clock has reached the expiry, the token stays and nobody
begins to fetch. The induction is on what happens meanwhile. -/
theorem cached_append {later : List Event} {c : CachedToken} (hc : (after h).cached = some c)
    (hidle : ∀ id, ¬ Fetching h id)
    (hlater : ∀ e ∈ later, ∀ now, e.now? = some now → c.expiry.isAfter now = true) :
    (after (h ++ later)).cached = some c ∧ ∀ id, ¬ Fetching (h ++ later) id := by
  induction later using List.reverseRecOn with
  | nil => exact (List.append_nil h).symm ▸ ⟨hc, hidle⟩
  | append_singleton later e ih =>
    obtain ⟨hcached, hnobody⟩ := ih fun e he => hlater e (List.mem_append_left _ he)
    rw [← List.append_assoc, after_concat]
    refine ⟨?_, fun id hfetching => ?_⟩
    · rcases cached_step (after (h ++ later)) e with hsame | ⟨id, fetched, c', -, hworks, -⟩
      · exact hsame.trans hcached
      · exact absurd ((works_after _ id).1 hworks) (hnobody id)
    · rcases fetching_concat.1 hfetching with ⟨now, he, hbegan⟩ | ⟨hbefore, -⟩
      · obtain ⟨_, now', he', -, hnone⟩ := fetches_iff.1 hbegan
        have hvalid := hlater e (by simp) now' (he' ▸ rfl)
        exact absurd (valid?_eq_none_iff.1 hnone c hcached) (by simp [hvalid])
      · exact hnobody id hbefore

/-- Nobody waits for what is there: a valid token answers a call as it comes and in its turn. -/
theorem told_of_cached {c : CachedToken} {now : Moment} (hc : (after h).cached = some c)
    (hvalid : c.expiry.isAfter now = true) (id : CallId) :
    reply h (.ask id now) = .answered (.ok c.token) ∧
      ((after h).gate.mayStart id = true → reply h (.turn id now) = .answered (.ok c.token)) := by
  have hv : (after h).valid? now = some c.token := valid?_eq_some_iff.2 ⟨c, hc, rfl, hvalid⟩
  refine ⟨?_, fun hturn => ?_⟩
  · rw [reply, Outcome.step_eq (.told hv)]
  · rw [reply, Outcome.step_eq (.spared hturn hv)]

/-- What a fetch brings answers its call, and is cached if it is a token with an expiry. -/
theorem arrived_of_fetching {id : CallId} (fetched : Except Error String)
    (hfetching : Fetching h id) :
    reply h (.arrived id fetched) = .answered ((reading fetched).map CachedToken.token) ∧
      (after (h ++ [.arrived id fetched])).cached =
        match reading fetched with
        | .ok c => some c
        | .error _ => (after h).cached := by
  have hworks := (works_after h id).2 hfetching
  rw [after_concat, reply]
  cases hr : reading fetched with
  | ok c =>
    rw [Outcome.step_eq (.refreshed hworks hr)]
    exact ⟨rfl, rfl⟩
  | error e =>
    rw [Outcome.step_eq (.failed hworks hr)]
    exact ⟨rfl, rfl⟩

/-- A call that finds no valid token comes to the gate. -/
theorem asked_of_none {id : CallId} {now : Moment} (hv : (after h).valid? now = none) :
    reply h (.ask id now) = .waits ∧
      ((after (h ++ [.ask id now])).gate.stage? id).isSome := by
  rw [after_concat, reply, Outcome.step_eq (.waits hv)]
  exact ⟨rfl, Gate.isSome_stage?_enter _ id⟩

/-- Calls that are given up leave the gate, and that is all. -/
theorem after_dropped (gone : List CallId) :
    (after (h ++ gone.map .dropped)).cached = (after h).cached ∧
      ∀ other, (after (h ++ gone.map .dropped)).gate.stage? other =
        if other ∈ gone then none else (after h).gate.stage? other := by
  induction gone generalizing h with
  | nil => simp
  | cons id gone ih =>
    obtain ⟨hcached, hstage⟩ := ih (h ++ [.dropped id])
    rw [List.map_cons, List.append_cons]
    refine ⟨hcached.trans (by rw [after_concat]; rfl), fun other => ?_⟩
    have hleave : (after (h ++ [.dropped id])).gate.stage? other =
        if other = id then none else (after h).gate.stage? other := by
      rw [after_concat]
      exact Gate.stage?_leave _ _ _
    rw [hstage, hleave]
    by_cases he : other = id
    · simp [he]
    · simp [he]

/-- A call that waits fetches once those at the gate before it are gone. -/
theorem exists_fetches {id : CallId} {now : Moment}
    (hid : (after h).gate.stage? id = some .waiting) (hv : (after h).valid? now = none) :
    ∃ gone : List CallId, id ∉ gone ∧
      reply (h ++ gone.map .dropped) (.turn id now) = .fetches := by
  have hline := (sound_after h).line
  let gone := (after h).gate.lock.ids.filter (· ≠ id)
  have hgone : id ∉ gone := by simp [gone]
  obtain ⟨hcached, hstage⟩ := after_dropped h gone
  have hturn : (after (h ++ gone.map .dropped)).gate.mayStart id = true := by
    refine (sound_after _).mayStart_of_alone ?_ fun other hother => ?_
    · rw [hstage, if_neg hgone, hid]
    · rw [hstage]
      split
      · rfl
      · next hout =>
        refine Option.not_isSome_iff_eq_none.1 fun hthere => hout ?_
        exact List.mem_filter.2 ⟨(hline other).1 hthere, decide_eq_true hother⟩
  have hnone : (after (h ++ gone.map .dropped)).valid? now = none := by
    rw [valid?_eq_none_iff, hcached, ← valid?_eq_none_iff]
    exact hv
  exact ⟨gone, hgone, fetches_iff.2 ⟨id, now, rfl, hturn, hnone⟩⟩

theorem told_cases {e : Event} {token : String} (he : reply h e = .answered (.ok token)) :
    (∃ id now c, (e = .ask id now ∨ e = .turn id now) ∧ (after h).cached = some c ∧
      c.token = token ∧ c.expiry.isAfter now = true) ∨
    ∃ id, e = .arrived id (.ok token) ∧ Fetching h id := by
  rcases answered_cases he with ⟨id, now, token', hask, hv, hr⟩ | ⟨id, fetched, rfl, hworks, hr⟩
  · cases hr
    obtain ⟨c, hc, htoken, hlater⟩ := valid?_eq_some_iff.1 hv
    exact .inl ⟨id, now, c, hask, hc, htoken, hlater⟩
  · cases hreading : reading fetched with
    | error e => rw [hreading] at hr; cases hr
    | ok c =>
      rw [hreading] at hr
      cases hr
      obtain ⟨rfl, -⟩ := reading_eq_ok_iff.1 hreading
      exact .inr ⟨id, rfl, (works_after h id).1 hworks⟩

theorem exists_failed {e : Event} {error : Error} (he : reply h e = .answered (.error error)) :
    ∃ id fetched, e = .arrived id fetched ∧ Fetching h id ∧ reading fetched = .error error := by
  rcases answered_cases he with ⟨id, now, token, -, -, hr⟩ | ⟨id, fetched, rfl, hworks, hr⟩
  · cases hr
  · refine ⟨id, fetched, rfl, (works_after h id).1 hworks, ?_⟩
    cases hreading : reading fetched with
    | error e => rw [hreading] at hr; cases hr; rfl
    | ok c => rw [hreading] at hr; cases hr

/-- What holds of a provider after any events. -/
structure SingleFlight (h : List Event) : Prop where
  /-- A token that is cached was fetched, and its expiry is the one that it names. -/
  cached : ∀ c, (after h).cached = some c → Token.expiry c.token = .ok c.expiry ∧
    ∃ before id since, h = before ++ .arrived id (.ok c.token) :: since ∧ Fetching before id
  /-- One call fetches at a time. -/
  alone : ∀ a b, Fetching h a → Fetching h b → a = b
  /-- A call begins to fetch in its turn, if there is no valid token then. -/
  fetches : ∀ e, reply h e = .fetches ↔ ∃ id now, e = .turn id now ∧
    (after h).gate.mayStart id = true ∧
    ∀ c, (after h).cached = some c → c.expiry.isAfter now = false
  /-- Nobody does as long as the token is valid on the clocks of all calls. -/
  spared : ∀ c later, (after h).cached = some c → (∀ id, ¬ Fetching h id) →
    (∀ e ∈ later, ∀ now, e.now? = some now → c.expiry.isAfter now = true) →
    (after (h ++ later)).cached = some c ∧ ∀ id, ¬ Fetching (h ++ later) id
  /-- A call is told a token that is valid on its clock, or the one that it fetched itself. -/
  told : ∀ e token, reply h e = .answered (.ok token) →
    (∃ id now c, (e = .ask id now ∨ e = .turn id now) ∧ (after h).cached = some c ∧
      c.token = token ∧ c.expiry.isAfter now = true) ∨
    ∃ id, e = .arrived id (.ok token) ∧ Fetching h id
  /-- It is told a valid token as it comes and in its turn. -/
  valid : ∀ c now, (after h).cached = some c → c.expiry.isAfter now = true → ∀ id,
    reply h (.ask id now) = .answered (.ok c.token) ∧
    ((after h).gate.mayStart id = true → reply h (.turn id now) = .answered (.ok c.token))
  /-- A call that finds none comes to the gate, -/
  enters : ∀ id now, (∀ c, (after h).cached = some c → c.expiry.isAfter now = false) →
    reply h (.ask id now) = .waits ∧ ((after (h ++ [.ask id now])).gate.stage? id).isSome
  /-- where one call may start or fetches as long as any is there, -/
  moves : ∀ id, ((after h).gate.stage? id).isSome →
    ∃ next, (after h).gate.mayStart next = true ∨ Fetching h next
  /-- and it fetches in its turn, at the latest when the others are gone. -/
  reaches : ∀ id now, (after h).gate.stage? id = some .waiting →
    (∀ c, (after h).cached = some c → c.expiry.isAfter now = false) →
    ∃ gone : List CallId, id ∉ gone ∧ reply (h ++ gone.map .dropped) (.turn id now) = .fetches
  /-- A fetch answers its call, and what it brought is cached if it is a token with an expiry. -/
  arrives : ∀ id fetched, Fetching h id →
    reply h (.arrived id fetched) = .answered ((reading fetched).map CachedToken.token) ∧
    (after (h ++ [.arrived id fetched])).cached =
      match reading fetched with
      | .ok c => some c
      | .error _ => (after h).cached
  /-- A call fails with its own fetch alone. -/
  fails : ∀ e error, reply h e = .answered (.error error) →
    ∃ id fetched, e = .arrived id fetched ∧ Fetching h id ∧ reading fetched = .error error
  /-- Nothing but a fetch that comes back changes what is cached, -/
  keeps : ∀ e, (∀ id fetched, e = .arrived id fetched → ¬ Fetching h id) →
    (after (h ++ [e])).cached = (after h).cached
  /-- and nothing moves the other calls. -/
  others : ∀ e other, other ≠ e.id →
    (after (h ++ [e])).gate.stage? other = (after h).gate.stage? other

/-- **One call fetches at a time, and only for want of a valid token.** A token that is cached or
told to a call was fetched and has its own expiry; what fails, and who is dropped, changes nothing
for the cache and for the other calls. -/
theorem single_flight : SingleFlight h where
  cached _ := cached_after h
  alone a b ha hb := (sound_after h).eq_of_works ((works_after h a).2 ha) ((works_after h b).2 hb)
  fetches e := by
    simp only [reply, fetches_iff, valid?_eq_none_iff]
  spared _ _ := cached_append h
  told _ _ := told_cases h
  valid _ _ := told_of_cached h
  enters _ _ hnone := asked_of_none h (valid?_eq_none_iff.2 hnone)
  moves id hid := by
    obtain ⟨next, hnext⟩ := (sound_after h).exists_next hid
    exact ⟨next, hnext.imp_right (works_after h next).1⟩
  reaches _ _ hid hnone := exists_fetches h hid (valid?_eq_none_iff.2 hnone)
  arrives _ fetched := arrived_of_fetching h fetched
  fails _ _ := exists_failed h
  keeps e he := by
    rw [after_concat]
    rcases cached_step (after h) e with hsame | ⟨id, fetched, c, rfl, hworks, -⟩
    · exact hsame
    · exact absurd ((works_after h id).1 hworks) (he id fetched rfl)
  others e other hother := by
    rw [after_concat]
    exact stage?_step (after h) hother

end Entitlement.Provider
