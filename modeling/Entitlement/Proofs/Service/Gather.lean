import Entitlement.Proofs.Service.Event
import Mathlib.Data.List.Basic
import Mathlib.Order.Nat

/-!
# The end of a gathering

* `Gather.events` : what can still fail a request; `Gather.Brings` : the parts it ends with if
  nothing does;
* `Gather.Live` : the invariant, that nothing of this lies in the past and that no two parts are
  answers to one question;
* `Gather.Verdict` : the first event is the outcome, or, without one, all parts are;
* `Gather.run_verdict` : every run ends so. A step keeps the invariant, and what is ahead of it is
  what was ahead before (`Gather.step_verdict`).
-/

namespace Entitlement

def Parts.Has (s : Parts) (p : Part) : Prop := s p.kind = some p.answer

theorem Parts.has_add_iff {s : Parts} {p q : Part} :
    (s.add p).Has q ↔ p = q ∨ p.kind ≠ q.kind ∧ s.Has q := by
  obtain ⟨kind, a⟩ := p
  obtain ⟨kind', b⟩ := q
  unfold Has
  by_cases h : kind = kind'
  · subst h
    rw [add_self]
    simp
  · rw [add_of_ne s h]
    simp [h]

namespace Gather
variable {limits : Limits} {g g' : Gather} {o : Outcome}

/-- When the last task is done with its work, or by now. -/
def last (g : Gather) : Nat := (g.running.map (·.instant.nanos)).foldl max g.clock.nanos

/-- A limit counts if it is reached before the last task is done. -/
def events (limits : Limits) (g : Gather) : List Event :=
  g.finished.filterMap (Event.ofResult? g.clock) ++ failures g.running ++
    limits.events.filter fun e => e.instant.nanos < g.last

def Brings (g : Gather) (p : Part) : Prop :=
  g.parts.Has p ∨ .ok p ∈ g.finished ∨ ∃ t ∈ g.running, t.outcome = .ok p

structure Live (limits : Limits) (g : Gather) : Prop where
  clock_le : ∀ t ∈ g.running, g.clock.nanos ≤ t.instant.nanos
  clock_le_limit : ∀ e ∈ limits.events, g.clock.nanos ≤ e.instant.nanos
  cancelled : g.cancelled = true → g.running = []
  coherent : ∀ p q, g.Brings p → g.Brings q → p.kind = q.kind → p = q

/-- How a request that has come so far ends. -/
inductive Verdict (limits : Limits) (g : Gather) (o : Outcome) : Prop where
  | failed (e : Event) (first : e.First (g.events limits)) (outcome : o = ⟨e.instant, .error e.cause⟩)
  | complete (quiet : g.events limits = []) (parts : Parts) (outcome : o = ⟨⟨g.last⟩, .ok parts⟩)
      (has_iff : ∀ p, parts.Has p ↔ g.Brings p)

/-! ## The last work -/

theorem last_le_iff {m : Nat} :
    g.last ≤ m ↔ g.clock.nanos ≤ m ∧ ∀ t ∈ g.running, t.instant.nanos ≤ m := by
  rw [last, foldl_max_le_iff, List.forall_mem_map]

theorem le_last {t : Task} (ht : t ∈ g.running) : t.instant.nanos ≤ g.last :=
  (last_le_iff.1 (Nat.le_refl _)).2 t ht

/-! ## Joining -/

section Join
variable {p : Part} {rest : List (Except Error Part)}

theorem brings_join (h : Live limits g) (hf : g.finished = .ok p :: rest) (q : Part) :
    Brings { g with finished := rest, parts := g.parts.add p } q ↔ g.Brings q := by
  have hp : g.Brings p := .inr (.inl (hf ▸ List.mem_cons_self))
  constructor
  · rintro (hq | hq | hq)
    · rcases Parts.has_add_iff.1 hq with rfl | ⟨-, hq⟩
      · exact hp
      · exact .inl hq
    · exact .inr (.inl (hf ▸ List.mem_cons_of_mem _ hq))
    · exact .inr (.inr hq)
  · intro hq
    by_cases hk : p.kind = q.kind
    · exact .inl (Parts.has_add_iff.2 (.inl (h.coherent p q hp hq hk)))
    · rcases hq with hq | hq | hq
      · exact .inl (Parts.has_add_iff.2 (.inr ⟨hk, hq⟩))
      · rw [hf] at hq
        rcases List.mem_cons.1 hq with he | hq
        · cases he
          exact absurd rfl hk
        · exact .inr (.inl hq)
      · exact .inr (.inr hq)

theorem events_join (hf : g.finished = .ok p :: rest) :
    events limits { g with finished := rest, parts := g.parts.add p } = g.events limits := by
  unfold events
  rw [hf]
  rfl

theorem Live.join (h : Live limits g) (hf : g.finished = .ok p :: rest) :
    Live limits { g with finished := rest, parts := g.parts.add p } where
  clock_le := h.clock_le
  clock_le_limit := h.clock_le_limit
  cancelled := h.cancelled
  coherent q q' hq hq' := h.coherent q q' ((brings_join h hf q).1 hq) ((brings_join h hf q').1 hq')

theorem Verdict.of_join (h : Live limits g) (hf : g.finished = .ok p :: rest)
    (hv : Verdict limits { g with finished := rest, parts := g.parts.add p } o) :
    Verdict limits g o := by
  rcases hv with ⟨e, hfirst, ho⟩ | ⟨hquiet, parts, ho, hhas⟩
  · exact .failed e (events_join hf ▸ hfirst) ho
  · exact .complete (events_join hf ▸ hquiet) parts ho fun q => (hhas q).trans (brings_join h hf q)

/-- An error that waits to be joined comes before all that is ahead. -/
theorem Verdict.of_error {e : Error} (h : Live limits g) (hf : g.finished = .error e :: rest) :
    Verdict limits g ⟨g.clock, .error (.failed e)⟩ := by
  refine .failed ⟨g.clock, .failed e⟩ ?_ rfl
  unfold events
  rw [hf]
  change Event.First _
    (_ :: (rest.filterMap (Event.ofResult? g.clock) ++ failures g.running ++ _))
  refine Event.first_cons fun x hx => ?_
  rw [List.mem_append, List.mem_append] at hx
  rcases hx with (hx | hx) | hx
  · obtain ⟨r, -, hr⟩ := List.mem_filterMap.1 hx
    rw [Event.instant_of_ofResult? hr]
  · obtain ⟨t, ht, hr⟩ := List.mem_filterMap.1 hx
    rw [Task.instant_of_failure? hr]
    exact h.clock_le t ht
  · exact h.clock_le_limit x (List.mem_filter.1 hx).1

end Join

/-- With no task at work and nothing to join, all parts are there. -/
theorem Verdict.of_idle (h : Live limits g) (hf : g.finished = []) (hr : g.running = []) :
    Verdict limits g ⟨g.clock, .ok g.parts⟩ := by
  have hlast : g.last = g.clock.nanos := by unfold last; rw [hr]; rfl
  refine .complete ?_ g.parts (by rw [hlast]) fun p => ?_
  · have hnone : limits.events.filter (fun e => e.instant.nanos < g.last) = [] :=
      Event.filter_lt_eq_nil (hlast ▸ h.clock_le_limit)
    unfold events failures
    rw [hf, hr, hnone]
    rfl
  · unfold Brings
    rw [hf, hr]
    simp

/-! ## Waking -/

/-- The task whose work ends next. -/
structure Next (t : Task) (g : Gather) : Prop where
  mem : t ∈ g.running
  le : ∀ u ∈ g.running, t.instant.nanos ≤ u.instant.nanos
  idle : g.finished = []

theorem exists_next {n : Nat} (hf : g.finished = []) (hn : g.nextEnd? = some n) :
    ∃ t, Next t g ∧ t.instant.nanos = n := by
  obtain ⟨t, ht, rfl⟩ := exists_mem_running hn
  refine ⟨t, ⟨ht, fun u hu => ?_, hf⟩, rfl⟩
  exact (List.min?_eq_some_iff.1 hn).2 _ (List.mem_map_of_mem hu)

section Wake
variable {t : Task}

theorem events_of_idle (hf : g.finished = []) : g.events limits =
    failures g.running ++ limits.events.filter fun e => e.instant.nanos < g.last := by
  unfold events
  rw [hf]
  rfl

/-- The first limit is the first event if it is reached before any work ends. -/
theorem first_limit (ht : Next t g) {e : Event} (hlt : e.instant.nanos < t.instant.nanos)
    (he : e.First limits.events) : e.First (g.events limits) := by
  have hlast := le_last ht.mem
  rw [events_of_idle ht.idle]
  refine ((Event.first_filter_iff fun x hx => decide_eq_true (by omega)).2 he).append_of_lt ?_
  intro x hx
  obtain ⟨u, hu, hx⟩ := List.mem_filterMap.1 hx
  have hle := ht.le u hu
  rw [Task.instant_of_failure? hx]
  omega

/-- The clock goes on to the end of the next work. -/
def advance (t : Task) (g : Gather) : Gather := wake { g with clock := t.instant }

theorem poll_advance (ht : Next t g) (hc : g.cancelled = false) {u : Task} (hu : u ∈ g.running) :
    poll { g with clock := t.instant } u =
      if u.instant = t.instant then some u.outcome else none := by
  have hle := ht.le u hu
  unfold poll
  rw [if_neg (by simp [hc])]
  by_cases heq : u.instant = t.instant
  · rw [if_pos heq, heq, if_pos (Nat.le_refl _)]
  · rw [if_neg heq, if_neg]
    exact fun h => heq (congrArg Span.mk (Nat.le_antisymm h hle))

theorem mem_running_advance (ht : Next t g) (hc : g.cancelled = false) {u : Task} :
    u ∈ (advance t g).running ↔ u ∈ g.running ∧ u.instant ≠ t.instant := by
  refine List.mem_filter.trans (and_congr_right fun hu => ?_)
  rw [poll_advance ht hc hu]
  split <;> simp [*]

theorem finished_advance (ht : Next t g) :
    (advance t g).finished = g.running.filterMap (poll { g with clock := t.instant }) := by
  change g.finished ++ _ = _
  rw [ht.idle]
  rfl

theorem mem_finished_advance (ht : Next t g) (hc : g.cancelled = false) {r : Except Error Part} :
    r ∈ (advance t g).finished ↔ ∃ u ∈ g.running, u.instant = t.instant ∧ u.outcome = r := by
  rw [finished_advance ht, List.mem_filterMap]
  refine exists_congr fun u => and_congr_right fun hu => ?_
  rw [poll_advance ht hc hu, Option.ite_none_right_eq_some, Option.some_inj]

theorem last_advance (ht : Next t g) (hc : g.cancelled = false)
    (hclock : g.clock.nanos ≤ t.instant.nanos) : (advance t g).last = g.last := by
  refine eq_of_forall_ge_iff fun m => ?_
  rw [last_le_iff, last_le_iff]
  constructor
  · rintro ⟨hnow, hlater⟩
    refine ⟨Nat.le_trans hclock hnow, fun u hu => ?_⟩
    by_cases heq : u.instant = t.instant
    · rwa [heq]
    · exact hlater u ((mem_running_advance ht hc).2 ⟨hu, heq⟩)
  · rintro ⟨-, hall⟩
    exact ⟨hall t ht.mem, fun u hu => hall u ((mem_running_advance ht hc).1 hu).1⟩

theorem brings_advance (ht : Next t g) (hc : g.cancelled = false) (p : Part) :
    (advance t g).Brings p ↔ g.Brings p := by
  unfold Brings
  rw [mem_finished_advance ht hc, ht.idle]
  refine or_congr_right ?_
  constructor
  · rintro (⟨u, hu, -, ho⟩ | ⟨u, hu, ho⟩)
    · exact .inr ⟨u, hu, ho⟩
    · exact .inr ⟨u, ((mem_running_advance ht hc).1 hu).1, ho⟩
  · rintro (h | ⟨u, hu, ho⟩)
    · cases h
    · by_cases heq : u.instant = t.instant
      · exact .inl ⟨u, hu, heq, ho⟩
      · exact .inr ⟨u, (mem_running_advance ht hc).2 ⟨hu, heq⟩, ho⟩

theorem finished_failures_advance (ht : Next t g) (hc : g.cancelled = false) :
    (advance t g).finished.filterMap (Event.ofResult? t.instant) =
      (failures g.running).filter fun e => e.instant = t.instant := by
  rw [finished_advance ht, failures, List.filterMap_filterMap, List.filter_filterMap]
  refine List.filterMap_congr fun u hu => ?_
  rw [poll_advance ht hc hu, Task.filter_failure? (· = t.instant)]
  by_cases heq : u.instant = t.instant
  · rw [if_pos heq, if_pos (decide_eq_true heq), ← heq]
    rfl
  · rw [if_neg heq, if_neg (by simpa using heq)]
    rfl

theorem failures_advance (ht : Next t g) (hc : g.cancelled = false) :
    failures (advance t g).running =
      (failures g.running).filter fun e => !decide (e.instant = t.instant) := by
  unfold failures
  rw [List.filter_filterMap]
  change List.filterMap _ (g.running.filter _) = _
  rw [List.filterMap_filter]
  refine List.filterMap_congr fun u hu => ?_
  rw [poll_advance ht hc hu, Task.filter_failure? (fun i => !decide (i = t.instant))]
  by_cases heq : u.instant = t.instant <;> simp [heq]

/-- What can fail a request stays the same, but for the order at different instants. -/
theorem events_advance (ht : Next t g) (hc : g.cancelled = false)
    (hclock : g.clock.nanos ≤ t.instant.nanos) : (advance t g).events limits =
      (failures g.running).filter (fun e => e.instant = t.instant) ++
        (failures g.running).filter (fun e => !decide (e.instant = t.instant)) ++
          limits.events.filter fun e => e.instant.nanos < g.last := by
  rw [← finished_failures_advance ht hc, ← failures_advance ht hc, ← last_advance ht hc hclock]
  rfl

theorem mem_events_advance (ht : Next t g) (hc : g.cancelled = false)
    (hclock : g.clock.nanos ≤ t.instant.nanos) {e : Event} :
    e ∈ (advance t g).events limits ↔ e ∈ g.events limits := by
  rw [events_advance ht hc hclock, events_of_idle ht.idle]
  simp only [List.mem_append, List.mem_filter, ← and_or_left]
  by_cases heq : e.instant = t.instant <;> simp [heq]

theorem first_advance (ht : Next t g) (hc : g.cancelled = false)
    (hclock : g.clock.nanos ≤ t.instant.nanos) {e : Event}
    (he : e.First ((advance t g).events limits)) : e.First (g.events limits) := by
  refine he.congr (fun x => mem_events_advance ht hc hclock) fun i => ?_
  rw [events_advance ht hc hclock, events_of_idle ht.idle, List.find?_append,
    Event.find?_filter_append fun x y hx hy => ?_, ← List.find?_append]
  rw [of_decide_eq_true hx, of_decide_eq_true hy]

theorem Live.advance (h : Live limits g) (ht : Next t g) (hc : g.cancelled = false)
    (hle : ∀ e ∈ limits.events, t.instant.nanos ≤ e.instant.nanos) :
    Live limits (advance t g) where
  clock_le u hu := ht.le u ((mem_running_advance ht hc).1 hu).1
  clock_le_limit := hle
  cancelled hcancelled := absurd (hc.symm.trans hcancelled) Bool.false_ne_true
  coherent p q hp hq :=
    h.coherent p q ((brings_advance ht hc p).1 hp) ((brings_advance ht hc q).1 hq)

theorem Verdict.of_advance (h : Live limits g) (ht : Next t g) (hc : g.cancelled = false)
    (hv : Verdict limits (Gather.advance t g) o) : Verdict limits g o := by
  have hclock := h.clock_le t ht.mem
  rcases hv with ⟨e, hfirst, ho⟩ | ⟨hquiet, parts, ho, hhas⟩
  · exact .failed e (first_advance ht hc hclock hfirst) ho
  · have hnone : g.events limits = [] := by
      refine List.eq_nil_iff_forall_not_mem.2 fun e he => ?_
      rw [← mem_events_advance ht hc hclock, hquiet] at he
      cases he
    exact .complete hnone parts (last_advance ht hc hclock ▸ ho) fun p =>
      (hhas p).trans (brings_advance ht hc p)

/-! ## Cancelling -/

/-- All tasks still at work are woken by the token. -/
def abandon (instant : Span) (g : Gather) : Gather :=
  wake { g with clock := instant, cancelled := true }

theorem running_abandon (instant : Span) (g : Gather) : (abandon instant g).running = [] :=
  List.filter_eq_nil_iff.2 fun u _ => by simp [poll]

theorem finished_abandon (instant : Span) (hf : g.finished = []) :
    (abandon instant g).finished = g.running.map fun _ => .error .cancelled := by
  change g.finished ++ _ = _
  rw [hf, List.nil_append, ← List.filterMap_eq_map]
  rfl

theorem Live.abandon {instant : Span} (h : Live limits g) (hf : g.finished = [])
    (hle : ∀ e ∈ limits.events, instant.nanos ≤ e.instant.nanos) :
    Live limits (abandon instant g) where
  clock_le u hu := absurd (running_abandon instant g ▸ hu) List.not_mem_nil
  clock_le_limit := hle
  cancelled _ := running_abandon instant g
  coherent p q hp hq := by
    have hparts : ∀ p, (Gather.abandon instant g).Brings p → g.Brings p := by
      unfold Brings
      rw [running_abandon, finished_abandon instant hf]
      rintro p (hp | hp | ⟨u, hu, -⟩)
      · exact .inl hp
      · simp at hp
      · cases hu
    exact h.coherent p q (hparts p hp) (hparts q hq)

theorem mem_events_abandon {instant : Span} (ht : Next t g)
    (hle : ∀ e ∈ limits.events, instant.nanos ≤ e.instant.nanos) {e : Event} :
    e ∈ (Gather.abandon instant g).events limits ↔ e = ⟨instant, .failed .cancelled⟩ := by
  have hlast : (Gather.abandon instant g).last = instant.nanos := by
    unfold last
    rw [running_abandon]
    rfl
  have hnone := Event.filter_lt_eq_nil hle
  unfold events failures
  rw [running_abandon, finished_abandon instant ht.idle, hlast, hnone, List.filterMap_map,
    List.filterMap_nil, List.append_nil, List.append_nil, List.mem_filterMap]
  constructor
  · rintro ⟨u, -, he⟩
    exact (Option.some.inj he).symm
  · rintro rfl
    exact ⟨t, ht.mem, rfl⟩

theorem Verdict.of_abandon {instant : Span} (ht : Next t g)
    (hlt : instant.nanos < t.instant.nanos)
    (hfirst : Event.First ⟨instant, .failed .cancelled⟩ limits.events)
    (hv : Verdict limits (Gather.abandon instant g) o) : Verdict limits g o := by
  have hmem := @mem_events_abandon limits g t instant ht hfirst.earliest
  rcases hv with ⟨e, he, ho⟩ | ⟨hquiet, -⟩
  · obtain rfl := hmem.1 he.mem
    exact .failed _ (first_limit ht hlt hfirst) ho
  · exact absurd (hquiet ▸ hmem.2 rfl) List.not_mem_nil

end Wake

/-! ## Runs -/

/-- A step keeps the invariant, and the request ends as it would have before. -/
theorem step_verdict (h : Live limits g) :
    match g.step limits with
    | .inl o => Verdict limits g o
    | .inr g' => Live limits g' ∧ ∀ o, Verdict limits g' o → Verdict limits g o := by
  cases hf : g.finished with
  | cons r rest =>
    unfold step
    rw [hf]
    cases r with
    | error e => exact .of_error h hf
    | ok p => exact ⟨h.join hf, fun o hv => hv.of_join h hf⟩
  | nil =>
    cases hn : g.nextEnd? with
    | none =>
      unfold step
      rw [hf, hn]
      exact .of_idle h hf (by simpa [nextEnd?] using hn)
    | some n =>
      obtain ⟨t, ht, rfl⟩ := exists_next hf hn
      have hc : g.cancelled = false :=
        Bool.eq_false_iff.2 fun hc => List.ne_nil_of_mem ht.mem (h.cancelled hc)
      have hspec := limits.goes_first t.instant
      cases hfirst : limits.first t.instant with
      | work instant =>
        rw [hfirst] at hspec
        obtain ⟨rfl, hle⟩ := hspec
        have hstep : g.step limits = .inr (advance t g) := by
          unfold step advance
          simp only [ht.idle, hn, hfirst]
        rw [hstep]
        exact ⟨h.advance ht hc hle, fun o hv => hv.of_advance h ht hc⟩
      | cancel instant =>
        rw [hfirst] at hspec
        obtain ⟨hlt, he⟩ := hspec
        have hstep : g.step limits = .inr (abandon instant g) := by
          unfold step abandon
          simp only [ht.idle, hn, hfirst]
        rw [hstep]
        exact ⟨h.abandon hf he.earliest, fun o hv => hv.of_abandon ht hlt he⟩
      | timeout limit =>
        rw [hfirst] at hspec
        obtain ⟨hlt, he⟩ := hspec
        have hstep : g.step limits = .inl ⟨limit, .error (.timedOut limit)⟩ := by
          unfold step
          simp only [ht.idle, hn, hfirst]
        rw [hstep]
        exact .failed _ (first_limit ht hlt he) rfl

theorem run_of_inl (h : g.step limits = .inl o) : run limits g = o := by
  rw [run]
  split
  · next o' h' => exact Sum.inl.inj (h'.symm.trans h)
  · next g' h' => cases h'.symm.trans h

theorem run_of_inr (h : g.step limits = .inr g') : run limits g = run limits g' := by
  rw [run]
  split
  · next o' h' => cases h'.symm.trans h
  · next g'' h' => rw [Sum.inr.inj (h'.symm.trans h)]

/-- **The first event is the outcome; if there is none, all parts are.** -/
theorem run_verdict (h : Live limits g) : Verdict limits g (run limits g) := by
  induction g using run.induct limits with
  | case1 g o hstep =>
    have hverdict := step_verdict h
    rw [hstep] at hverdict
    rw [run_of_inl hstep]
    exact hverdict
  | case2 g g' hstep ih =>
    have hkept := step_verdict h
    rw [hstep] at hkept
    rw [run_of_inr hstep]
    exact hkept.2 _ (ih hkept.1)

end Gather

end Entitlement
