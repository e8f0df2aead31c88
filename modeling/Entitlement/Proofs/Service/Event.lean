import Entitlement.Service.Gather

/-!
# Events that end a request

* `Event` : an instant, and why a request fails at it;
* `Event.First` : the one of a list that decides, which is one at the earliest instant, and of those
  at this instant the first in the list;
* `Task.failure?` : the failure of a task, at the end of its work;
* `Limits.events` : the cancellation and the timeout; `Limits.goes_first` : what the clock goes on
  to is the first of them, unless the next work is done by then.
-/

namespace Entitlement

structure Event where
  instant : Span
  cause : Cause

namespace Event
variable {e e' : Event} {l l' : List Event}

structure First (e : Event) (events : List Event) : Prop where
  earliest : ∀ x ∈ events, e.instant.nanos ≤ x.instant.nanos
  first : events.find? (fun x => x.instant = e.instant) = some e

/-- The error that is handed over at an instant. -/
def ofResult? (instant : Span) : Except Error Part → Option Event
  | .ok _ => none
  | .error e => some ⟨instant, .failed e⟩

theorem ofResult?_eq_none {instant : Span} {r : Except Error Part} :
    ofResult? instant r = none ↔ ∃ p, r = .ok p := by
  cases r with
  | ok p => exact ⟨fun _ => ⟨p, rfl⟩, fun _ => rfl⟩
  | error e => exact ⟨nofun, nofun⟩

theorem instant_of_ofResult? {instant : Span} {r : Except Error Part}
    (h : ofResult? instant r = some e) : e.instant = instant := by
  cases r with
  | ok p => cases h
  | error _ => cases h; rfl

/-! ## The first event -/

theorem First.mem (h : e.First l) : e ∈ l := List.mem_of_find?_eq_some h.first

theorem First.unique (h : e.First l) (h' : e'.First l) : e = e' := by
  have hinstant : e.instant = e'.instant :=
    congrArg Span.mk (Nat.le_antisymm (h.earliest e' h'.mem) (h'.earliest e h.mem))
  have hfirst := h.first
  rw [hinstant, h'.first] at hfirst
  exact (Option.some.inj hfirst).symm

theorem first_cons (h : ∀ x ∈ l, e.instant.nanos ≤ x.instant.nanos) : e.First (e :: l) := by
  refine ⟨fun x hx => ?_, List.find?_cons_of_pos (decide_eq_true rfl)⟩
  rcases List.mem_cons.1 hx with rfl | hx
  · exact Nat.le_refl _
  · exact h x hx

/-- The order of events at different instants does not matter. -/
theorem First.congr (hmem : ∀ x, x ∈ l ↔ x ∈ l')
    (hfind : ∀ i, l.find? (fun x => x.instant = i) = l'.find? (fun x => x.instant = i))
    (h : e.First l) : e.First l' :=
  ⟨fun x hx => h.earliest x ((hmem x).2 hx), hfind e.instant ▸ h.first⟩

theorem find?_filter_of {p q : Event → Bool} (h : ∀ x, p x = true → q x = true) :
    (l.filter q).find? p = l.find? p := by
  rw [List.find?_filter]
  congr 1
  funext x
  cases hp : p x with
  | false => simp
  | true => rw [h x hp]; rfl

/-- Only events up to its own instant bear on the first one. -/
theorem first_filter_iff {q : Event → Bool}
    (hq : ∀ x, x.instant.nanos ≤ e.instant.nanos → q x = true) :
    e.First (l.filter q) ↔ e.First l := by
  have hfind : (l.filter q).find? (fun x => x.instant = e.instant) =
      l.find? (fun x => x.instant = e.instant) :=
    find?_filter_of fun x hx =>
      hq x (Nat.le_of_eq (congrArg Span.nanos (of_decide_eq_true hx)))
  refine ⟨fun h => ⟨fun x hx => ?_, hfind ▸ h.first⟩,
    fun h => ⟨fun x hx => h.earliest x (List.mem_filter.1 hx).1, hfind ▸ h.first⟩⟩
  by_cases hle : x.instant.nanos ≤ e.instant.nanos
  · exact h.earliest x (List.mem_filter.2 ⟨hx, hq x hle⟩)
  · omega

theorem First.append_of_lt (h : e.First l) (hl : ∀ x ∈ l', e.instant.nanos < x.instant.nanos) :
    e.First (l' ++ l) := by
  refine ⟨List.forall_mem_append.2 ⟨fun x hx => Nat.le_of_lt (hl x hx), h.earliest⟩, ?_⟩
  have hnone : l'.find? (fun x => x.instant = e.instant) = none := by
    refine List.find?_eq_none.2 fun x hx heq => ?_
    rw [decide_eq_true_iff] at heq
    exact absurd (hl x hx) (heq ▸ Nat.lt_irrefl _)
  rw [List.find?_append, hnone, Option.none_or]
  exact h.first

theorem First.append_of_le (h : e.First l) (hl : ∀ x ∈ l', e.instant.nanos ≤ x.instant.nanos) :
    e.First (l ++ l') := by
  refine ⟨List.forall_mem_append.2 ⟨h.earliest, hl⟩, ?_⟩
  rw [List.find?_append, h.first]
  rfl

/-- No event is reached before all of them. -/
theorem filter_lt_eq_nil {n : Nat} (h : ∀ x ∈ l, n ≤ x.instant.nanos) :
    l.filter (fun x => x.instant.nanos < n) = [] := by
  refine List.filter_eq_nil_iff.2 fun x hx => ?_
  rw [decide_eq_true_iff]
  exact Nat.not_lt.2 (h x hx)

/-- Events after those of the first list do not matter. -/
theorem First.of_append_filter {n : Nat} (hl : ∀ x ∈ l, x.instant.nanos ≤ n)
    (h : e.First (l ++ l'.filter fun x => x.instant.nanos < n)) : e.First (l ++ l') := by
  have hle : e.instant.nanos ≤ n := by
    rcases List.mem_append.1 h.mem with he | he
    · exact hl e he
    · exact Nat.le_of_lt (of_decide_eq_true (List.mem_filter.1 he).2)
  constructor
  · intro x hx
    rcases List.mem_append.1 hx with hx | hx
    · exact h.earliest x (List.mem_append_left _ hx)
    · by_cases hlt : x.instant.nanos < n
      · exact h.earliest x (List.mem_append_right _ (List.mem_filter.2 ⟨hx, decide_eq_true hlt⟩))
      · omega
  · have hfirst := h.first
    rw [List.find?_append] at hfirst ⊢
    cases hfind : l.find? (fun x => x.instant = e.instant) with
    | some a => rwa [hfind] at hfirst
    | none =>
      rw [hfind, Option.none_or] at hfirst
      have hlt := of_decide_eq_true (List.mem_filter.1 (List.mem_of_find?_eq_some hfirst)).2
      rw [find?_filter_of fun x hx => ?_] at hfirst
      · exact hfirst
      · rw [of_decide_eq_true hx]
        exact decide_eq_true hlt

/-- What is due comes before the rest, in its own order. -/
theorem find?_filter_append {p q : Event → Bool}
    (h : ∀ x y, p x = true → p y = true → q x = q y) :
    (l.filter q ++ l.filter fun x => !q x).find? p = l.find? p := by
  rw [List.find?_append]
  by_cases hq : ∃ x, p x = true ∧ q x = true
  · obtain ⟨x, hpx, hqx⟩ := hq
    rw [find?_filter_of fun y hy => (h y x hy hpx).trans hqx]
    cases hfind : l.find? p with
    | some a => rfl
    | none =>
      rw [Option.none_or, List.find?_eq_none]
      exact fun y hy => List.find?_eq_none.1 hfind y (List.mem_filter.1 hy).1
  · have hnone : (l.filter q).find? p = none :=
      List.find?_eq_none.2 fun x hx hp => hq ⟨x, hp, (List.mem_filter.1 hx).2⟩
    rw [hnone, Option.none_or]
    exact find?_filter_of fun x hp => by simpa using fun hqx => hq ⟨x, hp, hqx⟩

end Event

/-! ## Failures of tasks -/

namespace Task

def failure? (t : Task) : Option Event := Event.ofResult? t.instant t.outcome

theorem instant_of_failure? {t : Task} {e : Event} (h : t.failure? = some e) :
    e.instant = t.instant := Event.instant_of_ofResult? h

theorem filter_failure? (q : Span → Bool) (t : Task) :
    t.failure?.filter (fun e => q e.instant) = if q t.instant then t.failure? else none := by
  cases h : t.failure? with
  | none => simp
  | some e => rw [Option.filter_some, instant_of_failure? h]

end Task

/-- In start order. -/
def failures (tasks : List Task) : List Event := tasks.filterMap Task.failure?

/-- When the last task is done with its work. -/
def lastEnd (tasks : List Task) : Nat := (tasks.map (·.instant.nanos)).foldl max 0

theorem foldl_max_le_iff {l : List Nat} {n m : Nat} :
    l.foldl max n ≤ m ↔ n ≤ m ∧ ∀ a ∈ l, a ≤ m := by
  induction l generalizing n with
  | nil => simp
  | cons a l ih =>
    rw [List.foldl_cons, ih, Nat.max_le, List.forall_mem_cons, and_assoc]

theorem lastEnd_le_iff {tasks : List Task} {n : Nat} :
    lastEnd tasks ≤ n ↔ ∀ t ∈ tasks, t.instant.nanos ≤ n := by
  rw [lastEnd, foldl_max_le_iff, List.forall_mem_map, and_iff_right (Nat.zero_le n)]

/-! ## Limits -/

namespace Limits

def events (l : Limits) : List Event :=
  (l.cancel.map fun instant => ⟨instant, .failed .cancelled⟩).toList ++
    (l.timeout.map fun limit => ⟨limit, .timedOut limit⟩).toList

/-- What the clock goes on to, if the next work ends at an instant: to the first event, unless this
work is done by then. -/
def Goes (work : Span) (events : List Event) : Wake → Prop
  | .work i => i = work ∧ ∀ e ∈ events, work.nanos ≤ e.instant.nanos
  | .cancel i => i.nanos < work.nanos ∧ Event.First ⟨i, .failed .cancelled⟩ events
  | .timeout i => i.nanos < work.nanos ∧ Event.First ⟨i, .timedOut i⟩ events

variable {work : Span} {events : List Event} {wake : Wake}

theorem Goes.instant_le (h : Goes work events wake) :
    wake.instant.nanos ≤ work.nanos ∧ ∀ e ∈ events, wake.instant.nanos ≤ e.instant.nanos := by
  cases wake with
  | work i =>
    obtain ⟨rfl, hle⟩ := h
    exact ⟨Nat.le_refl _, hle⟩
  | cancel i => exact ⟨Nat.le_of_lt h.1, h.2.earliest⟩
  | timeout i => exact ⟨Nat.le_of_lt h.1, h.2.earliest⟩

theorem goes_cancel (work instant : Span) : Goes work [⟨instant, .failed .cancelled⟩]
    (if instant.nanos < work.nanos then .cancel instant else .work work) := by
  split
  · next hlt => exact ⟨hlt, Event.first_cons nofun⟩
  · next hge => exact ⟨rfl, by simpa using hge⟩

/-- One more limit. It counts if it is reached before all that comes without it. -/
theorem Goes.timeout (h : Goes work events wake) (limit : Span) :
    Goes work (events ++ [⟨limit, .timedOut limit⟩])
      (if limit.nanos < wake.instant.nanos then .timeout limit else wake) := by
  obtain ⟨hwork, hevents⟩ := h.instant_le
  split
  · next hlt =>
    have hlater : ∀ e ∈ events, limit.nanos < e.instant.nanos :=
      fun e he => Nat.lt_of_lt_of_le hlt (hevents e he)
    have hone : Event.First ⟨limit, .timedOut limit⟩ [⟨limit, .timedOut limit⟩] :=
      Event.first_cons nofun
    exact ⟨Nat.lt_of_lt_of_le hlt hwork, hone.append_of_lt hlater⟩
  · next hge =>
    cases wake with
    | work i =>
      obtain ⟨rfl, hle⟩ := h
      refine ⟨rfl, List.forall_mem_append.2 ⟨hle, ?_⟩⟩
      exact List.forall_mem_singleton.2 (Nat.not_lt.1 hge)
    | cancel i =>
      exact ⟨h.1, h.2.append_of_le (List.forall_mem_singleton.2 (Nat.not_lt.1 hge))⟩
    | timeout i =>
      exact ⟨h.1, h.2.append_of_le (List.forall_mem_singleton.2 (Nat.not_lt.1 hge))⟩

theorem goes_first (l : Limits) (work : Span) : Goes work l.events (l.first work) := by
  obtain ⟨cancel, timeout⟩ := l
  have hcancel : Goes work (cancel.map fun i => ⟨i, .failed .cancelled⟩).toList
      (first ⟨cancel, none⟩ work) := by
    cases cancel with
    | none => exact ⟨rfl, nofun⟩
    | some instant => exact goes_cancel work instant
  cases timeout with
  | none =>
    rw [events, Option.map_none, Option.toList_none, List.append_nil]
    exact hcancel
  | some limit => exact hcancel.timeout limit

end Limits

end Entitlement
