import Entitlement.Service.Parts
import Entitlement.Store.Run
import Entitlement.Text.Quoted

/-!
# Gathering the parts of a request

* `Task` : a part that was started, with when and how its work ends if it is left alone; `Limits` :
  when the request is cancelled and when it times out;
* `Gather` : how far a request has come: the tasks at work, what others have handed over, and the
  answers joined so far;
* `Gather.step` : what happens next. What was handed over is joined first, and an error ends the
  request there; when nothing is left to join, the clock goes on to the next event;
* `Gather.run` : all steps to the end.

Every step joins something or stops a task, so the steps end (`Gather.potential_step_lt`).
-/

namespace Entitlement

structure Ending (α : Type) where
  /-- Counted from the start of the request. -/
  instant : Span
  result : Except Stop α

structure Task where
  number : Nat
  kind : PartKind
  ending : Ending kind.Answer

/-- Why a request failed. -/
inductive Cause where
  | failed (e : Error)
  | timedOut (limit : Span)
  deriving DecidableEq, Repr

def Cause.error : Cause → Error
  | failed e => e
  | timedOut limit => .timeout limit

structure Outcome where
  instant : Span
  result : Except Cause Parts

/-- The error that a part's stop is reported as; `n` is the number of its task. -/
def Stop.error (n : Nat) : Stop → Error
  | failed e => e
  | crashed text => .internal ("permission task failed: task " ++ Text.decimal n ++
      " panicked with message " ++ Text.quoted text)

namespace Task

def instant (t : Task) : Span := t.ending.instant

/-- What a task hands over when its work is done. -/
def outcome (t : Task) : Except Error Part :=
  match t.ending.result with
  | .ok answer => .ok ⟨t.kind, answer⟩
  | .error stop => .error (stop.error t.number)

end Task

/-! ## Events -/

/-- The caller's cancellation and the service's limit, from the start of the request. -/
structure Limits where
  cancel : Option Span
  timeout : Option Span

/-- What the clock goes on to. -/
inductive Wake where
  | work (instant : Span)
  | cancel (instant : Span)
  | timeout (limit : Span)

def Wake.instant : Wake → Span
  | work instant | cancel instant | timeout instant => instant

/-- The first event, if the next work ends at an instant. -/
def Limits.first (l : Limits) (work : Span) : Wake :=
  let wake := match l.cancel with
    | some instant => if instant.nanos < work.nanos then Wake.cancel instant else .work work
    | none => .work work
  match l.timeout with
  | some limit => if limit.nanos < wake.instant.nanos then .timeout limit else wake
  | none => wake

theorem Limits.first_eq_work {l : Limits} {work instant : Span} (h : l.first work = .work instant) :
    instant = work := by
  unfold first at h
  grind

/-! ## Steps -/

structure Gather where
  clock : Span
  /-- Whether the token that all tasks watch is cancelled. -/
  cancelled : Bool
  /-- In the order in which they started. -/
  running : List Task
  /-- Handed over and not joined, first come first. -/
  finished : List (Except Error Part)
  parts : Parts

namespace Gather

def start (tasks : List Task) : Gather := ⟨⟨0⟩, false, tasks, [], .none⟩

/-- What a task hands over when it is woken. It looks at the token before its work. -/
def poll (g : Gather) (t : Task) : Option (Except Error Part) :=
  if g.cancelled then some (.error .cancelled)
  else if t.instant.nanos ≤ g.clock.nanos then some t.outcome
  else none

/-- Wakes the tasks in order. Those that hand something over are gone. -/
def wake (g : Gather) : Gather :=
  { g with
    running := g.running.filter fun t => (g.poll t).isNone
    finished := g.finished ++ g.running.filterMap g.poll }

/-- When the next task is done with its work. -/
def nextEnd? (g : Gather) : Option Nat := (g.running.map (·.instant.nanos)).min?

/-- The first error is the outcome, whatever was joined and whoever is still at work. -/
def step (limits : Limits) (g : Gather) : Outcome ⊕ Gather :=
  match g.finished with
  | .error e :: _ => .inl ⟨g.clock, .error (.failed e)⟩
  | .ok part :: rest => .inr { g with finished := rest, parts := g.parts.add part }
  | [] =>
    match g.nextEnd? with
    | none => .inl ⟨g.clock, .ok g.parts⟩
    | some n =>
      match limits.first ⟨n⟩ with
      | .work instant => .inr (wake { g with clock := instant })
      | .cancel instant => .inr (wake { g with clock := instant, cancelled := true })
      | .timeout limit => .inl ⟨limit, .error (.timedOut limit)⟩

/-! ## The end -/

/-- What is left to do: a task stops, and then it is joined. -/
def potential (g : Gather) : Nat := 2 * g.running.length + g.finished.length

theorem length_filter_isNone (f : α → Option β) (l : List α) :
    (l.filter fun a => (f a).isNone).length + (l.filterMap f).length = l.length := by
  induction l with
  | nil => rfl
  | cons a l ih => cases h : f a <;> simp [h] <;> omega

theorem potential_wake_lt {g : Gather} {t : Task} (ht : t ∈ g.running) (hp : g.poll t ≠ none) :
    g.wake.potential < g.potential := by
  obtain ⟨r, hr⟩ := Option.ne_none_iff_exists'.1 hp
  have hlen := length_filter_isNone g.poll g.running
  have hpos : 0 < (g.running.filterMap g.poll).length :=
    List.length_pos_of_mem (List.mem_filterMap.2 ⟨t, ht, hr⟩)
  simp only [potential, wake, List.length_append]
  omega

theorem exists_mem_running {g : Gather} {n : Nat} (h : g.nextEnd? = some n) :
    ∃ t ∈ g.running, t.instant.nanos = n :=
  List.mem_map.1 (List.min?_mem h)

theorem potential_step_lt {limits : Limits} {g g' : Gather} (h : g.step limits = .inr g') :
    g'.potential < g.potential := by
  unfold step at h
  split at h
  · cases h
  · next part rest hf =>
    cases h
    simp [potential, hf]
  · split at h
    · cases h
    · next n hn =>
      obtain ⟨t, ht, rfl⟩ := exists_mem_running hn
      split at h
      · next instant hw =>
        cases h
        obtain rfl := Limits.first_eq_work hw
        exact potential_wake_lt (g := { g with clock := ⟨t.instant.nanos⟩ }) ht
          (by unfold poll; split <;> simp)
      · next instant hw =>
        cases h
        exact potential_wake_lt (g := { g with clock := instant, cancelled := true }) ht
          (by simp [poll])
      · cases h

def run (limits : Limits) (g : Gather) : Outcome :=
  match _h : g.step limits with
  | .inl o => o
  | .inr g' => run limits g'
termination_by g.potential
decreasing_by exact potential_step_lt _h

end Gather

end Entitlement
