import Entitlement.Gate
import Mathlib.Data.List.Induction

/-!
# One call at a time works behind a gate

* `Lock.ids` : the holder of a lock and those who wait, in the order of their turns;
* `Gate.stage?_enter`, `stage?_start`, `stage?_leave` : a call moves alone; `Gate.works_enter`,
  `works_start`, `works_leave` : so does who works;
* `Gate.Sound` : the calls at the gate are those of the lock, and whoever works holds it;
* `Gate.Step` : what may be done at a gate. Each step keeps it sound (`Gate.Sound.step`);
* `Gate.Sound.eq_of_works`, `Gate.Sound.exists_next` : so one call works at a time, and while calls
  are there, one of them works or may start; `Gate.Sound.mayStart_of_alone` : which one, if it is
  the only one;
* `Since` : something has begun in a history and has not ended since (`since_concat`).
-/

namespace Entitlement

/-! ## Histories -/

section Since
variable {ε : Type} {begins : List ε → ε → Prop} {ends : ε → Prop}

/-- An event began it, after those before, and no later one ended it. -/
def Since (begins : List ε → ε → Prop) (ends : ε → Prop) (h : List ε) : Prop :=
  ∃ before e since, h = before ++ e :: since ∧ begins before e ∧ ∀ e ∈ since, ¬ ends e

theorem not_since_nil : ¬ Since begins ends [] := by
  rintro ⟨before, e, since, hnil, -⟩
  exact List.append_ne_nil_of_right_ne_nil before (List.cons_ne_nil _ _) hnil.symm

theorem since_concat {h : List ε} {e : ε} :
    Since begins ends (h ++ [e]) ↔ begins h e ∨ Since begins ends h ∧ ¬ ends e := by
  constructor
  · rintro ⟨before, first, since, hh, hbegan, hsince⟩
    cases since using List.reverseRecOn with
    | nil =>
      obtain ⟨rfl, he⟩ := List.append_inj' hh rfl
      obtain rfl := (List.cons.inj he).1
      exact .inl hbegan
    | append_singleton since last =>
      rw [← List.cons_append, ← List.append_assoc] at hh
      obtain ⟨rfl, he⟩ := List.append_inj' hh rfl
      obtain rfl := (List.cons.inj he).1
      exact .inr ⟨⟨before, first, since, rfl, hbegan,
        fun e he => hsince e (List.mem_append_left _ he)⟩, hsince e (by simp)⟩
  · rintro (hbegan | ⟨⟨before, first, since, rfl, hbegan, hsince⟩, he⟩)
    · exact ⟨h, e, [], rfl, hbegan, nofun⟩
    · refine ⟨before, first, since ++ [e], by simp, hbegan, fun e' he' => ?_⟩
      rcases List.mem_append.1 he' with he' | he'
      · exact hsince e' he'
      · exact List.mem_singleton.1 he' ▸ he

/-- What holds of a history just when it has begun and not ended. The induction is on the events,
from the last one. -/
theorem since_iff (holds : List ε → Prop) (hnil : ¬ holds [])
    (hconcat : ∀ h e, holds (h ++ [e]) ↔ begins h e ∨ holds h ∧ ¬ ends e) (h : List ε) :
    holds h ↔ Since begins ends h := by
  induction h using List.reverseRecOn with
  | nil => exact iff_of_false hnil not_since_nil
  | append_singleton h e ih => rw [hconcat, since_concat, ih]

end Since

namespace Lock

/-- Those at the lock, the next one first. -/
def ids (l : Lock) : List CallId := l.holder.toList ++ l.waiting

/-- Nobody waits at a free lock, and nobody is there twice. -/
structure Sound (l : Lock) : Prop where
  idle : l.holder = none → l.waiting = []
  nodup : l.ids.Nodup

theorem sound_free : free.Sound := ⟨fun _ => rfl, List.nodup_nil⟩

variable {l : Lock}

theorem Sound.ids_enter (hl : l.Sound) (id : CallId) : (l.enter id).ids = l.ids ++ [id] := by
  unfold enter ids
  cases h : l.holder with
  | none => simp [hl.idle h]
  | some holder => simp

theorem ids_handOver (l : Lock) : l.handOver.ids = l.waiting := by
  unfold handOver ids
  cases l.waiting with
  | nil => rfl
  | cons first rest => rfl

theorem Sound.ids_leave (hl : l.Sound) (id : CallId) :
    (l.leave id).ids = l.ids.filter (· ≠ id) := by
  have hnodup := hl.nodup
  unfold leave
  by_cases h : l.holder = some id
  · rw [if_pos h, ids_handOver]
    rw [ids, h] at hnodup ⊢
    have hnew : id ∉ l.waiting := (List.nodup_cons.1 hnodup).1
    have hkept : l.waiting.filter (· ≠ id) = l.waiting :=
      List.filter_eq_self.2 fun other ho => decide_eq_true fun he => hnew (he ▸ ho)
    simpa using hkept.symm
  · rw [if_neg h, ids, ids, List.filter_append]
    cases hholder : l.holder with
    | none => rfl
    | some holder =>
      have hne : holder ≠ id := fun he => h (he ▸ hholder)
      simp [hne]

theorem Sound.enter (hl : l.Sound) {id : CallId} (hid : id ∉ l.ids) : (l.enter id).Sound := by
  constructor
  · unfold Lock.enter
    cases h : l.holder with
    | none => exact nofun
    | some holder => exact nofun
  · rw [hl.ids_enter, List.nodup_append]
    refine ⟨hl.nodup, by simp, fun a ha b hb he => hid ?_⟩
    rwa [← List.mem_singleton.1 hb, ← he]

theorem Sound.leave (hl : l.Sound) (id : CallId) : (l.leave id).Sound := by
  constructor
  · unfold Lock.leave
    split
    · intro hfirst
      have hnone : l.waiting = [] := List.head?_eq_none_iff.1 hfirst
      simp [handOver, hnone]
    · intro hfree
      simp [hl.idle hfree]
  · rw [hl.ids_leave]
    exact hl.nodup.filter _

end Lock

namespace Gate
variable {g g' : Gate}

/-! ## Where the calls are -/

theorem contains_eq_isSome_stage? (g : Gate) (id : CallId) :
    g.visits.contains id = (g.stage? id).isSome := by
  rw [stage?, Option.isSome_map, Table.contains]

theorem stage?_put (g : Gate) (v : Visit) (other : CallId) :
    ((g.visits.put v).find? other).map Visit.stage =
      if other = v.id then some v.stage else g.stage? other := by
  rw [Table.find?_put, stage?]
  by_cases h : other = v.id
  · rw [if_pos h, if_pos h.symm]
    rfl
  · rw [if_neg h, if_neg (Ne.symm h)]

theorem stage?_enter (g : Gate) (id other : CallId) : (g.enter id).stage? other =
    if other = id ∧ g.stage? id = none then some .waiting else g.stage? other := by
  unfold enter
  rw [contains_eq_isSome_stage?]
  cases h : g.stage? id with
  | none =>
    simp only [Option.isSome_none, Bool.false_eq_true, if_false, and_true]
    exact stage?_put g ⟨id, .waiting⟩ other
  | some stage => simp

theorem isSome_stage?_enter (g : Gate) (id : CallId) : ((g.enter id).stage? id).isSome := by
  rw [stage?_enter]
  cases hstage : g.stage? id with
  | none => simp
  | some stage => simp

theorem stage?_start (g : Gate) (id other : CallId) : (g.start id).stage? other =
    if other = id then some .working else g.stage? other :=
  stage?_put g ⟨id, .working⟩ other

theorem stage?_leave (g : Gate) (id other : CallId) : (g.leave id).stage? other =
    if other = id then none else g.stage? other := by
  unfold leave
  rw [contains_eq_isSome_stage?]
  cases h : g.stage? id with
  | none =>
    by_cases ho : other = id
    · simp [ho, h]
    · simp [ho]
  | some stage =>
    simp only [Option.isSome_some, if_true, stage?, Table.find?_erase]
    by_cases ho : other = id
    · simp [ho]
    · simp [ho]

theorem works_iff {id : CallId} : g.works id = true ↔ g.stage? id = some .working :=
  decide_eq_true_iff

theorem mayStart_iff {id : CallId} :
    g.mayStart id = true ↔ g.stage? id = some .waiting ∧ g.lock.holder = some id := by
  simp [mayStart]

@[simp] theorem works_enter (g : Gate) (id other : CallId) :
    (g.enter id).works other = true ↔ g.works other = true := by
  rw [works_iff, works_iff, stage?_enter]
  split
  · next h => simp [h.1, h.2]
  · exact Iff.rfl

@[simp] theorem works_start (g : Gate) (id other : CallId) :
    (g.start id).works other = true ↔ id = other ∨ g.works other = true := by
  rw [works_iff, works_iff, stage?_start]
  by_cases h : other = id
  · simp [h]
  · simp [h, Ne.symm h]

@[simp] theorem works_leave (g : Gate) (id other : CallId) :
    (g.leave id).works other = true ↔ g.works other = true ∧ id ≠ other := by
  rw [works_iff, works_iff, stage?_leave]
  by_cases h : other = id
  · simp [h]
  · simp [h, Ne.symm h]

/-- A call that may start does not work yet. -/
theorem not_works_of_mayStart {id : CallId} (h : g.mayStart id = true) : ¬ g.works id = true := by
  rw [works_iff, (mayStart_iff.1 h).1]
  exact nofun

/-! ## Soundness -/

/-- Those at the gate are those of its lock, and whoever works holds it. -/
structure Sound (g : Gate) : Prop where
  lock : g.lock.Sound
  line : ∀ id, (g.stage? id).isSome ↔ id ∈ g.lock.ids
  held : ∀ id, g.works id = true → g.lock.holder = some id

theorem sound_clear : clear.Sound := ⟨Lock.sound_free, fun _ => by simp [clear, stage?, Lock.ids,
  Lock.free], nofun⟩

theorem Sound.enter (hg : g.Sound) (id : CallId) : (g.enter id).Sound := by
  cases hstage : g.stage? id with
  | some stage =>
    have hsame : g.enter id = g := by simp [Gate.enter, contains_eq_isSome_stage?, hstage]
    rwa [hsame]
  | none =>
    have hlock : (g.enter id).lock = g.lock.enter id := by
      simp [Gate.enter, contains_eq_isSome_stage?, hstage]
    have hnew : id ∉ g.lock.ids := fun h => by simpa [hstage] using (hg.line id).2 h
    refine ⟨hlock ▸ hg.lock.enter hnew, fun other => ?_, fun other hother => ?_⟩
    · rw [stage?_enter, hlock, hg.lock.ids_enter, List.mem_append, List.mem_singleton, ← hg.line]
      by_cases ho : other = id
      · simp [ho, hstage]
      · simp [ho]
    · have hholder := hg.held other ((works_enter g id other).1 hother)
      rw [hlock, Lock.enter, hholder]

theorem Sound.start (hg : g.Sound) {id : CallId} (h : g.mayStart id = true) :
    (g.start id).Sound := by
  obtain ⟨hstage, hholder⟩ := mayStart_iff.1 h
  refine ⟨hg.lock, fun other => ?_, fun other hother => ?_⟩
  · rw [stage?_start]
    by_cases ho : other = id
    · have hthere := (hg.line id).1 (by simp [hstage])
      rw [if_pos ho, ho]
      exact iff_of_true rfl hthere
    · rw [if_neg ho]
      exact hg.line other
  · rcases (works_start g id other).1 hother with rfl | hworks
    · exact hholder
    · exact hg.held other hworks

theorem Sound.leave (hg : g.Sound) (id : CallId) : (g.leave id).Sound := by
  cases hstage : g.stage? id with
  | none =>
    have hsame : g.leave id = g := by simp [Gate.leave, contains_eq_isSome_stage?, hstage]
    rwa [hsame]
  | some stage =>
    have hlock : (g.leave id).lock = g.lock.leave id := by
      simp [Gate.leave, contains_eq_isSome_stage?, hstage]
    refine ⟨hlock ▸ hg.lock.leave id, fun other => ?_, fun other hother => ?_⟩
    · rw [stage?_leave, hlock, hg.lock.ids_leave, List.mem_filter, ← hg.line, decide_eq_true_eq]
      by_cases ho : other = id
      · simp [ho]
      · simp [ho]
    · obtain ⟨hworks, ho⟩ := (works_leave g id other).1 hother
      have hholder := hg.held other hworks
      have hne : g.lock.holder ≠ some id := fun he => ho (Option.some.inj (he.symm.trans hholder))
      rw [hlock, Lock.leave, if_neg hne]
      exact hholder

/-- What may be done at a gate. -/
inductive Step (g : Gate) : Gate → Prop
  | stay : Step g g
  | enter (id : CallId) : Step g (g.enter id)
  | start (id : CallId) (h : g.mayStart id = true) : Step g (g.start id)
  | leave (id : CallId) : Step g (g.leave id)

theorem Sound.step (hg : g.Sound) (h : g.Step g') : g'.Sound := by
  cases h with
  | stay => exact hg
  | enter id => exact hg.enter id
  | start id h => exact hg.start h
  | leave id => exact hg.leave id

/-- Two calls do not work at a time. -/
theorem Sound.eq_of_works (hg : g.Sound) {a b : CallId} (ha : g.works a = true)
    (hb : g.works b = true) : a = b :=
  Option.some.inj ((hg.held a ha).symm.trans (hg.held b hb))

/-- While calls are at the gate, one of them works or may start. -/
theorem Sound.exists_next (hg : g.Sound) {id : CallId} (h : (g.stage? id).isSome) :
    ∃ next, g.mayStart next = true ∨ g.works next = true := by
  have hid := (hg.line id).1 h
  cases hholder : g.lock.holder with
  | none =>
    rw [Lock.ids, hholder, hg.lock.idle hholder] at hid
    cases hid
  | some next =>
    refine ⟨next, ?_⟩
    have hthere : (g.stage? next).isSome := (hg.line next).2 (by simp [Lock.ids, hholder])
    obtain ⟨stage, hstage⟩ := Option.isSome_iff_exists.1 hthere
    cases stage with
    | waiting => exact .inl (mayStart_iff.2 ⟨hstage, hholder⟩)
    | working => exact .inr (works_iff.2 hstage)

/-- A call that waits alone may start. -/
theorem Sound.mayStart_of_alone (hg : g.Sound) {id : CallId} (hid : g.stage? id = some .waiting)
    (halone : ∀ other, other ≠ id → g.stage? other = none) : g.mayStart id = true := by
  have honly : ∀ other stage, g.stage? other = some stage → other = id ∧ stage = .waiting := by
    intro other stage hother
    have he : other = id := by
      by_contra hne
      exact absurd ((halone other hne).symm.trans hother) nofun
    rw [he, hid] at hother
    exact ⟨he, (Option.some.inj hother).symm⟩
  obtain ⟨next, hnext | hnext⟩ := hg.exists_next (Option.isSome_of_mem hid)
  · rwa [← (honly next _ (mayStart_iff.1 hnext).1).1]
  · exact absurd (honly next _ (works_iff.1 hnext)).2 nofun

end Gate

end Entitlement
