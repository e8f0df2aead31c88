import Entitlement.Proofs.Service.Gather
import Entitlement.Service.Resolve
import Mathlib.Data.List.Forall2
import Mathlib.Data.List.Nodup

/-!
# What a request is answered with

* `View.parts` : the parts that a view was made of; `View.Collects` : they are what the tasks of a
  request hand over;
* `Quiet` : no task fails, and no limit is reached before the last one is done;
* `Task.SameUntil` : two tasks that fail alike up to an instant, whatever else they do;
* `Service.settle_of_quiet`, `Service.settle_of_not_quiet` : all parts, or the first event;
* `Service.exists_settle`, `collects_of_resolve` : a request is settled from the tasks of its parts,
  and its view collects them.
-/

namespace Entitlement

/-! ## Views and parts -/

def View.parts (v : View) : Parts
  | .roleMap => some v.roleMap
  | .overrides => some v.overrides
  | .roles => some v.roles
  | .resources => some v.resources
  | .tenantPermissions => v.tenantPermissions
  | .userPermissions => v.userPermissions

def View.Collects (v : View) (tasks : List Task) : Prop :=
  ∀ p, v.parts.Has p ↔ ∃ t ∈ tasks, t.outcome = .ok p

namespace Parts
variable {s : Parts} {v : View}

theorem assemble_of_has {m : RoleMap} {o : Overrides} {roles : List Role} {rs : List Resource}
    (hm : s .roleMap = some m) (ho : s .overrides = some o) (hroles : s .roles = some roles)
    (hrs : s .resources = some rs) : ∃ v, s.assemble = .ok v ∧ v.parts = s := by
  refine ⟨⟨roles, o, rs, m, s .tenantPermissions, s .userPermissions⟩, ?_, ?_⟩
  · unfold assemble
    rw [hm, ho, hroles, hrs]
    rfl
  · funext kind
    cases kind with
    | roleMap => exact hm.symm
    | overrides => exact ho.symm
    | roles => exact hroles.symm
    | resources => exact hrs.symm
    | tenantPermissions => rfl
    | userPermissions => rfl

end Parts

/-! ## Tasks of a request -/

def Quiet (limits : Limits) (tasks : List Task) : Prop :=
  failures tasks = [] ∧ ∀ e ∈ limits.events, lastEnd tasks ≤ e.instant.nanos

/-- Their answers may differ, and so may all that happens later. -/
structure Task.SameUntil (instant : Span) (t t' : Task) : Prop where
  kind : t.kind = t'.kind
  done_iff : t.instant.nanos ≤ instant.nanos ↔ t'.instant.nanos ≤ instant.nanos
  failure : t.instant.nanos ≤ instant.nanos → t.failure? = t'.failure?

theorem Task.kind_of_outcome {t : Task} {p : Part} (h : t.outcome = .ok p) : p.kind = t.kind := by
  unfold outcome at h
  split at h
  · cases h
    rfl
  · cases h

theorem Task.result_of_outcome {n : Nat} {kind : PartKind} {ending : Ending kind.Answer}
    {answer : kind.Answer} (h : (Task.mk n kind ending).outcome = .ok ⟨kind, answer⟩) :
    ending.result = .ok answer := by
  unfold outcome at h
  split at h
  · next hok =>
    cases h
    exact hok
  · cases h

theorem Task.exists_outcome_of_failure? {t : Task} (h : t.failure? = none) :
    ∃ answer, t.outcome = .ok ⟨t.kind, answer⟩ := by
  obtain ⟨p, hp⟩ := Event.ofResult?_eq_none.1 h
  obtain ⟨kind, answer⟩ := p
  obtain rfl : kind = t.kind := kind_of_outcome hp
  exact ⟨answer, hp⟩

namespace Gather
variable {limits : Limits} {tasks : List Task}

theorem brings_start (p : Part) : (start tasks).Brings p ↔ ∃ t ∈ tasks, t.outcome = .ok p := by
  unfold Brings
  exact ⟨fun h => h.elim nofun (Or.elim · nofun id), fun h => .inr (.inr h)⟩

theorem live_start (h : (tasks.map Task.kind).Nodup) : Live limits (start tasks) where
  clock_le t _ := Nat.zero_le _
  clock_le_limit e _ := Nat.zero_le _
  cancelled := nofun
  coherent p q hp hq he := by
    obtain ⟨t, ht, htp⟩ := (brings_start p).1 hp
    obtain ⟨u, hu, huq⟩ := (brings_start q).1 hq
    have hkind : t.kind = u.kind := by
      rw [← Task.kind_of_outcome htp, ← Task.kind_of_outcome huq, he]
    obtain rfl := List.inj_on_of_nodup_map h ht hu hkind
    exact Except.ok.inj (htp.symm.trans huq)

theorem events_start : (start tasks).events limits =
    failures tasks ++ limits.events.filter fun e => e.instant.nanos < lastEnd tasks := rfl

theorem events_start_eq_nil_iff : (start tasks).events limits = [] ↔ Quiet limits tasks := by
  rw [events_start, List.append_eq_nil_iff, List.filter_eq_nil_iff, Quiet]
  simp only [decide_eq_true_iff, Nat.not_lt]

end Gather

namespace Service
variable {σ : Type} {s : Service σ} {r : ViewRequest} {c : Cancellation} {tasks tasks' : List Task}

theorem settle_of_quiet (hkinds : tasks.map Task.kind = PartKind.asked r)
    (hq : Quiet (s.limits c) tasks) (w : World σ) :
    ∃ v, (s.settle r c tasks w).1 = ⟨.ok v, ⟨lastEnd tasks⟩⟩ ∧ v.Collects tasks := by
  have hnodup : (tasks.map Task.kind).Nodup := hkinds ▸ PartKind.nodup_asked r
  have hlive : Gather.Live (s.limits c) (.start tasks) := Gather.live_start hnodup
  rcases Gather.run_verdict hlive with ⟨e, hfirst, -⟩ | ⟨-, parts, ho, hhas⟩
  · rw [Gather.events_start_eq_nil_iff.2 hq] at hfirst
    cases hfirst.mem
  · have hpart : ∀ kind ∈ PartKind.asked r, ∃ answer : kind.Answer, parts kind = some answer := by
      intro kind hkind
      rw [← hkinds, List.mem_map] at hkind
      obtain ⟨t, ht, rfl⟩ := hkind
      have hnone : t.failure? = none := List.filterMap_eq_nil_iff.1 hq.1 t ht
      obtain ⟨answer, hanswer⟩ := Task.exists_outcome_of_failure? hnone
      exact ⟨answer, (hhas ⟨t.kind, answer⟩).2 ((Gather.brings_start _).2 ⟨t, ht, hanswer⟩)⟩
    obtain ⟨m, hm⟩ := hpart .roleMap (by simp [PartKind.asked])
    obtain ⟨o, hover⟩ := hpart .overrides (by simp [PartKind.asked])
    obtain ⟨roles, hroles⟩ := hpart .roles (by simp [PartKind.asked])
    obtain ⟨rs, hrs⟩ := hpart .resources (by simp [PartKind.asked])
    obtain ⟨v, hassemble, hparts⟩ := Parts.assemble_of_has hm hover hroles hrs
    refine ⟨v, ?_, fun p => ?_⟩
    · unfold settle
      rw [ho]
      dsimp only
      rw [hassemble]
      rfl
    · rw [hparts, hhas, Gather.brings_start]

theorem settle_of_not_quiet (hkinds : tasks.map Task.kind = PartKind.asked r)
    (hq : ¬ Quiet (s.limits c) tasks) (w : World σ) :
    ∃ e, Event.First e (failures tasks ++ (s.limits c).events) ∧
      (e ∈ failures tasks ∨ e.instant.nanos < lastEnd tasks) ∧
      (s.settle r c tasks w).1 = ⟨.error e.cause.error, e.instant⟩ := by
  have hnodup : (tasks.map Task.kind).Nodup := hkinds ▸ PartKind.nodup_asked r
  have hlive : Gather.Live (s.limits c) (.start tasks) := Gather.live_start hnodup
  rcases Gather.run_verdict hlive with ⟨e, hfirst, ho⟩ | ⟨hquiet, -⟩
  · rw [Gather.events_start] at hfirst
    refine ⟨e, hfirst.of_append_filter fun x hx => ?_, ?_, ?_⟩
    · obtain ⟨t, ht, hx⟩ := List.mem_filterMap.1 hx
      rw [Task.instant_of_failure? hx]
      exact lastEnd_le_iff.1 (Nat.le_refl _) t ht
    · rcases List.mem_append.1 hfirst.mem with he | he
      · exact .inl he
      · exact .inr (of_decide_eq_true (List.mem_filter.1 he).2)
    · unfold settle
      rw [ho]
  · exact absurd (Gather.events_start_eq_nil_iff.1 hquiet) hq

theorem quiet_of_settle {v : View} {w : World σ}
    (hkinds : tasks.map Task.kind = PartKind.asked r)
    (hv : (s.settle r c tasks w).1.result = .ok v) : Quiet (s.limits c) tasks := by
  by_contra hq
  obtain ⟨e, -, -, he⟩ := settle_of_not_quiet hkinds hq w
  rw [he] at hv
  cases hv

/-- A view is the assembly of the parts that were gathered. -/
theorem exists_assemble_of_settle {v : View} {w : World σ}
    (hv : (s.settle r c tasks w).1.result = .ok v) :
    ∃ parts, (Gather.run (s.limits c) (.start tasks)).result = .ok parts ∧
      parts.assemble = .ok v := by
  unfold settle at hv
  rcases hrun : (Gather.run (s.limits c) (.start tasks)).result with cause | parts
  · simp only [hrun] at hv
    cases hv
  · refine ⟨parts, rfl, ?_⟩
    rcases hparts : parts.assemble with e | v'
    · simp only [hrun, hparts] at hv
      cases hv
    · simp only [hrun, hparts] at hv
      cases hv
      rfl

theorem collects_of_settle {v : View} {w : World σ}
    (hkinds : tasks.map Task.kind = PartKind.asked r)
    (hv : (s.settle r c tasks w).1.result = .ok v) : v.Collects tasks := by
  obtain ⟨u, hu, hcollects⟩ := settle_of_quiet hkinds (quiet_of_settle hkinds hv) w
  rw [hu] at hv
  cases hv
  exact hcollects

theorem map_kind_spawn (n : Nat) (kinds : List PartKind) (w : World σ) :
    (s.spawn r n kinds w).1.map Task.kind = kinds := by
  induction kinds generalizing n w with
  | nil => rfl
  | cons kind kinds ih => exact congrArg (kind :: ·) (ih _ _)

/-- Each task did its part of the request, in a state that the parts before it have left. -/
theorem exists_ending_of_mem_spawn {P : σ → Prop}
    (hP : ∀ kind w, P w.state → P ((s.part r kind).run w).2.state) {n : Nat}
    {kinds : List PartKind} {w : World σ} (hw : P w.state) {t : Task}
    (ht : t ∈ (s.spawn r n kinds w).1) :
    ∃ w₁, P w₁.state ∧ t.ending = (s.ending r t.kind w₁).1 := by
  induction kinds generalizing n w with
  | nil => cases ht
  | cons kind kinds ih =>
    rcases List.mem_cons.1 ht with rfl | ht
    · exact ⟨w, hw, rfl⟩
    · exact ih (hP kind w hw) ht

/-- What a task hands over, its part comes to in such a state. -/
theorem exists_run_of_mem_spawn {P : σ → Prop}
    (hP : ∀ kind w, P w.state → P ((s.part r kind).run w).2.state) {n : Nat}
    {kinds : List PartKind} {w : World σ} (hw : P w.state) {t : Task} {p : Part}
    (ht : t ∈ (s.spawn r n kinds w).1) (hp : t.outcome = .ok p) :
    ∃ w₁, P w₁.state ∧ ((s.part r p.kind).run w₁).1 = .ok p.answer := by
  obtain ⟨w₁, hw₁, hending⟩ := exists_ending_of_mem_spawn hP hw ht
  obtain ⟨number, kind, ending⟩ := t
  obtain ⟨kind', answer⟩ := p
  obtain rfl : kind' = kind := Task.kind_of_outcome hp
  have hresult : ending.result = ((s.part r kind').run w₁).1 := congrArg Ending.result hending
  exact ⟨w₁, hw₁, hresult ▸ Task.result_of_outcome hp⟩

/-- What was not given up before is settled, from the tasks of all parts. -/
theorem exists_settle {w : World σ} (hc : c ≠ .before) : ∃ tasks w₁ w₂,
    s.spawn r (w.tasks + 1) (PartKind.asked r) (w.logged [started r]) = (tasks, w₁) ∧
      tasks.map Task.kind = PartKind.asked r ∧ w₂.journal = w₁.journal ∧
      s.resolve r c w = s.settle r c tasks w₂ := by
  have hkinds := map_kind_spawn (s := s) (r := r) (w.tasks + 1) (PartKind.asked r)
    (w.logged [started r])
  rcases hspawn : s.spawn r (w.tasks + 1) (PartKind.asked r) (w.logged [started r]) with ⟨tasks, w₁⟩
  rw [hspawn] at hkinds
  refine ⟨tasks, w₁, { w₁ with tasks := w₁.tasks + tasks.length }, rfl, hkinds, rfl, ?_⟩
  unfold resolve
  rw [if_neg hc, hspawn]

theorem ne_before_of_resolve {v : View} {w : World σ}
    (hv : (s.resolve r c w).1.result = .ok v) : c ≠ .before := by
  rintro rfl
  unfold resolve at hv
  rw [if_pos rfl] at hv
  cases hv

/-- A view that a request is answered with collects the parts of its own tasks. -/
theorem collects_of_resolve {v : View} {w : World σ} (hv : (s.resolve r c w).1.result = .ok v) :
    v.Collects (s.spawn r (w.tasks + 1) (PartKind.asked r) (w.logged [started r])).1 := by
  obtain ⟨tasks, w₁, w₂, hspawn, hkinds, -, hresolve⟩ := exists_settle (s := s) (r := r) (w := w)
    (ne_before_of_resolve hv)
  rw [hresolve] at hv
  rw [hspawn]
  exact collects_of_settle hkinds hv

/-! ## Earlier events only -/

theorem failures_eq_of_sameUntil {instant : Span}
    (h : List.Forall₂ (Task.SameUntil instant) tasks tasks') :
    (failures tasks).filter (fun e => e.instant.nanos ≤ instant.nanos) =
      (failures tasks').filter fun e => e.instant.nanos ≤ instant.nanos := by
  unfold failures
  rw [List.filter_filterMap, List.filter_filterMap]
  induction h with
  | nil => rfl
  | @cons t t' tasks tasks' ht _ ih =>
    have hsame : t.failure?.filter (fun e => e.instant.nanos ≤ instant.nanos) =
        t'.failure?.filter fun e => e.instant.nanos ≤ instant.nanos := by
      rw [Task.filter_failure? (·.nanos ≤ instant.nanos),
        Task.filter_failure? (·.nanos ≤ instant.nanos)]
      by_cases hle : t.instant.nanos ≤ instant.nanos
      · rw [if_pos (decide_eq_true hle), if_pos (decide_eq_true (ht.done_iff.1 hle)),
          ht.failure hle]
      · rw [if_neg (by simpa using hle), if_neg (by simpa using mt ht.done_iff.2 hle)]
    rw [List.filterMap_cons, List.filterMap_cons, hsame, ih]

theorem first_of_sameUntil {e : Event} {limits : Limits}
    (h : List.Forall₂ (Task.SameUntil e.instant) tasks tasks')
    (he : e.First (failures tasks ++ limits.events)) :
    e.First (failures tasks' ++ limits.events) := by
  rw [← Event.first_filter_iff (q := fun x => x.instant.nanos ≤ e.instant.nanos) (by simp)] at he ⊢
  rw [List.filter_append] at he ⊢
  rwa [← failures_eq_of_sameUntil h]

theorem lastEnd_le_of_sameUntil {instant : Span}
    (h : List.Forall₂ (Task.SameUntil instant) tasks tasks')
    (hle : lastEnd tasks' ≤ instant.nanos) : lastEnd tasks ≤ instant.nanos := by
  rw [lastEnd_le_iff] at hle ⊢
  induction h with
  | nil => exact hle
  | cons ht _ ih =>
    rw [List.forall_mem_cons] at hle ⊢
    exact ⟨ht.done_iff.2 hle.1, ih hle.2⟩

theorem map_kind_of_sameUntil {instant : Span}
    (h : List.Forall₂ (Task.SameUntil instant) tasks tasks') :
    tasks.map Task.kind = tasks'.map Task.kind := by
  rw [← List.forall₂_eq_eq_eq, List.forall₂_map_left_iff, List.forall₂_map_right_iff]
  exact h.imp fun _ _ ht => ht.kind

theorem not_quiet_of_sameUntil {e : Event} {limits : Limits}
    (h : List.Forall₂ (Task.SameUntil e.instant) tasks tasks')
    (he : e.First (failures tasks ++ limits.events))
    (hin : e ∈ failures tasks ∨ e.instant.nanos < lastEnd tasks) : ¬ Quiet limits tasks' := by
  rintro ⟨hnone, hlimits⟩
  have hfailure : e ∉ failures tasks := by
    intro hmem
    have hkept : e ∈ (failures tasks).filter fun x => x.instant.nanos ≤ e.instant.nanos :=
      List.mem_filter.2 ⟨hmem, decide_eq_true (Nat.le_refl _)⟩
    rw [failures_eq_of_sameUntil h, hnone] at hkept
    cases hkept
  have hlt := hin.resolve_left hfailure
  have hlimit := (List.mem_append.1 he.mem).resolve_left hfailure
  have hle := lastEnd_le_of_sameUntil h (hlimits e hlimit)
  omega

/-- **All or nothing, and the first event decides.** A request that was cancelled before does
nothing. Any other one starts a task for each part. If none fails and no limit is reached before the
last is done, the view collects all parts at that instant. Otherwise the first of the failures, the
cancellation and the timeout is the answer, at its own instant, of two failures at one instant the
one of the task started first; and no answer of a part and nothing that happens later changes it. -/
theorem resolve_first_event (s : Service σ) (r : ViewRequest) (c : Cancellation) (w : World σ) :
    s.resolve r .before w = (⟨.error .cancelled, ⟨0⟩⟩, w) ∧
    (c ≠ .before → ∃ w', s.resolve r c w = s.settle r c
      (s.spawn r (w.tasks + 1) (PartKind.asked r) (w.logged [started r])).1 w') ∧
    (∀ n w, (s.spawn r n (PartKind.asked r) w).1.map Task.kind = PartKind.asked r) ∧
    ∀ tasks w, tasks.map Task.kind = PartKind.asked r →
      (Quiet (s.limits c) tasks → ∃ v,
        (s.settle r c tasks w).1 = ⟨.ok v, ⟨lastEnd tasks⟩⟩ ∧ v.Collects tasks) ∧
      (¬ Quiet (s.limits c) tasks → ∃ e,
        Event.First e (failures tasks ++ (s.limits c).events) ∧
        (s.settle r c tasks w).1 = ⟨.error e.cause.error, e.instant⟩ ∧
        ∀ tasks' w', List.Forall₂ (Task.SameUntil e.instant) tasks tasks' →
          (s.settle r c tasks' w').1 = (s.settle r c tasks w).1) := by
  refine ⟨if_pos rfl, fun hc => ⟨_, if_neg hc⟩, fun n w => map_kind_spawn n _ w, ?_⟩
  intro tasks w hkinds
  refine ⟨fun hq => settle_of_quiet hkinds hq w, fun hq => ?_⟩
  obtain ⟨e, he, hin, hsettle⟩ := settle_of_not_quiet hkinds hq w
  refine ⟨e, he, hsettle, fun tasks' w' hsame => ?_⟩
  have hkinds' : tasks'.map Task.kind = PartKind.asked r :=
    (map_kind_of_sameUntil hsame).symm.trans hkinds
  obtain ⟨e', he', -, hsettle'⟩ :=
    settle_of_not_quiet hkinds' (not_quiet_of_sameUntil hsame he hin) w'
  obtain rfl := he'.unique (first_of_sameUntil hsame he)
  rw [hsettle, hsettle']

end Service

end Entitlement
