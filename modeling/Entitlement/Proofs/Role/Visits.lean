import Entitlement.Proofs.Role.Canonical
import Mathlib.Algebra.Order.BigOperators.Group.Finset

/-!
# The visits of a search

A search calls itself for each child of a role, and carries its marks and its path from one call to
the next. Here every call is taken by itself: what it finds, and what it leaves behind.

* `RoleVisit` : one call, with the search before it and what it comes to; `entered` : the roles
  that visits meet for the first time;
* `RoleMap.Visits` : the visits that exploring roles in turn makes, one rule for each way that the
  first of them can go; `RoleMap.exists_visits` : there is always such a list, so the search ends;
* `Search.Restores` : what a visit that reports no cycle leaves as it was, and what it has finished;
* `RoleMap.Visits.nodup_entered`, `RoleMap.Visits.length_le` : no role is entered twice, and there
  are no more visits than roles given and children of roles entered;
* `RoleMap.findCycle_frames` : **every call in the search for a cycle finds the marks and the path
  sound, and gives them back unless it reports a cycle.**
-/

namespace Entitlement
open Relation (ReflTransGen TransGen)

/-- One call of the search for one role. -/
structure RoleVisit where
  id : RoleId
  before : Search
  outcome : Except (List RoleId) Search

/-- The role is met for the first time: it goes onto the path, and its children are looked at. -/
def RoleVisit.enters (v : RoleVisit) : Bool := (v.before.mark v.id).isNone

/-- The roles entered, in order. -/
def entered (vs : List RoleVisit) : List RoleId := (vs.filter RoleVisit.enters).map RoleVisit.id

theorem entered_append (vs vs' : List RoleVisit) :
    entered (vs ++ vs') = entered vs ++ entered vs' := by
  unfold entered
  rw [List.filter_append, List.map_append]

section Entered
variable {s : Search} {id : RoleId} {vs : List RoleVisit} {outcome : Except (List RoleId) Search}

theorem entered_cons_of_none (h : s.mark id = none) :
    entered (⟨id, s, outcome⟩ :: vs) = id :: entered vs := by
  unfold entered
  rw [List.filter_cons_of_pos (by simp [RoleVisit.enters, h])]
  rfl

theorem entered_cons_of_some {m : Mark} (h : s.mark id = some m) :
    entered (⟨id, s, outcome⟩ :: vs) = entered vs := by
  unfold entered
  rw [List.filter_cons_of_neg (by simp [RoleVisit.enters, h])]

end Entered

namespace Search
variable {g : RoleMap} {s t : Search} {id j : RoleId}

theorem mark_enter_eq_none_iff : (s.enter id).mark j = none ↔ j ≠ id ∧ s.mark j = none := by
  by_cases hj : j = id
  · subst hj; simp
  · rw [mark_enter_of_ne hj]; simp [hj]

theorem mark_leave_eq_none_iff : (s.leave id).mark j = none ↔ j ≠ id ∧ s.mark j = none := by
  by_cases hj : j = id
  · subst hj; simp
  · rw [mark_leave_of_ne hj]; simp [hj]

/-- What the search of a role that reports no cycle leaves behind. -/
structure Restores (g : RoleMap) (id : RoleId) (s t : Search) : Prop where
  path : t.path = s.path
  kept : Extends s t
  onPath : ∀ j, t.mark j = some .onPath → s.mark j = some .onPath
  finished : ∀ j, ReflTransGen g.Edge id j → t.mark j = some .finished

/-- The path nests no deeper than there are roles with nodes. -/
theorem Sound.length_path_le (h : Sound g s) (hl : s.Leads g id) : s.path.length ≤ g.size := by
  have hsub : s.path ⊆ g.keys := fun a ha => RoleMap.mem_keys_of_isChain (h.isChain_concat hl) ha
  calc s.path.length ≤ g.keys.length := (h.distinct.subperm hsub).length_le
    _ = g.size := List.length_map _

end Search

namespace RoleMap
open Search

/-- The children that a role's node names; none without a node. -/
def childrenOf (g : RoleMap) (id : RoleId) : List RoleId :=
  ((g.find? id).map RoleNode.children).getD []

/-- How many children the nodes name, with repetitions. -/
def edgeCount (g : RoleMap) : Nat := (g.rows.map fun n => n.inherits.length).sum

/-- Exploring roles in turn makes these visits and comes to this outcome. -/
inductive Visits (g : RoleMap) :
    List RoleId → Search → List RoleVisit → Except (List RoleId) Search → Prop
  | done (s : Search) : g.Visits [] s [] (.ok s)
  /-- The first role is on the path. -/
  | closes {id : RoleId} {rest : List RoleId} {s : Search} {cycle : List RoleId}
      (hm : s.mark id = some .onPath) (hloop : s.loopAt? id = some cycle) :
      g.Visits (id :: rest) s [⟨id, s, .error cycle⟩] (.error cycle)
  /-- The first role is known, and closes no cycle. -/
  | passes {id : RoleId} {rest : List RoleId} {s : Search} {m : Mark} {vs : List RoleVisit}
      {r : Except (List RoleId) Search} (hm : s.mark id = some m)
      (hloop : m = .onPath → s.loopAt? id = none) (next : g.Visits rest s vs r) :
      g.Visits (id :: rest) s (⟨id, s, .ok s⟩ :: vs) r
  /-- The first role is new, and there is a cycle below it. -/
  | stops {id : RoleId} {rest : List RoleId} {s : Search} {vs : List RoleVisit}
      {cycle : List RoleId} (hm : s.mark id = none)
      (down : g.Visits (g.childrenOf id) (s.enter id) vs (.error cycle)) :
      g.Visits (id :: rest) s (⟨id, s, .error cycle⟩ :: vs) (.error cycle)
  /-- The first role is new, and there is no cycle below it. -/
  | returns {id : RoleId} {rest : List RoleId} {s t : Search} {vs vs' : List RoleVisit}
      {r : Except (List RoleId) Search} (hm : s.mark id = none)
      (down : g.Visits (g.childrenOf id) (s.enter id) vs (.ok t))
      (next : g.Visits rest (t.leave id) vs' r) :
      g.Visits (id :: rest) s (⟨id, s, .ok (t.leave id)⟩ :: (vs ++ vs')) r

section Visits
variable {g : RoleMap} {id : RoleId} {ids : List RoleId} {s t : Search} {vs : List RoleVisit}
  {r : Except (List RoleId) Search}

theorem childrenOf_of_find? {n : RoleNode} (hn : g.find? id = some n) :
    g.childrenOf id = n.children := by
  rw [childrenOf, hn]
  rfl

theorem childrenOf_of_none (hn : g.find? id = none) : g.childrenOf id = [] := by
  rw [childrenOf, hn]
  rfl

theorem mem_childrenOf {b : RoleId} : b ∈ g.childrenOf id ↔ g.Edge id b := by
  cases hn : g.find? id with
  | none => simp [childrenOf_of_none hn, not_edge hn]
  | some n => rw [childrenOf_of_find? hn, edge_iff hn]

theorem leads_childrenOf : ∀ b ∈ g.childrenOf id, (s.enter id).Leads g b := by
  intro b hb
  obtain ⟨n, hn, hb⟩ := mem_childrenOf.1 hb
  exact leads_enter hn hb

/-! ## The search and its visits -/

/-- Below a role that is met for the first time, and then the rest. -/
theorem explore_cons_of_none (hm : s.mark id = none) (rest : List RoleId) :
    (g.explore (id :: rest) s).1 = (g.explore (g.childrenOf id) (s.enter id)).1 >>= fun t =>
      (g.explore rest (t.leave id)).1 := by
  rw [explore_cons]
  simp only [hm]
  cases hn : g.find? id with
  | none => rw [childrenOf_of_none hn, explore]; rfl
  | some n => rw [childrenOf_of_find? hn]

/-- **The search ends**: it makes a list of visits, and comes to what they come to. -/
theorem exists_visits (g : RoleMap) (ids : List RoleId) (s : Search) :
    ∃ vs, g.Visits ids s vs (g.explore ids s).1 := by
  fun_induction g.explore ids s with
  | case1 s => exact ⟨[], .done s⟩
  | case2 s id rest hm cycle hc => exact ⟨_, .closes hm hc⟩
  | case3 s id rest hm hc ih =>
    obtain ⟨vs, next⟩ := ih
    exact ⟨_, .passes hm (fun _ => hc) next⟩
  | case4 s id rest hm ih =>
    obtain ⟨vs, next⟩ := ih
    exact ⟨_, .passes hm (fun h => by cases h) next⟩
  | case5 s id rest hm hn r ih =>
    obtain ⟨vs, next⟩ := ih
    have down : g.Visits (g.childrenOf id) (s.enter id) [] (.ok (s.enter id)) := by
      rw [childrenOf_of_none hn]
      exact .done _
    exact ⟨_, .returns hm down next⟩
  | case6 s id rest hm node hn cycle hc hx down =>
    obtain ⟨vs, down⟩ := down
    rw [hx, ← childrenOf_of_find? hn] at down
    exact ⟨_, .stops hm down⟩
  | case7 s id rest hm node hn t ht hx r down next =>
    obtain ⟨vs, down⟩ := down
    obtain ⟨vs', next⟩ := next
    rw [hx, ← childrenOf_of_find? hn] at down
    exact ⟨_, .returns hm down next⟩

theorem Visits.outcome_eq (h : g.Visits ids s vs r) : r = (g.explore ids s).1 := by
  induction h with
  | done s => rw [explore]
  | closes hm hloop => simp only [explore_cons, hm, hloop]
  | @passes id rest s m vs r hm hloop next ih =>
    rw [ih, explore_cons]
    cases m with
    | onPath => simp only [hm, hloop rfl]
    | finished => simp only [hm]
  | stops hm down ih =>
    rw [explore_cons_of_none hm, ← ih]
    rfl
  | returns hm down next ihdown ihnext =>
    rw [explore_cons_of_none hm, ← ihdown, ihnext]
    rfl

/-- Each visit comes to what exploring its role alone comes to. -/
theorem Visits.visit_eq (h : g.Visits ids s vs r) :
    ∀ v ∈ vs, v.outcome = (g.explore [v.id] v.before).1 := by
  induction h with
  | done s => nofun
  | closes hm hloop => exact List.forall_mem_singleton.2 (Visits.closes hm hloop).outcome_eq
  | passes hm hloop next ih =>
    exact List.forall_mem_cons.2 ⟨(Visits.passes hm hloop (.done _)).outcome_eq, ih⟩
  | stops hm down ih => exact List.forall_mem_cons.2 ⟨(Visits.stops hm down).outcome_eq, ih⟩
  | returns hm down next ihdown ihnext =>
    refine List.forall_mem_cons.2 ⟨(Visits.returns hm down (.done _)).outcome_eq, ?_⟩
    exact List.forall_mem_append.2 ⟨ihdown, ihnext⟩

/-! ## What a visit finds, and what it leaves -/

/-- A visit that starts on a sound search and reports no cycle. -/
theorem restores_of_explore (hs : s.Sound g) (hl : s.Leads g id)
    (h : (g.explore [id] s).1 = .ok t) : t.Sound g ∧ Restores g id s t := by
  have hexplored := g.explore_exact [id] s hs (List.forall_mem_singleton.2 hl)
  rw [h] at hexplored
  obtain ⟨hsound, hpath, hkept, hfinished⟩ := hexplored
  refine ⟨hsound, hpath, hkept, ?_, ?_⟩
  · intro j hj
    rw [hs.onPath, ← hpath, ← hsound.onPath]
    exact hj
  · intro j hj
    exact hsound.finished_of_reflTransGen (hfinished id List.mem_cons_self) hj

/-- Every visit finds the search sound, at a role that can be entered next. The induction follows
the visits: into those below a role that is entered, and on to those after it is left. -/
theorem Visits.sound (h : g.Visits ids s vs r) (hs : s.Sound g) (hl : ∀ id ∈ ids, s.Leads g id) :
    ∀ v ∈ vs, v.before.Sound g ∧ v.before.Leads g v.id := by
  induction h with
  | done s => nofun
  | closes hm hloop => exact List.forall_mem_singleton.2 ⟨hs, hl _ List.mem_cons_self⟩
  | passes hm hloop next ih =>
    obtain ⟨hid, hrest⟩ := List.forall_mem_cons.1 hl
    exact List.forall_mem_cons.2 ⟨⟨hs, hid⟩, ih hs hrest⟩
  | stops hm down ih =>
    have hid := hl _ List.mem_cons_self
    exact List.forall_mem_cons.2 ⟨⟨hs, hid⟩, ih (hs.enter hm hid) leads_childrenOf⟩
  | @returns id rest s t vs vs' r hm down next ihdown ihnext =>
    obtain ⟨hid, hrest⟩ := List.forall_mem_cons.1 hl
    have hvisit := (Visits.returns hm down (.done (t.leave id))).outcome_eq
    obtain ⟨hleft, hrestores⟩ := restores_of_explore hs hid hvisit.symm
    refine List.forall_mem_cons.2 ⟨⟨hs, hid⟩, List.forall_mem_append.2 ⟨?_, ?_⟩⟩
    · exact ihdown (hs.enter hm hid) leads_childrenOf
    · refine ihnext hleft fun j hj => ?_
      rw [Leads, hrestores.path]
      exact hrest j hj

/-! ## How often a role is entered -/

/-- What has no mark in the end had none before, and has not been entered. -/
theorem Visits.mark_eq_none_iff (h : g.Visits ids s vs r) (hr : r = .ok t) {j : RoleId} :
    t.mark j = none ↔ s.mark j = none ∧ j ∉ entered vs := by
  induction h generalizing t with
  | done s =>
    cases hr
    simp [entered]
  | closes => cases hr
  | passes hm hloop next ih => rw [ih hr, entered_cons_of_some hm]
  | stops => cases hr
  | returns hm down next ihdown ihnext =>
    rw [ihnext hr, mark_leave_eq_none_iff, ihdown rfl, mark_enter_eq_none_iff,
      entered_cons_of_none hm, entered_append, List.mem_cons, List.mem_append]
    tauto

/-- Only roles without a mark are entered. -/
theorem Visits.mark_of_mem_entered (h : g.Visits ids s vs r) {j : RoleId} (hj : j ∈ entered vs) :
    s.mark j = none := by
  induction h with
  | done s => cases hj
  | closes hm hloop =>
    rw [entered_cons_of_some hm] at hj
    cases hj
  | passes hm hloop next ih =>
    rw [entered_cons_of_some hm] at hj
    exact ih hj
  | stops hm down ih =>
    rw [entered_cons_of_none hm, List.mem_cons] at hj
    rcases hj with rfl | hj
    · exact hm
    · exact (mark_enter_eq_none_iff.1 (ih hj)).2
  | returns hm down next ihdown ihnext =>
    rw [entered_cons_of_none hm, entered_append, List.mem_cons, List.mem_append] at hj
    rcases hj with rfl | hj | hj
    · exact hm
    · exact (mark_enter_eq_none_iff.1 (ihdown hj)).2
    · have hunmarked := (mark_leave_eq_none_iff.1 (ihnext hj)).2
      exact (mark_enter_eq_none_iff.1 ((down.mark_eq_none_iff rfl).1 hunmarked).1).2

theorem Visits.not_mem_entered (h : g.Visits ids s vs r) {j : RoleId} {m : Mark}
    (hm : s.mark j = some m) : j ∉ entered vs := by
  intro hj
  rw [h.mark_of_mem_entered hj] at hm
  cases hm

/-- **No role is entered twice**: it has a mark from then on. -/
theorem Visits.nodup_entered (h : g.Visits ids s vs r) : (entered vs).Nodup := by
  induction h with
  | done s => exact List.nodup_nil
  | closes hm hloop =>
    rw [entered_cons_of_some hm]
    exact List.nodup_nil
  | passes hm hloop next ih =>
    rw [entered_cons_of_some hm]
    exact ih
  | stops hm down ih =>
    rw [entered_cons_of_none hm, List.nodup_cons]
    exact ⟨down.not_mem_entered mark_enter_self, ih⟩
  | returns hm down next ihdown ihnext =>
    rw [entered_cons_of_none hm, entered_append, List.nodup_cons, List.nodup_append,
      List.mem_append]
    refine ⟨?_, ihdown, ihnext, ?_⟩
    · rintro (hid | hid)
      · exact down.not_mem_entered mark_enter_self hid
      · exact next.not_mem_entered mark_leave_self hid
    · -- what is entered below has a mark when the rest begins
      rintro j hj _ hj' rfl
      have hunmarked := (mark_leave_eq_none_iff.1 (next.mark_of_mem_entered hj')).2
      exact ((down.mark_eq_none_iff rfl).1 hunmarked).2 hj

/-! ## How many visits there are -/

/-- Each visit is to one of the roles given, or to a child of a role that is entered. -/
theorem Visits.length_le (h : g.Visits ids s vs r) :
    vs.length ≤ ids.length + ((entered vs).map fun id => (g.childrenOf id).length).sum := by
  induction h with
  | done s => exact Nat.zero_le _
  | closes hm hloop =>
    simp only [List.length_cons, List.length_nil]
    omega
  | passes hm hloop next ih =>
    rw [entered_cons_of_some hm]
    simp only [List.length_cons]
    omega
  | stops hm down ih =>
    rw [entered_cons_of_none hm]
    simp only [List.length_cons, List.map_cons, List.sum_cons]
    omega
  | returns hm down next ihdown ihnext =>
    rw [entered_cons_of_none hm, entered_append]
    simp only [List.length_cons, List.length_append, List.map_cons, List.map_append, List.sum_cons,
      List.sum_append]
    omega

/-- Distinct roles have no more children than there are in all. -/
theorem sum_length_childrenOf_le (h : ids.Nodup) :
    (ids.map fun id => (g.childrenOf id).length).sum ≤ g.edgeCount := by
  have hall : g.edgeCount = (g.keys.map fun id => (g.childrenOf id).length).sum := by
    unfold edgeCount Table.keys
    rw [List.map_map]
    congr 1
    apply List.map_congr_left
    intro n hn
    have hfind : g.find? n.id = some n := Table.find?_eq_some_iff.2 ⟨hn, rfl⟩
    show _ = (g.childrenOf n.id).length
    rw [childrenOf_of_find? hfind]
    exact (List.length_map _).symm
  have hkeys : g.keys.Nodup := g.distinct
  rw [hall, ← List.sum_toFinset _ h, ← List.sum_toFinset _ hkeys]
  apply Finset.sum_le_sum_of_ne_zero
  intro id _ hne
  rw [List.mem_toFinset]
  obtain ⟨b, hb⟩ := List.length_pos_iff_exists_mem.1 (Nat.pos_of_ne_zero hne)
  exact (mem_childrenOf.1 hb).mem_keys

end Visits

/-- **Each call finds the search sound, and gives it back unless it reports a cycle.** The search
for a cycle makes a list of visits, and reports the cycle that they come to. Each one finds on the
path what is marked so, without repetition and along edges, and below what is finished only what is
finished. If it reports no cycle, the path is as before, every mark is kept, and new ones are of
finished roles, among them its own and all that it leads to. No role is entered twice, so there is
at most one visit for each role and for each child that a node names. -/
theorem findCycle_frames (g : RoleMap) :
    (∃ vs r, g.Visits (sortIds g.keys) .start vs r) ∧
    ∀ vs r, g.Visits (sortIds g.keys) .start vs r →
      (∀ cycle, g.findCycle = some cycle ↔ r = .error cycle) ∧
      (∀ v ∈ vs, v.outcome = (g.explore [v.id] v.before).1 ∧ v.before.Sound g ∧
        v.before.path.length ≤ g.size ∧
        ∀ t, v.outcome = .ok t → Restores g v.id v.before t) ∧
      (entered vs).Nodup ∧ vs.length ≤ g.size + g.edgeCount := by
  refine ⟨?_, ?_⟩
  · obtain ⟨vs, hvs⟩ := g.exists_visits (sortIds g.keys) .start
    exact ⟨vs, _, hvs⟩
  · intro vs r h
    have hvisits := h.sound (.start g) fun _ _ _ hp => by cases hp
    refine ⟨?_, ?_, h.nodup_entered, ?_⟩
    · intro cycle
      unfold findCycle
      rw [← h.outcome_eq]
      cases r <;> simp
    · intro v hv
      obtain ⟨hs, hl⟩ := hvisits v hv
      have hvisit := h.visit_eq v hv
      refine ⟨hvisit, hs, hs.length_path_le hl, ?_⟩
      intro t ht
      exact (restores_of_explore hs hl (hvisit.symm.trans ht)).2
    · have hroots : (sortIds g.keys).length = g.size :=
        (List.length_mergeSort _).trans (List.length_map _)
      calc vs.length
          ≤ (sortIds g.keys).length +
              ((entered vs).map fun id => (g.childrenOf id).length).sum := h.length_le
        _ ≤ g.size + g.edgeCount := by
          rw [hroots]
          exact Nat.add_le_add_left (sum_length_childrenOf_le h.nodup_entered) _

/-- A chief inherits from a groom, whose stall has no node, and from a vet, who inherits from the
chief. -/
def forkMap : RoleMap :=
  .ofRows [bareNode "chief" ["groom", "vet"], bareNode "groom" ["stall"], bareNode "vet" ["chief"]]

/-- The groom is visited below the chief and given back; below the vet the chief is met again. -/
theorem findCycle_frames_fork :
    ∃ vs, forkMap.Visits (sortIds forkMap.keys) .start vs (.error ["chief", "vet", "chief"]) ∧
      vs.map RoleVisit.id = ["chief", "groom", "stall", "vet", "chief"] ∧
      forkMap.findCycle = some ["chief", "vet", "chief"] ∧
      (∃ v ∈ vs, v.id = "groom" ∧ v.before.path = ["chief"] ∧
        ∃ t, v.outcome = .ok t ∧ Restores forkMap "groom" v.before t) ∧
      (entered vs).Nodup ∧ vs.length ≤ 3 + 4 := by
  have hkeys : forkMap.keys = ["chief", "groom", "vet"] := by decide +kernel
  have hroots : sortIds forkMap.keys = ["chief", "groom", "vet"] := by
    rw [hkeys]
    exact List.mergeSort_of_pairwise (by decide +kernel)
  have hchief : forkMap.childrenOf "chief" = ["groom", "vet"] := by decide +kernel
  have hgroom : forkMap.childrenOf "groom" = ["stall"] := by decide +kernel
  have hstall : forkMap.childrenOf "stall" = [] := by decide +kernel
  have hvet : forkMap.childrenOf "vet" = ["chief"] := by decide +kernel
  -- the search below the chief, after the stall, and after the groom
  let chief := Search.start.enter "chief"
  let stall := ((chief.enter "groom").enter "stall").leave "stall"
  let groom := stall.leave "groom"
  let stopped : Except (List RoleId) Search := .error ["chief", "vet", "chief"]
  have install : forkMap.Visits (forkMap.childrenOf "stall") ((chief.enter "groom").enter "stall")
      [] (.ok ((chief.enter "groom").enter "stall")) := by
    rw [hstall]
    exact .done _
  have bygroom : forkMap.Visits (forkMap.childrenOf "groom") (chief.enter "groom")
      [⟨"stall", chief.enter "groom", .ok stall⟩] (.ok stall) := by
    rw [hgroom]
    exact .returns (by decide +kernel) install (.done _)
  have byvet : forkMap.Visits (forkMap.childrenOf "vet") (groom.enter "vet")
      [⟨"chief", groom.enter "vet", stopped⟩] stopped := by
    rw [hvet]
    exact .closes (by decide +kernel) (by decide +kernel)
  have bychief : forkMap.Visits (forkMap.childrenOf "chief") chief
      [⟨"groom", chief, .ok groom⟩, ⟨"stall", chief.enter "groom", .ok stall⟩,
        ⟨"vet", groom, stopped⟩, ⟨"chief", groom.enter "vet", stopped⟩] stopped := by
    rw [hchief]
    exact .returns (by decide +kernel) bygroom (.stops (by decide +kernel) byvet)
  have visits : forkMap.Visits (sortIds forkMap.keys) .start
      [⟨"chief", .start, stopped⟩, ⟨"groom", chief, .ok groom⟩,
        ⟨"stall", chief.enter "groom", .ok stall⟩, ⟨"vet", groom, stopped⟩,
        ⟨"chief", groom.enter "vet", stopped⟩] stopped := by
    rw [hroots]
    exact .stops (by decide +kernel) bychief
  obtain ⟨hcycle, hvisit, hnodup, hlength⟩ := (findCycle_frames forkMap).2 _ _ visits
  have hback := (hvisit _ (List.mem_cons_of_mem _ List.mem_cons_self)).2.2.2 groom rfl
  refine ⟨_, visits, rfl, (hcycle _).2 rfl, ?_, hnodup, hlength⟩
  exact ⟨_, List.mem_cons_of_mem _ List.mem_cons_self, rfl, rfl, groom, rfl, hback⟩

end RoleMap

end Entitlement
