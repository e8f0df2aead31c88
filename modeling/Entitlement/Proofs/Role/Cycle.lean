import Entitlement.Role.Cycle
import Mathlib.Data.List.Chain
import Mathlib.Logic.Relation

/-!
# The search for a cycle is exact

* `RoleMap.Edge` : a role's node names another role as a child; `RoleMap.IsCycle` : a closed walk
  along edges that meets no role twice on its way;
* `Search.Sound` : what a search keeps: the roles on the path are those marked so, they follow one
  another along edges, and a finished role has finished children and lies on no cycle;
* `RoleMap.explore_exact` : exploring keeps it, finishes what it was given, and stops only at a
  cycle;
* `RoleMap.findCycle_exact` : a map without a reported cycle has none, and a reported one is real.
-/

namespace Entitlement
open Relation (ReflTransGen TransGen)

namespace RoleMap

/-- The node of a role names another role as a child, with a node of its own or not. -/
def Edge (g : RoleMap) (a b : RoleId) : Prop := ∃ n, g.find? a = some n ∧ b ∈ n.children

structure IsCycle (g : RoleMap) (c : List RoleId) : Prop where
  length : 2 ≤ c.length
  closed : c.head? = c.getLast?
  distinct : c.dropLast.Nodup
  nodes : ∀ a ∈ c, a ∈ g.keys
  edges : c.IsChain g.Edge

theorem Edge.mem_keys {g : RoleMap} {a b : RoleId} (h : g.Edge a b) : a ∈ g.keys :=
  mem_keys_of_find? h.choose_spec.1

theorem edge_iff {g : RoleMap} {a b : RoleId} {n : RoleNode} (hn : g.find? a = some n) :
    g.Edge a b ↔ b ∈ n.children := by
  constructor
  · rintro ⟨m, hm, hb⟩
    rw [hn, Option.some.injEq] at hm
    exact hm ▸ hb
  · exact fun hb => ⟨n, hn, hb⟩

theorem not_edge {g : RoleMap} {a b : RoleId} (hn : g.find? a = none) : ¬ g.Edge a b := by
  rintro ⟨m, hm, -⟩
  rw [hn] at hm
  cases hm

/-! ## Closed walks -/

/-- A walk from the first item of a list leads to each later one. -/
theorem transGen_of_mem {α : Type} {r : α → α → Prop} {a : α} :
    ∀ {l : List α} {b : α}, (a :: l).IsChain r → b ∈ l → TransGen r a b
  | [], _, _, hb => by cases hb
  | c :: l, b, h, hb => by
    rw [List.isChain_cons_cons] at h
    rcases List.mem_cons.1 hb with rfl | hb
    · exact .single h.1
    · exact .head h.1 (transGen_of_mem h.2 hb)

theorem exists_transGen_of_closed {α : Type} {r : α → α → Prop} {c : List α} (hlen : 2 ≤ c.length)
    (hclosed : c.head? = c.getLast?) (hedges : c.IsChain r) : ∃ a ∈ c, TransGen r a a := by
  match c, hlen with
  | a :: b :: l, _ =>
    refine ⟨a, List.mem_cons_self, transGen_of_mem hedges ?_⟩
    rw [List.head?_cons, List.getLast?_cons_cons, eq_comm, List.getLast?_eq_some_iff] at hclosed
    obtain ⟨_, hl⟩ := hclosed
    rw [hl]
    simp

theorem IsCycle.exists_mem_transGen {g : RoleMap} {c : List RoleId} (h : g.IsCycle c) :
    ∃ a ∈ c, TransGen g.Edge a a := exists_transGen_of_closed h.length h.closed h.edges

theorem IsCycle.transGen {g : RoleMap} {c : List RoleId} (h : g.IsCycle c) :
    ∃ a, TransGen g.Edge a a := h.exists_mem_transGen.imp fun _ ha => ha.2

/-- Every role of a chain before its end has a node, for it has an edge out of it. -/
theorem mem_keys_of_isChain {g : RoleMap} {l : List RoleId} {b : RoleId}
    (hc : (l ++ [b]).IsChain g.Edge) {a : RoleId} (ha : a ∈ l) : a ∈ g.keys := by
  obtain ⟨before, after, rfl⟩ := List.append_of_mem ha
  rw [List.append_assoc, List.cons_append] at hc
  cases hafter : after ++ [b] with
  | nil => simp at hafter
  | cons d rest =>
    rw [hafter] at hc
    exact (List.isChain_cons_cons.1 (List.isChain_append.1 hc).2.1).1.mem_keys

/-- A chain that comes back to its first role is a cycle, if the roles before are distinct. -/
theorem isCycle_of_chain {g : RoleMap} {a : RoleId} {l : List RoleId} (hnd : (a :: l).Nodup)
    (hc : (a :: l ++ [a]).IsChain g.Edge) : g.IsCycle (a :: l ++ [a]) where
  length := by simp
  closed := by rw [List.getLast?_concat]; rfl
  distinct := by rw [List.dropLast_concat]; exact hnd
  nodes := by
    intro b hb
    rcases List.mem_append.1 hb with hb | hb
    · exact mem_keys_of_isChain hc hb
    · -- the last role is the first
      rw [List.mem_singleton] at hb
      exact hb ▸ mem_keys_of_isChain hc List.mem_cons_self
  edges := hc

end RoleMap

/-! ## What a search keeps -/

namespace Search

structure Sound (g : RoleMap) (s : Search) : Prop where
  onPath : ∀ id, s.mark id = some .onPath ↔ id ∈ s.path
  distinct : s.path.Nodup
  edges : s.path.IsChain g.Edge
  /-- What a finished role inherits from is finished. -/
  down : ∀ a b, s.mark a = some .finished → g.Edge a b → s.mark b = some .finished
  acyclic : ∀ a, s.mark a = some .finished → ¬ TransGen g.Edge a a

/-- A role can be entered next. -/
def Leads (g : RoleMap) (s : Search) (id : RoleId) : Prop := ∀ p ∈ s.path.getLast?, g.Edge p id

/-- Whatever was marked keeps its mark. -/
def Extends (s t : Search) : Prop := ∀ id m, s.mark id = some m → t.mark id = some m

theorem Extends.refl (s : Search) : Extends s s := fun _ _ h => h

theorem Extends.trans {s t u : Search} (h₁ : Extends s t) (h₂ : Extends t u) : Extends s u :=
  fun id m h => h₂ id m (h₁ id m h)

variable {g : RoleMap} {s t : Search} {id : RoleId}

@[simp] theorem path_enter : (s.enter id).path = s.path ++ [id] := rfl

@[simp] theorem path_leave : (s.leave id).path = s.path.dropLast := rfl

@[simp] theorem mark_enter_self : (s.enter id).mark id = some .onPath := by simp [enter, setMark]

@[simp] theorem mark_leave_self : (s.leave id).mark id = some .finished := by simp [leave, setMark]

theorem mark_enter_of_ne {j : RoleId} (h : j ≠ id) : (s.enter id).mark j = s.mark j := by
  simp [enter, setMark, h]

theorem mark_leave_of_ne {j : RoleId} (h : j ≠ id) : (s.leave id).mark j = s.mark j := by
  simp [leave, setMark, h]

theorem Sound.start (g : RoleMap) : Sound g .start where
  onPath := by simp [Search.start]
  distinct := List.nodup_nil
  edges := .nil
  down := by simp [Search.start]
  acyclic := by simp [Search.start]

/-- Whatever a finished role leads to is finished. -/
theorem Sound.finished_of_reflTransGen (h : Sound g s) {a b : RoleId}
    (ha : s.mark a = some .finished) (hab : ReflTransGen g.Edge a b) :
    s.mark b = some .finished := by
  induction hab with
  | refl => exact ha
  | tail _ e ih => exact h.down _ _ ih e

/-- The path goes on along an edge to a role that can be entered next. -/
theorem Sound.isChain_concat (h : Sound g s) (hl : s.Leads g id) :
    (s.path ++ [id]).IsChain g.Edge := by
  rw [List.isChain_append]
  refine ⟨h.edges, .singleton _, ?_⟩
  intro p hp q hq
  rw [List.head?_cons, Option.mem_some_iff] at hq
  exact hq ▸ hl p hp

theorem Sound.enter (h : Sound g s) (hm : s.mark id = none) (hl : s.Leads g id) :
    Sound g (s.enter id) where
  onPath j := by
    by_cases hj : j = id
    · subst hj; simp
    · rw [mark_enter_of_ne hj, h.onPath, path_enter]
      simp [hj]
  distinct := by
    have hid : id ∉ s.path := by rw [← h.onPath, hm]; simp
    rw [path_enter, List.nodup_append]
    refine ⟨h.distinct, by simp, ?_⟩
    rintro a ha b hb rfl
    exact hid (List.mem_singleton.1 hb ▸ ha)
  edges := h.isChain_concat hl
  down a b ha e := by
    have hne : a ≠ id := by rintro rfl; simp at ha
    rw [mark_enter_of_ne hne] at ha
    have hb := h.down a b ha e
    rwa [mark_enter_of_ne]
    rintro rfl
    rw [hm] at hb
    cases hb
  acyclic a ha := by
    have hne : a ≠ id := by rintro rfl; simp at ha
    rw [mark_enter_of_ne hne] at ha
    exact h.acyclic a ha

theorem leads_enter {n : RoleNode} {b : RoleId} (hn : g.find? id = some n) (hb : b ∈ n.children) :
    (s.enter id).Leads g b := by
  intro p hp
  rw [path_enter, List.getLast?_concat, Option.mem_some_iff] at hp
  exact hp ▸ (RoleMap.edge_iff hn).2 hb

/-- A role can be left once all it inherits from is finished. -/
theorem Sound.leave (h : Sound g t) (hp : t.path = s.path ++ [id])
    (hd : ∀ b, g.Edge id b → t.mark b = some .finished) : Sound g (t.leave id) := by
  have hid : t.mark id = some .onPath := (h.onPath id).2 (by simp [hp])
  have hnd : (s.path ++ [id]).Nodup := hp ▸ h.distinct
  have hpath : (t.leave id).path = s.path := by simp [hp]
  have hfin : ∀ {b}, (t.leave id).mark b = some .finished ↔ b = id ∨ t.mark b = some .finished := by
    intro b
    by_cases hb : b = id
    · subst hb; simp
    · rw [mark_leave_of_ne hb]; simp [hb]
  -- a walk from the role that is left stays among roles that were finished before
  have hout : ∀ {b}, TransGen g.Edge id b → t.mark b = some .finished := by
    intro b hb
    obtain ⟨c, e, hcb⟩ := TransGen.head'_iff.1 hb
    exact h.finished_of_reflTransGen (hd c e) hcb
  refine ⟨fun j => ?_, ?_, ?_, fun a b ha e => ?_, fun a ha => ?_⟩
  · rw [hpath]
    by_cases hj : j = id
    · subst hj
      have : j ∉ s.path := fun hmem => (List.nodup_append.1 hnd).2.2 j hmem j (by simp) rfl
      simp [this]
    · rw [mark_leave_of_ne hj, h.onPath, hp]
      simp [hj]
  · rw [hpath]; exact (List.nodup_append.1 hnd).1
  · rw [hpath]
    have := h.edges
    rw [hp, List.isChain_append] at this
    exact this.1
  · rw [hfin] at ha ⊢
    rcases ha with rfl | ha
    · exact .inr (hd b e)
    · exact .inr (h.down a b ha e)
  · rw [hfin] at ha
    rcases ha with rfl | ha
    · intro hc
      have := hout hc
      rw [hid] at this
      cases this
    · exact h.acyclic a ha

theorem extends_leave_enter (hm : s.mark id = none) (h : Extends (s.enter id) t) :
    Extends s (t.leave id) := by
  intro j m hj
  have hne : j ≠ id := by rintro rfl; rw [hm] at hj; cases hj
  rw [mark_leave_of_ne hne]
  exact h j m (by rw [mark_enter_of_ne hne]; exact hj)

/-- Meeting a role of the path closes a cycle, and the loop is never missed. -/
theorem Sound.loopAt? (h : Sound g s) (hm : s.mark id = some .onPath) (hl : s.Leads g id) :
    ∃ c, s.loopAt? id = some c ∧ g.IsCycle c := by
  have hmem : id ∈ s.path := (h.onPath id).1 hm
  obtain ⟨before, after, hpath, hbefore⟩ := List.eq_append_cons_of_mem hmem
  have hdrop : s.path.dropWhile (· ≠ id) = id :: after := by
    rw [hpath, List.dropWhile_append_of_pos]
    · simp
    · intro a ha
      simp only [ne_eq, decide_not, Bool.not_eq_true', decide_eq_false_iff_not]
      rintro rfl
      exact hbefore ha
  refine ⟨id :: after ++ [id], by rw [Search.loopAt?, if_pos hmem, hdrop], ?_⟩
  apply RoleMap.isCycle_of_chain
  · have := h.distinct
    rw [hpath] at this
    exact (List.nodup_append.1 this).2.1
  · have hchain := h.isChain_concat hl
    rw [hpath, List.append_assoc] at hchain
    exact (List.isChain_append.1 hchain).2.1

end Search

/-! ## The run of a search -/

namespace RoleMap
open Search

/-- What exploring roles in turn comes to. -/
def Explored (g : RoleMap) (ids : List RoleId) (s : Search) : Except (List RoleId) Search → Prop
  | .error cycle => g.IsCycle cycle
  | .ok t => t.Sound g ∧ t.path = s.path ∧ Extends s t ∧ ∀ id ∈ ids, t.mark id = some .finished

/-- After a role that is finished, the rest. -/
theorem Explored.cons {g : RoleMap} {id : RoleId} {rest : List RoleId} {s t : Search}
    {r : Except (List RoleId) Search} (hr : g.Explored rest t r) (hpath : t.path = s.path)
    (hext : Extends s t) (hid : t.mark id = some .finished) : g.Explored (id :: rest) s r := by
  cases r with
  | error cycle => exact hr
  | ok u =>
    obtain ⟨hu, hup, hue, hrest⟩ := hr
    exact ⟨hu, hup.trans hpath, hext.trans hue, List.forall_mem_cons.2 ⟨hue id _ hid, hrest⟩⟩

/-- **Exploring is exact.** The induction follows the search: into the children of a role that is
met for the first time, and on to the next role after it. -/
theorem explore_exact (g : RoleMap) (ids : List RoleId) (s : Search) (hs : s.Sound g)
    (hl : ∀ id ∈ ids, s.Leads g id) : g.Explored ids s (g.explore ids s).1 := by
  fun_induction g.explore ids s with
  | case1 s => exact ⟨hs, rfl, .refl s, by simp⟩
  | case2 s id rest hm cycle hc =>
    obtain ⟨c, hloop, hcycle⟩ := hs.loopAt? hm (hl id List.mem_cons_self)
    rw [hc, Option.some.injEq] at hloop
    exact hloop ▸ hcycle
  | case3 s id rest hm hc ih =>
    obtain ⟨c, hloop, -⟩ := hs.loopAt? hm (hl id List.mem_cons_self)
    rw [hc] at hloop
    cases hloop
  | case4 s id rest hm ih =>
    exact (ih hs fun j hj => hl j (List.mem_cons_of_mem _ hj)).cons rfl (.refl s) hm
  | case5 s id rest hm hn r ih =>
    have hpath : ((s.enter id).leave id).path = s.path := by simp
    refine (ih ?_ fun j hj => ?_).cons hpath (extends_leave_enter hm (.refl _)) (by simp)
    · exact (hs.enter hm (hl id List.mem_cons_self)).leave rfl fun b e => absurd e (not_edge hn)
    · rw [Leads, hpath]; exact hl j (List.mem_cons_of_mem _ hj)
  | case6 s id rest hm node hn cycle hc hx down =>
    have hdown := down (hs.enter hm (hl id List.mem_cons_self)) fun b => leads_enter hn
    rwa [hx] at hdown
  | case7 s id rest hm node hn t ht hx r down next =>
    have hdown := down (hs.enter hm (hl id List.mem_cons_self)) fun b => leads_enter hn
    rw [hx] at hdown
    obtain ⟨hsound, hpath, hext, hfin⟩ := hdown
    have hleft : (t.leave id).path = s.path := by simp [hpath]
    refine (next ?_ fun j hj => ?_).cons hleft (extends_leave_enter hm hext) (by simp)
    · exact hsound.leave hpath fun b e => hfin b ((edge_iff hn).1 e)
    · rw [Leads, hleft]; exact hl j (List.mem_cons_of_mem _ hj)

theorem mem_sortIds {ids : List RoleId} {id : RoleId} : id ∈ sortIds ids ↔ id ∈ ids :=
  List.mem_mergeSort

/-- A search that ends without a report has finished every role. -/
theorem findCycle_cases (g : RoleMap) :
    (g.findCycle = none ∧ ∀ a, ¬ TransGen g.Edge a a) ∨
      ∃ c, g.findCycle = some c ∧ g.IsCycle c := by
  have h := g.explore_exact (sortIds g.keys) .start (.start g) fun id _ p hp => by
    simp [Search.start] at hp
  unfold findCycle
  split
  · next cycle hr =>
    rw [hr] at h
    exact .inr ⟨cycle, rfl, h⟩
  · next t hr =>
    rw [hr] at h
    obtain ⟨hsound, -, -, hall⟩ := h
    refine .inl ⟨rfl, fun a ha => ?_⟩
    -- a role on a cycle has a node, so the search has finished it
    have hkey : a ∈ g.keys := by
      obtain ⟨b, e, -⟩ := TransGen.head'_iff.1 ha
      exact e.mem_keys
    exact hsound.acyclic a (hall a (mem_sortIds.2 hkey)) ha

/-- **A cycle is reported exactly when there is one**, and what is reported is one. -/
theorem findCycle_exact (g : RoleMap) :
    (g.findCycle = none ↔ ∀ a, ¬ TransGen g.Edge a a) ∧
      ∀ c, g.findCycle = some c → g.IsCycle c := by
  rcases g.findCycle_cases with ⟨hnone, hacyclic⟩ | ⟨cycle, hsome, hcycle⟩
  · rw [hnone]
    exact ⟨⟨fun _ => hacyclic, fun _ => rfl⟩, nofun⟩
  · rw [hsome]
    refine ⟨⟨nofun, fun hno => ?_⟩, ?_⟩
    · obtain ⟨a, ha⟩ := hcycle.transGen
      exact absurd ha (hno a)
    · rintro c ⟨⟩
      exact hcycle

/-- The cycle of a role that inherits from itself. -/
example : findCycle (.ofRows [⟨⟨"solo", "solo"⟩, [], [⟨"solo", "solo"⟩]⟩]) =
    some ["solo", "solo"] := by cbv

end RoleMap

end Entitlement
