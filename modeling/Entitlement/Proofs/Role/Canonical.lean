import Entitlement.Proofs.Role.Cycle
import Entitlement.Proofs.Table
import Entitlement.Proofs.Text.Utf8

/-!
# Which cycle is reported

Roles are tried in ascending order. One that leads to no cycle is finished before the next is tried,
so the report comes from the least role that leads to one, and from what it leads to.

* `RoleMap.LeadsToCycle` : a walk along edges goes from a role to one on a cycle;
  `RoleMap.FirstToCycle` : the least of these roles;
* `RoleMap.explore_cons`, `RoleMap.explore_append` : roles are explored one after the other;
* `RoleMap.mem_of_explore` : a cycle that exploring stops at lies on the path before, or where the
  roles given lead;
* `RoleMap.findCycle_congr` : maps with the same nodes report the same;
* `RoleMap.findCycle_canonical` : **what is reported lies where the least role leads, and depends on
  nothing but the nodes.**
-/

namespace Entitlement
open Relation (ReflTransGen TransGen)
open Text

theorem Search.mem_of_loopAt? {s : Search} {id a : RoleId} {c : List RoleId}
    (h : s.loopAt? id = some c) (ha : a ∈ c) : a ∈ s.path ∨ a = id := by
  unfold loopAt? at h
  split at h
  · obtain rfl := Option.some.inj h
    rcases List.mem_append.1 ha with ha | ha
    · exact .inl ((List.dropWhile_sublist _).subset ha)
    · exact .inr (List.mem_singleton.1 ha)
  · cases h

/-- Ascending by code points, which is the order of bytes. -/
theorem pairwise_sortIds (ids : List RoleId) :
    (sortIds ids).Pairwise fun a b => Utf8.encode a ≤ Utf8.encode b := by
  have htrans : ∀ a b c : RoleId, (!decide (b < a)) = true → (!decide (c < b)) = true →
      (!decide (c < a)) = true := by
    intro a b c
    simp only [Bool.not_eq_true', decide_eq_false_iff_not, String.not_lt]
    exact String.le_trans
  have htotal : ∀ a b : RoleId, (!decide (b < a) || !decide (a < b)) = true := by
    intro a b
    simp only [Bool.or_eq_true, Bool.not_eq_true', decide_eq_false_iff_not, String.not_lt]
    exact String.le_total a b
  refine (List.pairwise_mergeSort htrans htotal ids).imp fun {a b} h => ?_
  rw [Bool.not_eq_true', decide_eq_false_iff_not, ← Utf8.encode_lt_iff] at h
  exact List.not_lt.1 h

namespace RoleMap
open Search

def LeadsToCycle (g : RoleMap) (id : RoleId) : Prop :=
  ∃ a, ReflTransGen g.Edge id a ∧ TransGen g.Edge a a

/-- The least role with a node, in the order of bytes, of those that lead to a cycle. -/
structure FirstToCycle (g : RoleMap) (m : RoleId) : Prop where
  node : m ∈ g.keys
  leads : g.LeadsToCycle m
  least : ∀ id ∈ g.keys, g.LeadsToCycle id → Utf8.encode m ≤ Utf8.encode id

/-! ## One role after the other -/

section Explore
variable {g g' : RoleMap} {ids rest : List RoleId} {s t : Search} {c : List RoleId}

/-- The search from one role, and then from the rest. -/
theorem explore_cons (g : RoleMap) (id : RoleId) (rest : List RoleId) (s : Search) :
    (g.explore (id :: rest) s).1 =
      match s.mark id with
      | some .onPath =>
        match s.loopAt? id with
        | some cycle => .error cycle
        | none => (g.explore rest s).1
      | some .finished => (g.explore rest s).1
      | none =>
        match g.find? id with
        | none => (g.explore rest ((s.enter id).leave id)).1
        | some node => (g.explore node.children (s.enter id)).1 >>= fun t =>
            (g.explore rest (t.leave id)).1 := by
  rw [explore]
  split
  · next hm =>
    simp only [hm]
    split <;> simp [*]
  · next hm => simp only [hm]
  · next hm =>
    simp only [hm]
    split
    · next hn => simp only [hn]
    · next node hn =>
      simp only [hn]
      split
      · next cycle _ hx => rw [hx]; rfl
      · next t _ hx => rw [hx]; rfl

theorem explore_append (g : RoleMap) (ids rest : List RoleId) (s : Search) :
    (g.explore (ids ++ rest) s).1 = (g.explore ids s).1 >>= fun t => (g.explore rest t).1 := by
  induction ids generalizing s with
  | nil => rw [explore]; rfl
  | cons id ids ih =>
    rw [List.cons_append, explore_cons, explore_cons]
    simp only [ih]
    split
    · split <;> rfl
    · rfl
    · split
      · rfl
      · rw [bind_assoc]

/-- Exploring looks at nothing but the nodes. -/
theorem explore_congr (h : ∀ id, g.find? id = g'.find? id) (ids : List RoleId) (s : Search) :
    (g.explore ids s).1 = (g'.explore ids s).1 := by
  fun_induction g.explore ids s with
  | case1 s => rw [explore]
  | case2 s id rest hm cycle hc => simp only [explore_cons, hm, hc]
  | case3 s id rest hm hc ih => simp only [explore_cons, hm, hc, ih]
  | case4 s id rest hm ih => simp only [explore_cons, hm, ih]
  | case5 s id rest hm hn r ih =>
    rw [h] at hn
    simp only [explore_cons, hm, hn]
    exact ih
  | case6 s id rest hm node hn cycle hc hx down =>
    rw [h] at hn
    rw [hx] at down
    simp only [explore_cons, hm, hn, ← down]
    rfl
  | case7 s id rest hm node hn t ht hx r down next =>
    rw [h] at hn
    rw [hx] at down
    simp only [explore_cons, hm, hn, ← down]
    exact next

/-- Exploring leaves the path as it was, or stops at a cycle that lies on it or where the roles that
are explored lead. -/
def Within (g : RoleMap) (ids : List RoleId) (s : Search) : Except (List RoleId) Search → Prop
  | .error cycle => ∀ a ∈ cycle, a ∈ s.path ∨ ∃ id ∈ ids, ReflTransGen g.Edge id a
  | .ok t => t.path = s.path

theorem Within.cons {id : RoleId} {r : Except (List RoleId) Search} (hr : g.Within rest t r)
    (hpath : t.path = s.path) : g.Within (id :: rest) s r := by
  cases r with
  | error cycle =>
    intro a ha
    rcases hr a ha with hmem | ⟨j, hj, hwalk⟩
    · exact .inl (hpath ▸ hmem)
    · exact .inr ⟨j, List.mem_cons_of_mem _ hj, hwalk⟩
  | ok u => exact Eq.trans hr hpath

/-- The induction follows the search: a role is on the path while its children are explored, and
they are where it leads. -/
theorem explore_within (g : RoleMap) (ids : List RoleId) (s : Search) :
    g.Within ids s (g.explore ids s).1 := by
  fun_induction g.explore ids s with
  | case1 s => exact rfl
  | case2 s id rest hm cycle hc =>
    intro a ha
    rcases mem_of_loopAt? hc ha with hpath | rfl
    · exact .inl hpath
    · exact .inr ⟨a, List.mem_cons_self, .refl⟩
  | case3 s id rest hm hc ih => exact ih.cons rfl
  | case4 s id rest hm ih => exact ih.cons rfl
  | case5 s id rest hm hn r ih => exact ih.cons (by simp)
  | case6 s id rest hm node hn cycle hc hx down =>
    rw [hx] at down
    intro a ha
    rcases down a ha with hpath | ⟨b, hb, hwalk⟩
    · rw [path_enter, List.mem_append, List.mem_singleton] at hpath
      rcases hpath with hpath | rfl
      · exact .inl hpath
      · exact .inr ⟨a, List.mem_cons_self, .refl⟩
    · exact .inr ⟨id, List.mem_cons_self, .head ((edge_iff hn).2 hb) hwalk⟩
  | case7 s id rest hm node hn t ht hx r down next =>
    rw [hx] at down
    have hpath : t.path = (s.enter id).path := down
    exact next.cons (by simp [hpath])

theorem mem_of_explore (h : (g.explore ids s).1 = .error c) {a : RoleId} (ha : a ∈ c) :
    a ∈ s.path ∨ ∃ id ∈ ids, ReflTransGen g.Edge id a := by
  have hwithin := g.explore_within ids s
  rw [h] at hwithin
  exact hwithin a ha

end Explore

/-! ## The first role that leads to a cycle -/

section Canonical
variable {g g' : RoleMap}

theorem LeadsToCycle.not_finished {s : Search} {id : RoleId} (h : g.LeadsToCycle id)
    (hs : s.Sound g) : s.mark id ≠ some .finished := by
  obtain ⟨a, hwalk, ha⟩ := h
  exact fun hid => hs.acyclic a (hs.finished_of_reflTransGen hid hwalk) ha

/-- Roles that lead to no cycle are finished. -/
theorem exists_explore_eq_ok {ids : List RoleId} (h : ∀ id ∈ ids, ¬ g.LeadsToCycle id) :
    ∃ t, (g.explore ids .start).1 = .ok t ∧ t.Sound g ∧ t.path = [] := by
  have hexact := g.explore_exact ids .start (.start g) fun _ _ _ hp => by cases hp
  cases hr : (g.explore ids .start).1 with
  | error c =>
    rw [hr] at hexact
    obtain ⟨a, hac, ha⟩ := IsCycle.exists_mem_transGen hexact
    rcases mem_of_explore hr hac with hpath | ⟨id, hid, hwalk⟩
    · cases hpath
    · exact absurd ⟨a, hwalk, ha⟩ (h id hid)
  | ok t =>
    rw [hr] at hexact
    exact ⟨t, rfl, hexact.1, hexact.2.1⟩

/-- A role that leads to a cycle is not finished, so exploring it stops at one. -/
theorem exists_explore_eq_error {id : RoleId} {s : Search} (h : g.LeadsToCycle id)
    (hs : s.Sound g) (hpath : s.path = []) :
    ∃ c, (g.explore [id] s).1 = .error c ∧ ∀ a ∈ c, ReflTransGen g.Edge id a := by
  have hleads : ∀ j ∈ [id], s.Leads g j := fun _ _ p hp => by rw [hpath] at hp; cases hp
  have hexact := g.explore_exact [id] s hs hleads
  cases hr : (g.explore [id] s).1 with
  | error c =>
    refine ⟨c, rfl, fun a ha => ?_⟩
    rcases mem_of_explore hr ha with hmem | ⟨j, hj, hwalk⟩
    · rw [hpath] at hmem
      cases hmem
    · rwa [List.mem_singleton.1 hj] at hwalk
  | ok t =>
    rw [hr] at hexact
    obtain ⟨hsound, -, -, hfinished⟩ := hexact
    exact absurd (hfinished id List.mem_cons_self) (h.not_finished hsound)

/-- Ascending roles, up to the first that leads to a cycle. -/
theorem exists_sortIds_eq {a : RoleId} (ha : a ∈ g.keys) (hleads : g.LeadsToCycle a) :
    ∃ before m after, sortIds g.keys = before ++ m :: after ∧ g.FirstToCycle m ∧
      ∀ id ∈ before, ¬ g.LeadsToCycle id := by
  classical
  have hsome : ((sortIds g.keys).find? fun id => decide (g.LeadsToCycle id)).isSome :=
    List.find?_isSome.2 ⟨a, mem_sortIds.2 ha, decide_eq_true hleads⟩
  obtain ⟨m, hm⟩ := Option.isSome_iff_exists.1 hsome
  obtain ⟨hmleads, before, after, hids, hbefore⟩ := List.find?_eq_some_iff_append.1 hm
  have hnone : ∀ id ∈ before, ¬ g.LeadsToCycle id := fun id hid => by simpa using hbefore id hid
  refine ⟨before, m, after, hids, ⟨?_, of_decide_eq_true hmleads, fun id hid hidleads => ?_⟩, hnone⟩
  · rw [← mem_sortIds, hids]
    simp
  · have hsorted := pairwise_sortIds g.keys
    rw [← mem_sortIds, hids, List.mem_append, List.mem_cons] at hid
    rw [hids, List.pairwise_append, List.pairwise_cons] at hsorted
    rcases hid with hid | rfl | hid
    · exact absurd hidleads (hnone id hid)
    · exact List.le_refl _
    · exact hsorted.2.1.1 id hid

theorem exists_findCycle_of_transGen {a : RoleId} (h : TransGen g.Edge a a) :
    ∃ m c, g.FirstToCycle m ∧ g.findCycle = some c ∧ ∀ b ∈ c, ReflTransGen g.Edge m b := by
  have ha : a ∈ g.keys := by
    obtain ⟨b, hedge, -⟩ := TransGen.head'_iff.1 h
    exact hedge.mem_keys
  obtain ⟨before, m, after, hids, hm, hbefore⟩ := exists_sortIds_eq ha ⟨a, .refl, h⟩
  obtain ⟨t, hok, hsound, hpath⟩ := exists_explore_eq_ok hbefore
  obtain ⟨c, herror, hc⟩ := exists_explore_eq_error hm.leads hsound hpath
  refine ⟨m, c, hm, ?_, hc⟩
  have hexplore : (g.explore (sortIds g.keys) .start).1 = .error c := by
    rw [hids, explore_append, hok, ← List.singleton_append]
    show (g.explore ([m] ++ after) t).1 = _
    rw [explore_append, herror]
    rfl
  unfold findCycle
  rw [hexplore]

/-! ## Maps with the same nodes -/

theorem sortIds_congr {ids ids' : List RoleId} (h : ids.Perm ids') : sortIds ids = sortIds ids' := by
  have hperm : (sortIds ids).Perm (sortIds ids') :=
    ((List.mergeSort_perm _ _).trans h).trans (List.mergeSort_perm _ _).symm
  refine hperm.eq_of_pairwise (fun a b _ _ hab hba => ?_) (pairwise_sortIds ids)
    (pairwise_sortIds ids')
  rcases text_trichotomy a b with he | hlt | hlt
  · exact he
  · exact absurd (Utf8.encode_lt_iff.2 hlt) (List.not_lt.2 hba)
  · exact absurd (Utf8.encode_lt_iff.2 hlt) (List.not_lt.2 hab)

theorem findCycle_congr (h : ∀ id, g.find? id = g'.find? id) : g.findCycle = g'.findCycle := by
  have hids : sortIds g.keys = sortIds g'.keys :=
    sortIds_congr ((Table.perm_of_find? h).map RoleNode.id)
  unfold findCycle
  rw [hids, explore_congr h]

/-- **The report is canonical.** If there is a cycle, the one reported lies where the least role that
leads to one leads; and nodes that are inserted in another order, or over others that are replaced,
make no difference. -/
theorem findCycle_canonical (g : RoleMap) :
    ((∃ a, TransGen g.Edge a a) → ∃ m c, g.FirstToCycle m ∧ g.findCycle = some c ∧
      ∀ a ∈ c, ReflTransGen g.Edge m a) ∧
    ∀ ns ns' : List RoleNode,
      (∀ id, (Table.ofRows ns : RoleMap).find? id = (Table.ofRows ns' : RoleMap).find? id) →
      findCycle (.ofRows ns) = findCycle (.ofRows ns') :=
  ⟨fun ⟨_, h⟩ => exists_findCycle_of_transGen h, fun _ _ h => findCycle_congr h⟩

/-- Without permissions, and with the identifiers as names. -/
def bareNode (id : RoleId) (children : List RoleId) : RoleNode :=
  ⟨⟨id, id⟩, [], children.map fun c => ⟨c, c⟩⟩

/-- A rider inherits from a ring of two roles. -/
def ringNodes : List RoleNode :=
  [bareNode "groom" [], bareNode "rider" ["vet"], bareNode "vet" ["yard"], bareNode "yard" ["vet"]]

/-- The same nodes from the end; a groom that inherits from itself is replaced. -/
def ringHistory : List RoleNode :=
  [bareNode "yard" ["vet"], bareNode "groom" ["groom"], bareNode "vet" ["yard"],
    bareNode "rider" ["vet"], bareNode "groom" []]

theorem findCycle_canonical_ring :
    (∃ a, TransGen (Edge (.ofRows ringNodes)) a a) ∧
    (∀ id, (Table.ofRows ringNodes : RoleMap).find? id =
      (Table.ofRows ringHistory : RoleMap).find? id) ∧
    (∃ m c, FirstToCycle (.ofRows ringNodes) m ∧ findCycle (.ofRows ringNodes) = some c ∧
      ∀ a ∈ c, ReflTransGen (Edge (.ofRows ringNodes)) m a) ∧
    findCycle (.ofRows ringNodes) = findCycle (.ofRows ringHistory) := by
  have hcycle : ∃ a, TransGen (Edge (.ofRows ringNodes)) a a := by
    have hvet : Edge (.ofRows ringNodes) "vet" "yard" :=
      ⟨bareNode "vet" ["yard"], by decide +kernel, by decide +kernel⟩
    have hyard : Edge (.ofRows ringNodes) "yard" "vet" :=
      ⟨bareNode "yard" ["vet"], by decide +kernel, by decide +kernel⟩
    exact ⟨"vet", .tail (.single hvet) hyard⟩
  have hnodes : ∀ id, (Table.ofRows ringNodes : RoleMap).find? id =
      (Table.ofRows ringHistory : RoleMap).find? id := Table.find?_congr (by decide +kernel)
  obtain ⟨hfirst, hsame⟩ := findCycle_canonical (.ofRows ringNodes)
  exact ⟨hcycle, hnodes, hfirst hcycle, hsame _ _ hnodes⟩

end Canonical

end RoleMap

end Entitlement
