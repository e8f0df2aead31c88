import Entitlement.Proofs.Order
import Entitlement.Proofs.Run
import Entitlement.Role.Closure
import Mathlib.Data.List.GetD
import Mathlib.Data.List.Nodup
import Mathlib.Data.Nat.Find
import Mathlib.Logic.Relation
import Mathlib.Order.Bounds.Basic

/-!
# The roles of a user, layer by layer

* `Dataset.Assigned`, `Dataset.Inherits` : the assigned roles and the edges, of roles that exist;
* `Dataset.Layer` : the assigned roles, then the children of a layer that no layer before has;
* `Dataset.Descends` : at so many edges from an assigned role; a role is in the layer of its
  shortest distance (`Dataset.layer_iff_isLeast`);
* `Dataset.Layering` : lists of all layers, each in ascending order;
* `exists_layering_resolveRoles` : what a user resolves to is a layering, one layer after the other.
-/

namespace Entitlement
open Relation (ReflTransGen)

namespace Dataset
variable (d : Dataset) (user : UserId)

def Assigned (r : Role) : Prop := r ∈ d.roles.rows ∧ (user, r.id) ∈ d.assignments

/-- The first role inherits from the second. -/
def Inherits (p r : Role) : Prop := r ∈ d.roles.rows ∧ (p.id, r.id) ∈ d.edges

def Layer (k : Nat) (r : Role) : Prop :=
  match k with
  | 0 => d.Assigned user r
  | k + 1 => (∃ p, Layer k p ∧ d.Inherits p r) ∧ ∀ j, j ≤ k → ¬ Layer j r
termination_by k

def Descends : Nat → Role → Prop
  | 0, r => d.Assigned user r
  | k + 1, r => ∃ p, Descends k p ∧ d.Inherits p r

/-- The assigned roles and all that they inherit from. -/
def Reaches (r : Role) : Prop := ∃ q, d.Assigned user q ∧ ReflTransGen d.Inherits q r

/-- Layers of which each lists its own, and past the last of which there is nothing. -/
def Layering (layers : List (List Role)) : Prop :=
  ∀ k, Listing Role.key (d.Layer user k) (layers.getD k [])

variable {d user}

theorem layer_zero {r : Role} : d.Layer user 0 r ↔ d.Assigned user r := by rw [Layer]

theorem layer_succ {k : Nat} {r : Role} : d.Layer user (k + 1) r ↔
    (∃ p, d.Layer user k p ∧ d.Inherits p r) ∧ ∀ j, j ≤ k → ¬ d.Layer user j r := by
  rw [Layer]

/-! ## Layers and distances -/

theorem Descends.mem_rows {k : Nat} {r : Role} (h : d.Descends user k r) : r ∈ d.roles.rows := by
  cases k with
  | zero => exact h.1
  | succ k => exact h.choose_spec.2.1

theorem exists_descends_iff {r : Role} : (∃ k, d.Descends user k r) ↔ d.Reaches user r := by
  constructor
  · rintro ⟨k, h⟩
    induction k generalizing r with
    | zero => exact ⟨r, h, .refl⟩
    | succ k ih =>
      obtain ⟨p, hp, hpr⟩ := h
      obtain ⟨q, hq, hqp⟩ := ih hp
      exact ⟨q, hq, hqp.tail hpr⟩
  · rintro ⟨q, hq, hqr⟩
    induction hqr with
    | refl => exact ⟨0, hq⟩
    | tail _ hpr ih =>
      obtain ⟨k, hk⟩ := ih
      exact ⟨k + 1, _, hk, hpr⟩

theorem exists_isLeast {k : Nat} {r : Role} (h : d.Descends user k r) :
    ∃ m ≤ k, IsLeast {n | d.Descends user n r} m := by
  classical
  have hex : ∃ n, d.Descends user n r := ⟨k, h⟩
  exact ⟨Nat.find hex, Nat.find_min' hex h, Nat.find_spec hex, fun n hn => Nat.find_min' hex hn⟩

/-- **A role is in the layer of its shortest distance**, and in no other. -/
theorem layer_iff_isLeast {k : Nat} {r : Role} :
    d.Layer user k r ↔ IsLeast {n | d.Descends user n r} k := by
  induction k using Nat.strongRecOn generalizing r with
  | ind k ih =>
    cases k with
    | zero =>
      rw [layer_zero]
      exact ⟨fun h => ⟨h, fun n _ => Nat.zero_le n⟩, fun h => h.1⟩
    | succ k =>
      rw [layer_succ]
      constructor
      · rintro ⟨⟨p, hp, hpr⟩, hnone⟩
        refine ⟨⟨p, ((ih k (Nat.lt_succ_self k)).1 hp).1, hpr⟩, fun n hn => ?_⟩
        obtain ⟨m, hmn, hm⟩ := exists_isLeast hn
        by_contra hlt
        have hmk : m ≤ k := by omega
        exact hnone m hmk ((ih m (Nat.lt_succ_of_le hmk)).2 hm)
      · rintro ⟨⟨p, hp, hpr⟩, hleast⟩
        obtain ⟨m, hmk, hm⟩ := exists_isLeast hp
        -- a shorter way to the parent would be a shorter way to the role
        have hkm : k + 1 ≤ m + 1 := hleast ⟨p, hm.1, hpr⟩
        have hmk : m = k := by omega
        subst hmk
        refine ⟨⟨p, (ih m (Nat.lt_succ_self m)).2 hm, hpr⟩, fun j hj hr => ?_⟩
        have := hleast ((ih j (Nat.lt_succ_of_le hj)).1 hr).1
        omega

theorem Layer.mem_rows {k : Nat} {r : Role} (h : d.Layer user k r) : r ∈ d.roles.rows :=
  (layer_iff_isLeast.1 h).1.mem_rows

theorem Layer.unique {j k : Nat} {r : Role} (hj : d.Layer user j r) (hk : d.Layer user k r) :
    j = k :=
  (layer_iff_isLeast.1 hj).unique (layer_iff_isLeast.1 hk)

/-- After an empty layer there are only empty ones. -/
theorem Layer.of_le {j k : Nat} {r : Role} (h : d.Layer user k r) (hj : j ≤ k) :
    ∃ p, d.Layer user j p := by
  induction k generalizing r with
  | zero => exact ⟨r, Nat.le_zero.1 hj ▸ h⟩
  | succ k ih =>
    rcases Nat.eq_or_lt_of_le hj with rfl | hlt
    · exact ⟨r, h⟩
    · obtain ⟨⟨p, hp, -⟩, -⟩ := layer_succ.1 h
      exact ih hp (by omega)

theorem exists_layer_iff {r : Role} : (∃ k, d.Layer user k r) ↔ d.Reaches user r := by
  rw [← exists_descends_iff]
  constructor
  · rintro ⟨k, hk⟩
    exact ⟨k, (layer_iff_isLeast.1 hk).1⟩
  · rintro ⟨k, hk⟩
    obtain ⟨m, -, hm⟩ := exists_isLeast hk
    exact ⟨m, layer_iff_isLeast.2 hm⟩

/-! ## Answers about roles -/

theorem mem_userRoles {r : Role} : r ∈ d.userRoles user ↔ d.Assigned user r := by
  rw [userRoles, mem_sortByName, List.mem_filterMap]
  constructor
  · rintro ⟨⟨u, id⟩, ha, hr⟩
    rw [List.mem_filter, decide_eq_true_iff] at ha
    obtain ⟨ha, rfl⟩ := ha
    obtain ⟨hmem, rfl⟩ := Table.find?_eq_some_iff.1 hr
    exact ⟨hmem, ha⟩
  · rintro ⟨hmem, ha⟩
    exact ⟨(user, r.id), List.mem_filter.2 ⟨ha, decide_eq_true rfl⟩,
      Table.find?_eq_some_iff.2 ⟨hmem, rfl⟩⟩

theorem mem_childRoles {parents : List RoleId} {r : Role} : r ∈ d.childRoles parents ↔
    r ∈ d.roles.rows ∧ ∃ p ∈ parents, (p, r.id) ∈ d.edges := by
  rw [childRoles, mem_sortByName, List.mem_filterMap]
  constructor
  · rintro ⟨⟨p, id⟩, he, hr⟩
    rw [List.mem_filter, decide_eq_true_iff] at he
    obtain ⟨he, hp⟩ := he
    obtain ⟨hmem, rfl⟩ := Table.find?_eq_some_iff.1 hr
    exact ⟨hmem, p, hp, he⟩
  · rintro ⟨hmem, p, hp, he⟩
    exact ⟨(p, r.id), List.mem_filter.2 ⟨he, decide_eq_true hp⟩,
      Table.find?_eq_some_iff.2 ⟨hmem, rfl⟩⟩

end Dataset

/-! ## New roles of a level -/

/-- Of sorted rows of a table, the ones not seen before are listed. -/
theorem listing_fresh {t : Table Role.id} {seen : List RoleId} {rows : List Role}
    (hs : rows.Pairwise fun a b => ¬ Before b.key a.key) (ht : ∀ r ∈ rows, r ∈ t.rows) :
    Listing Role.key (fun r => r ∈ rows ∧ r.id ∉ seen) (fresh Role.id seen rows) :=
  .of_sorted (hs.sublist (fresh_sublist Role.id seen rows))
    (nodup_keys_of_ids (fun _ => rfl) (nodup_keys_fresh Role.id seen rows)) fun _ => mem_fresh_iff ht

/-! ## The walk -/

theorem mem_flatten_iff_getD {α : Type} {a : α} {ls : List (List α)} :
    a ∈ ls.flatten ↔ ∃ k < ls.length, a ∈ ls.getD k [] := by
  rw [List.mem_flatten]
  constructor
  · rintro ⟨l, hl, ha⟩
    obtain ⟨k, hk, rfl⟩ := List.mem_iff_getElem.1 hl
    exact ⟨k, hk, by rwa [List.getD_eq_getElem _ _ hk]⟩
  · rintro ⟨k, hk, ha⟩
    rw [List.getD_eq_getElem _ _ hk] at ha
    exact ⟨ls[k], List.getElem_mem hk, ha⟩

namespace Dataset
variable {d : Dataset} {user : UserId} {layers : List (List Role)} {last : List Role}

/-- The first layers, as far as a walk has come. -/
def Layered (d : Dataset) (user : UserId) (layers : List (List Role)) : Prop :=
  ∀ k < layers.length, Listing Role.key (d.Layer user k) (layers.getD k [])

theorem Layered.snoc (h : d.Layered user layers)
    (hlast : Listing Role.key (d.Layer user layers.length) last) :
    d.Layered user (layers ++ [last]) := by
  intro k hk
  rw [List.length_append, List.length_singleton] at hk
  rcases Nat.lt_or_eq_of_le (Nat.le_of_lt_succ hk) with hlt | rfl
  · rw [List.getD_append _ _ _ _ hlt]
    exact h k hlt
  · rw [List.getD_append_right _ _ _ _ (Nat.le_refl _)]
    simpa using hlast

/-- Found so far: the roles of the first layers. -/
theorem Layered.id_mem_iff (h : d.Layered user layers) {r : Role} (hr : r ∈ d.roles.rows) :
    r.id ∈ Role.ids layers.flatten ↔ ∃ j < layers.length, d.Layer user j r := by
  rw [Role.ids, List.mem_map]
  constructor
  · rintro ⟨q, hq, he⟩
    obtain ⟨j, hj, hqj⟩ := mem_flatten_iff_getD.1 hq
    have hlayer := ((h j hj).mem_iff q).1 hqj
    exact ⟨j, hj, d.roles.eq_of_key_eq hlayer.mem_rows hr he ▸ hlayer⟩
  · rintro ⟨j, hj, hlayer⟩
    exact ⟨r, mem_flatten_iff_getD.2 ⟨j, hj, ((h j hj).mem_iff r).2 hlayer⟩, rfl⟩

/-- The new roles below the last layer are the next one. -/
theorem Layered.next (h : d.Layered user (layers ++ [last])) :
    Listing Role.key (d.Layer user (layers.length + 1))
      (fresh Role.id (Role.ids (layers ++ [last]).flatten) (d.childRoles (Role.ids last))) := by
  have hlen : (layers ++ [last]).length = layers.length + 1 := by simp
  have hlast : ∀ p, p ∈ last ↔ d.Layer user layers.length p := by
    intro p
    rw [← (h layers.length (by omega)).mem_iff p]
    simp
  have hrows : ∀ r ∈ d.childRoles (Role.ids last), r ∈ d.roles.rows :=
    fun r hr => (mem_childRoles.1 hr).1
  have hfresh : Listing Role.key _ (fresh Role.id (Role.ids (layers ++ [last]).flatten) _) :=
    listing_fresh (pairwise_sortByName Role.key _) hrows
  refine ⟨hfresh.ascending, fun r => (hfresh.mem_iff r).trans ?_⟩
  change r ∈ d.childRoles (Role.ids last) ∧ _ ↔ _
  rw [mem_childRoles, layer_succ]
  constructor
  · rintro ⟨⟨hr, _, hparent, he⟩, hnew⟩
    obtain ⟨p, hp, rfl⟩ := List.mem_map.1 hparent
    refine ⟨⟨p, (hlast p).1 hp, hr, he⟩, fun j hj hlayer => hnew ?_⟩
    exact (h.id_mem_iff hr).2 ⟨j, by omega, hlayer⟩
  · rintro ⟨⟨p, hp, hr, he⟩, hnone⟩
    refine ⟨⟨hr, p.id, List.mem_map.2 ⟨p, (hlast p).2 hp, rfl⟩, he⟩, fun hold => ?_⟩
    obtain ⟨j, hj, hlayer⟩ := (h.id_mem_iff hr).1 hold
    exact hnone j (by omega) hlayer

/-- Layers that no role comes after are all layers. -/
theorem Layered.layering (h : d.Layered user layers)
    (hend : ∀ r, ¬ d.Layer user layers.length r) : d.Layering user layers := by
  intro k
  by_cases hk : k < layers.length
  · exact h k hk
  · have hnone : ∀ r, ¬ d.Layer user k r := by
      intro r hr
      obtain ⟨p, hp⟩ := hr.of_le (Nat.le_of_not_lt hk)
      exact hend p hp
    rw [List.getD_eq_default _ _ (Nat.le_of_not_lt hk)]
    exact .nil hnone

/-! ## What a layering holds -/

theorem Layering.mem_flatten (h : d.Layering user layers) {r : Role} :
    r ∈ layers.flatten ↔ d.Reaches user r := by
  rw [mem_flatten_iff_getD, ← exists_layer_iff]
  constructor
  · rintro ⟨k, -, hr⟩
    exact ⟨k, ((h k).mem_iff r).1 hr⟩
  · rintro ⟨k, hk⟩
    have hr := ((h k).mem_iff r).2 hk
    refine ⟨k, ?_, hr⟩
    by_contra hlt
    rw [List.getD_eq_default _ _ (Nat.le_of_not_lt hlt)] at hr
    cases hr

theorem Layering.nodup_flatten (h : d.Layering user layers) : layers.flatten.Nodup := by
  have hlist : ∀ k (hk : k < layers.length), Listing Role.key (d.Layer user k) layers[k] := by
    intro k hk
    rw [← List.getD_eq_getElem _ [] hk]
    exact h k
  rw [List.nodup_flatten]
  constructor
  · intro l hl
    obtain ⟨k, hk, rfl⟩ := List.mem_iff_getElem.1 hl
    exact (hlist k hk).nodup
  · rw [List.pairwise_iff_getElem]
    intro i j hi hj hij r hri hrj
    have hij' := (((hlist i hi).mem_iff r).1 hri).unique (((hlist j hj).mem_iff r).1 hrj)
    omega

/-- Lists of lists with the same entries, but for empty ones at the end. -/
theorem flatten_eq_of_getD {α : Type} {ls ls' : List (List α)}
    (h : ∀ k, ls.getD k [] = ls'.getD k []) : ls.flatten = ls'.flatten := by
  induction ls generalizing ls' with
  | nil =>
    refine (List.flatten_eq_nil_iff.2 fun l hl => ?_).symm
    obtain ⟨k, hk, rfl⟩ := List.mem_iff_getElem.1 hl
    rw [← List.getD_eq_getElem ls' [] hk, ← h k, List.getD_nil]
  | cons l ls ih =>
    cases ls' with
    | nil =>
      refine List.flatten_eq_nil_iff.2 fun l' hl => ?_
      obtain ⟨k, hk, rfl⟩ := List.mem_iff_getElem.1 hl
      rw [← List.getD_eq_getElem (l :: ls) [] hk, h k, List.getD_nil]
    | cons l' ls' =>
      have hhead : l = l' := h 0
      rw [List.flatten_cons, List.flatten_cons, hhead, ih fun k => h (k + 1)]

/-- Layerings of one user are one list of roles. -/
theorem Layering.flatten_unique {layers' : List (List Role)} (h : d.Layering user layers)
    (h' : d.Layering user layers') : layers.flatten = layers'.flatten :=
  flatten_eq_of_getD fun k => (h k).unique (h' k) fun _ => Iff.rfl

/-- The rows that children are answered with hold the children. -/
theorem map_answer_childRoles (d : Dataset) (parents : List RoleId) :
    (d.answer (.childRoles parents)).map Subtype.val = d.childRoles parents := by
  change ((d.childRoles parents).attach.map _).map Subtype.val = _
  rw [List.map_map]
  exact List.attach_map_subtype_val _

end Dataset

open Dataset Run

variable {σ : Type}

theorem exists_yields_childRoles (d : Dataset) (parents : List RoleId) (name : String)
    (w : World σ) :
    ∃ rows w', (context name ((d.transaction σ).query (.childRoles parents))).Yields w rows w' ∧
      rows.map Subtype.val = d.childRoles parents :=
  ⟨_, _, yields_context.2 (yields_query d (.childRoles parents) w), d.map_answer_childRoles parents⟩

/-- From the last layer found, the walk finds the others. The induction is the walk's own, from a
level to the one below it. -/
theorem exists_layering_expand (d : Dataset) (user : UserId) (frontier : List RoleId)
    (found : List Role) (depth : Nat) (layers : List (List Role)) (last : List Role)
    (hfrontier : frontier = Role.ids last) (hfound : found = (layers ++ [last]).flatten)
    (h : d.Layered user (layers ++ [last])) (w : World σ) :
    ∃ all n w', (expand (d.transaction σ) frontier found depth).Yields w (all.flatten, n) w' ∧
      d.Layering user all := by
  induction frontier, found, depth using expand.induct (d.transaction σ)
    generalizing layers last w with
  | case1 frontier found depth ih =>
    subst hfrontier hfound
    have hlength : (layers ++ [last]).length = layers.length + 1 := by simp
    have hnext := h.next
    obtain ⟨rows, w₁, hquery, hrows⟩ :=
      exists_yields_childRoles d (Role.ids last) "get child roles" w
    have hbelow := ih rows
    rw [expand]
    rw [hrows] at hbelow
    generalize hn : fresh Role.id (Role.ids (layers ++ [last]).flatten)
      (d.childRoles (Role.ids last)) = next at hbelow hnext
    by_cases hnil : next = []
    · subst hnil
      refine ⟨layers ++ [last], depth, w₁, hquery.bind ?_, h.layering fun r hr => ?_⟩
      · rw [hrows, hn]
        exact yields_pure.2 ⟨rfl, rfl⟩
      · rw [hlength, ← hnext.mem_iff] at hr
        cases hr
    · obtain ⟨all, n, w', hrest, hall⟩ := hbelow hnil (layers ++ [last]) next rfl (by simp)
        (h.snoc (by rwa [hlength])) w₁
      refine ⟨all, n, w', hquery.bind ?_, hall⟩
      rw [hrows, hn]
      exact (dif_neg hnil).symm ▸ hrest

theorem exists_layering_resolveRoles (d : Dataset) (user : UserId) (w : World σ) :
    ∃ layers w', (resolveRoles (d.transaction σ) user).Yields w layers.flatten w' ∧
      d.Layering user layers := by
  have hquery : (context "get direct roles" ((d.transaction σ).query (.userRoles user))).Yields w
      (d.userRoles user) _ := yields_context.2 (yields_query d (.userRoles user) w)
  have hrows : ∀ r ∈ d.userRoles user, r ∈ d.roles.rows := fun r hr => (mem_userRoles.1 hr).1
  have hfirst : Listing Role.key (d.Layer user 0) (fresh Role.id [] (d.userRoles user)) := by
    have h : Listing Role.key _ (fresh Role.id [] (d.userRoles user)) :=
      listing_fresh (pairwise_sortByName Role.key _) hrows
    refine ⟨h.ascending, fun r => (h.mem_iff r).trans ?_⟩
    rw [layer_zero, ← mem_userRoles]
    exact and_iff_left List.not_mem_nil
  have hone : d.Layered user ([] ++ [fresh Role.id [] (d.userRoles user)]) :=
    Layered.snoc (fun k hk => absurd hk (Nat.not_lt_zero k)) hfirst
  unfold resolveRoles
  by_cases hnil : d.userRoles user = []
  · refine ⟨[], w.stepped (.query (.userRoles user)), hquery.bind ?_,
      Layered.layering (fun k hk => absurd hk (Nat.not_lt_zero k)) fun r hr => ?_⟩
    · rw [hnil]
      exact yields_pure.2 ⟨rfl, rfl⟩
    · have hmem := mem_userRoles.2 (layer_zero.1 hr)
      rw [hnil] at hmem
      cases hmem
  · obtain ⟨all, n, w', hwalk, hall⟩ := exists_layering_expand d user _
      (fresh Role.id [] (d.userRoles user)) 0 [] (fresh Role.id [] (d.userRoles user)) rfl (by simp)
      hone (w.stepped (.query (.userRoles user)))
    refine ⟨all, exists_and_right.2 ⟨hquery.exists_bind ?_, hall⟩⟩
    split
    · next h => exact absurd (List.isEmpty_iff.1 h) hnil
    · refine hwalk.exists_bind (Yields.exists_bind (a := ()) (yields_log.2 rfl) ?_)
      exact ⟨_, yields_pure.2 ⟨rfl, rfl⟩⟩

theorem Dataset.exists_layering (d : Dataset) (user : UserId) :
    ∃ layers, d.Layering user layers := by
  obtain ⟨layers, -, -, hl⟩ := exists_layering_resolveRoles d user (.ofState ())
  exact ⟨layers, hl⟩

/-- **A user resolves to the layers below the assigned roles**, from the first to the last: each in
ascending order, every role once and at its shortest distance, and nothing without an assigned
role. -/
theorem resolveRoles_breadth_first (d : Dataset) (user : UserId) (w : World σ) :
    ∃ (roles : List Role) (layers : List (List Role)) (w' : World σ),
      (resolveRoles (d.transaction σ) user).run w = (.ok roles, w') ∧
      roles = layers.flatten ∧
      (∀ k, Listing Role.key (d.Layer user k) (layers.getD k [])) ∧
      roles.Nodup ∧
      (∀ r, r ∈ roles ↔ ∃ q, d.Assigned user q ∧ ReflTransGen d.Inherits q r) ∧
      (∀ k, ∀ r ∈ layers.getD k [], IsLeast {n | d.Descends user n r} k) ∧
      ((∀ r, ¬ d.Assigned user r) → roles = []) := by
  obtain ⟨layers, w', hrun, hall⟩ := exists_layering_resolveRoles d user w
  refine ⟨layers.flatten, layers, w', hrun, rfl, hall, hall.nodup_flatten,
    fun r => hall.mem_flatten, fun k r hr => ?_, fun hnone => ?_⟩
  · exact layer_iff_isLeast.1 (((hall k).mem_iff r).1 hr)
  · refine List.eq_nil_iff_forall_not_mem.2 fun r hr => ?_
    obtain ⟨q, hq, -⟩ := hall.mem_flatten.1 hr
    exact hnone q hq

end Entitlement
