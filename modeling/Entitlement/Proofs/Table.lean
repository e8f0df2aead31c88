import Entitlement.Table
import Mathlib.Data.Set.Card

/-!
# Tables by what they answer

* `Table.ncard_find?` : a table has as many rows as there are keys that it answers;
* `Table.perm_of_find?` : tables that answer alike have the same rows.
-/

namespace Entitlement.Table
variable {α κ : Type} {key : α → κ} [DecidableEq κ]

theorem ncard_find? (t : Table key) : {k | (t.find? k).isSome}.ncard = t.size := by
  have hkeys : {k | (t.find? k).isSome} = (t.keys.toFinset : Set κ) := by
    ext k
    rw [List.coe_toFinset, Set.mem_ofPred_eq, Set.mem_ofPred_eq, isSome_find?_iff]
  have hdistinct : t.keys.Nodup := t.distinct
  rw [hkeys, Set.ncard_coe_finset, List.toFinset_card_of_nodup hdistinct]
  exact List.length_map _

theorem perm_of_find? {t t' : Table key} (h : ∀ k, t.find? k = t'.find? k) :
    t.rows.Perm t'.rows := by
  refine (List.perm_ext_iff_of_nodup (.of_map key t.distinct) (.of_map key t'.distinct)).2 fun a => ?_
  have hmem : ∀ u : Table key, u.find? (key a) = some a ↔ a ∈ u.rows :=
    fun u => find?_eq_some_iff.trans (and_iff_left rfl)
  rw [← hmem, h, hmem]

end Entitlement.Table
