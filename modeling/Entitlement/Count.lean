/-!
# Counting

* `countP_lt_countP` : a test that holds less often, and not of some member, counts fewer members.
-/

namespace Entitlement

theorem countP_lt_countP {p q : α → Bool} {l : List α} (h : ∀ a ∈ l, p a = true → q a = true)
    {a : α} (ha : a ∈ l) (hp : p a = false) (hq : q a = true) : l.countP p < l.countP q := by
  induction l with
  | nil => simp at ha
  | cons b l ih =>
    have hl : l.countP p ≤ l.countP q :=
      List.countP_mono_left fun c hc => h c (List.mem_cons_of_mem _ hc)
    simp only [List.countP_cons]
    rcases List.mem_cons.1 ha with rfl | ha
    · simp only [hp, hq, Bool.false_eq_true, if_false, if_true]; omega
    · have := ih (fun c hc => h c (List.mem_cons_of_mem _ hc)) ha
      have hb := h b List.mem_cons_self
      cases hpb : p b <;> cases hqb : q b <;> grind

end Entitlement
