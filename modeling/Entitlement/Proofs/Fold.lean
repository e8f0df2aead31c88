/-!
# Folds that may fail

* `foldlM_eq_error_iff` : a fold whose steps fail on bad items, whatever was made of the items
  before, fails with the error of the first one; `forall_not_of_foldlM` : it succeeds on good items
  only.
-/

namespace Entitlement
variable {α β ε : Type} {step : β → α → Except ε β} {bad : α → Prop} {fault : α → ε}

/-- What is made of a value leaves the errors alone. -/
theorem map_eq_error_iff {x : Except ε α} {f : α → β} {e : ε} :
    x.map f = .error e ↔ x = .error e := by
  cases x with
  | error e' => simp [Except.map]
  | ok a => simp [Except.map]

/-- The first bad item ends it, whatever comes after. -/
theorem foldlM_eq_error_iff (hstep : ∀ b a e, step b a = .error e ↔ bad a ∧ e = fault a)
    {items : List α} {b : β} {e : ε} : items.foldlM step b = .error e ↔
      ∃ before a after, items = before ++ a :: after ∧ (∀ c ∈ before, ¬ bad c) ∧ bad a ∧
        e = fault a := by
  induction items generalizing b with
  | nil =>
    refine ⟨nofun, fun h => ?_⟩
    obtain ⟨before, a, after, hitems, -⟩ := h
    exact absurd hitems.symm (List.append_ne_nil_of_right_ne_nil _ (List.cons_ne_nil _ _))
  | cons a items ih =>
    have hrest : (∃ before c after, a :: items = before ++ c :: after ∧
        (∀ x ∈ before, ¬ bad x) ∧ bad c ∧ e = fault c) ↔
        bad a ∧ e = fault a ∨ ¬ bad a ∧ ∃ before c after, items = before ++ c :: after ∧
          (∀ x ∈ before, ¬ bad x) ∧ bad c ∧ e = fault c := by
      constructor
      · intro h
        obtain ⟨before, c, after, hitems, hbefore, hc, he⟩ := h
        cases before with
        | nil =>
          obtain ⟨rfl, -⟩ := List.cons.inj hitems
          exact .inl ⟨hc, he⟩
        | cons x before =>
          obtain ⟨rfl, htail⟩ := List.cons.inj hitems
          obtain ⟨ha, hbefore⟩ := List.forall_mem_cons.1 hbefore
          exact .inr ⟨ha, before, c, after, htail, hbefore, hc, he⟩
      · intro h
        rcases h with ⟨ha, he⟩ | ⟨ha, before, c, after, rfl, hbefore, hc, he⟩
        · exact ⟨[], a, items, rfl, nofun, ha, he⟩
        · exact ⟨a :: before, c, after, rfl, List.forall_mem_cons.2 ⟨ha, hbefore⟩, hc, he⟩
    rw [hrest, List.foldlM_cons]
    cases hb : step b a with
    | error e' =>
      obtain ⟨ha, rfl⟩ := (hstep b a e').1 hb
      change Except.error (fault a) = .error e ↔ _
      rw [Except.error.injEq, eq_comm]
      exact ⟨fun he => .inl ⟨ha, he⟩, fun h => h.elim And.right fun h => absurd ha h.1⟩
    | ok b' =>
      have ha : ¬ bad a := fun ha => by
        rw [(hstep b a (fault a)).2 ⟨ha, rfl⟩] at hb
        cases hb
      change items.foldlM step b' = .error e ↔ _
      rw [ih]
      exact ⟨fun h => .inr ⟨ha, h⟩, fun h => h.elim (fun h => absurd h.1 ha) And.right⟩

theorem forall_not_of_foldlM (hstep : ∀ b a e, step b a = .error e ↔ bad a ∧ e = fault a)
    {items : List α} {b b' : β} (h : items.foldlM step b = .ok b') : ∀ a ∈ items, ¬ bad a := by
  induction items generalizing b with
  | nil => nofun
  | cons a items ih =>
    rw [List.foldlM_cons] at h
    cases ha : step b a with
    | error e =>
      rw [ha] at h
      cases h
    | ok c =>
      rw [ha] at h
      refine List.forall_mem_cons.2 ⟨fun hbad => ?_, ih h⟩
      rw [(hstep b a (fault a)).2 ⟨hbad, rfl⟩] at ha
      cases ha

end Entitlement
