/-!
# First occurrences

* `fresh key seen items` : the first item of each key that is not among `seen`;
  `mem_fresh_iff_find?` : which these are; `fresh_append` : part by part.
-/

namespace Entitlement
variable {α κ : Type} [DecidableEq κ]

def fresh (key : α → κ) (seen : List κ) : List α → List α
  | [] => []
  | a :: items =>
    if key a ∈ seen then fresh key seen items else a :: fresh key (key a :: seen) items

variable {key : α → κ} {seen : List κ} {items : List α} {a : α}

theorem mem_of_mem_fresh (h : a ∈ fresh key seen items) : a ∈ items ∧ key a ∉ seen := by
  induction items generalizing seen with
  | nil => cases h
  | cons b items ih =>
    rw [fresh] at h
    split at h
    · exact ⟨List.mem_cons_of_mem _ (ih h).1, (ih h).2⟩
    · next hb =>
      rcases List.mem_cons.1 h with rfl | h
      · exact ⟨List.mem_cons_self, hb⟩
      · exact ⟨List.mem_cons_of_mem _ (ih h).1, fun hs => (ih h).2 (List.mem_cons_of_mem _ hs)⟩

/-- No key is lost. -/
theorem exists_mem_fresh (ha : a ∈ items) (hs : key a ∉ seen) :
    ∃ b ∈ fresh key seen items, key b = key a := by
  induction items generalizing seen with
  | nil => cases ha
  | cons b items ih =>
    rw [fresh]
    rcases List.mem_cons.1 ha with rfl | ha
    · rw [if_neg hs]
      exact ⟨a, List.mem_cons_self, rfl⟩
    · split
      · exact ih ha hs
      · by_cases he : key a = key b
        · exact ⟨b, List.mem_cons_self, he.symm⟩
        · obtain ⟨c, hc, hca⟩ := @ih (key b :: seen) ha (by simp [he, hs])
          exact ⟨c, List.mem_cons_of_mem _ hc, hca⟩

theorem fresh_sublist (key : α → κ) (seen : List κ) (items : List α) :
    (fresh key seen items).Sublist items := by
  induction items generalizing seen with
  | nil => exact .slnil
  | cons a items ih =>
    rw [fresh]
    split
    · exact (ih seen).cons a
    · exact (ih _).cons_cons a

theorem nodup_keys_fresh (key : α → κ) (seen : List κ) (items : List α) :
    ((fresh key seen items).map key).Nodup := by
  induction items generalizing seen with
  | nil => exact .nil
  | cons a items ih =>
    rw [fresh]
    split
    · exact ih seen
    · refine List.nodup_cons.2 ⟨fun hmem => ?_, ih _⟩
      obtain ⟨b, hb, he⟩ := List.mem_map.1 hmem
      exact (mem_of_mem_fresh hb).2 (he ▸ List.mem_cons_self)

/-- Where items of one key pass a test together, it can be made before or after. -/
theorem filter_fresh {p : α → Bool} {seen' : List κ}
    (hsame : ∀ a ∈ items, ∀ b ∈ items, key a = key b → p a = p b)
    (hseen : ∀ a ∈ items, p a = true → (key a ∈ seen' ↔ key a ∈ seen)) :
    (fresh key seen items).filter p = fresh key seen' (items.filter p) := by
  induction items generalizing seen seen' with
  | nil => rfl
  | cons b items ih =>
    have hrest : ∀ a ∈ items, ∀ c ∈ items, key a = key c → p a = p c :=
      fun a ha c hc => hsame a (List.mem_cons_of_mem _ ha) c (List.mem_cons_of_mem _ hc)
    have htail : ∀ a ∈ items, p a = true → (key a ∈ seen' ↔ key a ∈ seen) :=
      fun a ha => hseen a (List.mem_cons_of_mem _ ha)
    rw [fresh]
    cases hb : p b with
    | false =>
      have hskip : ¬ p b = true := by simp [hb]
      rw [List.filter_cons_of_neg hskip]
      split
      · exact ih hrest htail
      · rw [List.filter_cons_of_neg hskip]
        refine ih hrest fun a ha hp => ?_
        have hne : key a ≠ key b := fun he => by
          rw [hsame a (List.mem_cons_of_mem _ ha) b List.mem_cons_self he, hb] at hp
          cases hp
        rw [htail a ha hp, List.mem_cons, or_iff_right hne]
    | true =>
      rw [List.filter_cons_of_pos hb, fresh]
      have hmem := hseen b List.mem_cons_self hb
      by_cases hold : key b ∈ seen
      · rw [if_pos hold, if_pos (hmem.2 hold)]
        exact ih hrest htail
      · rw [if_neg hold, if_neg (mt hmem.1 hold), List.filter_cons_of_pos hb]
        refine congrArg (b :: ·) (ih hrest fun a ha hp => ?_)
        rw [List.mem_cons, List.mem_cons, htail a ha hp]

/-- It matters which keys were seen, and nothing else about them. -/
theorem fresh_congr {seen seen' : List κ} (h : ∀ k, k ∈ seen' ↔ k ∈ seen) (items : List α) :
    fresh key seen items = fresh key seen' items := by
  have hall : (fresh key seen items).filter (fun _ => true) =
      fresh key seen' (items.filter fun _ => true) :=
    filter_fresh (fun _ _ _ _ _ => rfl) fun a _ _ => h (key a)
  have hself (l : List α) : l.filter (fun _ => true) = l := List.filter_eq_self.2 fun _ _ => rfl
  rwa [hself, hself] at hall

theorem fresh_append (seen : List κ) (items more : List α) :
    fresh key seen (items ++ more) =
      fresh key seen items ++ fresh key (seen ++ (fresh key seen items).map key) more := by
  induction items generalizing seen with
  | nil => simp [fresh]
  | cons a items ih =>
    rw [List.cons_append, fresh, fresh]
    split
    · exact ih seen
    · rw [ih, List.cons_append]
      congr 2
      refine fresh_congr (fun k => ?_) more
      simp [or_left_comm]

/-- What is kept is the first item of its key. -/
theorem mem_fresh_iff_find? {seen : List κ} {items : List α} {a : α} : a ∈ fresh key seen items ↔
    key a ∉ seen ∧ items.find? (fun b => key b = key a) = some a := by
  induction items generalizing seen with
  | nil => simp [fresh]
  | cons b items ih =>
    rw [fresh, List.find?_cons]
    by_cases hkey : key b = key a
    · rw [decide_eq_true hkey, hkey]
      split
      · next hseen =>
        rw [ih]
        simp [hseen]
      · next hseen =>
        rw [List.mem_cons, ih]
        simp [hseen, eq_comm]
    · rw [decide_eq_false hkey]
      split
      · exact ih
      · rw [List.mem_cons, ih]
        have hne : a ≠ b := fun he => hkey (he ▸ rfl)
        simp [hne, Ne.symm hkey]

end Entitlement
