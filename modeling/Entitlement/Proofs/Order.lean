import Entitlement.Fresh
import Entitlement.Permission
import Entitlement.Table

/-!
# Ascending lists

* `Before` : one key comes strictly before another, by the first halves and then by the second;
* `perm_sortByName`, `pairwise_sortByName` : sorting keeps the items and leaves none after one that
  comes before it; `filter_sortByName` : it commutes with leaving items out; `sortByName_congr` :
  the order before it does not matter where keys tell the items apart;
* `Listing` : all that a property holds of, in ascending order of their keys and each once; there is
  one such list (`Listing.unique`);
* `Listing.of_sorted`, `listing_sort_fresh` : sorted items with distinct keys list themselves, and
  so do rows of a table when all but one of each identifier are left out.
-/

namespace Entitlement

/-- Strictly ascending: the first halves decide, then the second. -/
def Before (a b : String × String) : Prop := a.1 < b.1 ∨ a.1 = b.1 ∧ a.2 < b.2

theorem Before.irrefl (a : String × String) : ¬ Before a a := by
  rintro (h | ⟨-, h⟩)
  · exact String.lt_irrefl _ h
  · exact String.lt_irrefl _ h

theorem Before.trans {a b c : String × String} (h₁ : Before a b) (h₂ : Before b c) : Before a c := by
  rcases h₁ with h₁ | ⟨e₁, h₁⟩ <;> rcases h₂ with h₂ | ⟨e₂, h₂⟩
  · exact .inl (String.lt_trans h₁ h₂)
  · exact .inl (e₂ ▸ h₁)
  · exact .inl (e₁ ▸ h₂)
  · exact .inr ⟨e₁.trans e₂, String.lt_trans h₁ h₂⟩

theorem text_trichotomy (a b : String) : a = b ∨ a < b ∨ b < a := by
  by_cases hab : a < b
  · exact .inr (.inl hab)
  · by_cases hba : b < a
    · exact .inr (.inr hba)
    · exact .inl (String.le_antisymm (String.not_lt.1 hba) (String.not_lt.1 hab))

theorem Before.total (a b : String × String) : a = b ∨ Before a b ∨ Before b a := by
  obtain ⟨a₁, a₂⟩ := a
  obtain ⟨b₁, b₂⟩ := b
  rcases text_trichotomy a₁ b₁ with rfl | h | h
  · rcases text_trichotomy a₂ b₂ with rfl | h | h
    · exact .inl rfl
    · exact .inr (.inl (.inr ⟨rfl, h⟩))
    · exact .inr (.inr (.inr ⟨rfl, h⟩))
  · exact .inr (.inl (.inl h))
  · exact .inr (.inr (.inl h))

theorem byName_iff {a b : String × String} : byName a b = true ↔ ¬ Before b a := by
  unfold byName Before
  split
  · next h => simp [h]
  · next h =>
    rw [decide_eq_true_iff]
    constructor
    · rintro hab (hba | ⟨e, -⟩)
      · exact String.lt_irrefl _ (String.lt_trans hab hba)
      · exact h e.symm
    · intro hn
      rcases text_trichotomy a.1 b.1 with e | hab | hba
      · exact absurd e h
      · exact hab
      · exact absurd (.inl hba) hn

/-! ## Sorting -/

theorem byName_trans (a b c : String × String) (hab : byName a b = true) (hbc : byName b c = true) :
    byName a c = true := by
  rw [byName_iff] at *
  intro hca
  rcases Before.total a b with e | h | h
  · exact hbc (e ▸ hca)
  · exact hbc (hca.trans h)
  · exact hab h

theorem byName_total (a b : String × String) : (byName a b || byName b a) = true := by
  rw [Bool.or_eq_true, byName_iff, byName_iff]
  by_cases h : Before b a
  · exact .inr fun h' => Before.irrefl _ (h.trans h')
  · exact .inl h

variable {α : Type} {key : α → String × String}

theorem perm_sortByName (key : α → String × String) (items : List α) :
    (sortByName key items).Perm items := List.mergeSort_perm _ _

theorem nodup_map_sortByName {β : Type} {g : α → β} {items : List α} :
    ((sortByName key items).map g).Nodup ↔ (items.map g).Nodup :=
  ((perm_sortByName key items).map g).nodup_iff

theorem pairwise_byName (key : α → String × String) (items : List α) :
    (sortByName key items).Pairwise fun a b => byName (key a) (key b) = true :=
  List.pairwise_mergeSort (fun a b c => byName_trans (key a) (key b) (key c))
    (fun a b => byName_total (key a) (key b)) items

theorem pairwise_sortByName (key : α → String × String) (items : List α) :
    (sortByName key items).Pairwise fun a b => ¬ Before (key b) (key a) :=
  (pairwise_byName key items).imp fun h => byName_iff.1 h

/-- Rows of one and the same key keep their order. -/
theorem sortByName_of_key_eq {items : List α} (h : ∀ a ∈ items, ∀ b ∈ items, key a = key b) :
    sortByName key items = items := by
  refine List.mergeSort_of_pairwise (List.pairwise_of_forall_mem_list fun a ha b hb => ?_)
  rw [byName_iff, h a ha b hb]
  exact Before.irrefl _

/-- Sorted items whose keys tell them apart come in one order. -/
theorem eq_of_sorted (hkey : Function.Injective key) {items items' : List α}
    (h : items.Perm items') (hs : items.Pairwise fun a b => ¬ Before (key b) (key a))
    (hs' : items'.Pairwise fun a b => ¬ Before (key b) (key a)) : items = items' := by
  refine h.eq_of_pairwise (fun a b _ _ hba hab => hkey ?_) hs hs'
  exact (Before.total (key a) (key b)).resolve_right fun hor => hor.elim hab hba

theorem sortByName_congr (hkey : Function.Injective key) {items items' : List α}
    (h : items.Perm items') : sortByName key items = sortByName key items' :=
  eq_of_sorted hkey
    (((perm_sortByName key items).trans h).trans (perm_sortByName key items').symm)
    (pairwise_sortByName key items) (pairwise_sortByName key items')

/-- An item goes behind the sorted items that come before it, and in front of all others. -/
theorem exists_sortByName_cons (key : α → String × String) (a : α) (items : List α) :
    ∃ front back, sortByName key (a :: items) = front ++ a :: back ∧
      sortByName key items = front ++ back ∧ (∀ b ∈ front, byName (key a) (key b) = false) ∧
      ∀ b ∈ back, byName (key a) (key b) = true := by
  obtain ⟨front, back, hcons, hitems, hfront⟩ := List.mergeSort_cons
    (fun a b c => byName_trans (key a) (key b) (key c)) (fun a b => byName_total (key a) (key b))
    a items
  have hsorted : (front ++ a :: back).Pairwise fun a b => byName (key a) (key b) = true :=
    hcons ▸ pairwise_byName key (a :: items)
  have hback : ∀ b ∈ back, byName (key a) (key b) = true :=
    (List.pairwise_cons.1 (List.pairwise_append.1 hsorted).2.1).1
  refine ⟨front, back, hcons, hitems, fun b hb => ?_, hback⟩
  have h := hfront b hb
  rwa [Bool.not_eq_true'] at h

/-- A test that only the second half passes tells the halves apart. -/
theorem append_inj_of_test {q : α → Bool} {front back front' back' : List α}
    (h : front ++ back = front' ++ back') (hfront : ∀ b ∈ front, q b = false)
    (hback : ∀ b ∈ back, q b = true) (hfront' : ∀ b ∈ front', q b = false)
    (hback' : ∀ b ∈ back', q b = true) : front = front' ∧ back = back' := by
  have hkept : ∀ {front back : List α}, (∀ b ∈ front, q b = false) → (∀ b ∈ back, q b = true) →
      (front ++ back).filter q = back := by
    intro front back hfront hback
    have hnone : front.filter q = [] := List.filter_eq_nil_iff.2 fun b hb => by simp [hfront b hb]
    rw [List.filter_append, hnone, List.filter_eq_self.2 hback, List.nil_append]
  have hbacks : back = back' := by
    rw [← hkept hfront hback, h, hkept hfront' hback']
  subst hbacks
  exact ⟨List.append_cancel_right h, rfl⟩

/-- **Sorting and leaving items out commute**, also for items of one key. -/
theorem filter_sortByName (key : α → String × String) (p : α → Bool) (items : List α) :
    (sortByName key items).filter p = sortByName key (items.filter p) := by
  induction items with
  | nil => simp [sortByName]
  | cons a items ih =>
    obtain ⟨front, back, hcons, hitems, hfront, hback⟩ := exists_sortByName_cons key a items
    rw [hitems, List.filter_append] at ih
    rw [hcons, List.filter_append]
    cases ha : p a with
    | false =>
      have hskip : ¬ p a = true := by simp [ha]
      rw [List.filter_cons_of_neg hskip, List.filter_cons_of_neg hskip]
      exact ih
    | true =>
      rw [List.filter_cons_of_pos ha, List.filter_cons_of_pos ha]
      obtain ⟨front', back', hcons', hitems', hfront', hback'⟩ :=
        exists_sortByName_cons key a (items.filter p)
      obtain ⟨rfl, rfl⟩ := append_inj_of_test (ih.trans hitems')
        (fun b hb => hfront b (List.mem_filter.1 hb).1) (fun b hb => hback b (List.mem_filter.1 hb).1)
        hfront' hback'
      exact hcons'.symm

theorem Role.key_injective : Function.Injective Role.key := by
  rintro ⟨id, name⟩ ⟨id', name'⟩ h
  cases h
  rfl

theorem Permission.key_injective : Function.Injective Permission.key := by
  rintro ⟨id, name⟩ ⟨id', name'⟩ h
  cases h
  rfl

theorem Resource.key_injective : Function.Injective Resource.key := by
  rintro ⟨id, type⟩ ⟨id', type'⟩ h
  cases h
  rfl

/-! ## Listings -/

structure Listing (key : α → String × String) (P : α → Prop) (items : List α) : Prop where
  ascending : items.Pairwise fun a b => Before (key a) (key b)
  mem_iff : ∀ a, a ∈ items ↔ P a

namespace Listing
variable {P : α → Prop} {items : List α}

theorem nodup (h : Listing key P items) : items.Nodup :=
  h.ascending.imp fun {a b} (hab : Before (key a) (key b)) (e : a = b) =>
    Before.irrefl (key a) (e ▸ hab)

theorem nil (hP : ∀ a, ¬ P a) : Listing key P [] := ⟨.nil, fun a => by simp [hP a]⟩

/-- Sorted items without two of one key. -/
theorem of_sorted (hs : items.Pairwise fun a b => ¬ Before (key b) (key a))
    (hd : (items.map key).Nodup) (hP : ∀ a, a ∈ items ↔ P a) : Listing key P items where
  ascending := by
    refine (hs.and (List.pairwise_map.1 hd)).imp ?_
    rintro a b ⟨hba, hne⟩
    rcases Before.total (key a) (key b) with e | h | h
    · exact absurd e hne
    · exact h
    · exact absurd h hba
  mem_iff := hP

/-- Listings of the same items are one list. -/
theorem unique {Q : α → Prop} {items' : List α} (h : Listing key P items)
    (h' : Listing key Q items') (hPQ : ∀ a, P a ↔ Q a) : items = items' := by
  have hanti : ∀ a b, a ∈ items → b ∈ items' → Before (key a) (key b) → Before (key b) (key a) →
      a = b := fun a b _ _ hab hba => absurd (hab.trans hba) (Before.irrefl _)
  have hmem : ∀ a, a ∈ items ↔ a ∈ items' :=
    fun a => ((h.mem_iff a).trans (hPQ a)).trans (h'.mem_iff a).symm
  have hperm : items.Perm items' := (List.perm_ext_iff_of_nodup h.nodup h'.nodup).2 hmem
  exact hperm.eq_of_pairwise hanti h.ascending h'.ascending

end Listing

/-! ## Rows of a table -/

section Rows
variable {id : α → String} {t : Table id} {seen : List String} {items : List α} {a : α}

/-- Of rows of a table, every new one is kept. -/
theorem mem_fresh_iff (ht : ∀ a ∈ items, a ∈ t.rows) :
    a ∈ fresh id seen items ↔ a ∈ items ∧ id a ∉ seen := by
  refine ⟨mem_of_mem_fresh, ?_⟩
  rintro ⟨ha, hn⟩
  obtain ⟨b, hb, he⟩ := exists_mem_fresh ha hn
  rwa [← t.eq_of_key_eq (ht b (mem_of_mem_fresh hb).1) (ht a ha) he]

theorem nodup_keys_of_ids (hkey : ∀ a, (key a).2 = id a) (hd : (items.map id).Nodup) :
    (items.map key).Nodup := by
  rw [List.Nodup, List.pairwise_map] at hd ⊢
  refine hd.imp fun {a b} hne he => hne ?_
  rw [← hkey a, ← hkey b, he]

/-- The rows among some items that are new, sorted, are listed. -/
theorem listing_sort_fresh (hkey : ∀ a, (key a).2 = id a) (ht : ∀ a ∈ items, a ∈ t.rows) :
    Listing key (fun a => a ∈ items ∧ id a ∉ seen) (sortByName key (fresh id seen items)) := by
  have hd : ((sortByName key (fresh id seen items)).map id).Nodup :=
    nodup_map_sortByName.2 (nodup_keys_fresh id seen items)
  exact .of_sorted (pairwise_sortByName key _) (nodup_keys_of_ids hkey hd) fun a =>
    mem_sortByName.trans (mem_fresh_iff ht)

end Rows

end Entitlement
