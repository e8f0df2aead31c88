/-!
# Rows with distinct keys

* `Table key` : a list of rows, no two of one key;
* `Table.find?` : the row of a key; `Table.put` : with this row in place of the one of its key;
  `Table.erase` : without the row of a key; `Table.ofRows` : rows put one after the other.
-/

namespace Entitlement

/-- Rows in the order in which their keys first came. -/
structure Table {α κ : Type} (key : α → κ) where
  rows : List α
  distinct : (rows.map key).Nodup

namespace Table
variable {α κ : Type} {key : α → κ}

def empty : Table key := ⟨[], List.nodup_nil⟩

def size (t : Table key) : Nat := t.rows.length

def isEmpty (t : Table key) : Bool := t.rows.isEmpty

def keys (t : Table key) : List κ := t.rows.map key

theorem eq_of_rows_eq {t t' : Table key} (h : t.rows = t'.rows) : t = t' := by
  cases t
  cases t'
  cases h
  rfl

/-- Two rows of one key are one row. -/
theorem eq_of_key_eq {t : Table key} {a b : α} (ha : a ∈ t.rows) (hb : b ∈ t.rows)
    (h : key a = key b) : a = b := by
  have hd : t.rows.Pairwise fun a b => key a ≠ key b := List.pairwise_map.1 t.distinct
  have hi : t.rows.Pairwise fun a b => key a = key b → a = b := hd.imp fun hne he => absurd he hne
  exact hi.forall_of_forall_of_flip (fun _ _ _ => rfl) (hd.imp fun hne he => absurd he.symm hne)
    ha hb h

variable [DecidableEq κ]

def find? (t : Table key) (k : κ) : Option α := t.rows.find? fun a => key a = k

def contains (t : Table key) (k : κ) : Bool := (t.find? k).isSome

/-- The rows with one of them replaced by a row of the same key. -/
def replace (key : α → κ) (a : α) (rows : List α) : List α :=
  rows.map fun b => if key b = key a then a else b

theorem map_replace (a : α) (rows : List α) : (replace key a rows).map key = rows.map key := by
  simp only [replace, List.map_map]
  apply List.map_congr_left
  intro b _
  simp only [Function.comp]
  split
  · next h => exact h.symm
  · rfl

def put (t : Table key) (a : α) : Table key :=
  if h : key a ∈ t.rows.map key then ⟨replace key a t.rows, by rw [map_replace]; exact t.distinct⟩
  else ⟨t.rows ++ [a], by
    rw [List.map_append, List.nodup_append]
    refine ⟨t.distinct, by simp, fun k hk j hj => ?_⟩
    simp only [List.map_cons, List.map_nil, List.mem_singleton] at hj
    rintro rfl
    exact h (hj ▸ hk)⟩

def erase (t : Table key) (k : κ) : Table key :=
  ⟨t.rows.filter fun a => key a ≠ k, by
    exact (List.Pairwise.sublist (List.filter_sublist.map key) t.distinct)⟩

def ofRows (rows : List α) : Table key := rows.foldl put empty

theorem rows_foldl_put {rows : List α} {t : Table key} (h : ((t.rows ++ rows).map key).Nodup) :
    (rows.foldl put t).rows = t.rows ++ rows := by
  induction rows generalizing t with
  | nil => exact (List.append_nil _).symm
  | cons a rows ih =>
    have hnew : key a ∉ t.rows.map key := by
      rw [List.map_append, List.nodup_append] at h
      exact fun hmem => h.2.2 _ hmem _ (List.mem_map_of_mem List.mem_cons_self) rfl
    have hput : (t.put a).rows = t.rows ++ [a] := by rw [put, dif_neg hnew]
    rw [List.foldl_cons, ih, hput, List.append_assoc]
    · rfl
    · rwa [hput, List.append_assoc]

/-- Rows with distinct keys stay as they are. -/
theorem rows_ofRows {rows : List α} (h : (rows.map key).Nodup) :
    (ofRows rows : Table key).rows = rows := rows_foldl_put h

theorem key_of_find? {t : Table key} {k : κ} {a : α} (h : t.find? k = some a) : key a = k := by
  simpa using List.find?_some h

theorem mem_of_find? {t : Table key} {k : κ} {a : α} (h : t.find? k = some a) : a ∈ t.rows :=
  List.mem_of_find?_eq_some h

theorem find?_eq_some_iff {t : Table key} {k : κ} {a : α} :
    t.find? k = some a ↔ a ∈ t.rows ∧ key a = k := by
  constructor
  · exact fun h => ⟨mem_of_find? h, key_of_find? h⟩
  · rintro ⟨ha, rfl⟩
    cases hf : t.find? (key a) with
    | none => exact absurd (by simp) (List.find?_eq_none.1 hf a ha)
    | some b => rw [eq_of_key_eq (mem_of_find? hf) ha (key_of_find? hf)]

theorem isSome_find?_iff {t : Table key} {k : κ} : (t.find? k).isSome ↔ k ∈ t.keys := by
  rw [Option.isSome_iff_exists, keys, List.mem_map]
  exact exists_congr fun _ => find?_eq_some_iff

@[simp] theorem find?_empty (k : κ) : (empty : Table key).find? k = none := rfl

/-- The new row, and all rows of other keys. -/
theorem mem_rows_put {t : Table key} {a b : α} :
    b ∈ (t.put a).rows ↔ b = a ∨ b ∈ t.rows ∧ key b ≠ key a := by
  unfold put
  split
  · next hold =>
    change b ∈ t.rows.map _ ↔ _
    rw [List.mem_map]
    constructor
    · rintro ⟨c, hc, rfl⟩
      split
      · exact .inl rfl
      · next hne => exact .inr ⟨hc, hne⟩
    · rintro (rfl | ⟨hb, hne⟩)
      · obtain ⟨c, hc, he⟩ := List.mem_map.1 hold
        exact ⟨c, hc, if_pos he⟩
      · exact ⟨b, hb, if_neg hne⟩
  · next hnew =>
    change b ∈ t.rows ++ [a] ↔ _
    rw [List.mem_append, List.mem_singleton, or_comm]
    refine or_congr_right (iff_self_and.2 fun hb he => hnew ?_)
    exact he ▸ List.mem_map_of_mem hb

theorem mem_rows_erase {t : Table key} {k : κ} {a : α} :
    a ∈ (t.erase k).rows ↔ a ∈ t.rows ∧ key a ≠ k := by
  change a ∈ t.rows.filter _ ↔ _
  rw [List.mem_filter, decide_eq_true_iff]

theorem find?_put (t : Table key) (a : α) (k : κ) :
    (t.put a).find? k = if key a = k then some a else t.find? k := by
  ext b
  rw [find?_eq_some_iff, mem_rows_put]
  split
  · next hk =>
    rw [Option.some.injEq]
    constructor
    · rintro ⟨rfl | ⟨-, hne⟩, he⟩
      · rfl
      · exact absurd (he.trans hk.symm) hne
    · rintro rfl
      exact ⟨.inl rfl, hk⟩
  · next hk =>
    rw [find?_eq_some_iff]
    constructor
    · rintro ⟨rfl | ⟨hb, -⟩, he⟩
      · exact absurd he hk
      · exact ⟨hb, he⟩
    · rintro ⟨hb, rfl⟩
      exact ⟨.inr ⟨hb, fun he => hk he.symm⟩, rfl⟩

theorem find?_erase (t : Table key) (k j : κ) :
    (t.erase k).find? j = if j = k then none else t.find? j := by
  ext b
  rw [find?_eq_some_iff, mem_rows_erase]
  split
  · next hj => exact iff_of_false (fun h => h.1.2 (h.2.trans hj)) nofun
  · next hj =>
    rw [find?_eq_some_iff]
    exact ⟨fun h => ⟨h.1.1, h.2⟩, fun h => ⟨⟨h.1, fun he => hj (h.2.symm.trans he)⟩, h.2⟩⟩

theorem erase_of_find?_eq_none {t : Table key} {k : κ} (h : t.find? k = none) : t.erase k = t := by
  refine eq_of_rows_eq (List.filter_eq_self.2 fun a ha => decide_eq_true fun he => ?_)
  rw [find?_eq_some_iff.2 ⟨ha, he⟩] at h
  cases h

/-- Tables of the same rows, in whatever order, answer alike. -/
theorem find?_congr {t t' : Table key} (h : t.rows.Perm t'.rows) (k : κ) :
    t.find? k = t'.find? k :=
  Option.ext fun _ => find?_eq_some_iff.trans
    ((and_congr_left' h.mem_iff).trans find?_eq_some_iff.symm)

end Table

end Entitlement
