import Entitlement.Proofs.Fold
import Entitlement.Store.Dataset

/-!
# The overrides of a user

* `Overrides.partition_eq_ok_iff` : rows of known kinds only are accepted, and each list holds the
  permissions of its kind in the order of the rows; `Overrides.partition_eq_error_iff` : the first
  row of an unknown kind is the one that is rejected;
* `Dataset.mem_overrideRows` : the rows that a user's overrides are answered with.
-/

namespace Entitlement

namespace Overrides

/-- The permissions of the rows of one kind. -/
def ofKind (kind : OverrideKind) (rows : List OverrideRow) : List Permission :=
  (rows.filter (·.kind = kind.text)).map (·.permission)

theorem parse_eq_ok_iff {s : String} {k : OverrideKind} :
    OverrideKind.parse s = .ok k ↔ s = k.text := by
  constructor
  · intro h
    unfold OverrideKind.parse at h
    split at h
    · next hs => cases h; exact hs
    · split at h
      · next hs => cases h; exact hs
      · cases h
  · rintro rfl
    exact OverrideKind.parse_text k

theorem addRows_eq_ok_iff {o o' : Overrides} {rows : List OverrideRow} :
    o.addRows rows = .ok o' ↔ (∀ row ∈ rows, ∃ k : OverrideKind, row.kind = k.text) ∧
      o' = ⟨o.extra ++ ofKind .extra rows, o.revoked ++ ofKind .revoked rows⟩ := by
  induction rows generalizing o with
  | nil => simp [addRows, ofKind, eq_comm]
  | cons row rows ih =>
    rw [addRows]
    cases hk : OverrideKind.parse row.kind with
    | error e =>
      refine ⟨nofun, fun ⟨hknown, _⟩ => ?_⟩
      obtain ⟨k, hrow⟩ := hknown row List.mem_cons_self
      rw [parse_eq_ok_iff.2 hrow] at hk
      cases hk
    | ok k =>
      have hrow := parse_eq_ok_iff.1 hk
      have hknown : ∃ k : OverrideKind, row.kind = k.text := ⟨k, hrow⟩
      change (o.add row.permission k).addRows rows = .ok o' ↔ _
      rw [ih, List.forall_mem_cons, and_iff_right hknown]
      refine and_congr_right fun _ => ?_
      cases k <;> simp [add, ofKind, hrow, OverrideKind.text]

theorem partition_eq_ok_iff {rows : List OverrideRow} {o : Overrides} :
    partition rows = .ok o ↔ (∀ row ∈ rows, ∃ k : OverrideKind, row.kind = k.text) ∧
      o = ⟨ofKind .extra rows, ofKind .revoked rows⟩ := addRows_eq_ok_iff

theorem parse_eq_error_iff {s : String} {e : Error} :
    OverrideKind.parse s = .error e ↔ (∀ k : OverrideKind, s ≠ k.text) ∧ e = .unknownOverride s := by
  constructor
  · intro h
    refine ⟨fun k hk => ?_, ?_⟩
    · rw [parse_eq_ok_iff.2 hk] at h
      cases h
    · unfold OverrideKind.parse at h
      split at h
      · cases h
      · split at h
        · cases h
        · cases h
          rfl
  · intro h
    obtain ⟨hunknown, rfl⟩ := h
    have hextra : s ≠ "extra" := hunknown .extra
    have hrevoked : s ≠ "revoked" := hunknown .revoked
    rw [OverrideKind.parse, if_neg hextra, if_neg hrevoked]

theorem addRows_eq_foldlM (o : Overrides) (rows : List OverrideRow) : o.addRows rows =
    rows.foldlM (fun o row => (OverrideKind.parse row.kind).map (o.add row.permission)) o := by
  induction rows generalizing o with
  | nil => rfl
  | cons row rows ih =>
    rw [addRows, List.foldlM_cons]
    cases OverrideKind.parse row.kind with
    | error e => rfl
    | ok k => exact ih (o.add row.permission k)

/-- The first row of an unknown kind ends it, whatever comes after. -/
theorem partition_eq_error_iff {rows : List OverrideRow} {e : Error} :
    partition rows = .error e ↔ ∃ before row after, rows = before ++ row :: after ∧
      (∀ r ∈ before, ∃ k : OverrideKind, r.kind = k.text) ∧
      (∀ k : OverrideKind, row.kind ≠ k.text) ∧ e = .unknownOverride row.kind := by
  have hstep (o : Overrides) (row : OverrideRow) (e : Error) :
      (OverrideKind.parse row.kind).map (o.add row.permission) = .error e ↔
        (∀ k : OverrideKind, row.kind ≠ k.text) ∧ e = .unknownOverride row.kind :=
    map_eq_error_iff.trans parse_eq_error_iff
  rw [partition, addRows_eq_foldlM, foldlM_eq_error_iff hstep]
  simp only [ne_eq, Classical.not_forall, Classical.not_not]

theorem exists_unknown_of_partition {rows : List OverrideRow} {e : Error}
    (h : partition rows = .error e) : ∃ kind, e = .unknownOverride kind := by
  obtain ⟨-, row, -, -, -, -, he⟩ := partition_eq_error_iff.1 h
  exact ⟨row.kind, he⟩

theorem mem_ofKind {kind : OverrideKind} {rows : List OverrideRow} {p : Permission} :
    p ∈ ofKind kind rows ↔ ⟨p, kind.text⟩ ∈ rows := by
  constructor
  · intro h
    obtain ⟨row, hrow, rfl⟩ := List.mem_map.1 h
    obtain ⟨hmem, hkind⟩ := List.mem_filter.1 hrow
    exact of_decide_eq_true hkind ▸ hmem
  · intro h
    exact List.mem_map.2 ⟨_, List.mem_filter.2 ⟨h, decide_eq_true rfl⟩, rfl⟩

end Overrides

namespace Dataset
variable {d : Dataset} {user : UserId} {f : Filter}

theorem mem_overrideRows {row : OverrideRow} : row ∈ d.overrideRows user f ↔
    row.permission ∈ d.permissions.rows ∧ (user, row.permission.id, row.kind) ∈ d.overrides ∧
      f.matchesPermission row.permission.name = true := by
  rw [overrideRows, mem_sortByName, List.mem_filter, List.mem_filterMap, ← and_assoc]
  refine and_congr_left' ?_
  constructor
  · rintro ⟨⟨u, id, kind⟩, ho, hrow⟩
    rw [List.mem_filter, decide_eq_true_iff] at ho
    obtain ⟨ho, rfl⟩ := ho
    obtain ⟨p, hp, rfl⟩ := Option.map_eq_some_iff.1 hrow
    obtain ⟨hmem, rfl⟩ := Table.find?_eq_some_iff.1 hp
    exact ⟨hmem, ho⟩
  · rintro ⟨hmem, ho⟩
    refine ⟨(user, row.permission.id, row.kind), List.mem_filter.2 ⟨ho, decide_eq_true rfl⟩, ?_⟩
    have hfind := Table.find?_eq_some_iff.2 ⟨hmem, rfl⟩
    exact Option.map_eq_some_iff.2 ⟨row.permission, hfind, rfl⟩

theorem known_overrideRows (h : ∀ o ∈ d.overrides, o.2.2 = "extra" ∨ o.2.2 = "revoked") :
    ∀ row ∈ d.overrideRows user f, ∃ k : OverrideKind, row.kind = k.text := by
  intro row hrow
  rcases h _ (mem_overrideRows.1 hrow).2.1 with hkind | hkind
  · exact ⟨.extra, hkind⟩
  · exact ⟨.revoked, hkind⟩

/-- Only permissions that exist are overridden. -/
theorem mem_permissions_of_partition {o : Overrides}
    (h : Overrides.partition (d.overrideRows user f) = .ok o) {p : Permission}
    (hp : p ∈ o.extra ∨ p ∈ o.revoked) : p ∈ d.permissions.rows := by
  obtain ⟨-, rfl⟩ := Overrides.partition_eq_ok_iff.1 h
  rcases hp with hp | hp
  · exact (mem_overrideRows.1 (Overrides.mem_ofKind.1 hp)).1
  · exact (mem_overrideRows.1 (Overrides.mem_ofKind.1 hp)).1

end Dataset

end Entitlement
