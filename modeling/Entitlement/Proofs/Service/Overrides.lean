import Entitlement.Proofs.Override
import Entitlement.Proofs.Store.Transcript
import Entitlement.Proofs.Text.Utf8
import Entitlement.Service.Calls

/-!
# The overrides that a user's call is answered with

* `Dataset.storedRows` : the overrides of a user whose permissions exist and match, as they were put
  in; `Dataset.overrideRows_eq` : a query answers with them in order;
* `run_userOverrides` : the transaction of the call, from its beginning to its end;
* `userOverrides_told_apart` : **the call gives every row to the list of its kind, or fails on the
  first row of no kind.**
-/

namespace Entitlement
open Run

namespace Dataset
variable {d : Dataset} {user : UserId} {f : Filter}

def storedRows (d : Dataset) (user : UserId) (f : Filter) : List OverrideRow :=
  ((d.overrides.filter (·.1 = user)).filterMap d.overrideRow?).filter fun row =>
    f.matchesPermission row.permission.name

theorem overrideRows_eq (d : Dataset) (user : UserId) (f : Filter) :
    d.overrideRows user f = sortByName OverrideRow.key (d.storedRows user f) := rfl

theorem perm_overrideRows (d : Dataset) (user : UserId) (f : Filter) :
    (d.overrideRows user f).Perm (d.storedRows user f) := perm_sortByName _ _

theorem mem_storedRows {row : OverrideRow} : row ∈ d.storedRows user f ↔
    row.permission ∈ d.permissions.rows ∧ (user, row.permission.id, row.kind) ∈ d.overrides ∧
      f.matchesPermission row.permission.name = true := by
  rw [← (d.perm_overrideRows user f).mem_iff]
  exact mem_overrideRows

theorem ascending_overrideRows (d : Dataset) (user : UserId) (f : Filter) :
    (d.overrideRows user f).Pairwise fun a b => Ascending a.key b.key := by
  simp only [ascending_iff]
  exact pairwise_sortByName OverrideRow.key _

/-- The overrides of one permission stay in the order in which they were put in. -/
theorem filter_overrideRows (d : Dataset) (user : UserId) (f : Filter) (p : Permission) :
    (d.overrideRows user f).filter (·.permission = p) =
      (d.storedRows user f).filter (·.permission = p) := by
  rw [overrideRows_eq, filter_sortByName]
  apply sortByName_of_key_eq
  intro a ha b hb
  have ha' := of_decide_eq_true (List.mem_filter.1 ha).2
  have hb' := of_decide_eq_true (List.mem_filter.1 hb).2
  rw [OverrideRow.key, OverrideRow.key, ha', hb']

end Dataset

/-! ## Kinds -/

namespace Overrides
variable {d : Dataset} {user : UserId} {f : Filter} {o : Overrides} {e : Error}

theorem exists_kind_iff {s : String} :
    (∃ k : OverrideKind, s = k.text) ↔ s = "extra" ∨ s = "revoked" := by
  constructor
  · intro h
    obtain ⟨k, rfl⟩ := h
    cases k with
    | extra => exact .inl rfl
    | revoked => exact .inr rfl
  · intro h
    rcases h with rfl | rfl
    · exact ⟨.extra, rfl⟩
    · exact ⟨.revoked, rfl⟩

/-- The rows of a kind, one entry a row. -/
theorem perm_ofKind_overrideRows (kind : OverrideKind) :
    (ofKind kind (d.overrideRows user f)).Perm (ofKind kind (d.storedRows user f)) :=
  ((d.perm_overrideRows user f).filter _).map _

theorem ascending_ofKind_overrideRows (kind : OverrideKind) :
    (ofKind kind (d.overrideRows user f)).Pairwise fun p q => Ascending p.key q.key := by
  rw [ofKind, List.pairwise_map]
  exact (d.ascending_overrideRows user f).filter _

/-- Rows whose permissions are missing or do not match are not looked at. -/
theorem exists_partition_iff : (∃ o, partition (d.overrideRows user f) = .ok o) ↔
    ∀ p ∈ d.permissions.rows, f.matchesPermission p.name = true →
      ∀ kind, (user, p.id, kind) ∈ d.overrides → kind = "extra" ∨ kind = "revoked" := by
  constructor
  · intro h p hp hmatch kind hover
    obtain ⟨o, ho⟩ := h
    have hrow : (⟨p, kind⟩ : OverrideRow) ∈ d.overrideRows user f :=
      Dataset.mem_overrideRows.2 ⟨hp, hover, hmatch⟩
    exact exists_kind_iff.1 ((partition_eq_ok_iff.1 ho).1 _ hrow)
  · intro h
    refine ⟨_, partition_eq_ok_iff.2 ⟨fun row hrow => ?_, rfl⟩⟩
    obtain ⟨hp, hover, hmatch⟩ := Dataset.mem_overrideRows.1 hrow
    exact exists_kind_iff.2 (h row.permission hp hmatch row.kind hover)

end Overrides

/-! ## The call -/

variable {tenant : TenantId} {user : UserId} {f : Filter} {d : Dataset} {w : World Memory}

/-- Begun, and the overrides asked for. -/
def World.askedOverrides (w : World Memory) (tenant : TenantId) (user : UserId) (f : Filter) :
    World Memory :=
  (w.stepped (.begin tenant)).stepped (.query (.overrides user f))

/-- A transaction that is committed if all rows are of known kinds, and rolled back if not. -/
theorem run_userOverrides (hd : w.state.snapshot? tenant = .ok d) :
    (memoryStore.userOverrides tenant user f).run w =
      match Overrides.partition (d.overrideRows user f) with
      | .ok o => (.ok o, (w.askedOverrides tenant user f).stepped .commit)
      | .error e => (.error (.failed (e.context "get user permission overrides")),
          (w.askedOverrides tenant user f).stepped .rollback) := by
  have hwork : ((d.transaction Memory).query (.overrides user f) >>= fun rows =>
      ofResult (Overrides.partition rows)).run (w.stepped (.begin tenant)) =
        ((Overrides.partition (d.overrideRows user f)).mapError .failed,
          w.askedOverrides tenant user f) := rfl
  unfold Store.userOverrides
  rw [run_context, Store.run_transact (begin_of_snapshot hd), hwork]
  rcases Overrides.partition (d.overrideRows user f) with e | o
  · rfl
  · rfl

/-- **A user's overrides are told apart by their kinds, all of them or none.** The query answers
with the rows whose permissions exist and match, in ascending order of the bytes of their names and
identifiers, and those of one permission as they were put in. The call succeeds exactly if each of
these rows is of one of the two kinds; then it is committed, and each list has the permission of
every row of its kind, one entry a row, in ascending order. Otherwise it is rolled back, and its
error names the kind of the first row of the answer that has neither. -/
theorem userOverrides_told_apart (hd : w.state.snapshot? tenant = .ok d) :
    let out := (memoryStore.userOverrides tenant user f).run w
    let rows := d.overrideRows user f
    (rows.Perm (d.storedRows user f) ∧ (rows.Pairwise fun a b => Ascending a.key b.key) ∧
      ∀ p : Permission, rows.filter (·.permission = p) =
        (d.storedRows user f).filter (·.permission = p)) ∧
    ((∃ o, out.1 = .ok o) ↔ ∀ p ∈ d.permissions.rows, f.matchesPermission p.name = true →
      ∀ kind, (user, p.id, kind) ∈ d.overrides → kind = "extra" ∨ kind = "revoked") ∧
    (∀ o, out.1 = .ok o →
      (o.extra.Perm (((d.storedRows user f).filter (·.kind = "extra")).map (·.permission)) ∧
        o.extra.Pairwise fun p q => Ascending p.key q.key) ∧
      (o.revoked.Perm (((d.storedRows user f).filter (·.kind = "revoked")).map (·.permission)) ∧
        o.revoked.Pairwise fun p q => Ascending p.key q.key) ∧
      out.2 = (w.askedOverrides tenant user f).stepped .commit) ∧
    ∀ stop, out.1 = .error stop → ∃ before row after, rows = before ++ row :: after ∧
      (∀ r ∈ before, r.kind = "extra" ∨ r.kind = "revoked") ∧
      row.kind ≠ "extra" ∧ row.kind ≠ "revoked" ∧
      stop = .failed (.operation "get user permission overrides" (.unknownOverride row.kind)) ∧
      out.2 = (w.askedOverrides tenant user f).stepped .rollback := by
  intro out rows
  have hrows := d.perm_overrideRows user f
  have hout : out = _ := run_userOverrides hd
  refine ⟨⟨hrows, d.ascending_overrideRows user f, d.filter_overrideRows user f⟩, ?_, ?_, ?_⟩
  · rw [← Overrides.exists_partition_iff, hout]
    rcases Overrides.partition (d.overrideRows user f) with e | o
    · exact ⟨nofun, nofun⟩
    · exact ⟨fun _ => ⟨o, rfl⟩, fun _ => ⟨o, rfl⟩⟩
  · intro o ho
    rw [hout] at ho ⊢
    rcases hpart : Overrides.partition (d.overrideRows user f) with e | o'
    · rw [hpart] at ho
      cases ho
    · rw [hpart] at ho
      cases ho
      obtain ⟨-, rfl⟩ := Overrides.partition_eq_ok_iff.1 hpart
      exact ⟨⟨Overrides.perm_ofKind_overrideRows .extra,
          Overrides.ascending_ofKind_overrideRows .extra⟩,
        ⟨Overrides.perm_ofKind_overrideRows .revoked,
          Overrides.ascending_ofKind_overrideRows .revoked⟩, rfl⟩
  · intro stop hstop
    rw [hout] at hstop ⊢
    rcases hpart : Overrides.partition (d.overrideRows user f) with e | o
    · rw [hpart] at hstop
      cases hstop
      obtain ⟨before, row, after, hsplit, hbefore, hunknown, rfl⟩ :=
        Overrides.partition_eq_error_iff.1 hpart
      exact ⟨before, row, after, hsplit, fun r hr => Overrides.exists_kind_iff.1 (hbefore r hr),
        hunknown .extra, hunknown .revoked, rfl, rfl⟩
    · rw [hpart] at hstop
      cases hstop

def saddlerTenant : TenantId := ⟨"paddock", by decide⟩

def saddler : UserId := ⟨"saddler", by decide⟩

/-- A permission of both kinds, and rows of no kind whose permissions do not match or exist. -/
def tackData : Dataset where
  roles := .empty
  permissions := .ofRows [⟨"p1", "tack:read"⟩, ⟨"p2", "horses:read"⟩]
  grants := []
  edges := []
  assignments := []
  overrides := [(saddler, "p1", "revoked"), (saddler, "p2", "granted"), (saddler, "p3", "granted"),
    (saddler, "p1", "extra")]
  resources := []

def tackMemory : Memory := Memory.empty.put saddlerTenant tackData

theorem userOverrides_told_apart_both :
    (World.ofState tackMemory).state.snapshot? saddlerTenant = .ok tackData ∧
      ∃ o, ((memoryStore.userOverrides saddlerTenant saddler (.ofResources ["tack"])).run
        (.ofState tackMemory)).1 = .ok o ∧
        o.extra = [⟨"p1", "tack:read"⟩] ∧ o.revoked = [⟨"p1", "tack:read"⟩] := by
  have hd : (World.ofState tackMemory).state.snapshot? saddlerTenant = .ok tackData := rfl
  have hstored : tackData.storedRows saddler (.ofResources ["tack"]) =
      [⟨⟨"p1", "tack:read"⟩, "revoked"⟩, ⟨⟨"p1", "tack:read"⟩, "extra"⟩] := by decide +kernel
  obtain ⟨-, hok, hlists, -⟩ :=
    @userOverrides_told_apart saddlerTenant saddler (.ofResources ["tack"]) tackData _ hd
  have hknown : ∀ p ∈ tackData.permissions.rows,
      (Filter.ofResources ["tack"]).matchesPermission p.name = true →
        ∀ kind, (saddler, p.id, kind) ∈ tackData.overrides → kind = "extra" ∨ kind = "revoked" := by
    intro p hp hmatch kind hover
    have hrow : (⟨p, kind⟩ : OverrideRow) ∈ tackData.storedRows saddler (.ofResources ["tack"]) :=
      Dataset.mem_storedRows.2 ⟨hp, hover, hmatch⟩
    rw [hstored] at hrow
    simp only [List.mem_cons, OverrideRow.mk.injEq, List.not_mem_nil, or_false] at hrow
    rcases hrow with ⟨-, rfl⟩ | ⟨-, rfl⟩
    · exact .inr rfl
    · exact .inl rfl
  obtain ⟨o, ho⟩ := hok.2 hknown
  obtain ⟨⟨hextra, -⟩, ⟨hrevoked, -⟩, -⟩ := hlists o ho
  rw [hstored] at hextra hrevoked
  exact ⟨hd, o, ho, List.perm_singleton.1 hextra, List.perm_singleton.1 hrevoked⟩

end Entitlement
