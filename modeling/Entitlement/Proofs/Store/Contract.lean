import Entitlement.Proofs.Override
import Entitlement.Proofs.Role.Build
import Entitlement.Proofs.Store.Alike
import Entitlement.Proofs.Text.Utf8

/-!
# What the queries of a tenant's data are answered with

A tenant's data are built by edits, one after the other. Each query is a join of what was put in,
and is answered with as many copies of a row as the join has, in order.

* `Edit`, `Dataset.build` : the edits, and the data that they build (`build_eq`);
* `latest` : of the items of one key the last one, which took the place of the others;
* `Query.due` : how often a row is in the answer, from the edits;
* `Dataset.count_userRoles`, `Dataset.count_childRoles`, ... : how often it is, from the data;
* `Dataset.answer_build` : these are the same, for every query.
-/

namespace Entitlement

/-! ## Edits -/

inductive Edit where
  | addRole (r : Role)
  | addPermission (p : Permission)
  | grant (role : RoleId) (permission : PermissionId)
  | inherit (parent child : RoleId)
  | assign (user : UserId) (role : RoleId)
  | override (user : UserId) (permission : PermissionId) (kind : OverrideKind)
  /-- With a kind as it is given. -/
  | overrideRaw (user : UserId) (permission : PermissionId) (kind : String)
  | addResource (user : UserId) (resource : Resource)

namespace Edit

def role? : Edit → Option Role
  | addRole r => some r
  | _ => none

def permission? : Edit → Option Permission
  | addPermission p => some p
  | _ => none

def grant? : Edit → Option (RoleId × PermissionId)
  | grant role permission => some (role, permission)
  | _ => none

def edge? : Edit → Option (RoleId × RoleId)
  | inherit parent child => some (parent, child)
  | _ => none

def assignment? : Edit → Option (UserId × RoleId)
  | assign user role => some (user, role)
  | _ => none

def override? : Edit → Option (UserId × PermissionId × String)
  | override user permission kind => some (user, permission, kind.text)
  | overrideRaw user permission kind => some (user, permission, kind)
  | _ => none

def resource? : Edit → Option (UserId × Resource)
  | addResource user resource => some (user, resource)
  | _ => none

end Edit

namespace Dataset

def edit (d : Dataset) : Edit → Dataset
  | .addRole r => d.addRole r
  | .addPermission p => d.addPermission p
  | .grant role permission => d.grant role permission
  | .inherit parent child => d.inherit parent child
  | .assign user role => d.assign user role
  | .override user permission kind => d.override user permission kind.text
  | .overrideRaw user permission kind => d.override user permission kind
  | .addResource user resource => d.addResource user resource

def build (es : List Edit) : Dataset := es.foldl edit empty

theorem foldl_edit (es : List Edit) (d : Dataset) : es.foldl edit d =
    ⟨(es.filterMap Edit.role?).foldl Table.put d.roles,
     (es.filterMap Edit.permission?).foldl Table.put d.permissions,
     d.grants ++ es.filterMap Edit.grant?, d.edges ++ es.filterMap Edit.edge?,
     d.assignments ++ es.filterMap Edit.assignment?, d.overrides ++ es.filterMap Edit.override?,
     d.resources ++ es.filterMap Edit.resource?⟩ := by
  induction es generalizing d with
  | nil => simp
  | cons e es ih =>
    rw [List.foldl_cons, ih]
    cases e <;> simp [List.filterMap_cons, edit, addRole, addPermission, grant, inherit, assign,
      override, addResource, Edit.role?, Edit.permission?, Edit.grant?, Edit.edge?,
      Edit.assignment?, Edit.override?, Edit.resource?]

/-- Each relation holds the rows of its own edits. -/
theorem build_eq (es : List Edit) : build es =
    ⟨.ofRows (es.filterMap Edit.role?), .ofRows (es.filterMap Edit.permission?),
     es.filterMap Edit.grant?, es.filterMap Edit.edge?, es.filterMap Edit.assignment?,
     es.filterMap Edit.override?, es.filterMap Edit.resource?⟩ := foldl_edit es empty

end Dataset

/-! ## The last of each key -/

section Latest
variable {α κ : Type} [DecidableEq κ] {key : α → κ} {a : α} {items : List α}

def latest (key : α → κ) : List α → List α
  | [] => []
  | a :: items => if key a ∈ items.map key then latest key items else a :: latest key items

theorem mem_rows_foldl_put {t : Table key} : a ∈ (items.foldl Table.put t).rows ↔
    a ∈ latest key items ∨ a ∈ t.rows ∧ key a ∉ items.map key := by
  induction items generalizing t with
  | nil => simp [latest]
  | cons b items ih =>
    rw [List.foldl_cons, ih, Table.mem_rows_put, latest, List.map_cons, List.mem_cons]
    -- the first item stays only if no later one has its key
    by_cases hb : key b ∈ items.map key
    · rw [if_pos hb]
      grind
    · rw [if_neg hb, List.mem_cons]
      grind

/-- A table of items holds the last one of each key. -/
theorem mem_rows_ofRows : a ∈ (Table.ofRows items : Table key).rows ↔ a ∈ latest key items :=
  mem_rows_foldl_put.trans (or_iff_left fun h => List.not_mem_nil h.1)

end Latest

/-- The roles that exist after some edits. -/
def Edit.roles (es : List Edit) : List Role := latest Role.id (es.filterMap role?)

/-- The permissions that exist after some edits. -/
def Edit.permissions (es : List Edit) : List Permission :=
  latest Permission.id (es.filterMap permission?)

theorem Dataset.mem_roles_build {es : List Edit} {r : Role} :
    r ∈ (build es).roles.rows ↔ r ∈ Edit.roles es := by
  rw [build_eq]
  exact mem_rows_ofRows

theorem Dataset.mem_permissions_build {es : List Edit} {p : Permission} :
    p ∈ (build es).permissions.rows ↔ p ∈ Edit.permissions es := by
  rw [build_eq]
  exact mem_rows_ofRows

/-! ## Rows that are due -/

namespace Query

instance : (q : Query) → DecidableEq q.Value
  | tenantPermissions _ | rolePermissions .. => inferInstanceAs (DecidableEq Permission)
  | tenantRoles | userRoles _ | childRoles _ => inferInstanceAs (DecidableEq Role)
  | overrides .. => inferInstanceAs (DecidableEq OverrideRow)
  | resources .. => inferInstanceAs (DecidableEq Resource)

/-- What rows are sorted by. -/
def key : (q : Query) → q.Value → String × String
  | tenantPermissions _ | rolePermissions .. => Permission.key
  | tenantRoles | userRoles _ | childRoles _ => Role.key
  | overrides .. => OverrideRow.key
  | resources .. => Resource.key

/-- Rows that name a role or a permission that does not exist are due nothing. Assignments, edges,
overrides and resources count one by one; the permissions of roles are due once. -/
def due (es : List Edit) : (q : Query) → q.Value → Nat
  | tenantPermissions f => fun (p : Permission) =>
    if p ∈ Edit.permissions es ∧ f.matchesPermission p.name then 1 else 0
  | tenantRoles => fun (r : Role) => if r ∈ Edit.roles es then 1 else 0
  | userRoles user => fun (r : Role) =>
    if r ∈ Edit.roles es then (es.filterMap Edit.assignment?).count (user, r.id) else 0
  | childRoles parents => fun (r : Role) =>
    if r ∈ Edit.roles es then
      (es.filterMap Edit.edge?).countP fun e => e.1 ∈ parents ∧ e.2 = r.id
    else 0
  | rolePermissions roles f => fun (p : Permission) =>
    if p ∈ Edit.permissions es ∧ (∃ r ∈ roles, (r, p.id) ∈ es.filterMap Edit.grant?) ∧
      f.matchesPermission p.name then 1 else 0
  | overrides user f => fun (row : OverrideRow) =>
    if row.permission ∈ Edit.permissions es ∧ f.matchesPermission row.permission.name then
      (es.filterMap Edit.override?).count (user, row.permission.id, row.kind)
    else 0
  | resources user f => fun (r : Resource) =>
    if f.matchesType r.type then (es.filterMap Edit.resource?).count (user, r) else 0

end Query

/-! ## Rows that are there -/

theorem count_sortByName {α : Type} [DecidableEq α] {key : α → String × String} {items : List α}
    (a : α) : (sortByName key items).count a = items.count a :=
  (perm_sortByName key items).count_eq a

theorem count_filter_eq {α : Type} [DecidableEq α] {p : α → Bool} {l : List α} (a : α) :
    (l.filter p).count a = if p a then l.count a else 0 := by
  split
  · next ha => exact List.count_filter ha
  · next ha => exact List.count_eq_zero.2 fun h => ha (List.mem_filter.1 h).2

/-- A row that is looked up comes once for each item that names it. -/
theorem count_filterMap_find? {α β κ : Type} [DecidableEq α] [DecidableEq κ] {key : α → κ}
    (t : Table key) (g : β → κ) (l : List β) (a : α) :
    (l.filterMap fun b => t.find? (g b)).count a =
      if a ∈ t.rows then l.countP (fun b => g b = key a) else 0 := by
  rw [List.count_filterMap]
  split
  · next ha =>
    refine List.countP_congr fun b _ => ?_
    rw [beq_iff_eq, Table.find?_eq_some_iff, decide_eq_true_iff, and_iff_right ha, eq_comm]
  · next ha =>
    refine List.countP_eq_zero.2 fun b _ h => ha ?_
    exact (Table.find?_eq_some_iff.1 (beq_iff_eq.1 h)).1

namespace Dataset
variable (d : Dataset) (user : UserId) (f : Filter)

theorem nodup_roles : d.roles.rows.Nodup := .of_map _ d.roles.distinct

theorem nodup_permissions : d.permissions.rows.Nodup := .of_map _ d.permissions.distinct

theorem count_tenantPermissions (p : Permission) : (d.tenantPermissions f).count p =
    if p ∈ d.permissions.rows ∧ f.matchesPermission p.name then 1 else 0 := by
  rw [tenantPermissions, count_sortByName, (d.nodup_permissions.filter _).count]
  simp only [List.mem_filter]

theorem count_tenantRoles (r : Role) :
    d.tenantRoles.count r = if r ∈ d.roles.rows then 1 else 0 := by
  rw [tenantRoles, count_sortByName, d.nodup_roles.count]

theorem count_userRoles (r : Role) : (d.userRoles user).count r =
    if r ∈ d.roles.rows then d.assignments.count (user, r.id) else 0 := by
  have hrow : ∀ a : UserId × RoleId,
      (decide (a.2 = r.id) && decide (a.1 = user)) = (a == (user, r.id)) := by
    intro a
    rw [Bool.eq_iff_iff, Bool.and_eq_true, decide_eq_true_iff, decide_eq_true_iff, beq_iff_eq,
      Prod.ext_iff, and_comm]
  rw [userRoles, count_sortByName, count_filterMap_find? d.roles Prod.snd, List.countP_filter,
    List.count_eq_countP]
  simp only [hrow]

theorem count_childRoles (parents : List RoleId) (r : Role) : (d.childRoles parents).count r =
    if r ∈ d.roles.rows then d.edges.countP fun e => e.1 ∈ parents ∧ e.2 = r.id else 0 := by
  rw [childRoles, count_sortByName, count_filterMap_find? d.roles Prod.snd, List.countP_filter]
  simp only [Bool.decide_and, Bool.and_comm]

theorem count_rolePermissions (roles : List RoleId) (p : Permission) :
    (d.rolePermissions roles f).count p =
      if p ∈ d.permissions.rows ∧ (∃ r ∈ roles, (r, p.id) ∈ d.grants) ∧
        f.matchesPermission p.name then 1 else 0 := by
  rw [(listing_rolePermissions roles).nodup.count]
  simp only [mem_rolePermissions]

theorem overrideRow?_eq_some_iff {o : UserId × PermissionId × String} {row : OverrideRow} :
    d.overrideRow? o = some row ↔
      row.permission ∈ d.permissions.rows ∧ o.2 = (row.permission.id, row.kind) := by
  rw [overrideRow?, Option.map_eq_some_iff]
  constructor
  · rintro ⟨p, hp, rfl⟩
    obtain ⟨hmem, he⟩ := Table.find?_eq_some_iff.1 hp
    exact ⟨hmem, Prod.ext he.symm rfl⟩
  · rintro ⟨hmem, he⟩
    refine ⟨row.permission, Table.find?_eq_some_iff.2 ⟨hmem, ?_⟩, ?_⟩
    · rw [he]
    · rw [he]

theorem count_overrideRows (row : OverrideRow) : (d.overrideRows user f).count row =
    if row.permission ∈ d.permissions.rows ∧ f.matchesPermission row.permission.name then
      d.overrides.count (user, row.permission.id, row.kind) else 0 := by
  rw [overrideRows, count_sortByName, count_filter_eq, List.count_filterMap, List.countP_filter]
  by_cases hmatch : f.matchesPermission row.permission.name = true
  · rw [if_pos hmatch]
    by_cases hmem : row.permission ∈ d.permissions.rows
    · rw [if_pos ⟨hmem, hmatch⟩, List.count_eq_countP]
      refine List.countP_congr fun o _ => ?_
      rw [Bool.and_eq_true, beq_iff_eq, beq_iff_eq, decide_eq_true_iff, overrideRow?_eq_some_iff,
        and_iff_right hmem, and_comm]
      exact ⟨fun h => Prod.ext h.1 h.2, fun h => h ▸ ⟨rfl, rfl⟩⟩
    · rw [if_neg fun h => hmem h.1]
      refine List.countP_eq_zero.2 fun o _ h => hmem ?_
      rw [Bool.and_eq_true, beq_iff_eq] at h
      exact (d.overrideRow?_eq_some_iff.1 h.1).1
  · rw [if_neg hmatch, if_neg fun h => hmatch h.2]

theorem count_userResources (r : Resource) : (d.userResources user f).count r =
    if f.matchesType r.type then d.resources.count (user, r) else 0 := by
  rw [userResources, count_sortByName, List.count_eq_countP, List.countP_map, List.countP_filter]
  split
  · next hmatch =>
    rw [List.count_eq_countP]
    refine List.countP_congr fun x _ => ?_
    simp only [Function.comp, Bool.and_eq_true, beq_iff_eq, decide_eq_true_iff, Prod.ext_iff]
    constructor
    · rintro ⟨hr, hu, -⟩
      exact ⟨hu, hr⟩
    · rintro ⟨hu, hr⟩
      exact ⟨hr, hu, hr ▸ hmatch⟩
  · next hmatch =>
    refine List.countP_eq_zero.2 fun x _ h => hmatch ?_
    simp only [Function.comp, Bool.and_eq_true, beq_iff_eq, decide_eq_true_iff] at h
    exact h.1 ▸ h.2.2

/-! ## Order -/

/-- Those of one permission keep the order of the rows. -/
theorem kinds_overrideRows (p : Permission) :
    ((d.overrideRows user f).filter (·.permission = p)).map (·.kind) =
      if p ∈ d.permissions.rows ∧ f.matchesPermission p.name then
        (d.overrides.filter fun o => o.1 = user ∧ o.2.1 = p.id).map (·.2.2) else [] := by
  split
  · next hp =>
    have hfind : d.permissions.find? p.id = some p := Table.find?_eq_some_iff.2 ⟨hp.1, rfl⟩
    have hrow : ∀ o : UserId × PermissionId × String, (((d.overrideRow? o).filter fun row =>
        decide (row.permission = p) && f.matchesPermission row.permission.name).map (·.kind)) =
          if o.2.1 = p.id then some o.2.2 else none := by
      intro o
      by_cases hid : o.2.1 = p.id
      · rw [if_pos hid, overrideRow?, hid, hfind]
        simp [hp.2]
      · rw [if_neg hid, Option.map_eq_none_iff, Option.filter_eq_none_iff]
        intro row hrow hkept
        rw [Bool.and_eq_true, decide_eq_true_iff] at hkept
        have hname := congrArg Prod.fst (d.overrideRow?_eq_some_iff.1 hrow).2
        exact hid (hkept.1 ▸ hname)
    -- the rows of one permission have one key, so sorting leaves them where they were
    rw [overrideRows, filter_sortByName, sortByName_of_key_eq]
    · rw [List.filter_filter, List.filter_filterMap, List.map_filterMap, List.filterMap_filter,
        ← List.filterMap_eq_map, List.filterMap_filter]
      refine List.filterMap_congr fun o _ => ?_
      rw [hrow]
      by_cases huser : o.1 = user
      · simp [huser]
      · simp [huser]
    · intro a ha b hb
      have ha' := of_decide_eq_true (List.mem_filter.1 ha).2
      have hb' := of_decide_eq_true (List.mem_filter.1 hb).2
      rw [OverrideRow.key, OverrideRow.key, ha', hb']
  · next hp =>
    refine List.map_eq_nil_iff.2 (List.filter_eq_nil_iff.2 fun row hrow he => hp ?_)
    obtain ⟨hmem, -, hmatch⟩ := mem_overrideRows.1 hrow
    exact of_decide_eq_true he ▸ ⟨hmem, hmatch⟩

theorem values_childRoles (parents : List RoleId) :
    (Query.childRoles parents).values (d.answer (.childRoles parents)) = d.childRoles parents :=
  d.map_answer_childRoles parents

theorem pairwise_answer (q : Query) :
    (q.values (d.answer q)).Pairwise fun a b => Ascending (q.key a) (q.key b) := by
  simp only [ascending_iff]
  cases q with
  | childRoles parents =>
    rw [values_childRoles]
    exact pairwise_sortByName _ _
  | _ => exact pairwise_sortByName _ _

theorem count_answer_build (es : List Edit) (q : Query) :
    ∀ row, (q.values ((build es).answer q)).count row = q.due es row := by
  cases q with
  | tenantPermissions f =>
    exact fun (p : Permission) => ((build es).count_tenantPermissions f p).trans
      (if_congr (and_congr_left' mem_permissions_build) rfl rfl)
  | tenantRoles =>
    exact fun (r : Role) => ((build es).count_tenantRoles r).trans
      (if_congr mem_roles_build rfl rfl)
  | userRoles user =>
    refine fun (r : Role) => ((build es).count_userRoles user r).trans
      (if_congr mem_roles_build ?_ rfl)
    rw [build_eq]
  | childRoles parents =>
    rw [values_childRoles]
    refine fun (r : Role) => ((build es).count_childRoles parents r).trans
      (if_congr mem_roles_build ?_ rfl)
    rw [build_eq]
  | rolePermissions roles f =>
    refine fun (p : Permission) => ((build es).count_rolePermissions f roles p).trans
      (if_congr (and_congr mem_permissions_build ?_) rfl rfl)
    rw [build_eq]
  | overrides user f =>
    refine fun (row : OverrideRow) => ((build es).count_overrideRows user f row).trans
      (if_congr (and_congr_left' mem_permissions_build) ?_ rfl)
    rw [build_eq]
  | resources user f =>
    refine fun (r : Resource) => ((build es).count_userResources user f r).trans
      (if_congr .rfl ?_ rfl)
    rw [build_eq]

/-- **A transaction answers each query with the rows that are due from the edits**, each as often
as it is due, in ascending order of the bytes of their keys. The overrides of a permission come in
the order in which they were put in. -/
theorem answer_build {σ : Type} (es : List Edit) (s : σ) :
    (∀ q, ((build es).transaction σ).ask q s = (.ok ((build es).answer q), s)) ∧
    (∀ (q : Query) (row : q.Value), (q.values ((build es).answer q)).count row = q.due es row) ∧
    (∀ q : Query, (q.values ((build es).answer q)).Pairwise fun a b =>
      Ascending (q.key a) (q.key b)) ∧
    ∀ (user : UserId) (f : Filter) (p : Permission),
      (((build es).overrideRows user f).filter (·.permission = p)).map (·.kind) =
        if p ∈ Edit.permissions es ∧ f.matchesPermission p.name then
          ((es.filterMap Edit.override?).filter fun o => o.1 = user ∧ o.2.1 = p.id).map (·.2.2)
        else [] := by
  refine ⟨fun q => rfl, count_answer_build es, (build es).pairwise_answer, fun user f p => ?_⟩
  rw [kinds_overrideRows]
  refine if_congr (and_congr_left' mem_permissions_build) ?_ rfl
  rw [build_eq]

end Dataset

end Entitlement
