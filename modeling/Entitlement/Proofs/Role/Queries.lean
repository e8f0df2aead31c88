import Entitlement.Proofs.Store.Transcript
import Entitlement.Service.Calls
import Mathlib.Data.Finset.Card
import Mathlib.Algebra.Order.BigOperators.Group.List

/-!
# What the walk over roles asks

* `Level` : one question of the walk, and the rows it was answered with; `Descent` : levels one below
  the other;
* `consults_resolveRoles` : a walk asks for the assigned roles and then goes down such levels;
* `resolver_asks_once` : **whatever a store answers, each role's children are asked for once.**
-/

namespace Entitlement

/-! ## Levels -/

/-- One question for children, and the rows that came back. -/
structure Level (known : List RoleId) where
  parents : List RoleId
  rows : List { r : Role // r.id ∈ known }

namespace Level
variable {known : List RoleId}

def roles (l : Level known) : List Role := l.rows.map Subtype.val

def exchange (l : Level known) : Exchange known := ⟨.childRoles l.parents, l.rows⟩

end Level

/-- Levels one below the other: each asks for the children of the frontier that it finds, and
leaves as the frontier what it found. -/
inductive Descent {known : List RoleId} :
    List Role → List RoleId → List (Level known) → List Role → List RoleId → Prop
  | done (found : List Role) (frontier : List RoleId) : Descent found frontier [] found frontier
  | level {found found' : List Role} {l : Level known} {levels : List (Level known)}
      {frontier' : List RoleId} (hparents : l.parents ≠ [])
      (h : Descent (found ++ fresh Role.id (Role.ids found) l.roles)
        (Role.ids (fresh Role.id (Role.ids found) l.roles)) levels found' frontier') :
      Descent found l.parents (l :: levels) found' frontier'

variable {known : List RoleId} {found found' : List Role} {frontier frontier' : List RoleId}
  {levels : List (Level known)}

/-- The roles that are found are asked about in their order, after the frontier. -/
theorem Descent.exists_more (h : Descent found frontier levels found' frontier') :
    ∃ more, found' = found ++ more ∧
      more = fresh Role.id (Role.ids found) (levels.flatMap Level.roles) ∧
      levels.flatMap Level.parents ++ frontier' = frontier ++ Role.ids more := by
  induction h with
  | done found frontier => exact ⟨[], (List.append_nil _).symm, rfl, (List.append_nil _).symm⟩
  | @level found found' l levels frontier' _ _ ih =>
    obtain ⟨more, hfound, hmore, hasked⟩ := ih
    refine ⟨fresh Role.id (Role.ids found) l.roles ++ more, ?_, ?_, ?_⟩
    · rw [hfound, List.append_assoc]
    · rw [List.flatMap_cons, fresh_append, hmore]
      unfold Role.ids
      rw [List.map_append]
    · rw [List.flatMap_cons, List.append_assoc, hasked]
      unfold Role.ids
      rw [List.map_append]

theorem Descent.parents_ne_nil (h : Descent found frontier levels found' frontier') :
    ∀ l ∈ levels, l.parents ≠ [] := by
  induction h with
  | done => nofun
  | level hparents _ ih => exact List.forall_mem_cons.2 ⟨hparents, ih⟩

/-- Without a frontier there is no level. -/
theorem Descent.eq_nil (h : Descent found [] levels found' frontier') : levels = [] := by
  generalize hfrontier : ([] : List RoleId) = frontier at h
  cases h with
  | done => rfl
  | level hparents _ => exact absurd hfrontier.symm hparents

/-- From the assigned roles down. -/
abbrev DescentFrom (direct : List Role) (levels : List (Level known)) (found : List Role)
    (frontier : List RoleId) : Prop :=
  Descent (fresh Role.id [] direct) (Role.ids (fresh Role.id [] direct)) levels found frontier

variable {direct : List Role}

theorem DescentFrom.found_eq (h : DescentFrom direct levels found frontier) :
    found = fresh Role.id [] (direct ++ levels.flatMap Level.roles) := by
  obtain ⟨more, rfl, rfl, -⟩ := h.exists_more
  rw [fresh_append, List.nil_append]
  rfl

theorem DescentFrom.asked_eq (h : DescentFrom direct levels found frontier) :
    levels.flatMap Level.parents ++ frontier = Role.ids found := by
  obtain ⟨more, rfl, -, hasked⟩ := h.exists_more
  rw [hasked]
  exact (List.map_append ..).symm

/-! ## Runs -/

variable {σ : Type} {tx : Transaction σ}

/-- A walk that stopped at a question for children. -/
def LevelFails (tx : Transaction σ) (found : List Role) (frontier : List RoleId)
    (xs : List (Exchange tx.known)) (q : Query) (stop stop' : Stop) : Prop :=
  ∃ levels found' frontier', xs = levels.map Level.exchange ∧
    Descent found frontier levels found' frontier' ∧ frontier' ≠ [] ∧
    q = .childRoles frontier' ∧ stop' = stop.context "get child roles"

/-- The induction is the walk's own, from a level to the one below it. -/
theorem consults_expand (frontier : List RoleId) (found : List Role) (depth : Nat)
    (hne : frontier ≠ []) : tx.Consults (expand tx frontier found depth)
      (fun xs r => ∃ levels, xs = levels.map Level.exchange ∧ Descent found frontier levels r.1 [])
      (LevelFails tx found frontier) := by
  induction frontier, found, depth using expand.induct tx with
  | case1 frontier found depth ih =>
    rw [expand]
    have hquery : tx.Consults (Run.context "get child roles" (tx.query (.childRoles frontier)))
        (fun xs rows => xs = [⟨.childRoles frontier, rows⟩]) (LevelFails tx found frontier) :=
      Transaction.consults_query (fun _ => rfl) fun stop =>
        ⟨[], found, frontier, rfl, .done _ _, hne, rfl, rfl⟩
    apply hquery.bind
    rintro _ rows rfl
    obtain ⟨l, hl⟩ : ∃ l : Level tx.known, l = ⟨frontier, rows⟩ := ⟨_, rfl⟩
    obtain rfl : l.parents = frontier := by rw [hl]
    obtain rfl : l.rows = rows := by rw [hl]
    show tx.Consults (if h : fresh Role.id (Role.ids found) l.roles = [] then _ else _) _ _
    by_cases hnil : fresh Role.id (Role.ids found) l.roles = []
    · rw [dif_pos hnil]
      refine Transaction.consults_pure ⟨[l], rfl, .level hne ?_⟩
      rw [hnil, List.append_nil]
      exact .done found []
    · have hids : Role.ids (fresh Role.id (Role.ids found) l.roles) ≠ [] :=
        fun he => hnil (List.map_eq_nil_iff.1 he)
      rw [dif_neg hnil]
      refine (ih l.rows hnil hids).mono ?_ ?_
      · rintro ys r ⟨levels, rfl, h⟩
        exact ⟨l :: levels, rfl, .level hne h⟩
      · rintro ys q stop stop' ⟨levels, found', frontier', rfl, h, hrest⟩
        exact ⟨l :: levels, found', frontier', rfl, .level hne h, hrest⟩

/-- A walk that stopped at a question for the assigned roles, or at a later one. -/
def WalkFails (tx : Transaction σ) (user : UserId) (xs : List (Exchange tx.known)) (q : Query)
    (stop stop' : Stop) : Prop :=
  xs = [] ∧ q = .userRoles user ∧ stop' = stop.context "get direct roles" ∨
    ∃ direct ys, xs = ⟨.userRoles user, direct⟩ :: ys ∧ LevelFails tx (fresh Role.id [] direct)
      (Role.ids (fresh Role.id [] direct)) ys q stop stop'

theorem ids_fresh_ne_nil {direct : List Role} (h : direct ≠ []) :
    Role.ids (fresh Role.id [] direct) ≠ [] := by
  obtain ⟨r, direct, rfl⟩ := List.exists_cons_of_ne_nil h
  rw [fresh, if_neg List.not_mem_nil]
  exact List.cons_ne_nil _ _

/-- What a walk asks: the assigned roles, and their children level by level. -/
theorem consults_resolveRoles (user : UserId) : tx.Consults (resolveRoles tx user)
    (fun xs roles => ∃ direct levels, xs = ⟨.userRoles user, direct⟩ :: levels.map Level.exchange ∧
      DescentFrom direct levels roles []) (WalkFails tx user) := by
  have hquery : tx.Consults (Run.context "get direct roles" (tx.query (.userRoles user)))
      (fun xs rows => xs = [⟨.userRoles user, rows⟩]) (WalkFails tx user) :=
    Transaction.consults_query (fun _ => rfl) fun stop => Or.inl ⟨rfl, rfl, rfl⟩
  unfold resolveRoles
  apply hquery.bind
  rintro _ direct rfl
  by_cases hnil : direct = []
  · subst hnil
    exact Transaction.consults_pure ⟨[], [], rfl, .done [] []⟩
  · rw [if_neg (by rwa [List.isEmpty_iff])]
    refine ((consults_expand _ _ 0 (ids_fresh_ne_nil hnil)).mono (fun _ _ h => h) ?_).bind ?_
    · intro ys q stop stop' h
      exact .inr ⟨direct, ys, rfl, h⟩
    · rintro ys ⟨roles, depth⟩ ⟨levels, rfl, h⟩
      refine (Transaction.consults_log _).bind ?_
      rintro zs - rfl
      exact Transaction.consults_pure ⟨direct, levels, by simp, h⟩

/-! ## What is asked -/

/-- What a walk asked, and what it found. -/
structure Walked (direct : List Role) (levels : List (Level known)) (roles : List Role) : Prop where
  /-- No question is about no role, -/
  parents_ne_nil : ∀ l ∈ levels, l.parents ≠ []
  /-- no two are about one role, -/
  disjoint : levels.Pairwise fun l l' => l.parents.Disjoint l'.parents
  /-- and all of them are about the roles that are found, in their order. -/
  asked : levels.flatMap Level.parents = Role.ids roles
  nodup : (Role.ids roles).Nodup
  length_le : levels.length ≤ roles.length
  unassigned : direct = [] → levels = []
  /-- Rows are kept in the order in which they came, -/
  sublist : roles.Sublist (direct ++ levels.flatMap Level.roles)
  /-- and of each identifier the first one is. -/
  first : ∀ r, r ∈ roles ↔ (direct ++ levels.flatMap Level.roles).find? (·.id = r.id) = some r

theorem length_le_length_flatten {α : Type} {ls : List (List α)} (h : ∀ l ∈ ls, l ≠ []) :
    ls.length ≤ ls.flatten.length := by
  rw [List.length_flatten, ← List.length_map List.length]
  apply List.length_le_sum_of_one_le
  intro n hn
  obtain ⟨l, hl, rfl⟩ := List.mem_map.1 hn
  exact List.length_pos_iff.2 (h l hl)

theorem DescentFrom.walked {roles : List Role} (h : DescentFrom direct levels roles []) :
    Walked direct levels roles := by
  have hasked : levels.flatMap Level.parents = Role.ids roles := by
    rw [← h.asked_eq, List.append_nil]
  have hnodup : (Role.ids roles).Nodup := by
    rw [h.found_eq]
    exact nodup_keys_fresh ..
  have hparts : (levels.map Level.parents).flatten.Nodup := by
    rwa [← List.flatMap_def, hasked]
  have hlength : levels.length ≤ roles.length := by
    have hle : (levels.map Level.parents).length ≤ (levels.map Level.parents).flatten.length :=
      length_le_length_flatten (List.forall_mem_map.2 h.parents_ne_nil)
    rwa [← List.flatMap_def, hasked, Role.ids, List.length_map, List.length_map] at hle
  exact {
    parents_ne_nil := h.parents_ne_nil
    disjoint := List.pairwise_map.1 (List.nodup_flatten.1 hparts).2
    asked := hasked
    nodup := hnodup
    length_le := hlength
    unassigned := by
      rintro rfl
      exact h.eq_nil
    sublist := h.found_eq ▸ fresh_sublist ..
    first := fun r => by
      rw [h.found_eq, mem_fresh_iff_find?]
      simp }

/-- The questions of some levels, and the one that comes after them, if there is one. -/
def asked (levels : List (Level known)) (frontier : List RoleId) : List (List RoleId) :=
  levels.map Level.parents ++ if frontier = [] then [] else [frontier]

theorem flatten_asked (levels : List (Level known)) (frontier : List RoleId) :
    (asked levels frontier).flatten = levels.flatMap Level.parents ++ frontier := by
  unfold asked
  rw [List.flatten_append, ← List.flatMap_def]
  split
  · next h => rw [h, List.flatten_nil]
  · rw [List.flatten_singleton]

/-- However a walk ends, it went down some levels from the assigned roles, if it was told them. -/
theorem exists_descent (user : UserId) (w : World σ) :
    ((resolveRoles tx user).run w).2.journal.steps =
        w.journal.steps ++ [.query (.userRoles user)] ∨
      ∃ direct s, ∃ levels : List (Level tx.known), ∃ found frontier,
        tx.ask (.userRoles user) w.state = (.ok direct, s) ∧
        DescentFrom direct levels found frontier ∧
        ((resolveRoles tx user).run w).2.journal.steps = w.journal.steps ++ .query (.userRoles user) ::
          (asked levels frontier).map fun ids => .query (.childRoles ids) := by
  rcases consults_resolveRoles user w with
    ⟨_, roles, hobtains, direct, levels, rfl, h⟩ | ⟨_, q, stop, stop', -, hhalts, hfails⟩
  · obtain ⟨-, hhears, hsteps⟩ := hobtains
    cases hhears with
    | cons hask _ =>
      refine .inr ⟨direct, _, levels, roles, [], hask, h, ?_⟩
      rw [hsteps]
      simp [asked, Level.exchange, Function.comp_def]
  · rcases hfails with ⟨rfl, rfl, -⟩ | ⟨direct, ys, rfl, levels, found, frontier, rfl, h, hne, rfl, -⟩
    · exact .inl (by simpa using hhalts.steps)
    · obtain ⟨⟨s, hhears, -⟩, hsteps⟩ := hhalts
      cases hhears with
      | cons hask _ =>
        refine .inr ⟨direct, _, levels, found, frontier, hask, h, ?_⟩
        rw [hsteps]
        simp [asked, hne, Level.exchange, Function.comp_def]

theorem asked_ne_nil (h : Descent found frontier levels found' frontier') :
    ∀ parents ∈ asked levels frontier', parents ≠ [] := by
  unfold asked
  refine List.forall_mem_append.2 ⟨List.forall_mem_map.2 h.parents_ne_nil, ?_⟩
  split
  · nofun
  · next hfrontier => simpa using hfrontier

theorem nodup_flatten_asked (h : DescentFrom direct levels found frontier) :
    (asked levels frontier).flatten.Nodup := by
  rw [flatten_asked, h.asked_eq, h.found_eq]
  exact nodup_keys_fresh ..

/-- No more questions are asked than there are roles to ask about. -/
theorem length_asked_le (h : DescentFrom direct levels found frontier) {ids : Finset RoleId}
    (hknown : ∀ id ∈ known, id ∈ ids) (hdirect : ∀ r ∈ direct, r.id ∈ ids) :
    (asked levels frontier).length ≤ ids.card := by
  have hsubset : (asked levels frontier).flatten.toFinset ⊆ ids := by
    intro id hid
    rw [List.mem_toFinset, flatten_asked, h.asked_eq] at hid
    obtain ⟨r, hr, rfl⟩ := List.mem_map.1 hid
    rw [h.found_eq] at hr
    rcases List.mem_append.1 (mem_of_mem_fresh hr).1 with hr | hr
    · exact hdirect r hr
    · obtain ⟨l, -, hr⟩ := List.mem_flatMap.1 hr
      obtain ⟨row, -, rfl⟩ := List.mem_map.1 hr
      exact hknown _ row.2
  calc (asked levels frontier).length
      ≤ (asked levels frontier).flatten.length := length_le_length_flatten (asked_ne_nil h)
    _ = (asked levels frontier).flatten.toFinset.card :=
      (List.toFinset_card_of_nodup (nodup_flatten_asked h)).symm
    _ ≤ ids.card := Finset.card_le_card hsubset

/-! ## The permissions of a user -/

/-- What is asked after a walk. -/
def permissionsAsked (f : Filter) : Except Stop (List Role) → List Step
  | .ok [] | .error _ => []
  | .ok roles => [.query (.rolePermissions (Role.ids roles) f)]

theorem exists_reports {α : Type} (r : Except Stop α) : ∃ fault, Transaction.Reports r fault := by
  rcases r with stop | a
  · exact ⟨some stop, stop, rfl, rfl⟩
  · exact ⟨none, a, rfl⟩

theorem not_mem_closing (fault : Option Stop) (q : Query) :
    Step.query q ∉ Transaction.closing fault := by
  rcases fault with _ | _ | _
  all_goals simp [Transaction.closing]

variable {user : UserId} {w w₁ : World σ} {f : Filter} {resolved : Except Stop (List Role)}

/-- The work of the call, after the walk. -/
theorem steps_permissions (hresolved : (resolveRoles tx user).run w = (resolved, w₁)) :
    ((do
      let roles ← resolveRoles tx user
      if roles.isEmpty then return []
      tx.query (.rolePermissions (Role.ids roles) f) : Run σ (List Permission)).run
        w).2.journal.steps = w₁.journal.steps ++ permissionsAsked f resolved := by
  rw [Run.run_bind, hresolved]
  rcases resolved with stop | _ | ⟨r, roles⟩
  · exact (List.append_nil _).symm
  · exact (List.append_nil _).symm
  · rfl

theorem steps_userPermissions {store : Store σ} {tenant : TenantId} {s : σ}
    (hbegin : store.begin tenant w.state = (.ok tx, s))
    (hresolved :
      (resolveRoles tx user).run ({ w with state := s }.stepped (.begin tenant)) = (resolved, w₁)) :
    ∃ fault, ((store.userPermissions tenant user f).run w).2.journal.steps =
      w₁.journal.steps ++ permissionsAsked f resolved ++ Transaction.closing fault := by
  have hsteps := steps_permissions (f := f) hresolved
  unfold Store.userPermissions
  rw [Run.run_context, Store.run_transact hbegin, ← Run.run_context "get user permissions"]
  obtain ⟨fault, hreports⟩ := exists_reports _
  refine ⟨fault, ?_⟩
  rw [(Transaction.closes_finish tx hreports _ _).1, hsteps]

/-- **Whatever a store answers, each role's children are asked for once.** -/
theorem resolver_asks_once (tx : Transaction σ) (user : UserId) (w : World σ) :
    (∃ parents : List (List RoleId),
      ((resolveRoles tx user).run w).2.journal.steps = w.journal.steps ++
        .query (.userRoles user) :: parents.map (fun ids => .query (.childRoles ids)) ∧
      (∀ ids ∈ parents, ids ≠ []) ∧ parents.flatten.Nodup ∧
      ∀ ids : Finset RoleId, (∀ id ∈ tx.known, id ∈ ids) →
        (∀ direct s, tx.ask (.userRoles user) w.state = (.ok direct, s) →
          ∀ r : Role, r ∈ direct → r.id ∈ ids) →
        parents.length ≤ ids.card) ∧
    (∀ roles w', (resolveRoles tx user).Yields w roles w' → ∃ direct levels,
      tx.Obtains w (⟨.userRoles user, direct⟩ :: levels.map Level.exchange) (.ok roles, w') roles ∧
      Walked direct levels roles) ∧
    ∀ (store : Store σ) tenant f w s resolved w₁, store.begin tenant w.state = (.ok tx, s) →
      (resolveRoles tx user).run ({ w with state := s }.stepped (.begin tenant)) = (resolved, w₁) →
      ∃ ends, (∀ q, Step.query q ∉ ends) ∧
        ((store.userPermissions tenant user f).run w).2.journal.steps =
          w₁.journal.steps ++ permissionsAsked f resolved ++ ends := by
  refine ⟨?_, ?_, ?_⟩
  · rcases exists_descent user w with hsteps | ⟨direct, s, levels, found, frontier, hask, h, hsteps⟩
    · exact ⟨[], hsteps, nofun, .nil, fun ids _ _ => Nat.zero_le _⟩
    · refine ⟨asked levels frontier, hsteps, asked_ne_nil h, nodup_flatten_asked h, ?_⟩
      intro ids hknown hdirect
      exact length_asked_le h hknown (hdirect direct s hask)
  · intro roles w' hyields
    have hrun : (resolveRoles tx user).run w = (.ok roles, w') := hyields
    rcases consults_resolveRoles user w with
      ⟨_, roles', hobtains, direct, levels, rfl, h⟩ | ⟨_, _, _, stop, hstop, -⟩
    · rw [hrun] at hobtains
      obtain rfl : roles = roles' := Except.ok.inj hobtains.value
      exact ⟨direct, levels, hobtains, h.walked⟩
    · rw [hrun] at hstop
      cases hstop
  · intro store tenant f w s resolved w₁ hbegin hresolved
    obtain ⟨fault, hsteps⟩ := steps_userPermissions hbegin hresolved
    exact ⟨_, not_mem_closing fault, hsteps⟩

end Entitlement
