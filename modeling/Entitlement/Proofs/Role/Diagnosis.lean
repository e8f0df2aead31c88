import Entitlement.Proofs.Role.Cycle
import Entitlement.Proofs.Store.Contract
import Entitlement.Proofs.Store.Exchange

/-!
# The role map and its diagnosis

* `Dataset.Maps` : a map with a node for each role of a tenant's data and no other;
  `maps_roleMap` : so is the one that is built;
* `Dataset.IsCycle` : a closed walk of roles along edges; `exists_isCycle` : a cycle of the map is
  one, by its names;
* `Run.Silent` : a run that logs nothing; `log_buildRoleMap` : what building a map logs;
* `Transaction.Follows` : a run that asks the queries of a plan, up to the first that is not
  answered; `follows_mapM` : the plan of a loop;
* `role_map_built` : **the map is the data's, a cycle is reported if there is one, and the queries
  are those of each role in turn.**
-/

namespace Entitlement
open Relation (ReflTransGen TransGen)

/-! ## Nodes -/

namespace Dataset
variable {d : Dataset} {f : Filter} {g : RoleMap}

/-- The rows of the immediate children of a role: one an edge, in order. -/
structure ChildrenOf (d : Dataset) (r : Role) (children : List Role) : Prop where
  ascending : children.Pairwise fun a b => ¬ Before b.key a.key
  count : ∀ c, children.count c = if c ∈ d.roles.rows then d.edges.count (r.id, c.id) else 0

/-- A node for each role, and no other. -/
structure Maps (d : Dataset) (f : Filter) (children : Role → List Role) (g : RoleMap) : Prop where
  node : ∀ r ∈ d.roles.rows, ∃ n, g.find? r.id = some n ∧ n.role = r ∧ n.inherits = children r ∧
    Listing Permission.key (fun p => p ∈ d.permissions.rows ∧ (r.id, p.id) ∈ d.grants ∧
      f.matchesPermission p.name = true) n.permissions
  exists_role : ∀ id n, g.find? id = some n → ∃ r ∈ d.roles.rows, r.id = id
  size : g.size = d.roles.size

theorem childrenOf_childRoles (d : Dataset) (r : Role) : d.ChildrenOf r (d.childRoles [r.id]) where
  ascending := pairwise_sortByName Role.key _
  count c := by
    rw [count_childRoles, List.count]
    refine if_congr Iff.rfl (List.countP_congr fun e _ => ?_) rfl
    simp [Prod.ext_iff]

theorem maps_roleMap (d : Dataset) (f : Filter) :
    d.Maps f (fun r => d.childRoles [r.id]) (d.roleMap f) where
  node r hr := by
    refine ⟨d.node f r, find?_roleMap hr, rfl, rfl, (listing_rolePermissions [r.id]).ascending, ?_⟩
    intro p
    show p ∈ d.rolePermissions [r.id] f ↔ _
    rw [mem_rolePermissions]
    simp
  exists_role id n hn := by
    have hid : n.id = id := Table.key_of_find? hn
    obtain ⟨r, hr, rfl⟩ := mem_rows_roleMap.1 (Table.mem_of_find? hn)
    exact ⟨r, hr, hid⟩
  size := by
    rw [Table.size, rows_roleMap, List.length_map]
    exact (perm_sortByName Role.key _).length_eq

/-! ## Cycles -/

/-- A walk along edges between roles, from a role back to itself, that meets no role twice on its
way. -/
structure IsCycle (d : Dataset) (cycle : List Role) : Prop where
  length : 2 ≤ cycle.length
  closed : cycle.head? = cycle.getLast?
  distinct : cycle.dropLast.Nodup
  roles : ∀ r ∈ cycle, r ∈ d.roles.rows
  edges : cycle.IsChain d.Inherits

theorem edge_roleMap {p : Role} (hp : p ∈ d.roles.rows) {id : RoleId} :
    (d.roleMap f).Edge p.id id ↔ ∃ r, d.Inherits p r ∧ r.id = id := by
  rw [RoleMap.edge_iff (find?_roleMap hp), RoleNode.children, Role.ids, List.mem_map]
  simp only [inherits_iff]

theorem transGen_edge {p r : Role} (hp : p ∈ d.roles.rows) (h : TransGen d.Inherits p r) :
    r ∈ d.roles.rows ∧ TransGen (d.roleMap f).Edge p.id r.id := by
  induction h with
  | single h => exact ⟨h.1, .single ((edge_roleMap hp).2 ⟨_, h, rfl⟩)⟩
  | tail _ h ih => exact ⟨h.1, ih.2.tail ((edge_roleMap ih.1).2 ⟨_, h, rfl⟩)⟩

/-- A cycle of the map is one of roles, by their identifiers and by their names. -/
theorem exists_isCycle {c : List RoleId} (h : (d.roleMap f).IsCycle c) :
    ∃ cycle, d.IsCycle cycle ∧ (d.roleMap f).cycleNames c = cycle.map Role.name := by
  have hroles : ∀ id ∈ c, ∃ r ∈ d.roles.rows, r.id = id := by
    intro id hid
    obtain ⟨n, hn, rfl⟩ := List.mem_map.1 (h.nodes id hid)
    obtain ⟨r, hr, rfl⟩ := mem_rows_roleMap.1 hn
    exact ⟨r, hr, rfl⟩
  have : Nonempty Role := ⟨⟨"", ""⟩⟩
  choose! role hrow hid using hroles
  have hids : (c.map role).map Role.id = c := by
    rw [List.map_map]
    exact List.map_congr_left hid |>.trans c.map_id
  have hrows : ∀ r ∈ c.map role, r ∈ d.roles.rows := List.forall_mem_map.2 hrow
  refine ⟨c.map role, ⟨?_, ?_, ?_, hrows, ?_⟩, ?_⟩
  · rw [List.length_map]
    exact h.length
  · rw [List.head?_map, List.getLast?_map, h.closed]
  · refine .of_map Role.id ?_
    rw [List.map_dropLast, hids]
    exact h.distinct
  · have hedges := h.edges
    rw [← hids, List.isChain_map] at hedges
    apply hedges.imp_of_mem_imp
    intro p r hp hr hedge
    obtain ⟨q, hq, he⟩ := (edge_roleMap (hrows p hp)).1 hedge
    rwa [← Table.eq_of_key_eq hq.1 (hrows r hr) he]
  · rw [RoleMap.cycleNames, List.map_map]
    apply List.map_congr_left
    intro id hmem
    have hfind : (d.roleMap f).find? id = some (d.node f (role id)) := by
      rw [← find?_roleMap (hrow id hmem), hid id hmem]
    rw [hfind]
    rfl

/-- What is said about cycles: one warning if there is one, with the names along it. -/
structure Diagnosed (d : Dataset) (warnings : List LogEntry) : Prop where
  nil_iff : warnings = [] ↔ ∀ r, ¬ TransGen d.Inherits r r
  length_le : warnings.length ≤ 1
  cycle : ∀ entry ∈ warnings, ∃ cycle, d.IsCycle cycle ∧ entry =
    .warn "Role inheritance cycle detected" [("cycle", " -> ".intercalate (cycle.map Role.name))]

theorem diagnosed_roleMap (d : Dataset) (f : Filter) :
    d.Diagnosed ((d.roleMap f).findCycle.map (d.roleMap f).cycleWarning).toList := by
  rcases (d.roleMap f).findCycle_cases with ⟨hnone, hacyclic⟩ | ⟨c, hsome, hc⟩
  · rw [hnone]
    refine ⟨⟨fun _ r h => ?_, fun _ => rfl⟩, Nat.zero_le 1, nofun⟩
    have hr : r ∈ d.roles.rows := by
      obtain ⟨p, -, h⟩ := TransGen.tail'_iff.1 h
      exact h.1
    exact hacyclic r.id (transGen_edge hr h).2
  · obtain ⟨cycle, hcycle, hnames⟩ := exists_isCycle hc
    have hback := RoleMap.exists_transGen_of_closed hcycle.length hcycle.closed hcycle.edges
    rw [hsome]
    refine ⟨⟨nofun, fun hno => ?_⟩, Nat.le_refl 1, ?_⟩
    · obtain ⟨r, -, hr⟩ := hback
      exact absurd hr (hno r)
    · intro entry hentry
      obtain rfl := List.mem_singleton.1 hentry
      exact ⟨cycle, hcycle, by rw [RoleMap.cycleWarning, hnames]⟩

end Dataset

/-! ## What is logged -/

section Silent
open Run
variable {σ α β : Type} {x : Run σ α}

def Run.Silent (x : Run σ α) : Prop := ∀ w, (x.run w).2.journal.log = w.journal.log

theorem silent_pure (a : α) : Silent (pure a : Run σ α) := fun _ => rfl

theorem silent_query (tx : Transaction σ) (q : Query) : Silent (tx.query q) := fun _ => rfl

theorem Run.Silent.context (h : Silent x) (name : String) : Silent (context name x) := h

theorem Run.Silent.bind {f : α → Run σ β} (hx : Silent x) (hf : ∀ a, Silent (f a)) :
    Silent (x >>= f) := by
  intro w
  have hlog := hx w
  rw [run_bind]
  rcases hrun : x.run w with ⟨stop | a, w₁⟩
  · rw [hrun] at hlog
    exact hlog
  · rw [hrun] at hlog
    exact (hf a w₁).trans hlog

theorem silent_mapM {f : α → Run σ β} (hf : ∀ a, Silent (f a)) (l : List α) :
    Silent (l.mapM f) := by
  induction l with
  | nil => exact silent_pure []
  | cons a l ih =>
    rw [List.mapM_cons]
    exact (hf a).bind fun b => ih.bind fun bs => silent_pure (b :: bs)

theorem silent_queryNode (tx : Transaction σ) (f : Filter) (role : Role) :
    Silent (queryNode tx f role) :=
  ((silent_query tx _).context _).bind fun _ => ((silent_query tx _).context _).bind fun _ =>
    silent_pure _

theorem Run.Silent.log_eq {a : α} {w w' : World σ} (h : Silent x) (hx : x.Yields w a w') :
    w'.journal.log = w.journal.log := by
  have hlog := h w
  rwa [hx] at hlog

theorem yields_log_return {a b : α} {entry : LogEntry} {w w' : World σ}
    (h : (do log entry; return a : Run σ α).Yields w b w') : a = b ∧ w' = w.logged [entry] := by
  obtain ⟨_, w₁, hlog, h⟩ := yields_bind.1 h
  obtain ⟨rfl, rfl⟩ := yields_pure.1 h
  exact ⟨rfl, yields_log.1 hlog⟩

/-- A cycle that is found, and then that the map is built. -/
def RoleMap.report (g : RoleMap) : List LogEntry :=
  (g.findCycle.map g.cycleWarning).toList ++
    [.debug "Built tenant role map" [("roles", Text.decimal g.size)]]

theorem log_buildRoleMap {tx : Transaction σ} {f : Filter} {g : RoleMap} {w w' : World σ}
    (h : (buildRoleMap tx f).Yields w g w') : w'.journal.log = w.journal.log ++ g.report := by
  unfold buildRoleMap at h
  obtain ⟨roles, w₁, hroles, h⟩ := yields_bind.1 h
  obtain ⟨nodes, w₂, hnodes, h⟩ := yields_bind.1 h
  have hlog : w₂.journal.log = w.journal.log :=
    ((silent_mapM (silent_queryNode tx f) roles).log_eq hnodes).trans
      (((silent_query tx _).context _).log_eq hroles)
  unfold RoleMap.report
  dsimp only at h
  split at h
  · next cycle hcycle =>
    obtain ⟨_, w₃, hwarn, h⟩ := yields_bind.1 h
    obtain rfl := yields_log.1 hwarn
    obtain ⟨rfl, rfl⟩ := yields_log_return h
    rw [hcycle]
    show w₂.journal.log ++ [_] ++ [_] = _
    rw [hlog, List.append_assoc]
    rfl
  · next hnone =>
    obtain ⟨rfl, rfl⟩ := yields_log_return h
    rw [hnone]
    show w₂.journal.log ++ [_] = _
    rw [hlog]
    rfl

end Silent

/-! ## What is asked -/

namespace Transaction
open Run
variable {σ α β : Type} {tx : Transaction σ} {operation : Query → String} {plan plan' : List Query}

/-- A run that asks the queries of a plan one after the other. The first that is not answered ends
it, with the name of what it was asked for around the error. -/
def Follows (tx : Transaction σ) (operation : Query → String) (plan : List Query) (x : Run σ α) :
    Prop :=
  tx.Consults x (fun xs _ => xs.map (·.query) = plan) fun xs q stop stop' =>
    (∃ after, plan = xs.map (·.query) ++ q :: after) ∧ stop' = stop.context (operation q)

theorem follows_pure (a : α) : tx.Follows operation [] (pure a) := consults_pure rfl

theorem follows_log (entry : LogEntry) : tx.Follows operation [] (log entry) := by
  have hlog : tx.Consults (log entry) (fun xs _ => xs = []) fun _ _ _ _ => False :=
    consults_log entry
  refine hlog.mono ?_ nofun
  rintro _ _ rfl
  rfl

theorem follows_query {q : Query} {name : String} (hname : operation q = name) :
    tx.Follows operation [q] (context name (tx.query q)) :=
  consults_query (fun _ => rfl) fun _ => ⟨⟨[], rfl⟩, hname ▸ rfl⟩

theorem Follows.bind {x : Run σ α} {f : α → Run σ β} (hx : tx.Follows operation plan x)
    (hf : ∀ a, tx.Follows operation plan' (f a)) :
    tx.Follows operation (plan ++ plan') (x >>= f) := by
  have hx' : tx.Consults x (fun xs _ => xs.map (·.query) = plan) fun xs q stop stop' =>
      (∃ after, plan ++ plan' = xs.map (·.query) ++ q :: after) ∧
        stop' = stop.context (operation q) := by
    refine Consults.mono hx (fun _ _ h => h) ?_
    rintro xs q stop stop' ⟨⟨after, hplan⟩, hstop⟩
    exact ⟨⟨after ++ plan', by simp [hplan]⟩, hstop⟩
  refine hx'.bind fun xs a hxs => Consults.mono (hf a) ?_ ?_
  · intro ys b hys
    rw [List.map_append, hxs, hys]
  · rintro ys q stop stop' ⟨⟨after, hplan⟩, hstop⟩
    exact ⟨⟨after, by simp [hplan, hxs]⟩, hstop⟩

theorem follows_mapM {f : α → Run σ β} {plan : α → List Query}
    (hf : ∀ a, tx.Follows operation (plan a) (f a)) (l : List α) :
    tx.Follows operation (l.flatMap plan) (l.mapM f) := by
  induction l with
  | nil => exact follows_pure []
  | cons a l ih =>
    have htail (b : β) : tx.Follows operation (l.flatMap plan ++ [])
        (do let bs ← l.mapM f; return b :: bs) := ih.bind fun bs => follows_pure (b :: bs)
    rw [List.append_nil] at htail
    rw [List.mapM_cons]
    exact (hf a).bind htail

end Transaction

/-- What a query is asked for, in building a map. -/
def Query.operation : Query → String
  | .tenantRoles => "get tenant roles"
  | .rolePermissions .. => "get role permissions"
  | _ => "get child roles"

/-- What is asked about one role. -/
def nodeQueries (f : Filter) (r : Role) : List Query :=
  [.rolePermissions [r.id] f, .childRoles [r.id]]

open Transaction
variable {σ : Type}

theorem follows_queryNode (tx : Transaction σ) (f : Filter) (r : Role) :
    tx.Follows Query.operation (nodeQueries f r) (queryNode tx f r) :=
  (follows_query rfl).bind fun _ => (follows_query rfl).bind fun _ => follows_pure _

/-- A map whose building stopped at the question for the roles, or at a later one. -/
def MapFails (tx : Transaction σ) (f : Filter) (xs : List (Exchange tx.known)) (q : Query)
    (stop stop' : Stop) : Prop :=
  stop' = stop.context q.operation ∧ (xs = [] ∧ q = .tenantRoles ∨
    ∃ roles ys after, xs = ⟨.tenantRoles, roles⟩ :: ys ∧
      roles.flatMap (nodeQueries f) = ys.map (·.query) ++ q :: after)

/-- The roles first, and then each of them. -/
theorem consults_buildRoleMap (tx : Transaction σ) (f : Filter) : tx.Consults (buildRoleMap tx f)
    (fun xs _ => ∃ roles ys, xs = ⟨.tenantRoles, roles⟩ :: ys ∧
      ys.map (·.query) = roles.flatMap (nodeQueries f)) (MapFails tx f) := by
  have hroles : tx.Consults (Run.context "get tenant roles" (tx.query .tenantRoles))
      (fun xs roles => xs = [⟨.tenantRoles, roles⟩]) (MapFails tx f) :=
    consults_query (fun _ => rfl) fun _ => ⟨rfl, .inl ⟨rfl, rfl⟩⟩
  have hend (g : RoleMap) (entry : LogEntry) :
      tx.Follows Query.operation [] (do Run.log entry; return g : Run σ RoleMap) :=
    (follows_log entry).bind fun _ => follows_pure g
  unfold buildRoleMap
  apply hroles.bind
  rintro _ roles rfl
  refine Consults.mono (?_ : tx.Follows Query.operation (roles.flatMap (nodeQueries f)) _) ?_ ?_
  · rw [← List.append_nil (roles.flatMap (nodeQueries f))]
    apply (follows_mapM (follows_queryNode tx f) roles).bind
    intro nodes
    dsimp only
    split
    · exact (follows_log _).bind fun _ => hend _ _
    · exact hend _ _
  · intro ys g hys
    exact ⟨roles, ys, rfl, hys⟩
  · rintro ys q stop stop' ⟨⟨after, hplan⟩, hstop⟩
    exact ⟨hstop, .inr ⟨roles, ys, after, rfl, hplan⟩⟩

/-- **The map is the data's, a cycle is reported if there is one, and the queries are those of each
role in turn**, up to the first that is not answered. -/
theorem role_map_built :
    (∀ d : Dataset, ∃ children : Role → List Role, (∀ r, d.ChildrenOf r (children r)) ∧
      ∀ f (w : World σ), ∃ g w' warnings, (buildRoleMap (d.transaction σ) f).Yields w g w' ∧
        d.Maps f children g ∧ d.Diagnosed warnings ∧
        w'.journal.log = w.journal.log ++ warnings ++
          [.debug "Built tenant role map" [("roles", Text.decimal d.roles.size)]]) ∧
    ∀ (tx : Transaction σ) f w,
      (∃ roles xs g,
        tx.Obtains w (⟨.tenantRoles, roles⟩ :: xs) ((buildRoleMap tx f).run w) g ∧
        xs.map (·.query) = roles.flatMap (nodeQueries f)) ∨
      ∃ xs q stop, tx.HaltsAt w xs q stop ((buildRoleMap tx f).run w) ∧
        ((buildRoleMap tx f).run w).1 = .error (stop.context q.operation) ∧
        (xs = [] ∧ q = .tenantRoles ∨ ∃ roles ys after, xs = ⟨.tenantRoles, roles⟩ :: ys ∧
          roles.flatMap (nodeQueries f) = ys.map (·.query) ++ q :: after) := by
  refine ⟨fun d => ?_, fun tx f w => ?_⟩
  · refine ⟨fun r => d.childRoles [r.id], d.childrenOf_childRoles, fun f w => ?_⟩
    obtain ⟨w', hyields⟩ := exists_yields_buildRoleMap d f w
    refine ⟨d.roleMap f, w', _, hyields, d.maps_roleMap f, d.diagnosed_roleMap f, ?_⟩
    rw [log_buildRoleMap hyields, RoleMap.report, (d.maps_roleMap f).size, List.append_assoc]
  · rcases consults_buildRoleMap tx f w with
      ⟨xs, g, hobtains, roles, ys, rfl, hys⟩ | ⟨xs, q, stop, stop', hstop, hhalts, rfl, hfails⟩
    · exact .inl ⟨roles, ys, g, hobtains, hys⟩
    · exact .inr ⟨xs, q, stop, hhalts, hstop, hfails⟩

end Entitlement
