import Entitlement.Wire.Graph
import Mathlib.Data.List.Nodup

/-!
# Looking up names in a role graph

* `RoleGraph.find?_ofEntries` : of the entries of one name the last one is found;
* `RoleGraph.find?_ofMap_eq_some_iff` : in the graph of a map without two roles of one name, the
  entries are those of the nodes;
* `RoleGraph.eq_of_find?` : graphs that answer alike are one graph;
* `RoleGraph.ofMap_flattens` : **the graph of a map has an entry for each name, from one node each.**
-/

namespace Entitlement

theorem RoleMap.byName?_eq_some_iff {g : RoleMap} (h : (g.rows.map fun n => n.role.name).Nodup)
    {name : String} {n : RoleNode} :
    g.byName? name = some n ↔ n ∈ g.rows ∧ n.role.name = name := by
  rw [byName?, named, List.head?_filter]
  exact Table.find?_eq_some_iff (t := ⟨g.rows, h⟩)

namespace RoleGraph
variable {e : GraphEntry} {entries : List GraphEntry} {name : String}

theorem find?_insertEntry : (insertEntry e entries).find? (·.name = name) =
    if e.name = name then some e else entries.find? (·.name = name) := by
  induction entries with
  | nil => rw [insertEntry, List.find?_singleton]; simp
  | cons a entries ih =>
    rw [insertEntry]
    by_cases hname : e.name = name
    · rw [if_pos hname]
      split
      · exact List.find?_cons_of_pos (decide_eq_true hname)
      · split
        · exact List.find?_cons_of_pos (decide_eq_true hname)
        · next hne =>
          rw [List.find?_cons_of_neg (by simpa [← hname, eq_comm] using hne), ih, if_pos hname]
    · rw [if_neg hname]
      split
      · exact List.find?_cons_of_neg (by simpa using hname)
      · split
        · next heq =>
          rw [List.find?_cons_of_neg (by simpa using hname),
            List.find?_cons_of_neg (by simpa [← heq] using hname)]
        · rw [List.find?_cons, List.find?_cons, ih, if_neg hname]

theorem find?_insert (g : RoleGraph) (e : GraphEntry) (name : String) :
    (g.insert e).find? name = if e.name = name then some e else g.find? name := find?_insertEntry

theorem find?_ofEntries (entries : List GraphEntry) (name : String) :
    (ofEntries entries).find? name = entries.reverse.find? (·.name = name) := by
  have hfold : ∀ (l : List GraphEntry) (g : RoleGraph),
      (l.foldl insert g).find? name = (l.reverse.find? (·.name = name)).or (g.find? name) := by
    intro l
    induction l with
    | nil => exact fun g => rfl
    | cons e l ih =>
      intro g
      rw [List.foldl_cons, ih, find?_insert, List.reverse_cons, List.find?_append, Option.or_assoc,
        List.find?_singleton]
      by_cases hname : e.name = name <;> simp [hname]
  exact (hfold entries empty).trans (Option.or_none)

/-- Without two entries of one name, all are found. -/
theorem find?_ofEntries_eq_some_iff (h : (entries.map GraphEntry.name).Nodup) :
    (ofEntries entries).find? name = some e ↔ e ∈ entries ∧ e.name = name := by
  have hd : (entries.reverse.map GraphEntry.name).Nodup :=
    (((List.reverse_perm entries).map GraphEntry.name).nodup_iff).2 h
  rw [find?_ofEntries, ← List.mem_reverse]
  exact Table.find?_eq_some_iff (t := ⟨entries.reverse, hd⟩)

theorem find?_ofMap_eq_some_iff {g : RoleMap} {order : NodeOrder}
    (h : (g.rows.map fun n => n.role.name).Nodup) :
    (ofMap g order).find? name = some e ↔ ∃ n ∈ g.rows, n.entry = e ∧ n.role.name = name := by
  have hd : (((order.nodes g).map RoleNode.entry).map GraphEntry.name).Nodup := by
    rw [List.map_map]
    exact (((order.perm g).map _).nodup_iff).2 h
  rw [ofMap, find?_ofEntries_eq_some_iff hd, List.mem_map]
  simp only [(order.perm g).mem_iff]
  constructor
  · rintro ⟨⟨n, hn, rfl⟩, hname⟩
    exact ⟨n, hn, rfl, hname⟩
  · rintro ⟨n, hn, rfl, hname⟩
    exact ⟨⟨n, hn, rfl⟩, hname⟩

/-! ## Graphs by what they answer -/

theorem nodup_names (g : RoleGraph) : (g.entries.map GraphEntry.name).Nodup := by
  refine List.pairwise_map.2 (g.sorted.imp fun {a b} hlt he => ?_)
  rw [he] at hlt
  exact String.lt_irrefl _ hlt

theorem find?_eq_some_iff {g : RoleGraph} :
    g.find? name = some e ↔ e ∈ g.entries ∧ e.name = name :=
  Table.find?_eq_some_iff (t := ⟨g.entries, g.nodup_names⟩)

theorem mem_names_iff {g : RoleGraph} :
    name ∈ g.entries.map GraphEntry.name ↔ ∃ e, g.find? name = some e := by
  simp only [List.mem_map, find?_eq_some_iff]

theorem eq_of_find? {g g' : RoleGraph} (h : ∀ name, g.find? name = g'.find? name) : g = g' := by
  have hmem : ∀ (u : RoleGraph) (e : GraphEntry), u.find? e.name = some e ↔ e ∈ u.entries :=
    fun u e => find?_eq_some_iff.trans (and_iff_left rfl)
  have hperm : g.entries.Perm g'.entries := by
    have hdistinct : ∀ u : RoleGraph, u.entries.Nodup := fun u => List.Nodup.of_map _ u.nodup_names
    refine (List.perm_ext_iff_of_nodup (hdistinct g) (hdistinct g')).2 fun e => ?_
    rw [← hmem, h, hmem]
  have hentries : g.entries = g'.entries :=
    hperm.eq_of_pairwise (fun a b _ _ hab hba => absurd (String.lt_trans hab hba) (String.lt_irrefl _))
      g.sorted g'.sorted
  cases g
  cases g'
  cases hentries
  rfl

/-! ## The graph of a map -/

variable {g g' : RoleMap} {order order' : NodeOrder}

/-- Of the nodes of one name the last one. -/
theorem find?_ofMap (g : RoleMap) (order : NodeOrder) (name : String) :
    (ofMap g order).find? name =
      ((order.nodes g).reverse.find? (·.role.name = name)).map RoleNode.entry := by
  rw [ofMap, find?_ofEntries, ← List.map_reverse, List.find?_map]
  rfl

theorem mem_names_ofMap :
    name ∈ (ofMap g order).entries.map GraphEntry.name ↔ ∃ n ∈ g.rows, n.role.name = name := by
  rw [mem_names_iff, ← Option.isSome_iff_exists, find?_ofMap, Option.isSome_map, List.find?_isSome]
  simp only [List.mem_reverse, (order.perm g).mem_iff, decide_eq_true_eq]

theorem size_ofMap (h : (g.rows.map fun n => n.role.name).Nodup) :
    (ofMap g order).size = g.size := by
  have hperm :
      ((ofMap g order).entries.map GraphEntry.name).Perm (g.rows.map fun n => n.role.name) := by
    refine (List.perm_ext_iff_of_nodup (ofMap g order).nodup_names h).2 fun name => ?_
    rw [mem_names_ofMap, List.mem_map]
  simpa [size, Table.size] using hperm.length_eq

theorem find?_ofMap_eq_byName? (h : (g.rows.map fun n => n.role.name).Nodup) (name : String) :
    (ofMap g order).find? name = (g.byName? name).map RoleNode.entry := by
  ext e
  rw [find?_ofMap_eq_some_iff h, Option.map_eq_some_iff]
  simp only [RoleMap.byName?_eq_some_iff h]
  exact exists_congr fun n => ⟨fun ⟨hn, he, hname⟩ => ⟨⟨hn, hname⟩, he⟩,
    fun ⟨⟨hn, hname⟩, he⟩ => ⟨hn, he, hname⟩⟩

/-- Where no two roles share a name, no order matters. -/
theorem ofMap_congr (h : (g.rows.map fun n => n.role.name).Nodup) (hrows : g'.rows.Perm g.rows) :
    ofMap g' order' = ofMap g order := by
  have h' : (g'.rows.map fun n => n.role.name).Nodup := ((hrows.map _).nodup_iff).2 h
  refine eq_of_find? fun name => Option.ext fun e => ?_
  rw [find?_ofMap_eq_some_iff h', find?_ofMap_eq_some_iff h]
  simp only [hrows.mem_iff]

/-- **The graph is the map, by names.** Its names are those of the nodes, and under each stands one
node of that name, whichever order the nodes come in. If no two share a name, each node has its
entry, and the order does not matter. -/
theorem ofMap_flattens (g : RoleMap) (order : NodeOrder) :
    (∀ name, name ∈ (ofMap g order).entries.map GraphEntry.name ↔
      ∃ n ∈ g.rows, n.role.name = name) ∧
    (∀ name ∈ (ofMap g order).entries.map GraphEntry.name, ∃ n ∈ g.rows, n.role.name = name ∧
      (ofMap g order).find? name =
        some ⟨name, n.permissions.map Permission.name, n.inherits.map Role.name⟩) ∧
    ((g.rows.map fun n => n.role.name).Nodup →
      (ofMap g order).size = g.size ∧
      (∀ name, (ofMap g order).find? name = (g.byName? name).map fun n =>
        ⟨n.role.name, n.permissions.map Permission.name, n.inherits.map Role.name⟩) ∧
      ∀ (ns : List RoleNode) (order' : NodeOrder), ns.Perm g.rows →
        ofMap (.ofRows ns) order' = ofMap g order) := by
  refine ⟨fun name => mem_names_ofMap, fun name hname => ?_, fun h => ⟨size_ofMap h,
    find?_ofMap_eq_byName? h, fun ns order' hns => ?_⟩⟩
  · obtain ⟨e, he⟩ := mem_names_iff.1 hname
    rw [find?_ofMap] at he ⊢
    obtain ⟨n, hn, -⟩ := Option.map_eq_some_iff.1 he
    have hmem : n ∈ order.nodes g := List.mem_reverse.1 (List.mem_of_find?_eq_some hn)
    have hnname : n.role.name = name := by simpa using List.find?_some hn
    refine ⟨n, (order.perm g).mem_iff.1 hmem, hnname, ?_⟩
    rw [hn, ← hnname]
    rfl
  · have hids : (ns.map RoleNode.id).Nodup := ((hns.map _).nodup_iff).2 g.distinct
    refine ofMap_congr h ?_
    rwa [Table.rows_ofRows hids]

/-- Two roles, one of which inherits from the other. -/
def stableNodes : List RoleNode :=
  [⟨⟨"r1", "groom"⟩, [⟨"p1", "horses:read"⟩], []⟩, ⟨⟨"r2", "rider"⟩, [], [⟨"r1", "groom"⟩]⟩]

theorem ofMap_flattens_reversed :
    ((Table.ofRows stableNodes : RoleMap).rows.map fun n => n.role.name).Nodup ∧
    stableNodes.reverse.Perm (Table.ofRows stableNodes : RoleMap).rows ∧
    (ofMap (.ofRows stableNodes)).size = 2 ∧
    ∀ order, ofMap (.ofRows stableNodes.reverse) order = ofMap (.ofRows stableNodes) := by
  have hnames : ((Table.ofRows stableNodes : RoleMap).rows.map fun n => n.role.name).Nodup := by
    decide +kernel
  have hrows : stableNodes.reverse.Perm (Table.ofRows stableNodes : RoleMap).rows := by
    decide +kernel
  obtain ⟨-, -, hdistinct⟩ := ofMap_flattens (.ofRows stableNodes) .stored
  obtain ⟨hsize, -, horder⟩ := hdistinct hnames
  exact ⟨hnames, hrows, hsize, fun order => horder _ order hrows⟩

end RoleGraph

end Entitlement
