import Entitlement.Json.Printer
import Entitlement.Json.Reader
import Entitlement.Role.Map

/-!
# The role graph by names

* `GraphEntry` : the names of a role's own permissions and of its immediate children;
* `RoleGraph` : one entry a role name, in the order of the names;
* `NodeOrder` : an order to take the nodes of a role map in, of which the map itself keeps none;
* `RoleGraph.ofMap` : a role map with its identifiers left out; `RoleGraph.find?`, `size`;
* `RoleGraph.reader`, `RoleGraph.render` : from and to JSON.
-/

namespace Entitlement

structure GraphEntry where
  name : String
  permissions : List String
  inherits : List String
  deriving DecidableEq, Repr

structure RoleGraph where
  entries : List GraphEntry
  sorted : entries.Pairwise fun a b => a.name < b.name
  deriving DecidableEq

namespace RoleGraph

def empty : RoleGraph := ⟨[], List.Pairwise.nil⟩

/-- Puts an entry in its place, over one of the same name. -/
def insertEntry (e : GraphEntry) : List GraphEntry → List GraphEntry
  | [] => [e]
  | a :: as =>
    if e.name < a.name then e :: a :: as
    else if e.name = a.name then e :: as
    else a :: insertEntry e as

theorem mem_insertEntry {e a : GraphEntry} {entries : List GraphEntry}
    (h : a ∈ insertEntry e entries) : a = e ∨ a ∈ entries := by
  induction entries with
  | nil => simpa [insertEntry] using h
  | cons b bs ih =>
    rw [insertEntry] at h
    split at h
    · simpa using h
    · split at h
      · exact (List.mem_cons.1 h).imp_right (List.mem_cons_of_mem _)
      · rcases List.mem_cons.1 h with rfl | h
        · exact .inr List.mem_cons_self
        · exact (ih h).imp_right (List.mem_cons_of_mem _)

theorem pairwise_insertEntry {e : GraphEntry} {entries : List GraphEntry}
    (h : entries.Pairwise fun a b => a.name < b.name) :
    (insertEntry e entries).Pairwise fun a b => a.name < b.name := by
  induction entries with
  | nil => simp [insertEntry]
  | cons b bs ih =>
    obtain ⟨hb, hbs⟩ := List.pairwise_cons.1 h
    rw [insertEntry]
    split
    · next he =>
      refine List.pairwise_cons.2 ⟨fun a ha => ?_, h⟩
      rcases List.mem_cons.1 ha with rfl | ha
      · exact he
      · exact String.lt_trans he (hb a ha)
    · next he =>
      split
      · next heq => exact List.pairwise_cons.2 ⟨fun a ha => heq ▸ hb a ha, hbs⟩
      · next hne =>
        refine List.pairwise_cons.2 ⟨fun a ha => ?_, ih hbs⟩
        rcases mem_insertEntry ha with rfl | ha
        · exact (String.not_le.1 fun hle => hne (String.le_antisymm hle (String.not_lt.1 he)))
        · exact hb a ha

def insert (g : RoleGraph) (e : GraphEntry) : RoleGraph :=
  ⟨insertEntry e g.entries, pairwise_insertEntry g.sorted⟩

/-- Of two entries of one name, the later one. -/
def ofEntries (entries : List GraphEntry) : RoleGraph := entries.foldl insert empty

def find? (g : RoleGraph) (name : String) : Option GraphEntry := g.entries.find? (·.name = name)

def size (g : RoleGraph) : Nat := g.entries.length

end RoleGraph

/-- A node by names. -/
def RoleNode.entry (n : RoleNode) : GraphEntry :=
  ⟨n.role.name, n.permissions.map (·.name), n.inherits.map (·.name)⟩

/-- An order to take the nodes of a role map in. It may be another one for each map. -/
structure NodeOrder where
  nodes : RoleMap → List RoleNode
  perm : ∀ g, (nodes g).Perm g.rows

/-- As the rows are stored. -/
def NodeOrder.stored : NodeOrder := ⟨fun g => g.rows, fun _ => .refl _⟩

namespace RoleGraph
open Json

/-- A map by names. Where two roles share a name, the order decides whose entry stays. -/
def ofMap (g : RoleMap) (order : NodeOrder := .stored) : RoleGraph :=
  ofEntries ((order.nodes g).map RoleNode.entry)

/-! ## JSON -/

/-- The members of an entry read so far. -/
structure EntryFields where
  permissions : Option (List String)
  inherits : Option (List String)

def entryField (key : String) (f : EntryFields) : Except Reject (Reader EntryFields) :=
  if key = "permissions" then
    Reader.once f.permissions (.list .text) fun s => { f with permissions := some s }
  else if key = "inherits" then
    Reader.once f.inherits (.list .text) fun s => { f with inherits := some s }
  else .ok (Reader.skip.map fun _ => f)

/-- Both members have to be there. -/
def entryOfFields (name : String) (f : EntryFields) : Except Reject GraphEntry :=
  match f.permissions, f.inherits with
  | some permissions, some inherits => .ok ⟨name, permissions, inherits⟩
  | _, _ => .error .unfit

def entryOfItems (name : String) : Reader GraphEntry := fun ts => do
  let (permissions, ⟨ts₁, h₁⟩) ← Reader.required true (.list .text) ts
  let (inherits, ⟨_, h₂⟩) ← Reader.required false (.list .text) ts₁
  Reader.closeAfter (Reader.shorter h₁ h₂) ⟨name, permissions, inherits⟩

def entryReader (name : String) : Reader GraphEntry :=
  .struct (Reader.check (entryOfFields name) (Reader.members entryField true ⟨none, none⟩))
    (entryOfItems name)

/-- An object of entries by name. -/
def reader : Reader RoleGraph :=
  Reader.map ofEntries <| .object <| Reader.members
    (fun name entries => .ok ((entryReader name).map fun e => entries ++ [e])) true []

def renderEntry (e : GraphEntry) : String × List Char :=
  (e.name, object [("permissions", strings e.permissions), ("inherits", strings e.inherits)])

def render (g : RoleGraph) : List Char := object (g.entries.map renderEntry)

end RoleGraph

end Entitlement
