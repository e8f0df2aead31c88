import Entitlement.Count
import Entitlement.Role.Map

/-!
# Cycles of inheritance

* `Search` : how far a depth-first search has come: the mark of each role it has met, and the path
  from its root to where it is;
* `RoleMap.explore` : searches from roles one after the other, and stops at the first cycle;
* `RoleMap.findCycle` : the first cycle met from the roles in the order of their identifiers, from
  the repeated role back to itself.

The search ends because each role is entered once: `Search.unvisited` goes down at every descent
and never up (`Search.unvisited_enter_lt`, `Search.unvisited_leave_le`).
-/

namespace Entitlement

/-- The mark of a role that the search has met. -/
inductive Mark where
  | onPath
  | finished
  deriving DecidableEq, Repr

structure Search where
  mark : RoleId → Option Mark
  path : List RoleId

namespace Search

def start : Search := ⟨fun _ => none, []⟩

def setMark (s : Search) (id : RoleId) (m : Mark) : RoleId → Option Mark :=
  fun j => if j = id then some m else s.mark j

/-- Puts a role at the end of the path. -/
def enter (s : Search) (id : RoleId) : Search := ⟨s.setMark id .onPath, s.path ++ [id]⟩

/-- Takes the last role off the path. -/
def leave (s : Search) (id : RoleId) : Search := ⟨s.setMark id .finished, s.path.dropLast⟩

/-- The path from a role on it, back to that role. -/
def loopAt? (s : Search) (id : RoleId) : Option (List RoleId) :=
  if id ∈ s.path then some (s.path.dropWhile (· ≠ id) ++ [id]) else none

/-- How many roles of the map have not been met. -/
def unvisited (g : RoleMap) (s : Search) : Nat := g.keys.countP fun id => (s.mark id).isNone

theorem unvisited_leave_le (g : RoleMap) (s : Search) (id : RoleId) :
    (s.leave id).unvisited g ≤ s.unvisited g := by
  apply List.countP_mono_left
  intro j _
  simp only [leave, setMark]
  split <;> simp

theorem unvisited_enter_le (g : RoleMap) (s : Search) (id : RoleId) :
    (s.enter id).unvisited g ≤ s.unvisited g := by
  apply List.countP_mono_left
  intro j _
  simp only [enter, setMark]
  split <;> simp

theorem unvisited_enter_lt {g : RoleMap} {s : Search} {id : RoleId} (hid : id ∈ g.keys)
    (h : s.mark id = none) : (s.enter id).unvisited g < s.unvisited g := by
  apply countP_lt_countP _ hid
  · simp [enter, setMark]
  · simp [h]
  · intro j _
    simp only [enter, setMark]
    split <;> simp

end Search

namespace RoleMap

theorem mem_keys_of_find? {g : RoleMap} {id : RoleId} {n : RoleNode} (h : g.find? id = some n) :
    id ∈ g.keys :=
  List.mem_map.2 ⟨n, Table.mem_of_find? h, Table.key_of_find? h⟩

/-- Searches from the roles in turn: the first cycle, or what the search has met in the end. -/
def explore (g : RoleMap) (ids : List RoleId) (s : Search) :
    { r : Except (List RoleId) Search // ∀ t, r = .ok t → t.unvisited g ≤ s.unvisited g } :=
  match ids with
  | [] => ⟨.ok s, by rintro t ⟨⟩; exact Nat.le_refl _⟩
  | id :: rest =>
    match hm : s.mark id with
    | some .onPath =>
      match s.loopAt? id with
      | some cycle => ⟨.error cycle, by simp⟩
      | none => g.explore rest s
    | some .finished => g.explore rest s
    | none =>
      match hn : g.find? id with
      | none =>
        let r := g.explore rest ((s.enter id).leave id)
        ⟨r.1, fun t ht => Nat.le_trans (r.2 t ht)
          (Nat.le_trans (Search.unvisited_leave_le g _ id) (Search.unvisited_enter_le g s id))⟩
      | some node =>
        match g.explore node.children (s.enter id) with
        | ⟨.error cycle, _⟩ => ⟨.error cycle, by simp⟩
        | ⟨.ok t, ht⟩ =>
          let r := g.explore rest (t.leave id)
          ⟨r.1, fun u hu => Nat.le_trans (r.2 u hu)
            (Nat.le_trans (Search.unvisited_leave_le g t id)
              (Nat.le_trans (ht t rfl) (Search.unvisited_enter_le g s id)))⟩
termination_by (s.unvisited g, ids.length)
decreasing_by
  · exact Prod.Lex.right _ (by simp)
  · exact Prod.Lex.right _ (by simp)
  · have h := Nat.le_trans (Search.unvisited_leave_le g (s.enter id) id)
      (Search.unvisited_enter_le g s id)
    rcases Nat.lt_or_eq_of_le h with h | h
    · exact Prod.Lex.left _ _ h
    · rw [h]; exact Prod.Lex.right _ (by simp)
  · exact Prod.Lex.left _ _ (Search.unvisited_enter_lt (mem_keys_of_find? hn) hm)
  · exact Prod.Lex.left _ _ (Nat.lt_of_le_of_lt
      (Nat.le_trans (Search.unvisited_leave_le g t id) (ht t rfl))
      (Search.unvisited_enter_lt (mem_keys_of_find? hn) hm))

def findCycle (g : RoleMap) : Option (List RoleId) :=
  match (g.explore (sortIds g.keys) .start).1 with
  | .error cycle => some cycle
  | .ok _ => none

/-- The names along a cycle; a role without a node keeps its identifier. -/
def cycleNames (g : RoleMap) (cycle : List RoleId) : List String :=
  cycle.map fun id => ((g.find? id).map (·.role.name)).getD id

end RoleMap

end Entitlement
