import Entitlement.Json.Token

/-!
# Reading JSON

* `Reader` : reads one value from the start of a list of tokens, of which it leaves fewer;
* `Reader.text`, `Reader.list`, `Reader.skip` : a string, a list, any value at all;
* `Reader.members` : the members of an object one by one, of which `Reader.once` takes one once;
  `Reader.next?`, `Reader.close` : the items of a list that is read item by item;
* `Need` : what a value that is skipped needs next, with a stack of what is open around it;
* `Reader.ofInput` : a text of one value; `Reader.startOfInput` : a text that starts with a value.
-/

namespace Entitlement.Json

abbrev Reader (α : Type) :=
  (ts : List Token) → Except Reject (α × { r : List Token // r.length < ts.length })

/-- Why a value of another kind is not read. It is read to its end first. -/
def Token.rejected : Token → Reject
  | .text (.error r) _ | .number (.error r) _ | .word (.error r) => r
  | .text _ _ | .number _ _ | .word _ | .beginArray | .beginObject => .unfit
  | _ => .malformed

/-! ## Skipping -/

inductive Frame where
  | array
  | object
  deriving DecidableEq, Repr

/-- What comes next in a value that is skipped. -/
inductive Need where
  | value
  | firstItem
  | firstKey
  | key
  | colon
  | separator
  | nothing
  deriving DecidableEq, Repr

namespace Need

/-- What comes after a value that stands in some frames. -/
def afterValue (frames : List Frame) : Need × List Frame :=
  if frames.isEmpty then (.nothing, []) else (.separator, frames)

def startValue (frames : List Frame) : Token → Except Reject (Need × List Frame)
  | .text _ skipped | .number _ skipped | .word skipped => skipped.map fun _ => afterValue frames
  | .beginArray => .ok (.firstItem, .array :: frames)
  | .beginObject => .ok (.firstKey, .object :: frames)
  | _ => .error .malformed

def startKey (frames : List Frame) : Token → Except Reject (Need × List Frame)
  | .text _ skipped => skipped.map fun _ => (.colon, frames)
  | _ => .error .malformed

def step (frames : List Frame) (t : Token) : Need → Except Reject (Need × List Frame)
  | value => startValue frames t
  | firstItem =>
    match t with
    | .endArray => .ok (afterValue frames.tail)
    | t => startValue frames t
  | firstKey =>
    match t with
    | .endObject => .ok (afterValue frames.tail)
    | t => startKey frames t
  | key => startKey frames t
  | colon =>
    match t with
    | .colon => .ok (.value, frames)
    | _ => .error .malformed
  | separator =>
    match frames, t with
    | .array :: _, .comma => .ok (.value, frames)
    | .object :: _, .comma => .ok (.key, frames)
    | .array :: outer, .endArray => .ok (afterValue outer)
    | .object :: outer, .endObject => .ok (afterValue outer)
    | _, _ => .error .malformed
  | nothing => .error .malformed

/-- What follows a value of which this much is needed. -/
def skip (need : Need) (frames : List Frame) : List Token → Except Reject (List Token)
  | [] => .error .truncated
  | t :: ts =>
    match need.step frames t with
    | .error r => .error r
    | .ok (.nothing, _) => .ok ts
    | .ok (need, frames) => need.skip frames ts

theorem length_of_skip {need : Need} {frames : List Frame} {ts r : List Token}
    (h : need.skip frames ts = .ok r) : r.length < ts.length := by
  fun_induction Need.skip need frames ts with
  | case1 => cases h
  | case2 => cases h
  | case3 => cases h; simp
  | case4 => rename_i ih; have := ih h; simp only [List.length_cons]; omega

end Need

/-! ## Readers -/

namespace Reader
variable {α β σ : Type}

def map (f : α → β) (read : Reader α) : Reader β := fun ts => (read ts).map fun r => (f r.1, r.2)

def text : Reader String
  | [] => .error .truncated
  | .text (.ok s) _ :: rest => .ok (s, ⟨rest, by simp⟩)
  | t :: _ => .error t.rejected

def skip : Reader Unit := fun ts =>
  match h : Need.value.skip [] ts with
  | .ok rest => .ok ((), ⟨rest, Need.length_of_skip h⟩)
  | .error r => .error r

/-- The next item of a list, or `none` before its closing bracket. -/
def next? (first : Bool) (item : Reader α) (ts : List Token) :
    Except Reject (Option (α × { r : List Token // r.length < ts.length })) :=
  match ts with
  | [] => .error .truncated
  | .endArray :: _ => .ok none
  | t :: rest =>
    if first then (item (t :: rest)).map some
    else match t with
      | .comma =>
        match rest with
        | .endArray :: _ => .error .malformed
        | rest => (item rest).map fun r => some (r.1, ⟨r.2.1, Nat.lt_succ_of_lt r.2.2⟩)
      | _ => .error .malformed

/-- The next item of a list that has to have one. -/
def required (first : Bool) (item : Reader α) : Reader α := fun ts => do
  match ← next? first item ts with
  | some r => .ok r
  | none => .error .unfit

/-- The closing bracket of a list. -/
def close : Reader Unit
  | [] => .error .truncated
  | .endArray :: rest => .ok ((), ⟨rest, by simp⟩)
  | _ => .error .malformed

theorem shorter {a b c : List Token} (h₁ : b.length < c.length) (h₂ : a.length < b.length) :
    a.length < c.length := Nat.lt_trans h₂ h₁

/-- The closing bracket after the last item of a value. -/
def closeAfter {ts rest : List Token} (h : rest.length < ts.length) (a : α) :
    Except Reject (α × { r : List Token // r.length < ts.length }) :=
  (close rest).map fun r => (a, ⟨r.2.1, shorter h r.2.2⟩)

/-- The items of a list, and its closing bracket. -/
def items (item : Reader α) (first : Bool) (ts : List Token) :
    Except Reject (List α × { r : List Token // r.length < ts.length }) := do
  match ← next? first item ts with
  | none => (close ts).map fun r => ([], r.2)
  | some (a, ⟨rest, h⟩) =>
    let (as, r) ← items item false rest
    return (a :: as, ⟨r.1, Nat.lt_trans r.2 h⟩)
termination_by ts.length

def list (item : Reader α) : Reader (List α)
  | [] => .error .truncated
  | .beginArray :: rest =>
    (items item true rest).map fun r => (r.1, ⟨r.2.1, Nat.lt_succ_of_lt r.2.2⟩)
  | t :: _ => .error t.rejected

/-- The next key of an object, or `none` after its closing brace. -/
def nextKey? (first : Bool) (ts : List Token) :
    Except Reject (Option String × { r : List Token // r.length < ts.length }) :=
  match ts with
  | [] => .error .truncated
  | .endObject :: rest => .ok (none, ⟨rest, by simp⟩)
  | t :: rest =>
    match first, t with
    | true, .text s _ => s.map fun s => (some s, ⟨rest, by simp⟩)
    | false, .comma =>
      match rest with
      | [] => .error .truncated
      | .text s _ :: rest => s.map fun s => (some s, ⟨rest, by simp only [List.length_cons]; omega⟩)
      | _ => .error .malformed
    | _, _ => .error .malformed

def colon : Reader Unit
  | [] => .error .truncated
  | .colon :: rest => .ok ((), ⟨rest, by simp⟩)
  | _ => .error .malformed

/-- The members of an object, and its closing brace. `field` takes a member's key, before what
follows the key is looked at, and says how its value goes into the state. -/
def members (field : String → σ → Except Reject (Reader σ)) (first : Bool) (s : σ)
    (ts : List Token) : Except Reject (σ × { r : List Token // r.length < ts.length }) := do
  match ← nextKey? first ts with
  | (none, rest) => return (s, rest)
  | (some key, ⟨rest, h⟩) =>
    let value ← field key s
    let ((), ⟨rest₁, h₁⟩) ← colon rest
    let (s, ⟨rest₂, h₂⟩) ← value rest₁
    let (s, r) ← members field false s rest₂
    return (s, ⟨r.1, by have := r.2; omega⟩)
termination_by ts.length
decreasing_by omega

/-- How a member that may come once is read: `place` is what was read of it before. -/
def once (place : Option α) (read : Reader α) (put : α → σ) : Except Reject (Reader σ) :=
  if place.isSome then .error .unfit else .ok (read.map put)

theorem once_of_isSome {place : Option α} (h : place.isSome) (read : Reader α) (put : α → σ) :
    once place read put = .error .unfit := if_pos h

theorem once_of_not_isSome {place : Option α} (h : ¬ place.isSome) (read : Reader α)
    (put : α → σ) : once place read put = .ok (read.map put) := if_neg h

/-- An object, read from its opening brace on. -/
def object (body : Reader α) : Reader α
  | [] => .error .truncated
  | .beginObject :: rest => (body rest).map fun r => (r.1, ⟨r.2.1, Nat.lt_succ_of_lt r.2.2⟩)
  | t :: _ => .error t.rejected

/-- An object, or a list of the values of its members in order. -/
def struct (object : Reader α) (array : Reader α) : Reader α
  | [] => .error .truncated
  | .beginObject :: rest => (object rest).map fun r => (r.1, ⟨r.2.1, Nat.lt_succ_of_lt r.2.2⟩)
  | .beginArray :: rest => (array rest).map fun r => (r.1, ⟨r.2.1, Nat.lt_succ_of_lt r.2.2⟩)
  | t :: _ => .error t.rejected

/-- Checks what was read. -/
def check (f : α → Except Reject β) (read : Reader α) : Reader β := fun ts => do
  let (a, rest) ← read ts
  return (← f a, rest)

def startOfInput (read : Reader α) (s : Input) : Except Reject α := (read (tokens s)).map (·.1)

def ofInput (read : Reader α) (s : Input) : Except Reject α :=
  match read (tokens s) with
  | .error r => .error r
  | .ok (a, ⟨[], _⟩) => .ok a
  | .ok _ => .error .malformed

end Reader

end Entitlement.Json
