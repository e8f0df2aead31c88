import Entitlement.Toml.Scalar

/-!
# Values of TOML

* `Origin`, `Value`, `Entries` : a value; a table remembers how it was made, which decides whether
  keys and headers may still add to it;
* `descend` : enters tables along a path of keys, and makes those that are missing;
* `assign` : one more value under keys joined by dots;
* `value` : the value at the start of a text.
-/

namespace Entitlement.Toml

/-- How a table was made. -/
inductive Origin where
  /-- In braces. -/
  | braces
  /-- By a header of its own. -/
  | header
  /-- By the header of a table inside it. -/
  | implied
  /-- By keys joined by dots. -/
  | dotted
  deriving DecidableEq, Repr

inductive Value where
  | text (s : String)
  | word (w : Word)
  | array (items : List Value)
  | table (origin : Origin) (entries : List (String × Value))
  /-- The tables of headers in double brackets. -/
  | tables (items : List (List (String × Value)))

abbrev Entries := List (String × Value)

namespace Entries

def set (es : Entries) (key : String) (v : Value) : Entries :=
  es.map fun e => if e.1 = key then (key, v) else e

end Entries

/-- What leads along a path. -/
inductive Guide where
  | header
  | dotted
  deriving DecidableEq, Repr

namespace Guide

/-- How a table is made that is missing on the way. -/
def made : Guide → Origin
  | header => .implied
  | dotted => .dotted

def enters : Guide → Origin → Bool
  | _, .braces => false
  | header, _ => true
  | dotted, o => o = .implied || o = .dotted

end Guide

def descend (g : Guide) (act : Origin → Entries → Option Entries) :
    List String → Origin → Entries → Option Entries
  | [], o, es => act o es
  | key :: path, _, es =>
    match es.lookup key with
    | none => (descend g act path g.made []).map fun inner => es ++ [(key, .table g.made inner)]
    | some (.table o inner) =>
      if g.enters o then
        (descend g act path o inner).map fun inner => es.set key (.table o inner)
      else none
    | some (.tables items) => do
      let inner ← descend g act path .header (← items.getLast?)
      return es.set key (.tables (items.dropLast ++ [inner]))
    | some _ => none

/-- Values may be added under dots only to tables made by dots. -/
def assign (path : List String) (key : String) (v : Value) (es : Entries) : Option Entries :=
  descend .dotted (fun o es =>
    if (path ≠ [] ∧ o ≠ .dotted) ∨ (es.lookup key).isSome then none else some (es ++ [(key, v)]))
    path .header es

/-! ## Values in brackets -/

/-- Items after an opening bracket, separated by commas, of which one may follow the last. -/
def arrayItems (item : List Char → Option (Reading Value)) (s : List Char) :
    Option (Reading (List Value)) :=
  match skipLines s with
  | ']' :: rest => some ([], rest)
  | start => do
    let (v, rest) ← item start
    match skipLines rest with
    | ']' :: rest => return ([v], rest)
    | ',' :: next =>
      if _h : next.length < s.length then
        let (vs, rest) ← arrayItems item next
        return (v :: vs, rest)
      else none
    | _ => none
termination_by s.length

/-- A key, an equals sign and a value. -/
def pair (item : List Char → Option (Reading Value)) (s : List Char) :
    Option (Reading ((List String × String) × Value)) := do
  let (key, rest) ← keyPath s
  match rest with
  | '=' :: rest =>
    let (v, rest) ← item (skipBlanks rest)
    return ((key, v), skipBlanks rest)
  | _ => none

/-- Pairs up to a closing brace, separated by commas. -/
def pairs (item : List Char → Option (Reading Value)) (s : List Char) :
    Option (Reading (List ((List String × String) × Value))) := do
  let (p, rest) ← pair item s
  match rest with
  | '}' :: rest => return ([p], rest)
  | ',' :: next =>
    if _h : next.length < s.length then
      let (ps, rest) ← pairs item next
      return (p :: ps, rest)
    else none
  | _ => none
termination_by s.length

def bracedPairs (item : List Char → Option (Reading Value)) (s : List Char) :
    Option (Reading (List ((List String × String) × Value))) :=
  match skipBlanks s with
  | '}' :: rest => some ([], rest)
  | start => pairs item start

def braced (item : List Char → Option (Reading Value)) (s : List Char) :
    Option (Reading Value) := do
  let (ps, rest) ← bracedPairs item s
  let es ← ps.foldlM (fun es p => assign p.1.1 p.1.2 p.2 es) []
  return (.table .braces es, rest)

/-- A value with brackets no deeper than a limit. -/
def valueWithin : Nat → List Char → Option (Reading Value)
  | 0, s => scalar s
  | depth + 1, '[' :: rest =>
    (arrayItems (valueWithin depth) rest).map fun r => (.array r.1, r.2)
  | depth + 1, '\x7b' :: rest => braced (valueWithin depth) rest
  | _, s => scalar s
where
  scalar (s : List Char) : Option (Reading Value) :=
    match s.head? with
    | some '"' | some '\'' => (string? s).map fun r => (.text r.1, r.2)
    | _ => (word s).map fun r => (.word r.1, r.2)

def value (s : List Char) : Option (Reading Value) := valueWithin (depthLimit - 1) s

end Entitlement.Toml
