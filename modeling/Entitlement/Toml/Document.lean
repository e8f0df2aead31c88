import Entitlement.Toml.Value

/-!
# Documents of TOML

* `Statement` : a header or a pair; `statement` : the one at the start of a line;
* `Document` : the tables made so far, and the one that pairs go to; `Document.add` : with one more
  statement;
* `Document.parse?` : the entries of a text, if it is a document.
-/

namespace Entitlement.Toml

inductive Statement where
  | header (path : List String) (key : String)
  | element (path : List String) (key : String)
  | assign (path : List String) (key : String) (v : Value)

/-- The keys of a header, after its bracket or brackets. -/
def headerKeys (close : List Char) (s : List Char) :
    Option (Reading (List String × String)) := do
  let (keys, rest) ← keyPath s
  if close.isPrefixOf rest then some (keys, rest.drop close.length) else none

/-- A statement, and what follows on its line. -/
def statement : List Char → Option (Reading Statement)
  | '[' :: '[' :: rest =>
    (headerKeys [']', ']'] rest).map fun r => (.element r.1.1 r.1.2, r.2)
  | '[' :: rest => (headerKeys [']'] rest).map fun r => (.header r.1.1 r.1.2, r.2)
  | s => (pair value s).map fun r => (.assign r.1.1.1 r.1.1.2 r.1.2, r.2)

/-- The statements of a text, each on a line of its own. -/
def statements (s : List Char) : Option (List Statement) :=
  match skipLines s with
  | [] => some []
  | start => do
    let (first, rest) ← statement start
    let next ← lineEnd rest
    if _h : next.length < s.length then return first :: (← statements next) else none
termination_by s.length

structure Document where
  entries : Entries
  /-- The keys of the last header. -/
  current : List String

namespace Document

def empty : Document := ⟨[], []⟩

/-- A table gets one header; it may have been implied before. -/
def open? (path : List String) (key : String) (es : Entries) : Option Entries :=
  descend .header (fun _ es =>
    match es.lookup key with
    | none => some (es ++ [(key, .table .header [])])
    | some (.table .implied inner) => some (es.set key (.table .header inner))
    | some _ => none)
    path .header es

def extend? (path : List String) (key : String) (es : Entries) : Option Entries :=
  descend .header (fun _ es =>
    match es.lookup key with
    | none => some (es ++ [(key, .tables [[]])])
    | some (.tables items) => some (es.set key (.tables (items ++ [[]])))
    | some _ => none)
    path .header es

def add (d : Document) : Statement → Option Document
  | .header path key => (open? path key d.entries).map (⟨·, path ++ [key]⟩)
  | .element path key => (extend? path key d.entries).map (⟨·, path ++ [key]⟩)
  | .assign path key v =>
    (descend .header (fun _ es => Toml.assign path key v es) d.current .header d.entries).map
      (⟨·, d.current⟩)

/-- A byte order mark may stand first. -/
def body (text : String) : List Char :=
  match text.toList with
  | '\uFEFF' :: rest => rest
  | cs => cs

def parse? (text : String) : Option Entries := do
  let d ← (← statements (body text)).foldlM add empty
  return d.entries

end Document

end Entitlement.Toml
