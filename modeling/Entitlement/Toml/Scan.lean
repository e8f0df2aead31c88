import Entitlement.Text.Digits

/-!
# Pieces of TOML

* `Reading` : what the start of a text says, and the rest of the text;
* `skipBlanks`, `skipLines`, `lineEnd` : what stands between pieces: blanks, line ends, comments;
* `basicText`, `literalText` : the text of a string after its opening quote, with and without
  escapes; `basicBlock`, `literalBlock` : over several lines;
* `simpleKey`, `keyPath` : a key, and keys joined by dots.
-/

namespace Entitlement.Toml

abbrev Reading (α : Type) := α × List Char

/-! ## Between pieces -/

def isBlank (c : Char) : Bool := c = ' ' || c = '\t'

/-- The characters of comments. -/
def isPlain (c : Char) : Bool := c = '\t' || (0x20 ≤ c.toNat && c.toNat ≠ 0x7F)

def skipBlanks (s : List Char) : List Char := s.dropWhile isBlank

/-- What follows a line end. -/
def newline? : List Char → Option (List Char)
  | '\n' :: rest => some rest
  | '\r' :: '\n' :: rest => some rest
  | _ => none

/-- Without the blanks and line ends at the start. -/
def skipSpace : List Char → List Char
  | ' ' :: rest | '\t' :: rest | '\n' :: rest => skipSpace rest
  | '\r' :: '\n' :: rest => skipSpace rest
  | rest => rest

def skipComment : List Char → List Char
  | '#' :: rest => rest.dropWhile isPlain
  | rest => rest

/-- Without the blanks, comments and line ends at the start. -/
def skipLines (s : List Char) : List Char :=
  let rest := skipComment (skipBlanks s)
  match newline? rest with
  | some next => if _h : next.length < s.length then skipLines next else rest
  | none => rest
termination_by s.length

/-- What follows the line, of which only blanks and a comment are left. -/
def lineEnd (s : List Char) : Option (List Char) :=
  match skipComment (skipBlanks s) with
  | [] => some []
  | rest => newline? rest

/-! ## Strings -/

/-- Stands unescaped in a string with escapes. -/
def isBasic (c : Char) : Bool := isPlain c && c ≠ '"' && c ≠ '\\'

/-- Stands in a string without escapes. -/
def isLiteral (c : Char) : Bool := isPlain c && c ≠ '\''

def shortEscape? (c : Char) : Option Char :=
  if c = '"' ∨ c = '\\' then some c
  else if c = 'b' then some '\u0008'
  else if c = 't' then some '\t'
  else if c = 'n' then some '\n'
  else if c = 'f' then some '\u000c'
  else if c = 'r' then some '\r'
  else none

/-- The character of a code in hexadecimal digits; surrogates are none. -/
def code? (digits : List Char) : Option Char := do
  let n := Text.valueIn 16 (← digits.mapM Text.digitValue?)
  if n.isValidChar then some (Char.ofNat n) else none

/-- An escape after its backslash. -/
def escape? : List Char → Option (Reading Char)
  | 'u' :: a :: b :: c :: d :: rest => (code? [a, b, c, d]).map (·, rest)
  | 'U' :: a :: b :: c :: d :: e :: f :: g :: h :: rest =>
    (code? [a, b, c, d, e, f, g, h]).map (·, rest)
  | c :: rest => (shortEscape? c).map (·, rest)
  | [] => none

/-- With a character in front of what was read. -/
def push (c : Char) (r : List Char × List Char) : List Char × List Char := (c :: r.1, r.2)

def basicText (s : List Char) : Option (Reading (List Char)) :=
  match s with
  | [] => none
  | '"' :: rest => some ([], rest)
  | '\\' :: rest => do
    let (c, next) ← escape? rest
    if _h : next.length ≤ rest.length then (basicText next).map (push c) else none
  | c :: rest => if isBasic c then (basicText rest).map (push c) else none
termination_by s.length
decreasing_by all_goals grind

def literalText : List Char → Option (Reading (List Char))
  | [] => none
  | '\'' :: rest => some ([], rest)
  | c :: rest => if isLiteral c then (literalText rest).map (push c) else none

/-- Up to two quotes before the three that end a text belong to it. -/
def closing (quote : Char) : List Char → List Char × List Char
  | a :: b :: rest =>
    if a = quote ∧ b = quote then ([a, b], rest)
    else if a = quote then ([a], b :: rest)
    else ([], a :: b :: rest)
  | [a] => if a = quote then ([a], []) else ([], [a])
  | [] => ([], [])

/-- A backslash at the end of a line hides all blanks and line ends up to the next piece of text. -/
def basicBlock (s : List Char) : Option (Reading (List Char)) :=
  match s with
  | [] => none
  | '"' :: '"' :: '"' :: rest => some (closing '"' rest)
  | '\\' :: rest =>
    match newline? (skipBlanks rest) with
    | some next =>
      if _h : (skipSpace next).length ≤ rest.length then basicBlock (skipSpace next) else none
    | none => do
      let (c, next) ← escape? rest
      if _h : next.length ≤ rest.length then (basicBlock next).map (push c) else none
  | c :: rest =>
    match newline? s with
    | some next =>
      if _h : next.length ≤ rest.length then (basicBlock next).map (push '\n') else none
    | none => if isBasic c || c = '"' then (basicBlock rest).map (push c) else none
termination_by s.length
decreasing_by all_goals grind

def literalBlock (s : List Char) : Option (Reading (List Char)) :=
  match s with
  | [] => none
  | '\'' :: '\'' :: '\'' :: rest => some (closing '\'' rest)
  | c :: rest =>
    match newline? s with
    | some next =>
      if _h : next.length ≤ rest.length then (literalBlock next).map (push '\n') else none
    | none => if isPlain c then (literalBlock rest).map (push c) else none
termination_by s.length
decreasing_by all_goals grind

/-- A line end directly after the opening quotes is not part of the text. -/
def blockStart (s : List Char) : List Char := (newline? s).getD s

/-- A string of any kind. -/
def string? : List Char → Option (Reading String)
  | '"' :: '"' :: '"' :: rest => (basicBlock (blockStart rest)).map fun r => (.ofList r.1, r.2)
  | '"' :: rest => (basicText rest).map fun r => (.ofList r.1, r.2)
  | '\'' :: '\'' :: '\'' :: rest => (literalBlock (blockStart rest)).map fun r => (.ofList r.1, r.2)
  | '\'' :: rest => (literalText rest).map fun r => (.ofList r.1, r.2)
  | _ => none

/-! ## Keys -/

def isBare (c : Char) : Bool :=
  Text.isDigit c || ('a' ≤ c && c ≤ 'z') || ('A' ≤ c && c ≤ 'Z') || c = '-' || c = '_'

def simpleKey : List Char → Option (Reading String)
  | '"' :: rest => (basicText rest).map fun r => (.ofList r.1, r.2)
  | '\'' :: rest => (literalText rest).map fun r => (.ofList r.1, r.2)
  | s => if s.takeWhile isBare = [] then none
    else some (.ofList (s.takeWhile isBare), s.dropWhile isBare)

/-- How deep keys and values may be nested, plus one. -/
def depthLimit : Nat := 80

/-- Keys joined by dots, with blanks around each. -/
def keysFrom (s : List Char) : Option (Reading (List String)) := do
  let (key, rest) ← simpleKey (skipBlanks s)
  match skipBlanks rest with
  | '.' :: next =>
    if _h : next.length < s.length then
      let (keys, rest) ← keysFrom next
      return (key :: keys, rest)
    else none
  | rest => return ([key], rest)
termination_by s.length

/-- The keys on the way, and the last one. -/
def keyPath (s : List Char) : Option (Reading (List String × String)) := do
  let (keys, rest) ← keysFrom s
  if depthLimit ≤ keys.length then none
  return ((keys.dropLast, ← keys.getLast?), rest)

end Entitlement.Toml
