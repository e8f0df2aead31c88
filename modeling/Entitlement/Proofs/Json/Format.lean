import Entitlement.Text.Digits
import Mathlib.Data.List.Forall2

/-!
# The texts of JSON

* `Format` : the texts that spell something; `Blanks` : what may stand around a value;
* `CharSpelling` : the ways to spell a character of a string; `Format.text` : the strings that stand
  for a text; `Quoted` : all strings, also those with half a pair of surrogates;
* `Numeric` : the numbers;
* `Format.array`, `Format.object` : lists and objects, by the formats of what is in them;
  `Format.alone` : a text that holds one value;
* `Valid` : the values of any kind and any depth.

No word of this depends on how texts are read.
-/

namespace Entitlement.Json

/-- The texts that spell something. -/
abbrev Format := List Char → Prop

def Blanks : Format := fun cs => ∀ c ∈ cs, c ∈ [' ', '\t', '\n', '\r']

/-! ## Strings -/

/-- A hexadecimal digit, in either case. -/
def HexDigit (n : Nat) (c : Char) : Prop := n < 16 ∧ (c = Text.digit n ∨ c = Text.upperDigit n)

/-- The escape of a code by its four digits. -/
inductive LongEscape : Nat → Format
  | mk {n₁ n₂ n₃ n₄ : Nat} {c₁ c₂ c₃ c₄ : Char} (h₁ : HexDigit n₁ c₁) (h₂ : HexDigit n₂ c₂)
      (h₃ : HexDigit n₃ c₃) (h₄ : HexDigit n₄ c₄) :
      LongEscape (((n₁ * 16 + n₂) * 16 + n₃) * 16 + n₄) ['\\', 'u', c₁, c₂, c₃, c₄]

/-- The letters of the short escapes, and what they stand for. -/
def shortEscapes : List (Char × Char) :=
  [('"', '"'), ('\\', '\\'), ('/', '/'), ('b', '\u0008'), ('f', '\u000c'), ('n', '\n'), ('r', '\r'),
    ('t', '\t')]

/-- A character that may stand in a string as it is. -/
def IsBare (c : Char) : Prop := c ≠ '"' ∧ c ≠ '\\' ∧ 0x20 ≤ c.toNat

inductive CharSpelling : Char → Format
  | bare {c : Char} (h : IsBare c) : CharSpelling c [c]
  | short {e c : Char} (h : (e, c) ∈ shortEscapes) : CharSpelling c ['\\', e]
  | long {c : Char} {cs : List Char} (h : LongEscape c.toNat cs) : CharSpelling c cs
  /-- A character past the codes of four digits, by its pair of surrogates. -/
  | pair {c : Char} {leading trailing : Nat} {cs ds : List Char}
      (hc : c.toNat = 0x10000 + leading * 0x400 + trailing) (ht : trailing < 0x400)
      (hcs : LongEscape (0xD800 + leading) cs) (hds : LongEscape (0xDC00 + trailing) ds) :
      CharSpelling c (cs ++ ds)

/-- The strings that stand for a text. -/
def Format.text (s : String) : Format := fun cs =>
  ∃ parts, List.Forall₂ CharSpelling s.toList parts ∧ cs = '"' :: parts.flatten ++ ['"']

/-- A part of a string, whether it stands for a character or not. -/
inductive StringPart : Format
  | bare {c : Char} (h : IsBare c) : StringPart [c]
  | short {e c : Char} (h : (e, c) ∈ shortEscapes) : StringPart ['\\', e]
  | long {n : Nat} {cs : List Char} (h : LongEscape n cs) : StringPart cs

def Quoted : Format := fun cs =>
  ∃ parts : List (List Char), (∀ part ∈ parts, StringPart part) ∧
    cs = '"' :: parts.flatten ++ ['"']

/-! ## Numbers -/

def Digits : Format := fun cs => cs ≠ [] ∧ ∀ c ∈ cs, Text.isDigit c = true

/-- Without a leading zero, unless the zero is all. -/
def Whole : Format := fun cs => cs = ['0'] ∨ Digits cs ∧ cs.head? ≠ some '0'

def Fraction : Format := fun cs => cs = [] ∨ ∃ ds, Digits ds ∧ cs = '.' :: ds

def Exponent : Format := fun cs => cs = [] ∨
  ∃ e ∈ ['e', 'E'], ∃ sign ∈ [[], ['+'], ['-']], ∃ ds, Digits ds ∧ cs = e :: (sign ++ ds)

def Numeric : Format := fun cs =>
  ∃ sign ∈ [[], ['-']], ∃ whole fraction exponent, Whole whole ∧ Fraction fraction ∧
    Exponent exponent ∧ cs = sign ++ (whole ++ (fraction ++ exponent))

/-! ## Lists and objects -/

/-- One or more items with blanks around them and commas between them. -/
inductive Spaced : List Format → Format
  | one {F : Format} {before v after : List Char} (hbefore : Blanks before) (hv : F v)
      (hafter : Blanks after) : Spaced [F] (before ++ (v ++ after))
  | cons {F : Format} {items : List Format} {before v after cs : List Char}
      (hbefore : Blanks before) (hv : F v) (hafter : Blanks after) (h : Spaced items cs) :
      Spaced (F :: items) (before ++ (v ++ (after ++ ',' :: cs)))

namespace Format

/-- Items between two brackets; without items there may be blanks. -/
def between (opening closing : Char) (items : List Format) : Format := fun cs =>
  ∃ inner, (items = [] ∧ Blanks inner ∨ Spaced items inner) ∧ cs = opening :: (inner ++ [closing])

def array (items : List Format) : Format := between '[' ']' items

def member (key value : Format) : Format := fun cs =>
  ∃ k before after v, key k ∧ Blanks before ∧ Blanks after ∧ value v ∧
    cs = k ++ (before ++ ':' :: (after ++ v))

def object (members : List (Format × Format)) : Format :=
  between '{' '}' (members.map fun m => member m.1 m.2)

/-- One value and nothing else but blanks. -/
def alone (F : Format) : Format := Spaced [F]

/-- An object of known keys. -/
def record (members : List (String × Format)) : Format :=
  object (members.map fun m => (text m.1, m.2))

end Format

/-! ## Any value -/

inductive Valid : Format
  | word {cs : List Char} (h : cs ∈ [['n', 'u', 'l', 'l'], ['t', 'r', 'u', 'e'],
      ['f', 'a', 'l', 's', 'e']]) : Valid cs
  | numeric {cs : List Char} (h : Numeric cs) : Valid cs
  | quoted {cs : List Char} (h : Quoted cs) : Valid cs
  | array {items : List Format} {cs : List Char}
      (hitems : ∀ F ∈ items, ∀ v, F v → Valid v) (h : Format.array items cs) : Valid cs
  | object {members : List (Format × Format)} {cs : List Char}
      (hkeys : ∀ m ∈ members, ∀ k, m.1 k → Quoted k)
      (hvalues : ∀ m ∈ members, ∀ v, m.2 v → Valid v) (h : Format.object members cs) : Valid cs

end Entitlement.Json
