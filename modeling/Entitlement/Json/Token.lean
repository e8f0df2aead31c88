import Entitlement.Text.Digits

/-!
# Tokens of JSON

* `Input` : the characters of a text, `none` where its bytes are no character;
* `Reject` : why a text is not read: it is malformed, it does not fit what is expected, or it ends
  too early;
* `Token` : a token. A string and a number have two readings, one for a value that is wanted and
  one for a value that is skipped;
* `Piece`, `scanText`, `textOf` : strings; `Numeral`, `scanNumber` : numbers;
* `tokens` : the tokens of a text. Nothing follows a token that cannot even be skipped.
-/

namespace Entitlement.Json

abbrev Input := List (Option Char)

def Input.ofString (s : String) : Input := s.toList.map some

inductive Reject where
  | malformed
  | unfit
  | truncated
  deriving DecidableEq, Repr

inductive Token where
  | beginArray
  | endArray
  | beginObject
  | endObject
  | comma
  | colon
  | text (wanted : Except Reject String) (skipped : Except Reject Unit)
  | number (wanted skipped : Except Reject Unit)
  /-- `null`, `true` or `false`. -/
  | word (spelled : Except Reject Unit)
  /-- A character that starts no token. -/
  | stray

def isBlank (c : Char) : Bool := c == ' ' || c == '\n' || c == '\t' || c == '\r'

/-! ## Strings -/

/-- A part of a string: a character, also one of the short escapes, or the code of a long escape. -/
inductive Piece where
  | char (c : Option Char)
  | code (n : Nat)

/-- The character of a short escape. -/
def shortEscape? (c : Char) : Option Char :=
  if c = '"' ∨ c = '\\' ∨ c = '/' then some c
  else if c = 'b' then some '\u0008'
  else if c = 'f' then some '\u000c'
  else if c = 'n' then some '\n'
  else if c = 'r' then some '\r'
  else if c = 't' then some '\t'
  else none

/-- The value of four hexadecimal digits. -/
def hexCode? (a b c d : Option Char) : Option Nat := do
  let digits ← [a, b, c, d].mapM fun c => c.bind Text.digitValue?
  return Text.valueIn 16 digits

/-- How many bytes a text takes. -/
def width (s : Input) : Nat := (s.map fun c => c.elim 1 Char.utf8Size).foldl (· + ·) 0

structure TextScan where
  pieces : List Piece
  /-- What follows the closing quote. -/
  rest : Except Reject Input

namespace TextScan

def stop (r : Reject) : TextScan := ⟨[], .error r⟩

def add (p : Piece) (t : TextScan) : TextScan := ⟨p :: t.pieces, t.rest⟩

end TextScan

/-- Scans a string after its opening quote. -/
def scanText : Input → TextScan
  | [] => .stop .truncated
  | some '"' :: rest => ⟨[], .ok rest⟩
  | some '\\' :: some 'u' :: a :: b :: c :: d :: rest =>
    match hexCode? a b c d with
    | some n => (scanText rest).add (.code n)
    | none => .stop .malformed
  | some '\\' :: some 'u' :: rest => .stop (if width rest < 4 then .truncated else .malformed)
  | some '\\' :: some c :: rest =>
    match shortEscape? c with
    | some e => (scanText rest).add (.char e)
    | none => .stop .malformed
  | some '\\' :: none :: _ => .stop .malformed
  | [some '\\'] => .stop .truncated
  | none :: rest => (scanText rest).add (.char none)
  | some c :: rest => if c.toNat < 0x20 then .stop .malformed else (scanText rest).add (.char c)

theorem length_of_scanText {s r : Input} (h : (scanText s).rest = .ok r) :
    r.length ≤ s.length := by
  fun_induction scanText s generalizing r with
  | case2 => simp at h; simp [h]
  | case3 | case6 | case10 | case12 =>
    rename_i ih
    have := ih h
    simp only [List.length_cons]
    omega
  | _ => simp [TextScan.stop] at h

/-- A leading surrogate is the first half of a pair, a trailing one the second. -/
def isLeading (n : Nat) : Bool := 0xD800 ≤ n && n ≤ 0xDBFF

def isTrailing (n : Nat) : Bool := 0xDC00 ≤ n && n ≤ 0xDFFF

/-- The characters of a string that is wanted: surrogates come in pairs, and every byte belongs to
a character. `ending` says how the string ended. -/
def wantedChars (ending : Except Reject Unit) : List Piece → Except Reject (List (Option Char))
  | [] => ending.map fun _ => []
  | .char c :: rest => (wantedChars ending rest).map (c :: ·)
  | [.code n] =>
    if isTrailing n then .error .malformed
    else if isLeading n then ending.bind fun _ => .error .malformed
    else ending.map fun _ => [some (Char.ofNat n)]
  | .code n :: .char c :: rest =>
    if isTrailing n ∨ isLeading n then .error .malformed
    else (wantedChars ending rest).map fun cs => some (Char.ofNat n) :: c :: cs
  | .code n :: .code m :: rest =>
    if isTrailing n then .error .malformed
    else if isLeading n then
      if isTrailing m then
        (wantedChars ending rest).map
          (some (Char.ofNat (0x10000 + (n - 0xD800) * 0x400 + (m - 0xDC00))) :: ·)
      else .error .malformed
    else (wantedChars ending (.code m :: rest)).map (some (Char.ofNat n) :: ·)

def textOf (ending : Except Reject Unit) (pieces : List Piece) : Except Reject String := do
  match (← wantedChars ending pieces).mapM id with
  | some cs => .ok (String.ofList cs)
  | none => .error .malformed

/-! ## Numbers -/

/-- The digits at the start of a text. -/
def leadingDigits (s : Input) : List Nat :=
  (s.takeWhile fun c => c.any Text.isDigit).map fun c => (c.bind Text.digitValue?).getD 0

structure Numeral where
  whole : List Nat
  fraction : List Nat
  exponent : List Nat
  negativeExponent : Bool

/-- Where a numeral breaks off. -/
inductive NumberFault where
  | inside
  | atEnd

/-- A number that is skipped is malformed also where it breaks off at the end of the text. -/
def NumberFault.wanted : NumberFault → Reject
  | inside => .malformed
  | atEnd => .truncated

def faultAt (s : Input) : NumberFault := if s.isEmpty then .atEnd else .inside

/-- One or more digits, and what follows them. -/
def someDigits (s : Input) : Except NumberFault (List Nat × Input) :=
  if (leadingDigits s).isEmpty then .error (faultAt s)
  else .ok (leadingDigits s, s.drop (leadingDigits s).length)

/-- Digits without a leading zero, unless the zero is all. -/
def wholePart (s : Input) : Except NumberFault (List Nat × Input) := do
  let (digits, rest) ← someDigits s
  match digits with
  | 0 :: _ :: _ => .error .inside
  | _ => .ok (digits, rest)

def fractionPart : Input → Except NumberFault (List Nat × Input)
  | some '.' :: rest => someDigits rest
  | s => .ok ([], s)

/-- The sign of the exponent, and its digits. -/
def exponentPart : Input → Except NumberFault (Bool × List Nat × Input)
  | some c :: rest =>
    if c = 'e' ∨ c = 'E' then
      match rest with
      | some '+' :: rest => (someDigits rest).map fun r => (false, r)
      | some '-' :: rest => (someDigits rest).map fun r => (true, r)
      | rest => (someDigits rest).map fun r => (false, r)
    else .ok (false, [], some c :: rest)
  | s => .ok (false, [], s)

/-- Scans a number after its sign. -/
def scanNumber (s : Input) : Except NumberFault (Numeral × Input) := do
  let (whole, rest) ← wholePart s
  let (fraction, rest) ← fractionPart rest
  let (negative, exponent, rest) ← exponentPart rest
  return (⟨whole, fraction, exponent, negative⟩, rest)

/-- The nearest number of at most 53 significant bits; a tie goes to the even one. -/
def roundBits (n : Nat) : Nat :=
  if n < Nat.pow 2 53 then n
  else
    let unit := Nat.pow 2 (n.log2 - 52)
    let q := n / unit
    let r := n % unit
    (if unit < 2 * r ∨ (2 * r = unit ∧ q % 2 = 1) then q + 1 else q) * unit

/-- Takes digits into a significand of 64 bits until one does not fit: the significand, and the
digits that are left. -/
def significand (n : Nat) : List Nat → Nat × List Nat
  | [] => (n, [])
  | d :: rest => if n * 10 + d < Nat.pow 2 64 then significand (n * 10 + d) rest else (n, d :: rest)

/-- The number is small enough for a binary number of 64 bits: its significand is cut to 64 bits and
rounded, and so is the power of ten. -/
def Numeral.inRange (n : Numeral) : Bool :=
  let (w, wholeLeft) := significand 0 n.whole
  let (s, fractionLeft) := significand w n.fraction
  let shift : Int := (wholeLeft.length : Int) - (n.fraction.length - fractionLeft.length : Int)
  let written : Int := Text.valueIn 10 n.exponent
  let e := shift + (if n.negativeExponent then -written else written)
  s = 0 || e < 0 ||
    (e ≤ 308 && decide
      (roundBits s * roundBits (Nat.pow 10 e.toNat) < Nat.pow 2 1024 - Nat.pow 2 970))

/-- The token of a number, and what follows it. -/
def numberToken (s : Input) : Token × Input :=
  match scanNumber s with
  | .ok (n, rest) =>
    (.number (if n.inRange then .ok () else .error .malformed) (.ok ()), rest)
  | .error fault => (.number (.error fault.wanted) (.error .malformed), [])

/-! ## Tokens -/

/-- What follows a word. -/
def scanWord : List Char → Input → Except Reject Input
  | [], s => .ok s
  | _ :: _, [] => .error .truncated
  | c :: cs, d :: rest => if d = some c then scanWord cs rest else .error .malformed

/-- The token of a string or a word or a number that starts a text, and what follows it. -/
def longToken (c : Char) (rest : Input) : Token × Input :=
  let word (cs : List Char) : Token × Input :=
    match scanWord cs rest with
    | .ok r => (.word (.ok ()), r)
    | .error fault => (.word (.error fault), [])
  if c = '"' then
    let t := scanText rest
    let ending := t.rest.map fun _ => ()
    (.text (textOf ending t.pieces) ending, match t.rest with | .ok r => r | .error _ => [])
  else if c = 'n' then word ['u', 'l', 'l']
  else if c = 't' then word ['r', 'u', 'e']
  else if c = 'f' then word ['a', 'l', 's', 'e']
  else if c = '-' then numberToken rest
  else if Text.isDigit c then numberToken (some c :: rest)
  else (.stray, [])

def punctuation? (c : Char) : Option Token :=
  if c = '[' then some .beginArray
  else if c = ']' then some .endArray
  else if c = '{' then some .beginObject
  else if c = '}' then some .endObject
  else if c = ',' then some .comma
  else if c = ':' then some .colon
  else none

/-! ## Lengths -/

theorem length_of_scanWord {cs : List Char} {s r : Input} (h : scanWord cs s = .ok r) :
    r.length ≤ s.length := by
  fun_induction scanWord cs s with
  | case1 => simp at h; simp [h]
  | case3 _ _ _ ih => have := ih h; simp only [List.length_cons]; omega
  | _ => simp at h

theorem length_of_someDigits {s r : Input} {d : List Nat} (h : someDigits s = .ok (d, r)) :
    r.length < s.length := by
  unfold someDigits at h
  split at h
  · simp at h
  · next hd =>
    obtain ⟨rfl, rfl⟩ := Prod.mk.inj (Except.ok.inj h)
    have : (leadingDigits s).length ≠ 0 := by simpa using hd
    have : (leadingDigits s).length ≤ s.length := by
      simpa [leadingDigits] using (List.takeWhile_prefix _).length_le
    simp only [List.length_drop]
    omega

theorem length_of_wholePart {s r : Input} {d : List Nat} (h : wholePart s = .ok (d, r)) :
    r.length < s.length := by
  unfold wholePart at h
  match hs : someDigits s with
  | .error _ => rw [hs] at h; cases h
  | .ok (e, t) =>
    rw [hs] at h
    have ht := length_of_someDigits hs
    change (match e with
      | 0 :: _ :: _ => Except.error NumberFault.inside
      | _ => Except.ok (e, t)) = _ at h
    split at h
    · cases h
    · cases h; exact ht

theorem length_of_fractionPart {s r : Input} {d : List Nat} (h : fractionPart s = .ok (d, r)) :
    r.length ≤ s.length := by
  unfold fractionPart at h
  split at h
  · have := length_of_someDigits h
    simp only [List.length_cons]
    omega
  · cases h; exact Nat.le_refl _

theorem length_of_exponentPart {s r : Input} {b : Bool} {d : List Nat}
    (h : exponentPart s = .ok (b, d, r)) : r.length ≤ s.length := by
  have key : ∀ {t : Input} {b' : Bool}, (someDigits t).map (fun r => (b', r)) = .ok (b, d, r) →
      r.length < t.length := by
    intro t b' ht
    match hs : someDigits t with
    | .error _ => rw [hs] at ht; cases ht
    | .ok (e, u) => rw [hs] at ht; cases ht; exact length_of_someDigits hs
  unfold exponentPart at h
  split at h
  · split at h
    · split at h
      all_goals
        have := key h
        simp only [List.length_cons] at this ⊢
        omega
    · cases h; exact Nat.le_refl _
  · cases h; exact Nat.le_refl _

theorem length_of_scanNumber {s r : Input} {n : Numeral} (h : scanNumber s = .ok (n, r)) :
    r.length < s.length := by
  unfold scanNumber at h
  match hw : wholePart s with
  | .error _ => rw [hw] at h; cases h
  | .ok (w, t) =>
    rw [hw] at h
    match hf : fractionPart t with
    | .error _ => simp only [bind, Except.bind, hf] at h; cases h
    | .ok (f, u) =>
      match he : exponentPart u with
      | .error _ => simp only [bind, Except.bind, hf, he] at h; cases h
      | .ok (b, e, v) =>
        simp only [bind, Except.bind, hf, he, pure, Except.pure] at h
        cases h
        have := length_of_wholePart hw
        have := length_of_fractionPart hf
        have := length_of_exponentPart he
        omega

theorem length_of_numberToken {s : Input} (h : s ≠ []) : (numberToken s).2.length < s.length := by
  unfold numberToken
  split
  · next hs => exact length_of_scanNumber hs
  · exact List.length_pos_iff.2 h

theorem length_of_longToken (c : Char) (rest : Input) :
    (longToken c rest).2.length < (some c :: rest).length := by
  have word : ∀ cs : List Char, (match scanWord cs rest with
      | .ok r => (Token.word (.ok ()), r)
      | .error fault => (Token.word (.error fault), [])).2.length < (some c :: rest).length := by
    intro cs
    split
    · next h => exact Nat.lt_succ_of_le (length_of_scanWord h)
    · simp
  unfold longToken
  split
  · dsimp only
    split
    · next h => exact Nat.lt_succ_of_le (length_of_scanText h)
    · simp
  · split
    · exact word _
    · split
      · exact word _
      · split
        · exact word _
        · split
          · by_cases hr : rest = []
            · subst hr; simp [numberToken, scanNumber, wholePart, someDigits, leadingDigits,
                bind, Except.bind]
            · exact Nat.lt_succ_of_lt (length_of_numberToken hr)
          · split
            · exact length_of_numberToken (by simp)
            · simp

/-! ## Tokens of a text -/

def tokens : Input → List Token
  | [] => []
  | none :: _ => [.stray]
  | some c :: rest =>
    if isBlank c then tokens rest
    else match punctuation? c with
      | some t => t :: tokens rest
      | none => (longToken c rest).1 :: tokens (longToken c rest).2
termination_by s => s.length
decreasing_by
  · simp
  · simp
  · exact length_of_longToken c rest

end Entitlement.Json
