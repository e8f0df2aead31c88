import Entitlement.Json.Token
import Entitlement.Proofs.Json.Format
import Entitlement.Proofs.Text.Digits
import Entitlement.Proofs.Text.Utf8

/-!
# Tokens of spelled values

* `tokens_punctuation` : a bracket, a comma or a colon is its own token; `tokens_blanks` : blanks are
  none;
* `tokens_text`, `tokens_quoted` : **a string is one token, however its characters are spelled**, and
  it has the text that it stands for;
* `Stops` : what may come after a value; `tokens_numeric` : a number is one token up to there;
* `tokens_word` : so is a word.
-/

namespace Entitlement.Json
open Text

theorem tokens_punctuation {c : Char} {t : Token} (hblank : isBlank c = false)
    (h : punctuation? c = some t) (rest : Input) : tokens (some c :: rest) = t :: tokens rest := by
  rw [tokens, hblank, h]
  rfl

theorem isBlank_of_mem {c : Char} (h : c ∈ [' ', '\t', '\n', '\r']) : isBlank c = true := by
  simp only [List.mem_cons, List.not_mem_nil, or_false] at h
  rcases h with rfl | rfl | rfl | rfl
  all_goals rfl

theorem tokens_blanks {b : List Char} (h : Blanks b) (rest : Input) :
    tokens (b.map some ++ rest) = tokens rest := by
  induction b with
  | nil => rfl
  | cons c b ih =>
    have hc : isBlank c = true := isBlank_of_mem (h c List.mem_cons_self)
    rw [List.map_cons, List.cons_append, tokens, hc]
    exact ih fun d hd => h d (List.mem_cons_of_mem c hd)

/-! ## Strings -/

theorem HexDigit.value {n : Nat} {c : Char} (h : HexDigit n c) : digitValue? c = some n := by
  have hupper : ∀ n < 16, digitValue? (upperDigit n) = some n := by decide
  obtain ⟨hn, rfl | rfl⟩ := h
  · exact digitValue?_digit n hn
  · exact hupper n hn

theorem scanText_long {n : Nat} {cs : List Char} (h : LongEscape n cs) (rest : Input) :
    scanText (cs.map some ++ rest) = (scanText rest).add (.code n) := by
  obtain ⟨h₁, h₂, h₃, h₄⟩ := h
  rename_i n₁ n₂ n₃ n₄ c₁ c₂ c₃ c₄
  have hcode : hexCode? (some c₁) (some c₂) (some c₃) (some c₄) =
      some (((n₁ * 16 + n₂) * 16 + n₃) * 16 + n₄) := by
    simp [hexCode?, h₁.value, h₂.value, h₃.value, h₄.value, valueIn]
  simp [scanText, hcode]

theorem scanText_short {e c : Char} (h : (e, c) ∈ shortEscapes) (rest : Input) :
    scanText (['\\', e].map some ++ rest) = (scanText rest).add (.char c) := by
  have hall : ∀ p ∈ shortEscapes, p.1 ≠ 'u' ∧ shortEscape? p.1 = some p.2 := by decide
  obtain ⟨he, hc⟩ := hall _ h
  simp [scanText, he, hc]

theorem scanText_bare {c : Char} (h : IsBare c) (rest : Input) :
    scanText ([c].map some ++ rest) = (scanText rest).add (.char c) := by
  obtain ⟨hquote, hbackslash, hprints⟩ := h
  simp [scanText, hbackslash, Nat.not_lt.2 hprints]

theorem exists_scanText_part {part : List Char} (h : StringPart part) :
    ∃ p, ∀ rest, scanText (part.map some ++ rest) = (scanText rest).add p := by
  cases h with
  | bare h => exact ⟨_, scanText_bare h⟩
  | short h => exact ⟨_, scanText_short h⟩
  | long h => exact ⟨_, scanText_long h⟩

/-- The code of a character is no half of a pair. -/
theorem not_surrogate (c : Char) : isLeading c.toNat = false ∧ isTrailing c.toNat = false := by
  have hc : c.toNat < 0xD800 ∨ 0xDFFF < c.toNat ∧ c.toNat < 0x110000 := c.valid
  unfold isLeading isTrailing
  constructor
  · rw [Bool.and_eq_false_iff, decide_eq_false_iff_not, decide_eq_false_iff_not]
    omega
  · rw [Bool.and_eq_false_iff, decide_eq_false_iff_not, decide_eq_false_iff_not]
    omega

/-- The code of a character stands for it, whatever comes after. -/
theorem wantedChars_code (c : Char) (pieces : List Piece) :
    wantedChars (.ok ()) (.code c.toNat :: pieces) =
      (wantedChars (.ok ()) pieces).map (some c :: ·) := by
  obtain ⟨hleading, htrailing⟩ := not_surrogate c
  match pieces with
  | [] => simp [wantedChars, hleading, htrailing, Except.map]
  | .char d :: rest =>
    simp only [wantedChars, hleading, htrailing, Char.ofNat_toNat]
    cases wantedChars (.ok ()) rest <;> rfl
  | .code m :: rest => simp [wantedChars, hleading, htrailing]

/-- Two halves of a pair stand for one character. -/
theorem wantedChars_pair {c : Char} {leading trailing : Nat}
    (hc : c.toNat = 0x10000 + leading * 0x400 + trailing) (ht : trailing < 0x400)
    (pieces : List Piece) :
    wantedChars (.ok ()) (.code (0xD800 + leading) :: .code (0xDC00 + trailing) :: pieces) =
      (wantedChars (.ok ()) pieces).map (some c :: ·) := by
  have hlt : c.toNat < 0x110000 := Utf8.toNat_lt c
  have h₁ : isTrailing (0xD800 + leading) = false := by
    unfold isTrailing
    rw [Bool.and_eq_false_iff, decide_eq_false_iff_not, decide_eq_false_iff_not]
    omega
  have h₂ : isLeading (0xD800 + leading) = true := by
    unfold isLeading
    rw [Bool.and_eq_true, decide_eq_true_eq, decide_eq_true_eq]
    omega
  have h₃ : isTrailing (0xDC00 + trailing) = true := by
    unfold isTrailing
    rw [Bool.and_eq_true, decide_eq_true_eq, decide_eq_true_eq]
    omega
  have hcode : 0x10000 + (0xD800 + leading - 0xD800) * 0x400 + (0xDC00 + trailing - 0xDC00) =
      c.toNat := by omega
  rw [wantedChars, h₁, h₂, h₃, hcode, Char.ofNat_toNat]
  rfl

/-- A spelled character is scanned as pieces that mean the character, whatever comes after. -/
theorem exists_scanText_char {c : Char} {cs : List Char} (h : CharSpelling c cs) :
    ∃ ps, (∀ rest, scanText (cs.map some ++ rest) =
        ⟨ps ++ (scanText rest).pieces, (scanText rest).rest⟩) ∧
      ∀ more, wantedChars (.ok ()) (ps ++ more) =
        (wantedChars (.ok ()) more).map (some c :: ·) := by
  cases h with
  | bare h => exact ⟨[.char c], scanText_bare h, fun more => wantedChars.eq_2 ..⟩
  | short h => exact ⟨[.char c], scanText_short h, fun more => wantedChars.eq_2 ..⟩
  | long h => exact ⟨[.code c.toNat], scanText_long h, wantedChars_code c⟩
  | @pair _ leading trailing cs ds hc ht hcs hds =>
    refine ⟨[.code (0xD800 + leading), .code (0xDC00 + trailing)], fun rest => ?_,
      wantedChars_pair hc ht⟩
    rw [List.map_append, List.append_assoc, scanText_long hcs, scanText_long hds]
    rfl

/-- The characters of a text, one after the other. -/
theorem exists_scanText_chars {cs : List Char} {parts : List (List Char)}
    (h : List.Forall₂ CharSpelling cs parts) (rest : Input) :
    ∃ ps, scanText (parts.flatten.map some ++ some '"' :: rest) = ⟨ps, .ok rest⟩ ∧
      wantedChars (.ok ()) ps = .ok (cs.map some) := by
  induction h with
  | nil => exact ⟨[], rfl, rfl⟩
  | @cons c part cs parts hc _ ih =>
    obtain ⟨ps, hscan, hwanted⟩ := ih
    obtain ⟨ps', hscan', hwanted'⟩ := exists_scanText_char hc
    refine ⟨ps' ++ ps, ?_, ?_⟩
    · rw [List.flatten_cons, List.map_append, List.append_assoc, hscan', hscan]
    · rw [hwanted', hwanted]
      rfl

theorem exists_scanText_quoted {parts : List (List Char)} (h : ∀ part ∈ parts, StringPart part)
    (rest : Input) :
    ∃ ps, scanText (parts.flatten.map some ++ some '"' :: rest) = ⟨ps, .ok rest⟩ := by
  induction parts with
  | nil => exact ⟨[], rfl⟩
  | cons part parts ih =>
    obtain ⟨ps, hscan⟩ := ih fun p hp => h p (List.mem_cons_of_mem part hp)
    obtain ⟨p, hscan'⟩ := exists_scanText_part (h part List.mem_cons_self)
    refine ⟨p :: ps, ?_⟩
    rw [List.flatten_cons, List.map_append, List.append_assoc, hscan', hscan]
    rfl

/-- A string that is scanned to its end is one token. -/
theorem tokens_scanned {cs : List Char} {ps : List Piece} {rest : Input}
    (h : scanText (cs.map some ++ some '"' :: rest) = ⟨ps, .ok rest⟩) :
    tokens (('"' :: cs ++ ['"']).map some ++ rest) =
      .text (textOf (.ok ()) ps) (.ok ()) :: tokens rest := by
  have hinput : ('"' :: cs ++ ['"']).map some ++ rest =
      some '"' :: (cs.map some ++ some '"' :: rest) := by simp
  have hlong : longToken '"' (cs.map some ++ some '"' :: rest) =
      (.text (textOf (.ok ()) ps) (.ok ()), rest) := by
    rw [longToken, if_pos rfl, h]
    rfl
  rw [hinput, tokens, hlong]
  rfl

/-- **A string is one token, however its characters are spelled.** -/
theorem tokens_text {s : String} {cs : List Char} (h : Format.text s cs) (rest : Input) :
    tokens (cs.map some ++ rest) = .text (.ok s) (.ok ()) :: tokens rest := by
  obtain ⟨parts, hparts, rfl⟩ := h
  obtain ⟨ps, hscan, hwanted⟩ := exists_scanText_chars hparts rest
  have htext : textOf (.ok ()) ps = .ok s := by
    rw [textOf, hwanted]
    simp only [bind, Except.bind, Utf8.mapM_id_map_some, String.ofList_toList]
  rw [tokens_scanned hscan, htext]

theorem tokens_quoted {cs : List Char} (h : Quoted cs) (rest : Input) :
    ∃ wanted, tokens (cs.map some ++ rest) = .text wanted (.ok ()) :: tokens rest := by
  obtain ⟨parts, hparts, rfl⟩ := h
  obtain ⟨ps, hscan⟩ := exists_scanText_quoted hparts rest
  exact ⟨_, tokens_scanned hscan⟩

/-! ## Numbers -/

/-- What may come after a value: a blank, a comma, a closing bracket, or nothing. -/
def Stops (rest : Input) : Prop :=
  ∀ c ∈ rest.head?, c ∈ [' ', '\t', '\n', '\r', ',', ']', '}'].map some

/-- The next character passes no such test. -/
def Misses (p : Char → Prop) (rest : Input) : Prop := ∀ c, rest.head? = some (some c) → ¬ p c

theorem Stops.misses {rest : Input} (h : Stops rest) {p : Char → Prop}
    (hp : ∀ c ∈ [' ', '\t', '\n', '\r', ',', ']', '}'], ¬ p c) : Misses p rest := by
  intro c hc
  obtain ⟨d, hd, he⟩ := List.mem_map.1 (h (some c) hc)
  exact Option.some.inj he ▸ hp d hd

theorem takeWhile_digits {ds : List Char} {rest : Input} (h : ∀ c ∈ ds, isDigit c = true)
    (hrest : Misses (isDigit · = true) rest) :
    (ds.map some ++ rest).takeWhile (fun c => c.any isDigit) = ds.map some := by
  induction ds with
  | nil =>
    match rest with
    | [] => rfl
    | none :: _ => rfl
    | some c :: _ =>
      have hc : ¬ isDigit c = true := hrest c rfl
      simp [hc]
  | cons c ds ih =>
    have hc : isDigit c = true := h c List.mem_cons_self
    have hds := ih fun d hd => h d (List.mem_cons_of_mem c hd)
    simp [hc, hds]

/-- The value of each digit. -/
def values (ds : List Char) : List Nat := ds.map fun c => (digitValue? c).getD 0

theorem someDigits_digits {ds : List Char} {rest : Input} (h : Digits ds)
    (hrest : Misses (isDigit · = true) rest) :
    someDigits (ds.map some ++ rest) = .ok (values ds, rest) := by
  obtain ⟨hne, hall⟩ := h
  have hleading : leadingDigits (ds.map some ++ rest) = values ds := by
    unfold leadingDigits
    rw [takeWhile_digits hall hrest, List.map_map]
    rfl
  have hvalues : (values ds).isEmpty = false := by
    unfold values
    simp [hne]
  have hdrop : (ds.map some ++ rest).drop (values ds).length = rest := by
    unfold values
    simp
  rw [someDigits, hleading, hvalues, hdrop]
  rfl

theorem value_ne_zero {c : Char} (h : isDigit c = true) (hc : c ≠ '0') :
    (digitValue? c).getD 0 ≠ 0 := by
  rw [isDigit_iff] at h
  have hne : c.toNat ≠ 0x30 := fun he => hc (Char.toNat_inj.1 he)
  have hvalue : digitValue? c = some (c.toNat - 0x30) := if_pos ⟨h.1, h.2⟩
  rw [hvalue, Option.getD_some]
  omega

theorem wholePart_whole {ds : List Char} {rest : Input} (h : Whole ds)
    (hrest : Misses (isDigit · = true) rest) :
    wholePart (ds.map some ++ rest) = .ok (values ds, rest) := by
  have hdigits : Digits ds := by
    rcases h with rfl | ⟨h, -⟩
    · exact ⟨by decide, by simp [isDigit]⟩
    · exact h
  rw [wholePart, someDigits_digits hdigits hrest]
  rcases h with rfl | ⟨-, hzero⟩
  · rfl
  · obtain ⟨c, ds, rfl⟩ := List.exists_cons_of_ne_nil hdigits.1
    have hc : c ≠ '0' := fun he => hzero (he ▸ rfl)
    have hvalue := value_ne_zero (hdigits.2 c List.mem_cons_self) hc
    simp only [bind, Except.bind, values, List.map_cons]
    split
    · next he => exact absurd (List.cons.inj he).1 hvalue
    · rfl

theorem fractionPart_fraction {cs : List Char} {rest : Input} (h : Fraction cs)
    (hrest : Misses (fun c => isDigit c = true ∨ c = '.') rest) :
    ∃ ds, fractionPart (cs.map some ++ rest) = .ok (ds, rest) := by
  rcases h with rfl | ⟨ds, hds, rfl⟩
  · refine ⟨[], ?_⟩
    rw [List.map_nil, List.nil_append]
    unfold fractionPart
    split
    · next more => exact absurd (.inr rfl) (hrest '.' rfl)
    · rfl
  · refine ⟨values ds, ?_⟩
    exact someDigits_digits hds fun c hc hdigit => hrest c hc (.inl hdigit)

theorem exponentPart_exponent {cs : List Char} {rest : Input} (h : Exponent cs)
    (hrest : Misses (fun c => isDigit c = true ∨ c = 'e' ∨ c = 'E') rest) :
    ∃ negative ds, exponentPart (cs.map some ++ rest) = .ok (negative, ds, rest) := by
  have hdigits : ∀ {ds : List Char}, Digits ds →
      someDigits (ds.map some ++ rest) = .ok (values ds, rest) := fun hds =>
    someDigits_digits hds fun c hc hdigit => hrest c hc (.inl hdigit)
  rcases h with rfl | ⟨e, he, sign, hsign, ds, hds, rfl⟩
  · refine ⟨false, [], ?_⟩
    rw [List.map_nil, List.nil_append]
    rcases rest with - | ⟨- | c, more⟩
    · rfl
    · rfl
    · exact if_neg fun he => hrest c rfl (.inr he)
  · have he' : e = 'e' ∨ e = 'E' := by simpa using he
    simp only [List.mem_cons, List.not_mem_nil, or_false] at hsign
    rw [List.map_cons, List.cons_append, List.map_append, List.append_assoc]
    rcases hsign with rfl | rfl | rfl
    · obtain ⟨d, ds, rfl⟩ := List.exists_cons_of_ne_nil hds.1
      have hd : isDigit d = true := hds.2 d List.mem_cons_self
      refine ⟨false, values (d :: ds), ?_⟩
      rw [List.map_nil, List.nil_append, List.map_cons, List.cons_append]
      refine (if_pos he').trans ?_
      split
      · next he => cases he; cases hd
      · next he => cases he; cases hd
      · exact congrArg (Except.map _) (hdigits hds)
    · exact ⟨false, values ds, (if_pos he').trans (congrArg (Except.map _) (hdigits hds))⟩
    · exact ⟨true, values ds, (if_pos he').trans (congrArg (Except.map _) (hdigits hds))⟩

/-- After a part of a number that may be left out, its start. -/
theorem misses_append {p : Char → Prop} {cs : List Char} {rest : Input}
    (hcs : ∀ c, cs.head? = some c → ¬ p c) (hrest : Misses p rest) :
    Misses p (cs.map some ++ rest) := by
  intro c hc
  match cs with
  | [] => exact hrest c hc
  | d :: cs =>
    rw [List.map_cons, List.cons_append, List.head?_cons, Option.some.injEq, Option.some.injEq] at hc
    exact hc ▸ hcs d rfl

theorem head?_fraction {cs : List Char} (h : Fraction cs) {c : Char} (hc : cs.head? = some c) :
    c = '.' := by
  rcases h with rfl | ⟨ds, -, rfl⟩
  · cases hc
  · exact (Option.some.inj hc).symm

theorem head?_exponent {cs : List Char} (h : Exponent cs) {c : Char} (hc : cs.head? = some c) :
    c = 'e' ∨ c = 'E' := by
  rcases h with rfl | ⟨e, he, sign, -, ds, -, rfl⟩
  · cases hc
  · have he' : e = 'e' ∨ e = 'E' := by simpa using he
    exact Option.some.inj hc ▸ he'

theorem scanNumber_parts {whole fraction exponent : List Char} {rest : Input} (hw : Whole whole)
    (hf : Fraction fraction) (he : Exponent exponent) (hrest : Stops rest) :
    ∃ n, scanNumber ((whole ++ (fraction ++ exponent)).map some ++ rest) = .ok (n, rest) := by
  have hdigit : Misses (isDigit · = true) rest := hrest.misses (by simp [isDigit])
  have hdot : Misses (fun c => isDigit c = true ∨ c = '.') rest := hrest.misses (by simp [isDigit])
  have hexp : Misses (fun c => isDigit c = true ∨ c = 'e' ∨ c = 'E') rest :=
    hrest.misses (by simp [isDigit])
  have hafter : Misses (fun c => isDigit c = true ∨ c = '.') (exponent.map some ++ rest) := by
    refine misses_append (fun c hc => ?_) hdot
    rcases head?_exponent he hc with rfl | rfl
    all_goals decide
  have hafter' : Misses (isDigit · = true) (fraction.map some ++ (exponent.map some ++ rest)) := by
    refine misses_append (fun c hc => ?_) fun c hc hd => hafter c hc (.inl hd)
    rw [head?_fraction hf hc]
    decide
  obtain ⟨ds, hfraction⟩ := fractionPart_fraction hf hafter
  obtain ⟨negative, es, hexponent⟩ := exponentPart_exponent he hexp
  refine ⟨⟨values whole, ds, es, negative⟩, ?_⟩
  rw [List.map_append, List.map_append, List.append_assoc, List.append_assoc, scanNumber,
    wholePart_whole hw hafter']
  simp only [bind, Except.bind, hfraction, hexponent]
  rfl

theorem head?_whole {cs : List Char} (h : Whole cs) : ∃ c ds, cs = c :: ds ∧ isDigit c = true := by
  rcases h with rfl | ⟨⟨hne, hall⟩, -⟩
  · exact ⟨'0', [], rfl, rfl⟩
  · obtain ⟨c, ds, rfl⟩ := List.exists_cons_of_ne_nil hne
    exact ⟨c, ds, rfl, hall c List.mem_cons_self⟩

/-- A digit starts a number. -/
theorem tokens_digit {c : Char} (h : isDigit c = true) (rest : Input) :
    tokens (some c :: rest) =
      (numberToken (some c :: rest)).1 :: tokens (numberToken (some c :: rest)).2 := by
  have hchar : isBlank c = false ∧ punctuation? c = none ∧ c ∉ ['"', 'n', 't', 'f', '-'] := by
    have hlt : c.toNat < 0x80 := by
      rw [isDigit_iff] at h
      omega
    exact Utf8.of_toNat_lt (P := fun c => isDigit c = true →
      isBlank c = false ∧ punctuation? c = none ∧ c ∉ ['"', 'n', 't', 'f', '-']) (by decide) hlt h
  obtain ⟨hblank, hpunctuation, hother⟩ := hchar
  simp only [List.mem_cons, List.not_mem_nil, or_false, not_or] at hother
  have hlong : longToken c rest = numberToken (some c :: rest) := by
    unfold longToken
    simp [hother, h]
  rw [tokens, hblank, hpunctuation, hlong]
  rfl

theorem tokens_minus (rest : Input) :
    tokens (some '-' :: rest) = (numberToken rest).1 :: tokens (numberToken rest).2 := by
  rw [tokens]
  rfl

/-- **A number is one token**, up to what may come after it. -/
theorem tokens_numeric {cs : List Char} (h : Numeric cs) {rest : Input} (hrest : Stops rest) :
    ∃ wanted, tokens (cs.map some ++ rest) = .number wanted (.ok ()) :: tokens rest := by
  obtain ⟨sign, hsign, whole, fraction, exponent, hw, hf, he, rfl⟩ := h
  obtain ⟨n, hn⟩ := scanNumber_parts hw hf he hrest
  refine ⟨if n.inRange then .ok () else .error .malformed, ?_⟩
  have htoken : numberToken ((whole ++ (fraction ++ exponent)).map some ++ rest) =
      (.number (if n.inRange then .ok () else .error .malformed) (.ok ()), rest) := by
    rw [numberToken, hn]
  simp only [List.mem_cons, List.not_mem_nil, or_false] at hsign
  rcases hsign with rfl | rfl
  · obtain ⟨c, ds, rfl, hc⟩ := head?_whole hw
    simp only [List.nil_append, List.cons_append, List.map_cons] at htoken ⊢
    rw [tokens_digit hc, htoken]
  · rw [List.singleton_append, List.map_cons, List.cons_append, tokens_minus, htoken]

/-! ## Words -/

theorem tokens_word {cs : List Char}
    (h : cs ∈ [['n', 'u', 'l', 'l'], ['t', 'r', 'u', 'e'], ['f', 'a', 'l', 's', 'e']])
    (rest : Input) : tokens (cs.map some ++ rest) = .word (.ok ()) :: tokens rest := by
  simp only [List.mem_cons, List.not_mem_nil, or_false] at h
  rcases h with rfl | rfl | rfl
  all_goals
    simp only [List.map_cons, List.map_nil, List.cons_append, List.nil_append]
    rw [tokens]
    rfl

end Entitlement.Json
