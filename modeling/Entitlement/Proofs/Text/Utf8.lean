import Entitlement.Proofs.Order
import Entitlement.Text.Utf8

/-!
# Texts and their bytes

* `Utf8.decode_encode`, `decodeLossy_encode`, `decodeText?_encode` : a text is read back from its
  bytes;
* `Utf8.encodeChar_lt` : of two characters the lesser has the lesser bytes, whatever follows them;
* `Utf8.encode_lt_iff` : texts compare as their bytes do;
* `Ascending` : names first, then what tells equal names apart, both by their bytes
  (`ascending_iff`, and strictly `before_iff`).
-/

namespace Entitlement

namespace Text.Utf8

theorem encode_append (s t : String) : encode (s ++ t) = encode s ++ encode t := by
  rw [encode, String.toList_append, List.flatMap_append]
  rfl

theorem encodeChar_of_lt {c : Char} (h : c.toNat < 0x80) : encodeChar c = [.ofNat c.toNat] :=
  if_pos h

/-- What holds of the first 128 characters holds of every character of seven bits. -/
theorem of_toNat_lt {P : Char → Prop} (hall : ∀ n < 0x80, P (Char.ofNat n)) {c : Char}
    (h : c.toNat < 0x80) : P c := by
  have hchar := hall c.toNat h
  rwa [Char.ofNat_toNat] at hchar

/-- Each character of a fixed text can be tried. -/
theorem forall_mem_of_all {P : Char → Prop} [DecidablePred P] {cs : List Char}
    (h : cs.all (fun c => decide (P c)) = true) : ∀ c ∈ cs, P c :=
  fun c hc => of_decide_eq_true (List.all_eq_true.1 h c hc)

/-- A character of seven bits is its own byte. -/
theorem flatMap_encodeChar_of_lt {cs : List Char} (h : ∀ c ∈ cs, c.toNat < 0x80) :
    cs.flatMap encodeChar = cs.map fun c => .ofNat c.toNat := by
  induction cs with
  | nil => rfl
  | cons c cs ih =>
    rw [List.flatMap_cons, List.map_cons, encodeChar_of_lt (h c List.mem_cons_self),
      ih fun d hd => h d (List.mem_cons_of_mem c hd)]
    rfl

/-! ## Back from bytes -/

/-- The bound as a numeral. -/
theorem toNat_ofNat_of_lt {n : Nat} (h : n < 256) : (UInt8.ofNat n).toNat = n :=
  UInt8.toNat_ofNat_of_lt' h

theorem isTail_ofNat {n : Nat} (h : n < 0x40) : isTail (.ofNat (0x80 + n)) = true := by
  rw [isTail, toNat_ofNat_of_lt (by omega), Bool.and_eq_true, decide_eq_true_eq, decide_eq_true_eq]
  omega

theorem tailBits_ofNat {n : Nat} (h : n < 0x40) : tailBits (.ofNat (0x80 + n)) = n := by
  rw [tailBits, toNat_ofNat_of_lt (by omega)]
  omega

/-- A second byte after each lead byte: neither too long a form, nor a surrogate, nor too great. -/
theorem isSecond_ofNat {lead n : Nat} (hlead : lead < 256) (h : n < 0x40)
    (hlow : lead = 0xE0 → 0x20 ≤ n) (hsurrogate : lead = 0xED → n < 0x20)
    (hfour : lead = 0xF0 → 0x10 ≤ n) (hlast : lead = 0xF4 → n < 0x10) :
    isSecond (.ofNat lead) (.ofNat (0x80 + n)) = true := by
  rw [isSecond, toNat_ofNat_of_lt hlead, toNat_ofNat_of_lt (by omega), Bool.and_eq_true,
    decide_eq_true_eq, decide_eq_true_eq]
  unfold secondRange
  repeat' split
  all_goals
    dsimp only
    omega

/-- The low bits of a number and a multiple of them. -/
theorem low_lt (n : Nat) : n % 0x40 < 0x40 := Nat.mod_lt n (by decide)

/-- Each of the bytes of a character of more than seven bits has its high bit set. -/
theorem le_toNat_of_mem_encodeChar {c : Char} (h : 0x80 ≤ c.toNat) {b : UInt8}
    (hb : b ∈ encodeChar c) : 0x80 ≤ b.toNat := by
  have hvalid : c.toNat < 0xD800 ∨ 0xDFFF < c.toNat ∧ c.toNat < 0x110000 := c.valid
  have hbyte (n : Nat) (h₀ : 0x80 ≤ n) (h₁ : n < 256) : 0x80 ≤ (UInt8.ofNat n).toNat := by
    rwa [toNat_ofNat_of_lt h₁]
  unfold encodeChar at hb
  generalize c.toNat = n at *
  dsimp only at hb
  rw [if_neg (by omega)] at hb
  split at hb
  · simp only [List.mem_cons, List.not_mem_nil, or_false] at hb
    rcases hb with rfl | rfl
    all_goals exact hbyte _ (by omega) (by omega)
  · split at hb
    · simp only [List.mem_cons, List.not_mem_nil, or_false] at hb
      rcases hb with rfl | rfl | rfl
      all_goals exact hbyte _ (by omega) (by omega)
    · simp only [List.mem_cons, List.not_mem_nil, or_false] at hb
      rcases hb with rfl | rfl | rfl | rfl
      all_goals exact hbyte _ (by omega) (by omega)

/-- A character of one byte. The lead byte tells how many there are, and each number of bytes has a
lemma of its own. -/
theorem first_one {n : Nat} (h : n < 0x80) (rest : List UInt8) :
    first (.ofNat n) rest = (some (Char.ofNat n), 0) := by
  rw [first.eq_def, toNat_ofNat_of_lt (by omega), if_pos h]

theorem first_two {n : Nat} (h₀ : 0x80 ≤ n) (h₁ : n < 0x800) (rest : List UInt8) :
    first (.ofNat (0xC0 + n / 0x40)) (.ofNat (0x80 + n % 0x40) :: rest) =
      (some (Char.ofNat n), 1) := by
  have hn : (0xC0 + n / 0x40) % 0x20 * 0x40 + n % 0x40 = n := by omega
  rw [first.eq_def, toNat_ofNat_of_lt (by omega), if_neg (by omega), if_pos (by omega)]
  simp only [isTail_ofNat (low_lt n), tailBits_ofNat (low_lt n), hn, if_true]

theorem first_three {n : Nat} (h₀ : 0x800 ≤ n) (h₁ : n < 0x10000) (hvalid : n < 0xD800 ∨ 0xDFFF < n)
    (rest : List UInt8) :
    first (.ofNat (0xE0 + n / 0x1000))
        (.ofNat (0x80 + n / 0x40 % 0x40) :: .ofNat (0x80 + n % 0x40) :: rest) =
      (some (Char.ofNat n), 2) := by
  have hsecond : isSecond (.ofNat (0xE0 + n / 0x1000)) (.ofNat (0x80 + n / 0x40 % 0x40)) = true :=
    isSecond_ofNat (by omega) (low_lt _) (by omega) (by omega) (by omega) (by omega)
  have hn : (0xE0 + n / 0x1000) % 0x10 * 0x1000 + n / 0x40 % 0x40 * 0x40 + n % 0x40 = n := by omega
  rw [first.eq_def, toNat_ofNat_of_lt (by omega), if_neg (by omega), if_neg (by omega),
    if_pos (by omega)]
  simp only [hsecond, isTail_ofNat (low_lt _), tailBits_ofNat (low_lt _), hn, if_true]

theorem first_four {n : Nat} (h₀ : 0x10000 ≤ n) (h₁ : n < 0x110000) (rest : List UInt8) :
    first (.ofNat (0xF0 + n / 0x40000)) (.ofNat (0x80 + n / 0x1000 % 0x40) ::
        .ofNat (0x80 + n / 0x40 % 0x40) :: .ofNat (0x80 + n % 0x40) :: rest) =
      (some (Char.ofNat n), 3) := by
  have hsecond : isSecond (.ofNat (0xF0 + n / 0x40000)) (.ofNat (0x80 + n / 0x1000 % 0x40)) =
      true :=
    isSecond_ofNat (by omega) (low_lt _) (by omega) (by omega) (by omega) (by omega)
  have hn : (0xF0 + n / 0x40000) % 8 * 0x40000 + n / 0x1000 % 0x40 * 0x1000 +
      n / 0x40 % 0x40 * 0x40 + n % 0x40 = n := by omega
  rw [first.eq_def, toNat_ofNat_of_lt (by omega), if_neg (by omega), if_neg (by omega),
    if_neg (by omega), if_pos (by omega)]
  simp only [hsecond, isTail_ofNat (low_lt _), tailBits_ofNat (low_lt _), hn, if_true]

theorem decode_cons {lead : UInt8} {rest : List UInt8} {c : Char} {k : Nat}
    (h : first lead rest = (some c, k)) :
    decode (lead :: rest) = some c :: decode (rest.drop k) := by
  rw [decode, h]

/-- The bytes of a character are read as that character, whatever follows them. -/
theorem decode_encodeChar (c : Char) (rest : List UInt8) :
    decode (encodeChar c ++ rest) = some c :: decode rest := by
  have hvalid : c.toNat < 0xD800 ∨ 0xDFFF < c.toNat ∧ c.toNat < 0x110000 := c.valid
  have hchar : Char.ofNat c.toNat = c := Char.ofNat_toNat c
  unfold encodeChar
  generalize c.toNat = n at *
  subst hchar
  dsimp only
  split
  · next h => exact decode_cons (first_one h rest)
  · split
    · next h₀ h₁ => exact decode_cons (first_two (by omega) h₁ rest)
    · split
      · next h₀ h₁ => exact decode_cons (first_three (by omega) h₁ (by omega) rest)
      · exact decode_cons (first_four (by omega) (by omega) rest)

theorem decode_flatMap_encodeChar (cs : List Char) (rest : List UInt8) :
    decode (cs.flatMap encodeChar ++ rest) = cs.map some ++ decode rest := by
  induction cs with
  | nil => rfl
  | cons c cs ih =>
    rw [List.flatMap_cons, List.append_assoc, decode_encodeChar, ih]
    rfl

theorem decode_nil : decode [] = [] := by rw [decode]

/-- **A text is read back from its bytes.** -/
theorem decode_encode (s : String) : decode (encode s) = s.toList.map some := by
  have h := decode_flatMap_encodeChar s.toList []
  rwa [List.append_nil, decode_nil, List.append_nil] at h

theorem decodeLossy_encode (s : String) : decodeLossy (encode s) = s := by
  rw [decodeLossy, decode_encode, List.map_map]
  exact (congrArg String.ofList (List.map_id _)).trans String.ofList_toList

theorem mapM_id_map_some (cs : List Char) : (cs.map some).mapM id = some cs := by
  rw [List.mapM_map]
  exact (List.mapM_pure (m := Option) (f := id)).trans (congrArg some (List.map_id cs))

theorem decodeText?_encode (s : String) : decodeText? (encode s) = some s := by
  rw [decodeText?, decode_encode, mapM_id_map_some, Option.map_some, String.ofList_toList]

/-! ## Order -/

theorem cons_lt_cons {m n : Nat} {x y : List UInt8} (hm : m < 256) (hn : n < 256) (h : m ≤ n)
    (heq : m = n → x < y) : UInt8.ofNat m :: x < UInt8.ofNat n :: y := by
  rw [List.cons_lt_cons_iff, UInt8.lt_iff_toNat_lt, ← UInt8.toNat_inj,
    UInt8.toNat_ofNat_of_lt' hm, UInt8.toNat_ofNat_of_lt' hn]
  exact (Nat.lt_or_eq_of_le h).imp_right fun he => ⟨he, heq he⟩

theorem toNat_lt (c : Char) : c.toNat < 0x110000 :=
  c.valid.elim (fun h => Nat.lt_trans h (by decide)) And.right

/-- One byte after the other is no greater, and the characters would be equal if all were equal. A
character of more bytes has the greater first byte. -/
theorem encodeChar_lt {c d : Char} (h : c < d) (x y : List UInt8) :
    encodeChar c ++ x < encodeChar d ++ y := by
  have hlt : c.toNat < d.toNat := h
  have hd : d.toNat < 0x110000 := toNat_lt d
  unfold encodeChar
  generalize c.toNat = m at *
  generalize d.toNat = n at *
  dsimp only
  repeat' split
  all_goals
    repeat first | omega | refine cons_lt_cons (by omega) (by omega) (by omega) fun he => ?_

theorem exists_encodeChar_eq_cons (c : Char) : ∃ b bytes, encodeChar c = b :: bytes := by
  unfold encodeChar
  dsimp only
  repeat' split
  all_goals exact ⟨_, _, rfl⟩

theorem flatMap_encodeChar_lt {l l' : List Char} (h : List.Lex (· < ·) l l') :
    l.flatMap encodeChar < l'.flatMap encodeChar := by
  induction h with
  | @nil c _ =>
    obtain ⟨b, bytes, hb⟩ := exists_encodeChar_eq_cons c
    rw [List.flatMap_cons, hb]
    exact List.nil_lt_cons _ _
  | cons _ ih => exact List.append_left_lt ih
  | rel h => exact encodeChar_lt h _ _

/-- **Texts compare as their bytes do.** -/
theorem encode_lt_iff {a b : String} : encode a < encode b ↔ a < b := by
  refine ⟨fun h => ?_, flatMap_encodeChar_lt⟩
  rcases text_trichotomy a b with rfl | hab | hba
  · exact absurd h (List.lt_irrefl _)
  · exact hab
  · exact absurd (List.lt_trans h (flatMap_encodeChar_lt hba)) (List.lt_irrefl _)

end Text.Utf8

open Text

/-- What strictly comes before does so by the bytes. -/
theorem before_iff {a b : String × String} : Before a b ↔
    Utf8.encode a.1 < Utf8.encode b.1 ∨ a.1 = b.1 ∧ Utf8.encode a.2 < Utf8.encode b.2 := by
  rw [Before, Utf8.encode_lt_iff, Utf8.encode_lt_iff]

def Ascending (a b : String × String) : Prop :=
  Utf8.encode a.1 < Utf8.encode b.1 ∨ a.1 = b.1 ∧ Utf8.encode a.2 ≤ Utf8.encode b.2

theorem ascending_iff {a b : String × String} : Ascending a b ↔ ¬ Before b a := by
  unfold Ascending Before
  rw [← List.not_lt, Utf8.encode_lt_iff, Utf8.encode_lt_iff, not_or, not_and]
  rcases text_trichotomy a.1 b.1 with he | h | h
  · simp [he]
  · have hne : b.1 ≠ a.1 := fun he => String.lt_irrefl _ (he ▸ h)
    exact iff_of_true (.inl h)
      ⟨fun h' => String.lt_irrefl _ (String.lt_trans h h'), fun he => absurd he hne⟩
  · have hne : a.1 ≠ b.1 := fun he => String.lt_irrefl _ (he ▸ h)
    refine iff_of_false ?_ fun hn => hn.1 h
    rintro (h' | ⟨he, -⟩)
    · exact String.lt_irrefl _ (String.lt_trans h h')
    · exact hne he

end Entitlement
