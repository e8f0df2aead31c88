import Entitlement.Proofs.Text.Digits
import Entitlement.Proofs.Text.Utf8
import Entitlement.Text.Percent

/-!
# Percent coding read back

* `percentDecode_percentEncode` : the bytes of a text are read back from its percent coding;
* `isPlain` : the characters of a percent coding (`isPlain_of_mem`). None of them parts a query;
* `splitBytes_separator`, `splitBytes_of_forall_ne` : a stretch ends at the next separator, or last;
* `takeWhile_name`, `drop_name`, `formDecode_eq` : the name and the value of a parameter.
-/

namespace Entitlement.Text
open Utf8

/-! ## Bytes -/

/-- A character of the percent coding of a text. -/
def isPlain (c : Char) : Bool :=
  c.toNat < 0x80 && (isUnreserved (.ofNat c.toNat) || c.toNat == 0x25)

theorem isPlain_iff {c : Char} : isPlain c = true ↔
    c.toNat < 0x80 ∧ (isUnreserved (.ofNat c.toNat) = true ∨ c.toNat = 0x25) := by
  rw [isPlain, Bool.and_eq_true, Bool.or_eq_true, decide_eq_true_eq, beq_iff_eq]

theorem isUnreserved_lt {b : UInt8} (h : isUnreserved b = true) : b.toNat < 0x80 := by
  simp only [isUnreserved, Bool.or_eq_true, Bool.and_eq_true, decide_eq_true_eq, beq_iff_eq] at h
  omega

theorem toNat_ne_of_isUnreserved {b : UInt8} (h : isUnreserved b = true) : b.toNat ≠ 0x25 := by
  intro hb
  rw [← UInt8.ofNat_toNat (x := b), hb] at h
  cases h

theorem toNat_charOfNat : ∀ n < 0x80, (Char.ofNat n).toNat = n := by decide

theorem isPlain_upperDigit : ∀ n < 16, isPlain (upperDigit n) = true := by decide

theorem byteDigit?_upperDigit : ∀ n < 16, byteDigit? (.ofNat (upperDigit n).toNat) = some n := by
  decide

theorem isPlain_of_mem_percentByte {b : UInt8} {c : Char} (h : c ∈ percentByte b) :
    isPlain c = true := by
  have hb := b.toNat_lt
  unfold percentByte at h
  split at h
  · next hkept =>
    have hlow := isUnreserved_lt hkept
    rw [List.mem_singleton.1 h, isPlain_iff, toNat_charOfNat _ hlow, UInt8.ofNat_toNat]
    exact ⟨hlow, .inl hkept⟩
  · simp only [List.mem_cons, List.not_mem_nil, or_false] at h
    rcases h with rfl | rfl | rfl
    · decide
    · exact isPlain_upperDigit _ (by omega)
    · exact isPlain_upperDigit _ (by omega)

/-! ## Percent coding -/

theorem toList_percentEncode (s : String) :
    (percentEncode s).toList = (encode s).flatMap percentByte := String.toList_ofList

theorem isPlain_of_mem {s : String} {c : Char} (h : c ∈ (percentEncode s).toList) :
    isPlain c = true := by
  rw [toList_percentEncode, List.mem_flatMap] at h
  obtain ⟨b, -, hb⟩ := h
  exact isPlain_of_mem_percentByte hb

theorem encode_percentEncode (s : String) : encode (percentEncode s) =
    (percentEncode s).toList.map fun c => .ofNat c.toNat :=
  flatMap_encodeChar_of_lt fun _ hc => (isPlain_iff.1 (isPlain_of_mem hc)).1

theorem percentDecode_cons_of_ne {b : UInt8} (h : b.toNat ≠ 0x25) (rest : List UInt8) :
    percentDecode (b :: rest) = b :: percentDecode rest := by
  match rest with
  | [] => rfl
  | [_] => rfl
  | _ :: _ :: _ => rw [percentDecode, if_neg h]

/-- Bytes without a percent sign stand for themselves. -/
theorem percentDecode_of_forall_ne {bytes : List UInt8} (h : ∀ b ∈ bytes, b.toNat ≠ 0x25) :
    percentDecode bytes = bytes := by
  induction bytes with
  | nil => rfl
  | cons b bytes ih =>
    rw [percentDecode_cons_of_ne (h b List.mem_cons_self),
      ih fun c hc => h c (List.mem_cons_of_mem b hc)]

/-- A byte is read from its coding, whatever follows it. -/
theorem percentDecode_percentByte (b : UInt8) (rest : List UInt8) :
    percentDecode ((percentByte b).map (fun c => .ofNat c.toNat) ++ rest) =
      b :: percentDecode rest := by
  have hb := b.toNat_lt
  unfold percentByte
  split
  · next hkept =>
    rw [List.map_singleton, toNat_charOfNat _ (isUnreserved_lt hkept), UInt8.ofNat_toNat]
    exact percentDecode_cons_of_ne (toNat_ne_of_isUnreserved hkept) rest
  · have hsum : b.toNat / 16 * 16 + b.toNat % 16 = b.toNat := by omega
    simp only [List.map_cons, List.map_nil, List.cons_append, List.nil_append]
    rw [percentDecode, if_pos (by decide), byteDigit?_upperDigit _ (by omega),
      byteDigit?_upperDigit _ (by omega)]
    dsimp only
    rw [hsum, UInt8.ofNat_toNat]

theorem percentDecode_flatMap_percentByte (bytes : List UInt8) :
    percentDecode ((bytes.flatMap percentByte).map fun c => .ofNat c.toNat) = bytes := by
  induction bytes with
  | nil => rfl
  | cons b bytes ih => rw [List.flatMap_cons, List.map_append, percentDecode_percentByte, ih]

/-- **The bytes of a text are read back from its percent coding.** -/
theorem percentDecode_percentEncode (s : String) :
    percentDecode (encode (percentEncode s)) = encode s := by
  rw [encode_percentEncode, toList_percentEncode, percentDecode_flatMap_percentByte]

theorem flatMap_percentByte_of_unreserved {cs : List Char}
    (h : ∀ c ∈ cs, c.toNat < 0x80 ∧ isUnreserved (.ofNat c.toNat) = true) :
    (cs.map fun c => UInt8.ofNat c.toNat).flatMap percentByte = cs := by
  induction cs with
  | nil => rfl
  | cons c cs ih =>
    obtain ⟨hlow, hkept⟩ := h c List.mem_cons_self
    rw [List.map_cons, List.flatMap_cons, percentByte, if_pos hkept, toNat_ofNat_of_lt (by omega),
      Char.ofNat_toNat, ih fun d hd => h d (List.mem_cons_of_mem c hd)]
    rfl

/-- A text of unreserved characters is its own coding. -/
theorem percentEncode_of_unreserved {s : String}
    (h : ∀ c ∈ s.toList, c.toNat < 0x80 ∧ isUnreserved (.ofNat c.toNat) = true) :
    percentEncode s = s := by
  rw [percentEncode, encode, flatMap_encodeChar_of_lt fun c hc => (h c hc).1,
    flatMap_percentByte_of_unreserved h, String.ofList_toList]

/-! ## Separators -/

/-- What a plain character is not. -/
theorem toNat_ne_of_isPlain {c : Char} (h : isPlain c = true) :
    c.toNat ≠ 0x26 ∧ c.toNat ≠ 0x2B ∧ c.toNat ≠ 0x3D := by
  have hall : ∀ n < 0x80, isUnreserved (.ofNat n) = true ∨ n = 0x25 →
      n ≠ 0x26 ∧ n ≠ 0x2B ∧ n ≠ 0x3D := by decide
  exact hall _ (isPlain_iff.1 h).1 (isPlain_iff.1 h).2

theorem toNat_ne_of_mem_encode {s : String} {b : UInt8} (h : b ∈ encode (percentEncode s)) :
    b.toNat ≠ 0x26 ∧ b.toNat ≠ 0x2B ∧ b.toNat ≠ 0x3D := by
  rw [encode_percentEncode, List.mem_map] at h
  obtain ⟨c, hc, rfl⟩ := h
  have hplain := isPlain_of_mem hc
  have hlow := (isPlain_iff.1 hplain).1
  rw [toNat_ofNat_of_lt (by omega)]
  exact toNat_ne_of_isPlain hplain

theorem splitBytes_ne_nil (sep : Nat) (bytes : List UInt8) : splitBytes sep bytes ≠ [] := by
  cases bytes with
  | nil => exact List.cons_ne_nil _ _
  | cons b bytes =>
    rw [splitBytes]
    split
    · exact List.cons_ne_nil _ _
    · split
      · exact List.cons_ne_nil _ _
      · exact List.cons_ne_nil _ _

theorem splitBytes_of_forall_ne {sep : Nat} {bytes : List UInt8}
    (h : ∀ b ∈ bytes, b.toNat ≠ sep) : splitBytes sep bytes = [bytes] := by
  induction bytes with
  | nil => rfl
  | cons b bytes ih =>
    rw [splitBytes, if_neg (h b List.mem_cons_self),
      ih fun c hc => h c (List.mem_cons_of_mem b hc)]

/-- A separator parts what stands before it from what follows. -/
theorem splitBytes_separator {sep : Nat} (bytes : List UInt8) {b : UInt8} (hb : b.toNat = sep)
    (rest : List UInt8) :
    splitBytes sep (bytes ++ b :: rest) = splitBytes sep bytes ++ splitBytes sep rest := by
  induction bytes with
  | nil => exact if_pos hb
  | cons c bytes ih =>
    rw [List.cons_append, splitBytes, splitBytes, ih]
    split
    · rfl
    · cases hparts : splitBytes sep bytes with
      | nil => exact absurd hparts (splitBytes_ne_nil sep bytes)
      | cons part parts => rfl

theorem splitBytes_append {sep : Nat} {bytes : List UInt8} (h : ∀ b ∈ bytes, b.toNat ≠ sep)
    {b : UInt8} (hb : b.toNat = sep) (rest : List UInt8) :
    splitBytes sep (bytes ++ b :: rest) = bytes :: splitBytes sep rest := by
  rw [splitBytes_separator bytes hb, splitBytes_of_forall_ne h, List.singleton_append]

/-! ## Parameters -/

/-- Only a plus sign is more than its percent coding. -/
theorem formDecode_eq {bytes : List UInt8} (h : ∀ b ∈ bytes, b.toNat ≠ 0x2B) :
    formDecode bytes = decodeLossy (percentDecode bytes) := by
  have hplus : bytes.map (fun b => if b.toNat = 0x2B then 0x20 else b) = bytes :=
    (List.map_congr_left fun b hb => if_neg (h b hb)).trans (List.map_id _)
  rw [formDecode, hplus]

/-- A name ends at the first equals sign. -/
theorem takeWhile_name {name : List UInt8} (h : ∀ b ∈ name, b.toNat ≠ 0x3D)
    (value : List UInt8) : (name ++ 0x3D :: value).takeWhile (·.toNat ≠ 0x3D) = name := by
  rw [List.takeWhile_append_of_pos fun b hb => decide_eq_true (h b hb)]
  exact List.append_nil name

theorem drop_name {name : List UInt8} (h : ∀ b ∈ name, b.toNat ≠ 0x3D) (value : List UInt8) :
    ((name ++ 0x3D :: value).dropWhile (·.toNat ≠ 0x3D)).drop 1 = value := by
  rw [List.dropWhile_append_of_pos fun b hb => decide_eq_true (h b hb),
    List.dropWhile_cons_of_neg (by decide), List.drop_one, List.tail_cons]

theorem formPair_append {name : List UInt8} (h : ∀ b ∈ name, b.toNat ≠ 0x3D)
    (value : List UInt8) :
    formPair (name ++ 0x3D :: value) = (formDecode name, formDecode value) := by
  rw [formPair, takeWhile_name h, drop_name h]

end Entitlement.Text
