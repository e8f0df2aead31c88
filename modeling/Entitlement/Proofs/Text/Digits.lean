import Entitlement.Text.Digits
import Mathlib.Algebra.Group.Nat.Defs
import Mathlib.Data.List.Induction

/-!
# Numerals read back

* `isDigit_digitsIn`, `decimalValue_digitsIn`, `length_digitsIn_le` : the decimal digits of a number
  are digits, stand for it, and are no more than it needs;
* `Spells` : a text of digits that stands for a number; `spells_decimal`, `spells_padded` : the
  ways to write one; `Spells.natural?_eq`, `integer?_eq` : how one is read;
  `natural?_eq_some_iff`, `integer?_eq_some_iff` : and nothing else is;
* `decimalValue_lt` : the number of some digits is bounded by how many they are.
-/

namespace Entitlement.Text

theorem digitValue?_digit : ∀ n < 16, digitValue? (digit n) = some n := by decide

theorem isDigit_iff {c : Char} : isDigit c = true ↔ 0x30 ≤ c.toNat ∧ c.toNat ≤ 0x39 := by
  rw [isDigit, Bool.and_eq_true, decide_eq_true_eq, decide_eq_true_eq]
  exact Iff.rfl

theorem isDigit_digit : ∀ n < 10, isDigit (digit n) = true := by decide

theorem digitsIn_eq (n : Nat) : digitsIn 10 n =
    (if n < 10 then [] else digitsIn 10 (n / 10)) ++ [digit (n % 10)] := by
  rw [digitsIn]
  split
  · next h =>
    have hn : n < 10 := h.resolve_right (by decide)
    rw [if_pos hn, Nat.mod_eq_of_lt hn]
    rfl
  · next h => rw [if_neg fun hn => h (.inl hn)]

theorem digitsIn_ne_nil (n : Nat) : digitsIn 10 n ≠ [] := by
  rw [digitsIn_eq]
  exact List.append_ne_nil_of_right_ne_nil _ (List.cons_ne_nil _ _)

theorem isDigit_digitsIn (n : Nat) : ∀ c ∈ digitsIn 10 n, isDigit c = true := by
  induction n using Nat.strongRecOn with
  | ind n ih =>
    intro c hc
    rw [digitsIn_eq, List.mem_append, List.mem_singleton] at hc
    rcases hc with hc | rfl
    · split at hc
      · cases hc
      · exact ih (n / 10) (by omega) c hc
    · exact isDigit_digit _ (Nat.mod_lt n (by decide))

theorem decimalValue_concat (cs : List Char) (c : Char) :
    decimalValue (cs ++ [c]) = decimalValue cs * 10 + (digitValue? c).getD 0 := by
  simp only [decimalValue, valueIn, List.map_append, List.foldl_append, List.map_cons, List.map_nil,
    List.foldl_cons, List.foldl_nil]

theorem decimalValue_digitsIn (n : Nat) : decimalValue (digitsIn 10 n) = n := by
  induction n using Nat.strongRecOn with
  | ind n ih =>
    have hlast : digitValue? (digit (n % 10)) = some (n % 10) := digitValue?_digit _ (by omega)
    rw [digitsIn_eq, decimalValue_concat, hlast, Option.getD_some]
    split
    · have hnil : decimalValue [] = 0 := rfl
      omega
    · rw [ih (n / 10) (by omega)]
      omega

theorem length_digitsIn_le {n k : Nat} (hk : 1 ≤ k) (h : n < 10 ^ k) :
    (digitsIn 10 n).length ≤ k := by
  induction k generalizing n with
  | zero => omega
  | succ k ih =>
    rw [digitsIn_eq, List.length_append, List.length_singleton]
    split
    · exact Nat.le_add_left 1 k
    · have hk : 1 ≤ k := by
        rcases k with _ | k
        · omega
        · omega
      have hshorter : n / 10 < 10 ^ k := by
        rw [Nat.pow_succ] at h
        omega
      exact Nat.add_le_add_right (ih hk hshorter) 1

/-! ## Numerals -/

/-- A text of digits that stands for a number. -/
structure Spells (cs : List Char) (n : Nat) : Prop where
  notEmpty : cs ≠ []
  digits : ∀ c ∈ cs, isDigit c = true
  value : decimalValue cs = n

theorem spells_decimal (n : Nat) : Spells (decimal n).toList n := by
  rw [decimal, String.toList_ofList]
  exact ⟨digitsIn_ne_nil n, isDigit_digitsIn n, decimalValue_digitsIn n⟩

theorem decimalValue_zeros (k : Nat) (cs : List Char) :
    decimalValue (List.replicate k '0' ++ cs) = decimalValue cs := by
  induction k with
  | zero => rfl
  | succ k ih => exact ih

theorem spells_padded (width n : Nat) : Spells (padded width n).toList n := by
  rw [padded, String.toList_ofList]
  refine ⟨List.append_ne_nil_of_right_ne_nil _ (digitsIn_ne_nil n), fun c hc => ?_, ?_⟩
  · rcases List.mem_append.1 hc with hc | hc
    · rw [List.eq_of_mem_replicate hc]
      decide
    · exact isDigit_digitsIn n c hc
  · rw [decimalValue_zeros, decimalValue_digitsIn]

theorem length_padded {width n : Nat} (hwidth : 1 ≤ width) (h : n < 10 ^ width) :
    (padded width n).toList.length = width := by
  have := length_digitsIn_le hwidth h
  rw [padded, String.toList_ofList, List.length_append, List.length_replicate]
  omega

theorem Spells.natural?_eq {cs : List Char} {n : Nat} (h : Spells cs n) :
    natural? cs = some n := by
  rw [natural?, if_pos ⟨h.notEmpty, List.all_eq_true.2 h.digits⟩, h.value]

/-- Digits have no sign. -/
theorem Spells.append_ne_cons {cs : List Char} {n : Nat} (h : Spells cs n) {sign : Char}
    (hsign : isDigit sign = false) (more rest : List Char) : cs ++ more ≠ sign :: rest := by
  obtain ⟨c, digits, rfl⟩ := List.exists_cons_of_ne_nil h.notEmpty
  intro he
  have hc := h.digits c List.mem_cons_self
  rw [(List.cons.inj he).1, hsign] at hc
  cases hc

theorem Spells.integer?_eq {cs : List Char} {n : Nat} (h : Spells cs n) :
    integer? cs = some (n : Int) := by
  have hunsigned {sign : Char} (hsign : isDigit sign = false) (rest : List Char) :
      cs ≠ sign :: rest := by
    rw [← List.append_nil cs]
    exact h.append_ne_cons hsign [] rest
  unfold integer?
  split
  · exact (hunsigned (by decide) _ rfl).elim
  · exact (hunsigned (by decide) _ rfl).elim
  · rw [h.natural?_eq]
    rfl

theorem natural?_eq_some_iff {cs : List Char} {n : Nat} :
    natural? cs = some n ↔ Spells cs n := by
  constructor
  · intro h
    unfold natural? at h
    split at h
    · next hcs => exact ⟨hcs.1, List.all_eq_true.1 hcs.2, Option.some.inj h⟩
    · cases h
  · intro h
    exact h.natural?_eq

/-- A number from one on has no sign, or a plus sign. -/
theorem integer?_eq_some_iff {cs : List Char} {n : Nat} (hn : 0 < n) :
    integer? cs = some (n : Int) ↔
      ∃ digits, (cs = digits ∨ cs = '+' :: digits) ∧ Spells digits n := by
  have hread {digits : List Char} (h : (natural? digits).map Int.ofNat = some (n : Int)) :
      Spells digits n := by
    obtain ⟨k, hk, he⟩ := Option.map_eq_some_iff.1 h
    obtain rfl := Int.ofNat.inj he
    exact natural?_eq_some_iff.1 hk
  constructor
  · intro h
    unfold integer? at h
    split at h
    · next digits => exact ⟨digits, .inr rfl, hread h⟩
    · next digits =>
      obtain ⟨k, hk, he⟩ := Option.map_eq_some_iff.1 h
      obtain ⟨m, -, hm⟩ := Option.bind_eq_some_iff.1 hk
      have hneg : -(m : Int) = n := Option.some.inj hm ▸ he
      omega
    · exact ⟨cs, .inl rfl, hread h⟩
  · intro h
    obtain ⟨digits, hcs, hdigits⟩ := h
    rcases hcs with rfl | rfl
    · exact hdigits.integer?_eq
    · rw [integer?, hdigits.natural?_eq]
      rfl

theorem digitValue?_le {c : Char} (h : isDigit c = true) : (digitValue? c).getD 0 ≤ 9 := by
  have hrange := isDigit_iff.1 h
  have hdigit : '0' ≤ c ∧ c ≤ '9' := hrange
  rw [digitValue?, if_pos hdigit, Option.getD_some]
  omega

/-- Digits stand for a number of no more places. -/
theorem decimalValue_lt {cs : List Char} (h : ∀ c ∈ cs, isDigit c = true) :
    decimalValue cs < 10 ^ cs.length := by
  induction cs using List.reverseRecOn with
  | nil => decide
  | append_singleton cs c ih =>
    have hcs := ih fun d hd => h d (List.mem_append_left _ hd)
    have hc := digitValue?_le (h c (List.mem_append_right _ (List.mem_singleton_self c)))
    rw [decimalValue_concat, List.length_append, List.length_singleton, Nat.pow_succ]
    omega

end Entitlement.Text
