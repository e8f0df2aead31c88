import Entitlement.Proofs.Text.Percent
import Entitlement.Url.Host
import Mathlib.Data.List.Basic

/-!
# Names of hosts

* `Host.IsName` : names of small letters, digits and hyphens between full stops, whose last part
  starts with a letter;
* `Domain.ofBytes?_name` : such a name stands for itself; `Ipv4.endsInNumber_name` : and is no
  address;
* `Host.ofDomain_name` : **it is the host that it names.**
-/

namespace Entitlement
open Text

namespace Host

def isLetter (c : Char) : Bool := 'a' ≤ c && c ≤ 'z'

def isNameChar (c : Char) : Bool := isLetter c || isDigit c || c == '-'

/-- A name that needs no coding and cannot be taken for a number. -/
structure IsName (host : String) : Prop where
  label : ∀ l ∈ host.toList.splitOn '.',
    l ≠ [] ∧ l.all isNameChar = true ∧ ¬ ['x', 'n', '-', '-'] <+: l
  last : ∃ c cs, (host.toList.splitOn '.').getLast? = some (c :: cs) ∧ isLetter c = true

/-! ## Characters -/

/-- A name's characters are of seven bits. -/
theorem lt_of_isNameChar {c : Char} (h : isNameChar c = true) : c.toNat < 0x80 := by
  simp only [isNameChar, isLetter, isDigit, Bool.or_eq_true, Bool.and_eq_true, decide_eq_true_eq,
    beq_iff_eq] at h
  rcases h with (⟨-, h⟩ | ⟨-, h⟩) | rfl
  · exact Nat.lt_of_le_of_lt h (by decide)
  · exact Nat.lt_of_le_of_lt h (by decide)
  · decide

/-- What holds of every character of seven bits that a name has. -/
theorem of_isNameChar {P : Char → Prop}
    (hall : ∀ n < 0x80, isNameChar (Char.ofNat n) = true → P (Char.ofNat n)) {c : Char}
    (h : isNameChar c = true) : P c :=
  Utf8.of_toNat_lt (P := fun c => isNameChar c = true → P c) hall (lt_of_isNameChar h) h

/-- A character of a text is the separator, or it is in one of the parts. -/
theorem eq_or_mem_splitOn {sep c : Char} {cs : List Char} (h : c ∈ cs) :
    c = sep ∨ ∃ l ∈ cs.splitOn sep, c ∈ l := by
  induction cs with
  | nil => cases h
  | cons d cs ih =>
    rw [List.splitOn_cons_eq_if_modifyHead]
    split
    · next hd =>
      rcases List.mem_cons.1 h with rfl | h
      · exact .inl (eq_of_beq hd)
      · exact (ih h).imp_right fun ⟨l, hl, hc⟩ => ⟨l, List.mem_cons_of_mem _ hl, hc⟩
    · obtain ⟨first, parts, hparts⟩ := List.exists_cons_of_ne_nil (List.splitOn_ne_nil sep cs)
      rw [hparts] at ih ⊢
      rw [List.modifyHead_cons]
      rcases List.mem_cons.1 h with rfl | h
      · exact .inr ⟨_, List.mem_cons_self, List.mem_cons_self⟩
      · refine (ih h).imp_right fun ⟨l, hl, hc⟩ => ?_
        rcases List.mem_cons.1 hl with rfl | hl
        · exact ⟨_, List.mem_cons_self, List.mem_cons_of_mem _ hc⟩
        · exact ⟨l, List.mem_cons_of_mem _ hl, hc⟩

variable {host : String}

theorem IsName.ne_nil (h : IsName host) : host.toList ≠ [] := by
  intro he
  have hlabel := h.label
  rw [he, List.splitOn_nil] at hlabel
  exact (hlabel [] List.mem_cons_self).1 rfl

theorem IsName.char (h : IsName host) {c : Char} (hc : c ∈ host.toList) :
    c = '.' ∨ isNameChar c = true :=
  (@eq_or_mem_splitOn '.' c _ hc).imp_right fun ⟨l, hl, hcl⟩ =>
    List.all_eq_true.1 (h.label l hl).2.1 c hcl

/-- The characters of a name stand for themselves wherever they are. -/
theorem IsName.isUnreserved (h : IsName host) {c : Char} (hc : c ∈ host.toList) :
    c.toNat < 0x80 ∧ isUnreserved (.ofNat c.toNat) = true := by
  rcases h.char hc with rfl | hc
  · decide
  · exact ⟨lt_of_isNameChar hc,
      of_isNameChar (P := fun c => Text.isUnreserved (.ofNat c.toNat) = true) (by decide) hc⟩

end Host

/-! ## Domains -/

namespace Domain
open Host

variable {c : Char} {l : List Char} {host : String}

theorem mapped_of_isNameChar (h : isNameChar c = true) : mapped c = [c] :=
  of_isNameChar (P := fun c => mapped c = [c]) (by decide +kernel) h

/-- A table of characters beyond ASCII has none of a name. -/
theorem inRanges_of_isNameChar (h : isNameChar c = true) {ranges : List (Nat × Nat)}
    (hbeyond : ranges.all (fun r => 0x80 ≤ r.1) = true) : inRanges ranges c.toNat = false := by
  refine Bool.eq_false_iff.2 fun hin => ?_
  obtain ⟨r, hr, hfirst, -⟩ := inRanges_iff.1 hin
  have hlow := lt_of_isNameChar h
  have hhigh := of_decide_eq_true (List.all_eq_true.1 hbeyond r hr)
  omega

theorem isMark_of_isNameChar (h : isNameChar c = true) : isMark c = false := by
  have hextending : inRanges extendingRanges c.toNat = false :=
    inRanges_of_isNameChar h (by decide +kernel)
  have hspacing : inRanges spacingMarkRanges c.toNat = false :=
    inRanges_of_isNameChar h (by decide +kernel)
  rw [isMark, hextending, hspacing]
  rfl

/-- A name runs from left to right. -/
theorem isRight_of_isNameChar (h : isNameChar c = true) :
    (Direction.ofChar c).isRight = false := by
  have hright : inRanges rightRanges c.toNat = false :=
    inRanges_of_isNameChar h (by decide +kernel)
  have hdigit : inRanges arabicDigitRanges c.toNat = false :=
    inRanges_of_isNameChar h (by decide +kernel)
  rw [Direction.isRight_ofChar, hright, hdigit]
  rfl

theorem isForbidden_of_isNameChar (h : isNameChar c = true) :
    (isForbidden c || isRefused c) = false :=
  of_isNameChar (P := fun c => (isForbidden c || isRefused c) = false) (by decide +kernel) h

theorem isLabel_of_isNameChar (h : ∀ c ∈ l, isNameChar c = true) : isLabel l = true := by
  have hhead : l.head?.any isMark = false := by
    cases l with
    | nil => rfl
    | cons c l => exact isMark_of_isNameChar (h c List.mem_cons_self)
  have hany : (l.any fun c => isForbidden c || isRefused c) = false :=
    List.any_eq_false.2 fun c hc => Bool.eq_false_iff.1 (isForbidden_of_isNameChar (h c hc))
  have hjoined : areJoined [] l = true :=
    areJoined_of_forall fun c hc =>
      of_isNameChar (P := fun c => isJoiner c = false) (by decide) (h c hc)
  rw [isLabel, hhead, hany, hjoined]
  rfl

theorem label?_of_isLabel (hencoded : ¬ ['x', 'n', '-', '-'] <+: l) (h : isLabel l = true) :
    label? l = some l := by
  unfold label?
  split
  · next code => exact absurd ⟨code, rfl⟩ hencoded
  · exact Option.filter_some_pos h

theorem mapM_label? {parts : List (List Char)} (h : ∀ l ∈ parts, label? l = some l) :
    parts.mapM label? = some parts := by
  induction parts with
  | nil => rfl
  | cons l parts ih =>
    rw [List.mapM_cons, h l List.mem_cons_self, ih fun d hd => h d (List.mem_cons_of_mem _ hd)]
    rfl

/-- **A name stands for itself.** -/
theorem ofBytes?_name (h : IsName host) : ofBytes? (Utf8.encode host) = some host := by
  have hmapped : host.toList.flatMap mapped = host.toList := by
    have hall : ∀ c ∈ host.toList, mapped c = [c] := fun c hc => by
      rcases h.char hc with rfl | hc
      · decide
      · exact mapped_of_isNameChar hc
    rw [List.flatMap_congr hall, List.flatMap_singleton']
  have hlabels : (host.toList.splitOn '.').mapM label? = some (host.toList.splitOn '.') := by
    refine mapM_label? fun l hl => label?_of_isLabel (h.label l hl).2.2 ?_
    exact isLabel_of_isNameChar (List.all_eq_true.1 (h.label l hl).2.1)
  have hdirect : direct (host.toList.splitOn '.') = true :=
    direct_of_forall fun l hl c hc =>
      isRight_of_isNameChar (List.all_eq_true.1 (h.label l hl).2.1 c hc)
  rw [ofBytes?, Utf8.decodeText?_encode, Option.bind_eq_bind, Option.bind_some]
  dsimp only
  rw [hmapped, hlabels, Option.bind_eq_bind, Option.bind_some, if_pos hdirect,
    String.ofList_toList]

end Domain

/-! ## Numbers -/

namespace Ipv4
open Host

theorem parts_eq (cs : List Char) : parts cs = cs.splitOn '.' := by
  induction cs with
  | nil => rfl
  | cons c cs ih =>
    obtain ⟨first, rest, hrest⟩ := List.exists_cons_of_ne_nil (List.splitOn_ne_nil '.' cs)
    rw [parts, List.splitOn_cons_eq_if_modifyHead, ih, hrest]
    simp only [beq_iff_eq, List.modifyHead_cons]

theorem isNameChar_of_isLetter {c : Char} (h : isLetter c = true) : isNameChar c = true := by
  rw [isNameChar, h]
  rfl

theorem of_isLetter {c : Char} (h : isLetter c = true) :
    isDigit c = false ∧ ∀ n, digitValue? c = some n → 10 ≤ n := by
  obtain ⟨hdigit, hvalue⟩ := of_isNameChar
    (P := fun c => isLetter c = true → isDigit c = false ∧ ∀ n ∈ (digitValue? c).toList, 10 ≤ n)
    (by decide) (isNameChar_of_isLetter h) h
  exact ⟨hdigit, fun n hn => hvalue n (Option.mem_toList.2 hn)⟩

/-- A letter is no digit in base ten. -/
theorem valueBelow?_letter {c : Char} (h : isLetter c = true) (cs : List Char) :
    valueBelow? 10 (c :: cs) = none := by
  rw [valueBelow?, List.mapM_cons]
  cases hc : digitValue? c with
  | none => rfl
  | some n =>
    cases cs.mapM digitValue? with
    | none => rfl
    | some digits =>
      have hn : ¬ n < 10 := Nat.not_lt.2 ((of_isLetter h).2 n hc)
      have hall : (n :: digits).all (· < 10) = false := by
        rw [List.all_cons, decide_eq_false hn, Bool.false_and]
      exact if_neg (Bool.eq_false_iff.1 hall)

/-- A part that starts with a letter is no number. -/
theorem number?_letter {c : Char} (h : isLetter c = true) (cs : List Char) :
    number? (c :: cs) = none := by
  have hzero : c ≠ '0' := by
    rintro rfl
    cases h
  unfold number?
  split
  · next he => cases he
  · next he => exact absurd (List.cons.inj he).1 hzero
  · next he => exact absurd (List.cons.inj he).1 hzero
  · exact valueBelow?_letter h cs

/-- A name is no address. -/
theorem endsInNumber_name {host : String} (h : IsName host) :
    endsInNumber host.toList = false := by
  obtain ⟨c, cs, hlast, hc⟩ := h.last
  unfold endsInNumber
  rw [parts_eq]
  dsimp only
  rw [hlast, if_neg (by simp)]
  dsimp only
  rw [number?_letter hc, List.all_cons, (of_isLetter hc).1]
  rfl

end Ipv4

/-- **A name is the host that it names.** -/
theorem Host.ofDomain_name {host : String} (h : IsName host) :
    ofDomain host.toList = .ok (.name host) := by
  have hdecoded : percentDecode (Utf8.encode host) = Utf8.encode host := by
    refine percentDecode_of_forall_ne fun b hb => ?_
    rw [Utf8.encode, Utf8.flatMap_encodeChar_of_lt fun c hc => (h.isUnreserved hc).1,
      List.mem_map] at hb
    obtain ⟨c, hc, rfl⟩ := hb
    exact toNat_ne_of_isUnreserved (h.isUnreserved hc).2
  unfold ofDomain
  split
  · next he =>
    have hbracket := (h.isUnreserved (he ▸ List.mem_cons_self)).2
    cases hbracket
  · rw [String.ofList_toList, hdecoded, Domain.ofBytes?_name h]
    dsimp only
    have hempty : ¬ host.isEmpty = true := fun he => h.ne_nil (by
      rw [String.isEmpty_iff.1 he, String.toList_empty])
    rw [if_neg hempty, Ipv4.endsInNumber_name h]
    rfl

end Entitlement
