import Entitlement.Text.Lower

/-!
# Lower case of texts

* `meetsCased_append` : a text of case-ignorable characters lets the one after it be seen;
* `lowerAmid` : the lower case of a text between two others. A text is lowered piece by piece
  (`lowerIn_append`), and a piece has as many letters wherever it stands (`length_lowerAmid`);
* `EndsInSigma` : a capital sigma ends the last word of a text. Only then does it matter what comes
  after the text, and only whether that begins with a letter (`lowerAmid_eq_iff`);
* `ofNat_lowerCode_eq_iff` : a character without case is the lower case of no other;
* `IsCapital` : a code point that lowering may change. A text in lower case has none
  (`not_isCapital_of_mem_lowerIn`), so lowering it again changes nothing (`lower_lower`).
-/

namespace Entitlement.Text

/-! ## Letters before and after -/

theorem meetsCased_cons (c : Char) (cs : List Char) :
    meetsCased (c :: cs) = if isCaseIgnorable c then meetsCased cs else isCased c := by
  unfold meetsCased
  rw [List.dropWhile_cons]
  by_cases h : isCaseIgnorable c = true
  · rw [if_pos h, if_pos h]
  · rw [if_neg h, if_neg h]

theorem meetsCased_append (u v : List Char) :
    meetsCased (u ++ v) = if u.all isCaseIgnorable then meetsCased v else meetsCased u := by
  induction u with
  | nil => rfl
  | cons c u ih =>
    rw [List.cons_append, meetsCased_cons, meetsCased_cons, List.all_cons, ih]
    cases isCaseIgnorable c with
    | true => rw [if_pos rfl, if_pos rfl, Bool.true_and]
    | false => rfl

theorem meetsCased_of_all {u : List Char} (h : u.all isCaseIgnorable = true) :
    meetsCased u = false := by
  have happend := meetsCased_append u []
  rwa [List.append_nil, if_pos h] at happend

/-! ## Piece by piece -/

/-- The lower case of the text in the middle; `before` runs away from it. -/
def lowerAmid (before : List Char) : List Char → List Char → List Char
  | [], _ => []
  | c :: rest, after =>
    (if c = 'Σ' then [if endsWord before (rest ++ after) then 'ς' else 'σ'] else lowerChar c) ++
      lowerAmid (c :: before) rest after

theorem lowerIn_append (before u v : List Char) :
    lowerIn before (u ++ v) = lowerAmid before u v ++ lowerIn (u.reverse ++ before) v := by
  induction u generalizing before with
  | nil => rfl
  | cons c u ih =>
    rw [List.cons_append, lowerIn, lowerAmid, ih, List.append_assoc, List.reverse_cons,
      List.append_assoc]
    rfl

theorem lowerAmid_nil (before u : List Char) : lowerAmid before u [] = lowerIn before u := by
  have h := lowerIn_append before u []
  rw [List.append_nil, lowerIn, List.append_nil] at h
  exact h.symm

theorem length_lowerAmid (before u v w : List Char) :
    (lowerAmid before u v).length = (lowerAmid before u w).length := by
  induction u generalizing before with
  | nil => rfl
  | cons c u ih =>
    rw [lowerAmid, lowerAmid, List.length_append, List.length_append, ih]
    split
    · rfl
    · rfl

/-! ## The last letter of a text -/

/-- The last letter is a capital sigma, and a letter stands before it; `before` is what stands
before the text and runs away from it. -/
def EndsInSigma (before cs : List Char) : Prop :=
  ∃ u v, cs = u ++ 'Σ' :: v ∧ meetsCased (u.reverse ++ before) = true ∧
    v.all isCaseIgnorable = true

theorem endsInSigma_cons {before : List Char} {c : Char} {cs : List Char} :
    EndsInSigma before (c :: cs) ↔
      (c = 'Σ' ∧ meetsCased before = true ∧ cs.all isCaseIgnorable = true) ∨
        EndsInSigma (c :: before) cs := by
  constructor
  · rintro ⟨u, v, hcs, hu, hv⟩
    cases u with
    | nil =>
      obtain ⟨rfl, rfl⟩ := List.cons.inj hcs
      exact .inl ⟨rfl, hu, hv⟩
    | cons d u =>
      obtain ⟨rfl, rfl⟩ := List.cons.inj hcs
      exact .inr ⟨u, v, rfl, by rwa [List.reverse_cons, List.append_assoc] at hu, hv⟩
  · rintro (⟨rfl, hbefore, hv⟩ | ⟨u, v, rfl, hu, hv⟩)
    · exact ⟨[], cs, rfl, hbefore, hv⟩
    · exact ⟨c :: u, v, rfl, by rwa [List.reverse_cons, List.append_assoc], hv⟩

/-- Whether a letter ends its word is the same with more text after it, unless there was no letter
after it and there is one now. -/
theorem endsWord_append_iff {before rest after : List Char} :
    endsWord before (rest ++ after) = endsWord before rest ↔
      ¬ ((meetsCased before = true ∧ rest.all isCaseIgnorable = true) ∧
        meetsCased after = true) := by
  unfold endsWord
  rw [meetsCased_append]
  cases hrest : rest.all isCaseIgnorable with
  | false => simp
  | true =>
    rw [meetsCased_of_all hrest]
    cases meetsCased before with
    | false => simp
    | true => cases meetsCased after with
      | false => simp
      | true => simp

theorem sigma_eq_iff {b b' : Bool} :
    [if b then 'ς' else 'σ'] = [if b' then 'ς' else 'σ'] ↔ b = b' := by
  cases b with
  | false => cases b' <;> decide
  | true => cases b' <;> decide

/-- What comes after a text matters to it if a sigma ends it and a letter comes. -/
theorem lowerAmid_eq_iff {before u v : List Char} : lowerAmid before u v = lowerIn before u ↔
    ¬ (EndsInSigma before u ∧ meetsCased v = true) := by
  induction u generalizing before with
  | nil =>
    refine iff_of_true rfl ?_
    rintro ⟨⟨u, w, hnil, -⟩, -⟩
    exact List.append_ne_nil_of_right_ne_nil u (List.cons_ne_nil _ _) hnil.symm
  | cons c u ih =>
    rw [lowerAmid, lowerIn, endsInSigma_cons, or_and_right, not_or, ← ih]
    by_cases hc : c = 'Σ'
    · rw [if_pos hc, if_pos hc]
      constructor
      · intro h
        obtain ⟨hhead, htail⟩ := List.append_inj h rfl
        refine ⟨?_, htail⟩
        rintro ⟨⟨-, hbefore⟩, hv⟩
        exact endsWord_append_iff.1 (sigma_eq_iff.1 hhead) ⟨hbefore, hv⟩
      · rintro ⟨hhead, htail⟩
        rw [endsWord_append_iff.2 fun h => hhead ⟨⟨hc, h.1⟩, h.2⟩, htail]
    · rw [if_neg hc, if_neg hc, List.append_cancel_left_eq]
      exact (and_iff_right fun h => hc h.1.1).symm

/-! ## Characters without case -/

set_option maxRecDepth 4000 in
theorem lt_lowered_of_mem_caseRuns : ∀ r ∈ caseRuns, (0x60 : Int) < r.first + r.shift := by
  decide

/-- No character above the Latin capitals has a lower case below the small letters. -/
theorem lowerCode_eq_iff {n m : Nat} (hm : m ≤ 0x60) (hcase : ¬ (0x41 ≤ m ∧ m ≤ 0x5A)) :
    lowerCode n = m ↔ n = m := by
  unfold lowerCode
  split
  · split
    · omega
    · exact Iff.rfl
  · split
    · next hrun =>
      have hlow := lt_lowered_of_mem_caseRuns _ (List.mem_of_find?_eq_some hrun)
      have hfirst := List.find?_some hrun
      simp only [CaseRun.covers, Bool.and_eq_true, decide_eq_true_eq] at hfirst
      omega
    · exact Iff.rfl

/-- A character without case is the lower case of no other. -/
theorem ofNat_lowerCode_eq_iff {c d : Char}
    (hd : 0 < d.toNat ∧ d.toNat ≤ 0x60 ∧ ¬ (0x41 ≤ d.toNat ∧ d.toNat ≤ 0x5A)) :
    Char.ofNat (lowerCode c.toNat) = d ↔ c = d := by
  have hcode : lowerCode c.toNat = d.toNat ↔ c = d :=
    (lowerCode_eq_iff hd.2.1 hd.2.2).trans Char.toNat_inj
  rw [← hcode]
  constructor
  · intro h
    by_cases hvalid : (lowerCode c.toNat).isValidChar
    · rw [Char.ofNat, dif_pos hvalid] at h
      exact congrArg Char.toNat h
    · rw [Char.ofNat, dif_neg hvalid] at h
      exact absurd (congrArg Char.toNat h) (Nat.ne_of_lt hd.1)
  · intro h
    rw [h, Char.ofNat_toNat]

/-! ## Lower case of lower case -/

namespace CaseRun

/-- The lower case of the first and of the last code point. -/
def lowFirst (r : CaseRun) : Nat := (r.first + r.shift).toNat

def lowLast (r : CaseRun) : Nat := (r.last + r.shift).toNat

/-- A test that no lower case of one run is in another: the two lie apart, or they take turns. -/
def apart (r r' : CaseRun) : Bool :=
  Nat.blt r.lowLast r'.first || Nat.blt r'.last r.lowFirst ||
    r'.step == 2 && (r.lowFirst + r'.first) % 2 == 1 && (r.first == r.last || r.step == 2)

theorem not_covers_of_apart {r r' : CaseRun} {n : Nat} (hlow : 0 ≤ r.first + r.shift)
    (h : r.apart r' = true) (hn : r.covers n = true) : ¬ r'.covers (n + r.shift).toNat = true := by
  intro hcovers
  simp only [covers, Bool.and_eq_true, decide_eq_true_eq, beq_iff_eq] at hn hcovers
  simp only [apart, lowFirst, lowLast, Bool.or_eq_true, Bool.and_eq_true, Nat.blt_eq,
    beq_iff_eq] at h
  rcases h with (h | h) | ⟨⟨hstep, hodd⟩, hstep'⟩
  · omega
  · omega
  · rw [hstep] at hcovers
    rcases hstep' with he | he
    · omega
    · rw [he] at hn
      omega

end CaseRun

/-- The dotted capital I, whose lower case is two characters. -/
def dottedRun : CaseRun := ⟨0x130, 0x130, 1, -199⟩

/-- Whether lowering may change a code point. -/
def IsCapital (n : Nat) : Prop :=
  (0x41 ≤ n ∧ n ≤ 0x5A) ∨ ∃ r ∈ dottedRun :: caseRuns, r.covers n = true

instance : DecidablePred IsCapital := fun n =>
  decidable_of_iff ((0x41 ≤ n ∧ n ≤ 0x5A) ∨ ((dottedRun :: caseRuns).any (·.covers n)) = true)
    (or_congr_right List.any_eq_true)

set_option maxRecDepth 4000 in
theorem le_first_of_mem_runs : ∀ r ∈ dottedRun :: caseRuns, 0x80 ≤ r.first := by decide

theorem apart_of_mem_caseRuns :
    ∀ r ∈ caseRuns, ∀ r' ∈ dottedRun :: caseRuns, r.apart r' = true := by
  -- one test of the whole table, which only the kernel is fast enough for
  have h : (caseRuns.all fun r => (dottedRun :: caseRuns).all r.apart) = true := by decide +kernel
  exact fun r hr => List.all_eq_true.1 (List.all_eq_true.1 h r hr)

theorem isCapital_iff_of_lt {n : Nat} (h : n < 0x80) : IsCapital n ↔ 0x41 ≤ n ∧ n ≤ 0x5A := by
  refine or_iff_left ?_
  rintro ⟨r, hr, hn⟩
  have hfirst := le_first_of_mem_runs r hr
  simp only [CaseRun.covers, Bool.and_eq_true, decide_eq_true_eq] at hn
  omega

theorem lowerCode_of_not_isCapital {n : Nat} (h : ¬ IsCapital n) : lowerCode n = n := by
  obtain ⟨hascii, hruns⟩ := not_or.1 h
  have hfind : caseRuns.find? (·.covers n) = none :=
    List.find?_eq_none.2 fun r hr hn => hruns ⟨r, List.mem_cons_of_mem _ hr, hn⟩
  rw [lowerCode, if_neg hascii, hfind, ite_self]

set_option maxRecDepth 4000 in
/-- Small i, the dot above it, both small sigmas, and the code point that stands for none. -/
theorem not_isCapital_special : ∀ n ∈ [0x69, 0x307, 0x3C2, 0x3C3, 0], ¬ IsCapital n := by
  decide

/-- What is lowered is in lower case. -/
theorem not_isCapital_lowerCode {n : Nat} (h : n ≠ 0x130) : ¬ IsCapital (lowerCode n) := by
  unfold lowerCode
  split
  · next hlt =>
    split
    · rw [isCapital_iff_of_lt (by omega)]
      omega
    · rwa [isCapital_iff_of_lt hlt]
  · next hge =>
    split
    · next r hrun =>
      have hr := List.mem_of_find?_eq_some hrun
      have hn := List.find?_some hrun
      have hlow := lt_lowered_of_mem_caseRuns r hr
      rintro (hascii | ⟨r', hr', hcovers⟩)
      · simp only [CaseRun.covers, Bool.and_eq_true, decide_eq_true_eq] at hn
        omega
      · exact CaseRun.not_covers_of_apart (by omega) (apart_of_mem_caseRuns r hr r' hr') hn hcovers
    · next hnone =>
      rintro (hascii | ⟨r, hr, hcovers⟩)
      · omega
      · rcases List.mem_cons.1 hr with rfl | hr
        · simp only [CaseRun.covers, Bool.and_eq_true, decide_eq_true_eq] at hcovers
          exact h (Nat.le_antisymm hcovers.1.2 hcovers.1.1)
        · exact List.find?_eq_none.1 hnone r hr hcovers

theorem lowerChar_of_not_isCapital {c : Char} (h : ¬ IsCapital c.toNat) : lowerChar c = [c] := by
  have hdotted : c ≠ 'İ' := by
    rintro rfl
    exact h (.inr ⟨dottedRun, List.mem_cons_self, rfl⟩)
  rw [lowerChar, if_neg hdotted, lowerCode_of_not_isCapital h, Char.ofNat_toNat]

theorem not_isCapital_of_mem_lowerChar {c d : Char} (hd : d ∈ lowerChar c) :
    ¬ IsCapital d.toNat := by
  unfold lowerChar at hd
  split at hd
  · rcases List.mem_cons.1 hd with rfl | hd
    · exact not_isCapital_special 0x69 (by decide)
    · rw [List.mem_singleton.1 hd]
      exact not_isCapital_special 0x307 (by decide)
  · next hdotted =>
    rw [List.mem_singleton.1 hd]
    by_cases hvalid : (lowerCode c.toNat).isValidChar
    · have hcode : (Char.ofNat (lowerCode c.toNat)).toNat = lowerCode c.toNat := by
        rw [Char.ofNat, dif_pos hvalid]; rfl
      rw [hcode]
      exact not_isCapital_lowerCode fun he => hdotted (Char.toNat_inj.1 he)
    · rw [Char.ofNat, dif_neg hvalid]
      exact not_isCapital_special 0 (by decide)

/-- **A text in lower case has no capitals.** -/
theorem not_isCapital_of_mem_lowerIn {before cs : List Char} {d : Char}
    (hd : d ∈ lowerIn before cs) : ¬ IsCapital d.toNat := by
  induction cs generalizing before with
  | nil => cases hd
  | cons c cs ih =>
    rw [lowerIn, List.mem_append] at hd
    rcases hd with hd | hd
    · split at hd
      · rw [List.mem_singleton.1 hd]
        split
        · exact not_isCapital_special 0x3C2 (by decide)
        · exact not_isCapital_special 0x3C3 (by decide)
      · exact not_isCapital_of_mem_lowerChar hd
    · exact ih hd

/-- Lowering changes capitals only; where a sigma stands matters to capital ones alone. -/
theorem lowerIn_eq_self {before cs : List Char} (h : ∀ c ∈ cs, ¬ IsCapital c.toNat) :
    lowerIn before cs = cs := by
  induction cs generalizing before with
  | nil => rfl
  | cons c cs ih =>
    obtain ⟨hc, hcs⟩ := List.forall_mem_cons.1 h
    have hsigma : c ≠ 'Σ' := by
      rintro rfl
      exact hc (by decide)
    rw [lowerIn, if_neg hsigma, lowerChar_of_not_isCapital hc, ih hcs]
    rfl

theorem lower_lower (s : String) : lower (lower s) = lower s := by
  have hfixed : lowerIn [] (lowerIn [] s.toList) = lowerIn [] s.toList :=
    lowerIn_eq_self fun _ => not_isCapital_of_mem_lowerIn
  rw [lower, lower, String.toList_ofList, hfixed]

theorem lowerChar_ne_nil (c : Char) : lowerChar c ≠ [] := by
  unfold lowerChar
  split
  · exact List.cons_ne_nil _ _
  · exact List.cons_ne_nil _ _

theorem lower_eq_empty_iff {s : String} : lower s = "" ↔ s = "" := by
  refine ⟨fun h => ?_, fun h => h ▸ lower_empty⟩
  have hnil : lowerIn [] s.toList = [] := String.ofList_eq_empty_iff.1 h
  apply String.toList_eq_nil_iff.1
  cases hs : s.toList with
  | nil => rfl
  | cons c cs =>
    rw [hs, lowerIn, List.append_eq_nil_iff] at hnil
    have hfirst := hnil.1
    split at hfirst
    · cases hfirst
    · exact absurd hfirst (lowerChar_ne_nil c)

end Entitlement.Text
