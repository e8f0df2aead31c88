import Entitlement.Proofs.Text.Digits
import Entitlement.Proofs.Time.Calendar
import Entitlement.Time.Stamp
import Mathlib.Data.List.TakeWhile

/-!
# Stamps read back

* `Moment.number?_append`, `field?_padded`, `year?_padded` : a number is read as it is written;
* `Moment.HasStamp` : moments whose year has four digits. Their stamps are of one form
  (`Moment.toList_stamp`), which starts with the day (`Moment.take_stamp`);
* `Moment.ofStamp?_stamp` : a stamp is read as the second that it was written in;
* `Moment.nanos_ofStamp?`, `nanos_ofRfc3339?` : what is read lies in a second or in a leap second;
* `Moment.addSeconds?_eq` : a moment has a later one; `Moment.addSeconds?_eq_some_iff` : which one,
  if its date can be written.
-/

namespace Entitlement.Moment
open Text

/-! ## Numbers of a width -/

theorem isSpace_of_isDigit {c : Char} (h : isDigit c = true) : isSpace c = false := by
  have hranges : ∀ r ∈ spaceRanges, r.2 < 0x30 ∨ 0x39 < r.1 := by decide
  rw [isDigit_iff] at h
  refine Bool.eq_false_iff.2 fun hspace => ?_
  obtain ⟨r, hr, hlow, hhigh⟩ := inRanges_iff.1 hspace
  have := hranges r hr
  omega

theorem dropSpace_append {cs : List Char} {n : Nat} (h : Spells cs n) (rest : List Char) :
    dropSpace (cs ++ rest) = cs ++ rest := by
  obtain ⟨c, cs, rfl⟩ := List.exists_cons_of_ne_nil h.notEmpty
  have hc := isSpace_of_isDigit (h.digits c List.mem_cons_self)
  rw [dropSpace, List.cons_append, List.dropWhile_cons, hc]
  rfl

/-- Digits as many as there is place for are taken, and what follows is left. -/
theorem number?_append {cs : List Char} {n least most : Nat} (h : Spells cs n)
    (hleast : least ≤ most) (hmost : cs.length = most) (rest : List Char) :
    number? least most (cs ++ rest) = some (n, rest) := by
  have htaken : ((cs ++ rest).take most).takeWhile isDigit = cs := by
    rw [List.take_left' hmost, List.takeWhile_eq_self_iff]
    exact h.digits
  unfold number?
  dsimp only
  rw [htaken, if_neg (by omega), h.value, List.drop_left]

theorem field?_padded {n : Nat} (h : n < 100) (rest : List Char) :
    field? 2 ((padded 2 n).toList ++ rest) = some (n, rest) := by
  rw [field?, dropSpace_append (spells_padded 2 n)]
  exact number?_append (spells_padded 2 n) (by decide) (length_padded (by decide) h) rest

/-- A year of four digits has no sign. -/
theorem year?_padded {n : Nat} (h : n < 10000) (rest : List Char) :
    year? ((padded 4 n).toList ++ rest) = some ((n : Int), rest) := by
  have hspells := spells_padded 4 n
  have hread := number?_append hspells (by decide : 1 ≤ 4) (length_padded (by decide) h) rest
  rw [year?, dropSpace_append hspells]
  split
  · next he => exact absurd he (hspells.append_ne_cons (by decide) _ _)
  · next he => exact absurd he (hspells.append_ne_cons (by decide) _ _)
  · rw [hread]
    rfl

theorem char?_cons (c : Char) (cs : List Char) : char? c (c :: cs) = some cs := if_pos rfl

/-! ## Stamps -/

/-- The year has four digits. -/
def HasStamp (m : Moment) : Prop := 0 ≤ m.date.year ∧ m.date.year ≤ 9999

instance (m : Moment) : Decidable m.HasStamp := inferInstanceAs (Decidable (_ ∧ _))

variable {m : Moment}

theorem yearText_eq {y : Int} (h₀ : 0 ≤ y) (h₁ : y ≤ 9999) : yearText y = padded 4 y.toNat := by
  have hnat : y.natAbs = y.toNat := by omega
  rw [yearText, if_neg (by omega), if_neg (by omega), hnat]

theorem isValid_date (m : Moment) : m.date.isValid = true := Date.isValid_ofDays _

theorem month_le (m : Moment) : m.date.month ≤ 12 := by
  have hvalid := m.isValid_date
  simp only [Date.isValid, Bool.and_eq_true, decide_eq_true_eq] at hvalid
  exact hvalid.1.1.2

theorem day_le (m : Moment) : m.date.day ≤ 31 := by
  have hvalid := m.isValid_date
  simp only [Date.isValid, Bool.and_eq_true, decide_eq_true_eq] at hvalid
  refine hvalid.2.trans ?_
  unfold daysInMonth
  repeat' split
  all_goals decide

theorem secondOfDay_lt (m : Moment) : m.secondOfDay < 86400 := by
  rw [secondOfDay]
  omega

theorem toList_day (h : m.HasStamp) : m.day.toList =
    (padded 4 m.date.year.toNat).toList ++ ((padded 2 m.date.month).toList ++
      (padded 2 m.date.day).toList) := by
  rw [day, dateText, yearText_eq h.1 h.2]
  simp only [String.toList_append, String.toList_empty, List.append_nil, List.append_assoc]

theorem toList_stamp (m : Moment) : m.stamp.toList =
    m.day.toList ++ 'T' :: (m.hour.toList ++ (m.minute.toList ++ (m.second.toList ++ ['Z']))) := by
  simp [stamp]

/-- **The first eight characters of a stamp are the day.** -/
theorem take_stamp (h : m.HasStamp) : m.stamp.toList.take 8 = m.day.toList := by
  have hyear := h.2
  have hlength : m.day.toList.length = 8 := by
    have hmonth := m.month_le
    have hday := m.day_le
    rw [toList_day h, List.length_append, List.length_append, length_padded (by decide) (by omega),
      length_padded (by decide) (by omega), length_padded (by decide) (by omega)]
  rw [toList_stamp, List.take_left' hlength]

theorem ofFields?_eq {d : Date} (hvalid : d.isValid = true) (hyear : yearInRange d.year = true)
    {hour minute second : Nat} (hhour : hour < 24) (hminute : minute < 60) (hsecond : second < 60) :
    ofFields? d.year d.month d.day hour minute second 0 =
      some (ofParts d hour minute second 0) := by
  simp only [ofFields?, hvalid, hyear, hhour, hminute, hsecond.le, decide_true, Bool.and_self,
    if_true, if_neg hsecond.ne]

/-- The parts of a moment come to its second. -/
theorem ofParts_date (m : Moment) : ofParts m.date (m.secondOfDay / 3600)
    (m.secondOfDay / 60 % 60) (m.secondOfDay % 60) 0 = ⟨m.seconds, 0⟩ := by
  rw [ofParts, date, Date.toDays_ofDays, secondOfDay, Moment.mk.injEq]
  exact ⟨by omega, rfl⟩

/-- **A stamp is read as the second that it was written in.** -/
theorem ofStamp?_stamp (h : m.HasStamp) (hnanos : m.nanos < 1000000000) :
    ofStamp? m.stamp = some ⟨m.seconds, 0⟩ := by
  have hmonth := m.month_le
  have hday := m.day_le
  have hsecond := m.secondOfDay_lt
  have hyear₉ := h.2
  have hyear : (m.date.year.toNat : Int) = m.date.year := Int.toNat_of_nonneg h.1
  have hwhole : m.second = padded 2 (m.secondOfDay % 60) := by
    rw [second, Nat.div_eq_of_lt hnanos, Nat.add_zero]
  have hrange : yearInRange m.date.year = true := by
    rw [yearInRange, Bool.and_eq_true, decide_eq_true_eq, decide_eq_true_eq]
    omega
  have hfields : ofFields? m.date.year m.date.month m.date.day (m.secondOfDay / 3600)
      (m.secondOfDay / 60 % 60) (m.secondOfDay % 60) 0 = some ⟨m.seconds, 0⟩ := by
    rw [ofFields?_eq m.isValid_date hrange (by omega) (by omega) (by omega), ofParts_date]
  rw [ofStamp?, toList_stamp, toList_day h, hour, minute, hwhole]
  simp only [List.append_assoc, Option.bind_eq_bind]
  rw [year?_padded (by omega), Option.bind_some, field?_padded (by omega), Option.bind_some,
    field?_padded (by omega), Option.bind_some, char?_cons, Option.bind_some,
    field?_padded (by omega), Option.bind_some, field?_padded (by omega), Option.bind_some,
    field?_padded (by omega), Option.bind_some, char?_cons, Option.bind_some, List.isEmpty_nil,
    if_pos rfl, hyear, hfields]

/-! ## Nanoseconds -/

/-- A number is read from the digits in front of what is left. -/
theorem number?_eq_some {least most : Nat} {cs rest : List Char} {n : Nat}
    (h : number? least most cs = some (n, rest)) : ∃ digits, cs = digits ++ rest ∧
      (∀ c ∈ digits, isDigit c = true) ∧ digits.length ≤ most ∧ n = decimalValue digits := by
  unfold number? at h
  dsimp only at h
  split at h
  · cases h
  · cases h
    have hprefix : (cs.take most).takeWhile isDigit <+: cs :=
      (List.takeWhile_prefix _).trans (List.take_prefix most cs)
    refine ⟨(cs.take most).takeWhile isDigit, ?_, fun c hc => List.mem_takeWhile_imp hc, ?_, rfl⟩
    · exact (List.prefix_iff_eq_append.1 hprefix).symm
    · exact (List.takeWhile_prefix _).length_le.trans (List.length_take_le most cs)

/-- A fraction is less than a second. -/
theorem fraction?_lt {cs rest : List Char} {n : Nat} (h : fraction? cs = some (n, rest)) :
    n < 1000000000 := by
  unfold fraction? at h
  split at h
  · next cs =>
    simp only [Option.bind_eq_bind, Option.bind_eq_some_iff] at h
    obtain ⟨⟨k, after⟩, hnumber, h⟩ := h
    obtain ⟨digits, rfl, hdigits, hlength, -⟩ := number?_eq_some hnumber
    have htaken : (digits ++ after).take ((digits ++ after).length - after.length) = digits := by
      rw [List.length_append, Nat.add_sub_cancel, List.take_left]
    cases h
    dsimp only
    rw [htaken]
    calc decimalValue digits * 10 ^ (9 - digits.length)
        < 10 ^ digits.length * 10 ^ (9 - digits.length) :=
          Nat.mul_lt_mul_of_pos_right (decimalValue_lt hdigits) (Nat.pow_pos (by decide))
      _ = 10 ^ 9 := by rw [← Nat.pow_add, Nat.add_sub_of_le hlength]
  · cases h
    decide

theorem nanos_ofFields? {year : Int} {month day hour minute second nanos : Nat}
    (h : ofFields? year month day hour minute second nanos = some m)
    (hnanos : nanos < 1000000000) : m.nanos < 2000000000 := by
  unfold ofFields? at h
  dsimp only at h
  split at h
  · split at h
    · cases h
      show 1000000000 + nanos < 2000000000
      omega
    · cases h
      show nanos < 2000000000
      omega
  · cases h

theorem nanos_ofStamp? {s : String} (h : ofStamp? s = some m) : m.nanos < 2000000000 := by
  unfold ofStamp? at h
  obtain ⟨⟨year, _⟩, -, h⟩ := Option.bind_eq_some_iff.1 h
  obtain ⟨⟨month, _⟩, -, h⟩ := Option.bind_eq_some_iff.1 h
  obtain ⟨⟨day, _⟩, -, h⟩ := Option.bind_eq_some_iff.1 h
  obtain ⟨_, -, h⟩ := Option.bind_eq_some_iff.1 h
  obtain ⟨⟨hour, _⟩, -, h⟩ := Option.bind_eq_some_iff.1 h
  obtain ⟨⟨minute, _⟩, -, h⟩ := Option.bind_eq_some_iff.1 h
  obtain ⟨⟨second, _⟩, -, h⟩ := Option.bind_eq_some_iff.1 h
  obtain ⟨_, -, h⟩ := Option.bind_eq_some_iff.1 h
  split at h
  · exact nanos_ofFields? h (by decide)
  · cases h

/-- A leap second has the fraction of the second that it is, and of the one before. -/
theorem nanos_ofRfc3339? {s : String} (h : ofRfc3339? s = some m) : m.nanos < 2000000000 := by
  unfold ofRfc3339? at h
  obtain ⟨⟨year, _⟩, -, h⟩ := Option.bind_eq_some_iff.1 h
  obtain ⟨_, -, h⟩ := Option.bind_eq_some_iff.1 h
  obtain ⟨⟨month, _⟩, -, h⟩ := Option.bind_eq_some_iff.1 h
  obtain ⟨_, -, h⟩ := Option.bind_eq_some_iff.1 h
  obtain ⟨⟨day, _⟩, -, h⟩ := Option.bind_eq_some_iff.1 h
  dsimp only at h
  split at h
  · split at h
    · obtain ⟨_, -, h⟩ := Option.bind_eq_some_iff.1 h
      obtain ⟨⟨hour, _⟩, -, h⟩ := Option.bind_eq_some_iff.1 h
      obtain ⟨_, -, h⟩ := Option.bind_eq_some_iff.1 h
      obtain ⟨⟨minute, _⟩, -, h⟩ := Option.bind_eq_some_iff.1 h
      obtain ⟨_, -, h⟩ := Option.bind_eq_some_iff.1 h
      obtain ⟨⟨second, _⟩, -, h⟩ := Option.bind_eq_some_iff.1 h
      obtain ⟨⟨nanos, _⟩, hfraction, h⟩ := Option.bind_eq_some_iff.1 h
      obtain ⟨_, -, h⟩ := Option.bind_eq_some_iff.1 h
      obtain ⟨moment, hfields, h⟩ := Option.bind_eq_some_iff.1 h
      have hlt := nanos_ofFields? hfields (fraction?_lt hfraction)
      split at h
      · cases h
        exact hlt
      · cases h
    · cases h
  · cases h

/-! ## Later moments -/

/-- A moment whose year has four digits has one after it. -/
theorem addSeconds?_eq (h : m.HasStamp) (hnanos : m.nanos < 1000000000) {n : Nat}
    (hn : n ≤ 86400) : m.addSeconds? n = some ⟨m.seconds + n, m.nanos⟩ := by
  have hnow := Date.year_ofDays (m.seconds / 86400)
  have hlater := Date.year_ofDays ((m.seconds + n) / 86400)
  have hyear : yearInRange (Date.ofDays ((m.seconds + n) / 86400)).year = true := by
    obtain ⟨h₀, h₁⟩ : 0 ≤ (Date.ofDays (m.seconds / 86400)).year ∧
        (Date.ofDays (m.seconds / 86400)).year ≤ 9999 := h
    rw [yearInRange, Bool.and_eq_true, decide_eq_true_eq, decide_eq_true_eq]
    omega
  rw [addSeconds?, if_neg (by omega : ¬ 1000000000 ≤ m.nanos)]
  exact if_pos hyear

/-- A leap second is left from the second before it, and the years that a date has are bounded. -/
theorem addSeconds?_eq_some_iff (hnanos : m.nanos < 2000000000) {n : Nat} {e : Moment} :
    m.addSeconds? n = some e ↔ e = ⟨m.seconds + n, m.nanos % 1000000000⟩ ∧
      -262143 ≤ e.date.year ∧ e.date.year ≤ 262142 := by
  have hpart : (if 1000000000 ≤ m.nanos then m.nanos - 1000000000 else m.nanos) =
      m.nanos % 1000000000 := by
    split <;> omega
  have hrange (y : Int) : yearInRange y = true ↔ -262143 ≤ y ∧ y ≤ 262142 := by
    rw [yearInRange, Bool.and_eq_true, decide_eq_true_eq, decide_eq_true_eq]
  rw [addSeconds?, hpart]
  split
  · next hyear =>
    rw [Option.some.injEq]
    constructor
    · intro h
      subst h
      exact ⟨rfl, (hrange _).1 hyear⟩
    · intro h
      exact h.1.symm
  · next hyear =>
    refine ⟨nofun, fun h => ?_⟩
    obtain ⟨rfl, hyears⟩ := h
    exact absurd ((hrange _).2 hyears) hyear

end Entitlement.Moment
