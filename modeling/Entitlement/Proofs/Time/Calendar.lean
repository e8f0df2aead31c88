import Entitlement.Time.Calendar

/-!
# Days and dates

* `Date.era_cases`, `Date.ofDays_cases` : the year, the month and the day that a number of days
  falls on; `Date.year_ofDays` : the year by the era;
* `Date.isValid_ofDays` : every number of days is a date; `Date.toDays_ofDays` : which is its own
  date and no other's.
-/

namespace Entitlement.Date

/-- A day of an era of 400 years is a day of one of its years, which start in March; a year has day
365 if the next one, whose February it ends with, is a leap year. -/
theorem era_cases {d : Int} (h₀ : 0 ≤ d) (h₁ : d < 146097) : ∃ y e : Int,
    (d - d / 1460 + d / 36524 - d / 146096) / 365 = y ∧ d - (365 * y + y / 4 - y / 100) = e ∧
      0 ≤ y ∧ y < 400 ∧ 0 ≤ e ∧ e ≤ 365 ∧
      (e = 365 → (y + 1) % 4 = 0 ∧ ((y + 1) % 100 ≠ 0 ∨ (y + 1) % 400 = 0)) := by
  by_cases hlast : d = 146096
  · subst hlast
    exact ⟨399, 365, by decide⟩
  · -- the day in centuries, spans of four years and years
    obtain ⟨c, hc⟩ : ∃ c, d / 36524 = c := ⟨_, rfl⟩
    obtain ⟨k, hk⟩ : ∃ k, (d - 36524 * c) / 1461 = k := ⟨_, rfl⟩
    obtain ⟨s, hs⟩ : ∃ s, d = 36524 * c + 1461 * k + s :=
      ⟨d - 36524 * c - 1461 * k, by omega⟩
    have hc₃ : 0 ≤ c ∧ c ≤ 3 := by omega
    have hk₂₄ : 0 ≤ k ∧ k ≤ 24 := by omega
    have hs₁₄₆₀ : 0 ≤ s ∧ s ≤ 1460 ∧ (k = 24 → s < 1460) := by omega
    obtain ⟨t, ht⟩ : ∃ t, (24 * c + k + s) / 1460 = t := ⟨_, rfl⟩
    have hquotient : d / 1460 = 25 * c + k + t := by omega
    have hnever : d / 146096 = 0 := by omega
    have hj : ∃ j, 0 ≤ j ∧ j ≤ 3 ∧ 365 * j ≤ s ∧ (s < 365 * (j + 1) ∨ j = 3) := by
      by_cases h : s < 1095
      · exact ⟨s / 365, by omega⟩
      · exact ⟨3, by omega⟩
    obtain ⟨j, hj₀, hj₃, hjs, hsj⟩ := hj
    have hyear : (d - d / 1460 + d / 36524 - d / 146096) / 365 = 100 * c + 4 * k + j := by
      rw [hquotient, hc, hnever]
      omega
    have hfours : (100 * c + 4 * k + j) / 4 = 25 * c + k := by omega
    have hcenturies : (100 * c + 4 * k + j) / 100 = c := by omega
    refine ⟨100 * c + 4 * k + j, s - 365 * j, hyear, ?_, ?_⟩
    · rw [hfours, hcenturies, hs]
      omega
    · clear hyear hfours hcenturies hquotient hnever ht hk hc
      omega

/-- The parts of a date: its era, the year in it, and the month and the day of that year. -/
theorem ofDays_cases (n : Int) : ∃ era y e m : Int,
    n + 719468 = era * 146097 + (365 * y + y / 4 - y / 100) + e ∧ 0 ≤ y ∧ y < 400 ∧
      (e = 365 → (y + 1) % 4 = 0 ∧ ((y + 1) % 100 ≠ 0 ∨ (y + 1) % 400 = 0)) ∧
      0 ≤ m ∧ m ≤ 11 ∧ daysBefore m ≤ e ∧ e < daysBefore (m + 1) ∧ e ≤ 365 ∧
      ofDays n = ⟨era * 400 + y + (if m < 10 then 0 else 1),
        (if m < 10 then m + 3 else m - 9).toNat, (e - daysBefore m + 1).toNat⟩ := by
  obtain ⟨y, e, hy, he, hy₀, hy₄₀₀, he₀, he₃₆₅, hleap⟩ :=
    era_cases (d := (n + 719468) % 146097) (by omega) (by omega)
  obtain ⟨m, hm⟩ : ∃ m, (5 * e + 2) / 153 = m := ⟨_, rfl⟩
  refine ⟨(n + 719468) / 146097, y, e, m, by omega, hy₀, hy₄₀₀, hleap, by omega, by omega, ?_, ?_,
    he₃₆₅, ?_⟩
  · rw [daysBefore]
    omega
  · rw [daysBefore]
    omega
  · unfold ofDays
    dsimp only
    rw [hy, he, hm]
    split
    · rw [if_neg (by omega)]
    · rw [if_pos (by omega)]

/-- The year is one of the era's, or the one after them. -/
theorem year_ofDays (n : Int) : (n + 719468) / 146097 * 400 ≤ (ofDays n).year ∧
    (ofDays n).year ≤ (n + 719468) / 146097 * 400 + 400 := by
  obtain ⟨era, y, e, m, hn, hy₀, hy₄₀₀, -, hm₀, -, hem, -, he, hdate⟩ := ofDays_cases n
  have he₀ : 0 ≤ e := by
    rw [daysBefore] at hem
    omega
  have hera : (n + 719468) / 146097 = era := by omega
  rw [hera, hdate]
  dsimp only
  split <;> omega

/-- The months of a year that starts in March, by their length; the last one is February. -/
theorem length_of_month {m : Int} (h₀ : 0 ≤ m) (h₁ : m ≤ 10) (year : Int) :
    daysBefore (m + 1) - daysBefore m =
      daysInMonth year (if m < 10 then m + 3 else m - 9).toNat := by
  have hmonth : m = 0 ∨ m = 1 ∨ m = 2 ∨ m = 3 ∨ m = 4 ∨ m = 5 ∨ m = 6 ∨ m = 7 ∨ m = 8 ∨ m = 9 ∨
    m = 10 := by omega
  rcases hmonth with rfl | rfl | rfl | rfl | rfl | rfl | rfl | rfl | rfl | rfl | rfl
  all_goals rfl

/-- **Every number of days is a date.** -/
theorem isValid_ofDays (n : Int) : (ofDays n).isValid = true := by
  obtain ⟨era, y, e, m, hn, hy₀, hy₄₀₀, hleap, hm₀, hm₁₁, hem, hme, he, hdate⟩ := ofDays_cases n
  rw [hdate]
  simp only [isValid, Bool.and_eq_true, decide_eq_true_eq]
  refine ⟨⟨⟨?_, ?_⟩, ?_⟩, ?_⟩
  · split <;> omega
  · split <;> omega
  · omega
  · by_cases hm : m = 11
    · have hlast : e = 365 → isLeapYear (era * 400 + y + 1) = true := by
        intro h
        obtain ⟨h₄, h₁₀₀⟩ := hleap h
        simp only [isLeapYear, Bool.and_eq_true, Bool.or_eq_true, decide_eq_true_eq]
        omega
      subst hm
      change (e - 337 + 1).toNat ≤ if isLeapYear (era * 400 + y + 1) then 29 else 28
      split
      · omega
      · next hcommon =>
        have hne : e ≠ 365 := fun h => hcommon (hlast h)
        omega
    · have hlength := length_of_month hm₀ (by omega) (era * 400 + y + (if m < 10 then 0 else 1))
      omega

/-- **A date is the date of its days**, so different days are different dates. -/
theorem toDays_ofDays (n : Int) : (ofDays n).toDays = n := by
  obtain ⟨era, y, e, m, hn, hy₀, hy₄₀₀, hleap, hm₀, hm₁₁, hem, hme, he, hdate⟩ := ofDays_cases n
  have hera : (era * 400 + y) / 400 = era := by omega
  have hyear : (era * 400 + y) % 400 = y := by omega
  rw [hdate, toDays]
  dsimp only
  by_cases hm : m < 10
  · have hlate : ¬ (m + 3).toNat ≤ 2 := by omega
    have hmonth : ((m + 3).toNat : Int) - 3 = m := by omega
    rw [if_pos hm, if_pos hm, if_neg hlate, if_neg hlate, Int.add_zero, hera, hyear, hmonth]
    omega
  · have hearly : (m - 9).toNat ≤ 2 := by omega
    have hmonth : ((m - 9).toNat : Int) + 9 = m := by omega
    rw [if_neg hm, if_neg hm, if_pos hearly, if_pos hearly, Int.add_sub_cancel, hera, hyear,
      hmonth]
    omega

end Entitlement.Date
