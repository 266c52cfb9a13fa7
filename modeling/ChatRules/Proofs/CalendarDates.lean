import ChatRules.Instant.Basic
import Mathlib.Tactic.SplitIfs

namespace ChatRules.Calendar

def yearStart (year : Int) : Int :=
  365 * year + year / 4 - year / 100

def commonDays (day : Int) : Int :=
  day - day / 1460 + day / 36524 - day / 146096

theorem commonDays_mono {a b : Int} (h0 : 0 ≤ a) (h : a ≤ b) (hb : b < 146096) :
    commonDays a ≤ commonDays b := by
  simp only [commonDays]
  omega

theorem commonDays_yearStart : ∀ y : Nat, y < 400 →
    365 * (y : Int) ≤ commonDays (yearStart y) ∧
      commonDays (yearStart (y + 1) - 1) < 365 * ((y : Int) + 1) := by
  decide +kernel

theorem yearStart_le_of_common {day : Int} {y : Nat} (hy : y < 400)
    (h0 : 0 ≤ day) (hc : 365 * (y : Int) ≤ commonDays day) : yearStart y ≤ day := by
  obtain _ | k := y
  · exact h0
  · refine Int.not_lt.mp fun hlt => ?_
    rw [Int.natCast_add_one] at hlt hc
    have hs : yearStart ((k : Int) + 1) - 1 < 146096 := by
      simp only [yearStart]
      omega
    have hk := (commonDays_yearStart k (by omega)).2
    have hm : commonDays day ≤ commonDays (yearStart ((k : Int) + 1) - 1) :=
      commonDays_mono h0 (by omega) hs
    omega

theorem lt_yearStart_of_common {day : Int} (h : day < 146096) {y : Nat} (hy : y < 400)
    (hc : commonDays day < 365 * ((y : Int) + 1)) : day < yearStart (y + 1) := by
  refine Int.not_le.mp fun hle => ?_
  by_cases hlast : y = 399
  · have hs : yearStart ((399 : Nat) + 1) = 146096 := by decide
    rw [hlast, hs] at hle
    omega
  · have hk := (commonDays_yearStart (y + 1) (by omega)).1
    have h0 : 0 ≤ yearStart ((y : Int) + 1) := by
      simp only [yearStart]
      omega
    have hm : commonDays (yearStart ((y : Int) + 1)) ≤ commonDays day :=
      commonDays_mono h0 (by omega) h
    rw [Int.natCast_add_one] at hk
    omega

/-- The year of a day of an era; the last day is the leap day that a year of 400 has on top. -/
theorem exists_year {day : Int} (h0 : 0 ≤ day) (h : day < 146097) :
    ∃ y : Nat, y < 400 ∧ commonDays day / 365 = y ∧ yearStart y ≤ day ∧
      (day < yearStart (y + 1) ∨ day = 146096 ∧ y = 399) := by
  by_cases hlast : day = 146096
  · subst hlast
    exact ⟨399, by decide⟩
  · have hd : day < 146096 := by omega
    have hlow : 0 ≤ commonDays day := commonDays_mono (Int.le_refl 0) h0 hd
    have hhigh : commonDays day < 146000 := by
      simp only [commonDays]
      omega
    have hy : (commonDays day / 365).toNat < 400 := by omega
    exact ⟨_, hy, by omega, yearStart_le_of_common hy h0 (by omega),
      .inl (lt_yearStart_of_common hd hy (by omega))⟩

def monthOf (day : Int) : Nat :=
  (if (5 * day + 2) / 153 < 10 then (5 * day + 2) / 153 + 3 else (5 * day + 2) / 153 - 9).toNat

def dayOfMonth (day : Int) : Nat :=
  (day - (153 * ((5 * day + 2) / 153) + 2) / 5 + 1).toNat

theorem monthOf_bounds : ∀ day : Nat, day < 366 →
    1 ≤ monthOf day ∧ monthOf day ≤ 12 ∧ 1 ≤ dayOfMonth day ∧
      dayOfMonth day ≤ (if monthOf day = 2 then (if day = 365 then 29 else 28) else
        monthLength 1 (monthOf day)) ∧
      dayOfYear (monthOf day) (dayOfMonth day) = day := by
  decide +kernel

theorem monthLength_of_ne {month : Nat} (h : month ≠ 2) (year year' : Int) :
    monthLength year month = monthLength year' month := by
  rw [monthLength, monthLength, if_neg h, if_neg h]

theorem isLeap_of_last_day {y : Nat} (h : yearStart (y + 1) - yearStart y = 366 ∨ y = 399)
    (era : Int) : isLeap (y + era * 400 + 1) = true := by
  simp only [yearStart] at h
  simp only [isLeap, Bool.and_eq_true, Bool.or_eq_true, decide_eq_true_eq, bne_iff_ne]
  omega

theorem exists_date (days : Int) :
    ∃ era : Int, ∃ y day : Nat, y < 400 ∧ day < 366 ∧
      days + 719468 = era * 146097 + (yearStart y + day) ∧
      (day = 365 → isLeap (y + era * 400 + 1) = true) ∧
      dateOfDays days =
        (y + era * 400 + (if monthOf day ≤ 2 then 1 else 0), monthOf day, dayOfMonth day) := by
  have hd0 : 0 ≤ (days + 719468) % 146097 := by omega
  have hd1 : (days + 719468) % 146097 < 146097 := by omega
  obtain ⟨y, hy, hc, hs, he⟩ := exists_year hd0 hd1
  have hlen : yearStart (y + 1) - yearStart y = 365 ∨ yearStart (y + 1) - yearStart y = 366 := by
    simp only [yearStart]
    omega
  have hlast : y = 399 → yearStart y = 145731 := by
    rintro rfl
    decide
  obtain ⟨day, hday⟩ : ∃ day : Nat, (days + 719468) % 146097 - yearStart y = day :=
    ⟨_, (Int.toNat_of_nonneg (Int.sub_nonneg.mpr hs)).symm⟩
  refine ⟨(days + 719468) / 146097, y, day, hy, by omega, by omega, ?_, ?_⟩
  · intro h365
    refine isLeap_of_last_day ?_ _
    omega
  · have ht : ∀ x : Int, x.toNat ≤ 2 ↔ x ≤ 2 := by omega
    have hstart : 365 * (y : Int) + (y : Int) / 4 - (y : Int) / 100 = yearStart y := rfl
    rw [commonDays] at hc
    simp only [dateOfDays, hc, hstart, hday, monthOf, dayOfMonth, ht]

theorem daysOfDate_dateOfDays (days : Int) :
    daysOfDate (dateOfDays days).1 (dateOfDays days).2.1 (dateOfDays days).2.2 = days := by
  obtain ⟨era, y, day, hy, hd, hdays, -, hdate⟩ := exists_date days
  obtain ⟨-, -, -, -, hday⟩ := monthOf_bounds day hd
  have hyear : (if monthOf day ≤ 2 then
        (y + era * 400 + (if monthOf day ≤ 2 then 1 else 0) : Int) - 1
      else y + era * 400 + (if monthOf day ≤ 2 then 1 else 0)) = y + era * 400 := by
    split <;> omega
  rw [hdate, daysOfDate, hday]
  simp only [hyear]
  rw [yearStart] at hdays
  omega

theorem isDate_dateOfDays (days : Int) :
    isDate (dateOfDays days).1 (dateOfDays days).2.1 (dateOfDays days).2.2 = true := by
  obtain ⟨era, y, day, -, hd, -, hleap, hdate⟩ := exists_date days
  obtain ⟨hm1, hm2, hd1, hd2, -⟩ := monthOf_bounds day hd
  rw [hdate]
  simp only [isDate, Bool.and_eq_true, decide_eq_true_eq]
  refine ⟨⟨⟨hm1, hm2⟩, hd1⟩, ?_⟩
  by_cases hfeb : monthOf day = 2
  · rw [if_pos hfeb] at hd2
    rw [monthLength, if_pos hfeb, if_pos (Nat.le_of_eq hfeb)]
    by_cases hlast : day = 365
    · rw [if_pos hlast] at hd2
      rw [hleap hlast]
      exact hd2
    · rw [if_neg hlast] at hd2
      refine Nat.le_trans hd2 ?_
      split <;> decide
  · rw [if_neg hfeb] at hd2
    rw [monthLength_of_ne hfeb _ 1]
    exact hd2

theorem monthOf_le_two_iff : ∀ day : Nat, day < 366 → (monthOf day ≤ 2 ↔ 306 ≤ day) := by
  decide +kernel

theorem year_bounds {days : Int} (h0 : -96465292 ≤ days) (h : days ≤ 95026236) :
    -262143 ≤ (dateOfDays days).1 ∧ (dateOfDays days).1 ≤ 262142 := by
  obtain ⟨era, y, day, hy, hd, hdays, -, hdate⟩ := exists_date days
  have hmonth := monthOf_le_two_iff day hd
  rw [yearStart] at hdays
  rw [hdate]
  have hera : -656 ≤ era ∧ era ≤ 655 := by omega
  have hfirst : era = -656 → 256 ≤ y ∧ (y = 256 → 306 ≤ day) := by
    rintro rfl
    omega
  have hlast : era = 655 → y ≤ 142 ∧ (y = 142 → day < 306) := by
    rintro rfl
    omega
  simp only [hmonth]
  split <;> omega

theorem lt_of_isDate {year : Int} {month day : Nat} (h : isDate year month day = true) :
    month < 100 ∧ day < 100 := by
  simp only [isDate, Bool.and_eq_true, decide_eq_true_eq] at h
  obtain ⟨⟨⟨-, hm⟩, -⟩, hd⟩ := h
  have hl : monthLength year month ≤ 31 := by
    rw [monthLength]
    split_ifs <;> decide
  omega

end ChatRules.Calendar
