import Mathlib.Order.Monotone.Basic
import SpendingLimits.Time.Calendar

namespace SpendingLimits.Time

/-- The number in its cycle of the first day of a year, with years from March on. -/
def firstDay (year : Nat) : Nat := 365 * year + year / 4 - year / 100 + year / 400

/-- The year of a day of a cycle. -/
def yearOfDay (day : Nat) : Nat := (day - day / 1460 + day / 36524 - day / 146096) / 365

theorem yearOfDay_mono {c d : Nat} (h : c ≤ d) : yearOfDay c ≤ yearOfDay d := by
  refine monotone_nat_of_le_succ (fun n => ?_) h
  exact Nat.div_le_div_right (by omega)

/-- Every year of a cycle begins and ends where it should. -/
theorem yearOfDay_firstDay :
    ∀ y < 400, yearOfDay (firstDay y) = y ∧ yearOfDay (firstDay (y + 1) - 1) = y := by
  decide +kernel

theorem firstDay_yearOfDay {day : Nat} (h : day < 146097) :
    yearOfDay day < 400 ∧ firstDay (yearOfDay day) ≤ day ∧ day < firstDay (yearOfDay day + 1) := by
  have hlt : yearOfDay day < 400 := by
    have hlast : yearOfDay 146096 = 399 := rfl
    have := yearOfDay_mono (Nat.le_of_lt_succ h)
    omega
  refine ⟨hlt, ?_, ?_⟩
  · -- The day before a year lies in the year before.
    by_contra hbefore
    obtain ⟨y, hy⟩ : ∃ y, yearOfDay day = y + 1 := by
      refine ⟨yearOfDay day - 1, ?_⟩
      have : firstDay 0 = 0 := rfl
      have hpos : yearOfDay day ≠ 0 := by
        intro hzero
        rw [hzero] at hbefore
        omega
      omega
    rw [hy] at hbefore hlt
    have hle := yearOfDay_mono (show day ≤ firstDay (y + 1) - 1 by omega)
    rw [(yearOfDay_firstDay y (by omega)).2] at hle
    omega
  · by_contra hafter
    by_cases hlast : yearOfDay day + 1 < 400
    · have hle := yearOfDay_mono (Nat.le_of_not_lt hafter)
      rw [(yearOfDay_firstDay _ hlast).1] at hle
      omega
    · have hend : firstDay 400 = 146097 := rfl
      rw [show yearOfDay day + 1 = 400 by omega] at hafter
      omega

/-- A day of the calendar by its cycle, its year in the cycle and its place in the year; months are
counted from March on. -/
structure Place (n : Int) (cycle : Int) (year ofYear : Nat) : Prop where
  day_eq : n + epochShift = cycle * 146097 + (firstDay year + ofYear : Nat)
  year_lt : year < 400
  ofYear_lt : firstDay year + ofYear < firstDay (year + 1)

theorem exists_place (n : Int) :
    ∃ cycle year ofYear, Place n cycle year ofYear ∧
      Date.ofDay n =
        if (5 * ofYear + 2) / 153 < 10 then
          ⟨cycle * 400 + year, (5 * ofYear + 2) / 153 + 3,
            ofYear - (153 * ((5 * ofYear + 2) / 153) + 2) / 5 + 1⟩
        else
          ⟨cycle * 400 + year + 1, (5 * ofYear + 2) / 153 - 9,
            ofYear - (153 * ((5 * ofYear + 2) / 153) + 2) / 5 + 1⟩ := by
  have hpos : 0 ≤ (n + epochShift) % 146097 := Int.emod_nonneg _ (by decide)
  have hlt : (n + epochShift) % 146097 < 146097 := Int.emod_lt_of_pos _ (by decide)
  obtain ⟨hyear, hfirst, hnext⟩ :=
    @firstDay_yearOfDay ((n + epochShift) % 146097).toNat (by omega)
  have hstart : firstDay (yearOfDay ((n + epochShift) % 146097).toNat) =
      365 * yearOfDay ((n + epochShift) % 146097).toNat +
        yearOfDay ((n + epochShift) % 146097).toNat / 4 -
        yearOfDay ((n + epochShift) % 146097).toNat / 100 := by
    rw [firstDay]
    omega
  refine ⟨(n + epochShift) / 146097, yearOfDay ((n + epochShift) % 146097).toNat,
    ((n + epochShift) % 146097).toNat - firstDay (yearOfDay ((n + epochShift) % 146097).toNat),
    ⟨by omega, hyear, by omega⟩, ?_⟩
  rw [hstart]
  rfl

/-- A year has 366 days when the February at its end has 29. -/
theorem length_of_year {year : Nat} (cycle : Int) (h : year < 400) :
    firstDay year + 365 ≤ firstDay (year + 1) ∧ firstDay (year + 1) ≤ firstDay year + 366 ∧
      (firstDay (year + 1) = firstDay year + 366 →
        isLeapYear (cycle * 400 + year + 1) = true) := by
  simp only [firstDay, isLeapYear, Bool.and_eq_true, Bool.or_eq_true, beq_iff_eq, bne_iff_ne]
  omega

/-- The date of a day has the number of that day. -/
theorem toDay_ofDay (n : Int) : (Date.ofDay n).toDay = n := by
  obtain ⟨cycle, year, ofYear, hplace, hdate⟩ := exists_place n
  obtain ⟨hday, hyear, hofYear⟩ := hplace
  obtain ⟨_, hlength, _⟩ := length_of_year cycle hyear
  have hstart : firstDay year = 365 * year + year / 4 - year / 100 := by
    rw [firstDay]
    omega
  rw [hdate]
  generalize hmonth : (5 * ofYear + 2) / 153 = month
  have hback : (153 * month + 2) / 5 ≤ ofYear := by omega
  split
  · next h =>
    rw [Date.toDay]
    simp only [show ¬month + 3 ≤ 2 by omega, if_false, show (month + 3 + 9) % 12 = month by omega]
    omega
  · next h =>
    rw [Date.toDay]
    simp only [show month - 9 ≤ 2 by omega, if_true, show (month - 9 + 9) % 12 = month by omega]
    omega

/-- The date of a day is one of the calendar. -/
theorem isValid_ofDay (n : Int) : (Date.ofDay n).isValid = true := by
  obtain ⟨cycle, year, ofYear, hplace, hdate⟩ := exists_place n
  obtain ⟨_, hyear, hofYear⟩ := hplace
  obtain ⟨_, hlength, hleap⟩ := length_of_year cycle hyear
  rw [hdate]
  generalize hmonth : (5 * ofYear + 2) / 153 = month
  split
  · next h =>
    have hfebruary : month + 3 ≠ 2 := by omega
    simp only [Date.isValid, daysInMonth, if_neg hfebruary, Bool.and_eq_true, decide_eq_true_eq]
    split <;> omega
  · next h =>
    simp only [Date.isValid, daysInMonth, Bool.and_eq_true, decide_eq_true_eq]
    by_cases hfebruary : month - 9 = 2
    · by_cases hlast : ofYear = 365
      · have hlong := hleap (by omega)
        rw [if_pos hfebruary, if_pos hlong]
        omega
      · rw [if_pos hfebruary]
        split <;> omega
    · rw [if_neg hfebruary]
      split <;> omega

/-- The years of the days from the first of January -262143 to the last of December 262142. -/
theorem year_ofDay {n : Int} (hfirst : -96465292 ≤ n) (hlast : n ≤ 95026236) :
    -262143 ≤ (Date.ofDay n).year ∧ (Date.ofDay n).year ≤ 262142 := by
  obtain ⟨cycle, year, ofYear, hplace, hdate⟩ := exists_place n
  obtain ⟨hday, hyear, hofYear⟩ := hplace
  simp only [firstDay, epochShift] at hday hofYear
  have hcycle : -656 ≤ cycle ∧ cycle ≤ 655 := by omega
  -- Only in these two years, which begin in March, does the day tell more than the year.
  have hyears : -262144 ≤ cycle * 400 + year ∧ cycle * 400 + year ≤ 262142 := by
    obtain hcycle | hcycle | hcycle :
      cycle = -656 ∨ cycle = 655 ∨ -656 < cycle ∧ cycle < 655 := by omega
    all_goals omega
  obtain hyear | hyear | hyear : cycle * 400 + year = -262144 ∨ cycle * 400 + year = 262142 ∨
    -262144 < cycle * 400 + year ∧ cycle * 400 + year < 262142 := by omega
  · have : cycle = -656 ∧ year = 256 := by omega
    rw [hdate, if_neg (by omega)]
    dsimp only
    omega
  · have : cycle = 655 ∧ year = 142 := by omega
    rw [hdate, if_pos (by omega)]
    dsimp only
    omega
  · rw [hdate]
    split <;> dsimp only <;> omega

end SpendingLimits.Time
