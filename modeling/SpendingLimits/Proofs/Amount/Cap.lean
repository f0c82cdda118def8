import SpendingLimits.Proofs.Amount.Sum

namespace SpendingLimits.Amount

/-- The largest excess over an amount that rounding takes away: half of its last place, and less
than half of it where a tie goes to the amount above. -/
def slack (cap : Amount) : Nat := (cap.lastPlace - cap.units / cap.lastPlace % 2) / 2

theorem wouldExceed_eq_false {total proposed cap : Amount} :
    wouldExceed total proposed cap = false ↔ ∃ s, add? total proposed = some s ∧ s ≤ cap := by
  rw [wouldExceed]
  cases add? total proposed with
  | none => simp
  | some s => simp [lt_iff_units, le_iff_units]

theorem wouldExceed_mono {total total' proposed proposed' cap cap' : Amount}
    (htotal : total' ≤ total) (hproposed : proposed' ≤ proposed) (hcap : cap ≤ cap')
    (h : wouldExceed total proposed cap = false) : wouldExceed total' proposed' cap' = false := by
  obtain ⟨sum, hsum, hle⟩ := wouldExceed_eq_false.mp h
  obtain ⟨sum', hsum', hle'⟩ := add?_mono htotal hproposed hsum
  exact wouldExceed_eq_false.mpr ⟨sum', hsum', Nat.le_trans hle' (Nat.le_trans hle hcap)⟩

/-- Half of the last place, less where the mantissa is odd, is what rounding takes away. -/
theorem halfEven_eq_iff_slack {cap : Amount} {e : Nat} (he : e < cap.lastPlace) :
    halfEven (cap.units + e) cap.lastPlace = cap.units / cap.lastPlace ↔ e ≤ cap.slack := by
  have hunits := Nat.div_mul_cancel cap.lastPlace_dvd
  have hround := halfEven_mul_add (cap.units / cap.lastPlace) he
  rw [hunits] at hround
  rw [hround, slack]
  split_ifs with h <;> omega

/-- Up to its slack, a value above an amount keeps the digits of the amount. -/
theorem givesUp_of_le_slack {cap : Amount} {e : Nat} (he : e ≤ cap.slack) :
    ∃ d ≤ 28, GivesUp (cap.units + e) d ∧
      halfEven (cap.units + e) (10 ^ d) * 10 ^ d = cap.units := by
  have hpos := cap.lastPlace_pos
  have hq := (halfEven_eq_iff_slack (show e < cap.lastPlace by rw [slack] at he; omega)).mpr he
  have hfind : cap.lastPlace = 10 ^ Nat.find cap.exists_units_lt := rfl
  refine ⟨Nat.find cap.exists_units_lt, Nat.find_min' _ cap.units_lt, ⟨?_, fun k hk => ?_⟩, ?_⟩
  · rw [← hfind, hq]
    exact Nat.div_lt_of_lt_mul (by rw [Nat.mul_comm]; exact cap.units_lt_lastPlace)
  · -- With more digits not even the amount fits.
    have hbig : 2 ^ 96 * 10 ^ k ≤ cap.units + e := by
      have := Nat.find_min cap.exists_units_lt hk
      omega
    have hmono := halfEven_mono (10 ^ k) hbig
    rwa [halfEven_mul_left _ (Nat.pow_pos (by decide))] at hmono
  · rw [← hfind, hq, Nat.div_mul_cancel cap.lastPlace_dvd]

/-- A value above an amount that is rounded to its value lies within the slack. -/
theorem le_slack_of_nearest? {cap r : Amount} {e : Nat} (hr : nearest? (cap.units + e) = some r)
    (h : r.units = cap.units) : e ≤ cap.slack := by
  obtain ⟨d, _, hg, hru⟩ := givesUp_of_nearest? hr
  have hcap : cap.units = halfEven (cap.units + e) (10 ^ d) * 10 ^ d := by omega
  have hplace := hg.lastPlace hcap
  have herr := (nearest?_error hr).1
  rw [lastPlace_congr h] at herr
  have hpos := cap.lastPlace_pos
  refine (halfEven_eq_iff_slack (by omega)).mp ?_
  rw [hplace]
  exact (Nat.div_eq_of_eq_mul_left (hplace ▸ hpos) hcap).symm

theorem nearest?_le_iff {u : Nat} {cap : Amount} :
    (∃ r, nearest? u = some r ∧ r ≤ cap) ↔ u ≤ cap.units + cap.slack := by
  obtain ⟨c, hc, hcu⟩ := nearest?_units cap
  constructor
  · intro h
    obtain ⟨r, hr, hle⟩ := h
    rw [le_iff_units] at hle
    by_cases hu : u ≤ cap.units
    · omega
    · obtain ⟨e, rfl⟩ : ∃ e, u = cap.units + e := ⟨u - cap.units, by omega⟩
      obtain ⟨b, hb, hbr⟩ := nearest?_mono (Nat.le_add_right cap.units e) hr
      obtain rfl : b = c := Option.some.inj (hb.symm.trans hc)
      have := le_slack_of_nearest? hr (by omega)
      omega
  · intro hle
    by_cases hu : u ≤ cap.units
    · obtain ⟨r, hr, hrc⟩ := nearest?_mono hu hc
      exact ⟨r, hr, by rw [le_iff_units]; omega⟩
    · obtain ⟨e, rfl⟩ : ∃ e, u = cap.units + e := ⟨u - cap.units, by omega⟩
      obtain ⟨d, hd, hg, hcap⟩ := givesUp_of_le_slack (show e ≤ cap.slack by omega)
      obtain ⟨r, hr, hru⟩ := hg.nearest? hd
      exact ⟨r, hr, Nat.le_of_eq (hru.trans hcap)⟩

theorem wouldExceed_eq_false_iff {total proposed cap : Amount} :
    wouldExceed total proposed cap = false ↔
      total.units + proposed.units ≤ cap.units + cap.slack := by
  rw [wouldExceed_eq_false, ← nearest?_le_iff]
  constructor
  · intro h
    obtain ⟨s, hs, hle⟩ := h
    obtain ⟨r, hr, hrs⟩ := nearest?_of_add? hs
    exact ⟨r, hr, by rw [le_iff_units] at hle ⊢; omega⟩
  · intro h
    obtain ⟨r, hr, hle⟩ := h
    obtain ⟨s, hs, hsr⟩ := add?_of_nearest? hr
    exact ⟨s, hs, by rw [le_iff_units] at hle ⊢; omega⟩

/-- The slack of a cap has no part in sums that are not rounded. -/
theorem Unrounded.le_of_slack {u : Nat} {cap : Amount} (hu : Unrounded u)
    (h : u ≤ cap.units + cap.slack) : u ≤ cap.units := by
  obtain ⟨r, hr, hle⟩ := nearest?_le_iff.mpr h
  rw [← hu r hr]
  exact hle

end SpendingLimits.Amount
