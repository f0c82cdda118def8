import SpendingLimits.Proofs.Amount.Sum
import SpendingLimits.Proofs.Amount.Value

namespace SpendingLimits.Amount

variable {total cap a b : Amount}

theorem exists_sub? (h : b ≤ a) : ∃ c, sub? a b = some c := by
  obtain ⟨_, ha, _⟩ := nearest?_units a
  obtain ⟨r, hr, _⟩ := nearest?_mono (Nat.sub_le a.units b.units) ha
  have hsub := sub?_units h
  rw [hr, Option.map_some] at hsub
  obtain ⟨c, hc, _⟩ := Option.map_eq_some_iff.mp hsub
  exact ⟨c, hc⟩

/-- Whenever something is left of a cap, the subtraction has a result, and it is what is left. -/
theorem sub?_eq_remainingUnder (h : ¬cap ≤ total) :
    sub? cap total = some (remainingUnder total cap) := by
  obtain ⟨rest, hrest⟩ := exists_sub? (Nat.le_of_not_le h)
  rw [remainingUnder, if_neg h, hrest, Option.getD_some]

theorem nearest?_rest (total cap : Amount) :
    ∃ r, nearest? (cap.units - total.units) = some r ∧
      r.units = (remainingUnder total cap).units := by
  by_cases h : cap ≤ total
  · have hnone : cap.units - total.units = zero.units := Nat.sub_eq_zero_of_le h
    rw [hnone, remainingUnder, if_pos h]
    exact nearest?_units zero
  · have hsub := sub?_units (Nat.le_of_not_le h)
    rw [sub?_eq_remainingUnder h, Option.map_some] at hsub
    exact Option.map_eq_some_iff.mp hsub.symm

theorem remainingUnder_le (h : cap.units - total.units ≤ a.units) :
    remainingUnder total cap ≤ a := by
  obtain ⟨r, hr, hrest⟩ := nearest?_rest total cap
  rw [le_iff_units, ← hrest]
  exact nearest?_le h hr

theorem isZero_remainingUnder : (remainingUnder total cap).isZero = true ↔ cap ≤ total := by
  obtain ⟨r, hr, hrest⟩ := nearest?_rest total cap
  rw [isZero_iff_units, ← hrest]
  constructor
  · intro hzero
    by_contra hlt
    -- One unit is an amount, so a rest of one unit or more is not rounded to less.
    let unit : Amount := ⟨1, 28, false, by decide, by decide, by decide⟩
    have hunit : unit.units = 1 := by decide
    have hrest : unit.units ≤ cap.units - total.units := by
      rw [le_iff_units] at hlt
      omega
    have hle : unit.units ≤ r.units := le_nearest? hrest hr
    omega
  · intro hle
    have hnone : r.units ≤ zero.units := nearest?_le (Nat.sub_le_iff_le_add'.mpr hle) hr
    exact Nat.eq_zero_of_le_zero hnone

/-- What is left of a cap is the exact difference, unless the difference has to be rounded. -/
theorem remainingUnder_units (h : Unrounded (cap.units - total.units)) :
    (remainingUnder total cap).units = cap.units - total.units := by
  obtain ⟨r, hr, hrest⟩ := nearest?_rest total cap
  rw [← hrest, h r hr]

end SpendingLimits.Amount
