import SpendingLimits.Proofs.Amount.Cap
import SpendingLimits.Proofs.Amount.Rest

namespace SpendingLimits.Amount

variable {a b s total total' proposed proposed' cap cap' : Amount} {u : Nat}

/-- An amount that stands for an exact value. It is the value where any amount has that value, and
otherwise off by half a unit of its own last digit at most. -/
structure Rounds (u : Nat) (r : Amount) : Prop where
  exact : (∃ a : Amount, a.units = u) → r.units = u
  lower : 2 * u ≤ 2 * r.units + 10 ^ (28 - r.scale)
  upper : 2 * r.units ≤ 2 * u + 10 ^ (28 - r.scale)

theorem rounds_add? (h : add? a b = some s) : Rounds (a.units + b.units) s := by
  obtain ⟨hlower, hupper⟩ := add?_error h
  have hplace : s.lastPlace ≤ 10 ^ (28 - s.scale) :=
    Nat.le_of_dvd (Nat.pow_pos (by decide)) s.lastPlace_dvd_scale
  refine ⟨fun hamount => ?_, by omega, by omega⟩
  obtain ⟨r, hr, hrs⟩ := nearest?_of_add? h
  rw [← hrs]
  exact unrounded_iff.mpr (.inr hamount) r hr

/-- Half a unit below `2 ^ 96` is a tie, and the even neighbour is out of range. -/
theorem nearest?_eq_none_iff : nearest? u = none ↔ (2 ^ 97 - 1) * 10 ^ 28 ≤ 2 * u := by
  refine ⟨le_of_nearest?_eq_none, fun h => ?_⟩
  have htie : nearest? ((2 ^ 97 - 1) * (5 * 10 ^ 27)) = none := by decide
  cases hr : nearest? u with
  | none => rfl
  | some r =>
    obtain ⟨q, hq, _⟩ := nearest?_mono (show (2 ^ 97 - 1) * (5 * 10 ^ 27) ≤ u by omega) hr
    rw [htie] at hq
    cases hq

theorem add?_eq_none_iff :
    add? a b = none ↔ (2 ^ 97 - 1) * 10 ^ 28 ≤ 2 * (a.units + b.units) := by
  rw [← nearest?_eq_none_iff, ← Option.map_eq_none_iff (f := units), add?_units,
    Option.map_eq_none_iff]

theorem add?_comm_units (a b : Amount) : (add? a b).map units = (add? b a).map units := by
  rw [add?_units, add?_units, Nat.add_comm]

theorem le_add?_right (h : add? a b = some s) : b ≤ s := by
  have hcomm := add?_comm_units a b
  rw [h, Option.map_some] at hcomm
  obtain ⟨t, ht, hts⟩ := Option.map_eq_some_iff.mp hcomm.symm
  rw [le_iff_units, ← hts]
  exact le_add? ht

/-- A total that is not smaller leaves no more of a cap that is not larger. -/
theorem remainingUnder_mono (htotal : total ≤ total') (hcap : cap' ≤ cap) :
    remainingUnder total' cap' ≤ remainingUnder total cap := by
  obtain ⟨r, hr, hrest⟩ := nearest?_rest total cap
  obtain ⟨q, hq, hrest'⟩ := nearest?_rest total' cap'
  have hle : cap'.units - total'.units ≤ cap.units - total.units := by
    rw [le_iff_units] at htotal hcap
    omega
  obtain ⟨p, hp, hpr⟩ := nearest?_mono hle hr
  obtain rfl : p = q := Option.some.inj (hp.symm.trans hq)
  rw [le_iff_units, ← hrest, ← hrest']
  exact hpr

theorem exceeds_mono (htotal : total ≤ total') (hproposed : proposed ≤ proposed')
    (hcap : cap' ≤ cap) (h : wouldExceed total proposed cap = true) :
    wouldExceed total' proposed' cap' = true := by
  by_contra hle
  rw [Bool.not_eq_true] at hle
  rw [wouldExceed_mono htotal hproposed hcap hle] at h
  cases h

/-- Sums are correctly rounded: one is out of range exactly when the exact sum is no less than
`2 ^ 96 - 1 / 2`, and in range it is exact where it can be, off by half a unit of its last digit
where it cannot, the same value in either order and not below either operand. Arithmetic is
monotone: a smaller operand has a sum that is there and is not larger, a larger total or amount
exceeds a cap that is no larger, and a smaller total leaves no less of a larger cap. -/
theorem arithmetic_rounded (a b : Amount) :
    (add? a b = none ↔ (2 ^ 97 - 1) * 10 ^ 28 ≤ 2 * (a.units + b.units)) ∧
    (∀ s, add? a b = some s → Rounds (a.units + b.units) s ∧ a ≤ s ∧ b ≤ s) ∧
    (add? a b).map units = (add? b a).map units ∧
    (∀ c t, b ≤ c → add? a c = some t → ∃ s, add? a b = some s ∧ s ≤ t) ∧
    (∀ a' b' cap cap', a ≤ a' → b ≤ b' → cap' ≤ cap → wouldExceed a b cap = true →
      wouldExceed a' b' cap' = true) ∧
    ∀ a' cap cap', a ≤ a' → cap' ≤ cap → remainingUnder a' cap' ≤ remainingUnder a cap := by
  refine ⟨add?_eq_none_iff, fun s hs => ⟨rounds_add? hs, le_add? hs, le_add?_right hs⟩,
    add?_comm_units a b, ?_, ?_, ?_⟩
  · intro c t hbc ht
    exact add?_mono (Nat.le_refl _) hbc ht
  · intro a' b' cap cap' hab hbb hcap h
    exact exceeds_mono hab hbb hcap h
  · intro a' cap cap' hab hcap
    exact remainingUnder_mono hab hcap

/-- Without its last digit the sum of `b` would round up to a mantissa of `2 ^ 96`, so it gives up
one digit more, and the sum of the smaller `c` keeps a digit that it does not. Half a unit above the
greatest amount is out of range, and a cap that the sum of `b` exceeds is exceeded there too. When
1.5 of the cap `7 * 10 ^ 28 + 1` are used the rest is rounded up, and when 2 are used it is not. -/
theorem arithmetic_rounded_of_carry :
    let amount (m s : Nat) : Amount := (ofParts? m s).getD zero
    let a := amount (2 ^ 96 - 1) 1
    let b := amount 5 2
    let c := amount 4 2
    let sum := amount ((2 ^ 96 + 4) / 10) 0
    let greatest := amount (2 ^ 96 - 1) 0
    let half := amount 5 1
    let below := amount ((2 ^ 96 + 4) / 10 - 1) 0
    let cap := amount (7 * 10 ^ 28 + 1) 0
    (add? a b = some sum ∧ Rounds (a.units + b.units) sum ∧ a ≤ sum ∧ b ≤ sum) ∧
    (c ≤ b ∧ add? a c = some a ∧ a ≤ sum) ∧
    (add? greatest half = none ∧ (2 ^ 97 - 1) * 10 ^ 28 ≤ 2 * (greatest.units + half.units)) ∧
    (a ≤ greatest ∧ b ≤ half ∧ wouldExceed a b below = true ∧
      wouldExceed greatest half below = true) ∧
    amount 15 1 ≤ amount 2 0 ∧
      remainingUnder (amount 2 0) cap ≤ remainingUnder (amount 15 1) cap := by
  intro amount a b c sum greatest half below cap
  have hsum : add? a b = some sum := by decide
  have hsmaller : add? a c = some a := by decide
  have hcb : c ≤ b := by decide
  have hout : add? greatest half = none := by decide
  have hagreatest : a ≤ greatest := by decide
  have hbhalf : b ≤ half := by decide
  have hexceeds : wouldExceed a b below = true := by decide
  have hused : amount 15 1 ≤ amount 2 0 := by decide
  obtain ⟨_, hrounds, _, _, hmono, _⟩ := arithmetic_rounded a b
  obtain ⟨_, _, _, hless, _⟩ := arithmetic_rounded a c
  obtain ⟨hrange, _⟩ := arithmetic_rounded greatest half
  obtain ⟨_, _, _, _, _, hrest⟩ := arithmetic_rounded (amount 15 1) zero
  refine ⟨⟨hsum, hrounds sum hsum⟩, ⟨hcb, hsmaller, ?_⟩, ⟨hout, hrange.mp hout⟩,
    ⟨hagreatest, hbhalf, hexceeds, ?_⟩, hused, ?_⟩
  · obtain ⟨s, hs, hle⟩ := hless b sum hcb hsum
    obtain rfl : a = s := Option.some.inj (hsmaller.symm.trans hs)
    exact hle
  · exact hmono greatest half below below hagreatest hbhalf (Nat.le_refl _) hexceeds
  · exact hrest (amount 2 0) cap cap hused (Nat.le_refl _)

end SpendingLimits.Amount
