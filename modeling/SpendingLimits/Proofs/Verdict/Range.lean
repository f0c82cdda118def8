import SpendingLimits.Proofs.Verdict.Denial

namespace SpendingLimits.Profile

open Amount

variable {p : Profile} {usage : Usage} {proposed : Amount} {w : Window} {cap : Amount}

theorem Denies.high_eq (h : p.Denies usage proposed w cap) :
    (p.judge usage proposed).high = remainingUnder (usage.total w) cap := by rw [h.judge]

/-- The offer behind a denial is not above the amount that is denied. -/
theorem Denies.high_le_proposed (h : p.Denies usage proposed w cap) :
    (p.judge usage proposed).high ≤ proposed := by
  rw [h.high_eq]
  have hexceeds := wouldExceed_eq_true_iff.mp h.exceeds
  exact remainingUnder_le (by omega)

theorem Denies.high_le_cap (h : p.Denies usage proposed w cap) :
    (p.judge usage proposed).high ≤ cap := by
  rw [h.high_eq]
  exact remainingUnder_le (Nat.sub_le _ _)

theorem Denies.isZero_high (h : p.Denies usage proposed w cap) :
    (p.judge usage proposed).high.isZero = true ↔ cap ≤ usage.total w := by
  rw [h.high_eq]
  exact isZero_remainingUnder

theorem judge_high_le (p : Profile) (usage : Usage) (proposed : Amount) :
    (p.judge usage proposed).high ≤ p.maxTransaction := by
  rcases p.judge_cases usage proposed with hdenies | hwhole
  · obtain ⟨w, cap, hdenies⟩ := hdenies
    exact Nat.le_trans hdenies.high_le_proposed hdenies.high
  · obtain ⟨status, hjudge, _⟩ := hwhole
    rw [hjudge]
    exact Nat.le_refl _

/-- Nothing that is computed for a range fails, whatever is rounded: where something is left of a
cap, the subtraction has a result. The range ends between zero and the greatest amount of the
profile. Behind a window that denies, it ends neither above the proposed amount nor above the cap of
the window, and it ends at zero exactly when the total of the window has reached the cap. -/
theorem judge_range (p : Profile) (usage : Usage) (proposed : Amount) :
    (∀ total cap, ¬cap ≤ total → sub? cap total = some (remainingUnder total cap)) ∧
    zero ≤ (p.judge usage proposed).high ∧
    (p.judge usage proposed).high ≤ p.maxTransaction ∧
    ∀ w, (p.judge usage proposed).status = .limitReached w →
      ∃ cap, p.cap? w = some cap ∧
        (p.judge usage proposed).high ≤ proposed ∧
        (p.judge usage proposed).high ≤ cap ∧
        ((p.judge usage proposed).high.isZero = true ↔ cap ≤ usage.total w) := by
  refine ⟨fun _ _ => sub?_eq_remainingUnder, Nat.zero_le _, judge_high_le p usage proposed, ?_⟩
  intro w h
  obtain ⟨cap, hdenies⟩ := judge_status_eq_limitReached.mp h
  exact ⟨cap, hdenies.cap_eq, hdenies.high_le_proposed, hdenies.high_le_cap, hdenies.isZero_high⟩

/-- When 1.5 of the cap `7 * 10 ^ 28 + 1` are used, the exact rest has a digit more than fits, and
it is rounded up. -/
theorem judge_range_of_rounded :
    let amount (m s : Nat) : Amount := (ofParts? m s).getD zero
    let cap := amount (7 * 10 ^ 28 + 1) 0
    let total := amount 15 1
    let p : Profile :=
      ⟨⟨"basic"⟩, "Basic", amount 1 0, amount (2 ^ 96 - 1) 0, none, none, some cap, zero⟩
    let usage : Usage := ⟨zero, zero, total, total⟩
    let proposed := amount (7 * 10 ^ 28 + 5) 0
    let high := (p.judge usage proposed).high
    (¬cap ≤ total ∧ (p.judge usage proposed).status = .limitReached .monthly ∧
      cap.units - total.units < high.units) ∧
    sub? cap total = some high ∧ zero ≤ high ∧ high ≤ p.maxTransaction ∧ high ≤ proposed ∧
    high ≤ cap ∧ high.isZero = false := by
  intro amount cap total p usage proposed high
  have hleft : ¬cap ≤ total := by decide
  have hdenied : (p.judge usage proposed).status = .limitReached .monthly := by decide
  have hhigh : remainingUnder total cap = high := by decide
  obtain ⟨hsub, hzero, hmax, hwindow⟩ := judge_range p usage proposed
  obtain ⟨_, hcap, hproposed, hle, hexhausted⟩ := hwindow .monthly hdenied
  obtain rfl := Option.some.inj hcap
  refine ⟨⟨hleft, hdenied, by decide⟩, ?_, hzero, hmax, hproposed, hle, ?_⟩
  · rw [hsub total cap hleft, hhigh]
  · exact Bool.eq_false_iff.mpr fun h => hleft (hexhausted.mp h)

end SpendingLimits.Profile
