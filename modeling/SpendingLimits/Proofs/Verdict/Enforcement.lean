import SpendingLimits.Proofs.Amount.Cap
import SpendingLimits.Verdict

namespace SpendingLimits.Profile

open Amount

/-- A proposed amount within the bounds of a transaction, which takes no window above its cap. -/
structure Respects (p : Profile) (usage : Usage) (proposed : Amount) : Prop where
  low : p.minTransaction ≤ proposed
  high : proposed ≤ p.maxTransaction
  caps : ∀ w cap, p.cap? w = some cap → (usage.total w).units + proposed.units ≤ cap.units

theorem isExceeded_eq_false {p : Profile} {usage : Usage} {proposed : Amount} {w : Window} :
    p.isExceeded usage proposed w = false ↔
      ∀ cap, p.cap? w = some cap → wouldExceed (usage.total w) proposed cap = false := by
  rw [isExceeded]
  cases p.cap? w with
  | none => simp
  | some cap => simp

theorem find?_windowOrder_eq_none {f : Window → Bool} :
    windowOrder.find? f = none ↔ ∀ w, f w = false := by
  rw [windowOrder, List.find?_eq_none]
  constructor
  · intro h w
    cases w <;> exact Bool.eq_false_iff.mpr (h _ (by simp))
  · intro h w _
    simp [h w]

theorem judge_status_eq_allowed {p : Profile} {usage : Usage} {proposed : Amount} :
    (p.judge usage proposed).status = .allowed ↔
      p.minTransaction ≤ proposed ∧ proposed ≤ p.maxTransaction ∧
        ∀ w, p.isExceeded usage proposed w = false := by
  rw [judge, ← find?_windowOrder_eq_none]
  simp only [lt_iff_units, le_iff_units]
  split_ifs with hlow hhigh
  · exact iff_of_false (by simp) (by omega)
  · exact iff_of_false (by simp) (by omega)
  · have hbounds : p.minTransaction.units ≤ proposed.units ∧
        proposed.units ≤ p.maxTransaction.units := by omega
    cases windowOrder.find? (p.isExceeded usage proposed) with
    | none => simp [hbounds]
    | some w => simp

/-- An amount is allowed exactly when it is within the bounds of a transaction and the exact sums
are within the caps and their slack. Where the sums are not rounded they are within the caps. -/
theorem judge_allowed_iff (p : Profile) (usage : Usage) (proposed : Amount) :
    ((p.judge usage proposed).status = .allowed ↔
      p.minTransaction ≤ proposed ∧ proposed ≤ p.maxTransaction ∧
        ∀ w cap, p.cap? w = some cap →
          (usage.total w).units + proposed.units ≤ cap.units + cap.slack) ∧
    ((∀ w, p.cap? w ≠ none → Unrounded ((usage.total w).units + proposed.units)) →
      ((p.judge usage proposed).status = .allowed ↔ p.Respects usage proposed)) := by
  have hslack : (p.judge usage proposed).status = .allowed ↔
      p.minTransaction ≤ proposed ∧ proposed ≤ p.maxTransaction ∧
        ∀ w cap, p.cap? w = some cap →
          (usage.total w).units + proposed.units ≤ cap.units + cap.slack := by
    rw [judge_status_eq_allowed]
    simp only [isExceeded_eq_false, wouldExceed_eq_false_iff]
  refine ⟨hslack, fun hexact => ?_⟩
  rw [hslack]
  constructor
  · intro h
    obtain ⟨hlow, hhigh, hcaps⟩ := h
    exact ⟨hlow, hhigh, fun w cap hcap =>
      (hexact w (by simp [hcap])).le_of_slack (hcaps w cap hcap)⟩
  · intro h
    exact ⟨h.low, h.high, fun w cap hcap => Nat.le_add_right_of_le (h.caps w cap hcap)⟩

/-- A daily cap of `10 ^ 28` that is used up lets a cent pass: the sum has 31 digits and is rounded
down to the cap. -/
theorem judge_allows_above_cap :
    ¬∀ (p : Profile) (usage : Usage) (proposed : Amount),
      (p.judge usage proposed).status = .allowed → p.Respects usage proposed := by
  intro h
  let cap : Amount := ⟨10 ^ 28, 0, false, by decide, by decide, by decide⟩
  let cent : Amount := ⟨1, 2, false, by decide, by decide, by decide⟩
  let p : Profile := ⟨⟨"basic"⟩, "Basic", cent, ofWhole 500, some cap, none, none, zero⟩
  have hcaps := (h p ⟨cap, zero, zero, zero⟩ cent (by decide)).caps .daily cap rfl
  exact absurd hcaps (by decide)

end SpendingLimits.Profile
