import SpendingLimits.Proofs.Verdict.Specification

namespace SpendingLimits

namespace Amount

theorem wouldExceed_eq_true_iff {total proposed cap : Amount} :
    wouldExceed total proposed cap = true ↔
      cap.units + cap.slack < total.units + proposed.units := by
  rw [← Bool.not_eq_false, wouldExceed_eq_false_iff, Nat.not_le]

end Amount

namespace Profile

open Amount

/-- A window with this cap denies the amount, which is within the bounds of a transaction: its total
would exceed the cap, and that of no window before it in the order would. -/
structure Denies (p : Profile) (usage : Usage) (proposed : Amount) (w : Window) (cap : Amount) :
    Prop where
  low : p.minTransaction ≤ proposed
  high : proposed ≤ p.maxTransaction
  cap_eq : p.cap? w = some cap
  exceeds : wouldExceed (usage.total w) proposed cap = true
  passes : ∀ v ∈ w.before, p.isExceeded usage proposed v = false

variable {p : Profile} {usage : Usage} {proposed : Amount} {w : Window} {cap : Amount}

theorem isExceeded_eq_true :
    p.isExceeded usage proposed w = true ↔
      ∃ cap, p.cap? w = some cap ∧ wouldExceed (usage.total w) proposed cap = true := by
  rw [isExceeded, Option.any_eq_true]

theorem Denies.isExceeded (h : p.Denies usage proposed w cap) :
    p.isExceeded usage proposed w = true :=
  isExceeded_eq_true.mpr ⟨cap, h.cap_eq, h.exceeds⟩

theorem Denies.find?_windowOrder (h : p.Denies usage proposed w cap) :
    windowOrder.find? (p.isExceeded usage proposed) = some w :=
  find?_windowOrder_eq_some.mpr ⟨h.isExceeded, fun v hv => Bool.eq_false_iff.mp (h.passes v hv)⟩

/-- The whole verdict behind a window that denies. -/
theorem Denies.judge (h : p.Denies usage proposed w cap) :
    p.judge usage proposed =
      ⟨.limitReached w, p.minTransaction, remainingUnder (usage.total w) cap⟩ := by
  have hlow : ¬proposed < p.minTransaction := Nat.not_lt.mpr h.low
  have hhigh : ¬p.maxTransaction < proposed := Nat.not_lt.mpr h.high
  rw [Profile.judge, if_neg hlow, if_neg hhigh, h.find?_windowOrder]
  simp only [headroom, h.cap_eq]

/-- A verdict is a denial by a window, or it has the whole range of the profile. -/
theorem judge_cases (p : Profile) (usage : Usage) (proposed : Amount) :
    (∃ w cap, p.Denies usage proposed w cap) ∨
    ∃ status, p.judge usage proposed = ⟨status, p.minTransaction, p.maxTransaction⟩ ∧
      (status = .tooSmall ∨ status = .tooLarge ∧ p.maxTransaction < proposed ∨
        status = .allowed) := by
  rw [judge]
  split_ifs with hlow hhigh
  · exact .inr ⟨.tooSmall, rfl, .inl rfl⟩
  · exact .inr ⟨.tooLarge, rfl, .inr (.inl ⟨rfl, hhigh⟩)⟩
  · cases hfind : windowOrder.find? (p.isExceeded usage proposed) with
    | none => exact .inr ⟨.allowed, rfl, .inr (.inr rfl)⟩
    | some w =>
      obtain ⟨hexceeded, hbefore⟩ := find?_windowOrder_eq_some.mp hfind
      obtain ⟨cap, hcap, hexceeds⟩ := isExceeded_eq_true.mp hexceeded
      exact .inl ⟨w, cap, Nat.le_of_not_lt hlow, Nat.le_of_not_lt hhigh, hcap, hexceeds,
        fun u hu => Bool.eq_false_iff.mpr (hbefore u hu)⟩

theorem judge_status_eq_limitReached :
    (p.judge usage proposed).status = .limitReached w ↔ ∃ cap, p.Denies usage proposed w cap := by
  constructor
  · intro h
    rcases p.judge_cases usage proposed with hdenies | hwhole
    · obtain ⟨v, cap, hdenies⟩ := hdenies
      rw [hdenies.judge] at h
      obtain rfl := Status.limitReached.inj h
      exact ⟨cap, hdenies⟩
    · obtain ⟨status, hjudge, hstatus⟩ := hwhole
      rw [hjudge] at h
      obtain rfl : status = .limitReached w := h
      simp at hstatus
  · intro h
    obtain ⟨cap, hdenies⟩ := h
    rw [hdenies.judge]

theorem Denies.trips (h : p.Denies usage proposed w cap) : p.Trips usage proposed w :=
  ⟨cap, h.cap_eq, Nat.lt_of_le_of_lt (Nat.le_add_right _ _) (wouldExceed_eq_true_iff.mp h.exceeds)⟩

theorem Respects.passes (h : p.Respects usage proposed) (w : Window) :
    p.isExceeded usage proposed w = false :=
  isExceeded_eq_false.mpr fun cap hcap =>
    wouldExceed_eq_false_iff.mpr (Nat.le_add_right_of_le (h.caps w cap hcap))

/-- However the sums are rounded: an amount whose exact sums are within the caps is allowed, and
where a window denies an amount, the exact sum is above the cap of that very window. -/
theorem judge_denial_justified (p : Profile) (usage : Usage) (proposed : Amount) :
    (p.Respects usage proposed → (p.judge usage proposed).status = .allowed) ∧
    ∀ w, (p.judge usage proposed).status = .limitReached w → p.Trips usage proposed w := by
  constructor
  · intro h
    exact judge_status_eq_allowed.mpr ⟨h.low, h.high, h.passes⟩
  · intro w h
    obtain ⟨cap, hdenies⟩ := judge_status_eq_limitReached.mp h
    exact hdenies.trips

/-- Under a cap of `5 * 10 ^ 28` of which 1 is left, sums with cents have two digits more than fit.
With 0.75 the sum is rounded up to the cap, not above it; with 1.75 it is rounded above the cap, and
the exact sum is above it too. A sum out of range is above even the greatest amount. -/
theorem judge_denial_justified_of_rounded :
    let amount (m s : Nat) : Amount := (ofParts? m s).getD zero
    let p (cap : Amount) : Profile :=
      ⟨⟨"basic"⟩, "Basic", amount 1 2, amount 500 0, none, none, some cap, zero⟩
    let usage (total : Amount) : Usage := ⟨zero, zero, total, total⟩
    let cap := amount (5 * 10 ^ 28) 0
    let total := amount (5 * 10 ^ 28 - 1) 0
    let greatest := amount (2 ^ 96 - 1) 0
    ((add? total (amount 75 2)).map units = some cap.units ∧
      (p cap).Respects (usage total) (amount 75 2) ∧
      ((p cap).judge (usage total) (amount 75 2)).status = .allowed) ∧
    (((p cap).judge (usage total) (amount 175 2)).status = .limitReached .monthly ∧
      (p cap).Trips (usage total) (amount 175 2) .monthly) ∧
    add? greatest (amount 1 0) = none ∧
    ((p greatest).judge (usage greatest) (amount 1 0)).status = .limitReached .monthly ∧
    (p greatest).Trips (usage greatest) (amount 1 0) .monthly := by
  intro amount p usage cap total greatest
  have hrespects : (p cap).Respects (usage total) (amount 75 2) := by
    refine ⟨by decide, by decide, ?_⟩
    rintro (_ | _ | _) cap hcap <;> cases hcap
    decide
  have hdenied : ((p cap).judge (usage total) (amount 175 2)).status = .limitReached .monthly := by
    decide
  have houtside : ((p greatest).judge (usage greatest) (amount 1 0)).status =
      .limitReached .monthly := by decide
  refine ⟨⟨by decide, hrespects, ?_⟩, ⟨hdenied, ?_⟩, by decide, houtside, ?_⟩
  · exact (judge_denial_justified _ _ _).1 hrespects
  · exact (judge_denial_justified _ _ _).2 .monthly hdenied
  · exact (judge_denial_justified _ _ _).2 .monthly houtside

end Profile

end SpendingLimits
