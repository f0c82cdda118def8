import SpendingLimits.Proofs.Amount.Rest
import SpendingLimits.Proofs.Verdict.Enforcement

namespace SpendingLimits

/-- The windows that are looked at before a window. -/
def Window.before : Window → List Window
  | monthly => []
  | weekly => [monthly]
  | daily => [monthly, weekly]

namespace Profile

open Amount

/-- All scales are within these places, and with that many places every total with the proposed
amount added, every total and every cap fit a mantissa. -/
structure FitsAt (p : Profile) (usage : Usage) (proposed : Amount) (places : Nat) : Prop where
  places_le : places ≤ 28
  proposed_scale : proposed.scale ≤ places
  total_scale : ∀ w, (usage.total w).scale ≤ places
  cap_scale : ∀ w cap, p.cap? w = some cap → cap.scale ≤ places
  sum_lt : ∀ w, (usage.total w).mantissaAt places + proposed.mantissaAt places < 2 ^ 96
  cap_lt : ∀ w cap, p.cap? w = some cap → cap.mantissaAt places < 2 ^ 96

/-- The bounds of a transaction allow the proposed amount. -/
def Bounds (p : Profile) (proposed : Amount) : Prop :=
  p.minTransaction.units ≤ proposed.units ∧ proposed.units ≤ p.maxTransaction.units

/-- The window has a cap, and the exact sum is above it. -/
def Trips (p : Profile) (usage : Usage) (proposed : Amount) (w : Window) : Prop :=
  ∃ cap, p.cap? w = some cap ∧ cap.units < (usage.total w).units + proposed.units

variable {p : Profile} {usage : Usage} {proposed : Amount} {places : Nat} {w : Window}

theorem FitsAt.unrounded_sum (h : p.FitsAt usage proposed places) (w : Window) :
    Unrounded ((usage.total w).units + proposed.units) := by
  have htotal := (usage.total w).mantissaAt_units (h.total_scale w) h.places_le
  have hproposed := proposed.mantissaAt_units h.proposed_scale h.places_le
  refine unrounded_of_dvd h.places_le (Nat.dvd_add (dvd_units (h.total_scale w) h.places_le)
    (dvd_units h.proposed_scale h.places_le)) ?_
  rw [← htotal, ← hproposed, ← Nat.add_mul]
  exact Nat.mul_lt_mul_of_pos_right (h.sum_lt w) (Nat.pow_pos (by decide))

theorem FitsAt.unrounded_rest (h : p.FitsAt usage proposed places) {cap : Amount}
    (hcap : p.cap? w = some cap) : Unrounded (cap.units - (usage.total w).units) := by
  have hunits := cap.mantissaAt_units (h.cap_scale w cap hcap) h.places_le
  refine unrounded_of_dvd h.places_le (Nat.dvd_sub (dvd_units (h.cap_scale w cap hcap) h.places_le)
    (dvd_units (h.total_scale w) h.places_le)) ?_
  refine Nat.lt_of_le_of_lt (Nat.sub_le _ _) ?_
  rw [← hunits]
  exact Nat.mul_lt_mul_of_pos_right (h.cap_lt w cap hcap) (Nat.pow_pos (by decide))

theorem isExceeded_iff_trips (h : Unrounded ((usage.total w).units + proposed.units)) :
    p.isExceeded usage proposed w = true ↔ p.Trips usage proposed w := by
  rw [← Bool.not_eq_false, isExceeded_eq_false, Trips]
  simp only [wouldExceed_eq_false_iff, not_forall, Nat.not_le, exists_prop]
  refine exists_congr fun cap => and_congr_right fun _ => ?_
  constructor
  · intro hslack
    omega
  · intro hcap
    exact Nat.lt_of_not_le fun hle => absurd (h.le_of_slack hle) (by omega)

theorem find?_windowOrder_eq_some {f : Window → Bool} :
    windowOrder.find? f = some w ↔ f w = true ∧ ∀ v ∈ w.before, ¬f v = true := by
  rw [windowOrder]
  cases hm : f .monthly <;> cases hw : f .weekly <;> cases hd : f .daily <;> cases w <;>
    simp [Window.before, hm, hw, hd]

/-- The outcome of a verdict where all numbers fit a mantissa: too small or too large for the
bounds, or the first window in the order month, week, day whose exact sum is above its cap, or
allowed. The range begins at the least amount of the profile; it ends at the greatest one or, behind
a window, at the exact rest of its cap, which is nothing where the total has passed the cap. -/
theorem judge_specified (h : p.FitsAt usage proposed places) :
    ((p.judge usage proposed).status = .tooSmall ↔ proposed < p.minTransaction) ∧
    ((p.judge usage proposed).status = .tooLarge ↔
      ¬proposed < p.minTransaction ∧ p.maxTransaction < proposed) ∧
    (∀ w, (p.judge usage proposed).status = .limitReached w ↔
      p.Bounds proposed ∧ p.Trips usage proposed w ∧
        ∀ v ∈ w.before, ¬p.Trips usage proposed v) ∧
    ((p.judge usage proposed).status = .allowed ↔
      p.Bounds proposed ∧ ∀ w, ¬p.Trips usage proposed w) ∧
    (p.judge usage proposed).low = p.minTransaction ∧
    ((∀ w, (p.judge usage proposed).status ≠ .limitReached w) →
      (p.judge usage proposed).high = p.maxTransaction) ∧
    ∀ w, (p.judge usage proposed).status = .limitReached w →
      ∃ cap, p.cap? w = some cap ∧
        (p.judge usage proposed).high.units = cap.units - (usage.total w).units := by
  have htrips : ∀ w, p.isExceeded usage proposed w = true ↔ p.Trips usage proposed w :=
    fun w => isExceeded_iff_trips (h.unrounded_sum w)
  have hfirst : ∀ w, windowOrder.find? (p.isExceeded usage proposed) = some w ↔
      p.Trips usage proposed w ∧ ∀ v ∈ w.before, ¬p.Trips usage proposed v := by
    intro w
    simp only [find?_windowOrder_eq_some, htrips]
  have hnone : windowOrder.find? (p.isExceeded usage proposed) = none ↔
      ∀ w, ¬p.Trips usage proposed w := by
    simp only [find?_windowOrder_eq_none, ← htrips, Bool.not_eq_true]
  simp only [← hfirst, ← hnone]
  rw [judge]
  split_ifs with hlow hhigh
  · have hbounds : ¬p.Bounds proposed := fun hb => Nat.not_lt.mpr hb.1 hlow
    simp [hlow, hbounds]
  · have hbounds : ¬p.Bounds proposed := fun hb => Nat.not_lt.mpr hb.2 hhigh
    simp [hlow, hhigh, hbounds]
  · have hbounds : p.Bounds proposed := ⟨Nat.le_of_not_lt hlow, Nat.le_of_not_lt hhigh⟩
    cases hfind : windowOrder.find? (p.isExceeded usage proposed) with
    | none => simp [hlow, hhigh, hbounds]
    | some w =>
      obtain ⟨cap, hcap, _⟩ := ((hfirst w).mp hfind).1
      have hrest : (p.headroom usage w).units = cap.units - (usage.total w).units := by
        rw [headroom, hcap]
        exact remainingUnder_units (h.unrounded_rest hcap)
      simp [hlow, hhigh, hbounds, hcap, hrest]

/-- The sum of 100.5 is above the cap on the month and above the one on the day; the month decides,
and of its cap 100.25 are left. -/
theorem judge_specified_of_two_windows :
    let amount (m s : Nat) : Amount := (ofParts? m s).getD zero
    let p : Profile := ⟨⟨"basic"⟩, "Basic", amount 50 2, amount 500 0, some (amount 20025 2), none,
      some (amount 10005 1), zero⟩
    let usage : Usage := ⟨amount 199999 3, amount 900 0, amount 90025 2, amount 90025 2⟩
    let proposed := amount 1005 1
    p.FitsAt usage proposed 3 ∧ p.Trips usage proposed .monthly ∧ p.Trips usage proposed .daily ∧
      (p.judge usage proposed).status = .limitReached .monthly ∧
      (p.judge usage proposed).high.units = (amount 10025 2).units := by
  intro amount p usage proposed
  have hfits : p.FitsAt usage proposed 3 := by
    refine ⟨by decide, by decide, ?_, ?_, ?_, ?_⟩
    · intro w
      cases w <;> decide
    · rintro (_ | _ | _) cap hcap <;> cases hcap <;> decide
    · intro w
      cases w <;> decide
    · rintro (_ | _ | _) cap hcap <;> cases hcap <;> decide
  obtain ⟨_, _, hwindow, _, _, _, hrest⟩ := judge_specified hfits
  have hmonthly : p.Trips usage proposed .monthly := ⟨_, rfl, by decide⟩
  have hstatus := (hwindow .monthly).mpr ⟨⟨by decide, by decide⟩, hmonthly, by simp [Window.before]⟩
  obtain ⟨cap, hcap, hhigh⟩ := hrest .monthly hstatus
  obtain rfl := Option.some.inj hcap
  exact ⟨hfits, hmonthly, ⟨_, rfl, by decide⟩, hstatus, hhigh.trans (by decide)⟩

end Profile

end SpendingLimits
