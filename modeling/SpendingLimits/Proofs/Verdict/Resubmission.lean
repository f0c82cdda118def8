import SpendingLimits.Proofs.Verdict.Monotone
import SpendingLimits.Proofs.Verdict.Range

namespace SpendingLimits

namespace Window

/-- The windows that are looked at after a window. -/
def after : Window → List Window
  | monthly => [weekly, daily]
  | weekly => [daily]
  | daily => []

theorem mem_before_or (v w : Window) : v ∈ w.before ∨ v = w ∨ v ∈ w.after := by
  cases v <;> cases w <;> decide

theorem cons_after_sublist {v w : Window} (h : v ∈ w.after) : (v :: v.after).Sublist w.after := by
  cases v <;> cases w <;> revert h <;> decide

theorem cons_after_sublist_order (w : Window) : (w :: w.after).Sublist Profile.windowOrder := by
  cases w <;> decide

end Window

namespace Profile

open Amount

/-- The run of proposals that begins with an amount: the windows that deny, one after the other,
each with its offer proposed next, and the amount that no window denies. -/
inductive Resubmits (p : Profile) (usage : Usage) : Amount → List Window → Amount → Prop
  | settles {a : Amount} (h : ∀ w, (p.judge usage a).status ≠ .limitReached w) :
      Resubmits p usage a [] a
  | denied {a last : Amount} {w : Window} {ws : List Window}
      (h : (p.judge usage a).status = .limitReached w)
      (rest : Resubmits p usage (p.judge usage a).high ws last) : Resubmits p usage a (w :: ws) last

/-- Windows keep the offers they make: what is left of a cap is exact, and an offer of nothing is
too small for a transaction. -/
structure KeepsOffers (p : Profile) (usage : Usage) : Prop where
  unrounded : ∀ w cap, p.cap? w = some cap → Unrounded (cap.units - (usage.total w).units)
  low_pos : 0 < p.minTransaction.units

variable {p : Profile} {usage : Usage} {a last last' proposed : Amount} {v w : Window}
  {ws ws' : List Window} {cap : Amount} {places : Nat}

theorem low_pos_of_validate (h : p.validate = .ok ()) : 0 < p.minTransaction.units := by
  by_contra hzero
  have hlow : p.minTransaction.isZero = true := isZero_iff_units.mpr (by omega)
  rw [validate, hlow, Bool.true_or, if_pos rfl] at h
  split at h <;> cases h

theorem FitsAt.keepsOffers (h : p.FitsAt usage proposed places) (hvalid : p.validate = .ok ()) :
    p.KeepsOffers usage :=
  ⟨fun _ _ hcap => h.unrounded_rest hcap, low_pos_of_validate hvalid⟩

theorem Denies.passes_offer (h : p.Denies usage a w cap)
    (hexact : Unrounded (cap.units - (usage.total w).units)) (hleft : ¬cap ≤ usage.total w)
    (hv : v ∈ w.before ∨ v = w) : p.isExceeded usage (p.judge usage a).high v = false := by
  rcases hv with hv | rfl
  · exact isExceeded_mono (Loosens.refl p) (Nat.le_refl _) h.high_le_proposed (h.passes v hv)
  · rw [isExceeded_eq_false]
    intro cap' hcap
    obtain rfl := Option.some.inj (h.cap_eq.symm.trans hcap)
    -- With the offer the exact sum is the cap itself, and rounding does not take it above.
    rw [h.high_eq, wouldExceed_eq_false_iff, remainingUnder_units hexact]
    rw [le_iff_units] at hleft
    omega

/-- When the offer of a window is denied, it is by a window after it. -/
theorem KeepsOffers.mem_after (h : p.KeepsOffers usage)
    (ha : (p.judge usage a).status = .limitReached w)
    (hoffer : (p.judge usage (p.judge usage a).high).status = .limitReached v) : v ∈ w.after := by
  obtain ⟨cap, hdenies⟩ := judge_status_eq_limitReached.mp ha
  obtain ⟨_, hnext⟩ := judge_status_eq_limitReached.mp hoffer
  -- The offer is not too small, so the window has something left.
  have hleft : ¬cap ≤ usage.total w := by
    intro hle
    have hzero := isZero_iff_units.mp (hdenies.isZero_high.mpr hle)
    have hlow := le_iff_units.mp hnext.low
    have hpos := h.low_pos
    omega
  have hpasses {u : Window} (hu : u ∈ w.before ∨ u = w) :=
    hdenies.passes_offer (h.unrounded w cap hdenies.cap_eq) hleft hu
  rcases Window.mem_before_or v w with hv | hv | hv
  · exact absurd hnext.isExceeded (by simp [hpasses (.inl hv)])
  · exact absurd hnext.isExceeded (by simp [hpasses (.inr hv)])
  · exact hv

theorem Resubmits.unique (h : p.Resubmits usage a ws last) (h' : p.Resubmits usage a ws' last') :
    ws' = ws ∧ last' = last := by
  induction h generalizing ws' with
  | settles hsettled =>
    cases h' with
    | settles => exact ⟨rfl, rfl⟩
    | denied hdenied => exact absurd hdenied (hsettled _)
  | denied hdenied _ ih =>
    cases h' with
    | settles hsettled => exact absurd hdenied (hsettled _)
    | denied hdenied' rest =>
      obtain rfl := Status.limitReached.inj (hdenied.symm.trans hdenied')
      obtain ⟨rfl, rfl⟩ := ih rest
      exact ⟨rfl, rfl⟩

theorem Resubmits.settled (h : p.Resubmits usage a ws last) (w : Window) :
    (p.judge usage last).status ≠ .limitReached w := by
  induction h with
  | settles hsettled => exact hsettled w
  | denied _ _ ih => exact ih

theorem Resubmits.last_le (h : p.Resubmits usage a ws last) (ha : a ≤ p.maxTransaction) :
    last ≤ p.maxTransaction := by
  induction h with
  | settles => exact ha
  | denied _ _ ih => exact ih (judge_high_le _ _ _)

/-- Behind a window that denies, the run is denied only by windows after it, in their order. -/
theorem KeepsOffers.sublist_after (h : p.KeepsOffers usage)
    (ha : (p.judge usage a).status = .limitReached w)
    (hrun : p.Resubmits usage (p.judge usage a).high ws last) : ws.Sublist w.after := by
  generalize hb : (p.judge usage a).high = b at hrun
  induction hrun generalizing a w with
  | settles => exact List.nil_sublist _
  | denied hdenied _ ih =>
    subst hb
    have hafter := h.mem_after ha hdenied
    exact ((ih hdenied rfl).cons_cons _).trans (Window.cons_after_sublist hafter)

theorem KeepsOffers.sublist_order (h : p.KeepsOffers usage) (hrun : p.Resubmits usage a ws last) :
    ws.Sublist windowOrder := by
  cases hrun with
  | settles => exact List.nil_sublist _
  | denied hdenied rest =>
    exact ((h.sublist_after hdenied rest).cons_cons _).trans (Window.cons_after_sublist_order _)

/-- With each offer there are fewer windows after the one that denies, so every run ends. -/
theorem KeepsOffers.exists_run (h : p.KeepsOffers usage) (n : Nat) (a : Amount)
    (hn : ∀ w, (p.judge usage a).status = .limitReached w → w.after.length < n) :
    ∃ ws last, p.Resubmits usage a ws last := by
  induction n generalizing a with
  | zero => exact ⟨[], a, .settles fun w hw => absurd (hn w hw) (Nat.not_lt_zero _)⟩
  | succ n ih =>
    by_cases ha : ∃ w, (p.judge usage a).status = .limitReached w
    · obtain ⟨w, ha⟩ := ha
      have hfewer : ∀ v, (p.judge usage (p.judge usage a).high).status = .limitReached v →
          v.after.length < n := by
        intro v hv
        have hlt := (Window.cons_after_sublist (h.mem_after ha hv)).length_le
        have hw := hn w ha
        rw [List.length_cons] at hlt
        omega
      obtain ⟨ws, last, hrun⟩ := ih (p.judge usage a).high hfewer
      exact ⟨w :: ws, last, .denied ha hrun⟩
    · exact ⟨[], a, .settles (not_exists.mp ha)⟩

theorem status_of_settled (hsettled : ∀ w, (p.judge usage a).status ≠ .limitReached w)
    (hhigh : a ≤ p.maxTransaction) :
    (p.judge usage a).status = .allowed ∨ (p.judge usage a).status = .tooSmall := by
  rcases p.judge_cases usage a with hdenies | hwhole
  · obtain ⟨w, _, hdenies⟩ := hdenies
    exact absurd (by rw [hdenies.judge]) (hsettled w)
  · obtain ⟨status, hjudge, hsmall | hlarge | hallowed⟩ := hwhole
    · exact .inr (by rw [hjudge, hsmall])
    · exact absurd hlarge.2 (Nat.not_lt.mpr hhigh)
    · exact .inl (by rw [hjudge, hallowed])

/-- Under a valid profile, where all numbers fit a mantissa, proposing the offers comes to an end in
exactly one way. The windows that deny come strictly one after the other in the order month, week,
day, so there are three of them at most, and once a window has denied, the last amount is allowed or
too small, and not too large. -/
theorem resubmission_converges (h : p.FitsAt usage proposed places) (hvalid : p.validate = .ok ()) :
    ∃ ws last, p.Resubmits usage proposed ws last ∧
      (∀ ws' last', p.Resubmits usage proposed ws' last' → ws' = ws ∧ last' = last) ∧
      ws.Sublist windowOrder ∧ ws.length ≤ 3 ∧
      (ws ≠ [] → (p.judge usage last).status = .allowed ∨
        (p.judge usage last).status = .tooSmall) := by
  have hkeeps := h.keepsOffers hvalid
  obtain ⟨ws, last, hrun⟩ := hkeeps.exists_run 3 proposed fun w _ => by cases w <;> decide
  have horder := hkeeps.sublist_order hrun
  refine ⟨ws, last, hrun, fun _ _ => hrun.unique, horder, horder.length_le, fun hdenied => ?_⟩
  refine status_of_settled hrun.settled ?_
  cases hrun with
  | settles => exact absurd rfl hdenied
  | denied _ rest => exact rest.last_le (judge_high_le _ _ _)

/-- The month denies 400 and offers 300, of which the week offers 200.25, of which the day offers
100.5, and these are allowed. -/
theorem resubmission_converges_of_three_windows :
    let amount (m s : Nat) : Amount := (ofParts? m s).getD zero
    let p : Profile := ⟨⟨"basic"⟩, "Basic", amount 1 0, amount 500 0, some (amount 200 0),
      some (amount 4005 1), some (amount 1000 0), zero⟩
    let usage : Usage := ⟨amount 995 1, amount 20025 2, amount 700 0, amount 900 0⟩
    p.FitsAt usage (amount 400 0) 2 ∧ p.validate = .ok () ∧
      ∃ last, p.Resubmits usage (amount 400 0) [.monthly, .weekly, .daily] last ∧
        last = amount 1005 1 ∧ (p.judge usage last).status = .allowed := by
  intro amount p usage
  have hfits : p.FitsAt usage (amount 400 0) 2 := by
    refine ⟨by decide, by decide, ?_, ?_, ?_, ?_⟩
    · intro w
      cases w <;> decide
    · rintro (_ | _ | _) cap hcap <;> cases hcap <;> decide
    · intro w
      cases w <;> decide
    · rintro (_ | _ | _) cap hcap <;> cases hcap <;> decide
  have hvalid : p.validate = .ok () := by decide
  have hmonthly : p.judge usage (amount 400 0) =
      ⟨.limitReached .monthly, amount 1 0, amount 300 0⟩ := by decide
  have hweekly : p.judge usage (amount 300 0) =
      ⟨.limitReached .weekly, amount 1 0, amount 20025 2⟩ := by decide
  have hdaily : p.judge usage (amount 20025 2) =
      ⟨.limitReached .daily, amount 1 0, amount 1005 1⟩ := by decide
  have hallowed : (p.judge usage (amount 1005 1)).status = .allowed := by decide
  have hrun : p.Resubmits usage (amount 400 0) [.monthly, .weekly, .daily] (amount 1005 1) := by
    refine .denied (by rw [hmonthly]) ?_
    rw [hmonthly]
    refine .denied (by rw [hweekly]) ?_
    rw [hweekly]
    refine .denied (by rw [hdaily]) ?_
    rw [hdaily]
    exact .settles fun w => by simp [hallowed]
  obtain ⟨ws, last, hrun', hunique, _⟩ := resubmission_converges hfits hvalid
  obtain ⟨rfl, rfl⟩ := hunique _ _ hrun
  exact ⟨hfits, hvalid, _, hrun', rfl, hallowed⟩

/-- Offers are kept only where they are exact. When 1.5 of the cap `7 * 10 ^ 28 + 1` are used, what
is left is rounded up to `7 * 10 ^ 28`, and the month denies this offer and makes it again. -/
example :
    let amount (m s : Nat) : Amount := (ofParts? m s).getD zero
    let p : Profile := ⟨⟨"basic"⟩, "Basic", amount 1 0, amount (2 ^ 96 - 1) 0, none, none,
      some (amount (7 * 10 ^ 28 + 1) 0), zero⟩
    let offer := amount (7 * 10 ^ 28) 0
    let usage : Usage := ⟨zero, zero, amount 15 1, zero⟩
    p.judge usage offer = ⟨.limitReached .monthly, amount 1 0, offer⟩ := by
  decide

end Profile

end SpendingLimits
