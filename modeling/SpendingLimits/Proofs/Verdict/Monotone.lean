import SpendingLimits.Proofs.Verdict.Enforcement

namespace SpendingLimits

namespace Profile

open Amount

/-- A profile that is at least as loose as another: its bounds are no narrower, and it has caps only
on windows that the other has a cap on, none of them smaller than the other's. -/
structure Loosens (q p : Profile) : Prop where
  low : q.minTransaction ≤ p.minTransaction
  high : p.maxTransaction ≤ q.maxTransaction
  caps : ∀ w cap, q.cap? w = some cap → ∃ tight, p.cap? w = some tight ∧ tight ≤ cap

theorem Loosens.refl (p : Profile) : p.Loosens p :=
  ⟨Nat.le_refl _, Nat.le_refl _, fun _ cap hcap => ⟨cap, hcap, Nat.le_refl _⟩⟩

variable {p q : Profile} {u v : Usage} {a b : Amount} {w : Window}

theorem isExceeded_mono (hloosens : q.Loosens p) (husage : v.total w ≤ u.total w) (hamount : b ≤ a)
    (h : p.isExceeded u a w = false) : q.isExceeded v b w = false := by
  rw [isExceeded_eq_false] at h ⊢
  intro cap hcap
  obtain ⟨tight, htight, hle⟩ := hloosens.caps w cap hcap
  exact wouldExceed_mono husage hamount hle (h tight htight)

theorem isExceeded_congr (h : v.total w = u.total w) : p.isExceeded v a w = p.isExceeded u a w := by
  rw [isExceeded, isExceeded, h]

/-- Only the totals of windows have a part in a verdict. -/
theorem judge_congr (h : ∀ w, v.total w = u.total w) : p.judge v a = p.judge u a := by
  have hexceeded : p.isExceeded v a = p.isExceeded u a := funext fun w => isExceeded_congr (h w)
  have hheadroom (w : Window) : p.headroom v w = p.headroom u w := by rw [headroom, headroom, h w]
  rw [judge, judge, hexceeded]
  simp only [hheadroom]

/-- What is allowed stays allowed when the profile gets looser, less is used and the amount gets
smaller, as long as it does not get too small. The total over all time has no part in a verdict. -/
theorem judge_monotone (p q : Profile) (u v : Usage) (a b : Amount) :
    (q.Loosens p → (∀ w, v.total w ≤ u.total w) → q.minTransaction ≤ b → b ≤ a →
      (p.judge u a).status = .allowed → (q.judge v b).status = .allowed) ∧
    ∀ t, p.judge { u with allTime := t } a = p.judge u a := by
  constructor
  · intro hloosens husage hlow hamount h
    obtain ⟨_, hhigh, hpasses⟩ := judge_status_eq_allowed.mp h
    have hhigh : b ≤ q.maxTransaction := Nat.le_trans hamount (Nat.le_trans hhigh hloosens.high)
    exact judge_status_eq_allowed.mpr ⟨hlow, hhigh, fun w =>
      isExceeded_mono hloosens (husage w) hamount (hpasses w)⟩
  · intro t
    apply judge_congr
    intro w
    cases w <;> rfl

/-- The sum of 1.25 is rounded down to the cap of `5 * 10 ^ 28`. The looser profile has a cap on the
month alone, and the smaller numbers are written at other scales. -/
theorem judge_monotone_of_rounded :
    let amount (m s : Nat) : Amount := (ofParts? m s).getD zero
    let p : Profile := ⟨⟨"basic"⟩, "Basic", amount 1 0, amount 500 0, none,
      some (amount (10 ^ 28) 0), some (amount (5 * 10 ^ 28) 0), zero⟩
    let q : Profile := ⟨⟨"loose"⟩, "Loose", amount 5 1, amount 50000 2, none, none,
      some (amount (5 * 10 ^ 28 + 1) 0), zero⟩
    let u : Usage := ⟨amount 7 0, amount 30 1, amount (5 * 10 ^ 28 - 1) 0, amount (5 * 10 ^ 28) 0⟩
    let v : Usage := ⟨amount 7 0, amount 3 0, amount (5 * 10 ^ 28 - 2) 1, amount (6 * 10 ^ 28) 0⟩
    let a := amount 125 2
    let b := amount 750 3
    (q.Loosens p ∧ (∀ w, v.total w ≤ u.total w) ∧ q.minTransaction ≤ b ∧ b ≤ a ∧
      (p.judge u a).status = .allowed) ∧
    (q.judge v b).status = .allowed ∧
    p.judge { u with allTime := zero } a = p.judge u a := by
  intro amount p q u v a b
  have hloosens : q.Loosens p := by
    refine ⟨by decide, by decide, ?_⟩
    rintro (_ | _ | _) cap hcap <;> cases hcap
    exact ⟨_, rfl, by decide⟩
  have husage : ∀ w, v.total w ≤ u.total w := by
    intro w
    cases w <;> decide
  have hlow : q.minTransaction ≤ b := by decide
  have hamount : b ≤ a := by decide
  have hallowed : (p.judge u a).status = .allowed := by decide
  obtain ⟨hmono, hallTime⟩ := judge_monotone p q u v a b
  exact ⟨⟨hloosens, husage, hlow, hamount, hallowed⟩,
    hmono hloosens husage hlow hamount hallowed, hallTime zero⟩

end Profile

end SpendingLimits
