import SpendingLimits.Proofs.Amount.Value
import SpendingLimits.Verdict

namespace SpendingLimits

/-- Profiles that differ at most in how their amounts are written. -/
structure Profile.Alike (p q : Profile) : Prop where
  id : p.id = q.id
  name : p.name = q.name
  minTransaction : p.minTransaction.Alike q.minTransaction
  maxTransaction : p.maxTransaction.Alike q.maxTransaction
  caps : ∀ w, Option.Rel Amount.Alike (p.cap? w) (q.cap? w)
  unsettledExposure : p.unsettledExposure.Alike q.unsettledExposure

structure Usage.Alike (u v : Usage) : Prop where
  windows : ∀ w, (u.total w).Alike (v.total w)
  allTime : u.allTime.Alike v.allTime

/-- Verdicts of one outcome, with ranges of one value. -/
structure Verdict.Alike (x y : Verdict) : Prop where
  status : x.status = y.status
  low : x.low.Alike y.low
  high : x.high.Alike y.high

namespace Profile

variable {p q : Profile} {u v : Usage} {a b : Amount}

theorem validate_alike (hp : p.Alike q) : p.validate = .ok () ↔ q.validate = .ok () := by
  have hcrossed := hp.maxTransaction.lt_iff hp.minTransaction
  rw [validate, validate, hp.id, hp.name, hp.minTransaction.isZero, hp.maxTransaction.isZero]
  simp only [hcrossed]
  split_ifs <;> simp

theorem isExceeded_alike (hp : p.Alike q) (hu : u.Alike v) (hab : a.Alike b) (w : Window) :
    p.isExceeded u a w = q.isExceeded v b w := by
  have hcap := hp.caps w
  rw [isExceeded, isExceeded]
  generalize p.cap? w = cap, q.cap? w = cap' at hcap ⊢
  cases hcap with
  | none => rfl
  | some h => exact Amount.wouldExceed_alike (hu.windows w) hab h

theorem headroom_alike (hp : p.Alike q) (hu : u.Alike v) (w : Window) :
    (p.headroom u w).Alike (q.headroom v w) := by
  have hcap := hp.caps w
  rw [headroom, headroom]
  generalize p.cap? w = cap, q.cap? w = cap' at hcap ⊢
  cases hcap with
  | none => exact hp.maxTransaction
  | some h => exact Amount.remainingUnder_alike (hu.windows w) h

theorem judge_alike (hp : p.Alike q) (hu : u.Alike v) (hab : a.Alike b) :
    (p.judge u a).Alike (q.judge v b) := by
  have hexceeded : p.isExceeded u a = q.isExceeded v b := funext (isExceeded_alike hp hu hab)
  rw [judge, judge, hexceeded]
  simp only [hab.lt_iff hp.minTransaction, hp.maxTransaction.lt_iff hab]
  split_ifs
  · exact ⟨rfl, hp.minTransaction, hp.maxTransaction⟩
  · exact ⟨rfl, hp.minTransaction, hp.maxTransaction⟩
  · cases windowOrder.find? (q.isExceeded v b) with
    | none => exact ⟨rfl, hp.minTransaction, hp.maxTransaction⟩
    | some w => exact ⟨rfl, hp.minTransaction, headroom_alike hp hu w⟩

end Profile

end SpendingLimits
