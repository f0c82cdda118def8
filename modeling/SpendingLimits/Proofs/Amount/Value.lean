import Mathlib.Data.List.Forall2
import SpendingLimits.Proofs.Amount.Rounding
import SpendingLimits.Usage

namespace SpendingLimits.Amount

/-- Amounts of one value. -/
def Alike (a b : Amount) : Prop := a.units = b.units

instance (a b : Amount) : Decidable (a.Alike b) := inferInstanceAs (Decidable (a.units = b.units))

variable {a b c d e f : Amount}

theorem Alike.units_eq (h : a.Alike b) : a.units = b.units := h

theorem Alike.isZero (h : a.Alike b) : a.isZero = b.isZero := by
  rw [Bool.eq_iff_iff, isZero_iff_units, isZero_iff_units, h.units_eq]

theorem Alike.le_iff (hab : a.Alike b) (hcd : c.Alike d) : a ≤ c ↔ b ≤ d := by
  rw [le_iff_units, le_iff_units, hab.units_eq, hcd.units_eq]

theorem Alike.lt_iff (hab : a.Alike b) (hcd : c.Alike d) : a < c ↔ b < d := by
  rw [lt_iff_units, lt_iff_units, hab.units_eq, hcd.units_eq]

theorem rel_alike {s t : Option Amount} (h : s.map units = t.map units) :
    Option.Rel Alike s t := by
  cases s with
  | none =>
    obtain rfl := Option.map_eq_none_iff.mp h.symm
    exact .none
  | some a =>
    obtain ⟨b, rfl, hba⟩ := Option.map_eq_some_iff.mp h.symm
    exact .some hba.symm

theorem add?_alike (hab : a.Alike b) (hcd : c.Alike d) :
    Option.Rel Alike (add? a c) (add? b d) := by
  apply rel_alike
  rw [add?_units, add?_units, hab.units_eq, hcd.units_eq]

/-- A difference is the amount nearest to the exact difference. -/
theorem sub?_units (h : b ≤ a) :
    (sub? a b).map units = (nearest? (a.units - b.units)).map units := by
  have hlt : ¬a < b := Nat.not_lt.mpr h
  rw [sub?, if_neg hlt]
  split_ifs with hb
  · obtain ⟨c, hc, hcu⟩ := nearest?_units a
    rw [isZero_iff_units.mp hb, Nat.sub_zero, hc, Option.map_some, Option.map_some, hcu]
  · have hp : max a.scale b.scale ≤ 28 := Nat.max_le.mpr ⟨a.scale_le, b.scale_le⟩
    dsimp only
    rw [fit?_units _ hp, nearest?, Nat.sub_mul,
      a.mantissaAt_units (Nat.le_max_left _ _) hp, b.mantissaAt_units (Nat.le_max_right _ _) hp]

theorem sub?_alike (hab : a.Alike b) (hcd : c.Alike d) :
    Option.Rel Alike (sub? a c) (sub? b d) := by
  by_cases hle : c ≤ a
  · have hle' : d ≤ b := (hcd.le_iff hab).mp hle
    apply rel_alike
    rw [sub?_units hle, sub?_units hle', hab.units_eq, hcd.units_eq]
  · have hlt : a < c := Nat.lt_of_not_le hle
    have hlt' : b < d := (hab.lt_iff hcd).mp hlt
    rw [sub?, sub?, if_pos hlt, if_pos hlt']
    exact .none

theorem remainingUnder_alike (hab : a.Alike b) (hcd : c.Alike d) :
    (remainingUnder a c).Alike (remainingUnder b d) := by
  rw [remainingUnder, remainingUnder]
  simp only [hcd.le_iff hab]
  split_ifs
  · rfl
  · have hdiff := sub?_alike hcd hab
    generalize sub? c a = s, sub? d b = t at hdiff ⊢
    cases hdiff with
    | none => rfl
    | some h => exact h

theorem wouldExceed_alike (hab : a.Alike b) (hcd : c.Alike d) (hef : e.Alike f) :
    wouldExceed a c e = wouldExceed b d f := by
  have hsum := add?_alike hab hcd
  rw [wouldExceed, wouldExceed]
  generalize add? a c = s, add? b d = t at hsum ⊢
  cases hsum with
  | none => rfl
  | some h => exact decide_eq_decide.mpr (hef.lt_iff h)

/-- Running totals stay alike, whichever of them are rounded. -/
theorem foldlM_add?_alike {as bs : List Amount} (h : List.Forall₂ Alike as bs) (hab : a.Alike b) :
    Option.Rel Alike (as.foldlM add? a) (bs.foldlM add? b) := by
  induction h generalizing a b with
  | nil => exact .some hab
  | @cons x y _ _ hxy _ ih =>
    have hsum := add?_alike hab hxy
    rw [List.foldlM_cons, List.foldlM_cons]
    generalize add? a x = s, add? b y = t at hsum ⊢
    cases hsum with
    | none => exact .none
    | some h => exact ih h

theorem sum?_alike {as bs : List Amount} (h : List.Forall₂ Alike as bs) :
    Option.Rel Alike (sum? as) (sum? bs) :=
  foldlM_add?_alike h rfl

end SpendingLimits.Amount
