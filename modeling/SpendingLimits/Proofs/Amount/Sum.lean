import Mathlib.Algebra.BigOperators.Ring.List
import Mathlib.Algebra.Order.BigOperators.Group.List
import Mathlib.Data.List.Induction
import Mathlib.Data.List.MinMax
import SpendingLimits.Proofs.Amount.Rounding
import SpendingLimits.Usage

namespace SpendingLimits.Amount

/-- Whether rounding leaves a value as it is: an amount has the value, or it is out of range. -/
def Unrounded (u : Nat) : Prop := ∀ r, nearest? u = some r → r.units = u

instance (u : Nat) : Decidable (Unrounded u) :=
  decidable_of_iff ((nearest? u).all (·.units == u) = true) (by
    cases h : nearest? u <;> simp [Unrounded, h])

theorem unrounded_iff {u : Nat} : Unrounded u ↔ nearest? u = none ∨ ∃ a : Amount, a.units = u := by
  constructor
  · intro h
    cases hr : nearest? u with
    | none => exact .inl rfl
    | some r => exact .inr ⟨r, h r hr⟩
  · intro h r hr
    rcases h with h | h
    · rw [h] at hr
      cases hr
    · obtain ⟨a, rfl⟩ := h
      obtain ⟨b, hb, hba⟩ := nearest?_units a
      rw [← Option.some.inj (hb.symm.trans hr), hba]

/-- A whole number of units of a last digit is an amount as long as its mantissa fits. -/
theorem exists_units_of_dvd {u d : Nat} (hd : d ≤ 28) (hdvd : 10 ^ (28 - d) ∣ u)
    (hu : u < 2 ^ 96 * 10 ^ (28 - d)) : ∃ a : Amount, a.units = u := by
  have hm : u / 10 ^ (28 - d) < 2 ^ 96 := Nat.div_lt_of_lt_mul (by rwa [Nat.mul_comm])
  obtain ⟨a, ha⟩ := ofParts?_of_lt hm hd
  obtain ⟨hmantissa, hscale, _⟩ := ofParts?_eq_some.mp ha
  refine ⟨a, ?_⟩
  rw [units, mantissaAt, hmantissa, hscale, Nat.div_mul_cancel hdvd]

theorem unrounded_of_dvd {u d : Nat} (hd : d ≤ 28) (hdvd : 10 ^ (28 - d) ∣ u)
    (hu : u < 2 ^ 96 * 10 ^ (28 - d)) : Unrounded u :=
  unrounded_iff.mpr (.inr (exists_units_of_dvd hd hdvd hu))

/-- An amount of at most this scale is a whole number of units of its last digit. -/
theorem dvd_units {a : Amount} {places : Nat} (hs : a.scale ≤ places) (hp : places ≤ 28) :
    10 ^ (28 - places) ∣ a.units := by
  rw [← a.mantissaAt_units hs hp]
  exact Nat.dvd_mul_left _ _

/-- The exact sum of amounts, counted in units. -/
def exactSum (as : List Amount) : Nat := (as.map units).sum

@[simp] theorem exactSum_nil : exactSum [] = 0 := rfl

@[simp] theorem exactSum_append (as bs : List Amount) :
    exactSum (as ++ bs) = exactSum as + exactSum bs := by
  rw [exactSum, List.map_append, List.sum_append]
  rfl

@[simp] theorem exactSum_singleton (a : Amount) : exactSum [a] = a.units := by
  simp [exactSum]

theorem exactSum_perm {as bs : List Amount} (h : as.Perm bs) : exactSum as = exactSum bs :=
  (h.map units).sum_eq

theorem exactSum_sublist_le {part as : List Amount} (h : part.Sublist as) :
    exactSum part ≤ exactSum as :=
  (h.map units).sum_le_sum fun u _ => Nat.zero_le u

theorem dvd_exactSum {as : List Amount} {d : Nat} (hd : d ≤ 28) (hscale : ∀ a ∈ as, a.scale ≤ d) :
    10 ^ (28 - d) ∣ exactSum as := by
  refine List.dvd_sum fun u hu => ?_
  obtain ⟨a, ha, rfl⟩ := List.mem_map.mp hu
  exact dvd_units (hscale a ha) hd

/-- Amounts with so many fractional digits at most are added up without rounding as long as the
mantissa of their sum fits. -/
theorem unrounded_of_scale_le {part as : List Amount} {d : Nat} (hpart : part <+: as) (hd : d ≤ 28)
    (hscale : ∀ a ∈ as, a.scale ≤ d) (hsum : exactSum as < 2 ^ 96 * 10 ^ (28 - d)) :
    Unrounded (exactSum part) :=
  unrounded_of_dvd hd (dvd_exactSum hd fun a ha => hscale a (hpart.subset ha))
    (Nat.lt_of_le_of_lt (exactSum_sublist_le hpart.sublist) hsum)

/-- The most fractional digits that any of the amounts is written with. -/
def finestScale (as : List Amount) : Nat := (as.map scale).foldr max 0

/-- The mantissa of the exact sum of amounts, written at the finest scale among them. -/
def exactMantissa (as : List Amount) : Nat := (as.map (·.mantissaAt (finestScale as))).sum

theorem scale_le_finestScale {a : Amount} {as : List Amount} (h : a ∈ as) :
    a.scale ≤ finestScale as :=
  List.le_max_of_le (List.mem_map_of_mem h) (Nat.le_refl _)

theorem finestScale_le (as : List Amount) : finestScale as ≤ 28 := by
  refine List.max_le_of_forall_le _ _ fun s hs => ?_
  obtain ⟨a, _, rfl⟩ := List.mem_map.mp hs
  exact a.scale_le

theorem exactMantissa_units (as : List Amount) :
    exactMantissa as * 10 ^ (28 - finestScale as) = exactSum as := by
  rw [exactMantissa, ← List.sum_map_mul_right, exactSum]
  refine congrArg List.sum (List.map_congr_left fun a ha => ?_)
  exact a.mantissaAt_units (scale_le_finestScale ha) (finestScale_le as)

theorem exactSum_lt_of_exactMantissa {as : List Amount} (h : exactMantissa as < 2 ^ 96) :
    exactSum as < 2 ^ 96 * 10 ^ (28 - finestScale as) := by
  rw [← exactMantissa_units]
  exact Nat.mul_lt_mul_of_pos_right h (Nat.pow_pos (by decide))

theorem nearest?_of_add? {a b c : Amount} (h : add? a b = some c) :
    ∃ r, nearest? (a.units + b.units) = some r ∧ r.units = c.units := by
  have hu := add?_units a b
  rw [h, Option.map_some] at hu
  exact Option.map_eq_some_iff.mp hu.symm

theorem add?_of_nearest? {a b r : Amount} (h : nearest? (a.units + b.units) = some r) :
    ∃ c, add? a b = some c ∧ c.units = r.units := by
  have hu := add?_units a b
  rw [h, Option.map_some] at hu
  exact Option.map_eq_some_iff.mp hu

theorem nearest?_eq_none_of_add? {a b : Amount} (h : add? a b = none) :
    nearest? (a.units + b.units) = none := by
  have hu := add?_units a b
  rw [h, Option.map_none] at hu
  exact Option.map_eq_none_iff.mp hu.symm

theorem lastPlace_congr {a b : Amount} (h : a.units = b.units) : a.lastPlace = b.lastPlace :=
  Nat.le_antisymm (lastPlace_mono (Nat.le_of_eq h)) (lastPlace_mono (Nat.le_of_eq h.symm))

theorem add?_mono {a b x y t : Amount} (hab : a ≤ b) (hxy : x ≤ y) (ht : add? b y = some t) :
    ∃ s, add? a x = some s ∧ s ≤ t := by
  obtain ⟨r, hr, hrt⟩ := nearest?_of_add? ht
  obtain ⟨q, hq, hqr⟩ := nearest?_mono (Nat.add_le_add hab hxy) hr
  obtain ⟨s, hs, hsq⟩ := add?_of_nearest? hq
  exact ⟨s, hs, by rw [le_iff_units]; omega⟩

theorem le_add? {a b c : Amount} (h : add? a b = some c) : a ≤ c := by
  obtain ⟨r, hr, hrc⟩ := nearest?_of_add? h
  rw [le_iff_units, ← hrc]
  exact le_nearest? (Nat.le_add_right a.units b.units) hr

theorem add?_error {a b c : Amount} (h : add? a b = some c) :
    2 * (a.units + b.units) ≤ 2 * c.units + c.lastPlace ∧
      2 * c.units ≤ 2 * (a.units + b.units) + c.lastPlace := by
  obtain ⟨r, hr, hrc⟩ := nearest?_of_add? h
  have herr := nearest?_error hr
  rwa [lastPlace_congr hrc, hrc] at herr

theorem sum?_concat (as : List Amount) (a : Amount) :
    sum? (as ++ [a]) = (sum? as).bind fun t => add? t a := by
  rw [sum?, List.foldlM_append]
  simp only [List.foldlM_cons, List.foldlM_nil, bind_pure]
  rfl

/-- A total that starts lower and leaves amounts out is not larger, and is there if the other is. -/
theorem foldlM_add?_sublist {as bs : List Amount} (h : as.Sublist bs) {a b t : Amount} (hab : a ≤ b)
    (ht : bs.foldlM add? b = some t) : ∃ s, as.foldlM add? a = some s ∧ s ≤ t := by
  induction h generalizing a b with
  | slnil =>
    obtain rfl : b = t := Option.some.inj ht
    exact ⟨a, rfl, hab⟩
  | cons x _ ih =>
    rw [List.foldlM_cons] at ht
    obtain ⟨c, hc, ht⟩ := Option.bind_eq_some_iff.mp ht
    exact ih (Nat.le_trans hab (le_add? hc)) ht
  | cons_cons x _ ih =>
    rw [List.foldlM_cons] at ht
    obtain ⟨c, hc, ht⟩ := Option.bind_eq_some_iff.mp ht
    obtain ⟨d, hd, hdc⟩ := add?_mono hab (Nat.le_refl x.units) hc
    obtain ⟨s, hs, hst⟩ := ih hdc ht
    exact ⟨s, by rw [List.foldlM_cons, hd]; exact hs, hst⟩

theorem sum?_sublist {as bs : List Amount} {t : Amount} (h : as.Sublist bs)
    (ht : sum? bs = some t) : ∃ s, sum? as = some s ∧ s ≤ t :=
  foldlM_add?_sublist h (Nat.le_refl _) ht

/-- A sum whose running totals are not rounded is exact, and fails only out of range. -/
theorem sum?_of_unrounded {as : List Amount}
    (h : ∀ part, part <+: as → Unrounded (exactSum part)) :
    (∃ t, sum? as = some t ∧ t.units = exactSum as) ∨
      sum? as = none ∧ nearest? (exactSum as) = none := by
  induction as using List.reverseRecOn with
  | nil => exact .inl ⟨zero, rfl, rfl⟩
  | append_singleton as a ih =>
    rw [sum?_concat]
    rcases ih fun part hp => h part (hp.trans (List.prefix_append as [a])) with ih | ih
    · obtain ⟨s, hs, hsu⟩ := ih
      have hlast := h (as ++ [a]) (List.prefix_refl _)
      rw [exactSum_append, exactSum_singleton, ← hsu] at hlast ⊢
      rw [hs, Option.bind_some]
      cases hst : add? s a with
      | none => exact .inr ⟨rfl, nearest?_eq_none_of_add? hst⟩
      | some t =>
        obtain ⟨r, hr, hrt⟩ := nearest?_of_add? hst
        exact .inl ⟨t, rfl, hrt.symm.trans (hlast r hr)⟩
    · refine .inr ⟨by rw [ih.1]; rfl, ?_⟩
      cases hn : nearest? (exactSum (as ++ [a])) with
      | none => rfl
      | some r =>
        -- A value below one that is in range would be in range.
        obtain ⟨q, hq, _⟩ := nearest?_mono (Nat.le_add_right (exactSum as) (exactSum [a]))
          (exactSum_append as [a] ▸ hn)
        rw [ih.2] at hq
        cases hq

/-- A sum is exact as long as it fits a mantissa at a scale that no amount is finer than. -/
theorem sum?_exact {as : List Amount} {d : Nat} (hd : d ≤ 28) (hscale : ∀ a ∈ as, a.scale ≤ d)
    (hsum : exactSum as < 2 ^ 96 * 10 ^ (28 - d)) :
    ∃ t, sum? as = some t ∧ t.units = exactSum as := by
  rcases sum?_of_unrounded fun _ hp => unrounded_of_scale_le hp hd hscale hsum with h | ⟨_, hnone⟩
  · exact h
  · -- The sum has an amount, so it is not out of range.
    obtain ⟨a, ha⟩ := exists_units_of_dvd hd (dvd_exactSum hd hscale) hsum
    obtain ⟨r, hr, _⟩ := nearest?_units a
    rw [ha, hnone] at hr
    cases hr

/-- Every amount that is added rounds a sum by half of its last place at most. -/
theorem sum?_error {as : List Amount} {t : Amount} (h : sum? as = some t) :
    2 * exactSum as ≤ 2 * t.units + as.length * t.lastPlace ∧
      2 * t.units ≤ 2 * exactSum as + as.length * t.lastPlace := by
  induction as using List.reverseRecOn generalizing t with
  | nil =>
    obtain rfl : zero = t := Option.some.inj h
    simp
  | append_singleton as a ih =>
    rw [sum?_concat] at h
    obtain ⟨s, hs, hst⟩ := Option.bind_eq_some_iff.mp h
    obtain ⟨hlower, hupper⟩ := ih hs
    -- Last places only grow along a sum, so the last one bounds the earlier errors.
    have hplace := Nat.mul_le_mul_left as.length (lastPlace_mono (le_add? hst))
    have herr := add?_error hst
    simp only [exactSum_append, exactSum_singleton, List.length_append, List.length_singleton,
      Nat.add_mul, Nat.one_mul]
    omega

/-- A sum fails only when the exact sum is as large as `2 ^ 96`, up to rounding. -/
theorem le_of_sum?_eq_none {as : List Amount} (h : sum? as = none) :
    (2 ^ 97 - 1) * 10 ^ 28 ≤ 2 * exactSum as + as.length * 10 ^ 28 := by
  induction as using List.reverseRecOn with
  | nil => cases h
  | append_singleton as a ih =>
    rw [sum?_concat] at h
    simp only [exactSum_append, exactSum_singleton, List.length_append, List.length_singleton,
      Nat.add_mul, Nat.one_mul]
    cases hs : sum? as with
    | none =>
      have := ih hs
      omega
    | some s =>
      rw [hs] at h
      have hout := le_of_nearest?_eq_none (nearest?_eq_none_of_add? h)
      have herr := (sum?_error hs).2
      have hplace := Nat.mul_le_mul_left as.length s.lastPlace_le
      omega

theorem sum?_perm_of_unrounded {as bs : List Amount} (h : as.Perm bs)
    (ha : ∀ part, part <+: as → Unrounded (exactSum part))
    (hb : ∀ part, part <+: bs → Unrounded (exactSum part)) :
    (∃ s t, sum? as = some s ∧ sum? bs = some t ∧ s.units = t.units) ∨
      sum? as = none ∧ sum? bs = none := by
  have heq := exactSum_perm h
  rcases sum?_of_unrounded ha with ⟨s, hs, hsu⟩ | ⟨hs, hsn⟩ <;>
    rcases sum?_of_unrounded hb with ⟨t, ht, htu⟩ | ⟨ht, htn⟩
  · exact .inl ⟨s, t, hs, ht, by omega⟩
  · obtain ⟨r, hr, _⟩ := nearest?_units s
    rw [hsu, heq, htn] at hr
    cases hr
  · obtain ⟨r, hr, _⟩ := nearest?_units t
    rw [htu, ← heq, hsn] at hr
    cases hr
  · exact .inr ⟨hs, ht⟩

theorem sum?_perm_error {as bs : List Amount} {s t : Amount} (h : as.Perm bs)
    (hs : sum? as = some s) (ht : sum? bs = some t) :
    2 * s.units ≤ 2 * t.units + as.length * (s.lastPlace + t.lastPlace) := by
  have heq := exactSum_perm h
  have hupper := (sum?_error hs).2
  have hlower := (sum?_error ht).1
  rw [← h.length_eq] at hlower
  rw [Nat.mul_add]
  omega

theorem sum?_perm_range {as bs : List Amount} {t : Amount} (h : as.Perm bs) (hs : sum? as = none)
    (ht : sum? bs = some t) :
    (2 ^ 97 - 1) * 10 ^ 28 ≤ 2 * t.units + 2 * as.length * 10 ^ 28 := by
  have heq := exactSum_perm h
  have hout := le_of_sum?_eq_none hs
  have hlower := (sum?_error ht).1
  have hplace := Nat.mul_le_mul_left bs.length t.lastPlace_le
  rw [← h.length_eq] at hlower hplace
  omega

end SpendingLimits.Amount
