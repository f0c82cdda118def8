import Mathlib.Order.Nat
import Mathlib.Tactic.Ring
import SpendingLimits.Amount.Arithmetic

namespace SpendingLimits

theorem halfEven_mono {m n : Nat} (d : Nat) (h : m ≤ n) : halfEven m d ≤ halfEven n d := by
  have hdiv : m / d ≤ n / d := Nat.div_le_div_right h
  have hm := Nat.div_add_mod m d
  have hn := Nat.div_add_mod n d
  rcases Nat.lt_or_eq_of_le hdiv with hlt | heq
  · rw [halfEven, halfEven]
    split <;> split <;> omega
  · have hmod : m % d ≤ n % d := by rw [heq] at hm; omega
    rw [halfEven, halfEven, heq]
    split <;> split <;> omega

/-- A common factor of the two numbers of a quotient has no part in its rounding. -/
theorem halfEven_mul_mul (n d : Nat) {k : Nat} (hk : 0 < k) :
    halfEven (n * k) (d * k) = halfEven n d := by
  have hlt : 2 * (n % d * k) < d * k ↔ 2 * (n % d) < d := by
    rw [← Nat.mul_assoc, Nat.mul_lt_mul_right hk]
  have heq : 2 * (n % d * k) = d * k ↔ 2 * (n % d) = d := by
    rw [← Nat.mul_assoc, Nat.mul_left_inj (Nat.ne_of_gt hk)]
  simp only [halfEven, Nat.mul_mod_mul_right, Nat.mul_div_mul_right _ _ hk, hlt, heq]

theorem halfEven_mul_add (q : Nat) {d e : Nat} (he : e < d) :
    halfEven (q * d + e) d = if 2 * e < d ∨ 2 * e = d ∧ q % 2 = 0 then q else q + 1 := by
  have hd : 0 < d := by omega
  have hdiv : (q * d + e) / d = q := by
    rw [Nat.mul_comm, Nat.mul_add_div hd, Nat.div_eq_of_lt he, Nat.add_zero]
  have hmod : (q * d + e) % d = e := by
    rw [Nat.mul_comm, Nat.mul_add_mod, Nat.mod_eq_of_lt he]
  rw [halfEven, hdiv, hmod]

namespace Amount

theorem units_lt_scale (a : Amount) : a.units < 2 ^ 96 * 10 ^ (28 - a.scale) :=
  Nat.mul_lt_mul_of_pos_right a.mantissa_lt (Nat.pow_pos (by decide))

theorem units_lt (a : Amount) : a.units < 2 ^ 96 * 10 ^ 28 := by
  have hp : 10 ^ (28 - a.scale) ≤ 10 ^ 28 := Nat.pow_le_pow_right (by decide) (by omega)
  exact a.units_lt_scale.trans_le (Nat.mul_le_mul_left _ hp)

theorem mantissaAt_units (a : Amount) {places : Nat} (hs : a.scale ≤ places) (hp : places ≤ 28) :
    a.mantissaAt places * 10 ^ (28 - places) = a.units := by
  rw [units, mantissaAt, mantissaAt, Nat.mul_assoc, ← Nat.pow_add]
  congr 2
  omega

theorem units_of_scale {a : Amount} {d : Nat} (hd : d ≤ 28) (hs : a.scale = 28 - d) :
    a.units = a.mantissa * 10 ^ d := by
  rw [units, mantissaAt, hs]
  congr 2
  omega

theorem ofParts?_of_lt {m s : Nat} (hm : m < 2 ^ 96) (hs : s ≤ 28) :
    ∃ a, ofParts? m s = some a := ⟨_, dif_pos ⟨hm, hs⟩⟩

theorem ofParts?_of_le {m : Nat} (s : Nat) (hm : 2 ^ 96 ≤ m) : ofParts? m s = none :=
  dif_neg fun h => absurd h.1 (by omega)

theorem fitFrom_of_lt {n k places : Nat} (hn : halfEven n (10 ^ k) < 2 ^ 96) (hp : places ≤ 28) :
    fitFrom n k places = ofParts? (halfEven n (10 ^ k)) places := by
  cases places with
  | zero => rfl
  | succ places =>
    obtain ⟨a, ha⟩ := ofParts?_of_lt hn hp
    rw [fitFrom, ha]
    rfl

theorem fitFrom_of_le {n k : Nat} (places : Nat) (hn : 2 ^ 96 ≤ halfEven n (10 ^ k)) :
    fitFrom n k (places + 1) = fitFrom n (k + 1) places := by
  rw [fitFrom, ofParts?_of_le _ hn]
  rfl

/-- The digits that have been given up are as few as possible. -/
theorem fitFrom_eq_some {n k places : Nat} {a : Amount} (hp : places ≤ 28) :
    fitFrom n k places = some a ↔ ∃ d ≤ places, halfEven n (10 ^ (k + d)) < 2 ^ 96 ∧
      (∀ e < d, 2 ^ 96 ≤ halfEven n (10 ^ (k + e))) ∧
      a.mantissa = halfEven n (10 ^ (k + d)) ∧ a.scale = places - d ∧ a.minus = false := by
  induction places generalizing k with
  | zero =>
    rw [fitFrom, ofParts?_eq_some]
    constructor
    · intro h
      exact ⟨0, le_rfl, h.1 ▸ a.mantissa_lt, by simp, h⟩
    · intro h
      obtain ⟨d, hd, _, _, h⟩ := h
      obtain rfl : d = 0 := by omega
      exact h
  | succ places ih =>
    by_cases hn : halfEven n (10 ^ k) < 2 ^ 96
    · rw [fitFrom_of_lt hn hp, ofParts?_eq_some]
      constructor
      · intro h
        exact ⟨0, by omega, hn, by simp, h⟩
      · intro h
        obtain ⟨d, _, _, hleast, h⟩ := h
        have hd : d = 0 := by
          by_contra hd
          have := hleast 0 (by omega)
          rw [Nat.add_zero] at this
          omega
        subst d
        exact h
    · have hn : 2 ^ 96 ≤ halfEven n (10 ^ k) := by omega
      rw [fitFrom_of_le _ hn, ih (by omega)]
      constructor
      · intro h
        obtain ⟨d, hd, hfit, hleast, hm, hs, hf⟩ := h
        have hk : k + (d + 1) = k + 1 + d := by omega
        refine ⟨d + 1, by omega, by rwa [hk], ?_, by rwa [hk], by omega, hf⟩
        intro e he
        cases e with
        | zero => exact hn
        | succ e =>
          have := hleast e (by omega)
          rwa [show k + (e + 1) = k + 1 + e by omega]
      · intro h
        obtain ⟨d, hd, hfit, hleast, hm, hs, hf⟩ := h
        cases d with
        | zero => rw [Nat.add_zero] at hfit; omega
        | succ d =>
          have hk : k + (d + 1) = k + 1 + d := by omega
          rw [hk] at hfit hm
          refine ⟨d, by omega, hfit, ?_, hm, by omega, hf⟩
          intro e he
          have := hleast (e + 1) (by omega)
          rwa [show k + (e + 1) = k + 1 + e by omega] at this

/-- A zero behind the number is the first digit to go. -/
theorem fitFrom_mul_ten (n k places : Nat) :
    fitFrom (n * 10) (k + 1) places = fitFrom n k places := by
  have hk (k : Nat) : halfEven (n * 10) (10 ^ (k + 1)) = halfEven n (10 ^ k) := by
    rw [Nat.pow_succ, halfEven_mul_mul _ _ (by decide)]
  induction places generalizing k with
  | zero => rw [fitFrom, fitFrom, hk]
  | succ places ih => rw [fitFrom, fitFrom, hk, ih]

theorem fit?_succ_units (n : Nat) {places : Nat} (hp : places < 28) :
    (fit? (n * 10) (places + 1)).map units = (fit? n places).map units := by
  by_cases hn : n * 10 < 2 ^ 96
  · have h10 : halfEven (n * 10) (10 ^ 0) = n * 10 := halfEven_one _
    have h1 : halfEven n (10 ^ 0) = n := halfEven_one _
    rw [fit?, fit?, fitFrom_of_lt (by omega) hp, fitFrom_of_lt (by omega) (by omega), h10, h1]
    obtain ⟨a, ha⟩ := ofParts?_of_lt hn hp
    obtain ⟨b, hb⟩ := ofParts?_of_lt (show n < 2 ^ 96 by omega) (show places ≤ 28 by omega)
    obtain ⟨hma, hsa, _⟩ := ofParts?_eq_some.mp ha
    obtain ⟨hmb, hsb, _⟩ := ofParts?_eq_some.mp hb
    rw [ha, hb, Option.map_some, Option.map_some]
    congr 1
    rw [units, mantissaAt, units, mantissaAt, hma, hsa, hmb, hsb, Nat.mul_assoc, ← Nat.pow_succ']
    congr 2
    omega
  · have hn : 2 ^ 96 ≤ halfEven (n * 10) (10 ^ 0) := by rw [Nat.pow_zero, halfEven_one]; omega
    rw [fit?, fitFrom_of_le _ hn, fitFrom_mul_ten, fit?]

/-- Zeros behind a number do not change its value. -/
theorem fit?_units (n : Nat) {places : Nat} (hp : places ≤ 28) :
    (fit? n places).map units = (fit? (n * 10 ^ (28 - places)) 28).map units := by
  obtain ⟨c, hc⟩ : ∃ c, 28 - places = c := ⟨_, rfl⟩
  rw [hc]
  induction c generalizing n places with
  | zero =>
    obtain rfl : places = 28 := by omega
    rw [Nat.pow_zero, Nat.mul_one]
  | succ c ih =>
    rw [← fit?_succ_units n (by omega), ih (n * 10) (by omega) (by omega), Nat.mul_assoc,
      ← Nat.pow_succ']

/-- The amount nearest to a value that is counted in units. -/
def nearest? (u : Nat) : Option Amount := fit? u 28

/-- Whether `d` is the number of last digits that a value gives up: the fewest without which it,
rounded, fits a mantissa. -/
structure GivesUp (u d : Nat) : Prop where
  fits : halfEven u (10 ^ d) < 2 ^ 96
  least : ∀ e < d, 2 ^ 96 ≤ halfEven u (10 ^ e)

theorem exists_givesUp {u n : Nat} (h : halfEven u (10 ^ n) < 2 ^ 96) : ∃ d ≤ n, GivesUp u d := by
  have hex : ∃ d, halfEven u (10 ^ d) < 2 ^ 96 := ⟨n, h⟩
  refine ⟨Nat.find hex, Nat.find_min' hex h, Nat.find_spec hex, fun e he => ?_⟩
  have := Nat.find_min hex he
  omega

/-- A value that gives up a digit fills the mantissa: one more digit would not fit. -/
theorem GivesUp.full {u d : Nat} (h : GivesUp u (d + 1)) :
    2 ^ 96 ≤ halfEven u (10 ^ (d + 1)) * 10 := by
  have hp : 0 < 10 ^ d := Nat.pow_pos (by decide)
  have hsmall := h.least d (by omega)
  have hupper := halfEven_le u hp
  have hlower := le_halfEven u (d := 10 ^ (d + 1)) (Nat.pow_pos (by decide))
  generalize halfEven u (10 ^ (d + 1)) = q at hlower ⊢
  have h1 : 2 * 2 ^ 96 * 10 ^ d ≤ 2 * halfEven u (10 ^ d) * 10 ^ d :=
    Nat.mul_le_mul_right _ (Nat.mul_le_mul_left _ hsmall)
  have h2 : (2 * q + 1) * 10 ^ (d + 1) = (2 * q + 1) * 10 * 10 ^ d := by rw [Nat.pow_succ]; ring
  have h3 : (2 * 2 ^ 96) * 10 ^ d ≤ ((2 * q + 1) * 10 + 1) * 10 ^ d := by
    rw [Nat.add_mul, Nat.one_mul, ← h2]
    omega
  have h4 := Nat.le_of_mul_le_mul_right h3 hp
  omega

theorem nearest?_eq_some {u : Nat} {a : Amount} :
    nearest? u = some a ↔ ∃ d ≤ 28, GivesUp u d ∧
      a.mantissa = halfEven u (10 ^ d) ∧ a.scale = 28 - d ∧ a.minus = false := by
  rw [nearest?, fit?, fitFrom_eq_some le_rfl]
  simp only [Nat.zero_add]
  constructor
  · intro h
    obtain ⟨d, hd, hfit, hleast, h⟩ := h
    exact ⟨d, hd, ⟨hfit, hleast⟩, h⟩
  · intro h
    obtain ⟨d, hd, hg, h⟩ := h
    exact ⟨d, hd, hg.fits, hg.least, h⟩

theorem givesUp_of_nearest? {u : Nat} {a : Amount} (h : nearest? u = some a) :
    ∃ d ≤ 28, GivesUp u d ∧ a.units = halfEven u (10 ^ d) * 10 ^ d := by
  obtain ⟨d, hd, hg, hm, hs, _⟩ := nearest?_eq_some.mp h
  exact ⟨d, hd, hg, by rw [units_of_scale hd hs, hm]⟩

theorem GivesUp.nearest? {u d : Nat} (h : GivesUp u d) (hd : d ≤ 28) :
    ∃ a, nearest? u = some a ∧ a.units = halfEven u (10 ^ d) * 10 ^ d := by
  obtain ⟨a, ha⟩ := ofParts?_of_lt h.fits (show 28 - d ≤ 28 by omega)
  obtain ⟨hm, hs, hf⟩ := ofParts?_eq_some.mp ha
  exact ⟨a, nearest?_eq_some.mpr ⟨d, hd, h, hm, hs, hf⟩, by rw [units_of_scale hd hs, hm]⟩

/-- A larger value has no smaller amount nearest to it, and a value below one that is in range is in
range. -/
theorem nearest?_mono {u v : Nat} {b : Amount} (h : u ≤ v) (hb : nearest? v = some b) :
    ∃ a, nearest? u = some a ∧ a.units ≤ b.units := by
  obtain ⟨e, he, hv, hbu⟩ := givesUp_of_nearest? hb
  have hmono := halfEven_mono (10 ^ e) h
  obtain ⟨d, hd, hu⟩ := exists_givesUp (hmono.trans_lt hv.fits)
  obtain ⟨a, ha, hau⟩ := hu.nearest? (by omega)
  refine ⟨a, ha, ?_⟩
  rw [hau, hbu]
  rcases Nat.lt_or_eq_of_le hd with hlt | rfl
  · -- The larger value gives up more digits, so its mantissa is full.
    obtain ⟨e, rfl⟩ : ∃ e', e = e' + 1 := ⟨e - 1, by omega⟩
    have hfull := hv.full
    calc
      halfEven u (10 ^ d) * 10 ^ d ≤ 2 ^ 96 * 10 ^ e :=
        Nat.mul_le_mul hu.fits.le (Nat.pow_le_pow_right (by decide) (by omega))
      _ ≤ halfEven v (10 ^ (e + 1)) * 10 * 10 ^ e := Nat.mul_le_mul_right _ hfull
      _ = halfEven v (10 ^ (e + 1)) * 10 ^ (e + 1) := by rw [Nat.mul_assoc, ← Nat.pow_succ']
  · exact Nat.mul_le_mul_right _ hmono

theorem nearest?_units (a : Amount) : ∃ b, nearest? a.units = some b ∧ b.units = a.units := by
  have hmul (d : Nat) (hd : d ≤ 28 - a.scale) :
      a.units = a.mantissa * 10 ^ (28 - a.scale - d) * 10 ^ d := by
    rw [units, mantissaAt, Nat.mul_assoc, ← Nat.pow_add]
    congr 2
    omega
  have hround (d : Nat) (hd : d ≤ 28 - a.scale) :
      halfEven a.units (10 ^ d) = a.mantissa * 10 ^ (28 - a.scale - d) := by
    rw [hmul d hd, halfEven_mul_left _ (Nat.pow_pos (by decide))]
  have hfit : halfEven a.units (10 ^ (28 - a.scale)) < 2 ^ 96 := by
    rw [hround _ le_rfl, Nat.sub_self, Nat.pow_zero, Nat.mul_one]
    exact a.mantissa_lt
  obtain ⟨d, hd, hg⟩ := exists_givesUp hfit
  obtain ⟨b, hb, hbu⟩ := hg.nearest? (by omega)
  exact ⟨b, hb, by rw [hbu, hround d hd, ← hmul d hd]⟩

/-- A value that is not above an amount is not rounded above it. -/
theorem nearest?_le {u : Nat} {a r : Amount} (h : u ≤ a.units) (hr : nearest? u = some r) :
    r ≤ a := by
  obtain ⟨b, hb, hba⟩ := nearest?_units a
  obtain ⟨q, hq, hqb⟩ := nearest?_mono h hb
  obtain rfl : q = r := Option.some.inj (hq.symm.trans hr)
  rwa [le_iff_units, ← hba]

/-- A value that is not below an amount is not rounded below it. -/
theorem le_nearest? {u : Nat} {a r : Amount} (h : a.units ≤ u) (hr : nearest? u = some r) :
    a ≤ r := by
  obtain ⟨b, hb, hba⟩ := nearest?_units a
  obtain ⟨q, hq, hqr⟩ := nearest?_mono h hr
  obtain rfl : q = b := Option.some.inj (hq.symm.trans hb)
  rwa [le_iff_units, ← hba]

theorem exists_units_lt (a : Amount) : ∃ d, a.units < 2 ^ 96 * 10 ^ d := ⟨28, a.units_lt⟩

/-- One unit of the last place, for an amount that is written with as many fractional digits as fit
a mantissa. -/
def lastPlace (a : Amount) : Nat := 10 ^ Nat.find a.exists_units_lt

theorem lastPlace_pos (a : Amount) : 0 < a.lastPlace := Nat.pow_pos (by decide)

theorem lastPlace_mono {a b : Amount} (h : a ≤ b) : a.lastPlace ≤ b.lastPlace :=
  Nat.pow_le_pow_right (by decide)
    (Nat.find_min' _ (Nat.lt_of_le_of_lt h (Nat.find_spec b.exists_units_lt)))

theorem lastPlace_le (a : Amount) : a.lastPlace ≤ 10 ^ 28 :=
  Nat.pow_le_pow_right (by decide) (Nat.find_min' _ a.units_lt)

theorem units_lt_lastPlace (a : Amount) : a.units < 2 ^ 96 * a.lastPlace :=
  Nat.find_spec a.exists_units_lt

theorem lastPlace_dvd_scale (a : Amount) : a.lastPlace ∣ 10 ^ (28 - a.scale) :=
  Nat.pow_dvd_pow 10 (Nat.find_min' _ a.units_lt_scale)

theorem lastPlace_dvd (a : Amount) : a.lastPlace ∣ a.units :=
  Nat.dvd_trans a.lastPlace_dvd_scale (Nat.dvd_mul_left _ _)

theorem lastPlace_eq {a : Amount} {q d : Nat} (ha : a.units = q * 10 ^ d) (hq : q < 2 ^ 96)
    (hfull : d = 0 ∨ 2 ^ 96 ≤ q * 10) : a.lastPlace = 10 ^ d := by
  have hlt : a.units < 2 ^ 96 * 10 ^ d := by
    rw [ha]
    exact Nat.mul_lt_mul_of_pos_right hq (Nat.pow_pos (by decide))
  have hleast : ∀ e < d, ¬a.units < 2 ^ 96 * 10 ^ e := by
    intro e he
    have hq : 2 ^ 96 ≤ q * 10 := hfull.resolve_left (by omega)
    refine Nat.not_lt.mpr ?_
    calc
      2 ^ 96 * 10 ^ e ≤ q * 10 * 10 ^ (d - 1) :=
        Nat.mul_le_mul hq (Nat.pow_le_pow_right (by decide) (by omega))
      _ = a.units := by rw [Nat.mul_assoc, ← Nat.pow_succ', ha]; congr 2; omega
  have hfind : Nat.find a.exists_units_lt = d := (Nat.find_eq_iff _).mpr ⟨hlt, hleast⟩
  rw [lastPlace, hfind]

theorem GivesUp.lastPlace {u d : Nat} {a : Amount} (h : GivesUp u d)
    (ha : a.units = halfEven u (10 ^ d) * 10 ^ d) : a.lastPlace = 10 ^ d := by
  refine lastPlace_eq ha h.fits ?_
  cases d with
  | zero => exact .inl rfl
  | succ d => exact .inr h.full

/-- Rounding moves a value by half of the last place of its result at most. -/
theorem nearest?_error {u : Nat} {a : Amount} (h : nearest? u = some a) :
    2 * u ≤ 2 * a.units + a.lastPlace ∧ 2 * a.units ≤ 2 * u + a.lastPlace := by
  obtain ⟨d, _, hg, ha⟩ := givesUp_of_nearest? h
  have hp : 0 < 10 ^ d := Nat.pow_pos (by decide)
  have hlower := le_halfEven u hp
  have hupper := halfEven_le u hp
  rw [Nat.add_mul, Nat.one_mul, Nat.mul_assoc, ← ha] at hlower
  rw [Nat.mul_assoc, ← ha] at hupper
  rw [hg.lastPlace ha]
  exact ⟨hlower, hupper⟩

/-- A value is out of range only when it is no less than half a unit below `2 ^ 96`. -/
theorem le_of_nearest?_eq_none {u : Nat} (h : nearest? u = none) :
    (2 ^ 97 - 1) * 10 ^ 28 ≤ 2 * u := by
  have hout : 2 ^ 96 ≤ halfEven u (10 ^ 28) := by
    by_contra hlt
    obtain ⟨d, hd, hg⟩ := exists_givesUp (Nat.lt_of_not_le hlt)
    obtain ⟨a, ha, _⟩ := hg.nearest? hd
    rw [h] at ha
    cases ha
  have hupper := halfEven_le u (d := 10 ^ 28) (by decide)
  have hprod := Nat.mul_le_mul_right (10 ^ 28) (Nat.mul_le_mul_left 2 hout)
  generalize 10 ^ 28 = p at hupper hprod ⊢
  omega

/-- A sum is the amount nearest to the exact sum; the scales of the two have no part in its
value. -/
theorem add?_units (a b : Amount) :
    (add? a b).map units = (nearest? (a.units + b.units)).map units := by
  rw [add?]
  split_ifs with ha hb
  · obtain ⟨c, hc, hcu⟩ := nearest?_units b
    rw [isZero_iff_units.mp ha, Nat.zero_add, hc, Option.map_some, Option.map_some, hcu]
  · obtain ⟨c, hc, hcu⟩ := nearest?_units a
    rw [isZero_iff_units.mp hb, Nat.add_zero, hc, Option.map_some, Option.map_some, hcu]
  · have hp : max a.scale b.scale ≤ 28 := Nat.max_le.mpr ⟨a.scale_le, b.scale_le⟩
    dsimp only
    rw [fit?_units _ hp, nearest?, Nat.add_mul,
      a.mantissaAt_units (Nat.le_max_left _ _) hp, b.mantissaAt_units (Nat.le_max_right _ _) hp]

end Amount

end SpendingLimits
