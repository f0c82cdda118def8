import Mathlib.Tactic.Ring
import SpendingLimits.Binary64.Decimal
import SpendingLimits.Proofs.Amount.Rounding
import SpendingLimits.Proofs.Text.Digits

namespace SpendingLimits.Binary64

variable {n d e c k : Nat} {s : Span} {x : Binary64}

theorem floorLog_eq (hd : 0 < d) (hlow : d * 2 ^ e ≤ n) (hhigh : n < d * 2 ^ (e + 1)) :
    floorLog n d = e := by
  have hn : n ≠ 0 := Nat.ne_of_gt (Nat.lt_of_lt_of_le (Nat.mul_pos hd (Nat.two_pow_pos e)) hlow)
  have hdlog : 2 ^ d.log2 ≤ d := Nat.log2_self_le (Nat.ne_of_gt hd)
  have hdlog' : d < 2 ^ (d.log2 + 1) := Nat.lt_log2_self
  have hle : d.log2 + e ≤ n.log2 := by
    rw [Nat.le_log2 hn, Nat.pow_add]
    exact (Nat.mul_le_mul_right _ hdlog).trans hlow
  have hlt : n.log2 < d.log2 + 1 + (e + 1) := by
    rw [Nat.log2_lt hn, Nat.pow_add]
    exact hhigh.trans (Nat.mul_lt_mul_of_pos_right hdlog' (Nat.two_pow_pos _))
  obtain heq | heq : n.log2 = d.log2 + e ∨ n.log2 = d.log2 + e + 1 := by omega
  · have hlog : (n.log2 : Int) - d.log2 = e := by omega
    rw [floorLog, hlog]
    simp [hlow]
  · have hlog : (n.log2 : Int) - d.log2 = (e + 1 : Nat) := by omega
    have hover : ¬d * 2 ^ (e + 1) ≤ n := Nat.not_le.mpr hhigh
    rw [floorLog, hlog]
    simp only [Int.toNat_natCast, Int.toNat_neg_natCast, Nat.pow_zero, Nat.mul_one]
    rw [if_neg hover]
    omega

/-- A quotient of at least 53 bits is rounded to a significand of 53 bits, and its power of two
grows by one at most. -/
theorem nearest?_binade (hd : 0 < d) (he : e ≤ 970) (hlow : d * 2 ^ (e + 52) ≤ n)
    (hhigh : n < d * 2 ^ (e + 53)) :
    ∃ x, nearest? n d = some x ∧ 2 ^ 52 ≤ x.significand ∧ x.significand < 2 ^ 53 ∧
      (e : Int) ≤ x.exponent ∧ x.exponent ≤ e + 1 := by
  have hn : n ≠ 0 := Nat.ne_of_gt (Nat.lt_of_lt_of_le (Nat.mul_pos hd (Nat.two_pow_pos _)) hlow)
  have hexponent : max (-1074) (floorLog n d - 52) = e := by
    rw [floorLog_eq hd hlow hhigh]
    omega
  have hd' : 0 < d * 2 ^ e := Nat.mul_pos hd (Nat.two_pow_pos e)
  have hm : 2 ^ 52 ≤ halfEven n (d * 2 ^ e) := by
    have hmono : halfEven (2 ^ 52 * (d * 2 ^ e)) (d * 2 ^ e) ≤ halfEven n (d * 2 ^ e) := by
      apply halfEven_mono
      calc 2 ^ 52 * (d * 2 ^ e) = d * 2 ^ (e + 52) := by ring
        _ ≤ n := hlow
    rwa [halfEven_mul_left _ hd'] at hmono
  have hm' : halfEven n (d * 2 ^ e) ≤ 2 ^ 53 := by
    have hmono : halfEven n (d * 2 ^ e) ≤ halfEven (2 ^ 53 * (d * 2 ^ e)) (d * 2 ^ e) := by
      apply halfEven_mono
      calc n ≤ d * 2 ^ (e + 53) := hhigh.le
        _ = 2 ^ 53 * (d * 2 ^ e) := by ring
    rwa [halfEven_mul_left _ hd'] at hmono
  rw [nearest?, if_neg hn]
  simp only [hexponent, Int.toNat_natCast, Int.toNat_neg_natCast, Nat.pow_zero, Nat.mul_one]
  rcases Nat.lt_or_eq_of_le hm' with hlt | hcarry
  · rw [if_neg (Nat.ne_of_lt hlt)]
    refine ⟨⟨_, e⟩, if_pos ?_, hm, hlt, le_refl _, ?_⟩
    · change (e : Int) ≤ 971
      omega
    · change (e : Int) ≤ e + 1
      omega
  · rw [if_pos hcarry]
    refine ⟨⟨2 ^ 52, e + 1⟩, if_pos ?_, le_refl _,
      Nat.pow_lt_pow_right (by decide) (by decide), ?_, le_refl _⟩
    · change (e : Int) + 1 ≤ 971
      omega
    · change (e : Int) ≤ e + 1
      omega

/-- Two steps after each other, of which neither is looked into. -/
theorem bind_eq_some {A B : Type} {step : Option A} {next : A → Option B} {a : A} {b : B}
    (h : step = some a) (hnext : next a = some b) : step >>= next = some b := by
  rw [h]
  exact hnext

theorem mul?_one {y : Binary64} {f : Nat} (hy : y.exponent = f) (hf : f ≤ 52) :
    y.mul? ⟨2 ^ 52, -52⟩ = nearest? (y.significand * 2 ^ 52) (2 ^ (52 - f)) := by
  have hscale : y.exponent + -52 = -((52 - f : Nat) : Int) := by omega
  rw [mul?, nearestScaled?, hscale, neg_neg, Int.toNat_natCast, Int.toNat_neg_natCast, Nat.pow_zero,
    Nat.mul_one, Nat.one_mul]

/-- A whole number of 64 bits stays one. -/
theorem ofDecimal?_of_whole (hlow : 2 ^ 63 ≤ n) (hhigh : n < 2 ^ 64) :
    ∃ x, ofDecimal? n 0 = some x ∧ 2 ^ 52 ≤ x.significand ∧ x.significand < 2 ^ 53 ∧
      11 ≤ x.exponent ∧ x.exponent ≤ 13 := by
  have hone : nearest? (10 ^ 0) 1 = some ⟨2 ^ 52, -52⟩ := by decide +kernel
  obtain ⟨y, hy, hsig, hsig', hexp, hexp'⟩ := nearest?_binade (n := n) (d := 1) (e := 11)
    (by decide) (by decide) (by simpa using hlow) (by simpa using hhigh)
  obtain ⟨f, hf⟩ := Int.eq_ofNat_of_zero_le (show 0 ≤ y.exponent by omega)
  have hxlow : 2 ^ (52 - f) * 2 ^ (f + 52) ≤ y.significand * 2 ^ 52 := by
    rw [← Nat.pow_add, show 52 - f + (f + 52) = 52 + 52 by omega, Nat.pow_add]
    exact Nat.mul_le_mul_right _ hsig
  have hxhigh : y.significand * 2 ^ 52 < 2 ^ (52 - f) * 2 ^ (f + 53) := by
    rw [← Nat.pow_add, show 52 - f + (f + 53) = 53 + 52 by omega, Nat.pow_add]
    exact Nat.mul_lt_mul_of_pos_right hsig' (Nat.two_pow_pos _)
  obtain ⟨x, hx, hxsig, hxsig', hxexp, hxexp'⟩ :=
    nearest?_binade (Nat.two_pow_pos _) (by omega) hxlow hxhigh
  refine ⟨x, ?_, hxsig, hxsig', by omega, by omega⟩
  have htimes : timesPower? y 0 = some x := by
    rw [timesPower?, if_pos (Nat.zero_le _)]
    refine bind_eq_some hone ?_
    rw [mul?_one hf (by omega)]
    exact hx
  rw [ofDecimal?]
  refine bind_eq_some hy ?_
  rw [if_pos (Int.le_refl 0), Int.toNat_zero]
  exact htimes

theorem floorLog_one_le (n : Nat) : floorLog n 1 ≤ n.log2 := by
  rw [floorLog, show Nat.log2 1 = 0 by decide]
  split_ifs <;> omega

/-- A number in the binades below the last is finite. -/
theorem isSome_nearest? (h : n < 2 ^ (1023 : ℕ)) : (nearest? n 1).isSome = true := by
  by_cases hn : n = 0
  · rw [nearest?, if_pos hn, Option.isSome_some]
  · have hlog : n.log2 < 1023 := (Nat.log2_lt hn).mpr h
    have hfloor := floorLog_one_le n
    rw [nearest?, if_neg hn]
    generalize floorLog n 1 = f at hfloor ⊢
    simp only
    rw [if_pos, Option.isSome_some]
    split_ifs
    · change max (-1074) (f - 52) + 1 ≤ 971
      omega
    · change max (-1074) (f - 52) ≤ 971
      omega

/-- The powers of ten that a step multiplies by are finite. -/
theorem isSome_nearest?_power (hk : k ≤ greatestPower) : (nearest? (10 ^ k) 1).isSome = true := by
  rcases Nat.lt_or_eq_of_le hk with hlt | rfl
  · have hlast : 10 ^ (307 : ℕ) < 2 ^ (1023 : ℕ) := by decide +kernel
    exact isSome_nearest?
      (Nat.lt_of_le_of_lt (Nat.pow_le_pow_right (by decide) (Nat.le_of_lt_succ hlt)) hlast)
  · decide +kernel

theorem timesPower?_zero (k : Nat) : zero.timesPower? k = some zero := by
  rw [timesPower?]
  by_cases hk : k ≤ greatestPower
  · obtain ⟨y, hy⟩ := Option.isSome_iff_exists.mp (isSome_nearest?_power hk)
    rw [if_pos hk]
    refine bind_eq_some hy ?_
    have hproduct : zero.significand * y.significand = 0 := Nat.zero_mul _
    rw [mul?, nearestScaled?, hproduct, Nat.zero_mul]
    exact if_pos rfl
  · rw [if_neg hk]
    exact if_pos rfl

/-- Zero times a power of ten is zero, also where the power is out of range. -/
theorem ofDecimal?_zero (power : Int) : ofDecimal? 0 power = some zero := by
  have hnearest : nearest? 0 1 = some zero := rfl
  rw [ofDecimal?]
  refine bind_eq_some hnearest ?_
  split_ifs
  · exact timesPower?_zero _
  · rw [overPower?]
    exact if_pos rfl

theorem holds_of_nearestWhole? (h : s.nearestWhole? = some c) : s.holds c = true := by
  rw [Span.nearestWhole?] at h
  split at h
  · next hfirst hsecond =>
    split_ifs at h
    · obtain rfl := Option.some.inj h
      exact hfirst
    · obtain rfl := Option.some.inj h
      exact hsecond
  · next hfirst _ =>
    obtain rfl := Option.some.inj h
    exact hfirst
  · next _ hsecond =>
    obtain rfl := Option.some.inj h
    exact hsecond
  · cases h

theorem between_of_holds (hmid : s.low ≤ s.high) (h : s.holds c = true) :
    s.low ≤ c * s.denominator ∧ c * s.denominator ≤ s.high := by
  simp only [Span.holds, Bool.or_eq_true, Bool.and_eq_true, decide_eq_true_eq, beq_iff_eq] at h
  omega

/-- The shortest digits of a number that has as many digits in front of the point as are tried lie
in its span. -/
theorem shortestFrom_between {p : Int} {count tries : Nat} (hone : s.denominator = 1)
    (hlow : s.low ≤ s.mid) (hhigh : s.mid ≤ s.high) (hp : (count + tries : Nat) ≤ p) :
    ∃ c k : Nat, shortestFrom s p count tries = (c, (k : Int)) ∧
      s.low ≤ c * 10 ^ k ∧ c * 10 ^ k ≤ s.high := by
  induction tries generalizing count with
  | zero => exact ⟨s.mid / s.denominator, 0, rfl, by simpa [hone] using hlow,
      by simpa [hone] using hhigh⟩
  | succ tries ih =>
    rw [shortestFrom]
    obtain ⟨k, hk⟩ := Int.eq_ofNat_of_zero_le (show 0 ≤ p - count by omega)
    cases hwhole : (s.inUnits (p - count)).nearestWhole? with
    | some c =>
      have hbetween := between_of_holds ?_ (holds_of_nearestWhole? hwhole)
      · simp only [Span.inUnits, hk, hone] at hbetween
        refine ⟨c, k, by rw [hk], ?_, ?_⟩
        · simpa using hbetween.1
        · simpa using hbetween.2
      · exact Nat.mul_le_mul_right _ (hlow.trans hhigh)
    | none =>
      refine ih ?_
      omega

theorem decimalLength_of_le {tries : Nat} (hn : 10 ^ 18 ≤ n) :
    18 ≤ decimalLength n 1 (tries + 1) := by
  obtain ⟨digit, ds, hchars, hval, _⟩ := Text.toDigits_eq_chars n
  have hlength : 10 ^ 18 < 10 ^ (digit :: ds).length := by
    calc 10 ^ 18 ≤ Text.ofDigits 10 (digit :: ds) := by rwa [hval]
      _ < 10 ^ (digit :: ds).length := Text.ofDigits_lt _
  have hlt : 18 < (digit :: ds).length := (Nat.pow_lt_pow_iff_right (by decide)).mp hlength
  rw [decimalLength, if_pos (by omega), Nat.div_one, hchars, Text.chars, List.length_map]
  omega

/-- The span of a number of 64 bits, with nothing behind the point. -/
theorem span_of_exponent (hsig : 2 ^ 52 ≤ x.significand) (hexp : x.exponent = e + 2) :
    x.span.denominator = 1 ∧ x.span.mid = 4 * x.significand * 2 ^ e ∧
      x.span.high = (4 * x.significand + 2) * 2 ^ e ∧
      0 < x.span.low ∧ x.span.low ≤ x.span.mid := by
  have hdown : 2 - x.exponent = -(e : Int) := by omega
  have hup : x.exponent - 2 = e := by omega
  have hpow : 0 < 2 ^ e := Nat.two_pow_pos e
  simp only [span, hdown, hup, Int.toNat_natCast, Int.toNat_neg_natCast, Nat.pow_zero, true_and]
  constructor
  · exact Nat.mul_pos (by split_ifs <;> omega) hpow
  · exact Nat.mul_le_mul_right _ (Nat.sub_le _ _)

/-- The shortest digits of a number of 64 bits make a whole number, which is not zero and of few
more bits. -/
theorem shortest_between (hsig : 2 ^ 52 ≤ x.significand) (hsig' : x.significand < 2 ^ 53)
    (hexp : 11 ≤ x.exponent) (hexp' : x.exponent ≤ 13) :
    ∃ c k : Nat, x.shortest = (c, (k : Int)) ∧ 0 < c * 10 ^ k ∧ c * 10 ^ k < 2 ^ 96 := by
  obtain ⟨e, he⟩ := Int.eq_ofNat_of_zero_le (show 0 ≤ x.exponent - 2 by omega)
  have hup : 2 ^ 9 ≤ 2 ^ e := Nat.pow_le_pow_right (by decide) (by omega)
  have hup' : 2 ^ e ≤ 2 ^ 11 := Nat.pow_le_pow_right (by decide) (by omega)
  obtain ⟨hone, hmid, hhigh, hlow, hlow'⟩ := span_of_exponent hsig (e := e) (by omega)
  have hlarge : 10 ^ 18 ≤ x.span.mid := by
    rw [hmid]
    calc 10 ^ 18 ≤ 4 * 2 ^ 52 * 2 ^ 9 := by decide
      _ ≤ 4 * x.significand * 2 ^ e := Nat.mul_le_mul (Nat.mul_le_mul_left 4 hsig) hup
  have hfits : x.span.high < 2 ^ 96 := by
    rw [hhigh]
    calc (4 * x.significand + 2) * 2 ^ e ≤ (4 * 2 ^ 53 + 2) * 2 ^ 11 :=
          Nat.mul_le_mul (by omega) hup'
      _ < 2 ^ 96 := by decide
  have hle : x.span.mid ≤ x.span.high := by
    rw [hmid, hhigh]
    exact Nat.mul_le_mul_right _ (Nat.le_add_right _ _)
  have hlength : ((1 + 17 : Nat) : Int) ≤ decimalLength x.span.mid x.span.denominator 400 := by
    rw [hone]
    exact decimalLength_of_le hlarge
  obtain ⟨c, k, hck, hcklow, hckhigh⟩ := shortestFrom_between hone hlow' hle hlength
  rw [shortest, if_neg (by omega)]
  simp only [hck]
  split_ifs with hten
  · refine ⟨c / 10, k + 1, rfl, ?_, ?_⟩
    all_goals
      rw [Nat.pow_succ', ← Nat.mul_assoc, Nat.div_mul_cancel (Nat.dvd_of_mod_eq_zero hten)]
      omega
  · exact ⟨c, k, rfl, by omega, by omega⟩

end SpendingLimits.Binary64
