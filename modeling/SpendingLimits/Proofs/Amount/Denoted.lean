import Mathlib.Tactic.Positivity
import SpendingLimits.Proofs.Amount.Rounded

namespace SpendingLimits.Amount

open Text

variable {a b : Amount} {c : Char} {cs front rest : List Char} {n : Signed}

/-- A text without a sign in front. -/
def NoSign (cs : List Char) : Prop := cs.head? ≠ some '-' ∧ cs.head? ≠ some '+'

/-- The power of ten of a text; one that the reader refuses counts as none. -/
def power (cs : List Char) : ℤ :=
  match readExponent? (exponent cs) with
  | some (negative, k) => if negative then -k else k
  | none => 0

/-- The number that a text denotes: what the digits in front of its power of ten write, times the
power. -/
def denoted (cs : List Char) : ℚ := written (base cs) * 10 ^ power cs

theorem takeSign_of_noSign (h : NoSign cs) : takeSign cs = (false, cs) := by
  fun_cases takeSign cs with
  | case1 cs => exact absurd rfl h.1
  | case2 cs => exact absurd rfl h.2
  | case3 cs => rfl

theorem head?_base (hc : isExponentMark c = false) :
    (base cs).head? = some c ↔ cs.head? = some c := by
  rw [base, List.head?_takeWhile, Option.filter_eq_some_iff, hc]
  exact and_iff_left rfl

theorem noSign_base : NoSign (base cs) ↔ NoSign cs := by
  rw [NoSign, NoSign, Ne, Ne, head?_base (by decide), head?_base (by decide)]

theorem base_minus (cs : List Char) : base ('-' :: cs) = '-' :: base cs :=
  List.takeWhile_cons_of_pos (by decide)

theorem exponent_minus (cs : List Char) : exponent ('-' :: cs) = exponent cs := by
  rw [exponent, exponent, List.dropWhile_cons_of_pos (by decide)]

theorem denoted_minus (h : NoSign cs) : denoted ('-' :: cs) = -denoted cs := by
  have hpower : power ('-' :: cs) = power cs := by rw [power, power, exponent_minus]
  have hwritten : written ('-' :: base cs) = -written (base cs) := by
    rw [written, written, digits_cons_of_none (by decide), fraction_cons (by decide),
      List.head?_cons, if_pos rfl, if_neg (noSign_base.mpr h).1]
    ring
  rw [denoted, denoted, hpower, base_minus, hwritten, neg_mul]

theorem denoted_nonneg (h : cs.head? ≠ some '-') : 0 ≤ denoted cs := by
  rw [denoted, written, if_neg (mt (head?_base (by decide)).mp h)]
  exact mul_nonneg (by positivity) (zpow_nonneg (by norm_num) _)

theorem denoted_nonpos (h : cs.head? = some '-') : denoted cs ≤ 0 := by
  rw [denoted, written, if_pos ((head?_base (by decide)).mpr h), neg_one_mul, neg_div, neg_mul,
    neg_nonpos]
  exact mul_nonneg (by positivity) (zpow_nonneg (by norm_num) _)

/-- Only a text with a minus in front denotes a number below zero. -/
theorem exists_minus (h : denoted cs < 0) : ∃ ds, cs = '-' :: ds := by
  by_contra hno
  have hhead : cs.head? ≠ some '-' := fun hhead => hno (List.head?_eq_some_iff.mp hhead)
  exact absurd h (not_lt.mpr (denoted_nonneg hhead))

theorem ofDigits_eq_zero {ds : List (Fin 10)} : ofDigits 10 ds = 0 ↔ ∀ d ∈ ds, d = 0 := by
  induction ds with
  | nil => simp
  | cons d ds ih =>
    rw [ofDigits_cons, Nat.add_eq_zero_iff, ih, Nat.mul_eq_zero, List.forall_mem_cons,
      ← Fin.val_eq_zero_iff]
    simp

theorem denoted_eq_zero : denoted cs = 0 ↔ ∀ d ∈ digits (base cs), d = 0 := by
  have hpower : (10 : ℚ) ^ power cs ≠ 0 := zpow_ne_zero _ (by norm_num)
  have hlast : (10 : ℚ) ^ (fraction (base cs)).length ≠ 0 := pow_ne_zero _ (by norm_num)
  have hsign : (if (base cs).head? = some '-' then (-1 : ℚ) else 1) ≠ 0 := by
    split_ifs <;> norm_num
  rw [denoted, written, mul_eq_zero, or_iff_left hpower, div_eq_zero_iff, or_iff_left hlast,
    mul_eq_zero, or_iff_right hsign, Nat.cast_eq_zero, ofDigits_eq_zero]

theorem digits_append (front rest : List Char) :
    digits (front ++ rest) = digits front ++ digits rest :=
  List.filterMap_append

/-- Zeros are read as zero, with nothing to round up. -/
theorem isZero_of_readDigits? (h : readDigits? cs = some a) (hzero : ∀ d ∈ digits cs, d = 0) :
    a.isZero = true := by
  obtain ⟨found, hfound, hround⟩ := readDigits?_eq_some.mp h
  obtain ⟨front, rfl, hm, _⟩ := scanFrom_eq_ok hfound
  rw [digits_append, List.forall_mem_append] at hzero
  rcases roundSpare?_cases hround with rfl | ⟨⟨d, hd, hne⟩, _⟩
  · rw [isZero, beq_iff_eq, hm, ofDigits_eq_zero.mpr hzero.1]
    simp [zero]
  · exact absurd (hzero.2 d hd) hne

theorem readPlain?_of_zeros (h : readPlain? cs = some n) (hzero : ∀ d ∈ digits cs, d = 0) :
    n.negative = false ∧ n.magnitude.isZero = true := by
  obtain ⟨a, ha, rfl⟩ := readPlain?_eq_some.mp h
  have hisZero : a.isZero = true := by
    refine isZero_of_readDigits? ha ?_
    rwa [(takeSign_cases cs).1]
  exact ⟨by simp [Signed.ofDigits, hisZero], hisZero⟩

/-- A text that denotes zero is read as zero without a sign. -/
theorem readRounded?_of_zero (h : readRounded? cs = some n) (hzero : denoted cs = 0) :
    n.negative = false ∧ n.magnitude.isZero = true := by
  rw [denoted_eq_zero] at hzero
  rcases readRounded?_eq_some.mp h with hplain | ⟨_, hscientific⟩
  · rw [base_eq_self hplain] at hzero
    exact readPlain?_of_zeros hplain hzero
  · obtain ⟨m, down, k, hm, _, hshift, hsign⟩ := readScientific?_eq_some.mp hscientific
    obtain ⟨hpositive, hisZero⟩ := readPlain?_of_zeros hm hzero
    exact ⟨hsign.trans hpositive, (shift?_isZero hshift).1 hisZero⟩

/-- Without a power of ten a sign is that of the text, and no zero has one. -/
theorem negative_of_readPlain? (h : readPlain? cs = some n) (hsign : n.negative = true) :
    cs.head? = some '-' ∧ n.magnitude.isZero = false := by
  obtain ⟨a, _, rfl⟩ := readPlain?_eq_some.mp h
  obtain ⟨hminus, hne⟩ := Bool.and_eq_true_iff.mp hsign
  rw [Bool.not_eq_true'] at hne
  exact ⟨(takeSign_cases cs).2.2.mp hminus, hne⟩

/-- What is read as a number below zero denotes one. -/
theorem denoted_lt_zero (h : readRounded? cs = some n) (hsign : n.negative = true) :
    denoted cs < 0 := by
  have hhead : cs.head? = some '-' := by
    rcases readRounded?_eq_some.mp h with hread | ⟨_, hscientific⟩
    · exact (negative_of_readPlain? hread hsign).1
    · obtain ⟨m, _, _, hm, _, _, hsame⟩ := readScientific?_eq_some.mp hscientific
      exact (head?_base (by decide)).mp (negative_of_readPlain? hm (hsame.symm.trans hsign)).1
  refine lt_of_le_of_ne (denoted_nonpos hhead) fun hzero => ?_
  rw [(readRounded?_of_zero h hzero).1] at hsign
  cases hsign

/-- Only a negative power of ten rounds a number below zero to a zero that keeps the sign. -/
theorem negative_of_readRounded? (h : readRounded? cs = some n) (hsign : n.negative = true)
    (hzero : n.magnitude.isZero = true) : n.magnitude.scale = 28 ∧ power cs < 0 := by
  rcases readRounded?_eq_some.mp h with hplain | ⟨_, hscientific⟩
  · rw [(negative_of_readPlain? hplain hsign).2] at hzero
    cases hzero
  · obtain ⟨m, down, k, hm, hpower, hshift, hsame⟩ := readScientific?_eq_some.mp hscientific
    have hne := (negative_of_readPlain? hm (hsame.symm.trans hsign)).2
    obtain ⟨rfl, hk, hscale⟩ := (shift?_isZero hshift).2.2 hne hzero
    refine ⟨hscale, ?_⟩
    rw [power, hpower]
    simpa using hk

theorem fraction_append (h : fraction front ≠ []) :
    fraction (front ++ rest) = fraction front ++ digits rest := by
  have hpoint : front.dropWhile (· != '.') ≠ [] := by
    intro hnil
    rw [fraction, hnil] at h
    exact h rfl
  rw [fraction, fraction, List.dropWhile_append, if_neg (by simpa using hpoint), digits_append]

/-- Digits are rounded to zero only if the number that they write is less than one in the last
place. -/
theorem written_lt_of_readDigits? (h : readDigits? cs = some a) (hzero : a.isZero = true) :
    (ofDigits 10 (digits cs) : ℚ) / 10 ^ (fraction cs).length < 1 / 10 ^ 28 := by
  obtain ⟨found, hfound, hround⟩ := readDigits?_eq_some.mp h
  obtain ⟨front, hfront, hm, hs, _, hfull⟩ := scanFrom_eq_ok hfound
  have htaken : found.taken.mantissa = 0 := by
    rcases roundSpare?_cases hround with rfl | ⟨_, hup⟩
    · rwa [isZero, beq_iff_eq] at hzero
    · rw [(roundUp?_parts hup).2] at hzero
      cases hzero
  have hdigits : ofDigits 10 (digits front) = 0 := by
    rw [htaken] at hm
    exact (Nat.add_eq_zero_iff.mp hm.symm).2
  rw [hfront, digits_append, ofDigits_append, hdigits, Nat.zero_mul, Nat.zero_add]
  rcases hfull with hall | hscale | hlarge
  · rw [hall]
    norm_num [digits]
  · have hlength : (fraction front).length = 28 := by
      rw [hscale, if_neg (by simp)] at hs
      simpa [zero] using hs.symm
    have hne : fraction front ≠ [] := by
      intro hnil
      rw [hnil] at hlength
      cases hlength
    have hlt : (ofDigits 10 (digits found.rest) : ℚ) < 10 ^ (digits found.rest).length := by
      exact_mod_cast ofDigits_lt (digits found.rest)
    rw [fraction_append hne, List.length_append, hlength, pow_add,
      div_lt_div_iff₀ (by positivity) (by positivity), one_mul, mul_comm]
    exact mul_lt_mul_of_pos_left hlt (by positivity)
  · omega

end SpendingLimits.Amount
