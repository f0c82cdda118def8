import SpendingLimits.Proofs.Amount.Minus
import SpendingLimits.Proofs.Binary64

namespace SpendingLimits.Numeral

open Text Amount

variable {n : Numeral} {a : Amount} {ds : List (Fin 10)}

/-- The number that a numeral denotes. -/
def value (n : Numeral) : ℚ :=
  (if n.negative then -1 else 1) *
    (n.whole + ofDigits 10 n.fraction / 10 ^ n.fraction.length) * 10 ^ n.exponent.getD 0

/-- The numeral with or without a minus. -/
def withSign (n : Numeral) (negative : Bool) : Numeral := { n with negative := negative }

theorem withSign_negative (n : Numeral) : n.withSign n.negative = n := rfl

theorem value_eq_zero : n.value = 0 ↔ n.whole = 0 ∧ ∀ d ∈ n.fraction, d = 0 := by
  have hpower : (10 : ℚ) ^ n.exponent.getD 0 ≠ 0 := zpow_ne_zero _ (by norm_num)
  have hlast : (10 : ℚ) ^ n.fraction.length ≠ 0 := pow_ne_zero _ (by norm_num)
  have hsign : (if n.negative then (-1 : ℚ) else 1) ≠ 0 := by
    split_ifs <;> norm_num
  have hsum : (n.whole : ℚ) + ofDigits 10 n.fraction / 10 ^ n.fraction.length = 0 ↔
      (n.whole : ℚ) = 0 ∧ (ofDigits 10 n.fraction : ℚ) / 10 ^ n.fraction.length = 0 :=
    add_eq_zero_iff_of_nonneg (by positivity) (by positivity)
  rw [value, mul_eq_zero, or_iff_left hpower, mul_eq_zero, or_iff_right hsign, hsum,
    Nat.cast_eq_zero, div_eq_zero_iff, or_iff_left hlast, Nat.cast_eq_zero, ofDigits_eq_zero]

theorem negative_of_value (h : n.value < 0) : n.negative = true := by
  by_contra hplus
  have hpos : 0 ≤ n.value := by
    rw [value, if_neg hplus]
    exact mul_nonneg (by positivity) (zpow_nonneg (by norm_num) _)
  exact absurd h (not_lt.mpr hpos)

theorem value_withSign (n : Numeral) : (n.withSign true).value = -(n.withSign false).value := by
  simp only [value, withSign, if_true, Bool.false_eq_true, if_false]
  ring

/-- The amount that the binary number of a numeral makes, its sign aside. -/
def binary? (n : Numeral) : Option Amount :=
  n.magnitude?.bind fun x => (readRounded? (writeBinary x)).map (·.magnitude)

/-- The amount that a numeral makes, its sign aside. -/
def size? (n : Numeral) : Option Amount :=
  match n.toInt? with
  | some i => ofParts? i.natAbs 0
  | none => n.binary?

theorem toInt?_eq_some {i : Int} (h : n.toInt? = some i) :
    (n.fraction = [] ∧ n.exponent = none ∧ n.whole < 2 ^ 64) ∧ i.natAbs = n.whole ∧
      decide (i < 0) = n.negative := by
  rw [toInt?] at h
  split_ifs at h with hform hsign
  all_goals
    push Not at hform
    obtain rfl := Option.some.inj h
    refine ⟨⟨hform.1, hform.2, by omega⟩, by omega, ?_⟩
  · rw [hsign, decide_eq_true_eq]
    omega
  · rw [Bool.not_eq_true] at hsign
    rw [hsign, decide_eq_false_iff_not]
    omega

theorem size?_eq_binary? (h : n.fraction ≠ [] ∨ n.exponent ≠ none ∨ 2 ^ 64 ≤ n.whole) :
    n.size? = n.binary? := by
  rw [size?]
  cases hint : n.toInt? with
  | none => rfl
  | some i =>
    obtain ⟨⟨hfraction, hexponent, hlt⟩, _⟩ := toInt?_eq_some hint
    rcases h with h | h | h
    · exact absurd hfraction h
    · exact absurd hexponent h
    · exact absurd hlt (Nat.not_lt.mpr h)

theorem toDecimal?_eq (n : Numeral) : n.toDecimal? = n.size?.map (.ofDigits n.negative) := by
  rw [toDecimal?, size?]
  cases hint : n.toInt? with
  | some i => simp only [(toInt?_eq_some hint).2.2]
  | none =>
    rw [binary?]
    cases n.magnitude? with
    | none => rfl
    | some x =>
      change (readRounded? (writeBinary x)).bind _ = ((readRounded? (writeBinary x)).map _).map _
      cases readRounded? (writeBinary x) <;> rfl

theorem ofJson_number_eq_ok :
    ofJson (.number n) = .ok a ↔ n.size? = some a ∧ (n.negative = true → a.isZero = true) := by
  rw [ofJson, ofDecimal_eq_ok, toDecimal?_eq]
  constructor
  · rintro ⟨m, hm, hamount⟩
    obtain ⟨b, hb, rfl⟩ := Option.map_eq_some_iff.mp hm
    obtain ⟨hsign, rfl⟩ := toAmount?_ofDigits.mp hamount
    exact ⟨hb, hsign⟩
  · rintro ⟨ha, hsign⟩
    exact ⟨_, Option.map_eq_some_iff.mpr ⟨a, ha, rfl⟩, toAmount?_ofDigits.mpr ⟨hsign, rfl⟩⟩

theorem minus_of_ofJson_number (h : ofJson (.number n) = .ok a) : a.minus = false := by
  obtain ⟨hsize, _⟩ := ofJson_number_eq_ok.mp h
  rw [size?] at hsize
  cases hint : n.toInt? with
  | some i =>
    simp only [hint] at hsize
    exact (ofParts?_eq_some.mp hsize).2.2
  | none =>
    simp only [hint, binary?, Option.bind_eq_some_iff, Option.map_eq_some_iff] at hsize
    obtain ⟨_, _, m, hm, rfl⟩ := hsize
    exact minus_of_readRounded? hm

theorem takeDigits_toDigits (k : Nat) : ofDigits 10 (takeDigits (Nat.toDigits 10 k)).1 = k := by
  obtain ⟨d, ds, hchars, hvalue, _⟩ := toDigits_eq_chars k
  have hend : NoDigit [] := by simp [NoDigit]
  have htake := takeDigits_chars (d :: ds) hend
  rw [List.append_nil] at htake
  rw [hchars, htake, hvalue]

/-- Digits of at most 64 bits are all taken. -/
theorem takeWhole_of_lt {taken : Nat}
    (h : taken * 10 ^ ds.length + ofDigits 10 ds < 2 ^ 64) :
    takeWhole taken 0 ds = (taken * 10 ^ ds.length + ofDigits 10 ds, 0) := by
  induction ds generalizing taken with
  | nil => simp [takeWhole]
  | cons d ds ih =>
    have hvalue : taken * 10 ^ (d :: ds).length + ofDigits 10 (d :: ds) =
        (10 * taken + d) * 10 ^ ds.length + ofDigits 10 ds := by
      rw [ofDigits_cons, List.length_cons]
      ring
    rw [hvalue] at h ⊢
    have hfirst : 10 * taken + d.val ≤ (10 * taken + d) * 10 ^ ds.length :=
      Nat.le_mul_of_pos_right _ (Nat.pow_pos (by decide))
    rw [takeWhole, if_pos ⟨rfl, by omega⟩, ih h]

theorem takeWhole_toDigits {k : Nat} (h : k < 2 ^ 64) :
    takeWhole 0 0 (takeDigits (Nat.toDigits 10 k)).1 = (k, 0) := by
  have hvalue := takeDigits_toDigits k
  generalize (takeDigits (Nat.toDigits 10 k)).1 = ds at hvalue ⊢
  have hlt : 0 * 10 ^ ds.length + ofDigits 10 ds < 2 ^ 64 := by omega
  rw [takeWhole_of_lt hlt, Nat.zero_mul, Nat.zero_add, hvalue]

theorem takeFraction_of_zeros {used : Nat} (h : ∀ d ∈ ds, d = 0) :
    (takeFraction 0 used ds).1 = 0 := by
  induction ds generalizing used with
  | nil => rfl
  | cons d ds ih =>
    obtain ⟨rfl, hrest⟩ := List.forall_mem_cons.mp h
    rw [takeFraction, if_pos (by decide)]
    exact ih hrest

theorem binary?_of_zero (hwhole : n.whole = 0) (hfraction : ∀ d ∈ n.fraction, d = 0) :
    n.binary? = some zero := by
  have hmagnitude : n.magnitude? = some .zero := by
    rw [magnitude?, hwhole, takeWhole_toDigits (by decide)]
    simp only [takeFraction_of_zeros hfraction]
    exact Binary64.ofDecimal?_zero _
  rw [binary?, hmagnitude]
  rfl

/-- A zero is read as zero, whatever its power of ten. -/
theorem size?_of_zero (hwhole : n.whole = 0) (hfraction : ∀ d ∈ n.fraction, d = 0) :
    n.size? = some zero := by
  rw [size?]
  cases hint : n.toInt? with
  | some i =>
    simp only [(toInt?_eq_some hint).2.1, hwhole]
    rfl
  | none => exact binary?_of_zero hwhole hfraction

theorem ofJson_number_of_zero (h : n.value = 0) : ofJson (.number n) = .ok zero := by
  obtain ⟨hwhole, hfraction⟩ := value_eq_zero.mp h
  exact ofJson_number_eq_ok.mpr ⟨size?_of_zero hwhole hfraction, fun _ => rfl⟩

/-- The binary number of a whole number of 64 bits is read as a whole number that is not zero. -/
theorem isZero_of_binary? (hfraction : n.fraction = []) (hexponent : n.exponent = none)
    (hlow : 2 ^ 63 ≤ n.whole) (hhigh : n.whole < 2 ^ 64) (h : n.binary? = some a) :
    a.isZero = false := by
  obtain ⟨x, hx, hsig, hsig', hexp, hexp'⟩ := Binary64.ofDecimal?_of_whole hlow hhigh
  obtain ⟨c, k, hshortest, hpos, hlt⟩ := Binary64.shortest_between hsig hsig' hexp hexp'
  have hmagnitude : n.magnitude? = some x := by
    rw [magnitude?, takeWhole_toDigits hhigh, hfraction, hexponent]
    exact hx
  let m : Amount := ⟨c * 10 ^ k, 0, false, hlt, by decide, by simp⟩
  have htext : writeBinary x = m.text.toList := by
    rw [writeBinary, hshortest, text, String.toList_ofList]
    simp only [Int.toNat_natCast, Int.toNat_neg_natCast]
    rfl
  rw [binary?, hmagnitude, Option.bind_some, htext, readRounded?_text] at h
  obtain rfl := Option.some.inj h
  rw [isZero, beq_eq_false_iff_ne]
  exact Nat.ne_of_gt hpos

theorem isZero_of_whole (hfraction : n.fraction = []) (hexponent : n.exponent = none)
    (hwhole : n.whole ≠ 0) (hhigh : n.whole < 2 ^ 64) (h : n.size? = some a) :
    a.isZero = false := by
  rw [size?] at h
  cases hint : n.toInt? with
  | some i =>
    simp only [hint, (toInt?_eq_some hint).2.1] at h
    rw [isZero, beq_eq_false_iff_ne, (ofParts?_eq_some.mp h).1]
    exact hwhole
  | none =>
    simp only [hint] at h
    rw [toInt?, if_neg (by simp [hfraction, hexponent])] at hint
    split_ifs at hint with hsign hrange
    exact isZero_of_binary? hfraction hexponent (by omega) hhigh h

/-- Whether a numeral is read as zero does not depend on its sign. -/
theorem size?_withSign (n : Numeral) (negative : Bool) (ha : a.isZero = true) :
    (n.withSign negative).size? = some a ↔ n.size? = some a := by
  by_cases hzero : n.whole = 0 ∧ ∀ d ∈ n.fraction, d = 0
  · rw [size?_of_zero hzero.1 hzero.2, size?_of_zero (n := n.withSign negative) hzero.1 hzero.2]
  by_cases hbinary : n.fraction ≠ [] ∨ n.exponent ≠ none ∨ 2 ^ 64 ≤ n.whole
  · rw [size?_eq_binary? hbinary, size?_eq_binary? (n := n.withSign negative) hbinary]
    rfl
  · -- a whole number of 64 bits may be binary with one sign only, but is not zero either way
    push Not at hbinary
    obtain ⟨hfraction, hexponent, hhigh⟩ := hbinary
    have hwhole : n.whole ≠ 0 := fun hwhole => hzero ⟨hwhole, by simp [hfraction]⟩
    have hnone : ∀ negative, (n.withSign negative).size? ≠ some a := by
      intro negative h
      rw [isZero_of_whole (n := n.withSign negative) hfraction hexponent hwhole hhigh h] at ha
      cases ha
    exact iff_of_false (hnone negative) (hnone n.negative)

/-- A number with a minus is an amount if the number without it is read as zero, and then the same
amount. -/
theorem ofJson_number_minus : ofJson (.number (n.withSign true)) = .ok a ↔
    ofJson (.number (n.withSign false)) = .ok a ∧ a.isZero = true := by
  have hplus : (n.withSign false).negative ≠ true := nofun
  have hminus : (n.withSign true).negative = true := rfl
  rw [ofJson_number_eq_ok, ofJson_number_eq_ok, and_iff_left (absurd · hplus),
    forall_prop_of_true hminus, and_congr_left_iff]
  intro ha
  rw [size?_withSign n true ha, size?_withSign n false ha]

theorem ofJson_number_refusesNegative :
    RefusesNegative (fun n a => ofJson (.number n) = .ok a) value
      fun n m => n = m.withSign true ∧ m = m.withSign false where
  turned := by
    rintro n m b ⟨rfl, hm⟩
    rw [hm]
    exact exists_unsigned_iff minus_of_ofJson_number ofJson_number_minus
  negative := by
    intro n a hneg h
    have hminus : n.withSign true = n := by
      rw [← negative_of_value hneg]
      exact withSign_negative n
    rw [← hminus] at h hneg
    obtain ⟨hread, hzero⟩ := ofJson_number_minus.mp h
    rw [value_withSign, neg_lt_zero] at hneg
    rw [unsigned_eq_self_iff.mpr (minus_of_ofJson_number h)]
    exact ⟨hzero, n.withSign false, ⟨hminus.symm, rfl⟩, hneg, hread⟩
  zero := by
    rintro n m a ⟨rfl, hm⟩ hvalue h
    rw [ofJson_number_of_zero hvalue] at h
    obtain rfl := Except.ok.inj h
    have hturned : (m.withSign true).value = 0 := by
      rw [value_withSign, ← hm, hvalue, neg_zero]
    exact ⟨rfl, rfl, ofJson_number_of_zero hturned⟩

end SpendingLimits.Numeral
