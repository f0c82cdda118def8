import SpendingLimits.Codec.Amount
import SpendingLimits.Proofs.Amount.Denoted

namespace SpendingLimits.Amount

open Text

variable {a b : Amount} {cs : List Char} {n m : Signed} {found : Scanned} {s t : String}

/-- A reader that takes no number below zero for an amount. `Turned s t` says that `s` has a minus
in front of `t`, and `value` is the number that a source denotes. -/
structure RefusesNegative {Source : Type} (Reads : Source → Amount → Prop) (value : Source → ℚ)
    (Turned : Source → Source → Prop) : Prop where
  /-- With a minus in front, what is read as zero is an amount, and the same but for a minus. -/
  turned : ∀ {s t b}, Turned s t →
    ((∃ a, Reads s a ∧ a.unsigned = b) ↔ Reads t b ∧ b.isZero = true)
  /-- A number below zero is refused, unless the number without its minus is rounded to zero. -/
  negative : ∀ {s a}, value s < 0 → Reads s a →
    a.isZero = true ∧ ∃ t, Turned s t ∧ 0 < value t ∧ Reads t a.unsigned
  /-- A zero with a minus is the zero without it. -/
  zero : ∀ {s t a}, Turned s t → value t = 0 → Reads t a →
    a.isZero = true ∧ a.minus = false ∧ Reads s a

theorem exists_unsigned_iff {R S : Amount → Prop} (hplus : ∀ {a}, S a → a.minus = false)
    (hsame : ∀ {a}, R a ↔ S a ∧ a.isZero = true) :
    (∃ a, R a ∧ a.unsigned = b) ↔ S b ∧ b.isZero = true := by
  constructor
  · rintro ⟨a, ha, rfl⟩
    obtain ⟨h, hzero⟩ := hsame.mp ha
    rw [unsigned_eq_self_iff.mpr (hplus h)]
    exact ⟨h, hzero⟩
  · intro hb
    exact ⟨b, hsame.mpr hb, unsigned_eq_self_iff.mpr (hplus hb.1)⟩

/-- What a text is read as without a minus in front, and with it: two numbers of one size, and the
second is below zero unless that size is zero. -/
structure Opposed (n m : Signed) : Prop where
  positive : n.negative = false
  magnitude : m.magnitude = n.magnitude
  negative : n.magnitude.isZero = false → m.negative = true

theorem opposed_ofDigits (a : Amount) : Opposed (.ofDigits false a) (.ofDigits true a) where
  positive := rfl
  magnitude := rfl
  negative := by
    intro h
    rw [Signed.ofDigits] at h ⊢
    rw [h]
    rfl

theorem readPlain?_minus (h : NoSign cs) :
    Option.Rel Opposed (readPlain? cs) (readPlain? ('-' :: cs)) := by
  rw [readPlain?_eq, readPlain?_eq, takeSign_of_noSign h, takeSign]
  cases readDigits? cs with
  | none => exact .none
  | some a => exact .some (opposed_ofDigits a)

theorem readScientific?_minus (h : NoSign cs) :
    Option.Rel Opposed (readScientific? cs) (readScientific? ('-' :: cs)) := by
  have hplain := readPlain?_minus (noSign_base.mpr h)
  rw [readScientific?_eq, readScientific?_eq, base_minus, exponent_minus]
  generalize readPlain? (base cs) = r, readPlain? ('-' :: base cs) = r' at hplain ⊢
  cases hplain with
  | none => exact .none
  | @some n m hnm =>
    rw [Option.bind_some, Option.bind_some, hnm.magnitude]
    cases readExponent? (exponent cs) with
    | none => exact .none
    | some power =>
      rw [Option.bind_some, Option.bind_some]
      cases hshift : shift? power.1 n.magnitude power.2 with
      | none => exact .none
      | some a =>
        refine .some ⟨hnm.positive, rfl, fun ha => hnm.negative ?_⟩
        -- a zero stays zero, so a size that is not zero now was not zero before
        by_contra hn
        rw [(shift?_isZero hshift).1 (Bool.not_eq_false _ ▸ hn)] at ha
        cases ha

/-- A text with a minus in front is read as the text behind it with the sign turned. -/
theorem readRounded?_minus (h : NoSign cs) :
    Option.Rel Opposed (readRounded? cs) (readRounded? ('-' :: cs)) := by
  have hplain := readPlain?_minus h
  have hscientific := readScientific?_minus h
  rw [readRounded?, readRounded?]
  generalize readPlain? cs = r, readPlain? ('-' :: cs) = r' at hplain ⊢
  cases hplain with
  | none => exact hscientific
  | some hnm => exact .some hnm

theorem noSign_of_scanFrom (h : scanFrom false false zero cs = .ok found) : NoSign cs := by
  cases cs with
  | nil => exact ⟨by simp, by simp⟩
  | cons c cs =>
    rw [NoSign, List.head?_cons]
    constructor
    all_goals
      intro hc
      obtain rfl := Option.some.inj hc
      cases h

/-- There is one sign at most in front of what is read. -/
theorem noSign_of_readRounded? (h : readRounded? ('-' :: cs) = some n) : NoSign cs := by
  have hplain : ∀ {cs m}, readPlain? ('-' :: cs) = some m → NoSign cs := by
    intro cs m hm
    obtain ⟨a, ha, _⟩ := readPlain?_eq_some.mp hm
    obtain ⟨found, hfound, _⟩ := readDigits?_eq_some.mp ha
    exact noSign_of_scanFrom hfound
  rcases readRounded?_eq_some.mp h with hread | ⟨_, hscientific⟩
  · exact hplain hread
  · obtain ⟨m, _, _, hm, _⟩ := readScientific?_eq_some.mp hscientific
    rw [base_minus] at hm
    exact noSign_base.mp (hplain hm)

/-- The zero that is left of a number below zero where a power of ten rounds it. -/
def negativeZero : Amount := ((ofParts? 0 28).bind negated?).getD zero

theorem negated?_eq_some : a.negated? = some b ↔
    a.isZero = true ∧ b.isZero = true ∧ b.scale = a.scale ∧ b.minus = true := by
  simp only [isZero, beq_iff_eq]
  rw [negated?]
  split_ifs with h
  · rw [Option.some_inj]
    constructor
    · rintro rfl
      exact ⟨h, h, rfl, rfl⟩
    · rintro ⟨_, hm, hs, hminus⟩
      obtain ⟨m, s, minus, hlt, hle, hzero⟩ := b
      simp only [mk.injEq] at hm hs hminus ⊢
      exact ⟨h.trans hm.symm, hs.symm, hminus.symm⟩
  · simp [h]

theorem isSome_negated? (h : a.isZero = true) : a.negated?.isSome = true := by
  rw [isZero, beq_iff_eq] at h
  rw [negated?, dif_pos h, Option.isSome_some]

theorem toAmount?_eq_some : n.toAmount? = some a ↔
    n.negative = false ∧ n.magnitude = a ∨ n.negative = true ∧ n.magnitude.negated? = some a := by
  rw [Signed.toAmount?]
  cases n.negative <;> simp

theorem ofDecimal_eq_ok {o : Option Signed} :
    ofDecimal o = .ok a ↔ ∃ n, o = some n ∧ n.toAmount? = some a := by
  cases o with
  | none => simp [ofDecimal]
  | some n =>
    rw [ofDecimal]
    cases hamount : n.toAmount? <;> simp [hamount]

theorem eq_unsigned_of_isZero (ha : a.isZero = true) (hb : b.isZero = true)
    (hscale : a.scale = b.scale) (hplus : a.minus = false) : a = b.unsigned := by
  rw [isZero, beq_iff_eq] at ha hb
  exact eq_unsigned (ha.trans hb.symm) hscale hplus

/-- With its sign turned a number is an amount if it is zero, and then the same amount but for a
minus. -/
theorem Opposed.toAmount? (h : Opposed n m) (hplus : n.magnitude.minus = false) :
    (∃ a, m.toAmount? = some a ∧ a.unsigned = b) ↔ n.toAmount? = some b ∧ b.isZero = true := by
  simp only [toAmount?_eq_some, h.positive, h.magnitude, true_and, Bool.false_eq_true, false_and,
    or_false, negated?_eq_some]
  constructor
  · rintro ⟨a, ⟨hsign, rfl⟩ | ⟨hsign, hzero, ha, hs, _⟩, rfl⟩
    · rw [unsigned_eq_self_iff.mpr hplus]
      refine ⟨rfl, ?_⟩
      by_contra hne
      rw [h.negative (Bool.not_eq_true _ ▸ hne)] at hsign
      cases hsign
    · exact ⟨eq_unsigned_of_isZero hzero ha hs.symm hplus, ha⟩
  · rintro ⟨rfl, hzero⟩
    cases hsign : m.negative with
    | false => exact ⟨n.magnitude, .inl ⟨rfl, rfl⟩, unsigned_eq_self_iff.mpr hplus⟩
    | true =>
      obtain ⟨a, ha⟩ := Option.isSome_iff_exists.mp (isSome_negated? hzero)
      obtain ⟨_, hazero, hs, hminus⟩ := negated?_eq_some.mp ha
      exact ⟨a, .inr ⟨rfl, hzero, hazero, hs, hminus⟩,
        (eq_unsigned_of_isZero hzero hazero hs.symm hplus).symm⟩

theorem ofJson_text_eq_ok : ofJson (.text s) = .ok a ↔
    ∃ n, readRounded? s.toList = some n ∧ n.toAmount? = some a := ofDecimal_eq_ok

/-- A text with a minus is an amount if the text without it is read as zero, and then the same
amount but for a minus. -/
theorem ofJson_text_minus (hst : s.toList = '-' :: t.toList) (ht : NoSign t.toList) :
    (∃ a, ofJson (.text s) = .ok a ∧ a.unsigned = b) ↔
      ofJson (.text t) = .ok b ∧ b.isZero = true := by
  have hrel := readRounded?_minus ht
  have hplus := @minus_of_readRounded? t.toList
  simp only [ofJson_text_eq_ok, hst]
  generalize readRounded? t.toList = r, readRounded? ('-' :: t.toList) = r' at hrel hplus ⊢
  cases hrel with
  | none => simp
  | some hnm => simpa using hnm.toAmount? (hplus rfl)

/-- An amount with a minus is left of a number below zero that a power of ten rounds to zero. -/
theorem minus_of_ofJson_text (h : ofJson (.text s) = .ok a) (hminus : a.minus = true) :
    a = negativeZero ∧ denoted s.toList < 0 ∧ power s.toList < 0 := by
  obtain ⟨n, hn, hamount⟩ := ofJson_text_eq_ok.mp h
  rcases toAmount?_eq_some.mp hamount with ⟨_, rfl⟩ | ⟨hsign, hnegated⟩
  · rw [minus_of_readRounded? hn] at hminus
    cases hminus
  · obtain ⟨hzero, hazero, hs, _⟩ := negated?_eq_some.mp hnegated
    obtain ⟨hscale, hpower⟩ := negative_of_readRounded? hn hsign hzero
    refine ⟨?_, denoted_lt_zero hn hsign, hpower⟩
    obtain ⟨m, s, minus, _, _, _⟩ := a
    rw [isZero, beq_iff_eq] at hazero
    obtain rfl : m = 0 := hazero
    obtain rfl : s = 28 := hs.trans hscale
    obtain rfl : minus = true := hminus
    rfl

theorem ofJson_text_isZero (hzero : denoted s.toList = 0) (h : ofJson (.text s) = .ok a) :
    a.isZero = true ∧ a.minus = false := by
  obtain ⟨n, hn, hamount⟩ := ofJson_text_eq_ok.mp h
  obtain ⟨hpositive, hisZero⟩ := readRounded?_of_zero hn hzero
  rcases toAmount?_eq_some.mp hamount with ⟨_, rfl⟩ | ⟨hsign, _⟩
  · exact ⟨hisZero, minus_of_readRounded? hn⟩
  · rw [hpositive] at hsign
    cases hsign

theorem ofJson_text_refusesNegative : RefusesNegative (fun s a => ofJson (.text s) = .ok a)
    (fun s => denoted s.toList) fun s t => s.toList = '-' :: t.toList ∧ NoSign t.toList where
  turned h := ofJson_text_minus h.1 h.2
  negative := by
    intro s a hneg h
    obtain ⟨cs, hs⟩ := exists_minus hneg
    obtain ⟨n, hn, _⟩ := ofJson_text_eq_ok.mp h
    rw [hs] at hn
    have hsign : NoSign cs := noSign_of_readRounded? hn
    rw [← String.toList_ofList (l := cs)] at hs hsign
    obtain ⟨hread, hzero⟩ := (ofJson_text_minus hs hsign).mp ⟨a, h, rfl⟩
    rw [hs, denoted_minus hsign, neg_lt_zero] at hneg
    exact ⟨hzero, String.ofList cs, ⟨hs, hsign⟩, hneg, hread⟩
  zero := by
    rintro s t a ⟨hst, ht⟩ hzero h
    have hdenoted : denoted s.toList = 0 := by rw [hst, denoted_minus ht, hzero, neg_zero]
    obtain ⟨hisZero, hplus⟩ := ofJson_text_isZero hzero h
    obtain ⟨b, hb, rfl⟩ := (ofJson_text_minus hst ht).mpr ⟨h, hisZero⟩
    rw [unsigned_eq_self_iff.mpr (ofJson_text_isZero hdenoted hb).2] at hisZero hplus ⊢
    exact ⟨hisZero, hplus, hb⟩

/-- Without a power of ten a number below zero is rounded to zero only if it is less than one in the
last place away from it. -/
theorem lt_denoted_of_ofJson_text (hplain : ∀ c ∈ s.toList, isExponentMark c = false)
    (hneg : denoted s.toList < 0) (h : ofJson (.text s) = .ok a) :
    -(1 / 10 ^ 28) < denoted s.toList := by
  have hzero := (ofJson_text_refusesNegative.negative hneg h).1
  obtain ⟨n, hn, hamount⟩ := ofJson_text_eq_ok.mp h
  have hsize : n.magnitude.isZero = true := by
    rcases toAmount?_eq_some.mp hamount with ⟨_, rfl⟩ | ⟨_, hnegated⟩
    · exact hzero
    · exact (negated?_eq_some.mp hnegated).1
  have hbase : base s.toList = s.toList :=
    List.takeWhile_eq_self_iff.mpr fun c hc => by simp [hplain c hc]
  have hexponent : exponent s.toList = [] := by
    rw [exponent, List.dropWhile_eq_nil_iff.mpr fun c hc => by simp [hplain c hc], List.tail_nil]
  rcases readRounded?_eq_some.mp hn with hread | ⟨_, hscientific⟩
  · obtain ⟨b, hb, rfl⟩ := readPlain?_eq_some.mp hread
    have hlt := written_lt_of_readDigits? hb hsize
    rw [(takeSign_cases _).1, (takeSign_cases _).2.1] at hlt
    obtain ⟨cs, hs⟩ := exists_minus hneg
    have hhead : s.toList.head? = some '-' := by rw [hs, List.head?_cons]
    have hpower : power s.toList = 0 := by
      rw [power, hexponent]
      rfl
    rw [denoted, hpower, zpow_zero, mul_one, hbase, written, if_pos hhead, neg_one_mul, neg_div]
    exact neg_lt_neg hlt
  · obtain ⟨_, _, _, _, hpower, _⟩ := readScientific?_eq_some.mp hscientific
    rw [hexponent] at hpower
    cases hpower

/-- A text with a minus, blanks around it aside, is an amount if the text without it is zero, and
then the same amount. -/
theorem read_minus (hst : trim s.toList = '-' :: trim t.toList) (ht : NoSign (trim t.toList)) :
    read s = .ok a ↔ read t = .ok a ∧ a.isZero = true := by
  have hminus : takeSign ('-' :: trim t.toList) = (true, trim t.toList) := rfl
  rw [read_eq_ok, read_eq_ok, hst]
  simp only [scan_eq_ok, hminus, takeSign_of_noSign ht]
  simp

theorem minus_of_read (h : read s = .ok a) : a.minus = false := by
  obtain ⟨_, hscan, _⟩ := read_eq_ok.mp h
  exact (scan_eq_fits hscan).2.2.1

theorem units_of_read (h : read s = .ok a) : (a.units : ℚ) / 10 ^ 28 = written (trim s.toList) := by
  obtain ⟨_, hscan, hsign⟩ := read_eq_ok.mp h
  exact units_eq_written hscan hsign

theorem read_of_lt_zero (hneg : written (trim s.toList) < 0) : ∃ why, read s = .error why := by
  cases h : read s with
  | error why => exact ⟨why, rfl⟩
  | ok a =>
    rw [← units_of_read h] at hneg
    exact absurd hneg (not_lt.mpr (by positivity))

theorem read_refusesNegative : RefusesNegative (fun s a => read s = .ok a)
    (fun s => written (trim s.toList))
    fun s t => trim s.toList = '-' :: trim t.toList ∧ NoSign (trim t.toList) where
  turned h := exists_unsigned_iff minus_of_read (read_minus h.1 h.2)
  negative := by
    intro s a hneg h
    obtain ⟨why, hwhy⟩ := read_of_lt_zero hneg
    rw [h] at hwhy
    cases hwhy
  zero := by
    rintro s t a ⟨hst, ht⟩ hzero h
    rw [← units_of_read h, div_eq_zero_iff, or_iff_left (pow_ne_zero _ (by norm_num)),
      Nat.cast_eq_zero, ← isZero_iff_units] at hzero
    exact ⟨hzero, minus_of_read h, (read_minus hst ht).mpr ⟨h, hzero⟩⟩

end SpendingLimits.Amount
