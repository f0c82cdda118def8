import Mathlib.Data.List.TakeWhile
import SpendingLimits.Proofs.Amount.Reading

namespace SpendingLimits.Amount

open Text

variable {a b : Amount} {c : Char} {cs : List Char} {n : Signed} {point digit : Bool}
  {found : Scanned} {k : Nat}

theorem roundUp?_parts (h : roundUp? a = some b) : b.minus = false ∧ b.isZero = false := by
  rw [isZero, beq_eq_false_iff_ne]
  have hm := a.mantissa_lt
  rw [roundUp?] at h
  cases hup : ofParts? (a.mantissa + 1) a.scale with
  | some c =>
    simp only [hup] at h
    obtain rfl := Option.some.inj h
    obtain ⟨hmantissa, _, hminus⟩ := ofParts?_eq_some.mp hup
    exact ⟨hminus, by omega⟩
  | none =>
    simp only [hup] at h
    split_ifs at h
    obtain ⟨hmantissa, _, hminus⟩ := ofParts?_eq_some.mp h
    have hfull : ¬(a.mantissa + 1 < 2 ^ 96 ∧ a.scale ≤ 28) := by
      intro hfits
      rw [ofParts?, dif_pos hfits] at hup
      cases hup
    have hscale := a.scale_le
    exact ⟨hminus, by omega⟩

theorem roundBy?_cases {d : Nat} (h : roundBy? a d cs = some b) :
    b = a ∨ 5 ≤ d ∧ roundUp? a = some b := by
  rw [roundBy?] at h
  split_ifs at h with _ hd
  · exact .inr ⟨hd, h⟩
  · exact .inl (Option.some.inj h).symm

/-- Characters to spare leave a number as it is, or one of their digits rounds it up. -/
theorem roundSpare?_cases (h : roundSpare? a cs = some b) :
    b = a ∨ (∃ d ∈ digits cs, d ≠ 0) ∧ roundUp? a = some b := by
  induction cs with
  | nil => exact .inl (Option.some.inj h).symm
  | cons c cs ih =>
    rw [roundSpare?] at h
    cases hdigit : digit? c with
    | some d =>
      simp only [hdigit] at h
      rw [digits_cons_of_some hdigit]
      rcases roundBy?_cases h with hsame | ⟨hd, hup⟩
      · exact .inl hsame
      · have hne : d ≠ 0 := by
          rintro rfl
          exact absurd hd (by decide)
        exact .inr ⟨⟨d, List.mem_cons_self, hne⟩, hup⟩
    | none =>
      simp only [hdigit] at h
      rw [digits_cons_of_none hdigit]
      split_ifs at h
      · exact ih h
      · rcases roundBy?_cases h with hsame | ⟨hd, _⟩
        · exact .inl hsame
        · exact absurd hd (by decide)

/-- The number that the digits of a text make, with those to spare rounded away. -/
def readDigits? (cs : List Char) : Option Amount :=
  (scanFrom false false zero cs).toOption.bind fun found => roundSpare? found.taken found.rest

theorem readDigits?_eq_some : readDigits? cs = some a ↔ ∃ found,
    scanFrom false false zero cs = .ok found ∧ roundSpare? found.taken found.rest = some a := by
  simp only [readDigits?, Option.bind_eq_some_iff, toOption_eq_some]

theorem minus_of_readDigits? (h : readDigits? cs = some a) : a.minus = false := by
  obtain ⟨found, hfound, hround⟩ := readDigits?_eq_some.mp h
  rcases roundSpare?_cases hround with rfl | ⟨_, hup⟩
  · obtain ⟨_, _, _, _, hminus, _⟩ := scanFrom_eq_ok hfound
    exact hminus rfl
  · exact (roundUp?_parts hup).1

theorem readPlain?_eq (cs : List Char) :
    readPlain? cs = (readDigits? (takeSign cs).2).map (.ofDigits (takeSign cs).1) := by
  apply Option.ext
  intro n
  rw [Option.map_eq_some_iff]
  simp only [readDigits?_eq_some]
  rw [readPlain?]
  constructor
  · intro h
    cases hscan : scan cs with
    | error why => simp [hscan] at h
    | ok signed =>
      obtain ⟨negative, found⟩ := signed
      obtain ⟨rfl, hfound⟩ := scan_eq_ok.mp hscan
      rw [hscan] at h
      cases found with
      | fits a => exact ⟨a, ⟨_, hfound, rfl⟩, Option.some.inj h⟩
      | spare a rest =>
        obtain ⟨b, hround, hn⟩ := Option.map_eq_some_iff.mp h
        exact ⟨b, ⟨_, hfound, hround⟩, hn⟩
  · rintro ⟨b, ⟨found, hfound, hround⟩, rfl⟩
    rw [scan_eq_ok.mpr ⟨rfl, hfound⟩]
    cases found with
    | fits a =>
      obtain rfl := Option.some.inj hround
      rfl
    | spare a rest => exact Option.map_eq_some_iff.mpr ⟨b, hround, rfl⟩

theorem readPlain?_eq_some : readPlain? cs = some n ↔
    ∃ a, readDigits? (takeSign cs).2 = some a ∧ .ofDigits (takeSign cs).1 a = n := by
  rw [readPlain?_eq, Option.map_eq_some_iff]

/-- The number over or times a power of ten. -/
def shift? (down : Bool) (a : Amount) (k : Nat) : Option Amount :=
  if down then shiftDown? a k else shiftUp? a k

/-- What stands in front of the power of ten of a text. -/
def base (cs : List Char) : List Char := cs.takeWhile (!isExponentMark ·)

/-- What stands behind the mark of the power of ten of a text. -/
def exponent (cs : List Char) : List Char := (cs.dropWhile (!isExponentMark ·)).tail

theorem readScientific?_eq (cs : List Char) : readScientific? cs =
    (readPlain? (base cs)).bind fun n => (readExponent? (exponent cs)).bind fun power =>
      (shift? power.1 n.magnitude power.2).map (⟨n.negative, ·⟩) := by
  rw [readScientific?, base, exponent]
  cases cs.dropWhile (!isExponentMark ·) with
  | nil => cases readPlain? (cs.takeWhile (!isExponentMark ·)) <;> rfl
  | cons c rest =>
    cases readPlain? (cs.takeWhile (!isExponentMark ·)) with
    | none => rfl
    | some n =>
      rw [List.tail_cons]
      cases hpower : readExponent? rest with
      | none => simp [hpower]
      | some power =>
        obtain ⟨down, k⟩ := power
        simp only [hpower, shift?, Option.map_eq_bind]
        cases down <;> rfl

theorem readScientific?_eq_some : readScientific? cs = some n ↔ ∃ m down k,
    readPlain? (base cs) = some m ∧ readExponent? (exponent cs) = some (down, k) ∧
    shift? down m.magnitude k = some n.magnitude ∧ n.negative = m.negative := by
  simp only [readScientific?_eq, Option.bind_eq_some_iff, Option.map_eq_some_iff]
  constructor
  · rintro ⟨m, hm, ⟨down, k⟩, hpower, a, ha, rfl⟩
    exact ⟨m, down, k, hm, hpower, ha, rfl⟩
  · rintro ⟨m, down, k, hm, hpower, ha, hsign⟩
    exact ⟨m, hm, (down, k), hpower, n.magnitude, ha, by rw [← hsign]⟩

/-- A power of ten keeps a zero, and makes none but by giving up digits behind the last place. -/
theorem shift?_isZero {down : Bool} (h : shift? down a k = some b) :
    (a.isZero = true → b.isZero = true) ∧ b.minus = false ∧
      (a.isZero = false → b.isZero = true → down = true ∧ 0 < k ∧ b.scale = 28) := by
  have hscale := a.scale_le
  simp only [isZero, beq_iff_eq, beq_eq_false_iff_ne]
  rw [shift?] at h
  split_ifs at h with hdown
  · rw [shiftDown?] at h
    split_ifs at h
    · obtain ⟨hm, _, hplus⟩ := ofParts?_eq_some.mp h
      exact ⟨fun ha => hm.trans ha, hplus, fun ha hb => absurd (hm.symm.trans hb) ha⟩
    · obtain ⟨hm, hs, hplus⟩ := ofParts?_eq_some.mp h
      refine ⟨fun ha => ?_, hplus, fun _ _ => ⟨hdown, by omega, hs⟩⟩
      rw [hm, ha, halfUp, Nat.zero_mod, Nat.zero_div, if_pos (by simp)]
  · rw [shiftUp?] at h
    split_ifs at h
    · obtain ⟨hm, _, hplus⟩ := ofParts?_eq_some.mp h
      exact ⟨fun ha => hm.trans ha, hplus, fun ha hb => absurd (hm.symm.trans hb) ha⟩
    · obtain ⟨hm, _, hplus⟩ := ofParts?_eq_some.mp h
      refine ⟨fun ha => by rw [hm, ha, Nat.zero_mul], hplus, fun ha hb => ?_⟩
      rw [hm, Nat.mul_eq_zero] at hb
      exact absurd (hb.resolve_right (Nat.ne_of_gt (Nat.pow_pos (by decide)))) ha

theorem readRounded?_eq_some : readRounded? cs = some n ↔
    readPlain? cs = some n ∨ readPlain? cs = none ∧ readScientific? cs = some n := by
  rw [readRounded?, Option.orElse_eq_orElse, Option.orElse_eq_or, Option.or_eq_some_iff]

/-- The size of what is read has no minus; the sign stands apart from it. -/
theorem minus_of_readRounded? (h : readRounded? cs = some n) : n.magnitude.minus = false := by
  rcases readRounded?_eq_some.mp h with hplain | ⟨_, hscientific⟩
  · obtain ⟨a, ha, rfl⟩ := readPlain?_eq_some.mp hplain
    exact minus_of_readDigits? ha
  · obtain ⟨_, _, _, _, _, hshift, _⟩ := readScientific?_eq_some.mp hscientific
    exact (shift?_isZero hshift).2.1

theorem not_mark_of_digit {d : Fin 10} (h : digit? c = some d) : isExponentMark c = false := by
  by_contra hmark
  rw [Bool.not_eq_false, isExponentMark, Bool.or_eq_true, beq_iff_eq, beq_iff_eq] at hmark
  rcases hmark with rfl | rfl
  · cases h
  · cases h

theorem not_mark_of_roundBy? {d : Nat} (h : roundBy? a d cs = some b) :
    ∀ c ∈ cs, isExponentMark c = false := by
  intro c hc
  rw [roundBy?] at h
  split_ifs at h with hall
  all_goals
    have hplain := List.all_eq_true.mp hall c hc
    rw [Bool.or_eq_true, beq_iff_eq, Option.isSome_iff_exists] at hplain
    rcases hplain with rfl | ⟨d, hdigit⟩
    · decide
    · exact not_mark_of_digit hdigit

theorem not_mark_of_roundSpare? (h : roundSpare? a cs = some b) :
    ∀ c ∈ cs, isExponentMark c = false := by
  induction cs with
  | nil => simp
  | cons c cs ih =>
    rw [List.forall_mem_cons]
    rw [roundSpare?] at h
    cases hdigit : digit? c with
    | some d =>
      simp only [hdigit] at h
      exact ⟨not_mark_of_digit hdigit, not_mark_of_roundBy? h⟩
    | none =>
      simp only [hdigit] at h
      split_ifs at h with hunder
      · exact ⟨by rw [hunder]; decide, ih h⟩
      · exact ⟨by rw [hunder]; decide, not_mark_of_roundBy? h⟩

theorem not_mark_of_scanFrom (h : scanFrom point digit a cs = .ok found)
    (hround : roundSpare? found.taken found.rest = some b) :
    ∀ c ∈ cs, isExponentMark c = false := by
  induction cs generalizing point digit a with
  | nil => simp
  | cons c cs ih =>
    rcases scanFrom_cons h with ⟨rfl, _⟩ | ⟨d, _, hdigit, _, hrest⟩ | ⟨rfl, _, hrest⟩ |
      ⟨rfl, hrest⟩
    · exact not_mark_of_roundSpare? hround
    · exact List.forall_mem_cons.mpr ⟨not_mark_of_digit hdigit, ih hrest⟩
    · exact List.forall_mem_cons.mpr ⟨by decide, ih hrest⟩
    · exact List.forall_mem_cons.mpr ⟨by decide, ih hrest⟩

theorem mem_takeSign (h : c ∈ cs) : c = '-' ∨ c = '+' ∨ c ∈ (takeSign cs).2 := by
  fun_cases takeSign cs with
  | case1 cs => exact (List.mem_cons.mp h).imp_right .inr
  | case2 cs => exact .inr (List.mem_cons.mp h)
  | case3 cs => exact .inr (.inr h)

/-- A text that is read without a power of ten has none. -/
theorem base_eq_self (h : readPlain? cs = some n) : base cs = cs := by
  obtain ⟨a, ha, _⟩ := readPlain?_eq_some.mp h
  obtain ⟨found, hfound, hround⟩ := readDigits?_eq_some.mp ha
  have hdigits := not_mark_of_scanFrom hfound hround
  have hall : ∀ c ∈ cs, isExponentMark c = false := by
    intro c hc
    rcases mem_takeSign hc with rfl | rfl | hrest
    · decide
    · decide
    · exact hdigits c hrest
  exact List.takeWhile_eq_self_iff.mpr fun c hc => by simp [hall c hc]

end SpendingLimits.Amount
