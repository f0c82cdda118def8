import Mathlib.Algebra.Order.Field.Rat
import Mathlib.Tactic.FieldSimp
import Mathlib.Tactic.Ring
import SpendingLimits.Amount.Exact
import SpendingLimits.Proofs.Codec.Parts

namespace SpendingLimits.Amount

open Text Json

variable {a b : Amount} {c : Char} {cs : List Char} {d : Fin 10} {point digit negative : Bool}
  {found : Scanned}

/-- The digits of a text in their order. -/
def digits (cs : List Char) : List (Fin 10) := cs.filterMap digit?

/-- The digits behind the point of a text. -/
def fraction (cs : List Char) : List (Fin 10) := digits (cs.dropWhile (· != '.'))

/-- The number that a text writes: its digits, as many of them behind the point as stand there, and
below zero if a minus is in front. -/
def written (cs : List Char) : ℚ :=
  (if cs.head? = some '-' then -1 else 1) * ofDigits 10 (digits cs) / 10 ^ (fraction cs).length

theorem digits_cons_of_some (h : digit? c = some d) : digits (c :: cs) = d :: digits cs :=
  List.filterMap_cons_some h

theorem digits_cons_of_none (h : digit? c = none) : digits (c :: cs) = digits cs :=
  List.filterMap_cons_none h

theorem fraction_cons (h : c ≠ '.') : fraction (c :: cs) = fraction cs := by
  simp [fraction, h]

theorem fraction_point : fraction ('.' :: cs) = digits cs := by
  rw [fraction, List.dropWhile_cons_of_neg (by simp), digits_cons_of_none (by decide)]

/-- The number that a scan has taken of a text. -/
def Scanned.taken : Scanned → Amount
  | fits a => a
  | spare a _ => a

/-- The characters that a scan has left over. -/
def Scanned.rest : Scanned → List Char
  | fits _ => []
  | spare _ rest => rest

/-- What a character is where a scan does not fail: the first one to spare, a digit, the only point,
or an underscore behind a digit. -/
theorem scanFrom_cons (h : scanFrom point digit a (c :: cs) = .ok found) :
    found = .spare a (c :: cs) ∧ (a.scale = 28 ∨ 2 ^ 96 ≤ 10 * a.mantissa + 9) ∨
    (∃ d next, digit? c = some d ∧ push? a point d = some next ∧
      scanFrom point true next cs = .ok found) ∨
    (c = '.' ∧ point = false ∧ scanFrom true digit a cs = .ok found) ∨
    (c = '_' ∧ scanFrom point digit a cs = .ok found) := by
  rw [scanFrom] at h
  by_cases hfull : a.scale = 28
  · rw [if_pos hfull] at h
    exact .inl ⟨(Except.ok.inj h).symm, .inl hfull⟩
  rw [if_neg hfull] at h
  cases hdigit : digit? c with
  | some d =>
    cases hpush : push? a point d with
    | some next =>
      simp only [hdigit, hpush] at h
      exact .inr (.inl ⟨d, next, rfl, hpush, h⟩)
    | none =>
      simp only [hdigit, hpush] at h
      split_ifs at h with hpoint
      refine .inl ⟨(Except.ok.inj h).symm, .inr ?_⟩
      have hscale := a.scale_le
      by_contra hfits
      rw [push?, ofParts?, dif_pos ⟨by omega, by split_ifs; omega⟩] at hpush
      cases hpush
  | none =>
    simp only [hdigit] at h
    split_ifs at h with hpoint hseen hunder
    · exact .inr (.inr (.inl ⟨hpoint, Bool.not_eq_true _ ▸ hseen, h⟩))
    · exact .inr (.inr (.inr ⟨hunder, h⟩))

/-- A scan takes the digits of a text from the front and counts those behind the point. It leaves
characters over only where one digit more might not fit. -/
theorem scanFrom_eq_ok (h : scanFrom point digit a cs = .ok found) : ∃ front,
    cs = front ++ found.rest ∧
    found.taken.mantissa =
      a.mantissa * 10 ^ (digits front).length + ofDigits 10 (digits front) ∧
    found.taken.scale = a.scale + (if point then digits front else fraction front).length ∧
    (a.minus = false → found.taken.minus = false) ∧
    (found.rest = [] ∨ found.taken.scale = 28 ∨ 2 ^ 96 ≤ 10 * found.taken.mantissa + 9) := by
  induction cs generalizing point digit a with
  | nil =>
    rw [scanFrom] at h
    split_ifs at h
    obtain rfl := Except.ok.inj h
    exact ⟨[], rfl, by simp [Scanned.taken, digits], by simp [Scanned.taken, digits, fraction],
      id, .inl rfl⟩
  | cons c cs ih =>
    rcases scanFrom_cons h with ⟨rfl, hfull⟩ | hdigit | hpoint | hunder
    · exact ⟨[], rfl, by simp [Scanned.taken, digits], by simp [Scanned.taken, digits, fraction],
        id, .inr hfull⟩
    · obtain ⟨d, next, hd, hpush, hrest⟩ := hdigit
      obtain ⟨hm, hs, hminus⟩ := ofParts?_eq_some.mp hpush
      obtain ⟨front, rfl, ihm, ihs, ihminus, ihfull⟩ := ih hrest
      have hc : c ≠ '.' := by
        rintro rfl
        simp [digit?] at hd
      refine ⟨c :: front, rfl, ?_, ?_, fun _ => ihminus hminus, ihfull⟩
      · rw [digits_cons_of_some hd, ofDigits_cons, List.length_cons, ihm, hm, Nat.pow_succ]
        ring
      · rw [digits_cons_of_some hd, fraction_cons hc, ihs, hs]
        split_ifs
        · rw [List.length_cons, Nat.add_assoc, Nat.add_comm 1]
        · rfl
    · obtain ⟨rfl, rfl, hrest⟩ := hpoint
      obtain ⟨front, rfl, ihm, ihs, ihminus, ihfull⟩ := ih hrest
      refine ⟨'.' :: front, rfl, ?_, ?_, ihminus, ihfull⟩
      · rwa [digits_cons_of_none (by decide)]
      · rwa [fraction_point]
    · obtain ⟨rfl, hrest⟩ := hunder
      obtain ⟨front, rfl, ihm, ihs, ihminus, ihfull⟩ := ih hrest
      refine ⟨'_' :: front, rfl, ?_, ?_, ihminus, ihfull⟩
      · rwa [digits_cons_of_none (by decide)]
      · rwa [digits_cons_of_none (by decide), fraction_cons (by decide)]

/-- A sign holds no digit and no point. -/
theorem takeSign_cases (cs : List Char) : digits (takeSign cs).2 = digits cs ∧
    fraction (takeSign cs).2 = fraction cs ∧ ((takeSign cs).1 = true ↔ cs.head? = some '-') := by
  fun_cases takeSign cs with
  | case1 cs =>
    exact ⟨(digits_cons_of_none (by decide)).symm, (fraction_cons (by decide)).symm, by simp⟩
  | case2 cs =>
    exact ⟨(digits_cons_of_none (by decide)).symm, (fraction_cons (by decide)).symm, by simp⟩
  | case3 cs hminus _ =>
    refine ⟨rfl, rfl, iff_of_false (by simp) fun hhead => ?_⟩
    obtain ⟨rest, rfl⟩ := List.head?_eq_some_iff.mp hhead
    exact hminus rest rfl

theorem scan_eq_ok : scan cs = .ok (negative, found) ↔
    (takeSign cs).1 = negative ∧ scanFrom false false zero (takeSign cs).2 = .ok found := by
  cases cs with
  | nil =>
    refine iff_of_false (by simp [scan]) fun h => ?_
    cases h.2
  | cons c cs =>
    rw [scan, if_neg (by simp)]
    simp only [map_eq_ok, Prod.mk.injEq]
    constructor
    · rintro ⟨_, hfound, hsign, rfl⟩
      exact ⟨hsign, hfound⟩
    · rintro ⟨hsign, hfound⟩
      exact ⟨found, hfound, hsign, rfl⟩

theorem scan_eq_fits (h : scan cs = .ok (negative, .fits a)) :
    a.mantissa = ofDigits 10 (digits cs) ∧ a.scale = (fraction cs).length ∧ a.minus = false ∧
      (negative = true ↔ cs.head? = some '-') := by
  obtain ⟨hdigits, hfraction, hsign⟩ := takeSign_cases cs
  obtain ⟨rfl, hfound⟩ := scan_eq_ok.mp h
  obtain ⟨front, hfront, hm, hs, hminus, _⟩ := scanFrom_eq_ok hfound
  rw [Scanned.rest, List.append_nil] at hfront
  subst hfront
  rw [hdigits] at hm
  rw [if_neg (by simp), hfraction] at hs
  exact ⟨by simpa [zero, Scanned.taken] using hm, by simpa [zero, Scanned.taken] using hs,
    hminus rfl, hsign⟩

theorem toAmount?_ofDigits :
    (Signed.ofDigits negative a).toAmount? = some b ↔
      (negative = true → a.isZero = true) ∧ a = b := by
  rw [Signed.ofDigits, Signed.toAmount?, negated?]
  cases negative <;> cases hzero : a.isZero
  · simp
  · simp
  · simp_all [isZero]
  · simp

theorem readExact_eq_ok {n : Signed} : readExact cs = .ok n ↔ ∃ negative a,
    scan (trim cs) = .ok (negative, .fits a) ∧ Signed.ofDigits negative a = n := by
  rw [readExact, bind_eq_ok]
  constructor
  · rintro ⟨⟨negative, found⟩, hscan, hn⟩
    cases found with
    | fits a => exact ⟨negative, a, hscan, Except.ok.inj hn⟩
    | spare a rest => cases hn
  · rintro ⟨negative, a, hscan, rfl⟩
    exact ⟨(negative, .fits a), hscan, rfl⟩

/-- A text is read as an amount when it is scanned to its end, a minus at most in front of a
zero. -/
theorem read_eq_ok {s : String} : read s = .ok a ↔ ∃ negative,
    scan (trim s.toList) = .ok (negative, .fits a) ∧ (negative = true → a.isZero = true) := by
  have hread : read s = .ok a ↔ ∃ n, readExact s.toList = .ok n ∧ n.toAmount? = some a := by
    rw [read]
    cases readExact s.toList with
    | error why => simp
    | ok n => cases hamount : n.toAmount? <;> simp [hamount]
  rw [hread]
  simp only [readExact_eq_ok]
  constructor
  · rintro ⟨_, ⟨negative, b, hscan, rfl⟩, hamount⟩
    obtain ⟨hsign, rfl⟩ := toAmount?_ofDigits.mp hamount
    exact ⟨negative, hscan, hsign⟩
  · rintro ⟨negative, hscan, hsign⟩
    exact ⟨_, ⟨negative, a, hscan, rfl⟩, toAmount?_ofDigits.mpr ⟨hsign, rfl⟩⟩

theorem reads_of_scan (h : scan cs = .ok (negative, .fits a))
    (hsign : negative = true → a.isZero = true) : Reads ofJson (.text (String.ofList cs)) a := by
  refine ⟨rfl, ?_⟩
  rw [ofJson, String.toList_ofList, readRounded?_of_scan h, ofDecimal]
  simp only [toAmount?_ofDigits.mpr ⟨hsign, rfl⟩]

theorem units_eq_written (h : scan cs = .ok (negative, .fits a))
    (hsign : negative = true → a.isZero = true) : (a.units : ℚ) / 10 ^ 28 = written cs := by
  obtain ⟨hm, hs, _, hnegative⟩ := scan_eq_fits h
  have hunits : (a.units : ℚ) / 10 ^ 28 = a.mantissa / 10 ^ a.scale := by
    have hsplit : (10 : ℚ) ^ 28 = 10 ^ (28 - a.scale) * 10 ^ a.scale := by
      rw [← pow_add, Nat.sub_add_cancel a.scale_le]
    rw [units, mantissaAt, hsplit, Nat.cast_mul, Nat.cast_pow]
    field_simp
    norm_num
  rw [hunits, written, ← hm, ← hs]
  cases negative with
  | false => rw [if_neg (by simpa using hnegative), one_mul]
  | true =>
    have hzero : a.mantissa = 0 := by simpa [isZero] using hsign rfl
    simp [hzero]

theorem isBlank_of_mem_chars {ds : List (Fin 10)} (h : c ∈ chars ds) : isBlank c = false := by
  have hdigit : ∀ d : Fin 10, isBlank d.val.digitChar = false := by decide
  obtain ⟨d, _, rfl⟩ := List.mem_map.mp h
  exact hdigit d

theorem trim_text (a : Amount) : trim a.text.toList = a.text.toList := by
  refine trim_eq_self fun c hc => ?_
  obtain ⟨d, ds, hwhole, _⟩ := toDigits_eq_chars (a.mantissa / 10 ^ a.scale)
  obtain ⟨es, hfraction, _⟩ :=
    fixedDigits_eq_chars (b := 10) (by decide) a.scale (a.mantissa % 10 ^ a.scale)
  rw [text, String.toList_ofList, writeDecimal, hwhole, hfraction, List.mem_append,
    List.mem_append, List.mem_ite_nil_right, List.mem_ite_nil_left] at hc
  obtain ⟨_, hsign⟩ | hdigit | ⟨_, hrest⟩ := hc
  · obtain rfl := List.mem_singleton.mp hsign
    decide
  · exact isBlank_of_mem_chars hdigit
  · rcases List.mem_cons.mp hrest with rfl | hdigit
    · decide
    · exact isBlank_of_mem_chars hdigit

theorem read_text (a : Amount) : read a.text = .ok a.unsigned := by
  refine read_eq_ok.mpr ⟨a.minus, ?_, isZero_of_minus⟩
  rw [trim_text]
  exact scan_text a

theorem dropZeros_mul (m s : Nat) :
    (dropZeros m s).1 * 10 ^ (s - (dropZeros m s).2) = m := by
  induction s generalizing m with
  | zero => simp [dropZeros]
  | succ s ih =>
    rw [dropZeros]
    split_ifs with h
    · have hle := (dropZeros_le (m / 10) s).2
      rw [Nat.succ_sub hle, Nat.pow_succ, ← Nat.mul_assoc, ih]
      omega
    · simp

theorem units_normal (a : Amount) : a.normal.units = a.units := by
  obtain ⟨_, hs⟩ := dropZeros_le a.mantissa a.scale
  have hscale := a.scale_le
  have hsplit : 28 - (dropZeros a.mantissa a.scale).2 =
      a.scale - (dropZeros a.mantissa a.scale).2 + (28 - a.scale) := by omega
  rw [units, units, mantissaAt, mantissaAt, normal]
  dsimp only
  rw [hsplit, Nat.pow_add, ← Nat.mul_assoc, dropZeros_mul]

theorem dropZeros_last (m s : Nat) : (dropZeros m s).2 = 0 ∨ (dropZeros m s).1 % 10 ≠ 0 := by
  induction s generalizing m with
  | zero => exact .inl rfl
  | succ s ih =>
    rw [dropZeros]
    split_ifs with h
    · exact ih (m / 10)
    · exact .inr h

theorem read_plain (a : Amount) : read a.plain = .ok a.normal := by
  rw [plain, read_text, unsigned_eq_self_iff.mpr rfl]

/-- A text that is read exactly is read as the number that it writes, never rounded, at the scale
that it is written in, and the reader of JSON reads the same from it without the blanks around it.
The text of an amount is read as the amount, its scale included, without the minus that a zero may
have; its plain text is read as an amount of its value without zeros at the end of the fraction. -/
theorem texts_read (s : String) (a : Amount) :
    (read s = .ok a →
      (a.units : ℚ) / 10 ^ 28 = written (trim s.toList) ∧
      a.scale = (fraction (trim s.toList)).length ∧
      ofJson (.text (String.ofList (trim s.toList))) = .ok a ∧
      decodeText ofJson (Json.text (String.ofList (trim s.toList))).compact = .ok a) ∧
    (a.toJson = .text a.text ∧ read a.text = .ok a.unsigned) ∧
    ∃ b, read a.plain = .ok b ∧ b.units = a.units ∧ (b.scale = 0 ∨ b.mantissa % 10 ≠ 0) := by
  refine ⟨fun h => ?_, ⟨rfl, read_text a⟩,
    a.normal, read_plain a, units_normal a, dropZeros_last a.mantissa a.scale⟩
  obtain ⟨negative, hscan, hsign⟩ := read_eq_ok.mp h
  have hreads := reads_of_scan hscan hsign
  exact ⟨units_eq_written hscan hsign, (scan_eq_fits hscan).2.1, hreads.decoded, hreads.compact⟩

/-- The greatest mantissa at the finest scale. -/
theorem texts_read_of_full_mantissa :
    let s := "\t+7.9_228162514264337593543950335 "
    let a : Amount := ⟨2 ^ 96 - 1, 28, false, by decide, by decide, by decide⟩
    read s = .ok a ∧ (a.units : ℚ) / 10 ^ 28 = written (trim s.toList) ∧
    a.scale = (fraction (trim s.toList)).length ∧
    decodeText ofJson (Json.text (String.ofList (trim s.toList))).compact = .ok a := by
  intro s a
  have hread : read s = .ok a := by decide +kernel
  obtain ⟨hvalue, hscale, _, hcompact⟩ := (texts_read s a).1 hread
  exact ⟨hread, hvalue, hscale, hcompact⟩

/-- A zero that is left of a number below zero has a minus, which is read as no part of it. -/
theorem text_loses_minus :
    ¬∀ s a, decodeText ofJson s = .ok a → read a.text = .ok a := by
  intro h
  let a : Amount := ⟨0, 28, true, by decide, by decide, by decide⟩
  have hdecoded : decodeText ofJson "\"-0.4e-28\"" = .ok a := by decide +kernel
  have hread := h _ a hdecoded
  revert hread
  decide +kernel

end SpendingLimits.Amount
