import SpendingLimits.Amount.Printer
import SpendingLimits.Amount.Reader
import SpendingLimits.Proofs.Text.Digits

namespace SpendingLimits.Amount

open Text

/-- The amount without a minus, which only a zero can have. -/
def unsigned (a : Amount) : Amount := { a with minus := false, mantissa_of_minus := by simp }

@[simp] theorem unsigned_unsigned (a : Amount) : a.unsigned.unsigned = a.unsigned := rfl

@[simp] theorem isZero_unsigned (a : Amount) : a.unsigned.isZero = a.isZero := rfl

theorem unsigned_eq_self_iff {a : Amount} : a.unsigned = a ↔ a.minus = false := by
  obtain ⟨m, s, minus, hm, hs, hminus⟩ := a
  simp [unsigned, eq_comm]

theorem eq_unsigned {a b : Amount} (hm : a.mantissa = b.mantissa) (hs : a.scale = b.scale)
    (h : a.minus = false) : a = b.unsigned := by
  obtain ⟨m, s, minus, hm, hs, hminus⟩ := a
  simp only [unsigned, mk.injEq] at *
  exact ⟨hm, hs, h⟩

/-- Digits of an amount are taken one after the other: those behind a point make the scale. -/
theorem scanFrom_chars {point digit : Bool} {a b : Amount} (ds : List (Fin 10)) (rest : List Char)
    (hm : b.mantissa = a.mantissa * 10 ^ ds.length + ofDigits 10 ds)
    (hs : b.scale = if point then a.scale + ds.length else a.scale)
    (hfree : point = false → a.scale < 28) (ha : a.minus = false) (hb : b.minus = false) :
    scanFrom point digit a (chars ds ++ rest) =
      scanFrom point (digit || !ds.isEmpty) b rest := by
  induction ds generalizing a digit with
  | nil =>
    obtain rfl : a = b := by
      rw [eq_unsigned (b := b) (by simpa using hm.symm) (by simpa using hs.symm) ha,
        unsigned_eq_self_iff.mpr hb]
    simp
  | cons d ds ih =>
    rw [ofDigits_cons, List.length_cons, Nat.pow_succ] at hm
    have hm' : b.mantissa = (10 * a.mantissa + d) * 10 ^ ds.length + ofDigits 10 ds := by
      rw [hm, Nat.add_mul, Nat.mul_comm 10 a.mantissa, Nat.mul_assoc, Nat.mul_comm 10,
        Nat.add_assoc]
    have hfull : a.scale < 28 := by
      have := b.scale_le
      cases point with
      | false => exact hfree rfl
      | true =>
        rw [if_pos rfl, List.length_cons] at hs
        omega
    have hlt : 10 * a.mantissa + d < 2 ^ 96 := by
      have hle : 10 * a.mantissa + d ≤ (10 * a.mantissa + d) * 10 ^ ds.length :=
        Nat.le_mul_of_pos_right _ (Nat.pow_pos (by decide))
      have := b.mantissa_lt
      omega
    have hscale : (if point then a.scale + 1 else a.scale) ≤ 28 := by split <;> omega
    have hpush : push? a point d = some ⟨10 * a.mantissa + d,
        if point then a.scale + 1 else a.scale, false, hlt, hscale, by simp⟩ :=
      ofParts?_eq_some.mpr ⟨rfl, rfl, rfl⟩
    rw [chars_cons, List.cons_append, scanFrom, if_neg (Nat.ne_of_lt hfull), digit?_digitChar]
    simp only [hpush]
    rw [ih hm' _ _ rfl]
    · simp
    · cases point with
      | false => simpa using hs
      | true =>
        simp only [if_true, List.length_cons] at hs ⊢
        omega
    · intro hpoint
      simpa [hpoint] using hfull

/-- The digits in front of the point and those behind it. -/
theorem scanFrom_writeDecimal (a : Amount) :
    scanFrom false false zero (writeDecimal a.mantissa a.scale) = .ok (.fits a.unsigned) := by
  obtain ⟨d, ds, hwhole, hwholeval, _⟩ := toDigits_eq_chars (a.mantissa / 10 ^ a.scale)
  have hm := a.mantissa_lt
  let whole : Amount := ⟨a.mantissa / 10 ^ a.scale, 0, false,
    Nat.lt_of_le_of_lt (Nat.div_le_self _ _) hm, by decide, by simp⟩
  rw [writeDecimal, hwhole, scanFrom_chars (b := whole) (d :: ds) _
    (by simp [whole, zero, hwholeval]) (by simp [whole, zero]) (by simp [zero]) rfl rfl,
    List.isEmpty_cons, Bool.not_false, Bool.or_true]
  split_ifs with hscale
  · have hall : whole = a.unsigned := eq_unsigned (by simp [whole, hscale]) hscale.symm rfl
    rw [hall]
    rfl
  · obtain ⟨es, hfraction, hlength, hfractionval⟩ :=
      fixedDigits_eq_chars (b := 10) (by decide) a.scale (a.mantissa % 10 ^ a.scale)
    have hval : a.mantissa = whole.mantissa * 10 ^ es.length + ofDigits 10 es := by
      rw [hfractionval, Nat.mod_mod, hlength, Nat.mul_comm]
      exact (Nat.div_add_mod a.mantissa _).symm
    have hpoint : scanFrom false true whole ('.' :: chars es) =
        scanFrom true true whole (chars es) := by
      rw [scanFrom, if_neg (by simp [whole]), show digit? '.' = none by decide]
      simp
    rw [hfraction, hpoint]
    have hdigits := @scanFrom_chars true true whole a.unsigned es [] hval
      (by simp [whole, unsigned, hlength]) (by simp) rfl rfl
    rw [List.append_nil] at hdigits
    rw [hdigits]
    rfl

theorem takeSign_writeDecimal (a : Amount) :
    takeSign ((if a.minus then ['-'] else []) ++ writeDecimal a.mantissa a.scale) =
      (a.minus, writeDecimal a.mantissa a.scale) := by
  obtain ⟨d, ds, hwhole, _⟩ := toDigits_eq_chars (a.mantissa / 10 ^ a.scale)
  cases a.minus with
  | true => rfl
  | false =>
    rw [writeDecimal, hwhole, chars_cons]
    have hminus : d.val.digitChar ≠ '-' := digitChar_ne (by decide) d
    have hplus : d.val.digitChar ≠ '+' := digitChar_ne (by decide) d
    simp [takeSign, hminus, hplus]

/-- A scan of the text of an amount finds the amount, and the minus apart from it. -/
theorem scan_text (a : Amount) : scan a.text.toList = .ok (a.minus, .fits a.unsigned) := by
  have hne : ((if a.minus then ['-'] else []) ++ writeDecimal a.mantissa a.scale).isEmpty =
      false := by
    simp [writeDecimal, Nat.toDigits_ne_nil]
  rw [text, String.toList_ofList, scan, hne, takeSign_writeDecimal]
  simp only [scanFrom_writeDecimal]
  rfl

/-- A text that an amount holds as it stands has no digits to round. -/
theorem readRounded?_of_scan {cs : List Char} {negative : Bool} {a : Amount}
    (h : scan cs = .ok (negative, .fits a)) : readRounded? cs = some (.ofDigits negative a) := by
  rw [readRounded?, readPlain?, h]
  rfl

theorem isZero_of_minus {a : Amount} (h : a.minus = true) : a.isZero = true := by
  simp [isZero, a.mantissa_of_minus h]

/-- The amount that a text writes, with its scale. -/
theorem readRounded?_text (a : Amount) :
    readRounded? a.text.toList = some ⟨false, a.unsigned⟩ := by
  have hsign : (a.minus && !a.unsigned.isZero) = false := by
    cases hminus : a.minus with
    | false => rfl
    | true => rw [isZero_unsigned, isZero_of_minus hminus]; rfl
  rw [readRounded?_of_scan (scan_text a), Signed.ofDigits, hsign]

end SpendingLimits.Amount
