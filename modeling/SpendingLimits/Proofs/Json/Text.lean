import Mathlib.Data.List.Basic
import SpendingLimits.Json.Printer
import SpendingLimits.Json.Reader
import SpendingLimits.Proofs.Text.Digits

namespace SpendingLimits.Json

open Text

theorem longEscape?_fixedDigits {n : Nat} (h : n < 16 ^ (4 : Nat)) :
    ∃ a b c d, fixedDigits 16 4 n = [a, b, c, d] ∧ longEscape? a b c d = some n := by
  obtain ⟨ds, hchars, hlength, hval⟩ := fixedDigits_eq_chars (b := 16) (by decide) 4 n
  obtain ⟨a, ds, rfl⟩ := List.exists_cons_of_length_eq_add_one hlength
  obtain ⟨b, c, d, rfl⟩ := List.length_eq_three.mp (by simpa using hlength)
  refine ⟨_, _, _, _, hchars, ?_⟩
  rw [Nat.mod_eq_of_lt h] at hval
  simp [longEscape?, hexDigit?_digitChar, hval]

/-- A character is in front of what the rest of a string holds. -/
def consUnit (n : Nat) : List Nat × List Char → List Nat × List Char :=
  fun (ns, rest) => (n :: ns, rest)

theorem readUnits_shortEscape {e c : Char} (h : shortEscape? e = some c) (hu : e ≠ 'u')
    (rest : List Char) :
    readUnits ('\\' :: e :: rest) = (readUnits rest).map (consUnit c.toNat) := by
  rw [readUnits, h]
  · cases readUnits rest <;> rfl
  · exact fun _ _ _ _ _ he => absurd he hu

theorem readUnits_longEscape {n : Nat} (h : n < 16 ^ (4 : Nat)) (rest : List Char) :
    readUnits ('\\' :: 'u' :: fixedDigits 16 4 n ++ rest) =
      (readUnits rest).map (consUnit n) := by
  obtain ⟨a, b, c, d, hdigits, hunit⟩ := longEscape?_fixedDigits h
  rw [hdigits]
  simp only [List.cons_append, List.nil_append]
  rw [readUnits, hunit]
  cases readUnits rest <;> rfl

theorem readUnits_plain {c : Char} (hquote : c ≠ '"') (hslash : c ≠ '\\') (hcontrol : ¬c < ' ')
    (rest : List Char) : readUnits (c :: rest) = (readUnits rest).map (consUnit c.toNat) := by
  rw [readUnits, if_neg hcontrol]
  · cases readUnits rest <;> rfl
  · exact hquote
  · exact fun _ _ _ _ _ hc => absurd hc hslash
  · exact fun _ _ hc => absurd hc hslash

/-- A character is read from its escape. -/
theorem readUnits_escape (c : Char) (rest : List Char) :
    readUnits (escape c ++ rest) = (readUnits rest).map (consUnit c.toNat) := by
  rw [escape]
  split_ifs with hquote hslash hback hfeed hline hreturn htab hcontrol
  · subst hquote
    exact readUnits_shortEscape rfl (by decide) rest
  · subst hslash
    exact readUnits_shortEscape rfl (by decide) rest
  · subst hback
    exact readUnits_shortEscape rfl (by decide) rest
  · subst hfeed
    exact readUnits_shortEscape rfl (by decide) rest
  · subst hline
    exact readUnits_shortEscape rfl (by decide) rest
  · subst hreturn
    exact readUnits_shortEscape rfl (by decide) rest
  · subst htab
    exact readUnits_shortEscape rfl (by decide) rest
  · have hlt : c.toNat < 32 := hcontrol
    exact readUnits_longEscape (by omega) rest
  · exact readUnits_plain hquote hslash hcontrol rest

theorem readUnits_flatMap_escape (cs rest : List Char) :
    readUnits (cs.flatMap escape ++ '"' :: rest) = some (cs.map Char.toNat, rest) := by
  induction cs with
  | nil => rfl
  | cons c cs ih =>
    rw [List.flatMap_cons, List.append_assoc, readUnits_escape, ih]
    rfl

theorem joinUnits_cons_toNat (c : Char) {n : Nat} (ns : List Nat) :
    joinUnits (c.toNat :: n :: ns) = (joinUnits (n :: ns)).map (c :: ·) := dif_pos c.valid

theorem joinUnits_map_toNat (cs : List Char) : joinUnits (cs.map Char.toNat) = some cs := by
  induction cs with
  | nil => rfl
  | cons c cs ih =>
    cases cs with
    | nil => exact dif_pos c.valid
    | cons d ds =>
      rw [List.map_cons] at ih ⊢
      rw [List.map_cons, joinUnits_cons_toNat, ih]
      rfl

/-- A text behind its opening quote is read up to its closing quote. -/
theorem readText_quote (s : String) (rest : List Char) :
    readText (s.toList.flatMap escape ++ '"' :: rest) = some (some s, rest) := by
  rw [readText, readUnits_flatMap_escape]
  simp [joinUnits_map_toNat]

theorem writeKey_some (s : String) (rest : List Char) :
    writeKey (some s) ++ rest = '"' :: (s.toList.flatMap escape ++ '"' :: rest) := by
  have hkey : writeKey (some s) = quote s := by
    unfold writeKey
    rfl
  rw [hkey, quote, List.cons_append, List.cons_append, List.append_assoc, List.singleton_append]

theorem writeKey_none (rest : List Char) :
    writeKey none ++ rest = '"' :: '\\' :: 'u' :: 'd' :: '8' :: '0' :: '0' :: '"' :: rest := by
  have hkey : writeKey none = ['"', '\\', 'u', 'd', '8', '0', '0', '"'] := by decide
  rw [hkey]
  rfl

theorem readText_half (rest : List Char) :
    readText ('\\' :: 'u' :: 'd' :: '8' :: '0' :: '0' :: '"' :: rest) = some (none, rest) := by
  have hunit : longEscape? 'd' '8' '0' '0' = some 0xD800 := by decide
  have hlone : joinUnits [0xD800] = none := by decide
  rw [readText, readUnits, hunit, readUnits]
  simp [hlone]

/-- A key is read as it is written, also one that is no text. -/
theorem readText_writeKey (k : Option String) (rest : List Char) :
    ∃ cs, writeKey k ++ rest = '"' :: cs ∧ readText cs = some (k, rest) := by
  cases k with
  | none => exact ⟨_, writeKey_none rest, readText_half rest⟩
  | some s => exact ⟨_, writeKey_some s rest, readText_quote s rest⟩

/-- What stands behind a number does not continue it. -/
def EndsNumber (cs : List Char) : Prop :=
  ∀ c ∈ cs.head?, digit? c = none ∧ c ≠ '.' ∧ c ≠ 'e' ∧ c ≠ 'E'

theorem EndsNumber.noDigit {cs : List Char} (h : EndsNumber cs) : NoDigit cs :=
  fun c hc => (h c hc).1

theorem readWhole_toDigits (n : Nat) {rest : List Char} (h : NoDigit rest) :
    readWhole (Nat.toDigits 10 n ++ rest) = some (n, rest) := by
  by_cases hn : n = 0
  · subst hn
    rfl
  · obtain ⟨d, ds, hchars, hval, hzero⟩ := toDigits_eq_chars n
    have hfirst : ∀ d : Fin 10, d ≠ 0 → d.val.digitChar ≠ '0' := by decide
    have hdigits := takeDigits_chars (d :: ds) h
    rw [hchars]
    rw [chars_cons, List.cons_append] at hdigits ⊢
    rw [readWhole, hdigits]
    · simp only [hval]
    · exact fun cs hcs => hfirst d (mt hzero hn) (List.cons.inj hcs).1

/-- The fraction of a number as it is written. -/
def writeFraction (ds : List (Fin 10)) : List Char := if ds = [] then [] else '.' :: chars ds

theorem readFraction_writeFraction (ds : List (Fin 10)) {rest : List Char} (h : NoDigit rest)
    (hpoint : ds = [] → rest.head? ≠ some '.') :
    readFraction (writeFraction ds ++ rest) = some (ds, rest) := by
  rw [writeFraction]
  split_ifs with hds
  · subst hds
    rw [List.nil_append, readFraction]
    rintro cs rfl
    exact hpoint rfl rfl
  · obtain ⟨d, es, rfl⟩ := List.exists_cons_of_ne_nil hds
    rw [List.cons_append, readFraction, takeDigits_chars _ h]

theorem readExponentDigits_toDigits (negative : Bool) (n : Nat) {rest : List Char}
    (h : NoDigit rest) :
    readExponentDigits negative (Nat.toDigits 10 n ++ rest) =
      some (some (if negative then -(n : Int) else n), rest) := by
  obtain ⟨d, ds, hchars, hval, _⟩ := toDigits_eq_chars n
  rw [hchars, readExponentDigits, takeDigits_chars _ h]
  simp only [hval]

theorem readExponent_writeExponent (e : Int) {rest : List Char} (h : NoDigit rest) :
    readExponent (writeExponent e ++ rest) = some (some e, rest) := by
  rw [writeExponent]
  split_ifs with hneg
  · have hval : -(e.natAbs : Int) = e := by omega
    have hdigits := readExponentDigits_toDigits true e.natAbs h
    rw [if_pos rfl, hval] at hdigits
    simp [readExponent, hdigits]
  · have hval : (e.natAbs : Int) = e := by omega
    have hdigits := readExponentDigits_toDigits false e.natAbs h
    obtain ⟨d, ds, hchars, _⟩ := toDigits_eq_chars e.natAbs
    have hminus : d.val.digitChar ≠ '-' := digitChar_ne (by decide) d
    have hplus : d.val.digitChar ≠ '+' := digitChar_ne (by decide) d
    rw [if_neg (by decide), hval] at hdigits
    rw [hchars] at hdigits ⊢
    simpa [readExponent, hminus, hplus] using hdigits

theorem readExponent_of_endsNumber {rest : List Char} (h : EndsNumber rest) :
    readExponent rest = some (none, rest) := by
  cases rest with
  | nil => rfl
  | cons c cs =>
    obtain ⟨_, _, he, hE⟩ := h c rfl
    simp [readExponent, he, hE]

/-- The power of ten of a number as it is written. -/
def writeExponent? : Option Int → List Char
  | some e => writeExponent e
  | none => []

theorem readExponent_writeExponent? (e : Option Int) {rest : List Char} (h : EndsNumber rest) :
    readExponent (writeExponent? e ++ rest) = some (e, rest) := by
  cases e with
  | none => exact readExponent_of_endsNumber h
  | some e => exact readExponent_writeExponent e h.noDigit

theorem writeNumeral_eq (n : Numeral) :
    writeNumeral n = (if n.negative then ['-'] else []) ++
      (Nat.toDigits 10 n.whole ++ (writeFraction n.fraction ++ writeExponent? n.exponent)) := by
  rw [writeNumeral, List.append_assoc, List.append_assoc]
  rfl

theorem readUnsigned_write (n : Numeral) {rest : List Char} (h : EndsNumber rest) :
    readUnsigned n.negative (Nat.toDigits 10 n.whole ++
      (writeFraction n.fraction ++ (writeExponent? n.exponent ++ rest))) = some (n, rest) := by
  have hbehind : NoDigit (writeExponent? n.exponent ++ rest) ∧
      (writeExponent? n.exponent ++ rest).head? ≠ some '.' := by
    cases n.exponent with
    | some e => exact ⟨noDigit_cons _ (by decide), by simp [writeExponent?, writeExponent]⟩
    | none => exact ⟨h.noDigit, fun hpoint => (h '.' hpoint).2.1 rfl⟩
  have hfraction : NoDigit (writeFraction n.fraction ++ (writeExponent? n.exponent ++ rest)) := by
    rw [writeFraction]
    split_ifs
    · exact hbehind.1
    · exact noDigit_cons _ (by decide)
  rw [readUnsigned, readWhole_toDigits _ hfraction]
  simp [readFraction_writeFraction _ hbehind.1 fun _ => hbehind.2, readExponent_writeExponent? _ h]

/-- A numeral is read as it is written. -/
theorem readNumeral_writeNumeral (n : Numeral) {rest : List Char} (h : EndsNumber rest) :
    readNumeral (writeNumeral n ++ rest) = some (n, rest) := by
  have hread := readUnsigned_write n h
  rw [writeNumeral_eq]
  simp only [List.append_assoc] at hread ⊢
  cases hneg : n.negative with
  | true =>
    rw [hneg] at hread
    exact hread
  | false =>
    obtain ⟨d, ds, hchars, _⟩ := toDigits_eq_chars n.whole
    have hminus : d.val.digitChar ≠ '-' := digitChar_ne (by decide) d
    rw [hneg, hchars] at hread
    rw [if_neg (by decide), List.nil_append, hchars, readNumeral, hread]
    exact fun cs hcs => hminus (List.cons.inj hcs).1

/-- A numeral starts with a minus or with a digit. -/
theorem writeNumeral_eq_cons (n : Numeral) :
    ∃ c cs, writeNumeral n = c :: cs ∧ (c = '-' ∨ ∃ d : Fin 10, c = d.val.digitChar) := by
  obtain ⟨d, ds, hchars, _⟩ := toDigits_eq_chars n.whole
  rw [writeNumeral_eq, hchars]
  cases n.negative with
  | true => exact ⟨_, _, rfl, .inl rfl⟩
  | false => exact ⟨_, _, rfl, .inr ⟨d, rfl⟩⟩

end SpendingLimits.Json
