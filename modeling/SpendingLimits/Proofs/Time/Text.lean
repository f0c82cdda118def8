import SpendingLimits.Proofs.Text.Digits
import SpendingLimits.Proofs.Time.Calendar
import SpendingLimits.Time.Printer
import SpendingLimits.Time.Reader

namespace SpendingLimits.Time

open Text

theorem skipBlanks_chars (d : Fin 10) (ds : List (Fin 10)) (rest : List Char) :
    skipBlanks (chars (d :: ds) ++ rest) = chars (d :: ds) ++ rest := by
  rw [chars_cons, List.cons_append, skipBlanks_cons]
  revert d
  decide

theorem takeUpTo_chars (ds : List (Fin 10)) (rest : List Char) :
    takeUpTo ds.length (chars ds ++ rest) = (ds, rest) := by
  induction ds with
  | nil => rw [List.length_nil, chars_nil, List.nil_append, takeUpTo]
  | cons d ds ih =>
    rw [chars_cons, List.cons_append, List.length_cons, takeUpTo, digit?_digitChar]
    simp only [ih]

theorem readPart_fixedDigits {n : Nat} (h : n < 100) (rest : List Char) :
    readPart (fixedDigits 10 2 n ++ rest) = some (n, rest) := by
  obtain ⟨ds, hchars, hlength, hval⟩ := fixedDigits_eq_chars (b := 10) (by decide) 2 n
  cases ds with
  | nil => cases hlength
  | cons d ds =>
    have htake := takeUpTo_chars (d :: ds) rest
    rw [hlength] at htake
    have hvalue : ofDigits 10 (d :: ds) = n := hval.trans (Nat.mod_eq_of_lt h)
    rw [hchars, readPart, skipBlanks_chars, htake]
    simp only [hvalue]

theorem readMark_self {mark : Char} (rest : List Char) (h : isBlank mark = false) :
    readMark mark (mark :: rest) = some rest := by
  rw [readMark, skipBlanks_cons rest h]
  simp

theorem ofDigits_replicate_zero (k : Nat) (ds : List (Fin 10)) :
    ofDigits 10 (List.replicate k 0 ++ ds) = ofDigits 10 ds := by
  induction k with
  | zero => rfl
  | succ k ih =>
    rw [List.replicate_succ, List.cons_append, ofDigits_cons, ih]
    simp

theorem replicate_eq_chars (k : Nat) :
    List.replicate k '0' = chars (List.replicate k (0 : Fin 10)) := by
  rw [chars, List.map_replicate]
  rfl

/-- A year that is not written with four digits: a sign and the digits, at least four of them. -/
theorem readYear_signed {sign : Char} {s : Int} (n : Nat) {rest : List Char} (h : NoDigit rest)
    (hsign : sign = '-' ∧ s = -1 ∨ sign = '+' ∧ s = 1) :
    readYear (sign :: (List.replicate (4 - (Nat.toDigits 10 n).length) '0' ++ Nat.toDigits 10 n) ++
      rest) = some (s * n, rest) := by
  obtain ⟨d, ds, hchars, hval, _⟩ := toDigits_eq_chars n
  generalize 4 - (Nat.toDigits 10 n).length = k
  have hdigits := takeDigits_chars (List.replicate k 0 ++ d :: ds) h
  have hpadval := ofDigits_replicate_zero k (d :: ds)
  have hne : List.replicate k 0 ++ d :: ds ≠ [] := by simp
  rw [hchars, replicate_eq_chars, ← chars_append, List.cons_append]
  generalize List.replicate k 0 ++ d :: ds = es at *
  cases es with
  | nil => exact absurd rfl hne
  | cons e es =>
    rcases hsign with ⟨rfl, rfl⟩ | ⟨rfl, rfl⟩
    all_goals
      rw [readYear, skipBlanks_cons _ (by decide)]
      simp only [hdigits, hpadval, hval]

theorem readYear_writeYear (y : Int) {rest : List Char} (h : NoDigit rest) :
    readYear (writeYear y ++ rest) = some (y, rest) := by
  rw [writeYear]
  split_ifs with hfour hneg
  · obtain ⟨ds, hchars, hlength, hval⟩ := fixedDigits_eq_chars (b := 10) (by decide) 4 y.toNat
    cases ds with
    | nil => cases hlength
    | cons d ds =>
      have htake := takeUpTo_chars (d :: ds) rest
      have hminus : d.val.digitChar ≠ '-' := digitChar_ne (by decide) d
      have hplus : d.val.digitChar ≠ '+' := digitChar_ne (by decide) d
      have hyear : (1 : Int) * (y.toNat % 10 ^ 4 : Nat) = y := by omega
      rw [hlength] at htake
      rw [hchars, readYear, skipBlanks_chars]
      rw [chars_cons, List.cons_append] at htake ⊢
      split
      · next heq =>
        split at heq
        · next hc => exact absurd (List.cons.inj hc).1 hminus
        · next hc => exact absurd (List.cons.inj hc).1 hplus
        · rw [htake] at heq
          obtain ⟨rfl, rfl, rfl⟩ := heq
          simp only [hval, hyear]
  · have hyear : -1 * (y.natAbs : Int) = y := by omega
    rw [readYear_signed y.natAbs h (.inl ⟨rfl, rfl⟩), hyear]
  · have hyear : 1 * (y.natAbs : Int) = y := by omega
    rw [readYear_signed y.natAbs h (.inr ⟨rfl, rfl⟩), hyear]

theorem readDate_writeDate (d : Date) (hmonth : d.month < 100) (hday : d.day < 100)
    (rest : List Char) : readDate (writeDate d ++ rest) = some (d, rest) := by
  have hend : ∀ cs, NoDigit ('-' :: cs) := fun cs => noDigit_cons cs (by decide)
  have hyear := readYear_writeYear d.year
    (hend (fixedDigits 10 2 d.month ++ '-' :: (fixedDigits 10 2 d.day ++ rest)))
  have hmark : isBlank '-' = false := by decide
  simp [readDate, writeDate, hyear, readMark_self _ hmark, readPart_fixedDigits hmonth,
    readPart_fixedDigits hday]

/-- A fraction is written in 3, 6 or 9 places and read as the first nine of them. -/
theorem readNano_fixedDigits {width n : Nat} (hwidth : 0 < width) (hle : width ≤ 9)
    (h : n < 10 ^ width) {rest : List Char} (hrest : NoDigit rest) :
    readNano ('.' :: fixedDigits 10 width n ++ rest) = some (n * 10 ^ (9 - width), rest) := by
  obtain ⟨ds, hchars, hlength, hval⟩ := fixedDigits_eq_chars (b := 10) (by decide) width n
  have htake : ds.take 9 = ds := List.take_of_length_le (by omega)
  rw [Nat.mod_eq_of_lt h] at hval
  cases ds with
  | nil => simp at hlength; omega
  | cons d ds =>
    rw [hchars, List.cons_append, readNano, takeDigits_chars (d :: ds) hrest]
    simp only [htake, hval, hlength]

theorem readNano_writeNano {n : Nat} (h : n < 10 ^ (9 : Nat)) :
    readNano (writeNano n ++ ['Z']) = some (n, ['Z']) := by
  have hend : NoDigit ['Z'] := noDigit_cons _ (by decide)
  rw [writeNano]
  split_ifs with hzero hmilli hmicro
  · rw [hzero]
    rfl
  · rw [readNano_fixedDigits (by decide) (by decide) (by omega) hend]
    congr 2
    omega
  · rw [readNano_fixedDigits (by decide) (by decide) (by omega) hend]
    congr 2
    omega
  · rw [readNano_fixedDigits (by decide) (by decide) h hend]
    simp

theorem readClock_parts {hour minute second nano : Nat} (hhour : hour < 100)
    (hminute : minute < 100) (hsecond : second < 100) (hnano : nano < 10 ^ (9 : Nat)) :
    readClock (fixedDigits 10 2 hour ++ ':' :: fixedDigits 10 2 minute ++
      ':' :: fixedDigits 10 2 second ++ writeNano nano ++ ['Z']) =
      some (⟨hour, minute, second, nano⟩, ['Z']) := by
  have hmark : isBlank ':' = false := by decide
  simp [readClock, readMark_self _ hmark, readPart_fixedDigits hhour,
    readPart_fixedDigits hminute, readPart_fixedDigits hsecond, readNano_writeNano hnano]

namespace Instant

theorem ofParts?_self (t : Instant) : ofParts? t.second t.nano = some t := by
  rw [ofParts?, dif_pos ⟨t.first_le, t.le_last, t.nano_lt, t.leap⟩]

/-- The date and the time of day of an instant in UTC. -/
theorem instantAt?_self (t : Instant) :
    instantAt? (Date.ofDay (t.second / 86400))
      ⟨(t.second % 86400).toNat / 3600, (t.second % 86400).toNat / 60 % 60,
        (t.second % 86400).toNat % 60 + (if t.nano < 10 ^ (9 : Nat) then 0 else 1),
        t.nano - (if t.nano < 10 ^ (9 : Nat) then 0 else 1) * 10 ^ (9 : Nat)⟩ 0 = some t := by
  have hfirst := t.first_le
  have hlast := t.le_last
  rw [firstSecond] at hfirst
  rw [lastSecond] at hlast
  obtain ⟨hlow, hhigh⟩ := year_ofDay (n := t.second / 86400) (by omega) (by omega)
  have hyear : isYear (Date.ofDay (t.second / 86400)).year = true := by
    simp [isYear, hlow, hhigh]
  have hclock : ∀ nano, Clock.isValid ⟨(t.second % 86400).toNat / 3600,
      (t.second % 86400).toNat / 60 % 60,
      (t.second % 86400).toNat % 60 + (if t.nano < 10 ^ (9 : Nat) then 0 else 1), nano⟩ = true := by
    intro nano
    simp only [Clock.isValid, Bool.and_eq_true, decide_eq_true_eq]
    split <;> omega
  rw [instantAt?, isValid_ofDay, hyear, hclock, toDay_ofDay]
  simp only [Bool.and_self, if_true]
  rw [← ofParts?_self t]
  split
  · next h =>
    congr 1
    · omega
    · rw [if_neg (by omega)]
      omega
  · next h =>
    -- A leap second is written as the second 60 of its minute.
    have hleap := t.leap (by omega)
    congr 1
    · omega
    · rw [if_pos (by omega)]
      omega

theorem month_day_lt {d : Date} (h : d.isValid = true) : d.month < 100 ∧ d.day < 100 := by
  have hlength : daysInMonth d.year d.month ≤ 31 := by
    rw [daysInMonth]
    split_ifs <;> decide
  simp only [Date.isValid, Bool.and_eq_true, decide_eq_true_eq] at h
  omega

/-- The instant that a text writes. -/
theorem read?_text (t : Instant) : read? t.text.toList = some t := by
  obtain ⟨hmonth, hday⟩ := month_day_lt (isValid_ofDay (t.second / 86400))
  have hnano := t.nano_lt
  have hleap : (if t.nano < 10 ^ (9 : Nat) then 0 else 1) ≤ 1 := by split <;> decide
  have hfraction :
      t.nano - (if t.nano < 10 ^ (9 : Nat) then 0 else 1) * 10 ^ (9 : Nat) < 10 ^ (9 : Nat) := by
    split <;> omega
  have hclock := @readClock_parts ((t.second % 86400).toNat / 3600)
    ((t.second % 86400).toNat / 60 % 60)
    ((t.second % 86400).toNat % 60 + (if t.nano < 10 ^ (9 : Nat) then 0 else 1)) _
    (by omega) (by omega) (by omega) hfraction
  have hzone : readZone (skipBlanks ['Z']) = some (0, []) := by decide
  rw [text, String.toList_ofList, write]
  simp only [List.append_assoc, List.cons_append] at hclock ⊢
  rw [read?, readDate_writeDate _ hmonth hday]
  simp only [Option.bind_eq_bind, Option.bind_some, true_or, if_true]
  rw [hclock]
  simp only [Option.bind_some, hzone]
  exact instantAt?_self t

end Instant

end SpendingLimits.Time
