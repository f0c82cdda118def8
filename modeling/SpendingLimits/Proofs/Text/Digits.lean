import Mathlib.Data.List.Induction
import SpendingLimits.Text.Digits

namespace SpendingLimits.Text

/-- The characters that write digits. -/
def chars {b : Nat} (ds : List (Fin b)) : List Char := ds.map fun d => d.val.digitChar

@[simp] theorem chars_nil {b : Nat} : chars ([] : List (Fin b)) = [] := rfl

@[simp] theorem chars_cons {b : Nat} (d : Fin b) (ds : List (Fin b)) :
    chars (d :: ds) = d.val.digitChar :: chars ds := rfl

@[simp] theorem chars_append {b : Nat} (ds es : List (Fin b)) :
    chars (ds ++ es) = chars ds ++ chars es := List.map_append

theorem digitChar_ne {c : Char} (h : digit? c = none) (d : Fin 10) : d.val.digitChar ≠ c := by
  rintro rfl
  rw [digit?_digitChar] at h
  cases h

/-- The digits are at an end: what follows does not start with another one. -/
def NoDigit (cs : List Char) : Prop := ∀ c ∈ cs.head?, digit? c = none

theorem noDigit_cons {c : Char} (cs : List Char) (h : digit? c = none) : NoDigit (c :: cs) := by
  simpa [NoDigit] using h

@[simp] theorem ofDigits_nil {n : Nat} (b : Nat) : ofDigits b ([] : List (Fin n)) = 0 := rfl

theorem ofDigits_append {n : Nat} (b : Nat) (ds es : List (Fin n)) :
    ofDigits b (ds ++ es) = ofDigits b ds * b ^ es.length + ofDigits b es := by
  induction es using List.reverseRecOn with
  | nil => simp
  | append_singleton es e ih =>
    rw [← List.append_assoc, ofDigits_append_singleton, ofDigits_append_singleton, ih,
      List.length_append, List.length_singleton, Nat.pow_succ, Nat.mul_add, Nat.mul_left_comm,
      Nat.mul_comm b (b ^ _), Nat.add_assoc]

theorem ofDigits_cons {n : Nat} (b : Nat) (d : Fin n) (ds : List (Fin n)) :
    ofDigits b (d :: ds) = d * b ^ ds.length + ofDigits b ds := by
  have h := ofDigits_append b [d] ds
  rwa [List.singleton_append, show ofDigits b [d] = d by simp [ofDigits]] at h

theorem ofDigits_lt (ds : List (Fin 10)) : ofDigits 10 ds < 10 ^ ds.length := by
  induction ds with
  | nil => simp
  | cons d ds ih =>
    rw [ofDigits_cons, List.length_cons, Nat.pow_succ]
    have hd : d.val * 10 ^ ds.length ≤ 9 * 10 ^ ds.length := Nat.mul_le_mul_right _ (by omega)
    omega

/-- The digits of a number. The first of them is zero for the number zero alone. -/
theorem toDigits_eq_chars (n : Nat) :
    ∃ (d : Fin 10) (ds : List (Fin 10)), Nat.toDigits 10 n = chars (d :: ds) ∧
      ofDigits 10 (d :: ds) = n ∧ (d = 0 → n = 0) := by
  induction n using Nat.strongRecOn with
  | ind n ih =>
    rw [Nat.toDigits_eq_if (by decide)]
    split
    · next h => exact ⟨⟨n, h⟩, [], rfl, by simp [ofDigits], fun hd => by simpa using hd⟩
    · next h =>
      obtain ⟨d, ds, hchars, hval, hzero⟩ := ih (n / 10) (by omega)
      refine ⟨d, ds ++ [⟨n % 10, Nat.mod_lt _ (by decide)⟩], ?_, ?_, ?_⟩
      · rw [hchars, ← List.cons_append, chars_append]
        rfl
      · rw [← List.cons_append, ofDigits_append_singleton, hval]
        exact Nat.div_add_mod n 10
      · intro hd
        have := hzero hd
        omega

/-- The last digits of a number. -/
theorem fixedDigits_eq_chars {b : Nat} (hb : 0 < b) (width n : Nat) :
    ∃ ds : List (Fin b), fixedDigits b width n = chars ds ∧ ds.length = width ∧
      ofDigits b ds = n % b ^ width := by
  induction width generalizing n with
  | zero => exact ⟨[], rfl, rfl, by simp [Nat.mod_one]⟩
  | succ width ih =>
    obtain ⟨ds, hchars, hlength, hval⟩ := ih (n / b)
    refine ⟨ds ++ [⟨n % b, Nat.mod_lt _ hb⟩], ?_, by simp [hlength], ?_⟩
    · rw [fixedDigits, hchars, chars_append]
      rfl
    · rw [ofDigits_append_singleton, hval, Nat.pow_succ, Nat.mul_comm (b ^ width), Nat.mod_mul,
        Nat.add_comm]

theorem takeDigits_of_noDigit {rest : List Char} (h : NoDigit rest) :
    takeDigits rest = ([], rest) := by
  cases rest with
  | nil => rfl
  | cons c cs =>
    rw [takeDigits, h c rfl]

theorem takeDigits_chars (ds : List (Fin 10)) {rest : List Char} (h : NoDigit rest) :
    takeDigits (chars ds ++ rest) = (ds, rest) := by
  induction ds with
  | nil => exact takeDigits_of_noDigit h
  | cons d ds ih =>
    rw [chars_cons, List.cons_append, takeDigits, digit?_digitChar]
    simp only [ih]

end SpendingLimits.Text
