import Mathlib.Data.List.Basic
import SpendingLimits.Text.Capital

namespace SpendingLimits.Text

variable {c : Char} {cs name : List Char} {r : CapitalRun}

/-- The capital of a character whose capital is a letter of ASCII. Every other character stays as it
is. -/
def letter (c : Char) : Char := if c = 'ı' then 'I' else if c = 'ſ' then 'S' else c.toUpper

/-- A character of ASCII, or one of the two whose capitals are. -/
def IsPlain (c : Char) : Prop := c.toNat < 128 ∨ c = 'ı' ∨ c = 'ſ'

/-- The capitals in ASCII that have several letters: those of the sharp s and of the ligatures. -/
def ligatures : List (List Char) :=
  [['S', 'S'], ['F', 'F'], ['F', 'I'], ['F', 'L'], ['F', 'F', 'I'], ['F', 'F', 'L'], ['S', 'T']]

/-- A name in ASCII that is written without the capitals of a ligature. -/
structure IsName (name : List Char) : Prop where
  ascii : ∀ c ∈ name, c.toNat < 128
  single : ∀ l ∈ ligatures, ¬l <:+: name

theorem IsName.of_all (hascii : name.all (·.toNat < 128))
    (hsingle : ∀ l ∈ ligatures, ¬l <:+: name) : IsName name :=
  ⟨by simpa using hascii, hsingle⟩

/-- A property of all plain characters is checked one by one. -/
theorem IsPlain.forall {P : Char → Prop} (hascii : ∀ n < 128, P (Char.ofNat n)) (hi : P 'ı')
    (hs : P 'ſ') (h : IsPlain c) : P c := by
  obtain h | rfl | rfl := h
  · simpa using hascii c.toNat h
  · exact hi
  · exact hs

theorem capitals_eq_letter : IsPlain c → capitals c = [letter c] :=
  IsPlain.forall (P := fun c => capitals c = [letter c]) (by decide +kernel) (by decide +kernel)
    (by decide +kernel)

theorem letter_of_not_plain (h : ¬IsPlain c) : letter c = c := by
  rw [IsPlain, not_or, not_or] at h
  obtain ⟨hascii, hi, hs⟩ := h
  have hlower : ¬('a'.val ≤ c.val ∧ c.val ≤ 'z'.val) := by
    rintro ⟨_, hz⟩
    have hle : c.toNat ≤ 122 := UInt32.le_iff_toNat_le.mp hz
    omega
  rw [letter, if_neg hi, if_neg hs]
  exact dif_neg hlower

/-- A run is one of the two letters, or else its capitals are beyond ASCII. -/
theorem capitalRuns_cases : ∀ r ∈ capitalRuns,
    r.first = r.last ∧ (r.first = 'ı'.toNat ∨ r.first = 'ſ'.toNat) ∨
    128 ≤ r.capital ∧ (r.capital + (r.last - r.first) < 0xD800 ∨
      0xDFFF < r.capital ∧ r.capital + (r.last - r.first) < 0x110000) := by
  decide +kernel

/-- Capitals of several characters are not all in ASCII, but for the ligatures. -/
theorem longCapitals_cases : ∀ l ∈ longCapitals,
    (∃ n ∈ l.2, 128 ≤ (Char.ofNat n).toNat) ∨ l.2.map Char.ofNat ∈ ligatures := by
  decide +kernel

theorem le_capitalOf (hr : r ∈ capitalRuns) (hc : r.covers c.toNat) (h : ¬IsPlain c) :
    128 ≤ (r.capitalOf c.toNat).toNat := by
  rw [IsPlain, not_or, not_or, ← Char.toNat_inj, ← Char.toNat_inj] at h
  simp only [CapitalRun.covers, Bool.and_eq_true, decide_eq_true_eq] at hc
  obtain ⟨⟨hfirst, hlast⟩, _⟩ := hc
  obtain ⟨_, hi, hs⟩ := h
  have hvalid : (r.capital + (c.toNat - r.first)).isValidChar ∧ 128 ≤ r.capital := by
    have hcases := capitalRuns_cases r hr
    rw [Nat.isValidChar]
    omega
  rw [CapitalRun.capitalOf, Char.ofNat, dif_pos hvalid.1]
  exact Nat.le_add_right_of_le hvalid.2

theorem capitals_of_not_plain (h : ¬IsPlain c) :
    (∃ l ∈ longCapitals, capitals c = l.2.map Char.ofNat) ∨
    ∃ d, capitals c = [d] ∧ 128 ≤ d.toNat := by
  have hascii : ¬c.toNat < 128 := fun hascii => h (.inl hascii)
  rw [capitals, if_neg hascii]
  split
  next hlong => exact .inl ⟨_, List.mem_of_find?_eq_some hlong, rfl⟩
  next =>
    split
    next r hrun =>
      have hcovers := List.find?_some hrun
      exact .inr ⟨_, rfl, le_capitalOf (List.mem_of_find?_eq_some hrun) hcovers h⟩
    next => exact .inr ⟨c, rfl, Nat.le_of_not_lt hascii⟩

theorem inCapitals_of_plain (h : ∀ c ∈ cs, IsPlain c) : inCapitals cs = cs.map letter := by
  rw [inCapitals, List.map_eq_flatMap]
  exact List.flatMap_congr fun c hc => capitals_eq_letter (h c hc)

theorem isPlain_of_inCapitals (h : IsName (inCapitals cs)) (hc : c ∈ cs) : IsPlain c := by
  by_contra hforeign
  have hpart : capitals c <:+: inCapitals cs := List.infix_flatMap_of_mem hc capitals
  have hascii : ∀ d ∈ capitals c, d.toNat < 128 := fun d hd => h.ascii d (hpart.subset hd)
  obtain ⟨l, hl, hlong⟩ | ⟨d, hone, hd⟩ := capitals_of_not_plain hforeign
  · rw [hlong] at hascii hpart
    obtain ⟨n, hmem, hn⟩ | hligature := longCapitals_cases l hl
    · exact absurd (hascii _ (List.mem_map_of_mem hmem)) (Nat.not_lt.mpr hn)
    · exact h.single _ hligature hpart
  · exact absurd (hascii d (by simp [hone])) (Nat.not_lt.mpr hd)

theorem isPlain_of_letters (h : IsName (cs.map letter)) (hc : c ∈ cs) : IsPlain c := by
  by_contra hforeign
  have hascii := h.ascii (letter c) (List.mem_map_of_mem hc)
  rw [letter_of_not_plain hforeign] at hascii
  exact hforeign (.inl hascii)

/-- A text is a name in capitals when its letters are those of the name. -/
theorem inCapitals_eq_iff (h : IsName name) : inCapitals cs = name ↔ cs.map letter = name := by
  constructor
  · rintro rfl
    exact (inCapitals_of_plain fun _ => isPlain_of_inCapitals h).symm
  · rintro rfl
    exact inCapitals_of_plain fun _ => isPlain_of_letters h

end SpendingLimits.Text
