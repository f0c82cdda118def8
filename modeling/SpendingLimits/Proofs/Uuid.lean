import SpendingLimits.Identifier
import SpendingLimits.Proofs.Text.Digits

namespace SpendingLimits

namespace Uuid

open Text

theorem takeHex_chars (ds : List (Fin 16)) (rest : List Char) :
    takeHex ds.length (chars ds ++ rest) = some (ds, rest) := by
  induction ds with
  | nil => rfl
  | cons d ds ih =>
    rw [chars_cons, List.cons_append, List.length_cons, takeHex, hexDigit?_digitChar]
    simp [ih]

/-- Fewer digits than asked for, in front of a character that is none. -/
theorem takeHex_eq_none {count : Nat} {c : Char} (ds : List (Fin 16)) (rest : List Char)
    (h : ds.length < count) (hc : hexDigit? c = none) :
    takeHex count (chars ds ++ c :: rest) = none := by
  induction ds generalizing count with
  | nil =>
    obtain ⟨count, rfl⟩ : ∃ n, count = n + 1 := ⟨count - 1, by simp at h; omega⟩
    simp [takeHex, hc]
  | cons d ds ih =>
    obtain ⟨count, rfl⟩ : ∃ n, count = n + 1 := ⟨count - 1, by simp at h; omega⟩
    rw [chars_cons, List.cons_append, takeHex, hexDigit?_digitChar]
    simp [ih (by simpa using h)]

theorem width_cons (n : Nat) (sizes : List Nat) : width (n :: sizes) = n + width sizes := rfl

/-- The groups are read as they are written; together they hold the last digits of the number. -/
theorem readGroups_writeGroups (value : Nat) (sizes : List Nat) :
    ∃ ds, readGroups sizes (writeGroups value sizes) = some ds ∧ ds.length = width sizes ∧
      ofDigits 16 ds = value % 16 ^ width sizes := by
  induction sizes with
  | nil => exact ⟨[], rfl, rfl, by simp [width, Nat.mod_one]⟩
  | cons n sizes ih =>
    cases sizes with
    | nil =>
      obtain ⟨ds, hchars, hlength, hval⟩ := fixedDigits_eq_chars (b := 16) (by decide) n value
      refine ⟨ds, ?_, hlength, hval⟩
      have htake := takeHex_chars ds []
      rw [List.append_nil, hlength] at htake
      rw [writeGroups, hchars, readGroups, htake]
      rfl
    | cons m sizes =>
      obtain ⟨es, hread, hrest, hrestval⟩ := ih
      obtain ⟨ds, hchars, hlength, hval⟩ :=
        fixedDigits_eq_chars (b := 16) (by decide) n (value / 16 ^ width (m :: sizes))
      have htake := takeHex_chars ds ('-' :: writeGroups value (m :: sizes))
      rw [hlength] at htake
      refine ⟨ds ++ es, ?_, by simp [width, hlength, hrest], ?_⟩
      · rw [writeGroups, hchars, readGroups, htake]
        simp [hread]
      · rw [ofDigits_append, hval, hrest, hrestval, width_cons n, Nat.add_comm n,
          Nat.pow_add, Nat.mod_mul, Nat.add_comm, Nat.mul_comm]

/-- A text of groups starts with eight digits and a hyphen, and so is neither a run of 32 digits nor
wrapped. -/
theorem writeGroups_eq_chars (u : Uuid) : ∃ (d : Fin 16) (ds : List (Fin 16)) (rest : List Char),
    writeGroups u.value groups = chars (d :: ds) ++ '-' :: rest ∧ ds.length = 7 := by
  obtain ⟨ds, hchars, hlength, _⟩ := fixedDigits_eq_chars (b := 16) (by decide) 8
    (u.value / 16 ^ width [4, 4, 4, 12])
  cases ds with
  | nil => cases hlength
  | cons d ds => exact ⟨d, ds, _, by rw [groups, writeGroups, hchars], by simpa using hlength⟩

theorem unwrap_writeGroups (u : Uuid) :
    unwrap (writeGroups u.value groups) = writeGroups u.value groups := by
  obtain ⟨d, ds, rest, htext, _⟩ := u.writeGroups_eq_chars
  have hfirst : d.val.digitChar ≠ '{' ∧ Char.toLower d.val.digitChar ≠ 'u' := by
    clear htext
    revert d
    decide
  rw [htext, unwrap, if_neg, if_neg]
  · rw [chars_cons, List.cons_append, List.take_succ_cons, List.map_cons]
    exact fun h => hfirst.2 (List.cons.inj h).1
  · rw [chars_cons, List.cons_append, List.head?_cons]
    exact fun h => hfirst.1 (Option.some.inj h.1)

/-- An identifier is read from the text in which it is written. -/
theorem read?_text (u : Uuid) : read? u.text.toList = some u := by
  obtain ⟨ds, hread, _, hval⟩ := readGroups_writeGroups u.value groups
  have hnot : readGroups [32] (writeGroups u.value groups) = none := by
    obtain ⟨d, es, rest, htext, hlength⟩ := u.writeGroups_eq_chars
    rw [htext, readGroups, takeHex_eq_none (d :: es) rest (by simp [hlength]) (by decide)]
    rfl
  have hvalue : ofDigits 16 ds = u.value := by
    rw [hval]
    exact Nat.mod_eq_of_lt u.value_lt
  rw [text, String.toList_ofList, read?, hnot, unwrap_writeGroups, hread]
  change ofHex? ds = some u
  rw [ofHex?]
  simp only [hvalue]
  exact dif_pos u.value_lt

end Uuid

theorem AccountId.read?_text (a : AccountId) : AccountId.read? a.text.toList = some a := by
  rw [AccountId.read?, AccountId.text, Uuid.read?_text]
  rfl

theorem EntryId.read?_text (e : EntryId) : EntryId.read? e.text.toList = some e := by
  rw [EntryId.read?, EntryId.text, Uuid.read?_text]
  rfl

end SpendingLimits
