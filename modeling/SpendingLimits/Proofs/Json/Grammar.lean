import SpendingLimits.Proofs.Json.Text

namespace SpendingLimits.Json

open Text

/-- A text of space alone. -/
def IsGap (cs : List Char) : Prop := ∀ c ∈ cs, isSpace c = true

theorem isGap_nil : IsGap [] := by simp [IsGap]

theorem IsGap.append {cs ds : List Char} (hc : IsGap cs) (hd : IsGap ds) : IsGap (cs ++ ds) := by
  intro c h
  exact (List.mem_append.mp h).elim (hc c) (hd c)

theorem skipSpace_gap {gap : List Char} (h : IsGap gap) (cs : List Char) :
    skipSpace (gap ++ cs) = skipSpace cs := List.dropWhile_append_of_pos h

theorem skipSpace_cons {c : Char} (h : isSpace c = false) (cs : List Char) :
    skipSpace (c :: cs) = c :: cs := by simp [skipSpace, h]

theorem skipSpace_eq_nil {gap : List Char} (h : IsGap gap) : skipSpace gap = [] := by
  have hskip := skipSpace_gap h []
  rwa [List.append_nil] at hskip

theorem skipSpace_skipSpace (cs : List Char) : skipSpace (skipSpace cs) = skipSpace cs := by
  induction cs with
  | nil => rfl
  | cons c cs ih =>
    cases hc : isSpace c with
    | true => rwa [show skipSpace (c :: cs) = skipSpace cs by simp [skipSpace, hc]]
    | false => rw [skipSpace_cons hc, skipSpace_cons hc]

theorem endsNumber_gap {gap cs : List Char} (h : IsGap gap) (hcs : EndsNumber cs) :
    EndsNumber (gap ++ cs) := by
  cases gap with
  | nil => exact hcs
  | cons c gap =>
    have hspace : isSpace c = true := h c (by simp)
    simp only [isSpace, Bool.or_eq_true, beq_iff_eq] at hspace
    intro d hd
    obtain rfl : c = d := by simpa using hd
    rcases hspace with ((rfl | rfl) | rfl) | rfl <;> decide

theorem readValue_skipSpace (fuel : Nat) (cs : List Char) :
    readValue fuel (skipSpace cs) = readValue fuel cs := by
  cases fuel with
  | zero => rw [readValue, readValue]
  | succ fuel => rw [readValue, readValue, skipSpace_skipSpace]

theorem readValue_gap {gap : List Char} (h : IsGap gap) (fuel : Nat) (cs : List Char) :
    readValue fuel (gap ++ cs) = readValue fuel cs := by
  rw [← readValue_skipSpace, skipSpace_gap h, readValue_skipSpace]

theorem readItems_skipSpace (fuel : Nat) (cs : List Char) :
    readItems fuel (skipSpace cs) = readItems fuel cs := by
  cases fuel with
  | zero => rw [readItems, readItems]
  | succ fuel => rw [readItems, readItems, readValue_skipSpace]

theorem readFields_skipSpace (fuel : Nat) (cs : List Char) :
    readFields fuel (skipSpace cs) = readFields fuel cs := by
  cases fuel with
  | zero => rw [readFields, readFields]
  | succ fuel => rw [readFields, readFields, skipSpace_skipSpace]

/-- Whether a value has no parts. -/
def IsLeaf : Json → Prop
  | .array _ => False
  | .object _ => False
  | .broken => False
  | _ => True

theorem readValue_numeral (n : Numeral) (fuel : Nat) {rest : List Char} (h : EndsNumber rest) :
    readValue (fuel + 1) (writeNumeral n ++ rest) = (.number n, rest) := by
  obtain ⟨c, cs, htext, hfirst⟩ := writeNumeral_eq_cons n
  have hread := readNumeral_writeNumeral n h
  have hother : isSpace c = false ∧ c ≠ 'n' ∧ c ≠ 't' ∧ c ≠ 'f' ∧ c ≠ '"' ∧ c ≠ '[' ∧ c ≠ '{' := by
    rcases hfirst with rfl | ⟨d, rfl⟩
    · decide
    · clear htext
      revert d
      decide
  obtain ⟨hspace, hn, ht, hf, hquote, harray, hobject⟩ := hother
  rw [htext, List.cons_append] at hread ⊢
  rw [readValue, skipSpace_cons hspace]
  split
  · next hc => exact absurd (List.cons.inj hc).1 hn
  · next hc => exact absurd (List.cons.inj hc).1 ht
  · next hc => exact absurd (List.cons.inj hc).1 hf
  · next hc => exact absurd (List.cons.inj hc).1 hquote
  · next hc => exact absurd (List.cons.inj hc).1 harray
  · next hc => exact absurd (List.cons.inj hc).1 hobject
  · rw [hread]

theorem readValue_key (k : Option String) (fuel : Nat) (rest : List Char) :
    readValue (fuel + 1) (writeKey k ++ rest) = (k.elim .illFormedText .text, rest) := by
  obtain ⟨cs, htext, hread⟩ := readText_writeKey k rest
  rw [htext, readValue, skipSpace_cons (by decide)]
  simp only [hread]
  cases k <;> rfl

theorem readValue_leaf {v : Json} (h : IsLeaf v) (fuel : Nat) {rest : List Char}
    (hrest : EndsNumber rest) : readValue (fuel + 1) (writeLeaf v ++ rest) = (v, rest) := by
  cases v with
  | null =>
    have htext : writeLeaf .null = ['n', 'u', 'l', 'l'] := by decide
    rw [htext, List.cons_append, readValue, skipSpace_cons (by decide)]
    rfl
  | bool b =>
    cases b with
    | true =>
      have htext : writeLeaf (.bool true) = ['t', 'r', 'u', 'e'] := by decide
      rw [htext, List.cons_append, readValue, skipSpace_cons (by decide)]
      rfl
    | false =>
      have htext : writeLeaf (.bool false) = ['f', 'a', 'l', 's', 'e'] := by decide
      rw [htext, List.cons_append, readValue, skipSpace_cons (by decide)]
      rfl
  | number n => exact readValue_numeral n fuel hrest
  | text s => exact readValue_key (some s) fuel rest
  | illFormedText => exact readValue_key none fuel rest
  | array vs => exact h.elim
  | object fs => exact h.elim
  | broken => exact h.elim

/-- A value without parts starts with a character that no array and no object ends with. -/
theorem writeLeaf_eq_cons {v : Json} (h : IsLeaf v) :
    ∃ c cs, writeLeaf v = c :: cs ∧ isSpace c = false ∧ c ≠ ']' := by
  have hkey : ∀ k, ∃ c cs, writeKey k = c :: cs ∧ isSpace c = false ∧ c ≠ ']' := by
    intro k
    obtain ⟨cs, htext, _⟩ := readText_writeKey k []
    rw [List.append_nil] at htext
    exact ⟨_, _, htext, by decide, by decide⟩
  cases v with
  | null => exact ⟨'n', ['u', 'l', 'l'], by decide, by decide, by decide⟩
  | bool b =>
    cases b with
    | true => exact ⟨'t', ['r', 'u', 'e'], by decide, by decide, by decide⟩
    | false => exact ⟨'f', ['a', 'l', 's', 'e'], by decide, by decide, by decide⟩
  | number n =>
    obtain ⟨c, cs, htext, hfirst⟩ := writeNumeral_eq_cons n
    refine ⟨c, cs, htext, ?_⟩
    clear htext
    rcases hfirst with rfl | ⟨d, rfl⟩
    · decide
    · revert d
      decide
  | text s => exact hkey (some s)
  | illFormedText => exact hkey none
  | array vs => exact h.elim
  | object fs => exact h.elim
  | broken => exact h.elim

/-- A value, or the inside of an array or an object up to its closing bracket. -/
inductive Part where
  | value (v : Json)
  | items (vs : List Json)
  | fields (fs : List (Option String × Json))

/-- The texts that write a part. -/
inductive Spells : Part → List Char → Prop where
  | leaf {v : Json} (h : IsLeaf v) : Spells (.value v) (writeLeaf v)
  | spaced {v : Json} {text before behind : List Char} (hbefore : IsGap before)
    (h : Spells (.value v) text) (hbehind : IsGap behind) :
    Spells (.value v) (before ++ text ++ behind)
  | emptyArray {gap : List Char} (h : IsGap gap) :
    Spells (.value (.array [])) ('[' :: gap ++ [']'])
  | array {vs : List Json} {text : List Char} (h : Spells (.items vs) text) :
    Spells (.value (.array vs)) ('[' :: text)
  | emptyObject {gap : List Char} (h : IsGap gap) :
    Spells (.value (.object [])) ('{' :: gap ++ ['}'])
  | object {fs : List (Option String × Json)} {text : List Char} (h : Spells (.fields fs) text) :
    Spells (.value (.object fs)) ('{' :: text)
  | lastItem {v : Json} {text : List Char} (h : Spells (.value v) text) :
    Spells (.items [v]) (text ++ [']'])
  | item {v : Json} {vs : List Json} {text rest : List Char} (h : Spells (.value v) text)
    (hrest : Spells (.items vs) rest) : Spells (.items (v :: vs)) (text ++ ',' :: rest)
  | lastField {k : Option String} {v : Json} {before behind text : List Char}
    (hbefore : IsGap before) (hbehind : IsGap behind) (h : Spells (.value v) text) :
    Spells (.fields [(k, v)]) (before ++ writeKey k ++ behind ++ ':' :: text ++ ['}'])
  | field {k : Option String} {v : Json} {fs : List (Option String × Json)}
    {before behind text rest : List Char} (hbefore : IsGap before) (hbehind : IsGap behind)
    (h : Spells (.value v) text) (hrest : Spells (.fields fs) rest) :
    Spells (.fields ((k, v) :: fs)) (before ++ writeKey k ++ behind ++ ':' :: text ++ ',' :: rest)

/-- The first character of a part, behind the space in front of it. -/
def Part.Starts : Part → Char → Prop
  | .fields _, c => c = '"'
  | _, c => c ≠ ']'

theorem Spells.starts {p : Part} {cs : List Char} (h : Spells p cs) (rest : List Char) :
    ∃ c ds, skipSpace (cs ++ rest) = c :: ds ∧ p.Starts c := by
  induction h generalizing rest with
  | leaf h =>
    obtain ⟨c, cs, htext, hspace, hc⟩ := writeLeaf_eq_cons h
    exact ⟨c, cs ++ rest, by rw [htext, List.cons_append, skipSpace_cons hspace], hc⟩
  | spaced hbefore _ _ ih =>
    rw [List.append_assoc, List.append_assoc, skipSpace_gap hbefore]
    exact ih _
  | emptyArray _ => exact ⟨'[', _, skipSpace_cons (by decide) _, (by decide : '[' ≠ ']')⟩
  | array _ _ => exact ⟨'[', _, skipSpace_cons (by decide) _, (by decide : '[' ≠ ']')⟩
  | emptyObject _ => exact ⟨'{', _, skipSpace_cons (by decide) _, (by decide : '{' ≠ ']')⟩
  | object _ _ => exact ⟨'{', _, skipSpace_cons (by decide) _, (by decide : '{' ≠ ']')⟩
  | lastItem _ ih =>
    rw [List.append_assoc]
    exact ih _
  | item _ _ ih _ =>
    rw [List.append_assoc]
    exact ih _
  | @lastField k _ before behind text hbefore _ _ _ =>
    obtain ⟨cs, htext, _⟩ := readText_writeKey k (behind ++ (':' :: text ++ ['}'] ++ rest))
    refine ⟨'"', cs, ?_, rfl⟩
    simp only [List.append_assoc] at htext ⊢
    rw [skipSpace_gap hbefore, htext, skipSpace_cons (by decide)]
  | @field k _ _ before behind text rest' hbefore _ _ _ _ _ =>
    obtain ⟨cs, htext, _⟩ := readText_writeKey k (behind ++ (':' :: text ++ ',' :: rest' ++ rest))
    refine ⟨'"', cs, ?_, rfl⟩
    simp only [List.append_assoc] at htext ⊢
    rw [skipSpace_gap hbefore, htext, skipSpace_cons (by decide)]

/-- A text is read as the part, with fuel for two calls a character. A value leaves no more than
space in front of the rest. -/
def Part.IsRead : Part → List Char → Prop
  | .value v, cs => ∀ fuel rest, 2 * cs.length ≤ fuel → EndsNumber rest →
      ∃ gap, IsGap gap ∧ readValue fuel (cs ++ rest) = (v, gap ++ rest)
  | .items vs, cs =>
    ∀ fuel rest, 2 * cs.length + 1 ≤ fuel → readItems fuel (cs ++ rest) = (vs, rest)
  | .fields fs, cs =>
    ∀ fuel rest, 2 * cs.length + 1 ≤ fuel → readFields fuel (cs ++ rest) = (fs, rest)

theorem readValue_array {vs : List Json} {text : List Char} (h : Spells (.items vs) text)
    (hread : Part.IsRead (.items vs) text) : Part.IsRead (.value (.array vs)) ('[' :: text) := by
  intro fuel rest hfuel hrest
  obtain ⟨fuel, rfl⟩ : ∃ n, fuel = n + 1 := ⟨fuel - 1, by simp at hfuel; omega⟩
  obtain ⟨c, cs, hskip, hc⟩ := h.starts rest
  have hitems : readItems fuel (c :: cs) = (vs, rest) := by
    rw [← hskip, readItems_skipSpace]
    exact hread fuel rest (by simp at hfuel; omega)
  refine ⟨[], isGap_nil, ?_⟩
  rw [List.cons_append, readValue, skipSpace_cons (by decide)]
  simp only [hskip]
  split
  · next heq => exact absurd (List.cons.inj heq).1 hc
  · rw [hitems]
    rfl

theorem readValue_object {fs : List (Option String × Json)} {text : List Char}
    (h : Spells (.fields fs) text) (hread : Part.IsRead (.fields fs) text) :
    Part.IsRead (.value (.object fs)) ('{' :: text) := by
  intro fuel rest hfuel hrest
  obtain ⟨fuel, rfl⟩ : ∃ n, fuel = n + 1 := ⟨fuel - 1, by simp at hfuel; omega⟩
  obtain ⟨c, cs, hskip, rfl⟩ := h.starts rest
  have hfields : readFields fuel ('"' :: cs) = (fs, rest) := by
    rw [← hskip, readFields_skipSpace]
    exact hread fuel rest (by simp at hfuel; omega)
  refine ⟨[], isGap_nil, ?_⟩
  rw [List.cons_append, readValue, skipSpace_cons (by decide)]
  simp only [hskip]
  split
  · next heq => exact absurd (List.cons.inj heq).1 (by decide)
  · rw [hfields]
    rfl

/-- An item of an array, in front of a comma or of the closing bracket. -/
theorem readItems_item {v : Json} {text : List Char} (hread : Part.IsRead (.value v) text)
    {fuel : Nat} {rest : List Char} (hfuel : 2 * text.length ≤ fuel) (hrest : EndsNumber rest) :
    (∀ cs, skipSpace rest = ',' :: cs → readItems (fuel + 1) (text ++ rest) =
      (v :: (readItems fuel cs).1, (readItems fuel cs).2)) ∧
    ∀ cs, skipSpace rest = ']' :: cs → readItems (fuel + 1) (text ++ rest) = ([v], cs) := by
  obtain ⟨gap, hgap, hvalue⟩ := hread fuel rest hfuel hrest
  rw [readItems, hvalue]
  simp only [skipSpace_gap hgap]
  constructor
  all_goals
    intro cs hcs
    rw [hcs]
    rfl

/-- A field of an object, in front of a comma or of the closing brace. -/
theorem readFields_field (k : Option String) {v : Json} {before behind text : List Char}
    (hbefore : IsGap before) (hbehind : IsGap behind) (hread : Part.IsRead (.value v) text)
    {fuel : Nat} {rest : List Char} (hfuel : 2 * text.length ≤ fuel) (hrest : EndsNumber rest) :
    (∀ cs, skipSpace rest = ',' :: cs →
      readFields (fuel + 1) (before ++ writeKey k ++ behind ++ ':' :: text ++ rest) =
        ((k, v) :: (readFields fuel cs).1, (readFields fuel cs).2)) ∧
    ∀ cs, skipSpace rest = '}' :: cs →
      readFields (fuel + 1) (before ++ writeKey k ++ behind ++ ':' :: text ++ rest) =
        ([(k, v)], cs) := by
  obtain ⟨gap, hgap, hvalue⟩ := hread fuel rest hfuel hrest
  obtain ⟨ds, htext, hkey⟩ := readText_writeKey k (behind ++ (':' :: text ++ rest))
  have hcolon : skipSpace (behind ++ (':' :: text ++ rest)) = ':' :: (text ++ rest) := by
    rw [skipSpace_gap hbehind, List.cons_append, skipSpace_cons (by decide)]
  simp only [List.append_assoc] at htext hcolon hkey ⊢
  rw [readFields, skipSpace_gap hbefore, htext, skipSpace_cons (by decide)]
  simp only [hkey, hcolon, hvalue, skipSpace_gap hgap]
  constructor
  all_goals
    intro cs hcs
    rw [hcs]
    rfl

/-- Every layout of a part is read as the part. -/
theorem Spells.isRead {p : Part} {cs : List Char} (h : Spells p cs) : p.IsRead cs := by
  have hend : ∀ {c : Char} (rest : List Char), c = ',' ∨ c = ']' ∨ c = '}' →
      EndsNumber (c :: rest) ∧ skipSpace (c :: rest) = c :: rest := by
    intro c rest hc
    have hclass : isSpace c = false ∧ digit? c = none ∧ c ≠ '.' ∧ c ≠ 'e' ∧ c ≠ 'E' := by
      rcases hc with rfl | rfl | rfl <;> decide
    exact ⟨fun d hd => (Option.some.inj hd) ▸ hclass.2, skipSpace_cons hclass.1 rest⟩
  induction h with
  | @leaf v h =>
    intro fuel rest hfuel hrest
    obtain ⟨c, cs, htext, _⟩ := writeLeaf_eq_cons h
    obtain ⟨fuel, rfl⟩ : ∃ n, fuel = n + 1 := ⟨fuel - 1, by simp [htext] at hfuel; omega⟩
    exact ⟨[], isGap_nil, readValue_leaf h fuel hrest⟩
  | @spaced v text before behind hbefore _ hbehind ih =>
    intro fuel rest hfuel hrest
    obtain ⟨gap, hgap, hread⟩ :=
      ih fuel (behind ++ rest) (by simp at hfuel; omega) (endsNumber_gap hbehind hrest)
    refine ⟨gap ++ behind, hgap.append hbehind, ?_⟩
    rw [List.append_assoc, List.append_assoc, readValue_gap hbefore, hread, List.append_assoc]
  | @emptyArray gap hgap =>
    intro fuel rest hfuel hrest
    obtain ⟨fuel, rfl⟩ : ∃ n, fuel = n + 1 := ⟨fuel - 1, by simp at hfuel; omega⟩
    refine ⟨[], isGap_nil, ?_⟩
    rw [List.cons_append, List.cons_append, List.append_assoc, readValue,
      skipSpace_cons (by decide)]
    simp only [skipSpace_gap hgap, List.singleton_append, (hend rest (.inr (.inl rfl))).2]
    rfl
  | array h ih => exact readValue_array h ih
  | @emptyObject gap hgap =>
    intro fuel rest hfuel hrest
    obtain ⟨fuel, rfl⟩ : ∃ n, fuel = n + 1 := ⟨fuel - 1, by simp at hfuel; omega⟩
    refine ⟨[], isGap_nil, ?_⟩
    rw [List.cons_append, List.cons_append, List.append_assoc, readValue,
      skipSpace_cons (by decide)]
    simp only [skipSpace_gap hgap, List.singleton_append, (hend rest (.inr (.inr rfl))).2]
    rfl
  | object h ih => exact readValue_object h ih
  | @lastItem v text _ ih =>
    intro fuel rest hfuel
    obtain ⟨fuel, rfl⟩ : ∃ n, fuel = n + 1 := ⟨fuel - 1, by simp at hfuel; omega⟩
    obtain ⟨hends, hskip⟩ := hend rest (.inr (.inl rfl))
    rw [List.append_assoc, List.singleton_append]
    exact (readItems_item ih (by simp at hfuel; omega) hends).2 _ hskip
  | @item v vs text tail _ _ ih ihrest =>
    intro fuel rest hfuel
    obtain ⟨fuel, rfl⟩ : ∃ n, fuel = n + 1 := ⟨fuel - 1, by simp at hfuel; omega⟩
    obtain ⟨hends, hskip⟩ := hend (tail ++ rest) (.inl rfl)
    have htail := ihrest fuel rest (by simp at hfuel; omega)
    rw [List.append_assoc, List.cons_append,
      (readItems_item ih (by simp at hfuel; omega) hends).1 _ hskip, htail]
  | @lastField k v before behind text hbefore hbehind _ ih =>
    intro fuel rest hfuel
    obtain ⟨fuel, rfl⟩ : ∃ n, fuel = n + 1 := ⟨fuel - 1, by simp at hfuel; omega⟩
    obtain ⟨hends, hskip⟩ := hend rest (.inr (.inr rfl))
    rw [List.append_assoc, List.singleton_append]
    exact (readFields_field k hbefore hbehind ih (by simp at hfuel; omega) hends).2 _ hskip
  | @field k v fs before behind text tail hbefore hbehind _ _ ih ihrest =>
    intro fuel rest hfuel
    obtain ⟨fuel, rfl⟩ : ∃ n, fuel = n + 1 := ⟨fuel - 1, by simp at hfuel; omega⟩
    obtain ⟨hends, hskip⟩ := hend (tail ++ rest) (.inl rfl)
    have htail := ihrest fuel rest (by simp at hfuel; omega)
    rw [List.append_assoc, List.cons_append,
      (readFields_field k hbefore hbehind ih (by simp at hfuel; omega) hends).1 _ hskip, htail]

/-- A text is read as the value it writes, to its end. -/
theorem read_ofList {v : Json} {cs : List Char} (h : Spells (.value v) cs) :
    read (String.ofList cs) = (v, true) := by
  obtain ⟨gap, hgap, hread⟩ := h.isRead (2 * cs.length + 2) [] (by omega) (by simp [EndsNumber])
  rw [List.append_nil, List.append_nil] at hread
  rw [read, String.toList_ofList, hread]
  simp [skipSpace_eq_nil hgap]

mutual
theorem spells_writeCompact : ∀ v : Json, v.isWhole = true → Spells (.value v) (writeCompact v)
  | .array vs, h => by
    rw [writeCompact, List.cons_append]
    cases vs with
    | nil => exact .emptyArray isGap_nil
    | cons v ws => exact .array (spells_writeItems (v :: ws) h (by simp))
  | .object fs, h => by
    rw [writeCompact, List.cons_append]
    cases fs with
    | nil => exact .emptyObject isGap_nil
    | cons f gs => exact .object (spells_writeFields (f :: gs) h (by simp))
  | .null, _ => .leaf trivial
  | .bool _, _ => .leaf trivial
  | .number _, _ => .leaf trivial
  | .text _, _ => .leaf trivial
  | .illFormedText, _ => .leaf trivial

theorem spells_writeItems : ∀ vs : List Json, areWhole vs = true → vs ≠ [] →
    Spells (.items vs) (writeItems vs ++ [']'])
  | [], _, hne => absurd rfl hne
  | [v], h, _ => by
    rw [areWhole, Bool.and_eq_true] at h
    rw [writeItems]
    exact .lastItem (spells_writeCompact v h.1)
  | v :: w :: vs, h, _ => by
    rw [areWhole, Bool.and_eq_true] at h
    rw [writeItems, List.append_assoc]
    exact .item (spells_writeCompact v h.1) (spells_writeItems (w :: vs) h.2 (by simp))

theorem spells_writeFields : ∀ fs : List (Option String × Json), areWholeFields fs = true →
    fs ≠ [] → Spells (.fields fs) (writeFields fs ++ ['}'])
  | [], _, hne => absurd rfl hne
  | [(k, v)], h, _ => by
    rw [areWholeFields, Bool.and_eq_true] at h
    have hspells := Spells.lastField (k := k) isGap_nil isGap_nil (spells_writeCompact v h.1)
    rw [writeFields]
    simpa using hspells
  | (k, v) :: f :: fs, h, _ => by
    rw [areWholeFields, Bool.and_eq_true] at h
    have hspells := Spells.field (k := k) isGap_nil isGap_nil (spells_writeCompact v h.1)
      (spells_writeFields (f :: fs) h.2 (by simp))
    rw [writeFields]
    simpa using hspells
end

theorem isGap_blank : IsGap [' '] := by simp [IsGap, isSpace]

theorem isGap_newLine (depth : Nat) : IsGap (newLine depth) := by
  intro c hc
  rw [newLine, List.mem_cons, List.mem_replicate] at hc
  rcases hc with rfl | ⟨_, rfl⟩ <;> decide

mutual
theorem spells_writePretty (depth : Nat) :
    ∀ v : Json, v.isWhole = true → Spells (.value v) (writePretty depth v)
  | .array vs, h => by
    cases vs with
    | nil => exact .emptyArray isGap_nil
    | cons v ws =>
      rw [writePretty, List.cons_append, List.cons_append, List.append_assoc]
      exact .array (spells_writeLines (depth + 1) (v :: ws) h (by simp) _ (isGap_newLine depth))
  | .object fs, h => by
    cases fs with
    | nil => exact .emptyObject isGap_nil
    | cons f gs =>
      rw [writePretty, List.cons_append, List.cons_append, List.append_assoc]
      exact .object
        (spells_writeFieldLines (depth + 1) (f :: gs) h (by simp) _ (isGap_newLine depth))
  | .null, _ => .leaf trivial
  | .bool _, _ => .leaf trivial
  | .number _, _ => .leaf trivial
  | .text _, _ => .leaf trivial
  | .illFormedText, _ => .leaf trivial

theorem spells_writeLines (depth : Nat) : ∀ vs : List Json, areWhole vs = true → vs ≠ [] →
    ∀ gap : List Char, IsGap gap → Spells (.items vs) (writeLines depth vs ++ (gap ++ [']']))
  | [], _, hne, _, _ => absurd rfl hne
  | [v], h, _, gap, hgap => by
    rw [areWhole, Bool.and_eq_true] at h
    have hvalue := Spells.spaced (isGap_newLine depth) (spells_writePretty depth v h.1) hgap
    rw [writeLines, ← List.append_assoc]
    exact .lastItem hvalue
  | v :: w :: vs, h, _, gap, hgap => by
    rw [areWhole, Bool.and_eq_true] at h
    have hvalue := Spells.spaced (isGap_newLine depth) (spells_writePretty depth v h.1) isGap_nil
    have hrest := spells_writeLines depth (w :: vs) h.2 (by simp) gap hgap
    rw [List.append_nil] at hvalue
    rw [writeLines, List.append_assoc]
    exact .item hvalue hrest

theorem spells_writeFieldLines (depth : Nat) :
    ∀ fs : List (Option String × Json), areWholeFields fs = true → fs ≠ [] →
    ∀ gap : List Char, IsGap gap →
      Spells (.fields fs) (writeFieldLines depth fs ++ (gap ++ ['}']))
  | [], _, hne, _, _ => absurd rfl hne
  | [(k, v)], h, _, gap, hgap => by
    rw [areWholeFields, Bool.and_eq_true] at h
    have hvalue := Spells.spaced isGap_blank (spells_writePretty depth v h.1) hgap
    have hspells := Spells.lastField (k := k) (isGap_newLine depth) isGap_nil hvalue
    rw [writeFieldLines]
    simpa using hspells
  | (k, v) :: f :: fs, h, _, gap, hgap => by
    rw [areWholeFields, Bool.and_eq_true] at h
    have hvalue := Spells.spaced isGap_blank (spells_writePretty depth v h.1) isGap_nil
    have hrest := spells_writeFieldLines depth (f :: fs) h.2 (by simp) gap hgap
    have hspells := Spells.field (k := k) (isGap_newLine depth) isGap_nil hvalue hrest
    rw [writeFieldLines]
    simpa using hspells
end

/-- A value on one line is read back. -/
theorem read_compact {v : Json} (h : v.isWhole = true) : read v.compact = (v, true) :=
  read_ofList (spells_writeCompact v h)

/-- A value with a part on each line is read back. -/
theorem read_pretty {v : Json} (h : v.isWhole = true) : read v.pretty = (v, true) :=
  read_ofList (spells_writePretty 0 v h)

end SpendingLimits.Json
