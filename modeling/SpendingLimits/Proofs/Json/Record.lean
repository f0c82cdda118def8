import Mathlib.Data.List.Forall2
import Mathlib.Data.List.Nodup
import Mathlib.Tactic.SplitIfs
import SpendingLimits.Json.Record
import SpendingLimits.Proofs.Json.Grammar
import SpendingLimits.Proofs.Outcome

namespace SpendingLimits.Json

/-- A value that is whole and is decoded to `a`. -/
structure Reads {α : Type} (decode : Decoder α) (v : Json) (a : α) : Prop where
  whole : v.isWhole = true
  decoded : decode v = .ok a

namespace Reads

variable {α β : Type} {decode : Decoder α} {v : Json} {a : α}

theorem compact (h : Reads decode v a) : decodeText decode v.compact = .ok a := by
  rw [decodeText, read_compact h.whole]
  exact bind_eq_ok.mpr ⟨a, h.decoded, rfl⟩

theorem pretty (h : Reads decode v a) : decodeText decode v.pretty = .ok a := by
  rw [decodeText, read_pretty h.whole]
  exact bind_eq_ok.mpr ⟨a, h.decoded, rfl⟩

theorem map (f : α → β) (h : Reads decode v a) : Reads (fun v => (decode v).map f) v (f a) :=
  ⟨h.whole, map_eq_ok.mpr ⟨a, h.decoded, rfl⟩⟩

theorem text (s : String) : Reads asText (.text s) s := ⟨rfl, rfl⟩

theorem bool (b : Bool) : Reads asBool (.bool b) b := ⟨rfl, rfl⟩

theorem ofRead {read : List Char → Option α} {s : String} (h : read s.toList = some a) :
    Reads (asRead read) (.text s) a := ⟨rfl, by rw [asRead, h]⟩

theorem name {named : String → Option α} {s : String} (h : named s = some a) :
    Reads (asName named) (.text s) a := ⟨rfl, by rw [asName, h]⟩

/-- A number between bounds of at most 64 bits. -/
theorem int {low high n : Int} (hlow : low ≤ n) (hhigh : n ≤ high)
    (hfits : -2 ^ (63 : Nat) ≤ n ∧ n < 2 ^ (64 : Nat)) : Reads (asInt low high) (.ofInt n) n := by
  refine ⟨rfl, ?_⟩
  have hval : Numeral.toInt? ⟨decide (n < 0), n.natAbs, [], none⟩ = some n := by
    rw [Numeral.toInt?, if_neg (by simp)]
    by_cases hneg : n < 0
    · have hmagnitude : -(n.natAbs : Int) = n := by omega
      simp only [hneg, decide_true, if_true]
      rw [if_neg (by omega), hmagnitude]
    · have hmagnitude : (n.natAbs : Int) = n := by omega
      simp only [hneg, decide_false, Bool.false_eq_true, if_false]
      rw [if_pos (by omega), hmagnitude]
  rw [ofInt, asInt, hval]
  exact if_pos ⟨hlow, hhigh⟩

theorem none : Reads (asOption decode) .null none := ⟨rfl, rfl⟩

theorem some (h : Reads decode v a) (hnull : v ≠ .null) : Reads (asOption decode) v (some a) := by
  refine ⟨h.whole, ?_⟩
  rw [asOption, h.decoded]
  · rfl
  · exact hnull

/-- A list whose elements are written one by one, and read as `f` says. -/
theorem list {encode : β → Json} {f : β → α} {l : List β}
    (h : ∀ b ∈ l, Reads decode (encode b) (f b)) :
    Reads (asList decode) (.array (l.map encode)) (l.map f) := by
  induction l with
  | nil => exact ⟨rfl, rfl⟩
  | cons b l ih =>
    obtain ⟨hwhole, hdecoded⟩ := ih fun c hc => h c (by simp [hc])
    obtain ⟨hfirst, hfirstdecoded⟩ := h b (by simp)
    rw [isWhole] at hwhole
    rw [asList] at hdecoded
    refine ⟨?_, ?_⟩
    · rw [isWhole, List.map_cons, areWhole, hfirst, hwhole]
      rfl
    · rw [asList, List.map_cons, List.mapM_cons, hfirstdecoded, hdecoded]
      rfl

end Reads

/-- Items are decoded one by one, and all of them or none. -/
theorem mapM_eq_ok {α : Type} {decode : Decoder α} {items : List Json} {as : List α} :
    items.mapM decode = .ok as ↔ List.Forall₂ (fun v a => decode v = .ok a) items as := by
  induction items generalizing as with
  | nil =>
    rw [List.mapM_nil, List.forall₂_nil_left_iff]
    exact ⟨fun h => (Except.ok.inj h).symm, fun h => congrArg _ h.symm⟩
  | cons v items ih =>
    rw [List.mapM_cons, bind_eq_ok, List.forall₂_cons_left_iff]
    simp only [bind_eq_ok, ih]
    constructor
    · rintro ⟨a, ha, rest, hrest, has⟩
      exact ⟨a, rest, ha, hrest, (Except.ok.inj has).symm⟩
    · rintro ⟨a, rest, ha, hrest, rfl⟩
      exact ⟨a, ha, rest, hrest, rfl⟩

theorem exists_of_mem_of_forall₂ {A B : Type} {R : A → B → Prop} {as : List A} {bs : List B}
    {a : A} (h : List.Forall₂ R as bs) (ha : a ∈ as) : ∃ b, R a b := by
  induction h with
  | nil => cases ha
  | cons hfirst _ ih =>
    rcases List.mem_cons.mp ha with rfl | ha
    · exact ⟨_, hfirst⟩
    · exact ih ha

theorem areWholeFields_map {fs : List (String × Json)} (h : ∀ f ∈ fs, f.2.isWhole = true) :
    areWholeFields (fs.map fun (k, v) => (some k, v)) = true := by
  induction fs with
  | nil => rfl
  | cons f fs ih =>
    rw [List.map_cons, areWholeFields, h f (by simp), ih fun g hg => h g (by simp [hg])]
    rfl

theorem lookup_optionField {α : Type} (name key : String) (encode : α → Json) (o : Option α) :
    (optionField name encode o).lookup key = if key = name then o.map encode else none := by
  cases o with
  | none => simp [optionField]
  | some a =>
    rw [optionField, List.lookup_cons]
    by_cases h : key = name
    · simp [h]
    · simp [h, beq_eq_false_iff_ne.mpr h]

theorem keys_optionField {α : Type} (name : String) (encode : α → Json) (o : Option α) :
    ((optionField name encode o).map Prod.fst).Sublist [name] := by
  cases o with
  | none => exact List.nil_sublist _
  | some a => exact List.Sublist.refl _

theorem lookup_of_mem {α : Type} {fs : List (String × α)} (hkeys : (fs.map Prod.fst).Nodup)
    {f : String × α} (h : f ∈ fs) : fs.lookup f.1 = some f.2 := by
  induction fs with
  | nil => simp at h
  | cons g fs ih =>
    rw [List.map_cons, List.nodup_cons] at hkeys
    rw [List.lookup_cons]
    rcases List.mem_cons.mp h with rfl | hmem
    · simp
    · have hne : f.1 ≠ g.1 := fun heq => hkeys.1 (heq ▸ List.mem_map_of_mem hmem)
      rw [beq_eq_false_iff_ne.mpr hne]
      exact ih hkeys.2 hmem

namespace Record

variable {α β : Type}

/-- The fields make a value, and each of them that is there passes its own check. -/
structure Yields (r : Record α) (fs : List (String × Json)) (a : α) : Prop where
  build : r.build fs = .ok a
  fits : ∀ f ∈ r.known, ∀ v, fs.lookup f.1 = some v → Reads f.2 v ()

namespace Yields

variable {fs : List (String × Json)}

theorem map {r : Record α} {a : α} (f : α → β) (h : Yields r fs a) : Yields (f <$> r) fs (f a) :=
  ⟨map_eq_ok.mpr ⟨a, h.build, rfl⟩, h.fits⟩

theorem seq {f : Record (α → β)} {r : Record α} {g : α → β} {a : α} (hf : Yields f fs g)
    (h : Yields r fs a) : Yields (f <*> r) fs (g a) :=
  ⟨bind_eq_ok.mpr ⟨g, hf.build, bind_eq_ok.mpr ⟨a, h.build, rfl⟩⟩, fun known hknown =>
    (List.mem_append.mp hknown).elim (hf.fits known) (h.fits known)⟩

theorem required {name : String} {decode : Decoder α} {v : Json} {a : α}
    (hv : fs.lookup name = some v) (h : Reads decode v a) :
    Yields (Record.required name decode) fs a := by
  refine ⟨?_, ?_⟩
  · simp only [Record.required, hv]
    exact h.decoded
  · intro f hf w hw
    obtain rfl := List.mem_singleton.mp hf
    obtain rfl : v = w := Option.some.inj (hv.symm.trans hw)
    exact h.map fun _ => ()

theorem optional {name : String} {decode : Decoder α} {v : Json} {a absent : α}
    (hv : fs.lookup name = some v) (h : Reads decode v a) :
    Yields (Record.optional name decode absent) fs a := by
  refine ⟨?_, ?_⟩
  · simp only [Record.optional, hv]
    exact h.decoded
  · intro f hf w hw
    obtain rfl := List.mem_singleton.mp hf
    obtain rfl : v = w := Option.some.inj (hv.symm.trans hw)
    exact h.map fun _ => ()

theorem absent {name : String} {decode : Decoder α} {absent : α} (hv : fs.lookup name = none) :
    Yields (Record.optional name decode absent) fs absent := by
  refine ⟨?_, ?_⟩
  · simp only [Record.optional, hv]
  · intro f hf w hw
    obtain rfl := List.mem_singleton.mp hf
    exact absurd (hv.symm.trans hw) (by simp)

/-- A field that is written only if it has a value, and read as `f` says. -/
theorem option {name : String} {decode : Decoder α} {encode : β → Json} {f : β → α} {o : Option β}
    (hv : fs.lookup name = o.map encode) (h : ∀ b, Reads decode (encode b) (f b))
    (hnull : ∀ b, encode b ≠ .null) :
    Yields (Record.optional name (asOption decode) none) fs (o.map f) := by
  cases o with
  | none => exact absent hv
  | some b => exact optional hv ((h b).some (hnull b))

end Yields

/-- A visit keeps the values of the known fields. -/
theorem lookup_visit {known : List (String × Decoder Unit)} {seen : List String}
    {fields : List (Option String × Json)} {fs : List (String × Json)} {name : String}
    {decode : Decoder Unit} (hknown : known.lookup name = some decode)
    (h : visit known seen fields = .ok fs) : fs.lookup name = fields.lookup (some name) := by
  induction fields generalizing seen fs with
  | nil =>
    obtain rfl := Except.ok.inj h
    rfl
  | cons field fields ih =>
    obtain ⟨key, v⟩ := field
    cases key with
    | none => cases h
    | some key =>
      rw [visit] at h
      cases hkey : known.lookup key with
      | none =>
        have hne : name ≠ key := by
          rintro rfl
          rw [hknown] at hkey
          cases hkey
        simp only [hkey] at h
        split_ifs at h
        rw [List.lookup_cons, beq_eq_false_iff_ne.mpr fun heq => hne (Option.some.inj heq)]
        exact ih h
      | some check =>
        simp only [hkey] at h
        split_ifs at h
        obtain ⟨_, _, h⟩ := bind_eq_ok.mp h
        obtain ⟨rest, hrest, hfs⟩ := bind_eq_ok.mp h
        obtain rfl := Except.ok.inj hfs
        rw [List.lookup_cons, List.lookup_cons, ih hrest]
        rfl

/-- A known field after the other, each of them once. -/
theorem visit_ofFields {known : List (String × Decoder Unit)} {seen : List String}
    {fs : List (String × Json)}
    (hfits : ∀ f ∈ fs, ∃ decode, known.lookup f.1 = some decode ∧ decode f.2 = .ok ())
    (hkeys : (fs.map Prod.fst).Nodup) (hseen : ∀ f ∈ fs, f.1 ∉ seen) :
    visit known seen (fs.map fun (k, v) => (some k, v)) = .ok fs := by
  induction fs generalizing seen with
  | nil => rfl
  | cons f fs ih =>
    obtain ⟨decode, hknown, hok⟩ := hfits f (by simp)
    rw [List.map_cons, List.nodup_cons] at hkeys
    have hunseen : ∀ g ∈ fs, g.1 ∉ f.1 :: seen := by
      intro g hg
      have hne : g.1 ≠ f.1 := fun heq => hkeys.1 (heq ▸ List.mem_map_of_mem hg)
      simp [hne, hseen g (by simp [hg])]
    have hrest := ih (fun g hg => hfits g (by simp [hg])) hkeys.2 hunseen
    rw [List.map_cons, visit, hknown]
    simp only [if_neg (hseen f (by simp)), hok, hrest]
    rfl

/-- An object of fields in the order in which a record knows them. -/
theorem reads_ofFields {r : Record α} {fs : List (String × Json)} {a : α} (h : Yields r fs a)
    (hkeys : (fs.map Prod.fst).Sublist (r.known.map Prod.fst))
    (hnodup : (r.known.map Prod.fst).Nodup) :
    Reads r.decode (ofFields fs) a := by
  have hfs : (fs.map Prod.fst).Nodup := hnodup.sublist hkeys
  have hfits : ∀ f ∈ fs, ∃ decode, r.known.lookup f.1 = some decode ∧ Reads decode f.2 () := by
    intro f hf
    obtain ⟨known, hknown, hname⟩ := List.mem_map.mp (hkeys.subset (List.mem_map_of_mem hf))
    refine ⟨known.2, ?_, h.fits known hknown f.2 ?_⟩
    · rw [← hname]
      exact lookup_of_mem hnodup hknown
    · rw [hname]
      exact lookup_of_mem hfs hf
  refine ⟨?_, ?_⟩
  · rw [ofFields, isWhole]
    refine areWholeFields_map fun f hf => ?_
    obtain ⟨decode, _, hreads⟩ := hfits f hf
    exact hreads.whole
  · have hvisit : visit r.known [] (fs.map fun (k, v) => (some k, v)) = .ok fs := by
      refine visit_ofFields (fun f hf => ?_) hfs (by simp)
      obtain ⟨decode, hknown, hreads⟩ := hfits f hf
      exact ⟨decode, hknown, hreads.decoded⟩
    rw [ofFields, decode, hvisit]
    exact bind_eq_ok.mpr ⟨fs, rfl, h.build⟩

end Record

end SpendingLimits.Json
