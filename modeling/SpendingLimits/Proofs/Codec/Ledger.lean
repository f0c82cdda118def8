import SpendingLimits.Codec.Document
import SpendingLimits.Proofs.Codec.Parts
import SpendingLimits.Proofs.Ledger.Order
import SpendingLimits.Proofs.Time.Text

namespace SpendingLimits

open Json

namespace Entry

def unsigned (e : Entry) : Entry := { e with amount := e.amount.unsigned }

theorem yields_id {fs : List (String × Json)} {id : Option EntryId}
    (h : fs.lookup "id" = id.map fun id => .text id.text) :
    (Record.optional "id" (fun v => (asRead EntryId.read? v).map some) none).Yields fs id := by
  cases id with
  | none => exact .absent h
  | some id => exact .optional h (.map some (.ofRead id.read?_text))

theorem reads (e : Entry) : Reads Entry.ofJson e.toJson e.unsigned := by
  refine Record.reads_ofFields (r := layout) ?_ ?_ (by decide)
  · refine .seq (.seq (.seq (.seq (.seq (.map _
      (yields_id ?_))
      (.required ?_ e.account.reads))
      (.required ?_ e.amount.reads))
      (e.context.yields ?_ ?_))
      (.optional ?_ e.status.reads))
      (.required ?_ (.ofRead e.createdAt.read?_text))
    all_goals simp [Context.fields, List.lookup_append, List.lookup_cons, lookup_optionField]
  · simp only [Context.fields, List.map_append]
    exact ((((keys_optionField ..).append (.refl _)).append
      ((keys_optionField ..).append (keys_optionField ..))).append (.refl _))

end Entry

namespace Amount

theorem fitFrom_minus {n dropped places : Nat} {c : Amount}
    (h : fitFrom n dropped places = some c) : c.minus = false := by
  induction places generalizing dropped with
  | zero => exact (ofParts?_eq_some.mp h).2.2
  | succ places ih =>
    rw [fitFrom, Option.orElse_eq_orElse, Option.orElse_eq_or, Option.or_eq_some_iff] at h
    rcases h with h | ⟨_, h⟩
    · exact (ofParts?_eq_some.mp h).2.2
    · exact ih h

theorem add?_unsigned (a b : Amount) :
    add? a.unsigned b.unsigned = (add? a b).map unsigned := by
  rw [add?, add?, isZero_unsigned, isZero_unsigned]
  split_ifs
  · rfl
  · rfl
  · change fit? _ _ = (fit? _ _).map unsigned
    cases hfit : fit? (a.mantissaAt (max a.scale b.scale) + b.mantissaAt (max a.scale b.scale))
      (max a.scale b.scale) with
    | none => exact hfit
    | some c =>
      rw [Option.map_some, unsigned_eq_self_iff.mpr (fitFrom_minus hfit)]
      exact hfit

theorem foldlM_add?_unsigned (as : List Amount) (a : Amount) :
    (as.map unsigned).foldlM add? a.unsigned = (as.foldlM add? a).map unsigned := by
  induction as generalizing a with
  | nil => rfl
  | cons b as ih =>
    rw [List.map_cons, List.foldlM_cons, List.foldlM_cons, add?_unsigned]
    cases add? a b with
    | none => rfl
    | some c => exact ih c

theorem sum?_unsigned (as : List Amount) : sum? (as.map unsigned) = (sum? as).map unsigned :=
  foldlM_add?_unsigned as zero

end Amount

namespace Ledger

def unsigned (l : Ledger) : Ledger := ⟨l.entries.map Entry.unsigned⟩

theorem reads (l : Ledger) : Reads Ledger.ofJson l.toJson l.unsigned := by
  refine Record.reads_ofFields (r := layout) ?_ (.refl _) (by decide)
  exact .map _ (.optional rfl (.list fun e _ => e.reads))

/-- The ledger in which an entry without an identifier has the one that is drawn for its place. -/
def withIds (l : Ledger) (draw : Nat → EntryId) : Ledger :=
  ⟨l.entries.mapIdx fun n e => { e with id := some (e.id.getD (draw n)) }⟩

/-- The entries as totals see them, without identifiers, and with their amounts changed by `f`. -/
def summed (f : Amount → Amount) (l : Ledger) : Ledger :=
  ⟨l.entries.map fun e => { e with id := none, amount := f e.amount }⟩

theorem summed_unsigned (f : Amount → Amount) (l : Ledger) :
    l.unsigned.summed f = l.summed (f ∘ Amount.unsigned) := by
  rw [summed, unsigned, List.map_map]
  rfl

theorem summed_withIds (f : Amount → Amount) (l : Ledger) (draw : Nat → EntryId) :
    (l.withIds draw).summed f = l.summed f := by
  rw [summed, summed, withIds, mk.injEq]
  exact List.ext_getElem (by simp) (by simp)

theorem summed_recordAll (f : Amount → Amount) (l : Ledger) (es : List Entry) :
    (l.recordAll es).summed f = ⟨(l.summed f).entries ++ ((⟨es⟩ : Ledger).summed f).entries⟩ := by
  simp [summed, recordAll_entries]

/-- A change of amounts that goes through sums goes through totals. -/
theorem total_summed {f : Amount → Amount}
    (hf : ∀ as, Amount.sum? (as.map f) = (Amount.sum? as).map f) (l : Ledger)
    (account : AccountId) (now : Time.Instant) (span : Option Window) :
    (l.summed f).total account now span = (l.total account now span).map f := by
  have hhistory : (l.summed f).history account = (history l account).map fun e =>
      { e with id := none, amount := f e.amount } := by
    rw [history, summed, List.filter_map]
    rfl
  have hcounted : ∀ start,
      (l.summed f).counted account now start = (l.counted account now start).map f := by
    intro start
    rw [counted, hhistory, List.filter_map, counted, List.map_map, List.map_map]
    rfl
  have hsince : ∀ start,
      (l.summed f).totalSince account now start = (l.totalSince account now start).map f := by
    intro start
    rw [totalSince_eq, totalSince_eq, hcounted, hf]
    cases Amount.sum? (l.counted account now start) <;> rfl
  have hzero : f Amount.zero = Amount.zero := Option.some.inj (hf []).symm
  cases span with
  | none => exact hsince none
  | some w =>
    rw [total, total, windowTotal, windowTotal, hhistory, List.isEmpty_map]
    split_ifs
    · rw [Except.map, hzero]
    · cases w.start? now with
      | none => rfl
      | some start => exact hsince (some start)

/-- A text that is read, and the text of its ledger: both hold the same entries, and whatever is
loaded from them yields the same totals. Identifiers that the first text leaves out are drawn when
it is read. -/
theorem read_again {s : String} {l : Ledger} (h : read s = .ok l) (draw : Nat → EntryId) :
    read (l.withIds draw).toJson.compact = .ok (l.withIds draw).unsigned ∧
    read (l.withIds draw).toJson.pretty = .ok (l.withIds draw).unsigned ∧
    ∀ k : Ledger, ∃ k₁ k₂ : Ledger,
      k.load s = .ok k₁ ∧ k.load (l.withIds draw).toJson.compact = .ok k₂ ∧
      ∀ account now span,
        (k₂.total account now span).map Amount.unsigned =
          (k₁.total account now span).map Amount.unsigned ∧
        (l.unsigned = l → k₂.total account now span = k₁.total account now span) := by
  have hcompact := ((l.withIds draw).reads).compact
  refine ⟨hcompact, ((l.withIds draw).reads).pretty, fun k => ?_⟩
  refine ⟨k.recordAll l.entries, k.recordAll (l.withIds draw).unsigned.entries,
    bind_eq_ok.mpr ⟨l, h, rfl⟩, bind_eq_ok.mpr ⟨_, hcompact, rfl⟩, fun account now span => ⟨?_, ?_⟩⟩
  · have hsame : (l.withIds draw).unsigned.summed Amount.unsigned = l.summed Amount.unsigned := by
      rw [summed_unsigned, summed_withIds]
      rfl
    rw [← total_summed Amount.sum?_unsigned, ← total_summed Amount.sum?_unsigned, summed_recordAll,
      summed_recordAll, hsame]
  · intro hl
    have hsame : (l.withIds draw).unsigned.summed id = l.summed id := by
      rw [summed_unsigned, summed_withIds, ← summed_unsigned, hl]
    have hid := total_summed (f := id) (by simp)
    have hmap : ∀ x : Except StoreFault Amount, x.map id = x := fun x => by cases x <;> rfl
    simp only [hmap] at hid
    rw [← hid, ← hid (k.recordAll l.entries), summed_recordAll, summed_recordAll, hsame]

theorem read_again_of_spelling :
    let spelled := "\x7b\"entries\":[\x7b" ++
      "\"account_id\":\"\x7b6F1C1D3E-8A2B-4C1E-9D3F-2A4B5C6D7E8F\x7d\"," ++
      "\"amount\":\"12.50\",\"created_at\":\"2026-01-15 12:30:00.25+02:30\"\x7d]\x7d"
    let canonical := "\x7b\"entries\":[\x7b\"id\":\"00000000-0000-0000-0000-000000000000\"," ++
      "\"account_id\":\"6f1c1d3e-8a2b-4c1e-9d3f-2a4b5c6d7e8f\",\"amount\":\"12.50\"," ++
      "\"status\":\"SUCCESS\",\"created_at\":\"2026-01-15T10:00:00.250Z\"\x7d]\x7d"
    let drawn : EntryId := ⟨⟨0, by decide⟩⟩
    ∃ l, read spelled = .ok l ∧ read canonical = .ok (l.withIds fun _ => drawn).unsigned := by
  intro spelled canonical drawn
  have htext : (read spelled).map (fun l => (l.withIds fun _ => drawn).toJson.compact) =
      .ok canonical := by
    decide +kernel
  obtain ⟨l, hread, hcanonical⟩ := map_eq_ok.mp htext
  refine ⟨l, hread, ?_⟩
  rw [← hcanonical]
  exact (read_again hread _).1

/-- A zero that is left of a number below zero has its minus in the total of the first text and has
lost it in the total of the second. -/
theorem read_again_loses_minus :
    ¬∀ s l draw k₁ k₂ account now span, read s = .ok l → empty.load s = .ok k₁ →
      empty.load (l.withIds draw).toJson.compact = .ok k₂ →
      k₂.total account now span = k₁.total account now span := by
  intro h
  let drawn : EntryId := ⟨⟨1, by decide⟩⟩
  let account : AccountId := ⟨⟨0x6f1c1d3e8a2b4c1e9d3f2a4b5c6d7e8f, by decide⟩⟩
  let now : Time.Instant := ⟨1768471200, 0, by decide, by decide, by decide, by decide⟩
  let text := "\x7b\"entries\":[\x7b\"id\":\"00000000-0000-0000-0000-000000000001\"," ++
    "\"account_id\":\"6f1c1d3e-8a2b-4c1e-9d3f-2a4b5c6d7e8f\",\"amount\":\"-0.4e-28\"," ++
    "\"created_at\":\"2026-01-15T10:00:00Z\"\x7d]\x7d"
  have hdiffer : (read text).map (fun l =>
      let again := (l.withIds fun _ => drawn).unsigned
      decide ((empty.recordAll again.entries).total account now none =
        (empty.recordAll l.entries).total account now none)) = .ok false := by
    decide +kernel
  obtain ⟨l, hread, hne⟩ := map_eq_ok.mp hdiffer
  have hagain := ((l.withIds fun _ => drawn).reads).compact
  exact of_decide_eq_false hne (h _ l _ _ _ account now none hread
    (bind_eq_ok.mpr ⟨l, hread, rfl⟩) (bind_eq_ok.mpr ⟨_, hagain, rfl⟩))

end Ledger

end SpendingLimits
