import Mathlib.Algebra.BigOperators.Group.List.Lemmas
import SpendingLimits.Codec.Document
import SpendingLimits.Proofs.Ledger.Order
import SpendingLimits.Service

namespace SpendingLimits

theorem EntryStatus.counts_iff {s : EntryStatus} : s.counts = true ↔ s ≠ .failed := by
  cases s <;> simp [counts]

namespace Entry

/-- The entry is one of the account and counts in a span that ends at a time. It may lie at either
end of the span; a span of all time has no beginning. -/
structure FallsIn (e : Entry) (account : AccountId) (now : Time.Instant) (span : Option Window) :
    Prop where
  account_eq : e.account = account
  not_failed : e.status ≠ .failed
  le_now : e.createdAt ≤ now
  start_le : ∀ start ∈ span.bind (·.start? now), start ≤ e.createdAt

variable {e : Entry} {account : AccountId} {now : Time.Instant} {span : Option Window}

/-- What counts in any span counts over all time. -/
theorem FallsIn.allTime (h : e.FallsIn account now span) : e.FallsIn account now none :=
  ⟨h.account_eq, h.not_failed, h.le_now, by simp⟩

theorem fallsIn_iff :
    e.FallsIn account now span ↔
      e.account = account ∧ Ledger.isCounted now (span.bind (·.start? now)) e = true := by
  have hstart : ((span.bind (·.start? now)).all fun t => decide (t ≤ e.createdAt)) = true ↔
      ∀ start ∈ span.bind (·.start? now), start ≤ e.createdAt := by
    cases span.bind (·.start? now) <;> simp
  rw [Ledger.isCounted, Bool.and_eq_true, Bool.and_eq_true, EntryStatus.counts_iff,
    decide_eq_true_iff, hstart]
  constructor
  · rintro ⟨haccount, hstatus, hnow, hbegin⟩
    exact ⟨haccount, ⟨hstatus, hnow⟩, hbegin⟩
  · rintro ⟨haccount, ⟨hstatus, hnow⟩, hbegin⟩
    exact ⟨haccount, hstatus, hnow, hbegin⟩

instance : Decidable (e.FallsIn account now span) := decidable_of_iff _ fallsIn_iff.symm

end Entry

namespace Ledger

/-- The amounts of the entries that fall in a span, in order. -/
def amountsIn (es : List Entry) (account : AccountId) (now : Time.Instant)
    (span : Option Window) : List Amount :=
  (es.filter fun e => e.FallsIn account now span).map (·.amount)

theorem amountsIn_cons (e : Entry) (es : List Entry) (account : AccountId) (now : Time.Instant)
    (span : Option Window) :
    amountsIn (e :: es) account now span =
      if e.FallsIn account now span then e.amount :: amountsIn es account now span
      else amountsIn es account now span := by
  by_cases h : e.FallsIn account now span <;> simp [amountsIn, h]

theorem counted_eq_amountsIn (l : Ledger) (account : AccountId) (now : Time.Instant)
    (span : Option Window) :
    l.counted account now (span.bind (·.start? now)) = amountsIn l.entries account now span := by
  rw [counted, history, List.filter_filter, amountsIn]
  congr 2
  funext e
  rw [Bool.eq_iff_iff, Bool.and_eq_true, decide_eq_true_iff, beq_iff_eq, Entry.fallsIn_iff]
  exact and_comm

theorem amountsIn_sublist (es : List Entry) (account : AccountId) (now : Time.Instant)
    (span : Option Window) :
    (amountsIn es account now span).Sublist (amountsIn es account now none) := by
  have hfilter : (es.filter fun e => e.FallsIn account now span).Sublist
      (es.filter fun e => e.FallsIn account now none) := by
    apply List.monotone_filter_right
    intro e he
    exact decide_eq_true (of_decide_eq_true he).allTime
  exact hfilter.map _

/-- What falls in a span has an exact sum as long as the sum of what counts over all time fits a
mantissa. -/
theorem sum?_amountsIn {es : List Entry} {account : AccountId} {now : Time.Instant}
    (h : Amount.exactMantissa (amountsIn es account now none) < 2 ^ 96) (span : Option Window) :
    ∃ t, Amount.sum? (amountsIn es account now span) = some t ∧
      t.units = Amount.exactSum (amountsIn es account now span) := by
  have hsub := amountsIn_sublist es account now span
  apply Amount.sum?_exact (Amount.finestScale_le (amountsIn es account now none))
  · intro a ha
    exact Amount.scale_le_finestScale (hsub.subset ha)
  · exact Nat.lt_of_le_of_lt (Amount.exactSum_sublist_le hsub)
      (Amount.exactSum_lt_of_exactMantissa h)

theorem total_of_history_nil {l : Ledger} {account : AccountId} (h : l.history account = [])
    (now : Time.Instant) (span : Option Window) :
    l.total account now span = .ok Amount.zero := by
  have hempty : empty.total account now span = .ok Amount.zero := by cases span <;> rfl
  rw [← hempty]
  exact total_of_history_eq h now span

/-- Account by account, the entries of a ledger are all its entries. -/
theorem sum_history_length (l : Ledger) :
    ((l.entries.map (·.account)).dedup.map fun account => (l.history account).length).sum =
      l.size := by
  have hcount : ∀ account, (l.history account).length =
      (l.entries.map (·.account)).count account := by
    intro account
    rw [history, ← List.countP_eq_length_filter, List.count, List.countP_map]
    rfl
  simp only [hcount, List.sum_map_count_dedup_eq_length, List.length_map]
  rfl

/-- A call that changes a ledger. -/
inductive Call where
  | record (e : Entry)
  | recordAll (es : List Entry)
  | load (text : String)

/-- The entries that a call records: a text that has a fault records none. -/
def Call.entries : Call → List Entry
  | .record e => [e]
  | .recordAll es => es
  | .load text => (read text).toOption.elim [] (·.entries)

def afterCall (l : Ledger) : Call → Ledger
  | .record e => l.record e
  | .recordAll es => l.recordAll es
  | .load text => (l.load text).toOption.getD l

def afterCalls (l : Ledger) (calls : List Call) : Ledger := calls.foldl afterCall l

theorem load_eq_error {l : Ledger} {text : String} {why : Json.Fault}
    (h : read text = .error why) :
    l.load text = .error why ∧ l.afterCall (.load text) = l := by
  have hload : l.load text = .error why := by
    rw [load, h]
    rfl
  refine ⟨hload, ?_⟩
  rw [afterCall, hload]
  rfl

theorem load_eq_ok {l document : Ledger} {text : String} (h : read text = .ok document) :
    l.load text = .ok (l.recordAll document.entries) ∧
      l.afterCall (.load text) = l.recordAll document.entries := by
  have hload : l.load text = .ok (l.recordAll document.entries) := by
    rw [load, h]
    rfl
  refine ⟨hload, ?_⟩
  rw [afterCall, hload]
  rfl

theorem entries_afterCall (l : Ledger) (c : Call) :
    (l.afterCall c).entries = l.entries ++ c.entries := by
  cases c with
  | record e => rfl
  | recordAll es => exact l.recordAll_entries es
  | load text =>
    cases h : read text with
    | error why =>
      rw [(load_eq_error h).2, Call.entries, h]
      exact (List.append_nil _).symm
    | ok document =>
      rw [(load_eq_ok h).2, Call.entries, h]
      exact l.recordAll_entries document.entries

theorem entries_afterCalls (l : Ledger) (calls : List Call) :
    (l.afterCalls calls).entries = l.entries ++ calls.flatMap Call.entries := by
  induction calls generalizing l with
  | nil => exact (List.append_nil _).symm
  | cons c calls ih =>
    rw [List.flatMap_cons, ← List.append_assoc, ← entries_afterCall]
    exact ih (l.afterCall c)

/-- Totals after any calls. They are the exact sums of the recorded entries that fall in their spans
as long as what counts over all time fits a mantissa at its finest scale; an account of which
nothing was recorded has used nothing; a usage is gathered from the four totals as sources read them
at that time, and fails as the first of them that does; and the size counts every recorded entry,
account by account. -/
theorem totals_exact (calls : List Call) (account : AccountId) (now : Time.Instant) :
    let l := empty.afterCalls calls
    let recorded := calls.flatMap Call.entries
    (Window.AllBegin now → Amount.exactMantissa (amountsIn recorded account now none) < 2 ^ 96 →
      ∀ span, ∃ t, l.total account now span = .ok t ∧
        t.units = Amount.exactSum (amountsIn recorded account now span)) ∧
    ((∀ e ∈ recorded, e.account ≠ account) → ∀ span, l.total account now span = .ok Amount.zero) ∧
    (∀ store, let s := Sources.ofMemory store l now
      (∀ u, l.usage account now = .ok u ↔
        (∀ w, s.windowTotal w account = .ok (u.total w)) ∧ s.allTimeTotal account = .ok u.allTime) ∧
      ∀ why, l.usage account now = .error why ↔
        (fault? (s.windowTotal .daily account)).or ((fault? (s.windowTotal .weekly account)).or
          ((fault? (s.windowTotal .monthly account)).or (fault? (s.allTimeTotal account)))) =
          some why) ∧
    l.size = recorded.length ∧
    ((recorded.map (·.account)).dedup.map fun account => (l.history account).length).sum =
      l.size := by
  intro l recorded
  have hentries : l.entries = recorded := by
    rw [entries_afterCalls]
    rfl
  refine ⟨fun hb hfits span => ?_, fun hnone span => ?_, fun store => ⟨fun u => ?_, fun why => ?_⟩,
    ?_, ?_⟩
  · obtain ⟨t, ht, hexact⟩ := sum?_amountsIn hfits span
    refine ⟨t, ?_, hexact⟩
    rwa [total_eq l account hb, totalSince_eq_ok, counted_eq_amountsIn, hentries]
  · apply total_of_history_nil
    rw [history, hentries, List.filter_eq_nil_iff]
    intro e he
    simpa using hnone e he
  · exact usage_eq_ok
  · exact Usage.gather_eq_error (fun w => l.windowTotal w account now) (l.allTimeTotal account now)
  · rw [size, hentries]
  · rw [← hentries]
    exact l.sum_history_length

/-- Entries of different scales at both ends of the day, one before it, one that has failed, one
ahead of the clock, one of another account, and a text that breaks off. -/
theorem totals_exact_of_mixed_run :
    let account : AccountId := ⟨⟨1, by decide⟩⟩
    let other : AccountId := ⟨⟨2, by decide⟩⟩
    let instant (second : Int) (h : Time.firstSecond ≤ second ∧ second ≤ Time.lastSecond) :
      Time.Instant := ⟨second, 0, h.1, h.2, by decide, fun hleap => absurd hleap (by decide)⟩
    let now := instant 0 (by decide)
    let ten : Amount := ⟨10, 0, false, by decide, by decide, by decide⟩
    let tenth : Amount := ⟨1, 1, false, by decide, by decide, by decide⟩
    let fine : Amount := ⟨12500, 4, false, by decide, by decide, by decide⟩
    let entry (owner : AccountId) (a : Amount) (s : EntryStatus) (t : Time.Instant) : Entry :=
      ⟨none, owner, a, ⟨none, none⟩, s, t⟩
    let calls : List Call := [.record (entry account tenth .success (instant (-86400) (by decide))),
      .recordAll [entry account ten .failed now, entry account ten .success (instant 1 (by decide)),
        entry account fine .pending now, entry other ten .success now],
      .load "\x7b\"entries\":[\x7b",
      .record (entry account ten .success (instant (-86401) (by decide)))]
    let l := empty.afterCalls calls
    let recorded := calls.flatMap Call.entries
    Window.AllBegin now ∧ Amount.exactMantissa (amountsIn recorded account now none) = 113500 ∧
      amountsIn recorded account now (some .daily) = [tenth, fine] ∧
      amountsIn recorded account now (some .weekly) = [tenth, fine, ten] ∧ l.size = 6 ∧
      ∃ t, l.total account now (some .daily) = .ok t ∧
        t.units = Amount.exactSum (amountsIn recorded account now (some .daily)) := by
  intro account other instant now ten tenth fine entry calls l recorded
  have hb : Window.AllBegin now := by intro w; cases w <;> decide
  have hall : Amount.exactMantissa (amountsIn recorded account now none) = 113500 := by
    decide +kernel
  have hmain := totals_exact calls account now
  refine ⟨hb, hall, by decide +kernel, by decide +kernel, ?_, ?_⟩
  · rw [hmain.2.2.2.1]
    decide +kernel
  · exact hmain.1 hb (by rw [hall]; decide) (some .daily)

end Ledger

end SpendingLimits
