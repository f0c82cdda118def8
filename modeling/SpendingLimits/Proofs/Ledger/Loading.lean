import SpendingLimits.Proofs.Json.Record
import SpendingLimits.Proofs.Ledger.Contents

namespace SpendingLimits.Ledger

open Json

def itemsOf : Option Json → List Json
  | some (.array items) => items
  | _ => []

/-- The values that a document lists as its entries: in the field of that name or, in a document
that is an array of its fields, in the first one. -/
def listed : Json → List Json
  | .object fields => itemsOf (fields.lookup (some "entries"))
  | .array items => itemsOf items.head?
  | _ => []

theorem lookup_nameItems (items : List Json) :
    (Record.nameItems ["entries"] items).lookup (some "entries") = items.head? := by
  cases items <;> rfl

theorem build_listed {fs : List (String × Json)} {l : Ledger} (h : layout.build fs = .ok l) :
    List.Forall₂ (fun v e => Entry.ofJson v = .ok e) (itemsOf (fs.lookup "entries")) l.entries := by
  obtain ⟨es, hes, rfl⟩ := map_eq_ok.mp h
  simp only [Record.optional] at hes
  cases hentries : fs.lookup "entries" with
  | none =>
    rw [hentries] at hes
    obtain rfl := Except.ok.inj hes
    exact .nil
  | some v =>
    rw [hentries] at hes
    cases v with
    | array items => exact mapM_eq_ok.mp hes
    | _ => cases hes

theorem visit_build_listed {fields : List (Option String × Json)} {l : Ledger}
    (h : (do layout.build (← Record.visit layout.known [] fields)) = .ok l) :
    List.Forall₂ (fun v e => Entry.ofJson v = .ok e) (itemsOf (fields.lookup (some "entries")))
      l.entries := by
  obtain ⟨fs, hvisit, hbuild⟩ := bind_eq_ok.mp h
  rw [← Record.lookup_visit rfl hvisit]
  exact build_listed hbuild

/-- Every value that a document lists is an entry of its ledger, in the same order. -/
theorem ofJson_listed {v : Json} {l : Ledger} (h : ofJson v = .ok l) :
    List.Forall₂ (fun v e => Entry.ofJson v = .ok e) (listed v) l.entries := by
  cases v with
  | object fields => exact visit_build_listed h
  | array items =>
    rw [listed, ← lookup_nameItems]
    exact visit_build_listed h
  | _ => cases h

theorem read_listed {text : String} {l : Ledger} (h : read text = .ok l) :
    List.Forall₂ (fun v e => Entry.ofJson v = .ok e) (listed (Json.read text).1) l.entries := by
  obtain ⟨k, hk, hclean⟩ := bind_eq_ok.mp h
  split_ifs at hclean
  obtain rfl := Except.ok.inj hclean
  exact ofJson_listed hk

theorem read_eq_error_of_listed {text : String} {v : Json} {why : Fault}
    (hv : v ∈ listed (Json.read text).1) (h : Entry.ofJson v = .error why) :
    ∃ fault, read text = .error fault := by
  cases hread : read text with
  | error fault => exact ⟨fault, rfl⟩
  | ok l =>
    obtain ⟨e, he⟩ := exists_of_mem_of_forall₂ (read_listed hread) hv
    rw [h] at he
    cases he

/-- A total with one amount more. A fault of the total stays what it is. -/
def plus (account : AccountId) (total : Except StoreFault Amount) (a : Amount) :
    Except StoreFault Amount := do
  match Amount.add? (← total) a with
  | some sum => return sum
  | none => throw (.storage (.totalOverflow account))

theorem totalSince_record (l : Ledger) {e : Entry} {account : AccountId} (now : Time.Instant)
    (start : Option Time.Instant) (h : e.account = account) :
    (l.record e).totalSince account now start =
      if isCounted now start e = true then plus account (l.totalSince account now start) e.amount
      else l.totalSince account now start := by
  simp only [totalSince_eq, counted_record l now start h]
  split_ifs
  · rw [Amount.sum?_concat]
    cases Amount.sum? (l.counted account now start) with
    | none => rfl
    | some t => rfl
  · rw [List.append_nil]

/-- An entry is added to the totals that it falls in and changes no other total. -/
theorem total_record (l : Ledger) (e : Entry) {account : AccountId} {now : Time.Instant}
    {span : Option Window}
    (h : Window.SpanBegins now span ∨ l.history account ≠ [] ∨ e.account ≠ account) :
    (l.record e).total account now span =
      if e.FallsIn account now span then plus account (l.total account now span) e.amount
      else l.total account now span := by
  by_cases haccount : e.account = account
  · by_cases hbegins : Window.SpanBegins now span
    · rw [total_eq_of_begins _ account hbegins, total_eq_of_begins _ account hbegins,
        totalSince_record l now _ haccount]
      simp only [Entry.fallsIn_iff, haccount, true_and]
    · -- Both totals fail, with and without the entry.
      have hhistory : l.history account ≠ [] :=
        (h.resolve_left hbegins).resolve_right (not_not_intro haccount)
      rw [total_of_not_begins _ account hbegins, total_of_not_begins _ account hbegins,
        if_neg hhistory, if_neg (history_record_ne_nil hhistory e)]
      split_ifs <;> rfl
  · rw [if_neg fun hin => haccount hin.account_eq]
    exact total_of_history_eq (history_record_of_ne l haccount) now span

/-- The first entry of an account makes its total fail where the window begins too early, whether or
not the entry counts. -/
theorem total_record_first {l : Ledger} {e : Entry} {now : Time.Instant} {span : Option Window}
    (hbegins : ¬Window.SpanBegins now span) (hhistory : l.history e.account = []) :
    l.total e.account now span = .ok Amount.zero ∧
      (l.record e).total e.account now span = .error .windowStart := by
  have hmore : (l.record e).history e.account ≠ [] := by
    rw [history_record, if_pos rfl, hhistory]
    simp
  rw [total_of_not_begins _ _ hbegins, total_of_not_begins _ _ hbegins, if_pos hhistory,
    if_neg hmore]
  exact ⟨rfl, rfl⟩

/-- Entries are added to a total one after another. -/
theorem total_recordAll (es : List Entry) {l : Ledger} {account : AccountId} {now : Time.Instant}
    {span : Option Window} (h : Window.SpanBegins now span ∨ l.history account ≠ [] ∨
      ∀ e ∈ es, e.account ≠ account) :
    (l.recordAll es).total account now span =
      (amountsIn es account now span).foldl (plus account) (l.total account now span) := by
  induction es generalizing l with
  | nil => rfl
  | cons e es ih =>
    have hstep := l.total_record e (h.imp_right (Or.imp_right fun hother => hother e (by simp)))
    have hlater : Window.SpanBegins now span ∨ (l.record e).history account ≠ [] ∨
        ∀ f ∈ es, f.account ≠ account := by
      refine h.imp_right (Or.imp (fun hhistory => history_record_ne_nil hhistory e) ?_)
      intro hother f hf
      exact hother f (by simp [hf])
    change ((l.record e).recordAll es).total account now span = _
    rw [ih hlater, hstep, amountsIn_cons]
    split_ifs <;> rfl

theorem afterCalls_record (es : List Entry) (l : Ledger) :
    l.afterCalls (es.map .record) = l.recordAll es := by
  rw [afterCalls, List.foldl_map]
  rfl

theorem recordAll_append (l : Ledger) (es fs : List Entry) :
    (l.recordAll es).recordAll fs = l.recordAll (es ++ fs) := List.foldl_append.symm

/-- Loading a text that has a fault, such as one in any entry that it lists, leaves a ledger as it
is. Loading any other text is recording the entries that it lists one by one, and loading two of
them in turn is loading them as one. Recording an entry adds it to the totals that it falls in and
changes no other, and so for many of them, unless the entry is the first of its account and a total
of the account has no instant to begin at: such a total then fails. -/
theorem load_all_or_nothing (l : Ledger) (text : String) :
    (∀ why, read text = .error why →
      l.load text = .error why ∧ l.afterCall (.load text) = l) ∧
    (∀ v ∈ listed (Json.read text).1, ∀ why, Entry.ofJson v = .error why →
      ∃ fault, read text = .error fault) ∧
    (∀ document, read text = .ok document →
      List.Forall₂ (fun v e => Entry.ofJson v = .ok e) (listed (Json.read text).1)
        document.entries ∧
      l.load text = .ok (l.afterCalls (document.entries.map .record)) ∧
      l.afterCall (.load text) = l.afterCalls (document.entries.map .record) ∧
      ∀ later documentLater, read later = .ok documentLater →
        l.afterCalls [.load text, .load later] =
          l.recordAll (document.entries ++ documentLater.entries) ∧
        ∀ both, read both = .ok ⟨document.entries ++ documentLater.entries⟩ →
          l.afterCalls [.load text, .load later] = l.afterCall (.load both)) ∧
    (∀ e account now span,
      (Window.SpanBegins now span ∨ l.history account ≠ [] ∨ e.account ≠ account) →
      (l.record e).total account now span =
        if e.FallsIn account now span then plus account (l.total account now span) e.amount
        else l.total account now span) ∧
    (∀ es account now span,
      (Window.SpanBegins now span ∨ l.history account ≠ [] ∨ ∀ e ∈ es, e.account ≠ account) →
      (l.recordAll es).total account now span =
        (amountsIn es account now span).foldl (plus account) (l.total account now span)) ∧
    ∀ e now span, ¬Window.SpanBegins now span → l.history e.account = [] →
      l.total e.account now span = .ok Amount.zero ∧
        (l.record e).total e.account now span = .error .windowStart := by
  refine ⟨fun why h => load_eq_error h, fun v hv why h => read_eq_error_of_listed hv h,
    fun document h => ⟨read_listed h, ?_, ?_, fun later documentLater hlater => ?_⟩,
    fun e account now span h => l.total_record e h,
    fun es account now span h => total_recordAll es h,
    fun e now span hbegins hhistory => total_record_first hbegins hhistory⟩
  · rw [afterCalls_record]
    exact (load_eq_ok h).1
  · rw [afterCalls_record]
    exact (load_eq_ok h).2
  · have hturn : l.afterCalls [.load text, .load later] =
        l.recordAll (document.entries ++ documentLater.entries) := by
      change (l.afterCall (.load text)).afterCall (.load later) = _
      rw [(load_eq_ok h).2, (load_eq_ok hlater).2, recordAll_append]
    refine ⟨hturn, fun both hboth => ?_⟩
    rw [hturn, (load_eq_ok hboth).2]

/-- One entry is recorded and loaded once more; of two entries in a text the last is negative, so
neither is loaded. -/
theorem load_all_or_nothing_of_negative_entry :
    let account : AccountId := ⟨⟨0x6f1c1d3e8a2b4c1e9d3f2a4b5c6d7e8f, by decide⟩⟩
    let now : Time.Instant :=
      ⟨1768471200, 0, by decide, by decide, by decide, fun hleap => absurd hleap (by decide)⟩
    let five : Amount := ⟨5, 0, false, by decide, by decide, by decide⟩
    let e : Entry := ⟨none, account, five, ⟨none, none⟩, .success, now⟩
    let entry (amount : String) : String :=
      "\x7b\"account_id\":\"6f1c1d3e-8a2b-4c1e-9d3f-2a4b5c6d7e8f\",\"amount\":\"" ++ amount ++
        "\",\"created_at\":\"2026-01-15T10:00:00Z\"\x7d"
    let good := "\x7b\"entries\":[" ++ entry "5" ++ "]\x7d"
    let bad := "\x7b\"entries\":[" ++ entry "5" ++ ",\x7b\"amount\":\"-1\"\x7d]\x7d"
    let l := empty.record e
    read good = .ok ⟨[e]⟩ ∧ l.load good = .ok (l.afterCalls [.record e]) ∧
      l.total account now (some .daily) = .ok five ∧
      (l.record e).total account now (some .daily) = plus account (.ok five) five ∧
      l.afterCall (.load bad) = l := by
  intro account now five e entry good bad l
  have hgood : read good = .ok ⟨[e]⟩ := toOption_eq_some.mp (by decide +kernel)
  have hlisted :
      ((listed (Json.read bad).1).any fun v => (fault? (Entry.ofJson v)).isSome) = true := by
    decide +kernel
  obtain ⟨v, hv, hfault⟩ := List.any_eq_true.mp hlisted
  obtain ⟨why, hwhy⟩ := Option.isSome_iff_exists.mp hfault
  obtain ⟨fault, hbad⟩ := (load_all_or_nothing l bad).2.1 v hv why (fault?_eq_some.mp hwhy)
  have hfive : l.total account now (some .daily) = .ok five := by decide
  obtain ⟨_, _, haccept, hrecord, _⟩ := load_all_or_nothing l good
  refine ⟨hgood, (haccept _ hgood).2.1, hfive, ?_, ((load_all_or_nothing l bad).1 fault hbad).2⟩
  rw [hrecord e account now (some .daily) (.inl (by decide)), if_pos (by decide), hfive]

/-- In the first hours of all time, an entry that has failed makes the total of the day fail. -/
theorem total_changed_by_failed_entry :
    ¬∀ (l : Ledger) (e : Entry) (account : AccountId) (now : Time.Instant) (span : Option Window),
      (l.record e).total account now span =
        if e.FallsIn account now span then plus account (l.total account now span) e.amount
        else l.total account now span := by
  intro h
  let account : AccountId := ⟨⟨1, by decide⟩⟩
  let now : Time.Instant :=
    ⟨Time.firstSecond + 43200, 0, by decide, by decide, by decide, by decide⟩
  let e : Entry := ⟨none, account, Amount.zero, ⟨none, none⟩, .failed, now⟩
  have hlaw := h empty e account now (some .daily)
  have hbefore : empty.total account now (some .daily) = .ok Amount.zero := by decide
  have hafter : (empty.record e).total account now (some .daily) = .error .windowStart := by decide
  rw [if_neg (by decide), hbefore, hafter] at hlaw
  cases hlaw

end SpendingLimits.Ledger
