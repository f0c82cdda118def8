import SpendingLimits.Ledger
import SpendingLimits.Proofs.Amount.Sum
import SpendingLimits.Proofs.Outcome
import SpendingLimits.Proofs.Time.Passing

namespace SpendingLimits

/-- Every window that ends now begins at an instant. -/
def Window.AllBegin (now : Time.Instant) : Prop := ∀ w : Window, (w.start? now).isSome = true

theorem Window.AllBegin.exists_start {now : Time.Instant} (h : AllBegin now) (w : Window) :
    ∃ start, w.start? now = some start :=
  Option.isSome_iff_exists.mp (h w)

/-- A span that ends now begins at an instant, unless it has no beginning. -/
def Window.SpanBegins (now : Time.Instant) (span : Option Window) : Prop :=
  ∀ w ∈ span, (w.start? now).isSome = true

instance (now : Time.Instant) (span : Option Window) : Decidable (Window.SpanBegins now span) :=
  inferInstanceAs (Decidable (∀ w ∈ span, (w.start? now).isSome = true))

/-- A usage is gathered when every total is there. -/
theorem Usage.gather_eq_ok {F : Type} (window : Window → Except F Amount)
    (allTime : Except F Amount) {u : Usage} :
    (do
      let daily ← window .daily
      let weekly ← window .weekly
      let monthly ← window .monthly
      let total ← allTime
      return (⟨daily, weekly, monthly, total⟩ : Usage)) = Except.ok u ↔
      (∀ w, window w = .ok (u.total w)) ∧ allTime = .ok u.allTime := by
  simp only [bind_eq_ok]
  constructor
  · intro h
    obtain ⟨d, hd, w, hw, m, hm, t, ht, hu⟩ := h
    obtain rfl := Except.ok.inj hu
    refine ⟨fun v => ?_, ht⟩
    cases v with
    | daily => exact hd
    | weekly => exact hw
    | monthly => exact hm
  · intro h
    obtain ⟨hw, ht⟩ := h
    exact ⟨_, hw .daily, _, hw .weekly, _, hw .monthly, _, ht, rfl⟩

/-- A usage that is not gathered fails as the first total that is not there. -/
theorem Usage.gather_eq_error {F : Type} (window : Window → Except F Amount)
    (allTime : Except F Amount) {why : F} :
    (do
      let daily ← window .daily
      let weekly ← window .weekly
      let monthly ← window .monthly
      let total ← allTime
      return (⟨daily, weekly, monthly, total⟩ : Usage)) = Except.error why ↔
      (fault? (window .daily)).or ((fault? (window .weekly)).or
        ((fault? (window .monthly)).or (fault? allTime))) = some why := by
  rw [← fault?_eq_some, ← Option.or_none (o := fault? allTime)]
  apply Eq.congr_left
  exact fault?_bind fun _ _ => fault?_bind fun _ _ => fault?_bind fun _ _ =>
    fault?_bind fun _ _ => rfl

namespace Ledger

/-- The total of an account in a window, or over all time. -/
def total (l : Ledger) (account : AccountId) (now : Time.Instant) :
    Option Window → Except StoreFault Amount
  | some w => l.windowTotal w account now
  | none => l.allTimeTotal account now

/-- The amounts of an account that count at a time, in the order of recording. -/
def counted (l : Ledger) (account : AccountId) (now : Time.Instant) (start : Option Time.Instant) :
    List Amount :=
  ((l.history account).filter (isCounted now start)).map (·.amount)

/-- Two totals that are there and have one value, or fail for one reason. -/
def Agree : Except StoreFault Amount → Except StoreFault Amount → Prop
  | .ok s, .ok t => s.units = t.units
  | .error d, .error e => d = e
  | _, _ => False

theorem totalSince_eq (l : Ledger) (account : AccountId) (now : Time.Instant)
    (start : Option Time.Instant) :
    l.totalSince account now start =
      match Amount.sum? (l.counted account now start) with
      | some total => .ok total
      | none => .error (.storage (.totalOverflow account)) := rfl

theorem totalSince_eq_ok {l : Ledger} {account : AccountId} {now : Time.Instant}
    {start : Option Time.Instant} {t : Amount} :
    l.totalSince account now start = .ok t ↔
      Amount.sum? (l.counted account now start) = some t := by
  rw [totalSince_eq]
  cases Amount.sum? (l.counted account now start) <;> simp

theorem totalSince_eq_error {l : Ledger} {account : AccountId} {now : Time.Instant}
    {start : Option Time.Instant} {why : StoreFault} :
    l.totalSince account now start = .error why ↔
      Amount.sum? (l.counted account now start) = none ∧
        why = .storage (.totalOverflow account) := by
  rw [totalSince_eq]
  cases Amount.sum? (l.counted account now start) <;> simp [eq_comm]

/-- An account without history counts nothing, so its window may be taken to begin anywhere. -/
theorem windowTotal_eq {l : Ledger} {account : AccountId} {now start : Time.Instant} {w : Window}
    (h : w.start? now = some start) :
    l.windowTotal w account now = l.totalSince account now (some start) := by
  rw [windowTotal, h]
  split_ifs with hnone
  · symm
    rw [totalSince_eq_ok, counted, List.isEmpty_iff.mp hnone]
    rfl
  · rfl

theorem total_eq_of_begins (l : Ledger) (account : AccountId) {now : Time.Instant}
    {span : Option Window} (h : Window.SpanBegins now span) :
    l.total account now span = l.totalSince account now (span.bind (·.start? now)) := by
  cases span with
  | none => rfl
  | some w =>
    obtain ⟨start, hs⟩ := Option.isSome_iff_exists.mp (h w rfl)
    rw [total, windowTotal_eq hs, Option.bind_some, hs]

theorem total_eq (l : Ledger) (account : AccountId) {now : Time.Instant} (h : Window.AllBegin now)
    (span : Option Window) :
    l.total account now span = l.totalSince account now (span.bind (·.start? now)) :=
  l.total_eq_of_begins account fun w _ => h w

/-- Without an instant to begin at, a total is there only for an account without history. -/
theorem total_of_not_begins (l : Ledger) (account : AccountId) {now : Time.Instant}
    {span : Option Window} (h : ¬Window.SpanBegins now span) :
    l.total account now span =
      if l.history account = [] then .ok Amount.zero else .error .windowStart := by
  cases span with
  | none => exact absurd (fun w hw => by cases hw) h
  | some w =>
    have hstart : w.start? now = none := by
      cases hs : w.start? now with
      | none => rfl
      | some start =>
        refine absurd (fun v hv => ?_) h
        obtain rfl : w = v := Option.some.inj hv
        rw [hs]
        rfl
    rw [total, windowTotal, hstart]
    simp only [List.isEmpty_iff]

/-- A total is made from the history of its account alone. -/
theorem total_of_history_eq {l k : Ledger} {account : AccountId}
    (h : l.history account = k.history account) (now : Time.Instant) (span : Option Window) :
    l.total account now span = k.total account now span := by
  cases span with
  | none => rw [total, total, allTimeTotal, allTimeTotal, totalSince, totalSince, h]
  | some w => simp only [total, windowTotal, totalSince, h]

theorem counted_sublist {l : Ledger} {account : AccountId} {now later : Time.Instant}
    {start since : Option Time.Instant}
    (h : ∀ e ∈ l.history account, isCounted later since e = true → isCounted now start e = true) :
    (l.counted account later since).Sublist (l.counted account now start) := by
  have hfilter : (l.history account).filter (isCounted later since) =
      ((l.history account).filter (isCounted now start)).filter (isCounted later since) := by
    rw [List.filter_filter]
    apply List.filter_congr
    intro e he
    cases hc : isCounted later since e with
    | false => rfl
    | true => rw [h e he hc]; rfl
  rw [counted, counted, hfilter]
  exact List.filter_sublist.map _

/-- What counts goes on counting at a later time and over a longer span. -/
theorem isCounted_mono {now later : Time.Instant} {start since : Option Time.Instant} {e : Entry}
    (hnow : now ≤ later) (hstart : ∀ t ∈ start, ∃ s ∈ since, t ≤ s)
    (he : isCounted now since e = true) : isCounted later start e = true := by
  simp only [isCounted, Bool.and_eq_true, decide_eq_true_eq] at he ⊢
  obtain ⟨⟨hcounts, hpast⟩, hsince⟩ := he
  refine ⟨⟨hcounts, Time.Instant.le_trans hpast hnow⟩, ?_⟩
  cases start with
  | none => rfl
  | some t =>
    obtain ⟨s, hs, hts⟩ := hstart t rfl
    rw [Option.mem_def.mp hs, Option.all_some, decide_eq_true_eq] at hsince
    rw [Option.all_some, decide_eq_true_eq]
    exact Time.Instant.le_trans hts hsince

theorem counted_sublist_mono (l : Ledger) (account : AccountId) {now later : Time.Instant}
    {start since : Option Time.Instant} (hnow : now ≤ later)
    (hstart : ∀ t ∈ start, ∃ s ∈ since, t ≤ s) :
    (l.counted account now since).Sublist (l.counted account later start) := by
  apply counted_sublist
  intro e _ he
  exact isCounted_mono hnow hstart he

/-- A total that is there over all time is there in every span, and not larger. -/
theorem totalSince_of_allTime {l : Ledger} {account : AccountId} {now : Time.Instant} {t : Amount}
    (h : l.allTimeTotal account now = .ok t) (start : Option Time.Instant) :
    ∃ s, l.totalSince account now start = .ok s ∧ s ≤ t := by
  have hsub : (l.counted account now start).Sublist (l.counted account now none) :=
    l.counted_sublist_mono account (Time.Instant.le_refl now) (by simp)
  obtain ⟨s, hs, hst⟩ := Amount.sum?_sublist hsub (totalSince_eq_ok.mp h)
  exact ⟨s, totalSince_eq_ok.mpr hs, hst⟩

theorem windowTotal_of_allTime {l : Ledger} {account : AccountId} {now : Time.Instant} {t : Amount}
    (hb : Window.AllBegin now) (h : l.allTimeTotal account now = .ok t) (w : Window) :
    ∃ s, l.windowTotal w account now = .ok s ∧ s ≤ t := by
  obtain ⟨start, hs⟩ := hb.exists_start w
  rw [windowTotal_eq hs]
  exact totalSince_of_allTime h (some start)

/-- As the clock passes, entries only leave a window, unless some lay ahead of the clock. -/
theorem windowTotal_of_passesTo {l : Ledger} {account : AccountId} {now later : Time.Instant}
    {w : Window} {t : Amount} (hpast : ∀ e ∈ l.history account, e.createdAt ≤ now)
    (hb : Window.AllBegin now) (hb' : Window.AllBegin later) (hpass : now.PassesTo later)
    (h : l.windowTotal w account now = .ok t) :
    ∃ s, l.windowTotal w account later = .ok s ∧ s ≤ t := by
  obtain ⟨start, hs⟩ := hb.exists_start w
  obtain ⟨since, hr⟩ := hb'.exists_start w
  have hstart : start ≤ since := (Window.start_le_iff hpass.le hs hr).mpr hpass
  have hsub : (l.counted account later (some since)).Sublist
      (l.counted account now (some start)) := by
    -- What counts later is not ahead of the clock now, and the window begins no later now.
    apply counted_sublist
    intro e he hc
    simp only [isCounted, Bool.and_eq_true, decide_eq_true_eq, Option.all_some] at hc ⊢
    exact ⟨⟨hc.1.1, hpast e he⟩, Time.Instant.le_trans hstart hc.2⟩
  rw [windowTotal_eq hs, totalSince_eq_ok] at h
  rw [windowTotal_eq hr]
  obtain ⟨s, hsum, hst⟩ := Amount.sum?_sublist hsub h
  exact ⟨s, totalSince_eq_ok.mpr hsum, hst⟩

theorem history_record (l : Ledger) (e : Entry) (account : AccountId) :
    (l.record e).history account =
      l.history account ++ if e.account = account then [e] else [] := by
  rw [history, record, List.filter_append]
  simp only [List.filter_cons, List.filter_nil, beq_iff_eq]
  rfl

theorem history_record_of_ne (l : Ledger) {e : Entry} {account : AccountId}
    (h : e.account ≠ account) : (l.record e).history account = l.history account := by
  rw [history_record, if_neg h, List.append_nil]

theorem history_record_ne_nil {l : Ledger} {account : AccountId} (h : l.history account ≠ [])
    (e : Entry) : (l.record e).history account ≠ [] := by
  rw [history_record]
  exact List.append_ne_nil_of_left_ne_nil h _

theorem windowTotal_record_of_ne (l : Ledger) {e : Entry} {account : AccountId} (w : Window)
    (now : Time.Instant) (h : e.account ≠ account) :
    (l.record e).windowTotal w account now = l.windowTotal w account now :=
  total_of_history_eq (history_record_of_ne l h) now (some w)

theorem counted_record (l : Ledger) {e : Entry} {account : AccountId} (now : Time.Instant)
    (start : Option Time.Instant) (h : e.account = account) :
    (l.record e).counted account now start =
      l.counted account now start ++ if isCounted now start e then [e.amount] else [] := by
  rw [counted, history_record, if_pos h, List.filter_append, List.map_append]
  cases hc : isCounted now start e <;> simp [counted, hc]

theorem windowTotal_record_le {l : Ledger} {e : Entry} {account : AccountId} {w : Window}
    {now : Time.Instant} {t s : Amount} (hb : Window.AllBegin now) (haccount : e.account = account)
    (h : l.windowTotal w account now = .ok t) (hs : Amount.add? t e.amount = some s) :
    ∃ r, (l.record e).windowTotal w account now = .ok r ∧ r ≤ s := by
  obtain ⟨start, hstart⟩ := hb.exists_start w
  rw [windowTotal_eq hstart, totalSince_eq_ok] at h
  rw [windowTotal_eq hstart]
  simp only [totalSince_eq_ok, counted_record l now _ haccount]
  split_ifs
  · exact ⟨s, by rw [Amount.sum?_concat, h, Option.bind_some, hs], Nat.le_refl _⟩
  · exact ⟨t, by rw [List.append_nil, h], Amount.le_add? hs⟩

theorem usage_eq_ok {l : Ledger} {account : AccountId} {now : Time.Instant} {u : Usage} :
    l.usage account now = .ok u ↔
      (∀ w, l.windowTotal w account now = .ok (u.total w)) ∧
        l.allTimeTotal account now = .ok u.allTime :=
  Usage.gather_eq_ok (fun w => l.windowTotal w account now) (l.allTimeTotal account now)

theorem usage_of_allTimeTotal {l : Ledger} {account : AccountId} {now : Time.Instant} {t : Amount}
    (hb : Window.AllBegin now) (h : l.allTimeTotal account now = .ok t) :
    ∃ u, l.usage account now = .ok u ∧ u.allTime = t := by
  obtain ⟨d, hd, _⟩ := windowTotal_of_allTime hb h .daily
  obtain ⟨w, hw, _⟩ := windowTotal_of_allTime hb h .weekly
  obtain ⟨m, hm, _⟩ := windowTotal_of_allTime hb h .monthly
  refine ⟨⟨d, w, m, t⟩, usage_eq_ok.mpr ⟨fun v => ?_, h⟩, rfl⟩
  cases v
  · exact hd
  · exact hw
  · exact hm

theorem total_eq_error {l : Ledger} {account : AccountId} {now : Time.Instant} {why : StoreFault}
    (hb : Window.AllBegin now) (span : Option Window) (h : l.total account now span = .error why) :
    why = .storage (.totalOverflow account) := by
  rw [total_eq l account hb] at h
  exact (totalSince_eq_error.mp h).2

/-- Whichever total fails first, the fault is the same. -/
theorem usage_of_allTimeTotal_error {l : Ledger} {account : AccountId} {now : Time.Instant}
    {why : StoreFault} (hb : Window.AllBegin now) (h : l.allTimeTotal account now = .error why) :
    l.usage account now = .error why := by
  have hwhy : why = .storage (.totalOverflow account) := total_eq_error hb none h
  have hwindow (w : Window) {later : Option StoreFault} (hlater : later = some why) :
      (fault? (l.windowTotal w account now)).or later = some why := by
    cases ho : l.windowTotal w account now with
    | ok t => exact hlater
    | error other =>
      rw [hwhy]
      exact congrArg some (total_eq_error hb (some w) ho)
  have hlast : fault? (l.allTimeTotal account now) = some why := fault?_eq_some.mpr h
  exact (Usage.gather_eq_error (fun w => l.windowTotal w account now) _).mpr
    (hwindow .daily (hwindow .weekly (hwindow .monthly hlast)))

end Ledger

end SpendingLimits
