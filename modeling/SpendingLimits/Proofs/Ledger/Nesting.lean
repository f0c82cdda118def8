import SpendingLimits.Proofs.Ledger.Total

namespace SpendingLimits.Ledger

variable {l : Ledger} {account : AccountId} {now : Time.Instant} {v w : Window} {t : Amount}

theorem windowTotal_of_days_le (hb : Window.AllBegin now) (h : v.days ≤ w.days)
    (ht : l.windowTotal w account now = .ok t) :
    ∃ s, l.windowTotal v account now = .ok s ∧ s ≤ t := by
  obtain ⟨start, hstart⟩ := hb.exists_start w
  obtain ⟨since, hsince⟩ := hb.exists_start v
  have hle : start ≤ since := Window.start_le_start h hstart hsince
  have hsub : (l.counted account now (some since)).Sublist (l.counted account now (some start)) :=
    l.counted_sublist_mono account (Time.Instant.le_refl now) (by simpa using hle)
  rw [windowTotal_eq hstart, totalSince_eq_ok] at ht
  obtain ⟨s, hs, hst⟩ := Amount.sum?_sublist hsub ht
  refine ⟨s, ?_, hst⟩
  rw [windowTotal_eq hsince, totalSince_eq_ok]
  exact hs

theorem usage_eq_error (hb : Window.AllBegin now) {why : StoreFault} :
    l.usage account now = .error why ↔ l.allTimeTotal account now = .error why := by
  constructor
  · intro h
    cases ht : l.allTimeTotal account now with
    | ok t =>
      obtain ⟨u, hu, _⟩ := usage_of_allTimeTotal hb ht
      rw [h] at hu
      cases hu
    | error other =>
      have hother := usage_of_allTimeTotal_error hb ht
      rw [h] at hother
      rw [Except.error.inj hother]
  · exact usage_of_allTimeTotal_error hb

/-- Every total is there when the one over all time is, and no window holds more than a longer one
or than all time. The totals fail together, exactly when the sum over all time is too large. -/
theorem totals_nested (l : Ledger) (account : AccountId) (now : Time.Instant)
    (hb : Window.AllBegin now) :
    (∀ t, l.allTimeTotal account now = .ok t →
      ∃ u, l.usage account now = .ok u ∧ (∀ w, l.windowTotal w account now = .ok (u.total w)) ∧
        u.daily ≤ u.weekly ∧ u.weekly ≤ u.monthly ∧ u.monthly ≤ u.allTime ∧ u.allTime = t) ∧
    ∀ why, l.usage account now = .error why ↔
      Amount.sum? (l.counted account now none) = none ∧
        why = .storage (.totalOverflow account) := by
  constructor
  · intro t ht
    obtain ⟨m, hm, hmt⟩ := windowTotal_of_allTime hb ht .monthly
    obtain ⟨w, hw, hwm⟩ := windowTotal_of_days_le (v := .weekly) hb (by decide) hm
    obtain ⟨d, hd, hdw⟩ := windowTotal_of_days_le (v := .daily) hb (by decide) hw
    have hwindow : ∀ v, l.windowTotal v account now = .ok (Usage.total ⟨d, w, m, t⟩ v) := by
      intro v
      cases v with
      | daily => exact hd
      | weekly => exact hw
      | monthly => exact hm
    exact ⟨⟨d, w, m, t⟩, usage_eq_ok.mpr ⟨hwindow, ht⟩, hwindow, hdw, hwm, hmt, rfl⟩
  · intro why
    rw [usage_eq_error hb]
    exact totalSince_eq_error

/-- Behind `10 ^ 28` the halves of the last day are lost one by one; a day that holds only them has
both. -/
theorem totals_nested_of_rounded :
    let account : AccountId := ⟨⟨1, by decide⟩⟩
    let now : Time.Instant := ⟨0, 0, by decide, by decide, by decide, by decide⟩
    let threeDaysAgo : Time.Instant := ⟨-259200, 0, by decide, by decide, by decide, by decide⟩
    let large : Amount := ⟨10 ^ 28, 0, false, by decide, by decide, by decide⟩
    let half : Amount := ⟨5, 1, false, by decide, by decide, by decide⟩
    let one : Amount := ⟨10, 1, false, by decide, by decide, by decide⟩
    let entry (a : Amount) (t : Time.Instant) : Entry :=
      ⟨none, account, a, ⟨none, none⟩, .success, t⟩
    let l := empty.recordAll [entry large threeDaysAgo, entry half now, entry half now]
    Window.AllBegin now ∧ l.allTimeTotal account now = .ok large ∧
      l.windowTotal .daily account now = .ok one ∧
      ∃ u, l.usage account now = .ok u ∧ (∀ w, l.windowTotal w account now = .ok (u.total w)) ∧
        u.daily ≤ u.weekly ∧ u.weekly ≤ u.monthly ∧ u.monthly ≤ u.allTime ∧ u.allTime = large := by
  intro account now threeDaysAgo large half one entry l
  have hb : Window.AllBegin now := by intro w; cases w <;> decide
  have hall : l.allTimeTotal account now = .ok large := by decide
  have hday : l.windowTotal .daily account now = .ok one := by decide
  exact ⟨hb, hall, hday, (totals_nested l account now hb).1 large hall⟩

end SpendingLimits.Ledger
