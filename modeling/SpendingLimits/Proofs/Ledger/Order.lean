import Mathlib.Data.List.Infix
import SpendingLimits.Proofs.Ledger.Total

namespace SpendingLimits.Ledger

open Amount

theorem recordAll_entries (l : Ledger) (es : List Entry) :
    (l.recordAll es).entries = l.entries ++ es := by
  induction es generalizing l with
  | nil => simp [recordAll]
  | cons e es ih =>
    change ((l.record e).recordAll es).entries = _
    rw [ih, record, List.append_assoc]
    rfl

theorem counted_perm {es fs : List Entry} (h : es.Perm fs) (account : AccountId)
    (now : Time.Instant) (start : Option Time.Instant) :
    ((empty.recordAll es).counted account now start).Perm
      ((empty.recordAll fs).counted account now start) := by
  have hentries : (empty.recordAll es).entries.Perm (empty.recordAll fs).entries := by
    rw [recordAll_entries, recordAll_entries]
    exact h
  exact ((hentries.filter _).filter _).map _

variable {es fs : List Entry} {account : AccountId} {now : Time.Instant} {span : Option Window}

theorem total_empty_recordAll_eq_ok (hb : Window.AllBegin now) {t : Amount} :
    (empty.recordAll es).total account now span = .ok t ↔
      sum? ((empty.recordAll es).counted account now (span.bind (·.start? now))) = some t := by
  rw [total_eq _ account hb, totalSince_eq_ok]

theorem agree_of_unrounded (h : es.Perm fs) (hb : Window.AllBegin now)
    (hexact : ∀ part, part <+: (empty.recordAll es).counted account now (span.bind (·.start? now)) ∨
      part <+: (empty.recordAll fs).counted account now (span.bind (·.start? now)) →
      Unrounded (exactSum part)) :
    Agree ((empty.recordAll es).total account now span)
      ((empty.recordAll fs).total account now span) := by
  rw [total_eq _ account hb, total_eq _ account hb, totalSince_eq, totalSince_eq]
  rcases sum?_perm_of_unrounded (counted_perm h account now _)
    (fun part hp => hexact part (.inl hp)) (fun part hp => hexact part (.inr hp)) with hsum | hsum
  · obtain ⟨s, t, hs, ht, heq⟩ := hsum
    rw [hs, ht]
    exact heq
  · rw [hsum.1, hsum.2]
    rfl

/-- Recording the same entries in another order changes no total as long as no running total is
rounded. Otherwise two totals differ by half of their last places for each amount, and one of them
fails where the other does not only at the upper end of the range. -/
theorem total_perm (es fs : List Entry) (h : es.Perm fs) (account : AccountId) (now : Time.Instant)
    (hb : Window.AllBegin now) (span : Option Window) :
    let as := (empty.recordAll es).counted account now (span.bind (·.start? now))
    let bs := (empty.recordAll fs).counted account now (span.bind (·.start? now))
    let total (es : List Entry) := (empty.recordAll es).total account now span
    ((∀ part, part <+: as ∨ part <+: bs → Unrounded (exactSum part)) →
      Agree (total es) (total fs)) ∧
    (∀ s t, total es = .ok s → total fs = .ok t →
      2 * s.units ≤ 2 * t.units + as.length * (s.lastPlace + t.lastPlace)) ∧
    (∀ why t, total es = .error why → total fs = .ok t →
      (2 ^ 97 - 1) * 10 ^ 28 ≤ 2 * t.units + 2 * as.length * 10 ^ 28) := by
  intro as bs total
  have hperm : as.Perm bs := counted_perm h account now _
  refine ⟨agree_of_unrounded h hb, fun s t hs ht => ?_, fun why t hs ht => ?_⟩
  · rw [total_empty_recordAll_eq_ok hb] at hs ht
    exact sum?_perm_error hperm hs ht
  · change (empty.recordAll es).total account now span = _ at hs
    rw [total_eq _ account hb, totalSince_eq_error] at hs
    rw [total_empty_recordAll_eq_ok hb] at ht
    exact sum?_perm_range hperm hs.1 ht

/-- The last digit of the first amount is the last one that fits; the sum is whole again and so is
not rounded. -/
theorem total_perm_of_full_mantissa :
    let account : AccountId := ⟨⟨1, by decide⟩⟩
    let now : Time.Instant := ⟨0, 0, by decide, by decide, by decide, by decide⟩
    let full : Amount := ⟨2 ^ 96 - 1, 1, false, by decide, by decide, nofun⟩
    let half : Amount := ⟨5, 1, false, by decide, by decide, nofun⟩
    let entry (a : Amount) (s : EntryStatus) : Entry := ⟨none, account, a, ⟨none, none⟩, s, now⟩
    let es := [entry full .success, entry full .failed, entry half .pending]
    let fs := [entry half .pending, entry full .success, entry full .failed]
    es.Perm fs ∧ Window.AllBegin now ∧
      Agree ((empty.recordAll es).total account now (some .daily))
        ((empty.recordAll fs).total account now (some .daily)) := by
  intro account now full half entry es fs
  have hperm : es.Perm fs := by decide
  have hb : Window.AllBegin now := by intro w; cases w <;> decide
  refine ⟨hperm, hb, (total_perm es fs hperm account now hb (some .daily)).1 fun part hp => ?_⟩
  rw [← List.mem_inits, ← List.mem_inits, ← List.mem_append] at hp
  revert part
  decide

/-- Amounts of `d` fractional digits at most, such as two of them, have the same totals in every
order, as long as their sum over all time fits. -/
theorem agree_of_scale_le (h : es.Perm fs) (hb : Window.AllBegin now) {d : Nat} (hd : d ≤ 28)
    (hscale : ∀ e ∈ es, e.amount.scale ≤ d)
    (hsum : exactSum ((empty.recordAll es).counted account now (span.bind (·.start? now))) <
      2 ^ 96 * 10 ^ (28 - d)) :
    Agree ((empty.recordAll es).total account now span)
      ((empty.recordAll fs).total account now span) := by
  have hperm := counted_perm h account now (span.bind (·.start? now))
  have hcounted : ∀ a ∈ (empty.recordAll es).counted account now (span.bind (·.start? now)),
      a.scale ≤ d := by
    intro a ha
    obtain ⟨e, he, rfl⟩ := List.mem_map.mp ha
    have hrecorded := List.mem_of_mem_filter (List.mem_of_mem_filter he)
    rw [recordAll_entries] at hrecorded
    exact hscale e hrecorded
  apply agree_of_unrounded h hb
  intro part hp
  rcases hp with hp | hp
  · exact unrounded_of_scale_le hp hd hcounted hsum
  · refine unrounded_of_scale_le hp hd (fun a ha => hcounted a (hperm.mem_iff.mpr ha)) ?_
    rwa [← exactSum_perm hperm]

/-- Two halves are lost one by one behind `10 ^ 28`, and make a whole in front of it. -/
theorem total_depends_on_order :
    ¬∀ (es fs : List Entry), es.Perm fs → ∀ (account : AccountId) (now : Time.Instant),
      Window.AllBegin now → ∀ span, Agree ((empty.recordAll es).total account now span)
        ((empty.recordAll fs).total account now span) := by
  intro h
  let account : AccountId := ⟨⟨1, by decide⟩⟩
  let now : Time.Instant := ⟨0, 0, by decide, by decide, by decide, by decide⟩
  let large : Amount := ⟨10 ^ 28, 0, false, by decide, by decide, by decide⟩
  let half : Amount := ⟨5, 1, false, by decide, by decide, by decide⟩
  let entry (a : Amount) : Entry := ⟨none, account, a, ⟨none, none⟩, .success, now⟩
  let es := [entry large, entry half, entry half]
  let fs := [entry half, entry half, entry large]
  have hagree := h es fs (by decide) account now (by intro w; cases w <;> decide) none
  have hfirst : (empty.recordAll es).total account now none = .ok large := by decide
  have hlast : (empty.recordAll fs).total account now none =
      .ok ⟨10 ^ 28 + 1, 0, false, by decide, by decide, by decide⟩ := by decide
  rw [hfirst, hlast] at hagree
  change (_ : Nat) = _ at hagree
  exact absurd hagree (by decide)

end SpendingLimits.Ledger
