import Mathlib.Logic.Relation
import SpendingLimits.Proofs.Ledger.Total

namespace SpendingLimits

/-- A ledger, and what the clock reads. -/
structure Moment where
  ledger : Ledger
  now : Time.Instant

inductive Recording.Step : Moment → Moment → Prop where
  | pass (m : Moment) (later : Time.Instant) (h : m.now ≤ later) : Step m ⟨m.ledger, later⟩
  | record (m : Moment) (e : Entry) : Step m ⟨m.ledger.record e, m.now⟩

/-- What may happen from one moment to another: entries are recorded, and the clock never goes
back. -/
def Recording : Moment → Moment → Prop := Relation.ReflTransGen Recording.Step

namespace Ledger

theorem counted_sublist_record (l : Ledger) (e : Entry) (account : AccountId) (now : Time.Instant)
    (start : Option Time.Instant) :
    (l.counted account now start).Sublist ((l.record e).counted account now start) := by
  have hhistory : (l.history account).Sublist ((l.record e).history account) := by
    rw [history_record]
    exact List.sublist_append_left _ _
  exact (hhistory.filter _).map _

end Ledger

namespace Recording

variable {account : AccountId} {m n : Moment}

theorem Step.counted_sublist (h : Step m n) :
    (m.ledger.counted account m.now none).Sublist (n.ledger.counted account n.now none) := by
  cases h with
  | pass later hle => exact m.ledger.counted_sublist_mono account hle (by simp)
  | record e => exact m.ledger.counted_sublist_record e account m.now none

theorem counted_sublist (h : Recording m n) :
    (m.ledger.counted account m.now none).Sublist (n.ledger.counted account n.now none) := by
  induction h with
  | refl => exact List.Sublist.refl _
  | tail _ hstep ih => exact ih.trans hstep.counted_sublist

theorem allTimeTotal_of_later {t : Amount} (h : Recording m n)
    (ht : n.ledger.allTimeTotal account n.now = .ok t) :
    ∃ s, m.ledger.allTimeTotal account m.now = .ok s ∧ s ≤ t := by
  obtain ⟨s, hs, hst⟩ := Amount.sum?_sublist h.counted_sublist (Ledger.totalSince_eq_ok.mp ht)
  exact ⟨s, Ledger.totalSince_eq_ok.mpr hs, hst⟩

theorem allTimeTotal_le {s t : Amount} (h : Recording m n)
    (hs : m.ledger.allTimeTotal account m.now = .ok s)
    (ht : n.ledger.allTimeTotal account n.now = .ok t) : s ≤ t := by
  obtain ⟨r, hr, hrt⟩ := h.allTimeTotal_of_later ht
  rw [hs] at hr
  obtain rfl : s = r := Except.ok.inj hr
  exact hrt

theorem allTimeTotal_eq_error {why : StoreFault} (h : Recording m n)
    (hwhy : m.ledger.allTimeTotal account m.now = .error why) :
    n.ledger.allTimeTotal account n.now = .error why := by
  cases ht : n.ledger.allTimeTotal account n.now with
  | ok t =>
    obtain ⟨s, hs, _⟩ := h.allTimeTotal_of_later ht
    rw [hwhy] at hs
    cases hs
  | error other =>
    -- Either way the fault is that the total of this account is too large.
    rw [(Ledger.totalSince_eq_error.mp ht).2, (Ledger.totalSince_eq_error.mp hwhy).2]

end Recording

end SpendingLimits
