import SpendingLimits.Proofs.Amount.Value
import SpendingLimits.Proofs.Ledger.Total

namespace SpendingLimits

/-- Entries that differ at most in how their amounts are written. -/
structure Entry.Alike (e f : Entry) : Prop where
  id : e.id = f.id
  account : e.account = f.account
  amount : e.amount.Alike f.amount
  context : e.context = f.context
  status : e.status = f.status
  createdAt : e.createdAt = f.createdAt

namespace Ledger

theorem Agree.matches {x y : Except StoreFault Amount} (h : Agree x y) :
    Matches Amount.Alike x y := by
  cases x with
  | error d =>
    cases y with
    | error e =>
      obtain rfl : d = e := h
      exact .error d
    | ok t => cases h
  | ok s =>
    cases y with
    | error e => cases h
    | ok t => exact .ok h

/-- Ledgers of alike entries in one order. -/
def Alike (l k : Ledger) : Prop := List.Forall₂ Entry.Alike l.entries k.entries

variable {l k : Ledger}

theorem history_alike (h : l.Alike k) (account : AccountId) :
    List.Forall₂ Entry.Alike (l.history account) (k.history account) := by
  refine List.rel_filter ?_ h
  intro e f hef
  exact Bool.eq_iff_iff.mp (by rw [hef.account])

theorem counted_alike (h : l.Alike k) (account : AccountId) (now : Time.Instant)
    (start : Option Time.Instant) :
    List.Forall₂ Amount.Alike (l.counted account now start) (k.counted account now start) := by
  have hamount (e f : Entry) (hef : e.Alike f) : e.amount.Alike f.amount := hef.amount
  refine List.rel_map hamount (List.rel_filter ?_ (history_alike h account))
  intro e f hef
  exact Bool.eq_iff_iff.mp (by rw [isCounted, isCounted, hef.status, hef.createdAt])

theorem totalSince_alike (h : l.Alike k) (account : AccountId) (now : Time.Instant)
    (start : Option Time.Instant) :
    Agree (l.totalSince account now start) (k.totalSince account now start) := by
  have hsum := Amount.sum?_alike (counted_alike h account now start)
  rw [totalSince_eq, totalSince_eq]
  generalize Amount.sum? (l.counted account now start) = s,
    Amount.sum? (k.counted account now start) = t at hsum ⊢
  cases hsum with
  | none => rfl
  | some h => exact h

theorem total_alike (h : l.Alike k) (account : AccountId) (now : Time.Instant)
    (span : Option Window) : Agree (l.total account now span) (k.total account now span) := by
  cases span with
  | none => exact totalSince_alike h account now none
  | some w =>
    have hempty : (l.history account).isEmpty = (k.history account).isEmpty := by
      rw [Bool.eq_iff_iff, List.isEmpty_iff_length_eq_zero, List.isEmpty_iff_length_eq_zero,
        (history_alike h account).length_eq]
    rw [total, total, windowTotal, windowTotal, hempty]
    split_ifs
    · rfl
    · cases w.start? now with
      | none => rfl
      | some start => exact totalSince_alike h account now (some start)

end Ledger

end SpendingLimits
