import Mathlib.Tactic.SplitIfs
import SpendingLimits.Usage

namespace SpendingLimits

namespace Time.Instant

variable {s t u : Instant}

theorem le_iff : s ≤ t ↔ s.second < t.second ∨ s.second = t.second ∧ s.nano ≤ t.nano := Iff.rfl

theorem le_refl (t : Instant) : t ≤ t := .inr ⟨rfl, Nat.le_refl _⟩

theorem le_trans (hst : s ≤ t) (htu : t ≤ u) : s ≤ u := by
  rw [le_iff] at *
  omega

/-- A clock that does not go back, nor from a leap second to an earlier point of the next second. -/
structure PassesTo (t u : Instant) : Prop where
  le : t ≤ u
  past_leap : u.second = t.second + 1 → t.nano ≤ u.nano + 10 ^ (9 : Nat)

/-- Outside leap seconds a clock that does not go back is all that is asked. -/
theorem PassesTo.of_le (hle : t ≤ u) (h : t.nano < 10 ^ (9 : Nat)) : t.PassesTo u :=
  ⟨hle, fun _ => by omega⟩

theorem ofParts?_eq_some {second : Int} {nano : Nat} (h : ofParts? second nano = some t) :
    t.second = second ∧ t.nano = nano := by
  rw [ofParts?] at h
  split_ifs at h
  cases h
  exact ⟨rfl, rfl⟩

theorem daysEarlier?_eq_some {days : Nat} (hdays : days ≠ 0) (h : t.daysEarlier? days = some s) :
    t.nano < 10 ^ (9 : Nat) ∧ s.second = t.second - 86400 * days ∧ s.nano = t.nano ∨
      10 ^ (9 : Nat) ≤ t.nano ∧ s.second = t.second + 1 - 86400 * days ∧
        s.nano = t.nano - 10 ^ (9 : Nat) := by
  rw [daysEarlier?] at h
  split_ifs at h with hleap
  · obtain ⟨hsecond, hnano⟩ := ofParts?_eq_some h
    exact .inl ⟨hleap.resolve_right hdays, hsecond, hnano⟩
  · obtain ⟨hsecond, hnano⟩ := ofParts?_eq_some h
    exact .inr ⟨by omega, hsecond, hnano⟩

end Time.Instant

namespace Window

open Time

theorem days_ne_zero (w : Window) : w.days ≠ 0 := by cases w <;> decide

/-- As the clock goes on, no window begins earlier than before, unless the clock passes from a leap
second to an earlier point of the next second. -/
theorem start_le_iff {w : Window} {t u start since : Instant} (hle : t ≤ u)
    (hs : w.start? t = some start) (hr : w.start? u = some since) :
    start ≤ since ↔ t.PassesTo u := by
  have hstart := Instant.daysEarlier?_eq_some w.days_ne_zero hs
  have hsince := Instant.daysEarlier?_eq_some w.days_ne_zero hr
  have hpasses : t.PassesTo u ↔ (u.second = t.second + 1 → t.nano ≤ u.nano + 10 ^ (9 : Nat)) :=
    ⟨fun h => h.past_leap, fun h => ⟨hle, h⟩⟩
  have hnano := t.nano_lt
  rw [hpasses, Instant.le_iff]
  rw [Instant.le_iff] at hle
  omega

theorem start_le_start {v w : Window} {t start since : Instant} (h : v.days ≤ w.days)
    (hs : w.start? t = some start) (hr : v.start? t = some since) : start ≤ since := by
  have hstart := Instant.daysEarlier?_eq_some w.days_ne_zero hs
  have hsince := Instant.daysEarlier?_eq_some v.days_ne_zero hr
  rw [Instant.le_iff]
  omega

end Window

end SpendingLimits
