import SpendingLimits.Time.Calendar

namespace SpendingLimits.Time

/-- The first second of the year -262143. -/
def firstSecond : Int := -8334601228800

/-- The last second of the year 262142. -/
def lastSecond : Int := 8210266876799

/-- A point in time: seconds since the start of 1970 and nanoseconds. In a leap second the
nanoseconds go on from `10 ^ 9`, and the second is the last of its minute. -/
structure Instant where
  second : Int
  nano : Nat
  first_le : firstSecond ≤ second
  le_last : second ≤ lastSecond
  nano_lt : nano < 2 * 10 ^ (9 : Nat)
  leap : 10 ^ (9 : Nat) ≤ nano → second % 60 = 59
deriving DecidableEq

namespace Instant

/-- The instant with these parts, if they are in range. -/
def ofParts? (second : Int) (nano : Nat) : Option Instant :=
  if h : firstSecond ≤ second ∧ second ≤ lastSecond ∧ nano < 2 * 10 ^ (9 : Nat) ∧
      (10 ^ (9 : Nat) ≤ nano → second % 60 = 59) then
    some ⟨second, nano, h.1, h.2.1, h.2.2.1, h.2.2.2⟩
  else none

instance : LE Instant :=
  ⟨fun s t => s.second < t.second ∨ s.second = t.second ∧ s.nano ≤ t.nano⟩
instance (s t : Instant) : Decidable (s ≤ t) :=
  inferInstanceAs (Decidable (s.second < t.second ∨ s.second = t.second ∧ s.nano ≤ t.nano))

/-- The instant a number of days earlier, if it is in range. From a leap second the way back leads
to the second after it, as no other day has that second. -/
def daysEarlier? (t : Instant) (days : Nat) : Option Instant :=
  if t.nano < 10 ^ (9 : Nat) ∨ days = 0 then ofParts? (t.second - 86400 * days) t.nano
  else ofParts? (t.second + 1 - 86400 * days) (t.nano - 10 ^ (9 : Nat))

end Instant

end SpendingLimits.Time
