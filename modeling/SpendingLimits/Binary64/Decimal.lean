import SpendingLimits.Binary64.Basic

namespace SpendingLimits.Binary64

/-- The greatest power of ten that a step multiplies or divides by. -/
def greatestPower : Nat := 308

/-- Multiplies by `10 ^ k` with one rounding. -/
def timesPower? (x : Binary64) (k : Nat) : Option Binary64 :=
  if k ≤ greatestPower then do x.mul? (← nearest? (10 ^ k) 1)
  else if x.significand = 0 then some zero
  else none

/-- Divides by `10 ^ k` with one rounding for every step of at most `10 ^ 308`. -/
def overPower? (x : Binary64) (k : Nat) : Option Binary64 :=
  if x.significand = 0 then some zero
  else if greatestPower < k then do
    overPower? (← x.div? (← nearest? (10 ^ greatestPower) 1)) (k - greatestPower)
  else do x.div? (← nearest? (10 ^ k) 1)
termination_by k
decreasing_by simp only [greatestPower] at *; omega

/-- The number `digits * 10 ^ power`: the digits are rounded first and the power is applied to
what they round to. -/
def ofDecimal? (digits : Nat) (power : Int) : Option Binary64 := do
  let x ← nearest? digits 1
  if 0 ≤ power then x.timesPower? power.toNat else x.overPower? (-power).toNat

/-- A positive number with the two halfway points to its neighbours, over a common denominator.
The halfway points round to the number itself if its significand is even. -/
structure Span where
  low : Nat
  mid : Nat
  high : Nat
  denominator : Nat
  closed : Bool

/-- The span of a number. The neighbour below the first number of a binade is half as far away. -/
def span (x : Binary64) : Span :=
  let up := 2 ^ (x.exponent - 2).toNat
  let below := if x.significand = 2 ^ (52 : Nat) then 1 else 2
  ⟨(4 * x.significand - below) * up, 4 * x.significand * up, (4 * x.significand + 2) * up,
    2 ^ (2 - x.exponent).toNat, x.significand % 2 == 0⟩

/-- The span in units of `10 ^ k`. -/
def Span.inUnits (s : Span) (k : Int) : Span :=
  let up := 10 ^ (-k).toNat
  ⟨s.low * up, s.mid * up, s.high * up, s.denominator * 10 ^ k.toNat, s.closed⟩

/-- Whether a whole number of units lies in the span. -/
def Span.holds (s : Span) (c : Nat) : Bool :=
  let n := c * s.denominator
  (s.low < n && n < s.high) || (s.closed && (n == s.low || n == s.high))

/-- The whole number of units in the span that is nearest to its middle; of two equally near ones
the larger. -/
def Span.nearestWhole? (s : Span) : Option Nat :=
  let c := s.mid / s.denominator
  match s.holds c, s.holds (c + 1) with
  | true, true =>
    if s.mid - c * s.denominator < (c + 1) * s.denominator - s.mid then some c else some (c + 1)
  | true, false => some c
  | false, true => some (c + 1)
  | false, false => none

/-- The least `p` with `n / d < 10 ^ p`, where `p` is known to be above `-tries` or positive. -/
def decimalLength (n d : Nat) : (tries : Nat) → Int
  | 0 => (Nat.toDigits 10 (n / d)).length
  | tries + 1 =>
    if d ≤ n then (Nat.toDigits 10 (n / d)).length
    else if d ≤ 10 * n then 0
    else decimalLength (10 * n) d tries - 1

/-- Tries one digit more at a time, from `count` digits on. -/
def shortestFrom (s : Span) (p : Int) (count : Nat) : (tries : Nat) → Nat × Int
  | 0 => (s.mid / s.denominator, 0)
  | tries + 1 =>
    match (s.inUnits (p - count)).nearestWhole? with
    | some c => (c, p - count)
    | none => shortestFrom s p (count + 1) tries

/-- The fewest decimal digits that round to the number, and the power of ten they are to be
multiplied by; of several such the nearest to the number. Seventeen digits always suffice. -/
def shortest (x : Binary64) : Nat × Int :=
  if x.significand = 0 then (0, 0)
  else
    let s := x.span
    let (c, k) := shortestFrom s (decimalLength s.mid s.denominator 400) 1 17
    if c % 10 = 0 then (c / 10, k + 1) else (c, k)

end SpendingLimits.Binary64
