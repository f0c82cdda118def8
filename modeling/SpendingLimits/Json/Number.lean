import SpendingLimits.Amount.Printer
import SpendingLimits.Amount.Reader
import SpendingLimits.Binary64.Decimal
import SpendingLimits.Json.Basic

namespace SpendingLimits.Numeral

/-- The whole number that a numeral of at most 64 bits writes, with the sign bit for the negative
ones; `-0` is none. -/
def toInt? (n : Numeral) : Option Int :=
  if n.fraction ≠ [] ∨ n.exponent ≠ none then none
  else if n.negative then if n.whole = 0 ∨ 2 ^ (63 : Nat) < n.whole then none else some (-n.whole)
  else if n.whole < 2 ^ (64 : Nat) then some n.whole else none

/-- The digits that count towards the value, at most 64 bits of them, and the power of ten to
multiply them by. From the integer part digits are taken as long as they fit and all later ones
only raise the power; fractional digits are taken until the first that does not fit. -/
def takeWhole : (taken dropped : Nat) → List (Fin 10) → Nat × Nat
  | taken, dropped, [] => (taken, dropped)
  | taken, dropped, d :: ds =>
    if dropped = 0 ∧ 10 * taken + d < 2 ^ (64 : Nat) then takeWhole (10 * taken + d) 0 ds
    else takeWhole taken (dropped + 1) ds

def takeFraction : (taken used : Nat) → List (Fin 10) → Nat × Nat
  | taken, used, [] => (taken, used)
  | taken, used, d :: ds =>
    if 10 * taken + d < 2 ^ (64 : Nat) then takeFraction (10 * taken + d) (used + 1) ds
    else (taken, used)

/-- The size of the binary floating-point number that a numeral stands for, its sign aside. -/
def magnitude? (n : Numeral) : Option Binary64 :=
  let (taken, dropped) := takeWhole 0 0 (Text.takeDigits (Nat.toDigits 10 n.whole)).1
  let (taken, used) := takeFraction taken 0 n.fraction
  Binary64.ofDecimal? taken ((dropped : Int) - used + n.exponent.getD 0)

/-- The shortest text of a binary number, without a power of ten. -/
def writeBinary (x : Binary64) : List Char :=
  let (c, k) := x.shortest
  Amount.writeDecimal (c * 10 ^ k.toNat) (-k).toNat

/-- The decimal that a numeral stands for: its whole number if it writes one of 64 bits, otherwise
what the shortest text of its binary number writes. -/
def toDecimal? (n : Numeral) : Option Amount.Signed :=
  match n.toInt? with
  | some i => (Amount.ofParts? i.natAbs 0).map (.ofDigits (decide (i < 0)))
  | none => do
    let x ← n.magnitude?
    let a ← Amount.readRounded? (writeBinary x)
    return .ofDigits n.negative a.magnitude

end SpendingLimits.Numeral
