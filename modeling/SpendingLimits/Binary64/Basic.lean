import SpendingLimits.Rounding
import SpendingLimits.Text.Digits

namespace SpendingLimits

/-- A finite binary floating-point number of 64 bits that is not negative, as its exact value
`significand * 2 ^ exponent`. Rounding yields significands below `2 ^ 53` and, unless the exponent
is `-1074`, at least `2 ^ 52`; zero is `0 * 2 ^ 0`. -/
structure Binary64 where
  significand : Nat
  exponent : Int
deriving DecidableEq

namespace Binary64

def zero : Binary64 := ⟨0, 0⟩

/-- The largest `e` with `2 ^ e ≤ n / d`, for positive `n` and `d`. -/
def floorLog (n d : Nat) : Int :=
  let e : Int := (Nat.log2 n : Int) - Nat.log2 d
  if d * 2 ^ e.toNat ≤ n * 2 ^ (-e).toNat then e else e - 1

/-- The number nearest to `n / d`, with ties to even; `none` if it is too large to be finite. -/
def nearest? (n d : Nat) : Option Binary64 :=
  if n = 0 then some zero
  else
    let e := max (-1074) (floorLog n d - 52)
    let m := halfEven (n * 2 ^ (-e).toNat) (d * 2 ^ e.toNat)
    let x : Binary64 := if m = 2 ^ (53 : Nat) then ⟨2 ^ (52 : Nat), e + 1⟩ else ⟨m, e⟩
    if x.exponent ≤ 971 then some x else none

/-- The number nearest to `n / d * 2 ^ e`. -/
def nearestScaled? (n d : Nat) (e : Int) : Option Binary64 :=
  nearest? (n * 2 ^ e.toNat) (d * 2 ^ (-e).toNat)

/-- The rounded product. -/
def mul? (x y : Binary64) : Option Binary64 :=
  nearestScaled? (x.significand * y.significand) 1 (x.exponent + y.exponent)

/-- The rounded quotient, for a `y` that is not zero. -/
def div? (x y : Binary64) : Option Binary64 :=
  nearestScaled? x.significand y.significand (x.exponent - y.exponent)

end Binary64

end SpendingLimits
