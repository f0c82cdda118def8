import SpendingLimits.Amount.Basic
import SpendingLimits.Rounding

namespace SpendingLimits.Amount

/-- The number `n / 10 ^ (dropped + places)` as an amount of at most `places` fractional digits:
`dropped` digits are already given up, and one more goes as long as the rest is too long. -/
def fitFrom (n dropped : Nat) : (places : Nat) → Option Amount
  | 0 => ofParts? (halfEven n (10 ^ dropped)) 0
  | places + 1 =>
    ofParts? (halfEven n (10 ^ dropped)) (places + 1) <|> fitFrom n (dropped + 1) places

/-- The number `n / 10 ^ places` as an amount with as many of these digits as fit, rounded half to
even. Only a number that does not even fit without fractional digits is refused. -/
def fit? (n places : Nat) : Option Amount := fitFrom n 0 places

/-- The sum. Zero adds nothing, not even fractional digits, and leaves the other amount as it is. -/
def add? (a b : Amount) : Option Amount :=
  if a.isZero then some b
  else if b.isZero then some a
  else
    let places := max a.scale b.scale
    fit? (a.mantissaAt places + b.mantissaAt places) places

/-- The difference, for `b` not above `a`. Taking zero away leaves the amount as it is. -/
def sub? (a b : Amount) : Option Amount :=
  if a < b then none
  else if b.isZero then some a
  else
    let places := max a.scale b.scale
    fit? (a.mantissaAt places - b.mantissaAt places) places

/-- What a total leaves of a cap: nothing once the total has reached the cap. -/
def remainingUnder (total cap : Amount) : Amount :=
  if cap ≤ total then zero else (sub? cap total).getD zero

/-- Whether a total grows above a cap when an amount is added to it. A sum that is too large for
an amount is above every cap. -/
def wouldExceed (total proposed cap : Amount) : Bool :=
  match add? total proposed with
  | some sum => decide (cap < sum)
  | none => true

end SpendingLimits.Amount
