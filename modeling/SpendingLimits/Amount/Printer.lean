import SpendingLimits.Amount.Basic
import SpendingLimits.Text.Digits

namespace SpendingLimits.Amount

/-- The decimal `mantissa / 10 ^ scale`, with exactly `scale` digits behind the point. -/
def writeDecimal (mantissa scale : Nat) : List Char :=
  Nat.toDigits 10 (mantissa / 10 ^ scale) ++
    if scale = 0 then [] else '.' :: Text.fixedDigits 10 scale (mantissa % 10 ^ scale)

/-- The amount with all its fractional digits and with the minus of a zero. -/
def text (a : Amount) : String :=
  String.ofList ((if a.minus then ['-'] else []) ++ writeDecimal a.mantissa a.scale)

/-- A mantissa and its scale without the zeros at the end of the fraction. -/
def dropZeros (mantissa : Nat) : (scale : Nat) → Nat × Nat
  | 0 => (mantissa, 0)
  | scale + 1 =>
    if mantissa % 10 = 0 then dropZeros (mantissa / 10) scale else (mantissa, scale + 1)

theorem dropZeros_le (m s : Nat) : (dropZeros m s).1 ≤ m ∧ (dropZeros m s).2 ≤ s := by
  induction s generalizing m with
  | zero => simp [dropZeros]
  | succ s ih =>
    rw [dropZeros]; split
    · have := ih (m / 10); omega
    · simp

/-- The same value with the fewest fractional digits and without a minus. -/
def normal (a : Amount) : Amount :=
  ⟨(dropZeros a.mantissa a.scale).1, (dropZeros a.mantissa a.scale).2, false,
    Nat.lt_of_le_of_lt (dropZeros_le _ _).1 a.mantissa_lt,
    Nat.le_trans (dropZeros_le _ _).2 a.scale_le, nofun⟩

/-- The amount without a minus and without zeros at the end of its fraction. -/
def plain (a : Amount) : String := a.normal.text

end SpendingLimits.Amount
