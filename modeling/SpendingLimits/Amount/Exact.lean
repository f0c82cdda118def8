import SpendingLimits.Fault
import SpendingLimits.Text.Blank

namespace SpendingLimits.Amount

/-- The decimal that a text writes, blanks around it aside; a decimal with digits to spare is
refused. -/
def readExact (cs : List Char) : Except TextFault Signed := do
  match ← scan (Text.trim cs) with
  | (negative, .fits a) => .ok (.ofDigits negative a)
  | (_, .spare _ _) => .error .tooPrecise

/-- Reads a text exactly. A decimal below zero is no amount; a zero with a sign is zero. -/
def read (s : String) : Except DomainFault Amount :=
  match readExact s.toList with
  | .error why => .error (.validation (.invalidAmount s why))
  | .ok n =>
    match n.toAmount? with
    | some a => .ok a
    | none => .error .negativeAmount

end SpendingLimits.Amount
