import SpendingLimits.Json.Record

namespace SpendingLimits

namespace Amount

def toJson (a : Amount) : Json := .text a.text

/-- The amount that a decimal makes, if it is one and not negative. -/
def ofDecimal : Option Signed → Except Json.Fault Amount
  | some n =>
    match n.toAmount? with
    | some a => .ok a
    | none => .error .negativeAmount
  | none => .error .malformed

/-- Amounts are written as texts. They are read from texts and from numbers, and digits to spare are
rounded away. -/
def ofJson : Json.Decoder Amount
  | .text s => ofDecimal (readRounded? s.toList)
  | .number n => ofDecimal n.toDecimal?
  | _ => .error .malformed

end Amount

end SpendingLimits
