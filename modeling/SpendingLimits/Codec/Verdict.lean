import SpendingLimits.Codec.Amount
import SpendingLimits.Verdict

namespace SpendingLimits

open Json

def Status.toJson (s : Status) : Json := .text s.name

def Status.ofJson : Decoder Status := asName Status.ofName?

namespace Verdict

def toJson (v : Verdict) : Json :=
  ofFields [("status", v.status.toJson), ("range_min", v.low.toJson), ("range_max", v.high.toJson)]

def layout : Record Verdict :=
  Verdict.mk <$> Record.required "status" Status.ofJson
    <*> Record.required "range_min" Amount.ofJson
    <*> Record.required "range_max" Amount.ofJson

def ofJson : Decoder Verdict := layout.decode

end Verdict

namespace WindowLimit

def toJson (w : WindowLimit) : Json :=
  ofFields [("max", (w.cap.map Amount.toJson).getD .null), ("used", w.used.toJson),
    ("period", Json.ofInt w.days.toNat)]

/-- A number of days of 32 bits. -/
def daysOfJson : Decoder UInt32 := fun v =>
  (asInt 0 (2 ^ (32 : Nat) - 1) v).map fun n => UInt32.ofNat n.toNat

def layout : Record WindowLimit :=
  WindowLimit.mk <$> Record.optional "max" (asOption Amount.ofJson) none
    <*> Record.required "used" Amount.ofJson
    <*> Record.required "period" daysOfJson

def ofJson : Decoder WindowLimit := layout.decode

end WindowLimit

namespace Summary

def toJson (s : Summary) : Json :=
  ofFields ([("min_transaction", s.minTransaction.toJson),
      ("max_transaction", s.maxTransaction.toJson), ("monthly", s.monthly.toJson)] ++
    optionField "weekly" WindowLimit.toJson s.weekly ++
    optionField "daily" WindowLimit.toJson s.daily)

def layout : Record Summary :=
  Summary.mk <$> Record.required "min_transaction" Amount.ofJson
    <*> Record.required "max_transaction" Amount.ofJson
    <*> Record.required "monthly" WindowLimit.ofJson
    <*> Record.optional "weekly" (asOption WindowLimit.ofJson) none
    <*> Record.optional "daily" (asOption WindowLimit.ofJson) none

def ofJson : Decoder Summary := layout.decode

end Summary

end SpendingLimits
