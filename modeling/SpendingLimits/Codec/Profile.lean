import SpendingLimits.Codec.Amount
import SpendingLimits.Profile

namespace SpendingLimits

open Json

namespace Profile

def toJson (p : Profile) : Json :=
  ofFields ([("id", .text p.id.text), ("name", .text p.name),
      ("min_transaction", p.minTransaction.toJson), ("max_transaction", p.maxTransaction.toJson)] ++
    optionField "daily" Amount.toJson p.daily ++ optionField "weekly" Amount.toJson p.weekly ++
    optionField "monthly" Amount.toJson p.monthly ++
    [("unsettled_exposure", p.unsettledExposure.toJson)])

def layout : Record Profile :=
  Profile.mk <$> (ProfileId.mk <$> Record.required "id" asText)
    <*> Record.required "name" asText
    <*> Record.required "min_transaction" Amount.ofJson
    <*> Record.required "max_transaction" Amount.ofJson
    <*> Record.optional "daily" (asOption Amount.ofJson) none
    <*> Record.optional "weekly" (asOption Amount.ofJson) none
    <*> Record.optional "monthly" (asOption Amount.ofJson) none
    <*> Record.optional "unsettled_exposure" Amount.ofJson Amount.zero

def ofJson : Decoder Profile := layout.decode

end Profile

namespace Usage

def toJson (u : Usage) : Json :=
  ofFields [("daily_total", u.daily.toJson), ("weekly_total", u.weekly.toJson),
    ("monthly_total", u.monthly.toJson), ("all_time_total", u.allTime.toJson)]

def layout : Record Usage :=
  Usage.mk <$> Record.required "daily_total" Amount.ofJson
    <*> Record.required "weekly_total" Amount.ofJson
    <*> Record.required "monthly_total" Amount.ofJson
    <*> Record.required "all_time_total" Amount.ofJson

def ofJson : Decoder Usage := layout.decode

end Usage

def Window.toJson (w : Window) : Json := .text w.name

def Window.ofJson : Decoder Window := asName Window.ofName?

end SpendingLimits
