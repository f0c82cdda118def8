import SpendingLimits.Codec.Transaction
import SpendingLimits.Rulebook

namespace SpendingLimits

open Json

namespace Criteria

def toJson (c : Criteria) : Json :=
  ofFields (optionField "transaction_type" TransactionType.toJson c.transactionType ++
    optionField "payment_method_type" PaymentMethod.toJson c.paymentMethod ++
    optionField "min_total_transaction_amount" Amount.toJson c.minTotal)

def layout : Record Criteria :=
  Criteria.mk <$> Record.optional "transaction_type" (asOption TransactionType.ofJson) none
    <*> Record.optional "payment_method_type" (asOption PaymentMethod.ofJson) none
    <*> Record.optional "min_total_transaction_amount" (asOption Amount.ofJson) none

def ofJson : Decoder Criteria := layout.decode

end Criteria

namespace Rule

def toJson (r : Rule) : Json :=
  ofFields [("id", .text r.id.text), ("is_default", .bool r.isDefault),
    ("priority", Json.ofInt r.priority.toInt), ("profile_id", .text r.profile.text),
    ("criteria", r.criteria.toJson)]

/-- A priority of 32 bits. -/
def priorityOfJson : Decoder Int32 := fun v =>
  (asInt (-2 ^ (31 : Nat)) (2 ^ (31 : Nat) - 1) v).map Int32.ofInt

def layout : Record Rule :=
  Rule.mk <$> (RuleId.mk <$> Record.required "id" asText)
    <*> Record.optional "is_default" asBool false
    <*> Record.required "priority" priorityOfJson
    <*> (ProfileId.mk <$> Record.required "profile_id" asText)
    <*> Record.optional "criteria" Criteria.ofJson Criteria.any

def ofJson : Decoder Rule := layout.decode

end Rule

end SpendingLimits
