import SpendingLimits.Codec.Amount
import SpendingLimits.Time.Printer
import SpendingLimits.Time.Reader
import SpendingLimits.Transaction

namespace SpendingLimits

open Json

def TransactionType.toJson (t : TransactionType) : Json := .text t.name

def TransactionType.ofJson : Decoder TransactionType := asName TransactionType.ofName?

def PaymentMethod.toJson (m : PaymentMethod) : Json := .text m.name

def PaymentMethod.ofJson : Decoder PaymentMethod := asName PaymentMethod.ofName?

def EntryStatus.toJson (s : EntryStatus) : Json := .text s.name

def EntryStatus.ofJson : Decoder EntryStatus := asName EntryStatus.ofName?

def AccountId.toJson (a : AccountId) : Json := .text a.text

def AccountId.ofJson : Decoder AccountId := asRead AccountId.read?

namespace Context

/-- The fields of a context, in whatever object they stand. -/
def fields (c : Context) : List (String × Json) :=
  optionField "transaction_type" TransactionType.toJson c.transactionType ++
    optionField "payment_method_type" PaymentMethod.toJson c.paymentMethod

def layout : Record Context :=
  Context.mk <$> Record.optional "transaction_type" (asOption TransactionType.ofJson) none
    <*> Record.optional "payment_method_type" (asOption PaymentMethod.ofJson) none

def toJson (c : Context) : Json := ofFields c.fields

def ofJson : Decoder Context := layout.decode

end Context

namespace Entry

def toJson (e : Entry) : Json :=
  ofFields (optionField "id" (fun id => .text id.text) e.id ++
    [("account_id", e.account.toJson), ("amount", e.amount.toJson)] ++ e.context.fields ++
    [("status", e.status.toJson), ("created_at", .text e.createdAt.text)])

def layout : Record Entry :=
  Entry.mk <$> Record.optional "id" (fun v => (asRead EntryId.read? v).map some) none
    <*> Record.required "account_id" AccountId.ofJson
    <*> Record.required "amount" Amount.ofJson
    <*> Context.layout
    <*> Record.optional "status" EntryStatus.ofJson .success
    <*> Record.required "created_at" (asRead Time.Instant.read?)

def ofJson : Decoder Entry := layout.decode

end Entry

end SpendingLimits
