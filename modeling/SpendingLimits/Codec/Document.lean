import SpendingLimits.Codec.Profile
import SpendingLimits.Codec.Rule
import SpendingLimits.Ledger
import SpendingLimits.RuleSet
import SpendingLimits.Service

namespace SpendingLimits

open Json

namespace CheckRequest

def toJson (r : CheckRequest) : Json :=
  ofFields ([("account_id", r.account.toJson), ("amount", r.amount.toJson)] ++ r.context.fields)

def layout : Record CheckRequest :=
  CheckRequest.mk <$> Record.required "account_id" AccountId.ofJson
    <*> Record.required "amount" Amount.ofJson
    <*> Context.layout

def ofJson : Decoder CheckRequest := layout.decode

end CheckRequest

namespace LimitsQuery

def toJson (q : LimitsQuery) : Json :=
  ofFields ([("account_id", q.account.toJson)] ++ q.context.fields)

def layout : Record LimitsQuery :=
  LimitsQuery.mk <$> Record.required "account_id" AccountId.ofJson <*> Context.layout

def ofJson : Decoder LimitsQuery := layout.decode

end LimitsQuery

namespace RuleSet

def toJson (s : RuleSet) : Json :=
  ofFields [("profiles", .array (s.profiles.map Profile.toJson)),
    ("configurations", .array (s.rules.map Rule.toJson))]

def layout : Record RuleSet :=
  RuleSet.mk <$> Record.optional "profiles" (asList Profile.ofJson) []
    <*> Record.optional "configurations" (asList Rule.ofJson) []

def ofJson : Decoder RuleSet := layout.decode

/-- The rule set that a text writes. -/
def read (s : String) : Except Fault RuleSet := decodeText ofJson s

end RuleSet

namespace Ledger

def toJson (l : Ledger) : Json := ofFields [("entries", .array (l.entries.map Entry.toJson))]

def layout : Record Ledger := Ledger.mk <$> Record.optional "entries" (asList Entry.ofJson) []

def ofJson : Decoder Ledger := layout.decode

/-- The ledger that a text writes. -/
def read (s : String) : Except Fault Ledger := decodeText ofJson s

/-- Records the entries that a text writes, all of them or, if the text has a fault, none. -/
def load (l : Ledger) (s : String) : Except Fault Ledger := do
  return l.recordAll (← read s).entries

end Ledger

/-- Why a document cannot be used. -/
inductive LoadFault where
  | malformed (document : String) (why : Fault)
  | ruleSet (why : RuleSetFault)
deriving DecidableEq

/-- What a document that is not well-formed is reported as, its fault aside. -/
def LoadFault.parseHeadline (document : String) : String := "Failed to parse " ++ document

def LoadFault.message : LoadFault → String
  | malformed document why => parseHeadline document ++ ": " ++ why.message
  | ruleSet why => why.message

/-- The store of the rule set that a text writes. -/
def Store.load (s : String) : Except LoadFault Store := do
  let rules ← (RuleSet.read s).mapError (.malformed "rule set")
  rules.toStore.mapError .ruleSet

end SpendingLimits
