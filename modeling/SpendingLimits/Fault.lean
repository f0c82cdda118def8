import SpendingLimits.Amount.Printer
import SpendingLimits.Amount.Reader
import SpendingLimits.Identifier

namespace SpendingLimits

/-- Why a value is not valid. Here as in the other faults `other` carries wording from outside. -/
inductive ValidationFault where
  | invalidAmount (text : String) (why : Amount.TextFault)
  | unknownTransactionType (text : String)
  | unknownPaymentMethod (text : String)
  | unnamedProfile (id : ProfileId)
  | zeroBound (id : ProfileId)
  | crossedBounds (id : ProfileId) (low high : Amount)
  | duplicateProfile (id : ProfileId)
  | duplicateRule (id : RuleId)
  | other (text : String)
deriving DecidableEq

def ValidationFault.message : ValidationFault → String
  | invalidAmount text why => "Invalid amount '" ++ text ++ "': " ++ why.message
  | unknownTransactionType text => "Unknown transaction type: " ++ text
  | unknownPaymentMethod text => "Unknown payment method type: " ++ text
  | unnamedProfile id => "Limit profile " ++ id.text ++ " has an empty name"
  | zeroBound id => "Limit profile " ++ id.text ++ " must have positive per-transaction bounds"
  | crossedBounds id low high =>
    "Limit profile " ++ id.text ++ ": min_transaction " ++ low.plain ++
      " exceeds max_transaction " ++ high.plain
  | duplicateProfile id => "Duplicate limit profile id: " ++ id.text
  | duplicateRule id => "Duplicate limit configuration id: " ++ id.text
  | other text => text

/-- Why rules make no rulebook. -/
inductive RulebookFault where
  | noDefault
  | severalDefaults (first second : RuleId)
  | other (text : String)
deriving DecidableEq

def RulebookFault.message : RulebookFault → String
  | noDefault => "no default limit configuration in the active set"
  | severalDefaults first second =>
    "multiple default limit configurations in the active set: " ++ first.text ++ ", " ++ second.text
  | other text => text

/-- What can go wrong with values and rule sets. -/
inductive DomainFault where
  | negativeAmount
  | amountOverflow
  | validation (why : ValidationFault)
  | rulebook (why : RulebookFault)
  | profileNotFound (id : ProfileId)
deriving DecidableEq

def DomainFault.message : DomainFault → String
  | negativeAmount => "Amount cannot be negative"
  | amountOverflow => "Amount overflow"
  | validation why => "Validation error: " ++ why.message
  | rulebook why => "Limit configuration error: " ++ why.message
  | profileNotFound id => "Limit profile not found: " ++ id.text

/-- Why stored data gives no answer. -/
inductive StorageFault where
  | totalOverflow (account : AccountId)
  | other (text : String)
deriving DecidableEq

def StorageFault.message : StorageFault → String
  | totalOverflow account =>
    "usage total for " ++ account.text ++ ": " ++ DomainFault.amountOverflow.message
  | other text => text

/-- Why a change does not fit what is stored. -/
inductive ConflictFault where
  | ruleExists (id : RuleId)
  | other (text : String)
deriving DecidableEq

def ConflictFault.message : ConflictFault → String
  | ruleExists id => "Limit configuration " ++ id.text ++ " already exists"
  | other text => text

/-- What can go wrong with a collaborator of the service. `windowStart` is the one fault that is
no answer: a window that would begin before the first instant ends the computation. -/
inductive StoreFault where
  | domain (why : DomainFault)
  | storage (why : StorageFault)
  | conflict (why : ConflictFault)
  | windowStart
deriving DecidableEq

/-- The wording of a window that begins before the first instant. -/
def windowStartMessage : String := "`DateTime - TimeDelta` overflowed"

def StoreFault.message : StoreFault → String
  | domain why => why.message
  | storage why => "Storage error: " ++ why.message
  | conflict why => "Conflict: " ++ why.message
  | windowStart => windowStartMessage

/-- What can go wrong in a call of the service: the request is at fault, or the rules and the stored
data are. -/
inductive ServiceFault where
  | badRequest (text : String)
  | internal (text : String)
  | windowStart
deriving DecidableEq

def ServiceFault.message : ServiceFault → String
  | badRequest text => "Bad request: " ++ text
  | internal text => "Internal error: " ++ text
  | windowStart => windowStartMessage

/-- Faults of the rules are never the fault of a request. -/
def ServiceFault.ofDomain : DomainFault → ServiceFault
  | .rulebook why => internal (DomainFault.rulebook why).message
  | .profileNotFound id => internal (DomainFault.profileNotFound id).message
  | .validation why => badRequest why.message
  | .negativeAmount => badRequest DomainFault.negativeAmount.message
  | .amountOverflow => badRequest DomainFault.amountOverflow.message

def ServiceFault.ofStore : StoreFault → ServiceFault
  | .domain why => ofDomain why
  | .storage why => internal why.message
  | .conflict why => internal why.message
  | .windowStart => windowStart

end SpendingLimits
