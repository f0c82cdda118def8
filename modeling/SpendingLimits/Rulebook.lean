import SpendingLimits.Transaction

namespace SpendingLimits

/-- What a rule asks of a transaction and its account; what is left open is not asked. -/
structure Criteria where
  transactionType : Option TransactionType
  paymentMethod : Option PaymentMethod
  minTotal : Option Amount
deriving DecidableEq

namespace Criteria

/-- Criteria that every transaction meets. -/
def any : Criteria := ⟨none, none, none⟩

/-- Whether a transaction meets the criteria, given the all-time total of its account. A type that
is asked for must be the type of the request; a request without a type has none of them. -/
def accepts (c : Criteria) (context : Context) (allTime : Amount) : Bool :=
  (c.transactionType.isNone || c.transactionType == context.transactionType) &&
    (c.paymentMethod.isNone || c.paymentMethod == context.paymentMethod) &&
    c.minTotal.all fun least => decide (least ≤ allTime)

end Criteria

/-- A rule. Among the specific rules that accept a transaction the one with the least priority
applies. -/
structure Rule where
  id : RuleId
  isDefault : Bool
  priority : Int32
  profile : ProfileId
  criteria : Criteria
deriving DecidableEq

/-- The active rules: specific ones, and the default that applies where none of them does. -/
structure Rulebook where
  specific : List Rule
  fallback : Rule
deriving DecidableEq

namespace Rulebook

/-- The rulebook of a list of rules, of which exactly one must be a default. -/
def ofRules (rules : List Rule) : Except DomainFault Rulebook :=
  match rules.filter (·.isDefault) with
  | [] => .error (.rulebook .noDefault)
  | [fallback] => .ok ⟨rules.filter (!·.isDefault), fallback⟩
  | first :: second :: _ => .error (.rulebook (.severalDefaults first.id second.id))

/-- The number of rules. -/
def size (book : Rulebook) : Nat := book.specific.length + 1

/-- The first of the rules whose priority is least. -/
def least? : List Rule → Option Rule
  | [] => none
  | r :: rs =>
    match least? rs with
    | none => some r
    | some s => if s.priority < r.priority then some s else some r

/-- The rule that applies to a transaction. -/
def choose (book : Rulebook) (context : Context) (allTime : Amount) : Rule :=
  (least? (book.specific.filter (·.criteria.accepts context allTime))).getD book.fallback

end Rulebook

end SpendingLimits
