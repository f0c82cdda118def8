import SpendingLimits.Fault
import SpendingLimits.Text.Blank
import SpendingLimits.Text.Capital
import SpendingLimits.Time.Instant

namespace SpendingLimits

inductive TransactionType where
  | deposit
  | withdrawal
  | transfer
  | cardPayment
deriving DecidableEq

inductive PaymentMethod where
  | card
  | ach
  | wallet
deriving DecidableEq

/-- How far a transaction has come. -/
inductive EntryStatus where
  | success
  | pending
  | failed
deriving DecidableEq

namespace TransactionType

def name : TransactionType → String
  | deposit => "DEPOSIT"
  | withdrawal => "WITHDRAWAL"
  | transfer => "TRANSFER"
  | cardPayment => "CARD_PAYMENT"

def ofName? : String → Option TransactionType
  | "DEPOSIT" => some deposit
  | "WITHDRAWAL" => some withdrawal
  | "TRANSFER" => some transfer
  | "CARD_PAYMENT" => some cardPayment
  | _ => none

theorem ofName?_name (t : TransactionType) : ofName? t.name = some t := by cases t <;> rfl

/-- An underscore for a hyphen. Every other character stays as it is. -/
def underscored (c : Char) : Char := if c = '-' then '_' else c

/-- Reads a name in letters of either case, with hyphens for underscores and blanks around it. -/
def read (s : String) : Except DomainFault TransactionType :=
  match ofName? (String.ofList ((Text.inCapitals (Text.trim s.toList)).map underscored)) with
  | some t => .ok t
  | none => .error (.validation (.unknownTransactionType s))

end TransactionType

namespace PaymentMethod

def name : PaymentMethod → String
  | card => "CARD"
  | ach => "ACH"
  | wallet => "WALLET"

def ofName? : String → Option PaymentMethod
  | "CARD" => some card
  | "ACH" => some ach
  | "WALLET" => some wallet
  | _ => none

theorem ofName?_name (m : PaymentMethod) : ofName? m.name = some m := by cases m <;> rfl

/-- Reads a name in letters of either case, with blanks around it. -/
def read (s : String) : Except DomainFault PaymentMethod :=
  match ofName? (String.ofList (Text.inCapitals (Text.trim s.toList))) with
  | some m => .ok m
  | none => .error (.validation (.unknownPaymentMethod s))

end PaymentMethod

namespace EntryStatus

def name : EntryStatus → String
  | success => "SUCCESS"
  | pending => "PENDING"
  | failed => "FAILED"

def ofName? : String → Option EntryStatus
  | "SUCCESS" => some success
  | "PENDING" => some pending
  | "FAILED" => some failed
  | _ => none

theorem ofName?_name (s : EntryStatus) : ofName? s.name = some s := by cases s <;> rfl

/-- Whether transactions in this state use up limits. Only failed ones do not. -/
def counts : EntryStatus → Bool
  | failed => false
  | _ => true

end EntryStatus

/-- What a request says about a transaction besides its amount. -/
structure Context where
  transactionType : Option TransactionType
  paymentMethod : Option PaymentMethod
deriving DecidableEq

/-- A transaction in a ledger. An entry without an identifier of its own is given one by whoever
needs it. -/
structure Entry where
  id : Option EntryId
  account : AccountId
  amount : Amount
  context : Context
  status : EntryStatus
  createdAt : Time.Instant
deriving DecidableEq

end SpendingLimits
