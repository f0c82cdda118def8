import SpendingLimits.Amount.Exact
import SpendingLimits.Codec.Document
import SpendingLimits.Codec.Verdict
import SpendingLimits.CommandLine.Environment
import SpendingLimits.CommandLine.Folder
import SpendingLimits.CommandLine.Help
import SpendingLimits.Json.Printer

namespace SpendingLimits.CommandLine

/-- What the program finds around it. -/
structure Surroundings where
  environment : Environment
  variableFile : Option String
  read : String → Except ReadFault String
  now : Time.Instant

/-- Why the program fails. -/
inductive ProgramFault where
  | rulesPathMissing
  | unreadable (path : String) (why : ReadFault)
  | unusable (why : LoadFault)
  | invalidAccount (text : String)
  | invalidAmount (text : String) (why : DomainFault)
  | unknownTransactionType (text : String)
  | unknownPaymentMethod (text : String)
  | service (why : ServiceFault)
  | store (why : StoreFault)
deriving DecidableEq

/-- The message that stands first; what a malformed document has wrong is not part of it. -/
def ProgramFault.message : ProgramFault → String
  | rulesPathMissing => "LIMITS_RULES_PATH environment variable or --rules is required"
  | unreadable path why => "Failed to read " ++ path ++ ": " ++ why.message
  | unusable (.malformed document _) => LoadFault.parseHeadline document
  | unusable why => why.message
  | invalidAccount text => "Invalid account ID: " ++ text
  | invalidAmount text why => "Invalid amount " ++ text ++ ": " ++ why.message
  | unknownTransactionType text =>
    "Unknown transaction type: " ++ text ++
      ". Supported: DEPOSIT, WITHDRAWAL, TRANSFER, CARD_PAYMENT"
  | unknownPaymentMethod text =>
    "Unknown payment method: " ++ text ++ ". Supported: CARD, ACH, WALLET"
  | service why => why.message
  | store why => why.message

/-- How the program ends. It is aborted if a variable cannot have the value that the file of
variables gives it, or if a window would begin before the first instant. -/
inductive Outcome where
  | finished (status : Nat) (output : String)
  | failed (why : ProgramFault)
  | rejected
  | aborted
deriving DecidableEq

namespace Outcome

def exitStatus : Outcome → Nat
  | finished status _ => status
  | failed _ => 1
  | rejected => 2
  | aborted => 101

def output : Outcome → String
  | finished _ output => output
  | _ => ""

/-- The outcome of arguments without faults. -/
def ofResult : Except ProgramFault (Nat × String) → Outcome
  | .ok (status, output) => .finished status (output ++ "\n")
  | .error (.service .windowStart) => .aborted
  | .error why => .failed why

end Outcome

/-- The surroundings with the variables of the file of variables added to the others. -/
def Surroundings.load? (s : Surroundings) : Option Surroundings :=
  match s.variableFile with
  | some file =>
    (s.environment.load? file).map fun e => { s with environment := e, variableFile := none }
  | none => some s

/-- A path from a variable that holds more than blanks. -/
def Surroundings.path? (s : Surroundings) (name : String) : Option String :=
  (s.environment.value? name).filter (!Text.isBlankText ·)

/-- The path of the rule set. -/
def rulesPath (i : Invocation) (s : Surroundings) : Except ProgramFault String :=
  match i.rules <|> s.path? "LIMITS_RULES_PATH" with
  | some path => .ok path
  | none => .error .rulesPathMissing

/-- The path of the ledger, if there is to be one. -/
def ledgerPath? (i : Invocation) (s : Surroundings) : Option String :=
  i.ledger <|> s.path? "LIMITS_LEDGER_PATH"

/-- The text of a file. -/
def Surroundings.file (s : Surroundings) (path : String) : Except ProgramFault String :=
  (s.read path).mapError (.unreadable path)

/-- The store of the rule set. -/
def loadStore (i : Invocation) (s : Surroundings) : Except ProgramFault Store := do
  let text ← s.file (← rulesPath i s)
  (Store.load text).mapError .unusable

/-- The ledger, empty if there is none. -/
def loadLedger (i : Invocation) (s : Surroundings) : Except ProgramFault Ledger :=
  match ledgerPath? i s with
  | none => .ok Ledger.empty
  | some path => do
    let text ← s.file path
    (Ledger.empty.load text).mapError fun why => .unusable (.malformed "ledger" why)

def readAccount (s : String) : Except ProgramFault AccountId :=
  match AccountId.read? s.toList with
  | some account => .ok account
  | none => .error (.invalidAccount s)

def readAmount (s : String) : Except ProgramFault Amount :=
  (Amount.read s).mapError (.invalidAmount s)

/-- The context of a subject. -/
def readContext (s : Subject) : Except ProgramFault Context := do
  let transactionType ← s.transactionType.mapM fun t =>
    (TransactionType.read t).mapError fun _ => ProgramFault.unknownTransactionType t
  let paymentMethod ← s.paymentMethod.mapM fun m =>
    (PaymentMethod.read m).mapError fun _ => ProgramFault.unknownPaymentMethod m
  return ⟨transactionType, paymentMethod⟩

def readRequest (s : Subject) (amount : String) : Except ProgramFault CheckRequest := do
  return ⟨← readAccount s.account, ← readAmount amount, ← readContext s⟩

def readQuery (s : Subject) : Except ProgramFault LimitsQuery := do
  return ⟨← readAccount s.account, ← readContext s⟩

/-- The status with which a check ends: 0 for an allowed transaction, 2 for a denied one. -/
def verdictStatus (v : Verdict) : Nat := if v.status.isAllowed then 0 else 2

/-- The report on a store whose rules are in order. -/
def validationReport (store : Store) (book : Rulebook) : String :=
  "Profiles:       " ++ toString store.profiles.length ++
    "\nConfigurations: " ++ toString book.size ++
    "\nDefault:        " ++ book.fallback.id.text ++
    "\n✓ Rule set is valid"

/-- Carries a command out: the exit status and the output. -/
def perform (command : Command) (store : Store) (ledger : Ledger) (now : Time.Instant) :
    Except ProgramFault (Nat × String) :=
  let sources := Sources.ofMemory store ledger now
  match command with
  | .check subject amount => do
    let verdict ← (sources.check (← readRequest subject amount)).mapError .service
    return (verdictStatus verdict, verdict.toJson.pretty)
  | .limits subject => do
    let summary ← (sources.limits (← readQuery subject)).mapError .service
    return (0, summary.toJson.pretty)
  | .profile subject => do
    let profile ← (sources.profile (← readQuery subject)).mapError .service
    return (0, profile.toJson.pretty)
  | .validate => do
    let book ← store.rulebook.mapError .store
    return (0, validationReport store book)

/-- Runs arguments without faults: the rule set and the ledger are loaded before the arguments of
the command are looked at. -/
def Invocation.run (i : Invocation) (s : Surroundings) : Except ProgramFault (Nat × String) := do
  let store ← loadStore i s
  let ledger ← loadLedger i s
  perform i.command store ledger s.now

def versionText : String := "limits 0.1.0"

/-- Runs the program: the variables are loaded before the arguments are looked at. -/
def run (args : List String) (s : Surroundings) : Outcome :=
  match s.load? with
  | none => .aborted
  | some s =>
    match parse args with
    | .run i => .ofResult (i.run s)
    | .version => .finished 0 (versionText ++ "\n")
    | .help about => .finished 0 (helpText about)
    | .rejected => .rejected

/-- The paths that a run of the program may read. -/
def pathsOf (args : List String) (s : Surroundings) : List String :=
  match s.load?, parse args with
  | some s, .run i => (rulesPath i s).toOption.toList ++ (ledgerPath? i s).toList
  | _, _ => []

end SpendingLimits.CommandLine
