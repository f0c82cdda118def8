namespace SpendingLimits.CommandLine

/-- What a command is told about the transactions it asks for, as it is written. -/
structure Subject where
  account : String
  transactionType : Option String
  paymentMethod : Option String
deriving DecidableEq

inductive Command where
  | check (subject : Subject) (amount : String)
  | limits (subject : Subject)
  | profile (subject : Subject)
  | validate
deriving DecidableEq

/-- Arguments without faults. -/
structure Invocation where
  rules : Option String
  ledger : Option String
  command : Command
deriving DecidableEq

/-- The commands that arguments may name. -/
inductive CommandName where
  | check
  | limits
  | profile
  | validate
  | help
deriving DecidableEq

namespace CommandName

def name : CommandName → String
  | check => "check"
  | limits => "limits"
  | profile => "profile"
  | validate => "validate"
  | help => "help"

/-- The commands in the order in which they are listed. -/
def all : List CommandName := [check, limits, profile, validate, help]

def ofName? (s : String) : Option CommandName := all.find? (·.name == s)

end CommandName

/-- What arguments ask for. Help is about a command, or about the program as a whole. -/
inductive Parsed where
  | run (invocation : Invocation)
  | version
  | help (about : Option CommandName)
  | rejected
deriving DecidableEq

/-- An argument by its shape. -/
inductive Word where
  | plain (text : String)
  | long (name : String) (value : Option String)
  | short (letter : Char)
  | terminator
deriving DecidableEq

def Word.ofString (s : String) : Word :=
  match s.toList with
  | ['-', '-'] => .terminator
  | '-' :: '-' :: cs =>
    match cs.dropWhile (· != '=') with
    | [] => .long (String.ofList cs) none
    | _ :: value => .long (String.ofList (cs.takeWhile (· != '='))) (some (String.ofList value))
  | '-' :: c :: _ => .short c
  | _ => .plain s

/-- An option with a value: its name, whether it must be given, whether it may be given without
content, and what help says about it. -/
structure OptionKind where
  name : String
  isRequired : Bool
  mayBeEmpty : Bool
  about : String
deriving DecidableEq

/-- Why options end before the arguments do. -/
inductive Halt where
  | version
  | help (about : Option CommandName)
  | rejected
deriving DecidableEq

def Halt.toParsed : Halt → Parsed
  | version => .version
  | help about => .help about
  | rejected => .rejected

/-- The values of options by name. -/
abbrev Values := List (String × String)

/-- Adds the value of an option that has none yet. -/
def addValue (known : List OptionKind) (values : Values) (name value : String) :
    Except Halt Values :=
  match known.find? (·.name == name) with
  | some kind =>
    if (values.lookup name).isSome || (value.isEmpty && !kind.mayBeEmpty) then .error .rejected
    else .ok ((name, value) :: values)
  | none => .error .rejected

/-- Where an argument that is an option without value leads, among those of the program or of one
of its commands. Only the program has a version. -/
def haltAt (place : Option CommandName) : Word → Halt
  | .long "help" none => .help place
  | .short 'h' => .help place
  | .long "version" none => if place = none then .version else .rejected
  | .short 'V' => if place = none then .version else .rejected
  | _ => .rejected

/-- Takes options off the front of the arguments: `--name value`, or `--name=value`, in which the
value may start with a hyphen. What is left starts with an argument that is no option. -/
def takeOptions (known : List OptionKind) (place : Option CommandName) (values : Values) :
    List String → Except Halt (Values × List String)
  | [] => .ok (values, [])
  | a :: args =>
    match Word.ofString a with
    | .plain _ => .ok (values, a :: args)
    | .terminator => if args.isEmpty then .ok (values, []) else .error .rejected
    | .long name (some value) => do
      takeOptions known place (← addValue known values name value) args
    | .long name none =>
      if known.any (·.name == name) then
        match args with
        | value :: args =>
          match Word.ofString value with
          | .plain value => do
            takeOptions known place (← addValue known values name value) args
          | _ => .error .rejected
        | [] => .error .rejected
      else .error (haltAt place (.long name none))
    | .short letter => .error (haltAt place (.short letter))

/-- The options before the command. -/
def fileOptions : List OptionKind :=
  [⟨"rules", false, false, "Path to the rule set JSON file [env: LIMITS_RULES_PATH]"⟩,
    ⟨"ledger", false, false, "Path to the ledger JSON file [env: LIMITS_LEDGER_PATH]"⟩]

def accountOption : OptionKind := ⟨"account", true, true, "Account ID (UUID)"⟩

/-- The options of a command. -/
def CommandName.options : CommandName → List OptionKind
  | check =>
    [accountOption,
      ⟨"amount", true, true, "Transaction amount in major units, e.g. 125.50"⟩,
      ⟨"transaction-type", false, true, "DEPOSIT, WITHDRAWAL, TRANSFER or CARD_PAYMENT"⟩,
      ⟨"payment-method", false, true, "CARD, ACH or WALLET"⟩]
  | limits | profile =>
    [accountOption, ⟨"transaction-type", false, true, ""⟩, ⟨"payment-method", false, true, ""⟩]
  | validate | help => []

/-- Takes the options of a command, which must use up the arguments. -/
def takeAll (place : CommandName) (args : List String) : Except Halt Values := do
  let (values, rest) ← takeOptions place.options place [] args
  if rest.isEmpty then return values else .error .rejected

/-- The value of an option that must be given. -/
def need (values : Values) (name : String) : Except Halt String :=
  match values.lookup name with
  | some value => .ok value
  | none => .error .rejected

def subject (values : Values) : Except Halt Subject := do
  return ⟨← need values "account", values.lookup "transaction-type", values.lookup "payment-method"⟩

/-- The command with its options. -/
def command (args : List String) : CommandName → Except Halt Command
  | .check => do
    let values ← takeAll .check args
    return .check (← subject values) (← need values "amount")
  | .limits => do return .limits (← subject (← takeAll .limits args))
  | .profile => do return .profile (← subject (← takeAll .profile args))
  | .validate => do
    let _ ← takeAll .validate args
    return .validate
  | .help =>
    match args with
    | [] => .error (.help none)
    | [name] =>
      match CommandName.ofName? name with
      | some about => .error (.help about)
      | none => .error .rejected
    | _ => .error .rejected

/-- What the arguments ask for. -/
def invocation (args : List String) : Except Halt Invocation := do
  let (values, rest) ← takeOptions fileOptions none [] args
  match rest with
  | name :: args =>
    match CommandName.ofName? name with
    | some which =>
      return ⟨values.lookup "rules", values.lookup "ledger", ← command args which⟩
    | none => .error .rejected
  | [] => .error .rejected

def parse (args : List String) : Parsed :=
  match invocation args with
  | .ok i => .run i
  | .error h => h.toParsed

end SpendingLimits.CommandLine
