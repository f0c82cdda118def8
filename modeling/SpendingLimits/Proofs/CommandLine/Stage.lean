import SpendingLimits.CommandLine.Program
import SpendingLimits.Proofs.RuleSet.Acceptance

namespace SpendingLimits

namespace CommandLine

/-- What a command asks for, once its texts have been read. -/
inductive Request where
  | check (request : CheckRequest)
  | limits (query : LimitsQuery)
  | profile (query : LimitsQuery)
  | validate

/-- The answer to a request: the exit status and the output. -/
def Request.answer (store : Store) (book : Rulebook) (ledger : Ledger) (now : Time.Instant) :
    Request → Except ServiceFault (Nat × String)
  | .check r => ((Sources.ofMemory store ledger now).check r).map fun v =>
      (if v.status = .allowed then 0 else 2, v.toJson.pretty)
  | .limits q => ((Sources.ofMemory store ledger now).limits q).map fun v => (0, v.toJson.pretty)
  | .profile q => ((Sources.ofMemory store ledger now).profile q).map fun p => (0, p.toJson.pretty)
  | .validate => .ok (0, validationReport store book)

namespace Command

/-- What a command is told about the transactions it asks for. -/
def subject? : Command → Option Subject
  | .check subject _ => some subject
  | .limits subject => some subject
  | .profile subject => some subject
  | .validate => none

/-- The amount of a check. -/
def amount? : Command → Option String
  | .check _ amount => some amount
  | _ => none

/-- Reads the texts of a command. -/
def read : Command → Except ProgramFault Request
  | .check subject amount => (readRequest subject amount).map .check
  | .limits subject => (readQuery subject).map .limits
  | .profile subject => (readQuery subject).map .profile
  | .validate => .ok .validate

end Command

/-- The stages of a run behind its arguments. -/
inductive Stage where
  | rulesPath
  | rulesFile
  | rulesText
  | rulesCheck
  | ledgerFile
  | ledgerText
  | account
  | amount
  | transactionType
  | paymentMethod
  | answer
deriving DecidableEq

namespace Stage

def ofRules : List Stage := [rulesPath, rulesFile, rulesText, rulesCheck]

def ofLedger : List Stage := [ledgerFile, ledgerText]

def ofTexts : List Stage := [account, amount, transactionType, paymentMethod]

/-- The order of the stages. -/
def order : List Stage := ofRules ++ ofLedger ++ ofTexts ++ [answer]

end Stage

namespace Invocation

variable (i : Invocation) (s : Surroundings)

/-- The text of the rule set, if it can be read. -/
def rulesText? : Option String := (rulesPath i s).toOption.bind fun path => (s.file path).toOption

/-- The rule set, if it has one that is well-formed. -/
def ruleSet? : Option RuleSet := (i.rulesText? s).bind fun text => (RuleSet.read text).toOption

/-- The text of the ledger, if there is one that can be read. -/
def ledgerText? : Option String := (ledgerPath? i s).bind fun path => (s.file path).toOption

/-- The answer, if there is all that it takes. -/
def answer? : Option (Except ServiceFault (Nat × String)) := do
  let rules ← i.ruleSet? s
  let book ← rules.validate.toOption
  let ledger ← (loadLedger i s).toOption
  let request ← i.command.read.toOption
  return request.answer ⟨rules.profiles, rules.rules⟩ book ledger s.now

/-- What is wrong at a stage, whatever is wrong at the others. -/
def faultAt : Stage → Option ProgramFault
  | .rulesPath => fault? (rulesPath i s)
  | .rulesFile => (rulesPath i s).toOption.bind fun path => fault? (s.file path)
  | .rulesText => (i.rulesText? s).bind fun text =>
      (fault? (RuleSet.read text)).map fun why => .unusable (.malformed "rule set" why)
  | .rulesCheck => (i.ruleSet? s).bind fun rules =>
      (fault? rules.validate).map fun why => .unusable (.ruleSet (.invalid why))
  | .ledgerFile => (ledgerPath? i s).bind fun path => fault? (s.file path)
  | .ledgerText => (i.ledgerText? s).bind fun text =>
      (fault? (Ledger.read text)).map fun why => .unusable (.malformed "ledger" why)
  | .account => i.command.subject?.bind fun subject => fault? (readAccount subject.account)
  | .amount => i.command.amount?.bind fun text => fault? (readAmount text)
  | .transactionType => (i.command.subject?.bind (·.transactionType)).bind fun text =>
      (fault? (TransactionType.read text)).map fun _ => .unknownTransactionType text
  | .paymentMethod => (i.command.subject?.bind (·.paymentMethod)).bind fun text =>
      (fault? (PaymentMethod.read text)).map fun _ => .unknownPaymentMethod text
  | .answer => (i.answer? s).bind fun answer => (fault? answer).map .service

/-- The fault of the first stage that has one. -/
def firstFault? : Option ProgramFault := Stage.order.findSome? (i.faultAt s)

end Invocation

variable {i : Invocation} {s : Surroundings}

theorem fault?_toStore (rules : RuleSet) :
    fault? rules.toStore = (fault? rules.validate).map .invalid := by
  cases h : rules.validate with
  | ok book => rw [(RuleSet.validate_eq_ok.mp h).toStore]; rfl
  | error why => rw [RuleSet.toStore_eq_error.mpr ⟨why, h, rfl⟩]; rfl

theorem fault?_storeLoad (text : String) :
    fault? (Store.load text) = ((fault? (RuleSet.read text)).map (.malformed "rule set")).or
      ((RuleSet.read text).toOption.bind fun rules =>
        (fault? rules.validate).map fun why => .ruleSet (.invalid why)) := by
  rw [← fault?_mapError]
  refine fault?_bind fun rules h => ?_
  rw [mapError_eq_ok.mp h, fault?_mapError, fault?_toStore, Option.map_map]
  rfl

theorem fault?_loadStore :
    fault? (loadStore i s) = Stage.ofRules.findSome? (i.faultAt s) := by
  simp only [Stage.ofRules, findSome?_cons_or, List.findSome?_nil, Option.or_none]
  refine fault?_bind fun path hpath => ?_
  have hfile : i.faultAt s .rulesFile = fault? (s.file path) := by
    rw [Invocation.faultAt, hpath]
    rfl
  have htext : i.rulesText? s = (s.file path).toOption := by
    rw [Invocation.rulesText?, hpath]
    rfl
  rw [hfile]
  refine fault?_bind fun text hread => ?_
  rw [hread] at htext
  have hrules : i.ruleSet? s = (RuleSet.read text).toOption := by
    rw [Invocation.ruleSet?, htext]
    rfl
  rw [fault?_mapError, fault?_storeLoad, Invocation.faultAt, Invocation.faultAt, htext, hrules]
  simp only [Except.toOption, Option.bind_some]
  cases RuleSet.read text with
  | error why => rfl
  | ok rules =>
    simp only [fault?, Option.map_none, Option.none_or, Option.bind_some, Option.map_map]
    rfl

theorem ruleSet?_eq_some {rules : RuleSet} :
    i.ruleSet? s = some rules ↔ ∃ path text, rulesPath i s = .ok path ∧ s.file path = .ok text ∧
      RuleSet.read text = .ok rules := by
  simp only [Invocation.ruleSet?, Invocation.rulesText?, Option.bind_eq_some_iff, toOption_eq_some]
  constructor
  · rintro ⟨text, ⟨path, hpath, hfile⟩, hread⟩
    exact ⟨path, text, hpath, hfile, hread⟩
  · rintro ⟨path, text, hpath, hfile, hread⟩
    exact ⟨text, ⟨path, hpath, hfile⟩, hread⟩

theorem loadStore_eq_ok {store : Store} :
    loadStore i s = .ok store ↔ ∃ rules book, i.ruleSet? s = some rules ∧
      rules.validate = .ok book ∧ store = ⟨rules.profiles, rules.rules⟩ := by
  simp only [loadStore, Store.load, bind_eq_ok, mapError_eq_ok, RuleSet.toStore_eq_ok,
    ruleSet?_eq_some, RuleSet.validate_eq_ok]
  constructor
  · rintro ⟨path, hpath, text, hfile, rules, hread, ⟨book, hwell⟩, hstore⟩
    exact ⟨rules, book, ⟨path, text, hpath, hfile, hread⟩, hwell, hstore⟩
  · rintro ⟨rules, book, ⟨path, text, hpath, hfile, hread⟩, hwell, hstore⟩
    exact ⟨path, hpath, text, hfile, rules, hread, ⟨book, hwell⟩, hstore⟩

theorem fault?_loadLedger :
    fault? (loadLedger i s) = Stage.ofLedger.findSome? (i.faultAt s) := by
  simp only [Stage.ofLedger, findSome?_cons_or, List.findSome?_nil, Option.or_none,
    Invocation.faultAt, Invocation.ledgerText?, loadLedger]
  cases ledgerPath? i s with
  | none => rfl
  | some path =>
    simp only [Option.bind_some]
    refine fault?_bind fun text hread => ?_
    rw [fault?_mapError, hread, Ledger.load]
    simp only [Except.toOption, Option.bind_some]
    cases Ledger.read text <;> rfl

theorem fault?_mapM {A : Type} (read : String → Except ProgramFault A) (text : Option String) :
    fault? (text.mapM read) = text.bind fun t => fault? (read t) := by
  cases text with
  | none => rfl
  | some t => exact fault?_map some (read t)

theorem fault?_readContext (subject : Subject) :
    fault? (readContext subject) =
      (subject.transactionType.bind fun text =>
        (fault? (TransactionType.read text)).map fun _ => .unknownTransactionType text).or
      (subject.paymentMethod.bind fun text =>
        (fault? (PaymentMethod.read text)).map fun _ => .unknownPaymentMethod text) := by
  have htype := fault?_mapM (fun t => (TransactionType.read t).mapError
    fun _ => ProgramFault.unknownTransactionType t) subject.transactionType
  have hmethod := fault?_mapM (fun m => (PaymentMethod.read m).mapError
    fun _ => ProgramFault.unknownPaymentMethod m) subject.paymentMethod
  simp only [fault?_mapError] at htype hmethod
  rw [readContext, ← htype, ← hmethod]
  refine fault?_bind fun _ _ => ?_
  exact fault?_map (Context.mk _) _

/-- What is wrong with the texts of a command. -/
theorem fault?_read : fault? i.command.read = Stage.ofTexts.findSome? (i.faultAt s) := by
  simp only [Stage.ofTexts, findSome?_cons_or, List.findSome?_nil, Option.or_none,
    Invocation.faultAt]
  cases i.command with
  | check subject amount =>
    rw [Command.read, fault?_map]
    refine fault?_bind fun _ _ => fault?_bind fun _ _ => ?_
    exact (fault?_map _ _).trans (fault?_readContext subject)
  | limits subject =>
    rw [Command.read, fault?_map]
    refine fault?_bind fun _ _ => ?_
    exact (fault?_map _ _).trans (fault?_readContext subject)
  | profile subject =>
    rw [Command.read, fault?_map]
    refine fault?_bind fun _ _ => ?_
    exact (fault?_map _ _).trans (fault?_readContext subject)
  | validate => rfl

theorem verdictStatus_eq (v : Verdict) :
    verdictStatus v = if v.status = .allowed then 0 else 2 := by
  simp [verdictStatus, Status.isAllowed]

/-- A command is carried out in two steps: its texts are read, and the request is answered. -/
theorem perform_eq {command : Command} {store : Store} {book : Rulebook} {ledger : Ledger}
    {now : Time.Instant} (h : store.rulebook = .ok book) :
    perform command store ledger now =
      command.read >>= fun r => (r.answer store book ledger now).mapError .service := by
  cases command with
  | check subject amount =>
    simp only [perform, Command.read, verdictStatus_eq]
    cases readRequest subject amount with
    | error why => rfl
    | ok r => exact mapError_bind_pure ..
  | limits subject =>
    rw [perform, Command.read]
    cases readQuery subject with
    | error why => rfl
    | ok q => exact mapError_bind_pure ..
  | profile subject =>
    rw [perform, Command.read]
    cases readQuery subject with
    | error why => rfl
    | ok q => exact mapError_bind_pure ..
  | validate =>
    rw [perform, h]
    rfl

theorem answer?_eq_some {answer : Except ServiceFault (Nat × String)} :
    i.answer? s = some answer ↔ ∃ rules book ledger r, i.ruleSet? s = some rules ∧
      rules.validate = .ok book ∧ loadLedger i s = .ok ledger ∧ i.command.read = .ok r ∧
      r.answer ⟨rules.profiles, rules.rules⟩ book ledger s.now = answer := by
  simp only [Invocation.answer?, Option.bind_eq_bind, Option.bind_eq_some_iff, toOption_eq_some,
    Option.pure_def, Option.some.injEq]
  constructor
  · rintro ⟨rules, hrules, book, hbook, ledger, hledger, r, hread, hanswer⟩
    exact ⟨rules, book, ledger, r, hrules, hbook, hledger, hread, hanswer⟩
  · rintro ⟨rules, book, ledger, r, hrules, hbook, hledger, hread, hanswer⟩
    exact ⟨rules, hrules, book, hbook, ledger, hledger, r, hread, hanswer⟩

/-- A run fails with the fault of the first stage that has one. -/
theorem run_eq_error {why : ProgramFault} : i.run s = .error why ↔ i.firstFault? s = some why := by
  rw [← fault?_eq_some, Invocation.firstFault?, Stage.order, List.findSome?_append,
    List.findSome?_append, List.findSome?_append, Option.or_assoc, Option.or_assoc,
    ← fault?_loadStore]
  refine Eq.congr_left (fault?_bind fun store hstore => ?_)
  rw [← fault?_loadLedger]
  refine fault?_bind fun ledger hledger => ?_
  rw [← fault?_read]
  obtain ⟨rules, book, hrules, hbook, rfl⟩ := loadStore_eq_ok.mp hstore
  rw [perform_eq (RuleSet.validate_eq_ok.mp hbook).heldBy.rulebook]
  refine fault?_bind fun r hread => ?_
  rw [fault?_mapError, List.findSome?_singleton, Invocation.faultAt,
    answer?_eq_some.mpr ⟨rules, book, ledger, r, hrules, hbook, hledger, hread, rfl⟩]
  rfl

/-- A run that does not fail has its answer. -/
theorem run_eq_ok {result : Nat × String} :
    i.run s = .ok result ↔ i.answer? s = some (.ok result) := by
  simp only [Invocation.run, bind_eq_ok, answer?_eq_some]
  constructor
  · rintro ⟨store, hstore, ledger, hledger, hperform⟩
    obtain ⟨rules, book, hrules, hbook, rfl⟩ := loadStore_eq_ok.mp hstore
    rw [perform_eq (RuleSet.validate_eq_ok.mp hbook).heldBy.rulebook, bind_eq_ok] at hperform
    obtain ⟨r, hread, hanswer⟩ := hperform
    exact ⟨rules, book, ledger, r, hrules, hbook, hledger, hread, mapError_eq_ok.mp hanswer⟩
  · rintro ⟨rules, book, ledger, r, hrules, hbook, hledger, hread, hanswer⟩
    refine ⟨_, loadStore_eq_ok.mpr ⟨rules, book, hrules, hbook, rfl⟩, ledger, hledger, ?_⟩
    rw [perform_eq (RuleSet.validate_eq_ok.mp hbook).heldBy.rulebook]
    exact bind_eq_ok.mpr ⟨r, hread, mapError_eq_ok.mpr hanswer⟩

end CommandLine

end SpendingLimits
