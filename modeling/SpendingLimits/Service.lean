import SpendingLimits.Ledger
import SpendingLimits.Store
import SpendingLimits.Verdict

namespace SpendingLimits

/-- A request to check a transaction. -/
structure CheckRequest where
  account : AccountId
  amount : Amount
  context : Context
deriving DecidableEq

/-- A question for the limits of an account. -/
structure LimitsQuery where
  account : AccountId
  context : Context
deriving DecidableEq

/-- Where the service reads from, as the answers that it gets during one call. -/
structure Sources where
  windowTotal : Window → AccountId → Except StoreFault Amount
  allTimeTotal : AccountId → Except StoreFault Amount
  rulebook : Except StoreFault Rulebook
  profile? : ProfileId → Except StoreFault (Option Profile)

namespace Sources

/-- A store, and a ledger at a time. -/
def ofMemory (store : Store) (ledger : Ledger) (now : Time.Instant) : Sources where
  windowTotal w account := ledger.windowTotal w account now
  allTimeTotal account := ledger.allTimeTotal account now
  rulebook := store.rulebook
  profile? id := .ok (store.profile? id)

/-- All totals of an account, read in this order. The first source that fails decides the answer. -/
def usage (s : Sources) (account : AccountId) : Except StoreFault Usage := do
  let daily ← s.windowTotal .daily account
  let weekly ← s.windowTotal .weekly account
  let monthly ← s.windowTotal .monthly account
  let allTime ← s.allTimeTotal account
  return ⟨daily, weekly, monthly, allTime⟩

/-- The profile of the rule that applies. -/
def applicable (s : Sources) (context : Context) (allTime : Amount) :
    Except StoreFault Profile := do
  let book ← s.rulebook
  let id := (book.choose context allTime).profile
  match ← s.profile? id with
  | some p => return p
  | none => throw (.domain (.profileNotFound id))

/-- The verdict on a request. -/
def check (s : Sources) (request : CheckRequest) : Except ServiceFault Verdict :=
  Except.mapError ServiceFault.ofStore do
    let usage ← s.usage request.account
    let p ← s.applicable request.context usage.allTime
    return p.judge usage request.amount

/-- The summary of the limits of an account. -/
def limits (s : Sources) (query : LimitsQuery) : Except ServiceFault Summary :=
  Except.mapError ServiceFault.ofStore do
    let usage ← s.usage query.account
    let p ← s.applicable query.context usage.allTime
    return p.summary usage

/-- The profile that applies to an account. Of the totals only the one over all time is read. -/
def profile (s : Sources) (query : LimitsQuery) : Except ServiceFault Profile :=
  Except.mapError ServiceFault.ofStore do
    let allTime ← s.allTimeTotal query.account
    s.applicable query.context allTime

end Sources

end SpendingLimits
