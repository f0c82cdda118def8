import SpendingLimits.Transaction
import SpendingLimits.Usage

namespace SpendingLimits

/-- The entries in the order of recording. -/
structure Ledger where
  entries : List Entry
deriving DecidableEq

namespace Ledger

def empty : Ledger := ⟨[]⟩

def record (l : Ledger) (e : Entry) : Ledger := ⟨l.entries ++ [e]⟩

def recordAll (l : Ledger) (es : List Entry) : Ledger := es.foldl record l

def size (l : Ledger) : Nat := l.entries.length

/-- The entries of an account. -/
def history (l : Ledger) (account : AccountId) : List Entry :=
  l.entries.filter (·.account == account)

/-- Whether an entry counts at a time, in a window that begins at `start` or has no beginning. -/
def isCounted (now : Time.Instant) (start : Option Time.Instant) (e : Entry) : Bool :=
  e.status.counts && decide (e.createdAt ≤ now) && start.all fun t => decide (t ≤ e.createdAt)

/-- The total of an account in a window that begins at `start` or has no beginning, added up in the
order of recording. -/
def totalSince (l : Ledger) (account : AccountId) (now : Time.Instant)
    (start : Option Time.Instant) : Except StoreFault Amount :=
  match Amount.sum? (((l.history account).filter (isCounted now start)).map (·.amount)) with
  | some total => .ok total
  | none => .error (.storage (.totalOverflow account))

/-- The total of an account in a rolling window. An account without history has used nothing, even
where the window would begin before the first instant. -/
def windowTotal (l : Ledger) (w : Window) (account : AccountId) (now : Time.Instant) :
    Except StoreFault Amount :=
  if (l.history account).isEmpty then .ok Amount.zero
  else
    match w.start? now with
    | some start => l.totalSince account now (some start)
    | none => .error .windowStart

/-- The total of an account over all time. -/
def allTimeTotal (l : Ledger) (account : AccountId) (now : Time.Instant) :
    Except StoreFault Amount := l.totalSince account now none

/-- All totals of an account; the first that fails is reported. -/
def usage (l : Ledger) (account : AccountId) (now : Time.Instant) : Except StoreFault Usage := do
  let daily ← l.windowTotal .daily account now
  let weekly ← l.windowTotal .weekly account now
  let monthly ← l.windowTotal .monthly account now
  let allTime ← l.allTimeTotal account now
  return ⟨daily, weekly, monthly, allTime⟩

end Ledger

end SpendingLimits
