import SpendingLimits.Profile

namespace SpendingLimits

/-- The outcome of a check. -/
inductive Status where
  | allowed
  | tooSmall
  | tooLarge
  | limitReached (window : Window)
deriving DecidableEq

namespace Status

def name : Status → String
  | allowed => "ALLOWED"
  | tooSmall => "TRANSACTION_TOO_SMALL"
  | tooLarge => "TRANSACTION_TOO_LARGE"
  | limitReached .monthly => "MONTHLY_LIMIT_REACHED"
  | limitReached .weekly => "WEEKLY_LIMIT_REACHED"
  | limitReached .daily => "DAILY_LIMIT_REACHED"

def ofName? : String → Option Status
  | "ALLOWED" => some allowed
  | "TRANSACTION_TOO_SMALL" => some tooSmall
  | "TRANSACTION_TOO_LARGE" => some tooLarge
  | "MONTHLY_LIMIT_REACHED" => some (limitReached .monthly)
  | "WEEKLY_LIMIT_REACHED" => some (limitReached .weekly)
  | "DAILY_LIMIT_REACHED" => some (limitReached .daily)
  | _ => none

theorem ofName?_name (s : Status) : ofName? s.name = some s := by
  rcases s with _ | _ | _ | w
  · rfl
  · rfl
  · rfl
  · cases w <;> rfl

def isAllowed (s : Status) : Bool := s == allowed

end Status

/-- The answer to a check: its outcome and the range in which amounts would be allowed. -/
structure Verdict where
  status : Status
  low : Amount
  high : Amount
deriving DecidableEq

/-- A window in a summary. -/
structure WindowLimit where
  cap : Option Amount
  used : Amount
  days : UInt32
deriving DecidableEq

/-- What a profile allows and how much of it is used. Weeks and days are left out where the profile
has no cap on them. -/
structure Summary where
  minTransaction : Amount
  maxTransaction : Amount
  monthly : WindowLimit
  weekly : Option WindowLimit
  daily : Option WindowLimit
deriving DecidableEq

namespace Profile

/-- The order in which windows are looked at. -/
def windowOrder : List Window := [.monthly, .weekly, .daily]

/-- Whether an amount takes the total of a window above its cap. -/
def isExceeded (p : Profile) (usage : Usage) (proposed : Amount) (w : Window) : Bool :=
  (p.cap? w).any fun cap => Amount.wouldExceed (usage.total w) proposed cap

/-- What is left of a window; without a cap, all that a transaction may have. -/
def headroom (p : Profile) (usage : Usage) (w : Window) : Amount :=
  match p.cap? w with
  | some cap => Amount.remainingUnder (usage.total w) cap
  | none => p.maxTransaction

/-- The verdict on a proposed amount: first the bounds of a transaction, then the windows. -/
def judge (p : Profile) (usage : Usage) (proposed : Amount) : Verdict :=
  if proposed < p.minTransaction then ⟨.tooSmall, p.minTransaction, p.maxTransaction⟩
  else if p.maxTransaction < proposed then ⟨.tooLarge, p.minTransaction, p.maxTransaction⟩
  else
    match windowOrder.find? (p.isExceeded usage proposed) with
    | some w => ⟨.limitReached w, p.minTransaction, p.headroom usage w⟩
    | none => ⟨.allowed, p.minTransaction, p.maxTransaction⟩

/-- A window with the cap that the profile has on it. -/
def windowLimit (p : Profile) (usage : Usage) (w : Window) : WindowLimit :=
  ⟨p.cap? w, usage.total w, UInt32.ofNat w.days⟩

def summary (p : Profile) (usage : Usage) : Summary :=
  { minTransaction := p.minTransaction
    maxTransaction := p.maxTransaction
    monthly := p.windowLimit usage .monthly
    weekly := p.weekly.map fun _ => p.windowLimit usage .weekly
    daily := p.daily.map fun _ => p.windowLimit usage .daily }

end Profile

end SpendingLimits
