import SpendingLimits.Amount.Arithmetic
import SpendingLimits.Time.Instant

namespace SpendingLimits

/-- A rolling window that ends now. -/
inductive Window where
  | daily
  | weekly
  | monthly
deriving DecidableEq

namespace Window

def days : Window → Nat
  | daily => 1
  | weekly => 7
  | monthly => 30

def name : Window → String
  | daily => "daily"
  | weekly => "weekly"
  | monthly => "monthly"

def ofName? : String → Option Window
  | "daily" => some daily
  | "weekly" => some weekly
  | "monthly" => some monthly
  | _ => none

/-- The first instant of the window, if it is in range. -/
def start? (w : Window) (now : Time.Instant) : Option Time.Instant := now.daysEarlier? w.days

end Window

/-- The totals of one account at one time. -/
structure Usage where
  daily : Amount
  weekly : Amount
  monthly : Amount
  allTime : Amount
deriving DecidableEq

def Usage.total (u : Usage) : Window → Amount
  | .daily => u.daily
  | .weekly => u.weekly
  | .monthly => u.monthly

/-- The sum of amounts, added up from the front. -/
def Amount.sum? (amounts : List Amount) : Option Amount := amounts.foldlM Amount.add? Amount.zero

end SpendingLimits
