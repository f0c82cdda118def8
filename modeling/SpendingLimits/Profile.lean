import SpendingLimits.Fault
import SpendingLimits.Text.Blank
import SpendingLimits.Usage

namespace SpendingLimits

structure Profile where
  id : ProfileId
  name : String
  minTransaction : Amount
  maxTransaction : Amount
  daily : Option Amount
  weekly : Option Amount
  monthly : Option Amount
  unsettledExposure : Amount
deriving DecidableEq

namespace Profile

/-- The cap on a window, if the profile has one. -/
def cap? (p : Profile) : Window → Option Amount
  | .daily => p.daily
  | .weekly => p.weekly
  | .monthly => p.monthly

/-- The profile with a cap on a window. -/
def withCap (p : Profile) (cap : Amount) : Window → Profile
  | .daily => { p with daily := some cap }
  | .weekly => { p with weekly := some cap }
  | .monthly => { p with monthly := some cap }

/-- A profile has a name that is more than blanks, and positive bounds in their order. The first of
these that fails is reported. -/
def validate (p : Profile) : Except DomainFault Unit :=
  if Text.isBlankText p.name then .error (.validation (.unnamedProfile p.id))
  else if p.minTransaction.isZero || p.maxTransaction.isZero then
    .error (.validation (.zeroBound p.id))
  else if p.maxTransaction < p.minTransaction then
    .error (.validation (.crossedBounds p.id p.minTransaction p.maxTransaction))
  else .ok ()

/-- A valid profile without caps. -/
def create (id : ProfileId) (name : String) (low high : Amount) : Except DomainFault Profile := do
  let p : Profile := ⟨id, name, low, high, none, none, none, Amount.zero⟩
  p.validate
  return p

end Profile

end SpendingLimits
