namespace SpendingLimits.Time

structure Date where
  year : Int
  month : Nat
  day : Nat
deriving DecidableEq

def isLeapYear (y : Int) : Bool := y % 4 == 0 && (y % 100 != 0 || y % 400 == 0)

def daysInMonth (y : Int) (m : Nat) : Nat :=
  if m = 2 then if isLeapYear y then 29 else 28
  else if m = 4 ∨ m = 6 ∨ m = 9 ∨ m = 11 then 30
  else 31

/-- Whether a date is one of the calendar. -/
def Date.isValid (d : Date) : Bool :=
  1 ≤ d.month && d.month ≤ 12 && 1 ≤ d.day && d.day ≤ daysInMonth d.year d.month

/-- The days from the first of March of the year 0 to day 0, the first of January 1970. -/
def epochShift : Int := 719468

/-- The day number of a date. Inside, years begin in March, so that the leap day is the last day of
a year, and 400 years make one cycle of 146097 days. -/
def Date.toDay (d : Date) : Int :=
  let y := if d.month ≤ 2 then d.year - 1 else d.year
  let ofCycle := y % 400
  let month := (d.month + 9) % 12
  let ofYear : Int := (153 * month + 2) / 5 + d.day - 1
  y / 400 * 146097 + (ofCycle * 365 + ofCycle / 4 - ofCycle / 100 + ofYear) - epochShift

/-- The date of a day number. -/
def Date.ofDay (n : Int) : Date :=
  let n := n + epochShift
  let ofCycle := (n % 146097).toNat
  let year := (ofCycle - ofCycle / 1460 + ofCycle / 36524 - ofCycle / 146096) / 365
  let ofYear := ofCycle - (365 * year + year / 4 - year / 100)
  let month := (5 * ofYear + 2) / 153
  let day := ofYear - (153 * month + 2) / 5 + 1
  let y : Int := n / 146097 * 400 + year
  if month < 10 then ⟨y, month + 3, day⟩ else ⟨y + 1, month - 9, day⟩

end SpendingLimits.Time
