import SpendingLimits.Text.Digits
import SpendingLimits.Time.Instant

namespace SpendingLimits.Time

/-- A year of four digits. A year that has more of them or lies before the year 0 has a sign. -/
def writeYear (y : Int) : List Char :=
  if 0 ≤ y ∧ y ≤ 9999 then Text.fixedDigits 10 4 y.toNat
  else
    let digits := Nat.toDigits 10 y.natAbs
    (if y < 0 then '-' else '+') :: (List.replicate (4 - digits.length) '0' ++ digits)

def writeDate (d : Date) : List Char :=
  writeYear d.year ++ '-' :: Text.fixedDigits 10 2 d.month ++ '-' :: Text.fixedDigits 10 2 d.day

/-- The fraction of a second in the fewest groups of three digits. -/
def writeNano (n : Nat) : List Char :=
  if n = 0 then []
  else if n % 1000000 = 0 then '.' :: Text.fixedDigits 10 3 (n / 1000000)
  else if n % 1000 = 0 then '.' :: Text.fixedDigits 10 6 (n / 1000)
  else '.' :: Text.fixedDigits 10 9 n

namespace Instant

/-- The instant as a text, such as `2026-01-15T10:00:00Z`. A leap second has the number 60. -/
def write (t : Instant) : List Char :=
  let ofDay := (t.second % 86400).toNat
  let leap := if t.nano < 10 ^ (9 : Nat) then 0 else 1
  writeDate (Date.ofDay (t.second / 86400)) ++
    'T' :: Text.fixedDigits 10 2 (ofDay / 3600) ++
    ':' :: Text.fixedDigits 10 2 (ofDay / 60 % 60) ++
    ':' :: Text.fixedDigits 10 2 (ofDay % 60 + leap) ++
    writeNano (t.nano - leap * 10 ^ (9 : Nat)) ++ ['Z']

def text (t : Instant) : String := String.ofList t.write

end Instant

end SpendingLimits.Time
