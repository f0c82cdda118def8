import SpendingLimits.Text.Blank
import SpendingLimits.Text.Digits
import SpendingLimits.Time.Instant

namespace SpendingLimits.Time

/-- Takes at most `limit` digits off the front. -/
def takeUpTo : (limit : Nat) → List Char → List (Fin 10) × List Char
  | 0, cs => ([], cs)
  | _ + 1, [] => ([], [])
  | limit + 1, c :: cs =>
    match Text.digit? c with
    | some d => let (ds, rest) := takeUpTo limit cs; (d :: ds, rest)
    | none => ([], c :: cs)

/-- A number of at most two digits, behind blanks. -/
def readPart (cs : List Char) : Option (Nat × List Char) :=
  match takeUpTo 2 (Text.skipBlanks cs) with
  | ([], _) => none
  | (ds, rest) => some (Text.ofDigits 10 ds, rest)

/-- A mark, behind blanks. -/
def readMark (mark : Char) (cs : List Char) : Option (List Char) :=
  match Text.skipBlanks cs with
  | c :: rest => if c = mark then some rest else none
  | [] => none

/-- A year: four digits at most, or a sign and any number of digits. -/
def readYear (cs : List Char) : Option (Int × List Char) :=
  let (sign, digits) : Int × (List (Fin 10) × List Char) :=
    match Text.skipBlanks cs with
    | '-' :: cs => (-1, Text.takeDigits cs)
    | '+' :: cs => (1, Text.takeDigits cs)
    | cs => (1, takeUpTo 4 cs)
  match digits with
  | ([], _) => none
  | (ds, rest) => some (sign * Text.ofDigits 10 ds, rest)

def readDate (cs : List Char) : Option (Date × List Char) := do
  let (year, cs) ← readYear cs
  let (month, cs) ← readPart (← readMark '-' cs)
  let (day, cs) ← readPart (← readMark '-' cs)
  return (⟨year, month, day⟩, cs)

/-- The fraction of a second in nanoseconds, if a point follows: at least one digit, of which the
first nine count. -/
def readNano : List Char → Option (Nat × List Char)
  | '.' :: cs =>
    match Text.takeDigits cs with
    | ([], _) => none
    | (ds, rest) => some (Text.ofDigits 10 (ds.take 9) * 10 ^ (9 - ds.length), rest)
  | cs => some (0, cs)

/-- A time of day. A leap second has the number 60. -/
structure Clock where
  hour : Nat
  minute : Nat
  second : Nat
  nano : Nat

def Clock.isValid (c : Clock) : Bool := c.hour < 24 && c.minute < 60 && c.second ≤ 60

def readClock (cs : List Char) : Option (Clock × List Char) := do
  let (hour, cs) ← readPart cs
  let (minute, cs) ← readPart (← readMark ':' cs)
  let (second, cs) ← readPart (← readMark ':' cs)
  let (nano, cs) ← readNano cs
  return (⟨hour, minute, second, nano⟩, cs)

/-- Exactly two digits. -/
def readPair : List Char → Option (Nat × List Char)
  | c :: d :: rest => do return (Text.ofDigits 10 [← Text.digit? c, ← Text.digit? d], rest)
  | _ => none

/-- A difference to UTC in minutes, behind its sign: two digits for the hours, colons and blanks,
two digits for the minutes. -/
def readDifference (cs : List Char) : Option (Nat × List Char) := do
  let (hours, cs) ← readPair cs
  let (minutes, cs) ← readPair (cs.dropWhile fun c => c == ':' || Text.isBlank c)
  if hours < 24 ∧ minutes < 60 then return (60 * hours + minutes, cs) else none

/-- A zone, as minutes ahead of UTC. -/
def readZone (cs : List Char) : Option (Int × List Char) :=
  if (cs.take 3).map Char.toUpper = ['U', 'T', 'C'] then some (0, cs.drop 3)
  else
    match cs with
    | 'Z' :: rest => some (0, rest)
    | 'z' :: rest => some (0, rest)
    | '+' :: rest => (readDifference rest).map fun (m, rest) => (m, rest)
    | '-' :: rest => (readDifference rest).map fun (m, rest) => (-m, rest)
    | '\u2212' :: rest => (readDifference rest).map fun (m, rest) => (-m, rest)
    | _ => none

/-- The first and the last year of the calendar. -/
def isYear (y : Int) : Bool := -262143 ≤ y && y ≤ 262142

/-- The instant at which clocks `ahead` minutes ahead of UTC show this date and time. -/
def instantAt? (d : Date) (c : Clock) (ahead : Int) : Option Instant :=
  if d.isValid && isYear d.year && c.isValid then
    Instant.ofParts?
      (86400 * d.toDay + 3600 * c.hour + 60 * c.minute + min c.second 59 - 60 * ahead)
      (if c.second = 60 then c.nano + 10 ^ (9 : Nat) else c.nano)
  else none

namespace Instant

/-- The instant that a text writes: a date, a `T` or a blank, a time of day and a zone. -/
def read? (cs : List Char) : Option Instant := do
  let (date, cs) ← readDate cs
  let cs ← match cs with
    | c :: cs => if c = 'T' ∨ c = 't' ∨ c = ' ' then some cs else none
    | [] => none
  let (clock, cs) ← readClock cs
  let (ahead, cs) ← readZone (Text.skipBlanks cs)
  if (Text.skipBlanks cs).isEmpty then instantAt? date clock ahead else none

end Instant

end SpendingLimits.Time
