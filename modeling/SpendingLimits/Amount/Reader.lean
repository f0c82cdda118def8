import SpendingLimits.Amount.Basic
import SpendingLimits.Rounding
import SpendingLimits.Text.Digits

namespace SpendingLimits.Amount

/-- Why a text is no decimal. -/
inductive TextFault where
  | empty
  | noDigits
  | secondPoint
  | leadingUnderscore
  | strayCharacter
  | tooLarge
  | tooPrecise
deriving DecidableEq

def TextFault.message : TextFault → String
  | empty => "Invalid decimal: empty"
  | noDigits => "Invalid decimal: no digits found"
  | secondPoint => "Invalid decimal: two decimal points"
  | leadingUnderscore => "Invalid decimal: must start lead with a number"
  | strayCharacter => "Invalid decimal: unknown character"
  | tooLarge => "Invalid decimal: overflow from too many digits"
  | tooPrecise => "Number has a high precision that can not be represented."

/-- What a scan finds: a decimal that an amount holds as it stands, or the longest part of it that
an amount holds together with the characters to spare. -/
inductive Scanned where
  | fits (a : Amount)
  | spare (a : Amount) (rest : List Char)

/-- One more digit, behind the point or before it. -/
def push? (a : Amount) (point : Bool) (d : Fin 10) : Option Amount :=
  ofParts? (10 * a.mantissa + d) (if point then a.scale + 1 else a.scale)

/-- Scans the text behind the sign. `point` and `digit` say whether a point and a digit have been
read, and `a` is the number read so far. -/
def scanFrom (point digit : Bool) (a : Amount) : List Char → Except TextFault Scanned
  | [] => if digit then .ok (.fits a) else .error .noDigits
  | c :: cs =>
    if a.scale = 28 then .ok (.spare a (c :: cs))
    else
      match Text.digit? c with
      | some d =>
        match push? a point d with
        | some a => scanFrom point true a cs
        | none => if point then .ok (.spare a (c :: cs)) else .error .tooLarge
      | none =>
        if c = '.' then if point then .error .secondPoint else scanFrom true digit a cs
        else if c = '_' then
          if digit then scanFrom point digit a cs else .error .leadingUnderscore
        else .error .strayCharacter

/-- Takes a sign off the front: `true` for a minus. -/
def takeSign : List Char → Bool × List Char
  | '-' :: cs => (true, cs)
  | '+' :: cs => (false, cs)
  | cs => (false, cs)

/-- Scans a decimal: an optional sign, digits with at most one point anywhere among them, and
underscores anywhere behind the first digit. -/
def scan (cs : List Char) : Except TextFault (Bool × Scanned) :=
  if cs.isEmpty then .error .empty
  else
    let (negative, digits) := takeSign cs
    (scanFrom false false zero digits).map (negative, ·)

/-- A number with its sign. -/
structure Signed where
  negative : Bool
  magnitude : Amount

/-- The number that a sign and digits write. Zero has no sign. -/
def Signed.ofDigits (negative : Bool) (a : Amount) : Signed := ⟨negative && !a.isZero, a⟩

/-- The amount, unless it lies below zero. -/
def Signed.toAmount? (n : Signed) : Option Amount :=
  if n.negative then n.magnitude.negated? else some n.magnitude

/-- Rounds up by one unit of the last place. A mantissa that this makes too long gives up its last
digit. -/
def roundUp? (a : Amount) : Option Amount :=
  match ofParts? (a.mantissa + 1) a.scale with
  | some b => some b
  | none => if a.scale = 0 then none else ofParts? ((a.mantissa + 5) / 10) (a.scale - 1)

/-- Rounds by the first spare digit, half upward. All that follows it must be digits and
underscores. -/
def roundBy? (a : Amount) (d : Nat) (rest : List Char) : Option Amount :=
  if rest.all fun c => c == '_' || (Text.digit? c).isSome then
    if d ≥ 5 then roundUp? a else some a
  else none

/-- The mantissa from which a decimal counts as long. -/
def longMantissa : Nat := (2 ^ (64 : Nat) - 1) / 10 - 255

/-- Whether the digits before the last one already make up a long mantissa. -/
def isLong (a : Amount) : Bool := longMantissa ≤ a.mantissa / 10

/-- Rounds by the spare characters. An underscore in front of them is passed over in a long
decimal; otherwise it stands for the digit zero. -/
def roundSpare? (a : Amount) : List Char → Option Amount
  | [] => some a
  | c :: rest =>
    match Text.digit? c with
    | some d => roundBy? a d rest
    | none =>
      if c = '_' then if a.isLong then roundSpare? a rest else roundBy? a 0 rest
      else none

/-- The decimal that a text writes, with digits to spare rounded away. -/
def readPlain? (cs : List Char) : Option Signed :=
  match scan cs with
  | .ok (negative, .fits a) => some (.ofDigits negative a)
  | .ok (negative, .spare a rest) => (roundSpare? a rest).map (.ofDigits negative)
  | .error _ => none

/-- A power of ten: an optional minus, then an optional plus, then digits; at most 28. -/
def readExponent? (cs : List Char) : Option (Bool × Nat) :=
  let (negative, cs) := match cs with
    | '-' :: cs => (true, cs)
    | cs => (false, cs)
  let cs := match cs with
    | '+' :: cs => cs
    | cs => cs
  match Text.takeDigits cs with
  | (d :: ds, []) =>
    let n := Text.ofDigits 10 (d :: ds)
    if n ≤ 28 then some (negative, n) else none
  | _ => none

/-- Divides by a power of ten. A quotient of more than 28 fractional digits is first rounded, half
away from zero, as far as the shift needs. -/
def shiftDown? (a : Amount) (n : Nat) : Option Amount :=
  if a.scale + n ≤ 28 then ofParts? a.mantissa (a.scale + n)
  else ofParts? (halfUp a.mantissa (10 ^ (a.scale + n - 28))) 28

/-- Multiplies by a power of ten: first the fractional digits are used up, then zeros are added. -/
def shiftUp? (a : Amount) (n : Nat) : Option Amount :=
  if n ≤ a.scale then ofParts? a.mantissa (a.scale - n)
  else ofParts? (a.mantissa * 10 ^ (n - a.scale)) 0

def isExponentMark (c : Char) : Bool := c == 'e' || c == 'E'

/-- The decimal that a text with a power of ten writes. The sign is that of the digits in front, and
stays if the power rounds them to zero. -/
def readScientific? (cs : List Char) : Option Signed :=
  match cs.dropWhile (!isExponentMark ·) with
  | [] => none
  | _ :: exponent => do
    let base ← readPlain? (cs.takeWhile (!isExponentMark ·))
    let (negative, n) ← readExponent? exponent
    let magnitude ← if negative then shiftDown? base.magnitude n else shiftUp? base.magnitude n
    return ⟨base.negative, magnitude⟩

/-- The decimal that a text writes, rounded where it has digits to spare, with or without a power
of ten. -/
def readRounded? (cs : List Char) : Option Signed := readPlain? cs <|> readScientific? cs

end SpendingLimits.Amount
