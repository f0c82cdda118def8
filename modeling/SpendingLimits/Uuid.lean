import SpendingLimits.Text.Digits

namespace SpendingLimits

/-- An identifier of 128 bits. -/
structure Uuid where
  value : Nat
  value_lt : value < 2 ^ (128 : Nat)
deriving DecidableEq

namespace Uuid

/-- The sizes of the five groups of digits. -/
def groups : List Nat := [8, 4, 4, 4, 12]

/-- Takes a fixed number of hexadecimal digits off the front. -/
def takeHex : (count : Nat) → List Char → Option (List (Fin 16) × List Char)
  | 0, cs => some ([], cs)
  | _ + 1, [] => none
  | count + 1, c :: cs => do
    let d ← Text.hexDigit? c
    let (ds, rest) ← takeHex count cs
    return (d :: ds, rest)

/-- The digits of groups of these sizes with hyphens between them. -/
def readGroups : List Nat → List Char → Option (List (Fin 16))
  | [], cs => if cs.isEmpty then some [] else none
  | [n], cs => do
    let (ds, rest) ← takeHex n cs
    if rest.isEmpty then some ds else none
  | n :: m :: ns, cs => do
    let (ds, rest) ← takeHex n cs
    match rest with
    | '-' :: rest => return ds ++ (← readGroups (m :: ns) rest)
    | _ => none

/-- Takes the braces or the `urn:uuid:` off a text. -/
def unwrap (cs : List Char) : List Char :=
  if cs.head? = some '{' ∧ cs.getLast? = some '}' then cs.tail.dropLast
  else if (cs.take 9).map Char.toLower = "urn:uuid:".toList then cs.drop 9
  else cs

/-- The identifier that 32 digits write. -/
def ofHex? (ds : List (Fin 16)) : Option Uuid :=
  let n := Text.ofDigits 16 ds
  if h : n < 2 ^ (128 : Nat) then some ⟨n, h⟩ else none

/-- The identifier that a text writes: 32 digits in a row, or the five groups, which may stand in
braces or behind `urn:uuid:`. -/
def read? (cs : List Char) : Option Uuid := do
  ofHex? (← readGroups [32] cs <|> readGroups groups (unwrap cs))

/-- How many digits groups of these sizes have. -/
def width : List Nat → Nat
  | [] => 0
  | n :: ns => n + width ns

/-- The digits of an identifier in groups of these sizes; the last group ends the number. -/
def writeGroups (value : Nat) : List Nat → List Char
  | [] => []
  | [n] => Text.fixedDigits 16 n value
  | n :: m :: ns =>
    Text.fixedDigits 16 n (value / 16 ^ width (m :: ns)) ++ '-' :: writeGroups value (m :: ns)

def text (u : Uuid) : String := String.ofList (writeGroups u.value groups)

end Uuid

end SpendingLimits
