import SpendingLimits.Json.Basic

namespace SpendingLimits.Json

/-- The four characters that may stand between the parts of a JSON text. -/
def isSpace (c : Char) : Bool := c == ' ' || c == '\t' || c == '\n' || c == '\r'

def skipSpace (cs : List Char) : List Char := cs.dropWhile isSpace

/-- The character that a short escape stands for. -/
def shortEscape? : Char → Option Char
  | '"' => some '"'
  | '\\' => some '\\'
  | '/' => some '/'
  | 'b' => some '\x08'
  | 'f' => some '\x0c'
  | 'n' => some '\n'
  | 'r' => some '\r'
  | 't' => some '\t'
  | _ => none

/-- The unit that the four hexadecimal digits of a long escape write. -/
def longEscape? (a b c d : Char) : Option Nat := do
  return Text.ofDigits 16
    [← Text.hexDigit? a, ← Text.hexDigit? b, ← Text.hexDigit? c, ← Text.hexDigit? d]

/-- Reads a string behind its opening quote: its units, where a long escape is one unit even if it
is half of a surrogate pair, and the text behind the closing quote. -/
def readUnits : List Char → Option (List Nat × List Char)
  | [] => none
  | '"' :: cs => some ([], cs)
  | '\\' :: 'u' :: a :: b :: c :: d :: cs => do
    let n ← longEscape? a b c d
    let (ns, rest) ← readUnits cs
    return (n :: ns, rest)
  | '\\' :: e :: cs => do
    let c ← shortEscape? e
    let (ns, rest) ← readUnits cs
    return (c.toNat :: ns, rest)
  | c :: cs => do
    if c < ' ' then none
    let (ns, rest) ← readUnits cs
    return (c.toNat :: ns, rest)

/-- The characters that units write. Two halves of a surrogate pair make one character; a half on
its own makes none. -/
def joinUnits : List Nat → Option (List Char)
  | [] => some []
  | [n] => if h : n.isValidChar then some [Char.ofNatAux n h] else none
  | n :: m :: ns =>
    if h : n.isValidChar then (joinUnits (m :: ns)).map (Char.ofNatAux n h :: ·)
    else if n < 0xDC00 ∧ 0xDC00 ≤ m ∧ m < 0xE000 then
      (joinUnits ns).map (Char.ofNat (0x10000 + (n - 0xD800) * 0x400 + (m - 0xDC00)) :: ·)
    else none

/-- Reads a string behind its opening quote; `none` inside if it is no text. -/
def readText (cs : List Char) : Option (Option String × List Char) :=
  (readUnits cs).map fun (ns, rest) => ((joinUnits ns).map String.ofList, rest)

/-- Reads the fractional digits of a number, if a point follows. -/
def readFraction : List Char → Option (List (Fin 10) × List Char)
  | '.' :: cs =>
    match Text.takeDigits cs with
    | ([], _) => none
    | (ds, rest) => some (ds, rest)
  | cs => some ([], cs)

/-- Reads the digits of a power of ten. -/
def readExponentDigits (negative : Bool) (cs : List Char) : Option (Option Int × List Char) :=
  match Text.takeDigits cs with
  | ([], _) => none
  | (ds, rest) =>
    let n : Int := Text.ofDigits 10 ds
    some (some (if negative then -n else n), rest)

/-- Reads the power of ten of a number, if there is one. -/
def readExponent : List Char → Option (Option Int × List Char)
  | c :: cs =>
    if c = 'e' ∨ c = 'E' then
      match cs with
      | '-' :: cs => readExponentDigits true cs
      | '+' :: cs => readExponentDigits false cs
      | cs => readExponentDigits false cs
    else some (none, c :: cs)
  | [] => some (none, [])

/-- Reads the integer part of a number: a zero on its own, or digits that do not start with one. -/
def readWhole : List Char → Option (Nat × List Char)
  | '0' :: cs => some (0, cs)
  | cs =>
    match Text.takeDigits cs with
    | ([], _) => none
    | (ds, rest) => some (Text.ofDigits 10 ds, rest)

/-- Reads a number behind its sign. -/
def readUnsigned (negative : Bool) (cs : List Char) : Option (Numeral × List Char) := do
  let (whole, cs) ← readWhole cs
  let (fraction, cs) ← readFraction cs
  let (exponent, cs) ← readExponent cs
  return (⟨negative, whole, fraction, exponent⟩, cs)

def readNumeral : List Char → Option (Numeral × List Char)
  | '-' :: cs => readUnsigned true cs
  | cs => readUnsigned false cs

mutual
/-- Reads one value. `fuel` bounds the calls in progress; twice the length of the text is enough,
as two calls in a row use up a character. -/
def readValue : (fuel : Nat) → List Char → Json × List Char
  | 0, _ => (.broken, [])
  | fuel + 1, cs =>
    match skipSpace cs with
    | 'n' :: 'u' :: 'l' :: 'l' :: cs => (.null, cs)
    | 't' :: 'r' :: 'u' :: 'e' :: cs => (.bool true, cs)
    | 'f' :: 'a' :: 'l' :: 's' :: 'e' :: cs => (.bool false, cs)
    | '"' :: cs =>
      match readText cs with
      | some (some s, cs) => (.text s, cs)
      | some (none, cs) => (.illFormedText, cs)
      | none => (.broken, [])
    | '[' :: cs =>
      match skipSpace cs with
      | ']' :: cs => (.array [], cs)
      | cs => let (vs, cs) := readItems fuel cs; (.array vs, cs)
    | '{' :: cs =>
      match skipSpace cs with
      | '}' :: cs => (.object [], cs)
      | cs => let (fs, cs) := readFields fuel cs; (.object fs, cs)
    | cs =>
      match readNumeral cs with
      | some (n, cs) => (.number n, cs)
      | none => (.broken, [])

/-- Reads the items of an array and its closing bracket. -/
def readItems : (fuel : Nat) → List Char → List Json × List Char
  | 0, _ => ([.broken], [])
  | fuel + 1, cs =>
    let (v, cs) := readValue fuel cs
    match skipSpace cs with
    | ',' :: cs => let (vs, cs) := readItems fuel cs; (v :: vs, cs)
    | ']' :: cs => ([v], cs)
    | _ => ([v, .broken], [])

/-- Reads the fields of an object and its closing brace. -/
def readFields : (fuel : Nat) → List Char → List (Option String × Json) × List Char
  | 0, _ => ([(none, .broken)], [])
  | fuel + 1, cs =>
    match skipSpace cs with
    | '"' :: cs =>
      match readText cs with
      | none => ([(none, .broken)], [])
      | some (key, cs) =>
        match skipSpace cs with
        | ':' :: cs =>
          let (v, cs) := readValue fuel cs
          match skipSpace cs with
          | ',' :: cs => let (fs, cs) := readFields fuel cs; ((key, v) :: fs, cs)
          | '}' :: cs => ([(key, v)], cs)
          | _ => ([(key, v), (none, .broken)], [])
        | _ => ([(key, .broken)], [])
    | _ => ([(none, .broken)], [])
end

/-- The value at the front of a text, and whether only space follows it. Behind the place where the
text stops being JSON nothing is looked at. -/
def read (s : String) : Json × Bool :=
  let cs := s.toList
  let (v, rest) := readValue (2 * cs.length + 2) cs
  (v, (skipSpace rest).isEmpty)

end SpendingLimits.Json
