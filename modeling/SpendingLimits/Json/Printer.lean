import SpendingLimits.Json.Basic

namespace SpendingLimits.Json

/-- A character of a string as it is written: quotes, backslashes and control characters are
escaped, everything else stands for itself. -/
def escape (c : Char) : List Char :=
  if c = '"' then ['\\', '"']
  else if c = '\\' then ['\\', '\\']
  else if c = '\x08' then ['\\', 'b']
  else if c = '\x0c' then ['\\', 'f']
  else if c = '\n' then ['\\', 'n']
  else if c = '\r' then ['\\', 'r']
  else if c = '\t' then ['\\', 't']
  else if c < ' ' then '\\' :: 'u' :: Text.fixedDigits 16 4 c.toNat
  else [c]

def quote (s : String) : List Char := '"' :: s.toList.flatMap escape ++ ['"']

/-- A key as it is written. What is no text is written as the half of a surrogate pair. -/
def writeKey : Option String → List Char
  | some s => quote s
  | none => "\"\\ud800\"".toList

def writeExponent (n : Int) : List Char :=
  'e' :: (if n < 0 then ['-'] else []) ++ Nat.toDigits 10 n.natAbs

def writeNumeral (n : Numeral) : List Char :=
  (if n.negative then ['-'] else []) ++ Nat.toDigits 10 n.whole ++
    (if n.fraction = [] then [] else '.' :: n.fraction.map fun d => d.val.digitChar) ++
    (match n.exponent with | some e => writeExponent e | none => [])

/-- The text of a value without parts. -/
def writeLeaf : Json → List Char
  | .null => "null".toList
  | .bool true => "true".toList
  | .bool false => "false".toList
  | .number n => writeNumeral n
  | .text s => quote s
  | .illFormedText => writeKey none
  | _ => []

mutual
/-- A value on one line, without space. -/
def writeCompact : Json → List Char
  | .array items => '[' :: writeItems items ++ [']']
  | .object fields => '{' :: writeFields fields ++ ['}']
  | leaf => writeLeaf leaf

/-- The items of an array with commas between them. -/
def writeItems : List Json → List Char
  | [] => []
  | [v] => writeCompact v
  | v :: w :: vs => writeCompact v ++ ',' :: writeItems (w :: vs)

/-- The fields of an object with commas between them. -/
def writeFields : List (Option String × Json) → List Char
  | [] => []
  | [(k, v)] => writeKey k ++ ':' :: writeCompact v
  | (k, v) :: f :: fs => writeKey k ++ ':' :: writeCompact v ++ ',' :: writeFields (f :: fs)
end

def compact (v : Json) : String := String.ofList (writeCompact v)

/-- The start of a line that lies `depth` levels deep. -/
def newLine (depth : Nat) : List Char := '\n' :: List.replicate (2 * depth) ' '

mutual
/-- A value with every part on a line of its own, two more blanks in for each level. -/
def writePretty (depth : Nat) : Json → List Char
  | .array (v :: vs) => '[' :: writeLines (depth + 1) (v :: vs) ++ newLine depth ++ [']']
  | .object (f :: fs) => '{' :: writeFieldLines (depth + 1) (f :: fs) ++ newLine depth ++ ['}']
  | .array [] => "[]".toList
  | .object [] => ['{', '}']
  | leaf => writeLeaf leaf

/-- The items of an array, a line each. -/
def writeLines (depth : Nat) : List Json → List Char
  | [] => []
  | [v] => newLine depth ++ writePretty depth v
  | v :: w :: vs => newLine depth ++ writePretty depth v ++ ',' :: writeLines depth (w :: vs)

/-- The fields of an object, a line each. -/
def writeFieldLines (depth : Nat) : List (Option String × Json) → List Char
  | [] => []
  | [(k, v)] => newLine depth ++ writeKey k ++ ':' :: ' ' :: writePretty depth v
  | (k, v) :: f :: fs =>
    newLine depth ++ writeKey k ++ ':' :: ' ' :: writePretty depth v ++
      ',' :: writeFieldLines depth (f :: fs)
end

def pretty (v : Json) : String := String.ofList (writePretty 0 v)

end SpendingLimits.Json
