import SpendingLimits.Text.Alphanumeric
import SpendingLimits.Text.Blank

namespace SpendingLimits.CommandLine

/-- A piece of a value: a character, or the value of a variable, which the file does not say. -/
inductive Piece where
  | char (c : Char)
  | reference (name : String)
deriving DecidableEq

/-- A line that gives a variable a value. -/
structure Assignment where
  name : String
  value : List Piece
deriving DecidableEq

/-- Where the cut through a file stands. -/
inductive Place where
  | start
  | bare
  | blank
  | escape
  | quoted (mark : Char)
  | quotedEscape (mark : Char)
  | comment
deriving DecidableEq

/-- The place behind one more character. A `#` starts a comment in front of a line and behind an odd
number of blanks. -/
def Place.next : Place → Char → Place
  | .escape, _ => .bare
  | .quotedEscape mark, _ => .quoted mark
  | .quoted mark, c =>
    if c = '\\' then .quotedEscape mark else if c = mark then .bare else .quoted mark
  | .comment, c => if c = '\n' then .start else .comment
  | p, c =>
    if c = '\\' then .escape
    else if c = '"' ∨ c = '\'' then .quoted c
    else if c = '#' ∧ p ≠ .bare then .comment
    else if p = .start ∧ Text.isBlank c then .start
    else if p = .bare ∧ Text.isBlank c ∧ c ≠ '\n' ∧ c ≠ '\r' then .blank
    else .bare

/-- The lines of a file without the comments; `taken` is the line so far, backwards. A line that is
still open where the file ends is none. -/
def cutLines : Place → (taken : List Char) → List Char → List (List Char)
  | .bare, taken, [] => [taken.reverse]
  | _, _, [] => []
  | p, taken, c :: cs =>
    match p.next c with
    | .start => cutLines .start [] cs
    | .comment =>
      if p = .comment then cutLines .comment [] cs else taken.reverse :: cutLines .comment [] cs
    | .bare =>
      if c = '\n' then taken.reverse :: cutLines .start [] cs else cutLines .bare (c :: taken) cs
    | q => cutLines q (c :: taken) cs

/-- How the next character of a value is read: as it stands, in single or double quotes, behind the
end of the value, or in the name of a variable, which may be in braces. A name knows whether it is
in double quotes and what it has so far, backwards. -/
inductive Reading where
  | bare
  | single
  | double
  | ended
  | naming (inDouble : Bool) (name : List Char)
  | bracing (inDouble : Bool) (name : List Char)
deriving DecidableEq

/-- How to go on behind a name. -/
def Reading.behindName (inDouble : Bool) : Reading := if inDouble then double else bare

/-- The reference to a name that has been read backwards. -/
def Piece.ofName (name : List Char) : Piece := .reference (String.ofList name.reverse)

/-- The character that an escape stands for. -/
def unescape? (c : Char) : Option Char :=
  if c = 'n' then some '\n'
  else if c ∈ ['\\', '\'', '"', '$', ' '] then some c
  else none

/-- Reads a value. The character that ends a name without braces stands for itself, also if it is a
quotation mark, a backslash or a blank. -/
def readPieces : Reading → List Char → Option (List Piece)
  | .bare, [] | .ended, [] => some []
  | .naming false name, [] => some [.ofName name]
  | _, [] => none
  | .ended, c :: cs =>
    if c = ' ' ∨ c = '\t' then readPieces .ended cs else if c = '#' then some [] else none
  | .single, c :: cs =>
    if c = '\'' then readPieces .bare cs else do return .char c :: (← readPieces .single cs)
  | .naming inDouble name, c :: cs =>
    if Text.isAlphanumeric c then readPieces (.naming inDouble (c :: name)) cs
    else if c = '{' ∧ name = [] then readPieces (.bracing inDouble []) cs
    else if c = '$' then do return .ofName name :: (← readPieces (.naming inDouble []) cs)
    else do return .ofName name :: .char c :: (← readPieces (.behindName inDouble) cs)
  | .bracing inDouble name, c :: cs =>
    if c = '}' then do return .ofName name :: (← readPieces (.behindName inDouble) cs)
    else readPieces (.bracing inDouble (c :: name)) cs
  | r, '\\' :: c :: cs => do return .char (← unescape? c) :: (← readPieces r cs)
  | .bare, ['\\'] => some []
  | .double, ['\\'] => none
  | .double, c :: cs =>
    if c = '$' then readPieces (.naming true []) cs
    else if c = '"' then readPieces .bare cs
    else do return .char c :: (← readPieces .double cs)
  | .bare, c :: cs =>
    if c = '$' then readPieces (.naming false []) cs
    else if c = '\'' then readPieces .single cs
    else if c = '"' then readPieces .double cs
    else if c = ' ' ∨ c = '\t' then readPieces .ended cs
    else do return .char c :: (← readPieces .bare cs)

def isKeyStart (c : Char) : Bool := c.isAlpha || c == '_'

def isKeyPart (c : Char) : Bool := c.isAlphanum || c == '_' || c == '.'

/-- Takes the name of a variable off the front. -/
def takeKey : List Char → Option (String × List Char)
  | c :: cs =>
    if isKeyStart c then some (String.ofList (c :: cs.takeWhile isKeyPart), cs.dropWhile isKeyPart)
    else none
  | [] => none

/-- Reads the value behind the name of a variable. -/
def readValue (name : String) (cs : List Char) : Option Assignment :=
  match Text.skipBlanks cs with
  | '=' :: cs =>
    match Text.skipBlanks cs with
    | [] | '#' :: _ => some ⟨name, []⟩
    | cs => (readPieces .bare cs).map (⟨name, ·⟩)
  | _ => none

/-- Reads a line: `none` if it is malformed, `some none` if it sets no variable. A variable may be
named `export` too. -/
def readLine (line : List Char) : Option (Option Assignment) :=
  match Text.trim line with
  | [] | '#' :: _ => some none
  | cs => do
    let (name, rest) ← takeKey cs
    if name = "export" then
      match readValue name rest with
      | some a => return some a
      | none =>
        let (name, rest) ← takeKey (Text.skipBlanks rest)
        return some (← readValue name rest)
    else return some (← readValue name rest)

/-- The assignments of lines. The first malformed line is the end of them. -/
def readLines : List (List Char) → List Assignment
  | [] => []
  | line :: lines =>
    match readLine line with
    | none => []
    | some none => readLines lines
    | some (some a) => a :: readLines lines

/-- The assignments of a file: `KEY=value` in each line, with an optional `export` in front and a
comment behind `#`. A byte order mark in front of the file is no part of it. -/
def readVariableFile (file : String) : List Assignment :=
  match file.toList with
  | '\ufeff' :: cs => readLines (cutLines .start [] cs)
  | cs => readLines (cutLines .start [] cs)

end SpendingLimits.CommandLine
