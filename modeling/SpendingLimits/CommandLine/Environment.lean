import SpendingLimits.CommandLine.VariableFile

namespace SpendingLimits.CommandLine

/-- Variables, each an entry `NAME=value`. -/
structure Environment where
  entries : List (List Char)
deriving DecidableEq

/-- The text of a piece. A variable without a value is an empty text. -/
def Piece.text (value? : String → Option String) : Piece → List Char
  | .char c => [c]
  | .reference name => ((value? name).getD "").toList

namespace Environment

/-- The entry that gives a variable a value. -/
def entry (name : String) (value : List Char) : List Char := name.toList ++ '=' :: value

/-- The environment with these variables. -/
def ofList (pairs : List (String × String)) : Environment :=
  ⟨pairs.map fun (name, value) => entry name value.toList⟩

/-- The value of a variable: what follows `NAME=` in the first entry that starts so. A name may hold
a `=`; then it reaches into the value of the variable named in front of it. -/
def value? (e : Environment) (name : String) : Option String :=
  if name.isEmpty then none
  else (e.entries.findSome? ((entry name []).isPrefixOf? ·)).map String.ofList

/-- Carries an assignment out. A variable that has a value keeps it, and a value refers to the
variables that are there by then. An entry ends where it holds a NUL, so a value with a NUL is
none. -/
def assign? (e : Environment) (a : Assignment) : Option Environment :=
  match e.value? a.name with
  | some _ => some e
  | none =>
    let value := a.value.flatMap (Piece.text e.value?)
    if '\x00' ∈ value then none else some ⟨e.entries ++ [entry a.name value]⟩

/-- Adds the variables of a file, if all of them can have their values. -/
def load? (e : Environment) (file : String) : Option Environment :=
  (readVariableFile file).foldlM assign? e

theorem value?_assign? {e f : Environment} {a : Assignment} {name value : String}
    (ha : e.assign? a = some f) (h : e.value? name = some value) : f.value? name = some value := by
  rw [assign?] at ha
  split at ha
  · obtain rfl := Option.some.inj ha
    exact h
  · simp only at ha
    split at ha
    · exact absurd ha (by simp)
    · obtain rfl := Option.some.inj ha
      rw [value?] at h ⊢
      split at h
      · exact absurd h (by simp)
      · next named =>
        obtain ⟨cs, found, rfl⟩ := Option.map_eq_some_iff.1 h
        rw [if_neg named, List.findSome?_append, found]
        rfl

/-- A file gives no variable a new value. -/
theorem value?_load? {e f : Environment} {file name value : String}
    (hf : e.load? file = some f) (h : e.value? name = some value) : f.value? name = some value := by
  rw [load?] at hf
  generalize readVariableFile file = as at hf
  induction as generalizing e with
  | nil =>
    obtain rfl : e = f := Option.some.inj hf
    exact h
  | cons a as ih =>
    rw [List.foldlM_cons] at hf
    obtain ⟨g, hg, rest⟩ := Option.bind_eq_some_iff.1 hf
    exact ih (value?_assign? hg h) rest

end Environment

/-- The names that a file of variables speaks of. -/
def namesIn (file : String) : List String :=
  (readVariableFile file).flatMap fun a => a.name :: a.value.filterMap fun
    | .char _ => none
    | .reference name => some name

end SpendingLimits.CommandLine
