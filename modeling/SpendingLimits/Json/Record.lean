import SpendingLimits.Json.Number
import SpendingLimits.Json.Reader

namespace SpendingLimits.Json

/-- Why a JSON text has no typed value. -/
inductive Fault where
  | malformed
  | negativeAmount
deriving DecidableEq

def Fault.message : Fault → String
  | malformed => "malformed"
  | negativeAmount => "Amount cannot be negative"

/-- A decoder visits a value in the order in which it is written and reports the first fault. -/
abbrev Decoder (α : Type) := Json → Except Fault α

/-- Text of any kind. -/
def asText : Decoder String
  | .text s => .ok s
  | _ => .error .malformed

def asBool : Decoder Bool
  | .bool b => .ok b
  | _ => .error .malformed

/-- A whole number between two bounds, written without point and power of ten. -/
def asInt (low high : Int) : Decoder Int
  | .number n =>
    match n.toInt? with
    | some i => if low ≤ i ∧ i ≤ high then .ok i else .error .malformed
    | none => .error .malformed
  | _ => .error .malformed

/-- A value read from a text of its own form. -/
def asRead {α : Type} (read : List Char → Option α) : Decoder α
  | .text s =>
    match read s.toList with
    | some a => .ok a
    | none => .error .malformed
  | _ => .error .malformed

/-- A value or `null`. -/
def asOption {α : Type} (decode : Decoder α) : Decoder (Option α)
  | .null => .ok none
  | v => (decode v).map some

/-- An array of values of one kind. -/
def asList {α : Type} (decode : Decoder α) : Decoder (List α)
  | .array items => items.mapM decode
  | _ => .error .malformed

/-- One of a list of names, written as a text or as the only field of an object, whose value is
then `null`. -/
def asName {α : Type} (named : String → Option α) : Decoder α
  | .text s =>
    match named s with
    | some a => .ok a
    | none => .error .malformed
  | .object [(some s, .null)] =>
    match named s with
    | some a => .ok a
    | none => .error .malformed
  | _ => .error .malformed

/-- The fields of a structure: their names in order, each with a decoder that finds its faults, and
the structure made from their values. -/
structure Record (α : Type) where
  known : List (String × Decoder Unit)
  build : List (String × Json) → Except Fault α

namespace Record

instance : Applicative Record where
  map f r := ⟨r.known, fun fs => (r.build fs).map f⟩
  pure a := ⟨[], fun _ => .ok a⟩
  seq f r := ⟨f.known ++ (r ()).known, fun fs => do
    let g ← f.build fs
    let a ← (r ()).build fs
    return g a⟩

/-- A decoder that keeps only the fault. -/
def check {α : Type} (decode : Decoder α) : Decoder Unit := fun v => (decode v).map fun _ => ()

/-- A field that may be left out. -/
def optional {α : Type} (name : String) (decode : Decoder α) (absent : α) : Record α :=
  ⟨[(name, check decode)], fun fs =>
    match fs.lookup name with
    | some v => decode v
    | none => .ok absent⟩

/-- A field that must be there. -/
def required {α : Type} (name : String) (decode : Decoder α) : Record α :=
  ⟨[(name, check decode)], fun fs =>
    match fs.lookup name with
    | some v => decode v
    | none => .error .malformed⟩

/-- The known fields of an object, after a visit to all its fields: a known field is decoded and
must not come twice, any other field must be whole. -/
def visit (known : List (String × Decoder Unit)) (seen : List String) :
    List (Option String × Json) → Except Fault (List (String × Json))
  | [] => .ok []
  | (none, _) :: _ => .error .malformed
  | (some name, v) :: fields =>
    match known.lookup name with
    | none => if v.isWhole then visit known seen fields else .error .malformed
    | some decode =>
      if name ∈ seen then .error .malformed
      else do
        decode v
        let rest ← visit known (name :: seen) fields
        return (name, v) :: rest

/-- The items of an array with the names of the fields they stand for. An item too many is a
broken field. -/
def nameItems : List String → List Json → List (Option String × Json)
  | _, [] => []
  | [], _ :: _ => [(none, .broken)]
  | name :: names, v :: vs => (some name, v) :: nameItems names vs

/-- The structure that an object writes, with its fields in any order among others, or an array with
the values of the fields in their listed order. -/
def decode {α : Type} (r : Record α) : Decoder α
  | .object fields => do r.build (← visit r.known [] fields)
  | .array items => do r.build (← visit r.known [] (nameItems (r.known.map Prod.fst) items))
  | _ => .error .malformed

end Record

/-- The typed value of a text. Behind the value only space may follow. -/
def decodeText {α : Type} (decode : Decoder α) (s : String) : Except Fault α := do
  let (v, clean) := read s
  let a ← decode v
  if clean then return a else .error .malformed

end SpendingLimits.Json
