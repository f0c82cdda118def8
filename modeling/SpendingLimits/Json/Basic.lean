import SpendingLimits.Text.Digits

namespace SpendingLimits

/-- A number as it is written: sign, integer part, fractional digits, power of ten. -/
structure Numeral where
  negative : Bool
  whole : Nat
  fraction : List (Fin 10)
  exponent : Option Int
deriving DecidableEq

/-- A JSON value as it is written: fields keep their order and their repetitions. `illFormedText` is
a string that holds half of a surrogate pair and so is no text; such a string may also be the key of
a field, which then is `none`. `broken` stands where the text stops being JSON, so that a reader of
the value meets what is in front of that place first. -/
inductive Json where
  | null
  | bool (b : Bool)
  | number (n : Numeral)
  | text (s : String)
  | illFormedText
  | array (items : List Json)
  | object (fields : List (Option String × Json))
  | broken

namespace Json

/-- A whole number as JSON. -/
def ofInt (n : Int) : Json := .number ⟨decide (n < 0), n.natAbs, [], none⟩

/-- An object with these fields, in this order. -/
def ofFields (fields : List (String × Json)) : Json :=
  .object (fields.map fun (k, v) => (some k, v))

/-- The field of an optional value: none if there is no value. -/
def optionField {α : Type} (name : String) (encode : α → Json) : Option α → List (String × Json)
  | some a => [(name, encode a)]
  | none => []

mutual
/-- Whether a value is JSON to its end. -/
def isWhole : Json → Bool
  | .broken => false
  | .array items => areWhole items
  | .object fields => areWholeFields fields
  | _ => true

/-- Whether every item of an array is JSON to its end. -/
def areWhole : List Json → Bool
  | [] => true
  | v :: vs => isWhole v && areWhole vs

/-- Whether every field of an object is JSON to its end. -/
def areWholeFields : List (Option String × Json) → Bool
  | [] => true
  | (_, v) :: fs => isWhole v && areWholeFields fs
end

end Json

end SpendingLimits
