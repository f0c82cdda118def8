namespace SpendingLimits

-- Powers of naturals are those of the core library, whatever else is imported beside it.
attribute [scoped instance (1100)] instPowNat

namespace Text

/-- The value of a decimal digit. -/
def digit? (c : Char) : Option (Fin 10) :=
  if h : 48 ≤ c.toNat ∧ c.toNat < 58 then some ⟨c.toNat - 48, by omega⟩ else none

/-- The value of a hexadecimal digit in either case. -/
def hexDigit? (c : Char) : Option (Fin 16) :=
  let n := c.toNat
  if h : 48 ≤ n ∧ n < 58 then some ⟨n - 48, by omega⟩
  else if h : 97 ≤ n ∧ n < 103 then some ⟨n - 87, by omega⟩
  else if h : 65 ≤ n ∧ n < 71 then some ⟨n - 55, by omega⟩
  else none

/-- The run of decimal digits at the front of a text, and what follows it. -/
def takeDigits : List Char → List (Fin 10) × List Char
  | [] => ([], [])
  | c :: cs =>
    match digit? c with
    | some d => let (ds, rest) := takeDigits cs; (d :: ds, rest)
    | none => ([], c :: cs)

/-- The number that a list of digits writes in base `b`, most significant digit first. -/
def ofDigits {n : Nat} (b : Nat) (ds : List (Fin n)) : Nat :=
  ds.foldl (fun (v : Nat) d => b * v + d.val) 0

/-- The last `width` digits of a number in base `b`, with zeros in front. -/
def fixedDigits (b : Nat) : (width n : Nat) → List Char
  | 0, _ => []
  | width + 1, n => fixedDigits b width (n / b) ++ [(n % b).digitChar]

theorem digit?_digitChar (d : Fin 10) : digit? (Nat.digitChar d) = some d := by
  revert d; decide

theorem hexDigit?_digitChar (d : Fin 16) : hexDigit? (Nat.digitChar d) = some d := by
  revert d; decide

theorem ofDigits_append_singleton {n : Nat} (b : Nat) (ds : List (Fin n)) (d : Fin n) :
    ofDigits b (ds ++ [d]) = b * ofDigits b ds + d := by simp [ofDigits]

end Text

end SpendingLimits
