import SpendingLimits.Text.Digits

namespace SpendingLimits

/-- An amount of money, the decimal `mantissa / 10 ^ scale`: a mantissa of 96 bits, at most 28
fractional digits. A zero may be written with a minus, as what is left of a number below zero that
has been rounded; the minus has no part in the value. -/
structure Amount where
  mantissa : Nat
  scale : Nat
  minus : Bool
  mantissa_lt : mantissa < 2 ^ (96 : Nat)
  scale_le : scale ≤ 28
  mantissa_of_minus : minus = true → mantissa = 0
deriving DecidableEq

namespace Amount

/-- The amount with these parts and without a minus, if they are in range. -/
def ofParts? (mantissa scale : Nat) : Option Amount :=
  if h : mantissa < 2 ^ (96 : Nat) ∧ scale ≤ 28 then some ⟨mantissa, scale, false, h.1, h.2, nofun⟩
  else none

/-- Nothing, written without fractional digits. -/
def zero : Amount := ⟨0, 0, false, by decide, by decide, nofun⟩

/-- A whole number of currency units. -/
def ofWhole (n : UInt64) : Amount :=
  ⟨n.toNat, 0, false, Nat.lt_trans n.toNat_lt (by decide), by decide, nofun⟩

def isZero (a : Amount) : Bool := a.mantissa == 0

/-- The amount below zero of this size, which only a zero has: the same zero with a minus. -/
def negated? (a : Amount) : Option Amount :=
  if h : a.mantissa = 0 then some { a with minus := true, mantissa_of_minus := fun _ => h }
  else none

/-- The mantissa the amount has when it is written with `places ≥ scale` fractional digits. -/
def mantissaAt (a : Amount) (places : Nat) : Nat := a.mantissa * 10 ^ (places - a.scale)

/-- The exact value, counted in units of `10 ^ -28`. Amounts compare by it: `1.5` and `1.50` are
equal amounts and different decimals. -/
def units (a : Amount) : Nat := a.mantissaAt 28

instance : Inhabited Amount := ⟨zero⟩
instance : LE Amount := ⟨fun a b => a.units ≤ b.units⟩
instance : LT Amount := ⟨fun a b => a.units < b.units⟩
instance (a b : Amount) : Decidable (a ≤ b) := inferInstanceAs (Decidable (a.units ≤ b.units))
instance (a b : Amount) : Decidable (a < b) := inferInstanceAs (Decidable (a.units < b.units))

theorem le_iff_units {a b : Amount} : a ≤ b ↔ a.units ≤ b.units := Iff.rfl

theorem lt_iff_units {a b : Amount} : a < b ↔ a.units < b.units := Iff.rfl

theorem ofParts?_eq_some {m s : Nat} {a : Amount} :
    ofParts? m s = some a ↔ a.mantissa = m ∧ a.scale = s ∧ a.minus = false := by
  constructor
  · intro h
    by_cases fits : m < 2 ^ (96 : Nat) ∧ s ≤ 28
    · rw [ofParts?, dif_pos fits] at h
      obtain rfl := Option.some.inj h
      exact ⟨rfl, rfl, rfl⟩
    · rw [ofParts?, dif_neg fits] at h
      exact absurd h (by simp)
  · rintro ⟨rfl, rfl, plus⟩
    obtain ⟨m, s, minus, hm, hs, _⟩ := a
    obtain rfl : minus = false := plus
    exact dif_pos ⟨hm, hs⟩

@[simp] theorem units_zero : zero.units = 0 := rfl

theorem isZero_iff_units {a : Amount} : a.isZero = true ↔ a.units = 0 := by
  rw [isZero, beq_iff_eq, units, mantissaAt, Nat.mul_eq_zero]
  exact ⟨Or.inl, fun h => h.resolve_right (Nat.ne_of_gt (Nat.pow_pos (by decide)))⟩

end Amount

end SpendingLimits
