namespace SpendingLimits

/-- The natural nearest to `n / d`; halfway between two it is the even one. -/
def halfEven (n d : Nat) : Nat :=
  if 2 * (n % d) < d ∨ 2 * (n % d) = d ∧ n / d % 2 = 0 then n / d else n / d + 1

/-- The natural nearest to `n / d`; halfway between two it is the larger one. -/
def halfUp (n d : Nat) : Nat := if 2 * (n % d) < d then n / d else n / d + 1

@[simp] theorem halfEven_one (n : Nat) : halfEven n 1 = n := by
  simp [halfEven, Nat.mod_one]

theorem halfEven_mul_left (n : Nat) {d : Nat} (hd : 0 < d) : halfEven (n * d) d = n := by
  simp [halfEven, Nat.mul_div_cancel _ hd, hd]

/-- The rounded quotient is at most half a unit below. -/
theorem le_halfEven (n : Nat) {d : Nat} (hd : 0 < d) : 2 * n ≤ (2 * halfEven n d + 1) * d := by
  have hdiv := Nat.div_add_mod n d
  have hmod := Nat.mod_lt n hd
  have expand : (2 * (n / d) + 1) * d = 2 * (d * (n / d)) + d := by
    rw [Nat.add_mul, Nat.mul_assoc, Nat.mul_comm (n / d) d, Nat.one_mul]
  have expand' : (2 * (n / d + 1) + 1) * d = 2 * (d * (n / d)) + 3 * d := by
    rw [Nat.mul_add, Nat.add_assoc, Nat.add_mul, Nat.mul_assoc, Nat.mul_comm (n / d) d]
  rw [halfEven]; split <;> omega

/-- The rounded quotient is at most half a unit above. -/
theorem halfEven_le (n : Nat) {d : Nat} (hd : 0 < d) : 2 * halfEven n d * d ≤ 2 * n + d := by
  have hdiv := Nat.div_add_mod n d
  have hmod := Nat.mod_lt n hd
  have expand : 2 * (n / d) * d = 2 * (d * (n / d)) := by
    rw [Nat.mul_assoc, Nat.mul_comm (n / d) d]
  have expand' : 2 * (n / d + 1) * d = 2 * (d * (n / d)) + 2 * d := by
    rw [Nat.mul_add, Nat.add_mul, expand]
  rw [halfEven]; split <;> omega

end SpendingLimits
