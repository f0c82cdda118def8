namespace SpendingLimits

variable {F G A B : Type}

theorem bind_eq_ok {step : Except F A} {next : A → Except F B} {b : B} :
    step >>= next = .ok b ↔ ∃ a, step = .ok a ∧ next a = .ok b := by
  cases step <;> simp [bind, Except.bind]

theorem check_bind_eq_ok {check : Except F Unit} {next : Unit → Except F B} {b : B} :
    check >>= next = .ok b ↔ check = .ok () ∧ next () = .ok b := by
  cases check <;> simp [bind, Except.bind]

theorem bind_eq_error {step : Except F A} {next : A → Except F B} {why : F} :
    step >>= next = .error why ↔ step = .error why ∨ ∃ a, step = .ok a ∧ next a = .error why := by
  cases step <;> simp [bind, Except.bind]

/-- What a step fails with. -/
def fault? : Except F A → Option F
  | .ok _ => none
  | .error why => some why

/-- The first fault of two steps is that of the first step, or else what the second fails with after
it. -/
theorem bind_eq_error_iff_first {step : Except F A} {next : A → Except F B} {later : Option F}
    {why : F} (h : ∀ a, step = .ok a → (next a = .error why ↔ later = some why)) :
    step >>= next = .error why ↔ (fault? step).or later = some why := by
  cases step with
  | error other => simp [fault?, bind, Except.bind]
  | ok a => exact h a rfl

theorem map_eq_ok {answer : A → B} {step : Except F A} {b : B} :
    step.map answer = .ok b ↔ ∃ a, step = .ok a ∧ answer a = b := by
  cases step <;> simp [Except.map]

theorem map_eq_error {answer : A → B} {step : Except F A} {why : F} :
    step.map answer = .error why ↔ step = .error why := by
  cases step <;> simp [Except.map]

@[simp] theorem mapError_ok (answer : F → G) (a : A) :
    (Except.ok a : Except F A).mapError answer = .ok a := rfl

@[simp] theorem mapError_error (answer : F → G) (why : F) :
    (Except.error why : Except F A).mapError answer = .error (answer why) := rfl

theorem mapError_eq_ok {answer : F → G} {step : Except F A} {a : A} :
    step.mapError answer = .ok a ↔ step = .ok a := by
  cases step <;> simp

theorem mapError_eq_error {answer : F → G} {step : Except F A} {fault : G} :
    step.mapError answer = .error fault ↔ ∃ why, step = .error why ∧ answer why = fault := by
  cases step <;> simp

theorem fault?_eq_some {step : Except F A} {why : F} :
    fault? step = some why ↔ step = .error why := by
  cases step <;> simp [fault?]

theorem toOption_eq_some {step : Except F A} {a : A} : step.toOption = some a ↔ step = .ok a := by
  cases step <;> simp [Except.toOption]

theorem fault?_mapError (answer : F → G) (step : Except F A) :
    fault? (step.mapError answer) = (fault? step).map answer := by
  cases step <;> rfl

theorem fault?_map (answer : A → B) (step : Except F A) :
    fault? (step.map answer) = fault? step := by
  cases step <;> rfl

/-- The fault of the first step, or else what is wrong after it. -/
theorem fault?_bind {step : Except F A} {next : A → Except F B} {later : Option F}
    (h : ∀ a, step = .ok a → fault? (next a) = later) :
    fault? (step >>= next) = (fault? step).or later := by
  cases step with
  | error why => rfl
  | ok a => exact h a rfl

theorem mapError_bind_pure (answer : F → G) (f : A → B) (step : Except F A) :
    (step.mapError answer >>= fun a => pure (f a)) = (step.map f).mapError answer := by
  cases step <;> rfl

theorem findSome?_cons_or (f : A → Option B) (a : A) (as : List A) :
    (a :: as).findSome? f = (f a).or (as.findSome? f) := by
  rw [List.findSome?_cons]
  cases f a <;> rfl

/-- Outcomes of two runs that both are there, with related results, or fail for one reason. -/
inductive Matches (R : A → B → Prop) : Except F A → Except F B → Prop
  | ok {a : A} {b : B} (h : R a b) : Matches R (.ok a) (.ok b)
  | error (why : F) : Matches R (.error why) (.error why)

/-- Runs go on to match when their next steps match on related results. -/
theorem Matches.bind {C D : Type} {R : A → B → Prop} {S : C → D → Prop} {x : Except F A}
    {y : Except F B} {f : A → Except F C} {g : B → Except F D} (h : Matches R x y)
    (hnext : ∀ a b, R a b → Matches S (f a) (g b)) : Matches S (x >>= f) (y >>= g) := by
  cases h with
  | ok hab => exact hnext _ _ hab
  | error why => exact .error why

theorem Matches.mapError {R : A → B → Prop} {x : Except F A} {y : Except F B} (h : Matches R x y)
    (answer : F → G) : Matches R (x.mapError answer) (y.mapError answer) := by
  cases h with
  | ok hab => exact .ok hab
  | error why => exact .error (answer why)

end SpendingLimits
