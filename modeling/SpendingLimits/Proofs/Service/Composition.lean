import SpendingLimits.Proofs.Service.Answer

namespace SpendingLimits.Sources

/-- The profile of the rule that applies is there. -/
def Governs (s : Sources) (context : Context) (allTime : Amount) (p : Profile) : Prop :=
  ∃ book, s.rulebook = .ok book ∧
    s.profile? (book.choose context allTime).profile = .ok (some p)

/-- Every source has an answer: all totals, and the profile of the rule that applies. -/
structure Yields (s : Sources) (account : AccountId) (context : Context) (u : Usage)
    (p : Profile) : Prop where
  windowTotal : ∀ w, s.windowTotal w account = .ok (u.total w)
  allTimeTotal : s.allTimeTotal account = .ok u.allTime
  governs : s.Governs context u.allTime p

/-- What goes wrong in looking up a profile once the rule that applies is known. -/
def lookupFault? (s : Sources) (account : AccountId) (context : Context) : Option StoreFault :=
  match s.allTimeTotal account, s.rulebook with
  | .ok t, .ok book =>
    let id := (book.choose context t).profile
    match s.profile? id with
    | .ok (some _) => none
    | .ok none => some (.domain (.profileNotFound id))
    | .error why => some why
  | _, _ => none

/-- The order in which a check and a summary read the windows. -/
def readOrder : List Window := [.daily, .weekly, .monthly]

/-- The first fault of the sources in the order of reading, of which only some windows are read. -/
def firstFault? (s : Sources) (windows : List Window) (account : AccountId) (context : Context) :
    Option StoreFault :=
  ((windows.map fun w => fault? (s.windowTotal w account)) ++
    [fault? (s.allTimeTotal account), fault? s.rulebook, s.lookupFault? account context]).findSome?
      id

variable {s : Sources} {account : AccountId} {context : Context} {u : Usage} {p : Profile}
  {t : Amount} {why : StoreFault}

theorem usage_eq_ok :
    s.usage account = .ok u ↔
      (∀ w, s.windowTotal w account = .ok (u.total w)) ∧
        s.allTimeTotal account = .ok u.allTime :=
  Usage.gather_eq_ok (fun w => s.windowTotal w account) (s.allTimeTotal account)

theorem applicable_eq_ok : s.applicable context t = .ok p ↔ s.Governs context t p := by
  simp only [applicable, bind_eq_ok, Governs]
  constructor
  · rintro ⟨book, hbook, found, hfound, hp⟩
    cases found with
    | none => cases hp
    | some q =>
      obtain rfl := Except.ok.inj hp
      exact ⟨book, hbook, hfound⟩
  · rintro ⟨book, hbook, hfound⟩
    exact ⟨book, hbook, some p, hfound, rfl⟩

theorem reading_eq_ok_iff_yields :
    s.reading account context = .ok (u, p) ↔ s.Yields account context u p := by
  rw [reading_eq_ok, usage_eq_ok, applicable_eq_ok]
  constructor
  · rintro ⟨⟨hw, ht⟩, hp⟩
    exact ⟨hw, ht, hp⟩
  · intro h
    exact ⟨⟨h.windowTotal, h.allTimeTotal⟩, h.governs⟩

theorem profile_eq_ok :
    s.profile ⟨account, context⟩ = .ok p ↔
      ∃ t, s.allTimeTotal account = .ok t ∧ s.Governs context t p := by
  simp only [profile, mapError_eq_ok, bind_eq_ok, applicable_eq_ok]

/-- A profile that is not there is a fault of the lookup. -/
theorem applicable_eq_error (ht : s.allTimeTotal account = .ok t) :
    s.applicable context t = .error why ↔
      (fault? s.rulebook).or (s.lookupFault? account context) = some why := by
  rw [applicable]
  apply bind_eq_error_iff_first
  intro book hbook
  rw [lookupFault?, ht, hbook]
  cases hfound : s.profile? (book.choose context t).profile with
  | error other =>
    simp only [hfound]
    exact ⟨fun h => congrArg some (Except.error.inj h), fun h => congrArg _ (Option.some.inj h)⟩
  | ok found =>
    cases found with
    | none =>
      simp only [hfound]
      exact ⟨fun h => congrArg some (Except.error.inj h), fun h => congrArg _ (Option.some.inj h)⟩
    | some q =>
      simp only [hfound]
      exact ⟨fun h => (by cases h), fun h => (by cases h)⟩

/-- With all windows read, a reading fails with the first fault of the sources. -/
theorem reading_eq_error_iff_first :
    s.reading account context = .error why ↔
      s.firstFault? readOrder account context = some why := by
  simp only [reading, usage, bind_assoc, pure_bind, firstFault?, readOrder, List.map_cons,
    List.map_nil, List.cons_append, List.nil_append, findSome?_cons_or, id]
  apply bind_eq_error_iff_first
  intro daily _
  apply bind_eq_error_iff_first
  intro weekly _
  apply bind_eq_error_iff_first
  intro monthly _
  apply bind_eq_error_iff_first
  intro allTime ht
  rw [List.findSome?_nil, Option.or_none, ← applicable_eq_error ht, bind_eq_error]
  simp [pure, Except.pure]

theorem profile_eq_error_iff_first {fault : ServiceFault} :
    s.profile ⟨account, context⟩ = .error fault ↔
      ∃ why, s.firstFault? [] account context = some why ∧ .ofStore why = fault := by
  rw [profile, mapError_eq_error]
  simp only [firstFault?, List.map_nil, List.nil_append, findSome?_cons_or, id, List.findSome?_nil,
    Option.or_none]
  have hfirst : ∀ why, (s.allTimeTotal account >>= s.applicable context) = .error why ↔
      (fault? (s.allTimeTotal account)).or
        ((fault? s.rulebook).or (s.lookupFault? account context)) = some why := by
    intro why
    apply bind_eq_error_iff_first
    intro allTime ht
    exact applicable_eq_error ht
  simp only [← hfirst]

/-- A check and a summary are both made from one reading. -/
theorem map_reading_eq_ok {A : Type} {answer : Usage × Profile → A} {a : A} :
    ((s.reading account context).mapError ServiceFault.ofStore).map answer = .ok a ↔
      ∃ u p, s.Yields account context u p ∧ answer (u, p) = a := by
  rw [map_eq_ok]
  simp only [mapError_eq_ok, Prod.exists, reading_eq_ok_iff_yields]

theorem map_reading_eq_error {A : Type} {answer : Usage × Profile → A} {fault : ServiceFault} :
    ((s.reading account context).mapError ServiceFault.ofStore).map answer = .error fault ↔
      ∃ why, s.firstFault? readOrder account context = some why ∧ .ofStore why = fault := by
  rw [map_eq_error, mapError_eq_error]
  simp only [reading_eq_error_iff_first]

/-- The answers, whatever the sources do. A check and a summary are there exactly when all sources
yield, and are then made from the totals and the profile; otherwise the first fault in the order of
reading is reported. The profile asks for the same but the windows, so it is there whenever the
others are. Faults of the rules are never the fault of a request. -/
theorem answers_compose (s : Sources) (account : AccountId) (context : Context) (amount : Amount) :
    (∀ v, s.check ⟨account, amount, context⟩ = .ok v ↔
      ∃ u p, s.Yields account context u p ∧ p.judge u amount = v) ∧
    (∀ v, s.limits ⟨account, context⟩ = .ok v ↔
      ∃ u p, s.Yields account context u p ∧ p.summary u = v) ∧
    (∀ p, s.profile ⟨account, context⟩ = .ok p ↔
      ∃ t, s.allTimeTotal account = .ok t ∧ s.Governs context t p) ∧
    (∀ u p, s.Yields account context u p → s.profile ⟨account, context⟩ = .ok p) ∧
    (∀ fault, s.check ⟨account, amount, context⟩ = .error fault ↔
      ∃ why, s.firstFault? readOrder account context = some why ∧ .ofStore why = fault) ∧
    (∀ fault, s.limits ⟨account, context⟩ = .error fault ↔
      ∃ why, s.firstFault? readOrder account context = some why ∧ .ofStore why = fault) ∧
    (∀ fault, s.profile ⟨account, context⟩ = .error fault ↔
      ∃ why, s.firstFault? [] account context = some why ∧ .ofStore why = fault) ∧
    (∀ cause, ServiceFault.ofStore (.domain (.rulebook cause)) =
      .internal (DomainFault.rulebook cause).message) ∧
    ∀ id, ServiceFault.ofStore (.domain (.profileNotFound id)) =
      .internal (DomainFault.profileNotFound id).message := by
  simp only [check_eq, limits_eq]
  refine ⟨fun v => map_reading_eq_ok, fun v => map_reading_eq_ok, fun p => profile_eq_ok, ?_,
    fun fault => map_reading_eq_error, fun fault => map_reading_eq_error,
    fun fault => profile_eq_error_iff_first, fun cause => rfl, fun id => rfl⟩
  intro u p h
  exact profile_eq_ok.mpr ⟨u.allTime, h.allTimeTotal, h.governs⟩

/-- The week fails and the profile is missing: a check reports the week, and the profile, which does
not ask for it, reports what is missing. With both mended all three answers are there. -/
theorem answers_compose_of_two_faults :
    let account : AccountId := ⟨⟨1, by decide⟩⟩
    let context : Context := ⟨none, none⟩
    let one := Amount.ofWhole 1
    let p : Profile := ⟨⟨"basic"⟩, "Basic", one, one, none, none, none, Amount.zero⟩
    let lost : StoreFault := .storage (.other "connection lost")
    let book : Rulebook := ⟨[], ⟨⟨"default"⟩, true, 0, ⟨"basic"⟩, Criteria.any⟩⟩
    let mended : Sources := ⟨fun _ _ => .ok one, fun _ => .ok one, .ok book, fun _ => .ok (some p)⟩
    let s : Sources := { mended with
      windowTotal := fun w _ => if w = .weekly then .error lost else .ok one
      profile? := fun _ => .ok none }
    let u : Usage := ⟨one, one, one, one⟩
    s.check ⟨account, one, context⟩ = .error (.internal "connection lost") ∧
      s.profile ⟨account, context⟩ =
        .error (.internal (DomainFault.profileNotFound ⟨"basic"⟩).message) ∧
      mended.Yields account context u p ∧
      mended.check ⟨account, one, context⟩ = .ok (p.judge u one) ∧
      mended.limits ⟨account, context⟩ = .ok (p.summary u) ∧
      mended.profile ⟨account, context⟩ = .ok p := by
  intro account context one p lost book mended s u
  obtain ⟨_, _, _, _, hcheck, _, hprofile, _⟩ := answers_compose s account context one
  obtain ⟨hcheck', hlimits', _, hprofile', _⟩ := answers_compose mended account context one
  have hyields : mended.Yields account context u p := by
    refine ⟨?_, rfl, book, rfl, rfl⟩
    intro w
    cases w <;> rfl
  have hweek := (hcheck (.internal "connection lost")).mpr ⟨lost, rfl, rfl⟩
  have hmissing := (hprofile (.internal (DomainFault.profileNotFound ⟨"basic"⟩).message)).mpr
    ⟨.domain (.profileNotFound ⟨"basic"⟩), rfl, rfl⟩
  exact ⟨hweek, hmissing, hyields, (hcheck' _).mpr ⟨u, p, hyields, rfl⟩,
    (hlimits' _).mpr ⟨u, p, hyields, rfl⟩, hprofile' u p hyields⟩

end SpendingLimits.Sources
