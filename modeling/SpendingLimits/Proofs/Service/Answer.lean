import SpendingLimits.Proofs.Ledger.Total
import SpendingLimits.Proofs.Rulebook.Choice
import SpendingLimits.Service

namespace SpendingLimits

namespace Sources

/-- What a check and a summary are made from: the totals of an account and the profile that
applies. -/
def reading (s : Sources) (account : AccountId) (context : Context) :
    Except StoreFault (Usage × Profile) := do
  let usage ← s.usage account
  let p ← s.applicable context usage.allTime
  return (usage, p)

theorem reading_eq_ok {s : Sources} {account : AccountId} {context : Context} {u : Usage}
    {p : Profile} :
    s.reading account context = .ok (u, p) ↔
      s.usage account = .ok u ∧ s.applicable context u.allTime = .ok p := by
  simp only [reading, bind_eq_ok]
  constructor
  · intro h
    obtain ⟨v, hv, q, hq, heq⟩ := h
    cases heq
    exact ⟨hv, hq⟩
  · intro h
    exact ⟨u, h.1, p, h.2, rfl⟩

theorem reading_eq_error {s : Sources} {account : AccountId} {context : Context}
    {why : StoreFault} :
    s.reading account context = .error why ↔
      s.usage account = .error why ∨
        ∃ u, s.usage account = .ok u ∧ s.applicable context u.allTime = .error why := by
  simp only [reading, bind_eq_error]
  simp [pure, Except.pure]

/-- Both calls read the same, and differ in what they make of it. -/
theorem mapError_reading (s : Sources) (account : AccountId) (context : Context) {A : Type}
    (answer : Usage → Profile → A) :
    Except.mapError ServiceFault.ofStore (do
      let usage ← s.usage account
      let p ← s.applicable context usage.allTime
      return answer usage p) =
    ((s.reading account context).mapError ServiceFault.ofStore).map fun r => answer r.1 r.2 := by
  rw [reading]
  cases s.usage account with
  | error why => rfl
  | ok u =>
    change Except.mapError _ (s.applicable _ _ >>= _) =
      (Except.mapError _ (s.applicable _ _ >>= _)).map _
    cases s.applicable context u.allTime <;> rfl

theorem check_eq (s : Sources) (request : CheckRequest) :
    s.check request =
      ((s.reading request.account request.context).mapError ServiceFault.ofStore).map
        fun r => r.2.judge r.1 request.amount :=
  s.mapError_reading request.account request.context fun u p => p.judge u request.amount

theorem limits_eq (s : Sources) (query : LimitsQuery) :
    s.limits query =
      ((s.reading query.account query.context).mapError ServiceFault.ofStore).map
        fun r => r.2.summary r.1 :=
  s.mapError_reading query.account query.context fun u p => p.summary u

theorem exists_reading_of_check {s : Sources} {request : CheckRequest} {v : Verdict}
    (h : s.check request = .ok v) :
    ∃ u p, s.reading request.account request.context = .ok (u, p) ∧
      p.judge u request.amount = v := by
  rw [check_eq] at h
  cases hr : s.reading request.account request.context with
  | error why =>
    rw [hr] at h
    cases h
  | ok r =>
    rw [hr] at h
    exact ⟨r.1, r.2, rfl, Except.ok.inj h⟩

theorem answers_of_reading {s : Sources} {account : AccountId} {context : Context} {u : Usage}
    {p : Profile} (h : s.reading account context = .ok (u, p)) (amount : Amount) :
    s.check ⟨account, amount, context⟩ = .ok (p.judge u amount) ∧
      s.limits ⟨account, context⟩ = .ok (p.summary u) := by
  rw [check_eq, limits_eq, h]
  exact ⟨rfl, rfl⟩

theorem answers_of_reading_error {s : Sources} {account : AccountId} {context : Context}
    {why : StoreFault} (h : s.reading account context = .error why) (amount : Amount) :
    s.check ⟨account, amount, context⟩ = .error (.ofStore why) ∧
      s.limits ⟨account, context⟩ = .error (.ofStore why) := by
  rw [check_eq, limits_eq, h]
  exact ⟨rfl, rfl⟩

variable {store : Store} {ledger : Ledger} {now : Time.Instant} {account : AccountId}
  {context : Context}

theorem ofMemory_profile_eq :
    (ofMemory store ledger now).profile ⟨account, context⟩ =
      (ledger.allTimeTotal account now >>= (ofMemory store ledger now).applicable context).mapError
        ServiceFault.ofStore := rfl

/-- Without the totals, what can go wrong is up to the rules and the profiles. -/
theorem ofMemory_applicable_eq_error {t : Amount} {why : StoreFault}
    (h : (ofMemory store ledger now).applicable context t = .error why) :
    ∃ text, ServiceFault.ofStore why = .internal text := by
  rw [applicable, bind_eq_error] at h
  rcases h with h | h
  · change store.rulebook = .error why at h
    rw [Store.rulebook, mapError_eq_error] at h
    obtain ⟨d, hd, hwhy⟩ := h
    obtain ⟨cause, hcause⟩ := Rulebook.ofRules_eq_error hd
    rw [← hwhy, hcause]
    exact ⟨_, rfl⟩
  · obtain ⟨book, _, h⟩ := h
    rw [bind_eq_error] at h
    rcases h with h | h
    · cases h
    · obtain ⟨found, hfound, h⟩ := h
      cases found with
      | some p => cases h
      | none =>
        rw [← Except.error.inj h]
        exact ⟨_, rfl⟩

theorem ofMemory_reading_of_total {t : Amount} {p : Profile} (hb : Window.AllBegin now)
    (ht : ledger.allTimeTotal account now = .ok t)
    (hp : (ofMemory store ledger now).applicable context t = .ok p) :
    ∃ u, ledger.usage account now = .ok u ∧ u.allTime = t ∧
      (ofMemory store ledger now).reading account context = .ok (u, p) ∧
      (ofMemory store ledger now).profile ⟨account, context⟩ = .ok p := by
  obtain ⟨u, hu, rfl⟩ := Ledger.usage_of_allTimeTotal hb ht
  refine ⟨u, hu, rfl, reading_eq_ok.mpr ⟨hu, hp⟩, ?_⟩
  rw [ofMemory_profile_eq, ht, mapError_eq_ok]
  exact hp

theorem ofMemory_reading_of_total_error (store : Store) (context : Context) {why : StoreFault}
    (hb : Window.AllBegin now) (ht : ledger.allTimeTotal account now = .error why) :
    (ofMemory store ledger now).reading account context = .error why ∧
      (ofMemory store ledger now).profile ⟨account, context⟩ = .error (.ofStore why) := by
  refine ⟨reading_eq_error.mpr (.inl (Ledger.usage_of_allTimeTotal_error hb ht)), ?_⟩
  rw [ofMemory_profile_eq, ht]
  rfl

/-- The one total that the profile needs decides whether the others are there. -/
theorem ofMemory_reading_or (hb : Window.AllBegin now) :
    (∃ p u, ledger.usage account now = .ok u ∧
      (ofMemory store ledger now).reading account context = .ok (u, p) ∧
      (ofMemory store ledger now).profile ⟨account, context⟩ = .ok p) ∨
    ∃ why text, ServiceFault.ofStore why = .internal text ∧
      (ofMemory store ledger now).reading account context = .error why ∧
      (ofMemory store ledger now).profile ⟨account, context⟩ = .error (.internal text) := by
  cases ht : ledger.allTimeTotal account now with
  | ok t =>
    cases hp : (ofMemory store ledger now).applicable context t with
    | ok p =>
      obtain ⟨u, hu, _, hreading, hprofile⟩ := ofMemory_reading_of_total hb ht hp
      exact .inl ⟨p, u, hu, hreading, hprofile⟩
    | error why =>
      obtain ⟨u, hu, rfl⟩ := Ledger.usage_of_allTimeTotal hb ht
      obtain ⟨text, htext⟩ := ofMemory_applicable_eq_error hp
      refine .inr ⟨why, text, htext, reading_eq_error.mpr (.inr ⟨u, hu, hp⟩), ?_⟩
      rw [ofMemory_profile_eq, ht]
      exact mapError_eq_error.mpr ⟨why, hp, htext⟩
  | error why =>
    obtain rfl : why = .storage (.totalOverflow account) := Ledger.total_eq_error hb none ht
    obtain ⟨hreading, hprofile⟩ := ofMemory_reading_of_total_error store context hb ht
    exact .inr ⟨_, _, rfl, hreading, hprofile⟩

/-- The three calls for an account are there together and apply one profile, or they fail together
through no fault of the request. -/
theorem answers_agree (store : Store) (ledger : Ledger) (now : Time.Instant)
    (hb : Window.AllBegin now) (account : AccountId) (context : Context) (amount : Amount) :
    (∃ p u, ledger.usage account now = .ok u ∧
      (ofMemory store ledger now).profile ⟨account, context⟩ = .ok p ∧
      (ofMemory store ledger now).check ⟨account, amount, context⟩ = .ok (p.judge u amount) ∧
      (ofMemory store ledger now).limits ⟨account, context⟩ = .ok (p.summary u)) ∨
    (∃ text, (ofMemory store ledger now).profile ⟨account, context⟩ = .error (.internal text) ∧
      (ofMemory store ledger now).check ⟨account, amount, context⟩ = .error (.internal text) ∧
      (ofMemory store ledger now).limits ⟨account, context⟩ = .error (.internal text)) := by
  rw [check_eq, limits_eq]
  rcases ofMemory_reading_or hb with h | h
  · obtain ⟨p, u, hu, hr, hp⟩ := h
    rw [hr]
    exact .inl ⟨p, u, hu, hp, rfl, rfl⟩
  · obtain ⟨why, text, htext, hr, hp⟩ := h
    rw [hr, mapError_error, htext]
    exact .inr ⟨text, hp, rfl, rfl⟩

/-- Two entries that only together are too large, one of them older than every window: the month
holds one of them, and still all three calls fail. -/
theorem answers_agree_beyond_range :
    let account : AccountId := ⟨⟨1, by decide⟩⟩
    let old : Time.Instant := ⟨-86400 * 40, 0, by decide, by decide, by decide, by decide⟩
    let now : Time.Instant := ⟨0, 0, by decide, by decide, by decide, by decide⟩
    let largest : Amount := ⟨2 ^ 96 - 1, 0, false, by decide, by decide, nofun⟩
    let entry (t : Time.Instant) : Entry := ⟨none, account, largest, ⟨none, none⟩, .success, t⟩
    let ledger : Ledger := ⟨[entry old, entry now]⟩
    let sources := ofMemory Store.empty ledger now
    Window.AllBegin now ∧ ledger.windowTotal .monthly account now = .ok largest ∧
      ∃ text, sources.profile ⟨account, ⟨none, none⟩⟩ = .error (.internal text) ∧
        sources.check ⟨account, largest, ⟨none, none⟩⟩ = .error (.internal text) ∧
        sources.limits ⟨account, ⟨none, none⟩⟩ = .error (.internal text) := by
  intro account old now largest entry ledger sources
  have hb : Window.AllBegin now := by intro w; cases w <;> decide
  refine ⟨hb, by decide, ?_⟩
  rcases answers_agree Store.empty ledger now hb account ⟨none, none⟩ largest with h | h
  · obtain ⟨p, u, hu, _⟩ := h
    have hall : ledger.allTimeTotal account now = .error (.storage (.totalOverflow account)) := by
      decide
    rw [(Ledger.usage_eq_ok.mp hu).2] at hall
    cases hall
  · exact h

end Sources

end SpendingLimits
