import SpendingLimits.Proofs.Ledger.Recording
import SpendingLimits.Proofs.Service.Answer
import SpendingLimits.Proofs.Verdict.Enforcement

namespace SpendingLimits

def Moment.sources (m : Moment) (store : Store) : Sources :=
  Sources.ofMemory store m.ledger m.now

variable {store : Store} {account : AccountId} {p : Profile} {m n : Moment} {e : Entry}
  {Passes : Time.Instant → Time.Instant → Prop}

/-- An entry that counts and is dated now, of an amount that a check has just allowed under a
profile. -/
structure Moment.Allows (m : Moment) (store : Store) (account : AccountId) (p : Profile)
    (e : Entry) : Prop where
  account_eq : e.account = account
  counts : e.status.counts = true
  createdAt_eq : e.createdAt = m.now
  checked : ∃ context verdict, (m.sources store).profile ⟨account, context⟩ = .ok p ∧
    (m.sources store).check ⟨account, e.amount, context⟩ = .ok verdict ∧ verdict.status = .allowed

/-- What may happen while an account spends under a profile. -/
inductive Spending.Step (store : Store) (account : AccountId) (p : Profile)
    (Passes : Time.Instant → Time.Instant → Prop) : Moment → Moment → Prop where
  | pass (m : Moment) (later : Time.Instant) (hb : Window.AllBegin later)
      (h : Passes m.now later) : Step store account p Passes m ⟨m.ledger, later⟩
  | other (m : Moment) (e : Entry) (h : e.account ≠ account) :
      Step store account p Passes m ⟨m.ledger.record e, m.now⟩
  | spend (m : Moment) (e : Entry) (h : m.Allows store account p e) :
      Step store account p Passes m ⟨m.ledger.record e, m.now⟩

def Spending (store : Store) (account : AccountId) (p : Profile)
    (Passes : Time.Instant → Time.Instant → Prop) : Moment → Moment → Prop :=
  Relation.ReflTransGen (Spending.Step store account p Passes)

/-- No entry of the account lies ahead of the clock, and its capped totals are there and within the
caps. -/
structure Moment.Within (m : Moment) (account : AccountId) (p : Profile) : Prop where
  past : ∀ e ∈ m.ledger.history account, e.createdAt ≤ m.now
  begins : Window.AllBegin m.now
  caps : ∀ w cap, p.cap? w = some cap →
    ∃ t, m.ledger.windowTotal w account m.now = .ok t ∧ t ≤ cap

namespace Moment

theorem within_empty {now : Time.Instant} (hb : Window.AllBegin now) :
    Within ⟨Ledger.empty, now⟩ account p := by
  refine ⟨fun e he => absurd he (List.not_mem_nil (a := e)), hb, fun w cap _ => ?_⟩
  exact ⟨Amount.zero, if_pos rfl, Nat.zero_le _⟩

/-- The profile of the verdict is the one that applies, so every capped total takes the amount. -/
theorem Allows.exists_add? (h : m.Allows store account p e) {w : Window} {cap : Amount}
    (hcap : p.cap? w = some cap) :
    ∃ t s, m.ledger.windowTotal w account m.now = .ok t ∧ Amount.add? t e.amount = some s ∧
      s ≤ cap := by
  obtain ⟨context, verdict, hprofile, hcheck, hallowed⟩ := h.checked
  obtain ⟨u, q, hreading, hjudge⟩ := Sources.exists_reading_of_check hcheck
  obtain ⟨husage, hq⟩ := Sources.reading_eq_ok.mp hreading
  have htotals := Ledger.usage_eq_ok.mp husage
  have hqp : q = p := by
    -- The all-time total of the usage is the one that the profile is looked up with.
    rw [sources, Sources.ofMemory_profile_eq, mapError_eq_ok, bind_eq_ok] at hprofile
    obtain ⟨t, ht, hp⟩ := hprofile
    obtain rfl : u.allTime = t := Except.ok.inj (htotals.2.symm.trans ht)
    exact Except.ok.inj (hq.symm.trans hp)
  subst hqp
  rw [← hjudge, Profile.judge_status_eq_allowed] at hallowed
  have hexceeds := Profile.isExceeded_eq_false.mp (hallowed.2.2 w) cap hcap
  obtain ⟨s, hs, hle⟩ := Amount.wouldExceed_eq_false.mp hexceeds
  exact ⟨u.total w, s, htotals.1 w, hs, hle⟩

theorem Within.pass (h : m.Within account p) {later : Time.Instant} (hb : Window.AllBegin later)
    (hpass : m.now.PassesTo later) : Within ⟨m.ledger, later⟩ account p := by
  refine ⟨fun e he => Time.Instant.le_trans (h.past e he) hpass.le, hb, fun w cap hcap => ?_⟩
  obtain ⟨t, ht, htcap⟩ := h.caps w cap hcap
  obtain ⟨s, hs, hst⟩ := Ledger.windowTotal_of_passesTo h.past h.begins hb hpass ht
  exact ⟨s, hs, Nat.le_trans hst htcap⟩

theorem Within.other (h : m.Within account p) (he : e.account ≠ account) :
    Within ⟨m.ledger.record e, m.now⟩ account p := by
  refine ⟨fun d hd => ?_, h.begins, fun w cap hcap => ?_⟩
  · rw [Ledger.history_record, if_neg he, List.append_nil] at hd
    exact h.past d hd
  · rw [Ledger.windowTotal_record_of_ne m.ledger w m.now he]
    exact h.caps w cap hcap

theorem Within.spend (h : m.Within account p) (he : m.Allows store account p e) :
    Within ⟨m.ledger.record e, m.now⟩ account p := by
  refine ⟨fun d hd => ?_, h.begins, fun w cap hcap => ?_⟩
  · rw [Ledger.history_record, if_pos he.account_eq, List.mem_append, List.mem_singleton] at hd
    rcases hd with hd | hd
    · exact h.past d hd
    · rw [hd, he.createdAt_eq]
      exact Time.Instant.le_refl m.now
  · obtain ⟨t, s, ht, hs, hle⟩ := he.exists_add? hcap
    obtain ⟨r, hr, hrs⟩ := Ledger.windowTotal_record_le h.begins he.account_eq ht hs
    exact ⟨r, hr, Nat.le_trans hrs hle⟩

end Moment

theorem Spending.Step.within (h : Spending.Step store account p Time.Instant.PassesTo m n)
    (hm : m.Within account p) : n.Within account p := by
  cases h with
  | pass later hb hpass => exact hm.pass hb hpass
  | other e he => exact hm.other he
  | spend e he => exact hm.spend he

theorem Spending.within (h : Spending store account p Time.Instant.PassesTo m n)
    (hm : m.Within account p) : n.Within account p := by
  induction h with
  | refl => exact hm
  | tail _ hstep ih => exact hstep.within ih

/-- Whatever happens while an account spends under a profile, every capped total stays within its
cap. -/
theorem spending_within_caps (h : Spending store account p Time.Instant.PassesTo m n)
    (hm : m.Within account p) {w : Window} {cap : Amount} (hcap : p.cap? w = some cap) :
    ∃ t, n.ledger.windowTotal w account n.now = .ok t ∧ t ≤ cap ∧
      ∀ u, n.ledger.usage account n.now = .ok u → u.total w = t := by
  obtain ⟨t, ht, hle⟩ := (h.within hm).caps w cap hcap
  refine ⟨t, ht, hle, fun u hu => ?_⟩
  exact Except.ok.inj (((Ledger.usage_eq_ok.mp hu).1 w).symm.trans ht)

/-- Two spends of 60 under a daily cap of 100, more than a day apart. -/
theorem spending_within_caps_next_day :
    let account : AccountId := ⟨⟨1, by decide⟩⟩
    let first : Time.Instant := ⟨0, 0, by decide, by decide, by decide, by decide⟩
    let later : Time.Instant := ⟨86401, 0, by decide, by decide, by decide, by decide⟩
    let cap := Amount.ofWhole 100
    let p : Profile :=
      ⟨⟨"basic"⟩, "Basic", Amount.ofWhole 1, Amount.ofWhole 500, some cap, none, none, Amount.zero⟩
    let store : Store := ⟨[p], [⟨⟨"default"⟩, true, 1, ⟨"basic"⟩, Criteria.any⟩]⟩
    let entry (t : Time.Instant) : Entry :=
      ⟨none, account, Amount.ofWhole 60, ⟨none, none⟩, .success, t⟩
    let last : Moment := ⟨⟨[entry first, entry later]⟩, later⟩
    Spending store account p Time.Instant.PassesTo ⟨Ledger.empty, first⟩ last ∧
      ∃ t, last.ledger.windowTotal .daily account later = .ok t ∧ t ≤ cap ∧
        ∀ u, last.ledger.usage account later = .ok u → u.total .daily = t := by
  intro account first later cap p store entry last
  let allowed : Verdict := ⟨.allowed, p.minTransaction, p.maxTransaction⟩
  have hbegins : Window.AllBegin first := by intro w; cases w <;> decide
  have hbegins' : Window.AllBegin later := by intro w; cases w <;> decide
  have hfirstSpend : Moment.Allows ⟨Ledger.empty, first⟩ store account p (entry first) :=
    ⟨rfl, rfl, rfl, ⟨none, none⟩, allowed, by decide, by decide, rfl⟩
  have hlaterSpend : Moment.Allows ⟨⟨[entry first]⟩, later⟩ store account p (entry later) :=
    ⟨rfl, rfl, rfl, ⟨none, none⟩, allowed, by decide, by decide, rfl⟩
  have hrun : Spending store account p Time.Instant.PassesTo ⟨Ledger.empty, first⟩ last :=
    .tail (.tail (.single (.spend _ _ hfirstSpend))
      (.pass _ later hbegins' (.of_le (by decide) (by decide))))
      (.spend _ _ hlaterSpend)
  exact ⟨hrun, spending_within_caps hrun (Moment.within_empty hbegins) rfl⟩

/-- Two spends of 60 under a daily cap of 100, in the first second of a day and half a second into
the leap second at its end. In the leap second the window begins behind the first spend; when it is
over, the window begins before it. -/
theorem spending_above_cap_after_leap_second :
    ¬∀ (store : Store) (account : AccountId) (p : Profile) (m n : Moment),
      m.Within account p → (∀ w, ∃ t, m.ledger.windowTotal w account m.now = .ok t) →
      Spending store account p (· ≤ ·) m n → ∀ w cap, p.cap? w = some cap →
      ∀ u, n.ledger.usage account n.now = .ok u → u.total w ≤ cap := by
  intro h
  let account : AccountId := ⟨⟨1, by decide⟩⟩
  let first : Time.Instant := ⟨1483142400, 200000000, by decide, by decide, by decide, by decide⟩
  let leap : Time.Instant := ⟨1483228799, 1500000000, by decide, by decide, by decide, by decide⟩
  let later : Time.Instant := ⟨1483228800, 0, by decide, by decide, by decide, by decide⟩
  let cap := Amount.ofWhole 100
  let p : Profile :=
    ⟨⟨"basic"⟩, "Basic", Amount.ofWhole 1, Amount.ofWhole 500, some cap, none, none, Amount.zero⟩
  let store : Store := ⟨[p], [⟨⟨"default"⟩, true, 1, ⟨"basic"⟩, Criteria.any⟩]⟩
  let entry (t : Time.Instant) : Entry :=
    ⟨none, account, Amount.ofWhole 60, ⟨none, none⟩, .success, t⟩
  let allowed : Verdict := ⟨.allowed, p.minTransaction, p.maxTransaction⟩
  have hfirst : Window.AllBegin first := by intro w; cases w <;> decide
  have hleap : Window.AllBegin leap := by intro w; cases w <;> decide
  have hlater : Window.AllBegin later := by intro w; cases w <;> decide
  have hfirstSpend : Moment.Allows ⟨Ledger.empty, first⟩ store account p (entry first) :=
    ⟨rfl, rfl, rfl, ⟨none, none⟩, allowed, by decide, by decide, rfl⟩
  have hleapSpend : Moment.Allows ⟨⟨[entry first]⟩, leap⟩ store account p (entry leap) :=
    ⟨rfl, rfl, rfl, ⟨none, none⟩, allowed, by decide, by decide, rfl⟩
  have hrun : Spending store account p (· ≤ ·) ⟨Ledger.empty, first⟩
      ⟨⟨[entry first, entry leap]⟩, later⟩ :=
    .tail (.tail (.tail (.single (.spend _ _ hfirstSpend)) (.pass _ leap hleap (by decide)))
      (.spend _ _ hleapSpend)) (.pass _ later hlater (by decide))
  have husage : (⟨[entry first, entry leap]⟩ : Ledger).usage account later =
      .ok ⟨Amount.ofWhole 120, Amount.ofWhole 120, Amount.ofWhole 120, Amount.ofWhole 120⟩ := by
    decide
  have hwithin := h store account p _ _ (Moment.within_empty hfirst)
    (fun w => ⟨Amount.zero, if_pos rfl⟩) hrun .daily cap rfl _ husage
  exact absurd hwithin (by decide)

end SpendingLimits
