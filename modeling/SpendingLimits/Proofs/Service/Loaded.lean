import SpendingLimits.Proofs.Service.Answer
import SpendingLimits.Proofs.Store.Integrity

namespace SpendingLimits

theorem Store.Applies.applicable {store : Store} {book : Rulebook} {context : Context} {t : Amount}
    {p : Profile} (h : store.Applies book context t p) (hbook : store.rulebook = .ok book)
    (ledger : Ledger) (now : Time.Instant) :
    (Sources.ofMemory store ledger now).applicable context t = .ok p := by
  rw [Sources.applicable, bind_eq_ok]
  refine ⟨book, hbook, ?_⟩
  rw [bind_eq_ok]
  exact ⟨some p, congrArg Except.ok h.stored, rfl⟩

/-- Over a store that a rule set was loaded into, and into which profiles have been stored since,
with or without success, the three calls answer under the stored and valid profile of the rule that
is chosen, or they all fail because the total over all time is too large. -/
theorem loaded_answers {set : RuleSet} {loaded : Store} (hload : set.toStore = .ok loaded)
    (upserts : List Profile) (ledger : Ledger) (now : Time.Instant) (hb : Window.AllBegin now)
    (account : AccountId) (context : Context) (amount : Amount) :
    let store := loaded.afterUpserts upserts
    let sources := Sources.ofMemory store ledger now
    let tooLarge : StorageFault := .totalOverflow account
    ∃ book, store.rulebook = .ok book ∧
      ((∃ u p, ledger.usage account now = .ok u ∧ store.Applies book context u.allTime p ∧
          sources.profile ⟨account, context⟩ = .ok p ∧
          sources.check ⟨account, amount, context⟩ = .ok (p.judge u amount) ∧
          sources.limits ⟨account, context⟩ = .ok (p.summary u)) ∨
        (ledger.allTimeTotal account now = .error (.storage tooLarge) ∧
          sources.profile ⟨account, context⟩ = .error (.internal tooLarge.message) ∧
          sources.check ⟨account, amount, context⟩ = .error (.internal tooLarge.message) ∧
          sources.limits ⟨account, context⟩ = .error (.internal tooLarge.message))) := by
  intro store sources tooLarge
  obtain ⟨⟨book, hwell⟩, rfl⟩ := RuleSet.toStore_eq_ok.mp hload
  have hintact : store.Intact book := hwell.intact.afterUpserts upserts
  refine ⟨book, hintact.rulebook, ?_⟩
  cases ht : ledger.allTimeTotal account now with
  | ok t =>
    left
    obtain ⟨p, happlies⟩ := hintact.exists_applies context t
    have hp : sources.applicable context t = .ok p :=
      happlies.applicable hintact.rulebook ledger now
    obtain ⟨u, hu, rfl, hreading, hprofile⟩ := Sources.ofMemory_reading_of_total hb ht hp
    obtain ⟨hcheck, hlimits⟩ := Sources.answers_of_reading hreading amount
    exact ⟨u, p, hu, happlies, hprofile, hcheck, hlimits⟩
  | error why =>
    right
    obtain rfl : why = .storage tooLarge := Ledger.total_eq_error hb none ht
    obtain ⟨hreading, hprofile⟩ := Sources.ofMemory_reading_of_total_error store context hb ht
    obtain ⟨hcheck, hlimits⟩ := Sources.answers_of_reading_error hreading amount
    exact ⟨rfl, hprofile, hcheck, hlimits⟩

/-- The trusted profile is replaced, and then refused with nothing as its upper bound; an account of
1200 comes under the one that was stored last. -/
theorem loaded_answers_after_upserts :
    let account : AccountId := ⟨⟨1, by decide⟩⟩
    let now : Time.Instant := ⟨0, 0, by decide, by decide, by decide, by decide⟩
    let context : Context := ⟨none, none⟩
    let profile (id : String) (high : UInt64) : Profile :=
      ⟨⟨id⟩, id, Amount.ofWhole 1, Amount.ofWhole high, none, none, none, Amount.zero⟩
    let fallback : Rule := ⟨⟨"default"⟩, true, 9, ⟨"basic"⟩, Criteria.any⟩
    let trusted : Rule :=
      ⟨⟨"trusted"⟩, false, 1, ⟨"trusted"⟩, ⟨none, none, some (Amount.ofWhole 1000)⟩⟩
    let set : RuleSet := ⟨[profile "basic" 500, profile "trusted" 2000], [fallback, trusted]⟩
    let loaded : Store := ⟨set.profiles, set.rules⟩
    let store := loaded.afterUpserts [profile "trusted" 5000, profile "trusted" 0]
    let ledger : Ledger := ⟨[⟨none, account, Amount.ofWhole 1200, context, .success, now⟩]⟩
    let sources := Sources.ofMemory store ledger now
    set.toStore = .ok loaded ∧ Window.AllBegin now ∧ ∃ book u,
      store.rulebook = .ok book ∧ ledger.usage account now = .ok u ∧
      store.Applies book context u.allTime (profile "trusted" 5000) ∧
      sources.check ⟨account, Amount.ofWhole 3000, context⟩ =
        .ok ((profile "trusted" 5000).judge u (Amount.ofWhole 3000)) := by
  intro account now context profile fallback trusted set loaded store ledger sources
  have hload : set.toStore = .ok loaded := by cbv
  have hb : Window.AllBegin now := by intro w; cases w <;> decide
  have hall : ledger.allTimeTotal account now = .ok (Amount.ofWhole 1200) := by decide
  have hprofile : sources.profile ⟨account, context⟩ = .ok (profile "trusted" 5000) := by decide
  obtain ⟨book, hbook, h⟩ := loaded_answers hload [profile "trusted" 5000, profile "trusted" 0]
    ledger now hb account context (Amount.ofWhole 3000)
  rcases h with ⟨u, p, hu, happlies, hp, hcheck, _⟩ | ⟨hfault, _⟩
  · obtain rfl : profile "trusted" 5000 = p := Except.ok.inj (hprofile.symm.trans hp)
    exact ⟨hload, hb, book, u, hbook, hu, happlies, hcheck⟩
  · rw [hall] at hfault
    cases hfault

end SpendingLimits
