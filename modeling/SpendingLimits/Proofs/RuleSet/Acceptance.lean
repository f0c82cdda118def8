import SpendingLimits.CommandLine.Program
import SpendingLimits.Proofs.Store.Integrity

namespace SpendingLimits

namespace RuleSet

variable {s : RuleSet} {book : Rulebook}

/-- A store that holds a rule set and nothing else, and whose rules make a rulebook. -/
structure HeldBy (s : RuleSet) (book : Rulebook) (store : Store) : Prop where
  profile?_eq_some : ∀ id p, store.profile? id = some p ↔ p ∈ s.profiles ∧ p.id = id
  profiles_length : store.profiles.length = s.profiles.length
  rules_eq : store.rules = s.rules
  rulebook : store.rulebook = .ok book
  size_eq : book.size = s.rules.length

theorem WellFormed.heldBy (h : s.WellFormed book) : s.HeldBy book ⟨s.profiles, s.rules⟩ where
  profile?_eq_some _ _ := Store.profile?_eq_some h.profiles_nodup
  profiles_length := rfl
  rules_eq := rfl
  rulebook := mapError_eq_ok.mpr h.rulebook
  size_eq := Rulebook.size_eq_length h.rulebook

/-- What is reported of a rule set that is not accepted is the fault that its check finds; what a
store refuses is caught before. -/
theorem toStore_eq_error {fault : RuleSetFault} :
    s.toStore = .error fault ↔ ∃ why, s.validate = .error why ∧ fault = .invalid why := by
  cases hcheck : s.validate with
  | ok book =>
    rw [(validate_eq_ok.mp hcheck).toStore]
    simp
  | error why =>
    rw [toStore, hcheck]
    simp [bind, Except.bind, eq_comm]

/-- A store is made of a rule set exactly when the check of the rule set finds no fault, and
otherwise that fault is reported. The store holds what the rule set holds, its rulebook is the one
that the check returns, and so the report on it cannot fail. -/
theorem toStore_agrees (s : RuleSet) :
    ((∃ store, s.toStore = .ok store) ↔ ∃ book, s.validate = .ok book) ∧
    (∀ fault, s.toStore = .error fault ↔ ∃ why, s.validate = .error why ∧ fault = .invalid why) ∧
    ∀ book store, s.validate = .ok book → s.toStore = .ok store → s.HeldBy book store ∧
      ∀ ledger now, CommandLine.perform .validate store ledger now =
        .ok (0, CommandLine.validationReport store book) := by
  refine ⟨?_, fun fault => toStore_eq_error, ?_⟩
  · constructor
    · rintro ⟨store, hstore⟩
      obtain ⟨⟨book, hwell⟩, _⟩ := toStore_eq_ok.mp hstore
      exact ⟨book, validate_eq_ok.mpr hwell⟩
    · rintro ⟨book, hbook⟩
      exact ⟨_, (validate_eq_ok.mp hbook).toStore⟩
  · intro book store hbook hstore
    have hwell : s.WellFormed book := validate_eq_ok.mp hbook
    obtain ⟨_, rfl⟩ := toStore_eq_ok.mp hstore
    refine ⟨hwell.heldBy, fun ledger now => ?_⟩
    rw [CommandLine.perform, hwell.heldBy.rulebook]
    rfl

/-- A rule set with two profiles is held as it stands. With one of them twice it is not accepted,
although a store would take the second in place of the first. -/
theorem toStore_agrees_on_profile_twice :
    let basic : Profile :=
      ⟨⟨"basic"⟩, "Basic", Amount.ofWhole 1, Amount.ofWhole 500, none, none, none, Amount.zero⟩
    let card : Profile := { basic with id := ⟨"card"⟩ }
    let fallback : Rule := ⟨⟨"default"⟩, true, 0, ⟨"basic"⟩, Criteria.any⟩
    let cards : Rule := ⟨⟨"cards"⟩, false, 5, ⟨"card"⟩, ⟨none, some .card, none⟩⟩
    let set : RuleSet := ⟨[basic, card], [fallback, cards]⟩
    let twice : RuleSet := ⟨[basic, card, basic], [fallback, cards]⟩
    let book : Rulebook := ⟨[cards], fallback⟩
    set.validate = .ok book ∧ set.toStore = .ok ⟨[basic, card], [fallback, cards]⟩ ∧
      set.HeldBy book ⟨[basic, card], [fallback, cards]⟩ ∧
      twice.profiles.foldlM Store.upsertProfile Store.empty = .ok ⟨[card, basic], []⟩ ∧
      twice.toStore = .error (.invalid (.validation (.duplicateProfile ⟨"basic"⟩))) := by
  intro basic card fallback cards set twice book
  have hbook : set.validate = .ok book := by cbv
  have hstore : set.toStore = .ok ⟨[basic, card], [fallback, cards]⟩ := by cbv
  have htwice : twice.profiles.foldlM Store.upsertProfile Store.empty =
      .ok ⟨[card, basic], []⟩ := by cbv
  have hfault : twice.validate = .error (.validation (.duplicateProfile ⟨"basic"⟩)) := by cbv
  obtain ⟨hheld, _⟩ := (toStore_agrees set).2.2 book _ hbook hstore
  exact ⟨hbook, hstore, hheld, htwice, ((toStore_agrees twice).2.1 _).mpr ⟨_, hfault, rfl⟩⟩

end RuleSet

end SpendingLimits
