import SpendingLimits.Proofs.Ledger.Recording
import SpendingLimits.Proofs.Rulebook.Choice
import SpendingLimits.Store

namespace SpendingLimits

/-- Under fixed rules, from one moment to any later one: the rules that accept go on accepting, a
specific rule gives way only to a specific one of no greater priority, and a total that is too large
stays so. -/
theorem rule_never_demoted {store : Store} {book : Rulebook} (hbook : store.rulebook = .ok book)
    {m n : Moment} (h : Recording m n) (account : AccountId) (context : Context) :
    (∀ s t, m.ledger.allTimeTotal account m.now = .ok s →
      n.ledger.allTimeTotal account n.now = .ok t →
      (∀ r ∈ book.specific, r.criteria.accepts context s = true →
        r.criteria.accepts context t = true) ∧
      ((book.choose context s).isDefault = false →
        (book.choose context t).isDefault = false ∧ book.choose context t ∈ book.specific ∧
          (book.choose context t).priority ≤ (book.choose context s).priority)) ∧
    ∀ why, m.ledger.allTimeTotal account m.now = .error why →
      n.ledger.allTimeTotal account n.now = .error why := by
  have hrules : Rulebook.ofRules store.rules = .ok book := mapError_eq_ok.mp hbook
  constructor
  · intro s t hs ht
    have hle : s ≤ t := h.allTimeTotal_le hs ht
    constructor
    · intro r _ ha
      exact Criteria.accepts_mono hle ha
    · intro hspecific
      obtain ⟨hmem, hpriority⟩ := Rulebook.priority_choose_le hrules hle hspecific
      exact ⟨((Rulebook.mem_specific hrules).mp hmem).2, hmem, hpriority⟩
  · intro why hwhy
    exact h.allTimeTotal_eq_error hwhy

/-- An account of 600 under the rule for cards; another 600, recorded ahead of their date, come to
count while other accounts record, and the rule for trusted accounts takes over. -/
theorem rule_never_demoted_to_trusted :
    let account : AccountId := ⟨⟨1, by decide⟩⟩
    let other : AccountId := ⟨⟨2, by decide⟩⟩
    let first : Time.Instant := ⟨0, 0, by decide, by decide, by decide, by decide⟩
    let later : Time.Instant := ⟨86400, 0, by decide, by decide, by decide, by decide⟩
    let context : Context := ⟨none, some .card⟩
    let fallback : Rule := ⟨⟨"default"⟩, true, 0, ⟨"basic"⟩, Criteria.any⟩
    let card : Rule := ⟨⟨"card"⟩, false, 5, ⟨"basic"⟩, ⟨none, some .card, none⟩⟩
    let trusted : Rule :=
      ⟨⟨"trusted"⟩, false, 2, ⟨"trusted"⟩, ⟨none, none, some (Amount.ofWhole 1000)⟩⟩
    let store : Store := ⟨[], [card, fallback, trusted]⟩
    let book : Rulebook := ⟨[card, trusted], fallback⟩
    let entry (a : AccountId) (t : Time.Instant) : Entry :=
      ⟨none, a, Amount.ofWhole 600, context, .success, t⟩
    let m : Moment := ⟨⟨[entry account later, entry account first]⟩, first⟩
    let n : Moment := ⟨m.ledger.record (entry other first), later⟩
    store.rulebook = .ok book ∧ Recording m n ∧
      m.ledger.allTimeTotal account first = .ok (Amount.ofWhole 600) ∧
      n.ledger.allTimeTotal account later = .ok (Amount.ofWhole 1200) ∧
      book.choose context (Amount.ofWhole 600) = card ∧
      book.choose context (Amount.ofWhole 1200) = trusted ∧
      card.criteria.accepts context (Amount.ofWhole 1200) = true ∧
      trusted ∈ book.specific ∧ trusted.priority ≤ card.priority := by
  intro account other first later context fallback card trusted store book entry m n
  have hbook : store.rulebook = .ok book := by decide
  have hrun : Recording m n :=
    .tail (.single (.record m (entry other first))) (.pass _ later (by decide))
  have hfirst : m.ledger.allTimeTotal account first = .ok (Amount.ofWhole 600) := by decide
  have hlater : n.ledger.allTimeTotal account later = .ok (Amount.ofWhole 1200) := by decide
  have hcard : book.choose context (Amount.ofWhole 600) = card := by decide
  have htrusted : book.choose context (Amount.ofWhole 1200) = trusted := by decide
  obtain ⟨haccepts, hchoose⟩ :=
    (rule_never_demoted hbook hrun account context).1 _ _ hfirst hlater
  rw [hcard, htrusted] at hchoose
  obtain ⟨_, hmem, hpriority⟩ := hchoose rfl
  exact ⟨hbook, hrun, hfirst, hlater, hcard, htrusted,
    haccepts card List.mem_cons_self (by decide), hmem, hpriority⟩

end SpendingLimits
