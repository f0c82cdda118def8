import SpendingLimits.Proofs.Rulebook.Choice

namespace SpendingLimits

/-- What criteria ask for is what the transaction is: each type that is set is its type, and the
total of its account has reached the one that is set. -/
structure Criteria.Met (c : Criteria) (context : Context) (t : Amount) : Prop where
  transactionType : ∀ kind, c.transactionType = some kind → context.transactionType = some kind
  paymentMethod : ∀ method, c.paymentMethod = some method → context.paymentMethod = some method
  minTotal : ∀ least, c.minTotal = some least → least ≤ t

/-- A specific rule whose criteria are met. -/
structure Rule.Matches (r : Rule) (context : Context) (t : Amount) : Prop where
  specific : r.isDefault = false
  met : r.criteria.Met context t

/-- The rule that governs a transaction among the rules of a list. -/
inductive Rule.Governs (r : Rule) (rules : List Rule) (context : Context) (t : Amount) : Prop where
  | specific (before after : List Rule) (split : rules = before ++ r :: after)
      (matching : r.Matches context t)
      (before_gt : ∀ s ∈ before, s.Matches context t → r.priority < s.priority)
      (after_ge : ∀ s ∈ after, s.Matches context t → r.priority ≤ s.priority)
  | fallback (mem : r ∈ rules) (isDefault : r.isDefault = true)
      (none_matches : ∀ s ∈ rules, ¬s.Matches context t)

theorem isNone_or_beq_iff {A : Type} [DecidableEq A] (asked given : Option A) :
    (asked.isNone || asked == given) = true ↔ ∀ a, asked = some a → given = some a := by
  cases asked with
  | none => simp
  | some a =>
    rw [Option.isNone_some, Bool.false_or, beq_iff_eq]
    constructor
    · intro h _ ha
      rw [← ha, h]
    · intro h
      exact (h a rfl).symm

theorem Criteria.accepts_iff_met {c : Criteria} {context : Context} {t : Amount} :
    c.accepts context t = true ↔ c.Met context t := by
  have hleast : (c.minTotal.all fun least => decide (least ≤ t)) = true ↔
      ∀ least, c.minTotal = some least → least ≤ t := by
    cases c.minTotal <;> simp
  rw [accepts, Bool.and_eq_true, Bool.and_eq_true, isNone_or_beq_iff, isNone_or_beq_iff, hleast]
  constructor
  · rintro ⟨⟨hkind, hmethod⟩, htotal⟩
    exact ⟨hkind, hmethod, htotal⟩
  · intro h
    exact ⟨⟨h.transactionType, h.paymentMethod⟩, h.minTotal⟩

theorem Rule.matches_iff {r : Rule} {context : Context} {t : Amount} :
    (!r.isDefault && r.criteria.accepts context t) = true ↔ r.Matches context t := by
  rw [Bool.and_eq_true, Bool.not_eq_true', Criteria.accepts_iff_met]
  exact ⟨fun h => ⟨h.1, h.2⟩, fun h => ⟨h.specific, h.met⟩⟩

instance (r : Rule) (context : Context) (t : Amount) : Decidable (r.Matches context t) :=
  decidable_of_iff _ Rule.matches_iff

namespace Rulebook

variable {rules others : List Rule} {book other : Rulebook} {context : Context} {t : Amount}
  {r : Rule}

/-- The rules of a list that match a transaction, in their order. -/
def matching (rules : List Rule) (context : Context) (t : Amount) : List Rule :=
  rules.filter fun r => r.Matches context t

theorem matching_eq_nil : matching rules context t = [] ↔ ∀ r ∈ rules, ¬r.Matches context t := by
  simp [matching, List.filter_eq_nil_iff]

/-- A rulebook looks at the matching rules alone. -/
theorem choose_eq_least? (h : ofRules rules = .ok book) (context : Context) (t : Amount) :
    book.choose context t = (least? (matching rules context t)).getD book.fallback := by
  have hmatching : book.specific.filter (·.criteria.accepts context t) =
      matching rules context t := by
    rw [← (ofRules_eq_ok.mp h).2, List.filter_filter, matching]
    apply List.filter_congr
    intro r _
    rw [Bool.eq_iff_iff, decide_eq_true_iff, ← Rule.matches_iff, Bool.and_comm]
  rw [choose, hmatching]

/-- Where a rule stands among the matching ones, and where it stands in the list. -/
theorem matching_eq_append {before after : List Rule} :
    matching rules context t = before ++ r :: after ↔ ∃ front back,
      rules = front ++ r :: back ∧ r.Matches context t ∧
        matching front context t = before ∧ matching back context t = after := by
  rw [matching, List.filter_eq_append_iff]
  constructor
  · rintro ⟨front, rest, rfl, hfront, hrest⟩
    obtain ⟨between, back, rfl, hbetween, hr, hback⟩ := List.filter_eq_cons_iff.mp hrest
    refine ⟨front ++ between, back, by simp, of_decide_eq_true hr, ?_, hback⟩
    have hskipped : matching between context t = [] := by
      rw [matching_eq_nil]
      intro s hs
      exact of_decide_eq_false (Bool.eq_false_iff.mpr (hbetween s hs))
    rw [matching, List.filter_append, hfront]
    exact (congrArg (before ++ ·) hskipped).trans (List.append_nil _)
  · rintro ⟨front, back, rfl, hr, hfront, hback⟩
    refine ⟨front, r :: back, rfl, hfront, ?_⟩
    rw [← hback]
    simp [matching, hr]

theorem least?_matching_eq_some :
    least? (matching rules context t) = some r ↔ ∃ front back,
      rules = front ++ r :: back ∧ r.Matches context t ∧
        (∀ s ∈ front, s.Matches context t → r.priority < s.priority) ∧
        ∀ s ∈ back, s.Matches context t → r.priority ≤ s.priority := by
  simp only [least?_eq_some, matching_eq_append]
  constructor
  · rintro ⟨_, _, ⟨front, back, hsplit, hr, rfl, rfl⟩, hbefore, hafter⟩
    refine ⟨front, back, hsplit, hr, fun s hs hm => hbefore s ?_, fun s hs hm => hafter s ?_⟩
    · exact List.mem_filter.mpr ⟨hs, decide_eq_true hm⟩
    · exact List.mem_filter.mpr ⟨hs, decide_eq_true hm⟩
  · rintro ⟨front, back, hsplit, hr, hfront, hback⟩
    refine ⟨_, _, ⟨front, back, hsplit, hr, rfl, rfl⟩, fun s hs => ?_, fun s hs => ?_⟩
    · obtain ⟨hmem, hm⟩ := List.mem_filter.mp hs
      exact hfront s hmem (of_decide_eq_true hm)
    · obtain ⟨hmem, hm⟩ := List.mem_filter.mp hs
      exact hback s hmem (of_decide_eq_true hm)

theorem eq_fallback (h : ofRules rules = .ok book) (hmem : r ∈ rules) (hr : r.isDefault = true) :
    r = book.fallback := by
  have hdefault : r ∈ rules.filter (·.isDefault) := List.mem_filter.mpr ⟨hmem, hr⟩
  rw [(ofRules_eq_ok.mp h).1] at hdefault
  exact List.mem_singleton.mp hdefault

theorem choose_eq_iff_governs (h : ofRules rules = .ok book) :
    book.choose context t = r ↔ r.Governs rules context t := by
  rw [choose_eq_least? h]
  constructor
  · intro hr
    cases hleast : least? (matching rules context t) with
    | none =>
      rw [hleast] at hr
      obtain rfl : book.fallback = r := hr
      obtain ⟨hmem, hdefault⟩ := fallback_mem h
      exact .fallback hmem hdefault (matching_eq_nil.mp (least?_eq_none.mp hleast))
    | some s =>
      rw [hleast] at hr
      obtain rfl : s = r := hr
      obtain ⟨front, back, hsplit, hs, hfront, hback⟩ := least?_matching_eq_some.mp hleast
      exact .specific front back hsplit hs hfront hback
  · intro hr
    cases hr with
    | specific before after split matching before_gt after_ge =>
      rw [least?_matching_eq_some.mpr ⟨before, after, split, matching, before_gt, after_ge⟩]
      rfl
    | fallback mem isDefault none_matches =>
      rw [matching_eq_nil.mpr none_matches, eq_fallback h mem isDefault]
      rfl

theorem exists_ofRules_iff :
    (∃ book, ofRules rules = .ok book) ↔ rules.countP (·.isDefault) = 1 := by
  rw [List.countP_eq_length_filter, List.length_eq_one_iff]
  constructor
  · rintro ⟨book, hbook⟩
    exact ⟨book.fallback, (ofRules_eq_ok.mp hbook).1⟩
  · rintro ⟨fallback, hfallback⟩
    exact ⟨⟨rules.filter (!·.isDefault), fallback⟩, ofRules_eq_ok.mpr ⟨hfallback, rfl⟩⟩

/-- A rulebook of a list of rules: its specific rules are the others in their order, and with the
default they are the rules of the list, no more and no fewer. -/
structure Partitions (book : Rulebook) (rules : List Rule) : Prop where
  specific_eq : book.specific = rules.filter (!·.isDefault)
  isDefault : book.fallback.isDefault = true
  perm : (book.fallback :: book.specific).Perm rules
  size_eq : book.size = rules.length

theorem partitions (h : ofRules rules = .ok book) : book.Partitions rules where
  specific_eq := (ofRules_eq_ok.mp h).2.symm
  isDefault := (fallback_mem h).2
  perm := by
    obtain ⟨before, after, hrules, hspecific, _⟩ := ofRules_eq_ok_iff_split.mp h
    rw [hrules, hspecific]
    exact List.perm_middle.symm
  size_eq := size_eq_length h

/-- Rulebooks with the same matching rules choose the same of them, or each its default. -/
theorem choose_of_matching_eq (h : ofRules rules = .ok book) (hother : ofRules others = .ok other)
    (hmatching : matching others context t = matching rules context t) :
    matching rules context t ≠ [] ∧ other.choose context t = book.choose context t ∨
      matching rules context t = [] ∧ book.choose context t = book.fallback ∧
        other.choose context t = other.fallback := by
  rw [choose_eq_least? h, choose_eq_least? hother, hmatching]
  cases hleast : least? (matching rules context t) with
  | none => exact .inr ⟨least?_eq_none.mp hleast, rfl, rfl⟩
  | some r => exact .inl ⟨List.ne_nil_of_mem (mem_of_least? hleast), rfl⟩

/-- Rules make a rulebook exactly when one of them is a default and no other, and then nothing of
them is lost. The rulebook chooses the rule that governs a transaction, which depends on the rules
that match it alone, and on the default only where none does. -/
theorem choice_specified (rules : List Rule) :
    ((∃ book, ofRules rules = .ok book) ↔ rules.countP (·.isDefault) = 1) ∧
    (∀ why, ofRules rules = .error why → ∃ cause, why = .rulebook cause) ∧
    ∀ book, ofRules rules = .ok book → book.Partitions rules ∧
      ∀ context t, (∀ r, book.choose context t = r ↔ r.Governs rules context t) ∧
        ∀ others other, ofRules others = .ok other →
          matching others context t = matching rules context t →
          matching rules context t ≠ [] ∧ other.choose context t = book.choose context t ∨
            matching rules context t = [] ∧ book.choose context t = book.fallback ∧
              other.choose context t = other.fallback := by
  refine ⟨exists_ofRules_iff, fun why hwhy => ofRules_eq_error hwhy, fun book hbook => ?_⟩
  refine ⟨partitions hbook, fun context t => ⟨fun r => choose_eq_iff_governs hbook, ?_⟩⟩
  intro others other hother hmatching
  exact choose_of_matching_eq hbook hother hmatching

/-- Of two rules for cards with one priority the first is chosen. A rule of smaller priority is for
deposits, another one asks for a total that is not reached, and the default has the smallest; none
of this has a say, nor has it when the default is another one at the end. -/
theorem choice_specified_of_equal_priorities :
    let rule (id : String) (priority : Int32) (criteria : Criteria) : Rule :=
      ⟨⟨id⟩, false, priority, ⟨id⟩, criteria⟩
    let early : Rule := ⟨⟨"default"⟩, true, -9, ⟨"basic"⟩, Criteria.any⟩
    let deposits := rule "deposits" (-5) ⟨some .deposit, none, none⟩
    let first := rule "first" 3 ⟨none, some .card, none⟩
    let trusted := rule "trusted" (-7) ⟨none, none, some (Amount.ofWhole 1000)⟩
    let second := rule "second" 3 ⟨some .cardPayment, some .card, some (Amount.ofWhole 999)⟩
    let rules := [early, deposits, first, trusted, second]
    let book : Rulebook := ⟨[deposits, first, trusted, second], early⟩
    let late : Rule := ⟨⟨"late"⟩, true, 100, ⟨"other"⟩, ⟨some .deposit, none, none⟩⟩
    let other : Rulebook := ⟨[first, second], late⟩
    let context : Context := ⟨some .cardPayment, some .card⟩
    let t := Amount.ofWhole 999
    ofRules rules = .ok book ∧ rules.countP (·.isDefault) = 1 ∧ book.Partitions rules ∧
      first.Governs rules context t ∧ ofRules [first, second, late] = .ok other ∧
      matching [first, second, late] context t = matching rules context t ∧
      other.choose context t = book.choose context t := by
  intro rule early deposits first trusted second rules book late other context t
  have hbook : ofRules rules = .ok book := rfl
  have hother : ofRules [first, second, late] = .ok other := rfl
  have hmatching : matching [first, second, late] context t = matching rules context t := by decide
  obtain ⟨hone, _, hall⟩ := choice_specified rules
  obtain ⟨hpartitions, hchoice⟩ := hall book hbook
  obtain ⟨hgoverns, hothers⟩ := hchoice context t
  refine ⟨hbook, hone.mp ⟨book, hbook⟩, hpartitions, (hgoverns first).mp (by decide), hother,
    hmatching, ?_⟩
  rcases hothers _ other hother hmatching with ⟨_, hsame⟩ | ⟨hnone, _⟩
  · exact hsame
  · exact absurd hnone (by decide)

end Rulebook

end SpendingLimits
