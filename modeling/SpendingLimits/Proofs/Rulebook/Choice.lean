import SpendingLimits.Rulebook

namespace SpendingLimits

/-- A total that grows meets every criterion that it met before. -/
theorem Criteria.accepts_mono {c : Criteria} {context : Context} {s t : Amount} (h : s ≤ t)
    (hs : c.accepts context s = true) : c.accepts context t = true := by
  simp only [accepts, Bool.and_eq_true] at hs ⊢
  obtain ⟨htypes, hleast⟩ := hs
  refine ⟨htypes, ?_⟩
  cases hmin : c.minTotal with
  | none => rfl
  | some least =>
    simp only [hmin, Option.all_some, decide_eq_true_eq] at hleast ⊢
    exact Nat.le_trans hleast h

namespace Rulebook

variable {rules : List Rule} {book : Rulebook} {context : Context} {t : Amount} {r s : Rule}

theorem ofRules_eq_ok :
    ofRules rules = .ok book ↔
      rules.filter (·.isDefault) = [book.fallback] ∧
        rules.filter (!·.isDefault) = book.specific := by
  rw [ofRules]
  split
  · next h => simp [h]
  · next fallback h =>
    rw [h]
    constructor
    · intro hbook
      obtain rfl := Except.ok.inj hbook
      exact ⟨rfl, rfl⟩
    · intro hbook
      obtain ⟨hfallback, hspecific⟩ := hbook
      rw [List.singleton_inj.mp hfallback, hspecific]
  · next h => simp [h]

theorem mem_specific (h : ofRules rules = .ok book) :
    r ∈ book.specific ↔ r ∈ rules ∧ r.isDefault = false := by
  rw [← (ofRules_eq_ok.mp h).2, List.mem_filter, Bool.not_eq_true']

theorem fallback_mem (h : ofRules rules = .ok book) :
    book.fallback ∈ rules ∧ book.fallback.isDefault = true := by
  have hmem : book.fallback ∈ rules.filter (·.isDefault) := by
    rw [(ofRules_eq_ok.mp h).1]
    exact List.mem_singleton_self _
  exact List.mem_filter.mp hmem

/-- Where one rule alone is a default, the filters that make a rulebook take it out. -/
theorem filter_isDefault_split {before after : List Rule} (hr : r.isDefault = true)
    (hothers : ∀ s ∈ before ++ after, s.isDefault = false) :
    (before ++ r :: after).filter (·.isDefault) = [r] ∧
      (before ++ r :: after).filter (!·.isDefault) = before ++ after := by
  have hnone : (before ++ after).filter (·.isDefault) = [] := by
    rw [List.filter_eq_nil_iff]
    intro s hs
    simp [hothers s hs]
  have hall : (before ++ after).filter (!·.isDefault) = before ++ after := by
    rw [List.filter_eq_self]
    intro s hs
    simp [hothers s hs]
  rw [List.filter_append, List.append_eq_nil_iff] at hnone
  constructor
  · rw [List.filter_append, List.filter_cons_of_pos hr, hnone.1, hnone.2, List.nil_append]
  · rw [List.filter_append, List.filter_cons_of_neg (by simp [hr]), ← List.filter_append, hall]

/-- The one default stands somewhere among the rules, and the specific rules are all others. -/
theorem ofRules_eq_ok_iff_split :
    ofRules rules = .ok book ↔ ∃ before after,
      rules = before ++ book.fallback :: after ∧ book.specific = before ++ after ∧
        book.fallback.isDefault = true ∧ ∀ r ∈ before ++ after, r.isDefault = false := by
  rw [ofRules_eq_ok]
  constructor
  · intro h
    obtain ⟨hfallback, hspecific⟩ := h
    obtain ⟨before, after, rfl, hbefore, hdefault, hafter⟩ := List.filter_eq_cons_iff.mp hfallback
    have hothers : ∀ r ∈ before ++ after, r.isDefault = false := by
      intro r hr
      rcases List.mem_append.mp hr with hr | hr
      · exact Bool.eq_false_iff.mpr (hbefore r hr)
      · exact Bool.eq_false_iff.mpr (List.filter_eq_nil_iff.mp hafter r hr)
    refine ⟨before, after, rfl, ?_, hdefault, hothers⟩
    exact hspecific.symm.trans (filter_isDefault_split hdefault hothers).2
  · intro h
    obtain ⟨before, after, rfl, hspecific, hdefault, hothers⟩ := h
    obtain ⟨hfallback, hrest⟩ := filter_isDefault_split hdefault hothers
    exact ⟨hfallback, hrest.trans hspecific.symm⟩

/-- The default is counted beside the specific rules. -/
theorem size_eq_length (h : ofRules rules = .ok book) : book.size = rules.length := by
  obtain ⟨before, after, hrules, hspecific, _, _⟩ := ofRules_eq_ok_iff_split.mp h
  rw [size, hrules, hspecific]
  simp only [List.length_append, List.length_cons]
  omega

theorem ofRules_eq_error_iff {why : DomainFault} :
    ofRules rules = .error why ↔
      (∀ r ∈ rules, r.isDefault = false) ∧ why = .rulebook .noDefault ∨
      ∃ first second rest, rules.filter (·.isDefault) = first :: second :: rest ∧
        why = .rulebook (.severalDefaults first.id second.id) := by
  have hnone : (∀ r ∈ rules, r.isDefault = false) ↔ rules.filter (·.isDefault) = [] := by
    simp [List.filter_eq_nil_iff]
  rw [hnone, ofRules]
  split
  · next h => simp [h, eq_comm]
  · next fallback h => simp [h]
  · next first second rest h =>
    rw [h]
    constructor
    · intro hwhy
      exact .inr ⟨first, second, rest, rfl, (Except.error.inj hwhy).symm⟩
    · rintro (⟨hnil, _⟩ | ⟨_, _, _, heq, rfl⟩)
      · cases hnil
      · cases heq
        rfl

theorem ofRules_eq_error {why : DomainFault} (h : ofRules rules = .error why) :
    ∃ cause, why = .rulebook cause := by
  rcases ofRules_eq_error_iff.mp h with ⟨_, hwhy⟩ | ⟨first, second, _, _, hwhy⟩
  · exact ⟨_, hwhy⟩
  · exact ⟨_, hwhy⟩

/-- Rules in front of the least one have a greater priority, so of equal ones it is the first. -/
theorem exists_least? {rs : List Rule} (h : rs ≠ []) :
    ∃ before r after, rs = before ++ r :: after ∧ least? rs = some r ∧
      (∀ s ∈ before, r.priority < s.priority) ∧ ∀ s ∈ after, r.priority ≤ s.priority := by
  induction rs with
  | nil => exact absurd rfl h
  | cons a rs ih =>
    by_cases hrest : rs = []
    · subst hrest
      exact ⟨[], a, [], rfl, rfl, by simp, by simp⟩
    · obtain ⟨before, r, after, hrs, hleast, hbefore, hafter⟩ := ih hrest
      rw [least?, hleast]
      by_cases hlt : r.priority < a.priority
      · refine ⟨a :: before, r, after, by rw [hrs, List.cons_append], if_pos hlt, ?_, hafter⟩
        intro s hs
        rcases List.mem_cons.mp hs with rfl | hs
        · exact hlt
        · exact hbefore s hs
      · have hle : a.priority ≤ r.priority := Int32.not_lt.mp hlt
        refine ⟨[], a, rs, rfl, if_neg hlt, by simp, ?_⟩
        intro s hs
        rw [hrs, List.mem_append, List.mem_cons] at hs
        rcases hs with hs | rfl | hs
        · exact Int32.le_trans hle (Int32.le_of_lt (hbefore s hs))
        · exact hle
        · exact Int32.le_trans hle (hafter s hs)

theorem mem_of_least? {rs : List Rule} (h : least? rs = some r) : r ∈ rs := by
  have hrs : rs ≠ [] := by
    rintro rfl
    cases h
  obtain ⟨before, c, after, hsplit, hleast, _⟩ := exists_least? hrs
  obtain rfl : c = r := Option.some.inj (hleast.symm.trans h)
  rw [hsplit]
  exact List.mem_append_right _ List.mem_cons_self

theorem least?_eq_none {rs : List Rule} : least? rs = none ↔ rs = [] := by
  constructor
  · intro h
    cases rs with
    | nil => rfl
    | cons a rs =>
      obtain ⟨_, r, _, _, hleast, _⟩ := exists_least? (List.cons_ne_nil a rs)
      rw [h] at hleast
      cases hleast
  · rintro rfl
    rfl

/-- The least rule is where all in front of it have a greater priority, and none behind it has a
smaller one. -/
theorem least?_eq_some {rs : List Rule} :
    least? rs = some r ↔ ∃ before after, rs = before ++ r :: after ∧
      (∀ s ∈ before, r.priority < s.priority) ∧ ∀ s ∈ after, r.priority ≤ s.priority := by
  constructor
  · intro h
    obtain ⟨before, c, after, hsplit, hleast, hbefore, hafter⟩ :=
      exists_least? (List.ne_nil_of_mem (mem_of_least? h))
    obtain rfl : c = r := Option.some.inj (hleast.symm.trans h)
    exact ⟨before, after, hsplit, hbefore, hafter⟩
  · rintro ⟨before, after, rfl, hbefore, hafter⟩
    induction before with
    | nil =>
      rw [List.nil_append, least?]
      cases hrest : least? after with
      | none => rfl
      | some s => exact if_neg (Int32.not_lt.mpr (hafter s (mem_of_least? hrest)))
    | cons b before ih =>
      obtain ⟨hb, hrest⟩ := List.forall_mem_cons.mp hbefore
      rw [List.cons_append, least?, ih hrest]
      exact if_pos hb

theorem choose_eq_fallback (h : ∀ r ∈ book.specific, r.criteria.accepts context t = false) :
    book.choose context t = book.fallback := by
  have hnone : book.specific.filter (·.criteria.accepts context t) = [] := by
    rw [List.filter_eq_nil_iff]
    intro r hr
    simp [h r hr]
  rw [choose, hnone]
  rfl

/-- One specific rule that accepts a transaction is enough for a specific rule to be chosen. -/
theorem choose_of_accepts (hr : r ∈ book.specific) (ha : r.criteria.accepts context t = true) :
    book.choose context t ∈ book.specific ∧
      (book.choose context t).criteria.accepts context t = true ∧
      (book.choose context t).priority ≤ r.priority := by
  have hmem : r ∈ book.specific.filter (·.criteria.accepts context t) :=
    List.mem_filter.mpr ⟨hr, ha⟩
  obtain ⟨before, c, after, hsplit, hleast, hbefore, hafter⟩ :=
    exists_least? (List.ne_nil_of_mem hmem)
  have hchoose : book.choose context t = c := by rw [choose, hleast, Option.getD_some]
  have hc : c ∈ book.specific.filter (·.criteria.accepts context t) := by
    rw [hsplit]
    exact List.mem_append_right _ List.mem_cons_self
  obtain ⟨hspecific, haccepts⟩ := List.mem_filter.mp hc
  rw [hchoose]
  refine ⟨hspecific, haccepts, ?_⟩
  rw [hsplit, List.mem_append, List.mem_cons] at hmem
  rcases hmem with hmem | rfl | hmem
  · exact Int32.le_of_lt (hbefore r hmem)
  · exact Int32.le_refl _
  · exact hafter r hmem

theorem choose_cases (book : Rulebook) (context : Context) (t : Amount) :
    book.choose context t = book.fallback ∨
      book.choose context t ∈ book.specific ∧
        (book.choose context t).criteria.accepts context t = true := by
  by_cases h : ∃ r ∈ book.specific, r.criteria.accepts context t = true
  · obtain ⟨r, hr, ha⟩ := h
    obtain ⟨hspecific, haccepts, _⟩ := choose_of_accepts hr ha
    exact .inr ⟨hspecific, haccepts⟩
  · left
    apply choose_eq_fallback
    intro r hr
    exact Bool.eq_false_iff.mpr fun ha => h ⟨r, hr, ha⟩

theorem choose_mem (h : ofRules rules = .ok book) (context : Context) (t : Amount) :
    book.choose context t ∈ rules := by
  rcases choose_cases book context t with hfallback | ⟨hspecific, _⟩
  · rw [hfallback]
    exact (fallback_mem h).1
  · exact ((mem_specific h).mp hspecific).1

/-- A specific rule that is chosen at a total still accepts at a larger one, where it gives way to a
rule of no greater priority at most. -/
theorem priority_choose_le (h : ofRules rules = .ok book) {u : Amount} (hle : t ≤ u)
    (ht : (book.choose context t).isDefault = false) :
    book.choose context u ∈ book.specific ∧
      (book.choose context u).priority ≤ (book.choose context t).priority := by
  rcases choose_cases book context t with hfallback | ⟨hspecific, haccepts⟩
  · rw [hfallback, (fallback_mem h).2] at ht
    cases ht
  · obtain ⟨hmem, _, hpriority⟩ := choose_of_accepts hspecific (Criteria.accepts_mono hle haccepts)
    exact ⟨hmem, hpriority⟩

end Rulebook

end SpendingLimits
