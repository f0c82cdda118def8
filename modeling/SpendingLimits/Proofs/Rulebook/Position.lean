import SpendingLimits.Proofs.Amount.Value
import SpendingLimits.Proofs.Outcome
import SpendingLimits.Proofs.Rulebook.Choice

namespace SpendingLimits

/-- Criteria that ask for the same, with totals of one value. -/
structure Criteria.Alike (c d : Criteria) : Prop where
  transactionType : c.transactionType = d.transactionType
  paymentMethod : c.paymentMethod = d.paymentMethod
  minTotal : Option.Rel Amount.Alike c.minTotal d.minTotal

structure Rule.Alike (r s : Rule) : Prop where
  id : r.id = s.id
  isDefault : r.isDefault = s.isDefault
  priority : r.priority = s.priority
  profile : r.profile = s.profile
  criteria : r.criteria.Alike s.criteria

/-- Rulebooks with alike rules in the same places. -/
structure Rulebook.Alike (book other : Rulebook) : Prop where
  specific : List.Forall₂ Rule.Alike book.specific other.specific
  fallback : book.fallback.Alike other.fallback

theorem Criteria.accepts_alike {c d : Criteria} {s t : Amount} (hcd : c.Alike d) (hst : s.Alike t)
    (context : Context) : c.accepts context s = d.accepts context t := by
  have hleast := hcd.minTotal
  rw [accepts, accepts, hcd.transactionType, hcd.paymentMethod]
  generalize c.minTotal = least, d.minTotal = least' at hleast ⊢
  cases hleast with
  | none => rfl
  | some h => simp only [Option.all_some, h.le_iff hst]

namespace Rulebook

variable {book other : Rulebook} {context : Context} {s t : Amount}

/-- The place of the chosen rule among the specific ones: of those that accept with its priority it
is the first. There is none where the default is chosen. -/
def place? (book : Rulebook) (context : Context) (t : Amount) : Option Nat :=
  book.specific.findIdx? fun r =>
    r.criteria.accepts context t && r.priority == (book.choose context t).priority

/-- The rule in a place: one of the specific rules, or the default. -/
def ruleAt (book : Rulebook) : Option Nat → Option Rule
  | some i => book.specific[i]?
  | none => some book.fallback

theorem find?_eq_getElem? (rules : List Rule) (f : Rule → Bool) :
    rules.find? f = (rules.findIdx? f).bind (rules[·]?) := by
  induction rules with
  | nil => rfl
  | cons r rules ih =>
    rw [List.find?_cons, List.findIdx?_cons]
    cases f r with
    | true => rfl
    | false => simp [ih, Option.bind_map]

/-- Of the rules of the least priority the first is the least. -/
theorem find?_of_least? {rs : List Rule} {r : Rule} (h : least? rs = some r) :
    rs.find? (·.priority == r.priority) = some r := by
  obtain ⟨before, after, hsplit, hbefore, _⟩ := least?_eq_some.mp h
  rw [List.find?_eq_some_iff_append]
  refine ⟨beq_self_eq_true _, before, after, hsplit, ?_⟩
  intro a ha
  have hne : a.priority ≠ r.priority := (Int32.ne_of_lt (hbefore a ha)).symm
  simp [hne]

/-- The chosen rule stands in its place. -/
theorem ruleAt_place? (book : Rulebook) (context : Context) (t : Amount) :
    book.ruleAt (book.place? context t) = some (book.choose context t) := by
  cases hleast : least? (book.specific.filter (·.criteria.accepts context t)) with
  | none =>
    have hchoose : book.choose context t = book.fallback := by rw [choose, hleast]; rfl
    have hplace : book.place? context t = none := by
      have hnone := List.filter_eq_nil_iff.mp (least?_eq_none.mp hleast)
      rw [place?, List.findIdx?_eq_none_iff]
      intro r hr
      rw [Bool.eq_false_iff.mpr (hnone r hr), Bool.false_and]
    rw [hplace, hchoose]
    rfl
  | some c =>
    have hchoose : book.choose context t = c := by rw [choose, hleast]; rfl
    have hfind : book.specific.find? (fun r =>
        r.criteria.accepts context t && r.priority == c.priority) = some c := by
      -- The first of its priority among the rules that accept is so among all rules.
      have hfirst := find?_of_least? hleast
      rw [List.find?_filter] at hfirst
      simpa only [Bool.decide_and, Bool.decide_eq_true] using hfirst
    rw [find?_eq_getElem?] at hfind
    obtain ⟨i, hi, hc⟩ := Option.bind_eq_some_iff.mp hfind
    rw [place?, hchoose, hi]
    exact hc

theorem least?_alike {rs ss : List Rule} (h : List.Forall₂ Rule.Alike rs ss) :
    Option.Rel Rule.Alike (least? rs) (least? ss) := by
  induction h with
  | nil => exact .none
  | @cons r s rs ss hrs _ ih =>
    rw [least?, least?]
    generalize least? rs = x, least? ss = y at ih ⊢
    cases ih with
    | none => exact .some hrs
    | some h =>
      simp only [h.priority, hrs.priority]
      split_ifs
      · exact .some h
      · exact .some hrs

theorem filter_alike {rs ss : List Rule} {f g : Rule → Bool} (h : List.Forall₂ Rule.Alike rs ss)
    (hfg : ∀ r s, r.Alike s → f r = g s) :
    List.Forall₂ Rule.Alike (rs.filter f) (ss.filter g) := by
  refine List.rel_filter ?_ h
  intro r s hrs
  exact Bool.eq_iff_iff.mp (hfg r s hrs)

theorem choose_alike (hbook : book.Alike other) (hst : s.Alike t) (context : Context) :
    (book.choose context s).Alike (other.choose context t) := by
  have hfilter : List.Forall₂ Rule.Alike (book.specific.filter (·.criteria.accepts context s))
      (other.specific.filter (·.criteria.accepts context t)) := by
    apply filter_alike hbook.specific
    intro r r' hr
    exact Criteria.accepts_alike hr.criteria hst context
  have hleast := least?_alike hfilter
  rw [choose, choose]
  generalize least? (book.specific.filter _) = x, least? (other.specific.filter _) = y
    at hleast ⊢
  cases hleast with
  | none => exact hbook.fallback
  | some h => exact h

theorem findIdx?_alike {rs ss : List Rule} {f g : Rule → Bool}
    (h : List.Forall₂ Rule.Alike rs ss) (hfg : ∀ r s, r.Alike s → f r = g s) :
    rs.findIdx? f = ss.findIdx? g := by
  induction h with
  | nil => rfl
  | cons hrs _ ih => rw [List.findIdx?_cons, List.findIdx?_cons, hfg _ _ hrs, ih]

theorem place?_alike (hbook : book.Alike other) (hst : s.Alike t) (context : Context) :
    book.place? context s = other.place? context t := by
  apply findIdx?_alike hbook.specific
  intro r r' hr
  have hchosen := choose_alike hbook hst context
  rw [Criteria.accepts_alike hr.criteria hst, hr.priority, hchosen.priority]

theorem ofRules_alike {rules others : List Rule} (h : List.Forall₂ Rule.Alike rules others) :
    Matches Rulebook.Alike (ofRules rules) (ofRules others) := by
  have hdefaults : List.Forall₂ Rule.Alike (rules.filter (·.isDefault))
      (others.filter (·.isDefault)) := by
    apply filter_alike h
    intro r s hrs
    exact hrs.isDefault
  have hspecific : List.Forall₂ Rule.Alike (rules.filter (!·.isDefault))
      (others.filter (!·.isDefault)) := by
    apply filter_alike h
    intro r s hrs
    rw [hrs.isDefault]
  rw [ofRules, ofRules]
  generalize rules.filter (·.isDefault) = rs, others.filter (·.isDefault) = ss at hdefaults ⊢
  cases hdefaults with
  | nil => exact .error _
  | cons hfirst hrest =>
    cases hrest with
    | nil => exact .ok ⟨hspecific, hfirst⟩
    | cons hsecond _ =>
      dsimp only
      rw [hfirst.id, hsecond.id]
      exact .error _

end Rulebook

end SpendingLimits
