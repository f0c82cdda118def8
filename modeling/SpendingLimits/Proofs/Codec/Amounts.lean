import SpendingLimits.Codec.Document
import SpendingLimits.Codec.Verdict
import SpendingLimits.Proofs.Json.Ensures

namespace SpendingLimits

open Json

def Profile.amounts (p : Profile) : List Amount :=
  [p.minTransaction, p.maxTransaction] ++ p.daily.toList ++ p.weekly.toList ++ p.monthly.toList ++
    [p.unsettledExposure]

def Usage.amounts (u : Usage) : List Amount := [u.daily, u.weekly, u.monthly, u.allTime]

def Criteria.amounts (c : Criteria) : List Amount := c.minTotal.toList

def Rule.amounts (r : Rule) : List Amount := r.criteria.amounts

def RuleSet.amounts (s : RuleSet) : List Amount :=
  s.profiles.flatMap Profile.amounts ++ s.rules.flatMap Rule.amounts

def Entry.amounts (e : Entry) : List Amount := [e.amount]

def Ledger.amounts (l : Ledger) : List Amount := l.entries.flatMap Entry.amounts

def CheckRequest.amounts (r : CheckRequest) : List Amount := [r.amount]

def Verdict.amounts (v : Verdict) : List Amount := [v.low, v.high]

def WindowLimit.amounts (w : WindowLimit) : List Amount := w.cap.toList ++ [w.used]

def Summary.amounts (s : Summary) : List Amount :=
  [s.minTransaction, s.maxTransaction] ++ s.monthly.amounts ++
    s.weekly.toList.flatMap WindowLimit.amounts ++ s.daily.toList.flatMap WindowLimit.amounts

/-- A kind of documents, with the amounts that stand in one. -/
structure Kind where
  Document : Type
  decode : Decoder Document
  amounts : Document → List Amount

/-- An array of documents of a kind. -/
def Kind.list (kind : Kind) : Kind :=
  ⟨List kind.Document, asList kind.decode, List.flatMap kind.amounts⟩

/-- The kinds of documents that hold amounts, an amount by itself among them. -/
inductive HoldsAmounts : Kind → Prop
  | amount : HoldsAmounts ⟨Amount, Amount.ofJson, fun a => [a]⟩
  | profile : HoldsAmounts ⟨Profile, Profile.ofJson, Profile.amounts⟩
  | usage : HoldsAmounts ⟨Usage, Usage.ofJson, Usage.amounts⟩
  | criteria : HoldsAmounts ⟨Criteria, Criteria.ofJson, Criteria.amounts⟩
  | rule : HoldsAmounts ⟨Rule, Rule.ofJson, Rule.amounts⟩
  | ruleSet : HoldsAmounts ⟨RuleSet, RuleSet.ofJson, RuleSet.amounts⟩
  | entry : HoldsAmounts ⟨Entry, Entry.ofJson, Entry.amounts⟩
  | ledger : HoldsAmounts ⟨Ledger, Ledger.ofJson, Ledger.amounts⟩
  | checkRequest : HoldsAmounts ⟨CheckRequest, CheckRequest.ofJson, CheckRequest.amounts⟩
  | verdict : HoldsAmounts ⟨Verdict, Verdict.ofJson, Verdict.amounts⟩
  | windowLimit : HoldsAmounts ⟨WindowLimit, WindowLimit.ofJson, WindowLimit.amounts⟩
  | summary : HoldsAmounts ⟨Summary, Summary.ofJson, Summary.amounts⟩
  | list {kind : Kind} (h : HoldsAmounts kind) : HoldsAmounts kind.list

section

variable {P : Amount → Prop} (hread : Ensures Amount.ofJson P)
include hread

theorem Usage.ensures : Ensures Usage.ofJson fun u => ∀ a ∈ u.amounts, P a := by
  refine .ofRecord (.seq (.seq (.seq (.map (.required _ hread) ?_)
    (.required _ hread)) (.required _ hread)) (.required _ hread))
  intro daily hdaily weekly hweekly monthly hmonthly allTime hallTime
  simp [amounts, hdaily, hweekly, hmonthly, hallTime]

theorem Verdict.ensures : Ensures Verdict.ofJson fun v => ∀ a ∈ v.amounts, P a := by
  refine .ofRecord (.seq (.seq (.map (.any _) ?_) (.required _ hread)) (.required _ hread))
  intro status _ low hlow high hhigh
  simp [amounts, hlow, hhigh]

theorem Entry.ensures : Ensures Entry.ofJson fun e => ∀ a ∈ e.amounts, P a := by
  refine .ofRecord (.seq (.seq (.seq (.seq (.seq (.map (.any _) ?_) (.any _))
    (.required _ hread)) (.any _)) (.any _)) (.any _))
  intro id _ account _ amount hamount context _ status _ createdAt _
  simp [amounts, hamount]

theorem CheckRequest.ensures : Ensures CheckRequest.ofJson fun r => ∀ a ∈ r.amounts, P a := by
  refine .ofRecord (.seq (.seq (.map (.any _) ?_) (.required _ hread)) (.any _))
  intro account _ amount hamount context _
  simp [amounts, hamount]

theorem Ledger.ensures : Ensures Ledger.ofJson fun l => ∀ a ∈ l.amounts, P a := by
  refine .ofRecord (.map (.optional _ (Entry.ensures hread).list (by simp)) ?_)
  intro entries hentries
  rwa [amounts, List.forall_mem_flatMap]

/-- A cap, or none. -/
theorem ensures_cap (name : String) :
    Record.Ensures (.optional name (asOption Amount.ofJson) none) fun o => ∀ a ∈ o, P a :=
  .optional _ hread.option (by simp)

theorem Criteria.ensures : Ensures Criteria.ofJson fun c => ∀ a ∈ c.amounts, P a := by
  refine .ofRecord (.seq (.seq (.map (.any _) ?_) (.any _)) (ensures_cap hread _))
  intro transactionType _ paymentMethod _ minTotal hminTotal
  simpa [amounts] using hminTotal

theorem Rule.ensures : Ensures Rule.ofJson fun r => ∀ a ∈ r.amounts, P a := by
  refine .ofRecord (.seq (.seq (.seq (.seq (.map (.any _) ?_) (.any _)) (.any _)) (.any _))
    (.optional _ (Criteria.ensures hread) (by simp [Criteria.amounts, Criteria.any])))
  intro id _ isDefault _ priority _ profile _ criteria hcriteria
  exact hcriteria

theorem WindowLimit.ensures : Ensures WindowLimit.ofJson fun w => ∀ a ∈ w.amounts, P a := by
  refine .ofRecord (.seq (.seq (.map (ensures_cap hread _) ?_) (.required _ hread)) (.any _))
  intro cap hcap used hused days _
  rw [amounts, List.forall_mem_append, List.forall_mem_singleton]
  exact ⟨by simpa using hcap, hused⟩

theorem Summary.ensures : Ensures Summary.ofJson fun s => ∀ a ∈ s.amounts, P a := by
  have hwindow := WindowLimit.ensures hread
  refine .ofRecord (.seq (.seq (.seq (.seq (.map (.required _ hread) ?_) (.required _ hread))
    (.required _ hwindow)) (.optional _ hwindow.option (by simp)))
    (.optional _ hwindow.option (by simp)))
  intro low hlow high hhigh monthly hmonthly weekly hweekly daily hdaily
  simp only [amounts, List.forall_mem_append, List.forall_mem_cons, List.not_mem_nil, false_implies,
    implies_true, and_true, List.forall_mem_flatMap, Option.mem_toList]
  exact ⟨⟨⟨⟨hlow, hhigh⟩, hmonthly⟩, hweekly⟩, hdaily⟩

variable (hzero : P .zero)
include hzero

theorem Profile.ensures : Ensures Profile.ofJson fun p => ∀ a ∈ p.amounts, P a := by
  refine .ofRecord (.seq (.seq (.seq (.seq (.seq (.seq (.seq (.map (.any _) ?_) (.any _))
    (.required _ hread)) (.required _ hread)) (ensures_cap hread _)) (ensures_cap hread _))
    (ensures_cap hread _)) (.optional _ hread hzero))
  intro id _ name _ low hlow high hhigh daily hdaily weekly hweekly monthly hmonthly rest hrest
  simp only [amounts, List.forall_mem_append, List.forall_mem_cons, List.not_mem_nil, false_implies,
    implies_true, and_true, Option.mem_toList]
  exact ⟨⟨⟨⟨⟨hlow, hhigh⟩, hdaily⟩, hweekly⟩, hmonthly⟩, hrest⟩

theorem RuleSet.ensures : Ensures RuleSet.ofJson fun s => ∀ a ∈ s.amounts, P a := by
  refine .ofRecord (.seq (.map (.optional _ (Profile.ensures hread hzero).list (by simp)) ?_)
    (.optional _ (Rule.ensures hread).list (by simp)))
  intro profiles hprofiles rules hrules
  rw [amounts, List.forall_mem_append, List.forall_mem_flatMap, List.forall_mem_flatMap]
  exact ⟨hprofiles, hrules⟩

/-- What holds of zero and of all that is read as an amount holds of every amount that stands in a
document, at any depth. -/
theorem ensures_amounts {kind : Kind} (h : HoldsAmounts kind) :
    Ensures kind.decode fun d => ∀ a ∈ kind.amounts d, P a := by
  induction h with
  | amount => exact hread.mono (by simp)
  | profile => exact Profile.ensures hread hzero
  | usage => exact Usage.ensures hread
  | criteria => exact Criteria.ensures hread
  | rule => exact Rule.ensures hread
  | ruleSet => exact RuleSet.ensures hread hzero
  | entry => exact Entry.ensures hread
  | ledger => exact Ledger.ensures hread
  | checkRequest => exact CheckRequest.ensures hread
  | verdict => exact Verdict.ensures hread
  | windowLimit => exact WindowLimit.ensures hread
  | summary => exact Summary.ensures hread
  | list _ ih =>
    exact ih.list.mono fun documents hdocuments => List.forall_mem_flatMap.mpr hdocuments

end

end SpendingLimits
