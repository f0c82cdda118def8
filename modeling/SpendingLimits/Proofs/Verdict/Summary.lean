import SpendingLimits.Proofs.Verdict.Value

namespace SpendingLimits

/-- Windows of summaries that differ at most in how their amounts are written. -/
structure WindowLimit.Alike (x y : WindowLimit) : Prop where
  cap : Option.Rel Amount.Alike x.cap y.cap
  used : x.used.Alike y.used
  days : x.days = y.days

/-- Summaries that differ at most in how their amounts are written. -/
structure Summary.Alike (s t : Summary) : Prop where
  minTransaction : s.minTransaction.Alike t.minTransaction
  maxTransaction : s.maxTransaction.Alike t.maxTransaction
  monthly : s.monthly.Alike t.monthly
  weekly : Option.Rel WindowLimit.Alike s.weekly t.weekly
  daily : Option.Rel WindowLimit.Alike s.daily t.daily

namespace Summary

open Amount

/-- What a summary shows of a window. The month is always there. -/
def shown? (s : Summary) : Window → Option WindowLimit
  | .monthly => some s.monthly
  | .weekly => s.weekly
  | .daily => s.daily

/-- The cap that a summary shows on a window, and what it shows as used of it. -/
def enforced? (s : Summary) (w : Window) : Option (Amount × Amount) :=
  (s.shown? w).bind fun limit => limit.cap.map (·, limit.used)

/-- The verdict of a window that is shown with a cap, if the amount takes what is shown as used of
it above the cap. The range ends at what is left. -/
def denial? (s : Summary) (proposed : Amount) (w : Window) : Option Verdict :=
  (s.enforced? w).bind fun (cap, used) =>
    if wouldExceed used proposed cap then
      some ⟨.limitReached w, s.minTransaction, remainingUnder used cap⟩
    else none

/-- The verdict that a summary alone gives: the bounds of a transaction first, then the windows from
the longest to the shortest. -/
def judge (s : Summary) (proposed : Amount) : Verdict :=
  if proposed < s.minTransaction then ⟨.tooSmall, s.minTransaction, s.maxTransaction⟩
  else if s.maxTransaction < proposed then ⟨.tooLarge, s.minTransaction, s.maxTransaction⟩
  else
    ([.monthly, .weekly, .daily].findSome? (s.denial? proposed)).getD
      ⟨.allowed, s.minTransaction, s.maxTransaction⟩

variable {p : Profile} {u : Usage} {s t : Summary} {a b : Amount} {w : Window}

/-- A window is shown with a cap exactly when the profile has one on it, and then with its total. -/
theorem enforced?_summary : (p.summary u).enforced? w = (p.cap? w).map (·, u.total w) := by
  cases w with
  | monthly => rfl
  | weekly => cases h : p.weekly <;> simp [enforced?, shown?, Profile.summary, Profile.windowLimit,
      Profile.cap?, h]
  | daily => cases h : p.daily <;> simp [enforced?, shown?, Profile.summary, Profile.windowLimit,
      Profile.cap?, h]

theorem denial?_summary : (p.summary u).denial? a =
    Option.map (fun w => ⟨.limitReached w, p.minTransaction, p.headroom u w⟩) ∘
      Option.guard (p.isExceeded u a) := by
  funext w
  rw [denial?, enforced?_summary, Function.comp_apply, Option.guard, Profile.isExceeded]
  cases hcap : p.cap? w with
  | none => rfl
  | some cap =>
    cases hexceeds : wouldExceed (u.total w) a cap <;>
      simp [Profile.summary, Profile.headroom, hcap, hexceeds]

theorem judge_summary (p : Profile) (u : Usage) (a : Amount) :
    (p.summary u).judge a = p.judge u a := by
  have hlow : (p.summary u).minTransaction = p.minTransaction := rfl
  have hhigh : (p.summary u).maxTransaction = p.maxTransaction := rfl
  rw [judge, Profile.judge, hlow, hhigh, denial?_summary, ← List.map_findSome?,
    List.findSome?_guard, Profile.windowOrder]
  split_ifs
  · rfl
  · rfl
  · cases [Window.monthly, .weekly, .daily].find? (p.isExceeded u a) <;> rfl

theorem Alike.enforced? (h : s.Alike t) (w : Window) :
    Option.Rel (fun x y => x.1.Alike y.1 ∧ x.2.Alike y.2) (s.enforced? w) (t.enforced? w) := by
  have hshown : Option.Rel WindowLimit.Alike (s.shown? w) (t.shown? w) := by
    cases w with
    | monthly => exact .some h.monthly
    | weekly => exact h.weekly
    | daily => exact h.daily
  rw [Summary.enforced?, Summary.enforced?]
  generalize s.shown? w = x, t.shown? w = y at hshown ⊢
  cases hshown with
  | none => exact .none
  | @some x y hlimit =>
    obtain ⟨cap, used, _⟩ := x
    obtain ⟨cap', used', _⟩ := y
    cases hlimit.cap with
    | none => exact .none
    | some hcap => exact .some ⟨hcap, hlimit.used⟩

theorem Alike.denial? (h : s.Alike t) (hab : a.Alike b) (w : Window) :
    Option.Rel Verdict.Alike (s.denial? a w) (t.denial? b w) := by
  have henforced := h.enforced? w
  rw [Summary.denial?, Summary.denial?]
  generalize s.enforced? w = x, t.enforced? w = y at henforced ⊢
  cases henforced with
  | none => exact .none
  | some hwindow =>
    obtain ⟨hcap, hused⟩ := hwindow
    simp only [Option.bind_some, wouldExceed_alike hused hab hcap]
    split_ifs
    · exact .some ⟨rfl, h.minTransaction, remainingUnder_alike hused hcap⟩
    · exact .none

theorem findSome?_alike {f g : Window → Option Verdict}
    (h : ∀ w, Option.Rel Verdict.Alike (f w) (g w)) (ws : List Window) :
    Option.Rel Verdict.Alike (ws.findSome? f) (ws.findSome? g) := by
  induction ws with
  | nil => exact .none
  | cons w ws ih =>
    have hfirst := h w
    rw [List.findSome?_cons, List.findSome?_cons]
    generalize f w = x, g w = y at hfirst ⊢
    cases hfirst with
    | none => exact ih
    | some hverdict => exact .some hverdict

theorem Alike.judge (h : s.Alike t) (hab : a.Alike b) : (s.judge a).Alike (t.judge b) := by
  have hdenial := findSome?_alike (h.denial? hab) [.monthly, .weekly, .daily]
  rw [Summary.judge, Summary.judge]
  simp only [hab.lt_iff h.minTransaction, h.maxTransaction.lt_iff hab]
  split_ifs
  · exact ⟨rfl, h.minTransaction, h.maxTransaction⟩
  · exact ⟨rfl, h.minTransaction, h.maxTransaction⟩
  · generalize List.findSome? (s.denial? a) _ = x, List.findSome? (t.denial? b) _ = y at hdenial ⊢
    cases hdenial with
    | none => exact ⟨rfl, h.minTransaction, h.maxTransaction⟩
    | some hverdict => exact hverdict

/-- The verdict of a profile on an amount is the one that its summary alone gives: a window has a
part in it exactly when the summary shows a cap on it, and then with what is shown as used. So
summaries that are equal, or equal in value, have verdicts that are. -/
theorem summary_decides (p q : Profile) (u v : Usage) (a : Amount) :
    p.judge u a = (p.summary u).judge a ∧
    (∀ w, (p.summary u).enforced? w = (p.cap? w).map (·, u.total w)) ∧
    (p.summary u = q.summary v → p.judge u a = q.judge v a) ∧
    ((p.summary u).Alike (q.summary v) → (p.judge u a).Alike (q.judge v a)) := by
  refine ⟨(judge_summary p u a).symm, fun _ => enforced?_summary, fun h => ?_, fun h => ?_⟩
  · rw [← judge_summary p u a, h, judge_summary q v a]
  · rw [← judge_summary p u a, ← judge_summary q v a]
    exact h.judge rfl

/-- Two profiles of one summary: they differ in what no summary shows, the total of the week is
another one because no cap is on it, and the day denies the amount in both. In the third summary
the same numbers are written with more zeros. -/
theorem summary_decides_of_uncapped_week :
    let amount (m s : Nat) : Amount := (ofParts? m s).getD zero
    let p : Profile := ⟨⟨"basic"⟩, "Basic", amount 1 0, amount 500 0, some (amount 200 0), none,
      some (amount 2000 0), zero⟩
    let q : Profile := { p with id := ⟨"other"⟩, name := "Other", unsettledExposure := amount 7 0 }
    let r : Profile := { p with daily := some (amount 2000 1), minTransaction := amount 100 2 }
    let u : Usage := ⟨amount 150 0, amount 900 0, amount 900 0, amount 5000 0⟩
    let v : Usage := ⟨amount 150 0, amount 300 0, amount 900 0, amount 9000 0⟩
    let x : Usage := ⟨amount 15000 2, amount 1 0, amount 9000 1, amount 1 0⟩
    let proposed := amount 51 0
    (p.summary u = q.summary v ∧ p ≠ q ∧ u ≠ v) ∧ (p.summary u).Alike (r.summary x) ∧
    p.judge u proposed = ⟨.limitReached .daily, amount 1 0, amount 50 0⟩ ∧
    q.judge v proposed = ⟨.limitReached .daily, amount 1 0, amount 50 0⟩ ∧
    (p.judge u proposed).Alike (r.judge x proposed) := by
  intro amount p q r u v x proposed
  have hsame : p.summary u = q.summary v := by decide
  have halike : (p.summary u).Alike (r.summary x) := by
    refine ⟨by decide, by decide, ⟨.some ?_, by decide, rfl⟩, .none,
      .some ⟨.some ?_, by decide, rfl⟩⟩
    all_goals decide
  have hdenied : p.judge u proposed = ⟨.limitReached .daily, amount 1 0, amount 50 0⟩ := by decide
  obtain ⟨_, _, hequal, _⟩ := summary_decides p q u v proposed
  obtain ⟨_, _, _, hvalue⟩ := summary_decides p r u x proposed
  exact ⟨⟨hsame, by decide, by decide⟩, halike, hdenied, hequal hsame ▸ hdenied, hvalue halike⟩

end Summary

end SpendingLimits
