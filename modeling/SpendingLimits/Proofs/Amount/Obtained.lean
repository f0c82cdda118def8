import SpendingLimits.Amount.Exact
import SpendingLimits.Proofs.Amount.Rest
import SpendingLimits.Proofs.Codec.Amounts
import SpendingLimits.Proofs.Codec.Ledger
import SpendingLimits.Proofs.Json.Number

namespace SpendingLimits.Amount

open Json Text

variable {a b c total cap : Amount}

/-- The amounts that can be come by. -/
inductive Obtained : Amount → Prop
  | read {s : String} {a : Amount} (h : read s = .ok a) : Obtained a
  | decoded {kind : Kind} (hkind : HoldsAmounts kind) {s : String} {d : kind.Document}
      (h : decodeText kind.decode s = .ok d) {a : Amount} (ha : a ∈ kind.amounts d) : Obtained a
  | whole (n : UInt64) : Obtained (ofWhole n)
  | sum {a b c : Amount} (ha : Obtained a) (hb : Obtained b) (h : add? a b = some c) : Obtained c
  | rest {total cap : Amount} (htotal : Obtained total) (hcap : Obtained cap) :
      Obtained (remainingUnder total cap)

/-- A sum has no minus of its own. -/
theorem eq_of_add?_minus (h : add? a b = some c) (hminus : c.minus = true) : c = a ∨ c = b := by
  rw [add?] at h
  split_ifs at h
  · exact .inr (Option.some.inj h).symm
  · exact .inl (Option.some.inj h).symm
  · rw [fitFrom_minus h] at hminus
    cases hminus

/-- A rest has no minus: where it is the cap itself, the cap is above the total and so no zero. -/
theorem minus_remainingUnder (total cap : Amount) : (remainingUnder total cap).minus = false := by
  by_cases hreached : cap ≤ total
  · rw [remainingUnder, if_pos hreached]
    rfl
  · have hrest := sub?_eq_remainingUnder hreached
    generalize remainingUnder total cap = rest at hrest ⊢
    rw [sub?] at hrest
    split_ifs at hrest
    · obtain rfl := Option.some.inj hrest
      by_contra hminus
      rw [Bool.not_eq_false] at hminus
      have hzero := isZero_iff_units.mp (isZero_of_minus hminus)
      rw [le_iff_units, hzero] at hreached
      exact hreached (Nat.zero_le _)
    · exact fitFrom_minus hrest

theorem eq_negativeZero_of_ofJson :
    Ensures ofJson fun a => a.minus = true → a = negativeZero := by
  intro v a hv hminus
  cases v with
  | text s => exact (minus_of_ofJson_text hv hminus).1
  | number n =>
    rw [Numeral.minus_of_ofJson_number hv] at hminus
    cases hminus
  | _ => cases hv

/-- Every step from amounts to amounts keeps minuses to the one zero. -/
theorem Obtained.eq_negativeZero (h : Obtained a) (hminus : a.minus = true) : a = negativeZero := by
  induction h with
  | read h =>
    rw [minus_of_read h] at hminus
    cases hminus
  | decoded hkind h ha =>
    exact (ensures_amounts eq_negativeZero_of_ofJson nofun hkind).text h _ ha hminus
  | whole n => cases hminus
  | sum _ _ h iha ihb =>
    rcases eq_of_add?_minus h hminus with rfl | rfl
    · exact iha hminus
    · exact ihb hminus
  | rest _ _ _ _ =>
    rw [minus_remainingUnder] at hminus
    cases hminus

/-- No amount that can be come by is out of range or has a minus, but for the one zero that a JSON
text leaves of a number below zero; a rest is never short of an amount. No reader takes a number
below zero for an amount, but where JSON rounds the number without its minus to zero, and every
reader takes a zero with a minus for the zero without it. -/
theorem obtained_nonneg :
    (∀ a, Obtained a →
      a.mantissa < 2 ^ 96 ∧ a.scale ≤ 28 ∧ (a.minus = true → a = negativeZero)) ∧
    (∀ total cap, ¬cap ≤ total → sub? cap total = some (remainingUnder total cap)) ∧
    -- where a minus comes from
    (∀ s a, read s = .ok a → a.minus = false) ∧
    (∀ n a, ofJson (.number n) = .ok a → a.minus = false) ∧
    (∀ s a, ofJson (.text s) = .ok a → a.minus = true →
      denoted s.toList < 0 ∧ power s.toList < 0) ∧
    (∀ a b c, add? a b = some c → c.minus = true → c = a ∨ c = b) ∧
    (∀ total cap, (remainingUnder total cap).minus = false) ∧
    -- what becomes of numbers below zero, and of zeros with a minus
    RefusesNegative (fun s a => read s = .ok a) (fun s => written (trim s.toList))
      (fun s t => trim s.toList = '-' :: trim t.toList ∧ NoSign (trim t.toList)) ∧
    RefusesNegative (fun s a => ofJson (.text s) = .ok a) (fun s => denoted s.toList)
      (fun s t => s.toList = '-' :: t.toList ∧ NoSign t.toList) ∧
    RefusesNegative (fun n a => ofJson (.number n) = .ok a) Numeral.value
      (fun n m => n = m.withSign true ∧ m = m.withSign false) ∧
    (∀ s, written (trim s.toList) < 0 → ∃ why, read s = .error why) ∧
    (∀ s a, (∀ c ∈ s.toList, isExponentMark c = false) → denoted s.toList < 0 →
      ofJson (.text s) = .ok a → -(1 / 10 ^ 28) < denoted s.toList) ∧
    (∀ n : Numeral, n.value = 0 → ofJson (.number n) = .ok zero) :=
  ⟨fun a h => ⟨a.mantissa_lt, a.scale_le, h.eq_negativeZero⟩,
    fun _ _ h => sub?_eq_remainingUnder h,
    fun _ _ h => minus_of_read h,
    fun _ _ h => Numeral.minus_of_ofJson_number h,
    fun _ _ h hminus => (minus_of_ofJson_text h hminus).2,
    fun _ _ _ h hminus => eq_of_add?_minus h hminus,
    minus_remainingUnder,
    read_refusesNegative,
    ofJson_text_refusesNegative,
    Numeral.ofJson_number_refusesNegative,
    fun _ h => read_of_lt_zero h,
    fun _ _ hplain hneg h => lt_denoted_of_ofJson_text hplain hneg h,
    fun _ h => Numeral.ofJson_number_of_zero h⟩

/-- Amounts and texts of each kind: a rest of whole numbers, texts below zero with a power of ten,
with too many digits and with neither, a number too small for a binary one, and zeros. -/
theorem obtained_nonneg_at_texts :
    (remainingUnder (ofWhole 3) (ofWhole 5)).mantissa < 2 ^ 96 ∧
    sub? (ofWhole 5) (ofWhole 3) = some (remainingUnder (ofWhole 3) (ofWhole 5)) ∧
    power "-0.4e-28".toList < 0 ∧
    (∃ why, read "-1" = .error why) ∧
    -(1 / 10 ^ 28) < denoted "-0.00000000000000000000000000001".toList ∧
    (∃ m : Numeral, 0 < m.value ∧ ofJson (.number m) = .ok zero) ∧
    read "-0" = .ok zero ∧
    ofJson (.text "-0") = .ok zero ∧
    ofJson (.number ⟨true, 0, [0, 0], none⟩) = .ok zero := by
  obtain ⟨hrange, hrest, _, _, hminus, _, _, hexact, htext, hnumber, hrefused, hbound, hzero⟩ :=
    obtained_nonneg
  have htiny : ofJson (.text "-0.00000000000000000000000000001") =
      .ok ⟨0, 28, false, by decide, by decide, fun _ => rfl⟩ := by decide +kernel
  have hunder : ofJson (.number ⟨true, 1, [], some (-400)⟩) = .ok zero := by decide +kernel
  refine ⟨(hrange _ (.rest (.whole 3) (.whole 5))).1, hrest _ _ (by decide), ?_, ?_, ?_, ?_, ?_, ?_,
    ?_⟩
  · exact (hminus "-0.4e-28" negativeZero (by decide +kernel) rfl).2
  · exact hrefused "-1" (by decide +kernel)
  · have hplain : "-0.00000000000000000000000000001".toList.all (!isExponentMark ·) = true := by
      decide +kernel
    refine hbound _ _ (fun c hc => ?_) (by decide +kernel) htiny
    exact (Bool.not_eq_true' _).mp (List.all_eq_true.mp hplain c hc)
  · obtain ⟨_, m, _, hpos, hm⟩ := hnumber.negative (by decide +kernel) hunder
    exact ⟨m, hpos, hm⟩
  · exact (hexact.zero (t := "0") ⟨by decide, by decide, by decide⟩ (by decide +kernel)
      (by decide +kernel)).2.2
  · exact (htext.zero (t := "0") ⟨by decide, by decide, by decide⟩ (by decide +kernel)
      (by decide +kernel)).2.2
  · exact hzero _ (by decide +kernel)

/-- A number below zero that a power of ten rounds to zero keeps its minus. -/
theorem obtained_minus : ¬∀ a, Obtained a → a.minus = false := by
  intro h
  have hdecoded : decodeText ofJson "\"-0.4e-28\"" = .ok negativeZero := by decide +kernel
  have hplus := h negativeZero (.decoded .amount hdecoded (List.mem_singleton_self _))
  cases hplus

end SpendingLimits.Amount
