import SpendingLimits.Json.Record
import SpendingLimits.Proofs.Json.Record

namespace SpendingLimits.Json

variable {α β : Type} {decode : Decoder α} {P Q : α → Prop} {R : β → Prop}

/-- Whatever value is decoded, the result is as `P` says. -/
def Ensures (decode : Decoder α) (P : α → Prop) : Prop := ∀ ⦃v a⦄, decode v = .ok a → P a

namespace Ensures

theorem mono (h : Ensures decode Q) (himp : ∀ a, Q a → P a) : Ensures decode P :=
  fun _ a hv => himp a (h hv)

theorem option (h : Ensures decode P) : Ensures (asOption decode) fun o => ∀ a ∈ o, P a := by
  intro v o hv a ha
  obtain rfl := Option.mem_def.mp ha
  have hsome : (decode v).map some = .ok (some a) := by
    cases v with
    | null => cases hv
    | _ => exact hv
  obtain ⟨b, hb, hba⟩ := map_eq_ok.mp hsome
  obtain rfl := Option.some.inj hba
  exact h hb

theorem list (h : Ensures decode P) : Ensures (asList decode) fun l => ∀ a ∈ l, P a := by
  intro v l hv a ha
  cases v with
  | array items =>
    obtain ⟨item, hitem⟩ := exists_of_mem_of_forall₂ (mapM_eq_ok.mp hv).flip ha
    exact h hitem
  | _ => cases hv

/-- A text is decoded as the value that it writes. -/
theorem text {s : String} {a : α} (h : Ensures decode P) (hs : decodeText decode s = .ok a) :
    P a := by
  rw [decodeText] at hs
  obtain ⟨b, hb, hclean⟩ := bind_eq_ok.mp hs
  split_ifs at hclean
  obtain rfl := Except.ok.inj hclean
  exact h hb

end Ensures

namespace Record

/-- Whatever the values of its fields are, the structure that a record makes is as `P` says. -/
def Ensures (r : Record α) (P : α → Prop) : Prop := ∀ ⦃fs a⦄, r.build fs = .ok a → P a

namespace Ensures

variable {r : Record α}

theorem any (r : Record α) : Ensures r fun _ => True := fun _ _ _ => trivial

theorem map {f : α → β} (h : Ensures r Q) (himp : ∀ a, Q a → R (f a)) : Ensures (f <$> r) R := by
  intro fs b hb
  obtain ⟨a, ha, rfl⟩ := map_eq_ok.mp hb
  exact himp a (h ha)

/-- A structure with one field more. -/
theorem seq {f : Record (α → β)} (hf : Ensures f fun g => ∀ a, Q a → R (g a)) (h : Ensures r Q) :
    Ensures (f <*> r) R := by
  intro fs b hb
  obtain ⟨g, hg, hrest⟩ := bind_eq_ok.mp hb
  obtain ⟨a, ha, hga⟩ := bind_eq_ok.mp hrest
  obtain rfl := Except.ok.inj hga
  exact hf hg a (h ha)

theorem required (name : String) (h : Json.Ensures decode P) :
    Ensures (Record.required name decode) P := by
  intro fs a ha
  simp only [Record.required] at ha
  split at ha
  · exact h ha
  · cases ha

theorem optional (name : String) {absent : α} (h : Json.Ensures decode P) (habsent : P absent) :
    Ensures (Record.optional name decode absent) P := by
  intro fs a ha
  simp only [Record.optional] at ha
  split at ha
  · exact h ha
  · obtain rfl := Except.ok.inj ha
    exact habsent

end Ensures

end Record

theorem Ensures.ofRecord {r : Record α} (h : r.Ensures P) : Ensures r.decode P := by
  intro v a hv
  cases v with
  | object fields =>
    obtain ⟨_, _, ha⟩ := bind_eq_ok.mp hv
    exact h ha
  | array items =>
    obtain ⟨_, _, ha⟩ := bind_eq_ok.mp hv
    exact h ha
  | _ => cases hv

end SpendingLimits.Json
