import SpendingLimits.Codec.Document
import SpendingLimits.Proofs.Codec.Parts

namespace SpendingLimits

open Json

namespace CheckRequest

def unsigned (r : CheckRequest) : CheckRequest := { r with amount := r.amount.unsigned }

@[simp] theorem unsigned_unsigned (r : CheckRequest) : r.unsigned.unsigned = r.unsigned := by
  simp [unsigned]

theorem reads (r : CheckRequest) : Reads CheckRequest.ofJson r.toJson r.unsigned := by
  refine Record.reads_ofFields (r := layout) ?_ ?_ (by decide)
  · refine .seq (.seq (.map _
      (.required ?_ r.account.reads))
      (.required ?_ r.amount.reads))
      (r.context.yields ?_ ?_)
    all_goals simp [Context.fields, List.lookup_append, List.lookup_cons, lookup_optionField]
  · simp only [Context.fields, List.map_append]
    exact (List.Sublist.refl _).append ((keys_optionField ..).append (keys_optionField ..))

end CheckRequest

theorem LimitsQuery.reads (q : LimitsQuery) : Reads LimitsQuery.ofJson q.toJson q := by
  refine Record.reads_ofFields (r := layout) ?_ ?_ (by decide)
  · refine .seq (.map _
      (.required ?_ q.account.reads))
      (q.context.yields ?_ ?_)
    all_goals simp [Context.fields, List.lookup_append, List.lookup_cons, lookup_optionField]
  · simp only [Context.fields, List.map_append]
    exact (List.Sublist.refl _).append ((keys_optionField ..).append (keys_optionField ..))

namespace RuleSet

def unsigned (s : RuleSet) : RuleSet :=
  ⟨s.profiles.map Profile.unsigned, s.rules.map Rule.unsigned⟩

@[simp] theorem unsigned_unsigned (s : RuleSet) : s.unsigned.unsigned = s.unsigned := by
  simp [unsigned, Function.comp_def]

theorem reads (s : RuleSet) : Reads RuleSet.ofJson s.toJson s.unsigned := by
  refine Record.reads_ofFields (r := layout) ?_ (.refl _) (by decide)
  exact .seq (.map _
    (.optional rfl (.list fun p _ => p.reads)))
    (.optional rfl (.list fun r _ => r.reads))

end RuleSet

/-- The text of the value of a text. -/
def rewrite {α : Type} (encode : α → Json) (decode : Decoder α) (s : String) :
    Except Json.Fault String := do
  return (encode (← decodeText decode s)).compact

/-- What is written is decoded to the value without the minus of a zero, so a text that is rewritten
settles: at once if its value has no such zero, and in any case the second time. -/
structure RoundTrips {α : Type} (encode : α → Json) (decode : Decoder α) (unsigned : α → α) :
    Prop where
  compact : ∀ a, decodeText decode (encode a).compact = .ok (unsigned a)
  pretty : ∀ a, decodeText decode (encode a).pretty = .ok (unsigned a)
  idempotent : ∀ s a, decodeText decode s = .ok a → unsigned a = a →
    ∃ t, rewrite encode decode s = .ok t ∧ rewrite encode decode t = .ok t
  settled : ∀ s a, decodeText decode s = .ok a → ∃ t u, rewrite encode decode s = .ok t ∧
    rewrite encode decode t = .ok u ∧ rewrite encode decode u = .ok u

section

variable {α : Type} {encode : α → Json} {decode : Decoder α} {unsigned : α → α}

theorem rewrite_eq_ok {s : String} {a : α} (h : decodeText decode s = .ok a) :
    rewrite encode decode s = .ok (encode a).compact := by
  rw [rewrite, h]
  rfl

theorem roundTrips (hreads : ∀ a, Reads decode (encode a) (unsigned a))
    (hunsigned : ∀ a, unsigned (unsigned a) = unsigned a) : RoundTrips encode decode unsigned where
  compact a := (hreads a).compact
  pretty a := (hreads a).pretty
  idempotent s a h ha := by
    have hagain := (hreads a).compact
    rw [ha] at hagain
    exact ⟨_, rewrite_eq_ok h, rewrite_eq_ok hagain⟩
  settled s a h := by
    have hagain := (hreads (unsigned a)).compact
    rw [hunsigned] at hagain
    exact ⟨_, _, rewrite_eq_ok h, rewrite_eq_ok (hreads a).compact, rewrite_eq_ok hagain⟩

end

/-- Rule sets and their parts, requests and answers, whatever their texts and amounts are and
whichever of their fields are left out. -/
theorem documents_roundTrip :
    RoundTrips RuleSet.toJson RuleSet.ofJson RuleSet.unsigned ∧
    RoundTrips Profile.toJson Profile.ofJson Profile.unsigned ∧
    RoundTrips Rule.toJson Rule.ofJson Rule.unsigned ∧
    RoundTrips Criteria.toJson Criteria.ofJson Criteria.unsigned ∧
    RoundTrips Usage.toJson Usage.ofJson Usage.unsigned ∧
    RoundTrips CheckRequest.toJson CheckRequest.ofJson CheckRequest.unsigned ∧
    RoundTrips LimitsQuery.toJson LimitsQuery.ofJson id ∧
    RoundTrips Verdict.toJson Verdict.ofJson Verdict.unsigned ∧
    RoundTrips Summary.toJson Summary.ofJson Summary.unsigned :=
  ⟨roundTrips RuleSet.reads RuleSet.unsigned_unsigned,
    roundTrips Profile.reads Profile.unsigned_unsigned,
    roundTrips Rule.reads Rule.unsigned_unsigned,
    roundTrips Criteria.reads Criteria.unsigned_unsigned,
    roundTrips Usage.reads Usage.unsigned_unsigned,
    roundTrips CheckRequest.reads CheckRequest.unsigned_unsigned,
    roundTrips LimitsQuery.reads fun _ => rfl,
    roundTrips Verdict.reads Verdict.unsigned_unsigned,
    roundTrips Summary.reads Summary.unsigned_unsigned⟩

/-- A zero that is left of a number below zero keeps its minus for one round. -/
theorem rewrite_not_idempotent :
    ¬∀ s t, rewrite Profile.toJson Profile.ofJson s = .ok t →
      rewrite Profile.toJson Profile.ofJson t = .ok t := by
  intro h
  have hfirst : rewrite Profile.toJson Profile.ofJson
      ("\x7b\"id\":\"basic\",\"name\":\"Basic\",\"min_transaction\":\"1\"," ++
        "\"max_transaction\":\"500\",\"unsettled_exposure\":\"-0.4e-28\"\x7d") =
      .ok ("\x7b\"id\":\"basic\",\"name\":\"Basic\",\"min_transaction\":\"1\"," ++
        "\"max_transaction\":\"500\"," ++
        "\"unsettled_exposure\":\"-0.0000000000000000000000000000\"\x7d") := by
    decide +kernel
  have hsecond := h _ _ hfirst
  revert hsecond
  decide +kernel

end SpendingLimits
