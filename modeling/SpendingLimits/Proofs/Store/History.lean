import SpendingLimits.Proofs.Store.Integrity

namespace SpendingLimits.Store

/-- A call that changes a store. -/
inductive Call where
  | upsert (p : Profile)
  | add (r : Rule)
  | deactivate (id : RuleId)
deriving DecidableEq

/-- Whether a call has done something, unless it is refused. -/
def answer (s : Store) : Call → Except StoreFault Bool
  | .upsert p => (s.upsertProfile p).map fun _ => true
  | .add r => (s.addRule r).map fun _ => true
  | .deactivate id => .ok (s.deactivateRule id).2

def afterCall (s : Store) : Call → Store
  | .upsert p => s.afterUpsert p
  | .add r => (s.addRule r).toOption.getD s
  | .deactivate id => (s.deactivateRule id).1

def afterCalls (s : Store) (calls : List Call) : Store := calls.foldl afterCall s

/-- The profile that a call stores under an identifier: only a valid one. -/
def Call.stores? (id : ProfileId) : Call → Option Profile
  | .upsert p => if p.id = id ∧ p.validate = .ok () then some p else none
  | _ => none

/-- The rules that calls add to a store, each with the calls that come after it. -/
def additions (s : Store) : List Call → List (Rule × List Call)
  | [] => []
  | .upsert p :: later => (s.afterUpsert p).additions later
  | .add r :: later =>
    match s.addRule r with
    | .ok t => (r, later) :: t.additions later
    | .error _ => s.additions later
  | .deactivate id :: later => (s.deactivateRule id).1.additions later

/-- Calls leave an identifier active when a rule is added under it and it is not deactivated
later. -/
def Active (calls : List Call) (id : RuleId) : Prop :=
  ∃ before r after, calls = before ++ .add r :: after ∧ r.id = id ∧ .deactivate id ∉ after

variable {s : Store} {p : Profile} {r : Rule} {id : RuleId} {c : Call} {calls : List Call}

theorem upsertProfile_eq_error {why : StoreFault} :
    s.upsertProfile p = .error why ↔ ∃ cause, p.validate = .error cause ∧ why = .domain cause := by
  rw [upsertProfile]
  cases hvalid : p.validate with
  | ok => simp
  | error cause => simp [eq_comm]

theorem addRule_eq_error {why : StoreFault} :
    s.addRule r = .error why ↔
      r.id ∈ s.rules.map (·.id) ∧ why = .conflict (.ruleExists r.id) := by
  have hany : s.rules.any (·.id == r.id) = true ↔ r.id ∈ s.rules.map (·.id) := by simp
  rw [addRule]
  by_cases h : r.id ∈ s.rules.map (·.id)
  · rw [if_pos (hany.mpr h)]
    simp [h, eq_comm]
  · rw [if_neg (mt hany.mp h)]
    simp [h]

theorem deactivateRule_snd : (s.deactivateRule id).2 = true ↔ id ∈ s.rules.map (·.id) := by
  have hlength : (s.rules.filter (·.id != id)).length = s.rules.length ↔
      ∀ r ∈ s.rules, r.id ≠ id := by
    rw [List.length_filter_eq_length_iff]
    simp
  change ((s.rules.filter (·.id != id)).length != s.rules.length) = true ↔ _
  rw [bne_iff_ne, ne_eq, hlength]
  simp

theorem deactivateRule_of_not_mem (h : id ∉ s.rules.map (·.id)) : (s.deactivateRule id).1 = s := by
  have hkeep : s.rules.filter (·.id != id) = s.rules := by
    rw [List.filter_eq_self]
    intro r hr
    rw [bne_iff_ne]
    intro heq
    exact h (List.mem_map.mpr ⟨r, hr, heq⟩)
  change (⟨s.profiles, s.rules.filter (·.id != id)⟩ : Store) = s
  rw [hkeep]

theorem afterCall_add_of_mem (h : r.id ∈ s.rules.map (·.id)) : s.afterCall (.add r) = s := by
  rw [afterCall, addRule_eq_error.mpr ⟨h, rfl⟩]
  rfl

theorem afterCall_add_of_new (h : r.id ∉ s.rules.map (·.id)) :
    s.afterCall (.add r) = { s with rules := s.rules ++ [r] } := by
  rw [afterCall, addRule_of_new h]
  rfl

theorem rules_afterUpsert (s : Store) (p : Profile) : (s.afterUpsert p).rules = s.rules := by
  cases hvalid : p.validate with
  | ok => rw [afterUpsert_of_valid s hvalid]
  | error cause => rw [afterUpsert_of_invalid s hvalid]

/-- A call that does not succeed changes nothing. -/
theorem afterCall_of_answer_ne (h : s.answer c ≠ .ok true) : s.afterCall c = s := by
  cases c with
  | upsert p =>
    cases hvalid : p.validate with
    | ok =>
      rw [answer, upsertProfile, hvalid] at h
      exact absurd rfl h
    | error cause => exact afterUpsert_of_invalid s hvalid
  | add r =>
    cases hadd : s.addRule r with
    | ok t =>
      rw [answer, hadd] at h
      exact absurd rfl h
    | error why =>
      rw [afterCall, hadd]
      rfl
  | deactivate id =>
    refine deactivateRule_of_not_mem fun hmem => h ?_
    rw [answer, deactivateRule_snd.mpr hmem]

/-- Every profile is valid, and no identifier is taken twice. -/
structure Sound (s : Store) : Prop where
  valid : ∀ p ∈ s.profiles, p.validate = .ok ()
  profiles_nodup : (s.profiles.map (·.id)).Nodup
  rules_nodup : (s.rules.map (·.id)).Nodup

theorem sound_empty : empty.Sound := ⟨by simp [empty], by simp [empty], by simp [empty]⟩

theorem Sound.upsert (h : s.Sound) (p : Profile) : (s.afterUpsert p).Sound := by
  cases hvalid : p.validate with
  | error cause =>
    rw [afterUpsert_of_invalid s hvalid]
    exact h
  | ok =>
    rw [afterUpsert_of_valid s hvalid]
    refine ⟨?_, ?_, h.rules_nodup⟩
    · intro q hq
      rcases List.mem_append.mp hq with hq | hq
      · exact h.valid q (List.mem_filter.mp hq).1
      · rw [List.mem_singleton.mp hq]
        exact hvalid
    · have hrest : ((s.profiles.filter (·.id != p.id)).map (·.id)).Nodup :=
        h.profiles_nodup.sublist (List.filter_sublist.map _)
      have hnew : p.id ∉ (s.profiles.filter (·.id != p.id)).map (·.id) := by simp
      rw [List.map_append, List.map_singleton, ← List.concat_eq_append]
      exact hrest.concat hnew

theorem Sound.add (h : s.Sound) (r : Rule) : (s.afterCall (.add r)).Sound := by
  by_cases hmem : r.id ∈ s.rules.map (·.id)
  · rw [afterCall_add_of_mem hmem]
    exact h
  · rw [afterCall_add_of_new hmem]
    refine ⟨h.valid, h.profiles_nodup, ?_⟩
    change ((s.rules ++ [r]).map (·.id)).Nodup
    rw [List.map_append, List.map_singleton, ← List.concat_eq_append]
    exact h.rules_nodup.concat hmem

theorem Sound.afterCall (h : s.Sound) (c : Call) : (s.afterCall c).Sound := by
  cases c with
  | upsert p => exact h.upsert p
  | add r => exact h.add r
  | deactivate id =>
    exact ⟨h.valid, h.profiles_nodup, h.rules_nodup.sublist (List.filter_sublist.map _)⟩

theorem Sound.afterCalls (h : s.Sound) (calls : List Call) : (s.afterCalls calls).Sound := by
  induction calls generalizing s with
  | nil => exact h
  | cons c calls ih => exact ih (h.afterCall c)

theorem profile?_afterCall (s : Store) (c : Call) (id : ProfileId) :
    (s.afterCall c).profile? id = (c.stores? id).or (s.profile? id) := by
  cases c with
  | upsert p =>
    change (s.afterUpsert p).profile? id = _
    cases hvalid : p.validate with
    | ok =>
      rw [profile?_afterUpsert s hvalid]
      by_cases hid : p.id = id <;> simp [Call.stores?, hid, hvalid]
    | error cause =>
      rw [afterUpsert_of_invalid s hvalid]
      simp [Call.stores?, hvalid]
  | add r =>
    by_cases hmem : r.id ∈ s.rules.map (·.id)
    · rw [afterCall_add_of_mem hmem]
      rfl
    · rw [afterCall_add_of_new hmem]
      rfl
  | deactivate id => rfl

theorem profile?_afterCalls (s : Store) (calls : List Call) (id : ProfileId) :
    (s.afterCalls calls).profile? id =
      (calls.filterMap (Call.stores? id)).getLast?.or (s.profile? id) := by
  induction calls generalizing s with
  | nil => rfl
  | cons c calls ih =>
    have hrun : (s.afterCalls (c :: calls)).profile? id =
        (calls.filterMap (Call.stores? id)).getLast?.or ((s.afterCall c).profile? id) :=
      ih (s.afterCall c)
    rw [hrun, profile?_afterCall]
    cases hc : c.stores? id with
    | none => simp [hc]
    | some p =>
      rw [List.filterMap_cons_some hc, List.getLast?_cons]
      cases (calls.filterMap (Call.stores? id)).getLast? <;> rfl

theorem mem_ids_afterCall :
    id ∈ (s.afterCall c).rules.map (·.id) ↔
      (id ∈ s.rules.map (·.id) ∧ c ≠ .deactivate id) ∨ ∃ r, c = .add r ∧ r.id = id := by
  cases c with
  | upsert p => simp [afterCall, rules_afterUpsert]
  | add r =>
    by_cases hmem : r.id ∈ s.rules.map (·.id)
    · rw [afterCall_add_of_mem hmem]
      constructor
      · intro h
        exact .inl ⟨h, by simp⟩
      · rintro (h | ⟨q, hq, rfl⟩)
        · exact h.1
        · cases hq
          exact hmem
    · rw [afterCall_add_of_new hmem]
      simp [eq_comm]
  | deactivate other =>
    have hids : id ∈ (s.afterCall (.deactivate other)).rules.map (·.id) ↔
        ∃ r ∈ s.rules, r.id ≠ other ∧ r.id = id := by
      simp [afterCall, deactivateRule, and_assoc]
    rw [hids]
    constructor
    · rintro ⟨r, hr, hne, rfl⟩
      exact .inl ⟨List.mem_map_of_mem hr, by simpa [eq_comm] using hne⟩
    · rintro (⟨hmem, hne⟩ | ⟨r, hr, _⟩)
      · obtain ⟨r, hr, rfl⟩ := List.mem_map.mp hmem
        exact ⟨r, hr, by simpa [eq_comm] using hne, rfl⟩
      · cases hr

theorem active_cons :
    Active (c :: calls) id ↔
      (∃ r, c = .add r ∧ r.id = id) ∧ .deactivate id ∉ calls ∨ Active calls id := by
  constructor
  · rintro ⟨before, r, after, hcalls, hid, hafter⟩
    cases before with
    | nil =>
      obtain ⟨hc, rfl⟩ := List.cons.inj hcalls
      exact .inl ⟨⟨r, hc, hid⟩, hafter⟩
    | cons b before =>
      obtain ⟨_, rfl⟩ := List.cons.inj hcalls
      exact .inr ⟨before, r, after, rfl, hid, hafter⟩
  · rintro (⟨⟨r, rfl, hid⟩, hafter⟩ | ⟨before, r, after, rfl, hid, hafter⟩)
    · exact ⟨[], r, calls, rfl, hid, hafter⟩
    · exact ⟨c :: before, r, after, rfl, hid, hafter⟩

theorem mem_ids_afterCalls (s : Store) (calls : List Call) (id : RuleId) :
    id ∈ (s.afterCalls calls).rules.map (·.id) ↔
      (id ∈ s.rules.map (·.id) ∧ .deactivate id ∉ calls) ∨ Active calls id := by
  induction calls generalizing s with
  | nil => simp [afterCalls, Active]
  | cons c calls ih =>
    have hrun : id ∈ (s.afterCalls (c :: calls)).rules.map (·.id) ↔
        (id ∈ (s.afterCall c).rules.map (·.id) ∧ .deactivate id ∉ calls) ∨ Active calls id :=
      ih (s.afterCall c)
    rw [hrun, mem_ids_afterCall, active_cons, List.mem_cons, not_or, eq_comm (b := c),
      or_and_right, and_assoc, or_assoc]

/-- The rules after calls: those of before that the calls leave, then those that the calls add and
leave. -/
theorem rules_afterCalls (s : Store) (calls : List Call) :
    (s.afterCalls calls).rules =
      (s.rules.filter fun r => .deactivate r.id ∉ calls) ++
        ((s.additions calls).filter fun a => .deactivate a.1.id ∉ a.2).map (·.1) := by
  induction calls generalizing s with
  | nil => simp [afterCalls, additions]
  | cons c calls ih =>
    have hrun := ih (s.afterCall c)
    change (s.afterCalls (c :: calls)).rules = _ at hrun
    rw [hrun]
    cases c with
    | upsert p =>
      simp [afterCall, rules_afterUpsert, additions]
    | add r =>
      by_cases hmem : r.id ∈ s.rules.map (·.id)
      · rw [afterCall_add_of_mem hmem, additions, addRule_eq_error.mpr ⟨hmem, rfl⟩]
        simp
      · rw [afterCall_add_of_new hmem, additions, addRule_of_new hmem]
        by_cases hlater : .deactivate r.id ∈ calls
        · simp [hlater]
        · simp [hlater]
    | deactivate id =>
      have hfilter : (s.rules.filter (·.id != id)).filter (fun r => .deactivate r.id ∉ calls) =
          s.rules.filter fun r => .deactivate r.id ∉ Call.deactivate id :: calls := by
        rw [List.filter_filter]
        apply List.filter_congr
        intro r _
        by_cases hid : r.id = id <;> simp [hid]
      change (s.rules.filter (·.id != id)).filter _ ++ _ = _
      rw [hfilter]
      rfl

/-- What a store holds and answers after calls, in terms of these calls. -/
structure Records (s : Store) (calls : List Call) : Prop where
  profile?_eq : ∀ id, s.profile? id = (calls.filterMap (Call.stores? id)).getLast?
  stored : ∀ p ∈ s.profiles, p.validate = .ok () ∧ s.profile? p.id = some p
  rules_nodup : (s.rules.map (·.id)).Nodup
  rules_eq : s.rules =
    ((empty.additions calls).filter fun a => .deactivate a.1.id ∉ a.2).map (·.1)
  mem_ids : ∀ id, id ∈ s.rules.map (·.id) ↔ Active calls id
  upsert : ∀ p why, s.answer (.upsert p) = .error why ↔
    ∃ cause, p.validate = .error cause ∧ why = .domain cause
  add : ∀ r why, s.answer (.add r) = .error why ↔
    Active calls r.id ∧ why = .conflict (.ruleExists r.id)
  deactivate : ∀ id, ∃ found, s.answer (.deactivate id) = .ok found ∧
    (found = true ↔ Active calls id)
  unchanged : ∀ c, s.answer c ≠ .ok true → s.afterCall c = s
  rulebook : ∀ book, s.rulebook = .ok book ↔ ∃ before after,
    s.rules = before ++ book.fallback :: after ∧ book.specific = before ++ after ∧
      book.fallback.isDefault = true ∧ ∀ r ∈ before ++ after, r.isDefault = false
  noRulebook : ∀ why, s.rulebook = .error why ↔
    (∀ r ∈ s.rules, r.isDefault = false) ∧ why = .domain (.rulebook .noDefault) ∨
    ∃ first second rest, s.rules.filter (·.isDefault) = first :: second :: rest ∧
      why = .domain (.rulebook (.severalDefaults first.id second.id))

/-- Whatever calls are made on an empty store, it holds and answers what they say. -/
theorem records_afterCalls (calls : List Call) : (empty.afterCalls calls).Records calls := by
  have hsound : (empty.afterCalls calls).Sound := sound_empty.afterCalls calls
  have hactive : ∀ id, id ∈ (empty.afterCalls calls).rules.map (·.id) ↔ Active calls id := by
    intro id
    rw [mem_ids_afterCalls]
    simp [empty]
  refine {
    profile?_eq := ?_
    stored := ?_
    rules_nodup := hsound.rules_nodup
    rules_eq := ?_
    mem_ids := hactive
    upsert := ?_
    add := ?_
    deactivate := ?_
    unchanged := fun c hc => afterCall_of_answer_ne hc
    rulebook := ?_
    noRulebook := ?_ }
  · intro id
    rw [profile?_afterCalls]
    exact Option.or_none
  · intro p hp
    exact ⟨hsound.valid p hp, (profile?_eq_some hsound.profiles_nodup).mpr ⟨hp, rfl⟩⟩
  · rw [rules_afterCalls]
    rfl
  · intro p why
    rw [answer, map_eq_error]
    exact upsertProfile_eq_error
  · intro r why
    rw [answer, map_eq_error, ← hactive]
    exact addRule_eq_error
  · intro id
    exact ⟨_, rfl, deactivateRule_snd.trans (hactive id)⟩
  · intro book
    rw [Store.rulebook, mapError_eq_ok]
    exact Rulebook.ofRules_eq_ok_iff_split
  · intro why
    rw [Store.rulebook, mapError_eq_error]
    simp only [Rulebook.ofRules_eq_error_iff]
    constructor
    · rintro ⟨cause, ⟨hnone, rfl⟩ | ⟨first, second, rest, hrules, rfl⟩, rfl⟩
      · exact .inl ⟨hnone, rfl⟩
      · exact .inr ⟨first, second, rest, hrules, rfl⟩
    · rintro (⟨hnone, rfl⟩ | ⟨first, second, rest, hrules, rfl⟩)
      · exact ⟨_, .inl ⟨hnone, rfl⟩, rfl⟩
      · exact ⟨_, .inr ⟨first, second, rest, hrules, rfl⟩, rfl⟩

/-- A rule that comes back stands behind the others. -/
example :
    let card : Rule := ⟨⟨"card"⟩, false, 5, ⟨"basic"⟩, Criteria.any⟩
    let wallet : Rule := ⟨⟨"wallet"⟩, false, 5, ⟨"basic"⟩, Criteria.any⟩
    (empty.afterCalls [.add card, .add wallet, .deactivate card.id, .add card]).rules =
      [wallet, card] := by decide

end SpendingLimits.Store
