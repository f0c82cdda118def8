import SpendingLimits.Proofs.Outcome
import SpendingLimits.RuleSet

namespace SpendingLimits

/-- Identifiers that differ from each other and from those seen before. -/
def AllNew {K : Type} (seen keys : List K) : Prop := keys.Nodup ∧ ∀ k ∈ keys, k ∉ seen

section AllNew

variable {K : Type} {seen keys : List K} {k : K}

@[simp] theorem allNew_nil : AllNew seen [] := by
  simp [AllNew]

theorem allNew_cons : AllNew seen (k :: keys) ↔ k ∉ seen ∧ AllNew (k :: seen) keys := by
  rw [AllNew, AllNew, List.nodup_cons, List.forall_mem_cons]
  constructor
  · intro h
    obtain ⟨⟨hk, hnodup⟩, hseen, hkeys⟩ := h
    refine ⟨hseen, hnodup, ?_⟩
    intro j hj
    rw [List.mem_cons, not_or]
    exact ⟨fun heq => hk (heq ▸ hj), hkeys j hj⟩
  · intro h
    obtain ⟨hseen, hnodup, hkeys⟩ := h
    refine ⟨⟨fun hk => hkeys k hk List.mem_cons_self, hnodup⟩, hseen, ?_⟩
    intro j hj hmem
    exact hkeys j hj (List.mem_cons_of_mem k hmem)

theorem allNew_append_singleton : AllNew (seen ++ [k]) keys ↔ AllNew (k :: seen) keys := by
  have hmem (j : K) : j ∈ seen ++ [k] ↔ j ∈ k :: seen := by
    rw [List.mem_append, List.mem_singleton, List.mem_cons, or_comm]
  simp only [AllNew, hmem]

theorem allNew_empty : AllNew [] keys ↔ keys.Nodup := by
  simp [AllNew]

end AllNew

namespace Store

theorem upsertProfile_of_new {s : Store} {p : Profile} (hvalid : p.validate = .ok ())
    (hnew : p.id ∉ s.profiles.map (·.id)) :
    s.upsertProfile p = .ok { s with profiles := s.profiles ++ [p] } := by
  have hkeep : s.profiles.filter (·.id != p.id) = s.profiles := by
    rw [List.filter_eq_self]
    intro q hq
    rw [bne_iff_ne]
    intro heq
    exact hnew (List.mem_map.mpr ⟨q, hq, heq⟩)
  rw [upsertProfile, hvalid, hkeep]

theorem addRule_of_new {s : Store} {r : Rule} (hnew : r.id ∉ s.rules.map (·.id)) :
    s.addRule r = .ok { s with rules := s.rules ++ [r] } := by
  apply if_neg
  intro hany
  obtain ⟨q, hq, heq⟩ := List.any_eq_true.mp hany
  exact hnew (List.mem_map.mpr ⟨q, hq, beq_iff_eq.mp heq⟩)

theorem foldlM_upsertProfile {ps : List Profile} {s : Store}
    (hvalid : ∀ p ∈ ps, p.validate = .ok ())
    (hnew : AllNew (s.profiles.map (·.id)) (ps.map (·.id))) :
    ps.foldlM upsertProfile s = .ok { s with profiles := s.profiles ++ ps } := by
  induction ps generalizing s with
  | nil => rw [List.append_nil]; rfl
  | cons p ps ih =>
    obtain ⟨hp, hps⟩ := List.forall_mem_cons.mp hvalid
    rw [List.map_cons, allNew_cons] at hnew
    obtain ⟨hfresh, hrest⟩ := hnew
    rw [List.foldlM_cons, upsertProfile_of_new hp hfresh]
    refine (ih hps ?_).trans ?_
    · rw [List.map_append]
      exact allNew_append_singleton.mpr hrest
    · rw [List.append_assoc]
      rfl

theorem foldlM_addRule {rs : List Rule} {s : Store}
    (hnew : AllNew (s.rules.map (·.id)) (rs.map (·.id))) :
    rs.foldlM addRule s = .ok { s with rules := s.rules ++ rs } := by
  induction rs generalizing s with
  | nil => rw [List.append_nil]; rfl
  | cons r rs ih =>
    rw [List.map_cons, allNew_cons] at hnew
    obtain ⟨hfresh, hrest⟩ := hnew
    rw [List.foldlM_cons, addRule_of_new hfresh]
    refine (ih ?_).trans ?_
    · rw [List.map_append]
      exact allNew_append_singleton.mpr hrest
    · rw [List.append_assoc]
      rfl

end Store

namespace RuleSet

variable {s : RuleSet} {book : Rulebook} {store : Store}

theorem checkProfiles_eq_ok {seen : List ProfileId} {ps : List Profile} :
    checkProfiles seen ps = .ok () ↔
      (∀ p ∈ ps, p.validate = .ok ()) ∧ AllNew seen (ps.map (·.id)) := by
  induction ps generalizing seen with
  | nil => simp [checkProfiles]
  | cons p ps ih =>
    have hstep : checkProfiles seen (p :: ps) = .ok () ↔
        p.validate = .ok () ∧ p.id ∉ seen ∧ checkProfiles (p.id :: seen) ps = .ok () := by
      rw [checkProfiles, check_bind_eq_ok]
      by_cases hseen : p.id ∈ seen <;> simp [hseen]
    rw [hstep, ih, List.map_cons, allNew_cons, List.forall_mem_cons]
    simp only [and_assoc, and_left_comm]

theorem checkRules_eq_ok {profiles : List ProfileId} {seen : List RuleId} {rs : List Rule} :
    checkRules profiles seen rs = .ok () ↔
      (∀ r ∈ rs, r.profile ∈ profiles) ∧ AllNew seen (rs.map (·.id)) := by
  induction rs generalizing seen with
  | nil => simp [checkRules]
  | cons r rs ih =>
    have hstep : checkRules profiles seen (r :: rs) = .ok () ↔
        r.profile ∈ profiles ∧ r.id ∉ seen ∧ checkRules profiles (r.id :: seen) rs = .ok () := by
      rw [checkRules]
      by_cases hseen : r.id ∈ seen <;> by_cases hknown : r.profile ∈ profiles <;>
        simp [hseen, hknown]
    rw [hstep, ih, List.map_cons, allNew_cons, List.forall_mem_cons]
    simp only [and_assoc, and_left_comm]

/-- A rule set without faults, and the rulebook of its rules. -/
structure WellFormed (s : RuleSet) (book : Rulebook) : Prop where
  valid : ∀ p ∈ s.profiles, p.validate = .ok ()
  profiles_nodup : (s.profiles.map (·.id)).Nodup
  rules_nodup : (s.rules.map (·.id)).Nodup
  known : ∀ r ∈ s.rules, r.profile ∈ s.profiles.map (·.id)
  rulebook : Rulebook.ofRules s.rules = .ok book

theorem validate_eq_ok : s.validate = .ok book ↔ s.WellFormed book := by
  rw [validate, check_bind_eq_ok, check_bind_eq_ok, checkProfiles_eq_ok, checkRules_eq_ok,
    allNew_empty, allNew_empty]
  constructor
  · intro h
    obtain ⟨⟨hvalid, hprofiles⟩, ⟨hknown, hrules⟩, hbook⟩ := h
    exact ⟨hvalid, hprofiles, hrules, hknown, hbook⟩
  · intro h
    exact ⟨⟨h.valid, h.profiles_nodup⟩, ⟨h.known, h.rules_nodup⟩, h.rulebook⟩

theorem WellFormed.toStore (h : s.WellFormed book) : s.toStore = .ok ⟨s.profiles, s.rules⟩ := by
  have hprofiles : s.profiles.foldlM Store.upsertProfile Store.empty = .ok ⟨s.profiles, []⟩ :=
    Store.foldlM_upsertProfile h.valid (allNew_empty.mpr h.profiles_nodup)
  have hrules : s.rules.foldlM Store.addRule ⟨s.profiles, []⟩ = .ok ⟨s.profiles, s.rules⟩ :=
    Store.foldlM_addRule (allNew_empty.mpr h.rules_nodup)
  simp only [RuleSet.toStore, bind_eq_ok, mapError_eq_ok]
  exact ⟨book, validate_eq_ok.mpr h, _, hprofiles, hrules⟩

/-- A store is made of a rule set exactly when it is well formed, and holds just what is in it. -/
theorem toStore_eq_ok :
    s.toStore = .ok store ↔ (∃ book, s.WellFormed book) ∧ store = ⟨s.profiles, s.rules⟩ := by
  constructor
  · intro h
    have hsteps := h
    rw [RuleSet.toStore, bind_eq_ok] at hsteps
    obtain ⟨book, hbook, _⟩ := hsteps
    have hwell : s.WellFormed book := validate_eq_ok.mp (mapError_eq_ok.mp hbook)
    rw [hwell.toStore] at h
    exact ⟨⟨book, hwell⟩, (Except.ok.inj h).symm⟩
  · intro h
    obtain ⟨⟨book, hwell⟩, rfl⟩ := h
    exact hwell.toStore

end RuleSet

end SpendingLimits
