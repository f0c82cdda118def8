import Mathlib.Data.List.Nodup
import SpendingLimits.Proofs.RuleSet.Loading
import SpendingLimits.Proofs.Rulebook.Choice

namespace SpendingLimits

namespace Store

/-- The store after a call that stores a profile; a profile that is refused changes nothing. -/
def afterUpsert (s : Store) (p : Profile) : Store := (s.upsertProfile p).toOption.getD s

def afterUpserts (s : Store) (ps : List Profile) : Store := ps.foldl afterUpsert s

structure Intact (s : Store) (book : Rulebook) : Prop where
  rulebook : s.rulebook = .ok book
  valid : ∀ p ∈ s.profiles, p.validate = .ok ()
  known : ∀ r ∈ s.rules, ∃ p, s.profile? r.profile = some p

/-- The profile that applies at a total: the one stored under the identifier in the rule that is
chosen. -/
structure Applies (s : Store) (book : Rulebook) (context : Context) (allTime : Amount)
    (p : Profile) : Prop where
  stored : s.profile? (book.choose context allTime).profile = some p
  id_eq : p.id = (book.choose context allTime).profile
  valid : p.validate = .ok ()

variable {s : Store} {book : Rulebook} {p : Profile}

theorem mem_of_profile? {id : ProfileId} (h : s.profile? id = some p) :
    p ∈ s.profiles ∧ p.id = id := by
  rw [profile?] at h
  have hid := List.find?_some h
  exact ⟨List.mem_of_find?_eq_some h, by simpa using hid⟩

theorem exists_profile? {id : ProfileId} (h : id ∈ s.profiles.map (·.id)) :
    ∃ p, s.profile? id = some p := by
  obtain ⟨q, hq, hid⟩ := List.mem_map.mp h
  rw [← Option.isSome_iff_exists, profile?, List.find?_isSome]
  exact ⟨q, hq, beq_iff_eq.mpr hid⟩

/-- Where no identifier is taken twice, a profile is found under its own identifier. -/
theorem profile?_eq_some {id : ProfileId} (h : (s.profiles.map (·.id)).Nodup) :
    s.profile? id = some p ↔ p ∈ s.profiles ∧ p.id = id := by
  constructor
  · exact mem_of_profile?
  · rintro ⟨hp, rfl⟩
    obtain ⟨q, hq⟩ := exists_profile? (List.mem_map_of_mem hp)
    obtain ⟨hmem, hid⟩ := mem_of_profile? hq
    rw [hq, List.inj_on_of_nodup_map h hmem hp hid]

theorem afterUpsert_of_valid (s : Store) (h : p.validate = .ok ()) :
    s.afterUpsert p = { s with profiles := s.profiles.filter (·.id != p.id) ++ [p] } := by
  rw [afterUpsert, upsertProfile, h]
  rfl

theorem afterUpsert_of_invalid (s : Store) {why : DomainFault} (h : p.validate = .error why) :
    s.afterUpsert p = s := by
  rw [afterUpsert, upsertProfile, h]
  rfl

theorem profile?_afterUpsert (s : Store) (h : p.validate = .ok ()) (id : ProfileId) :
    (s.afterUpsert p).profile? id = if p.id = id then some p else s.profile? id := by
  rw [afterUpsert_of_valid s h, profile?, List.find?_append]
  by_cases hid : p.id = id
  · have hnone : (s.profiles.filter (·.id != p.id)).find? (·.id == id) = none := by
      rw [List.find?_eq_none]
      intro q hq
      have hne := (List.mem_filter.mp hq).2
      rw [hid] at hne
      simpa using hne
    rw [hnone, if_pos hid]
    simp [hid]
  · have hsame : (s.profiles.filter (·.id != p.id)).find? (·.id == id) =
        s.profiles.find? (·.id == id) := by
      rw [List.find?_filter]
      congr 1
      funext q
      by_cases hq : q.id = id
      · simp [hq, Ne.symm hid]
      · simp [hq]
    rw [hsame, if_neg hid, profile?]
    simp [hid]

theorem Intact.afterUpsert (h : s.Intact book) (p : Profile) : (s.afterUpsert p).Intact book := by
  cases hvalid : p.validate with
  | error why =>
    rw [afterUpsert_of_invalid s hvalid]
    exact h
  | ok =>
    have hrules : (s.afterUpsert p).rules = s.rules := by rw [afterUpsert_of_valid s hvalid]
    refine ⟨?_, ?_, ?_⟩
    · rw [Store.rulebook, hrules]
      exact h.rulebook
    · intro q hq
      rw [afterUpsert_of_valid s hvalid, List.mem_append, List.mem_singleton] at hq
      rcases hq with hq | rfl
      · exact h.valid q (List.mem_filter.mp hq).1
      · exact hvalid
    · intro r hr
      rw [hrules] at hr
      rw [profile?_afterUpsert s hvalid]
      by_cases hid : p.id = r.profile
      · exact ⟨p, if_pos hid⟩
      · rw [if_neg hid]
        exact h.known r hr

theorem Intact.afterUpserts (h : s.Intact book) (ps : List Profile) :
    (s.afterUpserts ps).Intact book := by
  induction ps generalizing s with
  | nil => exact h
  | cons p ps ih => exact ih (h.afterUpsert p)

/-- No rule of an intact store can be chosen without a profile. -/
theorem Intact.exists_applies (h : s.Intact book) (context : Context) (allTime : Amount) :
    ∃ p, s.Applies book context allTime p := by
  have hrules : Rulebook.ofRules s.rules = .ok book := mapError_eq_ok.mp h.rulebook
  obtain ⟨p, hp⟩ := h.known _ (Rulebook.choose_mem hrules context allTime)
  obtain ⟨hmem, hid⟩ := mem_of_profile? hp
  exact ⟨p, hp, hid, h.valid p hmem⟩

end Store

theorem RuleSet.WellFormed.intact {set : RuleSet} {book : Rulebook} (h : set.WellFormed book) :
    Store.Intact ⟨set.profiles, set.rules⟩ book := by
  refine ⟨mapError_eq_ok.mpr h.rulebook, h.valid, ?_⟩
  intro r hr
  exact Store.exists_profile? (h.known r hr)

end SpendingLimits
