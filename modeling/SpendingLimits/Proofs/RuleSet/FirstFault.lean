import Mathlib.Tactic.SplitIfs
import SpendingLimits.Proofs.RuleSet.Loading
import SpendingLimits.Proofs.Rulebook.Resolution

namespace SpendingLimits

section Lists

variable {A F : Type}

/-- A fault that is there if something is so. -/
def faultIf (bad : Prop) [Decidable bad] (why : F) : List F := if bad then [why] else []

theorem head?_faultIf (bad : Prop) [Decidable bad] (why : F) :
    (faultIf bad why).head? = if bad then some why else none := by
  rw [faultIf]
  split_ifs <;> rfl

/-- The faults of elements that come behind earlier ones, each with all that are in front of it. -/
def faultsBehind (faults : List A → A → List F) (earlier as : List A) : List F :=
  (as.mapIdx fun i a => faults (earlier ++ as.take i) a).flatten

theorem faultsBehind_cons (faults : List A → A → List F) (earlier : List A) (a : A) (as : List A) :
    faultsBehind faults earlier (a :: as) =
      faults earlier a ++ faultsBehind faults (earlier ++ [a]) as := by
  simp [faultsBehind, List.mapIdx_cons]

end Lists

namespace Profile

/-- What is wrong with a profile on its own. -/
def faults (p : Profile) : List ValidationFault :=
  faultIf (Text.isBlankText p.name = true) (.unnamedProfile p.id) ++
    faultIf (p.minTransaction.units = 0 ∨ p.maxTransaction.units = 0) (.zeroBound p.id) ++
    faultIf (p.maxTransaction < p.minTransaction)
      (.crossedBounds p.id p.minTransaction p.maxTransaction)

theorem fault?_validate (p : Profile) :
    fault? p.validate = p.faults.head?.map .validation := by
  have hzero : (p.minTransaction.isZero || p.maxTransaction.isZero) = true ↔
      p.minTransaction.units = 0 ∨ p.maxTransaction.units = 0 := by
    rw [Bool.or_eq_true, Amount.isZero_iff_units, Amount.isZero_iff_units]
  rw [faults, List.head?_append, List.head?_append, head?_faultIf, head?_faultIf, head?_faultIf,
    validate]
  simp only [hzero]
  split_ifs <;> rfl

end Profile

namespace RuleSet

/-- What is wrong with a profile behind earlier ones. -/
def profileFaults (earlier : List Profile) (p : Profile) : List DomainFault :=
  p.faults.map .validation ++
    faultIf (p.id ∈ earlier.map (·.id)) (.validation (.duplicateProfile p.id))

/-- What is wrong with a rule behind earlier ones, given the identifiers of the profiles. -/
def ruleFaults (profiles : List ProfileId) (earlier : List Rule) (r : Rule) : List DomainFault :=
  faultIf (r.id ∈ earlier.map (·.id)) (.validation (.duplicateRule r.id)) ++
    faultIf (r.profile ∉ profiles) (.profileNotFound r.profile)

/-- What is wrong with the defaults among rules: there must be one and no second one. -/
def defaultFaults (rules : List Rule) : List DomainFault :=
  match rules.filter (·.isDefault) with
  | [] => [.rulebook .noDefault]
  | [_] => []
  | first :: second :: _ => [.rulebook (.severalDefaults first.id second.id)]

/-- All that is wrong with a rule set, in order. -/
def faults (s : RuleSet) : List DomainFault :=
  faultsBehind profileFaults [] s.profiles ++
    faultsBehind (ruleFaults (s.profiles.map (·.id))) [] s.rules ++ defaultFaults s.rules

/-- What is seen along a list are the keys of the elements in front. -/
theorem mem_seen_cons {A K : Type} {key : A → K} {seen : List K} {earlier : List A}
    (h : ∀ k, k ∈ seen ↔ k ∈ earlier.map key) (a : A) (k : K) :
    k ∈ key a :: seen ↔ k ∈ (earlier ++ [a]).map key := by
  rw [List.mem_cons, h, List.map_append, List.mem_append, List.map_singleton, List.mem_singleton,
    or_comm]

theorem fault?_checkProfiles {seen : List ProfileId} {earlier : List Profile}
    (hseen : ∀ id, id ∈ seen ↔ id ∈ earlier.map Profile.id) (ps : List Profile) :
    fault? (checkProfiles seen ps) = (faultsBehind profileFaults earlier ps).head? := by
  induction ps generalizing seen earlier with
  | nil => rfl
  | cons p ps ih =>
    have hrest := ih (mem_seen_cons hseen p)
    have hstep : fault? (checkProfiles seen (p :: ps)) = (fault? p.validate).or
        (if p.id ∈ seen then some (.validation (.duplicateProfile p.id))
          else fault? (checkProfiles (p.id :: seen) ps)) := by
      refine fault?_bind fun _ _ => ?_
      split_ifs <;> rfl
    rw [hstep, hrest, p.fault?_validate, faultsBehind_cons, List.head?_append, profileFaults,
      List.head?_append, List.head?_map, head?_faultIf, Option.or_assoc]
    simp only [hseen]
    split_ifs <;> rfl

theorem fault?_checkRules {profiles : List ProfileId} {seen : List RuleId} {earlier : List Rule}
    (hseen : ∀ id, id ∈ seen ↔ id ∈ earlier.map Rule.id) (rs : List Rule) :
    fault? (checkRules profiles seen rs) =
      (faultsBehind (ruleFaults profiles) earlier rs).head? := by
  induction rs generalizing seen earlier with
  | nil => rfl
  | cons r rs ih =>
    have hrest := ih (mem_seen_cons hseen r)
    rw [faultsBehind_cons, List.head?_append, ← hrest, ruleFaults, List.head?_append,
      head?_faultIf, head?_faultIf, checkRules]
    simp only [← hseen]
    split_ifs <;> rfl

theorem fault?_ofRules (rules : List Rule) :
    fault? (Rulebook.ofRules rules) = (defaultFaults rules).head? := by
  rw [Rulebook.ofRules, defaultFaults]
  cases rules.filter (·.isDefault) with
  | nil => rfl
  | cons first rest => cases rest <;> rfl

/-- The check of a rule set reports the first of its faults. -/
theorem fault?_validate (s : RuleSet) : fault? s.validate = s.faults.head? := by
  have hprofiles : fault? (checkProfiles [] s.profiles) =
      (faultsBehind profileFaults [] s.profiles).head? :=
    fault?_checkProfiles (by simp) s.profiles
  have hrules : fault? (checkRules (s.profiles.map (·.id)) [] s.rules) =
      (faultsBehind (ruleFaults (s.profiles.map (·.id))) [] s.rules).head? :=
    fault?_checkRules (by simp) s.rules
  rw [faults, List.head?_append, List.head?_append, Option.or_assoc, ← fault?_ofRules, ← hrules,
    ← hprofiles]
  exact fault?_bind fun _ _ => fault?_bind fun _ _ => rfl

/-- A rule set is accepted exactly when its profiles are valid, no identifier of a profile or of a
rule comes twice, every rule names one of the profiles and one rule alone is a default. If it is not
accepted, what is reported is the first of its faults in their order. -/
theorem validate_specified (s : RuleSet) :
    ((∃ book, s.validate = .ok book) ↔
      (∀ p ∈ s.profiles, p.validate = .ok ()) ∧ (s.profiles.map (·.id)).Nodup ∧
        (s.rules.map (·.id)).Nodup ∧ (∀ r ∈ s.rules, r.profile ∈ s.profiles.map (·.id)) ∧
        s.rules.countP (·.isDefault) = 1) ∧
    ∀ why, s.validate = .error why ↔ s.faults.head? = some why := by
  constructor
  · rw [← Rulebook.exists_ofRules_iff]
    constructor
    · rintro ⟨book, hbook⟩
      have hwell : s.WellFormed book := validate_eq_ok.mp hbook
      exact ⟨hwell.valid, hwell.profiles_nodup, hwell.rules_nodup, hwell.known, book,
        hwell.rulebook⟩
    · rintro ⟨hvalid, hprofiles, hrules, hknown, book, hbook⟩
      exact ⟨book, validate_eq_ok.mpr ⟨hvalid, hprofiles, hrules, hknown, hbook⟩⟩
  · intro why
    rw [← fault?_eq_some, fault?_validate]

/-- A rule set with a fault of every kind but a missing default, some of them twice, and one without
faults. -/
theorem validate_specified_of_many_faults :
    let profile (id name : String) (low high : UInt64) : Profile :=
      ⟨⟨id⟩, name, Amount.ofWhole low, Amount.ofWhole high, none, none, none, Amount.zero⟩
    let rule (id profile : String) (isDefault : Bool) : Rule :=
      ⟨⟨id⟩, isDefault, 0, ⟨profile⟩, Criteria.any⟩
    let faulty : RuleSet := ⟨[profile "basic" "Basic" 1 500, profile "basic" " " 2 0],
      [rule "a" "gold" true, rule "a" "basic" true, rule "a" "silver" false]⟩
    let sound : RuleSet :=
      ⟨[profile "basic" "Basic" 1 500], [rule "a" "basic" true, rule "b" "basic" false]⟩
    faulty.faults = [.validation (.unnamedProfile ⟨"basic"⟩), .validation (.zeroBound ⟨"basic"⟩),
      .validation (.crossedBounds ⟨"basic"⟩ (Amount.ofWhole 2) (Amount.ofWhole 0)),
      .validation (.duplicateProfile ⟨"basic"⟩), .profileNotFound ⟨"gold"⟩,
      .validation (.duplicateRule ⟨"a"⟩), .validation (.duplicateRule ⟨"a"⟩),
      .profileNotFound ⟨"silver"⟩, .rulebook (.severalDefaults ⟨"a"⟩ ⟨"a"⟩)] ∧
    faulty.validate = .error (.validation (.unnamedProfile ⟨"basic"⟩)) ∧
    ∃ book, sound.validate = .ok book := by
  intro profile rule faulty sound
  have hfaults : faulty.faults.head? = some (.validation (.unnamedProfile ⟨"basic"⟩)) := by decide
  have hvalid : ∀ p ∈ sound.profiles, p.validate = .ok () := by
    intro p hp
    obtain rfl := List.mem_singleton.mp hp
    cbv
  refine ⟨by decide, ((validate_specified faulty).2 _).mpr hfaults,
    (validate_specified sound).1.mpr ⟨hvalid, by decide⟩⟩

end RuleSet

end SpendingLimits
