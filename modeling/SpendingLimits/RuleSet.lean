import SpendingLimits.Store

namespace SpendingLimits

/-- The profiles and rules of one document. -/
structure RuleSet where
  profiles : List Profile
  rules : List Rule
deriving DecidableEq

/-- Why a rule set makes no store. -/
inductive RuleSetFault where
  | invalid (why : DomainFault)
  | refused (why : StoreFault)
deriving DecidableEq

def RuleSetFault.message : RuleSetFault → String
  | invalid why => "Invalid rule set: " ++ why.message
  | refused why => why.message

namespace RuleSet

/-- Checks profiles in order: each must be valid and have an identifier that none before it has. -/
def checkProfiles (seen : List ProfileId) : List Profile → Except DomainFault Unit
  | [] => .ok ()
  | p :: ps => do
    p.validate
    if p.id ∈ seen then .error (.validation (.duplicateProfile p.id))
    else checkProfiles (p.id :: seen) ps

/-- Checks rules in order: each must have an identifier that none before it has, and name a profile
of the rule set. -/
def checkRules (profiles : List ProfileId) (seen : List RuleId) :
    List Rule → Except DomainFault Unit
  | [] => .ok ()
  | r :: rs =>
    if r.id ∈ seen then .error (.validation (.duplicateRule r.id))
    else if r.profile ∈ profiles then checkRules profiles (r.id :: seen) rs
    else .error (.profileNotFound r.profile)

/-- The rulebook of a rule set without faults, or the first fault. -/
def validate (s : RuleSet) : Except DomainFault Rulebook := do
  checkProfiles [] s.profiles
  checkRules (s.profiles.map (·.id)) [] s.rules
  Rulebook.ofRules s.rules

/-- The store that holds a rule set. It is made only of a rule set that is in order as a whole. -/
def toStore (s : RuleSet) : Except RuleSetFault Store := do
  let _ ← s.validate.mapError .invalid
  let store ← (s.profiles.foldlM Store.upsertProfile Store.empty).mapError .refused
  (s.rules.foldlM Store.addRule store).mapError .refused

end RuleSet

end SpendingLimits
