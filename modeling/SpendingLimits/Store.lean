import SpendingLimits.Profile
import SpendingLimits.Rulebook

namespace SpendingLimits

/-- Profiles, of each identifier the last valid one, and the active rules in the order in which they
were added. -/
structure Store where
  profiles : List Profile
  rules : List Rule
deriving DecidableEq

namespace Store

def empty : Store := ⟨[], []⟩

/-- The profile with an identifier. -/
def profile? (s : Store) (id : ProfileId) : Option Profile := s.profiles.find? (·.id == id)

/-- Stores a profile in place of the one with its identifier. -/
def upsertProfile (s : Store) (p : Profile) : Except StoreFault Store :=
  match p.validate with
  | .ok () => .ok { s with profiles := s.profiles.filter (·.id != p.id) ++ [p] }
  | .error why => .error (.domain why)

/-- Adds a rule behind the others, unless its identifier is active. -/
def addRule (s : Store) (r : Rule) : Except StoreFault Store :=
  if s.rules.any (·.id == r.id) then .error (.conflict (.ruleExists r.id))
  else .ok { s with rules := s.rules ++ [r] }

/-- Takes a rule out; says whether it was active. -/
def deactivateRule (s : Store) (id : RuleId) : Store × Bool :=
  let rules := s.rules.filter (·.id != id)
  ({ s with rules }, rules.length != s.rules.length)

/-- The rulebook of the active rules. -/
def rulebook (s : Store) : Except StoreFault Rulebook :=
  (Rulebook.ofRules s.rules).mapError .domain

end Store

end SpendingLimits
