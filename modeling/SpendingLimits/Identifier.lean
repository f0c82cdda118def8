import SpendingLimits.Uuid

namespace SpendingLimits

structure AccountId where
  uuid : Uuid
deriving DecidableEq

structure EntryId where
  uuid : Uuid
deriving DecidableEq

structure ProfileId where
  text : String
deriving DecidableEq

structure RuleId where
  text : String
deriving DecidableEq

def AccountId.read? (cs : List Char) : Option AccountId := (Uuid.read? cs).map AccountId.mk

def EntryId.read? (cs : List Char) : Option EntryId := (Uuid.read? cs).map EntryId.mk

def AccountId.text (a : AccountId) : String := a.uuid.text

def EntryId.text (e : EntryId) : String := e.uuid.text

end SpendingLimits
