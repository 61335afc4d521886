import Budlum.Core.Primitives

/-!
# The name service

Names are leased until an epoch; after that the owner alone may take the name back during a grace
period.  A full registry evicts the first name whose grace period is over.
-/

namespace Budlum

open Except (ensure ofOption)

structure NameRecord where
  name : String
  owner : Address
  expiresAt : UInt64
  resolver : Option Address
  address : Option Address
  consensusDomainId : Option UInt32
  storageRoot : Option Hash32
  storageDomainId : Option UInt32
  storageRootHeight : Option UInt64
  contentId : Option ContentId
  subdomains : OrdMap String Address
  deriving DecidableEq

/-- A fresh record, resolving to its owner. -/
def NameRecord.new (name : String) (owner : Address) (expiresAt : UInt64) : NameRecord :=
  ⟨name, owner, expiresAt, none, some owner, none, none, none, none, none, ∅⟩

/-- Why the name service refuses an operation. -/
inductive BnsError where
  | invalidName
  | nameTaken
  | notOwner
  | expired
  deriving DecidableEq, Repr

/-- The printed form of a name-service error. -/
def BnsError.display : BnsError → String
  | invalidName => "Name too short or long"
  | nameTaken => "Name already taken"
  | notOwner => "Not the owner"
  | expired => "Name expired"

/-- The name service. -/
structure BnsRegistry where
  names : OrdMap String NameRecord := ∅
  baseCost : UInt64 := 100
  deriving Inhabited, DecidableEq

namespace BnsRegistry

/-- Epochs after expiry during which only the owner may register the name again. -/
def gracePeriod : UInt64 := 3000

/-- Most names held. -/
def maxNames : Nat := 100000

def maxSubdomainsPerName : Nat := 1000

variable (b : BnsRegistry)

def calculateCost (name : String) (duration : UInt64) : UInt64 :=
  let multiplier : UInt64 :=
    if 1 ≤ name.length ∧ name.length ≤ 3 then 100
    else if 4 ≤ name.length ∧ name.length ≤ 6 then 10
    else 1
  let base := (b.baseCost.saturatingMul multiplier).saturatingMul duration
  if multiplier ≥ 10 ∨ duration ≥ 100 then base.saturatingMul 2 else base

/-- The name is held by somebody else, or still leased. -/
def isTaken (record : NameRecord) (owner : Address) (currentEpoch : UInt64) : Bool :=
  decide (currentEpoch < record.expiresAt) ||
    decide (currentEpoch < record.expiresAt.saturatingAdd gracePeriod ∧ record.owner ≠ owner)

/-- The first name whose grace period is over. -/
def evictable (currentEpoch : UInt64) : Option String :=
  (b.names.entries.find? fun e =>
    decide (e.2.expiresAt.saturatingAdd gracePeriod < currentEpoch)).map Prod.fst

def register (name : String) (owner : Address) (currentEpoch duration : UInt64) :
    Except (Fault BnsError) BnsRegistry := do
  ensure (decide (3 ≤ name.length ∧ name.length ≤ 32)) (.fail .invalidName)
  ensure (decide (duration ≠ 0)) (.fail .invalidName)
  ensure (!(b.names.get name).any fun r => isTaken r owner currentEpoch) (.fail .nameTaken)
  let names ←
    if b.names.size ≥ maxNames then
      match b.evictable currentEpoch with
      | some key => .ok (b.names.erase key)
      | none => .error (.fail .nameTaken)
    else .ok b.names
  let expiresAt ← ofOption (currentEpoch.checkedAdd duration) .panic
  return { b with names := names.insert name (NameRecord.new name owner expiresAt) }

/-- Point a label under a name at an account. -/
def registerSubdomain (parentName subLabel : String) (owner caller : Address) :
    Except BnsError BnsRegistry := do
  let parent ← ofOption (b.names.get parentName) .invalidName
  ensure (decide (parent.owner = caller)) .notOwner
  ensure (decide (parent.subdomains.size < maxSubdomainsPerName)) .invalidName
  let updated := { parent with subdomains := parent.subdomains.insert subLabel owner }
  return { b with names := b.names.insert parentName updated }

def setContent (name : String) (owner : Address) (cid : ContentId) :
    Except BnsError BnsRegistry := do
  let record ← ofOption (b.names.get name) .invalidName
  ensure (decide (record.owner = owner)) .notOwner
  return { b with names := b.names.insert name { record with contentId := some cid } }

def setStorage (name : String) (caller : Address) (storageRoot : Hash32) (storageDomainId : UInt32)
    (currentEpoch : UInt64) : Except BnsError BnsRegistry := do
  let record ← ofOption (b.names.get name) .invalidName
  ensure (decide (record.owner = caller)) .notOwner
  ensure (decide (currentEpoch < record.expiresAt)) .expired
  let updated := { record with
    storageRoot := some storageRoot
    storageDomainId := some storageDomainId
    storageRootHeight := some currentEpoch }
  return { b with names := b.names.insert name updated }

end BnsRegistry

end Budlum
