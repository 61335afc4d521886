import Budlum.Storage.Dictionary
import Budlum.Storage.Manifest

/-!
# The storage registry

Deals, the challenges against them and the tickets for slots that lost their operator.  A slot is a
replica of a shard of an object; a deal is one operator's promise to keep it for some epochs.

Block application reads and writes only the deals: a burned token's content is pruned, and the
operators of active deals share the boosts of a block.
-/

namespace Budlum

/-! ### Deals -/

inductive DealStatus where
  | active
  | slashed
  | expired
  deriving DecidableEq, Repr

/-- The price of a deal. -/
structure StorageEconomicsParams where
  operatorBond : UInt64
  feePerByteEpoch : UInt64
  deriving DecidableEq, Repr

def feeRateScale : Nat := 1000000000

/-- The largest 128-bit word. -/
def u128Max : Nat := 2 ^ 128 - 1

/-- The fee of a number of epochs, rounded up; the products saturate at 128 bits. -/
def StorageEconomicsParams.totalFee (p : StorageEconomicsParams) (shardBytes epochs : UInt64) :
    UInt64 :=
  let perEpoch := min (p.feePerByteEpoch.toNat * shardBytes.toNat) u128Max
  let scaled := min (perEpoch * epochs.toNat) u128Max
  UInt64.clampNat ((scaled + (feeRateScale - 1)) / feeRateScale)

/-- One replica of one shard, kept by one operator. -/
structure StorageDeal where
  dealId : UInt64
  manifestId : ContentId
  shardId : ContentId
  operator : Address
  economics : StorageEconomicsParams
  shardBytes : UInt64
  dealStartEpoch : UInt64
  dealEndEpoch : UInt64
  status : DealStatus
  domainId : UInt32 := 0
  replicaIndex : UInt8 := 0
  merkleProof : Option Bytes := none
  storageRoot : Option Hash32 := none
  merkleDepth : UInt8 := 64
  deriving DecidableEq, Repr

/-- A place a shard is kept in: the object, the shard and the number of the replica. -/
structure Slot where
  manifestId : ContentId
  shardId : ContentId
  replicaIndex : UInt8
  deriving DecidableEq, Repr

namespace StorageDeal

variable (d : StorageDeal)

def isActive : Bool := decide (d.status = .active)

def totalFee (epochs : UInt64) : UInt64 := d.economics.totalFee d.shardBytes epochs

/-- The slot a deal fills. -/
def slot : Slot := ⟨d.manifestId, d.shardId, d.replicaIndex⟩

end StorageDeal

/-! ### Challenges -/

/-- A question about a range of a shard's bytes, to be answered before a deadline. -/
structure RetrievalChallenge where
  challengeId : UInt64
  dealId : UInt64
  shardId : ContentId
  byteStart : UInt64
  byteEnd : UInt64
  challengeEpoch : UInt64
  deadlineEpoch : UInt64
  opener : Address
  openerBond : UInt64
  deriving DecidableEq, Repr

inductive ChallengeOutcome where
  | answered
  | mismatched
  | missed
  deriving DecidableEq, Repr

structure ChallengeResult where
  challengeId : UInt64
  dealId : UInt64
  outcome : ChallengeOutcome
  finalizedEpoch : UInt64
  slashedBond : UInt64
  deriving DecidableEq, Repr

/-! ### Tickets -/

inductive ReallocationStatus where
  | pending
  | activeReplacement
  | underReplicated
  | escalatedFault
  | cancelled
  deriving DecidableEq, Repr

/-- Somebody may still take the ticket. -/
def ReallocationStatus.isOpen : ReallocationStatus → Bool
  | pending | underReplicated => true
  | activeReplacement | escalatedFault | cancelled => false

/-- A slot needs an operator because a deal of it ended, or because it never had one. -/
inductive ReallocationCause where
  | failedDeal
  | neverPlaced
  deriving DecidableEq, Repr

structure StorageReallocationTicket where
  ticketId : UInt64
  failedDealId : UInt64
  replacementDealId : Option UInt64
  domainId : UInt32
  manifestId : ContentId
  shardId : ContentId
  replicaIndex : UInt8
  slashedOperator : Address
  openedEpoch : UInt64
  deadlineEpoch : UInt64
  status : ReallocationStatus
  expectedHolder : Option Address
  cause : ReallocationCause
  deriving DecidableEq, Repr

def StorageReallocationTicket.slot (t : StorageReallocationTicket) : Slot :=
  ⟨t.manifestId, t.shardId, t.replicaIndex⟩

/-! ### Operators and readers -/

inductive OperatorClass where
  | alwaysOn
  | mobile
  deriving DecidableEq, Repr

def OperatorClass.mayHoldPrimary : OperatorClass → Bool
  | alwaysOn => true
  | mobile => false

/-- What an owner allows for self-hosting a content. -/
structure MobileSelfContentPolicy where
  contentId : ContentId
  owner : Address
  critical : Bool
  requiredPaidReplicas : UInt16
  selfHostAllowed : Bool
  deriving DecidableEq, Repr

/-- Proven reads of an object in one epoch. -/
structure AccessEvent where
  epoch : UInt64
  count : UInt64
  deriving DecidableEq, Repr

/-! ### The registry -/

structure StorageRegistry where
  deals : OrdMap UInt64 StorageDeal := ∅
  manifests : OrdMap ContentId ContentManifest := ∅
  nextDealId : UInt64 := 0
  nextChallengeId : UInt64 := 0
  nextReallocationId : UInt64 := 0
  dealsByShard : OrdMap (ContentId ×ₗ ContentId) (List UInt64) := ∅
  challenges : OrdMap UInt64 RetrievalChallenge := ∅
  results : OrdMap UInt64 ChallengeResult := ∅
  reallocations : OrdMap UInt64 StorageReallocationTicket := ∅
  accessEvents : OrdMap ContentId (List AccessEvent) := ∅
  selfHostPolicies : OrdMap ContentId MobileSelfContentPolicy := ∅
  operatorCooldowns : OrdMap Address UInt64 := ∅
  operatorClasses : OrdMap Address OperatorClass := ∅
  settledTickets : OrdMap UInt64 (List UInt64) := ∅
  dictionaries : DictionaryRegistry := {}
  deriving DecidableEq, Inhabited

namespace StorageRegistry

variable (r : StorageRegistry)

def isEmpty : Bool :=
  decide (r.nextDealId = 0) && decide (r.nextChallengeId = 0) && decide (r.nextReallocationId = 0) &&
    decide (r.deals.size = 0) && decide (r.dealsByShard.size = 0) &&
    decide (r.challenges.size = 0) && decide (r.results.size = 0) &&
    decide (r.reallocations.size = 0) && decide (r.settledTickets.size = 0) &&
    decide (r.operatorCooldowns.size = 0) && decide (r.operatorClasses.size = 0) &&
    decide (r.manifests.size = 0)

def activeWeights : List (Address × UInt64) :=
  (r.deals.values.filter StorageDeal.isActive).map fun d => (d.operator, d.totalFee 1)

/-- The content is gone: its active deals expire and its manifest is forgotten. -/
def pruneContent (manifestId : ContentId) : StorageRegistry :=
  { r with
    deals := r.deals.map fun _ d =>
      if d.manifestId = manifestId ∧ d.isActive then { d with status := .expired } else d
    manifests := r.manifests.erase manifestId }

end StorageRegistry

end Budlum
