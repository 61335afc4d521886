import Budlum.Core.Linked
import Budlum.Domain.Storage

/-!
# Operations of the storage registry

Deals are opened for a slot, directly or by taking a ticket; they are challenged, answered for,
missed, renewed, expired and pruned.  Tickets are opened for slots that lost their operator and for
slots that never had one, annotated, marked overdue and swept once they are settled.

An operation either returns an error and leaves the registry as it is, or returns the registry after
it.
-/

namespace Budlum

open Except (ensure ofOption)

inductive StorageError where
  | unknownShard (manifestId shardId : ContentId)
  | invalidManifest (reason : String)
  | invalidEpochRange (start stop : UInt64)
  | insufficientBond (required provided : UInt64)
  | zeroOpenerBond
  | openerBondBelowRangeCost (rangeLen required provided : UInt64)
  | unknownDeal (dealId : UInt64)
  | unknownChallenge (challengeId : UInt64)
  | dealNotActive (dealId : UInt64)
  | expiryWouldStrandContent (dealId : UInt64) (manifestId shardId : ContentId)
      (remainingCarriers floor : Nat)
  | notTheOperator (expected provided : Address)
  | deadlineElapsed (deadlineEpoch nowEpoch : UInt64)
  | challengeAlreadyResolved (challengeId : UInt64)
  | unknownManifest (manifestId : ContentId)
  | selfHostRefusedByPolicy (contentId : ContentId) (reason : String)
  | merkleProofRequired
  | invalidMerkleProof (reason : String)
  | tooManyOpenChallenges (dealId : UInt64) (max : Nat)
  | tooManyOpenChallengesPerOperator (operator : Address) (max : Nat)
  | challengeRateLimited (operator : Address) (manifestId : ContentId) (minimumNextEpoch : UInt64)
  | unknownReallocationTicket (ticketId : UInt64)
  | reallocationNotPending (ticketId : UInt64)
  | replacementOperatorMatchesSlashed (operator : Address)
  | mobileOperatorCannotHoldPrimary (operator : Address)
  deriving DecidableEq, Repr

/-! ### Constants -/

def storageReplicationTarget : UInt8 := 3
def accessScale : UInt64 := 1000000
def accessHalfLifeEpochs : UInt64 := 720
def demandReplicaStepScaled : UInt64 := 8 * accessScale
def reallocationAcceptanceEpochs : UInt64 := 4
def reallocationRecordRetentionEpochs : UInt64 := 16 * reallocationAcceptanceEpochs
def renewalWindowEpochs : UInt64 := 4
def permanenceFloorDefault : Nat := 1
def maxOpenChallengesPerDeal : Nat := 10
def maxOpenChallengesPerOperator : Nat := 16
def openerBondPerKib : UInt64 := 1
def minOpenerBond : UInt64 := 1
def minOperatorManifestChallengeEpochs : UInt64 := 4
def missedChallengeCooldownSecs : UInt64 := 6 * 60 * 60
def maxProofEnvelopeBytes : Nat := 1024 * 1024

/-- What a deal is asked to be. -/
structure DealRequest where
  domainId : UInt32
  manifest : ContentManifest
  shardId : ContentId
  operator : Address
  replicaIndex : UInt8
  startEpoch : UInt64
  endEpoch : UInt64
  economics : StorageEconomicsParams
  domainParams : StorageDomainParams
  merkleProof : Option Bytes
  storageRoot : Option Hash32

namespace DealRequest

variable (q : DealRequest)

def slot : Slot := ⟨q.manifest.manifestId, q.shardId, q.replicaIndex⟩

def deal (dealId shardBytes : UInt64) : StorageDeal where
  dealId := dealId
  domainId := q.domainId
  manifestId := q.manifest.manifestId
  shardId := q.shardId
  operator := q.operator
  economics := q.economics
  shardBytes := shardBytes
  replicaIndex := q.replicaIndex
  dealStartEpoch := q.startEpoch
  dealEndEpoch := q.endEpoch
  status := .active
  merkleProof := q.merkleProof
  storageRoot := q.storageRoot
  merkleDepth := 64

end DealRequest

/-- What a challenge is asked to be. -/
structure ChallengeRequest where
  dealId : UInt64
  byteStart : UInt64
  byteEnd : UInt64
  challengeEpoch : UInt64
  deadlineEpoch : UInt64
  opener : Address
  openerBond : UInt64

/-- An operator's answer to a challenge. -/
structure RetrievalResponse where
  challengeId : UInt64
  rangeHash : ContentId
  responder : Address
  responseEpoch : UInt64
  proofBytes : Option Bytes

/-! ### Self-hosting -/

/-- The part of a device's profile a policy is checked against. -/
structure MobileSelfProfile where
  owner : Address
  deviceCommitment : Hash32
  maxStorageBytes : UInt64

def MobileSelfProfile.validate (p : MobileSelfProfile) : Except String Unit := do
  ensure (decide (p.owner ≠ Address.zero)) "MobileSelfProfile owner cannot be zero"
  ensure (decide (p.deviceCommitment ≠ 0))
    "MobileSelfProfile device_commitment cannot be zero"
  ensure (decide (p.maxStorageBytes ≠ 0)) "MobileSelfProfile max_storage_bytes must be >= 1"

def MobileSelfContentPolicy.validateAgainstProfile (policy : MobileSelfContentPolicy)
    (profile : MobileSelfProfile) : Except String Unit := do
  profile.validate
  ensure (decide (policy.owner = profile.owner))
    "MobileSelfContentPolicy owner/profile mismatch"
  ensure (!(policy.critical && decide (policy.requiredPaidReplicas = 0)))
    "critical Mobile Self content requires paid replicas"

/-! ### Demand -/

/-- A read rate that halves every half-life. -/
structure AccessEstimate where
  scaled : UInt64
  lastEpoch : UInt64

namespace AccessEstimate

def decayedTo (e : AccessEstimate) (epoch : UInt64) : UInt64 :=
  let halvings := epoch.saturatingSub e.lastEpoch / accessHalfLifeEpochs
  if 64 ≤ halvings then 0 else e.scaled >>> halvings

/-- Add up the events in order; the first one out of order ends the sum. -/
def accumulate (currentEpoch lastEpoch : UInt64) : AccessEstimate → List AccessEvent → AccessEstimate
  | e, [] => e
  | e, event :: events =>
    if event.epoch < lastEpoch ∨ currentEpoch < event.epoch then e
    else
      let scaled := (e.decayedTo event.epoch).saturatingAdd (event.count.saturatingMul accessScale)
      accumulate currentEpoch event.epoch ⟨scaled, event.epoch⟩ events

def fromEvents (events : List AccessEvent) (currentEpoch : UInt64) : AccessEstimate :=
  let e := accumulate currentEpoch 0 ⟨0, currentEpoch⟩ events
  ⟨e.decayedTo currentEpoch, currentEpoch⟩

end AccessEstimate

namespace StorageRegistry

/-! ### Queries -/

section Queries

variable (r : StorageRegistry)

def operatorClass (operator : Address) : OperatorClass := r.operatorClasses.getD operator .alwaysOn

/-- The deals of a shard, in the order they were opened. -/
def dealsForShard (manifestId shardId : ContentId) : List StorageDeal :=
  (r.dealsByShard.getD (toLex (manifestId, shardId)) []).filterMap r.deals.get

def dealsForManifest (manifestId : ContentId) : List StorageDeal :=
  r.deals.values.filter fun d => decide (d.manifestId = manifestId)

def activeReplicaCount (manifestId shardId : ContentId) : Nat :=
  (r.dealsForShard manifestId shardId).countP StorageDeal.isActive

/-- The shards of an object that somebody keeps. -/
def liveShardCount (manifestId : ContentId) : Nat :=
  (r.manifests.get manifestId).elim 0 fun m =>
    m.shards.countP fun s => decide (0 < r.activeReplicaCount manifestId s.shardId)

/-- The number of shards an object may not fall to. -/
def permanenceFloor (manifestId : ContentId) : Nat :=
  (r.manifests.get manifestId).elim permanenceFloorDefault fun m => max m.erasure.k.toNat 1

def requiredReplicasFor (manifestId : ContentId) : UInt8 :=
  (r.manifests.get manifestId).elim storageReplicationTarget fun m =>
    requiredReplicaCount m.source storageReplicationTarget

/-- The replicas an object needs; a recipe that is read often needs more than one. -/
def requiredReplicasWithDemand (manifestId : ContentId) (epoch : UInt64) : Nat :=
  let floor := r.requiredReplicasFor manifestId
  if storageReplicationTarget ≤ floor then floor.toNat
  else
    let rate := (AccessEstimate.fromEvents (r.accessEvents.getD manifestId []) epoch).decayedTo epoch
    let steps := min (rate / demandReplicaStepScaled).toNat 255
    min (min (floor.toNat + steps) 255) storageReplicationTarget.toNat

/-- The shards with fewer active replicas than they need. -/
def underReplicatedShards (epoch : UInt64) : List (ContentId × ContentId) :=
  (r.dealsByShard.keys.map ofLex).filter fun k =>
    decide (r.activeReplicaCount k.1 k.2 < r.requiredReplicasWithDemand k.1 epoch)

/-- The objects that can still be recovered but have lost too many shards. -/
def objectsBelowOwnRepairMargin : List ContentId :=
  (r.manifests.entries.filter fun e =>
    e.2.needsRepair (r.liveShardCount e.1) e.2.erasure.repairMargin).map (·.1)

def isUnresolved (c : RetrievalChallenge) : Bool := !r.results.contains c.challengeId

/-- The deal of a challenge is the operator's. -/
def concerns (operator : Address) (c : RetrievalChallenge) : Bool :=
  (r.deals.get c.dealId).any fun d => decide (d.operator = operator)

/-- Some ticket is kept under the number of the deal. -/
def isTicketed (dealId : UInt64) : Bool :=
  r.reallocations.values.any fun t => decide (t.failedDealId = dealId)

end Queries

/-! ### Operators -/

section Operators

variable (r : StorageRegistry)

def registerManifest (m : ContentManifest) : StorageRegistry :=
  if r.manifests.contains m.manifestId then r
  else { r with manifests := r.manifests.insert m.manifestId m }

def setOperatorClass (operator : Address) (c : OperatorClass) : StorageRegistry :=
  { r with operatorClasses := r.operatorClasses.insert operator c }

def declareSelfHostPolicy (policy : MobileSelfContentPolicy) (profile : MobileSelfProfile) :
    Except StorageError StorageRegistry := do
  (policy.validateAgainstProfile profile).mapError (.selfHostRefusedByPolicy policy.contentId)
  return { r with selfHostPolicies := r.selfHostPolicies.insert policy.contentId policy }

/-- A cooldown never gets shorter. -/
def beginOperatorCooldown (operator : Address) (nowUnixSecs : UInt64) : StorageRegistry :=
  let ends := nowUnixSecs.saturatingAdd missedChallengeCooldownSecs
  let ends := max (r.operatorCooldowns.getD operator ends) ends
  { r with operatorCooldowns := r.operatorCooldowns.insert operator ends }

def operatorCooldownUntil (operator : Address) (nowUnixSecs : UInt64) : Option UInt64 :=
  (r.operatorCooldowns.get operator).filter fun t => decide (nowUnixSecs < t)

def pruneExpiredCooldowns (nowUnixSecs : UInt64) : StorageRegistry :=
  { r with operatorCooldowns := r.operatorCooldowns.filter fun _ t => decide (nowUnixSecs < t) }

/-- The owner's policy for self-hosting.  The replicas are counted under the content's identifier
as if it were a shard. -/
def checkSelfHostAllowed (manifestId contentId : ContentId) : Except StorageError Unit :=
  match r.selfHostPolicies.get contentId with
  | none => .ok ()
  | some policy => do
    ensure policy.selfHostAllowed
      (.selfHostRefusedByPolicy contentId "the owner turned self-hosting off for this content")
    let paid := r.activeReplicaCount manifestId contentId
    let required := policy.requiredPaidReplicas.toNat
    ensure (decide (required ≤ paid)) (.selfHostRefusedByPolicy contentId
      s!"the owner asked for {required} paid replica(s) before self-hosting and {paid} are open")

end Operators

/-! ### Opening deals -/

section Opening

variable (L : Linked) (r : StorageRegistry)

/-- The envelope around a proof, refused unread when it is too large. -/
def deserializeProofEnvelope (proofBytes : Bytes) : Except StorageError ProofEnvelope := do
  ensure (decide (proofBytes.length ≤ maxProofEnvelopeBytes))
    (.invalidMerkleProof s!"proof envelope exceeds the {maxProofEnvelopeBytes} byte ceiling")
  (L.decode.envelope proofBytes).mapError fun e =>
    .invalidMerkleProof s!"failed to deserialize ProofEnvelope: {e}"

/-- Only the form of the proof is checked. -/
def validateMerkleProofFormat (proofBytes : Bytes) : Except StorageError Unit := do
  ensure (decide (64 ≤ proofBytes.length)) (.invalidMerkleProof "proof too short (< 64 bytes)")
  let envelope ← deserializeProofEnvelope L proofBytes
  ensure (!envelope.proofBytes.isEmpty)
    (.invalidMerkleProof "ProofEnvelope.proof_bytes is empty")

/-- Everything a deal is checked for; the bytes the operator will hold. -/
def checkDeal (q : DealRequest) : Except StorageError UInt64 := do
  let proofBytes ← ofOption q.merkleProof .merkleProofRequired
  let _ ← ofOption q.storageRoot .merkleProofRequired
  validateMerkleProofFormat L proofBytes
  ensure (decide (q.startEpoch < q.endEpoch)) (.invalidEpochRange q.startEpoch q.endEpoch)
  ensure (decide (q.domainParams.minOperatorBond ≤ q.economics.operatorBond))
    (.insufficientBond q.domainParams.minOperatorBond q.economics.operatorBond)
  ensure (decide (q.replicaIndex ≠ 0) || (r.operatorClass q.operator).mayHoldPrimary)
    (.mobileOperatorCannotHoldPrimary q.operator)
  if r.operatorClass q.operator = .mobile then
    r.checkSelfHostAllowed q.manifest.manifestId q.shardId
  (q.manifest.validateUntrusted L.toCrypto).mapError .invalidManifest
  ensure q.manifest.edition.admitsBody (.invalidManifest
    "BUD edition Three admits no storage deal: recipes are not placed with operators; use Classic for bodies")
  let shard ← ofOption (q.manifest.shard q.shardId)
    (.unknownShard q.manifest.manifestId q.shardId)
  ofOption (heldBytes q.manifest.source shard.size.toUInt64) (.invalidManifest
    "held_bytes refused the source (hybrid prefix longer than listed size)")

/-- Record a deal under the next number. -/
def recordDeal (q : DealRequest) (nextDealId shardBytes : UInt64) : StorageRegistry :=
  let key := toLex (q.manifest.manifestId, q.shardId)
  { r.registerManifest q.manifest with
    nextDealId := nextDealId
    deals := r.deals.insert r.nextDealId (q.deal r.nextDealId shardBytes)
    dealsByShard := r.dealsByShard.insert key (r.dealsByShard.getD key [] ++ [r.nextDealId]) }

/-- Open a deal.  Whether its slot is taken is not checked. -/
def openDeal (q : DealRequest) : Except (Fault StorageError) (UInt64 × StorageRegistry) := do
  let shardBytes ← (r.checkDeal L q).orFail
  let nextDealId ← ofOption (r.nextDealId.checkedAdd 1) .panic
  return (r.nextDealId, r.recordDeal q nextDealId shardBytes)

/-- What the operator that takes a ticket asks for. -/
structure ReplacementRequest where
  operator : Address
  startEpoch : UInt64
  endEpoch : UInt64
  economics : StorageEconomicsParams
  domainParams : StorageDomainParams
  merkleProof : Option Bytes
  storageRoot : Option Hash32

/-- The deal that fills the slot of a ticket. -/
def ReplacementRequest.dealRequest (a : ReplacementRequest) (ticket : StorageReallocationTicket)
    (m : ContentManifest) : DealRequest :=
  ⟨ticket.domainId, m, ticket.shardId, a.operator, ticket.replicaIndex, a.startEpoch, a.endEpoch,
    a.economics, a.domainParams, a.merkleProof, a.storageRoot⟩

/-- The ticket and the manifest of its object, if the operator may take it. -/
def checkTicket (ticketId : UInt64) (operator : Address) :
    Except StorageError (StorageReallocationTicket × ContentManifest) := do
  let ticket ← ofOption (r.reallocations.get ticketId) (.unknownReallocationTicket ticketId)
  ensure ticket.status.isOpen (.reallocationNotPending ticketId)
  ensure (decide (operator ≠ ticket.slashedOperator))
    (.replacementOperatorMatchesSlashed operator)
  let m ← ofOption (r.manifests.get ticket.manifestId) (.unknownManifest ticket.manifestId)
  return (ticket, m)

/-- Settle a ticket with a deal, and note the epoch for the sweep. -/
def settleTicket (ticket : StorageReallocationTicket) (ticketId dealId startEpoch : UInt64) :
    StorageRegistry :=
  let epoch := max startEpoch ticket.openedEpoch
  { r with
    reallocations := r.reallocations.insert ticketId
      { ticket with status := .activeReplacement, replacementDealId := some dealId }
    settledTickets := r.settledTickets.insert epoch (r.settledTickets.getD epoch [] ++ [ticketId]) }

def acceptReallocationTicket (ticketId : UInt64) (a : ReplacementRequest) :
    Except (Fault StorageError) (UInt64 × StorageRegistry) := do
  let (ticket, m) ← (r.checkTicket ticketId a.operator).orFail
  let (dealId, opened) ← r.openDeal L (a.dealRequest ticket m)
  return (dealId, opened.settleTicket ticket ticketId dealId a.startEpoch)

end Opening

/-! ### Challenges -/

section Challenges

variable (L : Linked) (r : StorageRegistry)

/-- The bond of a range: one unit for every started kibibyte. -/
def requiredOpenerBond (rangeLen : UInt64) : UInt64 :=
  max minOpenerBond ((UInt64.ofNat ((rangeLen.toNat + 1023) / 1024)).saturatingMul openerBondPerKib)

/-- The first epoch a deal of this operator and object may be challenged in. -/
def minimumNextEpoch (operator : Address) (manifestId : ContentId) : Option UInt64 :=
  (r.challenges.values.filterMap fun c => (r.deals.get c.dealId).bind fun d =>
    if d.operator = operator ∧ d.manifestId = manifestId then
      some (c.challengeEpoch.saturatingAdd minOperatorManifestChallengeEpochs)
    else none).max?

/-- Everything before the caps: the challenge is well formed and paid for, the deal is active and
its operator is not asked about the same object too often. -/
def admitChallenge (q : ChallengeRequest) : Except StorageError StorageDeal := do
  ensure (decide (q.openerBond ≠ 0)) .zeroOpenerBond
  ensure (decide (q.byteStart < q.byteEnd)) (.invalidEpochRange q.byteStart q.byteEnd)
  let rangeLen := q.byteEnd - q.byteStart
  let required := requiredOpenerBond rangeLen
  ensure (decide (required ≤ q.openerBond))
    (.openerBondBelowRangeCost rangeLen required q.openerBond)
  ensure (decide (q.challengeEpoch < q.deadlineEpoch))
    (.invalidEpochRange q.challengeEpoch q.deadlineEpoch)
  let deal ← ofOption (r.deals.get q.dealId) (.unknownDeal q.dealId)
  ensure deal.isActive (.dealNotActive q.dealId)
  let epoch := (r.minimumNextEpoch deal.operator deal.manifestId).getD 0
  ensure (decide (epoch ≤ q.challengeEpoch))
    (.challengeRateLimited deal.operator deal.manifestId epoch)
  return deal

/-- The unresolved challenges of a deal. -/
def openCount (dealId : UInt64) : Nat :=
  r.challenges.values.countP fun c => decide (c.dealId = dealId) && r.isUnresolved c

/-- The unresolved challenges of an operator, over all its deals. -/
def operatorOpen (operator : Address) : Nat :=
  r.challenges.values.countP fun c => r.isUnresolved c && r.concerns operator c

/-- The caps on unresolved challenges, first of the deal and then of the operator. -/
def checkChallengeCaps (dealId : UInt64) (operator : Address) : Except StorageError Unit := do
  ensure (decide (r.openCount dealId < maxOpenChallengesPerDeal))
    (.tooManyOpenChallenges dealId maxOpenChallengesPerDeal)
  ensure (decide (r.operatorOpen operator < maxOpenChallengesPerOperator))
    (.tooManyOpenChallengesPerOperator operator maxOpenChallengesPerOperator)

def challengeOf (q : ChallengeRequest) (shardId : ContentId) : RetrievalChallenge :=
  ⟨r.nextChallengeId, q.dealId, shardId, q.byteStart, q.byteEnd, q.challengeEpoch, q.deadlineEpoch,
    q.opener, q.openerBond⟩

def openChallenge (q : ChallengeRequest) :
    Except (Fault StorageError) (UInt64 × StorageRegistry) := do
  let deal ← (r.admitChallenge q).orFail
  (r.checkChallengeCaps q.dealId deal.operator).orFail
  let next ← ofOption (r.nextChallengeId.checkedAdd 1) .panic
  return (r.nextChallengeId,
    { r with
      nextChallengeId := next
      challenges := r.challenges.insert r.nextChallengeId (r.challengeOf q deal.shardId) })

/-- The range a challenge is about, drawn from entropy within the shard. -/
def deriveChallengeRange (entropy : Hash32) (deal : StorageDeal) (m : ContentManifest)
    (q : ChallengeRequest) (requestedLen challengeId : UInt64) :
    Except StorageError (UInt64 × UInt64) := do
  ensure (decide (requestedLen ≠ 0)) (.invalidEpochRange 0 0)
  let shard ← ofOption (m.shard deal.shardId) (.unknownShard m.manifestId deal.shardId)
  let shardSize := shard.size.toUInt64
  let rangeLen := min requestedLen shardSize
  let rangeCount ← ofOption ((shardSize.checkedSub rangeLen).bind (·.checkedAdd 1))
    (.invalidEpochRange 0 shardSize)
  let digest := L.hashFieldsBytes [textBytes "BDLM_STORAGE_RANDOM_CHALLENGE_RANGE_V1",
    hashBytes entropy, u64Bytes deal.dealId, u32Bytes deal.domainId, hashBytes deal.manifestId,
    hashBytes deal.shardId, [deal.replicaIndex], hashBytes deal.operator, hashBytes q.opener,
    u64Bytes q.challengeEpoch, u64Bytes q.deadlineEpoch, u64Bytes requestedLen,
    u64Bytes challengeId]
  let offset := u64OfBytes ((hashBytes digest).take 8) % rangeCount
  return (offset, offset + rangeLen)

/-- Open a challenge about a range that its opener does not choose. -/
def openChallengeWithEntropy (q : ChallengeRequest) (entropy : Hash32) :
    Except (Fault StorageError) (UInt64 × StorageRegistry) := do
  (ensure (decide (q.byteStart < q.byteEnd))
    (StorageError.invalidEpochRange q.byteStart q.byteEnd)).orFail
  let deal ← (ofOption (r.deals.get q.dealId) (StorageError.unknownDeal q.dealId)).orFail
  let m ← (ofOption (r.manifests.get deal.manifestId)
    (StorageError.unknownManifest deal.manifestId)).orFail
  let (byteStart, byteEnd) ← (deriveChallengeRange L entropy deal m q (q.byteEnd - q.byteStart)
    r.nextChallengeId).orFail
  r.openChallenge { q with byteStart := byteStart, byteEnd := byteEnd }

/-- Proofs of storage cannot be checked yet: the circuit does not bind the public inputs. -/
def storageChallengeProofsAreCheckable : Bool := false

/-- What the verifier of storage proofs says about a proof for a challenge. -/
abbrev ChallengeVerifier := RetrievalChallenge → StorageDeal → RetrievalResponse → (root : Hash32) →
  (proof : Bytes) → Except StorageError Unit

/-- The verdict on an answer.  A proof passes while proofs cannot be checked; no proof does not. -/
def verifyAnswer (verify : ChallengeVerifier) (c : RetrievalChallenge) (deal : StorageDeal)
    (a : RetrievalResponse) : Except StorageError Unit :=
  match deal.storageRoot, a.proofBytes with
  | some root, some proof =>
    if storageChallengeProofsAreCheckable then verify c deal a root proof else .ok ()
  | some _, none => .error (.invalidMerkleProof
      "ZK proof (ProofEnvelope) is mandatory for storage challenge verification")
  | none, _ => .ok ()

/-- Count a read of an object; a read of an earlier epoch counts for the last one. -/
def recordProvenRead (manifestId : ContentId) (epoch : UInt64) : StorageRegistry :=
  let events := r.accessEvents.getD manifestId []
  let events := match events.getLast? with
    | some last =>
      if epoch ≤ last.epoch then
        events.dropLast ++ [{ last with count := last.count.saturatingAdd 1 }]
      else events ++ [⟨epoch, 1⟩]
    | none => [⟨epoch, 1⟩]
  { r with accessEvents := r.accessEvents.insert manifestId events }

/-- The challenge and its deal, if the answer comes from the operator and in time. -/
def checkAnswer (a : RetrievalResponse) : Except StorageError (RetrievalChallenge × StorageDeal) := do
  ensure (decide (a.rangeHash ≠ 0))
    (.invalidMerkleProof "range_hash must be non-zero (empty hash rejected)")
  ensure (!r.results.contains a.challengeId) (.challengeAlreadyResolved a.challengeId)
  let c ← ofOption (r.challenges.get a.challengeId) (.unknownChallenge a.challengeId)
  let deal ← ofOption (r.deals.get c.dealId) (.unknownDeal c.dealId)
  ensure deal.isActive (.dealNotActive deal.dealId)
  ensure (decide (a.responder = deal.operator)) (.notTheOperator deal.operator a.responder)
  ensure (decide (a.responseEpoch ≤ c.deadlineEpoch))
    (.deadlineElapsed c.deadlineEpoch a.responseEpoch)
  return (c, deal)

/-- Slash a deal: only its status changes. -/
def slashDeal (dealId : UInt64) (deal : StorageDeal) : StorageRegistry :=
  { r with deals := r.deals.insert dealId { deal with status := .slashed } }

def resolve (result : ChallengeResult) : StorageRegistry :=
  { r with results := r.results.insert result.challengeId result }

/-- Answer a challenge.  An answer that does not verify costs the deal, as a missed one does. -/
def answerChallenge (verify : ChallengeVerifier) (a : RetrievalResponse) :
    Except StorageError (ChallengeResult × StorageRegistry) := do
  let (c, deal) ← r.checkAnswer a
  match verifyAnswer verify c deal a with
  | .ok () =>
    let result := ⟨a.challengeId, deal.dealId, .answered, a.responseEpoch, 0⟩
    return (result, (r.recordProvenRead deal.manifestId a.responseEpoch).resolve result)
  | .error _ =>
    let result := ⟨a.challengeId, deal.dealId, .mismatched, a.responseEpoch,
      deal.economics.operatorBond⟩
    return (result, (r.slashDeal deal.dealId deal).resolve result)

/-! ### Tickets -/

/-- Open a ticket under the next number. -/
def addTicket (ticket : UInt64 → StorageReallocationTicket) : StorageRegistry :=
  { r with
    nextReallocationId := r.nextReallocationId.saturatingAdd 1
    reallocations := r.reallocations.insert r.nextReallocationId (ticket r.nextReallocationId) }

/-- The ticket for the slot of a deal that ended. -/
def dealTicket (dealId : UInt64) (deal : StorageDeal) (slashedOperator : Address)
    (nowEpoch ticketId : UInt64) : StorageReallocationTicket where
  ticketId := ticketId
  failedDealId := dealId
  replacementDealId := none
  domainId := deal.domainId
  manifestId := deal.manifestId
  shardId := deal.shardId
  replicaIndex := deal.replicaIndex
  slashedOperator := slashedOperator
  openedEpoch := nowEpoch
  deadlineEpoch := nowEpoch.saturatingAdd reallocationAcceptanceEpochs
  status := .pending
  expectedHolder := none
  cause := .failedDeal

/-- The ticket for a slot that never had an operator.  It is kept under deal number zero. -/
def neverPlacedTicket (domainId : UInt32) (slot : Slot) (nowEpoch ticketId : UInt64) :
    StorageReallocationTicket where
  ticketId := ticketId
  failedDealId := 0
  replacementDealId := none
  domainId := domainId
  manifestId := slot.manifestId
  shardId := slot.shardId
  replicaIndex := slot.replicaIndex
  slashedOperator := Address.zero
  openedEpoch := nowEpoch
  deadlineEpoch := nowEpoch.saturatingAdd reallocationAcceptanceEpochs
  status := .pending
  expectedHolder := none
  cause := .neverPlaced

/-- The challenge and its deal, if the deadline passed without an answer. -/
def checkMissed (challengeId nowEpoch : UInt64) :
    Except StorageError (RetrievalChallenge × StorageDeal) := do
  ensure (!r.results.contains challengeId) (.challengeAlreadyResolved challengeId)
  let c ← ofOption (r.challenges.get challengeId) (.unknownChallenge challengeId)
  ensure (decide (c.deadlineEpoch < nowEpoch)) (.invalidEpochRange nowEpoch c.deadlineEpoch)
  let deal ← ofOption (r.deals.get c.dealId) (.unknownDeal c.dealId)
  ensure deal.isActive (.dealNotActive c.dealId)
  return (c, deal)

/-- A missed challenge costs the deal and opens a ticket, unless one is kept under its number. -/
def finalizeMissedChallenge (challengeId nowEpoch : UInt64) :
    Except StorageError (ChallengeResult × StorageRegistry) := do
  let (c, deal) ← r.checkMissed challengeId nowEpoch
  let slashed := r.slashDeal c.dealId deal
  let ticketed :=
    if r.isTicketed c.dealId then slashed
    else slashed.addTicket (dealTicket c.dealId deal deal.operator nowEpoch)
  let result := ⟨challengeId, c.dealId, .missed, nowEpoch, deal.economics.operatorBond⟩
  return (result, ticketed.resolve result)

/-- A ticket for the slot of a deal, unless one is kept under its number. -/
def openExpiryReallocation (dealId nowEpoch : UInt64) : Option UInt64 × StorageRegistry :=
  match r.deals.get dealId with
  | none => (none, r)
  | some deal =>
    if r.isTicketed dealId then (none, r)
    else (some r.nextReallocationId, r.addTicket (dealTicket dealId deal Address.zero nowEpoch))

/-- An open ticket for a slot that never had an operator is kept already. -/
def neverPlacedOpen (slot : Slot) : Bool :=
  r.reallocations.values.any fun t =>
    decide (t.cause = .neverPlaced ∧ t.slot = slot) && t.status.isOpen

/-- A ticket for a slot of a known object whose shard nobody keeps. -/
def openNeverPlacedTicket (domainId : UInt32) (slot : Slot) (nowEpoch : UInt64) :
    Option UInt64 × StorageRegistry :=
  if !r.manifests.contains slot.manifestId then (none, r)
  else if 0 < r.activeReplicaCount slot.manifestId slot.shardId then (none, r)
  else if r.neverPlacedOpen slot then (none, r)
  else (some r.nextReallocationId, r.addTicket (neverPlacedTicket domainId slot nowEpoch))

def markOverdueReallocationsUnderReplicated (nowEpoch : UInt64) : StorageRegistry :=
  { r with
    reallocations := r.reallocations.map fun _ t =>
      if t.status = .pending ∧ t.deadlineEpoch < nowEpoch then { t with status := .underReplicated }
      else t }

/-- Forget tickets settled long ago. -/
def sweepSettledReallocations (nowEpoch : UInt64) : StorageRegistry :=
  match nowEpoch.checkedSub reallocationRecordRetentionEpochs with
  | none => r
  | some cutoff =>
    let due := (r.settledTickets.filter fun epoch _ => decide (epoch ≤ cutoff)).values.flatten
    { r with
      settledTickets := r.settledTickets.filter fun epoch _ => decide (cutoff < epoch)
      reallocations := r.reallocations.filter fun id t =>
        !(due.contains id && decide (t.status = .activeReplacement)) }

/-- The expired deals of a shard whose slot is free. -/
def openableDeals (manifestId shardId : ContentId) : List UInt64 :=
  let history := r.dealsForShard manifestId shardId
  (history.filter fun d => decide (d.status = .expired) &&
    !history.any fun live => live.isActive && decide (live.replicaIndex = d.replicaIndex)).map
    (·.dealId)

/-- A ticket for every free slot of the shards with too few replicas. -/
def openRepairTicketsForFreeSlots (nowEpoch : UInt64) : StorageRegistry :=
  (r.underReplicatedShards nowEpoch).foldl (fun r gap =>
    (r.openableDeals gap.1 gap.2).foldl (fun r dealId =>
      (r.openExpiryReallocation dealId nowEpoch).2) r) r

end Challenges

/-! ### The end of a deal -/

section Ending

variable (r : StorageRegistry)

/-- Prolong a deal shortly before its end. -/
def renewDeal (dealId : UInt64) (operator : Address) (nowEpoch extraEpochs : UInt64) :
    Except StorageError (UInt64 × StorageRegistry) := do
  let deal ← ofOption (r.deals.get dealId) (.unknownDeal dealId)
  ensure deal.isActive (.dealNotActive dealId)
  ensure (decide (deal.operator = operator)) (.notTheOperator deal.operator operator)
  ensure (decide (extraEpochs ≠ 0)) (.invalidEpochRange nowEpoch nowEpoch)
  let opens := deal.dealEndEpoch.saturatingSub renewalWindowEpochs
  ensure (decide (opens ≤ nowEpoch ∧ nowEpoch < deal.dealEndEpoch))
    (.invalidEpochRange nowEpoch deal.dealEndEpoch)
  let endEpoch := deal.dealEndEpoch.saturatingAdd extraEpochs
  return (endEpoch, { r with deals := r.deals.insert dealId { deal with dealEndEpoch := endEpoch } })

/-- The object would fall to its floor if the deal's shard lost its last replica. -/
def wouldStrand (deal : StorageDeal) : Bool :=
  decide (r.activeReplicaCount deal.manifestId deal.shardId ≤ 1) &&
    decide (r.liveShardCount deal.manifestId ≤ r.permanenceFloor deal.manifestId)

/-- The end of a deal's term; the bond to return. -/
def expireDeal (dealId nowEpoch : UInt64) : Except StorageError (UInt64 × StorageRegistry) := do
  let deal ← ofOption (r.deals.get dealId) (.unknownDeal dealId)
  ensure (decide (deal.dealEndEpoch ≤ nowEpoch))
    (.invalidEpochRange nowEpoch deal.dealEndEpoch)
  if deal.status ≠ .active then return (0, r)
  ensure (!r.wouldStrand deal)
    (.expiryWouldStrandContent dealId deal.manifestId deal.shardId
      (r.liveShardCount deal.manifestId - 1) (r.permanenceFloor deal.manifestId))
  return (deal.economics.operatorBond,
    { r with deals := r.deals.insert dealId { deal with status := .expired } })

end Ending

/-! ### Placement advice -/

section Placement

variable (C : Crypto) (r : StorageRegistry)

/-- A validator that may hold a shard. -/
structure ShardCandidate where
  address : Address
  stake : UInt64

/-- The weight a candidate draws for a shard. -/
def rendezvousScore (shardId : ContentId) (entropy : Hash32) (c : ShardCandidate) : Nat :=
  if c.stake = 0 then 0
  else
    let digest := C.hashFieldsBytes [textBytes "BDLM_SHARD_PLACEMENT_V1", hashBytes shardId,
      hashBytes entropy, hashBytes c.address]
    let u := max (u64OfBytes ((hashBytes digest).take 8)).toNat 1
    let denom := 2 ^ 64 - min u (2 ^ 64 - 1)
    min (c.stake.toNat * u) u128Max / denom

/-- The first candidate is better: a higher score, or the same and a smaller address. -/
def outranks (shardId : ContentId) (entropy : Hash32) (a b : ShardCandidate) : Bool :=
  let sa := rendezvousScore C shardId entropy a
  let sb := rendezvousScore C shardId entropy b
  decide (sb < sa ∨ (sa = sb ∧ a.address ≤ b.address))

/-- The best candidate with a stake. -/
def assignShard (shardId : ContentId) (entropy : Hash32) (candidates : List ShardCandidate) :
    Option Address :=
  ((candidates.filter fun c => decide (0 < c.stake)).mergeSort
    (outranks C shardId entropy)).head?.map (·.address)

/-- A holder for every shard of an object, different ones as long as there are enough. -/
def assignObject (entropy : Hash32) (candidates : List ShardCandidate) :
    (used : List Address) → List ContentId → Option (List Address)
  | _, [] => some []
  | used, shardId :: rest => do
    let unused := candidates.filter fun c => decide (0 < c.stake) && !used.contains c.address
    let holder ← assignShard C shardId entropy (if unused.isEmpty then candidates else unused)
    let holders ← assignObject entropy candidates (holder :: used) rest
    return holder :: holders

/-- The pending tickets of an object without advice. -/
def unadvised (manifestId : ContentId) : List StorageReallocationTicket :=
  r.reallocations.values.filter fun t =>
    decide (t.status = .pending ∧ t.expectedHolder = none ∧ t.manifestId = manifestId)

/-- The advice for every pending ticket without one, object by object. -/
def placements (entropy : Hash32) (candidates : List ShardCandidate) : List (UInt64 × Address) :=
  (r.reallocations.values.map (·.manifestId)).dedup.flatMap fun manifestId =>
    let members := r.unadvised manifestId
    match assignObject C entropy candidates [] (members.map (·.shardId)) with
    | none => []
    | some holders => (members.map (·.ticketId)).zip holders

/-- Write down who should take each pending ticket. -/
def annotateExpectedHolders (entropy : Hash32) (candidates : List ShardCandidate) :
    StorageRegistry :=
  let advice := r.placements C entropy candidates
  { r with
    reallocations := r.reallocations.map fun _ t =>
      match (advice.reverse.find? fun p => decide (p.1 = t.ticketId)) with
      | some p => { t with expectedHolder := some p.2 }
      | none => t }

end Placement

end StorageRegistry

end Budlum
