import Budlum.Domain.Types
import Budlum.Lib.MerkleRows

/-!
# Cross-domain messages

Messages between domains, the events that carry them, their registry, the nonces against replay
and the relayer that moves a message once its event is proved.
-/

namespace Budlum

abbrev MessageId := Hash32

/-! ### The settlement tree -/

def merkleNodeHash (C : Crypto) (left right : Hash32) : Hash32 :=
  C.hashFieldsBytes [textBytes "BDLM_MERKLE_NODE_V1", hashBytes left, hashBytes right]

def merkleOddPromoteHash (C : Crypto) (node : Hash32) : Hash32 :=
  C.hashFieldsBytes [textBytes "BDLM_MERKLE_ODD_PROMOTE_V1", hashBytes node]

/-- The stand-in for a missing sibling in a proof. -/
def oddPromotionSentinel (C : Crypto) : Hash32 :=
  C.hashFieldsBytes [textBytes "BDLM_MERKLE_ODD_SENTINEL_V1"]

def merkleRoot (C : Crypto) (leaves : List Hash32) : Hash32 :=
  (Merkle.root (merkleNodeHash C) (merkleOddPromoteHash C) leaves).getD
    (C.hashFieldsBytes [textBytes "BDLM_EMPTY_MERKLE_ROOT_V1"])

/-- A proof that a leaf is under a root. -/
structure MerkleProof where
  leaf : Hash32
  index : Nat
  siblings : List Hash32
  deriving DecidableEq

/-- The proof leads to the expected root. -/
def MerkleProof.verify (C : Crypto) (p : MerkleProof) (expectedRoot : Hash32) : Bool :=
  decide (Merkle.rootFromProof (merkleNodeHash C) (merkleOddPromoteHash C) (oddPromotionSentinel C)
    p.index p.leaf p.siblings = expectedRoot)

/-! ### Messages -/

inductive MessageKind where
  | bridgeLock
  | bridgeMint
  | bridgeBurn
  | bridgeUnlock
  | custom (bytes : Bytes)
  deriving DecidableEq, Repr

namespace MessageKind

/-- The kind in hash preimages. -/
def asBytes : MessageKind → Bytes
  | bridgeLock => textBytes "bridge-lock"
  | bridgeMint => textBytes "bridge-mint"
  | bridgeBurn => textBytes "bridge-burn"
  | bridgeUnlock => textBytes "bridge-unlock"
  | custom bytes => textBytes "custom:" ++ bytes

def name : MessageKind → String
  | bridgeLock => "BridgeLock"
  | bridgeMint => "BridgeMint"
  | bridgeBurn => "BridgeBurn"
  | bridgeUnlock => "BridgeUnlock"
  | custom _ => "Custom"

def debug : MessageKind → String
  | custom bytes => "Custom(" ++ toString (bytes.map (·.toNat)) ++ ")"
  | k => k.name

end MessageKind

structure CrossDomainMessage where
  messageId : MessageId
  correlationId : Option MessageId
  sourceDomain : DomainId
  targetDomain : DomainId
  sourceHeight : UInt64
  eventIndex : UInt32
  nonce : UInt64
  sender : Address
  recipient : Address
  payloadHash : Hash32
  kind : MessageKind
  expiryHeight : UInt64
  deriving DecidableEq

namespace CrossDomainMessage

variable (C : Crypto) (m : CrossDomainMessage)

/-- The identifier the fields determine. -/
def calculateMessageId : MessageId :=
  C.hashFieldsBytes [textBytes "BDLM_CROSS_DOMAIN_MESSAGE_V2", hashBytes (m.correlationId.getD 0),
    u32Bytes m.sourceDomain, u32Bytes m.targetDomain, u64Bytes m.sourceHeight,
    u32Bytes m.eventIndex, u64Bytes m.nonce, hashBytes m.sender, hashBytes m.recipient,
    hashBytes m.payloadHash, m.kind.asBytes, u64Bytes m.expiryHeight]

/-- The message with its identifier filled in. -/
def withId : CrossDomainMessage := { m with messageId := m.calculateMessageId C }

/-- The identifier is the one the fields determine. -/
def verifyId : Bool := decide (m.messageId = m.calculateMessageId C)

end CrossDomainMessage

inductive DomainEventKind where
  | bridgeLocked
  | bridgeMinted
  | bridgeBurned
  | bridgeUnlocked
  | messageEmitted
  | custom (bytes : Bytes)
  deriving DecidableEq, Repr

def DomainEventKind.asBytes : DomainEventKind → Bytes
  | bridgeLocked => textBytes "bridge-locked"
  | bridgeMinted => textBytes "bridge-minted"
  | bridgeBurned => textBytes "bridge-burned"
  | bridgeUnlocked => textBytes "bridge-unlocked"
  | messageEmitted => textBytes "message-emitted"
  | custom bytes => textBytes "custom:" ++ bytes

structure DomainEvent where
  domainId : DomainId
  domainHeight : UInt64
  eventIndex : UInt32
  kind : DomainEventKind
  emitter : Address
  message : Option CrossDomainMessage
  payloadHash : Hash32
  deriving DecidableEq

def DomainEvent.leafHash (C : Crypto) (e : DomainEvent) : Hash32 :=
  C.hashFieldsBytes [textBytes "BDLM_DOMAIN_EVENT_V1", u32Bytes e.domainId,
    u64Bytes e.domainHeight, u32Bytes e.eventIndex, e.kind.asBytes, hashBytes e.emitter,
    hashBytes ((e.message.map (·.messageId)).getD 0), hashBytes e.payloadHash]

/-! ### Replay protection -/

/-- A sender on a route. -/
abbrev RouteKey := DomainId ×ₗ DomainId ×ₗ Address

def routeKey (source target : DomainId) (sender : Address) : RouteKey :=
  toLex (source, toLex (target, sender))

/-- The next nonce of every sender, and the highest nonce processed. -/
structure ReplayNonceStore where
  outboundNonces : OrdMap RouteKey UInt64 := ∅
  processedHighWater : OrdMap RouteKey (UInt64 × UInt64) := ∅
  deriving DecidableEq, Inhabited

namespace ReplayNonceStore

variable (r : ReplayNonceStore)

/-- Depth below which a block is not reorganised. -/
def finalityPruneDepth : UInt64 := 1000

def nextNonce (source target : DomainId) (sender : Address) : UInt64 × ReplayNonceStore :=
  let nonce := r.outboundNonces.getD (routeKey source target sender) 0
  (nonce, { r with
    outboundNonces := r.outboundNonces.insert (routeKey source target sender)
      (nonce.saturatingAdd 1) })

/-- The nonce, or a higher one, was processed. -/
def isProcessed (source target : DomainId) (sender : Address) (nonce : UInt64) : Bool :=
  (r.processedHighWater.get (routeKey source target sender)).any fun w => decide (nonce ≤ w.1)

/-- Raise the processed mark to the nonce. -/
def markProcessedAt (source target : DomainId) (sender : Address) (nonce currentHeight : UInt64) :
    Except String ReplayNonceStore := do
  Except.ensure (!r.isProcessed source target sender nonce)
    "Cross-domain message was already processed"
  return { r with
    processedHighWater := r.processedHighWater.insert (routeKey source target sender)
      (nonce, currentHeight) }

end ReplayNonceStore

/-! ### The message registry -/

/-- The messages seen, by identifier. -/
structure CrossDomainMessageRegistry where
  messages : OrdMap MessageId CrossDomainMessage := ∅
  deriving DecidableEq, Inhabited

/-- Record a message, once. -/
def CrossDomainMessageRegistry.insert (C : Crypto) (r : CrossDomainMessageRegistry)
    (m : CrossDomainMessage) : Except String CrossDomainMessageRegistry := do
  Except.ensure (m.verifyId C) "Invalid message id"
  Except.ensure (!r.messages.contains m.messageId)
    s!"Message {toHex m.messageId} already registered"
  return ⟨r.messages.insert m.messageId m⟩

/-! ### Relaying -/

/-- A message that waits for a relayer. -/
structure PendingRelay where
  messageId : MessageId
  sourceDomain : DomainId
  targetDomain : DomainId
  sourceEvent : DomainEvent
  createdHeight : UInt64
  expiryHeight : UInt64
  deriving DecidableEq

/-- Who relayed a message, and when. -/
structure RelayRecord where
  relayer : Address
  relayHeight : UInt64
  proofHash : Hash32
  deriving DecidableEq

/-- Pending messages and the ledger of relayed ones. -/
structure UniversalRelayer where
  pending : OrdMap MessageId PendingRelay := ∅
  relayed : OrdMap MessageId RelayRecord := ∅
  deriving DecidableEq, Inhabited

namespace UniversalRelayer

variable (C : Crypto) (u : UniversalRelayer)

def enqueueRelay (sourceEvent : DomainEvent) (m : CrossDomainMessage) (createdHeight : UInt64) :
    UniversalRelayer :=
  let relay : PendingRelay :=
    ⟨m.messageId, m.sourceDomain, m.targetDomain, sourceEvent, createdHeight, m.expiryHeight⟩
  { u with pending := u.pending.insert m.messageId relay }

/-- Relay a message whose event is proved.  The ledger is written before the last two checks. -/
def processRelay (encodeProof : MerkleProof → Bytes) (messageId : MessageId) (relayer : Address)
    (proof : MerkleProof) (sourceDomain : DomainId) (eventTreeRoot : Hash32)
    (currentHeight : UInt64) : EStateM String UniversalRelayer CrossDomainMessage := do
  EStateM.ensure (!(← get).relayed.contains messageId) s!"message {toHex messageId} already relayed"
  let pending ← EStateM.orThrow ((← get).pending.get messageId)
    s!"relay error: no pending relay for message {toHex messageId}"
  EStateM.ensure (decide (pending.expiryHeight = 0 ∨ currentHeight ≤ pending.expiryHeight))
    s!"relay expired: message {toHex messageId}, expiry={pending.expiryHeight}, current={currentHeight}"
  EStateM.ensure (decide (pending.sourceDomain = sourceDomain))
    s!"source domain mismatch: expected {pending.sourceDomain}, got {sourceDomain}"
  EStateM.ensure (proof.verify C eventTreeRoot)
    "invalid relay proof: Merkle proof does not verify against event tree root"
  EStateM.ensure (decide (proof.leaf = pending.sourceEvent.leafHash C))
    "invalid relay proof: proof leaf does not match source event hash"
  let proofHash := C.hashFieldsBytes [textBytes "BDLM_RELAY_PROOF_HASH_V1", encodeProof proof]
  let record : RelayRecord := ⟨relayer, currentHeight, proofHash⟩
  modify fun u => { u with relayed := u.relayed.insert messageId record }
  let message ← EStateM.orThrow pending.sourceEvent.message
    "relay error: source event has no cross-domain message"
  EStateM.ensure (message.verifyId C)
    "invalid relay proof: Relayed message ID does not match computed ID (tamper check)"
  modify fun u => { u with pending := u.pending.erase messageId }
  return message

/-- Blocks an expired message and a relay record stay. -/
def relayRetentionBlocks : UInt64 := 10 * ReplayNonceStore.finalityPruneDepth

/-- Drop what has been expired or relayed for longer than the retention. -/
def sweepRetired (currentHeight : UInt64) : UniversalRelayer :=
  let cutoff := currentHeight.saturatingSub relayRetentionBlocks
  { pending := u.pending.filter fun _ r => decide (r.expiryHeight = 0 ∨ cutoff < r.expiryHeight)
    relayed := u.relayed.filter fun _ r => decide (cutoff < r.relayHeight) }

end UniversalRelayer

end Budlum
