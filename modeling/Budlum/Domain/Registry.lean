import Budlum.CrossDomain.Message

/-!
# Domains and their commitments

The domains that settle to the chain, with their status, and the commitments they have published.
An event of a domain counts once it is proved under the event root of a commitment.
-/

namespace Budlum

open Except (ensure ofOption)

structure ConsensusDomain where
  id : DomainId
  status : DomainStatus
  validatorSetHash : Hash32
  bridgeEnabled : Bool
  deriving DecidableEq

def ConsensusDomain.isActive (d : ConsensusDomain) : Bool := decide (d.status = .active)

structure ConsensusDomainRegistry where
  domains : OrdMap DomainId ConsensusDomain := ∅
  deriving DecidableEq

namespace ConsensusDomainRegistry

variable (r : ConsensusDomainRegistry)

/-- The moves between two states of a domain. -/
def allowed : DomainStatus → DomainStatus → Bool
  | .active, .frozen | .frozen, .active | .frozen, .retired => true
  | _, _ => false

def transitionStatusChecked (id : DomainId) (status : DomainStatus) :
    Except String ConsensusDomainRegistry := do
  let d ← ofOption (r.domains.get id) s!"Unknown domain {id}"
  ensure (allowed d.status status)
    s!"Illegal domain lifecycle transition for {id}: {d.status.debug} -> {status.debug}"
  return ⟨r.domains.insert id { d with status := status }⟩

/-- Carry out one unfreeze, if the domain is frozen and its validators are the expected ones. -/
def unfreeze (id : DomainId) (expectedSetHash : Hash32) : ConsensusDomainRegistry :=
  match r.domains.get id with
  | none => r
  | some d =>
    if d.status ≠ .frozen then r
    else if expectedSetHash ≠ 0 ∧ d.validatorSetHash ≠ expectedSetHash then r
    else match r.transitionStatusChecked id .active with
      | .ok r' => r'
      | .error _ => r

/-- The domain is there, active and open for the bridge. -/
def checkBridge (id : DomainId) : Except String Unit := do
  let d ← ofOption (r.domains.get id) s!"Domain {id} not found"
  ensure (d.isActive && d.bridgeEnabled) s!"Domain {id} is not bridge-enabled"

end ConsensusDomainRegistry

/-! ### Commitments -/

/-- Domain, height, sequence. -/
abbrev CommitmentKey := DomainId ×ₗ UInt64 ×ₗ UInt64

structure DomainCommitmentRegistry where
  commitments : OrdMap CommitmentKey DomainCommitment := ∅
  deriving DecidableEq

namespace DomainCommitmentRegistry

variable (C : Crypto) (r : DomainCommitmentRegistry)

def get (domainId : DomainId) (height sequence : UInt64) : Option DomainCommitment :=
  r.commitments.get (toLex (domainId, toLex (height, sequence)))

def findByHeight (domainId : DomainId) (height : UInt64) : Option DomainCommitment :=
  r.commitments.values.find? fun c => decide (c.domainId = domainId ∧ c.domainHeight = height)

/-- The event is under the event root of the commitment. -/
def verifyEventAgainstCommitment (c : DomainCommitment) (event : DomainEvent)
    (proof : MerkleProof) : Except String Unit := do
  ensure (decide (event.domainId = c.domainId))
    "Event domain does not match commitment domain"
  ensure (decide (event.domainHeight = c.domainHeight))
    "Event height does not match commitment height"
  ensure (decide (event.eventIndex.toNat = proof.index))
    "Event index does not match Merkle proof index"
  ensure (decide (event.leafHash C = proof.leaf))
    "Event leaf hash does not match Merkle proof leaf"
  ensure (proof.verify C c.eventRoot) "Invalid event Merkle proof"

/-- The event is proved under a registered commitment of the expected block. -/
def verifyEventFromRegistry (domainId : DomainId) (height sequence : UInt64)
    (expectedBlockHash : Option Hash32) (event : DomainEvent) (proof : MerkleProof) :
    Except String Unit := do
  let c ← ofOption (r.get domainId height sequence)
    s!"Missing commitment for domain={domainId}, height={height}, sequence={sequence}"
  ensure (expectedBlockHash.all fun h => decide (c.domainBlockHash = h))
    "Commitment block hash does not match expected block hash"
  verifyEventAgainstCommitment C c event proof

end DomainCommitmentRegistry

end Budlum
