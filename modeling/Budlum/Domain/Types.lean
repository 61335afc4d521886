import Budlum.Core.Primitives

/-!
# Consensus domains

The chains that settle to this one, and the commitments they publish.
-/

namespace Budlum

structure StorageDomainParams where
  chunkSize : UInt32 := 262144
  maxCommittedChunks : UInt64 := 1000000
  challengeInterval : UInt64 := 100
  minOperatorBond : UInt64 := 1000000
  deriving DecidableEq, Repr

/-- How a domain reaches consensus. -/
inductive ConsensusKind where
  | poW
  | poS
  | poA
  | bft
  | zk
  | custom (name : String)
  | storageAttestation (params : StorageDomainParams)
  | aiInference
  deriving DecidableEq, Repr

/-- The debug name of a kind, as error texts print it. -/
def ConsensusKind.debug : ConsensusKind → String
  | poW => "PoW"
  | poS => "PoS"
  | poA => "PoA"
  | bft => "Bft"
  | zk => "Zk"
  | custom name => "Custom(" ++ name.quote ++ ")"
  | storageAttestation p =>
    "StorageAttestation(StorageDomainParams \x7b chunk_size: " ++ toString p.chunkSize ++
      ", max_committed_chunks: " ++ toString p.maxCommittedChunks ++
      ", challenge_interval: " ++ toString p.challengeInterval ++
      ", min_operator_bond: " ++ toString p.minOperatorBond ++ " \x7d)"
  | aiInference => "AiInference"

/-- The life cycle of a domain. -/
inductive DomainStatus where
  | active
  | frozen
  | retired
  deriving DecidableEq, Repr

def DomainStatus.debug : DomainStatus → String
  | active => "Active"
  | frozen => "Frozen"
  | retired => "Retired"

/-- Most nonce updates one commitment or one state-update transaction may carry. -/
def maxStateUpdates : Nat := 1000

/-- What a domain publishes about one of its blocks. -/
structure DomainCommitment where
  domainId : DomainId
  domainHeight : UInt64
  domainBlockHash : Hash32
  parentDomainBlockHash : Hash32
  stateRoot : Hash32
  txRoot : Hash32
  eventRoot : Hash32
  finalityProofHash : Hash32
  consensusKind : ConsensusKind
  validatorSetHash : Hash32
  timestampMs : Nat
  sequence : UInt64
  producer : Option Address
  stateUpdates : OrdMap Address UInt64
  deriving DecidableEq

end Budlum
