import Budlum.Core.BlockHash
import Budlum.Core.StateRoot

/-!
# Genesis

The configuration a chain starts from, the state it describes and the first block, which commits
to that state.
-/

namespace Budlum

namespace AccountState

/-- Credit an account; the balance stops at the largest word. -/
def addBalance (s : AccountState) (a : Address) (amount : UInt64) : AccountState :=
  s.setBalance a ((s.getBalance a).saturatingAdd amount)

end AccountState

/-- The consensus keys a configuration supplies for a validator. -/
structure GenesisConsensusKeys where
  validator : Address
  registration : ConsensusKeyRegistration
  deriving DecidableEq

structure GenesisConfig where
  chainId : UInt64 := defaultChainId
  allocations : List (Address × UInt64) := []
  validators : List Address := []
  validatorConsensusKeys : List GenesisConsensusKeys := []
  blockReward : UInt64 := 50
  baseFee : UInt64 := 1
  timestamp : U128 := 0
  budTokenomics : Option TokenomicsParams := none
  tokenomicsAddresses : Option TokenomicsAddresses := none
  deriving DecidableEq

namespace GenesisConfig

variable (L : Linked) (g : GenesisConfig)

/-- The stake every validator of the configuration starts with. -/
def validatorStake : UInt64 := (Network.fromChainId g.chainId).elim 1 Network.minStake

/-- Where the allocations of the supply go; mainnet has no default. -/
def tokenomicsDestinations : Option TokenomicsAddresses :=
  if g.tokenomicsAddresses.isSome then g.tokenomicsAddresses
  else if Network.fromChainId g.chainId = some .mainnet then none
  else some .reserved

/-- A validator of the configuration: inactive, unless its keys come with the configuration and are
its own. -/
def validatorEntry (a : Address) : Validator :=
  let v : Validator := { address := a, stake := g.validatorStake, active := false }
  match g.validatorConsensusKeys.find? fun keys => decide (keys.validator = a) with
  | some keys =>
    if (keys.registration.validate L a g.chainId).toBool then
      let v := { v with
        vrfPublicKey := keys.registration.vrfPublicKey
        blsPublicKey := keys.registration.blsPublicKey
        popSignature := keys.registration.popSignature
        pqPublicKey := keys.registration.pqPublicKey }
      { v with active := decide (g.validatorStake ≤ v.stake) && v.isConsensusReady &&
          v.verifyPopIsValid L g.chainId }
    else v
  | none => v

def bondValidator (s : AccountState) (a : Address) : AccountState :=
  (s.addValidator a g.validatorStake).setValidator a (g.validatorEntry L a)

/-- The allocations of the fixed supply, where they are configured. -/
def allocateSupply (s : AccountState) : AccountState :=
  match g.budTokenomics with
  | none => s
  | some params =>
    let s := { s with tokenomics := params }
    match g.tokenomicsDestinations with
    | none => s
    | some addresses =>
      match genesisAllocations params addresses with
      | .error _ => s
      | .ok allocations =>
        { allocations.foldl (fun s p => s.addBalance p.1 p.2) s with
          burnReserveAddress := some addresses.burnReserve
          teamVesting := some (addresses.team, params.teamVesting 0) }

/-- The state the configuration describes. -/
def buildState : AccountState :=
  let s : AccountState :=
    { baseFee := g.baseFee, tokenomics := { TokenomicsParams.default with blockReward := g.blockReward } }
  let s := g.allocations.foldl (fun s p => s.addBalance p.1 p.2) s
  g.allocateSupply (g.validators.foldl (g.bondValidator L) s)

def buildGenesisBlock (R : RegistryRoots) : Block :=
  let s := g.buildState L
  let b : Block :=
    { index := 0, timestamp := g.timestamp, previousHash := zeroHash, hash := ""
      transactions := [Transaction.genesis L.toCrypto], nonce := 0, producer := none
      signature := none, producerPublicKey := [], chainId := g.chainId, slashingEvidence := none
      stateRoot := s.calculateStateRoot L.toCrypto R, txRoot := zeroHash, epoch := 0, slot := 0
      vrfOutput := [], vrfProof := []
      validatorSetHash := (s.consensusValidatorSetHash L g.chainId).toOption.getD
        "INVALID_CONSENSUS_VALIDATOR_SET"
      storageRoot := none, shardsRoot := none }
  let b := { b with txRoot := b.calculateTxRoot L }
  { b with hash := b.calculateHash L }

/-! ### What a configuration cannot set up -/

/-- The parts of a state that a configuration leaves as they are in an empty state: nothing was
proposed, no transfer is in flight, no boost is due, no domain waits to be unfrozen and no content
is stored. -/
structure Untouched (s : AccountState) : Prop where
  governance : s.governance = {}
  transfers : s.bridgeState.transfers = ∅
  pendingBudBoostShare : s.pendingBudBoostShare = 0
  pendingDomainUnfreezes : s.pendingDomainUnfreezes = []
  storageRegistry : s.storageRegistry = {}

variable {L g}

variable {s : AccountState}

theorem Untouched.addBalance (h : Untouched s) (a : Address) (amount : UInt64) : Untouched
    (s.addBalance a amount) := ⟨h.1, h.2, h.3, h.4, h.5⟩

theorem Untouched.bondValidator (h : Untouched s) (a : Address) : Untouched
    (g.bondValidator L s a) := ⟨h.1, h.2, h.3, h.4, h.5⟩

theorem Untouched.allocateSupply (h : Untouched s) : Untouched (g.allocateSupply s) := by
  unfold GenesisConfig.allocateSupply
  split
  · exact h
  case h_2 params _ =>
    have hset : Untouched { s with tokenomics := params } := ⟨h.1, h.2, h.3, h.4, h.5⟩
    split
    · exact hset
    · split
      · exact hset
      case h_2 addresses _ allocations _ =>
        have hpaid := allocations.foldlRecOn (fun s p => s.addBalance p.1 p.2) hset
          fun s hs p _ => hs.addBalance p.1 p.2
        exact ⟨hpaid.1, hpaid.2, hpaid.3, hpaid.4, hpaid.5⟩

theorem untouched_buildState (L : Linked) (g : GenesisConfig) : Untouched (g.buildState L) := by
  refine Untouched.allocateSupply (List.foldlRecOn _ _ ?_ fun s hs a _ => hs.bondValidator a)
  exact List.foldlRecOn _ _ ⟨rfl, rfl, rfl, rfl, rfl⟩ fun s hs p _ => hs.addBalance p.1 p.2

end GenesisConfig

end Budlum
