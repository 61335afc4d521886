import Budlum.Core.AccountState

/-!
# The state root

The digest of the account state that a block commits to: accounts and validators, the unbonding
queue, the economic parameters, the roots of the other registries and the unfreezes still to be
carried out.

A registry enters through a root of its own.  `RegistryRoots` is the family of these roots; a
registry that may be left out of the digest has no root while it is empty.
-/

namespace Budlum

structure RegistryRoots where
  bridge : BridgeState → Hash32
  message : CrossDomainMessageRegistry → Hash32
  marketplace : MarketplaceRegistry → Hash32
  ai : AiRegistry → Option Hash32
  note : L1NoteRegistry → Option Hash32
  storage : StorageRegistry → Option Hash32
  proofMarket : ProofMarketState → Option Hash32
  bns : BnsRegistry → Option Hash32
  nft : NftRegistry → Option Hash32
  identity : IdentityRegistry → Option Hash32
  vault : VaultRegistry → Option Hash32
  budlumxyz : BudlumxyzRegistry → Option Hash32
  registry : PermissionlessRegistry → Option Hash32
  liveness : LivenessTracker → Option Hash32
  governance : GovernanceState → Option Hash32

namespace Encode

def tokenomics (p : TokenomicsParams) : Bytes :=
  [p.community, p.liquidity, p.ecosystem, p.team, p.burnReserve, p.epochsPerYear,
    p.annualBurnRatioFixed, p.teamCliffEpochs, p.teamVestingEpochs, p.txFeeBurnRatioFixed,
    p.blockReward, p.slotDurationSecs, p.epochLengthSlots,
    p.validatorAnnualYieldRatioFixed].flatMap u64Bytes

def timedBurn (t : TimedBurnState) : Bytes := u64Bytes t.yearsBurned ++ u64Bytes t.totalBurned

def vesting (v : VestingSchedule) : Bytes :=
  [v.total, v.startEpoch, v.cliffEpochs, v.durationEpochs].flatMap u64Bytes

def domainUnfreeze (u : PendingDomainUnfreeze) : Bytes :=
  u32Bytes u.domainId ++ hashBytes u.expectedValidatorSetHash ++ hashBytes u.justificationHash

end Encode

/-- The four consensus keys of a validator, each behind its length. -/
def Validator.keyBytes (v : Validator) : Bytes :=
  [v.vrfPublicKey, v.blsPublicKey, v.popSignature, v.pqPublicKey].flatMap Encode.bytes

namespace AccountState

variable (C : Crypto) (R : RegistryRoots) (s : AccountState)

def accountNode (l r : Hash32) : Hash32 := C.sha256 (1 :: (hashBytes l ++ hashBytes r))

def accountLeaf (a : Address) (acc : Account) : Hash32 :=
  C.sha256 (0 :: (hashBytes a ++ u64Bytes acc.balance ++ u64Bytes acc.nonce))

def accountLeaves : List Hash32 := s.accounts.entries.map fun e => accountLeaf C e.1 e.2

/-- The root over the accounts; a node without a sibling is paired with itself. -/
def accountsRoot : Hash32 :=
  (Merkle.root (accountNode C) (fun x => accountNode C x x) (s.accountLeaves C)).getD 0

/-- One digest for a list of digests, zero for none. -/
def combined (digests : List Hash32) : Hash32 :=
  if digests.isEmpty then 0 else C.sha256 (digests.flatMap hashBytes)

def validatorBytes (a : Address) (v : Validator) : Bytes :=
  hashBytes a ++ u64Bytes v.stake ++ boolByte v.active ++ boolByte v.slashed ++
    boolByte v.jailed ++ u64Bytes v.jailUntil ++ u64Bytes (v.lastProposedBlock.getD 0) ++
    u64Bytes v.votesFor ++ u64Bytes v.votesAgainst ++ v.keyBytes

def validatorsRoot : Hash32 :=
  combined C (s.validators.entries.map fun e => C.sha256 (validatorBytes e.1 e.2))

/-- The unbonding queue in the order of addresses and release epochs. -/
def sortedUnbonding : List UnbondingEntry :=
  s.unbondingQueue.mergeSort fun a b =>
    decide (a.address < b.address ∨ (a.address = b.address ∧ a.releaseEpoch ≤ b.releaseEpoch))

def unbondingRoot : Hash32 :=
  combined C (s.sortedUnbonding.map fun e =>
    C.sha256 (hashBytes e.address ++ u64Bytes e.amount ++ u64Bytes e.releaseEpoch))

/-- A tagged root, or nothing. -/
def tagged (tag : String) (root : Option Hash32) : Bytes :=
  root.elim [] fun r => textBytes tag ++ hashBytes r

/-- The roots of the registries, in the order they are hashed. -/
def registryBytes : Bytes :=
  tagged "ai_v1" (R.ai s.aiRegistry) ++ tagged "note_v1" (R.note s.noteRegistry) ++
    tagged "storage_v1" (R.storage s.storageRegistry) ++
    tagged "proof_market_v1" (R.proofMarket s.proofMarket) ++
    tagged "bns_v1" (R.bns s.bnsRegistry) ++ tagged "socialfi_v1" (R.nft s.nftRegistry) ++
    tagged "identity_v1" (R.identity s.identity) ++ tagged "vault_v1" (R.vault s.vault) ++
    tagged "pollen_v1" (some (R.marketplace s.marketplace)) ++
    tagged "hub_v1" (R.budlumxyz s.budlumxyz) ++ tagged "registry_v1" (R.registry s.registry) ++
    tagged "liveness_v1" (R.liveness s.liveness) ++
    (if s.externalRoots.size = 0 then [] else
      textBytes "external_roots_v1" ++
        Encode.list (fun (d, r) => u32Bytes d ++ hashBytes r) s.externalRoots.entries) ++
    tagged "governance_v1" (R.governance s.governance)

/-- What is hashed after the roots of the accounts and the validators. -/
def stateRootRest : Bytes :=
  hashBytes (s.unbondingRoot C) ++ u64Bytes s.baseFee ++
    u64Bytes s.tokenomics.blockReward ++
    textBytes "tokenomics_v1" ++ Encode.tokenomics s.tokenomics ++
    textBytes "timed_burn_v1" ++ Encode.timedBurn s.timedBurn ++
    textBytes "burn_reserve_v1" ++ Encode.option hashBytes s.burnReserveAddress ++
    textBytes "team_vesting_v1" ++
    Encode.option (fun (a, v) => hashBytes a ++ Encode.vesting v) s.teamVesting ++
    hashBytes s.bridgeRoot ++ hashBytes s.messageRoot ++ hashBytes s.settlementRoot ++
    s.registryBytes R ++ hashBytes s.globalHeaderSummary ++
    (if s.pendingDomainUnfreezes.isEmpty then [] else
      textBytes "domain_unfreeze_v1" ++ Encode.list Encode.domainUnfreeze s.pendingDomainUnfreezes) ++
    textBytes "gov_disabled"

/-- The bytes the state root is the digest of, for a root over the accounts. -/
def stateRootPreimageOver (accountsRoot : Hash32) : Bytes :=
  textBytes "v2" ++ u64Bytes s.epochIndex ++ hashBytes accountsRoot ++
    hashBytes (s.validatorsRoot C) ++ s.stateRootRest C R

/-- The bytes the state root is the digest of. -/
def stateRootPreimage : Bytes := s.stateRootPreimageOver C R (s.accountsRoot C)

def calculateStateRoot : String := toHex (C.sha256 (s.stateRootPreimage C R))

/-- The roots a block writes into the state before the state is hashed. -/
def withRoots (settlementRoot : Hash32) : AccountState :=
  { s with
    bridgeRoot := R.bridge s.bridgeState
    messageRoot := R.message s.messageRegistry
    settlementRoot := settlementRoot
    globalHeaderSummary := 0 }

/-- The validators that count, in the order of addresses. -/
def getActiveValidators : List Validator := s.validators.values.filter Validator.counts

/-- The hash of the active validators; every one of them must have valid keys. -/
def consensusValidatorSetHash (L : Linked) (chainId : UInt64) : Except String String := do
  s.getActiveValidators.forM fun v =>
    Except.ensure (v.isConsensusReady && v.verifyPopIsValid L chainId &&
        L.vrfKeyValid v.vrfPublicKey && (L.validatePqKey v.pqPublicKey).toBool)
      s!"Active validator {toHex v.address} has incomplete or invalid consensus keys"
  return toHex (L.sha3 (textBytes "BDLM_CONSENSUS_VALIDATOR_SET_V1" ++ u64Bytes chainId ++
    leBytes 8 s.getActiveValidators.length ++ s.getActiveValidators.flatMap fun v =>
      hashBytes v.address ++ u64Bytes v.stake ++ v.keyBytes))

end AccountState

end Budlum
