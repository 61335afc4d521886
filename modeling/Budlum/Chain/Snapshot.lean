import Budlum.Chain.FinalityCert
import Budlum.Core.BlockHash
import Budlum.Core.StateRoot

/-!
# Snapshots of the state

A snapshot carries an account state from one node to another.  The first format holds balances,
nonces and validators only.  The second one holds nearly everything; what it leaves out is set to a
fixed value when the state is rebuilt: the admissions to permissioned domains, the boosts still to be
shared out and the unfreezes still to be carried out.
-/

namespace Budlum

structure StateSnapshot where
  height : UInt64
  blockHash : String
  chainId : UInt64
  balances : OrdMap Address UInt64
  nonces : OrdMap Address UInt64
  finalizedHeight : UInt64
  finalizedHash : String
  validators : OrdMap Address Validator
  snapshotHash : String

/-- Whether a snapshot has to be signed. -/
inductive SnapshotTrustPolicy where
  | allowUnsigned
  | requireSigned
  deriving DecidableEq, Repr

structure TokenomicsBurnSnapshot where
  timedBurn : TimedBurnState
  burnReserveAddress : Option Address
  teamVesting : Option (Address × VestingSchedule)

structure StateSnapshotV2 where
  schemaVersion : UInt32
  height : UInt64
  blockHash : String
  genesisHash : String
  chainId : UInt64
  createdAt : U128
  balances : OrdMap Address UInt64
  nonces : OrdMap Address UInt64
  finalizedHeight : UInt64
  finalizedHash : String
  validators : OrdMap Address Validator
  unbondingQueue : List UnbondingEntry
  finalityCertificates : List FinalityCert
  epochIndex : UInt64
  lastEpochTime : UInt64
  baseFee : UInt64
  blockReward : UInt64
  bridgeRoot : Hash32
  messageRoot : Hash32
  settlementRoot : Hash32
  globalHeaderSummary : Hash32
  tokenomics : TokenomicsParams
  tokenomicsBurn : Option TokenomicsBurnSnapshot
  registry : Option PermissionlessRegistry
  liveness : Option LivenessTracker
  bnsRegistry : Option BnsRegistry
  nftRegistry : Option NftRegistry
  marketplace : Option MarketplaceRegistry
  budlumxyz : Option BudlumxyzRegistry
  governance : Option GovernanceState
  storageRegistry : Option StorageRegistry
  aiRegistry : Option AiRegistry
  noteRegistry : Option L1NoteRegistry
  bridgeState : Option BridgeState
  poaOnboarding : Option PoAOnboarding
  messageRegistry : Option CrossDomainMessageRegistry
  externalRoots : Option (OrdMap DomainId Hash32)
  proofMarket : Option ProofMarketState
  identity : Option IdentityRegistry
  vault : Option VaultRegistry
  manifestSigner : Option Hash32
  manifestSignature : Option Bytes
  trustPolicy : SnapshotTrustPolicy
  snapshotHash : String

/-- The serializers that snapshots go through, and the check of signing keys. -/
structure SnapshotLinks where
  /-- The wire format of the second kind of snapshot. -/
  parseV2 : Bytes → Option StateSnapshotV2
  /-- The registries, the trust policy and the certificates of a snapshot, in the form they enter
  its digest. -/
  encodeRegistries : StateSnapshotV2 → Bytes
  /-- `VerifyingKey::from_bytes` accepts the key. -/
  verifyingKeyValid : Hash32 → Bool

/-! ### Digests -/

/-- Three consensus keys of a validator, each behind its length. -/
def Validator.signingKeyBytes (v : Validator) : Bytes :=
  [v.blsPublicKey, v.popSignature, v.pqPublicKey].flatMap Encode.bytes

namespace Encode

def amounts (m : OrdMap Address UInt64) : Bytes :=
  m.entries.flatMap fun (a, n) => hashBytes a ++ u64Bytes n

def snapshotValidators (m : OrdMap Address Validator) : Bytes :=
  m.entries.flatMap fun (a, v) => hashBytes a ++ u64Bytes v.stake ++ boolByte v.active ++
    boolByte v.slashed ++ boolByte v.jailed ++ u64Bytes v.jailUntil ++ v.signingKeyBytes

def unbonding (e : UnbondingEntry) : Bytes :=
  hashBytes e.address ++ u64Bytes e.amount ++ u64Bytes e.releaseEpoch

end Encode

def StateSnapshot.calculateHash (C : Crypto) (p : StateSnapshot) : String :=
  toHex (C.sha3 (u64Bytes p.height ++ textBytes p.blockHash ++ u64Bytes p.chainId ++
    Encode.amounts p.balances ++ Encode.amounts p.nonces ++ Encode.snapshotValidators p.validators ++
    u64Bytes p.finalizedHeight ++ textBytes p.finalizedHash))

def StateSnapshot.verify (C : Crypto) (p : StateSnapshot) : Bool :=
  decide (p.snapshotHash = p.calculateHash C)

def minSupportedStateSnapshotSchemaVersion : UInt32 := 2
def currentStateSnapshotSchemaVersion : UInt32 := 6
def maxSnapshotBytes : Nat := 512 * 1024 * 1024

namespace StateSnapshotV2

variable (C : Crypto) (S : SnapshotLinks) (p : StateSnapshotV2)

/-- Schemas before the fourth hash less. -/
def calculateDigest : Hash32 :=
  C.sha3 ((if 4 ≤ p.schemaVersion then textBytes "budlum.snapshot.v4" else []) ++
    u32Bytes p.schemaVersion ++ u64Bytes p.height ++ Encode.string p.blockHash ++
    Encode.string p.genesisHash ++ u64Bytes p.chainId ++ Encode.amounts p.balances ++
    Encode.amounts p.nonces ++ Encode.snapshotValidators p.validators ++
    p.unbondingQueue.flatMap Encode.unbonding ++ u64Bytes p.finalizedHeight ++
    textBytes p.finalizedHash ++ u64Bytes p.epochIndex ++ u64Bytes p.lastEpochTime ++
    u64Bytes p.baseFee ++ u64Bytes p.blockReward ++ hashBytes p.bridgeRoot ++
    hashBytes p.messageRoot ++ hashBytes p.settlementRoot ++ hashBytes p.globalHeaderSummary ++
    (if 4 ≤ p.schemaVersion then S.encodeRegistries p ++ leBytes 16 p.createdAt.val else []))

def calculateHash : String := toHex (p.calculateDigest C S)

def verify : Bool := decide (p.snapshotHash = p.calculateHash C S)

/-- The digest, and the signature where one is asked for. -/
def verifyAuthentic (trusted : List Hash32) : Except String Unit := do
  Except.ensure (p.verify C S) "snapshot digest mismatch"
  match p.trustPolicy with
  | .allowUnsigned => .ok ()
  | .requireSigned => do
    let signer ← Except.ofOption p.manifestSigner "RequireSigned: manifest_signer missing"
    let signature ← Except.ofOption p.manifestSignature
      "RequireSigned: manifest_signature missing"
    Except.ensure (trusted.contains signer) "manifest signer not in trust list"
    Except.ensure (S.verifyingKeyValid signer) "invalid signer pubkey"
    Except.ensure (decide (signature.length = 64)) "invalid signature length"
    (C.verifySignature (hashBytes (p.calculateDigest C S)) signature (hashBytes signer)).mapError
      fun _ => "signature verification failed"

/-- Read a snapshot.  An older schema is raised to the current one and hashed again. -/
def fromBytes (data : Bytes) : Option StateSnapshotV2 := do
  if maxSnapshotBytes < data.length then none
  let p ← S.parseV2 data
  if p.schemaVersion < minSupportedStateSnapshotSchemaVersion ∨
      currentStateSnapshotSchemaVersion < p.schemaVersion then none
  if p.schemaVersion < currentStateSnapshotSchemaVersion then
    let p := { p with schemaVersion := currentStateSnapshotSchemaVersion }
    return { p with snapshotHash := p.calculateHash C S }
  return p

/-- What a snapshot says beside the state. -/
structure Params where
  height : UInt64
  blockHash : String
  genesisHash : String
  chainId : UInt64
  finalizedHeight : UInt64
  finalizedHash : String
  finalityCertificates : List FinalityCert

def fromState (now : U128) (s : AccountState) (params : Params) : StateSnapshotV2 :=
  let p : StateSnapshotV2 :=
    { schemaVersion := currentStateSnapshotSchemaVersion
      height := params.height
      blockHash := params.blockHash
      genesisHash := params.genesisHash
      chainId := params.chainId
      createdAt := now
      balances := s.accounts.map fun _ a => a.balance
      nonces := s.accounts.map fun _ a => a.nonce
      finalizedHeight := params.finalizedHeight
      finalizedHash := params.finalizedHash
      validators := s.validators
      unbondingQueue := s.unbondingQueue
      finalityCertificates := params.finalityCertificates
      epochIndex := s.epochIndex
      lastEpochTime := s.lastEpochTime
      baseFee := s.baseFee
      blockReward := s.tokenomics.blockReward
      bridgeRoot := s.bridgeRoot
      messageRoot := s.messageRoot
      settlementRoot := s.settlementRoot
      globalHeaderSummary := s.globalHeaderSummary
      tokenomics := s.tokenomics
      tokenomicsBurn := some ⟨s.timedBurn, s.burnReserveAddress, s.teamVesting⟩
      registry := some s.registry
      liveness := some s.liveness
      bnsRegistry := some s.bnsRegistry
      nftRegistry := some s.nftRegistry
      marketplace := some s.marketplace
      budlumxyz := some s.budlumxyz
      governance := some s.governance
      storageRegistry := some s.storageRegistry
      aiRegistry := some s.aiRegistry
      noteRegistry := some s.noteRegistry
      bridgeState := some s.bridgeState
      poaOnboarding := some s.poaOnboarding
      messageRegistry := some s.messageRegistry
      externalRoots := some s.externalRoots
      proofMarket := some s.proofMarket
      identity := some s.identity
      vault := some s.vault
      manifestSigner := none
      manifestSignature := none
      trustPolicy := .allowUnsigned
      snapshotHash := "" }
  { p with snapshotHash := p.calculateHash C S }

end StateSnapshotV2

/-! ### Rebuilt states -/

namespace AccountState

/-- Accounts from balances; an account without a nonce starts at zero. -/
def accountsOf (balances nonces : OrdMap Address UInt64) : OrdMap Address Account :=
  balances.map fun a balance => ⟨balance, nonces.getD a 0⟩

/-- The epoch is guessed from the height, everything but accounts and validators is new. -/
def fromSnapshot (p : StateSnapshot) : AccountState :=
  { accounts := accountsOf p.balances p.nonces
    validators := p.validators
    epochIndex := p.height / 100 }

def fromSnapshotV2 (p : StateSnapshotV2) : AccountState :=
  { accounts := accountsOf p.balances p.nonces
    validators := p.validators
    tokenomics := { p.tokenomics with blockReward := p.blockReward }
    timedBurn := (p.tokenomicsBurn.map (·.timedBurn)).getD {}
    burnReserveAddress := p.tokenomicsBurn.bind (·.burnReserveAddress)
    teamVesting := p.tokenomicsBurn.bind (·.teamVesting)
    storageRegistry := p.storageRegistry.getD {}
    aiRegistry := p.aiRegistry.getD {}
    noteRegistry := p.noteRegistry.getD {}
    bridgeState := p.bridgeState.getD {}
    poaOnboarding := p.poaOnboarding.getD {}
    messageRegistry := p.messageRegistry.getD {}
    unbondingQueue := p.unbondingQueue
    epochIndex := p.epochIndex
    currentBlockHeight := p.height
    lastEpochTime := p.lastEpochTime
    bnsRegistry := p.bnsRegistry.getD {}
    nftRegistry := p.nftRegistry.getD {}
    identity := p.identity.getD {}
    vault := p.vault.getD {}
    marketplace := p.marketplace.getD {}
    budlumxyz := p.budlumxyz.getD {}
    governance := p.governance.getD {}
    externalRoots := p.externalRoots.getD ∅
    baseFee := p.baseFee
    bridgeRoot := p.bridgeRoot
    messageRoot := p.messageRoot
    settlementRoot := p.settlementRoot
    globalHeaderSummary := p.globalHeaderSummary
    registry := p.registry.getD .new
    liveness := p.liveness.getD {}
    proofMarket := p.proofMarket.getD {} }

theorem accountsOf_map (accounts : OrdMap Address Account) :
    accountsOf (accounts.map fun _ a => a.balance) (accounts.map fun _ a => a.nonce) = accounts := by
  refine OrdMap.ext_get fun k => ?_
  simp only [accountsOf, OrdMap.getD, OrdMap.get_map, Option.map_map]
  cases accounts.get k <;> rfl

/-- A state that went through a snapshot at its own height: the admissions, the boosts and the
unfreezes are gone. -/
theorem fromSnapshotV2_fromState (C : Crypto) (S : SnapshotLinks) (now : U128) (s : AccountState)
    (params : StateSnapshotV2.Params) (hheight : params.height = s.currentBlockHeight) :
    fromSnapshotV2 (.fromState C S now s params) =
      { s with poaAdmitted := ∅, pendingBudBoostShare := 0, pendingDomainUnfreezes := [] } := by
  simp only [fromSnapshotV2, StateSnapshotV2.fromState, accountsOf_map, hheight]
  rfl

end AccountState

end Budlum
