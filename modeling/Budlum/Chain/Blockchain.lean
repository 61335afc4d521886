import Budlum.Chain.BlockEffects
import Budlum.Chain.Genesis
import Budlum.Consensus.QcBlob
import Budlum.Domain.Registry
import Budlum.Mempool.Pool

/-!
# The node

A node holds a chain, the state after its last block, the consensus engine, the mempool, and what
it knows about finality, domains and relays.  Blocks come in one at a time
(`Blockchain.validateAndAddBlock`) or are the node's own (`Blockchain.produceBlock`).

`Blockchain.validateAndAddBlock_eq_ok` and `Blockchain.produceBlock_ensures` say everything the two
can do to a node: the checks that passed, and `Blockchain.commitBlock` of the state that
`AccountState.applyBlockEffects` computes.
-/

namespace Budlum

/-! ### The shards commitment

From a configured height on a block also commits to the accounts by shard: one hash tree per shard,
and a tree over their roots.  A node without a sibling is paired with itself. -/

def maxShards : Nat := 64

structure ShardingConfig where
  enabled : Bool := false
  numShards : Nat := 1
  activationHeight : UInt64 := 0
  deriving DecidableEq

def ShardingConfig.isActiveAt (c : ShardingConfig) (height : UInt64) : Bool :=
  c.enabled && decide (2 ≤ c.numShards) && decide (c.activationHeight ≤ height)

section Shards

variable (C : Crypto)

/-- The number of shards, inside its bounds. -/
def clampShards (numShards : Nat) : Nat := min (max numShards 1) maxShards

/-- The shard of an address, by its first byte. -/
def shardOf (a : Address) (numShards : Nat) : Nat :=
  ((hashBytes a).headD 0).toNat % clampShards numShards

/-- The hash of an inner node. -/
def shardNode (left right : Hash32) : Hash32 := C.sha256 (1 :: hashBytes left ++ hashBytes right)

def shardRoot (leaves : List Hash32) : Option Hash32 :=
  Merkle.root (shardNode C) (fun node => shardNode C node node) leaves

def shardStateRoot (s : AccountState) (shard numShards : Nat) : Hash32 :=
  (shardRoot C ((s.accounts.entries.filter fun e => decide (shardOf e.1 numShards = shard)).map
    fun e => C.sha256 (0 :: hashBytes e.1 ++ u64Bytes e.2.balance ++ u64Bytes e.2.nonce))).getD
    (shardNode C 0 0)

def shardsCommitment (s : AccountState) (numShards : Nat) : Hash32 :=
  (shardRoot C ((List.range (clampShards numShards)).map fun shard =>
    shardStateRoot C s shard (clampShards numShards))).getD 0

end Shards

/-! ### The state of a node -/

structure Blockchain where
  chain : List Block
  consensus : ConsensusEngine
  mempool : Mempool
  state : AccountState
  /-- The kind of consensus the state's transactions run under. -/
  executionDomain : ConsensusKind
  chainId : UInt64
  genesisConfig : GenesisConfig
  genesisTime : U128
  finalizedHeight : UInt64
  finalizedHash : String
  sharding : ShardingConfig := {}
  verifiedQcBlobs : OrdMap UInt64 QcBlob := ∅
  validatorSnapshots : OrdMap UInt64 ValidatorSetSnapshot := ∅
  pendingFinalityCerts : OrdMap UInt64 (List FinalityCert) := ∅
  pendingSlashingEvidence : List SlashingEvidence := []
  domainRegistry : ConsensusDomainRegistry := {}
  domainCommitmentRegistry : DomainCommitmentRegistry := {}
  universalRelayer : UniversalRelayer := {}

def maxValidatorSnapshots : Nat := 100

namespace Blockchain

variable (N : NodeLinks) (bc : Blockchain)

/-! ### Validator sets and roots -/

/-- The validators of a state that can sign checkpoints. -/
def buildValidatorSnapshotFromState (epoch : UInt64) (s : AccountState) (chainId : UInt64) :
    ValidatorSetSnapshot :=
  .new N.toCrypto epoch ((s.getActiveValidators.filter fun v =>
      v.isConsensusReady && N.verifyPop v.blsPublicKey v.popSignature chainId v.address).map
    fun v => ⟨v.address, v.stake, v.blsPublicKey, v.popSignature, v.pqPublicKey⟩)

/-- Keep the validators of an epoch; the oldest epochs go first. -/
def recordValidatorSnapshot (epoch : UInt64) : Blockchain :=
  let snapshot := buildValidatorSnapshotFromState N epoch bc.state bc.chainId
  { bc with
    validatorSnapshots := (bc.validatorSnapshots.insert epoch snapshot).keepLast maxValidatorSnapshots }

/-- The hashes of the checkpoints that are settled: deep enough, and not too old. -/
def settlementFinalityWindow : List Hash32 :=
  let interval := (finalityCheckpointIntervalForChainId bc.chainId).toNat
  let tip := bc.chain.length - 1
  let newest := tip - ReplayNonceStore.finalityPruneDepth.toNat
  let oldest := tip - settledRetentionBlocks.toNat
  if interval = 0 then []
  else bc.chain.zipIdx.filterMap fun (b, height) =>
    if height = 0 ∨ height % interval ≠ 0 ∨ height < oldest ∨ newest < height then none
    else hash32OfHex b.hash

/-- The state with the roots that a block on top of the chain commits to. -/
def withBlockRoots (s : AccountState) : AccountState :=
  s.withRoots N.roots (merkleRoot N.toCrypto bc.settlementFinalityWindow)

/-- A node with nothing but its genesis.  `domains` are the domains the configuration starts with. -/
def new (consensus : ConsensusEngine) (chainId : UInt64) (g : GenesisConfig)
    (domains : ConsensusDomainRegistry) (pool : MempoolConfig) : Blockchain :=
  let genesis := g.buildGenesisBlock N.toLinked N.roots
  let s := g.buildState N.toLinked
  let bc : Blockchain :=
    { chain := [genesis]
      consensus := consensus
      mempool := { config := pool }
      state := { s with
        bridgeRoot := N.roots.bridge s.bridgeState
        messageRoot := N.roots.message s.messageRegistry }
      executionDomain := consensus.domainKind
      chainId := chainId
      genesisConfig := g
      genesisTime := genesis.timestamp
      finalizedHeight := 0
      finalizedHash := genesis.hash
      domainRegistry := domains }
  bc.recordValidatorSnapshot N s.epochIndex

/-- A node of the development network with an empty genesis. -/
def sample : Blockchain := .new .sample (.poa {}) Network.devnet.chainId {} {} {}

/-! ### Accepting blocks -/

/-- A block may not contradict the finalized part of the chain. -/
def checkFinalized (b : Block) : Except String Unit :=
  if b.index ≤ bc.finalizedHeight ∧ b.hash ≠ bc.finalizedHash then
    match bc.chain[b.index.toNat]? with
    | some held => Except.ensure (decide (held.hash = b.hash))
        s!"Block at height {b.index} conflicts with finalized checkpoint"
    | none => .error s!"Block at height {b.index} is below finalized height {bc.finalizedHeight}"
  else .ok ()

/-- The block is the next one of this chain, and its hashes are its own. -/
def checkHeader (b : Block) : Except String Unit := do
  let expected := UInt64.ofNat bc.chain.length
  Except.ensure (decide (b.index = expected))
    s!"Block height discontinuity: expected {expected}, got {b.index}"
  Except.ensure (decide (b.chainId = bc.chainId))
    s!"Invalid Chain ID: expected {bc.chainId}, got {b.chainId}"
  let txRoot := b.calculateTxRoot N.toLinked
  Except.ensure (decide (b.txRoot = txRoot)) s!"tx_root mismatch: expected {txRoot}, got {b.txRoot}"
  let hash := b.calculateHash N.toLinked
  Except.ensure (decide (b.hash = hash)) s!"block hash mismatch: expected {hash}, got {b.hash}"
  Except.ensure (decide (b.index = 0) || decide (b.stateRoot ≠ "")) "Block missing state_root"

/-- The transaction at position `i` of a block, against the state its predecessors leave. -/
def checkTransaction (domain : ConsensusKind) (b : Block) (tx : Transaction) (i : Nat) :
    EStateM (Fault String) AccountState Unit := do
  EStateM.ensure (decide (tx.chainId = b.chainId)) (.fail
    s!"Invalid transaction at index {i}: Chain ID mismatch. Expected {b.chainId}, got {tx.chainId}")
  EStateM.ensure (decide (b.index = 0) || decide (tx.sender ≠ Address.zero)) (.fail
    s!"Invalid transaction at index {i}: 'genesis' transactions only allowed in genesis block")
  if 0 < b.index then
    EStateM.ofExcept (((← get).validateTransaction N.toLinked tx).mapError
      fun e => .fail s!"Invalid transaction at index {i}: {e}")
  EStateM.mapError (Fault.map fun e => s!"Failed to apply transaction at index {i}: {e.display}")
    (Executor.applyTransactionChecked N.toLinked tx domain)

/-- Every transaction of a block, one after the other. -/
def checkTransactions (domain : ConsensusKind) (b : Block) :
    EStateM (Fault String) AccountState Unit := do
  modify fun s => { s with currentBlockHeight := b.index }
  b.transactions.zipIdx.forM fun (tx, i) => checkTransaction N domain b tx i

/-- The shards of the state are the ones the block commits to, once there are shards. -/
def checkShards (b : Block) (s : AccountState) : Except String Unit :=
  if bc.sharding.isActiveAt b.index then do
    let expected := shardsCommitment N.toCrypto s bc.sharding.numShards
    let actual ← Except.ofOption b.shardsRoot
      s!"Block {b.index} is missing the shards commitment required from height {bc.sharding.activationHeight}"
    Except.ensure (decide (actual = expected))
      s!"Shards commitment mismatch: expected {toHex expected}, got {toHex actual}"
  else .ok ()

/-- The state the block leads to is the one it commits to.  Genesis is not checked. -/
def checkRoots (b : Block) (s : AccountState) : Except String Unit :=
  if b.index = 0 then .ok ()
  else do
    let root := s.calculateStateRoot N.toCrypto N.roots
    Except.ensure (decide (root = b.stateRoot))
      s!"State root mismatch: expected {b.stateRoot}, got {root}"
    bc.checkShards N b s

/-- Carry out the unfreezes that governance has decided. -/
def applyPendingDomainUnfreezes : Blockchain :=
  { bc with
    domainRegistry := bc.state.pendingDomainUnfreezes.foldl
      (fun r u => r.unfreeze u.domainId u.expectedValidatorSetHash) bc.domainRegistry
    state := { bc.state with pendingDomainUnfreezes := [] } }

/-- The state a block commits: with the roots written, except at genesis. -/
def committedState (b : Block) (s : AccountState) : AccountState :=
  if b.index = 0 then s else bc.withBlockRoots N s

/-- Put a block on top of the chain, with the state it leads to. -/
def commitBlock (b : Block) (s : AccountState) : Blockchain :=
  let bc := { bc with state := s }.applyPendingDomainUnfreezes
  let bc := { bc with universalRelayer := bc.universalRelayer.sweepRetired b.index }
  let bc := bc.recordValidatorSnapshot N bc.state.epochIndex
  let chain := bc.chain ++ [b]
  { bc with
    chain := chain
    consensus := bc.consensus.recordBlock N bc.chainId b chain
    mempool := (b.transactions.foldl (fun p tx => p.removeTransaction tx.hash) bc.mempool).setMinFee
      bc.state.baseFee }

/-- Accept a block from outside at the time `now`; the content of the tokens it burns, and the node
with the block.  A refused block changes nothing. -/
def validateAndAddBlock (now : U128) (b : Block) :
    Except (Fault String) (List ContentId × Blockchain) := do
  (bc.checkFinalized b).orFail
  (bc.checkHeader N b).orFail
  (bc.consensus.fullValidate N now b bc.chain bc.state).mapError
    (Fault.map fun e => s!"Consensus validation failed: Consensus error: {e}")
  let _ ← (checkTransactions N bc.executionDomain b).exec bc.state
  let s ← bc.state.applyBlockEffects N.toLinked bc.executionDomain b bc.chain
  let s := bc.committedState N b s
  (bc.checkRoots N b s).orFail
  return (bc.state.collectNftBurnCidsFromState N.toLinked b,
    bc.commitBlock N b s)

/-- Everything that was checked when a block was accepted; `s` is the state after its effects. -/
structure Accepts (now : U128) (b : Block) (s : AccountState) : Prop where
  finalized : bc.checkFinalized b = .ok ()
  header : bc.checkHeader N b = .ok ()
  consensus : bc.consensus.fullValidate N now b bc.chain bc.state = .ok ()
  transactions : ∃ t, (checkTransactions N bc.executionDomain b).run bc.state = .ok () t
  effects : bc.state.applyBlockEffects N.toLinked bc.executionDomain b bc.chain = .ok s
  roots : bc.checkRoots N b (bc.committedState N b s) = .ok ()

theorem validateAndAddBlock_eq_ok {now : U128} {b : Block} {burned : List ContentId}
    {bc' : Blockchain} :
    bc.validateAndAddBlock N now b = .ok (burned, bc') ↔
      ∃ s, bc.Accepts N now b s ∧ burned = bc.state.collectNftBurnCidsFromState N.toLinked b ∧
        bc' = bc.commitBlock N b (bc.committedState N b s) := by
  simp only [validateAndAddBlock, Except.ok_iff, Except.orFail_eq_ok, Except.mapError_eq_ok,
    Prod.exists, EStateM.exec_eq_ok]
  constructor
  · rintro ⟨_, hfin, _, hhead, _, hcons, _, t, htxs, s, heff, _, hroot, rfl, rfl⟩
    exact ⟨s, ⟨hfin, hhead, hcons, ⟨t, htxs⟩, heff, hroot⟩, rfl, rfl⟩
  · rintro ⟨s, ⟨hfin, hhead, hcons, ⟨t, htxs⟩, heff, hroot⟩, rfl, rfl⟩
    exact ⟨(), hfin, (), hhead, (), hcons, (), t, htxs, s, heff, (), hroot, rfl, rfl⟩

/-! ### Producing blocks -/

/-- What filling a block carries along: the transactions chosen, the scratch state they were tried
on, and the number of contract calls. -/
structure Selection where
  chosen : List Transaction := []
  scratch : AccountState
  contractCalls : UInt64 := 0

/-- The contract calls of the block stay inside its gas budget with one more. -/
def callFits (calls : UInt64) : Bool :=
  decide ((calls + 1).saturatingMul Executor.defaultContractGasLimit ≤ Executor.maxBlockContractGas)

/-- Try one transaction.  One that fails leaves its writes in the scratch state; one that stops the
process has no result. -/
def tryTransaction (domain : ConsensusKind) (sel : Selection) (tx : Transaction) :
    Option Selection :=
  if maxTransactionsPerBlock ≤ sel.chosen.length ∨
      sel.chosen.any (fun t => decide (t.hash = tx.hash)) then some sel
  else match sel.scratch.validateTransaction N.toLinked tx with
    | .error _ => some sel
    | .ok _ =>
      let isCall := decide (tx.txType = .contractCall)
      if isCall && !callFits sel.contractCalls then some sel
      else match (Executor.applyTransactionChecked N.toLinked tx domain).run sel.scratch with
        | .ok _ scratch => some
          { chosen := sel.chosen ++ [tx]
            scratch := scratch
            contractCalls := if isCall then sel.contractCalls + 1 else sel.contractCalls }
        | .error (.fail _) scratch => some { sel with scratch := scratch }
        | .error .panic _ => none

/-- Go over the waiting transactions until a round adds none.  Every other round adds one, so one
round more than there are transactions is enough. -/
def selectTransactions (domain : ConsensusKind) (pending : List Transaction) :
    (left : Nat) → Selection → Option Selection
  | 0, sel => some sel
  | left + 1, sel => do
    let next ← pending.foldlM (tryTransaction N domain) sel
    if sel.chosen.length < next.chosen.length ∧ next.chosen.length < maxTransactionsPerBlock then
      selectTransactions domain pending left next
    else return next

def collectBlockTransactions : Option (List Transaction) := do
  let pending := bc.mempool.getSortedTransactions maxTransactionsPerBlock
  let scratch := { bc.state with currentBlockHeight := UInt64.ofNat bc.chain.length }
  let sel ← selectTransactions N bc.executionDomain pending (pending.length + 1)
    { scratch := scratch }
  return sel.chosen

/-- The hash of the validator set, or a text that no set hashes to. -/
def getValidatorSetHash : String :=
  match bc.state.consensusValidatorSetHash N.toLinked bc.chainId with
  | .ok hash => hash
  | .error _ => "INVALID_CONSENSUS_VALIDATOR_SET"

/-- The block before the engine has seen it. -/
def draftBlock (now : U128) (producer : Address) : Option Block := do
  let index := UInt64.ofNat bc.chain.length
  let transactions ← bc.collectBlockTransactions N
  let b := Block.newWithChainId N.toLinked now index ((bc.chain.getLast?.map (·.hash)).getD zeroHash)
    transactions bc.chainId
  let time := bc.genesisTime.val + index.toNat * (slotMsForChainId bc.chainId).toNat
  let timestamp ← if h : time < 2 ^ 128 then some (⟨time, h⟩ : U128) else none
  return { b with
    slashingEvidence := if bc.pendingSlashingEvidence.isEmpty then none
      else some bc.pendingSlashingEvidence
    producer := some producer
    timestamp := timestamp
    validatorSetHash := bc.getValidatorSetHash N }

/-- Run the engine on a block. -/
def withConsensus {α : Type} (m : EStateM (Fault String) ConsensusEngine α) :
    EStateM (Fault String) Blockchain α :=
  EStateM.zoom Blockchain.consensus (fun e bc => { bc with consensus := e }) id m

/-- Write the roots of the state a block leads to into the block. -/
def sealBlock (b : Block) (s : AccountState) : Block :=
  { b with
    stateRoot := s.calculateStateRoot N.toCrypto N.roots
    shardsRoot := if bc.sharding.isActiveAt b.index then
      some (shardsCommitment N.toCrypto s bc.sharding.numShards) else b.shardsRoot }

/-- Produce a block at the time `now`.  What the engine forgets on the way stays forgotten when no
block comes out. -/
def produceBlock (now : U128) (producer : Address) :
    EStateM (Fault String) Blockchain (Block × List ContentId) := do
  let draft ← EStateM.orThrow ((← get).draftBlock N now producer) .panic
  let bc ← get
  let b ← withConsensus (ConsensusEngine.previewBlockWithChain N draft bc.state bc.chain)
  let burned := bc.state.collectNftBurnCidsFromState N.toLinked b
  let s ← EStateM.ofExcept (bc.state.applyBlockEffects N.toLinked bc.executionDomain b bc.chain)
  let s := bc.withBlockRoots N s
  let b ← withConsensus (ConsensusEngine.prepareBlockWithChain N (bc.sealBlock N b s) bc.state bc.chain)
  EStateM.ofExcept ((← get).consensus.fullValidate N now b bc.chain bc.state)
  modify fun bc => { bc.commitBlock N b s with
    pendingSlashingEvidence := if b.slashingEvidence.isSome then [] else bc.pendingSlashingEvidence }
  return (b, burned)

/-- How a block came about: the draft, the draft with the engine's part, the state after its effects,
and the engine before and after it finished the block. -/
structure Produces (now : U128) (producer : Address) (b draft previewed : Block) (s : AccountState)
    (e e' : ConsensusEngine) : Prop where
  drafted : bc.draftBlock N now producer = some draft
  preview : (ConsensusEngine.previewBlockWithChain N draft bc.state bc.chain).run bc.consensus =
    .ok previewed e
  effects : bc.state.applyBlockEffects N.toLinked bc.executionDomain previewed bc.chain = .ok s
  prepare : (ConsensusEngine.prepareBlockWithChain N
    (bc.sealBlock N previewed (bc.withBlockRoots N s)) bc.state bc.chain).run e = .ok b e'
  validate : e'.fullValidate N now b bc.chain bc.state = .ok ()

/-- The node after a block of its own. -/
def withProduced (b : Block) (s : AccountState) (e : ConsensusEngine) : Blockchain :=
  { { bc with consensus := e }.commitBlock N b (bc.withBlockRoots N s) with
    pendingSlashingEvidence := if b.slashingEvidence.isSome then [] else bc.pendingSlashingEvidence }

open EStateM in
theorem withConsensus_bind {α β : Type} {m : EStateM (Fault String) ConsensusEngine α}
    {f : α → EStateM (Fault String) Blockchain β} {Q : β → Blockchain → Prop}
    (h : ∀ a e, m.run bc.consensus = .ok a e → (f a).Ensures { bc with consensus := e } Q) :
    (withConsensus m >>= f).Ensures bc Q :=
  ensures_bind.2 (ensures_zoom.2 h)

open EStateM in
theorem produceBlock_ensures (now : U128) (producer : Address) :
    (produceBlock N now producer).Ensures bc fun out bc' => ∃ draft previewed s e e',
      bc.Produces N now producer out.1 draft previewed s e e' ∧
        out.2 = bc.state.collectNftBurnCidsFromState N.toLinked previewed ∧
        bc' = bc.withProduced N out.1 s e' := by
  refine Ensures.get_bind <| Ensures.orThrow_bind fun draft hdraft => Ensures.get_bind <|
    withConsensus_bind bc fun previewed e hpreview => Ensures.ofExcept_bind fun s heffects =>
    withConsensus_bind _ fun b e' hprepare => Ensures.get_bind <|
    Ensures.ofExcept_bind fun _ hvalidate => Ensures.modify_bind <| ensures_pure.2 ?_
  exact ⟨draft, previewed, s, e, e', ⟨hdraft, hpreview, heffects, hprepare, hvalidate⟩, rfl, rfl⟩

end Blockchain

end Budlum
