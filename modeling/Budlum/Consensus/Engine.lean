import Budlum.Core.BlockHash
import Budlum.Core.StateRoot

/-!
# Consensus engines

A node validates and prepares blocks through its consensus engine: proof of work, proof of
authority or proof of stake.  The first two only carry their configuration; the third remembers the
blocks it has seen, evidence of double signing and checkpoints.

What every engine checks on its own is `ConsensusEngine.validateBlock`; `fullValidate` puts the
clock and the size of the block in front of it.
-/

namespace Budlum

open Except (ensure ofOption orFail)

/-- What a node links on top of block application: the roots of its registries, serialized lengths,
the pieces of the VRF and the attestations of checkpoints. -/
structure NodeLinks extends Linked where
  roots : RegistryRoots
  /-- The length of a block in its wire format. -/
  blockJsonLen : Block → Nat
  /-- `VRFPreOut::from_bytes` accepts the output. -/
  vrfOutputValid : Bytes → Bool
  /-- `VRFProof::from_bytes` accepts the proof. -/
  vrfProofValid : Bytes → Bool
  /-- The proof shows that the key maps the seed to the output. -/
  verifyVrf : (key : Bytes) → (seed : Hash32) → (output proof : Bytes) → Bool
  verifyPq : (key message signature : Bytes) → Except String Unit
  /-- The length of a transaction in its wire format. -/
  chargedBytes : Transaction → Nat

/-- Stand-ins to evaluate definitions with, on top of `Linked.sample`: every root is the same, and
every proof and attestation is good. -/
def NodeLinks.sample : NodeLinks where
  toLinked := .sample
  roots :=
    { bridge := fun _ => 0, message := fun _ => 0, marketplace := fun _ => 0, ai := fun _ => none
      note := fun _ => none, storage := fun _ => none, proofMarket := fun _ => none
      bns := fun _ => none, nft := fun _ => none, identity := fun _ => none, vault := fun _ => none
      budlumxyz := fun _ => none, registry := fun _ => none, liveness := fun _ => none
      governance := fun _ => none }
  blockJsonLen _ := 0
  vrfOutputValid _ := true
  vrfProofValid _ := true
  verifyVrf _ _ _ _ := true
  verifyPq _ _ _ := .ok ()
  chargedBytes _ := 0

/-- A digest that tells short texts apart, to evaluate with. -/
def textDigest (text : Bytes) : Hash32 := Fin.ofNat _ (text.foldl (fun n b => n * 257 + b.toNat + 1) 0)

def Crypto.telling : Crypto :=
  { Linked.sample.toCrypto with sha256 := textDigest, sha3 := textDigest }

/-- `NodeLinks.sample` with digests that differ. -/
def NodeLinks.telling : NodeLinks :=
  { NodeLinks.sample with toLinked := { Linked.sample with toCrypto := .telling } }

structure KeyPair where
  publicKey : Address
  sign : Bytes → Bytes

/-- A signer behind an interface; signing can fail. -/
structure ConsensusSigner where
  address : Address
  signBlock : Bytes → Except String Bytes

structure ValidatorKeys where
  sigKey : KeyPair
  /-- The output and the proof of the VRF on a seed. -/
  vrfSign : Hash32 → Bytes × Bytes

namespace Block

def sign (L : Linked) (b : Block) (kp : KeyPair) : Block :=
  let b := { b with producer := some kp.publicKey, producerPublicKey := [] }
  let digest := b.calculateHashBytes L
  { b with hash := toHex digest, signature := some (kp.sign (hashBytes digest)) }

def signWithSigner (L : Linked) (b : Block) (signer : ConsensusSigner) : Except String Block := do
  let b := { b with producer := some signer.address }
  let digest := b.calculateHashBytes L
  let signature ← (signer.signBlock (hashBytes digest)).mapError
    fun e => s!"HSM block signing failed: Block signing failed: {e}"
  return { b with hash := toHex digest, signature := some signature }

end Block

/-! ### Proof of work -/

structure PoWEngine where
  difficulty : Nat := 2
  targetBlockTime : UInt64 := 10
  adjustmentInterval : UInt64 := 100
  currentDifficulty : Nat := difficulty

namespace PoWEngine

variable (e : PoWEngine)

/-- The difficulty after an interval that took from `first` to `last`. -/
def adjustedDifficulty (current : Nat) (first last : Block) : Nat :=
  let actual := (last.timestamp.val - first.timestamp.val) / 1000
  let expected := (e.targetBlockTime.saturatingMul e.adjustmentInterval).toNat
  let ratio := min (max (expected * 100 / max actual 1) 25) 400
  min (max (current * ratio / 100) 1) 32

/-- Adjust the difficulty at one boundary of the chain. -/
def foldRetargetBoundary (chain : List Block) (difficulty boundary : Nat) : Nat :=
  match chain[boundary]?, chain[boundary + 1 - e.adjustmentInterval.toNat]? with
  | some last, some first =>
    if 0 < last.index ∧ last.index % e.adjustmentInterval = 0 then
      e.adjustedDifficulty difficulty first last
    else difficulty
  | _, _ => difficulty

/-- The difficulty of the block after a chain: adjusted at every whole interval. -/
def difficultyForNextBlock (chain : List Block) : Nat :=
  let interval := e.adjustmentInterval.toNat
  if interval = 0 then e.difficulty
  else ((List.range ((chain.length - 1) / interval)).map fun k => (k + 1) * interval).foldl
    (e.foldRetargetBoundary chain) e.difficulty

/-- The largest 256-bit word. -/
def maxWork : Nat := 2 ^ 256 - 1

def workOf (difficulty : Nat) : Nat := if 256 ≤ 4 * difficulty then maxWork else 2 ^ (4 * difficulty)

/-- The work in a chain, stopped at 256 bits.  Genesis carries none. -/
def accumulatedWork (chain : List Block) : Nat :=
  min ((List.range (chain.length - 1)).map fun k =>
    workOf (e.difficultyForNextBlock (chain.take (k + 1)))).sum maxWork

/-- The hash starts with enough zero bits. -/
def meetsDifficultyAt (hash : String) (difficulty : Nat) : Bool :=
  match decodeHex hash with
  | none => false
  | some bytes =>
    let fullBytes := 4 * difficulty / 8
    let remaining := 4 * difficulty % 8
    decide (fullBytes + (if 0 < remaining then 1 else 0) ≤ bytes.length) &&
      (bytes.take fullBytes).all (decide <| · = 0) &&
      (decide (remaining = 0) ||
        decide (((bytes.drop fullBytes).headD 0).toNat / 2 ^ (8 - remaining) = 0))

/-- Try the nonces from the block's own on; `none` when the last one fails too. -/
def mineFrom (L : Linked) (difficulty : Nat) : (left : Nat) → Block → Option Block
  | left, b =>
    if meetsDifficultyAt b.hash difficulty then some b
    else match left with
      | 0 => none
      | left + 1 =>
        let b := { b with nonce := b.nonce + 1 }
        mineFrom L difficulty left { b with hash := b.calculateHash L }

def mineAtDifficulty (L : Linked) (b : Block) (difficulty : Nat) : Option Block :=
  mineFrom L difficulty (UInt64.maxValue.toNat - b.nonce.toNat) b

end PoWEngine

/-! ### Proof of authority -/

structure PoAEngine where
  domain : DomainId := 0
  keypair : Option KeyPair := none
  signer : Option ConsensusSigner := none
  authorities : List Address := []

namespace PoAEngine

variable (e : PoAEngine)

/-- The bytes of a hash that choose the leader. -/
def leaderEntropy (hash : String) : Bytes :=
  match decodeHex hash with
  | some bytes => if bytes.length = 32 then bytes else List.replicate 32 255
  | none => List.replicate 32 255

/-- The operator's own list narrows the authorities, if there is one. -/
def narrowToOperatorList (vs : List Validator) : List Validator :=
  if e.authorities.isEmpty then vs else vs.filter fun v => decide (v.address ∈ e.authorities)

/-- Who may produce blocks: the active validators that the domain admits. -/
def activeAuthorities (s : AccountState) : List Validator :=
  if s.poaOnboarding.isPermissioned e.domain then
    let admitted := s.poaAdmitted.getD e.domain ∅
    e.narrowToOperatorList (s.getActiveValidators.filter fun v => admitted.contains v.address)
  else e.narrowToOperatorList s.getActiveValidators

/-- The leader of a height. -/
def expectedProposer (C : Crypto) (index : UInt64) (active : List Validator) (entropy : Bytes) :
    Option Validator :=
  if active.isEmpty then none
  else
    let digest := C.sha256 (textBytes "BUDLUM_POA_LEADER_V2" ++ u64Bytes index ++ entropy ++
      leBytes 8 active.length ++ active.flatMap fun v => hashBytes v.address ++ u64Bytes v.stake)
    active[(u64OfBytes ((hashBytes digest).take 8)).toNat % active.length]?

/-- Put the expected producer into the block. -/
def prepareCommon (C : Crypto) (b : Block) (s : AccountState) :
    Except String (Block × Option Address) :=
  match expectedProposer C b.index (e.activeAuthorities s) (leaderEntropy b.previousHash) with
  | none =>
    if b.index = 0 then .ok (b, none) else .error "No active validators found"
  | some v =>
    if v.address = Address.zero then .ok (b, none)
    else if (e.signer.map (·.address)) = some v.address ∨
        (e.keypair.map (·.publicKey)) = some v.address then
      .ok ({ b with producer := some v.address }, some v.address)
    else if b.producer = none ∨ b.producer = some Address.zero then
      .ok ({ b with producer := some v.address }, some v.address)
    else .ok (b, b.producer)

/-- Sign the block if this node is the expected producer. -/
def signPrepared (L : Linked) (b : Block) (expected : Address) : Except String Block :=
  match e.signer with
  | some signer => if signer.address = expected then b.signWithSigner L signer else .ok b
  | none =>
    match e.keypair with
    | some kp => .ok (if kp.publicKey = expected then b.sign L kp else b)
    | none => .ok b

def prepareBlock (L : Linked) (b : Block) (s : AccountState) : Except String Block := do
  let (b, expected) ← e.prepareCommon L.toCrypto b s
  let b ← match expected with
    | some a => e.signPrepared L b a
    | none => .ok b
  return if b.signature.isNone then { b with hash := b.calculateHash L } else b

end PoAEngine

/-! ### Proof of stake -/

/-- A block that the engine will not go back behind. -/
structure Checkpoint where
  blockIndex : UInt64
  blockHash : String
  timestamp : U128
  deriving DecidableEq

structure PoSEngine where
  minStake : UInt64 := 1000
  epochLength : UInt64
  validatorKeys : Option ValidatorKeys := none
  signer : Option ConsensusSigner := none
  seenBlocks : OrdMap (Lex (Address × UInt64)) (BlockHeader × Bytes) := ∅
  slashingEvidence : List SlashingEvidence := []
  checkpoints : List Checkpoint := []
  epochSeed : Hash32 := 0

namespace PoSEngine

variable (L : Linked) (e : PoSEngine)

/-- Two different signed headers of one producer at one height. -/
def verifyEvidence (ev : SlashingEvidence) : Bool :=
  decide (ev.header1.index = ev.header2.index) &&
    decide (ev.header1.producer = ev.header2.producer) && ev.header1.producer.isSome &&
    ev.header1.verifySignature L ev.signature1 && ev.header2.verifySignature L ev.signature2 &&
    decide (ev.header1.hash ≠ ev.header2.hash)

def isBeforeCheckpoint (b : Block) : Bool :=
  e.checkpoints.getLast?.any fun c => decide (b.index < c.blockIndex)

def chainHonoursCheckpoint (chain : List Block) : Bool :=
  match e.checkpoints.getLast?, chain with
  | none, _ => true
  | some _, [] => false
  | some c, first :: _ =>
    match c.blockIndex.checkedSub first.index with
    | none => false
    | some offset => (chain[offset.toNat]?).any fun b =>
        decide (b.index = c.blockIndex) && decide (b.hash = c.blockHash)

/-- What one block of the source epoch adds to the randomness. -/
def contribution (chainId : UInt64) (chain : List Block) (height : Nat) : Except String Bytes := do
  let source ← ofOption chain[height]?
    s!"PoS randomness source block {height} is missing"
  ensure (decide (source.index.toNat = height ∧ source.chainId = chainId))
    s!"PoS randomness source block {height} is not canonical"
  if height = 0 then return []
  let producer ← ofOption source.producer
    s!"PoS randomness source block {height} has no producer"
  ensure (decide (source.vrfOutput.length = 32) && !source.vrfProof.isEmpty)
    s!"PoS randomness source block {height} has no verified VRF transcript"
  return textBytes "vrf_contribution" ++ leBytes 8 height ++ hashBytes producer ++ source.vrfOutput

/-- The randomness of the epoch before the last one, or a constant at the start. -/
def sourceBytes (chainId targetEpoch : UInt64) (chain : List Block) : Except String Bytes :=
  match targetEpoch.checkedSub 2 with
  | none => .ok (textBytes "genesis_bootstrap")
  | some sourceEpoch => do
    let start ← ofOption (sourceEpoch.checkedMul e.epochLength)
      "PoS randomness source epoch overflow"
    let stop ← ofOption (start.checkedAdd e.epochLength)
      "PoS randomness source range overflow"
    ensure (decide (stop.toNat ≤ chain.length))
      s!"PoS randomness source epoch {sourceEpoch} is incomplete"
    let parts ← (List.range e.epochLength.toNat).mapM fun k =>
      contribution chainId chain (start.toNat + k)
    return textBytes "source_epoch" ++ u64Bytes sourceEpoch ++ parts.flatten

def epochRandomnessFromChain (chainId targetEpoch : UInt64) (chain : List Block) :
    Except String Hash32 := do
  ensure (decide (e.epochLength ≠ 0)) "PoS epoch length must be non-zero"
  let genesis ← ofOption chain.head? "PoS randomness requires the genesis anchor"
  ensure (decide (genesis.index = 0 ∧ genesis.chainId = chainId))
    "PoS randomness genesis anchor has the wrong height or chain ID"
  let source ← e.sourceBytes chainId targetEpoch chain
  return L.sha3 (textBytes "BDLM_POS_EPOCH_RANDOMNESS_V3" ++ u64Bytes chainId ++
    u64Bytes targetEpoch ++ u64Bytes e.epochLength ++ textBytes genesis.hash ++ source)

def calculateSeedWithChain (chainId epoch slot : UInt64) (chain : List Block) :
    Except String Hash32 := do
  ensure (decide (e.epochLength ≠ 0 ∧ slot / e.epochLength = epoch))
    "PoS seed epoch/slot pair is not canonical"
  let randomness ← e.epochRandomnessFromChain L chainId epoch chain
  return L.sha3 (textBytes "BDLM_POS_SLOT_SEED_V3" ++ u64Bytes chainId ++ u64Bytes epoch ++
    u64Bytes slot ++ hashBytes randomness)

/-- The threshold of a stake: its part of the range of a word. -/
def calculateVrfThreshold (stake totalStake : UInt64) : UInt64 :=
  if totalStake = 0 ∨ stake = 0 then 0
  else
    let base := stake.toNat * UInt64.maxValue.toNat / totalStake.toNat
    UInt64.clampNat (min (base * fixedPointScale.toNat) u128Max / fixedPointScale.toNat)

def checkVrfThreshold (vrfOutput : Bytes) (threshold : UInt64) : Bool :=
  decide (u64OfBytes ((hashBytes (L.sha3 vrfOutput)).take 8) < threshold)

/-- The validator may produce blocks. -/
def eligible (v : Validator) : Bool := v.counts && decide (e.minStake ≤ v.stake)

end PoSEngine

/-! ### The engine of a node -/

inductive ConsensusEngine where
  | pow (e : PoWEngine)
  | poa (e : PoAEngine)
  | pos (e : PoSEngine)

/-- A chain's tip in a tie. -/
structure SplitCandidate where
  blockHash : Hash32
  proposer : Hash32
  height : UInt64
  weight : Nat
  deriving DecidableEq

def SplitCandidate.fromChainTip (L : Linked) (chain : List Block) (score : Nat) : SplitCandidate :=
  match chain.getLast? with
  | some b => ⟨b.calculateHashBytes L, b.producer.getD 0, b.index, score⟩
  | none => ⟨0, 0, 0, 0⟩

/-- The right candidate wins: more weight, then more height, then the smaller hash and proposer. -/
def rightWins (left right : SplitCandidate) : Bool :=
  if left.weight ≠ right.weight then decide (left.weight < right.weight)
  else if left.height ≠ right.height then decide (left.height < right.height)
  else if left.blockHash ≠ right.blockHash then decide (right.blockHash < left.blockHash)
  else if left.proposer ≠ right.proposer then decide (right.proposer < left.proposer)
  else false

def maxFutureBlockTimeMs : Nat := 15 * 1000
def minBlockIntervalMs : Nat := 1000
def maxBlockSize : Nat := 1000000
def maxTransactionsPerBlock : Nat := 5000
def maxReorgDepth : Nat := 100

namespace ConsensusEngine

variable (N : NodeLinks) (engine : ConsensusEngine)

/-- The kind of consensus the chain's own domain runs. -/
def domainKind : ConsensusKind :=
  match engine with
  | poa _ => .poA
  | _ => .poS

/-- The block follows the last one of the chain. -/
def checkParent (b : Block) (chain : List Block) : Except String Unit :=
  match chain.getLast? with
  | some prev => ensure (decide (b.previousHash = prev.hash))
      s!"Previous hash mismatch. Expected: {prev.hash}, Got: {b.previousHash}"
  | none => .ok ()

def validatePow (e : PoWEngine) (b : Block) (chain : List Block) : Except String Unit := do
  checkParent b chain
  ensure (decide (b.hash = b.calculateHash N.toLinked))
    s!"Invalid block hash. Calculated: {b.calculateHash N.toLinked}, Existing: {b.hash}"
  let expected := e.difficultyForNextBlock chain
  ensure (PoWEngine.meetsDifficultyAt b.hash expected)
    s!"Invalid PoW. {expected} leading-zero nibbles required, hash: {b.hash}"

def validatePoa (e : PoAEngine) (b : Block) (chain : List Block) (s : AccountState) :
    Except String Unit := do
  checkParent b chain
  let active := e.activeAuthorities s
  ensure (!active.isEmpty) "No active PoA authorities; refusing hash-only PoA block"
  let entropy := PoAEngine.leaderEntropy ((chain.getLast?.map (·.hash)).getD b.previousHash)
  let expected ← ofOption (PoAEngine.expectedProposer N.toCrypto b.index active entropy)
    "No proposer for this slot"
  let producer ← ofOption b.producer "Block has no producer"
  ensure (b.verifySignatureWithPubkey N.toLinked expected.address)
    s!"Block {b.index} is not a valid signature from the expected proposer {toHex expected.address}, got {toHex producer}"

/-- The producer holds the slot: its VRF output is its own and below its threshold. -/
def checkVrf (e : PoSEngine) (b : Block) (chain : List Block) (s : AccountState) (v : Validator) :
    Except (Fault String) Unit := do
  orFail do
    ensure (!v.vrfPublicKey.isEmpty) "Producer has no registered VRF public key"
    ensure (N.vrfKeyValid v.vrfPublicKey) "Invalid VRF public key format"
    let seed ← e.calculateSeedWithChain N.toLinked b.chainId b.epoch b.slot chain
    ensure (decide (b.vrfOutput.length = 32)) "Invalid VRF output length"
    ensure (N.vrfOutputValid b.vrfOutput) "Invalid VRF output format"
    ensure (N.vrfProofValid b.vrfProof) "Invalid VRF proof format"
    ensure (N.verifyVrf v.vrfPublicKey seed b.vrfOutput b.vrfProof)
      "VRF proof verification failed"
  let total ← ofOption s.getTotalStake .panic
  ensure (PoSEngine.checkVrfThreshold N.toLinked b.vrfOutput
      (PoSEngine.calculateVrfThreshold v.stake total))
    (.fail "VRF output does not meet leadership threshold")

def validatePos (e : PoSEngine) (b : Block) (chain : List Block) (s : AccountState) :
    Except (Fault String) Unit := do
  let v ← orFail do
    checkParent b chain
    ensure (!e.isBeforeCheckpoint b)
      "Block is before last checkpoint (possible long-range attack)"
    ensure (decide (e.epochLength ≠ 0)) "PoS epoch length must be non-zero"
    ensure (decide (b.epoch = b.index / e.epochLength))
      s!"PoS epoch mismatch: expected {b.index / e.epochLength}, got {b.epoch}"
    ensure (decide (b.slot = b.index)) s!"PoS slot mismatch: expected {b.index}, got {b.slot}"
    ensure (!s.getActiveValidators.isEmpty)
      "No active consensus-ready validators; refusing unsigned PoS block"
    let setHash ← s.consensusValidatorSetHash N.toLinked b.chainId
    ensure (decide (b.validatorSetHash = setHash))
      s!"Validator set hash mismatch: expected {setHash}, got {b.validatorSetHash}"
    let producer ← ofOption b.producer "Block has no producer"
    let v ← ofOption (s.validators.get producer) "Unknown block producer"
    ensure (e.eligible v) "Producer is not an active validator"
    return v
  checkVrf N e b chain s v
  orFail do
    ensure (b.verifySignature N.toLinked) "Invalid block signature"
    ((b.slashingEvidence.getD []).zipIdx).forM fun (evidence, i) =>
      ensure (PoSEngine.verifyEvidence N.toLinked evidence) s!"Invalid slashing evidence #{i}"

/-- What the engine checks of a block on top of a chain. -/
def validateBlock (b : Block) (chain : List Block) (s : AccountState) :
    Except (Fault String) Unit :=
  if b.index = 0 then
    ensure (decide (b.hash = b.calculateHash N.toLinked)) (.fail "Invalid genesis block hash")
  else match engine with
    | pow e => (validatePow N e b chain).orFail
    | poa e => (validatePoa N e b chain s).orFail
    | pos e => validatePos N e b chain s

/-- The block is not from the future and comes after the block before it. -/
def validateTimestamp (now : U128) (b : Block) (prev : Option Block) : Except String Unit := do
  ensure (decide (b.timestamp.val ≤ min (now.val + maxFutureBlockTimeMs) u128Max))
    s!"Block timestamp too far in the future. Now: {now.val}, Block: {b.timestamp.val}, Max drift: {maxFutureBlockTimeMs} ms"
  match prev with
  | none => .ok ()
  | some prev => do
    ensure (decide (prev.timestamp < b.timestamp))
      s!"Block timestamp not monotonic. Prev: {prev.timestamp.val}, Current: {b.timestamp.val}"
    let interval := b.timestamp.val - prev.timestamp.val
    ensure (decide (minBlockIntervalMs ≤ interval))
      s!"Block produced too fast. Min interval: {minBlockIntervalMs} ms, Got: {interval} ms"

def validateBlockSize (b : Block) : Except String Unit := do
  ensure (decide (b.transactions.length ≤ maxTransactionsPerBlock))
    s!"Too many transactions. Max: {maxTransactionsPerBlock}, Got: {b.transactions.length}"
  ensure (decide (N.blockJsonLen b ≤ maxBlockSize))
    s!"Block too large. Max: {maxBlockSize} bytes, Got: {N.blockJsonLen b} bytes"

/-- The whole check of a block at the time `now`. -/
def fullValidate (now : U128) (b : Block) (chain : List Block) (s : AccountState) :
    Except (Fault String) Unit :=
  if b.index = 0 then engine.validateBlock N b chain s
  else do
    orFail do
      validateTimestamp now b chain.getLast?
      validateBlockSize N b
    engine.validateBlock N b chain s

/-! ### Preparing blocks -/

/-- The stake engine's part of a block: slot, evidence and the VRF of this node.  Evidence leaves the
engine even if the block is not produced. -/
def previewPos (b : Block) (s : AccountState) (chain : List Block) :
    EStateM (Fault String) PoSEngine Block := do
  let e ← get
  EStateM.ensure (decide (e.epochLength ≠ 0)) (.fail "PoS epoch length must be non-zero")
  let epoch := b.index / e.epochLength
  let b := { b with epoch := epoch, slot := b.index }
  let total ← EStateM.orThrow s.getTotalStake .panic
  let takes := b.slashingEvidence.isNone && !e.slashingEvidence.isEmpty
  let b := if takes then { b with slashingEvidence := some e.slashingEvidence } else b
  set (if takes then { e with slashingEvidence := [] } else e)
  EStateM.ensure (!s.getActiveValidators.isEmpty) (.fail "No active validators")
  let keys ← EStateM.orThrow e.validatorKeys (.fail "Not selected as VRF leader for this slot")
  let v ← EStateM.orThrow (s.validators.get keys.sigKey.publicKey)
    (.fail "Not selected as VRF leader for this slot")
  EStateM.ensure (e.eligible v) (.fail "Not selected as VRF leader for this slot")
  if b.vrfOutput.isEmpty || b.vrfProof.isEmpty then
    let seed ← EStateM.ofExcept
      (e.calculateSeedWithChain N.toLinked b.chainId epoch b.index chain).orFail
    let (output, proof) := keys.vrfSign seed
    EStateM.ensure (PoSEngine.checkVrfThreshold N.toLinked output
        (PoSEngine.calculateVrfThreshold v.stake total))
      (.fail "Not selected as VRF leader for this slot")
    return { b with vrfOutput := output, vrfProof := proof, producer := some keys.sigKey.publicKey }
  else return { b with producer := some keys.sigKey.publicKey }

/-- Sign with the signer, or with the keys of this node if they are the producer's. -/
def signPos (e : PoSEngine) (b : Block) : Except String Block :=
  match e.signer with
  | some signer => b.signWithSigner N.toLinked signer
  | none =>
    match e.validatorKeys with
    | some keys =>
      if b.producer = some keys.sigKey.publicKey then .ok (b.sign N.toLinked keys.sigKey)
      else .error "Selected PoS validator has no usable block-signing backend"
    | none => .error "Selected PoS validator has no usable block-signing backend"

/-- Fill in what the engine decides, before the block's effects are computed. -/
def previewBlockWithChain (b : Block) (s : AccountState) (chain : List Block) :
    EStateM (Fault String) ConsensusEngine Block := do
  match ← get with
  | pow _ => return b
  | poa e => return (← EStateM.ofExcept (e.prepareCommon N.toCrypto b s).orFail).1
  | pos e =>
    match (previewPos N b s chain).run e with
    | .ok b e => set (pos e); return b
    | .error err e => set (pos e); throw err

/-- Finish a block: mine it or sign it.  A search that runs out of nonces never returns. -/
def prepareBlockWithChain (b : Block) (s : AccountState) (chain : List Block) :
    EStateM (Fault String) ConsensusEngine Block := do
  match ← get with
  | pow e =>
    EStateM.orThrow (PoWEngine.mineAtDifficulty N.toLinked
      { b with hash := b.calculateHash N.toLinked } (e.difficultyForNextBlock chain)) .panic
  | poa e => EStateM.ofExcept (e.prepareBlock N.toLinked b s).orFail
  | pos e =>
    match (previewPos N b s chain).run e with
    | .ok b e => set (pos e); EStateM.ofExcept (signPos N e b).orFail
    | .error err e => set (pos e); throw err

/-! ### Recording blocks -/

/-- Remember a block of the stake engine: a second one of its producer at the height is evidence,
the first one of an epoch boundary is a checkpoint. -/
def recordPos (e : PoSEngine) (b : Block) : PoSEngine :=
  match b.producer with
  | none => e
  | some producer =>
    if e.epochLength = 0 then e
    else
      let header := BlockHeader.fromBlock N.toLinked b
      let signature := b.signature.getD []
      match e.seenBlocks.get (toLex (producer, b.index)) with
      | some (seen, seenSignature) =>
        if seen.hash = header.hash then e
        else { e with slashingEvidence :=
          e.slashingEvidence ++ [⟨seen, header, seenSignature, signature⟩] }
      | none =>
        let checkpoint : Checkpoint := ⟨b.index, b.hash, b.timestamp⟩
        let known := e.checkpoints.getLast?.any fun c =>
          decide (c.blockIndex = b.index) && decide (c.blockHash = b.hash)
        let checkpoints := if 0 < b.index ∧ b.index % e.epochLength = 0 ∧ known = false then
          e.checkpoints ++ [checkpoint] else e.checkpoints
        let minSlot := (b.index / e.epochLength).saturatingSub 2 * e.epochLength
        { e with
          checkpoints := checkpoints
          seenBlocks := (e.seenBlocks.insert (toLex (producer, b.index)) (header, signature)).filter
            fun k _ => decide (minSlot ≤ (ofLex k).2) }

/-- The caches that follow the chain: the current difficulty, the seed of the next epoch. -/
def recordWithChain (b : Block) (chain : List Block) : ConsensusEngine :=
  match engine with
  | pow e =>
    if 0 < b.index ∧ b.index % e.adjustmentInterval = 0 then
      pow { e with currentDifficulty := e.difficultyForNextBlock chain }
    else engine
  | poa _ => engine
  | pos e =>
    if e.epochLength = 0 then engine
    else match e.epochRandomnessFromChain N.toLinked b.chainId
        (b.index.saturatingAdd 1 / e.epochLength) chain with
      | .ok randomness => pos { e with epochSeed := randomness }
      | .error _ => engine

/-- Record a block that was appended to the chain, and drop old evidence at the end of an epoch. -/
def recordBlock (chainId : UInt64) (b : Block) (chain : List Block) : ConsensusEngine :=
  match engine.recordWithChain N b chain with
  | pos e =>
    let e := recordPos N e b
    if 0 < b.index ∧ b.index % epochLenForChainId chainId = 0 then
      let minHeight := b.index.saturatingSub 1000
      pos { e with slashingEvidence :=
        e.slashingEvidence.filter fun ev => decide (minHeight ≤ ev.header1.index) }
    else pos e
  | other => other

/-! ### Fork choice -/

def forkChoiceScore (chain : List Block) : Nat :=
  match engine with
  | pow e => e.accumulatedWork chain
  | poa _ => chain.length
  | pos e => if e.chainHonoursCheckpoint chain then chain.length else 0

/-- The weight of a chain in a tie; work is narrowed to 128 bits. -/
def tieWeight (score : Nat) : Nat :=
  match engine with
  | pow _ => min score u128Max
  | _ => score

def isBetterChain (current candidate : List Block) : Bool :=
  let honours := match engine with
    | pos e => e.chainHonoursCheckpoint candidate
    | _ => true
  let ours := engine.forkChoiceScore current
  let theirs := engine.forkChoiceScore candidate
  honours &&
    if theirs ≠ ours then decide (ours < theirs)
    else rightWins (.fromChainTip N.toLinked current (engine.tieWeight ours))
      (.fromChainTip N.toLinked candidate (engine.tieWeight theirs))

end ConsensusEngine

end Budlum
