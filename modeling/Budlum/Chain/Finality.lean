import Budlum.Chain.Blockchain
import Budlum.Chain.Snapshot

/-!
# Finality at the node

A checkpoint is final once a certificate of the validators and a blob of their post-quantum
signatures are in.  The two arrive in any order; a certificate that comes first waits for its blob.
A chain with a better score replaces the current one above the finalized checkpoint, and a snapshot
replaces the state together with the finalized height and hash.

* `Blockchain.finality_run` : **the finalized height never falls and the block at it is the finalized
  one**, as long as snapshots respect both, which the code does not check.
-/

namespace Budlum

open Except (ensure ofOption ok_iff)

namespace Blockchain

variable {G₁ G₂ : Type} (N : NodeLinks) (B : Bls G₁ G₂) (S : SnapshotLinks)

/-! ### Certificates and blobs -/

def validatorSnapshotForEpoch (bc : Blockchain) (epoch : UInt64) : Option ValidatorSetSnapshot :=
  if epoch = bc.state.epochIndex then
    some (buildValidatorSnapshotFromState N epoch bc.state bc.chainId)
  else bc.validatorSnapshots.get epoch

def requireValidatorSnapshot (bc : Blockchain) (epoch : UInt64) :
    Except String ValidatorSetSnapshot :=
  ofOption (bc.validatorSnapshotForEpoch N epoch)
    s!"no validator set recorded for epoch {epoch}; refusing to verify against the current set (retained epochs: {bc.validatorSnapshots.size})"

def maxPendingCerts : Nat := 100
def maxQcBlobs : Nat := 1000

/-- Drop the first certificate of the lowest height. -/
def dropOldestCert (certs : OrdMap UInt64 (List FinalityCert)) : OrdMap UInt64 (List FinalityCert) :=
  match certs.entries.head? with
  | none => certs
  | some (height, pending) =>
    if pending.tail.isEmpty then certs.erase height else certs.insert height pending.tail

/-- Drop certificates until few enough are left; every round drops one or an empty height. -/
def pruneCerts : (rounds : Nat) → OrdMap UInt64 (List FinalityCert) → OrdMap UInt64 (List FinalityCert)
  | 0, certs => certs
  | rounds + 1, certs =>
    if maxPendingCerts < (certs.values.map List.length).sum then pruneCerts rounds (dropOldestCert certs)
    else certs

def queuePendingFinalityCert (cert : FinalityCert) (bc : Blockchain) : Blockchain :=
  let bucket := bc.pendingFinalityCerts.getD cert.checkpointHeight []
  let certs := bc.pendingFinalityCerts.insert cert.checkpointHeight
    (if bucket.contains cert then bucket else bucket ++ [cert])
  { bc with
    pendingFinalityCerts := pruneCerts (certs.size + (certs.values.map List.length).sum) certs }

/-- Finalize a checkpoint.  The scan for faulty signatures that follows the check of the blob finds
none (`QcBlob.isFaulty_eq_false_of_verify`). -/
def handleFinalityCert (cert : FinalityCert) : EStateM String Blockchain Unit := do
  if (← get).finalizedHeight < cert.checkpointHeight then
    EStateM.ensure (isCheckpointHeightForChain cert.checkpointHeight (← get).chainId)
      s!"Height {cert.checkpointHeight} is not a valid checkpoint height"
    let block ← EStateM.orThrow (← get).chain[cert.checkpointHeight.toNat]?
      s!"We don't have block at height {cert.checkpointHeight} yet"
    EStateM.ensure (decide (block.hash = cert.checkpointHash))
      s!"Certificate hash {cert.checkpointHash} mismatch with our block hash {block.hash} at height {cert.checkpointHeight}"
    let snapshot ← EStateM.ofExcept ((← get).requireValidatorSnapshot N cert.epoch)
    EStateM.ofExcept (cert.verify B snapshot)
    match (← get).verifiedQcBlobs.get cert.checkpointHeight with
    | none => do
      modify (queuePendingFinalityCert cert)
      throw s!"Missing verified QC blob for checkpoint {cert.checkpointHeight}"
    | some blob => do
      let _ ← EStateM.ofExcept (blob.verifyAgainstSnapshot N snapshot
        (cert.signerIndices snapshot.validators.length) (← get).state.epochIndex)
      modify fun bc => { bc with
        finalizedHeight := cert.checkpointHeight, finalizedHash := cert.checkpointHash }

/-- Handle certificates one after the other; the last error, if there was one. -/
def handleCerts : List FinalityCert → EStateM String Blockchain (Option String)
  | [] => pure none
  | cert :: rest => do
    let error ← EStateM.caught (handleFinalityCert N B cert)
    let later ← handleCerts rest
    return later <|> error

/-- Handle the certificates that waited for the blob of a height. -/
def processPendingFinalityCerts (height : UInt64) : EStateM String Blockchain Unit := do
  match (← get).pendingFinalityCerts.get height with
  | none => pure ()
  | some certs => do
    modify fun bc => { bc with pendingFinalityCerts := bc.pendingFinalityCerts.erase height }
    match ← handleCerts N B certs with
    | some e => throw e
    | none => pure ()

def importQcBlob (blob : QcBlob) : EStateM String Blockchain Unit := do
  EStateM.ensure (isCheckpointHeightForChain blob.checkpointHeight (← get).chainId)
    s!"Height {blob.checkpointHeight} is not a valid checkpoint height"
  let block ← EStateM.orThrow (← get).chain[blob.checkpointHeight.toNat]?
    s!"Missing checkpoint block at height {blob.checkpointHeight}"
  EStateM.ensure (decide (block.hash = blob.checkpointHash))
    s!"QcBlob checkpoint hash mismatch: expected {block.hash}, got {blob.checkpointHash}"
  let snapshot ← EStateM.ofExcept ((← get).requireValidatorSnapshot N blob.epoch)
  let count := snapshot.validators.length
  let minSigners :=
    (count * finalityQuorumNumerator + finalityQuorumDenominator - 1) / finalityQuorumDenominator
  let signers ← EStateM.ofExcept
    (blob.verifyAgainstSnapshot N snapshot [] (← get).state.epochIndex)
  EStateM.ensure (decide (minSigners ≤ signers.length))
    s!"QcBlob has {signers.length} unique verified signers, need at least {minSigners} (2/3 of {count} validators)"
  modify fun bc => { bc with
    verifiedQcBlobs := (bc.verifiedQcBlobs.insert blob.checkpointHeight blob).keepLast maxQcBlobs }
  processPendingFinalityCerts N B blob.checkpointHeight

/-! ### Snapshots -/

/-- Install the second kind of snapshot.  Neither the finalized height nor the finalized hash of the
snapshot is looked at. -/
def applyV2Snapshot (p : StateSnapshotV2) (bc : Blockchain) : Except String Blockchain := do
  ensure (decide (bc.finalizedHeight ≤ p.height))
    s!"V2 snapshot height {p.height} older than finalized {bc.finalizedHeight}"
  let block ← ofOption bc.chain[p.height.toNat]? "V2 snapshot height not in local chain"
  ensure (decide (block.hash = p.blockHash)) "V2 snapshot block hash mismatch"
  let s := AccountState.fromSnapshotV2 p
  let root := s.calculateStateRoot N.toCrypto N.roots
  ensure (decide (block.stateRoot = "") || decide (root = block.stateRoot))
    s!"V2 snapshot state root mismatch: expected {block.stateRoot}, got {root}"
  let bc := { bc with
    state := s
    executionDomain := bc.consensus.domainKind
    finalizedHeight := p.finalizedHeight
    finalizedHash := p.finalizedHash
    mempool := bc.mempool.setMinFee s.baseFee }
  return p.finalityCertificates.foldl (fun bc cert => queuePendingFinalityCert cert bc) bc

/-- Install the first kind of snapshot. -/
def applyV1Snapshot (p : StateSnapshot) (bc : Blockchain) : Except String Blockchain := do
  ensure (decide (bc.chainId ≠ Network.mainnet.chainId))
    "Mainnet remote snapshots require signed V2 manifests"
  ensure (p.verify N.toCrypto) "Snapshot verification failed"
  ensure (decide (bc.finalizedHeight ≤ p.height))
    s!"Snapshot height {p.height} is older than current finalized height {bc.finalizedHeight}"
  ensure (decide (p.chainId = bc.chainId))
    s!"Snapshot chain_id mismatch: expected {bc.chainId}, got {p.chainId}"
  ensure (decide (p.finalizedHeight ≤ p.height))
    "Snapshot finalized height exceeds snapshot height"
  let block ← ofOption bc.chain[p.height.toNat]?
    s!"Snapshot height {p.height} is not available in local chain"
  ensure (decide (block.hash = p.blockHash))
    s!"Snapshot block hash mismatch at height {p.height}"
  let finalized ← ofOption bc.chain[p.finalizedHeight.toNat]?
    s!"Snapshot finalized height {p.finalizedHeight} is not available in local chain"
  ensure (decide (finalized.hash = p.finalizedHash))
    s!"Snapshot finalized hash mismatch at height {p.finalizedHeight}"
  let s := AccountState.fromSnapshot p
  let root := s.calculateStateRoot N.toCrypto N.roots
  ensure (decide (block.stateRoot = "") || decide (root = block.stateRoot))
    s!"Snapshot state root mismatch: expected {block.stateRoot}, got {root}"
  return { bc with
    state := s
    executionDomain := bc.consensus.domainKind
    finalizedHeight := p.finalizedHeight
    finalizedHash := p.finalizedHash
    mempool := bc.mempool.setMinFee s.baseFee }

/-- The second kind of snapshot travels inside the hash field of the first. -/
def embeddedV2 (p : StateSnapshot) (chainId : UInt64) : Option StateSnapshotV2 := do
  let text := p.snapshotHash.toList
  if "__v2__".toList.isPrefixOf text then
    let data ← bytesOfHexDigits (text.drop 6)
    let v2 ← StateSnapshotV2.fromBytes N.toCrypto S data
    if v2.chainId = chainId then some v2 else none
  else none

/-- The main network takes signed snapshots only; elsewhere the digest is enough. -/
def authenticateV2 (v2 : StateSnapshotV2) (bc : Blockchain) : Except String Unit :=
  if bc.chainId = Network.mainnet.chainId then do
    ensure (decide (v2.trustPolicy = .requireSigned))
      "Mainnet remote snapshots require a signed V2 manifest"
    let trusted := bc.state.validators.entries.map (·.1)
    ensure (!trusted.isEmpty)
      "Mainnet remote snapshots require a non-empty signer trust list"
    (v2.verifyAuthentic N.toCrypto S trusted).mapError fun e => s!"V2 snapshot auth failed: {e}"
  else ensure (v2.verify N.toCrypto S) "V2 snapshot digest verification failed"

/-- Install a snapshot.  A refused snapshot changes nothing. -/
def applyStateSnapshot (p : StateSnapshot) (bc : Blockchain) : Except String Blockchain :=
  match embeddedV2 N S p bc.chainId with
  | some v2 => do
    authenticateV2 N S v2 bc
    applyV2Snapshot N v2 bc
  | none => applyV1Snapshot N p bc

/-! ### Reorganisation -/

/-- One transaction of a block of a candidate chain. -/
def checkCandidateTransaction (bc : Blockchain) (b : Block) (tx : Transaction) (i : Nat) :
    EStateM (Fault String) AccountState Unit := do
  EStateM.ensure (decide (tx.chainId = bc.chainId))
    (.fail s!"Candidate transaction {i} at block {b.index} has wrong chain ID")
  EStateM.ofExcept (((← get).validateTransaction N.toLinked tx).mapError
    fun e => .fail s!"Candidate transaction {i} at block {b.index} is invalid: {e}")
  EStateM.mapError
    (Fault.map fun e => s!"Candidate transaction {i} at block {b.index} cannot execute: {e.display}")
    (Executor.applyTransactionChecked N.toLinked tx .poS)

/-- The header of the block at position `index` of a candidate chain. -/
def checkCandidateHeader (bc : Blockchain) (parent b : Block) (index : Nat) : Except String Unit := do
  ensure (decide (b.index = UInt64.ofNat index ∧ b.previousHash = parent.hash))
    s!"Candidate chain discontinuity at height {b.index}"
  ensure (decide (b.chainId = bc.chainId))
    s!"Candidate block {b.index} has chain ID {b.chainId}, expected {bc.chainId}"
  ensure (decide (b.txRoot = b.calculateTxRoot N.toLinked ∧ b.hash = b.calculateHash N.toLinked))
    s!"Candidate block {b.index} has invalid transaction root or hash"

/-- The state with the roots a replayed block writes. -/
def replayRoots (s : AccountState) : AccountState :=
  s.withRoots N.roots (merkleRoot N.toCrypto [])

/-- One block on top of the blocks before it.  Replayed states run under the stake domain. -/
def replayCandidate (bc : Blockchain) (now : U128) (preceding : List Block) (parent b : Block)
    (s : AccountState) : Except (Fault String) AccountState := do
  (bc.checkCandidateHeader N parent b preceding.length).orFail
  (bc.consensus.fullValidate N now b preceding s).mapError (Fault.map fun e =>
    s!"Candidate consensus validation failed at block {b.index}: Consensus error: {e}")
  let _ ← EStateM.exec (do
    modify fun s => { s with currentBlockHeight := b.index }
    b.transactions.zipIdx.forM fun (tx, i) => bc.checkCandidateTransaction N b tx i) s
  let s ← s.applyBlockEffects N.toLinked .poS b preceding
  let s := replayRoots N s
  ensure (decide (s.calculateStateRoot N.toCrypto N.roots = b.stateRoot))
    (.fail s!"Candidate state root mismatch at block {b.index}")
  return s

/-- The blocks after a nonempty part of a candidate chain, one by one. -/
def replayCandidates (bc : Blockchain) (now : U128) :
    (preceding : List Block) → (parent : Block) → List Block → AccountState →
      Except (Fault String) AccountState
  | _, _, [], s => .ok s
  | preceding, parent, b :: rest, s => do
    let s ← bc.replayCandidate N now preceding parent b s
    bc.replayCandidates now (preceding ++ [b]) b rest s

/-- The state a candidate chain leads to, if every block of it is in order. -/
def validateCandidateChain (bc : Blockchain) (now : U128) :
    List Block → Except (Fault String) AccountState
  | [] => .error (.fail "Candidate chain is empty")
  | genesis :: rest => do
    ensure (decide (genesis = bc.genesisConfig.buildGenesisBlock N.toLinked N.roots))
      (.fail "Candidate genesis does not match configured genesis")
    bc.replayCandidates N now [genesis] genesis rest (bc.genesisConfig.buildState N.toLinked)

/-- The first height at which two chains differ. -/
def findForkPoint (bc : Blockchain) (other : List Block) : Option Nat :=
  match (bc.chain.zip other).findIdx? fun (ours, theirs) => decide (ours.hash ≠ theirs.hash) with
  | some index => some index
  | none =>
    if bc.chain.length ≠ other.length then some (min bc.chain.length other.length) else none

def maxReorgDepth : Nat := 100

/-- The transactions that wait and are not in the new chain, in a new pool. -/
def rebuiltMempool (bc : Blockchain) (now : U128) (chain : List Block) : Mempool :=
  let included := chain.flatMap fun b => b.transactions.map (·.hash)
  let pending := (bc.mempool.getSortedTransactions 1000).filter fun tx => !included.contains tx.hash
  pending.foldl (fun p tx => (Mempool.addTransaction N.toCrypto N.chargedBytes now tx).final p)
    { config := {} }

/-- The node with another chain and the state it leads to. -/
def withChain (bc : Blockchain) (now : U128) (chain : List Block) (s : AccountState) (fork : Nat) :
    Blockchain :=
  let dropped := (bc.chain.drop fork).map (·.index)
  let bc' : Blockchain :=
    { bc with
      chain := chain
      state := s
      executionDomain := .poS
      verifiedQcBlobs := bc.verifiedQcBlobs.filter fun height _ => !dropped.contains height
      domainRegistry := {}
      domainCommitmentRegistry := {}
      pendingFinalityCerts := ∅
      pendingSlashingEvidence := []
      universalRelayer := {}
      validatorSnapshots := ∅ }
  { bc'.recordValidatorSnapshot N s.epochIndex with
    mempool := (bc.rebuiltMempool N now chain).setMinFee s.baseFee
    consensus := match chain.getLast? with
      | some last => bc.consensus.recordWithChain N last chain
      | none => bc.consensus }

/-- Whether the new chain may replace the current one, before its blocks are looked at. -/
def checkReorg (bc : Blockchain) (candidate : List Block) (fork : Nat) : Except String Unit := do
  ensure (decide (fork ≠ 0)) "Candidate chain attempts to replace configured genesis"
  let depth := bc.chain.length - fork
  ensure (decide (depth ≤ maxReorgDepth)) s!"Reorg depth {depth} exceeds max {maxReorgDepth}"
  ensure (decide (bc.finalizedHeight < UInt64.ofNat fork))
    s!"Cannot reorg fork point {fork} at or below finalized height {bc.finalizedHeight}"
  let finalized ← ofOption candidate[bc.finalizedHeight.toNat]?
    "Candidate chain omits finalized checkpoint"
  ensure (decide (finalized.hash = bc.finalizedHash))
    "Candidate chain conflicts with finalized checkpoint hash"

/-- Replace the chain if the candidate is better; whether it was replaced.  A refused candidate
changes nothing. -/
def tryReorg (bc : Blockchain) (now : U128) (candidate : List Block) :
    Except (Fault String) (Bool × Blockchain) :=
  if !bc.consensus.isBetterChain N bc.chain candidate then .ok (false, bc)
  else match bc.findForkPoint candidate with
    | none => .ok (false, bc)
    | some fork => do
      (bc.checkReorg candidate fork).orFail
      let s ← bc.validateCandidateChain N now candidate
      return (true, bc.withChain N now candidate s fork)

/-! ### Runs -/

section Runs

open EStateM

variable {N B S} {bc bc' bc₁ : Blockchain} {b : Block} {now : U128} {p : StateSnapshot}

def HoldsFinalized (bc : Blockchain) : Prop :=
  ∃ b, bc.chain[bc.finalizedHeight.toNat]? = some b ∧ b.hash = bc.finalizedHash

/-- A step of a node: finality goes on, and the finalized block is held. -/
structure Finalizes (bc bc' : Blockchain) : Prop where
  height : bc.finalizedHeight ≤ bc'.finalizedHeight
  holds : bc.HoldsFinalized → bc'.HoldsFinalized

theorem Finalizes.refl (bc : Blockchain) : Finalizes bc bc := ⟨le_rfl, id⟩

theorem Finalizes.trans {bc₂ bc₃ : Blockchain} (h : Finalizes bc₁ bc₂) (h' : Finalizes bc₂ bc₃) :
    Finalizes bc₁ bc₃ :=
  ⟨h.height.trans h'.height, h'.holds ∘ h.holds⟩

/-- The finalized block stays where it is in a longer chain. -/
theorem Finalizes.extend (hchain : bc'.chain = bc.chain ++ [b])
    (hheight : bc'.finalizedHeight = bc.finalizedHeight)
    (hhash : bc'.finalizedHash = bc.finalizedHash) : Finalizes bc bc' where
  height := hheight.ge
  holds := by
    rintro ⟨f, hf, hfhash⟩
    refine ⟨f, ?_, hfhash.trans hhash.symm⟩
    rw [hchain, hheight, List.getElem?_append_left (List.getElem?_eq_some_iff.1 hf).1, hf]

/-- Nothing that finality depends on changes. -/
theorem Finalizes.same (hchain : bc'.chain = bc.chain)
    (hheight : bc'.finalizedHeight = bc.finalizedHeight)
    (hhash : bc'.finalizedHash = bc.finalizedHash) : Finalizes bc bc' where
  height := hheight.ge
  holds := fun ⟨f, hf, hfhash⟩ => ⟨f, by rw [hchain, hheight, hf], hfhash.trans hhash.symm⟩

theorem Finalizes.after (h : Finalizes bc₁ bc') (hchain : bc₁.chain = bc.chain)
    (hheight : bc₁.finalizedHeight = bc.finalizedHeight)
    (hhash : bc₁.finalizedHash = bc.finalizedHash) : Finalizes bc bc' :=
  (Finalizes.same hchain hheight hhash).trans h

theorem validateAndAddBlock_finalizes {burned : List ContentId}
    (h : bc.validateAndAddBlock N now b = .ok (burned, bc')) : Finalizes bc bc' := by
  obtain ⟨s, -, -, rfl⟩ := (validateAndAddBlock_eq_ok N bc).1 h
  exact .extend rfl rfl rfl

/-- A block that does not come out changes the engine only. -/
theorem produceBlock_finalizes (now : U128) (producer : Address) :
    (produceBlock N now producer).Leaves bc fun bc' => Finalizes bc bc' := by
  refine .get_bind <| .orThrow_bind (.refl bc) fun draft _ => .get_bind ?_
  refine .trans (.zoom ⟨fun _ _ _ => .same rfl rfl rfl, fun _ _ _ => .same rfl rfl rfl⟩)
    fun b bc₁ h₁ => .ofExcept_bind h₁ fun s _ => ?_
  refine .trans (.zoom ⟨fun _ _ _ => h₁.trans (.same rfl rfl rfl),
    fun _ _ _ => h₁.trans (.same rfl rfl rfl)⟩) fun b bc₂ h₂ => .get_bind <|
    .ofExcept_bind h₂ fun _ _ => .modify_bind <| .pure ?_
  exact h₂.trans (.extend (b := b) rfl rfl rfl)

theorem finalizes_queue (cert : FinalityCert) (bc : Blockchain) :
    Finalizes bc (queuePendingFinalityCert cert bc) := .same rfl rfl rfl

theorem handleFinalityCert_finalizes (cert : FinalityCert) :
    (handleFinalityCert N B cert).Leaves bc fun bc' => Finalizes bc bc' := by
  refine .get_bind <| .ite (fun hlater => ?_) fun _ => .pure (.refl bc)
  refine .get_bind <| .ensure_bind (.refl bc) fun _ => .get_bind <|
    .orThrow_bind (.refl bc) fun block hblock => .ensure_bind (.refl bc) fun hhash => .get_bind <|
    .ofExcept_bind (.refl bc) fun snapshot _ => .ofExcept_bind (.refl bc) fun _ _ => .get_bind ?_
  split
  · exact .modify_bind <| .throw (finalizes_queue cert bc)
  · refine .get_bind <| .ofExcept_bind (.refl bc) fun _ _ => .modify ⟨le_of_lt hlater, fun _ => ?_⟩
    exact ⟨block, hblock, of_decide_eq_true hhash⟩

theorem handleCerts_finalizes (certs : List FinalityCert) :
    (handleCerts N B certs).Leaves bc fun bc' => Finalizes bc bc' := by
  induction certs generalizing bc with
  | nil => exact .pure (.refl bc)
  | cons cert rest ih =>
    refine .trans (handleFinalityCert_finalizes cert).caught fun _ bc₁ h₁ => ?_
    exact .trans (ih.mono fun _ h₂ => h₁.trans h₂) fun _ _ h => .pure h

theorem processPendingFinalityCerts_finalizes (height : UInt64) :
    (processPendingFinalityCerts N B height).Leaves bc fun bc' => Finalizes bc bc' := by
  refine .get_bind ?_
  split
  · exact .pure (.refl bc)
  · refine .modify_bind <| .trans ((handleCerts_finalizes _).mono fun _ h => h.after rfl rfl rfl)
      fun error bc₁ h => ?_
    split
    · exact .throw h
    · exact .pure h

theorem importQcBlob_finalizes (blob : QcBlob) :
    (importQcBlob N B blob).Leaves bc fun bc' => Finalizes bc bc' := by
  refine .get_bind <| .ensure_bind (.refl bc) fun _ => .get_bind <|
    .orThrow_bind (.refl bc) fun block _ => .ensure_bind (.refl bc) fun _ => .get_bind <|
    .ofExcept_bind (.refl bc) fun snapshot _ => .get_bind <|
    .ofExcept_bind (.refl bc) fun signers _ => .ensure_bind (.refl bc) fun _ => .modify_bind ?_
  exact (processPendingFinalityCerts_finalizes _).mono fun _ h => h.after rfl rfl rfl

/-- A candidate chain holds the finalized block, or it is refused. -/
theorem tryReorg_finalizes {candidate : List Block} {replaced : Bool}
    (h : bc.tryReorg N now candidate = .ok (replaced, bc')) : Finalizes bc bc' := by
  unfold tryReorg at h
  split at h
  · obtain ⟨-, rfl⟩ := Prod.mk.inj (Except.ok.inj h)
    exact .refl bc
  · split at h
    · obtain ⟨-, rfl⟩ := Prod.mk.inj (Except.ok.inj h)
      exact .refl bc
    · simp only [ok_iff, Except.orFail_eq_ok, checkReorg] at h
      obtain ⟨_, ⟨-, -, -, -, -, -, f, hf, hhash⟩, s, -, -, rfl⟩ := h
      exact ⟨le_rfl, fun _ => ⟨f, hf, hhash⟩⟩

/-- What the second kind of snapshot has to say for finality to go on. -/
def V2Agrees (p : StateSnapshotV2) (bc : Blockchain) : Prop :=
  bc.finalizedHeight ≤ p.finalizedHeight ∧
    ∃ b, bc.chain[p.finalizedHeight.toNat]? = some b ∧ b.hash = p.finalizedHash

/-- What a snapshot has to say for finality to go on. -/
def SnapshotAgrees (N : NodeLinks) (S : SnapshotLinks) (p : StateSnapshot) (bc : Blockchain) : Prop :=
  match embeddedV2 N S p bc.chainId with
  | some v2 => V2Agrees v2 bc
  | none => bc.finalizedHeight ≤ p.finalizedHeight

theorem applyV2Snapshot_finalizes {p : StateSnapshotV2} (hagrees : V2Agrees p bc)
    (h : applyV2Snapshot N p bc = .ok bc') : Finalizes bc bc' := by
  simp only [applyV2Snapshot, ok_iff] at h
  obtain ⟨-, -, -, -, -, -, -, -, rfl⟩ := h
  refine Finalizes.trans ?_ (List.foldlRecOn _ _ (.refl _) fun bc' h cert _ =>
    h.trans (finalizes_queue cert bc'))
  exact ⟨hagrees.1, fun _ => hagrees.2⟩

theorem applyV1Snapshot_finalizes (hheight : bc.finalizedHeight ≤ p.finalizedHeight)
    (h : applyV1Snapshot N p bc = .ok bc') : Finalizes bc bc' := by
  simp only [applyV1Snapshot, ok_iff] at h
  obtain ⟨-, -, -, -, -, -, -, -, -, -, -, -, -, -, f, hf, -, hhash, -, -, rfl⟩ := h
  exact ⟨hheight, fun _ => ⟨f, hf, hhash⟩⟩

theorem applyStateSnapshot_finalizes (hagrees : SnapshotAgrees N S p bc)
    (h : applyStateSnapshot N S p bc = .ok bc') : Finalizes bc bc' := by
  unfold applyStateSnapshot at h
  unfold SnapshotAgrees at hagrees
  split at h
  · rename_i v2 hv2
    rw [hv2] at hagrees
    simp only [Except.bind_eq_ok] at h
    obtain ⟨-, -, h⟩ := h
    exact applyV2Snapshot_finalizes hagrees h
  · rename_i hv2
    rw [hv2] at hagrees
    exact applyV1Snapshot_finalizes hagrees h

/-- One call on a node.  Calls that are refused and change nothing are left out. -/
inductive FinalityStep (N : NodeLinks) (B : Bls G₁ G₂) (S : SnapshotLinks) :
    Blockchain → Blockchain → Prop
  | add {bc bc' : Blockchain} (now : U128) (b : Block) (burned : List ContentId)
      (h : bc.validateAndAddBlock N now b = .ok (burned, bc')) : FinalityStep N B S bc bc'
  | produce (bc : Blockchain) (now : U128) (producer : Address) :
      FinalityStep N B S bc ((produceBlock N now producer).final bc)
  | reorg {bc bc' : Blockchain} (now : U128) (candidate : List Block) (replaced : Bool)
      (h : bc.tryReorg N now candidate = .ok (replaced, bc')) : FinalityStep N B S bc bc'
  | snapshot {bc bc' : Blockchain} (p : StateSnapshot) (hagrees : SnapshotAgrees N S p bc)
      (h : applyStateSnapshot N S p bc = .ok bc') : FinalityStep N B S bc bc'
  | v2Snapshot {bc bc' : Blockchain} (p : StateSnapshotV2) (hagrees : V2Agrees p bc)
      (h : applyV2Snapshot N p bc = .ok bc') : FinalityStep N B S bc bc'
  | cert (bc : Blockchain) (cert : FinalityCert) :
      FinalityStep N B S bc ((handleFinalityCert N B cert).final bc)
  | qcBlob (bc : Blockchain) (blob : QcBlob) :
      FinalityStep N B S bc ((importQcBlob N B blob).final bc)

theorem FinalityStep.finalizes (h : FinalityStep N B S bc bc') : Finalizes bc bc' := by
  cases h with
  | add now b burned h => exact validateAndAddBlock_finalizes h
  | produce now producer => exact (produceBlock_finalizes now producer).final
  | reorg now candidate replaced h => exact tryReorg_finalizes h
  | snapshot p hagrees h => exact applyStateSnapshot_finalizes hagrees h
  | v2Snapshot p hagrees h => exact applyV2Snapshot_finalizes hagrees h
  | cert cert => exact (handleFinalityCert_finalizes cert).final
  | qcBlob blob => exact (importQcBlob_finalizes blob).final

theorem finalizes_run (h : Relation.ReflTransGen (FinalityStep N B S) bc bc') : Finalizes bc bc' := by
  induction h with
  | refl => exact .refl bc
  | tail _ hstep ih => exact ih.trans hstep.finalizes

/-- **Finality does not go back.**  Between any two states of a run from genesis the finalized height
does not fall, and the block at the finalized height is the finalized one. -/
theorem finality_run {consensus : ConsensusEngine} {chainId : UInt64} {g : GenesisConfig}
    {domains : ConsensusDomainRegistry} {pool : MempoolConfig}
    (h : Relation.ReflTransGen (FinalityStep N B S)
      (Blockchain.new N consensus chainId g domains pool) bc)
    (h' : Relation.ReflTransGen (FinalityStep N B S) bc bc') :
    bc.finalizedHeight ≤ bc'.finalizedHeight ∧
      ∀ b, bc'.chain[bc'.finalizedHeight.toNat]? = some b → b.hash = bc'.finalizedHash := by
  have hrun := finalizes_run (h.trans h')
  obtain ⟨f, hf, hhash⟩ := hrun.holds ⟨g.buildGenesisBlock N.toLinked N.roots, rfl, rfl⟩
  refine ⟨(finalizes_run h').height, fun b hb => ?_⟩
  obtain rfl : b = f := Option.mem_unique hb hf
  exact hhash

end Runs

/-! ### Snapshots of a new node -/

/-- A node of the development network with nothing but its genesis. -/
def fresh : Blockchain := .new .telling (.poa {}) Network.devnet.chainId {} {} {}

/-- The snapshot of the genesis state that calls a hash finalized. -/
def genesisSnapshot (S : SnapshotLinks) (finalizedHash : String) : StateSnapshotV2 :=
  .fromState .telling S 0 (GenesisConfig.buildState Linked.sample {})
    ⟨0, fresh.finalizedHash, fresh.finalizedHash, Network.devnet.chainId, 0, finalizedHash, []⟩

/-- Links that read every text as a snapshot with the finalized hash `"forged"`. -/
def forgingLinks : SnapshotLinks where
  parseV2 _ := some (genesisSnapshot ⟨fun _ => none, fun _ => [], fun _ => true⟩ "forged")
  encodeRegistries _ := []
  verifyingKeyValid _ := true

/-- The text in the first format that carries the snapshot. -/
def forgedSnapshot : StateSnapshot :=
  ⟨0, "", Network.devnet.chainId, ∅, ∅, 0, "", ∅, "__v2__"⟩

/-- A snapshot that agrees with the node: the finalized block stays. -/
theorem finality_run_snapshot : ∃ bc',
    applyV2Snapshot .telling (genesisSnapshot forgingLinks fresh.finalizedHash) fresh = .ok bc' ∧
      fresh.finalizedHeight ≤ bc'.finalizedHeight ∧
      ∀ b, bc'.chain[bc'.finalizedHeight.toNat]? = some b → b.hash = bc'.finalizedHash := by
  obtain ⟨bc', happly⟩ := Except.exists_ok (x := applyV2Snapshot .telling
    (genesisSnapshot forgingLinks fresh.finalizedHash) fresh) (by decide +kernel)
  have hagrees : V2Agrees (genesisSnapshot forgingLinks fresh.finalizedHash) fresh :=
    ⟨le_rfl, GenesisConfig.buildGenesisBlock NodeLinks.telling.toLinked {} NodeLinks.telling.roots,
      rfl, rfl⟩
  exact ⟨bc', happly, finality_run (B := FinalityCert.acceptingBls) (S := forgingLinks) .refl
    (.single (.v2Snapshot _ hagrees happly))⟩

/-- The snapshot is installed, and the block at the finalized height is not the finalized one. -/
theorem forged_snapshot_installed :
    (applyStateSnapshot .telling forgingLinks forgedSnapshot fresh).toOption.any fun bc' =>
      (bc'.chain[bc'.finalizedHeight.toNat]?).any fun b => decide (b.hash ≠ bc'.finalizedHash) := by
  decide +kernel

end Blockchain

end Budlum
