import Budlum.Chain.FinalityCert
import Budlum.Consensus.Engine

/-!
# Quorum blobs

Beside its finality certificate a checkpoint has a blob: one post-quantum signature per validator
that signed, under a hash tree.  A certificate counts only once the blob of its checkpoint has been
verified.
-/

namespace Budlum

open Except (ensure ofOption)

structure PqSignatureEntry where
  validatorIndex : UInt32
  validatorAddress : String
  dilithiumSignature : Bytes
  deriving DecidableEq

structure QcBlob where
  epoch : UInt64
  checkpointHeight : UInt64
  checkpointHash : String
  pqSignatures : List PqSignatureEntry
  merkleRoot : String
  createdEpoch : UInt64
  deriving DecidableEq

def qcBlobTtlEpochs : UInt64 := 10
def maxQcBlobBytes : Nat := 1048576

/-- Checkpoints are the positive multiples of the chain's interval. -/
def isCheckpointHeightForChain (height chainId : UInt64) : Bool :=
  decide (0 < height) && decide (height % finalityCheckpointIntervalForChainId chainId = 0)

/-- The positions whose bit is set. -/
def FinalityCert.signerIndices (cert : FinalityCert) (validatorCount : Nat) : List Nat :=
  (List.range validatorCount).filter cert.bit

/-- The bytes a validator signs for a checkpoint. -/
def pqSigningMessage (epoch checkpointHeight : UInt64) (checkpointHash : String)
    (validatorIndex : UInt32) : Bytes :=
  textBytes "BUDLUM_PQ_QC" ++ u64Bytes epoch ++ u64Bytes checkpointHeight ++
    textBytes checkpointHash ++ u32Bytes validatorIndex

namespace QcBlob

variable (N : NodeLinks) (blob : QcBlob) (snapshot : ValidatorSetSnapshot)

def leafHash (entry : PqSignatureEntry) : Hash32 :=
  N.sha3 (u32Bytes entry.validatorIndex ++ Encode.bytes (textBytes entry.validatorAddress) ++
    Encode.bytes entry.dilithiumSignature)

def computeMerkleRoot (signatures : List PqSignatureEntry) : String :=
  toHex ((Merkle.root (fun left right => N.sha3 (hashBytes left ++ hashBytes right))
    (fun node => N.sha3 (textBytes "BDLM_MERKLE_ODD_PROMOTE_V1" ++ hashBytes node))
    (signatures.map (leafHash N))).getD 0)

def isExpired (currentEpoch : UInt64) : Bool :=
  decide (blob.createdEpoch.saturatingAdd qcBlobTtlEpochs < currentEpoch)

/-- The bytes of the entries, as far as they are counted. -/
def estimatedSize : Nat :=
  (blob.pqSignatures.map fun s =>
    s.dilithiumSignature.length + (textBytes s.validatorAddress).length + 8).sum

/-- The checks on the blob as a whole. -/
def checkShape (currentEpoch : UInt64) : Except String Unit := do
  ensure (decide (blob.epoch = snapshot.epoch))
    s!"QcBlob epoch mismatch: expected {snapshot.epoch}, got {blob.epoch}"
  ensure (decide (blob.checkpointHeight ≠ 0)) "QcBlob checkpoint height must be > 0"
  ensure (decide (blob.checkpointHash ≠ "")) "QcBlob checkpoint hash is empty"
  ensure (decide (blob.createdEpoch ≤ blob.epoch))
    s!"QcBlob created epoch {blob.createdEpoch} is above its epoch {blob.epoch}"
  ensure (!blob.isExpired currentEpoch)
    s!"QcBlob expired at epoch {currentEpoch} (created at {blob.createdEpoch})"
  ensure (decide (blob.pqSignatures.length ≤ snapshot.validators.length))
    s!"QcBlob carries {blob.pqSignatures.length} signature entries for a validator set of {snapshot.validators.length} (duplicates are rejected, so the extra entries cannot verify)"
  ensure (decide (blob.estimatedSize ≤ maxQcBlobBytes))
    s!"QcBlob too large: {blob.estimatedSize} bytes (max: {maxQcBlobBytes})"
  ensure (decide (computeMerkleRoot N blob.pqSignatures = blob.merkleRoot))
    "QcBlob merkle root mismatch"

def verifyEntry (entry : PqSignatureEntry) (v : ValidatorEntry) : Except String Unit :=
  N.verifyPq v.pqPublicKey (pqSigningMessage blob.epoch blob.checkpointHeight blob.checkpointHash
    entry.validatorIndex) entry.dilithiumSignature

/-- The checks on one entry, after entries of the positions `seen`. -/
def checkEntry (seen : List Nat) (entry : PqSignatureEntry) : Except String Unit := do
  let v ← ofOption snapshot.validators[entry.validatorIndex.toNat]?
    s!"QcBlob references unknown validator index {entry.validatorIndex}"
  ensure (decide (toHex v.address = entry.validatorAddress))
    s!"QcBlob validator address mismatch at index {entry.validatorIndex}: expected {toHex v.address}, got {entry.validatorAddress}"
  ensure (!v.pqPublicKey.isEmpty) s!"Validator {toHex v.address} has no Dilithium public key"
  ensure (!seen.contains entry.validatorIndex.toNat)
    s!"Duplicate PQ signature for validator index {entry.validatorIndex}"
  (blob.verifyEntry N entry v).mapError
    fun e => s!"Invalid Dilithium signature for validator {toHex v.address}: {e}"

/-- Check the entries in order; the positions that signed. -/
def checkEntries : (seen : List Nat) → List PqSignatureEntry → Except String (List Nat)
  | seen, [] => .ok seen
  | seen, entry :: rest => do
    blob.checkEntry N snapshot seen entry
    checkEntries (seen ++ [entry.validatorIndex.toNat]) rest

/-- The positions that signed, if everything in the blob verifies and everyone required signed. -/
def verifyAgainstSnapshot (requiredSigners : List Nat) (currentEpoch : UInt64) :
    Except String (List Nat) := do
  blob.checkShape N snapshot currentEpoch
  let verified ← blob.checkEntries N snapshot [] blob.pqSignatures
  requiredSigners.forM fun i => ensure (verified.contains i)
    s!"QcBlob missing PQ attestation for validator index {i}"
  return verified

/-- The entry names a validator of the set, and its signature is bad: what a fault proof shows. -/
def isFaulty (entry : PqSignatureEntry) : Bool :=
  match snapshot.validators[entry.validatorIndex.toNat]? with
  | none => false
  | some v => decide (toHex v.address = entry.validatorAddress) && !v.pqPublicKey.isEmpty &&
      !(blob.verifyEntry N entry v).toBool

variable {N blob snapshot}

theorem isFaulty_eq_false_of_checkEntry {seen : List Nat} {entry : PqSignatureEntry}
    (h : blob.checkEntry N snapshot seen entry = .ok ()) : blob.isFaulty N snapshot entry = false := by
  simp only [checkEntry, Except.ok_iff, Except.mapError_eq_ok] at h
  obtain ⟨v, hv, -, -, -, -, -, -, hverify⟩ := h
  simp [isFaulty, hv, hverify, Except.toBool]

theorem isFaulty_eq_false_of_checkEntries {entries : List PqSignatureEntry} :
    ∀ {seen verified : List Nat}, blob.checkEntries N snapshot seen entries = .ok verified →
      ∀ entry ∈ entries, blob.isFaulty N snapshot entry = false := by
  induction entries with
  | nil => simp
  | cons e rest ih =>
    intro seen verified h
    obtain ⟨_, he, hrest⟩ := Except.bind_eq_ok.1 h
    exact List.forall_mem_cons.2 ⟨isFaulty_eq_false_of_checkEntry he, ih hrest⟩

/-- A verified blob has no faulty entry, so no fault proof can be built from it. -/
theorem isFaulty_eq_false_of_verify {requiredSigners verified : List Nat} {currentEpoch : UInt64}
    (h : blob.verifyAgainstSnapshot N snapshot requiredSigners currentEpoch = .ok verified) :
    ∀ entry ∈ blob.pqSignatures, blob.isFaulty N snapshot entry = false := by
  obtain ⟨_, -, h⟩ := Except.bind_eq_ok.1 h
  obtain ⟨_, hentries, -⟩ := Except.bind_eq_ok.1 h
  exact isFaulty_eq_false_of_checkEntries hentries

end QcBlob

end Budlum
