import Budlum.Consensus.MerkleTree
import Budlum.Consensus.QcBlob
import Budlum.Core.Bytes

/-!
# Fault proofs against quorum blobs

A signature in a blob that does not verify is a fault: the entry, a proof that it is in the blob's
hash tree, and the position of its leaf.

* `QcBlob.faultsExact_iff` : **a verified blob admits no fault proof; the faults that are found in a
  blob are accepted exactly if it names a checkpoint and has the root of its entries, and no faulty
  signature is empty.**
-/

namespace Budlum

open Except (ensure ofOption)

structure ZkQcPublicInputs where
  merkleRoot : String
  pqPublicKeyHash : String
  attestationCommitment : String
  deriving DecidableEq

inductive QcProofKind where
  | invalidDilithiumV1 (dilithiumSignature : Bytes) (merkleProof : List Bytes) (leafIndex : UInt32)
  | zkInvalidAttestationV1 (proofBytes : Bytes) (publicInputs : ZkQcPublicInputs)
  deriving DecidableEq

structure QcFaultProof where
  version : UInt8
  epoch : UInt64
  checkpointHeight : UInt64
  checkpointHash : String
  validatorIndex : UInt32
  validatorAddress : String
  kind : QcProofKind
  deriving DecidableEq

inductive QcProofAction where
  | invalidateFinality
  | slashValidator
  deriving DecidableEq

structure QcProofVerdict where
  action : QcProofAction
  invalidateFromHeight : Option UInt64
  slashValidator : Bool
  deriving DecidableEq

/-- `combine_sha3` and `promote_sha3`. -/
def sha3Hashing (C : Crypto) : Merkle.Hashing Hash32 where
  combine left right := C.sha3 (hashBytes left ++ hashBytes right)
  promote node := C.sha3 (textBytes "BDLM_MERKLE_ODD_PROMOTE_V1" ++ hashBytes node)

namespace QcFaultProof

variable (N : NodeLinks) (proof : QcFaultProof)

def currentVersion : UInt8 := 1

/-- The digest a leaf and its proof lead to. -/
def rebuild : (idx : Nat) → Hash32 → List Bytes → Hash32
  | _, cur, [] => cur
  | idx, cur, element :: rest =>
    let next :=
      if element = hashBytes (oddPromotionSentinel N.toCrypto) then (sha3Hashing N.toCrypto).promote cur
      else if idx % 2 = 0 then N.sha3 (hashBytes cur ++ element)
      else N.sha3 (element ++ hashBytes cur)
    rebuild (idx / 2) next rest

def verifyInclusion (merkleRoot : String) : Except String Unit :=
  match proof.kind with
  | .zkInvalidAttestationV1 .. => .error "Merkle inclusion is not available for this QC proof kind"
  | .invalidDilithiumV1 signature merkleProof leafIndex =>
    let leaf := QcBlob.leafHash N ⟨proof.validatorIndex, proof.validatorAddress, signature⟩
    let computed := toHex (rebuild N leafIndex.toNat leaf merkleProof)
    ensure (decide (computed = merkleRoot))
      s!"Merkle proof invalid: computed {computed} != expected {merkleRoot}"

def validate : Except String Unit := do
  ensure (decide (proof.version = currentVersion))
    s!"Unsupported QC fault proof version {proof.version}"
  ensure (decide (proof.checkpointHeight ≠ 0)) "Empty checkpoint height"
  ensure (decide (proof.checkpointHash ≠ "")) "Empty checkpoint hash"
  match proof.kind with
  | .invalidDilithiumV1 signature merkleProof leafIndex =>
    ensure (decide (signature ≠ [])) "Empty Dilithium signature"
    ensure (!(merkleProof.isEmpty && decide (leafIndex ≠ 0))) "Empty merkle proof"
  | .zkInvalidAttestationV1 proofBytes inputs =>
    ensure (decide (proofBytes ≠ [])) "Empty ZK QC proof"
    ensure (decide (inputs.merkleRoot ≠ "")) "Empty ZK QC merkle root input"
    ensure (decide (inputs.pqPublicKeyHash ≠ "")) "Empty ZK QC PQ public key hash input"
    ensure (decide (inputs.attestationCommitment ≠ ""))
      "Empty ZK QC attestation commitment input"

/-- What a fault proof says about a blob, judged by the validators of its epoch. -/
def verifyAgainstBlob (blob : QcBlob) (snapshot : ValidatorSetSnapshot) :
    Except String QcProofVerdict := do
  proof.validate
  ensure (decide (proof.epoch = blob.epoch)) "QC fault proof epoch mismatch"
  ensure (decide (proof.checkpointHeight = blob.checkpointHeight))
    "QC fault proof checkpoint height mismatch"
  ensure (decide (proof.checkpointHash = blob.checkpointHash))
    "QC fault proof checkpoint hash mismatch"
  match proof.kind with
  | .invalidDilithiumV1 signature _ leafIndex =>
    proof.verifyInclusion N blob.merkleRoot
    let entry ← ofOption blob.pqSignatures[leafIndex.toNat]?
      s!"Leaf index {leafIndex} out of range"
    ensure
      (decide (entry = ⟨proof.validatorIndex, proof.validatorAddress, signature⟩))
      "Fault proof leaf does not match blob contents"
    let v ← ofOption snapshot.validators[proof.validatorIndex.toNat]?
      s!"Unknown validator index {proof.validatorIndex}"
    ensure (decide (toHex v.address = proof.validatorAddress))
      "Fault proof validator address mismatch"
    ensure (!v.pqPublicKey.isEmpty) "Validator has no Dilithium public key"
    let message := pqSigningMessage proof.epoch proof.checkpointHeight proof.checkpointHash
      proof.validatorIndex
    ensure (!(N.verifyPq v.pqPublicKey message signature).toBool)
      "Fault proof targets a valid Dilithium signature"
    return ⟨.invalidateFinality, some proof.checkpointHeight, true⟩
  | .zkInvalidAttestationV1 _ inputs =>
    ensure (decide (inputs.merkleRoot = blob.merkleRoot))
      "ZK QC public input merkle root mismatch"
    throw "ZK QC fault proof verifier not implemented - ZK domain attestations cannot be challenged until ZK verifier integration. This is fail-closed: no invalid ZK attestation can be finalized via this path."

end QcFaultProof

variable {i : Nat}

/-- Only a single leaf has no siblings. -/
theorem MerkleTree.eq_zero_of_merkleProof_eq_nil {C : Crypto} {H : Merkle.Hashing Hash32}
    {leaves : List Hash32} (h : merkleProof C H leaves i = some []) : i = 0 := by
  rw [merkleProof] at h
  split_ifs at h with hout
  rw [Bool.or_eq_true, not_or, decide_eq_true_eq, Nat.not_le] at hout
  obtain ⟨hne, hlt⟩ := hout
  by_cases hlen : 1 < leaves.length
  · rw [merkleLayers, if_neg hne, Merkle.rows_of_lt_length hlen, Merkle.rows_eq_cons,
      Merkle.siblings] at h
    cases h
  · omega

namespace QcBlob

variable (N : NodeLinks) (blob : QcBlob) (snapshot : ValidatorSetSnapshot)

def leaves : List Hash32 := blob.pqSignatures.map (leafHash N)

def merkleProof (leafIndex : Nat) : Except String (List Bytes) := do
  ensure (!blob.pqSignatures.isEmpty) "QcBlob has no PQ signatures"
  ensure (decide (leafIndex < blob.pqSignatures.length))
    s!"Leaf index {leafIndex} out of range for {blob.pqSignatures.length} signatures"
  let proof ← ofOption
    (MerkleTree.merkleProof N.toCrypto (sha3Hashing N.toCrypto) (blob.leaves N) leafIndex)
    "leaf index was bounds-checked above"
  return proof.map hashBytes

def faultProof (entry : PqSignatureEntry) (merkleProof : List Bytes) (leafIndex : UInt32) :
    QcFaultProof :=
  ⟨QcFaultProof.currentVersion, blob.epoch, blob.checkpointHeight, blob.checkpointHash,
    entry.validatorIndex, entry.validatorAddress,
    .invalidDilithiumV1 entry.dilithiumSignature merkleProof leafIndex⟩

def detectFaultProofs : List QcFaultProof :=
  blob.pqSignatures.zipIdx.filterMap fun (entry, leafIndex) =>
    if blob.isFaulty N snapshot entry then
      (blob.merkleProof N leafIndex).toOption.map fun proof =>
        blob.faultProof entry proof (UInt32.ofNat leafIndex)
    else none

/-- The check of a blob with or without required signers and a current epoch.  Without an epoch the
age is not checked, as if the blob were made and checked in epoch zero. -/
def verifyAgainst (requiredSigners : Option (List Nat)) : Option UInt64 → Except String (List Nat)
  | some currentEpoch =>
    blob.verifyAgainstSnapshot N snapshot (requiredSigners.getD []) currentEpoch
  | none =>
    { blob with createdEpoch := 0 }.verifyAgainstSnapshot N snapshot (requiredSigners.getD []) 0

/-- The blob is about a checkpoint. -/
def NamesCheckpoint : Prop := blob.checkpointHeight ≠ 0 ∧ blob.checkpointHash ≠ ""

instance : Decidable blob.NamesCheckpoint := inferInstanceAs (Decidable (_ ∧ _))

/-- Every fault that is found is accepted, and nothing is if the blob was accepted. -/
def FaultsExact : Prop :=
  (∀ proof ∈ blob.detectFaultProofs N snapshot,
    ∃ verdict, proof.verifyAgainstBlob N blob snapshot = .ok verdict) ∧
  ∀ requiredSigners currentEpoch verified,
    blob.verifyAgainst N snapshot requiredSigners currentEpoch = .ok verified →
    ∀ proof verdict, QcFaultProof.verifyAgainstBlob N proof blob snapshot ≠ .ok verdict

variable {N blob snapshot} {entry : PqSignatureEntry}

/-- The walk of a fault proof is that of the shared tree. -/
theorem rebuild_map {idx : Nat} {cur : Hash32} (siblings : List Hash32) :
    QcFaultProof.rebuild N idx cur (siblings.map hashBytes) =
      MerkleTree.merkleRootFromProof N.toCrypto (sha3Hashing N.toCrypto) cur idx siblings := by
  induction siblings generalizing idx cur with
  | nil => rfl
  | cons s siblings ih =>
    rw [List.map_cons, QcFaultProof.rebuild, ih, MerkleTree.merkleRootFromProof,
      MerkleTree.merkleRootFromProof, Merkle.rootFromProof]
    simp only [hashBytes_injective.eq_iff]
    rfl

theorem isFaulty_eq_false_of_verifyAgainst {requiredSigners : Option (List Nat)}
    {currentEpoch : Option UInt64} {verified : List Nat}
    (h : blob.verifyAgainst N snapshot requiredSigners currentEpoch = .ok verified) :
    ∀ entry ∈ blob.pqSignatures, blob.isFaulty N snapshot entry = false := by
  cases currentEpoch with
  | none => exact @isFaulty_eq_false_of_verify N { blob with createdEpoch := 0 } snapshot _ _ _ h
  | some epoch => exact isFaulty_eq_false_of_verify h

/-- What has to hold for the proof of a fault to be accepted. -/
theorem accepted_faultProof_iff {path : List Bytes} {i : UInt32} :
    (∃ verdict, (blob.faultProof entry path i).verifyAgainstBlob N blob snapshot = .ok verdict) ↔
      blob.NamesCheckpoint ∧ entry.dilithiumSignature ≠ [] ∧ (path = [] → i = 0) ∧
      toHex (QcFaultProof.rebuild N i.toNat (leafHash N entry) path) = blob.merkleRoot ∧
      blob.pqSignatures[i.toNat]? = some entry ∧ blob.isFaulty N snapshot entry := by
  obtain ⟨index, address, signature⟩ := entry
  unfold faultProof
  simp only [QcFaultProof.verifyAgainstBlob, QcFaultProof.validate, QcFaultProof.verifyInclusion,
    Except.ok_iff, exists_const]
  cases hv : snapshot.validators[index.toNat]? with
  | none => simp [isFaulty, hv]
  | some v => simp [isFaulty, hv, verifyEntry, NamesCheckpoint, imp_iff_not_or, and_assoc]

/-- An accepted proof is the proof of the fault of an entry. -/
theorem eq_faultProof_of_accepted {proof : QcFaultProof} {verdict : QcProofVerdict}
    (h : proof.verifyAgainstBlob N blob snapshot = .ok verdict) :
    ∃ entry path i, proof = blob.faultProof entry path i := by
  obtain ⟨version, epoch, height, hash, index, address, kind⟩ := proof
  simp only [QcFaultProof.verifyAgainstBlob, QcFaultProof.validate, Except.ok_iff] at h
  obtain ⟨-, ⟨-, rfl, -⟩, -, rfl, -, rfl, -, rfl, h⟩ := h
  cases kind with
  | invalidDilithiumV1 signature path i => exact ⟨⟨index, address, signature⟩, path, i, rfl⟩
  | zkInvalidAttestationV1 bytes inputs => simp at h

theorem mem_detectFaultProofs {proof : QcFaultProof} :
    proof ∈ blob.detectFaultProofs N snapshot ↔ ∃ i entry path, blob.pqSignatures[i]? = some entry ∧
      blob.isFaulty N snapshot entry ∧ blob.merkleProof N i = .ok path ∧
      blob.faultProof entry path (UInt32.ofNat i) = proof := by
  simp only [detectFaultProofs, List.mem_filterMap, Prod.exists, List.mem_zipIdx_iff_getElem?]
  constructor
  · rintro ⟨entry, i, hentry, hmap⟩
    split_ifs at hmap with hfaulty
    cases hpath : blob.merkleProof N i with
    | error e => simp [hpath, Except.toOption] at hmap
    | ok path =>
      rw [hpath] at hmap
      exact ⟨i, entry, path, hentry, hfaulty, hpath, Option.some.inj hmap⟩
  · rintro ⟨i, entry, path, hentry, hfaulty, hpath, rfl⟩
    exact ⟨entry, i, hentry, by rw [if_pos hfaulty, hpath]; rfl⟩

/-- The path of an entry leads to the root of the entries, and is empty for a single one only. -/
theorem merkleProof_leads
    (hentry : blob.pqSignatures[i]? = some entry)
    (hsentinel : ∀ layer ∈ MerkleTree.merkleLayers (sha3Hashing N.toCrypto) (blob.leaves N),
      oddPromotionSentinel N.toCrypto ∉ layer) :
    ∃ path, blob.merkleProof N i = .ok path ∧ (path = [] → i = 0) ∧
      toHex (QcFaultProof.rebuild N i (leafHash N entry) path) =
        computeMerkleRoot N blob.pqSignatures := by
  obtain ⟨hlt, -⟩ := List.getElem?_eq_some_iff.1 hentry
  have hleaf : (blob.leaves N)[i]? = some (leafHash N entry) := by
    rw [leaves, List.getElem?_map, hentry]
    rfl
  obtain ⟨siblings, hproof, hroot⟩ := MerkleTree.merkleProof_leads hleaf hsentinel
  refine ⟨siblings.map hashBytes, ?_, fun hnil => ?_, ?_⟩
  · have hne : blob.pqSignatures ≠ [] := by rintro h; simp [h] at hlt
    simp [merkleProof, hne, hlt, hproof, ofOption]
  · obtain rfl := List.map_eq_nil_iff.1 hnil
    exact MerkleTree.eq_zero_of_merkleProof_eq_nil hproof
  · rw [rebuild_map, hroot, MerkleTree.merkleRoot_eq]
    rfl

/-- **Fault proofs.**  A leaf's position fits the proof, and no digest of the tree is the
sentinel. -/
theorem faultsExact_iff (hlen : blob.pqSignatures.length ≤ 2 ^ 32)
    (hsentinel : ∀ layer ∈ MerkleTree.merkleLayers (sha3Hashing N.toCrypto) (blob.leaves N),
      oddPromotionSentinel N.toCrypto ∉ layer) :
    blob.FaultsExact N snapshot ↔ ∀ entry ∈ blob.pqSignatures, blob.isFaulty N snapshot entry →
      blob.NamesCheckpoint ∧ entry.dilithiumSignature ≠ [] ∧
        computeMerkleRoot N blob.pqSignatures = blob.merkleRoot := by
  have hdetected : ∀ (i : Nat) entry path, blob.pqSignatures[i]? = some entry →
      blob.isFaulty N snapshot entry → blob.merkleProof N i = .ok path →
      ((∃ verdict, (blob.faultProof entry path (UInt32.ofNat i)).verifyAgainstBlob N blob snapshot =
        .ok verdict) ↔ blob.NamesCheckpoint ∧ entry.dilithiumSignature ≠ [] ∧
          computeMerkleRoot N blob.pqSignatures = blob.merkleRoot) := by
    intro i entry path hentry hfaulty hpath
    obtain ⟨hlt, -⟩ := List.getElem?_eq_some_iff.1 hentry
    have hindex : (UInt32.ofNat i).toNat = i := UInt32.toNat_ofNat_of_lt' (hlt.trans_le hlen)
    obtain ⟨path', hpath', hnil, hroot⟩ := merkleProof_leads hentry hsentinel
    obtain rfl := Except.ok.inj (hpath.symm.trans hpath')
    rw [accepted_faultProof_iff, hindex, hroot]
    constructor
    · rintro ⟨hnames, hsignature, -, hmatch, -⟩
      exact ⟨hnames, hsignature, hmatch⟩
    · rintro ⟨hnames, hsignature, hmatch⟩
      exact ⟨hnames, hsignature, fun h => by rw [hnil h]; rfl, hmatch, hentry, hfaulty⟩
  constructor
  · rintro ⟨hall, -⟩ entry hmem hfaulty
    obtain ⟨i, hentry⟩ := List.mem_iff_getElem?.1 hmem
    obtain ⟨path, hpath, -⟩ := merkleProof_leads hentry hsentinel
    exact (hdetected i entry path hentry hfaulty hpath).1
      (hall _ (mem_detectFaultProofs.2 ⟨i, entry, path, hentry, hfaulty, hpath, rfl⟩))
  · refine fun hcond => ⟨fun proof hproof => ?_, fun required epoch verified hverify proof verdict h => ?_⟩
    · obtain ⟨i, entry, path, hentry, hfaulty, hpath, rfl⟩ := mem_detectFaultProofs.1 hproof
      exact (hdetected i entry path hentry hfaulty hpath).2
        (hcond entry (List.mem_of_getElem? hentry) hfaulty)
    · obtain ⟨entry, path, i, rfl⟩ := eq_faultProof_of_accepted h
      obtain ⟨-, -, -, -, hentry, hfaulty⟩ := accepted_faultProof_iff.1 ⟨verdict, h⟩
      have hsound := isFaulty_eq_false_of_verifyAgainst hverify entry (List.mem_of_getElem? hentry)
      rw [hfaulty] at hsound
      cases hsound

/-- Nothing verifies. -/
def refusingLinks : NodeLinks := { NodeLinks.telling with verifyPq := fun _ _ _ => .error "bad" }

def oneValidator : ValidatorSetSnapshot := ⟨3, [⟨1, 10, [], [], [1]⟩], "set", 10⟩

/-- Its signature on a checkpoint, under a root. -/
def signedOnce (merkleRoot : String) : QcBlob :=
  ⟨3, 50, "a", [⟨0, toHex 1, [7]⟩], merkleRoot, 3⟩

def signedOnceRoot : String := computeMerkleRoot refusingLinks (signedOnce "").pqSignatures

theorem faultsExact_signedOnce :
    (signedOnce signedOnceRoot).FaultsExact refusingLinks oneValidator :=
  (faultsExact_iff (by decide) (by decide +kernel)).2 (by decide +kernel)

/-- The fault of a blob with another root is found, and its proof refused. -/
theorem misrooted_fault_refused :
    ((signedOnce "").detectFaultProofs refusingLinks oneValidator).map (fun proof =>
      (proof.verifyAgainstBlob refusingLinks (signedOnce "") oneValidator).toBool) = [false] := by
  decide +kernel

end QcBlob

end Budlum
