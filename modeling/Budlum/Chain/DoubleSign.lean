import Budlum.Chain.Evidence

/-!
# Which double signing can be proven

A block is signed in one of two formats: with the key its producer's address is, or with an ML-DSA-87
key that hashes to the address and travels in the block.  The header that goes into evidence leaves
the key out, and its check knows the first format only.

* `PoSEngine.recorded_evidence_accepted_iff` : **evidence against two valid blocks is accepted exactly
  if both are signed in the first format.**
-/

namespace Budlum

open BlockHeader (fromBlock)
open ConsensusEngine (doubleSigns pos recordPos validateBlock validatePos)

open Blockchain

/-- The two encodings agree. -/
@[simp] theorem BlockHeader.calculateHashBytes_fromBlock (L : Linked) (b : Block) :
    (fromBlock L b).calculateHashBytes L = b.calculateHashBytes L := by
  simp only [calculateHashBytes, Block.calculateHashBytes, fromBlock]
  cases b.slashingEvidence <;> rfl

/-- The signature of the block is one under the address of its producer. -/
def Block.signedUnderAddress (L : Linked) (b : Block) : Bool :=
  b.producer.any fun producer =>
    (L.verifySignature (hashBytes (b.calculateHashBytes L)) (b.signature.getD [])
      (hashBytes producer)).toBool

theorem BlockHeader.verifySignature_fromBlock {L : Linked} {b : Block}
    (hhash : b.calculateHash L = b.hash) :
    (fromBlock L b).verifySignature L (b.signature.getD []) = b.signedUnderAddress L := by
  have hself : toHex (b.calculateHashBytes L) = (fromBlock L b).hash := hhash
  have hproducer : (fromBlock L b).producer = b.producer := rfl
  simp only [verifySignature, calculateHashBytes_fromBlock, hself, decide_true, Bool.true_and,
    Block.signedUnderAddress, hproducer]
  cases b.producer <;> rfl

namespace PoSEngine

variable {N : NodeLinks} {e : PoSEngine} {b b₁ b₂ : Block} {bs : List Block}

/-- The block passes the stake engine's check, on some chain and in some state. -/
def Validates (N : NodeLinks) (b : Block) : Prop :=
  ∃ (e : PoSEngine) (chain : List Block) (s : AccountState),
    (pos e).validateBlock N b chain s = .ok ()

theorem verifySignature_of_validatePos {chain : List Block} {s : AccountState}
    (h : validatePos N e b chain s = .ok ()) : b.verifySignature N.toLinked = true := by
  simp only [validatePos, Except.ok_iff, Except.orFail_eq_ok] at h
  obtain ⟨_, _, _, _, _, hsigned, -⟩ := h
  exact hsigned

/-- A valid block carries its own hash. -/
theorem Validates.hash (h : Validates N b) : b.calculateHash N.toLinked = b.hash := by
  obtain ⟨e, chain, s, h⟩ := h
  simp only [validateBlock] at h
  split_ifs at h with hgenesis
  · exact (of_decide_eq_true (Except.ensure_eq_ok.1 h)).symm
  · have hsigned := verifySignature_of_validatePos h
    simp only [Block.verifySignature] at hsigned
    split at hsigned
    · exact of_decide_eq_true (Bool.and_eq_true_iff.1 hsigned).1
    · cases hsigned

/-- A valid block after genesis without a key of its own is signed under its producer's address. -/
theorem Validates.signedUnderAddress (h : Validates N b) (hindex : b.index ≠ 0)
    (hkey : b.producerPublicKey = []) : b.signedUnderAddress N.toLinked = true := by
  obtain ⟨e, chain, s, h⟩ := h
  simp only [validateBlock, if_neg hindex] at h
  have hsigned := verifySignature_of_validatePos h
  simp only [Block.verifySignature] at hsigned
  split at hsigned
  · next producer signature hproducer hsignature =>
    have hverify := (Bool.and_eq_true_iff.1 hsigned).2
    simpa [Block.verifyProducer, hkey, Block.signedUnderAddress, hproducer, hsignature] using hverify
  · cases hsigned

/-! ### What the engine collects -/

def records (N : NodeLinks) (bs : List Block) (e : PoSEngine) : PoSEngine :=
  bs.foldl (recordPos N) e

/-- The engine before it has recorded anything. -/
def unrecorded (e : PoSEngine) : PoSEngine := { e with seenBlocks := ∅, slashingEvidence := [] }

/-- Two different blocks of one producer at one height. -/
structure Conflict (b₁ b₂ : Block) : Prop where
  isSome : b₁.producer.isSome
  producer : b₁.producer = b₂.producer
  index : b₁.index = b₂.index
  hash : b₁.hash ≠ b₂.hash

def evidenceOf (N : NodeLinks) (b₁ b₂ : Block) : SlashingEvidence :=
  ⟨fromBlock N.toLinked b₁, fromBlock N.toLinked b₂,
    b₁.signature.getD [], b₂.signature.getD []⟩

/-- What the engine remembers and what it has collected is about blocks of the list. -/
structure Remembers (N : NodeLinks) (bs : List Block) (e : PoSEngine) : Prop where
  seen : ∀ k v, e.seenBlocks.get k = some v → ∃ b ∈ bs,
    b.producer = some (ofLex k).1 ∧ b.index = (ofLex k).2 ∧
      v = (fromBlock N.toLinked b, b.signature.getD [])
  collected : ∀ ev ∈ e.slashingEvidence, ∃ b₁ ∈ bs, ∃ b₂ ∈ bs,
    Conflict b₁ b₂ ∧ ev = evidenceOf N b₁ b₂

theorem Remembers.record (h : Remembers N bs e) (hb : b ∈ bs) :
    Remembers N bs (recordPos N e b) := by
  simp only [recordPos]
  cases hproducer : b.producer with
  | none => exact h
  | some producer =>
    dsimp only
    by_cases hepoch : e.epochLength = 0
    · rwa [if_pos hepoch]
    rw [if_neg hepoch]
    cases hseen : e.seenBlocks.get (toLex (producer, b.index)) with
    | none =>
      refine ⟨fun k v hv => ?_, h.collected⟩
      rw [OrdMap.get_filter, Option.filter_eq_some_iff] at hv
      by_cases hk : k = toLex (producer, b.index)
      · rw [hk, OrdMap.get_insert, if_pos rfl] at hv
        obtain rfl := Option.some.inj hv.1
        exact ⟨b, hb, by rw [hproducer, hk]; rfl, by rw [hk]; rfl, rfl⟩
      · rw [OrdMap.get_insert_of_ne _ hk] at hv
        exact h.seen k v hv.1
    | some seen =>
      obtain ⟨b₁, hb₁, hproducer₁, hindex₁, rfl⟩ := h.seen _ _ hseen
      dsimp only
      split_ifs with hsame
      · exact h
      · refine ⟨h.seen, fun ev hev => ?_⟩
        rcases List.mem_append.1 hev with hev | hev
        · exact h.collected ev hev
        · obtain rfl := List.mem_singleton.1 hev
          refine ⟨b₁, hb₁, b, hb, ⟨by simp [hproducer₁], ?_, hindex₁, hsame⟩, rfl⟩
          rw [hproducer, hproducer₁]
          rfl

theorem records_spec (N : NodeLinks) (bs : List Block) (e : PoSEngine) :
    Remembers N bs (records N bs e.unrecorded) := by
  have hrun : ∀ (todo : List Block) (e : PoSEngine), todo ⊆ bs → Remembers N bs e →
      Remembers N bs (records N todo e) := by
    intro todo
    induction todo with
    | nil => exact fun _ _ h => h
    | cons b todo ih =>
      intro e htodo h
      have htodo := List.cons_subset.1 htodo
      exact ih _ htodo.2 (h.record htodo.1)
  refine hrun bs _ (List.Subset.refl bs) ⟨fun k v hv => ?_, fun ev hev => ?_⟩
  · simp [unrecorded] at hv
  · simp [unrecorded] at hev

/-- A block is not older than what the engine forgets when it records it. -/
theorem forgets_le (index length : UInt64) : (index / length).saturatingSub 2 * length ≤ index := by
  rw [UInt64.le_iff_toNat_le, UInt64.toNat_mul, UInt64.toNat_saturatingSub, UInt64.toNat_div]
  have hle : (index.toNat / length.toNat - 2) * length.toNat ≤ index.toNat :=
    (Nat.mul_le_mul_right _ (Nat.sub_le _ _)).trans (Nat.div_mul_le_self _ _)
  exact (Nat.mod_le _ _).trans hle

/-- Two conflicting blocks in a row leave their evidence. -/
theorem slashingEvidence_records_pair (h : Conflict b₁ b₂) (hepoch : e.epochLength ≠ 0) :
    (records N [b₁, b₂] e.unrecorded).slashingEvidence = [evidenceOf N b₁ b₂] := by
  obtain ⟨producer, hproducer₁⟩ := Option.isSome_iff_exists.1 h.isSome
  have hproducer₂ : b₂.producer = some producer := h.producer ▸ hproducer₁
  have hfirst : (recordPos N e.unrecorded b₁).seenBlocks.get
      (toLex (producer, b₁.index)) = some (fromBlock N.toLinked b₁, b₁.signature.getD []) := by
    simp only [recordPos, hproducer₁, unrecorded, hepoch, if_false, OrdMap.get_empty,
      OrdMap.get_filter, OrdMap.get_insert, if_true, Option.filter_eq_some_iff, true_and]
    exact decide_eq_true (forgets_le b₁.index e.epochLength)
  have hempty : (recordPos N e.unrecorded b₁).slashingEvidence = [] := by
    simp [recordPos, hproducer₁, unrecorded, hepoch]
  have hlength : (recordPos N e.unrecorded b₁).epochLength ≠ 0 := by
    simp [recordPos, hproducer₁, unrecorded, hepoch]
  have hsecond : (records N [b₁, b₂] e.unrecorded).slashingEvidence = _ :=
    ConsensusEngine.slashingEvidence_recordPos
  rw [hsecond, hempty, List.nil_append]
  simp only [doubleSigns, hproducer₂, hlength, if_false, ← h.index, hfirst]
  exact if_neg h.hash

/-! ### Which evidence is accepted -/

theorem verifySlashingEvidence_eq (L : Linked) (ev : SlashingEvidence) :
    verifySlashingEvidence L ev = verifyEvidence L ev := by
  simp only [verifySlashingEvidence, verifyEvidence]
  ac_rfl

/-- Both checks come down to the signatures under the producer's address. -/
theorem verifyEvidence_evidenceOf (h : Conflict b₁ b₂) (h₁ : Validates N b₁) (h₂ : Validates N b₂) :
    verifyEvidence N.toLinked (evidenceOf N b₁ b₂) =
      (b₁.signedUnderAddress N.toLinked && b₂.signedUnderAddress N.toLinked) := by
  have hindex : (evidenceOf N b₁ b₂).header1.index = (evidenceOf N b₁ b₂).header2.index := h.index
  have hproducer : (evidenceOf N b₁ b₂).header1.producer = (evidenceOf N b₁ b₂).header2.producer :=
    h.producer
  have hsome : (evidenceOf N b₁ b₂).header1.producer.isSome = true := h.isSome
  have hhash : (evidenceOf N b₁ b₂).header1.hash ≠ (evidenceOf N b₁ b₂).header2.hash := h.hash
  have hsigned₁ : (evidenceOf N b₁ b₂).header1.verifySignature N.toLinked
      (evidenceOf N b₁ b₂).signature1 = _ := BlockHeader.verifySignature_fromBlock h₁.hash
  have hsigned₂ : (evidenceOf N b₁ b₂).header2.verifySignature N.toLinked
      (evidenceOf N b₁ b₂).signature2 = _ := BlockHeader.verifySignature_fromBlock h₂.hash
  rw [verifyEvidence, hsigned₁, hsigned₂]
  simp [hindex, hproducer, hhash, hproducer ▸ hsome]

/-- The block is signed in the format that headers can be checked in: after genesis, any block that
brings no key of its own. -/
def Provable (N : NodeLinks) (b : Block) : Prop :=
  (b.index ≠ 0 ∧ b.producerPublicKey = []) ∨ b.signedUnderAddress N.toLinked = true

theorem Validates.provable_iff (h : Validates N b) :
    Provable N b ↔ b.signedUnderAddress N.toLinked = true := by
  constructor
  · rintro (⟨hindex, hkey⟩ | hsigned)
    · exact h.signedUnderAddress hindex hkey
    · exact hsigned
  · exact .inr

/-- **Evidence against valid blocks is accepted exactly if both are signed under their producer's
address**, in whatever order and between whatever others the blocks were recorded. -/
theorem recorded_evidence_accepted_iff (N : NodeLinks) (e : PoSEngine) (bs : List Block)
    (hvalid : ∀ b ∈ bs, Validates N b) :
    ∀ ev ∈ (records N bs e.unrecorded).slashingEvidence, ∃ b₁ ∈ bs, ∃ b₂ ∈ bs,
      Conflict b₁ b₂ ∧ ev = evidenceOf N b₁ b₂ ∧
        ((verifyEvidence N.toLinked ev = true ∧ verifySlashingEvidence N.toLinked ev = true) ↔
          Provable N b₁ ∧ Provable N b₂) := by
  intro ev hev
  obtain ⟨b₁, hb₁, b₂, hb₂, hconflict, rfl⟩ := (records_spec N bs e).collected ev hev
  refine ⟨b₁, hb₁, b₂, hb₂, hconflict, rfl, ?_⟩
  rw [verifySlashingEvidence_eq, and_self,
    verifyEvidence_evidenceOf hconflict (hvalid b₁ hb₁) (hvalid b₂ hb₂), Bool.and_eq_true,
    (hvalid b₁ hb₁).provable_iff, (hvalid b₂ hb₂).provable_iff]

/-! ### The other format -/

/-- Links to evaluate with: block hashes differ, and a signature under an address has 64 bytes. -/
def lengthLinks : NodeLinks :=
  { NodeLinks.sample with
    sha256 := textDigest
    verifySignature := fun _ signature _ =>
      Except.ensure (decide (signature.length = 64)) "Verification error: invalid signature length" }

/-- A block at a height with the key and the signature of its producer, who has the address that
every ML-DSA-87 key hashes to here. -/
def signedBlock (index : UInt64) (key signature : Bytes) (timestamp : U128) : Block :=
  let b := { Block.newWithChainId lengthLinks.toLinked timestamp index "genesis" [] 1337 with
    producer := some 1, producerPublicKey := key, signature := some signature, epoch := 0
    slot := index, vrfOutput := List.replicate 32 0, vrfProof := [1], validatorSetHash := toHex 1 }
  { b with hash := b.calculateHash lengthLinks.toLinked }

theorem conflict_signedBlock (index : UInt64) (key signature : Bytes)
    (h : (signedBlock index [] [] 1).hash ≠ (signedBlock index [] [] 2).hash) :
    Conflict (signedBlock index key signature 1) (signedBlock index key signature 2) :=
  ⟨rfl, rfl, rfl, h⟩

/-- A block at height zero has to carry its own hash only. -/
theorem validates_signedBlock_zero (key signature : Bytes) (timestamp : U128) :
    Validates lengthLinks (signedBlock 0 key signature timestamp) := by
  have hindex : (signedBlock 0 key signature timestamp).index = 0 := rfl
  have hhash : (signedBlock 0 key signature timestamp).hash =
      (signedBlock 0 key signature timestamp).calculateHash lengthLinks.toLinked := by
    simp [signedBlock, Block.calculateHash, Block.calculateHashBytes]
  refine ⟨{ epochLength := 10 }, [], {}, ?_⟩
  rw [validateBlock, if_pos hindex]
  exact Except.ensure_eq_ok.2 (decide_eq_true hhash)

/-- The blocks of a producer that signs under its address. -/
def addressBlock : U128 → Block := signedBlock 0 [] (List.replicate 64 0)

/-- With signatures under an address, two blocks at height zero are evidence. -/
theorem address_double_sign_accepted : verifyEvidence lengthLinks.toLinked
    (evidenceOf lengthLinks (addressBlock 1) (addressBlock 2)) = true := by
  have hvalid : ∀ b ∈ [addressBlock 1, addressBlock 2], Validates lengthLinks b := by
    simp only [List.forall_mem_cons, List.not_mem_nil, false_imp_iff, implies_true, and_true]
    exact ⟨validates_signedBlock_zero _ _ 1, validates_signedBlock_zero _ _ 2⟩
  have hconflict : Conflict (addressBlock 1) (addressBlock 2) :=
    conflict_signedBlock 0 _ _ (by decide +kernel)
  have hcollected : evidenceOf lengthLinks (addressBlock 1) (addressBlock 2) ∈ (records lengthLinks
      [addressBlock 1, addressBlock 2] (unrecorded { epochLength := 10 })).slashingEvidence := by
    rw [slashingEvidence_records_pair hconflict (by decide)]
    exact List.mem_singleton_self _
  obtain ⟨b₁, hb₁, b₂, hb₂, -, -, haccepted⟩ := recorded_evidence_accepted_iff lengthLinks
    { epochLength := 10 } [addressBlock 1, addressBlock 2] hvalid _ hcollected
  have hprovable : ∀ b ∈ [addressBlock 1, addressBlock 2], Provable lengthLinks b := by
    simp only [List.forall_mem_cons, List.not_mem_nil, false_imp_iff, implies_true, and_true]
    exact ⟨.inr (by decide +kernel), .inr (by decide +kernel)⟩
  exact (haccepted.2 ⟨hprovable b₁ hb₁, hprovable b₂ hb₂⟩).1

/-- A state in which the producer is the one validator. -/
def loneValidator : AccountState :=
  { validators := (∅ : OrdMap Address Validator).insert 1
      { address := 1, stake := 1000, vrfPublicKey := [1], blsPublicKey := [1], popSignature := [1]
        pqPublicKey := [1] } }

/-- The engine's check of a block on top of genesis. -/
def checkLone (b : Block) : Except (Fault String) Unit :=
  (pos { epochLength := 10 }).validateBlock lengthLinks b
    [{ Block.newWithChainId lengthLinks.toLinked 0 0 zeroHash [] 1337 with hash := "genesis" }]
    loneValidator

/-- The blocks of a validator that signs with an ML-DSA-87 key. -/
def mldsaBlock : U128 → Block :=
  signedBlock 1 (5 :: List.replicate mlDsa87PublicKeyLen 0) (List.replicate mlDsa87SignatureLen 0)

/-- **A validator with an ML-DSA-87 key can sign twice**: both blocks are valid, and the evidence that
the engine makes of them is refused. -/
theorem mldsa_double_sign_refused :
    let ev := evidenceOf lengthLinks (mldsaBlock 1) (mldsaBlock 2)
    (checkLone (mldsaBlock 1)).toBool = true ∧ (checkLone (mldsaBlock 2)).toBool = true ∧
      (records lengthLinks [mldsaBlock 1, mldsaBlock 2]
        (unrecorded { epochLength := 10 })).slashingEvidence = [ev] ∧
      verifyEvidence lengthLinks.toLinked ev = false ∧
      verifySlashingEvidence lengthLinks.toLinked ev = false := by
  have hconflict : Conflict (mldsaBlock 1) (mldsaBlock 2) :=
    conflict_signedBlock 1 _ _ (by decide +kernel)
  have hvalid₁ : (checkLone (mldsaBlock 1)).toBool = true := by decide +kernel
  have hvalid₂ : (checkLone (mldsaBlock 2)).toBool = true := by decide +kernel
  obtain ⟨_, hok₁⟩ := Except.exists_ok hvalid₁
  obtain ⟨_, hok₂⟩ := Except.exists_ok hvalid₂
  have hrefused : verifyEvidence lengthLinks.toLinked
      (evidenceOf lengthLinks (mldsaBlock 1) (mldsaBlock 2)) = false := by
    rw [verifyEvidence_evidenceOf hconflict ⟨_, _, _, hok₁⟩ ⟨_, _, _, hok₂⟩]
    decide +kernel
  refine ⟨hvalid₁, hvalid₂, slashingEvidence_records_pair hconflict (by decide), hrefused, ?_⟩
  rwa [verifySlashingEvidence_eq]

end PoSEngine

end Budlum
