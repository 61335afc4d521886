import Budlum.Core.Economics
import Budlum.Lib.Quorum

/-!
# Finality certificates

A certificate names a checkpoint, the validators that signed it (one bit each) and their aggregate
signature.  It counts when the signers hold more than two thirds of the stake.

`FinalityCert.third_lt_commonStake`: **two certificates that verify against one validator set share
signers with more than a third of its stake.**
-/

namespace Budlum

open Quorum
open Except (ensure ofOption)

structure ValidatorEntry where
  address : Address
  stake : UInt64
  blsPublicKey : Bytes
  popSignature : Bytes
  pqPublicKey : Bytes
  deriving DecidableEq

/-- The validators of an epoch. -/
structure ValidatorSetSnapshot where
  epoch : UInt64
  validators : List ValidatorEntry
  setHash : String
  totalStake : UInt64
  deriving DecidableEq

namespace ValidatorSetSnapshot

/-- A byte string behind its length. -/
def withLength (b : Bytes) : Bytes := leBytes 8 b.length ++ b

/-- The hash of a validator set, in the order of addresses. -/
def computeHash (C : Crypto) (validators : List ValidatorEntry) : String :=
  let sorted := validators.mergeSort fun a b => decide (a.address ≤ b.address)
  toHex (C.sha3 (sorted.flatMap fun v => hashBytes v.address ++ u64Bytes v.stake ++
    withLength v.blsPublicKey ++ withLength v.popSignature ++ withLength v.pqPublicKey))

def new (C : Crypto) (epoch : UInt64) (validators : List ValidatorEntry) : ValidatorSetSnapshot :=
  { epoch := epoch
    validators := validators
    setHash := computeHash C validators
    totalStake := validators.foldl (fun acc v => acc.saturatingAdd v.stake) 0 }

variable (s : ValidatorSetSnapshot)

/-- The exact sum of the stakes. -/
def stakeSum : Nat := (s.validators.map (·.stake.toNat)).sum

/-- The stake a certificate needs. -/
def quorumStake : Nat := s.stakeSum * finalityQuorumNumerator / finalityQuorumDenominator + 1

/-- The number of signers a certificate needs. -/
def quorumCount : Nat :=
  (s.validators.length * finalityQuorumNumerator + finalityQuorumDenominator - 1) /
    finalityQuorumDenominator

end ValidatorSetSnapshot

/-- The pairing groups of the linked BLS crate: signatures in `G₁`, keys in `G₂`. -/
structure Bls (G₁ G₂ : Type) where
  /-- `G2Affine::from_compressed` of 96 bytes. -/
  decodeKey : Bytes → Option G₂
  /-- `G2Affine::is_torsion_free`. -/
  isTorsionFree : G₂ → Bool
  /-- `G2Affine::is_identity`. -/
  isIdentityKey : G₂ → Bool
  /-- The sum of keys. -/
  aggregate : List G₂ → G₂
  /-- `G1Affine::from_compressed` of 48 bytes. -/
  decodeSignature : Bytes → Option G₁
  /-- `G1Affine::is_identity`. -/
  isIdentitySignature : G₁ → Bool
  /-- The pairing check of a signature on a message under a key. -/
  pairingCheck : (signature : G₁) → (message : Bytes) → (key : G₂) → Bool

structure FinalityCert where
  epoch : UInt64
  checkpointHeight : UInt64
  checkpointHash : String
  aggSigBls : Bytes
  bitmap : Bytes
  setHash : String
  deriving DecidableEq

def checkpointSigningMessage (epoch height : UInt64) (hash : String) : Bytes :=
  textBytes "BUDLUM_PRECOMMIT" ++ textBytes "BLS_SIG_BLS12381G1_XMD:SHA-256_SSWU_RO_POP_" ++
    u64Bytes epoch ++ u64Bytes height ++ textBytes hash

namespace FinalityCert

variable {G₁ G₂ : Type} (B : Bls G₁ G₂) (cert : FinalityCert) (snapshot : ValidatorSetSnapshot)

/-- The bytes the signers signed. -/
def signingMessage : Bytes :=
  checkpointSigningMessage cert.epoch cert.checkpointHeight cert.checkpointHash

def bit (idx : Nat) : Bool :=
  (cert.bitmap.getD (idx / 8) 0) &&& (1 <<< UInt8.ofNat (idx % 8)) != 0

def signerKey (v : ValidatorEntry) : Except String G₂ := do
  ensure (decide (v.blsPublicKey.length = 96))
    s!"Invalid BLS public key length for {toHex v.address}"
  let key ← ofOption (B.decodeKey v.blsPublicKey)
    s!"Invalid BLS public key encoding for {toHex v.address}"
  ensure (B.isTorsionFree key && !B.isIdentityKey key)
    s!"Bitmap signer {toHex v.address} has an identity key or a key outside the prime-order subgroup"
  return key

/-- What the walk over the bitmap adds up. -/
structure Tally (G₂ : Type) where
  stake : Nat := 0
  count : Nat := 0
  keys : List G₂ := []

/-- Walk over the validators from position `idx` on. -/
def collect : (idx : Nat) → List ValidatorEntry → Tally G₂ → Except String (Tally G₂)
  | _, [], t => .ok t
  | idx, v :: rest, t =>
    if cert.bit idx then do
      let key ← signerKey B v
      collect (idx + 1) rest ⟨t.stake + v.stake.toNat, t.count + 1, t.keys ++ [key]⟩
    else collect (idx + 1) rest t

/-- The bitmap has one bit per validator and no other bit set. -/
def checkBitmap : Except String Unit := do
  let expected := (snapshot.validators.length + 7) / 8
  ensure (decide (cert.bitmap.length = expected))
    s!"Non-canonical finality certificate bitmap length: {cert.bitmap.length} bytes, expected {expected}"
  let trailing := snapshot.validators.length % 8
  ensure (decide (trailing = 0) ||
      cert.bitmap.getLast?.all fun last => decide (last >>> UInt8.ofNat trailing = 0))
    "Finality certificate bitmap has out-of-range signer bits"

/-- The stake and the number of signers reach the quorum. -/
def checkQuorum (t : Tally G₂) : Except String Unit := do
  ensure (decide (snapshot.quorumStake ≤ t.stake))
    s!"Insufficient quorum: {t.stake} < {snapshot.quorumStake} (need {finalityQuorumNumerator}/{finalityQuorumDenominator})"
  ensure (decide (snapshot.quorumCount ≤ t.count))
    s!"Insufficient signer count quorum: {t.count} < {snapshot.quorumCount} (need {finalityQuorumNumerator}/{finalityQuorumDenominator})"
  ensure (!t.keys.isEmpty) "No signers in bitmap"

/-- The aggregate signature verifies under the signers' keys. -/
def checkSignature (keys : List G₂) : Except String Unit := do
  let key := B.aggregate keys
  ensure (!B.isIdentityKey key) "Aggregated BLS public key is identity"
  ensure (decide (cert.aggSigBls.length = 48)) "Invalid aggregated BLS signature length"
  let sig ← ofOption (B.decodeSignature cert.aggSigBls)
    "Invalid aggregated BLS signature encoding"
  ensure (!B.isIdentitySignature sig) "Aggregated BLS signature is identity"
  ensure (B.pairingCheck sig cert.signingMessage key)
    "BLS aggregate signature verification failed"

/-- `FinalityCert::verify`. -/
def verify : Except String Unit := do
  ensure (decide (cert.setHash = snapshot.setHash)) "Validator set hash mismatch"
  ensure (decide (cert.epoch = snapshot.epoch)) "Epoch mismatch"
  cert.checkBitmap snapshot
  let t ← cert.collect B 0 snapshot.validators {}
  checkQuorum snapshot t
  cert.checkSignature B t.keys

/-! ### What a verified certificate says about stake -/

variable {snapshot}

/-- The validators of a set, by position. -/
abbrev Position (s : ValidatorSetSnapshot) := Fin s.validators.length

def stakeAt (s : ValidatorSetSnapshot) (i : Position s) : Nat := (s.validators.get i).stake.toNat

def signers (s : ValidatorSetSnapshot) : Finset (Position s) :=
  Finset.univ.filter fun i => cert.bit i

/-- The walk adds up the stakes of the set bits. -/
theorem collect_stake {vs : List ValidatorEntry} :
    ∀ {idx : Nat} {t t' : Tally G₂}, cert.collect B idx vs t = .ok t' →
      t'.stake = t.stake +
        ∑ i : Fin vs.length, if cert.bit (idx + i) then (vs.get i).stake.toNat else 0 := by
  induction vs with
  | nil =>
    intro idx t t' h
    cases h
    simp
  | cons v vs ih =>
    intro idx t t' h
    -- the first position apart, the others one further on
    have hsum := Fin.sum_univ_succ (n := vs.length)
      fun i => if cert.bit (idx + i) then ((v :: vs).get i).stake.toNat else 0
    have hshift : ∀ i : Fin vs.length, idx + (i.succ : Fin (vs.length + 1)) = idx + 1 + i := by
      intro i; rw [Fin.val_succ]; omega
    simp only [hshift] at hsum
    refine Eq.trans ?_ (congrArg (t.stake + ·) hsum.symm)
    unfold collect at h
    split_ifs at h with hbit
    · obtain ⟨key, -, h⟩ := Except.bind_eq_ok.1 h
      rw [ih h]
      simp [hbit, Nat.add_assoc]
    · rw [ih h]
      simp [hbit]

theorem stakeSum_eq_weight (s : ValidatorSetSnapshot) :
    s.stakeSum = weight (stakeAt s) Finset.univ := by
  rw [ValidatorSetSnapshot.stakeSum, weight, ← List.sum_ofFn]
  congr 1
  exact (List.ofFn_getElem_eq_map s.validators fun v => v.stake.toNat).symm

/-- The signers of a verified certificate hold more than two thirds of the stake. -/
theorem two_thirds_lt_of_verify {s : ValidatorSetSnapshot} (h : cert.verify B s = .ok ()) :
    2 * weight (stakeAt s) Finset.univ < 3 * weight (stakeAt s) (cert.signers s) := by
  simp only [verify, checkQuorum, Except.ok_iff] at h
  obtain ⟨-, -, -, -, -, -, t, hcollect, -, ⟨-, hstake, -⟩, -⟩ := h
  have hsum := cert.collect_stake B hcollect
  have hsigners : t.stake = weight (stakeAt s) (cert.signers s) := by
    rw [hsum, weight, signers, Finset.sum_filter]
    simp [stakeAt]
  rw [ValidatorSetSnapshot.quorumStake, stakeSum_eq_weight, hsigners] at hstake
  simp only [finalityQuorumNumerator, finalityQuorumDenominator] at hstake
  omega

/-- The stake of the validators whose bits are set in both certificates. -/
def commonStake (s : ValidatorSetSnapshot) (c c' : FinalityCert) : Nat :=
  ∑ i : Position s, if c.bit i && c'.bit i then stakeAt s i else 0

theorem commonStake_eq_weight (s : ValidatorSetSnapshot) (c c' : FinalityCert) :
    commonStake s c c' = weight (stakeAt s) (c.signers s ∩ c'.signers s) := by
  rw [weight, signers, signers, ← Finset.filter_and, Finset.sum_filter, commonStake]
  simp [Bool.and_eq_true]

/-- **Quorum intersection.**  If two certificates verify against one validator set, the validators
whose bits are set in both hold more than a third of its stake, whatever checkpoints they name. -/
theorem third_lt_commonStake {s : ValidatorSetSnapshot} {c c' : FinalityCert}
    (h : c.verify B s = .ok ()) (h' : c'.verify B s = .ok ()) :
    s.stakeSum < 3 * commonStake s c c' := by
  rw [stakeSum_eq_weight, commonStake_eq_weight]
  exact Quorum.third_lt_weight_inter _ (c.two_thirds_lt_of_verify B h) (c'.two_thirds_lt_of_verify B h')

/-- A scheme that accepts every key and signature. -/
def acceptingBls : Bls Unit Unit :=
  ⟨fun _ => some (), fun _ => true, fun _ => false, fun _ => (), fun _ => some (), fun _ => false,
    fun _ _ _ => true⟩

def fourValidators : ValidatorSetSnapshot :=
  let entry (n : Nat) (stake : UInt64) : ValidatorEntry :=
    ⟨Fin.ofNat _ n, stake, List.replicate 96 0, [], []⟩
  ⟨3, [entry 1 10, entry 2 20, entry 3 30, entry 4 40], "set", 100⟩

/-- A certificate on the named checkpoint by the last three of the four. -/
def lastThreeSign (hash : String) : FinalityCert :=
  ⟨3, 50, hash, List.replicate 48 0, [14], "set"⟩

theorem third_lt_commonStake_conflict :
    (lastThreeSign "a").checkpointHash ≠ (lastThreeSign "b").checkpointHash ∧
      fourValidators.stakeSum <
        3 * commonStake fourValidators (lastThreeSign "a") (lastThreeSign "b") :=
  ⟨by decide, third_lt_commonStake acceptingBls (by decide) (by decide)⟩

end FinalityCert

end Budlum
