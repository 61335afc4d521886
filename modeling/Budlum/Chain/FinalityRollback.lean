import Budlum.Chain.Blockchain

/-!
# Rolling finality back

When a quorum blob turns out faulty, finality goes back below its height.  A node with a storage
backend looks for the last certificate that is left there; a node without one forgets its finality.

`Blockchain.invalidate_restores_iff`: **both end up at the last certificate below the height exactly
when there is none, and no certificate from the height on is missed by the deletion**, which steps
from the height by the checkpoint interval.
-/

namespace Budlum

/-- What a storage backend keeps about finality.  Certificates are stored under their own height,
which is a checkpoint and never genesis. -/
structure FinalityStore where
  certs : OrdMap UInt64 FinalityCert
  qcBlobs : OrdMap UInt64 QcBlob := ∅
  canonicalHeight : UInt64 := 0
  keyed : ∀ h c, certs.get h = some c → c.checkpointHeight = h ∧ h ≠ 0

namespace FinalityStore

variable (s : FinalityStore) (fromHeight interval tip : Nat)

/-- The heights a deletion visits: from the height on in steps of the interval, up to the tip. -/
def visited : List Nat := List.range' fromHeight ((tip + interval - fromHeight) / interval) interval

/-- Delete the certificates and blobs at the visited heights. -/
def deleteFrom : FinalityStore where
  certs := s.certs.filter fun h _ => !(visited fromHeight interval tip).contains h.toNat
  qcBlobs := s.qcBlobs.filter fun h _ => !(visited fromHeight interval tip).contains h.toNat
  canonicalHeight := s.canonicalHeight
  keyed h c hget := by
    rw [OrdMap.get_filter, Option.filter_eq_some_iff] at hget
    exact s.keyed h c hget.1

/-- The certificate at the highest of the first `k` checkpoints that has one. -/
def latestCert : (k : Nat) → Option FinalityCert
  | 0 => none
  | k + 1 => (s.certs.get (UInt64.ofNat ((k + 1) * interval))).or (latestCert k)

variable {s fromHeight interval tip}

theorem mem_visited (hi : 0 < interval) {h : Nat} : h ∈ visited fromHeight interval tip ↔
    fromHeight ≤ h ∧ h ≤ tip ∧ interval ∣ h - fromHeight := by
  rw [visited, List.mem_range']
  constructor
  · rintro ⟨i, hlt, rfl⟩
    have := (Nat.le_div_iff_mul_le hi).1 hlt
    rw [Nat.succ_mul, Nat.mul_comm] at this
    exact ⟨by omega, by omega, by simp⟩
  · rintro ⟨hle, htip, k, hk⟩
    refine ⟨k, (Nat.le_div_iff_mul_le hi).2 ?_, by omega⟩
    rw [Nat.succ_mul, Nat.mul_comm]
    omega

theorem latestCert_eq_none {k : Nat} : s.latestCert interval k = none ↔
    ∀ j, 0 < j → j ≤ k → s.certs.get (UInt64.ofNat (j * interval)) = none := by
  induction k with
  | zero => simp only [latestCert, true_iff]; intro j hj hle; omega
  | succ k ih =>
    rw [latestCert, Option.or_eq_none_iff, ih]
    constructor
    · rintro ⟨hlast, hbelow⟩ j hj hle
      rcases Nat.lt_or_ge k j with hlt | hle
      · obtain rfl : j = k + 1 := by omega
        exact hlast
      · exact hbelow j hj hle
    · exact fun h => ⟨h _ (by omega) (Nat.le_refl _), fun j hj hle => h j hj (by omega)⟩

theorem latestCert_ne_zero {k : Nat} {c : FinalityCert} (h : s.latestCert interval k = some c) :
    c.checkpointHeight ≠ 0 := by
  induction k with
  | zero => cases h
  | succ k ih =>
    rw [latestCert, Option.or_eq_some_iff] at h
    rcases h with h | ⟨-, h⟩
    · obtain ⟨hkey, hne⟩ := s.keyed _ _ h
      rwa [hkey]
    · exact ih h

end FinalityStore

namespace Blockchain

variable (bc : Blockchain) (store : Option FinalityStore) (fromHeight : UInt64)

def checkpointInterval : Nat := (finalityCheckpointIntervalForChainId bc.chainId).toNat

/-- The height of the last block. -/
def tipHeight : Nat := (UInt64.ofNat (bc.chain.length - 1)).toNat

/-- The node and what its backend keeps after finality is taken back from a height on. -/
def invalidateFinalityFromHeight : Blockchain × Option FinalityStore :=
  let store := store.map fun s =>
    s.deleteFrom fromHeight.toNat bc.checkpointInterval bc.tipHeight
  let cert := store.bind fun s =>
    s.latestCert bc.checkpointInterval (bc.tipHeight / bc.checkpointInterval)
  let bc :=
    { bc with
      verifiedQcBlobs := bc.verifiedQcBlobs.filter fun h _ => decide (h < fromHeight)
      finalizedHeight := (cert.map (·.checkpointHeight)).getD 0
      finalizedHash := (cert.map (·.checkpointHash)).getD ((bc.chain.head?.map (·.hash)).getD "") }
  (bc, store.map fun s => { s with canonicalHeight := bc.finalizedHeight })

/-- The node is at the last certificate below the height, and at height zero if there is none. -/
def RestoredBelow (certs : OrdMap UInt64 FinalityCert) (bc : Blockchain) : Prop :=
  (∃ c, certs.get bc.finalizedHeight = some c ∧ bc.finalizedHeight < fromHeight ∧
      bc.finalizedHash = c.checkpointHash ∧
      ∀ h, certs.contains h → h < fromHeight → h ≤ bc.finalizedHeight) ∨
    bc.finalizedHeight = 0 ∧ ∀ h, certs.contains h → fromHeight ≤ h

variable {bc fromHeight}

theorem checkpointInterval_pos : 0 < bc.checkpointInterval := by
  rw [checkpointInterval, finalityCheckpointIntervalForChainId]
  rcases Network.fromChainId bc.chainId with _ | n
  · decide
  · cases n <;> decide

/-- No certificate survives the deletion where the node looks for one. -/
theorem latestCert_deleteFrom_eq_none {s : FinalityStore} :
    (s.deleteFrom fromHeight.toNat bc.checkpointInterval bc.tipHeight).latestCert bc.checkpointInterval
      (bc.tipHeight / bc.checkpointInterval) = none ↔
    ∀ h, s.certs.contains h → bc.checkpointInterval ∣ h.toNat → h.toNat ≤ bc.tipHeight →
      fromHeight ≤ h ∧ bc.checkpointInterval ∣ h.toNat - fromHeight.toNat := by
  have hpos := @checkpointInterval_pos bc
  have hgone : ∀ h, (s.deleteFrom fromHeight.toNat bc.checkpointInterval bc.tipHeight).certs.get h = none ↔
      (s.certs.contains h → fromHeight ≤ h ∧ h.toNat ≤ bc.tipHeight ∧
        bc.checkpointInterval ∣ h.toNat - fromHeight.toNat) := by
    intro h
    rw [FinalityStore.deleteFrom, OrdMap.get_filter, OrdMap.contains, UInt64.le_iff_toNat_le,
      ← FinalityStore.mem_visited hpos]
    cases s.certs.get h <;> simp [Option.filter]
  rw [FinalityStore.latestCert_eq_none]
  constructor
  · rintro hnone h hmem ⟨j, hj⟩ htip
    obtain ⟨c, hc⟩ := OrdMap.contains_iff.1 hmem
    have hne : h.toNat ≠ 0 := fun h0 => (s.keyed h c hc).2 (UInt64.toNat_inj.1 h0)
    have hj0 : 0 < j := Nat.pos_of_ne_zero fun h0 => hne (by rw [hj, h0, Nat.mul_zero])
    have hget := hnone j hj0 ((Nat.le_div_iff_mul_le hpos).2 (by rw [Nat.mul_comm, ← hj]; exact htip))
    rw [Nat.mul_comm, ← hj, UInt64.ofNat_toNat, hgone] at hget
    exact ⟨(hget hmem).1, (hget hmem).2.2⟩
  · intro hall j hj hle
    have htip := (Nat.le_div_iff_mul_le hpos).1 hle
    have hto : (UInt64.ofNat (j * bc.checkpointInterval)).toNat = j * bc.checkpointInterval :=
      UInt64.toNat_ofNat_of_lt' (htip.trans_lt (UInt64.toNat_lt _))
    rw [hgone]
    intro hmem
    have := hall _ hmem (by rw [hto]; exact Nat.dvd_mul_left _ _) (by rwa [hto])
    exact ⟨this.1, by rwa [hto], this.2⟩

/-- **Rolled back finality.** -/
theorem invalidate_restores_iff (bc : Blockchain) (s : FinalityStore) (fromHeight : UInt64) :
    (RestoredBelow fromHeight s.certs (bc.invalidateFinalityFromHeight (some s) fromHeight).1 ∧
      (bc.invalidateFinalityFromHeight (some s) fromHeight).1 =
        (bc.invalidateFinalityFromHeight none fromHeight).1) ↔
    ∀ h, s.certs.contains h → fromHeight ≤ h ∧
      (bc.checkpointInterval ∣ h.toNat → h.toNat ≤ bc.tipHeight →
        bc.checkpointInterval ∣ h.toNat - fromHeight.toNat) := by
  have hnone := @latestCert_deleteFrom_eq_none bc fromHeight s
  constructor
  · rintro ⟨hrestored, hsame⟩
    -- without a backend the height is zero, which no certificate has
    have hheight : (bc.invalidateFinalityFromHeight (some s) fromHeight).1.finalizedHeight = 0 := by
      rw [hsame]; rfl
    have hcert : (s.deleteFrom fromHeight.toNat bc.checkpointInterval bc.tipHeight).latestCert
        bc.checkpointInterval (bc.tipHeight / bc.checkpointInterval) = none := by
      refine Option.eq_none_iff_forall_ne_some.2 fun c hc => FinalityStore.latestCert_ne_zero hc ?_
      simpa [invalidateFinalityFromHeight, hc] using hheight
    have hbelow : ∀ h, s.certs.contains h → fromHeight ≤ h := by
      rcases hrestored with ⟨c, hc, -⟩ | ⟨-, hbelow⟩
      · exact absurd hheight (s.keyed _ _ hc).2
      · exact hbelow
    exact fun h hmem => ⟨hbelow h hmem, fun hdvd htip => (hnone.1 hcert h hmem hdvd htip).2⟩
  · intro hall
    have hcert := hnone.2 fun h hmem hdvd htip => ⟨(hall h hmem).1, (hall h hmem).2 hdvd htip⟩
    have hsame : (bc.invalidateFinalityFromHeight (some s) fromHeight).1 =
        (bc.invalidateFinalityFromHeight none fromHeight).1 := by
      simp [invalidateFinalityFromHeight, hcert]
    exact ⟨.inr ⟨by rw [hsame]; rfl, fun h hmem => (hall h hmem).1⟩, hsame⟩

/-- A node with blocks up to height 20. -/
def twentyBlocks : Blockchain := 
  { sample with chain := (List.replicate 21 sample.chain).flatten }

/-- A backend with a certificate at height 10. -/
def tenCertified : FinalityStore where
  certs := (∅ : OrdMap UInt64 FinalityCert).insert 10 ⟨1, 10, "ten", [], [], ""⟩
  keyed h c hget := by
    rw [OrdMap.get_insert] at hget
    split at hget
    · cases hget; exact ⟨by simp_all, by simp_all⟩
    · simp at hget

/-- A fault at height 20 leaves finality at 10 with the backend and at 0 without it. -/
theorem rollback_forgets :
    (twentyBlocks.invalidateFinalityFromHeight (some tenCertified) 20).1.finalizedHeight = 10 ∧
    (twentyBlocks.invalidateFinalityFromHeight none 20).1.finalizedHeight = 0 := by
  decide +kernel

end Blockchain

end Budlum
