import Budlum.Chain.BlockEffects

/-!
# The supply cap

Blocks, the end of an epoch, unbonding and bridge refunds move value between the places it can be
in and burn some of it.  None of them creates any, so what is held at the start bounds the
committed supply at every later time.

* `supply_step_held` : **what is held does not grow.**
* `supply_run_committed` : a run that starts with at most the cap held stays below the cap.

Starting from the committed supply alone is not enough (`refund_above_cap`): value in flight over
the bridge is not part of it and comes back when a lock expires.
-/

namespace Budlum

open Executor

namespace AccountState

open EStateM

variable {L : Linked} {domain : ConsensusKind} {s s' : AccountState}

/-- The transactions of the zero address that pass the signature check are the genesis transaction.
Anything else would be a signature under the all-zero key or a key that hashes to zero. -/
def ZeroUnsigned (L : Linked) (txs : List Transaction) : Prop :=
  ∀ tx ∈ txs, tx.sender = Address.zero → tx.verify L.toCrypto = true →
    tx = Transaction.genesis L.toCrypto

def totalFees (txs : List Transaction) : Nat := (txs.map (·.fee.toNat)).sum

@[simp] theorem totalFees_nil : totalFees [] = 0 := rfl

@[simp] theorem totalFees_cons (tx : Transaction) (txs : List Transaction) :
    totalFees (tx :: txs) = tx.fee.toNat + totalFees txs := rfl

/-! ### One block -/

theorem applyTransactionChecked_held {tx : Transaction} (hzero : ZeroUnsigned L [tx])
    (hs : s.totalHeld < UInt64.maxValue.toNat) :
    (applyTransactionChecked L tx domain).Ensures s fun _ s' =>
      s'.totalHeld + tx.fee.toNat ≤ s.totalHeld :=
  Executor.applyTransactionChecked_applies.mono fun _ s' h => by
    obtain ⟨hsender, hverify, rfl⟩ | ⟨-, happ⟩ := h
    · rw [hzero tx (List.mem_singleton_self tx) hsender hverify]
      exact le_rfl
    · exact happ.held hs

/-- The transactions of a block give up their fees. -/
theorem transactions_held {txs : List Transaction} (hzero : ZeroUnsigned L txs)
    (hs : s.totalHeld < UInt64.maxValue.toNat) :
    (txs.forM fun tx => applyTransactionChecked L tx domain).Ensures s fun _ s' =>
      s'.totalHeld + totalFees txs ≤ s.totalHeld := by
  induction txs generalizing s with
  | nil => exact ensures_pure.2 le_rfl
  | cons tx txs ih =>
    have htx : ZeroUnsigned L [tx] := fun t ht => hzero t (by simp_all)
    have htxs : ZeroUnsigned L txs := fun t ht => hzero t (List.mem_cons_of_mem tx ht)
    refine (applyTransactionChecked_held htx hs).bind fun _ s₁ hpaid => ?_
    refine (ih htxs (by omega)).mono fun _ s' hrest => ?_
    rw [totalFees_cons]
    omega

/-- The producer gets at most the fees. -/
theorem producer_moves (producer : Option Address) (txs : List Transaction) :
    (producer.forM fun p => txs.forM (payProducer p)).Ensures s fun _ s' =>
      Moves 0 (totalFees txs) s s' := by
  refine ensures_optionForM ((Moves.refl s).of_le (by omega)) fun p _ => ?_
  refine (ensures_listForM (I := fun rest s' => Moves (totalFees rest) (totalFees txs) s s') ?_
    ((Moves.refl s).of_le (by omega))).mono fun _ _ h => h
  intro tx rest s₁ h
  refine (payProducer_transfers p tx).mono fun _ s₂ ⟨_, hpay, hfee⟩ =>
    (h.trans hpay.moves).of_le ?_
  rw [totalFees_cons]
  omega

/-- **A block creates no value.** -/
theorem applyBlockChecked_held {txs : List Transaction} (producer : Option Address)
    (hzero : ZeroUnsigned L txs) (hs : s.totalHeld < UInt64.maxValue.toNat) :
    (applyBlockChecked L domain txs producer).Ensures s fun _ s' =>
      s'.totalHeld ≤ s.totalHeld :=
  check_bind fun _ => (transactions_held hzero hs).bind fun _ _ hpaid =>
    (producer_moves producer txs).bind fun _ _ hfees => Executor.applyDueActions_acts.mono fun _ _ hact => by
      have := hfees.held
      have := hact.held
      omega

/-! ### Runs -/

/-- A step that can change where value is. -/
inductive SupplyStep (L : Linked) : AccountState → AccountState → Prop
  | block {s s' : AccountState} (domain : ConsensusKind) (txs : List Transaction)
      (producer : Option Address) (hzero : ZeroUnsigned L txs)
      (h : (Executor.applyBlockChecked L domain txs producer).run s = .ok () s') :
      SupplyStep L s s'
  | epoch {s s' : AccountState} (timestamp : U128) (chainId : UInt64)
      (h : s.advanceEpoch L timestamp chainId = some s') : SupplyStep L s s'
  | unbonding (s : AccountState) : SupplyStep L s s.processUnbonding
  | sweep {s s' : AccountState} (height : UInt64) (released : List (Address × UInt64))
      (h : (applyBridgeSweepToState height).run s = .ok released s') : SupplyStep L s s'

/-- **What is held does not grow.** -/
theorem supply_step_held (h : SupplyStep L s s') (hs : s.totalHeld < UInt64.maxValue.toNat) :
    s'.totalHeld ≤ s.totalHeld := by
  cases h with
  | block domain txs producer hzero h =>
    exact applyBlockChecked_held producer hzero hs _ _ h
  | epoch timestamp chainId h => exact (advanceEpoch_passes h).held
  | unbonding => exact (processUnbonding_passes s).held
  | sweep height released h =>
    exact (applyBridgeSweepToState_passes height _ _ h).held

theorem supply_run_held (h : Relation.ReflTransGen (SupplyStep L) s s')
    (hs : s.totalHeld < UInt64.maxValue.toNat) : s'.totalHeld ≤ s.totalHeld := by
  induction h with
  | refl => exact le_rfl
  | tail _ hstep ih => exact (supply_step_held hstep (ih.trans_lt hs)).trans ih

theorem totalBudCommitted_le_totalHeld (s : AccountState) : s.totalBudCommitted ≤ s.totalHeld := by
  unfold totalHeld
  omega

/-- **The supply cap.**  Where at most the cap is held, committed or in flight, no run of blocks,
epochs, unbonding and refunds puts the committed supply above the cap. -/
theorem supply_run_committed (h : Relation.ReflTransGen (SupplyStep L) s s')
    (hs : s.totalHeld ≤ budTotalSupply.toNat) : s'.totalBudCommitted ≤ budTotalSupply.toNat := by
  have hword : budTotalSupply.toNat < UInt64.maxValue.toNat := by decide
  calc s'.totalBudCommitted ≤ s'.totalHeld := totalBudCommitted_le_totalHeld s'
    _ ≤ s.totalHeld := supply_run_held h (hs.trans_lt hword)
    _ ≤ budTotalSupply.toNat := hs

theorem supply_run_committed_block :
    (({} : AccountState).setAccount 1 ⟨10, 0⟩).totalHeld ≤ budTotalSupply.toNat ∧
      ((({} : AccountState).setAccount 1 ⟨9, 1⟩).setAccount 2 ⟨1, 0⟩).totalBudCommitted ≤
        budTotalSupply.toNat := by
  have hzero : ZeroUnsigned Linked.sample [Transaction.sample 1 0 (.nftTag 0 "")] := by
    intro tx htx hsender
    rw [List.mem_singleton.1 htx] at hsender
    exact absurd hsender (by decide)
  have hblock : SupplyStep Linked.sample (({} : AccountState).setAccount 1 ⟨10, 0⟩)
      ((({} : AccountState).setAccount 1 ⟨9, 1⟩).setAccount 2 ⟨1, 0⟩) :=
    .block .poS [Transaction.sample 1 0 (.nftTag 0 "")] (some 2) hzero rfl
  have hheld : (({} : AccountState).setAccount 1 ⟨10, 0⟩).totalHeld ≤ budTotalSupply.toNat := by
    decide
  exact ⟨hheld, supply_run_committed (.single hblock) hheld⟩

/-- The whole supply in one account, and a lock of one unit that expires at height 1. -/
def lockedAtCap : AccountState :=
  { ({} : AccountState).setAccount 1 ⟨budTotalSupply, 0⟩ with
    bridgeState :=
      { transfers := (∅ : OrdMap MessageId BridgeTransfer).insert 7
          ⟨7, 1, 1, 2, 2, 2, 1, .locked 1, 0, 1⟩
        expiryQueue := (∅ : OrdMap UInt64 (List MessageId)).insert 1 [7] } }

/-- The refund of a lock is not counted against the cap. -/
theorem refund_above_cap :
    lockedAtCap.totalBudCommitted ≤ budTotalSupply.toNat ∧
      ∃ s', SupplyStep Linked.sample lockedAtCap s' ∧ budTotalSupply.toNat < s'.totalBudCommitted := by
  refine ⟨by decide, _, .sweep 1 [(2, 1)] rfl, by decide⟩

end AccountState

end Budlum
