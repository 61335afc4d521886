import Budlum.Execution.Effects

/-!
# Vesting

Part of an account's balance can be locked by a schedule, and only the rest of it is spendable.
Transactions are charged in several steps: a fee, a price, an escrow, a bond.  Together the steps
never take more from the sender than was spendable when the transaction was admitted, and they take
nothing from anybody else (`Executor.Within`).

* `Executor.vesting_kept` : **after a block of admitted transactions an account under a schedule
  still holds what is locked.**
-/

namespace Budlum

open EStateM.Ensures (get_bind modify_bind ofExcept_bind orThrow_bind set_bind)

namespace Executor

open AccountState EStateM

variable {L : Linked} {domain : ConsensusKind} {tx : Transaction} {s s₁ s' : AccountState}
  {α β : Type} {a : Address}

/-! ### Blocks -/

/-- The account under a schedule holds what is locked in the current epoch. -/
def CoversVesting (s : AccountState) : Prop :=
  ∀ holder schedule, s.teamVesting = some (holder, schedule) →
    schedule.lockedAt s.epochIndex ≤ s.getBalance holder

/-- Each transaction passes the admission check on the state it is then applied to. -/
def AdmittedInTurn (L : Linked) (domain : ConsensusKind) : List Transaction → AccountState → Prop
  | [], _ => True
  | tx :: txs, s => s.validateTransaction L tx = .ok () ∧
      ∀ s', (applyTransactionChecked L tx domain).run s = .ok () s' → AdmittedInTurn L domain txs s'

theorem affords_of_validateTransaction (hzero : tx.sender ≠ Address.zero)
    (h : s.validateTransaction L tx = .ok ()) : Affords tx s := by
  simp only [validateTransaction, validateTransactionWithContext, if_neg hzero, Except.ok_iff] at h
  obtain ⟨-, -, -, -, -, -, -, -, -, -, -, hexact, -, hcost, -⟩ := h
  obtain ⟨total, htotal⟩ := Option.isSome_iff_exists.1 hexact
  rw [UInt64.checkedAdd_eq_some] at htotal
  have hle := UInt64.le_iff_toNat_le.1 hcost
  have hlt := total.toNat_lt
  simp only [Transaction.totalCost, UInt64.toNat_saturatingAdd] at hle
  unfold Affords
  omega

/-- What is taken within the spendable balance is not locked. -/
theorem CoversVesting.within (h : CoversVesting s) (hwithin : Within tx s s')
    (hvesting : s'.teamVesting = s.teamVesting) (hepoch : s'.epochIndex = s.epochIndex) :
    CoversVesting s' := by
  intro holder schedule hschedule
  rw [hvesting] at hschedule
  have hlocked := UInt64.le_iff_toNat_le.1 (h holder schedule hschedule)
  have hdrawn := hwithin holder
  rw [hepoch, UInt64.le_iff_toNat_le]
  by_cases hholder : holder = tx.sender
  · subst hholder
    rw [if_pos rfl] at hdrawn
    -- the locked part was left out of what could be spent
    unfold spendableBalance at hdrawn
    split at hdrawn
    · rw [UInt64.toNat_zero] at hdrawn
      omega
    · simp only [hschedule, if_true, UInt64.toNat_saturatingSub] at hdrawn
      omega
  · rw [if_neg hholder] at hdrawn
    omega

theorem applyTransactionChecked_vesting (hadmitted : s.validateTransaction L tx = .ok ())
    (hcovers : CoversVesting s) :
    (applyTransactionChecked L tx domain).Ensures s fun _ s' => CoversVesting s' := by
  by_cases hzero : tx.sender = Address.zero
  · rw [applyTransactionChecked, if_pos hzero]
    exact ensures_ensure.2 fun _ => hcovers
  · have haffords : Affords tx (s.touch tx.sender) := by
      rw [Affords, spendableBalance_congr rfl getBalance_touch]
      exact affords_of_validateTransaction hzero hadmitted
    have hcovers' : CoversVesting (s.touch tx.sender) := by
      intro holder schedule hschedule
      rw [getBalance_touch]
      exact hcovers holder schedule hschedule
    refine applyTransactionChecked_books hzero
      (((applyKind_within haffords).and applyKind_applies).mono fun _ s' h => ?_)
    obtain ⟨hwithin, happlies⟩ := h
    have hsettings := happlies.settings
    have hvesting : s'.settings.teamVesting = s.teamVesting := by
      rw [hsettings]
      rfl
    have hepoch : s'.settings.epochIndex = s.epochIndex := by
      rw [hsettings]
      rfl
    exact hcovers'.within hwithin hvesting hepoch

/-- Nothing is taken and the schedule stays: the fees and the governance actions of a block. -/
def Rises (s s' : AccountState) : Prop :=
  (∀ b, s.getBalance b ≤ s'.getBalance b) ∧ s'.teamVesting = s.teamVesting ∧
    s'.epochIndex = s.epochIndex

theorem CoversVesting.rises (h : CoversVesting s) (hrises : Rises s s') : CoversVesting s' := by
  obtain ⟨hbalance, hvesting, hepoch⟩ := hrises
  intro holder schedule hschedule
  rw [hvesting] at hschedule
  rw [hepoch]
  exact (h holder schedule hschedule).trans (hbalance holder)

theorem payProducer_rises (producer : Address) (tx : Transaction) :
    (payProducer producer tx).Ensures s fun _ s' => Rises s s' := by
  refine (payProducer_transfers producer tx).mono fun _ s' ⟨_, h, _⟩ =>
    ⟨fun b => UInt64.le_iff_toNat_le.2 ?_, by rw [h.rest], by rw [h.rest]⟩
  have hb := h.toBooks.draws_nothing producer b
  rwa [ite_self, Nat.add_zero] at hb

theorem Rises.of_acts (h : Acts s s') : Rises s s' :=
  ⟨fun b => by simp only [getBalance, account, h.accounts, le_refl], h.teamVesting, h.epochIndex⟩

theorem transactions_vesting {txs : List Transaction} (hadmitted : AdmittedInTurn L domain txs s)
    (hcovers : CoversVesting s) :
    (txs.forM fun tx => applyTransactionChecked L tx domain).Ensures s fun _ s' =>
      CoversVesting s' := by
  induction txs generalizing s with
  | nil => exact ensures_pure.2 hcovers
  | cons tx txs ih =>
    obtain ⟨hvalid, hrest⟩ := hadmitted
    exact ensures_bind.2 fun _ s₁ hrun =>
      ih (hrest s₁ hrun) (applyTransactionChecked_vesting hvalid hcovers () s₁ hrun)

/-- **After a block of admitted transactions an account under a schedule still holds what is
locked.** -/
theorem vesting_kept {txs : List Transaction} {producer : Option Address}
    (hblock : (applyBlockChecked L domain txs producer).run s = .ok () s')
    (hadmitted : AdmittedInTurn L domain txs s) (hcovers : CoversVesting s) : CoversVesting s' := by
  have hensures : (applyBlockChecked L domain txs producer).Ensures s fun _ s' => CoversVesting s' := by
    refine check_bind fun _ => (transactions_vesting hadmitted hcovers).bind fun _ s₁ h₁ => ?_
    refine Ensures.bind (P := fun _ s' => CoversVesting s') ?_ fun _ _ h₂ =>
      applyDueActions_acts.mono fun _ _ hacts => h₂.rises (.of_acts hacts)
    refine ensures_optionForM h₁ fun p _ => ?_
    exact ensures_listForM (I := fun _ s' => CoversVesting s') (fun tx _ _ h =>
      (payProducer_rises p tx).mono fun _ _ hrises => h.rises hrises) h₁
  exact hensures () s' hblock

/-- Account 1 holds 10 units of which 6 are locked in epoch 2. -/
def vested : AccountState :=
  { ({} : AccountState).setAccount 1 ⟨10, 0⟩ with
    teamVesting := some (1, ⟨8, 0, 0, 8⟩)
    epochIndex := 2 }

/-- It sends 3 units for a fee of 1. -/
def spendsUnlocked : Transaction :=
  let tx := { Transaction.sample 1 0 .transfer with recipient := 2, amount := 3 }
  { tx with hash := tx.calculateHash Linked.sample.toCrypto }

theorem vesting_kept_spent : ∃ s',
    (applyBlockChecked Linked.sample .poS [spendsUnlocked] none).run vested = .ok () s' ∧
      s'.getBalance 1 = 6 ∧ CoversVesting s' := by
  have hblock := EStateM.run_of_succeeds
    (m := applyBlockChecked Linked.sample .poS [spendsUnlocked] none) (s := vested) (by decide +kernel)
  refine ⟨_, hblock, by decide +kernel, vesting_kept hblock ⟨rfl, fun _ _ => trivial⟩ ?_⟩
  intro holder schedule hschedule
  obtain ⟨rfl, rfl⟩ := Prod.mk.inj (Option.some.inj hschedule)
  decide

end Executor

end Budlum
