import Budlum.Ai.Lifecycle
import Budlum.Core.Books
import Budlum.Execution.Executor

/-!
# What every transaction does

A successful run of every kind of transaction pays the fee, counts the sender's nonce up and writes
nothing outside its own part of the state (`Pays`).  It takes no more from the sender than was
spendable, and nothing from anybody else (`Within`).  Five kinds write tokens, the others leave them
as they are (`SameTokens`).  State updates are the exception, they write the nonces of other accounts
first.

The lemmas follow the executor step by step, once for all of this (`Steps`); at the end the fee is on
the losing side (`Effect`).

A contract that asks for an inference would be charged twice, and only the first charge is compared
with the spendable balance.  It never comes to that: a contract's request declares no input to be
read, and such a request is refused with the whole call (`applyContractCall_effect`).

* `Executor.applyKind_effect` : **what a transaction of each kind does.**
* `Executor.applyKind_tokens` : **a transaction of another kind writes no token.**
-/

namespace Budlum

open AiRegistry PermissionlessRegistry
open Except (mapError_eq_ok ok_iff)
open UInt64 (checkedAdd_eq_some checkedSub_eq_some le_iff_toNat_le maxValue)
open EStateM.Ensures (ensure_bind get_bind modify_bind ofExcept_bind orThrow_bind set_bind)

namespace Executor

open AccountState EStateM

variable {L : Linked} {domain : ConsensusKind} {tx : Transaction} {s s₁ s₂ : AccountState}
  {α β : Type} {n n₁ n₂ l l₁ l₂ g g₁ g₂ : Nat} {received : Bookings}

/-! ### Parts of transactions -/

/-- The sender can spend amount and fee together. -/
def Affords (tx : Transaction) (s : AccountState) : Prop :=
  tx.amount.toNat + tx.fee.toNat ≤ (s.spendableBalance tx.sender).toNat

/-- At most what was spendable is taken from the sender, and nothing from anybody else. -/
def Within (tx : Transaction) (s s' : AccountState) : Prop :=
  Draws tx.sender (s.spendableBalance tx.sender).toNat s s'

def writesTokens : TransactionType → Bool
  | .nftMint | .nftTransfer | .nftBurn | .nftUpdateLight .. | .aiInferenceResult _ => true
  | _ => false

/-- The tokens are as they were. -/
def SameTokens (s s' : AccountState) : Prop := s'.nftRegistry = s.nftRegistry

/-- A part of a transaction: it moves value, draws on the sender's balance only, and leaves the tokens
alone if the transaction has no business with them. -/
structure Steps (tx : Transaction) (drawn lost gained : Nat) (s s' : AccountState) : Prop extends
    Moves lost gained s s' where
  draws : Draws tx.sender drawn s s'
  tokens : writesTokens tx.txType = false → SameTokens s s'

namespace Steps

theorem trans (h₁ : Steps tx n₁ l₁ g₁ s s₁) (h₂ : Steps tx n₂ l₂ g₂ s₁ s₂) :
    Steps tx (n₁ + n₂) (l₁ + l₂) (g₁ + g₂) s s₂ where
  toMoves := h₁.toMoves.trans h₂.toMoves
  draws := h₁.draws.trans h₂.draws
  tokens h := (h₂.tokens h).trans (h₁.tokens h)

theorem of_le {l' g' : Nat} (h : Steps tx n l g s s₁) (hle : l' + g ≤ g' + l) :
    Steps tx n l' g' s s₁ :=
  { h with toMoves := h.toMoves.of_le hle }

/-- Tables are written, and no balance. -/
theorem table (h : Moves l g s s₁) (haccounts : s₁.accounts = s.accounts) (htokens : SameTokens s s₁) :
    Steps tx 0 l g s s₁ :=
  ⟨h, .of_accounts _ haccounts, fun _ => htokens⟩

/-- Something is written that is no place for value. -/
theorem aside (hledger : s₁.ledger = s.ledger) (hsettings : s₁.settings = s.settings)
    (hgovernance : s.governance.WellFormed → s₁.governance.WellFormed)
    (htokens : writesTokens tx.txType = false → SameTokens s s₁) : Steps tx 0 0 0 s s₁ :=
  ⟨.of_ledger hledger hsettings hgovernance, .of_accounts _ (congrArg Ledger.accounts hledger), htokens⟩

theorem refl (s : AccountState) : Steps tx 0 0 0 s s := .aside rfl rfl id fun _ => rfl

theorem books {a : Address} (h : Transfers [(tx.sender, n)] [(a, g)] s s₁) : Steps tx n n g s s₁ :=
  ⟨h.moves, h.toBooks.draws, fun _ => h.nftRegistry⟩

theorem debits (h : Transfers [(tx.sender, n)] [] s s₁) : Steps tx n n 0 s s₁ :=
  ⟨h.moves, h.toBooks.draws, fun _ => h.nftRegistry⟩

theorem credits (h : Transfers [] received s s₁) : Steps tx 0 0 received.total s s₁ :=
  ⟨h.moves, h.toBooks.draws_nothing _, fun _ => h.nftRegistry⟩

theorem credit {a : Address} (h : Transfers [] [(a, n)] s s₁) : Steps tx 0 0 n s s₁ := credits h

end Steps

structure Effect (tx : Transaction) (s s' : AccountState) : Prop extends Pays tx s s' where
  within : Affords tx s → Within tx s s'
  tokens : writesTokens tx.txType = false → SameTokens s s'

theorem bumpNonce_draws (s : AccountState) (a b : Address) : Draws a 0 s (s.bumpNonce b) :=
  ((Books.refl s).bumpNonce b).draws_nothing a

/-- The parts before and after the nonce is counted up. -/
theorem Effect.of_steps (h₁ : Steps tx n₁ l₁ g₁ s s₁)
    (h₂ : Steps tx n₂ l₂ g₂ (s₁.bumpNonce tx.sender) s₂)
    (hpaid : s.totalHeld < maxValue.toNat → g₁ + g₂ + tx.fee.toNat ≤ l₁ + l₂)
    (hdrawn : Affords tx s → n₁ + n₂ ≤ (s.spendableBalance tx.sender).toNat) : Effect tx s s₂ where
  toPays := Pays.of_moves h₁.toMoves h₂.toMoves hpaid
  within haffords := ((h₁.draws.trans (bumpNonce_draws _ _ _)).trans h₂.draws).of_le (hdrawn haffords)
  tokens h := (h₂.tokens h).trans (h₁.tokens h)

/-- A transaction that goes on after it has paid. -/
theorem Effect.andThen (h : Effect tx s s₁) (h₂ : Steps tx 0 0 0 s₁ s₂) : Effect tx s s₂ where
  toPays := h.toPays.trans h₂.toMoves
  within haffords := (h.within haffords).trans h₂.draws
  tokens htx := (h₂.tokens htx).trans (h.tokens htx)

/-! ### Rules for the executor's vocabulary -/

section Rules

variable {f : α → Exec β} {Q : β → AccountState → Prop} {code message : String}

theorem check_bind {b : Bool} {f : Unit → Exec β} (h : b = true → (f ()).Ensures s Q) :
    (check b code message >>= f).Ensures s Q :=
  ensure_bind h

theorem require_bind {o : Option α} (h : ∀ a, o = some a → (f a).Ensures s Q) :
    (require o code message >>= f).Ensures s Q :=
  orThrow_bind h

theorem lift_bind {ε : Type} {display : ε → String} {x : Except ε α}
    (h : ∀ a, x = .ok a → (f a).Ensures s Q) : (lift code display x >>= f).Ensures s Q :=
  ofExcept_bind fun a hx => h a (mapError_eq_ok.1 hx)

theorem liftFault_bind {ε : Type} {display : ε → String} {x : Except (Fault ε) α}
    (h : ∀ a, x = .ok a → (f a).Ensures s Q) : (liftFault code display x >>= f).Ensures s Q :=
  ofExcept_bind fun a hx => h a (mapError_eq_ok.1 hx)

theorem bump_bind {a : Address} {f : Unit → Exec β} (h : (f ()).Ensures (s.bumpNonce a) Q) :
    (bump a >>= f).Ensures s Q :=
  modify_bind h

theorem debit_transfers (a : Address) (amount : UInt64) (message : String) :
    (debit a amount message).Ensures s fun _ s' => Transfers [(a, amount.toNat)] [] s s' :=
  takeBalance_transfers fun _ _ h => by rwa [Except.ofOption_eq_ok, checkedSub_eq_some] at h

theorem debitBoth_transfers (a : Address) (first second : UInt64) (message message' : String) :
    (debitBoth a first message second message').Ensures s fun _ s' =>
      Transfers [(a, first.toNat + second.toNat)] [] s s' :=
  takeBalance_transfers fun _ _ h => by
    simp only [ok_iff, checkedSub_eq_some] at h
    obtain ⟨rest, hrest, hbalance⟩ := h
    omega

theorem credit_transfers (a : Address) (amount : UInt64) (message : String) :
    (credit a amount message).Ensures s fun _ s' => Transfers [] [(a, amount.toNat)] s s' :=
  addBalance_transfers fun _ _ h => by rwa [Except.ofOption_eq_ok, checkedAdd_eq_some] at h

theorem toNat_le_of_check {n m : UInt64} (h : decide (n ≤ m) = true) : n.toNat ≤ m.toNat :=
  le_iff_toNat_le.1 (of_decide_eq_true h)

/-- The end of most transactions. -/
theorem chargeFee_effect (h : Steps tx 0 l g s s₁) (hle : g ≤ l) : (chargeFee tx message).Ensures s₁
    fun _ => Effect tx s :=
  (debit_transfers tx.sender tx.fee message).bind fun _ _ hdebit => ensures_modify.2 <|
    .of_steps (h.trans (.debits hdebit)) (.refl _) (fun _ => by omega) fun haffords => by
      unfold Affords at haffords
      omega

theorem chargeFee_books {paid : Bookings} (h : Books paid received s s₁) :
    (chargeFee tx message).Ensures s₁ fun _ s' => Books (paid ++ [(tx.sender, tx.fee.toNat)])
    received s s' :=
  (debit_transfers tx.sender tx.fee message).bind fun _ _ hdebit => by
    have htrans := h.trans hdebit.toBooks
    rw [List.append_nil] at htrans
    exact ensures_modify.2 (htrans.bumpNonce tx.sender)

theorem chargeFee_tokens : (chargeFee tx message).Ensures s fun _ => SameTokens s :=
  (debit_transfers _ _ _).bind fun _ _ h =>
    ensures_modify.2 h.nftRegistry

end Rules

/-! ### Transfers and stake -/

theorem getBalance_le_totalHeld (s : AccountState) (a : Address) :
    (s.getBalance a).toNat ≤ s.totalHeld := by
  have h := totalHeld_setBalance (s := s) (a := a) 0
  simp only [UInt64.toNat_ofNat] at h
  omega

/-- The spendable part of a balance is a part of it. -/
theorem spendableBalance_le (s : AccountState) (a : Address) :
    (s.spendableBalance a).toNat ≤ (s.getBalance a).toNat := by
  unfold spendableBalance
  split
  · exact Nat.zero_le _
  · split
    · split
      · rw [UInt64.toNat_saturatingSub]
        exact Nat.sub_le _ _
      · exact le_rfl
    · exact le_rfl

/-- A cost that can be spent below the largest word did not saturate. -/
theorem totalCost_exact (hcost : decide (tx.totalCost ≤ s.spendableBalance tx.sender) = true)
    (hs : s.totalHeld < maxValue.toNat) :
    tx.totalCost.toNat = tx.amount.toNat + tx.fee.toNat := by
  have hspendable := (toNat_le_of_check hcost).trans (spendableBalance_le s tx.sender)
  have hle := getBalance_le_totalHeld s tx.sender
  simp only [Transaction.totalCost, UInt64.toNat_saturatingAdd, UInt64.toNat_maxValue] at *
  omega

theorem applyTransfer_effect : (applyTransfer tx).Ensures s fun _ => Effect tx s :=
  get_bind <| check_bind fun hspendable => (debit_transfers _ _ _).bind fun _ _ hdebit =>
    bump_bind <| (credit_transfers _ _ _).mono fun _ _ hcredit =>
      .of_steps (.debits hdebit) (.credit hcredit) (fun hs => by
        have := totalCost_exact hspendable hs
        omega) fun _ => toNat_le_of_check hspendable

theorem syncValidatorRegistration_moves (s : AccountState) (a : Address) :
    Moves 0 0 s (s.syncValidatorRegistration a) :=
  Moves.registry (totalBonded_upsertStake a _ _).le
    (params_upsertStake a _ _ _)

variable {a : Address} {amount : UInt64}

theorem addValidator_moves {stake : UInt64} (hnone : s.validators.get a = none) : Moves 0
    stake.toNat s (s.addValidator a stake) := by
  have hset : Moves 0 stake.toNat s (s.setValidator a { address := a, stake := stake }) :=
    Moves.setValidator (by simp [hnone])
  exact hset.trans (syncValidatorRegistration_moves _ a)

theorem raiseStake_steps : (raiseStake tx).Ensures s fun _ => Steps tx 0 0 tx.amount.toNat s := by
  refine get_bind ?_
  cases hget : s.validators.get tx.sender with
  | some v =>
    refine require_bind fun stake hstake => ensures_modify.2 (.table (Moves.setValidator ?_) rfl rfl)
    rw [checkedAdd_eq_some] at hstake
    simp only [hget, Option.elim_some]
    omega
  | none =>
    refine modify_bind (ensures_modify.2 (.table ?_ rfl rfl))
    refine ((addValidator_moves hget).trans (Moves.setValidator (l := 0) (g := 0) ?_)).of_le (by omega)
    simp [addValidator, syncValidatorRegistration, setValidator]

theorem applyStake_effect : (applyStake tx).Ensures s fun _ => Effect tx s :=
  get_bind <| check_bind fun hspendable => (debit_transfers _ _ _).bind fun _ _ hdebit =>
    bump_bind <| raiseStake_steps.bind fun _ s₂ hstake => ensures_modify.2 <| by
      have hsync : Steps tx 0 0 0 s₂ (s₂.syncValidatorRegistration tx.sender) :=
        .table (syncValidatorRegistration_moves _ _) rfl rfl
      refine .of_steps (.debits hdebit) (hstake.trans hsync) (fun hs => ?_) fun _ =>
        toNat_le_of_check hspendable
      have := totalCost_exact hspendable hs
      omega

theorem reduceOpenVotes_wellFormed {g : GovernanceState} (h : g.WellFormed) (voter : Address)
    (reduction : UInt64) : (reduceOpenVotes voter reduction g).WellFormed :=
  h.map fun p => by
    split
    · exact GovernanceState.pType_reduceVoteWeight p voter reduction
    · rfl

theorem applyUnstake_effect : (applyUnstake tx).Ensures s fun _ => Effect tx s := by
  refine get_bind <| require_bind fun v hget => check_bind fun _ =>
    modify_bind <| require_bind fun stake hstake => modify_bind <|
    modify_bind <| modify_bind ?_
  rw [checkedSub_eq_some] at hstake
  have hvotes : Moves 0 0 s
      { s with governance := reduceOpenVotes tx.sender tx.amount s.governance } :=
    Moves.of_ledger rfl rfl fun h => reduceOpenVotes_wellFormed h _ _
  refine chargeFee_effect (.table (((hvotes.trans (Moves.setValidator (l := tx.amount.toNat) (g := 0)
    ?_)).trans (Moves.unbond _ _)).trans (syncValidatorRegistration_moves _ _)) rfl rfl) ?_
  · simp only [hget, Option.elim_some]
    omega
  · simp

theorem applyRegisterConsensusKeys_effect (registration : ConsensusKeyRegistration) :
    (applyRegisterConsensusKeys L tx registration).Ensures s fun _ => Effect tx s :=
  check_bind fun _ => lift_bind fun _ _ => get_bind <| require_bind fun v hget =>
    check_bind fun _ => modify_bind <| chargeFee_effect (l := 0) (g := 0)
      (.table (Moves.setValidator (by simp [hget])) rfl rfl) le_rfl

/-! ### Votes -/

theorem voteOnValidator_steps : (voteOnValidator tx).Ensures s fun _ => Steps tx 0 0 0 s := by
  refine get_bind ?_
  cases hget : s.validators.get tx.recipient with
  | none => exact ensures_pure.2 (.refl s)
  | some v =>
    have hset : ∀ v' : Validator, v'.stake = v.stake →
        Steps tx 0 0 0 s (s.setValidator tx.recipient v') := fun v' hstake =>
      .table (Moves.setValidator (by simp [hget, hstake])) rfl rfl
    refine ensures_ite.2 ⟨fun _ => ?_, fun _ => ?_⟩
    · exact orThrow_bind fun _ _ => ensures_modify.2 (hset _ rfl)
    · exact orThrow_bind fun _ _ => ensures_modify.2 (hset _ rfl)

theorem voteOnProposal_steps : (voteOnProposal tx).Ensures s fun _ => Steps tx 0 0 0 s :=
  get_bind <| check_bind fun _ => get_bind <| lift_bind fun _ hvote =>
    ensures_modify.2 (.aside rfl rfl (fun h => h.castVote hvote) fun _ => rfl)

theorem openProposal_steps : (openProposal L tx).Ensures s fun _ => Steps tx 0 0 0 s := by
  refine lift_bind fun pType _ => get_bind <| check_bind fun _ => get_bind ?_
  refine ensures_bind.2 (ensures_zoom.2 fun a g hrun => ensures_pure.2 ?_)
  exact .aside rfl rfl (fun hwf => hwf.createProposal _ _ _ _ a g hrun) fun _ => rfl

theorem applyVote_effect : (applyVote L tx).Ensures s fun _ => Effect tx s := by
  refine get_bind <| check_bind fun _ =>
    (chargeFee_effect (.refl s) le_rfl).bind fun _ s₁ hpays => ?_
  refine ensures_ite.2 ⟨fun _ => voteOnValidator_steps.mono fun _ _ => hpays.andThen, fun _ => ?_⟩
  refine ensures_ite.2 ⟨fun _ => ensures_pure.2 hpays, fun _ => ?_⟩
  exact ensures_ite.2 ⟨fun _ => voteOnProposal_steps.mono fun _ _ => hpays.andThen,
    fun _ => openProposal_steps.mono fun _ _ => hpays.andThen⟩

/-! ### Roles of the AI layer -/

theorem lockVerifierStake_steps (s : AccountState) (a : Address) :
    Steps tx 0 0 0 s (lockVerifierStake a s) := by
  unfold lockVerifierStake
  split
  case h_1 registry h =>
    obtain ⟨-, -, rfl⟩ := h
    exact .table (Moves.aiRegistry le_rfl) rfl rfl
  case h_2 => exact .refl s

theorem bondAiOperator_steps {chainId : UInt64}
    (h : s.bondAiOperator tx.sender amount chainId = .ok s₁) : Steps tx amount.toNat 0 0 s s₁ := by
  simp only [bondAiOperator, ok_iff] at h
  obtain ⟨-, ⟨-, hamount⟩, registry, hreg, rfl⟩ := h
  obtain ⟨hbond, hparams⟩ : registry.totalBondedStakeExcluding Roles.validator = _ ∧ _ :=
    totalBonded_register hreg (by decide)
  have hle := (le_iff_toNat_le.1 hamount).trans (spendableBalance_le s tx.sender)
  have hbalance := UInt64.toNat_sub_of_le _ _ (le_iff_toNat_le.2 hle)
  have hregistered : Steps tx 0 0 amount.toNat s { s with registry := registry } :=
    .table (Moves.registry hbond.le hparams) rfl rfl
  have htaken : Transfers [(tx.sender, amount.toNat)] [(tx.sender, 0)] { s with registry := registry }
      ({ s with registry := registry }.setBalance tx.sender (s.getBalance tx.sender - amount)) :=
    .setBalance _ _ (by
      change (s.getBalance tx.sender - amount).toNat + _ = (s.getBalance tx.sender).toNat + 0
      omega)
  have hsteps := hregistered.trans (.books htaken)
  rw [Nat.zero_add] at hsteps
  exact hsteps.of_le (by omega)

theorem applyAiOperatorBond_effect : (applyAiOperatorBond tx).Ensures s fun _ => Effect tx s :=
  get_bind <| check_bind fun _ => check_bind fun _ => get_bind <|
    check_bind fun _ => get_bind <| lift_bind fun s₁ hbond => set_bind <|
      modify_bind <| (debit_transfers _ _ _).bind fun _ _ hdebit => ensures_modify.2 <|
        .of_steps (((bondAiOperator_steps hbond).trans (lockVerifierStake_steps s₁ _)).trans
          (.debits hdebit)) (.refl _) (fun _ => by omega) fun haffords => haffords

theorem beginAiOperatorUnbonding_steps (h : s.beginAiOperatorUnbonding a = .ok s₁) : Steps tx 0 0 0
    s s₁ := by
  simp only [beginAiOperatorUnbonding, ok_iff, mapError_eq_ok] at h
  obtain ⟨-, -, ⟨release, registry⟩, hreg, rfl⟩ := h
  obtain ⟨hbond, hparams⟩ := totalBonded_beginUnbonding hreg
  exact .table (Moves.registry hbond.le hparams) rfl rfl

theorem applyAiOperatorUnbond_effect : (applyAiOperatorUnbond tx).Ensures s fun _ => Effect tx s :=
  check_bind fun _ => get_bind <| lift_bind fun _ h => set_bind <|
    chargeFee_effect (beginAiOperatorUnbonding_steps h) le_rfl

theorem applyAiOperatorWithdraw_effect :
    (applyAiOperatorWithdraw tx).Ensures s fun _ => Effect tx s := by
  refine check_bind fun _ => get_bind <| lift_bind fun s₁ h => ensures_set.2 ?_
  simp only [withdrawAiOperator, ok_iff, mapError_eq_ok, Option.bind_eq_some_iff,
    checkedAdd_eq_some, checkedSub_eq_some] at h
  obtain ⟨r, hget, balance, ⟨sum, hsum, hbalance⟩, ⟨stake, registry⟩, hwithdraw, rfl⟩ := h
  obtain ⟨hbond, hparams⟩ : registry.totalBondedStakeExcluding Roles.validator + _ = _ ∧ _ :=
    totalBonded_withdraw hget hwithdraw (by decide)
  refine (congrArg (Effect tx s) (AccountState.setAccount_eq_bumpNonce
    (s := { s with registry := registry }) balance)).mpr ?_
  have hreturned : Steps tx 0 r.stake.toNat 0 s { s with registry := registry } :=
    .table (Moves.registry hbond.le hparams) rfl rfl
  have hbooked : Transfers [(tx.sender, tx.fee.toNat)] [(tx.sender, r.stake.toNat)]
      { s with registry := registry } ({ s with registry := registry }.setBalance tx.sender balance) :=
    .setBalance _ _ (by
      change balance.toNat + _ = (s.getBalance tx.sender).toNat + _
      omega)
  refine .of_steps (hreturned.trans (.books hbooked)) (.refl _) (fun _ => by omega) fun haffords => ?_
  unfold Affords at haffords
  omega

/-! ### Contracts -/

theorem consumeGrant_eq (grant : Option AssetId) (height : UInt64) :
    (consumeGrant tx grant height).Ensures s fun _ s' => ∃ market, s' = { s with marketplace := market } :=
  ensures_optionForM ⟨_, rfl⟩ fun _ _ => get_bind <| lift_bind fun _ _ => ensures_modify.2 ⟨_, rfl⟩

variable {request : AiInferenceRequest} {height : UInt64}

/-- The checks before a request write nothing. -/
theorem admitRequest_bind
    {f : Option AssetId → Exec β} {Q : β → AccountState → Prop}
    (h : ∀ grant, s.aiRegistry.admitInferenceRequest L.toCrypto request = .ok () →
      (f grant).Ensures s Q) : (admitRequest L tx request height >>= f).Ensures s Q :=
  ensures_bind.2 <| get_bind <| lift_bind fun _ hadmit => ensures_ofExcept.2 fun grant _ =>
    h grant hadmit

variable {r : AiRegistry} (requestId : AiRequestId) {verifier : Address}
  (updates : List (Address × UInt64)) {s' : AccountState}

/-- A request's fee goes into escrow when the registry takes the request. -/
theorem submitRequest_steps (h : s.aiRegistry.submitRequest L.toCrypto request height = .ok r) :
    Steps tx 0 0 request.maxFee.toNat s { s with aiRegistry := r } := by
  have hopens := submitRequest_opens h
  have hescrow := hopens.openEscrow_le
  have hagent : r.agentEscrow = s.aiRegistry.agentEscrow := by rw [hopens.after]; rfl
  exact .table (Moves.aiRegistry (by omega)) rfl rfl

/-- A contract's request declares no input. -/
theorem requestOfEvents_perception {events : List UInt64}
    (h : requestOfEvents L tx height events = some request) : request.perception = none := by
  unfold requestOfEvents at h
  split at h
  · obtain rfl := Option.some.inj h
    rfl
  · cases h

/-- A call is charged its fee alone, since the requests it makes are never taken. -/
theorem applyContractCall_effect : (applyContractCall L tx).Ensures s fun _ => Effect tx s := by
  refine get_bind <| lift_bind fun events _ => ensures_bind.2 <| ensures_optionForM
    (chargeFee_effect (.refl _) le_rfl) fun request hrequest => ?_
  refine get_bind <| admitRequest_bind fun _ hadmit => ?_
  simp [admitInferenceRequest, requestOfEvents_perception hrequest, Except.ofOption]
    at hadmit

/-! ### Names and tokens -/

theorem applyBnsRegister_effect : (applyBnsRegister L tx).Ensures s fun _ => Effect tx s :=
  lift_bind fun ⟨_, _⟩ _ => get_bind <| check_bind fun _ => require_bind fun total htotal =>
    check_bind fun hspendable => liftFault_bind fun names _ => modify_bind <|
      (debitBoth_transfers _ _ _ _ _).bind fun _ _ hdebit => ensures_modify.2 <| by
        rw [checkedAdd_eq_some] at htotal
        have hle := toNat_le_of_check hspendable
        have hnamed : Steps tx 0 0 0 s { s with bnsRegistry := names } :=
          .aside rfl rfl id fun _ => rfl
        exact .of_steps (hnamed.trans (.debits hdebit)) (.refl _) (fun _ => by omega) fun _ => by omega

/-- The checks of the vault write nothing. -/
theorem checkVault_bind {id : UInt64} {doing : String} {f : Unit → Exec β}
    {Q : β → AccountState → Prop} (h : (f ()).Ensures s Q) :
    (checkVault id doing >>= f).Ensures s Q :=
  ensures_bind.2 <| get_bind <| check_bind fun _ => ensures_ensure.2 fun _ => h

theorem creditTreasury_steps (tx : Transaction) (share : UInt64) :
    (creditTreasury share).Ensures s fun _ => Steps tx 0 0 share.toNat s := by
  refine get_bind ?_
  have hnothing : Steps tx 0 0 share.toNat s s := (Steps.refl s).of_le (by omega)
  split
  case h_1 => exact ensures_pure.2 hnothing
  case h_2 treasury _ =>
    exact ensures_ite.2 ⟨fun _ => ensures_pure.2 hnothing, fun _ =>
      (credit_transfers treasury share _).mono fun _ _ => Steps.credit⟩

/-- The creator's and the treasury's share come out of the amount; the storage share is set aside
and the cost is paid in full. -/
theorem applyNftBoost_effect (nftId amount : UInt64) :
    (applyNftBoost tx nftId amount).Ensures s fun _ => Effect tx s := by
  refine check_bind fun _ => require_bind fun _ _ => require_bind fun creator16 _ =>
    require_bind fun rest hrest => require_bind fun protocolShare hshare => get_bind <|
    require_bind fun nft _ => require_bind fun total htotal => get_bind <|
    check_bind fun hspendable => (debitBoth_transfers _ _ _ _ _).bind fun _ _ hdebit => bump_bind <|
    (credit_transfers _ _ _).bind fun _ s₂ hcreator => get_bind <| require_bind fun pending _ =>
    modify_bind <| (creditTreasury_steps tx _).mono fun _ _ htreasury => ?_
  rw [checkedSub_eq_some] at hrest hshare
  rw [checkedAdd_eq_some] at htotal
  have hle := toNat_le_of_check hspendable
  have hpending : Steps tx 0 0 0 s₂ { s₂ with pendingBudBoostShare := pending } :=
    .aside rfl rfl id fun _ => rfl
  exact .of_steps (.debits hdebit) (((Steps.credit hcreator).trans hpending).trans htreasury)
    (fun _ => by omega) fun _ => by omega

/-! ### Relayed results -/

/-- The checks of a relayed result write nothing. -/
theorem checkRelayerProof_bind {res : RelayerExternalResult} {f : Unit → Exec β}
    {Q : β → AccountState → Prop} (h : (f ()).Ensures s Q) :
    (checkRelayerProof L res >>= f).Ensures s Q :=
  ensures_bind.2 <| check_bind fun _ => check_bind fun _ => check_bind fun _ => check_bind fun _ =>
    check_bind fun _ => get_bind <| check_bind fun _ => lift_bind fun _ _ => check_bind fun _ =>
    check_bind fun _ => ensures_ensure.2 fun _ => h

/-- The two parts of a bridged amount add up to it. -/
theorem splitFee_bind {f : UInt64 × UInt64 → Exec β}
    {Q : β → AccountState → Prop}
    (h : ∀ part fee, part.toNat + fee.toNat = amount.toNat → (f (part, fee)).Ensures s Q) :
    (splitFee amount >>= f).Ensures s Q :=
  ensures_bind.2 <| get_bind <| ensures_ofExcept.2 fun ⟨part, fee⟩ hr => h part fee <|
    splitBridgeFee_add (RegistryParams.bridgeRelayerFeePpm_lt s.registry.paramsValid)
      (mapError_eq_ok.1 hr)

/-- The escrow of a bridged amount is freed and its two parts are credited. -/
theorem creditParts_steps {credit : Address → UInt64 → EStateM String AccountState Unit}
    (hcredit : ∀ a amount s, (credit a amount).Ensures s fun _ s' =>
      Transfers [] [(a, amount.toNat)] s s')
    {b : Address} {part fee : UInt64} {code code' : String}
    (h : Steps tx 0 amount.toNat 0 s s₁) (hsum : part.toNat + fee.toNat = amount.toNat) :
    (run code (credit a part) >>= fun _ =>
      if fee = 0 then pure () else run code' (credit b fee)).Ensures s₁ fun _ =>
        Steps tx 0 0 0 s := by
  refine (ensures_mapError.2 (hcredit a part s₁)).bind fun _ s₂ hpart => ?_
  have hcredited : Steps tx 0 amount.toNat part.toNat s s₂ := (h.trans (.credit hpart)).of_le (by omega)
  refine ensures_ite.2 ⟨fun _ => ensures_pure.2 (hcredited.of_le (by omega)), fun _ => ?_⟩
  exact (ensures_mapError.2 (hcredit b fee s₂)).mono fun _ _ hfee =>
    (hcredited.trans (.credit hfee)).of_le (by omega)

theorem mintBridged_steps (msg : CrossDomainMessage) :
    (mintBridged L tx msg).Ensures s fun _ => Steps tx 0 0 0 s := by
  refine get_bind <| require_bind fun transfer hget => splitFee_bind fun part fee hsum =>
    require_bind fun minted _ => get_bind <| lift_bind fun _ _ => get_bind <|
    lift_bind fun bridge hmint => modify_bind <|
    creditParts_steps (fun a amount _ => tryMintBalance_transfers a amount) ?_ hsum
  obtain ⟨t, ht, hescrow⟩ := BridgeState.escrowed_mint hmint
  obtain rfl : transfer = t := Option.mem_unique hget ht
  exact .table (Moves.bridgeState hget (by omega)) rfl rfl

theorem unlockBridged_steps (msg : CrossDomainMessage) :
    (unlockBridged tx msg).Ensures s fun _ => Steps tx 0 0 0 s := by
  refine require_bind fun transferId _ => get_bind <| require_bind fun transfer hget =>
    lift_bind fun _ _ => get_bind <| lift_bind fun bridge hunlock => modify_bind <|
    splitFee_bind fun part fee hsum =>
    creditParts_steps (fun a amount _ => tryAddBalance_transfers a amount) ?_ hsum
  obtain ⟨t, ht, hescrow⟩ := BridgeState.escrowed_unlock hunlock
  obtain rfl : transfer = t := Option.mem_unique hget ht
  exact .table (Moves.bridgeState hget (by omega)) rfl rfl

theorem applyBridgeMessage_steps (res : RelayerExternalResult) :
    (applyBridgeMessage L tx res).Ensures s fun _ => Steps tx 0 0 0 s := by
  unfold applyBridgeMessage
  split
  case h_1 => exact ensures_pure.2 (.refl s)
  case h_2 msg _ =>
    refine ensures_ite.2 ⟨fun _ => ensures_pure.2 (.refl s), fun _ => ?_⟩
    split
    case h_1 => exact mintBridged_steps msg
    case h_2 => exact unlockBridged_steps msg
    case h_3 => exact ensures_pure.2 (.refl s)

theorem applyRelayerResult_effect (res : RelayerExternalResult) :
    (applyRelayerResult L tx res).Ensures s fun _ => Effect tx s :=
  checkRelayerProof_bind <| (applyBridgeMessage_steps res).bind fun _ _ h =>
    chargeFee_effect h le_rfl

/-! ### Data market and applications -/

theorem applyAiPurchaseData_effect (offerId : UInt64) :
    (applyAiPurchaseData tx offerId).Ensures s fun _ => Effect tx s := by
  refine get_bind <| require_bind fun offer _ => check_bind fun _ => get_bind <|
    lift_bind fun market _ => modify_bind <| require_bind fun total htotal => get_bind <|
    check_bind fun hspendable => (debit_transfers _ _ _).bind fun _ _ hdebit => bump_bind <|
    (credit_transfers _ _ _).mono fun _ _ hcredit => ?_
  rw [checkedAdd_eq_some] at htotal
  have hle : total.toNat ≤ (s.spendableBalance tx.sender).toNat := toNat_le_of_check hspendable
  have hsold : Steps tx 0 0 0 s { s with marketplace := market } := .aside rfl rfl id fun _ => rfl
  exact .of_steps (hsold.trans (.debits hdebit)) (.credit hcredit) (fun _ => by omega)
    fun _ => by omega

theorem applyBudlumxyzRegisterApp_effect (name : String) (category : AppCategory) (url : String)
    (manifest : Option ContentId) :
    (applyBudlumxyzRegisterApp tx name category url manifest).Ensures s fun _ => Effect tx s := by
  refine check_bind fun _ => get_bind <| liftFault_bind fun ⟨_, apps⟩ _ => modify_bind <|
    require_bind fun total htotal => get_bind <| check_bind fun hspendable =>
    (debitBoth_transfers _ _ _ _ _).bind fun _ _ hdebit => ensures_modify.2 ?_
  rw [checkedAdd_eq_some] at htotal
  have hle : total.toNat ≤ (s.spendableBalance tx.sender).toNat := toNat_le_of_check hspendable
  have hlisted : Steps tx 0 0 0 s { s with budlumxyz := apps } := .aside rfl rfl id fun _ => rfl
  exact .of_steps (hlisted.trans (.debits hdebit)) (.refl _) (fun _ => by omega) fun _ => by omega

/-! ### Models, requests and results -/

theorem registerModel_steps {spec : AiModelSpec}
    (h : s.aiRegistry.registerModel L.guests spec = .ok r) : Steps tx 0 0 0 s { s with aiRegistry := r } := by
  simp only [registerModel, ok_iff] at h
  obtain ⟨-, -, -, -, -, -, -, -, -, -, rfl⟩ := h
  exact .table (Moves.aiRegistry le_rfl) rfl rfl

theorem setModelActive_steps {modelId : AiModelId} {caller : Address} {active : Bool}
    {verb already : String}
    (h : s.aiRegistry.setModelActive modelId caller active verb already = .ok r) : Steps tx 0 0 0 s
    { s with aiRegistry := r } := by
  simp only [setModelActive, ok_iff] at h
  obtain ⟨spec, -, -, -, -, -, rfl⟩ := h
  exact .table (Moves.aiRegistry le_rfl) rfl rfl

theorem applyAiModelRegister_effect (spec : AiModelSpec) :
    (applyAiModelRegister L tx spec).Ensures s fun _ => Effect tx s := by
  refine get_bind <| check_bind fun _ => require_bind fun total htotal =>
    check_bind fun hspendable => lift_bind fun _ hregister => modify_bind <|
    (debit_transfers _ _ _).bind fun _ _ hdebit => ensures_modify.2 ?_
  rw [checkedAdd_eq_some] at htotal
  have hle := toNat_le_of_check hspendable
  exact .of_steps ((registerModel_steps hregister).trans (.debits hdebit)) (.refl _)
    (fun _ => by omega) fun _ => by omega

theorem withAiRegistry_effect {code : String} {f : AccountState → Except String AiRegistry}
    (h : ∀ r, f s = .ok r → Steps tx 0 0 0 s { s with aiRegistry := r }) :
    (withAiRegistry tx code f).Ensures s fun _ => Effect tx s :=
  get_bind <| lift_bind fun _ hr => modify_bind <| chargeFee_effect (h _ hr) le_rfl

/-- The fee and the price are compared with the spendable balance before anything is written. -/
theorem applyAiInferenceRequest_effect (request : AiInferenceRequest) :
    (applyAiInferenceRequest L tx request).Ensures s fun _ => Effect tx s := by
  refine require_bind fun needed hneeded => get_bind <| check_bind fun hspendable => get_bind <|
    admitRequest_bind fun grant _ => get_bind <| lift_bind fun r hsubmit =>
      modify_bind <| (consumeGrant_eq grant _).bind fun _ s₁ ⟨market, hgrant⟩ =>
        require_bind fun _ _ => get_bind <| check_bind fun _ =>
          (debitBoth_transfers _ _ _ _ _).bind fun _ _ hdebit => ensures_modify.2 ?_
  rw [checkedAdd_eq_some] at hneeded
  have hle := toNat_le_of_check hspendable
  have hgranted : Steps tx 0 0 0 { s with aiRegistry := r } s₁ :=
    hgrant ▸ .aside rfl rfl id fun _ => rfl
  simp only at hneeded hle
  exact .of_steps (((submitRequest_steps hsubmit).trans hgranted).trans (.debits hdebit)) (.refl _)
    (fun _ => by simp only []; omega) fun _ => by simp only []; omega

/-- Every verifier gets the reward, and the first `remainder` of them one unit more. -/
theorem payVerifiers_transfers (reward : UInt64) (verifiers : List Address) (remainder : Nat) :
    (payVerifiers reward remainder verifiers).Ensures s fun _ s' => ∃ received : Bookings,
      Transfers [] received s s' ∧
        received.total = reward.toNat * verifiers.length + min remainder verifiers.length := by
  induction verifiers generalizing s remainder with
  | nil => exact ensures_pure.2 ⟨[], .refl s, by simp⟩
  | cons verifier rest ih =>
    refine orThrow_bind fun share hshare => (credit_transfers _ _ _).bind fun _ _ hcredit =>
      (ih (remainder - 1)).mono fun _ _ ⟨received, hrest, htotal⟩ => ⟨_, hcredit.trans hrest, ?_⟩
    rw [checkedAdd_eq_some] at hshare
    rw [List.singleton_append, Bookings.total_cons, htotal, List.length_cons, Nat.mul_succ]
    split at hshare <;> simp only [UInt64.toNat_one, UInt64.toNat_zero] at hshare <;> omega

/-- The rewards add up to the fee. -/
theorem rewardVerifiers_transfers (maxFee : UInt64) (verifiers : List Address) :
    (rewardVerifiers maxFee verifiers).Ensures s fun _ s' => ∃ received : Bookings,
      Transfers [] received s s' ∧ received.total = if verifiers = [] then 0 else maxFee.toNat := by
  refine ensures_ite.2 ⟨fun hempty => ensures_pure.2 ⟨[], .refl s, ?_⟩, fun hsome => ?_⟩
  · rw [if_pos (List.isEmpty_iff.1 hempty), Bookings.total_nil]
  · rw [List.isEmpty_iff] at hsome
    refine (payVerifiers_transfers _ _ _).mono fun _ _ ⟨received, htransfers, htotal⟩ =>
      ⟨received, htransfers, ?_⟩
    have hfits : maxFee.toNat / verifiers.length < 18446744073709551616 :=
      (Nat.div_le_self _ _).trans_lt maxFee.toNat_lt
    have hdiv := Nat.div_add_mod' maxFee.toNat verifiers.length
    have hmod := Nat.mod_lt maxFee.toNat (List.length_pos_iff.2 hsome)
    rw [if_neg hsome, htotal, UInt64.toNat_ofNat_of_fits hfits]
    omega

theorem publishOutput_ledger (requester : Address) (result : AiInferenceResult) (s : AccountState) :
    (publishOutput L requester result s).ledger = s.ledger ∧
      (publishOutput L requester result s).settings = s.settings ∧
      (publishOutput L requester result s).governance = s.governance := by
  unfold publishOutput
  dsimp only
  split <;> split <;> exact ⟨rfl, rfl, rfl⟩

/-- The fee an agreement frees goes to its verifiers, and the output becomes a token. -/
theorem settleOutcome_steps (htx : writesTokens tx.txType = true) (result : AiInferenceResult)
    (outcome : AiInferenceOutcome) :
    (settleOutcome L result outcome).Ensures s fun _ s' =>
      Steps tx 0 0 (s.aiRegistry.feeReleased (some outcome)) s s' := by
  refine get_bind (ensures_optionForM ((Steps.refl s).of_le (by omega)) fun request hget => ?_)
  have hfee : s.aiRegistry.feeReleased (some outcome) = request.maxFee.toNat := by
    simp [feeReleased, hget]
  rw [hfee]
  refine (rewardVerifiers_transfers _ _).bind fun _ s₁ hrewards => ensures_modify.2 ?_
  obtain ⟨received, htransfers, htotal⟩ := hrewards
  obtain ⟨hledger, hsettings, hgovernance⟩ := publishOutput_ledger (L := L) request.requester result s₁
  have hpublished : Steps tx 0 0 0 s₁ (publishOutput L request.requester result s₁) :=
    .aside hledger hsettings (fun h => hgovernance ▸ h) fun h => absurd htx (by simp [h])
  refine ((Steps.credits htransfers).trans hpublished).of_le ?_
  rw [htotal]
  split <;> omega

/-- What an attempt to submit a result frees: nothing if it was refused. -/
theorem attemptResult_escrow (r : AiRegistry) (result : AiInferenceResult) (height : UInt64) :
    (attempt (AiRegistry.submitResult result height) :
      EStateM (Fault BudlumError) AiRegistry _).Ensures r fun outcome r' =>
        r'.openEscrow + r'.agentEscrow + r'.feeReleased outcome.toOption.join ≤
          r.openEscrow + r.agentEscrow := by
  refine ensures_attempt ?_ ?_
  · refine (submitResult_answers result height).mono
      fun outcome r' ⟨⟨_, _, _, h⟩, hpayments⟩ => ?_
    have hescrow := h.openEscrow_add
    simp only [Except.toOption, Option.join_some, agentEscrow, hpayments]
    omega
  · rintro e r' hrun e' -
    obtain ⟨htables, hpayments⟩ := submitResult_error_tables result height e r' hrun
    have hescrow := openEscrow_of_tables htables
    simp only [agentEscrow, hpayments, hescrow]
    exact le_rfl

/-- The registry is asked once, and nothing else is written. -/
theorem submitResult_eq (result : AiInferenceResult) (height : UInt64) :
    (submitResult result height).Ensures s fun outcome s' => ∃ answer r,
      (attempt (AiRegistry.submitResult result height) :
        EStateM (Fault BudlumError) AiRegistry _).run s.aiRegistry = .ok answer r ∧
      s' = { s with aiRegistry := r } ∧ outcome = answer.toOption.join := by
  refine ensures_bind.2 (ensures_zoom.2 fun answer r hrun => ?_)
  cases answer with
  | ok outcome => exact ensures_pure.2 ⟨_, r, hrun, rfl, rfl⟩
  | error e => exact check_bind fun _ => ensures_pure.2 ⟨_, r, hrun, rfl, rfl⟩

theorem applyAiInferenceResult_effect (htx : writesTokens tx.txType = true)
    (result : AiInferenceResult) :
    (applyAiInferenceResult L tx result).Ensures s fun _ => Effect tx s := by
  refine get_bind <| check_bind fun _ => get_bind <| (submitResult_eq _ _).bind ?_
  rintro _ _ ⟨answer, r, hrun, rfl, rfl⟩
  have hresult : Steps tx 0 (r.feeReleased answer.toOption.join) 0 s { s with aiRegistry := r } :=
    .table (Moves.aiRegistry (attemptResult_escrow _ _ _ _ _ hrun)) rfl rfl
  refine Ensures.bind (P := fun _ s' => Steps tx 0 0 0 s s') ?_ fun _ _ h => chargeFee_effect h le_rfl
  refine ensures_optionForM (hresult.of_le (by omega)) fun o ho => ?_
  rw [ho] at hresult
  exact (settleOutcome_steps htx _ o).mono fun _ _ h => (hresult.trans h).of_le (by simp only []; omega)

/-- The fee of a request that is settled is free. -/
theorem closes_steps {id : AiRequestId} (h : s.aiRegistry.Closes id request r)
    (hpayments : r.agentPayments = s.aiRegistry.agentPayments) : Steps tx 0 request.maxFee.toNat 0 s
    { s with aiRegistry := r } := by
  have hescrow := h.openEscrow_add
  have hagent : r.agentEscrow = s.aiRegistry.agentEscrow := by
    rw [agentEscrow, hpayments, agentEscrow]
  exact .table (Moves.aiRegistry (by omega)) rfl rfl

theorem applyAiFeeReclaim_effect :
    (applyAiFeeReclaim tx requestId).Ensures s fun _ => Effect tx s := by
  refine get_bind <| lift_bind fun ⟨requester, maxFee, r⟩ hreclaim =>
    modify_bind <| check_bind fun howner => ?_
  obtain ⟨request, hcloses, rfl, hpayments⟩ := reclaimFee_closes hreclaim
  obtain rfl : requester = tx.sender := by simpa using howner
  exact (credit_transfers _ _ _).bind fun _ _ hcredit =>
    chargeFee_effect ((closes_steps hcloses hpayments).trans (.credit hcredit)) (by omega)

theorem applyAiRequestCancel_effect :
    (applyAiRequestCancel tx requestId).Ensures s fun _ => Effect tx s := by
  refine get_bind <| lift_bind fun ⟨requester, maxFee, r⟩ hcancel => modify_bind ?_
  obtain ⟨request, hcloses, rfl, hpayments⟩ := cancelRequest_closes hcancel
  exact (credit_transfers _ _ _).bind fun _ _ hcredit =>
    chargeFee_effect ((closes_steps hcloses hpayments).trans (.credit hcredit)) (by omega)

theorem slashEquivocator_steps {requestId : AiRequestId}
    (h : s.aiRegistry.slashEquivocator requestId verifier height = .ok r) : Steps tx 0 0 0 s
    { s with aiRegistry := r } := by
  simp only [slashEquivocator, ok_iff] at h
  obtain ⟨-, -, -, -, rfl⟩ := h
  exact .table (Moves.aiRegistry le_rfl) rfl rfl

theorem applyAiDisputeSlash_effect (verifier : Address) :
    (applyAiDisputeSlash tx requestId verifier).Ensures s fun _ => Effect tx s := by
  refine get_bind <| check_bind fun _ => get_bind <| lift_bind fun r hai =>
    modify_bind <| get_bind <| lift_bind fun ⟨_, roles⟩ hroles =>
    modify_bind ?_
  obtain ⟨hbond, hparams⟩ := totalBonded_slashRoleOnly hroles
  have hslash : Steps tx 0 0 0 { s with aiRegistry := r } { s with aiRegistry := r, registry := roles } :=
    .table (Moves.registry hbond hparams) rfl rfl
  exact chargeFee_effect ((slashEquivocator_steps hai).trans hslash) le_rfl

theorem attachExecutionProof_steps {requestId : AiRequestId}
    {proof : AiExecutionProof}
    (h : s.aiRegistry.attachExecutionProof requestId verifier proof = .ok r) : Steps tx 0 0 0 s
    { s with aiRegistry := r.tryFinalizeWithProofs requestId } := by
  have hattached : Steps tx 0 0 0 s { s with aiRegistry := r } := by
    simp only [attachExecutionProof, ok_iff] at h
    obtain ⟨-, -, -, -, -, -, -, -, -, -, -, -, rfl⟩ := h
    exact .table (Moves.aiRegistry le_rfl) rfl rfl
  cases houtcome : r.outcomeWithProofs requestId with
  | none =>
    rwa [tryFinalizeWithProofs, houtcome]
  | some outcome =>
    obtain ⟨request, hcloses, hpayments⟩ := outcomeWithProofs_closes houtcome
    exact (hattached.trans (closes_steps (s := { s with aiRegistry := r }) hcloses hpayments)).of_le
      (by omega)

theorem applyAiAttachExecutionProof_effect (proof : AiExecutionProof) :
    (applyAiAttachExecutionProof L tx requestId proof).Ensures s fun _ => Effect tx s :=
  get_bind <| check_bind fun _ => get_bind <| require_bind fun _ _ =>
    require_bind fun _ _ => require_bind fun _ _ => ofExcept_bind fun _ _ =>
      lift_bind fun _ hattach => modify_bind <|
        chargeFee_effect (attachExecutionProof_steps hattach) le_rfl

/-! ### Payments between agents -/

/-- A payment that is not escrowed is held and settled in one transaction. -/
theorem applyAiAgentPayment_effect (payment : AiAgentPayment) :
    (applyAiAgentPayment tx payment).Ensures s fun _ => Effect tx s := by
  refine get_bind <| check_bind fun _ => require_bind fun total htotal =>
    get_bind <| check_bind fun hspendable => get_bind <| lift_bind fun r hsubmit =>
    modify_bind <| (debit_transfers _ _ _).bind fun _ s₁ hdebit => bump_bind ?_
  rw [checkedAdd_eq_some] at htotal
  have hle := toNat_le_of_check hspendable
  obtain ⟨hagent, hopen, hpayment⟩ := agentEscrow_submitAgentPayment hsubmit
  have hheld : Steps tx 0 0 payment.amount.toNat s { s with aiRegistry := r } :=
    .table (Moves.aiRegistry (by omega)) rfl rfl
  refine ensures_ite.2 ⟨fun _ => ensures_pure.2 ?_, fun _ => ?_⟩
  · exact .of_steps (hheld.trans (.debits hdebit)) (.refl _) (fun _ => by omega) fun _ => by omega
  · refine (credit_transfers _ _ _).bind fun _ s₂ hcredit =>
      get_bind <| lift_bind fun r' hsettle => ensures_modify.2 ?_
    obtain ⟨settled, hget, hagent', hopen'⟩ :=
      agentEscrow_settleAgentPaymentImmediate hsettle
    have hregistry : s₂.aiRegistry = r := hcredit.aiRegistry.trans hdebit.aiRegistry
    rw [hregistry, hpayment, Option.some.injEq] at hget
    subst hget
    have hfreed : Steps tx 0 payment.amount.toNat 0 s₂ { s₂ with aiRegistry := r' } :=
      .table (Moves.aiRegistry (by omega)) rfl rfl
    exact .of_steps (hheld.trans (.debits hdebit)) ((Steps.credit hcredit).trans hfreed)
      (fun _ => by omega) fun _ => by omega

theorem applyAiAgentPaymentRelease_effect (paymentId : Hash32) :
    (applyAiAgentPaymentRelease tx paymentId).Ensures s fun _ => Effect tx s := by
  refine get_bind <| require_bind fun payment hget => lift_bind
    fun ⟨recipient, r⟩ hrelease => modify_bind ?_
  obtain ⟨released, hreleased, hagent, hopen⟩ := agentEscrow_releaseAgentPayment hrelease
  obtain rfl : payment = released := Option.mem_unique hget hreleased
  have hfreed : Steps tx 0 payment.amount.toNat 0 s { s with aiRegistry := r } :=
    .table (Moves.aiRegistry (by omega)) rfl rfl
  exact (credit_transfers _ _ _).bind fun _ _ hcredit =>
    chargeFee_effect (hfreed.trans (.credit hcredit)) (by omega)

theorem reclaimBalance_transfers (a : Address) (amount fee : UInt64) :
    (updateBalance a (reclaimBalance amount fee)).Ensures s fun _ s' =>
      Transfers [(a, fee.toNat)] [(a, amount.toNat)] s s' :=
  updateBalance_transfers _ _ fun _ _ h => by
    simp only [reclaimBalance, ok_iff, checkedAdd_eq_some, checkedSub_eq_some]
      at h
    obtain ⟨available, hadd, -, -, hsub⟩ := h
    omega

theorem applyAiAgentPaymentReclaim_effect (paymentId : Hash32) :
    (applyAiAgentPaymentReclaim tx paymentId).Ensures s fun _ => Effect tx s := by
  refine get_bind <| lift_bind fun ⟨amount, r⟩ hreclaim => modify_bind <|
    (reclaimBalance_transfers _ _ _).bind fun _ _ hbalance => ensures_modify.2 ?_
  obtain ⟨hagent, hopen⟩ := agentEscrow_reclaimAgentPayment hreclaim
  have hfreed : Steps tx 0 amount.toNat 0 s { s with aiRegistry := r } :=
    .table (Moves.aiRegistry (by omega)) rfl rfl
  refine .of_steps (hfreed.trans (.books hbalance)) (.refl _) (fun _ => by omega) fun haffords => ?_
  unfold Affords at haffords
  omega

/-! ### Every transaction -/

/-- The nonces a transaction writes besides its sender's. -/
def nonceWrites (tx : Transaction) : List (Address × UInt64) :=
  match tx.txType with
  | .stateUpdate _ _ updates => updates
  | _ => []

/-- A nonce write that the executor accepts. -/
def Admits (s : AccountState) (u : Address × UInt64) : Prop :=
  s.getNonce u.1 < u.2 ∧ u.2 < stateUpdateNonceCeiling

/-- Every nonce write is admitted, and the transaction pays after them. -/
def Applies (tx : Transaction) (s s' : AccountState) : Prop :=
  (∀ u ∈ nonceWrites tx, Admits s u) ∧ Pays tx (writeNonces (nonceWrites tx) s) s'

theorem writeNonces_rest (s : AccountState) :
    writeNonces updates s = { s with accounts := (writeNonces updates s).accounts } := by
  induction updates generalizing s with
  | nil => rfl
  | cons u us ih => exact ih (s.setNonce u.1 u.2)

theorem getBalance_writeNonces (s : AccountState) (a : Address) :
    (writeNonces updates s).getBalance a = s.getBalance a := by
  induction updates generalizing s with
  | nil => rfl
  | cons u us ih =>
    refine (ih (s.setNonce u.1 u.2)).trans ?_
    rw [setNonce, getBalance_setAccount]
    split_ifs with h
    · rw [h]; rfl
    · rfl

/-- What can be spent depends on the balances and the settings. -/
theorem spendableBalance_congr (hrest : s₁ = { s with accounts := s₁.accounts })
    (h : s₁.getBalance a = s.getBalance a) : s₁.spendableBalance a = s.spendableBalance a := by
  unfold spendableBalance
  rw [h]
  generalize s.getBalance a = balance
  rw [hrest]

theorem Applies.settings (h : Applies tx s s') : s'.settings = s.settings :=
  h.2.settings.trans (by rw [writeNonces_rest]; rfl)

theorem writeNonces_moves (h : Moves l g s s₁) :
    Moves l g (writeNonces updates s) (writeNonces updates s₁) := by
  induction updates generalizing s s₁ with
  | nil => exact h
  | cons u us ih => exact ih (h.setNonce u.1 u.2)

theorem writeNonces_passes (s : AccountState) : Passes s (writeNonces updates s) := by
  exact Passes.foldl (fun s (u : Address × UInt64) => Passes.setNonce s u.1 u.2) updates s

theorem Applies.keeps (h : Applies tx s s₁) : Keeps s s₁ :=
  (writeNonces_passes _ s).toKeeps.trans h.2.toKeeps

theorem Applies.held (h : Applies tx s s₁) (hs : s.totalHeld < maxValue.toNat) :
    s₁.totalHeld + tx.fee.toNat ≤ s.totalHeld := by
  have hwrites := (writeNonces_passes (nonceWrites tx) s).held
  exact (h.2.held (hwrites.trans_lt hs)).trans hwrites

theorem checkStateUpdate_eq_ok {domainId : DomainId} {u : Address × UInt64}
    (h : checkStateUpdate domainId height s u = .ok ()) : Admits s u := by
  simp only [checkStateUpdate, ok_iff] at h
  obtain ⟨-, hmono, hceiling⟩ := h
  exact ⟨hmono, hceiling⟩

theorem applyStateUpdate_effect (domainId : DomainId) (height : UInt64)
    (updates : List (Address × UInt64)) :
    (applyStateUpdate tx domainId height updates).Ensures s fun _ s' =>
      (∀ u ∈ updates, Admits s u) ∧ Effect tx (writeNonces updates s) s' :=
  check_bind fun _ => get_bind <| ofExcept_bind fun _ hcheck =>
    modify_bind <| (chargeFee_effect (.refl _) le_rfl).mono fun _ _ h =>
      ⟨fun u hu => checkStateUpdate_eq_ok (Except.forM_eq_ok.1 hcheck u hu), h⟩

/-- **What a transaction of each kind does.** -/
theorem applyKind_effect : (applyKind L tx domain).Ensures s fun _ s' =>
    (∀ u ∈ nonceWrites tx, Admits s u) ∧ Effect tx (writeNonces (nonceWrites tx) s) s' := by
  by_cases hupdate : ∃ d height updates, tx.txType = .stateUpdate d height updates
  · obtain ⟨d, height, updates, hkind⟩ := hupdate
    simp only [applyKind, nonceWrites, hkind]
    exact applyStateUpdate_effect d height updates
  · have hwrites : nonceWrites tx = [] := by
      unfold nonceWrites
      split
      case h_1 d height updates h => exact absurd ⟨d, height, updates, h⟩ hupdate
      case h_2 => rfl
    suffices hpays : (applyKind L tx domain).Ensures s fun _ s' => Effect tx s s' by
      rw [hwrites]
      exact hpays.mono fun _ s' h => ⟨by simp, h⟩
    unfold applyKind
    cases hkind : tx.txType with
    | transfer => exact applyTransfer_effect
    | stake => exact applyStake_effect
    | unstake => exact applyUnstake_effect
    | vote => exact applyVote_effect
    | contractCall => exact applyContractCall_effect
    | bnsRegister => exact applyBnsRegister_effect
    | nftBoost => exact applyNftBoost_effect _ _
    | relayerResult => exact applyRelayerResult_effect _
    | aiPurchaseData => exact applyAiPurchaseData_effect _
    | budlumxyzRegisterApp => exact applyBudlumxyzRegisterApp_effect _ _ _ _
    | aiModelRegister => exact applyAiModelRegister_effect _
    | aiInferenceRequest => exact applyAiInferenceRequest_effect _
    | aiInferenceResult => exact applyAiInferenceResult_effect (by rw [hkind]; rfl) _
    | aiFeeReclaim => exact applyAiFeeReclaim_effect _
    | aiModelDeactivate | aiModelReactivate =>
      exact withAiRegistry_effect fun _ h => setModelActive_steps h
    | aiRequestCancel => exact applyAiRequestCancel_effect _
    | aiDisputeSlash => exact applyAiDisputeSlash_effect _ _
    | aiAgentPayment => exact applyAiAgentPayment_effect _
    | aiAgentPaymentRelease => exact applyAiAgentPaymentRelease_effect _
    | aiAgentPaymentReclaim => exact applyAiAgentPaymentReclaim_effect _
    | aiAttachExecutionProof => exact applyAiAttachExecutionProof_effect _ _
    | aiOperatorBond => exact applyAiOperatorBond_effect
    | aiOperatorUnbond => exact applyAiOperatorUnbond_effect
    | aiOperatorWithdraw => exact applyAiOperatorWithdraw_effect
    | registerConsensusKeys => exact applyRegisterConsensusKeys_effect _
    | stateUpdate d height updates => exact absurd ⟨d, height, updates, hkind⟩ hupdate
    | _ =>
      -- checks, one write outside the ledger, the fee
      simp only [applyBnsSetContent, applyBnsRegisterSubdomain, applyBnsSetStorage, applyNftMint,
        applyNftTransfer, applyNftBurn, applyNftUpdateLight, applyVault, checkVault,
        applyAiOfferData, applyBudlumxyzAttestApp, applyPollenRegisterDataAsset,
        applyPollenAuthorizeSale, applyPollenGrantAccess, applyPollenRevokeGrant,
        applyPollenRevokeDataAsset, withMarketplace, applyPrivacyNoteInsert,
        applyPrivateTransferSubmit, applyIdentity, check, require, lift, liftFault, ensures_bind,
        ensures_get, ensures_ensure, ensures_modify, ensures_orThrow, ensures_ofExcept]
      intros
      refine chargeFee_effect (.aside rfl rfl id fun h => ?_) le_rfl
      first | rfl | (rw [hkind] at h; cases h)

theorem applyKind_applies : (applyKind L tx domain).Ensures s fun _ s' => Applies tx s s' :=
  applyKind_effect.mono fun _ _ h => ⟨h.1, h.2.toPays⟩

theorem applyKind_within (haffords : Affords tx s) :
    (applyKind L tx domain).Ensures s fun _ => Within tx s := by
  refine applyKind_effect.mono fun _ s' ⟨_, heffect⟩ b => ?_
  have hbalance := getBalance_writeNonces (nonceWrites tx) s
  have hspendable := spendableBalance_congr (writeNonces_rest _ s) (hbalance tx.sender)
  have hdrawn := heffect.within (by rwa [Affords, hspendable]) b
  rwa [hbalance, hspendable] at hdrawn

/-- **A transaction of another kind writes no token.** -/
theorem applyKind_tokens (h : writesTokens tx.txType = false) :
    (applyKind L tx domain).Ensures s fun _ => SameTokens s :=
  applyKind_effect.mono fun _ _ heffect => (heffect.2.tokens h).trans
    (show (writeNonces (nonceWrites tx) s).nftRegistry = s.nftRegistry by rw [writeNonces_rest])

theorem checkFloor_bind {f : Unit → Exec β} {Q : β → AccountState → Prop}
    (h : (f ()).Ensures s Q) : (checkFloor tx >>= f).Ensures s Q := by
  refine ensures_bind.2 ?_
  unfold checkFloor
  split
  case h_1 => exact check_bind fun _ => ensures_ensure.2 fun _ => h
  case h_2 => exact ensures_ensure.2 fun _ => h
  case h_3 => exact ensures_pure.2 h

/-- A transaction that is applied reaches its own rule; before it only the account is created. -/
theorem applyTransactionChecked_books {Q : AccountState → Prop} (hzero : tx.sender ≠ Address.zero)
    (h : (applyKind L tx domain).Ensures (s.touch tx.sender) fun _ s' => Q s') :
    (applyTransactionChecked L tx domain).Ensures s fun _ s' => Q s' := by
  rw [applyTransactionChecked, if_neg hzero]
  exact get_bind <| check_bind fun _ => checkFloor_bind <| modify_bind <| get_bind <|
    check_bind fun _ => h

/-- **What a successful transaction does.**  From the zero address it does nothing; otherwise it
writes the nonces it names, pays its fee and counts its sender's nonce up. -/
theorem applyTransactionChecked_applies :
    (applyTransactionChecked L tx domain).Ensures s fun _ s' =>
      (tx.sender = Address.zero ∧ tx.verify L.toCrypto = true ∧ s' = s) ∨
        (tx.sender ≠ Address.zero ∧ Applies tx s s') := by
  by_cases hzero : tx.sender = Address.zero
  · rw [applyTransactionChecked, if_pos hzero]
    exact ensures_ensure.2 fun hverify => .inl ⟨hzero, hverify, rfl⟩
  · refine applyTransactionChecked_books hzero (applyKind_applies.mono fun _ s' happ =>
      .inr ⟨hzero, fun u hu => ?_, ?_⟩)
    · have := happ.1 u hu
      rwa [Admits, AccountState.getNonce, account_touch] at this
    · exact Pays.after (writeNonces_moves _ (Moves.touch s tx.sender)) happ.2

/-! ### Fees and actions -/

/-- The producer gets at most the fee. -/
theorem payProducer_transfers (producer : Address) (tx : Transaction) :
    (payProducer producer tx).Ensures s fun _ s' => ∃ received : Bookings,
      Transfers [] received s s' ∧ received.total ≤ tx.fee.toNat := by
  refine get_bind <| require_bind fun fee hfee =>
    ensures_ite.2 ⟨fun _ => ensures_pure.2 ⟨[], .refl s, Nat.zero_le _⟩, fun _ => ?_⟩
  refine (ensures_mapError.2 (tryAddBalance_transfers producer fee)).mono fun _ _ h => ⟨_, h, ?_⟩
  rw [checkedSub_eq_some] at hfee
  simp only [Bookings.total_cons, Bookings.total_nil]
  omega

/-- What a governance action does: no account, schedule or epoch changes. -/
structure Acts (s s' : AccountState) : Prop extends Passes s s' where
  accounts : s'.accounts = s.accounts
  teamVesting : s'.teamVesting = s.teamVesting
  epochIndex : s'.epochIndex = s.epochIndex

theorem Acts.trans (h : Acts s s₁) (h' : Acts s₁ s') : Acts s s' where
  toPasses := h.toPasses.trans h'.toPasses
  accounts := h'.accounts.trans h.accounts
  teamVesting := h'.teamVesting.trans h.teamVesting
  epochIndex := h'.epochIndex.trans h.epochIndex

theorem applyAction_acts (action : GovernanceAction) :
    (applyAction action).Ensures s fun _ => Acts s := by
  cases action with
  | whitelistVerifier a | dewhitelistVerifier a =>
    exact ensures_modify.2 ⟨⟨⟨⟨id, id⟩, le_rfl⟩, rfl⟩, rfl, rfl, rfl⟩
  | setEncryptionPolicy policy =>
    exact get_bind <| lift_bind fun _ _ => ensures_modify.2 ⟨.of_ledger rfl rfl id, rfl, rfl, rfl⟩
  | setConstitutionParameter parameter =>
    exact ensures_zoom.2 (ConstitutionRegistry.setParameter_ensures.mono fun _ _ hguard =>
      ⟨.of_ledger rfl rfl fun h => ⟨h.payloads, hguard⟩, rfl, rfl, rfl⟩)
  | unfreezeConsensusDomain d setHash justification =>
    exact ensures_modify.2 ⟨.of_ledger rfl rfl id, rfl, rfl, rfl⟩

theorem applyDueActions_acts : applyDueActions.Ensures s fun _ => Acts s := by
  refine get_bind <| modify_bind ?_
  refine ensures_listForM (I := fun _ s' => Acts s s') (fun action _ s₁ h =>
    (applyAction_acts action).mono fun _ _ h' => h.trans h') ?_
  exact ⟨.of_ledger rfl rfl fun h => h.executePassedProposals s.epochIndex, rfl, rfl, rfl⟩

end Executor

end Budlum
