import Budlum.Core.Epoch
import Budlum.Execution.Effects

/-!
# What a block does to the state

A block's transactions, fees and governance actions are followed by the effects of the block
itself: slashing, the end of an epoch, the base fee, admissions, liveness, content of burned
tokens, expired bridge locks, and the boosts that storage operators share.  Every path that applies
a block to a state goes through `AccountState.applyBlockEffects`.
-/

namespace Budlum

open Executor BridgeState
open EStateM (mapError orThrow)

def Block.closesEpoch (block : Block) : Bool :=
  decide (0 < block.index) && decide (block.index % epochLenForChainId block.chainId = 0)

namespace AccountState

/-! ### Effects of the block itself -/

/-- The base fee follows the number of transactions, by an eighth. -/
def adjustBaseFee (txCount : Nat) (s : AccountState) : AccountState :=
  let target := 50
  let limit : UInt64 := 10000000
  if target < txCount then
    { s with baseFee := min (s.baseFee.saturatingAdd (s.baseFee / 8)) limit }
  else if txCount < target then
    { s with baseFee := max (s.baseFee.saturatingSub (s.baseFee / 8)) 1 }
  else s

/-- Slash the producers the block's evidence names. -/
def applyEvidence (block : Block) (s : AccountState) : AccountState :=
  match block.slashingEvidence with
  | some evidences => s.applySlashing evidences (s.registry.params.slashRatio .doubleSign)
  | none => s

/-- The end of an epoch, at the block that closes one. -/
def closeEpoch (L : Linked) (block : Block) (s : AccountState) : Option AccountState :=
  if block.closesEpoch then s.advanceEpoch L block.timestamp block.chainId else some s

/-- Slashing, the end of an epoch, the base fee and the admissions. -/
def applySystemEffects (L : Linked) (block : Block) (s : AccountState) : Option AccountState := do
  let s ← (s.applyEvidence block).closeEpoch L block
  let s := if 0 < block.index then s.adjustBaseFee block.transactions.length else s
  return s.refreshPoaAdmissions block.index

/-- Cut the bonds a report names. -/
def slashFromReport (s : AccountState) (report : SlashingReport) : AccountState :=
  match s.registry.slashFromReport report with
  | .ok (_, registry) => { s with registry := registry }
  | .error _ => s

/-- Jail a validator that is not slashed yet. -/
def jail (s : AccountState) (a : Address) (jailUntil : UInt64) : AccountState :=
  match s.validators.get a with
  | some v =>
    if v.slashed then s
    else s.setValidator a
      { v with slashed := true, active := false, jailed := true, jailUntil := jailUntil }
  | none => s

/-- Who produced a block of the epoch that the block closes. -/
def epochProducers (block : Block) (preceding : List Block) : List Address :=
  let lookback := (epochLenForChainId block.chainId).toNat - 1
  (preceding.reverse.take lookback).filterMap (·.producer) ++ block.producer.toList

/-- At the end of an epoch, note which validators produced nothing. -/
def applyEpochCloseLiveness (block : Block) (preceding : List Block) (s : AccountState) :
    AccountState :=
  if block.closesEpoch then
    let closedEpoch := (block.index / epochLenForChainId block.chainId).saturatingSub 1
    let participated := epochProducers block preceding
    let expected := (s.validators.entries.map (·.1)).filter
      fun a => s.registry.isActive a Roles.validator
    let params := s.registry.params
    let (liveness, reported) := s.liveness.recordEpoch closedEpoch expected
      (fun a => decide (a ∈ participated)) params
    let s := { s with liveness := liveness }
    if params.livenessSlashingEnabled then
      let jailUntil := s.epochIndex.saturatingAdd livenessJailEpochs
      reported.foldl (fun s r => (s.slashFromReport r).jail r.offender jailUntil) s
    else s
  else s

/-- The content behind the tokens the block burns, as far as the tokens exist before the block. -/
def collectNftBurnCidsFromState (L : Linked) (block : Block) (s : AccountState) : List ContentId :=
  block.transactions.filterMap fun tx =>
    if tx.txType = .nftBurn then
      match L.decode.nftBurn tx.data with
      | .ok id => (s.nftRegistry.nfts.get id).map (·.contentId)
      | .error _ => none
    else none

def pruneBurned (contents : List ContentId) (s : AccountState) : AccountState :=
  { s with storageRegistry := contents.foldl StorageRegistry.pruneContent s.storageRegistry }

/-! ### Bridge refunds and boosts -/

/-- Release the expired locks and pay their owners back. -/
def applyBridgeSweepToState (currentHeight : UInt64) :
    EStateM String AccountState (List (Address × UInt64)) := do
  let (bridge, released) := (← get).bridgeState.sweepExpiredLocks currentHeight
  modify fun s => { s with bridgeState := bridge }
  released.forM fun (owner, amount) =>
    mapError (fun e => s!"Bridge sweep refund overflow for {toHex owner}: {e}")
      (tryAddBalance owner amount)
  return released

/-- One operator's part of the boosts; the sum paid out so far goes on. -/
def payBoostShare (boostShare totalWeight distributed : UInt64) (deal : Address × UInt64) :
    EStateM String AccountState UInt64 := do
  let product ← orThrow (boostShare.checkedMul deal.2)
    "Boost distribution multiplication overflow"
  let share := product / totalWeight
  if share = 0 then return distributed
  mapError (fun e => s!"Boost share overflow for {toHex deal.1}: {e}")
    (tryAddBalance deal.1 share)
  orThrow (distributed.checkedAdd share) "Boost distribution total overflow"

/-- Every operator's part by the weight of its deals; the rest goes to the first one. -/
def payBoostShares (boostShare totalWeight : UInt64) (deals : List (Address × UInt64)) :
    EStateM String AccountState Unit := do
  let distributed ← deals.foldlM (payBoostShare boostShare totalWeight) 0
  let dust := boostShare.saturatingSub distributed
  if dust ≠ 0 then
    let (operator, _) ← orThrow deals.head? "Boost distribution has no dust recipient"
    mapError (fun e => s!"Boost dust overflow: {e}") (tryAddBalance operator dust)

/-- Share the boosts of a block among the storage operators.  The weights are summed in a word. -/
def distributeBudBoostShareInState (boostShare : UInt64) :
    EStateM (Fault String) AccountState Unit := do
  if boostShare ≠ 0 then
    let deals := (← get).storageRegistry.activeWeights
    let totalWeight ← orThrow (UInt64.ofNat? (deals.map (·.2.toNat)).sum) .panic
    if totalWeight ≠ 0 then
      mapError .fail (payBoostShares boostShare totalWeight deals)
    modify fun s => { s with pendingBudBoostShare := 0 }

/-! ### The block -/

def blockEffects (L : Linked) (domain : ConsensusKind) (block : Block) (preceding : List Block) :
    EStateM (Fault String) AccountState Unit := do
  let burned := (← get).collectNftBurnCidsFromState L block
  modify fun s => { s with currentBlockHeight := block.index }
  mapError (Fault.map fun e => s!"Failed to apply block: {e.display}")
    (Executor.applyBlockChecked L domain block.transactions block.producer)
  let s ← orThrow ((← get).applySystemEffects L block) .panic
  set ((s.applyEpochCloseLiveness block preceding).pruneBurned burned)
  let _ ← mapError .fail (applyBridgeSweepToState block.index)
  distributeBudBoostShareInState (← get).pendingBudBoostShare

/-- The state after a block on top of the blocks before it. -/
def applyBlockEffects (L : Linked) (domain : ConsensusKind) (base : AccountState) (block : Block)
    (preceding : List Block) : Except (Fault String) AccountState :=
  ((blockEffects L domain block preceding).exec base).map Prod.snd

/-! ### What the effects keep -/

open EStateM

variable {L : Linked} {domain : ConsensusKind} {s : AccountState} {block : Block}
  {s' : AccountState} {preceding : List Block}

theorem applyBlockEffects_eq_ok : s.applyBlockEffects L domain block
    preceding = .ok s' ↔ (blockEffects L domain block preceding).run s = .ok () s' := by
  rw [applyBlockEffects, ← exec_eq_ok]
  cases (blockEffects L domain block preceding).exec s <;> simp [Except.map, Prod.ext_iff]

theorem applyBlockEffects_eq_error {e : Fault String} : s.applyBlockEffects
    L domain block preceding = .error e ↔ ∃ t, (blockEffects L domain block preceding).run s =
    .error e t := by
  rw [applyBlockEffects, ← exec_eq_error]
  cases (blockEffects L domain block preceding).exec s <;> simp [Except.map]

theorem adjustBaseFee_passes (s : AccountState) (txCount : Nat) :
    Passes s (s.adjustBaseFee txCount) := by
  unfold adjustBaseFee
  dsimp only
  split
  · exact Passes.of_ledger rfl rfl id
  · split
    · exact Passes.of_ledger rfl rfl id
    · exact Passes.refl s

theorem applyEvidence_passes (s : AccountState) (block : Block) :
    Passes s (s.applyEvidence block) := by
  unfold applyEvidence
  split
  · exact Passes.foldl (fun s a => slashValidator_passes s a _) _ s
  · exact Passes.refl s

theorem closeEpoch_passes (h : s.closeEpoch L block = some s') : Passes s s' := by
  unfold closeEpoch at h
  split at h
  · exact advanceEpoch_passes h
  · obtain rfl := Option.some.inj h
    exact Passes.refl s

theorem applySystemEffects_passes (h : s.applySystemEffects L block = some s') : Passes s s' := by
  simp only [applySystemEffects, Option.bind_eq_bind, Option.bind_eq_some_iff, Option.pure_def,
    Option.some.injEq] at h
  obtain ⟨s₁, hepoch, rfl⟩ := h
  refine ((applyEvidence_passes s block).trans (closeEpoch_passes hepoch)).trans ?_
  split
  · exact (adjustBaseFee_passes s₁ _).trans (.of_ledger rfl rfl id)
  · exact .of_ledger rfl rfl id

variable (s)

theorem slashFromReport_passes (report : SlashingReport) : Passes s (s.slashFromReport report) := by
  unfold slashFromReport
  split
  case h_1 hslash =>
    obtain ⟨hbond, hparams⟩ := PermissionlessRegistry.totalBonded_slashFromReport hslash
    exact (Moves.registry (l := 0) (g := 0) hbond hparams).passes le_rfl rfl
  case h_2 => exact Passes.refl s

theorem jail_passes (a : Address) (jailUntil : UInt64) : Passes s (s.jail a jailUntil) := by
  unfold jail
  split
  case h_1 v hget =>
    split
    · exact Passes.refl s
    · exact (Moves.setValidator (l := 0) (g := 0) (by simp [hget])).passes le_rfl rfl
  case h_2 => exact Passes.refl s

theorem applyEpochCloseLiveness_passes (block : Block)
    (preceding : List Block) : Passes s (s.applyEpochCloseLiveness block preceding) := by
  unfold applyEpochCloseLiveness
  split
  · dsimp only
    split
    · refine Passes.trans ?_ (Passes.foldl (fun s r =>
        (slashFromReport_passes s r).trans (jail_passes _ _ _)) _ _)
      exact Passes.of_ledger rfl rfl id
    · exact Passes.of_ledger rfl rfl id
  · exact Passes.refl s

variable {s} {txCount : Nat}

/-- The released amounts leave the bridge and reach their owners. -/
theorem applyBridgeSweepToState_passes (height : UInt64) :
    (applyBridgeSweepToState height).Ensures s fun _ s' => Passes s s' := by
  refine Ensures.get_bind <| Ensures.modify_bind <| Ensures.bind (P := fun _ s' => Moves 0 0 s s' ∧
    s'.apart = s.apart) ?_ fun _ _ h => ensures_pure.2 (h.1.passes le_rfl h.2)
  have hsweep : Moves (releasedTotal (s.bridgeState.sweepExpiredLocks height).2) 0 s
      { s with bridgeState := (s.bridgeState.sweepExpiredLocks height).1 } := by
    have hout := escrowed_sweep s.bridgeState height
    exact Moves.ofBridge (by omega) fun h => (sweep_of_empty h height).1
  -- what is still to be paid out has left the bridge already
  refine ensures_listForM (I := fun rest s' => Moves (releasedTotal rest) 0 s s' ∧
    s'.apart = s.apart) ?_ ⟨hsweep, rfl⟩
  intro ⟨owner, amount⟩ rest s₁ ⟨hmoves, hapart⟩
  refine ensures_mapError.2 ((tryAddBalance_transfers owner amount).mono fun _ s₂ hadd => ?_)
  refine ⟨(hmoves.trans hadd.moves).of_le ?_, hadd.apart.trans hapart⟩
  simp [releasedTotal]
  omega

/-! ### Transactions, fees and actions -/

theorem applyTransactionChecked_keeps (tx : Transaction) :
    (applyTransactionChecked L tx domain).Ensures s fun _ s' => Keeps s s' :=
  Executor.applyTransactionChecked_applies.mono fun _ s' h => by
    obtain ⟨-, -, rfl⟩ | ⟨-, happ⟩ := h
    · exact Keeps.refl _
    · exact happ.keeps

theorem applyBlockChecked_keeps (txs : List Transaction) (producer : Option Address) :
    (applyBlockChecked L domain txs producer).Ensures s fun _ s' => Keeps s s' := by
  refine check_bind fun _ => Ensures.bind (P := fun _ s' => Keeps s s') ?_ fun _ s₁ h₁ =>
    Ensures.bind (P := fun _ s' => Keeps s s') ?_ fun _ s₂ h₂ =>
    Executor.applyDueActions_acts.mono fun _ _ h => h₂.trans h.toKeeps
  · exact ensures_listForM (I := fun _ s' => Keeps s s') (fun tx _ _ h =>
      (applyTransactionChecked_keeps tx).mono fun _ _ h' => h.trans h') (Keeps.refl s)
  · exact ensures_optionForM h₁ fun p _ => ensures_listForM (I := fun _ s' => Keeps s s')
      (fun tx _ _ h => (payProducer_transfers p tx).mono fun _ _ ⟨_, h', _⟩ =>
        h.trans h'.moves.toKeeps) h₁

/-! ### The base fee and the load -/

/-- The base fee rises after a block over the target, falls after an empty one, and does not pass
what governance may set. -/
structure RespondsToLoad (s : AccountState) : Prop where
  rises : ∀ txCount, 50 < txCount →
    s.baseFee = maxBaseFee ∨ s.baseFee < (s.adjustBaseFee txCount).baseFee
  falls : s.baseFee = minTxFee ∨ (s.adjustBaseFee 0).baseFee < s.baseFee
  bounded : ∀ txCount, (s.adjustBaseFee txCount).baseFee ≤ maxBaseFee

theorem toNat_eighth (fee : UInt64) : (fee / 8).toNat = fee.toNat / 8 := UInt64.toNat_div _ _

theorem baseFee_adjust_full {s : AccountState} (hmax : s.baseFee ≤ maxBaseFee)
    (h : 50 < txCount) :
    (s.adjustBaseFee txCount).baseFee.toNat = s.baseFee.toNat + s.baseFee.toNat / 8 := by
  have hfee : s.baseFee.toNat ≤ 1000000 := UInt64.le_iff_toNat_le.1 hmax
  have hsum : (s.baseFee.saturatingAdd (s.baseFee / 8)).toNat =
      s.baseFee.toNat + s.baseFee.toNat / 8 := by
    rw [UInt64.toNat_saturatingAdd, toNat_eighth]
    omega
  have hle : s.baseFee.saturatingAdd (s.baseFee / 8) ≤ 10000000 :=
    UInt64.le_iff_toNat_le.2 (hsum.trans_le (show _ ≤ 10000000 by omega))
  rw [← hsum]
  simp only [adjustBaseFee, h, if_true, min_eq_left hle]

theorem baseFee_adjust_sparse (s : AccountState) (h : txCount < 50) :
    (s.adjustBaseFee txCount).baseFee.toNat = max (s.baseFee.toNat - s.baseFee.toNat / 8) 1 := by
  have hsub : (s.baseFee.saturatingSub (s.baseFee / 8)).toNat =
      s.baseFee.toNat - s.baseFee.toNat / 8 := by
    rw [UInt64.toNat_saturatingSub, toNat_eighth]
  simp only [adjustBaseFee, h, if_true, if_neg (Nat.lt_asymm h)]
  rcases le_total (s.baseFee.saturatingSub (s.baseFee / 8)) 1 with hle | hle
  · rw [max_eq_right hle, max_eq_right (by rwa [← hsub])]
    rfl
  · rw [max_eq_left hle, hsub, max_eq_left (by rwa [← hsub])]

/-- An eighth of a fee below eight is nothing, and governance's ceiling is a tenth of the one the
adjustment has: the fee follows the load only in between. -/
theorem respondsToLoad_iff (s : AccountState) (hmin : minTxFee ≤ s.baseFee)
    (hmax : s.baseFee ≤ maxBaseFee) :
    s.RespondsToLoad ↔ 8 ≤ s.baseFee ∧ s.baseFee ≤ 888889 := by
  have hfee : 1 ≤ s.baseFee.toNat ∧ s.baseFee.toNat ≤ 1000000 :=
    ⟨UInt64.le_iff_toNat_le.1 hmin, UInt64.le_iff_toNat_le.1 hmax⟩
  have hrange : 8 ≤ s.baseFee ∧ s.baseFee ≤ 888889 ↔
      8 ≤ s.baseFee.toNat ∧ s.baseFee.toNat ≤ 888889 :=
    and_congr UInt64.le_iff_toNat_le UInt64.le_iff_toNat_le
  have hceiling : maxBaseFee.toNat = 1000000 := rfl
  rw [hrange]
  constructor
  · rintro ⟨hrises, -, hbounded⟩
    have hle := UInt64.le_iff_toNat_le.1 (hbounded 51)
    have hfull := baseFee_adjust_full hmax (Nat.lt_succ_self 50)
    rw [hfull] at hle
    rcases hrises 51 (Nat.lt_succ_self 50) with heq | hlt
    · rw [heq] at hle
      exact absurd hle (by decide)
    · rw [UInt64.lt_iff_toNat_lt, hfull] at hlt
      exact ⟨by omega, by omega⟩
  · rintro ⟨hlow, hhigh⟩
    refine ⟨fun txCount hfull => .inr ?_, .inr ?_, fun txCount => ?_⟩
    · rw [UInt64.lt_iff_toNat_lt, baseFee_adjust_full hmax hfull]
      omega
    · rw [UInt64.lt_iff_toNat_lt, baseFee_adjust_sparse s (by decide)]
      omega
    · rcases Nat.lt_trichotomy txCount 50 with hsparse | rfl | hfull
      · rw [UInt64.le_iff_toNat_le, baseFee_adjust_sparse s hsparse]
        omega
      · exact hmax
      · rw [UInt64.le_iff_toNat_le, baseFee_adjust_full hmax hfull]
        omega

theorem respondsToLoad_eight : ({ baseFee := 8 } : AccountState).RespondsToLoad :=
  (respondsToLoad_iff { baseFee := 8 } (by decide) (by decide)).2 (by decide)

/-- A full block leaves a fee of seven where it is. -/
theorem fee_of_seven_stalls : ¬ ({ baseFee := 7 } : AccountState).RespondsToLoad := fun h =>
  (h.rises 51 (by decide)).elim (by decide) (by decide)

/-! ### What the effects of a block leave alone

Boosts wait to be shared out, content is stored and tokens are held while epochs close, governance
acts and the bridge pays back: none of that touches the three (`AccountState.apart`).  Content is
pruned by the block itself, boosts are shared out at its end, and tokens are written by transactions
only. -/

open EStateM.Ensures (get_bind modify_bind orThrow_bind set_bind)

variable {s' : AccountState}

/-- What shares out the boosts keeps everything in order and touches nothing apart. -/
def Quiet (s s' : AccountState) : Prop := Keeps s s' ∧ s'.apart = s.apart

theorem Quiet.refl (s : AccountState) : Quiet s s := ⟨.refl s, rfl⟩

theorem Quiet.trans {s₁ : AccountState} (h : Quiet s s₁) (h' : Quiet s₁ s') : Quiet s s' :=
  ⟨h.1.trans h'.1, h'.2.trans h.2⟩

theorem tryAddBalance_quiet (a : Address) (amount : UInt64) :
    (tryAddBalance a amount).Ensures s fun _ s' => Quiet s s' :=
  (tryAddBalance_transfers a amount).mono fun _ _ h => ⟨h.moves.toKeeps, h.apart⟩

theorem payBoostShare_quiet (boostShare totalWeight distributed : UInt64) (deal : Address × UInt64) :
    (payBoostShare boostShare totalWeight distributed deal).Ensures s fun _ s' => Quiet s s' := by
  refine orThrow_bind fun product _ => ensures_ite.2 ⟨fun _ => ?_, fun _ => ?_⟩
  · exact ensures_pure.2 (Quiet.refl s)
  · exact (ensures_mapError.2 (tryAddBalance_quiet deal.1 _)).bind fun _ _ h =>
      ensures_orThrow.2 fun _ _ => h

theorem payBoostShares_quiet (boostShare totalWeight : UInt64) (deals : List (Address × UInt64)) :
    (payBoostShares boostShare totalWeight deals).Ensures s fun _ s' => Quiet s s' := by
  have hfold : ∀ (deals : List (Address × UInt64)) (d : UInt64) (s : AccountState),
      (deals.foldlM (payBoostShare boostShare totalWeight) d).Ensures s fun _ s' => Quiet s s' := by
    intro deals
    induction deals with
    | nil => exact fun d s => ensures_pure.2 (Quiet.refl s)
    | cons deal deals ih =>
      intro d s
      rw [List.foldlM_cons]
      exact (payBoostShare_quiet boostShare totalWeight d deal).bind fun d' s₁ h₁ =>
        (ih d' s₁).mono fun _ _ h₂ => h₁.trans h₂
  refine (hfold deals 0 s).bind fun distributed s₁ h₁ => ensures_ite.2 ⟨fun _ => ?_, fun _ => ?_⟩
  · exact orThrow_bind fun operator _ =>
      (ensures_mapError.2 (tryAddBalance_quiet _ _)).mono fun _ _ h₂ => h₁.trans h₂
  · exact ensures_pure.2 h₁

/-- All boosts are shared out, or none were left. -/
theorem distributeBudBoostShareInState_ensures :
    (distributeBudBoostShareInState s.pendingBudBoostShare).Ensures s fun _ s' =>
      s'.pendingBudBoostShare = 0 ∧ Keeps s s' ∧ s'.apart.2 = s.apart.2 := by
  refine ensures_ite.2 ⟨fun _ => ?_, fun hzero =>
    ensures_pure.2 ⟨not_not.1 hzero, Keeps.refl s, rfl⟩⟩
  refine get_bind <| orThrow_bind fun totalWeight _ =>
    ensures_ite.2 ⟨fun _ => ?_, fun _ => ?_⟩
  · exact (ensures_mapError.2 (payBoostShares_quiet _ _ _)).bind fun _ _ h =>
      ensures_modify.2 ⟨rfl, h.1.trans ⟨id, id⟩, (congrArg Prod.snd h.2 :)⟩
  · exact ensures_modify.2 ⟨rfl, ⟨id, id⟩, rfl⟩

/-! ### The content and the tokens after a block -/

/-- The transactions of a block, one after the other. -/
def transactions (L : Linked) (domain : ConsensusKind) (txs : List Transaction) : Exec Unit :=
  txs.forM fun tx => Executor.applyTransactionChecked L tx domain

/-- No transaction writes the stored content. -/
theorem transactions_storageRegistry (txs : List Transaction) :
    (transactions L domain txs).Ensures s fun _ s' => s'.storageRegistry = s.storageRegistry := by
  refine ensures_listForM (I := fun _ s' => s'.storageRegistry = s.storageRegistry)
    (fun tx _ s₁ h => Executor.applyTransactionChecked_applies.mono fun _ s₂ happlies => ?_) rfl
  obtain ⟨-, -, rfl⟩ | ⟨-, happlies⟩ := happlies
  · exact h
  · exact (congrArg AccountState.storageRegistry happlies.settings).trans h

theorem applyBlockChecked_registries (txs : List Transaction) (producer : Option Address) :
    (applyBlockChecked L domain txs producer).Ensures s fun _ s' => ∃ s₁,
      (transactions L domain txs).run s = .ok () s₁ ∧ s'.apart = s₁.apart := by
  refine check_bind fun _ => Ensures.bind
    (P := fun _ s₁ => (transactions L domain txs).run s = .ok () s₁) (fun _ _ h => h)
    fun _ s₁ h₁ => ?_
  refine Ensures.bind (P := fun _ s₂ => s₂.apart = s₁.apart) ?_ fun _ s₂ h₂ =>
    Executor.applyDueActions_acts.mono fun _ _ h₃ => ⟨s₁, h₁, h₃.apart.trans h₂⟩
  exact ensures_optionForM rfl fun p _ => ensures_listForM (I := fun _ s₂ => apart s₂ = s₁.apart)
    (fun tx _ _ h => (payProducer_transfers p tx).mono fun _ _ ⟨_, h', _⟩ =>
      h'.apart.trans h) rfl

/-- After a block the tokens are those its transactions leave, and the content is pruned of what the
burned tokens named before the block. -/
theorem blockEffects_registries (block : Block) (preceding : List Block) :
    (blockEffects L domain block preceding).Ensures s fun _ s' => ∃ s₁,
      (transactions L domain block.transactions).run { s with currentBlockHeight := block.index } =
        .ok () s₁ ∧
      s'.nftRegistry = s₁.nftRegistry ∧
      s'.storageRegistry = (s.collectNftBurnCidsFromState L block).foldl
        StorageRegistry.pruneContent s.storageRegistry := by
  refine get_bind <| modify_bind ?_
  refine (ensures_mapError.2 (applyBlockChecked_registries _ _)).bind fun _ s₂ ⟨s₁, h₁, h₂⟩ =>
    get_bind <| orThrow_bind fun s₃ h₃ => set_bind ?_
  refine (ensures_mapError.2 (applyBridgeSweepToState_passes block.index)).bind fun _ s₄ h₄ =>
    get_bind <| distributeBudBoostShareInState_ensures.mono fun _ s₅ ⟨_, _, h₅⟩ =>
      ⟨s₁, h₁, ?_⟩
  have hsame : (s₃.applyEpochCloseLiveness block preceding).apart = s₁.apart :=
    (applyEpochCloseLiveness_passes s₃ block preceding).apart.trans
      ((applySystemEffects_passes h₃).apart.trans h₂)
  have hstorage : s₁.storageRegistry = s.storageRegistry :=
    transactions_storageRegistry (s := { s with currentBlockHeight := block.index }) _ () s₁ h₁
  have htail : s₅.apart.2 = _ := h₅.trans (congrArg Prod.snd h₄.apart)
  have hcontent := congrArg (fun p => p.2.1) hsame
  exact ⟨(congrArg Prod.snd htail).trans (congrArg (fun p => p.2.2) hsame),
    (congrArg Prod.fst htail).trans
      (congrArg (List.foldl StorageRegistry.pruneContent · _) (hcontent.trans hstorage))⟩

end AccountState

end Budlum
