import Budlum.Core.Books

/-!
# Epochs

What happens to the account state between blocks of an epoch and at its end: governance proposals
are closed and executed, stake that finished unbonding is released, jailed validators come back,
and the reserve is burned once a year.

None of it creates value: `AccountState.Passes` says what every such step keeps.  However the calls of
the timed burn are spread, the years burned are those due at the latest time (`timedBurn_exact`).
-/

namespace Budlum

open ConstitutionRegistry (setParameter setParameter_fails)

/-- A validator whose time in jail is over comes back. -/
def Validator.released (L : Linked) (chainId epoch : UInt64) (v : Validator) : Validator :=
  if v.jailed && decide (v.jailUntil ≤ epoch) then
    { v with
      jailed := false
      active := decide (0 < v.stake) && !v.slashed && v.isConsensusReady &&
        v.verifyPopIsValid L chainId }
  else v

namespace AccountState

/-! ### Slashing -/

/-- Slash the producers named by evidence of double signing. -/
def applySlashing (evidences : List SlashingEvidence) (slashRatioFixed : UInt64)
    (s : AccountState) : AccountState :=
  (evidences.filterMap (·.header1.producer)).foldl (·.slashValidator · slashRatioFixed) s

/-! ### Unbonding -/

/-- The entry is due in the current epoch. -/
def isReleasable (s : AccountState) (e : UnbondingEntry) : Bool :=
  decide (e.releaseEpoch ≤ s.epochIndex)

/-- The entry fits the balance its address has before anything is released. -/
def fitsBalance (s : AccountState) (e : UnbondingEntry) : Bool :=
  ((s.getBalance e.address).checkedAdd e.amount).isSome

/-- Pay one entry out.  What does not fit any more goes back to the queue. -/
def releaseEntry (s : AccountState) (e : UnbondingEntry) : AccountState :=
  match (tryAddBalance e.address e.amount).run s with
  | .ok _ s' => s'
  | .error _ s' => { s' with
      unbondingQueue := s'.unbondingQueue ++ [⟨e.address, e.amount, s'.epochIndex⟩] }

def processUnbonding (s : AccountState) : AccountState :=
  let kept := s.unbondingQueue.filter fun e => !s.isReleasable e
  let due := s.unbondingQueue.filter s.isReleasable
  let deferred := due.filter fun e => !s.fitsBalance e
  (due.filter s.fitsBalance).foldl releaseEntry { s with unbondingQueue := kept ++ deferred }

/-! ### Proposals -/

/-- A slashing record of the address with the digest a proposal committed to. -/
def evidenceMatches (L : Linked) (s : AccountState) (a : Address) (evidenceHash : Hash32) : Bool :=
  s.registry.slashingHistory.any fun record =>
    decide (record.report.offender = a) && decide (record.report.role = Roles.validator) &&
      decide (L.sha256 (L.encodeReport record.report) = evidenceHash)

/-- Change one parameter of the registry; an invalid value changes nothing. -/
def updateParameter (s : AccountState) (key value : String) : AccountState :=
  match h : s.registry.params.updateByName key value with
  | .ok params => { s with
      registry := s.registry.setParams params (RegistryParams.validate_of_updateByName h) }
  | .error _ => s

/-- The state a fallible change of the constitution leaves behind. -/
def setConstitution (s : AccountState) (parameter : ConstitutionParameter) : AccountState :=
  let c := match (setParameter parameter).run s.governance.constitution with
    | .ok _ c => c
    | .error _ c => c
  { s with governance := { s.governance with constitution := c } }

/-- Carry a proposal out.  A proposal that cannot be carried out any more is dropped. -/
def executeProposal (L : Linked) (s : AccountState) (p : Proposal) : AccountState :=
  match p.pType with
  | .changeBaseFee fee => if fee < minTxFee ∨ maxBaseFee < fee then s else { s with baseFee := fee }
  | .changeBlockReward reward =>
    if reward ≠ 0 then s else { s with tokenomics := { s.tokenomics with blockReward := 0 } }
  | .slashValidator a evidenceHash =>
    if s.evidenceMatches L a evidenceHash then
      match s.validators.get a with
      | some v => s.setValidator a { v with slashed := true, active := false, stake := 0 }
      | none => s
    else s
  | .parameterUpdate key value => s.updateParameter key value
  | .whitelistVerifier a => { s with aiRegistry := s.aiRegistry.whitelistVerifier a }
  | .dewhitelistVerifier a => { s with aiRegistry := s.aiRegistry.dewhitelistVerifier a }
  | .verifyHubApp appId developer manifestId websiteUrlHash =>
    match s.budlumxyz.markVerifiedByProposal L.toCrypto appId developer manifestId websiteUrlHash with
    | .ok hub => { s with budlumxyz := hub }
    | .error _ => s
  | .setEncryptionPolicy policy =>
    match s.marketplace.setEncryptionPolicy policy with
    | .ok marketplace => { s with marketplace := marketplace }
    | .error _ => s
  | .setConstitutionParameter parameter => s.setConstitution parameter
  -- carried out when a block is applied
  | .unfreezeConsensusDomain .. => s

/-! ### The end of an epoch -/

/-- Burn one increment for each outstanding year, until the reserve is empty. -/
def burnYears (reserve : Address) (perYear : UInt64) : Nat → AccountState → AccountState
  | 0, s => s
  | years + 1, s =>
    let (burned, s') := s.burnFrom reserve perYear
    if burned = 0 then s'
    else burnYears reserve perYear years { s' with timedBurn :=
      { s'.timedBurn with totalBurned := s'.timedBurn.totalBurned.saturatingAdd burned } }

def processDueTimedBurn (due : UInt64) (reserve : Address) (s : AccountState) : AccountState :=
  if due ≤ s.timedBurn.yearsBurned then s
  else
    let s' := burnYears reserve s.tokenomics.annualBurnAmount (due - s.timedBurn.yearsBurned).toNat s
    { s' with timedBurn := { s'.timedBurn with yearsBurned := due } }

def processTimedBurn (genesisEpoch : UInt64) (reserve : Address) (s : AccountState) : AccountState :=
  s.processDueTimedBurn (s.timedBurn.dueYears genesisEpoch s.epochIndex s.tokenomics.epochsPerYear)
    reserve

/-- Close the vote on due proposals and carry out those that passed and waited long enough. -/
def executeDueProposals (L : Linked) (totalStake : UInt64) (s : AccountState) : AccountState :=
  let governance := s.governance.finalizeDue totalStake 33 s.epochIndex
  (governance.executable s.epochIndex).foldl
    (fun s p =>
      let s' := s.executeProposal L p
      { s' with governance := s'.governance.markExecuted p.id })
    { s with governance := governance }

/-- The counters of the next epoch. -/
def startEpoch (timestamp : U128) (s : AccountState) : AccountState :=
  { s with
    epochIndex := s.epochIndex.saturatingAdd 1
    lastEpochTime := UInt64.ofNat timestamp.val }

def closeProofMarket (s : AccountState) : AccountState :=
  { s with proofMarket := s.proofMarket.closeEpoch s.epochIndex }

def releaseJailed (L : Linked) (chainId : UInt64) (s : AccountState) : AccountState :=
  { s with validators := s.validators.map fun _ v => v.released L chainId s.epochIndex }

/-- The yearly burn, where a reserve is configured. -/
def burnReserve (s : AccountState) : AccountState :=
  match s.burnReserveAddress with
  | some reserve => s.processTimedBurn 0 reserve
  | none => s

/-- The end of an epoch.  The active stake is summed in a word; `none` when it does not fit. -/
def advanceEpoch (L : Linked) (timestamp : U128) (chainId : UInt64) (s : AccountState) :
    Option AccountState := do
  let totalStake ← s.getTotalStake
  return ((((s.executeDueProposals L totalStake).startEpoch timestamp).processUnbonding
    |>.closeProofMarket).releaseJailed L chainId).burnReserve

/-- Recompute who is admitted to the permissioned domains. -/
def refreshPoaAdmissions (blockIndex : UInt64) (s : AccountState) : AccountState :=
  let (onboarding, admitted) := s.poaOnboarding.refreshAdmissions blockIndex
  { s with poaOnboarding := onboarding, poaAdmitted := admitted }

/-! ### What the steps keep -/

variable {L : Linked} {s : AccountState} (s)

theorem slashValidator_passes (a : Address) (ratio : UInt64) :
    Passes s (s.slashValidator a ratio) := by
  unfold slashValidator
  split
  case h_1 => exact Passes.refl s
  case h_2 v hget =>
    split
    · exact Passes.refl s
    · have hregistry : ∀ r : PermissionlessRegistry,
          r.totalBondedStakeExcluding Roles.validator ≤
            s.registry.totalBondedStakeExcluding Roles.validator → r.params = s.registry.params →
          Passes s { s with
            validators := s.validators.insert a (v.afterSlash ratio s.epochIndex)
            registry := r } := fun r hbond hparams => by
        have hcut : Moves 0 0 s (s.setValidator a (v.afterSlash ratio s.epochIndex)) :=
          Moves.setValidator (by
            simp only [hget, Option.elim_some, Validator.afterSlash, UInt64.toNat_saturatingSub]
            omega)
        exact (hcut.trans (Moves.registry (l := 0) (g := 0) hbond hparams)).passes le_rfl rfl
      cases hslash : s.registry.slash a Roles.validator .doubleSign ratio with
      | error e => exact hregistry _ le_rfl rfl
      | ok r =>
        obtain ⟨hbond, hparams⟩ := PermissionlessRegistry.totalBonded_slash hslash
        exact hregistry _ hbond hparams

/-- An entry that is paid out or put back is accounted for. -/
theorem releaseEntry_moves (e : UnbondingEntry) :
    Moves 0 e.amount.toNat s (s.releaseEntry e) ∧ (s.releaseEntry e).apart = s.apart := by
  unfold releaseEntry
  cases hrun : (tryAddBalance e.address e.amount).run s with
  | ok u s' =>
    have htransfers := tryAddBalance_transfers _ _ u s' hrun
    exact ⟨htransfers.moves, htransfers.apart⟩
  | error message s' =>
    obtain rfl : s' = s.touch e.address := (updateBalance_fails message s' hrun).2
    exact ⟨((Moves.touch s e.address).trans (Moves.unbond _ _)).of_le (by simp), rfl⟩

theorem foldl_releaseEntry_moves (es : List UnbondingEntry) (s : AccountState) :
    Moves 0 (es.map (·.amount.toNat)).sum s (es.foldl releaseEntry s) ∧
      (es.foldl releaseEntry s).apart = s.apart := by
  induction es generalizing s with
  | nil => exact ⟨Moves.refl s, rfl⟩
  | cons e es ih =>
    obtain ⟨hentry, hapart⟩ := releaseEntry_moves s e
    obtain ⟨hrest, hapart'⟩ := ih (s.releaseEntry e)
    exact ⟨hentry.trans hrest, hapart'.trans hapart⟩

/-- Splitting a queue loses no entry. -/
theorem sum_filter_add_sum_filter_not (p : UnbondingEntry → Bool) (es : List UnbondingEntry) :
    ((es.filter p).map (·.amount.toNat)).sum + ((es.filter fun e => !p e).map (·.amount.toNat)).sum =
      (es.map (·.amount.toNat)).sum := by
  induction es with
  | nil => rfl
  | cons e es ih =>
    cases hp : p e <;>
      simp only [List.filter_cons, hp, Bool.not_true, Bool.not_false, if_true, Bool.false_eq_true,
        if_false, List.map_cons, List.sum_cons] <;> omega

theorem processUnbonding_passes : Passes s s.processUnbonding := by
  have hdue := sum_filter_add_sum_filter_not s.isReleasable s.unbondingQueue
  have hfits := sum_filter_add_sum_filter_not s.fitsBalance (s.unbondingQueue.filter s.isReleasable)
  have hqueue : Moves
      (((s.unbondingQueue.filter s.isReleasable).filter s.fitsBalance).map (·.amount.toNat)).sum 0 s
      { s with unbondingQueue := (s.unbondingQueue.filter fun e => !s.isReleasable e) ++
          (s.unbondingQueue.filter s.isReleasable).filter fun e => !s.fitsBalance e } :=
    Moves.unbondingQueue (by
      rw [List.map_append, List.sum_append, totalUnbondingSupply]
      omega)
  obtain ⟨hreleased, hapart⟩ := foldl_releaseEntry_moves _ _
  exact (hqueue.trans hreleased).passes (by omega) hapart

theorem setConstitution_passes (parameter : ConstitutionParameter) :
    Passes s (s.setConstitution parameter) := by
  refine Passes.of_ledger rfl rfl fun h => ⟨h.payloads, ?_⟩
  unfold setConstitution
  cases hvalid : parameter.validateUpdate with
  | error e =>
    have hrun : (setParameter parameter).run s.governance.constitution =
        .error e s.governance.constitution := by
      simp only [setParameter, hvalid]
      rfl
    simpa only [hrun] using h.guardrails
  | ok _ =>
    cases hrun : (setParameter parameter).run s.governance.constitution with
    | ok u c => exact ConstitutionRegistry.setParameter_ensures u c hrun
    | error e c => exact (setParameter_fails hvalid h.guardrails e c hrun).elim

theorem executeProposal_passes (p : Proposal) : Passes s (s.executeProposal L p) := by
  unfold executeProposal
  cases p.pType with
  | changeBaseFee fee | changeBlockReward reward | setEncryptionPolicy policy | verifyHubApp =>
    dsimp only; split <;> exact Passes.of_ledger rfl rfl id
  | slashValidator a evidenceHash =>
    dsimp only
    split
    · split
      case h_1 v hget =>
        exact (Moves.setValidator (l := 0) (g := 0) (by simp [hget])).passes le_rfl rfl
      case h_2 => exact Passes.refl s
    · exact Passes.refl s
  | parameterUpdate key value =>
    dsimp only [updateParameter]
    split
    · exact ⟨⟨⟨id, id⟩, le_rfl⟩, rfl⟩
    · exact Passes.refl s
  | whitelistVerifier a | dewhitelistVerifier a => exact ⟨⟨⟨id, id⟩, le_rfl⟩, rfl⟩
  | setConstitutionParameter parameter => exact setConstitution_passes s parameter
  | unfreezeConsensusDomain => exact Passes.refl s

theorem executeDueProposals_passes (totalStake : UInt64) (s : AccountState) :
    Passes s (s.executeDueProposals L totalStake) := by
  have hclose : Passes s
      { s with governance := s.governance.finalizeDue totalStake 33 s.epochIndex } :=
    Passes.of_ledger rfl rfl fun h => h.map fun p => GovernanceState.pType_finalize p _ _ _
  refine hclose.trans (Passes.foldl (fun s p => ?_) _ _)
  exact (executeProposal_passes s p).trans
    (Passes.of_ledger rfl rfl fun h => h.updateProposal fun q hq => h.payloads q hq)

theorem burnFrom_passes (a : Address) (amount : UInt64) : Passes s (s.burnFrom a amount).2 := by
  unfold burnFrom
  split
  · exact Passes.refl s
  · refine (Moves.setBalance s a _).passes ?_ rfl
    rw [UInt64.toNat_sub_of_le _ _ (min_le_right _ _)]
    exact Nat.sub_le _ _

theorem burnYears_passes (reserve : Address) (perYear : UInt64) (years : Nat)
    (s : AccountState) : Passes s (burnYears reserve perYear years s) := by
  induction years generalizing s with
  | zero => exact Passes.refl s
  | succ years ih =>
    have hburn := burnFrom_passes s reserve perYear
    unfold burnYears
    dsimp only
    split
    · exact hburn
    · refine hburn.trans ?_
      generalize (s.burnFrom reserve perYear).2 = s'
      refine Passes.trans ?_ (ih _)
      exact Passes.of_ledger rfl rfl id

theorem processTimedBurn_passes (genesisEpoch : UInt64) (reserve : Address) (s : AccountState) :
    Passes s (s.processTimedBurn genesisEpoch reserve) := by
  unfold processTimedBurn processDueTimedBurn
  split
  · exact Passes.refl s
  · exact (burnYears_passes _ _ _ s).trans (Passes.of_ledger rfl rfl id)

theorem closeProofMarket_passes : Passes s s.closeProofMarket :=
  Passes.of_ledger rfl rfl id

theorem releaseJailed_passes (chainId : UInt64) : Passes s (s.releaseJailed L chainId) := by
  have hstake : ∀ v : Validator, (v.released L chainId s.epochIndex).stake = v.stake := fun v => by
    unfold Validator.released
    split <;> rfl
  have hsum : (s.validators.map fun _ v => v.released L chainId s.epochIndex).sumBy
      (fun _ v => v.stake.toNat) = s.totalStakedSupply := by
    simp only [OrdMap.sumBy_map, hstake, totalStakedSupply]
  exact (Moves.validators (l := 0) (g := 0) hsum.le).passes le_rfl rfl

theorem burnReserve_passes : Passes s s.burnReserve := by
  unfold burnReserve
  split
  · exact processTimedBurn_passes 0 _ s
  · exact Passes.refl s

variable {s}

/-- **An epoch creates no value.** -/
theorem advanceEpoch_passes {timestamp : U128} {chainId : UInt64} {s' : AccountState}
    (h : s.advanceEpoch L timestamp chainId = some s') : Passes s s' := by
  simp only [advanceEpoch, Option.bind_eq_bind, Option.bind_eq_some_iff, Option.pure_def,
    Option.some.injEq] at h
  obtain ⟨totalStake, -, rfl⟩ := h
  have hstart : Passes s ((s.executeDueProposals L totalStake).startEpoch timestamp) :=
    (executeDueProposals_passes totalStake s).trans (Passes.of_ledger rfl rfl id)
  have hunbond := hstart.trans (processUnbonding_passes _)
  have hmarket := hunbond.trans (closeProofMarket_passes _)
  exact (hmarket.trans (releaseJailed_passes _ chainId)).trans (burnReserve_passes _)

/-! ### The timed burn over a schedule of calls -/

/-- The amount was burned, as far as the reserve went, and what it lost was counted. -/
structure Burned (reserve : Address) (amount : Nat) (s s' : AccountState) : Prop where
  balance : (s'.getBalance reserve).toNat = (s.getBalance reserve).toNat - amount
  counted : s'.timedBurn.totalBurned.toNat = min (s.timedBurn.totalBurned.toNat +
    ((s.getBalance reserve).toNat - (s'.getBalance reserve).toNat)) 18446744073709551615
  tokenomics : s'.tokenomics = s.tokenomics

variable {reserve : Address} {s₁ s₂ : AccountState} {amount amount' : Nat}

theorem Burned.refl (reserve : Address) (s : AccountState) : Burned reserve 0 s s := by
  have := s.timedBurn.totalBurned.toNat_lt
  exact ⟨rfl, by omega, rfl⟩

theorem Burned.trans (h : Burned reserve amount s s₁) (h' : Burned reserve amount' s₁ s₂) :
    Burned reserve (amount + amount') s s₂ := by
  have := h.balance
  have := h.counted
  have := h'.balance
  have := h'.counted
  exact ⟨by omega, by omega, h'.tokenomics.trans h.tokenomics⟩

theorem getBalance_burnFrom (a : Address) (amount : UInt64) (s : AccountState) :
    ((s.burnFrom a amount).2.getBalance a).toNat = (s.getBalance a).toNat - amount.toNat := by
  unfold burnFrom
  split_ifs with hzero
  · simp [hzero]
  · simp only [setBalance, getBalance_setAccount, if_true,
      UInt64.toNat_sub_of_le _ _ (min_le_right _ _), UInt64.toNat_min]
    omega

theorem burnYears_burned (reserve : Address) (perYear : UInt64) (years : Nat) (s : AccountState) :
    Burned reserve (years * perYear.toNat) s (burnYears reserve perYear years s) := by
  induction years generalizing s with
  | zero => simpa [burnYears] using Burned.refl reserve s
  | succ years ih =>
    obtain ⟨hcount, htokenomics, -⟩ := burnFrom_frame s reserve perYear
    have hpaid : (s.burnFrom reserve perYear).1.toNat =
        min perYear.toNat (s.getBalance reserve).toNat := by rw [burnFrom_fst, UInt64.toNat_min]
    have hbalance := getBalance_burnFrom reserve perYear s
    unfold burnYears
    dsimp only
    split_ifs with hnone
    · -- nothing is due, or nothing is left: the remaining years burn nothing either
      rw [hnone, eq_comm, UInt64.toNat_zero, Nat.min_eq_zero_iff] at hpaid
      have := s.timedBurn.totalBurned.toNat_lt
      refine ⟨?_, by rw [hcount]; omega, htokenomics⟩
      rcases hpaid with hdue | hleft
      · simp [hdue, hbalance]
      · omega
    · rw [Nat.succ_mul, Nat.add_comm]
      refine Burned.trans ?_ (ih _)
      refine ⟨hbalance, (UInt64.toNat_saturatingAdd _ _).trans ?_, htokenomics⟩
      change _ = min (_ + (_ - ((s.burnFrom reserve perYear).2.getBalance reserve).toNat)) _
      rw [hcount, hpaid, hbalance]
      omega

theorem processDueTimedBurn_burned (due : UInt64) (reserve : Address) (s : AccountState) :
    (s.processDueTimedBurn due reserve).timedBurn.yearsBurned = max s.timedBurn.yearsBurned due ∧
      Burned reserve ((due.toNat - s.timedBurn.yearsBurned.toNat) *
        s.tokenomics.annualBurnAmount.toNat) s (s.processDueTimedBurn due reserve) := by
  unfold processDueTimedBurn
  split_ifs with h
  · rw [Nat.sub_eq_zero_of_le (UInt64.le_iff_toNat_le.1 h), Nat.zero_mul]
    exact ⟨(max_eq_left h).symm, .refl reserve s⟩
  · have hle := (not_le.1 h).le
    rw [← UInt64.toNat_sub_of_le _ _ hle]
    have hburned := burnYears_burned reserve s.tokenomics.annualBurnAmount
      (due - s.timedBurn.yearsBurned).toNat s
    exact ⟨(max_eq_right hle).symm, hburned.balance, hburned.counted, hburned.tokenomics⟩

theorem dueYears_mono (b : TimedBurnState) (genesis period : UInt64) :
    Monotone fun time => b.dueYears genesis time period := by
  intro time time' h
  simp only [TimedBurnState.dueYears]
  split_ifs
  · exact le_rfl
  · simp only [UInt64.le_iff_toNat_le, UInt64.toNat_div, UInt64.toNat_saturatingSub] at h ⊢
    exact Nat.div_le_div_right (Nat.sub_le_sub_right h _)

theorem sub_add_max_sub (a b c : UInt64) : b.toNat - a.toNat + ((max (max a b) c).toNat -
    (max a b).toNat) = (max (max a b) c).toNat - a.toNat := by
  simp only [max_def, UInt64.le_iff_toNat_le]
  split_ifs <;> omega

/-- **The burn follows the schedule.**  After calls at any times, in any order and number, the years
burned are those due at the latest of them, and the reserve lost their amounts or all it held. -/
theorem timedBurn_exact (genesis period : UInt64) (reserve : Address) (times : List UInt64)
    (s : AccountState) :
    let after := times.foldl (fun s time =>
      s.processDueTimedBurn (s.timedBurn.dueYears genesis time period) reserve) s
    let years := max s.timedBurn.yearsBurned
      (s.timedBurn.dueYears genesis (times.foldr max 0) period)
    after.timedBurn.yearsBurned = years ∧
      Burned reserve ((years.toNat - s.timedBurn.yearsBurned.toNat) *
        s.tokenomics.annualBurnAmount.toNat) s after := by
  induction times generalizing s with
  | nil =>
    have hdue : s.timedBurn.dueYears genesis 0 period ≤ s.timedBurn.yearsBurned := by
      simp [TimedBurnState.dueYears, UInt64.le_iff_toNat_le, apply_ite, UInt64.toNat_saturatingSub]
    simpa [max_eq_left hdue] using Burned.refl reserve s
  | cons time times ih =>
    set due := s.timedBurn.dueYears genesis time period
    obtain ⟨hyears, hburned⟩ := processDueTimedBurn_burned due reserve s
    obtain ⟨hyears', hburned'⟩ := ih (s.processDueTimedBurn due reserve)
    have hmax : s.timedBurn.dueYears genesis ((time :: times).foldr max 0) period =
        max due (s.timedBurn.dueYears genesis (times.foldr max 0) period) :=
      (dueYears_mono s.timedBurn genesis period).map_max
    have hsum := hburned.trans hburned'
    rw [hburned.tokenomics, ← Nat.add_mul] at hsum
    rw [hyears] at hyears' hsum
    rw [sub_add_max_sub] at hsum
    dsimp only
    rw [hmax, ← max_assoc]
    exact ⟨hyears', hsum⟩

end AccountState

end Budlum
