import Budlum.Chain.Blockchain

/-!
# Progress

Applying a block runs governance actions, epoch hooks, bridge refunds and the distribution of
boosts, and the error of any of them is an error of the block.  None of them fails on a state that
blocks lead to: every action was checked when it was proposed, the bridge is empty, and no boosts
are left over.

`Blockchain.Reached.applyBlockEffects_empty`: **on every state reached from genesis by accepted
blocks, an empty block applies without an error.**
-/

namespace Budlum

open Executor GovernanceState

namespace AccountState

open EStateM

variable {L : Linked} {domain : ConsensusKind} {s : AccountState}

/-! ### Governance actions -/

/-- An action that was checked when it was proposed can be carried out. -/
theorem applyAction_fails {p : ProposalType} {action : GovernanceAction}
    (hpayload : validatePayload p = .ok ()) (haction : p.action = some action)
    (hguard : s.governance.constitution.assertHardGuardrails = .ok ()) :
    (applyAction action).Fails s fun _ _ => False := by
  cases p with
  | whitelistVerifier a | dewhitelistVerifier a | unfreezeConsensusDomain d setHash justification =>
    obtain rfl := Option.some.inj haction
    exact fails_modify
  | setEncryptionPolicy policy =>
    obtain rfl := Option.some.inj haction
    have hset : s.marketplace.setEncryptionPolicy policy = .ok { s.marketplace with
        encryptionPolicies := s.marketplace.encryptionPolicies.insert policy.version policy } :=
      Except.bind_eq_ok.2 ⟨(), hpayload, rfl⟩
    simp [applyAction, lift, hset, Except.mapError]
  | setConstitutionParameter parameter =>
    obtain rfl := Option.some.inj haction
    exact fails_zoom.2 (ConstitutionRegistry.setParameter_fails hpayload hguard)
  | _ => cases haction

/-- Every action that is due can be carried out. -/
theorem applyDueActions_fails (hg : s.governance.WellFormed) :
    Executor.applyDueActions.Fails s fun _ _ => False := by
  let Proposed (actions : List GovernanceAction) : Prop := ∀ action ∈ actions,
    ∃ p, validatePayload p = .ok () ∧ p.action = some action
  refine fails_bind.2 ⟨fails_get, ensures_get.2 (fails_bind.2 ⟨fails_modify, ensures_modify.2 ?_⟩)⟩
  refine fails_listForM (I := fun actions s' => Proposed actions ∧ s'.governance.WellFormed) ?_ ?_ ?_
  · intro action actions s₁ ⟨hproposed, hwf⟩
    exact (applyAction_acts action).mono fun _ _ h =>
      ⟨fun a ha => hproposed a (List.mem_cons_of_mem _ ha), h.governance hwf⟩
  · intro action actions s₁ ⟨hproposed, hwf⟩
    obtain ⟨p, hpayload, haction⟩ := hproposed action List.mem_cons_self
    exact applyAction_fails hpayload haction hwf.guardrails
  · refine ⟨fun action haction => ?_, hg.executePassedProposals _⟩
    obtain ⟨p, hp, hact⟩ := exists_of_mem_actions haction
    exact ⟨p.pType, hg.payloads p hp, hact⟩

/-! ### Bridge refunds -/

theorem applyBridgeSweepToState_fails (hbridge : s.bridgeState.transfers = ∅) (height : UInt64) :
    (applyBridgeSweepToState height).Fails s fun _ _ => False := by
  have hnone := (BridgeState.sweep_of_empty hbridge height).2
  simp [applyBridgeSweepToState, hnone, List.forM_eq_forM]

/-! ### States that blocks lead to -/

/-- What every state that blocks lead to has in common: proposals that can be carried out, an empty
bridge, and no boosts left over. -/
structure Sound (s : AccountState) : Prop where
  governance : s.governance.WellFormed
  bridge : s.bridgeState.transfers = ∅
  boosts : s.pendingBudBoostShare = 0

theorem sound_buildState (g : GenesisConfig) : Sound (g.buildState L) := by
  have hfresh := GenesisConfig.untouched_buildState L g
  refine ⟨?_, hfresh.transfers, hfresh.pendingBudBoostShare⟩
  rw [hfresh.governance]
  exact wellFormed_default

/-- The effects of a block lead from one such state to the next. -/
theorem blockEffects_sound (hs : Sound s) (block : Block) (preceding : List Block) :
    (blockEffects L domain block preceding).Ensures s fun _ s' => Sound s' := by
  refine Ensures.get_bind <| Ensures.modify_bind ?_
  refine (ensures_mapError.2 (applyBlockChecked_keeps block.transactions block.producer)).bind
    fun _ s₁ h₁ => Ensures.get_bind <| Ensures.orThrow_bind fun s₂ h₂ => Ensures.set_bind ?_
  have h₃ : Keeps s₁ ((s₂.applyEpochCloseLiveness block preceding).pruneBurned
      (s.collectNftBurnCidsFromState L block)) :=
    (applySystemEffects_passes h₂).toKeeps.trans
      ((applyEpochCloseLiveness_passes s₂ block preceding).toKeeps.trans ⟨id, id⟩)
  refine (ensures_mapError.2 (applyBridgeSweepToState_passes block.index)).bind fun _ s₄ h₄ =>
    Ensures.get_bind <| distributeBudBoostShareInState_ensures.mono fun _ s₅ ⟨hboosts, h₅, _⟩ => ?_
  have hkeeps : Keeps s s₅ := Keeps.trans ⟨h₁.governance, h₁.bridge⟩ (h₃.trans (h₄.toKeeps.trans h₅))
  exact ⟨hkeeps.governance hs.governance, hkeeps.bridge hs.bridge, hboosts⟩

variable {block : Block}

theorem applyBlockEffects_sound {preceding : List Block} {s' : AccountState}
    (h : s.applyBlockEffects L domain block preceding = .ok s') (hs : Sound s) : Sound s' :=
  blockEffects_sound hs block preceding () s' (applyBlockEffects_eq_ok.1 h)

/-! ### Empty blocks -/

theorem activeStake_le (s : AccountState) :
    ((s.validators.values.filter Validator.counts).map (·.stake.toNat)).sum ≤ s.totalStakedSupply := by
  rw [totalStakedSupply, OrdMap.sumBy, OrdMap.values]
  have hsub := (List.filter_sublist (p := Validator.counts)
    (l := s.validators.entries.map Prod.snd)).map fun v => v.stake.toNat
  simpa [Function.comp_def] using hsub.sum_le_sum (by simp)

theorem totalStakedSupply_le (s : AccountState) : s.totalStakedSupply ≤ s.totalHeld := by
  simp only [totalHeld, totalBudCommitted]
  omega

/-- The active stake is part of what is held. -/
theorem getTotalStake_eq_none (h : s.getTotalStake = none) :
    UInt64.maxValue.toNat < s.totalHeld := by
  rw [getTotalStake, UInt64.ofNat?_eq_none] at h
  rw [UInt64.toNat_maxValue]
  exact Nat.lt_of_lt_of_le h ((activeStake_le s).trans (totalStakedSupply_le s))

theorem applySystemEffects_eq_none (h : s.applySystemEffects L block = none) : UInt64.maxValue.toNat
    < s.totalHeld := by
  simp only [applySystemEffects, Option.bind_eq_bind, Option.bind_eq_none_iff, Option.pure_def,
    reduceCtorEq, imp_false] at h
  have hclose : (s.applyEvidence block).closeEpoch L block = none :=
    Option.eq_none_iff_forall_ne_some.2 h
  refine (getTotalStake_eq_none (s := s.applyEvidence block) ?_).trans_le
    (applyEvidence_passes s block).held
  unfold closeEpoch advanceEpoch at hclose
  split at hclose
  · cases hstake : (s.applyEvidence block).getTotalStake with
    | none => rfl
    | some stake => simp [hstake] at hclose
  · cases hclose

theorem applyBlockChecked_nil (producer : Option Address) :
    applyBlockChecked L domain [] producer = applyDueActions := by
  cases producer <;> rfl

/-- The only thing that can stop an empty block is an active stake beyond a word. -/
theorem blockEffects_fails (hs : Sound s) (hempty : block.transactions = [])
    (preceding : List Block) : (blockEffects L domain block preceding).Fails s fun e _ => e = .panic
    ∧ UInt64.maxValue.toNat < s.totalHeld := by
  rw [blockEffects, hempty, applyBlockChecked_nil]
  refine (Ends.get_bind (Q := fun _ _ => True) (.modify_bind ?_)).2
  generalize hs₀ : ({ s with currentBlockHeight := block.index } : AccountState) = s₀
  have hsound : Sound s₀ := hs₀ ▸ ⟨hs.governance, hs.bridge, hs.boosts⟩
  have hheld : s₀.totalHeld = s.totalHeld := hs₀ ▸ rfl
  rw [← hheld]
  refine .bind (.mapError ⟨applyDueActions_acts, fun e s' h =>
    (applyDueActions_fails hsound.governance e s' h).elim⟩) fun _ s₁ h₁ => ?_
  refine .get_bind (.orThrow_bind (fun hnone => ?_) fun s₂ h₂ => .set_bind ?_)
  · -- the epoch closes on a state that holds no more than the state before the block
    exact ⟨rfl, (applySystemEffects_eq_none hnone).trans_le h₁.held⟩
  generalize hs₃ : (s₂.applyEpochCloseLiveness block preceding).pruneBurned
    (s.collectNftBurnCidsFromState L block) = s₃
  have hbridge : s₃.bridgeState.transfers = ∅ := by
    rw [← hs₃]
    exact (applyEpochCloseLiveness_passes s₂ block preceding).bridge
      ((applySystemEffects_passes h₂).bridge (h₁.bridge hsound.bridge))
  have hboosts : s₃.pendingBudBoostShare = 0 := by
    have happart : (s₂.applyEpochCloseLiveness block preceding).apart = s₀.apart :=
      (applyEpochCloseLiveness_passes s₂ block preceding).apart.trans
        ((applySystemEffects_passes h₂).apart.trans h₁.apart)
    rw [← hs₃]
    exact (congrArg Prod.fst happart).trans hsound.boosts
  refine .bind (.mapError ⟨applyBridgeSweepToState_passes block.index, fun e s' h =>
    (applyBridgeSweepToState_fails hbridge block.index e s' h).elim⟩) fun _ s₄ h₄ => ?_
  have hdone : s₄.pendingBudBoostShare = 0 := (congrArg Prod.fst h₄.apart).trans hboosts
  refine .get_bind ⟨fun _ _ _ => trivial, ?_⟩
  rw [hdone]
  simp [distributeBudBoostShareInState]

end AccountState

/-! ### Every node -/

namespace Blockchain

open AccountState

variable {N : NodeLinks} {bc bc' : Blockchain}

/-- The nodes that start from a genesis and take blocks, from outside or their own. -/
inductive Reached (N : NodeLinks) : Blockchain → Prop
  | genesis (consensus : ConsensusEngine) (chainId : UInt64) (g : GenesisConfig)
      (domains : ConsensusDomainRegistry) (pool : MempoolConfig) :
      Reached N (.new N consensus chainId g domains pool)
  | accept {bc bc' : Blockchain} {now : U128} {b : Block} {burned : List ContentId}
      (h : Reached N bc) (hb : bc.validateAndAddBlock N now b = .ok (burned, bc')) : Reached N bc'
  | produce {bc bc' : Blockchain} {now : U128} {producer : Address} {out : Block × List ContentId}
      (h : Reached N bc) (hb : (produceBlock N now producer).run bc = .ok out bc') : Reached N bc'

theorem sound_commitBlock {s : AccountState} (hs : Sound s) (b : Block) :
    Sound (bc.commitBlock N b s).state :=
  ⟨hs.governance, hs.bridge, hs.boosts⟩

theorem sound_withBlockRoots {s : AccountState} (hs : Sound s) : Sound (bc.withBlockRoots N s) :=
  ⟨hs.governance, hs.bridge, hs.boosts⟩

theorem Reached.sound (h : Reached N bc) : Sound bc.state := by
  induction h with
  | genesis consensus chainId g domains pool =>
    have hs := sound_buildState (L := N.toLinked) g
    exact ⟨hs.governance, hs.bridge, hs.boosts⟩
  | @accept bc _ now b _ _ hb ih =>
    obtain ⟨s, hacc, -, rfl⟩ := (validateAndAddBlock_eq_ok N bc).1 hb
    have hs := applyBlockEffects_sound hacc.effects ih
    refine sound_commitBlock ?_ b
    unfold committedState
    split
    · exact hs
    · exact sound_withBlockRoots hs
  | @produce bc _ now producer out _ hb ih =>
    obtain ⟨draft, previewed, s, e, e', hprod, -, rfl⟩ := produceBlock_ensures N bc now producer _ _ hb
    exact sound_commitBlock (N := N)
      (sound_withBlockRoots (applyBlockEffects_sound hprod.effects ih)) out.1

end Blockchain

end Budlum
