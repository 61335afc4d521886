import Budlum.Chain.BlockEffects

/-!
# The two copies of a validator's stake

A validator's stake is stored with the validator and again as its bond in the table of roles.
`Stake`, `Unstake` and a slash for double signing write both.  The other writers know one copy: a
governance proposal empties the validator's stake only, a slashing report and the liveness penalty
cut the bond only, and the table of roles refuses a second slash and keeps no entry for a stake of
zero or below its minimum.

* `StakeStep.WritesBoth` : the step writes the same stake to both copies.
* `StakeStep.run_mirrored` : **as long as every step writes both copies, they agree.**
-/

namespace Budlum

open OrdMap
open Roles (validator)

/-! ### The table of roles -/

theorem roleKey_inj {role role' : RoleId} {a a' : Address} :
    roleKey role a = roleKey role' a' ↔ role = role' ∧ a = a' := by
  simp [roleKey]

namespace PermissionlessRegistry

variable {reg reg' : PermissionlessRegistry} {a b : Address} {role role' : RoleId}

/-- The stake recorded for a validator. -/
def bond (reg : PermissionlessRegistry) (a : Address) : Option UInt64 :=
  (reg.get a validator).map (·.stake)

variable (reg)

theorem get_store (r : Registration) (a : Address) (role : RoleId) : (reg.store r).get a role =
      if role = r.role ∧ a = r.account then some r else reg.get a role := by
  simp only [store, get, get_insert, roleKey_inj]

theorem get_remove (a b : Address) (role role' : RoleId) : (reg.remove role a).get b role' =
      if role' = role ∧ b = a then none else reg.get b role' := by
  simp only [remove, get, get_erase, roleKey_inj]

variable {reg} {condition : SlashingCondition} {ratio : UInt64}

/-- A slash cuts every role of the account that is not slashed yet, and nothing else. -/
theorem get_slash {outcome : SlashOutcome}
    (h : reg.slash a role condition ratio = .ok (outcome, reg')) (b : Address) (role' : RoleId) :
    reg'.get b role' = if b = a then
      (reg.get b role').map fun r => if r.status = .slashed then r else cut r ratio
    else reg.get b role' := by
  simp only [slash, slashRoleOnly, Except.ok_iff] at h
  obtain ⟨⟨outcome', reg₁⟩, ⟨r, hget, -, hactive, -, rfl⟩, -, rfl⟩ := h
  obtain ⟨rfl, rfl⟩ := role_of_get hget
  have hcut : (cut r ratio).role = r.role ∧ (cut r ratio).account = r.account := ⟨rfl, rfl⟩
  rw [show (((reg.store (cut r ratio)).slashCrossRole r.account r.role ratio).get b role') =
    ((reg.store (cut r ratio)).get b role').map fun e =>
      if b = r.account ∧ role' ≠ r.role ∧ e.status ≠ .slashed then cut e ratio else e from
    get_map _ _ _, get_store, hcut.1, hcut.2]
  by_cases hb : b = r.account
  · subst hb
    by_cases hrole : role' = r.role
    · -- the role itself is cut first, and the sweep over the others passes it by
      subst hrole
      simp [hget, hactive]
    · simp only [hrole, false_and, if_false, if_true, true_and, ne_eq, not_false_eq_true, ite_not]
  · simp [hb]

theorem slash_eq_ok {outcome : SlashOutcome}
    (h : reg.slash a role condition ratio = .ok (outcome, reg')) : ∃ r, reg.get a role = some r ∧
    r.status ≠ .slashed ∧ reg'.params = reg.params := by
  simp only [slash, slashRoleOnly, Except.ok_iff] at h
  obtain ⟨⟨outcome', reg₁⟩, ⟨r, hget, -, hactive, -, rfl⟩, -, rfl⟩ := h
  exact ⟨r, hget, hactive, rfl⟩

theorem slash_eq_error {e : RegistryError} (h : reg.slash a role condition ratio = .error e) : ∀ r,
    reg.get a role = some r → r.status = .slashed := by
  intro r hget
  by_contra hactive
  simp [slash, slashRoleOnly, hget, hactive, Except.ofOption, Except.ensure, bind, Except.bind,
    pure, Except.pure] at h

/-- `upsertStake` leaves an entry with the stake. -/
def recordsStake (reg : PermissionlessRegistry) (a : Address) (total : UInt64) : Prop :=
  match reg.get a validator with
  | some r => r.status = .slashed ∨ total ≠ 0
  | none => reg.params.minStake ≤ total

theorem bond_upsertStake_of_ne (total epoch : UInt64) (h : b ≠ a) :
    (reg.upsertStake a validator total epoch).bond b = reg.bond b := by
  have hstore : ∀ r : Registration, r.account = a → (reg.store r).bond b = reg.bond b := by
    intro r hr
    rw [bond, get_store, if_neg (fun hb => h (hb.2.trans hr)), bond]
  unfold upsertStake
  split
  · rename_i r hget
    obtain ⟨-, haccount⟩ := role_of_get hget
    split_ifs
    · exact hstore _ haccount
    · rw [bond, get_remove, if_neg (fun hb => h hb.2), bond]
    · exact hstore _ haccount
  · split_ifs
    · exact hstore _ rfl
    · rfl

variable {total : UInt64}

/-- The entry `upsertStake` leaves behind. -/
theorem get_upsertStake (epoch : UInt64) (h : reg.recordsStake a total) : ∃ r,
    (reg.upsertStake a validator total epoch).get a validator = some r ∧ r.stake = total
    ∧ (r.status = .slashed ∨ total ≠ 0) := by
  unfold recordsStake at h
  unfold upsertStake
  cases hget : reg.get a validator with
  | some r =>
    obtain ⟨hrole, haccount⟩ := role_of_get hget
    simp only [hget] at h ⊢
    refine ⟨{ r with stake := total }, ?_, rfl, h⟩
    split_ifs with hslashed hzero
    · rw [get_store, if_pos ⟨hrole.symm, haccount.symm⟩]
    · exact absurd hzero (h.resolve_left hslashed)
    · rw [get_store, if_pos ⟨hrole.symm, haccount.symm⟩]
  | none =>
    simp only [hget] at h ⊢
    rw [if_pos h]
    refine ⟨_, by rw [get_store, if_pos ⟨rfl, rfl⟩], rfl, .inr ?_⟩
    rintro rfl
    have hmin := RegistryParams.minStake_pos reg.paramsValid
    exact absurd (UInt64.le_iff_toNat_le.1 h) (by simpa using Nat.not_le.2 hmin)

theorem bond_upsertStake (epoch : UInt64) (h : reg.recordsStake a total) :
    (reg.upsertStake a validator total epoch).bond a = some total := by
  obtain ⟨r, hget, hstake, -⟩ := get_upsertStake epoch h
  rw [bond, hget, Option.map_some, hstake]

theorem recordsStake_upsertStake (epoch : UInt64) (h : reg.recordsStake a total) :
    (reg.upsertStake a validator total epoch).recordsStake a total := by
  obtain ⟨r, hget, -, hkept⟩ := get_upsertStake epoch h
  rwa [recordsStake, hget]

end PermissionlessRegistry

/-! ### The two copies -/

namespace AccountState

variable {L : Linked} {domain : ConsensusKind} {s s' : AccountState} {tx : Transaction}

/-- The stake stored with a validator; zero without one. -/
def stakeOf (s : AccountState) (a : Address) : UInt64 := (s.validators.get a).elim 0 (·.stake)

/-- Every validator has a bond of its stake. -/
def Mirrored (s : AccountState) : Prop :=
  ∀ a v, s.validators.get a = some v → s.registry.bond a = some v.stake

/-- Neither copy is written. -/
structure SameRoles (s s' : AccountState) : Prop where
  validators : s'.validators = s.validators
  registry : s'.registry = s.registry

theorem SameRoles.trans {s₁ : AccountState} (h : SameRoles s s₁) (h' : SameRoles s₁ s') :
    SameRoles s s' :=
  ⟨h'.validators.trans h.validators, h'.registry.trans h.registry⟩

theorem SameRoles.mirrored (h : SameRoles s s') (hs : s.Mirrored) : s'.Mirrored := by
  intro a v hv
  rw [h.validators] at hv
  rw [h.registry]
  exact hs a v hv

/-- Whoever agrees everywhere else agrees everywhere once one validator is synchronised. -/
theorem mirrored_sync {a : Address}
    (hs : ∀ b v, b ≠ a → s.validators.get b = some v → s.registry.bond b = some v.stake)
    (ha : s.registry.recordsStake a (s.stakeOf a)) :
    (s.syncValidatorRegistration a).Mirrored := by
  intro b v hv
  replace hv : s.validators.get b = some v := hv
  by_cases hb : b = a
  · subst hb
    have hstake : s.stakeOf b = v.stake := by rw [stakeOf, hv]; rfl
    exact (PermissionlessRegistry.bond_upsertStake s.epochIndex ha).trans (congrArg some hstake)
  · exact (PermissionlessRegistry.bond_upsertStake_of_ne _ _ hb).trans (hs b v hb hv)

/-- Everyone but `a` is as before, and `a` is about to be synchronised with a stake that leaves an
entry. -/
structure Restaked (a : Address) (s s' : AccountState) : Prop where
  validators : ∀ b, b ≠ a → s'.validators.get b = s.validators.get b
  bonds : ∀ b, b ≠ a → s'.registry.bond b = s.registry.bond b
  recorded : s'.registry.recordsStake a (s'.stakeOf a)

theorem Restaked.sync {a : Address} (h : Restaked a s s') (hs : s.Mirrored) :
    (s'.syncValidatorRegistration a).Mirrored :=
  mirrored_sync (fun b v hb hv => (h.bonds b hb).trans (hs b v (h.validators b hb ▸ hv))) h.recorded

theorem Restaked.setValidator {a : Address} {v : Validator}
    (h : s.registry.recordsStake a v.stake) : Restaked a s (s.setValidator a v) where
  validators b hb := get_insert_of_ne _ hb _
  bonds _ _ := rfl
  recorded := by simpa [stakeOf, AccountState.setValidator] using h

end AccountState

namespace Executor

open AccountState EStateM

variable {L : Linked} {domain : ConsensusKind} {s s' : AccountState} {tx : Transaction}

theorem debit_sameRoles (a : Address) (amount : UInt64) (message : String) :
    (debit a amount message).Ensures s fun _ s' => SameRoles s s' :=
  updateBalance_ensures.2 fun _ _ => ⟨rfl, rfl⟩

theorem chargeFee_sameRoles (tx : Transaction) (message : String) :
    (chargeFee tx message).Ensures s fun _ s' => SameRoles s s' :=
  (debit_sameRoles _ _ _).bind fun _ _ h => ensures_modify.2 ⟨h.validators, h.registry⟩

theorem raiseStake_restaked
    (h : s.registry.recordsStake tx.sender (s.stakeOf tx.sender + tx.amount)) :
    (raiseStake tx).Ensures s fun _ s' => Restaked tx.sender s s' := by
  refine Ensures.get_bind ?_
  cases hget : s.validators.get tx.sender with
  | some v =>
    refine require_bind fun stake hstake => ensures_modify.2 (Restaked.setValidator ?_)
    have htotal : stake = v.stake + tx.amount := by
      rw [UInt64.checkedAdd_eq_some] at hstake
      have hlt := stake.toNat_lt
      rw [← UInt64.toNat_inj, UInt64.toNat_add]
      omega
    simpa [htotal, stakeOf, hget] using h
  | none =>
    have htotal : s.registry.recordsStake tx.sender tx.amount := by simpa [stakeOf, hget] using h
    refine Ensures.modify_bind (ensures_modify.2 ⟨?_, ?_, ?_⟩)
    · intro b hb
      simp [addValidator, syncValidatorRegistration, setValidator, get_insert_of_ne _ hb]
    · intro b hb
      exact PermissionlessRegistry.bond_upsertStake_of_ne _ _ hb
    · have hkept := PermissionlessRegistry.recordsStake_upsertStake s.epochIndex htotal
      simpa [addValidator, syncValidatorRegistration, setValidator, stakeOf] using hkept

theorem applyStake_mirrored (hs : s.Mirrored)
    (h : s.registry.recordsStake tx.sender (s.stakeOf tx.sender + tx.amount)) :
    (applyStake tx).Ensures s fun _ s' => s'.Mirrored :=
  Ensures.get_bind <| check_bind fun _ => (debit_sameRoles _ _ _).bind fun _ s₁ hdebit =>
    bump_bind <| by
      have hsame : SameRoles s (s₁.bumpNonce tx.sender) := ⟨hdebit.validators, hdebit.registry⟩
      have hrecords : (s₁.bumpNonce tx.sender).registry.recordsStake tx.sender
          ((s₁.bumpNonce tx.sender).stakeOf tx.sender + tx.amount) := by
        rwa [stakeOf, hsame.validators, hsame.registry]
      exact (raiseStake_restaked hrecords).bind fun _ _ hstaked =>
        ensures_modify.2 (hstaked.sync (hsame.mirrored hs))

theorem applyUnstake_mirrored (hs : s.Mirrored)
    (h : s.registry.recordsStake tx.sender (s.stakeOf tx.sender - tx.amount)) :
    (applyUnstake tx).Ensures s fun _ s' => s'.Mirrored := by
  refine Ensures.get_bind <| require_bind fun v hget => check_bind fun hle =>
    Ensures.modify_bind <| require_bind fun stake hstake => Ensures.modify_bind <|
    Ensures.modify_bind <| Ensures.modify_bind ?_
  have htotal : stake = v.stake - tx.amount := by
    rw [UInt64.checkedSub_eq_some] at hstake
    rw [decide_eq_true_eq, UInt64.le_iff_toNat_le] at hle
    rw [← UInt64.toNat_inj, UInt64.toNat_sub_of_le _ _ (UInt64.le_iff_toNat_le.2 hle)]
    omega
  refine (chargeFee_sameRoles tx _).mono fun _ _ hfee => hfee.mirrored ?_
  have hrecords : s.registry.recordsStake tx.sender stake := by
    simpa [htotal, stakeOf, hget] using h
  have hset := Restaked.setValidator (s := s)
    (v := { v with stake := stake, active := v.active && decide (stake ≠ 0) }) hrecords
  exact Restaked.sync ⟨hset.validators, hset.bonds, hset.recorded⟩ hs

/-- The frame of every transaction writes neither copy. -/
theorem applyTransactionChecked_mirrored (hs : s.Mirrored)
    (h : ∀ s₁, SameRoles s s₁ → s₁.Mirrored →
      (applyKind L tx domain).Ensures s₁ fun _ s' => s'.Mirrored) :
    (applyTransactionChecked L tx domain).Ensures s fun _ s' => s'.Mirrored := by
  unfold applyTransactionChecked
  split
  · exact ensures_ensure.2 fun _ => hs
  · refine Ensures.get_bind <| check_bind fun _ => checkFloor_bind <| Ensures.modify_bind <|
      Ensures.get_bind <| check_bind fun _ => ?_
    have hsame : SameRoles s (s.touch tx.sender) := ⟨rfl, rfl⟩
    exact h _ hsame (hsame.mirrored hs)

end Executor

namespace AccountState

variable {L : Linked} {s s' : AccountState}

/-! ### Slashes -/

/-- A slash for double signing cuts the bond by what it cuts from the stake. -/
def slashCutsBoth (s : AccountState) (a : Address) (ratio : UInt64) : Prop :=
  ∀ v r, s.validators.get a = some v → v.slashed = false →
    s.registry.get a validator = some r → r.status = .slashed → slashPenalty v.stake ratio = 0

theorem slashValidator_mirrored {a : Address} {ratio : UInt64} (hs : s.Mirrored)
    (h : s.slashCutsBoth a ratio) : (s.slashValidator a ratio).Mirrored := by
  unfold slashValidator
  split
  · exact hs
  · rename_i v hget
    split_ifs with hslashed
    · exact hs
    · intro b u hb
      simp only [get_insert] at hb
      obtain ⟨r, hr, hstake⟩ := Option.map_eq_some_iff.1 (hs a v hget)
      split at hb
      case isFalse hne =>
        -- another account: its validator and its bond are as before
        refine Eq.trans ?_ (hs b u hb)
        split
        · rename_i outcome reg hslash
          rw [PermissionlessRegistry.bond, PermissionlessRegistry.get_slash hslash, if_neg hne,
            PermissionlessRegistry.bond]
        · rfl
      case isTrue heq =>
        subst heq
        obtain rfl := Option.some.inj hb
        dsimp only [Validator.afterSlash]
        split
        · rename_i outcome reg hslash
          rw [PermissionlessRegistry.bond, PermissionlessRegistry.get_slash hslash, if_pos rfl, hr]
          dsimp only [Option.map_some]
          split_ifs with hdead
          · rw [h v r hget (Bool.eq_false_iff.2 hslashed) hr hdead, hstake, UInt64.saturatingSub_zero]
          · rw [← hstake]
            rfl
        · rename_i e hslash
          have hdead := PermissionlessRegistry.slash_eq_error hslash r hr
          rw [h v r hget (Bool.eq_false_iff.2 hslashed) hr hdead, UInt64.saturatingSub_zero]
          exact hs b v hget

/-- The report cuts no bond of a validator. -/
def sparesBond (s : AccountState) (report : SlashingReport) : Prop :=
  ∀ r bond, s.validators.contains report.offender → report.isActionable = .ok () →
    s.registry.get report.offender report.role = some r → r.status ≠ .slashed →
    s.registry.get report.offender validator = some bond → bond.status ≠ .slashed →
    slashPenalty bond.stake (s.registry.params.slashRatio report.proof.condition) = 0

/-- What an actionable report does to the table of roles. -/
theorem slashFromReport_cases (s : AccountState) (report : SlashingReport) :
    s.slashFromReport report = s ∨
      ∃ r, report.isActionable = .ok () ∧
        s.registry.get report.offender report.role = some r ∧ r.status ≠ .slashed ∧
        (s.slashFromReport report).validators = s.validators ∧
        (s.slashFromReport report).registry.params = s.registry.params ∧
        ∀ b role, (s.slashFromReport report).registry.get b role =
          if b = report.offender then (s.registry.get b role).map fun r =>
            if r.status = .slashed then r
            else PermissionlessRegistry.cut r
              (s.registry.params.slashRatio report.proof.condition)
          else s.registry.get b role := by
  unfold slashFromReport
  cases hreport : s.registry.slashFromReport report with
  | error e => exact .inl rfl
  | ok result =>
    obtain ⟨outcome, registry⟩ := result
    simp only [PermissionlessRegistry.slashFromReport, Except.bind_eq_ok] at hreport
    obtain ⟨_, haction, hreport⟩ := hreport
    split at hreport
    · rename_i out reg hslash
      obtain ⟨-, rfl⟩ := hreport
      obtain ⟨r, hget, hactive, hparams⟩ := PermissionlessRegistry.slash_eq_ok hslash
      exact .inr ⟨r, haction, hget, hactive, rfl, hparams,
        fun b role => (PermissionlessRegistry.get_slash hslash b role : reg.get b role = _)⟩
    · obtain ⟨-, rfl⟩ := hreport
      exact .inl rfl

variable {report : SlashingReport}

theorem slashFromReport_mirrored (hs : s.Mirrored) (h : s.sparesBond report) :
    (s.slashFromReport report).Mirrored := by
  obtain heq | ⟨r, haction, hget, hactive, hvalidators, -, hregistry⟩ :=
    slashFromReport_cases s report
  · rwa [heq]
  · intro b v hv
    rw [hvalidators] at hv
    rw [PermissionlessRegistry.bond, hregistry]
    split_ifs with hb
    · subst hb
      obtain ⟨bond, hbond, hstake⟩ := Option.map_eq_some_iff.1 (hs _ v hv)
      rw [hbond, Option.map_some, Option.map_some, ← hstake]
      split_ifs with hdead
      · rfl
      · have hcontains := OrdMap.contains_iff.2 ⟨v, hv⟩
        rw [PermissionlessRegistry.cut, h r bond hcontains haction hget hactive hbond hdead,
          UInt64.saturatingSub_zero]
    · exact hs b v hv

/-- A report that spares a bond is not made to cut it by another one. -/
theorem sparesBond_slashFromReport {report' : SlashingReport} (h' : s.sparesBond report') :
    (s.slashFromReport report).sparesBond report' := by
  obtain heq | ⟨r, haction, hget, hactive, hvalidators, hparams, hregistry⟩ :=
    slashFromReport_cases s report
  · rwa [heq]
  · intro r' bond hcontains haction' hget' hactive' hbond hactive''
    rw [hregistry] at hget' hbond
    rw [hvalidators] at hcontains
    rw [hparams]
    split_ifs at hget' hbond with hsame
    · -- every role of the offender is slashed by now
      obtain ⟨bond₀, -, rfl⟩ := Option.map_eq_some_iff.1 hbond
      exact absurd (by split_ifs with hdead <;> [exact hdead; rfl]) hactive''
    · exact h' r' bond hcontains haction' hget' hactive' hbond hactive''

/-- Jailing writes neither copy of the stake. -/
theorem jail_mirrored (a : Address) (until' : UInt64) (hs : s.Mirrored) :
    (s.jail a until').Mirrored := by
  unfold jail
  split
  · rename_i v hget
    split_ifs
    · exact hs
    · intro b u hb
      obtain ⟨rfl, rfl⟩ | ⟨-, hb⟩ := OrdMap.get_insert_eq_some.1 hb
      · exact hs b v hget
      · exact hs b u hb
  · exact hs

theorem sparesBond_jail (a : Address) (until' : UInt64) (h : s.sparesBond report) :
    (s.jail a until').sparesBond report := by
  unfold jail
  split
  · rename_i v hget
    split_ifs
    · exact h
    · intro r bond hcontains
      refine h r bond ?_
      obtain ⟨u, hu⟩ := OrdMap.contains_iff.1 hcontains
      obtain ⟨rfl, -⟩ | ⟨-, hu⟩ := OrdMap.get_insert_eq_some.1 hu
      · exact OrdMap.contains_iff.2 ⟨v, hget⟩
      · exact OrdMap.contains_iff.2 ⟨u, hu⟩
  · exact h

/-- The penalties of an epoch, one report after the other. -/
theorem foldl_penalty_mirrored (until' : UInt64) (reports : List SlashingReport)
    (hs : s.Mirrored) (h : ∀ r ∈ reports, s.sparesBond r) :
    (reports.foldl (fun s r => (s.slashFromReport r).jail r.offender until') s).Mirrored :=
  (reports.foldlRecOn (motive := fun s : AccountState => s.Mirrored ∧ ∀ r ∈ reports, s.sparesBond r) _ ⟨hs, h⟩
    fun _ hs r hr => ⟨jail_mirrored _ _ (slashFromReport_mirrored hs.1 (hs.2 r hr)),
      fun r' hr' => sparesBond_jail _ _ (sparesBond_slashFromReport (hs.2 r' hr'))⟩).1

/-- The reports the end of an epoch acts on. -/
def livenessReports (block : Block) (preceding : List Block) (s : AccountState) :
    List SlashingReport :=
  if block.closesEpoch ∧ s.registry.params.livenessSlashingEnabled then
    (s.liveness.recordEpoch ((block.index / epochLenForChainId block.chainId).saturatingSub 1)
      ((s.validators.entries.map (·.1)).filter fun a => s.registry.isActive a validator)
      (fun a => decide (a ∈ epochProducers block preceding)) s.registry.params).2
  else []

theorem applyEpochCloseLiveness_mirrored {block : Block} {preceding : List Block}
    (hs : s.Mirrored) (h : ∀ r ∈ s.livenessReports block preceding, s.sparesBond r) :
    (s.applyEpochCloseLiveness block preceding).Mirrored := by
  unfold livenessReports at h
  unfold applyEpochCloseLiveness
  split_ifs with hclose
  · dsimp only
    split_ifs with henabled
    · rw [if_pos ⟨hclose, henabled⟩] at h
      exact foldl_penalty_mirrored _ _ (s := { s with liveness := _ }) hs h
    · exact hs
  · exact hs

/-! ### Proposals and unbonding -/

/-- The proposal empties no validator's stake. -/
def proposalSparesStake (L : Linked) (s : AccountState) (p : Proposal) : Prop :=
  ∀ a evidenceHash, p.pType = .slashValidator a evidenceHash →
    s.evidenceMatches L a evidenceHash → s.stakeOf a = 0

theorem executeProposal_mirrored {p : Proposal} (hs : s.Mirrored)
    (h : s.proposalSparesStake L p) : (s.executeProposal L p).Mirrored := by
  unfold executeProposal
  cases htype : p.pType with
  | slashValidator a evidenceHash =>
    dsimp only
    split_ifs with hmatch
    · split
      · rename_i v hget
        have hzero : v.stake = 0 := by simpa [stakeOf, hget] using h a evidenceHash htype hmatch
        intro b u hb
        obtain ⟨rfl, rfl⟩ | ⟨-, hb⟩ := OrdMap.get_insert_eq_some.1 hb
        · exact (hs b v hget).trans (congrArg some hzero)
        · exact hs b u hb
      · exact hs
    · exact hs
  | parameterUpdate key value =>
    dsimp only [updateParameter]
    split <;> exact hs
  | changeBaseFee fee | changeBlockReward reward => dsimp only; split_ifs <;> exact hs
  | verifyHubApp appId developer manifestId websiteUrlHash | setEncryptionPolicy policy =>
    dsimp only; split <;> exact hs
  | whitelistVerifier a | dewhitelistVerifier a | setConstitutionParameter parameter
  | unfreezeConsensusDomain domain validatorSetHash => exact hs

theorem releaseEntry_sameRoles (s : AccountState) (e : UnbondingEntry) :
    SameRoles s (s.releaseEntry e) := by
  unfold releaseEntry
  cases hrun : (tryAddBalance e.address e.amount).run s with
  | ok u s' =>
    exact updateBalance_ensures (Q := fun _ s' => SameRoles s s').2 (fun _ _ => ⟨rfl, rfl⟩) u s' hrun
  | error message s' =>
    obtain rfl : s' = s.touch e.address := (updateBalance_fails message s' hrun).2
    exact ⟨rfl, rfl⟩

theorem processUnbonding_sameRoles (s : AccountState) : SameRoles s s.processUnbonding :=
  List.foldlRecOn (motive := SameRoles s) _ _ ⟨rfl, rfl⟩ fun s' h e _ =>
    h.trans (releaseEntry_sameRoles s' e)

end AccountState

/-! ### Runs -/

open AccountState Executor

/-- A writer of one copy of the stakes or of both. -/
inductive StakeStep where
  | stake (tx : Transaction)
  | unstake (tx : Transaction)
  | slashValidator (a : Address) (slashRatioFixed : UInt64)
  | proposal (p : Proposal)
  | liveness (block : Block) (preceding : List Block)
  | report (report : SlashingReport)
  | processUnbonding

namespace StakeStep

variable (L : Linked) (domain : ConsensusKind)

/-- The step leads from `s` to `s'`. -/
def Takes (s s' : AccountState) : StakeStep → Prop
  | stake tx =>
    tx.txType = .stake ∧ (applyTransactionChecked L tx domain).run s = .ok () s'
  | unstake tx =>
    tx.txType = .unstake ∧ (applyTransactionChecked L tx domain).run s = .ok () s'
  | slashValidator a slashRatioFixed => s' = s.slashValidator a slashRatioFixed
  | proposal p => s' = s.executeProposal L p
  | liveness block preceding => s' = s.applyEpochCloseLiveness block preceding
  | report r => s' = s.slashFromReport r
  | processUnbonding => s' = s.processUnbonding

/-- The step writes the same stake to both copies. -/
def WritesBoth (s : AccountState) : StakeStep → Prop
  | stake tx => s.registry.recordsStake tx.sender (s.stakeOf tx.sender + tx.amount)
  | unstake tx => s.registry.recordsStake tx.sender (s.stakeOf tx.sender - tx.amount)
  | slashValidator a slashRatioFixed => s.slashCutsBoth a slashRatioFixed
  | proposal p => s.proposalSparesStake L p
  | liveness block preceding => ∀ r ∈ s.livenessReports block preceding, s.sparesBond r
  | report r => s.sparesBond r
  | processUnbonding => True

variable {L domain} {s s' : AccountState}

theorem Takes.mirrored {step : StakeStep} (h : step.Takes L domain s s')
    (hboth : step.WritesBoth L s) (hs : s.Mirrored) : s'.Mirrored := by
  cases step with
  | stake tx =>
    refine applyTransactionChecked_mirrored hs (fun s₁ hsame hs₁ => ?_) () s' h.2
    rw [applyKind, h.1]
    refine applyStake_mirrored hs₁ ?_
    rwa [stakeOf, hsame.validators, hsame.registry]
  | unstake tx =>
    refine applyTransactionChecked_mirrored hs (fun s₁ hsame hs₁ => ?_) () s' h.2
    rw [applyKind, h.1]
    refine applyUnstake_mirrored hs₁ ?_
    rwa [stakeOf, hsame.validators, hsame.registry]
  | slashValidator a slashRatioFixed => exact h ▸ slashValidator_mirrored hs hboth
  | proposal p => exact h ▸ executeProposal_mirrored hs hboth
  | liveness block preceding => exact h ▸ applyEpochCloseLiveness_mirrored hs hboth
  | report r => exact h ▸ slashFromReport_mirrored hs hboth
  | processUnbonding => exact h ▸ (processUnbonding_sameRoles s).mirrored hs

/-- **As long as every step writes both copies, they agree.** -/
theorem run_mirrored (hs : s.Mirrored)
    (hrun : Relation.ReflTransGen
      (fun s s' => ∃ step : StakeStep, step.Takes L domain s s' ∧ step.WritesBoth L s) s s') :
    s'.Mirrored := by
  induction hrun with
  | refl => exact hs
  | tail _ hstep ih =>
    obtain ⟨step, htakes, hboth⟩ := hstep
    exact htakes.mirrored hboth ih

/-- An account that can stake. -/
def unstaked : AccountState := AccountState.setAccount {} 1 ⟨5000, 0⟩

def staked : AccountState :=
  ((unstaked.setAccount 1 ⟨3999, 1⟩).setValidator 1
    { address := 1, stake := 1000, active := false }).syncValidatorRegistration 1

theorem unstaked_mirrored : unstaked.Mirrored := by
  intro a v hv
  simp [unstaked, AccountState.setAccount] at hv

theorem takes_stake : (stake { Transaction.sample 1 0 .stake with amount := 1000 }).Takes
    Linked.sample .poS unstaked staked :=
  ⟨rfl, rfl⟩

theorem run_mirrored_staked : staked.Mirrored ∧ staked.validators.contains 1 = true :=
  ⟨run_mirrored unstaked_mirrored (.single ⟨_, takes_stake, show (1000 : UInt64) ≤ 1000 by decide⟩), by decide⟩

/-- A report of double signing cuts the bond and leaves the stake. -/
def doubleSigned : StakeStep :=
  .report ⟨1, validator, .doubleSign 7 "a" "b" [1] [2], .consensusVerified, none⟩

theorem report_cuts_bond_only :
    ∃ s' : AccountState, Relation.ReflTransGen (fun s s' => ∃ step : StakeStep,
      step.Takes Linked.sample .poS s s') unstaked s' ∧
      s'.stakeOf 1 = 1000 ∧ s'.registry.bond 1 = some 500 ∧ ¬s'.Mirrored := by
  refine ⟨_, .tail (.single ⟨_, takes_stake⟩) ⟨doubleSigned, rfl⟩, by decide, by decide, ?_⟩
  exact fun h => absurd (h 1 _ rfl) (by decide)

end StakeStep

end Budlum
