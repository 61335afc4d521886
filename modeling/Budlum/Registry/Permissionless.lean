import Budlum.Registry.Params

/-!
# The permissionless registry

One table of bonded roles, keyed by role and account.  A registration is active, unbonding until
an epoch, or slashed; the slashing history keeps the reports that cut a bond.

The registry carries two invariants as fields: an entry's role and account are those of its key,
and the parameters pass `RegistryParams.validate`, which every path that stores parameters calls
first.  The accounting lemmas at the end say how each operation moves the total bonded outside
one role, which is the part of the supply the registry holds.
-/

namespace Budlum

open Except (ensure ofOption ok_iff)

/-! ### Roles and evidence -/

abbrev RoleId := UInt32

namespace Roles

def validator : RoleId := 1
def verifier : RoleId := 2
def relayer : RoleId := 3
def prover : RoleId := 4
def storageOperator : RoleId := 5
def aiVerifier : RoleId := 6
def attester : RoleId := 7
def aiOperator : RoleId := 8
def contentValidator : RoleId := 9

/-- The printed name of a role. -/
def display (r : RoleId) : String :=
  if r = validator then "validator"
  else if r = verifier then "master_verifier"
  else if r = relayer then "relayer"
  else if r = prover then "prover"
  else if r = storageOperator then "storage_operator"
  else if r = aiVerifier then "ai_verifier"
  else if r = attester then "attester"
  else if r = aiOperator then "ai_operator"
  else if r = contentValidator then "content_validator"
  else s!"role#{r}"

end Roles

/-- Who vouches for a proof. -/
inductive ProofProvenance where
  | consensusVerified
  | unverified
  deriving DecidableEq, Repr

/-- What a slashing report shows. -/
inductive SlashingProof where
  | doubleSign (height : UInt64) (blockHash1 blockHash2 : String) (signature1 signature2 : Bytes)
  | liveness (windowStartEpoch windowEndEpoch missed expected : UInt64)
  | other (tag : String) (data : Bytes)
  | invalidSignatureSpam (epoch count threshold : UInt64)
  deriving DecidableEq, Repr

def SlashingProof.condition : SlashingProof → SlashingCondition
  | doubleSign .. => .doubleSign
  | liveness .. => .livenessFault
  | other .. => .maliciousBehaviour
  | invalidSignatureSpam .. => .maliciousBehaviour

structure SlashingReport where
  offender : Address
  role : RoleId
  proof : SlashingProof
  provenance : ProofProvenance
  reporter : Option Address
  deriving DecidableEq, Repr

/-- Why a report is refused. -/
inductive EvidenceError where
  | zeroOffender
  | nonConflictingHashes
  | missingSignature
  | impossibleLivenessWindow
  | emptyProofTag
  | insufficientInvalidVoteCount
  | unverified
  deriving DecidableEq, Repr

namespace SlashingReport

variable (r : SlashingReport)

/-- A liveness report the consensus layer vouches for. -/
def consensusLiveness (offender : Address) (role : RoleId)
    (windowStartEpoch windowEndEpoch missed expected : UInt64) (reporter : Option Address) :
    SlashingReport :=
  ⟨offender, role, .liveness windowStartEpoch windowEndEpoch missed expected, .consensusVerified,
    reporter⟩

/-- The shape a proof must have to mean anything. -/
def validateShape : Except EvidenceError Unit := do
  ensure (decide (r.offender ≠ Address.zero)) .zeroOffender
  match r.proof with
  | .doubleSign _ h1 h2 s1 s2 =>
    ensure (decide (h1 ≠ h2)) .nonConflictingHashes
    ensure (!s1.isEmpty && !s2.isEmpty) .missingSignature
  | .liveness _ _ missed expected =>
    ensure (decide (missed ≤ expected)) .impossibleLivenessWindow
  | .other tag _ => ensure (!tag.isEmpty) .emptyProofTag
  | .invalidSignatureSpam _ count threshold =>
    ensure (decide (threshold ≠ 0 ∧ threshold ≤ count)) .insufficientInvalidVoteCount

/-- A well-shaped report somebody vouches for. -/
def isActionable : Except EvidenceError Unit := do
  r.validateShape
  match r.provenance with
  | .consensusVerified => .ok ()
  | .unverified => .error .unverified

end SlashingReport

/-! ### Registrations -/

/-- The state of a registration. -/
inductive MemberStatus where
  | active
  | unbonding (releaseEpoch : UInt64)
  | slashed
  deriving DecidableEq, Repr

/-- One bonded role of one account. -/
structure Registration where
  account : Address
  role : RoleId
  stake : UInt64
  status : MemberStatus
  registeredEpoch : UInt64
  deriving DecidableEq, Repr

namespace Registration

/-- Active with a bond. -/
def isActive (r : Registration) : Bool := decide (r.status = .active) && decide (0 < r.stake)

/-- Not slashed yet, with a bond that can still be cut. -/
def isSlashable (r : Registration) : Bool :=
  (match r.status with
    | .active | .unbonding _ => true
    | .slashed => false) && decide (0 < r.stake)

end Registration

/-- Why the registry refuses an operation. -/
inductive RegistryError where
  | insufficientStake (required provided : UInt64)
  | alreadyRegistered (account : Address) (role : RoleId)
  | notRegistered (account : Address) (role : RoleId)
  | notActive (account : Address) (role : RoleId)
  | stillUnbonding (releaseEpoch currentEpoch : UInt64)
  | relayerNotActive (account : Address)
  | alreadySlashed (account : Address) (role : RoleId)
  deriving DecidableEq, Repr

def RegistryError.display : RegistryError → String
  | insufficientStake r p => s!"insufficient stake: required {r}, provided {p}"
  | alreadyRegistered a r => toHex a ++ " already registered as " ++ Roles.display r
  | notRegistered a r => toHex a ++ " is not registered as " ++ Roles.display r
  | notActive a r => toHex a ++ " is not active as " ++ Roles.display r
  | stillUnbonding e c => s!"stake still unbonding until epoch {e} (now {c})"
  | relayerNotActive a => toHex a ++ " is not an active relayer (register with stake first)"
  | alreadySlashed a r => toHex a ++ " is already slashed as " ++ Roles.display r

structure SlashOutcome where
  condition : SlashingCondition
  penalty : UInt64
  remainingStake : UInt64
  deriving DecidableEq, Repr

/-- A report that cut a bond. -/
structure SlashingRecord where
  report : SlashingReport
  penalty : UInt64
  remainingStake : UInt64
  deriving DecidableEq, Repr

/-- How many slashing records are kept. -/
def maxSlashingHistory : Nat := 4096

/-- Keys of the table: role first, then account. -/
abbrev RoleKey := RoleId ×ₗ Address

def roleKey (role : RoleId) (account : Address) : RoleKey := toLex (role, account)

/-- The registry of bonded roles. -/
structure PermissionlessRegistry where
  registrations : OrdMap RoleKey Registration
  params : RegistryParams
  /-- The latest slashing records, oldest first. -/
  slashingHistory : List SlashingRecord
  /-- An entry's role and account are those of its key. -/
  keyed : ∀ k r, registrations.get k = some r → roleKey r.role r.account = k
  /-- The parameters are within bounds. -/
  paramsValid : params.validate = .ok ()

namespace PermissionlessRegistry

/-- The empty registry with the default parameters. -/
def new : PermissionlessRegistry where
  registrations := ∅
  params := RegistryParams.default
  slashingHistory := []
  keyed := fun _ _ h => by simp at h
  paramsValid := RegistryParams.validate_default

instance : Inhabited PermissionlessRegistry := ⟨new⟩

variable (reg : PermissionlessRegistry)

/-- Store validated parameters. -/
def setParams (params : RegistryParams) (h : params.validate = .ok ()) : PermissionlessRegistry :=
  { reg with params := params, paramsValid := h }

def store (r : Registration) : PermissionlessRegistry :=
  { reg with
    registrations := reg.registrations.insert (roleKey r.role r.account) r
    keyed := fun k r' h => by
      rw [OrdMap.get_insert] at h
      split_ifs at h with hk
      · cases h; exact hk.symm
      · exact reg.keyed k r' h }

def remove (role : RoleId) (account : Address) : PermissionlessRegistry :=
  { reg with
    registrations := reg.registrations.erase (roleKey role account)
    keyed := fun k r' h => by
      rw [OrdMap.get_erase] at h
      split_ifs at h
      exact reg.keyed k r' h }

def get (account : Address) (role : RoleId) : Option Registration :=
  reg.registrations.get (roleKey role account)

def isActive (account : Address) (role : RoleId) : Bool :=
  (reg.get account role).any Registration.isActive

/-- The account holds the relayer role with a bond that can be cut. -/
def isActiveRelayer (account : Address) : Bool :=
  (reg.get account Roles.relayer).any Registration.isSlashable

def ensureActiveRelayer (account : Address) : Except RegistryError Unit :=
  ensure (reg.isActiveRelayer account) (.relayerNotActive account)

/-- Bond `stake` in a new role. -/
def register (account : Address) (role : RoleId) (stake currentEpoch : UInt64) :
    Except RegistryError PermissionlessRegistry := do
  ensure (decide (reg.params.minStake ≤ stake))
    (.insufficientStake reg.params.minStake stake)
  ensure (reg.get account role).isNone (.alreadyRegistered account role)
  return reg.store ⟨account, role, stake, .active, currentEpoch⟩

def registerAiOperator (account : Address) (stake currentEpoch : UInt64) :
    Except RegistryError PermissionlessRegistry :=
  reg.register account Roles.aiOperator stake currentEpoch

/-- Mirror a stake kept elsewhere into the table. -/
def upsertStake (account : Address) (role : RoleId) (totalStake currentEpoch : UInt64) :
    PermissionlessRegistry :=
  match reg.get account role with
  | some r =>
    if r.status = .slashed then reg.store { r with stake := totalStake }
    else if totalStake = 0 then reg.remove role account
    else reg.store { r with stake := totalStake }
  | none =>
    if reg.params.minStake ≤ totalStake then
      reg.store ⟨account, role, totalStake, .active, currentEpoch⟩
    else reg

/-- Start unbonding; the stake can leave at the returned epoch. -/
def beginUnbonding (account : Address) (role : RoleId) (currentEpoch : UInt64) :
    Except RegistryError (UInt64 × PermissionlessRegistry) := do
  let r ← ofOption (reg.get account role) (.notRegistered account role)
  ensure (decide (r.status = .active)) (.notActive account role)
  let releaseEpoch := currentEpoch.saturatingAdd reg.params.unbondingEpochs
  return (releaseEpoch, reg.store { r with status := .unbonding releaseEpoch })

/-- Remove a role whose unbonding is over and return its stake. -/
def withdraw (account : Address) (role : RoleId) (currentEpoch : UInt64) :
    Except RegistryError (UInt64 × PermissionlessRegistry) := do
  let r ← ofOption (reg.get account role) (.notRegistered account role)
  match r.status with
  | .unbonding releaseEpoch =>
    ensure (decide (releaseEpoch ≤ currentEpoch)) (.stillUnbonding releaseEpoch currentEpoch)
    return (r.stake, reg.remove role account)
  | _ => .error (.notActive account role)

/-- A registration after a cut. -/
def cut (r : Registration) (slashRatioFixed : UInt64) : Registration :=
  { r with
    stake := r.stake.saturatingSub (slashPenalty r.stake slashRatioFixed), status := .slashed }

/-- Cut one role of an account. -/
def slashRoleOnly (account : Address) (role : RoleId) (condition : SlashingCondition)
    (slashRatioFixed : UInt64) : Except RegistryError (SlashOutcome × PermissionlessRegistry) := do
  let r ← ofOption (reg.get account role) (.notRegistered account role)
  ensure (decide (r.status ≠ .slashed)) (.alreadySlashed account role)
  let r' := cut r slashRatioFixed
  return (⟨condition, slashPenalty r.stake slashRatioFixed, r'.stake⟩, reg.store r')

/-- Cut every other role of an account that is not slashed yet. -/
def slashCrossRole (account : Address) (primaryRole : RoleId) (slashRatioFixed : UInt64) :
    PermissionlessRegistry :=
  { reg with
    registrations := reg.registrations.map fun k r =>
      if (ofLex k).2 = account ∧ (ofLex k).1 ≠ primaryRole ∧ r.status ≠ .slashed then
        cut r slashRatioFixed
      else r
    keyed := fun k r' h => by
      rw [OrdMap.get_map, Option.map_eq_some_iff] at h
      obtain ⟨r, hr, rfl⟩ := h
      have := reg.keyed k r hr
      split_ifs
      · exact this
      · exact this }

/-- Cut a role and, with it, every other role of the account. -/
def slash (account : Address) (role : RoleId) (condition : SlashingCondition)
    (slashRatioFixed : UInt64) : Except RegistryError (SlashOutcome × PermissionlessRegistry) := do
  let (outcome, reg') ← reg.slashRoleOnly account role condition slashRatioFixed
  return (outcome, reg'.slashCrossRole account role slashRatioFixed)

/-- Append a record, keeping the latest `maxSlashingHistory`. -/
def recordSlash (r : SlashingRecord) : PermissionlessRegistry :=
  { reg with slashingHistory :=
      ((reg.slashingHistory ++ [r]).reverse.take maxSlashingHistory).reverse }

/-- Slash on a report.  A report the registry refuses cuts nothing and is not an error. -/
def slashFromReport (report : SlashingReport) :
    Except EvidenceError (Option SlashOutcome × PermissionlessRegistry) := do
  report.isActionable
  let condition := report.proof.condition
  match reg.slash report.offender report.role condition (reg.params.slashRatio condition) with
  | .ok (outcome, reg') =>
    return (some outcome, reg'.recordSlash ⟨report, outcome.penalty, outcome.remainingStake⟩)
  | .error _ => return (none, reg)

def bondOutside (excludedRole : RoleId) (r : Registration) : Nat :=
  if r.role ≠ excludedRole then r.stake.toNat else 0

/-- The stake bonded in roles other than the excluded one. -/
def totalBondedStakeExcluding (excludedRole : RoleId) : Nat :=
  reg.registrations.sumBy fun _ r => bondOutside excludedRole r

/-- Anything differs from the empty registry. -/
def hasNonDefaultState : Bool :=
  decide (reg.registrations.size ≠ 0) || decide (reg.slashingHistory ≠ []) ||
    decide (reg.params ≠ RegistryParams.default)

/-! ### Accounting -/

variable {reg} {account : Address} {role excluded : RoleId} {r : Registration}

theorem role_of_get (h : reg.get account role = some r) : r.role = role ∧ r.account = account := by
  have hkey := reg.keyed _ _ h
  exact Prod.mk.inj (toLex.injective hkey)

theorem bondOutside_of_role (h : r.role = excluded) : bondOutside excluded r = 0 := by
  simp [bondOutside, h]

theorem bondOutside_of_ne (h : r.role ≠ excluded) : bondOutside excluded r = r.stake.toNat := by
  simp [bondOutside, h]

variable (excluded)

theorem bondOutside_cut_le (r : Registration) (ratio : UInt64) :
    bondOutside excluded (cut r ratio) ≤ bondOutside excluded r := by
  unfold bondOutside cut
  by_cases h : r.role = excluded
  · simp [h]
  · simp only [ne_eq, h, not_false_eq_true, if_true, UInt64.toNat_saturatingSub]
    exact Nat.sub_le _ _

theorem totalBonded_store (reg : PermissionlessRegistry) (r : Registration) :
    (reg.store r).totalBondedStakeExcluding excluded +
        (reg.get r.account r.role).elim 0 (bondOutside excluded) =
      reg.totalBondedStakeExcluding excluded + bondOutside excluded r :=
  OrdMap.sumBy_insert (fun _ r => bondOutside excluded r) reg.registrations _ r

/-- A registration is replaced by another of the same role and account. -/
theorem totalBonded_store_get (h : reg.get account role = some r)
    (r' : Registration) (hrole : r'.role = r.role) (haccount : r'.account = r.account) :
    (reg.store r').totalBondedStakeExcluding excluded + bondOutside excluded r =
      reg.totalBondedStakeExcluding excluded + bondOutside excluded r' := by
  have hstore := totalBonded_store excluded reg r'
  obtain ⟨hr, ha⟩ := role_of_get h
  rwa [hrole, haccount, hr, ha, h] at hstore

theorem totalBonded_remove (h : reg.get account role = some r) :
    (reg.remove role account).totalBondedStakeExcluding excluded + bondOutside excluded r =
      reg.totalBondedStakeExcluding excluded := by
  have herase := OrdMap.sumBy_erase (fun _ r => bondOutside excluded r) reg.registrations
    (roleKey role account)
  rwa [OrdMap.amountAt_of_get h] at herase

variable {excluded} {reg' : PermissionlessRegistry} {epoch ratio : UInt64}
  {condition : SlashingCondition} {outcome : SlashOutcome}

/-- The mirrored stakes of the excluded role are not counted. -/
theorem totalBonded_upsertStake (account : Address) (total epoch : UInt64) :
    (reg.upsertStake account excluded total epoch).totalBondedStakeExcluding excluded =
      reg.totalBondedStakeExcluding excluded := by
  unfold upsertStake
  cases hget : reg.get account excluded with
  | none =>
    simp only
    split
    · have hstore := totalBonded_store excluded reg ⟨account, excluded, total, .active, epoch⟩
      rw [hget] at hstore
      simpa [bondOutside] using hstore
    · rfl
  | some r =>
    obtain ⟨hrole, -⟩ := role_of_get hget
    have hzero := bondOutside_of_role hrole
    have hstore := totalBonded_store_get excluded hget { r with stake := total } rfl rfl
    have hzero' : bondOutside excluded { r with stake := total } = 0 := bondOutside_of_role hrole
    have hremove := totalBonded_remove excluded hget
    rw [hzero, hzero'] at hstore
    rw [hzero] at hremove
    simp only
    split_ifs
    · exact hstore
    · exact hremove
    · exact hstore

theorem params_upsertStake (account : Address) (role : RoleId) (total epoch : UInt64) :
    (reg.upsertStake account role total epoch).params = reg.params := by
  unfold upsertStake
  split <;> split_ifs <;> rfl

theorem totalBonded_register {stake : UInt64}
    (h : reg.register account role stake epoch = .ok reg') (hrole : role ≠ excluded) :
    reg'.totalBondedStakeExcluding excluded = reg.totalBondedStakeExcluding excluded + stake.toNat ∧
    reg'.params = reg.params := by
  simp only [register, ok_iff, Option.isNone_iff_eq_none] at h
  obtain ⟨-, -, -, hnone, rfl⟩ := h
  have hstore := totalBonded_store excluded reg ⟨account, role, stake, .active, epoch⟩
  rw [hnone] at hstore
  exact ⟨by simpa [bondOutside, hrole] using hstore, rfl⟩

theorem totalBonded_beginUnbonding {release : UInt64}
    (h : reg.beginUnbonding account role epoch = .ok (release, reg')) :
    reg'.totalBondedStakeExcluding excluded = reg.totalBondedStakeExcluding excluded ∧ reg'.params =
    reg.params := by
  simp only [beginUnbonding, ok_iff] at h
  obtain ⟨r, hget, -, -, -, rfl⟩ := h
  exact ⟨Nat.add_right_cancel (totalBonded_store_get excluded hget _ rfl rfl), rfl⟩

theorem totalBonded_withdraw {stake : UInt64} (hget : reg.get account role = some r)
    (h : reg.withdraw account role epoch = .ok (stake, reg')) (hrole : role ≠ excluded) :
    reg'.totalBondedStakeExcluding excluded + r.stake.toNat = reg.totalBondedStakeExcluding excluded
    ∧ reg'.params = reg.params := by
  simp only [withdraw, hget, ofOption, Except.bind_eq_ok] at h
  obtain ⟨r', ⟨⟩, h⟩ := h
  split at h
  · simp only [ok_iff] at h
    obtain ⟨-, -, -, rfl⟩ := h
    have hremove := totalBonded_remove excluded hget
    rw [bondOutside_of_ne ((role_of_get hget).1.symm ▸ hrole)] at hremove
    exact ⟨hremove, rfl⟩
  · cases h

theorem totalBonded_slashRoleOnly
    (h : reg.slashRoleOnly account role condition ratio = .ok (outcome, reg')) :
    reg'.totalBondedStakeExcluding excluded ≤ reg.totalBondedStakeExcluding excluded ∧ reg'.params =
    reg.params := by
  simp only [slashRoleOnly, ok_iff] at h
  obtain ⟨r, hget, -, -, -, rfl⟩ := h
  have hstore := totalBonded_store_get excluded hget (cut r ratio) rfl rfl
  have hcut := bondOutside_cut_le excluded r ratio
  exact ⟨by omega, rfl⟩

theorem totalBonded_slashCrossRole (ratio : UInt64) :
    (reg.slashCrossRole account role ratio).totalBondedStakeExcluding excluded ≤
      reg.totalBondedStakeExcluding excluded := by
  simp only [totalBondedStakeExcluding, slashCrossRole, OrdMap.sumBy_map]
  refine OrdMap.sumBy_mono fun k r _ => ?_
  split
  · exact bondOutside_cut_le excluded r ratio
  · exact le_refl _

theorem totalBonded_slash
    (h : reg.slash account role condition ratio = .ok (outcome, reg')) :
    reg'.totalBondedStakeExcluding excluded ≤ reg.totalBondedStakeExcluding excluded ∧ reg'.params =
    reg.params := by
  simp only [slash, ok_iff] at h
  obtain ⟨⟨outcome', reg₁⟩, hone, -, rfl⟩ := h
  obtain ⟨hle, hparams⟩ := totalBonded_slashRoleOnly hone
  exact ⟨(totalBonded_slashCrossRole ratio).trans hle, hparams⟩

theorem totalBonded_slashFromReport {report : SlashingReport} {outcome : Option SlashOutcome}
    (h : reg.slashFromReport report = .ok (outcome, reg')) : reg'.totalBondedStakeExcluding excluded
    ≤ reg.totalBondedStakeExcluding excluded ∧ reg'.params = reg.params := by
  simp only [slashFromReport, Except.bind_eq_ok] at h
  obtain ⟨-, -, h⟩ := h
  split at h
  case h_1 hslash =>
    obtain ⟨-, rfl⟩ := h
    obtain ⟨hle, hparams⟩ :
        _ ≤ reg.totalBondedStakeExcluding excluded ∧ _ = reg.params := totalBonded_slash hslash
    exact ⟨hle, hparams⟩
  case h_2 =>
    obtain ⟨-, rfl⟩ := h
    exact ⟨le_rfl, rfl⟩

end PermissionlessRegistry

end Budlum
