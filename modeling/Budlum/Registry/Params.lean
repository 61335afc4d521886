import Budlum.Core.Economics

/-!
# Registry parameters

The parameters governance can change, with the bounds `validate` keeps them in and the update
that parses one value and accepts it only when the whole record is still within bounds.
-/

namespace Budlum

open Except (ensure ofOption)

/-- Parts per million in one. -/
def ppmDenominator : UInt64 := 1000000

/-- Epochs between a request to unbond and the release of the stake. -/
def unbondingEpochs : UInt64 := 7

/-- Epochs a validator stays jailed after a liveness fault. -/
def livenessJailEpochs : UInt64 := 7

/-- Why a bond is cut. -/
inductive SlashingCondition where
  | doubleSign
  | livenessFault
  | maliciousBehaviour
  deriving DecidableEq, Repr

structure RegistryParams where
  minStake : UInt64
  unbondingEpochs : UInt64
  doubleSignSlashRatioFixed : UInt64
  livenessSlashRatioFixed : UInt64
  maliciousSlashRatioFixed : UInt64
  livenessMaxMissedEpochs : UInt64
  slashingReportFee : UInt64
  proofSubmissionFee : UInt64
  aiModelRegisterFee : UInt64
  proverReward : UInt64
  maxInvalidVotesPerEpoch : UInt64
  livenessSlashingEnabled : Bool
  bridgeRelayerFeePpm : UInt64
  bridgeRelayerMinFee : UInt64
  transferFeePpm : UInt64
  swapFeePpm : UInt64
  bridgeFeePpm : UInt64
  deriving DecidableEq, Repr

namespace RegistryParams

def default : RegistryParams where
  minStake := 1000
  unbondingEpochs := Budlum.unbondingEpochs
  doubleSignSlashRatioFixed := fixedPointScale / 2
  livenessSlashRatioFixed := fixedPointScale / 100
  maliciousSlashRatioFixed := fixedPointScale
  livenessMaxMissedEpochs := 20
  slashingReportFee := 10
  proofSubmissionFee := 10
  aiModelRegisterFee := 10
  proverReward := 0
  maxInvalidVotesPerEpoch := 20
  livenessSlashingEnabled := false
  bridgeRelayerFeePpm := 10000
  bridgeRelayerMinFee := 10
  transferFeePpm := 0
  swapFeePpm := 0
  bridgeFeePpm := 0

variable (p : RegistryParams)

def slashRatio : SlashingCondition → UInt64
  | .doubleSign => p.doubleSignSlashRatioFixed
  | .livenessFault => p.livenessSlashRatioFixed
  | .maliciousBehaviour => p.maliciousSlashRatioFixed

/-- A fee of `ratePpm` parts per million of `amount`, rounded up. -/
def proportionalFee (amount ratePpm : UInt64) : UInt64 :=
  if ratePpm = 0 ∨ amount = 0 then 0
  else
    let scaled := amount.toNat * ratePpm.toNat
    UInt64.clampNat ((scaled + ppmDenominator.toNat - 1) / ppmDenominator.toNat)

/-- The least fee of a transfer. -/
def requiredTransferFee (amount baseFee : UInt64) : UInt64 :=
  baseFee.saturatingAdd (proportionalFee amount p.transferFeePpm)

/-- Protocol-level bounds of the parameters. -/
def validate : Except String Unit := do
  ensure (decide (100 ≤ p.minStake)) "min_stake must be at least 100"
  ensure (decide (p.unbondingEpochs ≠ 0 ∧ p.unbondingEpochs ≤ 100000))
    "unbonding_epochs must be between 1 and 100,000"
  ensure (decide (p.doubleSignSlashRatioFixed ≤ fixedPointScale))
    "double_sign_slash_ratio_fixed cannot exceed FIXED_POINT_SCALE"
  ensure (decide (p.livenessSlashRatioFixed ≤ fixedPointScale))
    "liveness_slash_ratio_fixed cannot exceed FIXED_POINT_SCALE"
  ensure (decide (p.maliciousSlashRatioFixed ≤ fixedPointScale))
    "malicious_slash_ratio_fixed cannot exceed FIXED_POINT_SCALE"
  ensure (decide (p.bridgeRelayerFeePpm < ppmDenominator))
    "bridge_relayer_fee_ppm must be below 100%"
  ensure (decide (p.transferFeePpm < ppmDenominator))
    "transfer_fee_ppm must be below 100%"
  ensure (decide (p.swapFeePpm < ppmDenominator)) "swap_fee_ppm must be below 100%"
  ensure (decide (p.bridgeFeePpm < ppmDenominator)) "bridge_fee_ppm must be below 100%"
  ensure (decide (p.maxInvalidVotesPerEpoch ≤ 100000))
    "max_invalid_votes_per_epoch must be at most 100,000"

theorem validate_default : default.validate = .ok () := by decide

theorem minStake_pos {p : RegistryParams} (h : p.validate = .ok ()) : 0 < p.minStake.toNat := by
  simp only [validate, Except.ok_iff] at h
  obtain ⟨-, hmin, -⟩ := h
  have := UInt64.le_iff_toNat_le.1 hmin
  simp only [UInt64.toNat_ofNat, Nat.reducePow, Nat.reduceMod] at this
  omega

theorem bridgeRelayerFeePpm_lt {p : RegistryParams} (h : p.validate = .ok ()) :
    p.bridgeRelayerFeePpm.toNat < 1000000 := by
  simp only [validate, Except.ok_iff] at h
  obtain ⟨-, -, -, -, -, -, -, -, -, -, -, hppm, -⟩ := h
  exact UInt64.lt_iff_toNat_lt.1 hppm

end RegistryParams

/-! ### Governance updates -/

/-- `str::parse::<u64>`: an optional plus sign and at least one decimal digit, in range. -/
def parseU64 (s : String) : Except String UInt64 :=
  let digits := match s.toList with
    | '+' :: rest => rest
    | rest => rest
  if digits.isEmpty then
    .error (if s.isEmpty then "cannot parse integer from empty string" else
      "invalid digit found in string")
  else if digits.all Char.isDigit then
    ofOption (UInt64.ofNat? (digits.foldl (fun n c => 10 * n + (c.toNat - 48)) 0))
      "number too large to fit in target type"
  else .error "invalid digit found in string"

/-- The two spellings a boolean parameter accepts. -/
def parseGovernanceBool (key value : String) : Except String Bool :=
  if value = "true" then .ok true
  else if value = "false" then .ok false
  else .error s!"invalid {key}: expected true or false, got {value.quote}"

/-- The parameters governance may name. -/
def governanceParameterWhitelist : List String :=
  ["min_stake", "unbonding_epochs", "double_sign_slash_ratio_fixed", "liveness_slash_ratio_fixed",
    "malicious_slash_ratio_fixed", "bridge_relayer_fee_ppm", "bridge_relayer_min_fee",
    "max_invalid_votes_per_epoch", "transfer_fee_ppm", "swap_fee_ppm", "bridge_fee_ppm",
    "ai_model_register_fee", "liveness_slashing_enabled"]

namespace RegistryParams

/-- Parse `value` and store it under `key`; `unknown` is the error for any other key. -/
def setByName (p : RegistryParams) (key value : String) (unknown : String) :
    Except String RegistryParams :=
  let word (set : UInt64 → RegistryParams) : Except String RegistryParams :=
    match parseU64 value with
    | .ok v => .ok (set v)
    | .error e => .error s!"invalid {key}: {e}"
  match key with
  | "min_stake" => word fun v => { p with minStake := v }
  | "unbonding_epochs" => word fun v => { p with unbondingEpochs := v }
  | "double_sign_slash_ratio_fixed" => word fun v => { p with doubleSignSlashRatioFixed := v }
  | "liveness_slash_ratio_fixed" => word fun v => { p with livenessSlashRatioFixed := v }
  | "malicious_slash_ratio_fixed" => word fun v => { p with maliciousSlashRatioFixed := v }
  | "bridge_relayer_fee_ppm" => word fun v => { p with bridgeRelayerFeePpm := v }
  | "bridge_relayer_min_fee" => word fun v => { p with bridgeRelayerMinFee := v }
  | "max_invalid_votes_per_epoch" => word fun v => { p with maxInvalidVotesPerEpoch := v }
  | "transfer_fee_ppm" => word fun v => { p with transferFeePpm := v }
  | "swap_fee_ppm" => word fun v => { p with swapFeePpm := v }
  | "bridge_fee_ppm" => word fun v => { p with bridgeFeePpm := v }
  | "ai_model_register_fee" => word fun v => { p with aiModelRegisterFee := v }
  | "liveness_slashing_enabled" => do
    let v ← parseGovernanceBool key value
    return { p with livenessSlashingEnabled := v }
  | _ => .error unknown

/-- One parameter changed, accepted only when the result passes `validate`. -/
def updateByName (p : RegistryParams) (key value : String) : Except String RegistryParams := do
  let p' ← p.setByName key value s!"unknown registry parameter: {key}"
  p'.validate
  return p'

theorem validate_of_updateByName {p p' : RegistryParams} {key value : String}
    (h : p.updateByName key value = .ok p') : p'.validate = .ok () := by
  simp only [updateByName, Except.ok_iff] at h
  obtain ⟨q, -, u, hq, rfl⟩ := h
  exact hq

end RegistryParams

/-- The check of a parameter proposal: a whitelisted name whose value, set in the default record,
passes the bounds. -/
def validateGovernanceParameterUpdate (key value : String) : Except String Unit := do
  ensure (governanceParameterWhitelist.contains key)
    s!"governance parameter is not whitelisted: {key}"
  let p ← RegistryParams.default.setByName key value
    s!"governance parameter has no validator: {key}"
  p.validate

end Budlum
