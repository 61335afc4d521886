import Budlum.Core.Primitives

/-!
# Networks and token economics

The per-network consensus parameters, the slashing penalty, and the fixed supply with its
allocations, vesting, fee burn and yearly burn.
-/

namespace Budlum

/-! ### Networks -/

inductive Network where
  | mainnet
  | testnet
  | devnet
  deriving DecidableEq, Repr

/-- The consensus parameters of a network that block application and finality read. -/
structure ConsensusParams where
  /-- Blocks per epoch. -/
  epochLen : UInt64
  /-- Smallest stake of an active validator. -/
  minStake : UInt64
  /-- Slot length in milliseconds. -/
  slotMs : UInt64
  finalityCheckpointInterval : UInt64
  deriving DecidableEq, Repr

namespace Network

/-- EIP-155 chain id. -/
def chainId : Network → UInt64
  | mainnet => 45260
  | testnet => 45261
  | devnet => 45262

/-- Inverse of `chainId`. -/
def fromChainId (chainId : UInt64) : Option Network :=
  if chainId = 45260 then some mainnet
  else if chainId = 45261 then some testnet
  else if chainId = 45262 then some devnet
  else none

def consensusParams : Network → ConsensusParams
  | mainnet => ⟨100, 1000000, 6000, 10⟩
  | testnet => ⟨50, 10000, 3000, 5⟩
  | devnet => ⟨10, 1000, 1000, 2⟩

/-- Smallest stake of an active validator. -/
def minStake (n : Network) : UInt64 := n.consensusParams.minStake

end Network

/-- Blocks per epoch, `EPOCH_LEN` on a chain that is none of the public networks. -/
def epochLenForChainId (chainId : UInt64) : UInt64 :=
  ((Network.fromChainId chainId).map fun n => n.consensusParams.epochLen).getD 100

/-- Slot length, `SLOT_MS` on a chain that is none of the public networks. -/
def slotMsForChainId (chainId : UInt64) : UInt64 :=
  ((Network.fromChainId chainId).map fun n => n.consensusParams.slotMs).getD 1000

/-- Checkpoint spacing, `FINALITY_CHECKPOINT_INTERVAL` on any other chain. -/
def finalityCheckpointIntervalForChainId (chainId : UInt64) : UInt64 :=
  ((Network.fromChainId chainId).map fun n => n.consensusParams.finalityCheckpointInterval).getD 10

def finalityQuorumNumerator : Nat := 2

def finalityQuorumDenominator : Nat := 3

/-- Fixed-point one. -/
def fixedPointScale : UInt64 := 1000000

/-- What a slash of `slashRatioFixed` takes from `stake`, capped at the bond. -/
def slashPenalty (stake slashRatioFixed : UInt64) : UInt64 :=
  let quotient := stake.toNat * slashRatioFixed.toNat / fixedPointScale.toNat
  if quotient > UInt64.maxValue.toNat then stake
  else
    let narrow := UInt64.ofNat quotient
    if narrow > stake then stake else narrow

theorem slashPenalty_le (stake ratio : UInt64) :
    (slashPenalty stake ratio).toNat ≤ stake.toNat := by
  simp only [slashPenalty]
  split_ifs with h1 h2
  · exact le_refl _
  · exact le_refl _
  · exact UInt64.le_iff_toNat_le.1 (not_lt.1 h2)

/-! ### Supply -/

def budUnit : UInt64 := 1000000

/-- The fixed supply in base units. -/
def budTotalSupply : UInt64 := 100000000000000

def bud (whole : UInt64) : UInt64 := whole * budUnit

/-- Cliff and linear release of one allocation. -/
structure VestingSchedule where
  /-- Base units under the schedule. -/
  total : UInt64
  /-- Epoch the schedule starts. -/
  startEpoch : UInt64
  /-- Epochs during which nothing is released. -/
  cliffEpochs : UInt64
  /-- Epochs until everything is released. -/
  durationEpochs : UInt64
  deriving DecidableEq, Repr

namespace VestingSchedule

variable (v : VestingSchedule)

/-- Base units released by `epoch`. -/
def unlockedAt (epoch : UInt64) : UInt64 :=
  if epoch < v.startEpoch.saturatingAdd v.cliffEpochs then 0
  else if v.durationEpochs = 0 then v.total
  else
    let elapsed := epoch.saturatingSub v.startEpoch
    if elapsed ≥ v.durationEpochs then v.total
    else UInt64.ofNat (v.total.toNat * elapsed.toNat / v.durationEpochs.toNat)

/-- Base units still locked at `epoch`. -/
def lockedAt (epoch : UInt64) : UInt64 := v.total.saturatingSub (v.unlockedAt epoch)

end VestingSchedule

structure TokenomicsParams where
  community : UInt64
  liquidity : UInt64
  ecosystem : UInt64
  team : UInt64
  burnReserve : UInt64
  epochsPerYear : UInt64
  annualBurnRatioFixed : UInt64
  teamCliffEpochs : UInt64
  teamVestingEpochs : UInt64
  txFeeBurnRatioFixed : UInt64
  blockReward : UInt64
  slotDurationSecs : UInt64
  epochLengthSlots : UInt64
  validatorAnnualYieldRatioFixed : UInt64
  deriving DecidableEq, Repr

namespace TokenomicsParams

def default : TokenomicsParams where
  community := bud 10000000
  liquidity := bud 10000000
  ecosystem := bud 20000000
  team := bud 20000000
  burnReserve := bud 40000000
  epochsPerYear := 1000
  annualBurnRatioFixed := fixedPointScale / 10
  teamCliffEpochs := 1000
  teamVestingEpochs := 4000
  txFeeBurnRatioFixed := fixedPointScale / 100
  blockReward := 50
  slotDurationSecs := 10
  epochLengthSlots := 32
  validatorAnnualYieldRatioFixed := fixedPointScale * 5 / 100

instance : Inhabited TokenomicsParams := ⟨default⟩

variable (p : TokenomicsParams)

/-- Sum of the five allocations. -/
def total : UInt64 :=
  (((p.community.saturatingAdd p.liquidity).saturatingAdd p.ecosystem).saturatingAdd
    p.team).saturatingAdd p.burnReserve

/-- The allocations add up to the fixed supply. -/
def isBalanced : Bool := p.total == budTotalSupply

def teamVesting (genesisEpoch : UInt64) : VestingSchedule :=
  ⟨p.team, genesisEpoch, p.teamCliffEpochs, p.teamVestingEpochs⟩

/-- Base units the timed burn removes per year.  The product is narrowed by truncation. -/
def annualBurnAmount : UInt64 :=
  UInt64.ofNat (p.burnReserve.toNat * p.annualBurnRatioFixed.toNat / fixedPointScale.toNat)

/-- The part of a fee that is burned.  The product is narrowed by truncation. -/
def metabolicBurn (fee : UInt64) : UInt64 :=
  UInt64.ofNat (fee.toNat * p.txFeeBurnRatioFixed.toNat / fixedPointScale.toNat)

end TokenomicsParams

structure TimedBurnState where
  yearsBurned : UInt64 := 0
  totalBurned : UInt64 := 0
  deriving DecidableEq, Repr, Inhabited

/-- Whole years elapsed since genesis. -/
def TimedBurnState.dueYears (_ : TimedBurnState) (genesisEpoch currentEpoch epochsPerYear : UInt64) :
    UInt64 :=
  if epochsPerYear = 0 then 0
  else currentEpoch.saturatingSub genesisEpoch / epochsPerYear

/-- The reserved addresses of the five allocations. -/
structure TokenomicsAddresses where
  community : Address
  liquidity : Address
  ecosystem : Address
  team : Address
  burnReserve : Address
  deriving DecidableEq

/-- `0xB0 0xD0 tag 0 …`: the placeholder addresses of the allocations. -/
def TokenomicsAddresses.reserved : TokenomicsAddresses :=
  let mk (tag : Nat) : Address := Fin.ofNat (2 ^ 256) ((0xB0D000 + tag) * 2 ^ 232)
  ⟨mk 1, mk 2, mk 3, mk 4, mk 5⟩

/-- The five genesis allocations, refused unless they add up to the fixed supply. -/
def genesisAllocations (p : TokenomicsParams) (a : TokenomicsAddresses) :
    Except String (List (Address × UInt64)) :=
  if p.isBalanced then
    .ok [(a.community, p.community), (a.liquidity, p.liquidity), (a.ecosystem, p.ecosystem),
      (a.team, p.team), (a.burnReserve, p.burnReserve)]
  else
    .error s!"tokenomics allocations sum to {p.total} base units, not the fixed supply of {budTotalSupply}"

end Budlum
