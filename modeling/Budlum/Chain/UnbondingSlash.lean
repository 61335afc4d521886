import Budlum.Chain.Genesis
import Budlum.Chain.StakeMirror

/-!
# Slashing and the unbonding queue

A validator's stake can be in two places: bonded with the validator, or in entries of the unbonding
queue that wait for their release.  `AccountState.slashValidator` cuts the bonded stake and does not
look at the queue.

* `AccountState.slash_covers_iff` : when a slash takes the penalty on everything at risk.
-/

namespace Budlum

open Executor

namespace AccountState

variable {s : AccountState} {a : Address} {v : Validator}

/-- The entries of an account that wait in the queue. -/
def waiting (s : AccountState) (a : Address) : List UnbondingEntry :=
  s.unbondingQueue.filter fun e => decide (e.address = a)

/-- The bonded stake of an account together with what waits in the queue. -/
def atRisk (s : AccountState) (a : Address) : Nat :=
  (s.stakeOf a).toNat + ((s.waiting a).map (·.amount.toNat)).sum

/-- The penalty on an amount that need not fit a word. -/
def penaltyOn (amount : Nat) (slashRatioFixed : UInt64) : Nat :=
  min amount (amount * slashRatioFixed.toNat / fixedPointScale.toNat)

theorem toNat_slashPenalty (stake ratio : UInt64) :
    (slashPenalty stake ratio).toNat = penaltyOn stake.toNat ratio := by
  have hstake := stake.toNat_lt
  simp only [slashPenalty, penaltyOn]
  generalize stake.toNat * ratio.toNat / fixedPointScale.toNat = quotient
  split_ifs with hbig hover
  · rw [UInt64.toNat_maxValue] at hbig
    omega
  all_goals
    rw [UInt64.toNat_maxValue] at hbig
    have hquotient : (UInt64.ofNat quotient).toNat = quotient := UInt64.toNat_ofNat_of_lt' (by
      rw [UInt64.size]; omega)
    rw [gt_iff_lt, UInt64.lt_iff_toNat_lt, hquotient] at hover
    omega

/-- A slash lowers what is at risk by the penalty on the bonded stake. -/
theorem atRisk_slashValidator (hv : s.validators.get a = some v) (hslashed : v.slashed = false)
    (ratio : UInt64) :
    (s.slashValidator a ratio).atRisk a + penaltyOn v.stake.toNat ratio = s.atRisk a := by
  have hpenalty := slashPenalty_le v.stake ratio
  have hstake : ((s.slashValidator a ratio).stakeOf a).toNat =
      v.stake.toNat - (slashPenalty v.stake ratio).toNat := by
    simp [slashValidator, hv, hslashed, stakeOf, Validator.afterSlash, UInt64.toNat_saturatingSub]
  have hqueue : (s.slashValidator a ratio).waiting a = s.waiting a := by
    simp [slashValidator, hv, hslashed, waiting]
  rw [atRisk, atRisk, hstake, hqueue, ← toNat_slashPenalty, stakeOf, hv, Option.elim_some]
  omega

/-- **What a slash takes.**  The penalty on everything that is at risk is taken, up to one unit of
rounding for each entry in the queue, exactly if the penalty on the bonded stake alone comes to
that. -/
theorem slash_covers_iff (hv : s.validators.get a = some v) (hslashed : v.slashed = false)
    (ratio : UInt64) :
    penaltyOn (s.atRisk a) ratio ≤
        s.atRisk a - (s.slashValidator a ratio).atRisk a + (s.waiting a).length ↔
      penaltyOn (s.atRisk a) ratio ≤ (slashPenalty v.stake ratio).toNat + (s.waiting a).length := by
  have htaken := atRisk_slashValidator hv hslashed ratio
  rw [toNat_slashPenalty]
  have hsub : s.atRisk a - (s.slashValidator a ratio).atRisk a = penaltyOn v.stake.toNat ratio := by
    omega
  rw [hsub]

/-! ### Unstaking before the evidence -/

/-- A genesis in which account 1 can stake. -/
def saver : AccountState := GenesisConfig.buildState Linked.sample { allocations := [(1, 5000)] }

def stakeThousand : StakeStep := .stake { Transaction.sample 1 0 .stake with amount := 1000 }

def unstakeThousand : StakeStep := .unstake { Transaction.sample 1 1 .unstake with amount := 1000 }

theorem slash_covers_bonded :
    ∃ s v, stakeThousand.Takes Linked.sample .poS saver s ∧ s.validators.get 1 = some v ∧
      penaltyOn (s.atRisk 1) 500000 ≤
        s.atRisk 1 - (s.slashValidator 1 500000).atRisk 1 + (s.waiting 1).length := by
  refine ⟨_, _, ⟨rfl, rfl⟩, rfl, (slash_covers_iff rfl rfl 500000).2 (by decide)⟩

/-- A slash by half takes 500 units while the stake of 1000 is bonded, and nothing after it has been
unstaked, with the whole stake still in the queue. -/
theorem unstaked_escapes :
    ∃ s s', stakeThousand.Takes Linked.sample .poS saver s ∧
      unstakeThousand.Takes Linked.sample .poS s s' ∧
      s.atRisk 1 - (s.slashValidator 1 500000).atRisk 1 = 500 ∧
      s'.validators.contains 1 ∧ (s'.validators.get 1).all (fun v => !v.slashed) ∧
      s'.atRisk 1 = 1000 ∧ (s'.waiting 1).length = 1 ∧ penaltyOn (s'.atRisk 1) 500000 = 500 ∧
      s'.atRisk 1 - (s'.slashValidator 1 500000).atRisk 1 = 0 := by
  refine ⟨_, _, ⟨rfl, rfl⟩, ⟨rfl, rfl⟩, ?_⟩
  decide

end AccountState

end Budlum
