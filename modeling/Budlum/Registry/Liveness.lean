import Budlum.Registry.Permissionless

/-!
# Liveness of validators

How many epochs in a row a validator missed.  A validator that misses enough of them is reported
once per streak.
-/

namespace Budlum

structure LivenessTracker where
  /-- Epochs missed in a row. -/
  missed : OrdMap Address Nat := ∅
  streakStartEpoch : OrdMap Address UInt64 := ∅
  /-- Validators reported for the current streak. -/
  reported : OrdMap Address Unit := ∅
  deriving DecidableEq, Inhabited

namespace LivenessTracker

variable (t : LivenessTracker)

def isEmpty : Bool :=
  decide (t.missed.size = 0) && decide (t.streakStartEpoch.size = 0) && decide (t.reported.size = 0)

/-- The validator took part: its streak is over. -/
def clear (v : Address) : LivenessTracker where
  missed := t.missed.erase v
  streakStartEpoch := t.streakStartEpoch.erase v
  reported := t.reported.erase v

/-- The validator missed the epoch. -/
def miss (v : Address) (epoch : UInt64) (threshold : UInt64) :
    LivenessTracker × Option SlashingReport :=
  let count := t.missed.getD v 0
  let starts := if count = 0 then t.streakStartEpoch.insert v epoch else t.streakStartEpoch
  let current := count + 1
  let t' := { t with missed := t.missed.insert v current, streakStartEpoch := starts }
  if 0 < threshold ∧ threshold.toNat ≤ current ∧ t.reported.contains v = false then
    let report := SlashingReport.consensusLiveness v Roles.validator (starts.getD v epoch) epoch
      (UInt64.ofNat current) (UInt64.ofNat current) none
    ({ t' with reported := t.reported.insert v () }, some report)
  else (t', none)

/-- One validator at the end of an epoch. -/
def recordOne (epoch threshold : UInt64) (participated : Address → Bool)
    (acc : LivenessTracker × List SlashingReport) (v : Address) :
    LivenessTracker × List SlashingReport :=
  if participated v then (acc.1.clear v, acc.2)
  else
    let (t', report) := acc.1.miss v epoch threshold
    (t', acc.2 ++ report.toList)

def missedCount (v : Address) : Nat := t.missed.getD v 0

/-- The end of an epoch for the expected validators, each once and in increasing order. -/
def recordEpoch (epoch : UInt64) (expected : List Address) (participated : Address → Bool)
    (params : RegistryParams) : LivenessTracker × List SlashingReport :=
  let expectedSet := expected.foldl (fun set v => set.insert v ()) (∅ : OrdMap Address Unit)
  expectedSet.keys.foldl (recordOne epoch params.livenessMaxMissedEpochs participated) (t, [])

end LivenessTracker

end Budlum
