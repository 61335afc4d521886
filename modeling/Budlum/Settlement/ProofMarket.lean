import Budlum.Core.Primitives

/-!
# The proof market at the end of an epoch

Tasks that are past their deadline and receipts that were paid leave the market when an epoch
closes.
-/

namespace Budlum

def maxProofMarketActiveTasks : Nat := 10000
def maxProofMarketPendingReceipts : Nat := 10000

inductive ProofTaskStatus where
  | pending
  | assigned (prover : Address) (assignedAtEpoch : UInt64)
  | completed
  | expired
  | failed (reason : String)
  deriving DecidableEq, Repr

/-- A task: who asked for it, until when, and what it pays. -/
structure ProofTask where
  taskId : Hash32
  creator : Address
  deadlineEpoch : UInt64
  status : ProofTaskStatus
  reward : UInt64
  slashConditionHash : Hash32
  minProverStake : UInt64
  deriving DecidableEq, Repr

/-- Nobody finished the task yet. -/
def ProofTask.isActive (t : ProofTask) : Bool :=
  match t.status with
  | .pending | .assigned .. => true
  | .completed | .expired | .failed _ => false

inductive ReceiptStatus where
  | pending
  | paid
  | revoked (reason : String)
  deriving DecidableEq, Repr

/-- A verified proof and the reward it claims. -/
structure ProofReceipt where
  taskId : Hash32
  prover : Address
  verificationHash : Hash32
  rewardClaimed : UInt64
  status : ReceiptStatus
  deriving DecidableEq, Repr

def ProofReceipt.isPaid (r : ProofReceipt) : Bool := decide (r.status = .paid)

structure ProofMarketState where
  activeTasks : List ProofTask := []
  pendingReceipts : List ProofReceipt := []
  totalRewardsPaid : UInt64 := 0
  totalTasksCompleted : UInt64 := 0
  deriving DecidableEq, Inhabited

namespace ProofMarketState

variable (m : ProofMarketState)

def isEmpty : Bool :=
  m.activeTasks.isEmpty && m.pendingReceipts.isEmpty && decide (m.totalRewardsPaid = 0) &&
    decide (m.totalTasksCompleted = 0)

/-- Drop the tasks nobody finished in time. -/
def pruneExpired (currentEpoch : UInt64) : ProofMarketState :=
  { m with activeTasks :=
      m.activeTasks.filter fun t => decide (currentEpoch ≤ t.deadlineEpoch) || !t.isActive }

def prunePaidReceipts : ProofMarketState :=
  { m with pendingReceipts := m.pendingReceipts.filter fun r => !r.isPaid }

/-- Keep the lists within their limits; tasks in progress are never dropped. -/
def enforceMaxSizes (currentEpoch : UInt64) : ProofMarketState :=
  let m := if maxProofMarketActiveTasks < m.activeTasks.length then
      { m with activeTasks := m.activeTasks.filter fun t => decide (currentEpoch ≤ t.deadlineEpoch) }
    else m
  if maxProofMarketPendingReceipts < m.pendingReceipts.length then
    let m := m.prunePaidReceipts
    { m with pendingReceipts :=
        m.pendingReceipts.drop (m.pendingReceipts.length - maxProofMarketPendingReceipts) }
  else m

def closeEpoch (currentEpoch : UInt64) : ProofMarketState :=
  ((m.pruneExpired currentEpoch).prunePaidReceipts).enforceMaxSizes currentEpoch

end ProofMarketState

end Budlum
