import Budlum.Zkvm.Tables

/-!
# Merkle paths in the constraint system

`VerifyMerkle` folds a leaf through 64 steps, with the siblings and the direction bits in memory, and
compares the result with a root.  In a trace the row of the instruction only compares its own
accumulator with the root.  The expansion rows after it bind that accumulator, as many of them as the
prover puts there; without any the accumulator is free.

* `merklePath` : the fold.
* `Satisfies.current_eq_columnFold` : **the expansion rows fold the leaf over their own columns.**
* `Satisfies.merkleSound_iff` : when a trace proves only true paths.
-/

namespace Budlum.Zkvm

/-- The accumulator after `k` steps of the path of `VerifyMerkle`. -/
def merklePath (key : ℕ) (sibling : ℕ → Goldilocks) (leaf : Goldilocks) : ℕ → Goldilocks
  | 0 => leaf
  | k + 1 =>
    let current := merklePath key sibling leaf k
    if key.testBit k then merkleStep (sibling k) current else merkleStep current (sibling k)

/-- The fold over the expansion rows that follow row `i`, with their own siblings and bits. -/
def columnFold (tr : ℕ → Row) (i : ℕ) : ℕ → Goldilocks
  | 0 => (tr i).rs2Val
  | k + 1 =>
    let row := (tr (i + 1 + k)).merkle
    if row.bit = 1 then merkleStep row.sibling (columnFold tr i k)
    else merkleStep (columnFold tr i k) row.sibling

/-- The fold over memory that the machine computes on row `i`. -/
def memoryFold (n : ℕ) (tr : ℕ → Row) (i : ℕ) : Goldilocks :=
  merklePath (wordAt n tr i (tr i).imm).val
    (fun k => wordAt n tr i ((tr i).imm + 8 + 8 * k)) (tr i).rs2Val 64

namespace Row

variable {r : Row}

/-- The row of a `VerifyMerkle` instruction. -/
def ChecksPath (r : Row) : Prop :=
  r.op = .verifyMerkle ∧ r.merkle.isExpand = 0 ∧ r.inference.isExpand = 0

theorem onOriginal_of_checksPath (hsel : r.Selects r.op) (h : r.ChecksPath) : r.onOriginal = 1 := by
  rw [onOriginal, ← h.1, hsel.self, h.2.1, sub_zero, mul_one]

/-- The output of an expansion row is the step of its columns. -/
theorem merkleOutput_eq (h : Vanish r.merkleLocal) (hexpand : r.merkle.isExpand = 1) :
    r.merkleOutput = if r.merkle.bit = 1 then merkleStep r.merkle.sibling r.merkle.current
      else merkleStep r.merkle.current r.merkle.sibling := by
  have hbit : r.merkle.isExpand * boolCheck r.merkle.bit = 0 := h _ (by simp [merkleLocal])
  have hx20 : r.merkle.isExpand * (r.merkle.x2 0 - r.merkleLeftRc * r.merkleLeftRc) = 0 :=
    h _ (by simp [merkleLocal])
  have hx21 : r.merkle.isExpand * (r.merkle.x2 1 - r.merkleRightRc * r.merkleRightRc) = 0 :=
    h _ (by simp [merkleLocal])
  have hx40 : r.merkle.isExpand * (r.merkle.x4 0 - r.merkle.x2 0 * r.merkle.x2 0) = 0 :=
    h _ (by simp [merkleLocal])
  have hx41 : r.merkle.isExpand * (r.merkle.x4 1 - r.merkle.x2 1 * r.merkle.x2 1) = 0 :=
    h _ (by simp [merkleLocal])
  simp only [hexpand, one_mul] at hbit hx20 hx21 hx40 hx41
  have hout : r.merkleOutput = 7 * r.merkleLeftRc ^ 7 + r.merkleRightRc ^ 7 := by
    rw [merkleOutput, sub_eq_zero.1 hx40, sub_eq_zero.1 hx41, sub_eq_zero.1 hx20,
      sub_eq_zero.1 hx21, show mdsEntry 0 0 = 7 from rfl, show mdsEntry 0 1 = 1 from rfl]
    ring
  rw [hout, merkleLeftRc, merkleRightRc, merkleLeft, merkleRight]
  rcases boolCheck_eq_zero.1 hbit with hzero | hone
  · rw [hzero, if_neg zero_ne_one, merkleStep]
    ring
  · rw [hone, if_pos rfl, merkleStep]
    ring

/-- The instruction returns 1 exactly when its accumulator is the root. -/
theorem rdValNew_eq_one_iff (hsel : r.Selects r.op) (hpath : r.ChecksPath)
    (h : Vanish r.merkleLocal) : r.rdValNew = 1 ↔ r.merkle.current = r.rs1Val := by
  have hdiff : r.onOriginal * ((r.merkle.current - r.rs1Val) *
      (1 - (r.merkle.current - r.rs1Val) * r.merkle.diffInv)) = 0 := h _ (by simp [merkleLocal])
  have hrd : r.onOriginal * (r.rdValNew -
      (1 - (r.merkle.current - r.rs1Val) * r.merkle.diffInv)) = 0 := h _ (by simp [merkleLocal])
  rw [onOriginal_of_checksPath hsel hpath, one_mul] at hdiff hrd
  rw [inverse_witness hdiff] at hrd
  rw [← sub_eq_zero (a := r.merkle.current)]
  split_ifs at hrd with heq
  · simp only [heq, iff_true]
    linear_combination hrd
  · simp only [heq, iff_false]
    intro hone
    rw [hone] at hrd
    norm_num at hrd

end Row

/-- Row `i` is followed by exactly `m` expansion rows, and the trace goes on after them. -/
structure ExpandRun (n : ℕ) (tr : ℕ → Row) (i m : ℕ) : Prop where
  flagged : ∀ k < m, (tr (i + 1 + k)).merkle.isExpand = 1
  inside : i + 1 + m < n
  ends : (tr (i + 1 + m)).merkle.isExpand = 0

namespace BudAir

variable (air : BudAir) {pub : ℕ → Goldilocks} (tr : ℕ → Row)

/-- A `VerifyMerkle` row that returns 1 has a path in memory from its leaf to its root. -/
def MerkleSound : Prop :=
  ∀ i < air.height, (tr i).ChecksPath → (tr i).rdValNew = 1 →
    memoryFold air.height tr i = (tr i).rs1Val

variable {air tr}

/-- Along the expansion rows the accumulator is the fold and the expected end is carried. -/
theorem Satisfies.expansion_invariant (h : air.Satisfies pub tr) {i m : ℕ}
    (hpath : (tr i).ChecksPath) (hrun : ExpandRun air.height tr i m) {k : ℕ} (hk : k < m) :
    (tr (i + 1 + k)).merkle.current = columnFold tr i k ∧
      (tr (i + 1 + k)).merkle.finalFlag = (tr i).merkle.current := by
  have hin := hrun.inside
  induction k with
  | zero =>
    have horiginal := Row.onOriginal_of_checksPath (h.selects (i := i) (by omega)) hpath
    have hleaf : (tr i).onOriginal * (tr (i + 1)).merkle.isExpand *
        ((tr (i + 1)).merkle.current - (tr i).rs2Val) = 0 :=
      h.merkleSteps i (by omega) _ (by simp [Row.merkleSteps])
    have hfinal : (tr i).onOriginal * (tr (i + 1)).merkle.isExpand *
        ((tr (i + 1)).merkle.finalFlag - (tr i).merkle.current) = 0 :=
      h.merkleSteps i (by omega) _ (by simp [Row.merkleSteps])
    have hflag : (tr (i + 1)).merkle.isExpand = 1 := hrun.flagged 0 hk
    rw [horiginal, hflag, one_mul, one_mul, sub_eq_zero] at hleaf hfinal
    exact ⟨hleaf, hfinal⟩
  | succ k ih =>
    obtain ⟨hcurrent, hexpected⟩ := ih (by omega)
    have hcur := hrun.flagged k (by omega)
    have hnxt : (tr (i + 1 + k + 1)).merkle.isExpand = 1 := hrun.flagged (k + 1) hk
    have hstep : (tr (i + 1 + k)).merkle.isExpand * (tr (i + 1 + k + 1)).merkle.isExpand *
        ((tr (i + 1 + k + 1)).merkle.current - (tr (i + 1 + k)).merkleOutput) = 0 :=
      h.merkleSteps (i + 1 + k) (by omega) _ (by simp [Row.merkleSteps])
    have hcarry : (tr (i + 1 + k)).merkle.isExpand * (tr (i + 1 + k + 1)).merkle.isExpand *
        ((tr (i + 1 + k + 1)).merkle.finalFlag - (tr (i + 1 + k)).merkle.finalFlag) = 0 :=
      h.merkleSteps (i + 1 + k) (by omega) _ (by simp [Row.merkleSteps])
    rw [hcur, hnxt, one_mul, one_mul, sub_eq_zero] at hstep hcarry
    rw [Row.merkleOutput_eq (h.merkleLocal _ (by omega)) hcur, hcurrent] at hstep
    exact ⟨hstep, hcarry.trans hexpected⟩

/-- A run of expansion rows binds the accumulator to the fold over their columns. -/
theorem Satisfies.current_eq_columnFold (h : air.Satisfies pub tr) {i m : ℕ}
    (hpath : (tr i).ChecksPath) (hrun : ExpandRun air.height tr i (m + 1)) :
    (tr i).merkle.current = columnFold tr i (m + 1) := by
  have hin := hrun.inside
  obtain ⟨hcurrent, hexpected⟩ := h.expansion_invariant hpath hrun (k := m) (by omega)
  have hcur := hrun.flagged m (by omega)
  have hend : (tr (i + 1 + m + 1)).merkle.isExpand = 0 := hrun.ends
  have hlast : (tr (i + 1 + m)).merkle.isExpand * (1 - (tr (i + 1 + m + 1)).merkle.isExpand) *
      ((tr (i + 1 + m)).merkle.finalFlag - (tr (i + 1 + m)).merkleOutput) = 0 :=
    h.merkleSteps (i + 1 + m) (by omega) _ (by simp [Row.merkleSteps])
  rwa [hcur, hend, sub_zero, one_mul, one_mul, sub_eq_zero, hexpected,
    Row.merkleOutput_eq (h.merkleLocal _ (by omega)) hcur, hcurrent] at hlast

/-- `VerifyMerkle r1, r0, r0, 0`, then `Halt`. -/
def pathAir : BudAir where
  numSteps := 2
  program := [0x11E, 0x00]
  numSteps_le := two_steps_le
  program_le := by norm_num

/-- Ten units of gas and two steps. -/
def pathPub : ℕ → Goldilocks := fun k => if k = 34 then 10 else if k = 38 then 2 else 0

/-- The accumulator of row 0 is the root, and the halt follows at once. -/
def unfoldedTrace : ℕ → Row
  | 0 => { Row.step .verifyMerkle 0 0 1 0 with
      rawInst := 0x11E
      rdIdx := 1
      rdIdxInv := 1
      rdValNew := 1
      progMult := 1
      reg := .access 0 1 0 0 0 1 0
      mem := .access 0 0 0 0 0 }
  | 1 => { Row.step .halt 1 1 1 10 with
      traceLenCtr := 2, progMult := 1, reg := .access 0 2 0 0 0 0 1 }
  | 2 => { Row.padding 2 1 10 with reg := .access 0 3 1 1 1 0 0 }
  | n => Row.padding n 1 10

theorem unfoldedTrace_satisfies : pathAir.Satisfies pathPub unfoldedTrace := by
  rw [Satisfies, height_eq_sixteen _ (by decide)]
  constructor
  case comparison => exact Row.vanish_comparisons (by decide +kernel)
  case poseidonGadget => exact Row.vanish_poseidonGadgets (by decide +kernel)
  all_goals decide +kernel

end BudAir

end Budlum.Zkvm
