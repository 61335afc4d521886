import Budlum.Zkvm.Tables

/-!
# Inference checks in the constraint system

`VerifyInference` reads three words of memory and returns 1 if the third is the Poseidon hash of the
first two.  In a trace the three words are columns of the row, and the Poseidon gadget ties the
result to these columns; no lookup ties the columns to memory.

* `Row.poseidonOut_eq` : **the gadget computes the permutation.**
* `Row.inferenceResult_iff` : the result is 1 exactly when the columns are a chain.
* `Satisfies.inferenceSound_iff` : when a trace proves only true inferences.
-/

namespace Budlum.Zkvm

theorem mix_congr {s t : ℕ → Goldilocks} (h : ∀ j < 8, s j = t j) (i : ℕ) : mix s i = mix t i := by
  unfold mix
  congr 1
  exact List.map_congr_left fun j hj => by rw [h j (List.mem_range.1 hj)]

variable {i : ℕ}

theorem sboxLayer_congr {s t : ℕ → Goldilocks} (r : ℕ) (h : s i = t i) : sboxLayer r s i = sboxLayer
    r t i := by
  rw [sboxLayer, sboxLayer, h]

namespace Row

variable {r : Row}

/-! ### The gadget -/

section Gadget

variable (h : Vanish r.poseidonGadget) (huses : r.usesPoseidon = 1)
include h huses

theorem poseidonState_zero (hi : i < 8) : r.poseidon.state 0 i = lanesOf r.poseidonInput i := by
  have hinput := h _ (List.mem_append_left _ (List.mem_append_left _
    (List.mem_map_of_mem (List.mem_range.2 hi))))
  rwa [huses, one_mul, sub_eq_zero] at hinput

/-- The S-box columns hold the S-box of the state columns. -/
theorem sboxOut_eq {k : ℕ} (hk : k < poseidonRounds) : r.sboxOut k i = sboxLayer k
    (r.poseidon.state k) i := by
  unfold sboxOut sboxLayer
  split_ifs with hi
  · have hpowers : ∀ e ∈ [r.usesPoseidon * (r.poseidon.x2 k i - r.roundInput k i * r.roundInput k i),
        r.usesPoseidon * (r.poseidon.x4 k i - r.poseidon.x2 k i * r.poseidon.x2 k i)], e = 0 := by
      intro e he
      refine h e (List.mem_append_left _ (List.mem_append_right _ ?_))
      exact List.mem_flatMap.2 ⟨k, List.mem_range.2 hk,
        List.mem_flatMap.2 ⟨i, List.mem_range.2 hi, he⟩⟩
    have hx2 := hpowers _ List.mem_cons_self
    have hx4 := hpowers _ (List.mem_cons_of_mem _ List.mem_cons_self)
    rw [huses, one_mul, sub_eq_zero] at hx2 hx4
    rw [hx4, hx2, roundInput]
    ring
  · rfl

theorem poseidonState_succ {k : ℕ} (hk : k < poseidonRounds - 1) (hi : i < 8) : r.poseidon.state
    (k + 1) i = mix (r.sboxOut k) i := by
  have hnext := h _ (List.mem_append_right _ (List.mem_flatMap.2 ⟨k, List.mem_range.2 hk,
    List.mem_map_of_mem (List.mem_range.2 hi)⟩))
  rwa [huses, one_mul, sub_eq_zero] at hnext

/-- The state columns of round `k` hold the state after `k` rounds. -/
theorem poseidonState_eq {k : ℕ} (hk : k < poseidonRounds) (hi : i < 8) : r.poseidon.state k i =
    permuteTo k (lanesOf r.poseidonInput) i := by
  induction k generalizing i with
  | zero => exact poseidonState_zero h huses hi
  | succ k ih =>
    have hround : k < poseidonRounds := by omega
    rw [poseidonState_succ h huses (by omega) hi, permuteTo, permuteRound]
    refine mix_congr (fun j hj => ?_) i
    rw [sboxOut_eq h huses hround]
    exact sboxLayer_congr k (ih hround hj)

/-- The gadget computes the permutation. -/
theorem poseidonOut_eq (i : ℕ) : r.poseidonOut i = permute (lanesOf r.poseidonInput) i := by
  have hlast : poseidonRounds - 1 < poseidonRounds := by decide
  show mix (r.sboxOut (poseidonRounds - 1)) i =
    mix (sboxLayer (poseidonRounds - 1) (permuteTo (poseidonRounds - 1) _)) i
  refine mix_congr (fun j hj => ?_) i
  rw [sboxOut_eq h huses hlast]
  exact sboxLayer_congr _ (poseidonState_eq h huses hlast hj)

end Gadget

/-- The columns an honest prover fills in for the gadget. -/
def poseidonWitness (input : ℕ → Goldilocks) : PoseidonCols where
  state k := permuteTo k input
  x2 k i := (permuteTo k input i + roundConstant k i) ^ 2
  x4 k i := (permuteTo k input i + roundConstant k i) ^ 4

theorem vanish_poseidonGadget_of_witness
    (h : r.poseidon = poseidonWitness (lanesOf r.poseidonInput)) : Vanish r.poseidonGadget := by
  have hsbox : ∀ k i, r.sboxOut k i = sboxLayer k (r.poseidon.state k) i := by
    intro k i
    unfold sboxOut sboxLayer roundInput
    rw [h]
    split_ifs
    · simp only [poseidonWitness]
      ring
    · rfl
  intro e he
  simp only [poseidonGadget, List.mem_append, List.mem_map, List.mem_flatMap, List.mem_cons,
    List.not_mem_nil, or_false] at he
  rcases he with (⟨i, -, rfl⟩ | ⟨k, -, i, -, rfl | rfl⟩) | ⟨k, -, i, -, rfl⟩
  · rw [h]
    exact mul_eq_zero_of_right _ (sub_self _)
  · rw [roundInput, h]
    simp only [poseidonWitness]
    ring
  · rw [h]
    simp only [poseidonWitness]
    ring
  · rw [mix_congr (fun j _ => hsbox k j) i, h]
    exact mul_eq_zero_of_right _ (sub_self _)

/-! ### The inference row -/

def ChecksInference (r : Row) : Prop :=
  r.op = .verifyInference ∧ r.merkle.isExpand = 0 ∧ r.inference.isExpand = 0

theorem onInference_of_checks (hsel : r.Selects r.op) (h : r.ChecksInference) :
    r.onInference = 1 := by
  rw [onInference, ← h.1, hsel.self, h.2.2, sub_zero, mul_one]

/-- The columns hold an output that is the hash of the model and the input. -/
def ColumnChain (r : Row) : Prop :=
  r.inference.outputCommit = hash2 r.inference.modelCommit r.inference.inputCommit

theorem usesPoseidon_of_checks (hsel : r.Selects r.op) (h : r.ChecksInference) :
    r.usesPoseidon = 1 := by
  rw [usesPoseidon, onInference_of_checks hsel h]
  have hop := h.1
  generalize r.op = o at hsel hop
  subst hop
  simp [hsel _]

theorem poseidonInput_of_checks (hsel : r.Selects r.op) (h : r.ChecksInference) :
    lanesOf r.poseidonInput = lanesOf [r.inference.modelCommit, r.inference.inputCommit] := by
  have hmain := onInference_of_checks hsel h
  have hop := h.1
  generalize r.op = o at hsel hop
  subst hop
  have hinput : r.poseidonInput =
      [r.inference.modelCommit, r.inference.inputCommit, 0, 0, 0, 0] := by
    simp [poseidonInput, hsel _, hmain]
  rw [hinput]
  funext i
  match i with
  | 0 | 1 | 2 | 3 | 4 | 5 => rfl
  | n + 6 => rfl

/-- The instruction returns 1 exactly when its columns are a chain. -/
theorem inferenceResult_iff (hsel : r.Selects r.op) (hchecks : r.ChecksInference)
    (hgadget : Vanish r.poseidonGadget) (hresults : Vanish r.poseidonResults) :
    r.rdValNew = 1 ↔ r.ColumnChain := by
  have hout : r.poseidonOut 0 = hash2 r.inference.modelCommit r.inference.inputCommit := by
    rw [poseidonOut_eq hgadget (usesPoseidon_of_checks hsel hchecks),
      poseidonInput_of_checks hsel hchecks, hash2]
  have hdiff : r.sel .verifyInference * ((r.poseidonOut 0 - r.inference.outputCommit) *
      (1 - r.differ (r.poseidonOut 0) r.inference.outputCommit)) = 0 :=
    hresults _ (by simp [poseidonResults])
  have hrd : r.onInference * (r.rdValNew -
      (1 - r.differ (r.poseidonOut 0) r.inference.outputCommit)) = 0 :=
    hresults _ (by simp [poseidonResults])
  rw [← hchecks.1, hsel.self, one_mul, differ] at hdiff
  rw [onInference_of_checks hsel hchecks, one_mul, differ, inverse_witness hdiff, hout] at hrd
  rw [ColumnChain, eq_comm (a := r.inference.outputCommit), ← sub_eq_zero (b := r.inference.outputCommit)]
  split_ifs at hrd with heq
  · simp only [heq, iff_true]
    linear_combination hrd
  · simp only [heq, iff_false]
    intro hone
    rw [hone] at hrd
    norm_num at hrd

end Row

/-- The words of memory that row `i` names are a chain. -/
def MemoryChain (n : ℕ) (tr : ℕ → Row) (i : ℕ) : Prop :=
  wordAt n tr i ((tr i).rs1Val + 16) =
    hash2 (wordAt n tr i (tr i).rs1Val) (wordAt n tr i ((tr i).rs1Val + 8))

namespace BudAir

variable (air : BudAir) {pub : ℕ → Goldilocks} (tr : ℕ → Row)

/-- A `VerifyInference` row that returns 1 has a chain in memory. -/
def InferenceSound : Prop :=
  ∀ i < air.height, (tr i).ChecksInference → (tr i).rdValNew = 1 → MemoryChain air.height tr i

variable {air tr}

/-- `VerifyInference r1, r0, r0, 0`, then `Halt`. -/
def inferenceAir : BudAir where
  numSteps := 2
  program := [0x11F, 0x00]
  numSteps_le := two_steps_le
  program_le := by norm_num

/-- Ten units of gas and two steps. -/
def inferencePub : ℕ → Goldilocks := fun k => if k = 34 then 10 else if k = 38 then 2 else 0

/-- The columns of row 0 hold the hash of two zeros as the output. -/
def inventedInference : ℕ → Row
  | 0 => { Row.step .verifyInference 0 0 1 0 with
      rawInst := 0x11F
      rdIdx := 1
      rdIdxInv := 1
      rdValNew := 1
      progMult := 1
      inference := ⟨0, 0, 0, hash2 0 0⟩
      poseidon := Row.poseidonWitness (lanesOf [0, 0, 0, 0, 0, 0])
      reg := .access 0 1 0 0 0 1 0 }
  | 1 => { Row.step .halt 1 1 1 10 with
      traceLenCtr := 2, progMult := 1, reg := .access 0 2 0 0 0 0 1 }
  | 2 => { Row.padding 2 1 10 with reg := .access 0 3 1 1 1 0 0 }
  | n => Row.padding n 1 10

theorem inventedInference_satisfies : inferenceAir.Satisfies inferencePub inventedInference := by
  rw [Satisfies, height_eq_sixteen _ (by decide)]
  constructor
  case comparison => exact Row.vanish_comparisons (by decide +kernel)
  case poseidonGadget =>
    intro i hi
    cases i with
    | zero =>
      refine Row.vanish_poseidonGadget_of_witness ?_
      rw [show (inventedInference 0).poseidonInput = [0, 0, 0, 0, 0, 0] by decide +kernel]
      rfl
    | succ i =>
      have hidle : ∀ k < 15, (inventedInference (k + 1)).usesPoseidon = 0 := by decide +kernel
      exact Row.vanish_poseidonGadget (hidle i (by omega))
  all_goals decide +kernel

end BudAir

end Budlum.Zkvm
