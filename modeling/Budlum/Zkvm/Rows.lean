import Budlum.Zkvm.Air

/-!
# What the constraints say about single rows

* `Row.Selects` : the row carries one opcode; `Satisfies.selects` : **every row does.**
* `Satisfies.clk_eq` : the clock counts the rows.
* `Satisfies.pc_succ` : the next row stands at the next pc of this one.
* `Row.step` : the row of one step with its other columns zero, from which sample traces are built.
-/

namespace Budlum.Zkvm

open Lookup

namespace Row

variable {r : Row} {o : Opcode}

/-! ### The opcode of a row -/

/-- The selector of one opcode is raised and no other. -/
def Selects (r : Row) (o : Opcode) : Prop := ∀ o', r.sel o' = if o' = o then 1 else 0

theorem Selects.self (h : r.Selects o) : r.sel o = 1 := by rw [h o, if_pos rfl]

theorem Selects.of_ne (h : r.Selects o) (o' : Opcode) (hne : o' ≠ o) : r.sel o' = 0 := by
  rw [h o', if_neg hne]

/-- The opcode whose selector is raised. -/
def op (r : Row) : Opcode := (Opcode.all.find? fun o => r.sel o = 1).getD .halt

theorem Selects.op_eq (h : r.Selects o) : r.op = o := by
  have hfind : Opcode.all.find? (fun o' => r.sel o' = 1) = some o := by
    have hpred : (fun o' => decide (r.sel o' = 1)) = fun o' => decide (o' = o) := by
      funext o'
      rw [h o']
      by_cases ho : o' = o <;> simp [ho]
    rw [hpred]
    cases o <;> rfl
  rw [op, hfind, Option.getD_some]

theorem isCpu_eq : r.isCpu = ∑ o, r.sel o := by
  rw [isCpu, isRealOp, add_comm]
  rfl

/-- The selectors are bits that add up to one. -/
theorem selects_of_vanish (h : Vanish r.selectors) : ∃ o, r.Selects o := by
  have hbits : ∀ o, r.sel o = 0 ∨ r.sel o = 1 := fun o => boolCheck_eq_zero.1 <|
    h _ (List.mem_append_left _ (List.mem_map_of_mem (Opcode.mem_all o)))
  have hsum : ∑ o, r.sel o = 1 := by
    rw [← isCpu_eq, ← sub_eq_zero]
    exact h _ (List.mem_append_right _ List.mem_cons_self)
  -- the sum counts the raised selectors, and the count is far below the modulus
  have hcount : ∑ o, r.sel o = ((Finset.univ.filter fun o => r.sel o = 1).card : Goldilocks) := by
    rw [← Finset.sum_boole]
    refine Finset.sum_congr rfl fun o _ => ?_
    rcases hbits o with ho | ho <;> simp [ho]
  have hcard : (Finset.univ.filter fun o => r.sel o = 1).card = 1 := by
    refine natCast_inj_of_lt (lt_of_le_of_lt (Finset.card_le_univ _) (by decide)) (by norm_num) ?_
    rw [← hcount, hsum, Nat.cast_one]
  obtain ⟨o, ho⟩ := Finset.card_eq_one.1 hcard
  refine ⟨o, fun o' => ?_⟩
  have hmem : r.sel o' = 1 ↔ o' = o := by
    have hfilter : o' ∈ Finset.univ.filter (fun o => r.sel o = 1) ↔ o' = o := by
      rw [ho, Finset.mem_singleton]
    simpa using hfilter
  split_ifs with heq
  · exact hmem.2 heq
  · exact (hbits o').resolve_right fun h1 => heq (hmem.1 h1)

theorem isCpu_of_selects (h : r.Selects o) : r.isCpu = 1 := by
  rw [isCpu_eq, Finset.sum_congr rfl fun o' _ => h o', Finset.sum_ite_eq', if_pos (Finset.mem_univ o)]

theorem isRealOp_of_selects (h : r.Selects o) : r.isRealOp = if o = .halt then 0 else 1 := by
  have hcpu := isCpu_of_selects h
  rw [isCpu, h .halt] at hcpu
  split_ifs with ho
  · rw [if_pos ho.symm] at hcpu
    simpa using hcpu
  · rw [if_neg (Ne.symm ho)] at hcpu
    simpa using hcpu

/-- The row carries an instruction and is not taken out of the lookups. -/
def CarriesInstruction (r : Row) : Prop :=
  r.cpuActive = 1 ∧ r.merkle.isExpand = 0 ∧ r.inference.isExpand = 0

instance (r : Row) : Decidable r.CarriesInstruction := inferInstanceAs (Decidable (_ ∧ _ ∧ _))

/-! ### Sections whose condition is off -/

theorem vanish_poseidonGadget (h : r.usesPoseidon = 0) : Vanish r.poseidonGadget := by
  intro e he
  simp only [poseidonGadget, h, zero_mul, List.mem_append, List.mem_map, List.mem_flatMap,
    List.mem_cons, List.not_mem_nil, or_false, or_self] at he
  rcases he with (⟨_, _, rfl⟩ | ⟨_, _, _, _, rfl⟩) | ⟨_, _, _, _, rfl⟩ <;> rfl

theorem vanish_poseidonGadgets {n : ℕ} {tr : ℕ → Row} (h : ∀ i < n, (tr i).usesPoseidon = 0) :
    ∀ i < n, Vanish (tr i).poseidonGadget :=
  fun i hi => vanish_poseidonGadget (h i hi)

/-- The row does not use the bit columns. -/
def NoBits (r : Row) : Prop :=
  r.sel .lt = 0 ∧ r.sel .gt = 0 ∧ r.sel .lte = 0 ∧ r.sel .gte = 0 ∧ r.sel .and = 0

instance (r : Row) : Decidable r.NoBits := inferInstanceAs (Decidable (_ ∧ _ ∧ _ ∧ _ ∧ _))

theorem vanish_comparisons {n : ℕ} {tr : ℕ → Row} (h : ∀ i < n, (tr i).NoBits) :
    ∀ i < n, Vanish (tr i).comparison := by
  intro i hi
  obtain ⟨hlt, hgt, hlte, hgte, hand⟩ := h i hi
  have hcmp : (tr i).isCmp = 0 := by simp [isCmp, hlt, hgt, hlte, hgte]
  have hbw : (tr i).isCmpOrBw = 0 := by rw [isCmpOrBw, hcmp, hand, add_zero]
  intro e he
  simp only [comparison, canonical, hcmp, hbw, hand, hlt, hgt, hlte, hgte, zero_mul,
    List.mem_append, List.mem_map, List.mem_cons, List.not_mem_nil, or_false, or_self] at he
  aesop

/-! ### Rows of sample traces -/

def blank : Row where
  clk := 0
  pc := 0
  opcode := 0
  rdIdx := 0
  rs1Idx := 0
  rs2Idx := 0
  rs1Val := 0
  rs2Val := 0
  rdValNew := 0
  nextPc := 0
  imm := 0
  rawInst := 0
  sel := fun _ => 0
  cpuActive := 0
  stackPtr := 0
  gasUsed := 0
  rdIdxInv := 0
  rs1IdxInv := 0
  jnzCond := 0
  jnzCondInv := 0
  divInv := 0
  divZero := 0
  invZero := 0
  eqDiffInv := 0
  assertInv := 0
  syscallIs1 := 0
  syscallIs2 := 0
  syscallIs3 := 0
  syscallIs6 := 0
  progMult := 0
  initRoot := fun _ => 0
  finalRoot := fun _ => 0
  eventDigest := fun _ => 0
  stateWrites := fun _ => 0
  gasLimit := 0
  traceLenCtr := 0
  exitCode := 0
  chainId := 0
  reg := ⟨0, 0, 0, 0, 0, 0, 0, 0, 0, 0⟩
  mem := ⟨0, 0, 0, 0, 0, 0, 0, 0⟩
  merkle := ⟨0, 0, 0, 0, 0, 0, 0, 0, 0, fun _ => 0, fun _ => 0⟩
  inference := ⟨0, 0, 0, 0⟩
  cmp := ⟨fun _ => 0, fun _ => 0, fun _ => 0, 0, 0, 0⟩
  poseidon := ⟨fun _ _ => 0, fun _ _ => 0, fun _ _ => 0⟩

/-- An active row with the given opcode. -/
def step (o : Opcode) (clk : ℕ) (pc nextPc gasUsed : Goldilocks) : Row :=
  { blank with
    clk := clk
    pc := pc
    opcode := o.code
    nextPc := nextPc
    sel := fun o' => if o' = o then 1 else 0
    cpuActive := 1
    gasUsed := gasUsed }

/-- A row after the end of the run. -/
def padding (clk : ℕ) (pc gasUsed : Goldilocks) : Row :=
  { step .halt clk pc pc gasUsed with cpuActive := 0 }

end Row

/-- An entry of the table of registers; the inverse witness is for small differences. -/
def RegCols.access (clk subClk idx val isWrite same sameInv : Goldilocks) : RegCols :=
  ⟨clk, subClk, idx, val, isWrite, 1, same, sameInv, 0, 0⟩

/-- An entry of the table of memory. -/
def MemCols.access (clk addr val isWrite same : Goldilocks) : MemCols :=
  ⟨clk, addr, val, isWrite, 1, same, 0, 0⟩

namespace BudAir

variable {air : BudAir} {pub : ℕ → Goldilocks} {tr : ℕ → Row} {i : ℕ}

/-! ### A run of two steps -/

/-- `Add r0, r0, r0`, then `Halt`. -/
def addingAir : BudAir where
  numSteps := 2
  program := [0x01, 0x00]
  numSteps_le := two_steps_le
  program_le := by norm_num

/-- One unit of gas and two steps. -/
def addingPub : ℕ → Goldilocks := fun k => if k = 34 then 1 else if k = 38 then 2 else 0

/-- The trace an honest prover builds for the run. -/
def addingTrace : ℕ → Row
  | 0 => { Row.step .add 0 0 1 0 with
      rawInst := 0x01, progMult := 1, reg := .access 0 1 0 0 0 1 0 }
  | 1 => { Row.step .halt 1 1 1 1 with
      traceLenCtr := 2, progMult := 1, reg := .access 0 2 0 0 0 1 0 }
  | 2 => { Row.padding 2 1 1 with reg := .access 0 3 0 0 1 0 0 }
  | n => Row.padding n 1 1

theorem addingAir_height : addingAir.height = 16 := height_eq_sixteen _ (by decide)

theorem addingTrace_satisfies : addingAir.Satisfies addingPub addingTrace := by
  rw [Satisfies, addingAir_height]
  constructor
  case comparison => exact Row.vanish_comparisons (by decide +kernel)
  case poseidonGadget => exact Row.vanish_poseidonGadgets (by decide +kernel)
  all_goals decide +kernel

/-! ### Consequences for every trace -/

section

variable (h : air.Satisfies pub tr)

include h

theorem Satisfies.selects (hi : i < air.height) : (tr i).Selects (tr i).op := by
  obtain ⟨o, ho⟩ := Row.selects_of_vanish (h.selectors i hi)
  rwa [ho.op_eq]

theorem Satisfies.clk_succ (hi : i + 1 < air.height) : (tr (i + 1)).clk = (tr i).clk + 1 := by
  have hstep := h.clockAndPc i (by omega) _ List.mem_cons_self
  rw [Row.isCpu_of_selects (h.selects (by omega)), one_mul] at hstep
  linear_combination hstep

theorem Satisfies.pc_succ (hi : i + 1 < air.height) : (tr (i + 1)).pc = (tr i).nextPc := by
  have hstep := h.clockAndPc i (by omega) _ (List.mem_cons_of_mem _ List.mem_cons_self)
  rw [Row.isCpu_of_selects (h.selects (by omega)), one_mul] at hstep
  linear_combination hstep

theorem Satisfies.clk_eq (hi : i < air.height) : (tr i).clk = i := by
  induction i with
  | zero =>
    rw [Nat.cast_zero]
    exact h.firstRow _ (by simp [Row.firstRow])
  | succ i ih =>
    rw [h.clk_succ hi, ih (by omega)]
    push_cast
    rfl

/-- No two rows have the same clock. -/
theorem Satisfies.clk_inj {j : ℕ} (hi : i < air.height)
    (hj : j < air.height) (hclk : (tr i).clk = (tr j).clk) : i = j := by
  rw [h.clk_eq hi, h.clk_eq hj] at hclk
  have hle := air.height_le
  have hbound : (2 : ℕ) ^ 22 < goldilocksP := by norm_num
  exact natCast_inj_of_lt (by omega) (by omega) hclk

end

end BudAir

end Budlum.Zkvm
