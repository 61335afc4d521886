import Budlum.Zkvm.Rows

/-!
# Control flow in the constraint system

The machine goes to `pc + 1` after most opcodes, to the target of a jump or a call, and to the top
of its stack on a return.  In a trace the pc of a row is the `nextPc` column of the row before, and
that column is pinned for jumps, calls, stack operations and the halt.  Every other opcode leaves
it to the prover.

* `vmNextPc` : where `Vm::step` goes.
* `FollowsVm` : every instruction is followed by the instruction the machine goes to.
* `Satisfies.followsVm_iff` : **a trace follows the machine exactly when the free `nextPc` columns
  do.**
-/

namespace Budlum.Zkvm

/-- The pc that `Vm::step` goes to.  A return with nothing on the stack is an error. -/
def vmNextPc (o : Opcode) (pc imm rs1 : Goldilocks) (stack : List Goldilocks) : Option Goldilocks :=
  match o with
  | .jmp | .call => some (pc + imm)
  | .jnz => some (if rs1 ≠ 0 then pc + imm else pc + 1)
  | .ret => stack.head?
  | .halt => some pc
  | _ => some (pc + 1)

/-- The stack of the machine after an instruction. -/
def vmStack (o : Opcode) (pc rs1 : Goldilocks) (stack : List Goldilocks) : List Goldilocks :=
  match o with
  | .push => rs1 :: stack
  | .call => (pc + 1) :: stack
  | .pop | .ret => stack.tail
  | _ => stack

/-- The opcodes whose successor the constraints name. -/
def pinsNextPc : Opcode → Bool
  | .jmp | .call | .jnz | .push | .pop | .halt => true
  | _ => false

/-- The stack before row `i`, replayed from the rows that carry an instruction. -/
def stackAt (tr : ℕ → Row) : ℕ → List Goldilocks
  | 0 => []
  | i + 1 =>
    if (tr i).CarriesInstruction then
      vmStack (tr i).op (tr i).pc (tr i).rs1Val (stackAt tr i)
    else stackAt tr i

/-- The pc the machine goes to after row `i`. -/
def targetAt (tr : ℕ → Row) (i : ℕ) : Option Goldilocks :=
  vmNextPc (tr i).op (tr i).pc (tr i).imm (tr i).rs1Val (stackAt tr i)

/-- Row `j` is the next one after row `i` that is not an expansion row. -/
structure NextRow (n : ℕ) (tr : ℕ → Row) (i j : ℕ) : Prop where
  lt : i < j
  inside : j < n
  between : ∀ k, i < k → k < j → (tr k).expansion ≠ 0
  unflagged : (tr j).merkle.isExpand = 0 ∧ (tr j).inference.isExpand = 0

/-- Every row that carries an instruction is followed by the row at the pc the machine goes to. -/
def FollowsVm (n : ℕ) (tr : ℕ → Row) : Prop :=
  ∀ i j, (tr i).CarriesInstruction → NextRow n tr i j → targetAt tr i = some (tr j).pc

namespace Row

variable {r : Row}

/-- The successor of a jump, a call, or a stack operation. -/
theorem nextPc_of_pinned {o : Opcode} (hsel : r.Selects o) (hjumps : Vanish r.jumps)
    (hstack : Vanish r.stackPc) (hpins : pinsNextPc o = true) (hhalt : o ≠ .halt)
    (stack : List Goldilocks) :
    vmNextPc o r.pc r.imm r.rs1Val stack = some r.nextPc := by
  cases o with
  | jmp =>
    have hjump := hjumps _ List.mem_cons_self
    rw [hsel.self, hsel.of_ne .call (by decide)] at hjump
    exact congrArg some (by linear_combination -hjump)
  | call =>
    have hjump := hjumps _ List.mem_cons_self
    rw [hsel.self, hsel.of_ne .jmp (by decide)] at hjump
    exact congrArg some (by linear_combination -hjump)
  | jnz =>
    have hinv : r.sel .jnz * (r.rs1Val * (1 - r.rs1Val * r.jnzCondInv)) = 0 :=
      hjumps _ (by simp [jumps])
    have hcond : r.sel .jnz * (r.jnzCond - r.rs1Val * r.jnzCondInv) = 0 :=
      hjumps _ (by simp [jumps])
    have htarget : r.sel .jnz * (r.nextPc -
        (r.jnzCond * (r.pc + r.imm) + (1 - r.jnzCond) * (r.pc + 1))) = 0 :=
      hjumps _ (by simp [jumps])
    rw [hsel.self, one_mul] at hinv hcond htarget
    rw [sub_eq_zero.1 hcond, inverse_witness hinv] at htarget
    refine congrArg some ?_
    by_cases hzero : r.rs1Val = 0
    · rw [if_pos hzero] at htarget
      rw [if_neg (not_not_intro hzero)]
      linear_combination -htarget
    · rw [if_neg hzero] at htarget
      rw [if_pos hzero]
      linear_combination -htarget
  | push =>
    have hpush := hstack _ List.mem_cons_self
    rw [hsel.self] at hpush
    exact congrArg some (by linear_combination -hpush)
  | pop =>
    have hpop := hstack _ (List.mem_cons_of_mem _ List.mem_cons_self)
    rw [hsel.self] at hpop
    exact congrArg some (by linear_combination -hpop)
  | halt => exact absurd rfl hhalt
  | _ => cases hpins

end Row

namespace BudAir

variable {air : BudAir} {pub : ℕ → Goldilocks} {tr : ℕ → Row}

/-- A pinned opcode goes where the machine goes. -/
theorem Satisfies.targetAt_of_pinned (h : air.Satisfies pub tr) {i : ℕ}
    (hi : i + 1 < air.height) (hpins : pinsNextPc (tr i).op = true) :
    targetAt tr i = some (tr (i + 1)).pc := by
  have hsel := h.selects (i := i) (by omega)
  by_cases hhalt : (tr i).op = .halt
  · -- the halt stays where it is
    have hstay := h.haltStep i (by omega) _ (List.mem_cons_of_mem _ List.mem_cons_self)
    rw [← hhalt, hsel.self, one_mul, sub_eq_zero] at hstay
    rw [targetAt, hhalt, hstay]
    rfl
  · rw [targetAt, h.pc_succ hi]
    exact Row.nextPc_of_pinned hsel (h.jumps i (by omega)) (h.stackPc i (by omega)) hpins hhalt _

/-- A trace follows the machine exactly when, at every instruction whose successor is not pinned to
the very next row, the last `nextPc` column before the next instruction is the pc the machine goes
to. -/
theorem Satisfies.followsVm_iff (h : air.Satisfies pub tr) :
    FollowsVm air.height tr ↔
      ∀ i j, (tr i).CarriesInstruction → NextRow air.height tr i j →
        (pinsNextPc (tr i).op = true ∧ j = i + 1) ∨ targetAt tr i = some (tr (j - 1)).nextPc := by
  have hpc : ∀ i j, NextRow air.height tr i j → (tr j).pc = (tr (j - 1)).nextPc := by
    intro i j hnext
    have hlt := hnext.lt
    have hin := hnext.inside
    have hstep := h.pc_succ (i := j - 1) (by omega)
    rwa [Nat.sub_add_cancel (by omega)] at hstep
  constructor
  · intro hfollows i j hcarries hnext
    exact .inr (hpc i j hnext ▸ hfollows i j hcarries hnext)
  · intro hfree i j hcarries hnext
    rcases hfree i j hcarries hnext with ⟨hpins, rfl⟩ | htarget
    · exact h.targetAt_of_pinned hnext.inside hpins
    · rw [htarget, hpc i j hnext]

/-- The honest run of two steps follows the machine. -/
theorem addingTrace_followsVm :
    addingAir.Satisfies addingPub addingTrace ∧ FollowsVm addingAir.height addingTrace := by
  have hflags : ∀ k < 16, (addingTrace k).expansion = 0 := by decide +kernel
  have hsteps : ∀ i < 15, (addingTrace i).CarriesInstruction →
      pinsNextPc (addingTrace i).op = true ∨
        targetAt addingTrace i = some (addingTrace i).nextPc := by decide +kernel
  refine ⟨addingTrace_satisfies, addingTrace_satisfies.followsVm_iff.2 fun i j hcarries hnext => ?_⟩
  have hin := addingAir_height ▸ hnext.inside
  obtain rfl : j = i + 1 := by
    by_contra hne
    have hlt := hnext.lt
    exact hnext.between (i + 1) (by omega) (by omega) (hflags _ (by omega))
  rcases hsteps i (by omega) hcarries with hpins | htarget
  · exact .inl ⟨hpins, rfl⟩
  · exact .inr htarget

/-! ### An addition that jumps -/

/-- `Add r0, r0, r0`, then an assertion that fails, then `Halt`. -/
def assertingAir : BudAir where
  numSteps := 2
  program := [0x01, 0x18, 0x00]
  numSteps_le := two_steps_le
  program_le := by norm_num

/-- One unit of gas and two steps. -/
def assertingPub : ℕ → Goldilocks := fun k => if k = 34 then 1 else if k = 38 then 2 else 0

/-- The addition of row 0 is followed by the halt at pc 2. -/
def skippingTrace : ℕ → Row
  | 0 => { Row.step .add 0 0 2 0 with
      rawInst := 0x01, progMult := 1, reg := .access 0 1 0 0 0 1 0 }
  | 1 => { Row.step .halt 1 2 2 1 with traceLenCtr := 2, reg := .access 0 2 0 0 0 1 0 }
  | 2 => { Row.padding 2 2 1 with progMult := 1, reg := .access 0 3 0 0 1 0 0 }
  | n => Row.padding n 2 1

theorem skippingTrace_satisfies : assertingAir.Satisfies assertingPub skippingTrace := by
  rw [Satisfies, height_eq_sixteen _ (by decide)]
  constructor
  case comparison => exact Row.vanish_comparisons (by decide +kernel)
  case poseidonGadget => exact Row.vanish_poseidonGadgets (by decide +kernel)
  all_goals decide +kernel

/-- The machine would run the assertion at pc 1, which fails; the trace halts at pc 2. -/
theorem skipped_assertion :
    assertingAir.Satisfies assertingPub skippingTrace ∧
      targetAt skippingTrace 0 = some 1 ∧ (skippingTrace 1).pc = 2 ∧
      ¬ FollowsVm assertingAir.height skippingTrace := by
  have hheight : assertingAir.height = 16 := height_eq_sixteen _ (by decide)
  refine ⟨skippingTrace_satisfies, by decide +kernel, rfl, fun hfollows => ?_⟩
  have hnext : NextRow assertingAir.height skippingTrace 0 1 :=
    ⟨by omega, by omega, fun k h0 h1 => by omega, by decide +kernel⟩
  exact absurd (hfollows 0 1 (by decide +kernel) hnext) (by decide +kernel)

end BudAir

end Budlum.Zkvm
