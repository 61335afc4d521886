import Budlum.Lib.AccessTable
import Budlum.Zkvm.Traffic

/-!
# Reads and the two tables

An instruction reads two registers and may load from memory, from its stack or from storage.  Its
accesses stand in the tables, where a read copies the entry before it; but the prover orders the
tables, chooses which neighbours of the memory table count as the same address, and may leave gaps.

* `lastRegWrite`, `lastMemWrite`, `wordAt` : the latest write before a row and the memory it leaves,
  from the rows themselves.
* `BudAir.ReadsLatest` : every read has the value of the latest write.
* `Satisfies.readsLatest_iff` : when reads are right.
-/

namespace Budlum.Zkvm

open Lookup AccessTable

namespace Row

variable (r : Row)

/-- The row runs an instruction of the machine other than the halt. -/
def Runs : Prop := r.op ≠ .halt ∧ r.merkle.isExpand = 0 ∧ r.inference.isExpand = 0

instance : Decidable r.Runs := inferInstanceAs (Decidable (_ ∧ _ ∧ _))

/-- The registers that an instruction reads. -/
def regReads : List Access := [r.readRs1, r.readRs2]

/-- The word that an instruction reads.  A load with base r0 takes its immediate instead. -/
def memReads : List Access :=
  match r.op with
  | .load => if r.rs1Idx = 0 then [] else [⟨r.clk, r.rs1Val + r.imm, r.rdValNew, 0⟩]
  | .pop => [⟨r.clk, stackBase + (r.stackPtr - 1), r.rdValNew, 0⟩]
  | .ret => [⟨r.clk, stackBase + (r.stackPtr - 1), r.nextPc, 0⟩]
  | .sRead => [⟨r.clk, storageBase + r.imm, r.rdValNew, 0⟩]
  | _ => []

/-- The word that an instruction writes, with the value. -/
def memWrite : Option (Goldilocks × Goldilocks) :=
  match r.op with
  | .store => some (r.rs1Val + r.imm, r.rs2Val)
  | .push => some (stackBase + r.stackPtr, r.rs1Val)
  | .call => some (stackBase + r.stackPtr, r.pc + 1)
  | .sWrite => some (storageBase + r.imm, r.rs1Val)
  | _ => none

def regEntry : Entry Goldilocks :=
  ⟨r.reg.idx, r.reg.val, r.reg.isWrite, r.reg.active, r.reg.same, r.reg.isInit⟩

def memEntry : Entry Goldilocks :=
  ⟨r.mem.addr, r.mem.val, r.mem.isWrite, r.mem.active, r.mem.same, r.mem.isInit⟩

variable {r}

/-- What a reading row puts on the memory lookup. -/
theorem memAccess_of_mem_memReads (hsel : r.Selects r.op) (hruns : r.Runs)
    (hidx : Vanish r.registerIndices) {a : Access} (ha : a ∈ r.memReads) :
    r.memAccess = a ∧ r.isAnyMemOp = 1 ∧ a.isWrite = 0 := by
  obtain ⟨-, hmerkle, -⟩ := hruns
  have hz : r.rs1IdxZ = if r.rs1Idx = 0 then 0 else 1 :=
    inverse_witness (hidx _ (by simp [registerIndices, rs1IdxZ]))
  generalize hop : r.op = o at hsel
  cases o with
  | load =>
    simp only [memReads, hop] at ha
    split_ifs at ha with hzero
    · cases ha
    · obtain rfl := List.mem_singleton.1 ha
      rw [if_neg hzero] at hz
      simp [memAccess, finalMemAddr, cpuMemVal, isMemWrite, isAnyMemOp, isRealMemOp, isStackOp,
        isStorageOp, onOriginal, hsel _, hz, hmerkle]
  | pop | ret | sRead =>
    simp only [memReads, hop] at ha
    obtain rfl := List.mem_singleton.1 ha
    simp [memAccess, finalMemAddr, cpuMemVal, isMemWrite, isAnyMemOp, isRealMemOp, isStackOp,
      isStorageOp, stackAddr, onOriginal, hsel _, hmerkle]
  | _ =>
    simp only [memReads, hop] at ha
    cases ha

end Row

/-- The latest write to register `a` before row `i`. -/
def lastRegWrite (tr : ℕ → Row) (a : Goldilocks) : ℕ → Option Goldilocks
  | 0 => none
  | i + 1 =>
    if (tr i).Runs ∧ (tr i).rdIdx = a then some (tr i).rdWritten else lastRegWrite tr a i

/-- The latest write to the word at `a` before row `i`. -/
def lastMemWrite (tr : ℕ → Row) (a : Goldilocks) : ℕ → Option Goldilocks
  | 0 => none
  | i + 1 =>
    match (tr i).memWrite with
    | some (b, v) => if (tr i).Runs ∧ b = a then some v else lastMemWrite tr a i
    | none => lastMemWrite tr a i

/-- The two tables of a trace. -/
def regTable (tr : ℕ → Row) : ℕ → Entry Goldilocks := fun k => (tr k).regEntry
def memTable (tr : ℕ → Row) : ℕ → Entry Goldilocks := fun k => (tr k).memEntry

/-- The committed initial value of the word at `a`, zero if there is none. -/
def initialWord (n : ℕ) (tr : ℕ → Row) (a : Goldilocks) : Goldilocks :=
  ((List.range n).find? fun k => (tr k).mem.isInit = 1 ∧ (tr k).mem.addr = a).elim 0
    fun k => (tr k).mem.val

/-- The word of the machine's memory at `a` before row `i`. -/
def wordAt (n : ℕ) (tr : ℕ → Row) (i : ℕ) (a : Goldilocks) : Goldilocks :=
  (lastMemWrite tr a i).getD (initialWord n tr a)

/-- Without an initial image the words start from zero. -/
theorem initialWord_eq_zero {n : ℕ} {tr : ℕ → Row} (h : ∀ k < n, (tr k).mem.isInit ≠ 1)
    (a : Goldilocks) : initialWord n tr a = 0 := by
  have hnone : (List.range n).find?
      (fun k => (tr k).mem.isInit = 1 ∧ (tr k).mem.addr = a) = none := by
    rw [List.find?_eq_none]
    intro k hk
    simp [h k (List.mem_range.1 hk)]
  rw [initialWord, hnone, Option.elim_none]

namespace BudAir

variable (air : BudAir) {pub : ℕ → Goldilocks} (tr : ℕ → Row)

/-- Row `i` reads the latest value of the registers and of the word it reads. -/
def RowReadsLatest (i : ℕ) : Prop :=
  (∀ a ∈ (tr i).regReads,
      Latest air.height (regTable tr) (lastRegWrite tr a.addr i) a.addr a.val) ∧
    ∀ a ∈ (tr i).memReads,
      Latest air.height (memTable tr) (lastMemWrite tr a.addr i) a.addr a.val

/-- Every register read, load, pop, return and storage read has the value of the latest write
before it, or, if there is none, zero or a committed initial value. -/
def ReadsLatest : Prop := ∀ i < air.height, (tr i).Runs → air.RowReadsLatest tr i

/-- The entries of the tables for the reads of row `i` copy the latest write. -/
def TablesCopyLatest (i : ℕ) : Prop :=
  (∀ a ∈ (tr i).regReads, ∀ k < air.height - 1, (tr k).reg.active ≠ 0 →
      (tr k).registerEntry = a →
        CopiesLatest air.height (regTable tr) (lastRegWrite tr a.addr i) k) ∧
    ∀ a ∈ (tr i).memReads, ∀ k < air.height - 1, (tr k).mem.active ≠ 0 →
      (tr k).memoryEntry = a → CopiesLatest air.height (memTable tr) (lastMemWrite tr a.addr i) k

variable {air tr}

/-! ### The tables follow the discipline -/

theorem Satisfies.regDisciplined (h : air.Satisfies pub tr) :
    Disciplined air.height (regTable tr) where
  same_bit k hk := boolCheck_eq_zero.1 (h.registerTable k hk _ List.mem_cons_self)
  init_bit k hk := boolCheck_eq_zero.1
    (h.registerTable k hk _ (List.mem_cons_of_mem _ List.mem_cons_self))
  first := h.firstRow _ (by simp [Row.firstRow, regTable, Row.regEntry])
  copies k hk := h.registerTableStep k hk _ (by simp [Row.registerTableStep, regTable, Row.regEntry])
  fresh k hk := h.registerTableStep k hk _ (by simp [Row.registerTableStep, regTable, Row.regEntry])

theorem Satisfies.memDisciplined (h : air.Satisfies pub tr) :
    Disciplined air.height (memTable tr) where
  same_bit k hk := boolCheck_eq_zero.1 (h.memoryTable k hk _ List.mem_cons_self)
  init_bit k hk := boolCheck_eq_zero.1
    (h.memoryTable k hk _ (List.mem_cons_of_mem _ List.mem_cons_self))
  first := h.firstRow _ (by simp [Row.firstRow, memTable, Row.memEntry])
  copies k hk := h.memoryTableStep k hk _ (by simp [Row.memoryTableStep, memTable, Row.memEntry])
  fresh k hk := h.memoryTableStep k hk _ (by simp [Row.memoryTableStep, memTable, Row.memEntry])

/-- A row that is not the last reads right exactly when the tables copy right for it. -/
theorem Satisfies.rowReadsLatest_iff (h : air.Satisfies pub tr) {i : ℕ} (hi : i < air.height - 1)
    (hruns : (tr i).Runs) : air.RowReadsLatest tr i ↔ air.TablesCopyLatest tr i := by
  have hexpand : (tr i).expansion = 0 := by rw [Row.expansion, hruns.2.1, hruns.2.2, add_zero]
  have hread : ∀ a ∈ (tr i).regReads, a.isWrite = 0 ∧ a ∈ (tr i).registerAccesses := by
    intro a ha
    simp only [Row.regReads, List.mem_cons, List.not_mem_nil, or_false] at ha
    rcases ha with rfl | rfl <;> exact ⟨rfl, by simp [Row.registerAccesses]⟩
  have hmemRead : ∀ a ∈ (tr i).memReads,
      (tr i).memAccess = a ∧ (tr i).isAnyMemOp = 1 ∧ a.isWrite = 0 := fun a ha =>
    Row.memAccess_of_mem_memReads (h.selects (by omega)) hruns (h.registerIndices i (by omega)) ha
  -- an entry that supplies a read is a read with the same address and value
  have hreg : ∀ a ∈ (tr i).regReads, ∀ k < air.height - 1, (tr k).reg.active ≠ 0 →
      (tr k).registerEntry = a →
        (Latest air.height (regTable tr) (lastRegWrite tr a.addr i) a.addr a.val ↔
          CopiesLatest air.height (regTable tr) (lastRegWrite tr a.addr i) k) := by
    rintro a ha k hk hactive rfl
    exact h.regDisciplined.latest_iff (by omega) hactive (hread _ ha).1 _
  have hmem : ∀ a ∈ (tr i).memReads, ∀ k < air.height - 1, (tr k).mem.active ≠ 0 →
      (tr k).memoryEntry = a →
        (Latest air.height (memTable tr) (lastMemWrite tr a.addr i) a.addr a.val ↔
          CopiesLatest air.height (memTable tr) (lastMemWrite tr a.addr i) k) := by
    rintro a ha k hk hactive rfl
    exact h.memDisciplined.latest_iff (by omega) hactive (hmemRead _ ha).2.2 _
  constructor
  · rintro ⟨hregs, hmems⟩
    exact ⟨fun a ha k hk hactive hentry => (hreg a ha k hk hactive hentry).1 (hregs a ha),
      fun a ha k hk hactive hentry => (hmem a ha k hk hactive hentry).1 (hmems a ha)⟩
  · rintro ⟨hregs, hmems⟩
    refine ⟨fun a ha => ?_, fun a ha => ?_⟩
    · obtain ⟨k, hk, hactive, hentry⟩ := h.register_supplied hi hruns.1 hexpand (hread a ha).2
      exact (hreg a ha k hk hactive hentry).2 (hregs a ha k hk hactive hentry)
    · obtain ⟨haccess, hop, -⟩ := hmemRead a ha
      obtain ⟨k, hk, hactive, hentry⟩ := h.memory_supplied hi (by rw [hop]; exact one_ne_zero)
      rw [haccess] at hentry
      exact (hmem a ha k hk hactive hentry).2 (hmems a ha k hk hactive hentry)

/-- `Log r1`, then `Halt`. -/
def loggingAir : BudAir where
  numSteps := 2
  program := [0x201A, 0x00]
  numSteps_le := two_steps_le
  program_le := by norm_num

/-- One unit of gas, two steps, and the event 5. -/
def loggingPub : ℕ → Goldilocks := fun k =>
  if k = 34 then 1 else if k = 38 then 2 else if k = 40 then 5 else 0

/-- The read of r1 stands in the register table after a gap. -/
def inventingTrace : ℕ → Row
  | 0 => { Row.step .log 0 0 1 0 with
      rawInst := 0x201A
      rs1Idx := 1
      rs1IdxInv := 1
      rs1Val := 5
      eventDigest := fun j => if j = 0 then 5 else 0
      progMult := 1
      reg := .access 0 2 0 0 0 1 0 }
  | 1 => { Row.step .halt 1 1 1 1 with
      eventDigest := fun j => if j = 0 then 5 else 0
      traceLenCtr := 2
      progMult := 1
      reg := .access 0 3 0 0 1 0 0 }
  | 2 => { Row.padding 2 1 1 with eventDigest := fun j => if j = 0 then 5 else 0 }
  | 3 => { Row.padding 3 1 1 with reg := .access 0 1 1 5 0 0 0 }
  | n => Row.padding n 1 1

theorem inventingTrace_satisfies : loggingAir.Satisfies loggingPub inventingTrace := by
  rw [Satisfies, height_eq_sixteen _ (by decide)]
  constructor
  case comparison => exact Row.vanish_comparisons (by decide +kernel)
  case poseidonGadget => exact Row.vanish_poseidonGadgets (by decide +kernel)
  all_goals decide +kernel

end BudAir

end Budlum.Zkvm
