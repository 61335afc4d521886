import Budlum.Zkvm.Traffic

/-!
# Rows that come from the program

`VerifyMerkle` is followed by 64 expansion rows and `VerifyInference` by 8, which carry no
instruction: a flag takes them out of the program and the register lookup.  The flag of an inference
expansion is tied to its opcode.  The flag of a Merkle expansion is only a bit, and nothing counts
the expansion rows or places them after their instruction.

* `BudAir.Accounted` : the row is an instruction of the program with its register accesses.
* `MerkleExpansion`, `InferenceExpansion` : the row is an expansion row where the machine puts one.
* `Satisfies.fromProgram_iff` : when the rows come from the program.
-/

namespace Budlum.Zkvm

open Lookup

/-- One of the `count` rows right after an active row of the given opcode, all of them flagged. -/
def ExpansionAfter (o : Opcode) (count : ℕ) (flagged : Row → Prop) (n : ℕ) (tr : ℕ → Row) (i : ℕ) :
    Prop :=
  ∃ j, j < i ∧ i ≤ j + count ∧ j + count < n ∧ (tr j).CarriesInstruction ∧ (tr j).op = o ∧
    ∀ k, j < k → k ≤ j + count → (tr k).op = o ∧ flagged (tr k)

def MerkleExpansion : (n : ℕ) → (tr : ℕ → Row) → (i : ℕ) → Prop :=
  ExpansionAfter .verifyMerkle 64 fun r => r.merkle.isExpand = 1 ∧ r.inference.isExpand = 0

def InferenceExpansion : (n : ℕ) → (tr : ℕ → Row) → (i : ℕ) → Prop :=
  ExpansionAfter .verifyInference 8 fun r => r.merkle.isExpand = 0 ∧ r.inference.isExpand = 1

/-- The row is marked as an expansion of either kind. -/
def Row.Flagged (r : Row) : Prop := r.merkle.isExpand ≠ 0 ∨ r.inference.isExpand ≠ 0

theorem Row.not_flagged {r : Row} :
    ¬ r.Flagged ↔ r.merkle.isExpand = 0 ∧ r.inference.isExpand = 0 := by
  rw [Row.Flagged, not_or, not_not, not_not]

theorem expansion_of_merkleExpansion {n i : ℕ} {tr : ℕ → Row} (h : MerkleExpansion n tr i) :
    (tr i).expansion = 1 ∧ (tr i).Flagged := by
  obtain ⟨j, hlt, hle, -, -, -, hflags⟩ := h
  obtain ⟨-, hmerkle, hinference⟩ := hflags i hlt hle
  exact ⟨by rw [Row.expansion, hmerkle, hinference, add_zero],
    .inl (by rw [hmerkle]; exact one_ne_zero)⟩

theorem expansion_of_inferenceExpansion {n i : ℕ} {tr : ℕ → Row} (h : InferenceExpansion n tr i) :
    (tr i).expansion = 1 ∧ (tr i).Flagged := by
  obtain ⟨j, hlt, hle, -, -, -, hflags⟩ := h
  obtain ⟨-, hmerkle, hinference⟩ := hflags i hlt hle
  exact ⟨by rw [Row.expansion, hmerkle, hinference, zero_add],
    .inr (by rw [hinference]; exact one_ne_zero)⟩

namespace BudAir

variable (air : BudAir) {pub : ℕ → Goldilocks} (tr : ℕ → Row)

/-- The row is an instruction of the program at its pc, and unless it halts its register accesses
stand in the register table. -/
structure Accounted (i : ℕ) : Prop where
  fetched : ∃ k < air.program.length, air.rom k = (tr i).fetch
  registers : (tr i).op ≠ .halt → ∀ a ∈ (tr i).registerAccesses,
    ∃ k < air.height - 1, (tr k).reg.active ≠ 0 ∧ (tr k).registerEntry = a

/-- Every active row is an instruction of the program or an expansion row in its place. -/
def FromProgram : Prop :=
  ∀ i < air.height, (tr i).cpuActive = 1 →
    (¬ (tr i).Flagged ∧ air.Accounted tr i) ∨ MerkleExpansion air.height tr i ∨
      InferenceExpansion air.height tr i

variable {air tr}

/-- An unflagged row before the last is accounted for, as long as all flags are in their place. -/
theorem Satisfies.accounted (h : air.Satisfies pub tr)
    (hflags : ∀ i < air.height, (tr i).cpuActive = 1 → (tr i).Flagged →
      MerkleExpansion air.height tr i ∨ InferenceExpansion air.height tr i)
    {i : ℕ} (hi : i < air.height - 1) (hactive : (tr i).cpuActive = 1)
    (hplain : ¬ (tr i).Flagged) : air.Accounted tr i := by
  have hexpand : ∀ {k}, ¬ (tr k).Flagged → (tr k).expansion = 0 := fun hk => by
    rw [Row.expansion, (Row.not_flagged.1 hk).1, (Row.not_flagged.1 hk).2, add_zero]
  refine ⟨h.fetch_supplied hi (fun k hk => ?_) ?_, fun hreal a ha =>
    h.register_supplied hi hreal (hexpand hplain) ha⟩
  · rcases boolCheck_eq_zero.1 (h.activity k (by omega) _ List.mem_cons_self) with hoff | hon
    · exact .inl (by rw [hoff, zero_mul])
    · by_cases hflag : (tr k).Flagged
      · have hone : (tr k).expansion = 1 := by
          rcases hflags k (by omega) hon hflag with hproper | hproper
          · exact (expansion_of_merkleExpansion hproper).1
          · exact (expansion_of_inferenceExpansion hproper).1
        exact .inl (by rw [hone, sub_self, mul_zero])
      · exact .inr (by rw [hon, hexpand hflag, sub_zero, mul_one])
  · rw [hactive, hexpand hplain, sub_zero, mul_one]

/-- The rows come from the program exactly when every active flagged row is an expansion row in its
place, and the last row, if it is active and unflagged, is accounted for. -/
theorem Satisfies.fromProgram_iff (h : air.Satisfies pub tr) :
    air.FromProgram tr ↔
      (∀ i < air.height, (tr i).cpuActive = 1 → (tr i).Flagged →
        MerkleExpansion air.height tr i ∨ InferenceExpansion air.height tr i) ∧
      ((tr (air.height - 1)).cpuActive = 1 → ¬ (tr (air.height - 1)).Flagged →
        air.Accounted tr (air.height - 1)) := by
  have hpos := air.sixteen_le_height
  constructor
  · intro hprogram
    refine ⟨fun i hi hactive hflag => ?_, fun hactive hplain => ?_⟩
    · exact (hprogram i hi hactive).resolve_left fun hin => hin.1 hflag
    · rcases hprogram _ (by omega) hactive with hin | hproper | hproper
      · exact hin.2
      · exact absurd (expansion_of_merkleExpansion hproper).2 hplain
      · exact absurd (expansion_of_inferenceExpansion hproper).2 hplain
  · rintro ⟨hflags, hlast⟩ i hi hactive
    by_cases hflag : (tr i).Flagged
    · exact .inr (hflags i hi hactive hflag)
    · refine .inl ⟨hflag, ?_⟩
      rcases Nat.lt_or_ge i (air.height - 1) with hlt | hge
      · exact h.accounted hflags hlt hactive hflag
      · obtain rfl : i = air.height - 1 := by omega
        exact hlast hactive hflag

/-- The honest run of two steps comes from its program. -/
theorem addingTrace_fromProgram :
    addingAir.Satisfies addingPub addingTrace ∧ addingAir.FromProgram addingTrace := by
  have hflags : ∀ k < 16, (addingTrace k).merkle.isExpand = 0 ∧
      (addingTrace k).inference.isExpand = 0 := by decide +kernel
  refine ⟨addingTrace_satisfies, addingTrace_satisfies.fromProgram_iff.2
    ⟨fun i hi _ hflag => ?_, fun hactive => ?_⟩⟩
  · exact absurd hflag (Row.not_flagged.2 (hflags i (addingAir_height ▸ hi)))
  · rw [addingAir_height] at hactive
    exact absurd hactive (by decide +kernel)

/-! ### An instruction that the program does not have -/

/-- The program that halts at once. -/
def haltingAir : BudAir where
  numSteps := 2
  program := [0x00]
  numSteps_le := two_steps_le
  program_le := by norm_num

/-- One unit of gas and two steps. -/
def haltingPub : ℕ → Goldilocks := fun k => if k = 34 then 1 else if k = 38 then 2 else 0

/-- An addition at pc 0, flagged as an expansion row, and then the halt at pc 0. -/
def foreignTrace : ℕ → Row
  | 0 => { Row.step .add 0 0 0 0 with
      progMult := 1
      mem := .access 0 8 0 0 0
      merkle :=
        { Row.blank.merkle with
          isExpand := 1
          finalFlag := merkleStep 0 0
          x2 := fun i => roundConstant 0 i ^ 2
          x4 := fun i => roundConstant 0 i ^ 4 } }
  | 1 => { Row.step .halt 1 0 0 1 with traceLenCtr := 2 }
  | n => Row.padding n 0 1

theorem foreignTrace_satisfies : haltingAir.Satisfies haltingPub foreignTrace := by
  rw [Satisfies, height_eq_sixteen _ (by decide)]
  constructor
  case comparison => exact Row.vanish_comparisons (by decide +kernel)
  case poseidonGadget => exact Row.vanish_poseidonGadgets (by decide +kernel)
  all_goals decide +kernel

/-- The only word of the program is `Halt`, and the first row adds. -/
theorem foreign_instruction :
    haltingAir.Satisfies haltingPub foreignTrace ∧ (foreignTrace 0).cpuActive = 1 ∧
      (foreignTrace 0).op = .add ∧ (∀ k < haltingAir.program.length,
        haltingAir.rom k ≠ (foreignTrace 0).fetch) ∧
      ¬ haltingAir.FromProgram foreignTrace := by
  have hheight : haltingAir.height = 16 := height_eq_sixteen _ (by decide)
  refine ⟨foreignTrace_satisfies, rfl, by decide +kernel, by decide +kernel, fun hprogram => ?_⟩
  rcases hprogram 0 (by omega) rfl with hin | ⟨j, hlt, -⟩ | ⟨j, hlt, -⟩
  · exact hin.1 (.inl (by decide +kernel))
  · omega
  · omega

end BudAir

end Budlum.Zkvm
