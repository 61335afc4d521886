import Budlum.Zkvm.Rows

/-!
# Rows put on the lookups what the tables hold

Every register access and every memory access carries the clock of its row, so no two rows put the
same access on a lookup.  A row that takes part in a lookup therefore finds its access in the table.

* `Satisfies.register_supplied` : **the accesses of an instruction stand in the register table.**
* `Satisfies.memory_supplied` : **a memory access stands in the memory table.**
* `Satisfies.fetch_supplied` : **if no row weighs on the program with anything but 0 or 1, the
  instruction of a row stands in the program.**
-/

namespace Budlum.Zkvm

open Lookup

/-- Two register accesses at the same time come from the same row and the same operand. -/
theorem subclock_inj {i j s s' : ℕ} (hi : i < 2 ^ 22) (hj : j < 2 ^ 22) (hs : s < 4) (hs' : s' < 4)
    (h : (i : Goldilocks) * 4 + s = j * 4 + s') : i = j ∧ s = s' := by
  have hbound : (2 : ℕ) ^ 25 < goldilocksP := by norm_num
  have hnat : i * 4 + s = j * 4 + s' :=
    natCast_inj_of_lt (by omega) (by omega) (by push_cast; exact h)
  omega

namespace Row

variable {r : Row}

def registerAccesses (r : Row) : List Access := [r.readRs1, r.readRs2, r.writeRd]

theorem clk_of_mem_registerAccesses {a : Access} (h : a ∈ r.registerAccesses) :
    ∃ s : ℕ, s < 4 ∧ a.clk = r.clk * 4 + s := by
  simp only [registerAccesses, List.mem_cons, List.not_mem_nil, or_false] at h
  rcases h with rfl | rfl | rfl
  · exact ⟨1, by omega, by simp [readRs1]⟩
  · exact ⟨2, by omega, by simp [readRs2]⟩
  · exact ⟨3, by omega, by simp [writeRd]⟩

theorem mem_registerAccesses_of_demand {e : Goldilocks × Access} (h : e ∈ r.registerDemand) :
    e.2 ∈ r.registerAccesses := by
  simp only [registerDemand, List.mem_cons, List.not_mem_nil, or_false] at h
  rcases h with rfl | rfl | rfl <;> simp [registerAccesses]

end Row

namespace BudAir

variable {air : BudAir} {pub : ℕ → Goldilocks} {tr : ℕ → Row} {i : ℕ}

section

variable (h : air.Satisfies pub tr)

include h

/-- What a row puts on the register lookup for one of its accesses. -/
theorem Satisfies.weight_register (hi : i < air.height - 1)
    {a : Access} (ha : a ∈ (tr i).registerAccesses) :
    weightOf (traffic (air.height - 1) fun i => (tr i).registerDemand) a = (tr i).isRegActive := by
  have hle := air.height_le
  rw [weightOf_traffic_single hi]
  · -- the three accesses of the row differ in the clock
    have hclk := h.clk_eq (i := i) (by omega)
    have hne : ∀ s s' : ℕ, s < 4 → s' < 4 → s ≠ s' →
        (tr i).clk * 4 + (s : Goldilocks) ≠ (tr i).clk * 4 + s' := by
      intro s s' hs hs' hss heq
      rw [hclk] at heq
      exact hss (subclock_inj (by omega) (by omega) hs hs' heq).2
    have h12 : (tr i).readRs1 ≠ (tr i).readRs2 := fun heq =>
      hne 1 2 (by omega) (by omega) (by omega) (by push_cast; exact congrArg Access.clk heq)
    have h13 : (tr i).readRs1 ≠ (tr i).writeRd := fun heq =>
      hne 1 3 (by omega) (by omega) (by omega) (by push_cast; exact congrArg Access.clk heq)
    have h23 : (tr i).readRs2 ≠ (tr i).writeRd := fun heq =>
      hne 2 3 (by omega) (by omega) (by omega) (by push_cast; exact congrArg Access.clk heq)
    simp only [Row.registerAccesses, List.mem_cons, List.not_mem_nil, or_false] at ha
    rcases ha with rfl | rfl | rfl
    · simp [Row.registerDemand, h12.symm, h13.symm]
    · simp [Row.registerDemand, h12, h23.symm]
    · simp [Row.registerDemand, h13, h23]
  · intro j hj hne e he heq
    obtain ⟨s, hs, hclk⟩ := Row.clk_of_mem_registerAccesses ha
    obtain ⟨s', hs', hclk'⟩ :=
      Row.clk_of_mem_registerAccesses (Row.mem_registerAccesses_of_demand he)
    rw [heq, hclk, h.clk_eq (by omega), h.clk_eq (by omega)] at hclk'
    exact hne (subclock_inj (by omega) (by omega) hs hs' hclk').1.symm

/-- The register accesses of an instruction stand in the register table. -/
theorem Satisfies.register_supplied (hi : i < air.height - 1)
    (hreal : (tr i).op ≠ .halt) (hexpand : (tr i).expansion = 0) {a : Access}
    (ha : a ∈ (tr i).registerAccesses) :
    ∃ k < air.height - 1, (tr k).reg.active ≠ 0 ∧ (tr k).registerEntry = a := by
  have hactive : (tr i).isRegActive = 1 := by
    rw [Row.isRegActive, Row.isRealOp_of_selects (h.selects (by omega)), if_neg hreal, hexpand]
    ring
  obtain ⟨w, hw, hne⟩ := h.registers.exists_of_weight (a := a)
    (by rw [h.weight_register hi ha, hactive]; exact one_ne_zero)
  obtain ⟨k, hk, hmem⟩ := mem_traffic.1 hw
  obtain ⟨rfl, rfl⟩ := Prod.mk.inj (List.mem_singleton.1 hmem)
  exact ⟨k, hk, hne, rfl⟩

/-- What a row puts on the memory lookup. -/
theorem Satisfies.weight_memory (hi : i < air.height - 1) :
    weightOf (traffic (air.height - 1) fun i => (tr i).memoryDemand) (tr i).memAccess =
      (tr i).isAnyMemOp := by
  rw [weightOf_traffic_single hi]
  · simp [Row.memoryDemand]
  · intro j hj hne e he heq
    obtain rfl := List.mem_singleton.1 he
    exact hne (h.clk_inj (by omega) (by omega) (congrArg Access.clk heq))

/-- A memory access stands in the memory table. -/
theorem Satisfies.memory_supplied (hi : i < air.height - 1)
    (hop : (tr i).isAnyMemOp ≠ 0) :
    ∃ k < air.height - 1, (tr k).mem.active ≠ 0 ∧ (tr k).memoryEntry = (tr i).memAccess := by
  obtain ⟨w, hw, hne⟩ := h.memory.exists_of_weight (a := (tr i).memAccess)
    (by rw [h.weight_memory hi]; exact hop)
  obtain ⟨k, hk, hmem⟩ := mem_traffic.1 hw
  obtain ⟨rfl, hentry⟩ := Prod.mk.inj (List.mem_singleton.1 hmem)
  exact ⟨k, hk, hne, hentry.symm⟩

/-- Weights of 0 and 1 cannot cancel, so the instruction of a row stands in the program. -/
theorem Satisfies.fetch_supplied (hi : i < air.height - 1)
    (hbit : ∀ k < air.height - 1, (tr k).cpuActive * (1 - (tr k).expansion) = 0 ∨
      (tr k).cpuActive * (1 - (tr k).expansion) = 1)
    (hone : (tr i).cpuActive * (1 - (tr i).expansion) = 1) :
    ∃ k < air.program.length, air.rom k = (tr i).fetch := by
  have hle := air.height_le
  have hbound : (2 : ℕ) ^ 22 < goldilocksP := by norm_num
  -- the demand for the instruction counts the rows that fetch it
  have hcount : weightOf (traffic (air.height - 1) fun i => (tr i).programDemand) (tr i).fetch =
      (((Finset.range (air.height - 1)).filter fun k => (tr k).fetch = (tr i).fetch ∧
        (tr k).cpuActive * (1 - (tr k).expansion) = 1).card : Goldilocks) := by
    rw [weightOf_traffic, ← Finset.sum_boole]
    refine Finset.sum_congr rfl fun k hk => ?_
    rw [Row.programDemand, weightOf_cons, weightOf_nil, add_zero]
    rcases hbit k (Finset.mem_range.1 hk) with hzero | hone <;>
      by_cases hfetch : (tr k).fetch = (tr i).fetch <;> simp [*]
  have hne : weightOf (traffic (air.height - 1) fun i => (tr i).programDemand) (tr i).fetch ≠ 0 := by
    rw [hcount]
    refine natCast_ne_zero_of_lt (Finset.card_ne_zero.2 ⟨i, ?_⟩)
      (lt_of_le_of_lt (Finset.card_filter_le _ _) (by rw [Finset.card_range]; omega))
    exact Finset.mem_filter.2 ⟨Finset.mem_range.2 hi, rfl, hone⟩
  obtain ⟨w, hw, hwne⟩ := h.program.exists_of_weight hne
  obtain ⟨k, hk, hmem⟩ := mem_traffic.1 hw
  obtain ⟨rfl, hrom⟩ := Prod.mk.inj (List.mem_singleton.1 hmem)
  refine ⟨k, ?_, hrom.symm⟩
  by_contra hlen
  have hmult := h.progMult k (by omega)
  rw [romActive, if_neg hlen, sub_zero, mul_one] at hmult
  exact hwne hmult

end

end BudAir

end Budlum.Zkvm
