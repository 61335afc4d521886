import Mathlib

/-!
# Checked and saturating arithmetic on machine words

Unsigned 64-bit words with the three kinds of arithmetic a checked program uses: operations that
return `none` when the exact result does not fit, operations that stop at the end of the range,
and the exact natural-number value `toNat` in which every lemma of this file is stated, so that
`omega` can finish what follows.
-/

instance UInt64.linearOrder : LinearOrder UInt64 where
  le_refl := UInt64.le_refl
  le_trans _ _ _ := UInt64.le_trans
  le_antisymm _ _ := UInt64.le_antisymm
  le_total := UInt64.le_total
  toDecidableLE := inferInstance
  lt_iff_le_not_ge a b := by
    simp only [UInt64.lt_iff_toNat_lt, UInt64.le_iff_toNat_le]
    omega

instance UInt32.linearOrder : LinearOrder UInt32 where
  le_refl := UInt32.le_refl
  le_trans _ _ _ := UInt32.le_trans
  le_antisymm _ _ := UInt32.le_antisymm
  le_total := UInt32.le_total
  toDecidableLE := inferInstance
  lt_iff_le_not_ge a b := by
    simp only [UInt32.lt_iff_toNat_lt, UInt32.le_iff_toNat_le]
    omega

namespace UInt64

/-- The largest word. -/
def maxValue : UInt64 := 18446744073709551615

@[simp] theorem toNat_maxValue : maxValue.toNat = 18446744073709551615 := rfl

theorem toNat_lt_two_pow (a : UInt64) : a.toNat < 18446744073709551616 := a.toNat_lt

/-- The word of a natural number, when it fits. -/
def ofNat? (n : Nat) : Option UInt64 :=
  if n < 18446744073709551616 then some (UInt64.ofNat n) else none

/-- The word of a natural number, the largest word when it does not fit. -/
def clampNat (n : Nat) : UInt64 :=
  if n < 18446744073709551616 then UInt64.ofNat n else maxValue

/-- Addition that fails on overflow. -/
def checkedAdd (a b : UInt64) : Option UInt64 := ofNat? (a.toNat + b.toNat)

/-- Subtraction that fails below zero. -/
def checkedSub (a b : UInt64) : Option UInt64 :=
  if b ≤ a then some (a - b) else none

/-- Multiplication that fails on overflow. -/
def checkedMul (a b : UInt64) : Option UInt64 := ofNat? (a.toNat * b.toNat)

/-- Addition that stops at `maxValue`. -/
def saturatingAdd (a b : UInt64) : UInt64 := clampNat (a.toNat + b.toNat)

/-- Subtraction that stops at zero. -/
def saturatingSub (a b : UInt64) : UInt64 := if b ≤ a then a - b else 0

/-- Multiplication that stops at `maxValue`. -/
def saturatingMul (a b : UInt64) : UInt64 := clampNat (a.toNat * b.toNat)

variable {n : Nat} {c a b : UInt64}

theorem toNat_ofNat_of_fits (h : n < 18446744073709551616) : (UInt64.ofNat n).toNat = n := by
  simpa using Nat.mod_eq_of_lt h

theorem ofNat?_eq_some : ofNat? n = some c ↔ c.toNat = n := by
  unfold ofNat?
  split_ifs with h
  · constructor
    · rintro ⟨⟩
      exact toNat_ofNat_of_fits h
    · intro hc
      rw [← hc, UInt64.ofNat_toNat]
  · have := c.toNat_lt_two_pow
    constructor
    · rintro ⟨⟩
    · omega

theorem ofNat?_eq_none : ofNat? n = none ↔ 18446744073709551616 ≤ n := by
  unfold ofNat?
  split <;> simp <;> omega

theorem toNat_clampNat (n : Nat) : (clampNat n).toNat = min n 18446744073709551615 := by
  unfold clampNat
  split_ifs with h
  · rw [toNat_ofNat_of_fits h]; omega
  · rw [toNat_maxValue]; omega

theorem checkedAdd_eq_some : checkedAdd a b = some c ↔ c.toNat = a.toNat + b.toNat :=
  ofNat?_eq_some

theorem checkedAdd_eq_none : checkedAdd a b = none ↔ 18446744073709551616 ≤ a.toNat + b.toNat :=
  ofNat?_eq_none

theorem checkedMul_eq_some : checkedMul a b = some c ↔ c.toNat = a.toNat * b.toNat :=
  ofNat?_eq_some

theorem checkedSub_eq_some : checkedSub a b = some c ↔ c.toNat + b.toNat = a.toNat := by
  unfold checkedSub
  split_ifs with h
  · have hle := UInt64.le_iff_toNat_le.1 h
    constructor
    · rintro ⟨⟩
      rw [UInt64.toNat_sub_of_le _ _ h]; omega
    · intro hc
      congr 1
      apply UInt64.toNat_inj.1
      rw [UInt64.toNat_sub_of_le _ _ h]; omega
  · rw [UInt64.le_iff_toNat_le] at h
    constructor
    · rintro ⟨⟩
    · omega

theorem checkedSub_eq_none : checkedSub a b = none ↔ a.toNat < b.toNat := by
  unfold checkedSub
  simp only [UInt64.le_iff_toNat_le]
  split <;> simp <;> omega

theorem toNat_saturatingAdd (a b : UInt64) :
    (saturatingAdd a b).toNat = min (a.toNat + b.toNat) 18446744073709551615 :=
  toNat_clampNat _

@[simp] theorem saturatingSub_zero (a : UInt64) : saturatingSub a 0 = a := by
  simp [saturatingSub]

theorem toNat_saturatingSub (a b : UInt64) : (saturatingSub a b).toNat = a.toNat - b.toNat := by
  unfold saturatingSub
  split_ifs with h
  · exact UInt64.toNat_sub_of_le _ _ h
  · rw [UInt64.le_iff_toNat_le] at h
    have : (0 : UInt64).toNat = 0 := rfl
    omega

end UInt64

namespace UInt32

/-- Addition that fails on overflow. -/
def checkedAdd (a b : UInt32) : Option UInt32 :=
  if a.toNat + b.toNat < 4294967296 then some (a + b) else none

theorem checkedAdd_eq_some {a b c : UInt32} :
    checkedAdd a b = some c ↔ c.toNat = a.toNat + b.toNat := by
  unfold checkedAdd
  split_ifs with h
  · have hsum : (a + b).toNat = a.toNat + b.toNat := by
      rw [UInt32.toNat_add, Nat.mod_eq_of_lt h]
    constructor
    · rintro ⟨⟩
      exact hsum
    · intro hc
      exact congrArg some (UInt32.toNat_inj.1 (hsum.trans hc.symm))
  · have := c.toNat_lt
    constructor
    · rintro ⟨⟩
    · omega

end UInt32

namespace Fin

/-- Addition that fails on overflow. -/
def checkedAdd {n : Nat} (a b : Fin n) : Option (Fin n) :=
  if h : a.val + b.val < n then some ⟨a.val + b.val, h⟩ else none

theorem checkedAdd_eq_some {n : Nat} {a b c : Fin n} :
    checkedAdd a b = some c ↔ c.val = a.val + b.val := by
  unfold checkedAdd
  split
  · simp [Fin.ext_iff, eq_comm]
  · rename_i h
    constructor
    · rintro ⟨⟩
    · omega

end Fin
