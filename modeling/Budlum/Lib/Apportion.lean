import Mathlib

/-!
# Dividing an amount by weights

An amount is divided among the entries of a list by their weights, each part rounded down.  What the
rounding leaves over is the sum of the remainders, in units of the total weight.

* `Apportion.parts_le` : the parts never exceed the amount.
* `Apportion.share_le_parts_iff` : when several entries get together what their joint weight is worth.
-/

namespace Apportion

variable {ι : Type*} (weight : ι → Nat) (amount total : Nat)

/-- The joint weight of some entries. -/
def weights (l : List ι) : Nat := (l.map weight).sum

/-- What some entries get together. -/
def parts (l : List ι) : Nat := (l.map fun i => amount * weight i / total).sum

/-- What the rounding takes from some entries, in units of the total weight. -/
def rests (l : List ι) : Nat := (l.map fun i => amount * weight i % total).sum

section Equations

variable (i : ι) (l : List ι)

@[simp] theorem weights_nil : weights weight [] = 0 := rfl

@[simp] theorem weights_cons : weights weight (i :: l) = weight i + weights weight l := rfl

@[simp] theorem parts_nil : parts weight amount total [] = 0 := rfl

@[simp] theorem parts_cons :
    parts weight amount total (i :: l) =
      amount * weight i / total + parts weight amount total l := rfl

@[simp] theorem rests_nil : rests weight amount total [] = 0 := rfl

@[simp] theorem rests_cons :
    rests weight amount total (i :: l) =
      amount * weight i % total + rests weight amount total l := rfl

end Equations

/-- Parts and remainders make up the joint claim. -/
theorem parts_add_rests (l : List ι) :
    total * parts weight amount total l + rests weight amount total l = amount * weights weight l := by
  induction l with
  | nil => simp
  | cons i l ih =>
    have hi := Nat.div_add_mod (amount * weight i) total
    rw [parts_cons, rests_cons, weights_cons, Nat.mul_add, Nat.mul_add, ← ih]
    omega

variable {weight amount total} {l l' : List ι}

section

variable (htotal : 0 < total)

include htotal

/-- The share of the joint weight is the parts and what the remainders make together. -/
theorem share_eq (l : List ι) :
    amount * weights weight l / total =
      parts weight amount total l + rests weight amount total l / total := by
  rw [← parts_add_rests weight amount total l, Nat.mul_add_div htotal]

theorem parts_le (h : weights weight l ≤ total) : parts weight amount total l ≤ amount := by
  have hclaim := parts_add_rests weight amount total l
  have hle : total * parts weight amount total l ≤ total * amount := by
    calc total * parts weight amount total l ≤ amount * weights weight l := by omega
      _ ≤ amount * total := Nat.mul_le_mul_left _ h
      _ = total * amount := Nat.mul_comm _ _
  exact Nat.le_of_mul_le_mul_left hle htotal

/-- What is left over when the list carries the whole weight. -/
theorem left_over (h : weights weight l = total) :
    amount - parts weight amount total l = rests weight amount total l / total := by
  have hshare : amount * weights weight l / total = _ := share_eq htotal l
  rw [h, Nat.mul_div_cancel _ htotal] at hshare
  exact Nat.sub_eq_of_eq_add' hshare

/-- Rounding entry by entry loses nothing exactly if the remainders do not make up a unit. -/
theorem share_le_parts_iff (l : List ι) :
    amount * weights weight l / total ≤ parts weight amount total l ↔
      rests weight amount total l < total := by
  rw [share_eq htotal, ← Nat.div_eq_zero_iff_lt htotal, add_le_iff_nonpos_right, Nat.le_zero]

/-- Whoever gets what is left over gets the share of its joint weight. -/
theorem share_le_parts_add_left_over (h : weights weight l' = total)
    (hsub : l.Sublist l') :
    amount * weights weight l / total ≤
      parts weight amount total l + (amount - parts weight amount total l') := by
  rw [share_eq htotal, left_over htotal h]
  exact Nat.add_le_add_left
    (Nat.div_le_div_right ((hsub.map _).sum_le_sum fun _ _ => Nat.zero_le _)) _

end

end Apportion
