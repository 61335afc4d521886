import Mathlib

/-!
# Weighted quorums

Members of a finite set carry weights.  Two sets that each weigh more than two thirds of the whole
share more than one third of it.
-/

namespace Quorum

variable {ι : Type*} [Fintype ι] [DecidableEq ι] (w : ι → ℕ)

/-- The weight of a set of members. -/
def weight (A : Finset ι) : ℕ := ∑ i ∈ A, w i

theorem weight_add_weight_le (A B : Finset ι) :
    weight w A + weight w B ≤ weight w Finset.univ + weight w (A ∩ B) := by
  have hsplit : weight w (A ∪ B) + weight w (A ∩ B) = weight w A + weight w B :=
    Finset.sum_union_inter
  have hle : weight w (A ∪ B) ≤ weight w Finset.univ :=
    Finset.sum_le_sum_of_subset (Finset.subset_univ _)
  omega

/-- **Quorums of more than two thirds intersect in more than one third.** -/
theorem third_lt_weight_inter {A B : Finset ι} (hA : 2 * weight w Finset.univ < 3 * weight w A)
    (hB : 2 * weight w Finset.univ < 3 * weight w B) :
    weight w Finset.univ < 3 * weight w (A ∩ B) := by
  have := weight_add_weight_le w A B
  omega

end Quorum
