import Mathlib

/-!
# Weighted lookups

A lookup argument compares two sides row by row, each row putting a few weighted values on its
side.  Over random challenges the running sums agree exactly when every value has the same total
weight on both sides, and that is how a lookup is read here.

* `weightOf` : the total weight a side gives to a value.
* `Balanced` : **both sides give every value the same weight.**
* `Balanced.exists_of_weight` : a value with weight on one side stands on the other.
-/

namespace Budlum.Lookup

variable {F α : Type*} [AddCommMonoid F] [DecidableEq α] {l : List (F × α)} {a : α}

/-- The total weight of a value on one side. -/
def weightOf : List (F × α) → α → F
  | [], _ => 0
  | e :: l, a => (if e.2 = a then e.1 else 0) + weightOf l a

@[simp] theorem weightOf_nil (a : α) : weightOf ([] : List (F × α)) a = 0 := rfl

@[simp] theorem weightOf_cons (e : F × α) (l : List (F × α)) (a : α) :
    weightOf (e :: l) a = (if e.2 = a then e.1 else 0) + weightOf l a := rfl

theorem weightOf_append (l m : List (F × α)) (a : α) :
    weightOf (l ++ m) a = weightOf l a + weightOf m a := by
  induction l with
  | nil => simp
  | cons e l ih => simp [ih, add_assoc]

theorem weightOf_of_notMem (h : ∀ e ∈ l, e.2 ≠ a) : weightOf l a = 0 := by
  induction l with
  | nil => rfl
  | cons e l ih =>
    rw [weightOf_cons, if_neg (h e List.mem_cons_self), zero_add]
    exact ih fun e' he' => h e' (List.mem_cons_of_mem _ he')

/-- A value with weight stands in the list with weight. -/
theorem exists_of_weightOf_ne_zero (h : weightOf l a ≠ 0) : ∃ w, (w, a) ∈ l ∧ w ≠ 0 := by
  induction l with
  | nil => exact absurd rfl h
  | cons e l ih =>
    by_cases he : e.2 = a ∧ e.1 ≠ 0
    · exact ⟨e.1, by rw [← he.1]; exact List.mem_cons_self, he.2⟩
    · have hrest : weightOf l a ≠ 0 := by
        intro hzero
        refine h ?_
        rw [weightOf_cons, hzero, add_zero]
        split_ifs with ha
        · by_contra hw
          exact he ⟨ha, hw⟩
        · rfl
      obtain ⟨w, hw, hne⟩ := ih hrest
      exact ⟨w, List.mem_cons_of_mem _ hw, hne⟩

/-- What the first `n` rows put on a side. -/
def traffic (n : ℕ) (row : ℕ → List (F × α)) : List (F × α) :=
  (List.range n).flatMap row

theorem weightOf_traffic (n : ℕ) (row : ℕ → List (F × α)) (a : α) :
    weightOf (traffic n row) a = ∑ i ∈ Finset.range n, weightOf (row i) a := by
  induction n with
  | zero => rfl
  | succ n ih =>
    rw [traffic, List.range_succ, List.flatMap_append, weightOf_append, Finset.sum_range_succ,
      ← ih, traffic, List.flatMap_singleton]

variable {row : ℕ → List (F × α)} {m : List (F × α)}

omit [AddCommMonoid F] [DecidableEq α] in
theorem mem_traffic {n : ℕ} {e : F × α} : e ∈ traffic n row ↔ ∃ i < n, e ∈ row i := by
  simp [traffic]

/-- A value that only one row puts on a side has the weight that row gives it. -/
theorem weightOf_traffic_single {n i : ℕ} (hi : i < n)
    (h : ∀ j < n, j ≠ i → ∀ e ∈ row j, e.2 ≠ a) : weightOf (traffic n row) a = weightOf (row i)
    a := by
  rw [weightOf_traffic]
  refine Finset.sum_eq_single i (fun j hj hne => ?_) fun hmem => ?_
  · exact weightOf_of_notMem (h j (Finset.mem_range.1 hj) hne)
  · exact absurd (Finset.mem_range.2 hi) hmem

/-- Both sides give every value the same weight. -/
def Balanced (l m : List (F × α)) : Prop :=
  ∀ a, weightOf l a = weightOf m a

/-- Only the values that stand on a side have to be compared. -/
theorem balanced_iff : Balanced l m ↔ ∀ a ∈ (l ++ m).map (·.2), weightOf l
    a = weightOf m a := by
  refine ⟨fun h a _ => h a, fun h a => ?_⟩
  by_cases ha : a ∈ (l ++ m).map (·.2)
  · exact h a ha
  · simp only [List.map_append, List.mem_append, List.mem_map, not_or, not_exists, not_and] at ha
    rw [weightOf_of_notMem ha.1, weightOf_of_notMem ha.2]

instance [DecidableEq F] (l m : List (F × α)) : Decidable (Balanced l m) :=
  have := List.decidableBAll (fun a => weightOf l a = weightOf m a) ((l ++ m).map (·.2))
  decidable_of_iff _ balanced_iff.symm

/-- A value with weight on one side stands on the other. -/
theorem Balanced.exists_of_weight (h : Balanced l m)
    (ha : weightOf l a ≠ 0) : ∃ w, (w, a) ∈ m ∧ w ≠ 0 :=
  exists_of_weightOf_ne_zero (h a ▸ ha)

end Budlum.Lookup
