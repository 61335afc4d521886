import Mathlib

/-!
# Binary hash trees, and trees kept row by row

A layer is hashed pairwise; a last node without a sibling is promoted by a function of its own.
The root is what is left when one node remains.  A tree is kept as its rows, the leaves first and the root last.  When leaves change, only the nodes
above them are computed again, row by row and within a row in any order.

* `Merkle.getElem?_parentLayer` : a node of a row is made of two nodes of the row below.
* `Merkle.refreshAbove_rows` : **recomputing the nodes above the changed leaves gives the rows of the
  tree over the new leaves.**
-/

namespace Merkle

variable {α : Type} (combine : α → α → α) (promote : α → α)

/-- The layer above a layer. -/
def parentLayer : List α → List α
  | [] => []
  | [x] => [promote x]
  | x :: y :: rest => combine x y :: parentLayer rest

theorem length_parentLayer (l : List α) :
    (parentLayer combine promote l).length = (l.length + 1) / 2 := by
  induction l using parentLayer.induct with
  | case1 => simp [parentLayer]
  | case2 x => simp [parentLayer]
  | case3 x y rest ih => simp only [parentLayer, List.length_cons, ih]; omega

/-- The root of a non-empty list of leaves. -/
def root : List α → Option α
  | [] => none
  | [x] => some x
  | x :: y :: rest => root (parentLayer combine promote (x :: y :: rest))
termination_by l => l.length
decreasing_by simp only [length_parentLayer, List.length_cons]; omega

/-- The root a leaf and its siblings lead to; the sentinel stands for a missing sibling. -/
def rootFromProof [DecidableEq α] (sentinel : α) : (index : Nat) → α → List α → α
  | _, cur, [] => cur
  | index, cur, sibling :: rest =>
    let next :=
      if sibling = sentinel then promote cur
      else if index % 2 = 0 then combine cur sibling
      else combine sibling cur
    rootFromProof sentinel (index / 2) next rest

def rows (leaves : List α) : List (List α) :=
  if 1 < leaves.length then leaves :: rows (parentLayer combine promote leaves) else [leaves]
termination_by leaves.length
decreasing_by simp only [length_parentLayer]; omega

/-- The node above two neighbours of a row. -/
def parentAt (below : List α) (p : Nat) : Option α :=
  below[2 * p]?.map fun x => below[2 * p + 1]?.elim (promote x) (combine x)

/-- Compute some nodes of a row again; there is no result if one of them is not in the row. -/
def refreshRow (below : List α) : List Nat → List α → Option (List α)
  | [], row => some row
  | p :: parents, row => do
    let x ← parentAt combine promote below p
    if p < row.length then refreshRow below parents (row.set p x) else none

/-- Compute the nodes above the affected ones of a row again, in all the rows above it. -/
def refreshAbove (order : List Nat → List Nat) (below : List α) (affected : List Nat) :
    List (List α) → Option (List (List α))
  | [] => some []
  | row :: rest =>
    if affected.isEmpty then some (row :: rest)
    else do
      let parents := order (affected.map (· / 2)).dedup
      let row ← refreshRow combine promote below parents row
      let rest ← refreshAbove order row parents rest
      return row :: rest

variable {combine promote}

theorem rows_eq_cons (leaves : List α) :
    rows combine promote leaves = leaves :: (rows combine promote leaves).tail := by
  rw [rows]
  split <;> rfl

variable {leaves : List α}

theorem rows_of_length_le (h : leaves.length ≤ 1) : rows combine promote leaves = [leaves] := by
  rw [rows, if_neg (Nat.not_lt.2 h)]

theorem rows_of_lt_length (h : 1 < leaves.length) : rows combine promote leaves = leaves :: rows
    combine promote (parentLayer combine promote leaves) := by
  rw [rows, if_pos h]

/-- The last row is the root. -/
theorem getLast?_rows (h : leaves ≠ []) : (rows combine promote leaves).getLast? =
    (root combine promote leaves).map fun x => [x] := by
  fun_induction root combine promote leaves with
  | case1 => exact absurd rfl h
  | case2 x => rw [rows_of_length_le (by simp)]; rfl
  | case3 x y rest ih =>
    rw [rows_of_lt_length (by simp), rows_eq_cons, List.getLast?_cons_cons, ← rows_eq_cons]
    exact ih (by simp [parentLayer])

theorem getElem?_parentLayer (l : List α) (p : Nat) :
    (parentLayer combine promote l)[p]? = parentAt combine promote l p := by
  induction l using parentLayer.induct generalizing p with
  | case1 => rfl
  | case2 x => cases p <;> rfl
  | case3 x y rest ih =>
    cases p with
    | zero => rfl
    | succ p => exact ih p

/-- The listed nodes are new, the others are as they were. -/
theorem refreshRow_eq {below : List α} {parents : List Nat} {row : List α}
    (hlen : row.length = (below.length + 1) / 2) (hin : ∀ p ∈ parents, p < row.length) :
    ∃ row', refreshRow combine promote below parents row = some row' ∧
      ∀ i, row'[i]? = if i ∈ parents then parentAt combine promote below i else row[i]? := by
  induction parents generalizing row with
  | nil => exact ⟨row, rfl, fun i => by simp⟩
  | cons p parents ih =>
    obtain ⟨hp, hparents⟩ := List.forall_mem_cons.1 hin
    have hchild : 2 * p < below.length := by omega
    obtain ⟨x, hx⟩ : ∃ x, parentAt combine promote below p = some x := by
      rw [parentAt, List.getElem?_eq_getElem hchild]
      exact ⟨_, rfl⟩
    obtain ⟨row', hrow', hget⟩ := @ih (row.set p x) (by rwa [List.length_set])
      (by simpa only [List.length_set] using hparents)
    refine ⟨row', by simpa only [refreshRow, hx, Option.bind_eq_bind, Option.bind_some, if_pos hp]
      using hrow', fun i => ?_⟩
    rw [hget, List.getElem?_set]
    by_cases hi : i ∈ parents
    · simp [hi]
    · by_cases hip : p = i
      · subst hip
        simp [hi, hx, hp]
      · simp [hi, hip, Ne.symm hip]

/-- Changes of a row show in the row above only over the changed nodes. -/
theorem parentAt_congr {l l' : List α} {affected : List Nat} {p : Nat}
    (hsame : ∀ i, i ∉ affected → l[i]? = l'[i]?) (hp : p ∉ affected.map (· / 2)) :
    parentAt combine promote l p = parentAt combine promote l' p := by
  have hchild : ∀ i, i / 2 = p → i ∉ affected := by
    rintro i rfl hi
    exact hp (List.mem_map.2 ⟨i, hi, rfl⟩)
  rw [parentAt, parentAt, hsame _ (hchild (2 * p) (by omega)),
    hsame _ (hchild (2 * p + 1) (by omega))]

variable {order : List Nat → List Nat} (horder : ∀ l, (order l).Perm l)

include horder

/-- **Recomputing what changed.**  The leaves `new` differ from `old` at most at the affected
positions. -/
theorem refreshAbove_rows {old new : List α} {affected : List Nat} (hlen : old.length = new.length)
    (hsame : ∀ i, i ∉ affected → old[i]? = new[i]?) (hin : ∀ i ∈ affected, i < new.length) :
    refreshAbove combine promote order new affected (rows combine promote old).tail =
      some (rows combine promote new).tail := by
  -- by recursion on the rows of the old tree
  fun_induction rows combine promote old generalizing new affected with
  | case2 old h =>
    rw [rows_of_length_le (hlen ▸ Nat.not_lt.1 h)]
    rfl
  | case1 old h ih =>
    rw [rows_of_lt_length (show 1 < new.length from hlen ▸ h), List.tail_cons, List.tail_cons,
      rows_eq_cons (parentLayer combine promote old), refreshAbove]
    split_ifs with hnone
    · have hold : old = new := List.ext_getElem? fun i =>
        hsame i (by simp [List.isEmpty_iff.1 hnone])
      rw [hold, ← rows_eq_cons]
    -- which parents are computed again does not depend on the order
    have hmem : ∀ p, p ∈ order (affected.map (· / 2)).dedup ↔ p ∈ affected.map (· / 2) := fun p =>
      (horder _).mem_iff.trans List.mem_dedup
    have hparents : ∀ p ∈ order (affected.map (· / 2)).dedup,
        p < (parentLayer combine promote old).length := by
      intro p hp
      obtain ⟨i, hi, rfl⟩ := List.mem_map.1 ((hmem p).1 hp)
      have hlt := hin i hi
      rw [length_parentLayer]
      omega
    have hrows : (parentLayer combine promote old).length = (new.length + 1) / 2 := by
      rw [length_parentLayer, hlen]
    obtain ⟨row, hrow, hget⟩ : ∃ row, refreshRow combine promote new _ _ = some row ∧ _ :=
      refreshRow_eq hrows hparents
    have hnew : row = parentLayer combine promote new := by
      refine List.ext_getElem? fun i => ?_
      rw [hget, getElem?_parentLayer, getElem?_parentLayer]
      split_ifs with hi
      · rfl
      · exact parentAt_congr hsame fun hi' => hi ((hmem i).2 hi')
    subst hnew
    simp only [hrow, Option.bind_eq_bind, Option.bind_some]
    rw [ih (by rw [length_parentLayer, length_parentLayer, hlen]) (fun i hi => ?_)
      (fun p hp => ?_), rows_eq_cons (parentLayer combine promote new)]
    · rfl
    · have := hget i
      rw [if_neg hi] at this
      exact this.symm
    · have := hparents p hp
      rwa [length_parentLayer, hlen, ← length_parentLayer combine promote] at this

end Merkle
