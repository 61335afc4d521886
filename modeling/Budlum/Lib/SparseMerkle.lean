import Mathlib

/-!
# Sparse Merkle tries

A trie of fixed depth in which the bits of a key say where its entry is.  A subtree without entries
has the digest zero and is not hashed, so that absence is shown in the same way as presence: by a
walk to the root, from the empty leaf.

* `Scheme.hash` : the digest of the entries below a level.
* `Scheme.climb` : the walk from a leaf towards the root.
* `Scheme.climb_eq_hash` : **the walk past the trie's own siblings ends at its root.**
* `Scheme.leaf_of_climb` : **a walk that ends at the root starts at the trie's own leaf**, whatever
  siblings it passes, if the pairs that are hashed do not collide.
-/

namespace SparseMerkle

/-- The turns of a key, and the digests of a leaf and of two children. -/
structure Scheme (κ ν δ : Type*) where
  bit : κ → Nat → Bool
  leaf : κ → ν → δ
  node : δ × δ → δ

/-- A node and its sibling, the left one first. -/
def children {δ : Type*} (right : Bool) (sibling current : δ) : δ × δ :=
  if right then (sibling, current) else (current, sibling)

theorem children_inj {δ : Type*} {right : Bool} {s c s' c' : δ} :
    children right s c = children right s' c' ↔ s = s' ∧ c = c' := by
  cases right <;> simp [children, and_comm]

namespace Scheme

variable {κ ν δ : Type*} [Zero δ] [DecidableEq δ] (S : Scheme κ ν δ)

/-- Two empty children make an empty node. -/
def combine (p : δ × δ) : δ := if p = 0 then 0 else S.node p

/-- The digest of entries that agree before a level, with `depth` levels to go. -/
def hash : (depth level : Nat) → List (κ × ν) → δ
  | _, _, [] => 0
  | 0, _, e :: _ => S.leaf e.1 e.2
  | depth + 1, level, e :: es =>
    S.combine (hash depth (level + 1) ((e :: es).filter fun e => !S.bit e.1 level),
      hash depth (level + 1) ((e :: es).filter fun e => S.bit e.1 level))

/-- The pairs that are combined on the way to the digest. -/
def pairs : (depth level : Nat) → List (κ × ν) → List (δ × δ)
  | _, _, [] => []
  | 0, _, _ :: _ => []
  | depth + 1, level, e :: es =>
    let left := (e :: es).filter fun e => !S.bit e.1 level
    let right := (e :: es).filter fun e => S.bit e.1 level
    (S.hash depth (level + 1) left, S.hash depth (level + 1) right) ::
      pairs depth (level + 1) left ++ pairs depth (level + 1) right

/-- The digest that `n` steps from a leaf lead to. -/
def climb (turns : Nat → Bool) (siblings : Nat → δ) (leaf : δ) (n : Nat) : δ :=
  (List.range n).foldl (fun current i => S.combine (children (turns i) (siblings i) current)) leaf

/-- The pairs that are combined in `n` steps. -/
def climbed (turns : Nat → Bool) (siblings : Nat → δ) (leaf : δ) (n : Nat) : List (δ × δ) :=
  (List.range n).map fun i => children (turns i) (siblings i) (S.climb turns siblings leaf i)

/-- The pairs that are hashed: a pair of empty children is not. -/
def hashed (l : List (δ × δ)) : List (δ × δ) := l.filter fun p => decide (p ≠ 0)

/-- The pairs have different digests, and none of them is the digest of nothing. -/
structure Sound (l : List (δ × δ)) : Prop where
  inj : ∀ p ∈ l, ∀ q ∈ l, S.node p = S.node q → p = q
  ne_zero : ∀ p ∈ l, S.node p ≠ 0

/-- The keys agree on the bits before a level. -/
def agrees (k : κ) (level : Nat) (x : κ) : Bool :=
  (List.range level).all fun i => S.bit x i == S.bit k i

/-- The entries below a node on the path of a key. -/
def below (k : κ) (level : Nat) (es : List (κ × ν)) : List (κ × ν) :=
  es.filter fun e => S.agrees k level e.1

/-- The entries below its sibling one level down. -/
def aside (k : κ) (level : Nat) (es : List (κ × ν)) : List (κ × ν) :=
  es.filter fun e => S.agrees k level e.1 && S.bit e.1 level != S.bit k level

/-- The children of a node on the path of a key. -/
def pathPair (k : κ) (depth level : Nat) (es : List (κ × ν)) : δ × δ :=
  children (S.bit k level) (S.hash depth (level + 1) (S.aside k level es))
    (S.hash depth (level + 1) (S.below k (level + 1) es))

variable {S} {turns : Nat → Bool} {siblings : Nat → δ} {leaf : δ} {k : κ} {es : List (κ × ν)}

theorem combine_inj {l : List (δ × δ)} (hsound : S.Sound (hashed l)) {p q : δ × δ}
    (hp : p ≠ 0 → p ∈ l) (hq : q ≠ 0 → q ∈ l) (h : S.combine p = S.combine q) : p = q := by
  have hmem : ∀ {p}, (p ≠ 0 → p ∈ l) → p ≠ 0 → p ∈ hashed l := fun hp hne => by
    simp [hashed, hp hne, hne]
  unfold combine at h
  split_ifs at h with hp0 hq0 hq0
  · rw [hp0, hq0]
  · exact absurd h.symm (hsound.ne_zero q (hmem hq hq0))
  · exact absurd h (hsound.ne_zero p (hmem hp hp0))
  · exact hsound.inj p (hmem hp hp0) q (hmem hq hq0) h

theorem hash_nil (depth level : Nat) : S.hash depth level [] = 0 := by
  cases depth <;> rfl

omit [Zero δ] [DecidableEq δ] in
theorem below_succ (level : Nat) : S.below k (level + 1) es =
    (S.below k level es).filter fun e => S.bit e.1 level == S.bit k level := by
  simp [below, agrees, List.range_succ, List.filter_filter, Bool.and_comm]

omit [Zero δ] [DecidableEq δ] in
theorem aside_eq (level : Nat) : S.aside k level es =
    (S.below k level es).filter fun e => S.bit e.1 level != S.bit k level := by
  simp only [below, aside, List.filter_filter, Bool.and_comm]

theorem hash_below (depth level : Nat) : S.hash (depth + 1) level (S.below k level es) =
    S.combine (S.pathPair k depth level es) := by
  rw [pathPair, below_succ, aside_eq]
  cases S.below k level es with
  | nil => cases S.bit k level <;> simp [hash_nil, children, combine]
  | cons e es => cases S.bit k level <;> simp [hash, children]

/-- What is combined at a node on the path and below its child on the path. -/
theorem pairs_below (S : Scheme κ ν δ) (k : κ) (es : List (κ × ν)) (depth level : Nat) :
    (S.pathPair k depth level es ≠ 0 →
      S.pathPair k depth level es ∈ S.pairs (depth + 1) level (S.below k level es)) ∧
    S.pairs depth (level + 1) (S.below k (level + 1) es) ⊆
      S.pairs (depth + 1) level (S.below k level es) := by
  rw [pathPair, below_succ, aside_eq]
  cases S.below k level es with
  | nil =>
    refine ⟨fun h => absurd ?_ h, ?_⟩
    · cases S.bit k level <;> simp [hash_nil, children]
    · cases depth <;> simp [pairs]
  | cons e es =>
    refine ⟨fun _ => ?_, fun p hp => ?_⟩
    · cases S.bit k level <;> simp [pairs, children]
    · cases hk : S.bit k level <;> simp only [hk, beq_false, beq_true] at hp <;> simp [pairs, hp]

theorem climb_succ (n : Nat) : S.climb turns siblings leaf (n + 1) =
    S.combine (children (turns n) (siblings n) (S.climb turns siblings leaf n)) := by
  simp [climb, List.range_succ]

/-- The walk past the siblings of the trie passes the nodes of the trie. -/
theorem climb_eq_hash {N : Nat} (hturns : ∀ i < N, turns i = S.bit k (N - 1 - i))
    (hleaf : leaf = S.hash 0 N (S.below k N es))
    (hsiblings : ∀ i < N, siblings i = S.hash i (N - i) (S.aside k (N - 1 - i) es)) {n : Nat}
    (hn : n ≤ N) : S.climb turns siblings leaf n = S.hash n (N - n) (S.below k (N - n) es) := by
  induction n with
  | zero => exact hleaf
  | succ n ih =>
    have hlevel : N - n = N - 1 - n + 1 := by omega
    have hnext : N - (n + 1) = N - 1 - n := by omega
    rw [climb_succ, ih (by omega), hturns n (by omega), hsiblings n (by omega), hlevel, hnext,
      hash_below, pathPair]

/-- A walk to the root of the trie starts at the leaf of the trie. -/
theorem leaf_of_climb {N : Nat} (hturns : ∀ i < N, turns i = S.bit k (N - 1 - i))
    (hsound : S.Sound (hashed (S.pairs N 0 es ++ S.climbed turns siblings leaf N)))
    (hroot : S.climb turns siblings leaf N = S.hash N 0 es) :
    leaf = S.hash 0 N (S.below k N es) := by
  -- from the root down: each node of the walk is the node of the trie on the path of the key
  have hnodes : ∀ level ≤ N, S.climb turns siblings leaf (N - level) =
      S.hash (N - level) level (S.below k level es) ∧
        S.pairs (N - level) level (S.below k level es) ⊆ S.pairs N 0 es := by
    intro level hlevel
    induction level with
    | zero => simpa [below, agrees] using hroot
    | succ level ih =>
      obtain ⟨hnode, hpairs⟩ := ih (by omega)
      obtain ⟨n, hn⟩ : ∃ n, N - level = n + 1 := ⟨N - level - 1, by omega⟩
      have hnext : N - (level + 1) = n := by omega
      have hturn : turns n = S.bit k level := by
        rw [hturns n (by omega), show N - 1 - n = level by omega]
      rw [hn] at hnode hpairs
      rw [hnext]
      obtain ⟨hpair, hchild⟩ := pairs_below S k es n level
      rw [climb_succ, hash_below, hturn] at hnode
      refine ⟨(children_inj.1 (combine_inj hsound (fun _ => ?_) (fun h => ?_) hnode)).2,
        List.Subset.trans hchild hpairs⟩
      · refine List.mem_append_right _ (List.mem_map.2 ⟨n, List.mem_range.2 (by omega), ?_⟩)
        rw [hturn]
      · exact List.mem_append_left _ (hpairs (hpair h))
  simpa [climb] using (hnodes N (Nat.le_refl N)).1

end Scheme

end SparseMerkle
