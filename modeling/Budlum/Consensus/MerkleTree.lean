import Budlum.Consensus.Engine
import Budlum.Lib.MerkleTerm

/-!
# The shared hash tree

One tree shape is used for every commitment of the chain; the two hash functions are parameters.

* `MerkleTree.merkleProof_binds_iff` : **the proof of a leaf leads to the root; a proof that leads to
  the root proves the leaf at its index exactly when it starts below the inner nodes and its index
  has no bits that the walk does not read.**
* `MerkleTree.merkleRoot_binds_iff` : **equal roots mean equal lists, unless one of them is empty.**
-/

namespace Budlum

namespace MerkleTree

open Merkle (Hashing Term Separates)

variable (C : Crypto) (H : Hashing Hash32) (leaves : List Hash32)

/-- All layers of the tree, leaf layer first, root last. -/
def merkleLayers : List (List Hash32) :=
  if leaves.isEmpty then [] else Merkle.rows H.combine H.promote leaves

/-- The root digest, or all zeros for an empty tree. -/
def merkleRoot : Hash32 := ((merkleLayers H leaves).getLast?.bind List.head?).getD 0

/-- The sibling digests from the leaf at an index to the root. -/
def merkleProof (leafIndex : Nat) : Option (List Hash32) :=
  if leaves.isEmpty || leaves.length ≤ leafIndex then none
  else some (Merkle.siblings (oddPromotionSentinel C) leafIndex (merkleLayers H leaves))

/-- The root a verifier rebuilds from a proof alone. -/
def merkleRootFromProof (leaf : Hash32) (index : Nat) (siblings : List Hash32) : Hash32 :=
  Merkle.rootFromProof H.combine H.promote (oddPromotionSentinel C) index leaf siblings

/-- What is hashed for the root. -/
abbrev inputs : List (Merkle.Input Hash32) := Merkle.inputs H Term.lone leaves

/-- The inner nodes of the tree. -/
def nodes : List Hash32 := (inputs H leaves).map (Merkle.Input.digest H)

/-- What is hashed when a proof is checked. -/
abbrev proofInputs (leaf : Hash32) (index : Nat) (siblings : List Hash32) :
    List (Merkle.Input Hash32) :=
  Merkle.walkInputs H (oddPromotionSentinel C) index leaf siblings

/-- The index has no bits but those the walk reads: none at a promotion, none above the root. -/
def readsIndex (index : Nat) (siblings : List Hash32) : Prop :=
  Merkle.position (oddPromotionSentinel C) index siblings = index

instance (index : Nat) (siblings : List Hash32) : Decidable (readsIndex C index siblings) :=
  inferInstanceAs (Decidable (_ = _))

variable {C H leaves}

theorem merkleRoot_eq (l : List Hash32) : merkleRoot H l = (Merkle.root H.combine H.promote l).getD 0 := by
  cases l with
  | nil => simp [merkleRoot, merkleLayers, Merkle.root]
  | cons x l =>
    rw [merkleRoot, merkleLayers, if_neg (by simp), Merkle.getLast?_rows (by simp), Option.bind_map]
    cases Merkle.root H.combine H.promote (x :: l) <;> rfl

theorem merkleProof_leads {i : Nat} {x : Hash32} (hx : leaves[i]? = some x)
    (hsentinel : ∀ layer ∈ merkleLayers H leaves, oddPromotionSentinel C ∉ layer) :
    ∃ proof, merkleProof C H leaves i = some proof ∧
      merkleRootFromProof C H x i proof = merkleRoot H leaves := by
  obtain ⟨hlt, -⟩ := List.getElem?_eq_some_iff.1 hx
  have hne : leaves.isEmpty = false := by cases leaves <;> simp at hlt ⊢
  rw [merkleLayers, hne] at hsentinel
  refine ⟨_, by rw [merkleProof, if_neg (by simp [hne, hlt])], ?_⟩
  rw [merkleRoot_eq, Merkle.walk_complete hx hsentinel, merkleRootFromProof, merkleLayers, hne]
  rfl

/-- **Position binding.**  No digest of the tree is the sentinel, and what is hashed for the tree and
the proof collides neither with itself nor with a leaf. -/
theorem merkleProof_binds_iff (hne : leaves ≠ [])
    (hsentinel : ∀ layer ∈ merkleLayers H leaves, oddPromotionSentinel C ∉ layer) :
    (∀ i x, leaves[i]? = some x → ∃ proof, merkleProof C H leaves i = some proof ∧
      merkleRootFromProof C H x i proof = merkleRoot H leaves) ∧
    ∀ leaf index siblings,
      Separates H (inputs H leaves ++ proofInputs C H leaf index siblings) leaves →
      merkleRootFromProof C H leaf index siblings = merkleRoot H leaves →
      (leaves[index]? = some leaf ↔ leaf ∉ nodes H leaves ∧ readsIndex C index siblings) := by
  refine ⟨fun i x hx => merkleProof_leads hx hsentinel, fun leaf index siblings hsep hroot => ?_⟩
  obtain ⟨t, ht⟩ : ∃ t, Merkle.term Term.lone leaves = some t :=
    Option.ne_none_iff_exists'.1 fun h =>
      hne (List.map_eq_nil_iff.1 ((Merkle.root_eq_none ⟨_, _⟩).1 h))
  have hleaves : t.leaves = leaves := Merkle.leaves_of_term (p := Term.lone) (fun _ => rfl) ht
  have hinputs : inputs H leaves = t.inputs H := by rw [inputs, Merkle.inputs, ht]; rfl
  obtain ⟨d, hfull⟩ : ∃ d, t.Full d :=
    Term.full_of_root (d := 0) (by simp [Term.Full]) (by
      intro u hu
      obtain ⟨x, -, rfl⟩ := List.mem_map.1 (List.dropLast_subset _ hu)
      rfl) ht
  rw [merkleRoot_eq, Merkle.root_eq_digest (p := Term.lone) (fun _ => rfl), ht] at hroot
  rw [hinputs] at hsep
  have hwalk := Term.walk_sound hsep (fun x hx => hleaves ▸ hx)
    (fun i hi => List.mem_append_left _ hi) (fun i hi => List.mem_append_right _ hi) hfull hroot
  have hlen := Term.length_leaves_le hfull
  rw [nodes, hinputs, List.mem_map, readsIndex]
  rw [hleaves] at hwalk hlen
  constructor
  · intro hleaf
    obtain ⟨hlt, -⟩ := List.getElem?_eq_some_iff.1 hleaf
    have hnode : ¬∃ i ∈ t.inputs H, i.digest H = leaf := by
      rintro ⟨i, hi, rfl⟩
      exact hsep.2 i (List.mem_append_left _ hi) (List.mem_of_getElem? hleaf)
    obtain ⟨-, -, hpos⟩ := hwalk.resolve_left hnode
    rw [Nat.mod_eq_of_lt (by omega)] at hpos
    exact ⟨hnode, hpos.resolve_right (by omega)⟩
  · rintro ⟨hnode, hpos⟩
    obtain ⟨-, hget, -⟩ := hwalk.resolve_left hnode
    rwa [hpos] at hget

/-- Digests that tell small numbers apart. -/
def smallHashing : Hashing Hash32 := ⟨fun l r => 1000 + 100 * l + r, fun x => 500 + x⟩

def threeLeaves : List Hash32 := [1, 2, 3]

theorem merkleProof_binds_three : (threeLeaves[2]? = some 3 ↔
    3 ∉ nodes smallHashing threeLeaves ∧
      readsIndex .telling 2 [oddPromotionSentinel .telling, 1102]) :=
  (@merkleProof_binds_iff .telling smallHashing threeLeaves
    (by decide) (by decide +kernel)).2 3 2 [oddPromotionSentinel .telling, 1102] (by decide +kernel)
    (by decide +kernel)

/-- The root proves itself as the first leaf, and the last leaf is proved at an index behind it. -/
theorem stray_proofs_lead :
    (Separates smallHashing (inputs smallHashing threeLeaves) threeLeaves ∧
      merkleRootFromProof .telling smallHashing (merkleRoot smallHashing threeLeaves) 0 [] =
        merkleRoot smallHashing threeLeaves ∧
      threeLeaves[0]? ≠ some (merkleRoot smallHashing threeLeaves)) ∧
    merkleRootFromProof .telling smallHashing 3 3 [oddPromotionSentinel .telling, 1102] =
      merkleRoot smallHashing threeLeaves ∧ threeLeaves.length ≤ 3 := by
  decide +kernel

/-- **Root binding.**  What is hashed for the two lists collides neither with itself nor with a
leaf.  The same holds of the settlement tree, which has a root of its own for no leaves. -/
theorem merkleRoot_binds_iff {l l' : List Hash32} :
    (Separates H (inputs H l ++ inputs H l') (l ++ l') → merkleRoot H l = merkleRoot H l' →
      (l = l' ↔ (l = [] ↔ l' = []))) ∧
    (Separates ⟨merkleNodeHash C, merkleOddPromoteHash C⟩
        (inputs ⟨merkleNodeHash C, merkleOddPromoteHash C⟩ l ++
          inputs ⟨merkleNodeHash C, merkleOddPromoteHash C⟩ l') (l ++ l') →
      Budlum.merkleRoot C l = Budlum.merkleRoot C l' → (l = l' ↔ (l = [] ↔ l' = []))) := by
  have hbinds : ∀ (H : Hashing Hash32) (empty : Hash32),
      Separates H (inputs H l ++ inputs H l') (l ++ l') →
      (Merkle.root H.combine H.promote l).getD empty = (Merkle.root H.combine H.promote l').getD empty →
      (l = l' ↔ (l = [] ↔ l' = [])) := by
    intro H empty hsep hroot
    refine ⟨fun h => by rw [h], fun h => ?_⟩
    refine Merkle.eq_of_root_eq (p := Term.lone) (fun _ => rfl) (fun _ => rfl) hsep ?_
    rw [← Merkle.root_eq_none H, ← Merkle.root_eq_none H] at h
    revert hroot h
    cases Merkle.root H.combine H.promote l <;> cases Merkle.root H.combine H.promote l' <;> simp
  refine ⟨fun hsep hroot => ?_, fun hsep hroot => hbinds _ _ hsep hroot⟩
  rw [merkleRoot_eq, merkleRoot_eq] at hroot
  exact hbinds H 0 hsep hroot

theorem merkleRoot_binds_three : 
    (threeLeaves = [1, 2, 3] ↔ (threeLeaves = [] ↔ [(1 : Hash32), 2, 3] = [])) :=
  (@merkleRoot_binds_iff .telling smallHashing threeLeaves [1, 2, 3]).1 (by decide +kernel) (by decide +kernel)

/-- No leaf and a leaf of zeros have the same root. -/
theorem zero_leaf_looks_empty : Separates smallHashing
      (inputs smallHashing [] ++ inputs smallHashing [0]) ([] ++ [0]) ∧
    merkleRoot smallHashing [] = merkleRoot smallHashing [0] := by
  decide +kernel

end MerkleTree

end Budlum
