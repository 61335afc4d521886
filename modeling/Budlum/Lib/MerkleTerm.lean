import Budlum.Lib.MerkleRows

/-!
# What a root stands for

A digest stands for the term it was hashed from.  Building a tree over terms instead of digests
gives the term of its root, and the leaves of this term are the leaves of the tree.  If the inputs
that are hashed do not collide, with each other or with a leaf, the digest determines the term.

* `Merkle.Term.digest_inj` : **equal digests mean equal terms.**
* `Merkle.eq_of_root_eq` : equal roots mean equal lists of leaves.
* `Merkle.Term.walk_sound` : where a proof that leads to a root starts.
* `Merkle.walk_complete` : the proof of a leaf leads to the root.
-/

namespace Merkle

open List (forall_mem_append forall_mem_cons getD length_append map_cons mem_cons_self
  mem_singleton)

/-- The two hash functions of a tree. -/
structure Hashing (α : Type) where
  combine : α → α → α
  promote : α → α

/-- What is hashed into a digest. -/
inductive Input (α : Type) where
  | pair (left right : α)
  | lone (node : α)
  deriving DecidableEq

/-- How a digest was made. -/
inductive Term (α : Type) where
  | leaf (x : α)
  | pair (left right : Term α)
  | lone (node : Term α)

variable {α β : Type} (H : Hashing α)

/-! ### Layers and roots under a map -/

section Map

variable {H} {K : Hashing β} {f : β → α} (hc : ∀ x y, f (K.combine x y) = H.combine (f x) (f y))
  (hp : ∀ x, f (K.promote x) = H.promote (f x))

include hc hp

theorem parentLayer_map (l : List β) :
    parentLayer H.combine H.promote (l.map f) = (parentLayer K.combine K.promote l).map f := by
  induction l using parentLayer.induct with
  | case1 => rfl
  | case2 x => simp [parentLayer, hp]
  | case3 x y rest ih => simpa [parentLayer, hc] using ih

theorem root_map (l : List β) :
    root H.combine H.promote (l.map f) = (root K.combine K.promote l).map f := by
  induction l using root.induct K.combine K.promote with
  | case1 => simp [root]
  | case2 x => simp [root]
  | case3 x y rest ih =>
    rw [map_cons, map_cons, root, root, ← map_cons, ← map_cons,
      parentLayer_map hc hp, ih]

end Map

theorem root_eq_none {l : List α} : root H.combine H.promote l = none ↔ l = [] := by
  induction l using root.induct H.combine H.promote with
  | case1 => simp [root]
  | case2 x => simp [root]
  | case3 x y rest ih => rw [root, ih]; simp [parentLayer]

/-! ### Terms -/

def Input.digest : Input α → α
  | pair left right => H.combine left right
  | lone node => H.promote node

/-- No two of the inputs have one digest, and none has that of a leaf. -/
def Separates (is : List (Input α)) (leaves : List α) : Prop :=
  (∀ i ∈ is, ∀ j ∈ is, i.digest H = j.digest H → i = j) ∧ ∀ i ∈ is, i.digest H ∉ leaves

instance [DecidableEq α] (is : List (Input α)) (leaves : List α) : Decidable (Separates H is leaves) :=
  inferInstanceAs (Decidable (_ ∧ _))

namespace Term

def digest : Term α → α
  | leaf x => x
  | pair left right => H.combine left.digest right.digest
  | lone node => H.promote node.digest

def leaves : Term α → List α
  | leaf x => [x]
  | pair left right => left.leaves ++ right.leaves
  | lone node => node.leaves

/-- What is hashed into the digest of a term. -/
def inputs : Term α → List (Input α)
  | leaf _ => []
  | pair left right => .pair (left.digest H) (right.digest H) :: (left.inputs ++ right.inputs)
  | lone node => .lone (node.digest H) :: node.inputs

variable {H} {is : List (Input α)} {xs : List α} {t u : Term α}

/-- **Equal digests.**  The inputs and the leaves of the terms are kept apart. -/
theorem digest_inj (hsep : Separates H is xs) (ht : ∀ i ∈ t.inputs H, i ∈ is)
    (hu : ∀ i ∈ u.inputs H, i ∈ is) (htx : ∀ x ∈ t.leaves, x ∈ xs) (hux : ∀ x ∈ u.leaves, x ∈ xs)
    (h : t.digest H = u.digest H) : t = u := by
  induction t generalizing u with
  | leaf x =>
    have hx : u.digest H ∈ xs := h ▸ htx x (List.mem_singleton.2 rfl)
    cases u with
    | leaf y => exact congrArg leaf h
    | pair l r | lone u => exact absurd hx (hsep.2 _ (hu _ mem_cons_self))
  | pair l r ihl ihr =>
    simp only [inputs, leaves, forall_mem_cons, forall_mem_append] at ht htx
    cases u with
    | leaf y =>
      have hy : digest H (pair l r) ∈ xs := h ▸ hux y (List.mem_singleton.2 rfl)
      exact absurd hy (hsep.2 _ ht.1)
    | pair l' r' =>
      simp only [inputs, leaves, forall_mem_cons, forall_mem_append] at hu hux
      obtain ⟨hl, hr⟩ := Input.pair.inj (hsep.1 _ ht.1 _ hu.1 h)
      rw [ihl ht.2.1 hu.2.1 htx.1 hux.1 hl, ihr ht.2.2 hu.2.2 htx.2 hux.2 hr]
    | lone u => exact absurd (hsep.1 _ ht.1 _ (hu _ mem_cons_self) h) (by simp)
  | lone t ih =>
    simp only [inputs, forall_mem_cons] at ht
    cases u with
    | leaf y =>
      have hy : digest H (lone t) ∈ xs := h ▸ hux y (List.mem_singleton.2 rfl)
      exact absurd hy (hsep.2 _ ht.1)
    | pair l r => exact absurd (hsep.1 _ ht.1 _ (hu _ mem_cons_self) h) (by simp)
    | lone u =>
      simp only [inputs, forall_mem_cons] at hu
      rw [ih ht.2 hu.2 htx hux (Input.lone.inj (hsep.1 _ ht.1 _ hu.1 h))]

variable {ts : List (Term α)}

/-- The term of a root has the leaves of the list, whatever is done to last nodes, as long as their
leaves stay. -/
theorem leaves_of_root {p : Term α → Term α} (hp : ∀ t, (p t).leaves = t.leaves)
    (h : root pair p ts = some t) : t.leaves = ts.flatMap leaves := by
  have hlayer : ∀ ts : List (Term α), (parentLayer pair p ts).flatMap leaves = ts.flatMap leaves := by
    intro ts
    induction ts using parentLayer.induct with
    | case1 => rfl
    | case2 x => simp [parentLayer, hp]
    | case3 x y rest ih => simp [parentLayer, leaves, ih]
  induction ts using root.induct pair p with
  | case1 => simp [root] at h
  | case2 x => simp_all [root]
  | case3 x y rest ih => rw [root] at h; rw [ih h, hlayer]

theorem root_induction {p : Term α → Term α} {Q : Term α → Prop}
    (hpair : ∀ t u, Q t → Q u → Q (pair t u)) (hp : ∀ t, Q t → Q (p t)) (hts : ∀ t ∈ ts, Q t)
    (h : root pair p ts = some t) : Q t := by
  have hlayer : ∀ ts : List (Term α), (∀ t ∈ ts, Q t) → ∀ t ∈ parentLayer pair p ts, Q t := by
    intro ts hts
    induction ts using parentLayer.induct with
    | case1 => exact hts
    | case2 x => simpa [parentLayer] using hp x (hts x (by simp))
    | case3 x y rest ih =>
      simp only [forall_mem_cons, parentLayer] at hts ⊢
      exact ⟨hpair x y hts.1 hts.2.1, ih hts.2.2⟩
  induction ts using root.induct pair p with
  | case1 => simp [root] at h
  | case2 x => simp_all [root]
  | case3 x y rest ih => rw [root] at h; exact ih (hlayer _ hts) h

/-! ### The shape of a root -/

/-- Every leaf is as deep as the others, and only the rightmost branches have leaves missing. -/
def Full : Nat → Term α → Prop
  | 0, .leaf _ => True
  | d + 1, .pair l r => l.Full d ∧ l.leaves.length = 2 ^ d ∧ r.Full d
  | d + 1, .lone t => t.Full d
  | _, _ => False

variable {d : Nat}

theorem length_leaves_le (h : t.Full d) : t.leaves.length ≤ 2 ^ d := by
  induction t generalizing d with
  | leaf x => exact Nat.one_le_two_pow
  | pair l r ihl ihr =>
    obtain _ | d := d
    · exact h.elim
    have := ihr h.2.2
    rw [leaves, length_append, h.2.1, Nat.pow_succ]
    omega
  | lone t ih =>
    obtain _ | d := d
    · exact h.elim
    have := ih (d := d) h
    rw [leaves, Nat.pow_succ]
    omega

theorem full_parentLayer (hfull : ∀ t ∈ ts, t.Full d)
    (hlen : ∀ t ∈ ts.dropLast, t.leaves.length = 2 ^ d) :
    (∀ t ∈ parentLayer pair lone ts, t.Full (d + 1)) ∧ ∀ t ∈ (parentLayer pair lone ts).dropLast,
    t.leaves.length = 2 ^ (d + 1) := by
  induction ts using parentLayer.induct with
  | case1 => simp [parentLayer]
  | case2 x => simpa [parentLayer, Full] using hfull
  | case3 x y rest ih =>
    simp only [forall_mem_cons, List.dropLast_cons_cons] at hfull hlen
    have hpair : (pair x y).Full (d + 1) := ⟨hfull.1, hlen.1, hfull.2.1⟩
    cases rest with
    | nil => simpa [parentLayer] using hpair
    | cons z rest =>
      simp only [List.dropLast_cons_cons, forall_mem_cons] at hlen
      obtain ⟨h₁, h₂⟩ := ih hfull.2.2 hlen.2.2
      refine ⟨List.forall_mem_cons.2 ⟨hpair, h₁⟩, ?_⟩
      rw [parentLayer, List.dropLast_cons_of_ne_nil (by cases rest <;> simp [parentLayer])]
      refine List.forall_mem_cons.2 ⟨?_, h₂⟩
      rw [leaves, length_append, hlen.1, hlen.2.1, Nat.pow_succ]
      omega

theorem full_of_root (hfull : ∀ t ∈ ts, t.Full d)
    (hlen : ∀ t ∈ ts.dropLast, t.leaves.length = 2 ^ d) (h : root pair lone ts = some t) : ∃ d,
    t.Full d := by
  induction ts using root.induct pair lone generalizing d with
  | case1 => simp [root] at h
  | case2 x => exact ⟨d, by simp_all [root]⟩
  | case3 x y rest ih =>
    rw [root] at h
    obtain ⟨h₁, h₂⟩ := full_parentLayer hfull hlen
    exact ih h₁ h₂ h

end Term

/-! ### The root of a list -/

/-- The term of the root over a list of leaves, where `p` stands for what is done to last nodes. -/
def term (p : Term α → Term α) (l : List α) : Option (Term α) := root Term.pair p (l.map Term.leaf)

/-- What is hashed for the root over a list of leaves. -/
def inputs (p : Term α → Term α) (l : List α) : List (Input α) := (term p l).elim [] (Term.inputs H)

section List

variable {H} {p : Term α → Term α} {l l' : List α}

theorem root_eq_digest (hd : ∀ t, (p t).digest H = H.promote (t.digest H)) (l : List α) :
    root H.combine H.promote l = (term p l).map (Term.digest H) := by
  rw [term, ← root_map (K := ⟨Term.pair, p⟩) (f := Term.digest H) (fun _ _ => rfl) hd, List.map_map]
  congr 1
  exact (List.map_id l).symm

theorem leaves_of_term (hp : ∀ t, (p t).leaves = t.leaves) {t : Term α} (h : term p l = some t) :
    t.leaves = l := by
  rw [Term.leaves_of_root hp h, List.flatMap_map]
  exact List.flatMap_singleton' l

/-- **Equal roots.**  The inputs that are hashed for two lists collide neither with each other nor
with a leaf. -/
theorem eq_of_root_eq (hp : ∀ t, (p t).leaves = t.leaves)
    (hd : ∀ t, (p t).digest H = H.promote (t.digest H))
    (hsep : Separates H (inputs H p l ++ inputs H p l') (l ++ l'))
    (h : root H.combine H.promote l = root H.combine H.promote l') : l = l' := by
  match ht : term p l, ht' : term p l' with
  | some t, some t' =>
    simp only [root_eq_digest hd, inputs, ht, ht', Option.elim_some, Option.map_some] at hsep h
    rw [← leaves_of_term hp ht, ← leaves_of_term hp ht'] at hsep ⊢
    rw [Term.digest_inj hsep (fun i hi => List.mem_append_left _ hi)
      (fun i hi => List.mem_append_right _ hi) (fun x hx => List.mem_append_left _ hx)
      (fun x hx => List.mem_append_right _ hx) (Option.some.inj h)]
  | none, _ =>
    rw [root_eq_digest hd, ht] at h
    rw [(root_eq_none H).1 h.symm, List.map_eq_nil_iff.1 ((root_eq_none ⟨_, _⟩).1 ht)]
  | _, none =>
    rw [root_eq_digest hd l', ht'] at h
    rw [(root_eq_none H).1 h, List.map_eq_nil_iff.1 ((root_eq_none ⟨_, _⟩).1 ht')]

end List

/-! ### Proofs -/

section Walk

variable [DecidableEq α] (sentinel : α) {H} {l : List α}

/-- What one step of a proof hashes. -/
def stepInput (index : Nat) (cur sibling : α) : Input α :=
  if sibling = sentinel then .lone cur
  else if index % 2 = 0 then .pair cur sibling else .pair sibling cur

variable (H) in
/-- What a proof hashes. -/
def walkInputs : (index : Nat) → α → List α → List (Input α)
  | _, _, [] => []
  | index, cur, s :: rest =>
    let i := stepInput sentinel index cur s
    i :: walkInputs (index / 2) (i.digest H) rest

/-- The position a proof starts at: the bits of the index at the steps that have a sibling. -/
def position : (index : Nat) → List α → Nat
  | _, [] => 0
  | index, s :: rest => 2 * position (index / 2) rest + if s = sentinel then 0 else index % 2

/-- The sibling of a node of a row, whose last node may have none. -/
def sibling (index : Nat) (row : List α) : α :=
  if index % 2 = 0 ∧ row.length ≤ index + 1 then sentinel
  else row.getD (if index % 2 = 0 then min (index + 1) (row.length - 1) else index - 1) sentinel

/-- The siblings of a node of the first row and of the nodes above it, below the last row. -/
def siblings : (index : Nat) → List (List α) → List α
  | index, row :: above :: rest => sibling sentinel index row :: siblings (index / 2) (above :: rest)
  | _, _ => []

variable {sentinel} {index : Nat} {cur s : α} {rest : List α}

theorem of_stepInput_eq_pair {x y : α} (h : stepInput sentinel index cur s = .pair x y) :
    s ≠ sentinel ∧ (index % 2 = 0 ∧ cur = x ∨ index % 2 = 1 ∧ cur = y) := by
  unfold stepInput at h
  split_ifs at h with hs heven
  · exact ⟨hs, .inl ⟨heven, (Input.pair.inj h).1⟩⟩
  · exact ⟨hs, .inr ⟨by omega, (Input.pair.inj h).2⟩⟩

theorem of_stepInput_eq_lone {x : α} (h : stepInput sentinel index cur s = .lone x) :
    s = sentinel ∧ cur = x := by
  unfold stepInput at h
  split_ifs at h with hs
  exact ⟨hs, Input.lone.inj h⟩

theorem rootFromProof_cons : rootFromProof H.combine H.promote sentinel index cur (s :: rest) =
    rootFromProof H.combine H.promote sentinel (index / 2)
      ((stepInput sentinel index cur s).digest H) rest := by
  rw [rootFromProof, stepInput]
  split_ifs <;> rfl

theorem div_div_pow (n k : Nat) : n / 2 / 2 ^ k = n / 2 ^ (k + 1) := by
  rw [Nat.div_div_eq_div_mul, Nat.pow_succ']

theorem position_concat : position sentinel index (rest ++ [s]) = position sentinel index rest +
    2 ^ rest.length * if s = sentinel then 0 else index / 2 ^ rest.length % 2 := by
  induction rest generalizing index with
  | nil => simp [position]
  | cons s' rest ih =>
    simp only [List.cons_append, List.length_cons, position, ih, div_div_pow, Nat.pow_succ']
    ring

/-- The last step of a proof. -/
theorem walk_concat : rootFromProof H.combine H.promote sentinel index cur (rest ++ [s]) =
      (stepInput sentinel (index / 2 ^ rest.length)
        (rootFromProof H.combine H.promote sentinel index cur rest) s).digest H ∧
    walkInputs H sentinel index cur (rest ++ [s]) = walkInputs H sentinel index cur rest ++
      [stepInput sentinel (index / 2 ^ rest.length)
        (rootFromProof H.combine H.promote sentinel index cur rest) s] := by
  induction rest generalizing index cur with
  | nil => simp [rootFromProof_cons, rootFromProof, walkInputs]
  | cons s' rest ih =>
    obtain ⟨h₁, h₂⟩ := @ih (index / 2) ((stepInput sentinel index cur s').digest H)
    rw [div_div_pow] at h₁ h₂
    simp only [List.cons_append, List.length_cons, rootFromProof_cons, h₁, walkInputs, h₂, true_and]

namespace Term

variable {is : List (Input α)} {xs : List α} {t : Term α} {d : Nat}

/-- **Where a proof starts.**  A proof that leads to the digest of a tree starts at an inner node,
or at the leaf at its position.  Any index that is in the tree is this position. -/
theorem walk_sound {sibs : List α} (hsep : Separates H is xs) (htx : ∀ x ∈ t.leaves, x ∈ xs)
    (ht : ∀ i ∈ t.inputs H, i ∈ is) (hwalk : ∀ i ∈ walkInputs H sentinel index cur sibs, i ∈ is)
    (hfull : t.Full d) (h : rootFromProof H.combine H.promote sentinel index cur sibs = t.digest H) :
    (∃ i ∈ t.inputs H, i.digest H = cur) ∨
      sibs.length = d ∧ t.leaves[position sentinel index sibs]? = some cur ∧
        (position sentinel index sibs = index % 2 ^ d ∨ t.leaves.length ≤ index % 2 ^ d) := by
  -- the last step of the proof hashes what the top of the tree hashes
  induction t generalizing d sibs with
  | leaf x =>
    obtain _ | d := d
    swap; · exact hfull.elim
    obtain rfl | ⟨sibs, s, rfl⟩ := sibs.eq_nil_or_concat'
    · exact .inr ⟨rfl, by simpa [leaves, position, rootFromProof, digest] using h.symm, by simp [position, Nat.mod_one]⟩
    · rw [walk_concat.1] at h
      simp only [walk_concat.2, forall_mem_append, mem_singleton, forall_eq] at hwalk
      exact absurd (h ▸ htx x (List.mem_singleton.2 rfl)) (hsep.2 _ hwalk.2)
  | pair l r ihl ihr =>
    obtain _ | d := d
    · exact hfull.elim
    simp only [inputs, forall_mem_cons, forall_mem_append] at ht
    obtain rfl | ⟨sibs, s, rfl⟩ := sibs.eq_nil_or_concat'
    · exact .inl ⟨_, mem_cons_self, h.symm⟩
    rw [walk_concat.1] at h
    simp only [walk_concat.2, forall_mem_append, mem_singleton, forall_eq] at hwalk
    have hmod := Nat.mod_pow_succ (x := index) (b := 2) (k := d)
    simp only [leaves, forall_mem_append] at htx ⊢
    rw [length_append, List.length_singleton, length_append, position_concat]
    obtain ⟨hs, ⟨heven, hcur⟩ | ⟨hodd, hcur⟩⟩ := of_stepInput_eq_pair (hsep.1 _ hwalk.2 _ ht.1 h)
    · obtain ⟨i, hi, rfl⟩ | ⟨rfl, hget, hpos⟩ :=
        ihl htx.1 ht.2.1 hwalk.1 hfull.1 hcur
      · exact .inl ⟨i, by simp [inputs, hi], rfl⟩
      have hlt := (List.getElem?_eq_some_iff.1 hget).1
      simp only [if_neg hs, hmod, heven, Nat.mul_zero, Nat.add_zero]
      rw [List.getElem?_append_left hlt]
      exact .inr ⟨trivial, hget, .inl (hpos.resolve_right (by rw [hfull.2.1]; omega))⟩
    · obtain ⟨i, hi, rfl⟩ | ⟨rfl, hget, hpos⟩ :=
        ihr htx.2 ht.2.2 hwalk.1 hfull.2.2 hcur
      · exact .inl ⟨i, by simp [inputs, hi], rfl⟩
      simp only [if_neg hs, hmod, hodd, Nat.mul_one, hfull.2.1]
      rw [List.getElem?_append_right (by rw [hfull.2.1]; omega), hfull.2.1, Nat.add_sub_cancel]
      exact .inr ⟨trivial, hget, by omega⟩
  | lone t ih =>
    obtain _ | d := d
    · exact hfull.elim
    simp only [inputs, forall_mem_cons] at ht
    obtain rfl | ⟨sibs, s, rfl⟩ := sibs.eq_nil_or_concat'
    · exact .inl ⟨_, mem_cons_self, h.symm⟩
    rw [walk_concat.1] at h
    simp only [walk_concat.2, forall_mem_append, mem_singleton, forall_eq] at hwalk
    have hmod := Nat.mod_pow_succ (x := index) (b := 2) (k := d)
    rw [length_append, List.length_singleton, position_concat]
    obtain ⟨hs, hcur⟩ := of_stepInput_eq_lone (hsep.1 _ hwalk.2 _ ht.1 h)
    obtain ⟨i, hi, rfl⟩ | ⟨rfl, hget, hpos⟩ := ih htx ht.2 hwalk.1 hfull hcur
    · exact .inl ⟨i, List.mem_cons_of_mem _ hi, rfl⟩
    rw [if_pos hs, Nat.mul_zero, Nat.add_zero, hmod]
    have hle := length_leaves_le (d := sibs.length) hfull
    refine .inr ⟨rfl, hget, ?_⟩
    -- a last node has no node beside it
    rcases Nat.mod_two_eq_zero_or_one (index / 2 ^ sibs.length) with hbit | hbit
    · rw [hbit]; exact hpos
    · rw [hbit, leaves]; right; omega

end Term

/-- What the step of a node's proof hashes is the node above. -/
theorem parentAt_stepInput {x : α} (hx : l[index]? = some x) (hsent : sentinel ∉ l) :
    parentAt H.combine H.promote l (index / 2) =
      some ((stepInput sentinel index x (sibling sentinel index l)).digest H) := by
  obtain ⟨hlt, rfl⟩ := List.getElem?_eq_some_iff.1 hx
  have hne : ∀ j (hj : j < l.length), l[j] ≠ sentinel := fun j hj h => hsent (h ▸ List.getElem_mem hj)
  rw [parentAt, stepInput, sibling]
  rcases Nat.mod_two_eq_zero_or_one index with heven | hodd
  · rw [show 2 * (index / 2) = index by omega, hx]
    by_cases hlast : l.length ≤ index + 1
    · simp [heven, hlast, Input.digest]
    · have hget : l[index + 1]? = some l[index + 1] := List.getElem?_eq_getElem (by omega)
      rw [Nat.min_eq_left (by omega)]
      simp [heven, hlast, getD, hget, hne, Input.digest]
  · have hget : l[index - 1]? = some l[index - 1] := List.getElem?_eq_getElem (by omega)
    rw [show 2 * (index / 2) = index - 1 by omega, show index - 1 + 1 = index by omega, hx, hget]
    simp [hodd, getD, hget, hne, Input.digest]

/-- **The proof of a leaf.**  The proof read off the rows leads to the root. -/
theorem walk_complete {x : α} (hx : l[index]? = some x)
    (hsent : ∀ row ∈ rows H.combine H.promote l, sentinel ∉ row) :
    root H.combine H.promote l = some (rootFromProof H.combine H.promote sentinel index x
      (siblings sentinel index (rows H.combine H.promote l))) := by
  fun_induction root H.combine H.promote l generalizing index x with
  | case1 => simp at hx
  | case2 y =>
    obtain ⟨hlt, rfl⟩ := List.getElem?_eq_some_iff.1 hx
    obtain rfl : index = 0 := by simpa using hlt
    rw [rows_of_length_le (by simp)]
    rfl
  | case3 y z rest ih =>
    rw [rows_of_lt_length (by simp)] at hsent ⊢
    obtain ⟨hrow, hrest⟩ := List.forall_mem_cons.1 hsent
    rw [rows_eq_cons, siblings, ← rows_eq_cons, rootFromProof_cons]
    exact ih ((getElem?_parentLayer _ _).trans (parentAt_stepInput hx hrow)) hrest

end Walk

end Merkle
