import Budlum.Lib.MerkleTerm

/-!
# What a root says about the leaves

A tree that pairs a last node with itself has the same root over some lists of different lengths.
This cannot happen over lists of distinct leaves: if the pairs that are hashed for two such lists do
not collide, with each other or with a leaf, equal roots mean equal lists.

* `Merkle.nodes` : the pairs that are hashed for a list of leaves.
* `Merkle.root_inj` : **equal roots mean equal lists.**
-/

namespace Merkle

variable {α : Type} (combine : α → α → α)

/-- The layer above a layer; a last node is paired with itself. -/
abbrev doubledLayer (l : List α) : List α := parentLayer combine (fun x => combine x x) l

/-- The root where a last node is paired with itself. -/
abbrev doubledRoot (l : List α) : Option α := root combine (fun x => combine x x) l

/-- The pairs of a layer. -/
def pairs : List α → List (α × α)
  | [] => []
  | [x] => [(x, x)]
  | x :: y :: rest => (x, y) :: pairs rest

/-- The pairs of all layers below the root. -/
def nodes (l : List α) : List (α × α) :=
  if 1 < l.length then pairs l ++ nodes (doubledLayer combine l) else []
termination_by l.length
decreasing_by simp only [length_parentLayer]; omega

variable {combine}

variable {l : List α}

/-! ### The term of a root -/

variable (combine) in
/-- The hashing of a tree that pairs a last node with itself. -/
abbrev doubling : Hashing α := ⟨combine, fun x => combine x x⟩

/-- A node paired with itself. -/
def Term.double (t : Term α) : Term α := .pair t t

variable {ts : List (Term α)} {t : Term α}

/-- The leaves, and some of them again. -/
theorem Term.leaves_of_doubledRoot (h : root pair double ts = some t) : ∃ again, t.leaves =
    ts.flatMap leaves ++ again ∧ again ⊆ ts.flatMap leaves := by
  have hlayer : ∀ ts : List (Term α), ∃ again,
      (parentLayer pair double ts).flatMap leaves = ts.flatMap leaves ++ again ∧
        again ⊆ ts.flatMap leaves := by
    intro ts
    induction ts using parentLayer.induct with
    | case1 => exact ⟨[], rfl, by simp⟩
    | case2 x => exact ⟨x.leaves, by simp [parentLayer, double, leaves], by simp⟩
    | case3 x y rest ih =>
      obtain ⟨again, heq, hsub⟩ := ih
      refine ⟨again, by simp [parentLayer, leaves, heq], fun z hz => ?_⟩
      simp [List.mem_flatMap.1 (hsub hz)]
  induction ts using root.induct pair double with
  | case1 => simp [root] at h
  | case2 x => exact ⟨[], by simp_all [root], by simp⟩
  | case3 x y rest ih =>
    rw [root] at h
    obtain ⟨again, heq, hsub⟩ := ih h
    obtain ⟨again', heq', hsub'⟩ := hlayer (x :: y :: rest)
    rw [heq', List.append_assoc] at heq
    refine ⟨again' ++ again, heq, List.append_subset.2 ⟨hsub', fun z hz => ?_⟩⟩
    have hz := hsub hz
    rw [heq'] at hz
    exact (List.mem_append.1 hz).elim id (hsub' ·)

/-- The inputs of a term over a layer are pairs of the layer, or inputs of its nodes. -/
theorem Term.inputs_of_doubledLayer {u : Term α} (hu : u ∈ parentLayer pair double ts) : ∀ i ∈
    u.inputs (doubling combine), (∃ v ∈ ts, i ∈ v.inputs (doubling combine)) ∨ ∃ p ∈ pairs
    (ts.map (digest (doubling combine))), i = .pair p.1 p.2 := by
  induction ts using parentLayer.induct with
  | case1 => cases hu
  | case2 x =>
    obtain rfl := List.mem_singleton.1 hu
    simp [double, inputs, pairs, or_comm]
  | case3 x y rest ih =>
    rcases List.mem_cons.1 hu with rfl | hu
    · intro i hi
      rcases List.mem_cons.1 hi with rfl | hi
      · exact .inr ⟨_, List.mem_cons_self, rfl⟩
      · rcases List.mem_append.1 hi with hi | hi
        · exact .inl ⟨x, by simp, hi⟩
        · exact .inl ⟨y, by simp, hi⟩
    · intro i hi
      rcases ih hu i hi with ⟨v, hv, hi⟩ | ⟨p, hp, rfl⟩
      · exact .inl ⟨v, by simp [hv], hi⟩
      · exact .inr ⟨p, List.mem_cons_of_mem _ hp, rfl⟩

theorem Term.inputs_of_doubledRoot (h : root pair double ts = some t) : ∀ i ∈ t.inputs
    (doubling combine), (∃ u ∈ ts, i ∈ u.inputs (doubling combine)) ∨ ∃ p ∈ nodes combine
    (ts.map (digest (doubling combine))), i = .pair p.1 p.2 := by
  induction ts using root.induct pair double with
  | case1 => simp [root] at h
  | case2 x => simp_all [root]
  | case3 x y rest ih =>
    rw [root] at h
    intro i hi
    rw [nodes, if_pos (by simp), doubledLayer, parentLayer_map (H := doubling combine)
      (K := ⟨pair, double⟩) (f := digest (doubling combine)) (fun _ _ => rfl) fun _ => rfl]
    rcases ih h i hi with ⟨u, hu, hi⟩ | ⟨p, hp, rfl⟩
    · refine (inputs_of_doubledLayer hu i hi).imp_right fun h => ?_
      obtain ⟨p, hp, h⟩ := h
      exact ⟨p, List.mem_append_left _ hp, h⟩
    · exact .inr ⟨p, List.mem_append_right _ hp, rfl⟩

/-- Only a list that starts with another differs from it in more than the leaves repeated. -/
theorem eq_of_append_eq {l' again again' : List α} (hl : l.Nodup) (hl' : l'.Nodup)
    (hsub : again ⊆ l) (hsub' : again' ⊆ l') (h : l ++ again = l' ++ again') : l = l' := by
  rcases List.append_eq_append_iff.1 h with ⟨more, rfl, rfl⟩ | ⟨more, rfl, rfl⟩
  · match more with
    | [] => simp
    | x :: more =>
      have hx := hsub (List.mem_cons_self (a := x))
      exact absurd rfl ((List.nodup_append.1 hl').2.2 x hx x List.mem_cons_self)
  · match more with
    | [] => simp
    | x :: more =>
      have hx := hsub' (List.mem_cons_self (a := x))
      exact absurd rfl ((List.nodup_append.1 hl).2.2 x hx x List.mem_cons_self)

theorem doubledRoot_eq_digest (l : List α) :
    doubledRoot combine l = (term Term.double l).map (Term.digest (doubling combine)) :=
  root_eq_digest (H := doubling combine) (fun _ => rfl) l

theorem inputs_of_term (h : term Term.double l = some t) : ∀ i ∈ t.inputs (doubling combine), ∃ p ∈
    nodes combine l, i = .pair p.1 p.2 := by
  intro i hi
  rcases Term.inputs_of_doubledRoot h i hi with ⟨u, hu, hi⟩ | ⟨p, hp, rfl⟩
  · obtain ⟨x, -, rfl⟩ := List.mem_map.1 hu
    cases hi
  · refine ⟨p, ?_, rfl⟩
    rwa [List.map_map, show Term.digest (doubling combine) ∘ Term.leaf = id from rfl, List.map_id] at hp

theorem leaves_of_doubledTerm (h : term Term.double l = some t) : ∃ again, t.leaves = l ++ again ∧
    again ⊆ l := by
  have hl : (l.map Term.leaf).flatMap Term.leaves = l := by
    rw [List.flatMap_map]
    exact List.flatMap_singleton' l
  have hleaves := Term.leaves_of_doubledRoot h
  rwa [hl] at hleaves

/-- A root is a leaf or the node of a pair. -/
theorem root_mem {r : α} (h : doubledRoot combine l = some r) : r ∈ l ∨ ∃ p ∈ nodes combine l,
    combine p.1 p.2 = r := by
  rw [doubledRoot_eq_digest] at h
  obtain ⟨t, ht, rfl⟩ := Option.map_eq_some_iff.1 h
  cases t with
  | leaf x =>
    obtain ⟨again, heq, hsub⟩ := leaves_of_doubledTerm ht
    have hx : x ∈ l ++ again := heq ▸ List.mem_singleton.2 rfl
    exact .inl ((List.mem_append.1 hx).elim id (hsub ·))
  | pair a b =>
    obtain ⟨p, hp, heq⟩ := @inputs_of_term _ combine _ _ ht _ List.mem_cons_self
    obtain ⟨h₁, h₂⟩ := Input.pair.inj heq
    exact .inr ⟨p, hp, by rw [← h₁, ← h₂]; rfl⟩
  | lone u =>
    obtain ⟨p, hp, heq⟩ := @inputs_of_term _ combine _ _ ht _ List.mem_cons_self
    cases heq

/-- **Equal roots.**  The pairs hashed for two lists of distinct leaves collide neither with each
other nor with a leaf. -/
theorem root_inj {l' : List α} (hl : l.Nodup) (hl' : l'.Nodup)
    (hinj : ∀ p ∈ nodes combine l ++ nodes combine l', ∀ q ∈ nodes combine l ++ nodes combine l',
      combine p.1 p.2 = combine q.1 q.2 → p = q)
    (hleaf : ∀ p ∈ nodes combine l ++ nodes combine l', combine p.1 p.2 ∉ l ++ l')
    (h : doubledRoot combine l = doubledRoot combine l') : l = l' := by
  rw [doubledRoot_eq_digest, doubledRoot_eq_digest] at h
  have hnil : ∀ {l : List α}, term Term.double l = none → l = [] := fun h =>
    List.map_eq_nil_iff.1 ((root_eq_none ⟨_, _⟩).1 h)
  match ht : term Term.double l, ht' : term Term.double l', h with
  | none, none, _ => rw [hnil ht, hnil ht']
  | some t, some t', h =>
    obtain ⟨again, heq, hsub⟩ := leaves_of_doubledTerm ht
    obtain ⟨again', heq', hsub'⟩ := leaves_of_doubledTerm ht'
    have hsep : Separates (doubling combine)
        ((nodes combine l ++ nodes combine l').map fun p => .pair p.1 p.2) (l ++ l') := by
      simp only [Separates, List.forall_mem_map]
      exact ⟨fun p hp q hq hpq => by rw [hinj p hp q hq hpq], hleaf⟩
    have hmem : ∀ {i}, (∃ p ∈ nodes combine l ++ nodes combine l', i = Input.pair p.1 p.2) →
        i ∈ (nodes combine l ++ nodes combine l').map fun p => .pair p.1 p.2 :=
      fun ⟨p, hp, h⟩ => List.mem_map.2 ⟨p, hp, h.symm⟩
    obtain rfl := Term.digest_inj hsep
      (fun i hi => hmem ((inputs_of_term ht i hi).imp fun p => .imp_left (List.mem_append_left _)))
      (fun i hi => hmem ((inputs_of_term ht' i hi).imp fun p => .imp_left (List.mem_append_right _)))
      (fun x hx => List.mem_append_left _ (by rw [heq] at hx; exact (List.mem_append.1 hx).elim id (hsub ·)))
      (fun x hx => List.mem_append_right _ (by rw [heq'] at hx; exact (List.mem_append.1 hx).elim id (hsub' ·)))
      (Option.some.inj h)
    exact eq_of_append_eq hl hl' hsub hsub' (heq.symm.trans heq')

end Merkle
