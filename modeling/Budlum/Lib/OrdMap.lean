import Mathlib

/-!
# Ordered finite maps

Finite maps with a linear order on the keys, kept as a list of entries with strictly increasing
keys.  The order is part of the value: a loop over the map visits the keys in increasing order,
and two maps with the same entries are equal.

The second half is the accounting of a map whose values carry amounts: `sumBy f` adds up an
amount over the entries, and `sumBy_insert`, `sumBy_erase` say how one update moves it.  They are
stated additively, so that no subtraction of natural numbers is needed.
-/

/-- A finite map as a list of entries in strictly increasing key order. -/
structure OrdMap (K : Type*) (V : Type*) [LinearOrder K] where
  /-- The entries, in increasing key order. -/
  entries : List (K × V)
  /-- Keys are strictly increasing; in particular they are distinct. -/
  sorted : entries.Pairwise fun a b => a.1 < b.1

namespace OrdMap

variable {K V W : Type*} [LinearOrder K] {m m' : OrdMap K V}

@[ext] theorem ext (h : m.entries = m'.entries) : m = m' := by
  cases m; cases m'; cases h; rfl

instance [DecidableEq V] : DecidableEq (OrdMap K V) := fun m m' =>
  decidable_of_iff (m.entries = m'.entries) ⟨ext, fun h => h ▸ rfl⟩

/-! ### Lists of entries -/

/-- The value stored under a key. -/
def lookup (k : K) : List (K × V) → Option V
  | [] => none
  | (k', v) :: t => if k = k' then some v else lookup k t

/-- Store a value under a key, keeping the order. -/
def insertEntry (k : K) (v : V) : List (K × V) → List (K × V)
  | [] => [(k, v)]
  | (k', v') :: t =>
    if k < k' then (k, v) :: (k', v') :: t
    else if k = k' then (k, v) :: t
    else (k', v') :: insertEntry k v t

variable {k j : K} {v : V} {l : List (K × V)}

theorem mem_insertEntry {e : K × V} (h : e ∈ insertEntry k v l) : e = (k, v) ∨ e ∈ l := by
  induction l with
  | nil => simpa [insertEntry] using h
  | cons a t ih =>
    obtain ⟨k', v'⟩ := a
    simp only [insertEntry] at h
    split_ifs at h
    · simpa using h
    · rcases List.mem_cons.1 h with h | h
      · exact .inl h
      · exact .inr (List.mem_cons_of_mem _ h)
    · rcases List.mem_cons.1 h with h | h
      · exact .inr (h ▸ List.mem_cons_self)
      · exact (ih h).imp_right (List.mem_cons_of_mem _)

theorem sorted_insertEntry (k : K) (v : V) (hl : l.Pairwise fun a b => a.1 < b.1) :
    (insertEntry k v l).Pairwise fun a b => a.1 < b.1 := by
  induction l with
  | nil => simp [insertEntry]
  | cons a t ih =>
    obtain ⟨k', v'⟩ := a
    obtain ⟨hhd, htl⟩ := List.pairwise_cons.1 hl
    simp only [insertEntry]
    split_ifs with h1 h2
    · refine List.pairwise_cons.2 ⟨fun e he => ?_, hl⟩
      rcases List.mem_cons.1 he with rfl | he
      · exact h1
      · exact h1.trans (hhd e he)
    · subst h2
      exact List.pairwise_cons.2 ⟨hhd, htl⟩
    · refine List.pairwise_cons.2 ⟨fun e he => ?_, ih htl⟩
      rcases mem_insertEntry he with rfl | he
      · exact lt_of_le_of_ne (not_lt.1 h1) (Ne.symm h2)
      · exact hhd e he

theorem lookup_eq_none_of_lt (h : ∀ e ∈ l, k < e.1) : lookup k l = none := by
  induction l with
  | nil => rfl
  | cons a t ih =>
    have hne : k ≠ a.1 := (h a List.mem_cons_self).ne
    simp only [lookup, hne, ite_false]
    exact ih fun e he => h e (List.mem_cons_of_mem _ he)

theorem lookup_insertEntry (k j : K) (v : V) (l : List (K × V)) :
    lookup j (insertEntry k v l) = if j = k then some v else lookup j l := by
  induction l with
  | nil => simp [insertEntry, lookup]
  | cons a t ih =>
    obtain ⟨k', v'⟩ := a
    by_cases hlt : k < k'
    · simp [insertEntry, hlt, lookup]
    · by_cases heq : k = k'
      · subst heq
        by_cases hj : j = k <;> simp [insertEntry, lookup, hj]
      · by_cases hj : j = k'
        · subst hj
          simp [insertEntry, hlt, heq, lookup, Ne.symm heq]
        · simp only [insertEntry, hlt, heq, ite_false, lookup, hj, ih]

/-! ### Maps -/

def empty : OrdMap K V := ⟨[], List.Pairwise.nil⟩

instance : EmptyCollection (OrdMap K V) := ⟨empty⟩
instance : Inhabited (OrdMap K V) := ⟨empty⟩

/-- The value stored under a key. -/
def get (m : OrdMap K V) (k : K) : Option V := lookup k m.entries

/-- Store a value under a key. -/
def insert (m : OrdMap K V) (k : K) (v : V) : OrdMap K V :=
  ⟨insertEntry k v m.entries, sorted_insertEntry k v m.sorted⟩

/-- Keep the entries that satisfy `p`. -/
def filter (m : OrdMap K V) (p : K → V → Bool) : OrdMap K V :=
  ⟨m.entries.filter fun e => p e.1 e.2, m.sorted.filter _⟩

/-- Remove a key. -/
def erase (m : OrdMap K V) (k : K) : OrdMap K V := m.filter fun j _ => decide (j ≠ k)

/-- Change every value. -/
def map (m : OrdMap K V) (f : K → V → W) : OrdMap K W :=
  ⟨m.entries.map fun e => (e.1, f e.1 e.2), List.pairwise_map.2 m.sorted⟩

/-- The key has an entry. -/
def contains (m : OrdMap K V) (k : K) : Bool := (m.get k).isSome

def size (m : OrdMap K V) : Nat := m.entries.length

/-- The keys, in increasing order. -/
def keys (m : OrdMap K V) : List K := m.entries.map Prod.fst

/-- The values, in increasing key order. -/
def values (m : OrdMap K V) : List V := m.entries.map Prod.snd

/-- The value stored under a key, or a default. -/
def getD (m : OrdMap K V) (k : K) (d : V) : V := (m.get k).getD d

def keepLast (m : OrdMap K V) (n : Nat) : OrdMap K V :=
  ⟨m.entries.drop (m.size - n), m.sorted.sublist (List.drop_sublist _ _)⟩

@[simp] theorem get_empty (k : K) : (∅ : OrdMap K V).get k = none := rfl

@[simp] theorem entries_empty : (∅ : OrdMap K V).entries = [] := rfl

theorem get_insert (m : OrdMap K V) (k j : K) (v : V) :
    (m.insert k v).get j = if j = k then some v else m.get j :=
  lookup_insertEntry k j v m.entries

@[simp] theorem get_insert_self (m : OrdMap K V) (k : K) (v : V) :
    (m.insert k v).get k = some v := by
  simp [get_insert]

theorem get_insert_of_ne (m : OrdMap K V) (h : j ≠ k) (v : V) : (m.insert k v).get j = m.get
    j := by
  simp [get_insert, h]

theorem get_insert_eq_some {w : V} :
    (m.insert k v).get j = some w ↔ j = k ∧ v = w ∨ j ≠ k ∧ m.get j = some w := by
  rw [get_insert]
  split_ifs with h <;> simp [h]

theorem lookup_eq_some_iff (hl : l.Pairwise fun a b => a.1 < b.1) : lookup k l = some v ↔ (k, v) ∈
    l := by
  induction l with
  | nil => simp [lookup]
  | cons a t ih =>
    obtain ⟨k', v'⟩ := a
    obtain ⟨hhd, htl⟩ := List.pairwise_cons.1 hl
    by_cases h : k = k'
    · subst h
      have hnot : (k, v) ∉ t := fun hmem => (hhd _ hmem).false
      simp [lookup, hnot, eq_comm]
    · simp [lookup, h, ih htl]

theorem get_eq_some_iff : m.get k = some v ↔ (k, v) ∈ m.entries :=
  lookup_eq_some_iff m.sorted

theorem mem_values : v ∈ m.values ↔ ∃ k, m.get k = some v := by
  simp [values, get_eq_some_iff]

theorem get_filter (m : OrdMap K V) (p : K → V → Bool) (k : K) :
    (m.filter p).get k = (m.get k).filter (p k) := by
  ext v
  simp only [get_eq_some_iff, filter, List.mem_filter, Option.filter_eq_some_iff]

theorem get_erase (m : OrdMap K V) (k j : K) :
    (m.erase k).get j = if j = k then none else m.get j := by
  rw [erase, get_filter]
  by_cases h : j = k
  · simp [h]
  · cases m.get j <;> simp [h]

theorem get_erase_eq_some : (m.erase k).get j = some v ↔ j ≠ k ∧ m.get j = some v := by
  rw [get_erase, Option.ite_none_left_eq_some]

theorem get_map (m : OrdMap K V) (f : K → V → W) (k : K) :
    (m.map f).get k = (m.get k).map (f k) := by
  have key : ∀ l : List (K × V),
      lookup k (l.map fun e => (e.1, f e.1 e.2)) = (lookup k l).map (f k) := by
    intro l
    induction l with
    | nil => rfl
    | cons a t ih =>
      by_cases h : k = a.1
      · subst h; simp [lookup]
      · simp only [List.map_cons, lookup, h, ite_false, ih]
  exact key m.entries

/-- Maps with the same lookups are equal. -/
theorem ext_get (h : ∀ k, m.get k = m'.get k) : m = m' := by
  have hnodup : ∀ m : OrdMap K V, m.entries.Nodup := fun m =>
    m.sorted.imp fun hlt heq => (heq ▸ hlt).false
  have hperm : m.entries.Perm m'.entries :=
    (List.perm_ext_iff_of_nodup (hnodup m) (hnodup m')).2 fun ⟨k, v⟩ => by
      rw [← get_eq_some_iff, ← get_eq_some_iff, h k]
  exact ext (hperm.eq_of_pairwise (fun a b _ _ hab hba => (hab.trans hba).false.elim)
    m.sorted m'.sorted)

theorem contains_iff : m.contains k = true ↔ ∃ v, m.get k = some v := by
  simp [contains, Option.isSome_iff_exists]

theorem contains_eq_false : m.contains k = false ↔ m.get k = none := by
  simp [contains]

theorem contains_insert (m : OrdMap K V) (k j : K) (v : V) :
    (m.insert k v).contains j = (decide (j = k) || m.contains j) := by
  rw [contains, contains, get_insert]
  by_cases h : j = k <;> simp [h]

theorem contains_filter_key (m : OrdMap K V) (p : K → Bool) (j : K) :
    (m.filter fun k _ => p k).contains j = (p j && m.contains j) := by
  rw [contains, contains, get_filter]
  cases m.get j <;> cases p j <;> rfl

theorem nodup_entries (m : OrdMap K V) : m.entries.Nodup :=
  m.sorted.imp fun h heq => absurd (congrArg Prod.fst heq) h.ne

/-- A map whose chosen entries are all chosen in another has no more of them. -/
theorem countP_values_le {p p' : V → Bool}
    (h : ∀ k v, m.get k = some v → p v = true → m'.get k = some v ∧ p' v = true) : m.values.countP p
    ≤ m'.values.countP p' := by
  rw [values, values, List.countP_map, List.countP_map, List.countP_eq_length_filter,
    List.countP_eq_length_filter]
  have hnodup : (m.entries.filter (p ∘ Prod.snd)).Nodup := m.nodup_entries.filter _
  refine (List.subperm_of_subset hnodup fun e he => ?_).length_le
  obtain ⟨hmem, hp⟩ := List.mem_filter.1 he
  obtain ⟨hget, hp'⟩ := h e.1 e.2 (get_eq_some_iff.2 hmem) hp
  exact List.mem_filter.2 ⟨get_eq_some_iff.1 hget, hp'⟩

theorem contains_erase (m : OrdMap K V) (k j : K) :
    (m.erase k).contains j = (decide (j ≠ k) && m.contains j) :=
  contains_filter_key m (fun j => decide (j ≠ k)) j

theorem sorted_keys (m : OrdMap K V) : m.keys.Pairwise (· < ·) :=
  List.pairwise_map.2 m.sorted

theorem nodup_keys (m : OrdMap K V) : m.keys.Nodup :=
  m.sorted_keys.imp fun h => h.ne

theorem mem_keys : k ∈ m.keys ↔ m.contains k = true := by
  simp [keys, contains_iff, get_eq_some_iff]

/-- The keys are determined by what is contained. -/
theorem keys_congr {m' : OrdMap K W} (h : ∀ k, m.contains k = m'.contains k) : m.keys =
    m'.keys := by
  have hperm : m.keys.Perm m'.keys := (List.perm_ext_iff_of_nodup m.nodup_keys m'.nodup_keys).2
    fun k => by rw [mem_keys, mem_keys, h]
  exact hperm.eq_of_pairwise (fun a b _ _ hab hba => (hab.trans hba).false.elim) m.sorted_keys
    m'.sorted_keys

theorem keys_insert (h : m.contains k = true) (v : V) : (m.insert k v).keys = m.keys := by
  refine keys_congr fun j => ?_
  rw [contains_insert]
  by_cases hj : j = k
  · simp [hj, h]
  · simp [hj]

/-- The entries are the keys with their values. -/
theorem map_entries {β : Type*} (m : OrdMap K V) (f : K → V → β) (d : V) :
    (m.entries.map fun e => f e.1 e.2) = m.keys.map fun k => f k (m.getD k d) := by
  rw [keys, List.map_map]
  refine List.map_congr_left fun e he => ?_
  rw [Function.comp_apply, getD, get_eq_some_iff.2 he, Option.getD_some]

/-! ### Sums over a map -/

def sumBy (f : K → V → Nat) (m : OrdMap K V) : Nat := (m.entries.map fun e => f e.1 e.2).sum

/-- The amount at one key, zero when there is no entry. -/
def amountAt (f : K → V → Nat) (m : OrdMap K V) (k : K) : Nat := (m.get k).elim 0 (f k)

@[simp] theorem sumBy_empty (f : K → V → Nat) : sumBy f (∅ : OrdMap K V) = 0 := rfl

variable {f : K → V → Nat}

theorem amountAt_of_get (h : m.get k = some v) : amountAt f m k = f k v := by
  simp [amountAt, h]

theorem amountAt_of_none (h : m.get k = none) : amountAt f m k = 0 := by
  simp [amountAt, h]

variable (f)

theorem sum_insertEntry (k : K) (v : V) (hl : l.Pairwise fun a b => a.1 < b.1) :
    ((insertEntry k v l).map fun e => f e.1 e.2).sum + (lookup k l).elim 0 (f k) =
    (l.map fun e => f e.1 e.2).sum + f k v := by
  induction l with
  | nil => simp [insertEntry, lookup]
  | cons a t ih =>
    obtain ⟨k', v'⟩ := a
    obtain ⟨hhd, htl⟩ := List.pairwise_cons.1 hl
    simp only [insertEntry]
    split_ifs with h1 h2
    · have hnone : lookup k t = none := lookup_eq_none_of_lt fun e he => h1.trans (hhd e he)
      simp only [lookup, h1.ne, ite_false, hnone, List.map_cons, List.sum_cons, Option.elim]
      omega
    · subst h2
      simp only [lookup, ite_true, List.map_cons, List.sum_cons, Option.elim]
      omega
    · have := ih htl
      simp only [lookup, h2, ite_false, List.map_cons, List.sum_cons]
      omega

/-- Storing a value replaces what the key held before. -/
theorem sumBy_insert (m : OrdMap K V) (k : K) (v : V) :
    sumBy f (m.insert k v) + amountAt f m k = sumBy f m + f k v :=
  sum_insertEntry f k v m.sorted

theorem sumBy_filter (m : OrdMap K V) (p : K → V → Bool) :
    sumBy f (m.filter p) + sumBy f (m.filter fun k v => !p k v) = sumBy f m := by
  have key : ∀ l : List (K × V),
      ((l.filter fun e => p e.1 e.2).map fun e => f e.1 e.2).sum +
        ((l.filter fun e => !p e.1 e.2).map fun e => f e.1 e.2).sum =
          (l.map fun e => f e.1 e.2).sum := by
    intro l
    induction l with
    | nil => rfl
    | cons a t ih =>
      cases h : p a.1 a.2 <;> simp [h] at ih ⊢ <;> omega
  exact key m.entries

theorem amountAt_le_sumBy (m : OrdMap K V) (k : K) : amountAt f m k ≤ sumBy f m := by
  cases h : m.get k with
  | none => simp [amountAt, h]
  | some v =>
    rw [amountAt_of_get h]
    exact List.single_le_sum (fun _ _ => Nat.zero_le _) _ (List.mem_map.2 ⟨(k, v), get_eq_some_iff.1 h, rfl⟩)

variable {f} {g : K → V → Nat}

theorem sumBy_congr (h : ∀ k v, m.get k = some v → f k v = g k v) : sumBy f
    m = sumBy g m := by
  unfold sumBy
  congr 1
  exact List.map_congr_left fun e he => h e.1 e.2 (get_eq_some_iff.2 he)

theorem sumBy_mono (h : ∀ k v, m.get k = some v → f k v ≤ g k v) : sumBy f m ≤ sumBy g m := by
  exact List.sum_le_sum fun e he => h e.1 e.2 (get_eq_some_iff.2 he)

theorem sumBy_map (f : K → W → Nat) (g : K → V → W) (m : OrdMap K V) :
    sumBy f (m.map g) = sumBy (fun k v => f k (g k v)) m := by
  simp [sumBy, map, List.map_map, Function.comp_def]

theorem sumBy_filter_le (f : K → V → Nat) (m : OrdMap K V) (p : K → V → Bool) :
    sumBy f (m.filter p) ≤ sumBy f m := by
  have := sumBy_filter f m p
  omega

/-- Removing a key removes its amount. -/
theorem sumBy_erase (f : K → V → Nat) (m : OrdMap K V) (k : K) :
    sumBy f (m.erase k) + amountAt f m k = sumBy f m := by
  cases hk : m.get k with
  | none =>
    have herase : m.erase k = m := by
      refine ext_get fun j => ?_
      rw [get_erase]
      split_ifs with h
      · rw [h, hk]
      · rfl
    rw [herase, amountAt_of_none hk]
    rfl
  | some v =>
    have hinsert : (m.erase k).insert k v = m := by
      refine ext_get fun j => ?_
      rw [get_insert, get_erase]
      split_ifs with h
      · rw [h, hk]
      · rfl
    have hsum := sumBy_insert f (m.erase k) k v
    rw [hinsert, amountAt_of_none (by simp [get_erase])] at hsum
    rw [amountAt_of_get hk]
    omega

/-- Two amount functions that agree away from one key. -/
theorem sumBy_congr_off (m : OrdMap K V) (h : ∀ j v, j ≠ k → f j v = g j v) :
    sumBy f m + amountAt g m k = sumBy g m + amountAt f m k := by
  have herase : sumBy f (m.erase k) = sumBy g (m.erase k) := by
    refine sumBy_congr fun j v hget => h j v ?_
    rintro rfl
    simp [get_erase] at hget
  have hf := sumBy_erase f m k
  have hg := sumBy_erase g m k
  omega

end OrdMap
