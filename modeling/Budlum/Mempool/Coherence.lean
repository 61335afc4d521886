import Budlum.Lib.Trace
import Budlum.Mempool.Pool

/-!
# The mempool and its indexes

The pool keeps its transactions in one map and lists them in two indexes, by sender and nonce and by
fee and hash; beside them it keeps the number of resident bytes.  Every call changes all four.

* `Mempool.Indexes` : an index lists exactly the transactions of the map.
* `Mempool.Coherent`, `Mempool.WithinLimits` : the map, the indexes and the byte count agree, and the
  limits of the configuration hold.
* `Mempool.coherent_of_calls` : **both hold after every sequence of calls on a new pool, whatever its
  limits are**.
-/

namespace Budlum

open Option (bind_some elim_some filter filter_eq_some_iff filter_some map_some)
open OrdMap (amountAt_of_get amountAt_of_none getD get_erase get_erase_eq_some get_insert
  get_insert_eq_some get_insert_self size sumBy sumBy_erase sumBy_insert)

namespace Mempool

/-! ### Indexes with two keys -/

section Index

variable {K J V : Type} [LinearOrder K] [LinearOrder J]

/-- What an index lists under two keys. -/
def listed (m : OrdMap K (OrdMap J V)) (k : K) (j : J) : Option V := (m.get k).bind (·.get j)

/-- The number of entries under the first key. -/
def width (m : OrdMap K (OrdMap J V)) (k : K) : Nat := (m.get k).elim 0 size

/-- List one more entry. -/
def listAt (m : OrdMap K (OrdMap J V)) (k : K) (j : J) (v : V) : OrdMap K (OrdMap J V) :=
  m.insert k ((m.getD k ∅).insert j v)

variable {m : OrdMap K (OrdMap J V)} {k k' : K} {j j' : J} {v : V}

theorem size_eq_sumBy (m : OrdMap K V) : m.size = m.sumBy fun _ _ => 1 := by
  simp [size, sumBy]

theorem size_insert_of_free {m : OrdMap K V} (h : m.get k = none) (v : V) :
    (m.insert k v).size = m.size + 1 := by
  have hsum := sumBy_insert (fun _ _ => 1) m k v
  rwa [amountAt_of_none h, ← size_eq_sumBy, ← size_eq_sumBy] at hsum

theorem size_erase_of_get {m : OrdMap K V} (h : m.get k = some v) :
    (m.erase k).size + 1 = m.size := by
  have hsum := sumBy_erase (fun _ _ => 1) m k
  rwa [amountAt_of_get h, ← size_eq_sumBy, ← size_eq_sumBy] at hsum

theorem get_eq_none_of_isEmpty {m : OrdMap K V} (h : m.entries.isEmpty = true) (k : K) :
    m.get k = none := by
  rw [OrdMap.get, List.isEmpty_iff.1 h]
  rfl

variable (m)

theorem get_eraseFrom (k : K) (j : J) (k' : K) : (eraseFrom m k j).get k' = if k' = k then
      ((m.get k).map (·.erase j)).filter fun inner => !inner.entries.isEmpty
    else m.get k' := by
  unfold eraseFrom
  cases hget : m.get k with
  | none =>
    by_cases hk : k' = k
    · simp [hk, hget]
    · simp [hk]
  | some inner =>
    dsimp only
    split <;> rename_i hempty
    · rw [get_erase]
      simp [filter, hempty]
    · rw [get_insert]
      simp [filter, hempty]

theorem listed_eraseFrom (k k' : K) (j j' : J) :
    listed (eraseFrom m k j) k' j' = if k' = k ∧ j' = j then none else listed m k' j' := by
  unfold listed
  rw [get_eraseFrom]
  by_cases hk : k' = k
  · subst hk
    cases m.get k' with
    | none => simp
    | some inner =>
      simp only [map_some, filter_some, bind_some]
      cases hempty : (inner.erase j).entries.isEmpty with
      | true =>
        have hnone := get_eq_none_of_isEmpty hempty j'
        rw [get_erase] at hnone
        simp [hnone]
      | false => simp [get_erase]
  · simp [hk]

variable {m}

theorem width_eraseFrom_self (h : listed m k j = some v) :
    width (eraseFrom m k j) k + 1 = width m k := by
  obtain ⟨inner, hinner, hj⟩ := Option.bind_eq_some_iff.1 h
  have hsize := size_erase_of_get hj
  unfold width
  rw [get_eraseFrom, if_pos rfl, hinner]
  simp only [map_some, filter_some, elim_some]
  cases hempty : (inner.erase j).entries.isEmpty with
  | true =>
    have hzero : (inner.erase j).size = 0 := by
      rw [size, List.isEmpty_iff.1 hempty]
      rfl
    simp only [Bool.not_true, Bool.false_eq_true, if_false, Option.elim_none]
    omega
  | false => simpa using hsize

theorem width_eraseFrom_of_ne (h : k' ≠ k) : width (eraseFrom m k j) k' = width m k' := by
  rw [width, get_eraseFrom, if_neg h, width]

theorem listed_listAt : listed (listAt m k j v) k' j' =
    if k' = k ∧ j' = j then some v else listed m k' j' := by
  unfold listed listAt
  rw [get_insert]
  by_cases hk : k' = k
  · subst hk
    simp only [if_true, bind_some, get_insert, getD, true_and]
    cases m.get k' <;> simp
  · simp [hk]

theorem width_listAt_self (h : listed m k j = none) : width (listAt m k j v) k = width m k + 1 := by
  unfold width listAt
  rw [get_insert_self]
  unfold listed at h
  cases hinner : m.get k with
  | none =>
    have hsize := size_insert_of_free (m := (∅ : OrdMap J V)) (OrdMap.get_empty j) v
    rwa [getD, hinner]
  | some inner =>
    rw [hinner] at h
    simp [getD, hinner, size_insert_of_free h]

theorem width_listAt_of_ne (h : k' ≠ k) : width (listAt m k j v) k' = width m k' := by
  rw [width, listAt, OrdMap.get_insert_of_ne _ h, width]

end Index

/-! ### An index lists the transactions of the map -/

section Indexes

variable {K J V : Type} [LinearOrder K] [LinearOrder J]

/-- The index lists every transaction under its two keys and nothing else, it has no empty level,
and every level is as wide as the number of transactions with its key. -/
structure Indexes (key : PendingTx → K) (sub : String → PendingTx → J) (val : String → V)
    (ts : OrdMap String PendingTx) (m : OrdMap K (OrdMap J V)) : Prop where
  listed_iff : ∀ k j v, listed m k j = some v ↔
    ∃ h e, ts.get h = some e ∧ key e = k ∧ sub h e = j ∧ val h = v
  nonempty : ∀ k inner, m.get k = some inner → inner.entries.isEmpty = false
  width_eq : ∀ k, width m k = ts.sumBy fun _ e => if key e = k then 1 else 0

namespace Indexes

variable {key : PendingTx → K} {sub : String → PendingTx → J} {val : String → V}
  {ts : OrdMap String PendingTx} {m : OrdMap K (OrdMap J V)} {h : String} {e : PendingTx}

theorem empty : Indexes key sub val ∅ ∅ where
  listed_iff k j v := by simp [listed]
  nonempty k inner hget := by simp at hget
  width_eq k := by simp [width]

theorem listed_of_get (hm : Indexes key sub val ts m) (hget : ts.get h = some e) :
    listed m (key e) (sub h e) = some (val h) :=
  (hm.listed_iff _ _ _).2 ⟨h, e, hget, rfl, rfl, rfl⟩

/-- A transaction is dropped from the map and from the index. -/
theorem remove (hm : Indexes key sub val ts m)
    (hinj : ∀ h e h' e', sub h e = sub h' e' → val h = val h' → h = h') (hget : ts.get h = some e) :
    Indexes key sub val (ts.erase h) (eraseFrom m (key e) (sub h e)) where
  listed_iff k j v := by
    rw [listed_eraseFrom]
    split
    · rename_i hslot
      obtain ⟨rfl, rfl⟩ := hslot
      simp only [reduceCtorEq, false_iff, not_exists, not_and]
      intro h' e' hget' hkey hsub
      obtain ⟨hne, hget'⟩ := get_erase_eq_some.1 hget'
      have hlisted := hm.listed_of_get hget
      have hlisted' := hm.listed_of_get hget'
      rw [hkey, hsub, hlisted] at hlisted'
      exact absurd (hinj h' e' h e hsub (Option.some.inj hlisted').symm) hne
    · rename_i hslot
      rw [hm.listed_iff]
      constructor
      · rintro ⟨h', e', hget', rfl, rfl, rfl⟩
        have hne : h' ≠ h := by
          rintro rfl
          rw [hget] at hget'
          obtain rfl := Option.some.inj hget'
          exact hslot ⟨rfl, rfl⟩
        exact ⟨h', e', get_erase_eq_some.2 ⟨hne, hget'⟩, rfl, rfl, rfl⟩
      · rintro ⟨h', e', hget', hrest⟩
        exact ⟨h', e', (get_erase_eq_some.1 hget').2, hrest⟩
  nonempty k inner hinner := by
    rw [get_eraseFrom] at hinner
    split at hinner
    · have hkept := (filter_eq_some_iff.1 hinner).2
      simpa using hkept
    · exact hm.nonempty k inner hinner
  width_eq k := by
    have hsum := sumBy_erase (fun _ (e : PendingTx) => if key e = k then 1 else 0) ts h
    rw [amountAt_of_get hget, ← hm.width_eq k] at hsum
    by_cases hk : key e = k
    · subst hk
      have hself := width_eraseFrom_self (hm.listed_of_get hget)
      rw [if_pos rfl] at hsum
      omega
    · rw [if_neg hk] at hsum
      rw [width_eraseFrom_of_ne (Ne.symm hk)]
      omega

/-- A transaction enters the map and the index, under keys nothing is listed under. -/
theorem enter (hm : Indexes key sub val ts m) (hfree : ts.get h = none)
    (hslot : listed m (key e) (sub h e) = none) :
    Indexes key sub val (ts.insert h e) (listAt m (key e) (sub h e) (val h)) where
  listed_iff k j v := by
    rw [listed_listAt]
    split_ifs with hkeys
    · obtain ⟨rfl, rfl⟩ := hkeys
      constructor
      · rintro hv
        exact ⟨h, e, get_insert_self _ _ _, rfl, rfl, Option.some.inj hv⟩
      · rintro ⟨h', e', hget', hkey, hsub, rfl⟩
        obtain ⟨rfl, -⟩ | ⟨-, hget'⟩ := get_insert_eq_some.1 hget'
        · rfl
        · have hlisted := hm.listed_of_get hget'
          simp [hkey, hsub, hslot] at hlisted
    · rw [hm.listed_iff]
      constructor
      · rintro ⟨h', e', hget', hrest⟩
        have hne : h' ≠ h := by
          rintro rfl
          simp [hfree] at hget'
        exact ⟨h', e', by rw [OrdMap.get_insert_of_ne _ hne, hget'], hrest⟩
      · rintro ⟨h', e', hget', rfl, rfl, rfl⟩
        obtain ⟨rfl, rfl⟩ | ⟨-, hget'⟩ := get_insert_eq_some.1 hget'
        · exact absurd ⟨rfl, rfl⟩ hkeys
        · exact ⟨h', e', hget', rfl, rfl, rfl⟩
  nonempty k inner hinner := by
    obtain ⟨-, rfl⟩ | ⟨-, hinner⟩ := get_insert_eq_some.1 hinner
    · rw [Bool.eq_false_iff]
      intro hempty
      have hnone := get_eq_none_of_isEmpty hempty (sub h e)
      simp [get_insert_self] at hnone
    · exact hm.nonempty k inner hinner
  width_eq k := by
    have hsum := sumBy_insert (fun _ (e : PendingTx) => if key e = k then 1 else 0) ts h e
    rw [amountAt_of_none hfree, ← hm.width_eq k] at hsum
    by_cases hk : key e = k
    · subst hk
      rw [width_listAt_self hslot]
      rw [if_pos rfl] at hsum
      omega
    · rw [if_neg hk] at hsum
      rw [width_listAt_of_ne (Ne.symm hk)]
      omega

end Indexes

end Indexes

/-! ### Coherence -/

/-- The number of waiting transactions of a sender. -/
def senderCount (p : Mempool) (a : Address) : Nat :=
  p.transactions.sumBy fun _ e => if e.tx.sender = a then 1 else 0

/-- The map and both indexes hold the same transactions, and the resident bytes are theirs. -/
structure Coherent (chargedBytes : Transaction → Nat) (p : Mempool) : Prop where
  keyed : ∀ h e, p.transactions.get h = some e → e.tx.hash = h ∧ e.charged = chargedBytes e.tx
  bySender : Indexes (fun e => e.tx.sender) (fun _ e => e.tx.nonce) id p.transactions p.bySender
  byFee : Indexes (fun e => e.tx.fee) (fun h _ => h) (fun _ => ()) p.transactions p.byFee
  residentBytes : p.residentBytes = p.transactions.sumBy fun _ e => e.charged

/-- The limits of the configuration hold. -/
structure WithinLimits (p : Mempool) : Prop where
  size : p.transactions.size ≤ p.config.maxSize
  bytes : p.residentBytes ≤ p.config.maxPoolBytes
  perSender : ∀ a, p.senderCount a ≤ p.config.maxPerSender

variable {chargedBytes : Transaction → Nat} {p p' : Mempool} {h : String} {e : PendingTx}

theorem removeTransaction_of_get (hget : p.transactions.get h = some e) : p.removeTransaction h =
    { p with
      transactions := p.transactions.erase h
      residentBytes := p.residentBytes - e.charged
      bySender := eraseFrom p.bySender e.tx.sender e.tx.nonce
      byFee := eraseFrom p.byFee e.tx.fee h } := by
  simp [removeTransaction, hget]

theorem removeTransaction_of_none (hget : p.transactions.get h = none) :
    p.removeTransaction h = p := by
  simp [removeTransaction, hget]

theorem removeTransaction_config (p : Mempool) (h : String) :
    (p.removeTransaction h).config = p.config := by
  cases hget : p.transactions.get h with
  | none => rw [removeTransaction_of_none hget]
  | some e => rw [removeTransaction_of_get hget]

theorem get_removeTransaction (p : Mempool) (h h' : String) :
    (p.removeTransaction h).transactions.get h' =
      if h' = h then none else p.transactions.get h' := by
  cases hget : p.transactions.get h with
  | none =>
    rw [removeTransaction_of_none hget]
    split
    · rw [‹h' = h›, hget]
    · rfl
  | some e => rw [removeTransaction_of_get hget, get_erase]

theorem Coherent.residentBytes_remove (hp : Coherent chargedBytes p)
    (hget : p.transactions.get h = some e) :
    (p.removeTransaction h).residentBytes + e.charged = p.residentBytes := by
  have hle := OrdMap.amountAt_le_sumBy (fun _ (e : PendingTx) => e.charged) p.transactions h
  rw [amountAt_of_get hget, ← hp.residentBytes] at hle
  rw [removeTransaction_of_get hget]
  exact Nat.sub_add_cancel hle

theorem Coherent.remove (hp : Coherent chargedBytes p) (h : String) :
    Coherent chargedBytes (p.removeTransaction h) := by
  cases hget : p.transactions.get h with
  | none => rwa [removeTransaction_of_none hget]
  | some e =>
    have hbytes := hp.residentBytes_remove hget
    rw [removeTransaction_of_get hget] at hbytes ⊢
    refine ⟨fun h' e' hget' => ?_, ?_, ?_, ?_⟩
    · exact hp.keyed h' e' (get_erase_eq_some.1 hget').2
    · exact hp.bySender.remove (fun _ _ _ _ _ hval => hval) hget
    · exact hp.byFee.remove (fun _ _ _ _ hsub _ => hsub) hget
    · have hsum := sumBy_erase (fun _ (e : PendingTx) => e.charged) p.transactions h
      rw [amountAt_of_get hget, ← hp.residentBytes] at hsum
      dsimp only at hbytes ⊢
      omega

/-- Fewer transactions: some were removed and no other thing changed. -/
structure Thinned (p p' : Mempool) : Prop where
  config : p'.config = p.config
  get : ∀ h e, p'.transactions.get h = some e → p.transactions.get h = some e
  size : p'.transactions.size ≤ p.transactions.size
  bytes : p'.residentBytes ≤ p.residentBytes
  senderCount : ∀ a, p'.senderCount a ≤ p.senderCount a

namespace Thinned

theorem refl (p : Mempool) : Thinned p p := ⟨rfl, fun _ _ h => h, le_rfl, le_rfl, fun _ => le_rfl⟩

theorem trans {q : Mempool} (h : Thinned p q) (h' : Thinned q p') : Thinned p p' where
  config := h'.config.trans h.config
  get hash e hget := h.get hash e (h'.get hash e hget)
  size := h'.size.trans h.size
  bytes := h'.bytes.trans h.bytes
  senderCount a := (h'.senderCount a).trans (h.senderCount a)

theorem remove (p : Mempool) (h : String) : Thinned p (p.removeTransaction h) := by
  cases hget : p.transactions.get h with
  | none =>
    rw [removeTransaction_of_none hget]
    exact refl p
  | some e =>
    rw [removeTransaction_of_get hget]
    refine ⟨rfl, fun h' e' hget' => (get_erase_eq_some.1 hget').2, ?_, Nat.sub_le _ _, fun a => ?_⟩
    · have hsize := size_erase_of_get hget
      dsimp only
      omega
    · exact OrdMap.sumBy_filter_le (fun _ (e : PendingTx) => if e.tx.sender = a then 1 else 0)
        p.transactions _

theorem foldl_remove (hs : List String) (p : Mempool) : Thinned p (hs.foldl removeTransaction p) :=
  hs.foldlRecOn _ (refl p) fun p' hp h _ => hp.trans (remove p' h)

theorem withinLimits (h : Thinned p p') (hp : p.WithinLimits) : p'.WithinLimits where
  size := by
    rw [h.config]
    exact h.size.trans hp.size
  bytes := by
    rw [h.config]
    exact h.bytes.trans hp.bytes
  perSender a := by
    rw [h.config]
    exact (h.senderCount a).trans (hp.perSender a)

end Thinned

theorem Coherent.foldl_remove (hp : Coherent chargedBytes p) (hs : List String) :
    Coherent chargedBytes (hs.foldl removeTransaction p) :=
  hs.foldlRecOn _ hp fun _ hp h _ => hp.remove h

theorem get_foldl_remove (hs : List String) (p : Mempool) (h : String) :
    (hs.foldl removeTransaction p).transactions.get h =
      if h ∈ hs then none else p.transactions.get h := by
  induction hs generalizing p with
  | nil => simp
  | cons h' hs ih =>
    rw [List.foldl_cons, ih, get_removeTransaction]
    by_cases hmem : h ∈ hs
    · simp [hmem]
    · by_cases heq : h = h' <;> simp [heq, hmem]

/-- Removing different transactions frees the bytes of each. -/
theorem Coherent.residentBytes_foldl_remove {hs : List String} (hp : Coherent chargedBytes p)
    (hnodup : hs.Nodup) (hmem : ∀ h ∈ hs, ∃ e, p.transactions.get h = some e) :
    (hs.foldl removeTransaction p).residentBytes +
      (hs.map fun h => (p.transactions.get h).elim 0 (·.charged)).sum = p.residentBytes := by
  induction hs generalizing p with
  | nil => simp
  | cons h hs ih =>
    obtain ⟨hnot, hnodup⟩ := List.nodup_cons.1 hnodup
    obtain ⟨e, hget⟩ := hmem h List.mem_cons_self
    have hother : ∀ h' ∈ hs, (p.removeTransaction h).transactions.get h' =
        p.transactions.get h' := fun h' hh' => by
      rw [get_removeTransaction, if_neg]
      rintro rfl
      exact hnot hh'
    have hrest := ih (hp.remove h) hnodup fun h' hh' => by
      rw [hother h' hh']
      exact hmem h' (List.mem_cons_of_mem _ hh')
    have hmap : hs.map (fun h' => ((p.removeTransaction h).transactions.get h').elim 0 (·.charged)) =
        hs.map fun h' => (p.transactions.get h').elim 0 (·.charged) :=
      List.map_congr_left fun h' hh' => by rw [hother h' hh']
    have hone := hp.residentBytes_remove hget
    rw [hmap] at hrest
    rw [List.foldl_cons, List.map_cons, List.sum_cons, hget, elim_some]
    omega

/-! ### Evictions -/

/-- No transaction of the sender was removed. -/
structure Spares (a : Address) (p p' : Mempool) : Prop extends Thinned p p' where
  own : ∀ h e, p.transactions.get h = some e → e.tx.sender = a → p'.transactions.get h = some e

namespace Spares

variable {a : Address}

theorem foldl_remove {tx : Transaction} (hs : List String)
    (hforeign : ∀ h ∈ hs, (p.foreignTo tx h).isSome) :
    Spares tx.sender p (hs.foldl removeTransaction p) where
  toThinned := .foldl_remove hs p
  own h e hget hown := by
    rw [get_foldl_remove, if_neg, hget]
    intro hmem
    have hsome := hforeign h hmem
    simp [foreignTo, hget, filter, hown] at hsome

/-- The index lists the same transactions of the sender. -/
theorem findTxBySenderNonce (h : Spares a p p') (hp : Coherent chargedBytes p)
    (hp' : Coherent chargedBytes p') (nonce : UInt64) :
    p'.findTxBySenderNonce a nonce = p.findTxBySenderNonce a nonce := by
  refine Option.ext fun hash => ?_
  have hiff := hp.bySender.listed_iff a nonce hash
  have hiff' := hp'.bySender.listed_iff a nonce hash
  rw [Mempool.findTxBySenderNonce, Mempool.findTxBySenderNonce]
  refine hiff'.trans (Iff.trans ?_ hiff.symm)
  constructor
  · rintro ⟨h₁, e, hget, hrest⟩
    exact ⟨h₁, e, h.get h₁ e hget, hrest⟩
  · rintro ⟨h₁, e, hget, hown, hrest⟩
    exact ⟨h₁, e, h.own h₁ e hget hown, hown, hrest⟩

end Spares

variable {tx : Transaction}

theorem evictLowestFee_eq_some (hevict : p.evictLowestFee tx = some p') : ∃ h,
    (p.foreignTo tx h).isSome ∧ p' = p.removeTransaction h := by
  obtain ⟨h, hfind, rfl⟩ := Option.map_eq_some_iff.1 hevict
  obtain ⟨hashes, -, hfirst⟩ := List.exists_of_findSome?_eq_some hfind
  exact ⟨h, by simpa using List.find?_some hfirst, rfl⟩

theorem exists_get_of_foreignTo (h' : (p.foreignTo tx h).isSome) : ∃ e, p.transactions.get h = some
    e ∧ e.tx.sender ≠ tx.sender := by
  obtain ⟨e, he⟩ := Option.isSome_iff_exists.1 h'
  obtain ⟨hget, hforeign⟩ := filter_eq_some_iff.1 he
  exact ⟨e, hget, of_decide_eq_true hforeign⟩

/-- What the walk over the cheap transactions picks, and the bytes it counts. -/
theorem victims_spec (tx : Transaction) (needed freed : Nat) (hs : List String) :
    (p.victims tx needed freed hs).2.Sublist hs ∧
      (∀ h ∈ (p.victims tx needed freed hs).2, (p.foreignTo tx h).isSome) ∧
      (p.victims tx needed freed hs).1 = freed +
        ((p.victims tx needed freed hs).2.map fun h =>
          (p.transactions.get h).elim 0 (·.charged)).sum := by
  induction hs generalizing freed with
  | nil => simp [victims]
  | cons h hs ih =>
    unfold victims
    cases hforeign : p.foreignTo tx h with
    | none =>
      obtain ⟨hsub, hall, hsum⟩ := ih freed
      exact ⟨hsub.cons h, hall, hsum⟩
    | some e =>
      have hget : p.transactions.get h = some e := (filter_eq_some_iff.1 hforeign).1
      dsimp only
      split
      · simp [hforeign, hget]
      · obtain ⟨hsub, hall, hsum⟩ := ih (freed + e.charged)
        refine ⟨hsub.cons_cons h, ?_, ?_⟩
        · intro h' hh'
          rcases List.mem_cons.1 hh' with rfl | hh'
          · simp [hforeign]
          · exact hall h' hh'
        · simp only [List.map_cons, List.sum_cons, hget, elim_some]
          omega

/-- Every hash is listed at one fee only. -/
theorem Coherent.nodup_lowerFees (hp : Coherent chargedBytes p) (tx : Transaction) :
    ((p.lowerFees tx).flatMap (·.keys)).Nodup := by
  have hlevel : ∀ level ∈ p.byFee.entries, ∀ h ∈ level.2.keys,
      ∃ e, p.transactions.get h = some e ∧ e.tx.fee = level.1 := by
    intro level hmem h hh
    obtain ⟨entry, hentry, rfl⟩ := List.mem_map.1 hh
    have hlisted : listed p.byFee level.1 entry.1 = some () := by
      rw [listed, OrdMap.get_eq_some_iff.2 hmem]
      exact OrdMap.get_eq_some_iff.2 hentry
    obtain ⟨h', e, hget, hfee, rfl, -⟩ := (hp.byFee.listed_iff _ _ _).1 hlisted
    exact ⟨e, hget, hfee⟩
  have hsub := List.takeWhile_sublist (l := p.byFee.entries)
    fun level => decide (level.1 < tx.fee)
  rw [lowerFees, List.flatMap_map, List.nodup_flatMap]
  constructor
  · intro level _
    exact List.pairwise_map.2 (level.2.sorted.imp fun hlt => hlt.ne)
  · refine (p.byFee.sorted.sublist hsub).imp_of_mem fun {l₁ l₂} hl₁ hl₂ hlt => ?_
    intro h hh₁ hh₂
    obtain ⟨e₁, hget₁, hfee₁⟩ := hlevel l₁ (hsub.subset hl₁) h hh₁
    obtain ⟨e₂, hget₂, hfee₂⟩ := hlevel l₂ (hsub.subset hl₂) h hh₂
    rw [hget₁] at hget₂
    obtain rfl := Option.some.inj hget₂
    exact hlt.ne (hfee₁.symm.trans hfee₂)

/-- An eviction for space frees at least what is needed, and spares the sender. -/
theorem Coherent.evictUntilBytesFit {needed : Nat} (hp : Coherent chargedBytes p)
    (hevict : p.evictUntilBytesFit tx needed = some p') : Coherent chargedBytes p' ∧ Spares
    tx.sender p p' ∧ p'.residentBytes + needed ≤ p.residentBytes := by
  unfold Mempool.evictUntilBytesFit at hevict
  obtain ⟨hsub, hforeign, hfreed⟩ :=
    victims_spec (p := p) tx needed 0 ((p.lowerFees tx).flatMap (·.keys))
  dsimp only at hevict
  split at hevict
  · cases hevict
  · rename_i henough
    obtain rfl := Option.some.inj hevict
    have hbytes := hp.residentBytes_foldl_remove ((hp.nodup_lowerFees tx).sublist hsub)
      fun h hh => (exists_get_of_foreignTo (hforeign h hh)).imp fun _ he => he.1
    refine ⟨hp.foldl_remove _, .foldl_remove _ hforeign, ?_⟩
    omega

/-! ### Adding a transaction -/

theorem enter_eq (p : Mempool) (tx : Transaction) (now : U128) (charged : Nat) :
    p.enter tx now charged =
      { p with
        transactions := p.transactions.insert tx.hash ⟨tx, now, charged⟩
        bySender := listAt p.bySender tx.sender tx.nonce tx.hash
        byFee := listAt p.byFee tx.fee tx.hash ()
        residentBytes := p.residentBytes + charged } := rfl

theorem Coherent.enter (hp : Coherent chargedBytes p) (hfree : p.transactions.get tx.hash = none)
    (hslot : p.findTxBySenderNonce tx.sender tx.nonce = none) (now : U128) : Coherent chargedBytes
    (p.enter tx now (chargedBytes tx)) := by
  rw [enter_eq]
  refine ⟨fun h e hget => ?_, ?_, ?_, ?_⟩
  · obtain ⟨rfl, rfl⟩ | ⟨-, hget⟩ := get_insert_eq_some.1 hget
    · exact ⟨rfl, rfl⟩
    · exact hp.keyed h e hget
  · exact hp.bySender.enter (e := ⟨tx, now, chargedBytes tx⟩) hfree hslot
  · refine hp.byFee.enter (e := ⟨tx, now, chargedBytes tx⟩) hfree (Option.eq_none_iff_forall_ne_some.2 ?_)
    intro v hlisted
    obtain ⟨h, e, hget, -, rfl, -⟩ := (hp.byFee.listed_iff _ _ _).1 hlisted
    simp [hfree] at hget
  · have hsum := sumBy_insert (fun _ (e : PendingTx) => e.charged) p.transactions tx.hash
      ⟨tx, now, chargedBytes tx⟩
    rw [amountAt_of_none hfree, ← hp.residentBytes] at hsum
    exact hsum.symm

/-- The coherence and the limits of a pool, and the limits are those it was built with. -/
structure Sound (chargedBytes : Transaction → Nat) (config : MempoolConfig) (p : Mempool) : Prop where
  coherent : p.Coherent chargedBytes
  limits : p.WithinLimits
  config_eq : { p.config with minFee := config.minFee } = config

variable {config : MempoolConfig}

theorem Sound.thinned (hp : Sound chargedBytes config p) (hcoherent : Coherent chargedBytes p')
    (h : Thinned p p') : Sound chargedBytes config p' :=
  ⟨hcoherent, h.withinLimits hp.limits, by rw [h.config, hp.config_eq]⟩

/-- Everything that was checked of a new transaction before its bytes are. -/
structure Ready (tx : Transaction) (existing : Option String) (p : Mempool) : Prop where
  free : p.transactions.get tx.hash = none
  slot : p.findTxBySenderNonce tx.sender tx.nonce = existing
  room : existing = none →
    p.transactions.size < p.config.maxSize ∧ p.senderCount tx.sender < p.config.maxPerSender

variable {existing : Option String}

theorem Ready.spares (h : Ready tx existing p)
    (hp : Coherent chargedBytes p) (hp' : Coherent chargedBytes p') (hspares : Spares tx.sender p p') :
    Ready tx existing p' where
  free := by
    cases hget : p'.transactions.get tx.hash with
    | none => rfl
    | some e => exact absurd (hspares.get _ e hget) (by simp [h.free])
  slot := (hspares.findTxBySenderNonce hp hp' tx.nonce).trans h.slot
  room hnone := by
    obtain ⟨hsize, hsender⟩ := h.room hnone
    have hconfig := hspares.config
    rw [hconfig]
    exact ⟨hspares.size.trans_lt hsize, (hspares.senderCount tx.sender).trans_lt hsender⟩

def replacedBytes (p : Mempool) (existing : Option String) : Nat :=
  (existing.bind p.transactions.get).elim 0 (·.charged)

/-- The transaction the index names is in the map. -/
theorem Coherent.get_of_find (hp : Coherent chargedBytes p)
    (hslot : p.findTxBySenderNonce tx.sender tx.nonce = some h) : ∃ e, p.transactions.get h = some e
    ∧ e.tx.sender = tx.sender ∧ e.tx.nonce = tx.nonce := by
  obtain ⟨h', e, hget, hsender, hnonce, rfl⟩ := (hp.bySender.listed_iff _ _ _).1 hslot
  exact ⟨e, hget, hsender, hnonce⟩

theorem size_remove (hget : p.transactions.get h = some e) :
    (p.removeTransaction h).transactions.size + 1 = p.transactions.size := by
  rw [removeTransaction_of_get hget]
  exact size_erase_of_get hget

theorem Coherent.replacedBytes_le (hp : Coherent chargedBytes p) (existing : Option String) :
    p.replacedBytes existing ≤ p.residentBytes := by
  cases existing with
  | none => exact Nat.zero_le _
  | some h =>
    rw [hp.residentBytes]
    exact OrdMap.amountAt_le_sumBy (fun _ (e : PendingTx) => e.charged) p.transactions h

theorem senderCount_remove (hget : p.transactions.get h = some e) (a : Address) :
    (p.removeTransaction h).senderCount a + (if e.tx.sender = a then 1 else 0) =
      p.senderCount a := by
  have hsum := sumBy_erase (fun _ (e : PendingTx) => if e.tx.sender = a then 1 else 0)
    p.transactions h
  rw [amountAt_of_get hget] at hsum
  rwa [removeTransaction_of_get hget]

theorem senderCount_enter (hfree : p.transactions.get tx.hash = none) (now : U128) (charged : Nat)
    (a : Address) : (p.enter tx now charged).senderCount a = p.senderCount a + if tx.sender = a then
    1 else 0 := by
  have hsum := sumBy_insert (fun _ (e : PendingTx) => if e.tx.sender = a then 1 else 0)
    p.transactions tx.hash ⟨tx, now, charged⟩
  rwa [amountAt_of_none hfree] at hsum

/-- A transaction at a new nonce. -/
theorem Sound.enter_new (hp : Sound chargedBytes config p) (hready : Ready tx none p)
    (hbytes : p.residentBytes + chargedBytes tx ≤ p.config.maxPoolBytes) (now : U128) : Sound
    chargedBytes config (p.enter tx now (chargedBytes tx)) := by
  obtain ⟨hsize, hsender⟩ := hready.room rfl
  refine ⟨hp.coherent.enter hready.free hready.slot now, ⟨?_, hbytes, fun a => ?_⟩, hp.config_eq⟩
  · exact (size_insert_of_free hready.free _).trans_le hsize
  · rw [senderCount_enter hready.free]
    split
    · subst a
      exact hsender
    · exact hp.limits.perSender a

/-- A transaction in the place of another one of its sender. -/
theorem Sound.enter_replacing
    (hp : Sound chargedBytes config p) (hready : Ready tx (some h) p)
    (hbytes : p.residentBytes - p.replacedBytes (some h) + chargedBytes tx ≤ p.config.maxPoolBytes)
    (now : U128) :
    Sound chargedBytes config ((p.removeTransaction h).enter tx now (chargedBytes tx)) := by
  obtain ⟨e, hget, hsender, hnonce⟩ := hp.coherent.get_of_find hready.slot
  have hconfig := removeTransaction_config p h
  have hremoved := hp.coherent.remove h
  have hfree : (p.removeTransaction h).transactions.get tx.hash = none := by
    rw [get_removeTransaction, hready.free, ite_self]
  have hslot : (p.removeTransaction h).findTxBySenderNonce tx.sender tx.nonce = none := by
    rw [removeTransaction_of_get hget, findTxBySenderNonce]
    exact (listed_eraseFrom _ _ _ _ _).trans (by rw [if_pos ⟨hsender.symm, hnonce.symm⟩])
  have hresident := hp.coherent.residentBytes_remove hget
  refine ⟨hremoved.enter hfree hslot now, ⟨?_, ?_, fun a => ?_⟩, ?_⟩
  · have hsize := size_remove hget
    have hlimit := hp.limits.size
    change ((p.removeTransaction h).transactions.insert tx.hash _).size ≤
      (p.removeTransaction h).config.maxSize
    rw [size_insert_of_free hfree, hconfig]
    omega
  · change (p.removeTransaction h).residentBytes + chargedBytes tx ≤
      (p.removeTransaction h).config.maxPoolBytes
    rw [hconfig]
    simp only [replacedBytes, bind_some, hget, elim_some] at hbytes
    omega
  · have hcount := senderCount_remove hget a
    have hlimit := hp.limits.perSender a
    rw [senderCount_enter hfree]
    change _ ≤ (p.removeTransaction h).config.maxPerSender
    rw [hconfig]
    rw [hsender] at hcount
    omega
  · change { (p.removeTransaction h).config with minFee := config.minFee } = config
    rw [hconfig, hp.config_eq]

/-- The second half of adding a transaction: room for its bytes, and the entry. -/
def admitBytes (chargedBytes : Transaction → Nat) (now : U128) (tx : Transaction)
    (existing : Option String) : EStateM MempoolError Mempool Unit := do
  let p ← get
  let projected := p.residentBytes - p.replacedBytes existing + chargedBytes tx
  if p.config.maxPoolBytes < projected then
    set (← EStateM.orThrow (p.evictUntilBytesFit tx (projected - p.config.maxPoolBytes))
      .poolBytesFull)
  modify fun p => (existing.elim p p.removeTransaction).enter tx now (chargedBytes tx)

theorem addTransaction_eq (C : Crypto) (chargedBytes : Transaction → Nat) (now : U128)
    (tx : Transaction) : addTransaction C chargedBytes now tx = (do
      EStateM.ensure (tx.verify C) (.invalidTransaction "Invalid transaction signature")
      EStateM.ensure (!(← get).transactions.contains tx.hash) .duplicateTransaction
      EStateM.ensure (decide ((← get).config.minFee ≤ tx.fee)) .feeTooLow
      EStateM.ofExcept ((← get).checkSender tx)
      let existing := (← get).findTxBySenderNonce tx.sender tx.nonce
      let p ← get
      if existing.isNone && decide (p.config.maxSize ≤ p.transactions.size) then
        set (← EStateM.orThrow (p.evictLowestFee tx) .poolFull)
      admitBytes chargedBytes now tx existing) := rfl

open EStateM in
theorem Sound.admitBytes (hp : Sound chargedBytes config p) (hready : Ready tx existing p)
    (now : U128) : (admitBytes chargedBytes now tx existing).Leaves p
    (Sound chargedBytes config) := by
  have henter : ∀ q, Sound chargedBytes config q → Ready tx existing q →
      q.residentBytes - q.replacedBytes existing + chargedBytes tx ≤ q.config.maxPoolBytes →
      Sound chargedBytes config ((existing.elim q q.removeTransaction).enter tx now
        (chargedBytes tx)) := by
    intro q hq hready hbytes
    cases existing with
    | none => exact hq.enter_new hready hbytes now
    | some h => exact hq.enter_replacing hready hbytes now
  refine Leaves.get_bind (Leaves.ite (fun hover => ?_) fun hfits => ?_)
  · refine Leaves.orThrow_bind hp fun q hevict => Leaves.set_bind (Leaves.modify ?_)
    obtain ⟨hcoherent, hspares, hfreed⟩ := hp.coherent.evictUntilBytesFit hevict
    refine henter q (hp.thinned hcoherent hspares.toThinned)
      (hready.spares hp.coherent hcoherent hspares) ?_
    -- the replaced transaction is the sender's own, so the eviction left it in place
    have hreplaced : q.replacedBytes existing = p.replacedBytes existing := by
      cases existing with
      | none => rfl
      | some h =>
        obtain ⟨e, hget, hsender, -⟩ := hp.coherent.get_of_find hready.slot
        simp [replacedBytes, hget, hspares.own h e hget hsender]
    have hle := hcoherent.replacedBytes_le existing
    rw [hreplaced] at hle ⊢
    rw [hspares.config]
    omega
  · exact Leaves.modify (henter p hp hready (not_lt.1 hfits))

open EStateM in
/-- Adding a transaction keeps the pool coherent and within its limits, whether it is entered or
refused at any point. -/
theorem Sound.addTransaction (hp : Sound chargedBytes config p) (C : Crypto) (now : U128)
    (tx : Transaction) : (addTransaction C chargedBytes now tx).Leaves p
    (Sound chargedBytes config) := by
  rw [addTransaction_eq]
  refine Leaves.ensure_bind hp fun _ => Leaves.get_bind <| Leaves.ensure_bind hp fun hnew =>
    Leaves.get_bind <| Leaves.ensure_bind hp fun _ => Leaves.get_bind <|
    Leaves.ofExcept_bind hp fun _ hsender => Leaves.get_bind <| Leaves.get_bind ?_
  have hfree : p.transactions.get tx.hash = none := by
    rw [Bool.not_eq_true'] at hnew
    exact OrdMap.contains_eq_false.1 hnew
  have hbelow : p.findTxBySenderNonce tx.sender tx.nonce = none →
      p.senderCount tx.sender < p.config.maxPerSender := by
    intro hnone
    rw [checkSender, hnone] at hsender
    have hwidth := of_decide_eq_true (Except.ensure_eq_ok.1 hsender)
    exact (hp.coherent.bySender.width_eq tx.sender).symm.trans_lt hwidth
  refine Leaves.ite (fun hfull => ?_) fun hroom => ?_
  · obtain ⟨hnone, -⟩ := (Bool.and_eq_true _ _).mp hfull
    rw [Option.isNone_iff_eq_none] at hnone
    refine Leaves.orThrow_bind hp fun q hevict => Leaves.set_bind ?_
    obtain ⟨h, hforeign, rfl⟩ := evictLowestFee_eq_some hevict
    have hspares : Spares tx.sender p (p.removeTransaction h) :=
      .foldl_remove [h] (by simpa using hforeign)
    have hcoherent := hp.coherent.remove h
    have hsound := hp.thinned hcoherent hspares.toThinned
    obtain ⟨e, hget, -⟩ := exists_get_of_foreignTo hforeign
    have hsize := size_remove hget
    have hlimit := hp.limits.size
    refine hsound.admitBytes ⟨?_, hspares.findTxBySenderNonce hp.coherent hcoherent _, fun _ => ?_⟩ now
    · rw [get_removeTransaction, hfree, ite_self]
    · rw [hspares.config]
      exact ⟨by omega, (hspares.senderCount _).trans_lt (hbelow hnone)⟩
  · refine hp.admitBytes ⟨hfree, rfl, fun hnone => ⟨?_, hbelow hnone⟩⟩ now
    simpa [hnone] using hroom

/-! ### Refused transactions -/

/-- The transaction passes every check of its own. -/
structure Admissible (C : Crypto) (tx : Transaction) (p : Mempool) : Prop where
  verify : tx.verify C = true
  fresh : p.transactions.contains tx.hash = false
  fee : p.config.minFee ≤ tx.fee
  sender : p.checkSender tx = .ok ()

/-- Room of `needed` bytes has to be made, and the cheaper transactions do not hold that much. -/
def BytesRefused (chargedBytes : Transaction → Nat) (tx : Transaction) (existing : Option String)
    (p : Mempool) : Prop :=
  let projected := p.residentBytes - p.replacedBytes existing + chargedBytes tx
  p.config.maxPoolBytes < projected ∧
    p.evictUntilBytesFit tx (projected - p.config.maxPoolBytes) = none

/-- The pool is full by count, and once a transaction of another sender has made way it is full by
bytes. -/
def EvictsInVain (chargedBytes : Transaction → Nat) (tx : Transaction) (p : Mempool) : Prop :=
  p.findTxBySenderNonce tx.sender tx.nonce = none ∧ p.config.maxSize ≤ p.transactions.size ∧
    ∃ q, p.evictLowestFee tx = some q ∧ BytesRefused chargedBytes tx none q

open EStateM in
theorem admitBytes_fails {now : U128} {E : MempoolError → Mempool → Prop} :
    (admitBytes chargedBytes now tx existing).Fails p E ↔
    (BytesRefused chargedBytes tx existing p → E .poolBytesFull p) := by
  simp only [admitBytes, fails_bind, fails_get, ensures_get, fails_ite, fails_orThrow,
    ensures_orThrow, fails_set, fails_modify, BytesRefused]
  simp [Ensures]

theorem evictLowestFee_ne {q : Mempool} (h : p.evictLowestFee tx = some q) : q ≠ p := by
  rintro rfl
  obtain ⟨hash, hforeign, heq⟩ := evictLowestFee_eq_some h
  obtain ⟨e, hget, -⟩ := exists_get_of_foreignTo hforeign
  rw [heq, get_removeTransaction, if_pos rfl] at hget
  cases hget

open EStateM in
/-- **A refusal leaves the pool as it was, unless a transaction was evicted by count for a newcomer
that the byte budget then refuses.** -/
theorem refused_undisturbed_iff (C : Crypto) (chargedBytes : Transaction → Nat) (now : U128)
    (tx : Transaction) (p : Mempool) :
    ((addTransaction C chargedBytes now tx).Fails p fun _ p' => p' = p) ↔
      ¬ (Admissible C tx p ∧ EvictsInVain chargedBytes tx p) := by
  rw [addTransaction_eq]
  simp only [fails_bind, fails_get, ensures_get, fails_ensure, ensures_ensure, fails_ofExcept,
    ensures_ofExcept, fails_ite, fails_orThrow, ensures_orThrow, fails_set, ensures_set,
    admitBytes_fails, implies_true, true_and, and_true, Bool.not_eq_true', Bool.and_eq_true,
    decide_eq_true_eq, Option.isNone_iff_eq_none]
  constructor
  · rintro h ⟨⟨hverify, hfresh, hfee, hsender⟩, hnone, hfull, q, hevict, hrefused⟩
    exact evictLowestFee_ne hevict
      (h hverify hfresh hfee () hsender ⟨hnone, hfull⟩ q hevict (hnone ▸ hrefused))
  · rintro h hverify hfresh hfee ⟨⟩ hsender ⟨hnone, hfull⟩ q hevict hrefused
    exact absurd ⟨⟨hverify, hfresh, hfee, hsender⟩, hnone, hfull, q, hevict, hnone ▸ hrefused⟩ h

/-- Every signature counts and every hash is the same. -/
def laxCrypto : Crypto := ⟨fun _ => 0, fun _ => 0, fun _ _ _ => .ok (), fun _ _ _ => .ok ()⟩

/-- A pool for one transaction and two bytes, with a transaction of one byte in it. -/
def crowdedPool : Mempool :=
  ({ config := { maxSize := 1, maxPoolBytes := 2 } } : Mempool).enter
    { Transaction.genesis laxCrypto with sender := 1, fee := 1, data := [0], hash := "a" } 0 1

/-- A signed transaction of three bytes with a higher fee. -/
def bulkyTransaction : Transaction :=
  let tx := { Transaction.genesis laxCrypto with
    sender := 3, fee := 2, data := [0, 0, 0], signature := some [], signatureVersion := 4 }
  { tx with hash := tx.calculateHash laxCrypto }

/-- It is refused for its bytes, and the transaction that was waiting is gone. -/
theorem refused_and_evicted :
    let add := addTransaction laxCrypto (·.data.length) 0 bulkyTransaction
    add.succeeds crowdedPool = false ∧ crowdedPool.transactions.contains "a" = true ∧
      (add.final crowdedPool).transactions.contains "a" = false := by
  decide +kernel

/-! ### Calls -/

inductive Call where
  | addTransaction (now : U128) (tx : Transaction)
  | removeTransaction (hash : String)
  | cleanupExpired (now : U128)
  | drain
  | evictLowestFee (tx : Transaction)
  | evictUntilBytesFit (tx : Transaction) (needed : Nat)
  | setMinFee (fee : UInt64)

/-- The pool after a call.  An eviction that finds too little leaves it as it is. -/
def Call.after (C : Crypto) (chargedBytes : Transaction → Nat) (call : Call) (p : Mempool) :
    Mempool :=
  match call with
  | .addTransaction now tx => (Mempool.addTransaction C chargedBytes now tx).final p
  | .removeTransaction hash => p.removeTransaction hash
  | .cleanupExpired now => p.cleanupExpired now
  | .drain => p.drain
  | .evictLowestFee tx => (p.evictLowestFee tx).getD p
  | .evictUntilBytesFit tx needed => (p.evictUntilBytesFit tx needed).getD p
  | .setMinFee fee => p.setMinFee fee

/-- One call keeps the pool coherent and within its limits. -/
theorem Sound.after (C : Crypto) (call : Call) (p : Mempool) (hp : Sound chargedBytes config p) :
    Sound chargedBytes config (call.after C chargedBytes p) := by
  cases call with
  | addTransaction now tx => exact (hp.addTransaction C now tx).final
  | removeTransaction hash => exact hp.thinned (hp.coherent.remove hash) (.remove p hash)
  | cleanupExpired now => exact hp.thinned (hp.coherent.foldl_remove _) (.foldl_remove _ p)
  | drain =>
    refine ⟨⟨fun h e hget => ?_, .empty, .empty, rfl⟩, ⟨Nat.zero_le _, Nat.zero_le _, fun a => ?_⟩,
      hp.config_eq⟩
    · simp [Call.after, drain] at hget
    · exact Nat.zero_le _
  | evictLowestFee tx =>
    cases hevict : p.evictLowestFee tx with
    | none => simpa [Call.after, hevict] using hp
    | some p' =>
      obtain ⟨h, -, rfl⟩ := evictLowestFee_eq_some hevict
      simpa [Call.after, hevict] using hp.thinned (hp.coherent.remove h) (.remove p h)
  | evictUntilBytesFit tx needed =>
    cases hevict : p.evictUntilBytesFit tx needed with
    | none => simpa [Call.after, hevict] using hp
    | some p' =>
      obtain ⟨hcoherent, hspares, -⟩ := hp.coherent.evictUntilBytesFit hevict
      simpa [Call.after, hevict] using hp.thinned hcoherent hspares.toThinned
  | setMinFee fee =>
    obtain ⟨⟨hkeyed, hsender, hfee, hbytes⟩, ⟨hsize, hlimit, hper⟩, hconfig⟩ := hp
    exact ⟨⟨hkeyed, hsender, hfee, hbytes⟩, ⟨hsize, hlimit, hper⟩, hconfig⟩

theorem Sound.new (chargedBytes : Transaction → Nat) (config : MempoolConfig) :
    Sound chargedBytes config { config := config } :=
  ⟨⟨fun h e hget => by simp at hget, .empty, .empty, rfl⟩,
    ⟨Nat.zero_le _, Nat.zero_le _, fun _ => Nat.zero_le _⟩, rfl⟩

/-- **After every sequence of calls on a new pool the map and the two indexes hold the same
transactions, the resident bytes are the sum of their sizes, and the limits the pool was built with
hold.** -/
theorem coherent_of_calls (C : Crypto) (chargedBytes : Transaction → Nat) (config : MempoolConfig)
    (calls : List Call) : Sound chargedBytes config
      (Trace.final (Call.after C chargedBytes) calls { config := config }) :=
  Trace.final_of_invariant (Sound.after C) calls (Sound.new chargedBytes config)

end Mempool

end Budlum
