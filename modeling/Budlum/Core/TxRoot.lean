import Budlum.Core.RootBinding

/-!
# What the transaction root says about the transactions

`Block.txRoot_binds`: **blocks with the same transaction root carry the same transaction hashes in
the same order**, as long as the hashes are written in lowercase and digests do not collide.  A node
without a sibling moves up unhashed, so the shape of a tree is in its terms only: leaves are hashed
from 33 bytes and nodes from 65.
-/

namespace Budlum

open Merkle (inputs root term)

open Encoding
open Merkle (Hashing Term)

/-! ### Reading hexadecimal digits -/

/-- A digit as `hex::encode` writes it. -/
def isLowerHexDigit (c : Char) : Bool :=
  let n := c.toNat
  (48 ≤ n && n ≤ 57) || (97 ≤ n && n ≤ 102)

theorem hexDigit_lower {c c' : Char} {n : Nat} (hc : isLowerHexDigit c) (hc' : isLowerHexDigit c')
    (h : hexDigit c = some n) (h' : hexDigit c' = some n) : c = c' ∧ n < 16 := by
  simp only [isLowerHexDigit, Bool.or_eq_true, Bool.and_eq_true, decide_eq_true_eq] at hc hc'
  have hn : c.toNat = c'.toNat ∧ n < 16 := by grind [hexDigit]
  exact hn.imp_left Char.toNat_inj.1

theorem bytesOfHexDigits_lower {l l' : List Char} {b : Bytes} (hl : l.all isLowerHexDigit)
    (hl' : l'.all isLowerHexDigit) (h : bytesOfHexDigits l = some b)
    (h' : bytesOfHexDigits l' = some b) : l = l' := by
  induction l using bytesOfHexDigits.induct generalizing l' b with
  | case1 =>
    cases h
    match l' with
    | [] => rfl
    | _ :: _ :: _ => simp [bytesOfHexDigits, Option.bind_eq_some_iff] at h'
  | case2 c => cases h
  | case3 hi lo rest ih =>
    simp only [bytesOfHexDigits, Option.bind_eq_bind, Option.bind_eq_some_iff, Option.pure_def,
      Option.some.injEq] at h
    obtain ⟨x, hx, y, hy, bytes, hbytes, rfl⟩ := h
    match l' with
    | [] => cases h'
    | hi' :: lo' :: rest' =>
      simp only [bytesOfHexDigits, Option.bind_eq_bind, Option.bind_eq_some_iff, Option.pure_def,
        Option.some.injEq, List.cons.injEq] at h'
      obtain ⟨x', hx', y', hy', bytes', hbytes', hbyte, rfl⟩ := h'
      simp only [List.all_cons, Bool.and_eq_true] at hl hl'
      have hbound := (hexDigit_lower hl.1 hl.1 hx hx).2
      have hbound' := (hexDigit_lower hl'.1 hl'.1 hx' hx').2
      have hlow := (hexDigit_lower hl.2.1 hl.2.1 hy hy).2
      have hlow' := (hexDigit_lower hl'.2.1 hl'.2.1 hy' hy').2
      have hnat := congrArg UInt8.toNat hbyte
      rw [UInt8.toNat_ofNat_of_lt' (by simp only [UInt8.size]; omega),
        UInt8.toNat_ofNat_of_lt' (by simp only [UInt8.size]; omega)] at hnat
      obtain rfl : x = x' := by omega
      obtain rfl : y = y' := by omega
      rw [(hexDigit_lower hl.1 hl'.1 hx hx').1, (hexDigit_lower hl.2.1 hl'.2.1 hy hy').1,
        ih hl.2.2 hl'.2.2 hbytes hbytes']

theorem hashOfBytes_inj {b b' : Bytes} (hb : b.length = 32) (hb' : b'.length = 32)
    (h : hashOfBytes b = hashOfBytes b') : b = b' := by
  have hlt := bigEndian_lt b
  have hlt' := bigEndian_lt b'
  rw [hb] at hlt
  rw [hb'] at hlt'
  have hval : bigEndian b % 2 ^ 256 = bigEndian b' % 2 ^ 256 := congrArg Fin.val h
  rw [Nat.mod_eq_of_lt (by omega), Nat.mod_eq_of_lt (by omega)] at hval
  have hbytes := reverse_leBytes_bigEndian hb.le
  rw [hval, reverse_leBytes_bigEndian hb'.le, hb, hb'] at hbytes
  exact hbytes.symm

/-- A digest has one lowercase form. -/
theorem hash32OfHex_lower {s s' : String} {d : Hash32} (hs : s.toList.all isLowerHexDigit)
    (hs' : s'.toList.all isLowerHexDigit) (h : hash32OfHex s = some d)
    (h' : hash32OfHex s' = some d) : s = s' := by
  simp only [hash32OfHex, decodeHex, Option.bind_eq_bind, Option.bind_eq_some_iff, Option.ite_none_right_eq_some,
    Option.some.injEq] at h h'
  obtain ⟨b, hb, hlen, hd⟩ := h
  obtain ⟨b', hb', hlen', hd'⟩ := h'
  obtain rfl := hashOfBytes_inj hlen hlen' (hd.trans hd'.symm)
  exact String.toList_injective (bytesOfHexDigits_lower hs hs' hb hb')

namespace Block

variable (L : Linked) (b : Block)

/-! ### What is hashed -/

def txLeafBytes (hash : String) : Bytes :=
  match hash32OfHex hash with
  | some digest => 0 :: hashBytes digest
  | none => 1 :: hashBytes (L.sha256 (textBytes hash))

def txLeafMessages (hash : String) : List Bytes :=
  txLeafBytes L hash :: if hash32OfHex hash = none then [textBytes hash] else []

/-- The message of a node of the tree. -/
def txNodeBytes : Merkle.Input Hash32 → Bytes
  | .pair left right => 1 :: (hashBytes left ++ hashBytes right)
  | .lone node => hashBytes node

/-- The hashing of the tree: a node without a sibling is not hashed. -/
def txHashing : Hashing Hash32 := ⟨fun l r => L.sha256 (1 :: (hashBytes l ++ hashBytes r)), id⟩

def txLeaves : List Hash32 := b.transactions.map fun tx => txLeaf L tx.hash

/-- The messages that are hashed for the transaction root. -/
def txMessages : List Bytes :=
  (b.transactions.flatMap fun tx => txLeafMessages L tx.hash) ++
    (inputs (txHashing L) id (b.txLeaves L)).map txNodeBytes

variable {L b}

theorem txLeaf_eq (hash : String) : txLeaf L hash = L.sha256 (txLeafBytes L hash) := by
  rw [txLeaf, txLeafBytes]
  cases hash32OfHex hash <;> rfl

theorem txLeafBytes_mem {tx : Transaction} (h : tx ∈ b.transactions) :
    txLeafBytes L tx.hash ∈ b.txMessages L :=
  List.mem_append_left _ (List.mem_flatMap.2 ⟨tx, h, List.mem_cons_self⟩)

/-- No node of the tree is a promoted one. -/
theorem txInput_cases {i : Merkle.Input Hash32}
    (h : i ∈ inputs (txHashing L) id (b.txLeaves L)) :
    (∃ l r, i = .pair l r) ∧ txNodeBytes i ∈ b.txMessages L := by
  refine ⟨?_, List.mem_append_right _ (List.mem_map.2 ⟨i, h, rfl⟩)⟩
  rw [inputs] at h
  cases ht : term id (b.txLeaves L) with
  | none => rw [ht] at h; cases h
  | some t =>
    rw [ht] at h
    refine Term.root_induction (p := id) (Q := fun t => ∀ i ∈ t.inputs (txHashing L), ∃ l r, i = .pair l r)
      ?_ (fun t h => h) ?_ ht i h
    · intro t u ht hu i hi
      rcases List.mem_cons.1 hi with rfl | hi
      · exact ⟨_, _, rfl⟩
      · exact (List.mem_append.1 hi).elim (ht i) (hu i)
    · intro t ht i hi
      obtain ⟨x, -, rfl⟩ := List.mem_map.1 ht
      cases hi

section Sound

variable {messages : List Bytes} (hsound : SoundDigests L.toCrypto messages)

include hsound

/-- The leaf determines the hash of a transaction. -/
theorem hash_eq_of_txLeaf {hash hash' : String} (h : txLeafMessages L hash ⊆ messages)
    (h' : txLeafMessages L hash' ⊆ messages)
    (hlower : hash32OfHex hash ≠ none → hash.toList.all isLowerHexDigit)
    (hlower' : hash32OfHex hash' ≠ none → hash'.toList.all isLowerHexDigit)
    (heq : txLeaf L hash = txLeaf L hash') : hash = hash' := by
  rw [txLeaf_eq, txLeaf_eq] at heq
  have hbytes := hsound.inj _ (h List.mem_cons_self) _ (h' List.mem_cons_self) heq
  simp only [txLeafBytes, txLeafMessages] at hbytes h h'
  cases hd : hash32OfHex hash <;> cases hd' : hash32OfHex hash' <;>
    simp only [hd, hd', List.cons.injEq, true_and] at hbytes h h' hlower hlower'
  · have htexts := hsound.inj _ (h (by simp)) _ (h' (by simp)) (hashBytes_injective hbytes)
    exact textBytes_injective htexts
  · simp at hbytes
  · simp at hbytes
  · rw [hashBytes_injective hbytes] at hd
    exact hash32OfHex_lower (hlower (by simp)) (hlower' (by simp)) hd hd'

/-- Only a block without transactions has the root zero. -/
theorem root_ne_zero (h : b.txMessages L ⊆ messages) {r : Hash32}
    (hr : root (txHashing L).combine (txHashing L).promote (b.txLeaves L) = some r) : r ≠ 0 := by
  rw [Merkle.root_eq_digest (p := id) fun _ => rfl] at hr
  obtain ⟨t, ht, rfl⟩ := Option.map_eq_some_iff.1 hr
  have hinput : ∀ i ∈ t.inputs (txHashing L),
      (∃ l r, i = .pair l r) ∧ txNodeBytes i ∈ b.txMessages L := fun i hi =>
    txInput_cases (by rwa [inputs, ht])
  cases t with
  | leaf x =>
    have hx : x ∈ b.txLeaves L := Merkle.leaves_of_term (p := id) (fun _ => rfl) ht ▸ List.mem_singleton.2 rfl
    obtain ⟨tx, htx, rfl⟩ := List.mem_map.1 hx
    rw [txLeaf_eq]
    exact hsound.ne_zero _ (h (txLeafBytes_mem htx))
  | pair l r => exact hsound.ne_zero _ (h (hinput _ List.mem_cons_self).2)
  | lone t =>
    obtain ⟨l, r, hpair⟩ := (hinput _ List.mem_cons_self).1
    cases hpair

end Sound

theorem calculateTxRoot_eq (b : Block) : b.calculateTxRoot L = toHex
    ((root (txHashing L).combine (txHashing L).promote (b.txLeaves L)).getD 0) := by
  have hzero : zeroHash = toHex 0 := by decide +kernel
  simp only [calculateTxRoot, hzero, txHashing, txLeaves]
  cases root _ id (b.transactions.map fun tx => txLeaf L tx.hash) <;> rfl

/-- **What the transaction root commits to.**  The hashes of two blocks are lowercase digests or no
digests at all, and the messages hashed for the two roots have different digests, none of them the
zeros that stand for no transactions. -/
theorem txRoot_binds {b b' : Block}
    (hlower : ∀ tx ∈ b.transactions ++ b'.transactions,
      hash32OfHex tx.hash ≠ none → tx.hash.toList.all isLowerHexDigit)
    (hsound : SoundDigests L.toCrypto (b.txMessages L ++ b'.txMessages L))
    (h : b.calculateTxRoot L = b'.calculateTxRoot L) :
    b.transactions.map (·.hash) = b'.transactions.map (·.hash) := by
  have hb := List.subset_append_left (b.txMessages L) (b'.txMessages L)
  have hb' := List.subset_append_right (b.txMessages L) (b'.txMessages L)
  rw [calculateTxRoot_eq, calculateTxRoot_eq] at h
  have hroot : root (txHashing L).combine (txHashing L).promote (b.txLeaves L) =
      root (txHashing L).combine (txHashing L).promote (b'.txLeaves L) := by
    have hne := @root_ne_zero L b _ hsound hb
    have hne' := @root_ne_zero L b' _ hsound hb'
    have h := toHex_injective h
    revert h hne hne'
    cases root (txHashing L).combine (txHashing L).promote (b.txLeaves L) <;>
      cases root (txHashing L).combine (txHashing L).promote (b'.txLeaves L) <;>
      simp +contextual [eq_comm]
  have hinput : ∀ i ∈ inputs (txHashing L) id (b.txLeaves L) ++
      inputs (txHashing L) id (b'.txLeaves L),
      (∃ l r, i = .pair l r) ∧ txNodeBytes i ∈ b.txMessages L ++ b'.txMessages L := by
    intro i hi
    rcases List.mem_append.1 hi with hi | hi
    · exact (txInput_cases hi).imp_right (hb ·)
    · exact (txInput_cases hi).imp_right (hb' ·)
  have hleaves : b.txLeaves L = b'.txLeaves L := by
    refine Merkle.eq_of_root_eq (p := id) (fun _ => rfl) (fun _ => rfl) ⟨fun i hi j hj hij => ?_,
      fun i hi hleaf => ?_⟩ hroot
    · obtain ⟨⟨l, r, rfl⟩, hi⟩ := hinput i hi
      obtain ⟨⟨l', r', rfl⟩, hj⟩ := hinput j hj
      have hbytes := hsound.inj _ hi _ hj hij
      have hpair : (l, r) = (l', r') := AccountState.nodeBytes_unique.eq (hsound.short _ hi) hbytes
      obtain ⟨rfl, rfl⟩ := Prod.mk.inj hpair
      rfl
    · -- a leaf is hashed from fewer bytes than a node
      obtain ⟨⟨l, r, rfl⟩, hi⟩ := hinput i hi
      rw [txLeaves, txLeaves, ← List.map_append] at hleaf
      obtain ⟨tx, htx, hdigest⟩ := List.mem_map.1 hleaf
      rw [txLeaf_eq] at hdigest
      have htx : txLeafBytes L tx.hash ∈ b.txMessages L ++ b'.txMessages L :=
        (List.mem_append.1 htx).elim (fun h => hb (txLeafBytes_mem h)) fun h => hb' (txLeafBytes_mem h)
      have hbytes := congrArg List.length (hsound.inj _ htx _ hi hdigest)
      have hlen : (txLeafBytes L tx.hash).length = 33 := by
        rw [txLeafBytes]
        split <;> simp [hashBytes]
      simp [hlen, txNodeBytes, hashBytes] at hbytes
  refine AccountState.map_eq_of_map_eq (fun tx htx tx' htx' heq => ?_) hleaves
  refine hash_eq_of_txLeaf hsound (fun m hm => hb (List.mem_append_left _ (List.mem_flatMap.2 ⟨tx, htx, hm⟩)))
    (fun m hm => hb' (List.mem_append_left _ (List.mem_flatMap.2 ⟨tx', htx', hm⟩)))
    (hlower tx (List.mem_append_left _ htx)) (hlower tx' (List.mem_append_right _ htx')) heq

/-- A block of two transactions, one of them with a malformed hash. -/
def twoTransactions (index : UInt64) : Block :=
  newWithChainId NodeLinks.telling.toLinked 0 index "" (["none", toHex 1].map fun hash =>
    { Transaction.sample 1 0 .transfer with hash := hash }) 1

theorem twoTransactions_bound :
    (twoTransactions 0).transactions.map (·.hash) = (twoTransactions 1).transactions.map (·.hash) :=
  txRoot_binds (L := NodeLinks.telling.toLinked) (by decide +kernel)
    ⟨by decide +kernel, by decide +kernel, by decide +kernel⟩ (by decide +kernel)

end Block

end Budlum
