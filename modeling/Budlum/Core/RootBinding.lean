import Budlum.Consensus.Engine
import Budlum.Core.Signing
import Budlum.Lib.MerkleBinding

/-!
# What the state root says about accounts and validators

Two states that differ in their accounts or validators only have different roots, unless the
difference is in something the root does not see: a validator's `address` is hashed from the key of
the table, its `roles` are not hashed, and a `last_proposed_block` that is missing is hashed as zero.

* `AccountState.rootMessages` : the messages that are hashed on the way to the root.
* `Validator.committed` : what the root sees of a validator.
* `AccountState.root_differs_iff` : **the roots differ exactly if the accounts or what is seen of the
  validators differ.**
-/

namespace Budlum

open Encoding Merkle

/-! ### Hexadecimal digits -/

/-- The digits of a byte determine it. -/
theorem hexOfBytes_pair_unique {N : Nat} : Unique N fun x : UInt8 =>
    [if x.toNat / 16 < 10 then Char.ofNat (48 + x.toNat / 16) else Char.ofNat (87 + x.toNat / 16),
      if x.toNat % 16 < 10 then Char.ofNat (48 + x.toNat % 16)
      else Char.ofNat (87 + x.toNat % 16)] := by
  have hdigit : ∀ m < 16, ∀ n < 16,
      (if m < 10 then Char.ofNat (48 + m) else Char.ofNat (87 + m)) =
        (if n < 10 then Char.ofNat (48 + n) else Char.ofNat (87 + n)) → m = n := by decide
  refine .ofLength 2 (fun _ => rfl) fun x y h => ?_
  obtain ⟨hhigh, hlow⟩ := List.cons.inj h
  have hx := x.toNat_lt
  have hy := y.toNat_lt
  have hhigh := hdigit _ (by omega) _ (by omega) hhigh
  have hlow := hdigit _ (by omega) _ (by omega) (List.cons.inj hlow).1
  exact UInt8.toNat_inj.1 (by omega)

theorem toHex_injective : Function.Injective toHex := by
  intro h h' heq
  have hbytes : hashBytes h = hashBytes h' :=
    hexOfBytes_pair_unique.flatMap_eq (N := 65) (by simp [hashBytes]) (by simp [hashBytes])
      (String.ofList_injective heq)
  exact hashBytes_injective hbytes

/-! ### What is hashed -/

/-- What the root sees of a validator beside its key. -/
def Validator.committed (v : Validator) : Validator :=
  { v with address := 0, lastProposedBlock := some (v.lastProposedBlock.getD 0), roles := ∅ }

/-- The messages are short enough for a digest, their digests differ, and none of them is the zero
that stands for an empty list. -/
structure SoundDigests (C : Crypto) (messages : List Bytes) : Prop where
  short : ∀ m ∈ messages, m.length < Encode.limit
  inj : ∀ m ∈ messages, ∀ m' ∈ messages, C.sha256 m = C.sha256 m' → m = m'
  ne_zero : ∀ m ∈ messages, C.sha256 m ≠ 0

namespace AccountState

variable (C : Crypto) (R : RegistryRoots) (s : AccountState)

def leafBytes (e : Address × Account) : Bytes :=
  0 :: (hashBytes e.1 ++ u64Bytes e.2.balance ++ u64Bytes e.2.nonce)

def nodeBytes (p : Hash32 × Hash32) : Bytes := 1 :: (hashBytes p.1 ++ hashBytes p.2)

def validatorDigests : List Hash32 :=
  s.validators.entries.map fun e => C.sha256 (validatorBytes e.1 e.2)

/-- The messages that are hashed for the accounts, the validators and the root itself. -/
def rootMessages : List Bytes :=
  s.accounts.entries.map leafBytes ++
    (Merkle.nodes (accountNode C) (s.accountLeaves C)).map nodeBytes ++
    (s.validators.entries.map fun e => validatorBytes e.1 e.2) ++
    (if s.validators.size = 0 then [] else [(s.validatorDigests C).flatMap hashBytes]) ++
    [s.stateRootPreimage C R]

variable {C R s} {s' : AccountState}

theorem leafBytes_unique : Unique Encode.limit leafBytes := by
  have hparts := Unique.hash.part (α := Address × Account) (N := Encode.limit) Prod.fst
    |>.next .u64 (fun e => e.2.balance) |>.next .u64 (fun e => e.2.nonce)
  have hunique := hparts.unique (by
    rintro ⟨a, balance, nonce⟩ ⟨a', balance', nonce'⟩ h
    simpa [Prod.ext_iff, and_assoc] using h)
  exact @Unique.after _ _ _ _ (fun _ => [0]) hunique fun _ _ => rfl

theorem nodeBytes_unique : Unique Encode.limit nodeBytes :=
  @Unique.after _ _ _ _ (fun _ => [1]) (Unique.hash.pair .hash) fun _ _ => rfl

/-- The bytes of a validator determine its key and what is committed of it. -/
theorem validatorBytes_reads : Reads Encode.limit
    (fun e : Address × Validator => validatorBytes e.1 e.2) fun e => (e.1, e.2.committed) := by
  have hparts := Unique.hash.part (α := Address × Validator) (N := Encode.limit) Prod.fst
    |>.next .u64 (fun e => e.2.stake) |>.next .bool (fun e => e.2.active)
    |>.next .bool (fun e => e.2.slashed) |>.next .bool (fun e => e.2.jailed)
    |>.next .u64 (fun e => e.2.jailUntil)
    |>.next .u64 (fun e => e.2.lastProposedBlock.getD 0)
    |>.next .u64 (fun e => e.2.votesFor)
    |>.next .u64 (fun e => e.2.votesAgainst)
    |>.next .bytes (fun e => e.2.vrfPublicKey)
    |>.next .bytes (fun e => e.2.blsPublicKey)
    |>.next .bytes (fun e => e.2.popSignature)
    |>.next .bytes (fun e => e.2.pqPublicKey)
  intro e e' rest rest' hlen h
  simp only [validatorBytes, Validator.keyBytes, List.flatMap_cons, List.flatMap_nil,
    List.append_nil, ← List.append_assoc] at hlen h
  obtain ⟨hfields, hrest⟩ := hparts hlen h
  refine ⟨?_, hrest⟩
  simp only [Prod.mk.injEq] at hfields
  obtain ⟨⟨⟨⟨⟨⟨⟨⟨⟨⟨⟨⟨hkey, hstake⟩, hactive⟩, hslashed⟩, hjailed⟩, huntil⟩, hlast⟩, hfor⟩, hagainst⟩,
    hvrf⟩, hbls⟩, hpop⟩, hpq⟩ := hfields
  simp only [Validator.committed, hkey, hstake, hactive, hslashed, hjailed, huntil, hlast, hfor,
    hagainst, hvrf, hbls, hpop, hpq]

/-! ### Roots -/

theorem mem_accountLeaves {x : Hash32} :
    x ∈ s.accountLeaves C ↔ ∃ e ∈ s.accounts.entries, C.sha256 (leafBytes e) = x := by
  rw [accountLeaves, List.mem_map]
  rfl

/-- Lists with equal images, where an image determines another. -/
theorem map_eq_of_map_eq {α β γ : Type} {f : α → β} {g : α → γ} :
    ∀ {l l' : List α}, (∀ a ∈ l, ∀ b ∈ l', f a = f b → g a = g b) → l.map f = l'.map f →
      l.map g = l'.map g
  | [], [], _, _ => rfl
  | a :: l, b :: l', h, heq => by
    obtain ⟨hhead, htail⟩ := List.cons.inj heq
    simp only [List.forall_mem_cons] at h
    rw [List.map_cons, List.map_cons, h.1.1 hhead, map_eq_of_map_eq (fun a ha b hb => (h.2 a ha).2 b hb) htail]

theorem leaf_mem {e : Address × Account} (h : e ∈ s.accounts.entries) :
    leafBytes e ∈ s.rootMessages C R := by
  simp only [rootMessages, List.mem_append, List.mem_map]
  exact .inl (.inl (.inl (.inl ⟨e, h, rfl⟩)))

theorem node_mem {p : Hash32 × Hash32} (h : p ∈ nodes (accountNode C) (s.accountLeaves C)) :
    nodeBytes p ∈ s.rootMessages C R := by
  simp only [rootMessages, List.mem_append, List.mem_map]
  exact .inl (.inl (.inl (.inr ⟨p, h, rfl⟩)))

theorem validator_mem {e : Address × Validator} (h : e ∈ s.validators.entries) :
    validatorBytes e.1 e.2 ∈ s.rootMessages C R := by
  simp only [rootMessages, List.mem_append, List.mem_map]
  exact .inl (.inl (.inr ⟨e, h, rfl⟩))

theorem digests_mem (h : s.validators.size ≠ 0) :
    (s.validatorDigests C).flatMap hashBytes ∈ s.rootMessages C R := by
  simp only [rootMessages, List.mem_append, if_neg h]
  exact .inl (.inr (List.mem_singleton.2 rfl))

theorem preimage_mem : s.stateRootPreimage C R ∈ s.rootMessages C R :=
  List.mem_append_right _ (List.mem_singleton.2 rfl)

section Sound

variable {messages : List Bytes} (hsound : SoundDigests C messages)

include hsound

section

variable (h : s.rootMessages C R ⊆ messages)

include h

theorem nodup_accountLeaves : (s.accountLeaves C).Nodup := by
  refine s.accounts.nodup_entries.map_on fun e he e' he' heq => ?_
  have hbytes := hsound.inj _ (h (leaf_mem he)) _ (h (leaf_mem he')) heq
  exact leafBytes_unique.eq (hsound.short _ (h (leaf_mem he))) hbytes

/-- Only the state without accounts has the root zero. -/
theorem root_eq_of_accountsRoot :
    doubledRoot (accountNode C) (s.accountLeaves C) =
      if s.accountsRoot C = 0 then none else some (s.accountsRoot C) := by
  have hroot : s.accountsRoot C =
    (doubledRoot (accountNode C) (s.accountLeaves C)).getD 0 := rfl
  cases hr : doubledRoot (accountNode C) (s.accountLeaves C) with
  | none => rw [hroot, hr, Option.getD_none, if_pos rfl]
  | some r =>
    rw [hroot, hr, Option.getD_some, if_neg]
    rcases root_mem hr with hleaf | ⟨p, hp, rfl⟩
    · obtain ⟨e, he, rfl⟩ := mem_accountLeaves.1 hleaf
      exact hsound.ne_zero _ (h (leaf_mem he))
    · exact hsound.ne_zero _ (h (node_mem hp))

theorem accounts_eq_of_root
    (h' : s'.rootMessages C R ⊆ messages) (heq : s.accountsRoot C = s'.accountsRoot C) :
    s.accounts = s'.accounts := by
  have hroots : doubledRoot (accountNode C) (s.accountLeaves C) =
      doubledRoot (accountNode C) (s'.accountLeaves C) := by
    rw [root_eq_of_accountsRoot hsound h, root_eq_of_accountsRoot hsound h', heq]
  have hnode : ∀ p ∈ nodes (accountNode C) (s.accountLeaves C) ++
      nodes (accountNode C) (s'.accountLeaves C), nodeBytes p ∈ messages := by
    intro p hp
    rcases List.mem_append.1 hp with hp | hp
    · exact h (node_mem hp)
    · exact h' (node_mem hp)
  have hleaves : s.accountLeaves C = s'.accountLeaves C := by
    refine root_inj (nodup_accountLeaves hsound h) (nodup_accountLeaves hsound h')
      (fun p hp q hq hpq => ?_) (fun p hp hleaf => ?_) hroots
    · have hbytes := hsound.inj _ (hnode p hp) _ (hnode q hq) hpq
      exact nodeBytes_unique.eq (hsound.short _ (hnode p hp)) hbytes
    · -- a leaf starts with another byte than a node
      obtain ⟨e, he, hdigest⟩ : ∃ e, leafBytes e ∈ messages ∧ C.sha256 (leafBytes e) =
          accountNode C p.1 p.2 := by
        rcases List.mem_append.1 hleaf with hleaf | hleaf
        · obtain ⟨e, he, hdigest⟩ := mem_accountLeaves.1 hleaf
          exact ⟨e, h (leaf_mem he), hdigest⟩
        · obtain ⟨e, he, hdigest⟩ := mem_accountLeaves.1 hleaf
          exact ⟨e, h' (leaf_mem he), hdigest⟩
      have hbytes := hsound.inj _ he _ (hnode p hp) hdigest
      simp [leafBytes, nodeBytes] at hbytes
  refine OrdMap.ext ?_
  have hentries := map_eq_of_map_eq (g := id) (fun e he e' he' hdigest => ?_) hleaves
  · simpa using hentries
  · have hbytes := hsound.inj _ (h (leaf_mem he)) _ (h' (leaf_mem he')) hdigest
    exact leafBytes_unique.eq (hsound.short _ (h (leaf_mem he))) hbytes

end

omit hsound in
theorem validatorsRoot_eq : s.validatorsRoot C =
    if s.validators.size = 0 then 0 else C.sha256 ((s.validatorDigests C).flatMap hashBytes) := by
  change combined C (s.validatorDigests C) = _
  have hsize : (s.validatorDigests C).isEmpty = true ↔ s.validators.size = 0 := by
    rw [List.isEmpty_iff_length_eq_zero, validatorDigests, List.length_map]
    rfl
  simp only [combined, hsize]

section

variable (h : s.rootMessages C R ⊆ messages)

include h

/-- Only the state without validators has the root zero. -/
theorem validatorsRoot_eq_zero : s.validatorsRoot C = 0 ↔ s.validators.size = 0 := by
  rw [validatorsRoot_eq]
  by_cases hnone : s.validators.size = 0
  · simp [hnone]
  · simpa [hnone] using hsound.ne_zero _ (h (digests_mem hnone))

theorem digests_eq_of_root
    (h' : s'.rootMessages C R ⊆ messages) (heq : s.validatorsRoot C = s'.validatorsRoot C) :
    s.validatorDigests C = s'.validatorDigests C := by
  have hzero := validatorsRoot_eq_zero hsound h
  have hzero' := validatorsRoot_eq_zero hsound h'
  by_cases hnone : s.validators.size = 0
  · have hnone' := hzero'.1 (heq ▸ hzero.2 hnone)
    rw [validatorDigests, validatorDigests, List.eq_nil_of_length_eq_zero hnone,
      List.eq_nil_of_length_eq_zero hnone']
  · have hsome' : s'.validators.size ≠ 0 := fun hnone' =>
      hnone (hzero.1 (heq.trans (hzero'.2 hnone')))
    rw [validatorsRoot_eq, validatorsRoot_eq, if_neg hnone, if_neg hsome'] at heq
    have hbytes := hsound.inj _ (h (digests_mem hnone)) _ (h' (digests_mem hsome')) heq
    have hlen : ∀ l : List Hash32, (l.flatMap hashBytes).length = 32 * l.length := by
      intro l
      induction l with
      | nil => rfl
      | cons x l ih => simp [ih, hashBytes]; omega
    have hsize := congrArg List.length hbytes
    rw [hlen, hlen] at hsize
    exact Unique.hash.flatMap_eq (by omega) (hsound.short _ (h (digests_mem hnone))) hbytes

theorem committed_eq_of_root
    (h' : s'.rootMessages C R ⊆ messages) (heq : s.validatorsRoot C = s'.validatorsRoot C) :
    (s.validators.map fun _ v => v.committed) = s'.validators.map fun _ v => v.committed := by
  refine OrdMap.ext (map_eq_of_map_eq (fun e he e' he' hdigest => ?_)
    (digests_eq_of_root hsound h h' heq))
  have hbytes := hsound.inj _ (h (validator_mem he)) _ (h' (validator_mem he')) hdigest
  have hshort := hsound.short _ (h (validator_mem he))
  exact (@validatorBytes_reads e e' [] [] (by simpa using hshort) (by simpa using hbytes)).1

end

end Sound

/-- The root does not see more of the validators than is committed. -/
theorem validatorsRoot_congr
    (h : (s.validators.map fun _ v => v.committed) = s'.validators.map fun _ v => v.committed) :
    s.validatorsRoot C = s'.validatorsRoot C := by
  have hentries := congrArg (fun m : OrdMap Address Validator =>
    m.entries.map fun e => C.sha256 (validatorBytes e.1 e.2)) h
  simp only [OrdMap.map, List.map_map] at hentries
  exact congrArg (combined C) hentries

/-- The two roots can be read back from the preimage, the rest of which is the same. -/
theorem stateRootPreimage_eq_iff
    (hsame : s' = { s with accounts := s'.accounts, validators := s'.validators }) :
    s.stateRootPreimage C R = s'.stateRootPreimage C R ↔
      s.accountsRoot C = s'.accountsRoot C ∧ s.validatorsRoot C = s'.validatorsRoot C := by
  have hepoch : s'.epochIndex = s.epochIndex := by rw [hsame]
  have hrest : s'.stateRootRest C R = s.stateRootRest C R := by
    rw [hsame]
    rfl
  have hlen : ∀ h h' : Hash32, (hashBytes h).length = (hashBytes h').length := by simp [hashBytes]
  simp only [stateRootPreimage, stateRootPreimageOver, hepoch, hrest, List.append_assoc,
    List.append_cancel_left_eq]
  constructor
  · intro heq
    obtain ⟨haccounts, heq⟩ := List.append_inj heq (hlen _ _)
    exact ⟨hashBytes_injective haccounts, hashBytes_injective (List.append_inj heq (hlen _ _)).1⟩
  · rintro ⟨haccounts, hvalidators⟩
    rw [haccounts, hvalidators]

/-- **What the root commits to.**  Two states that differ in accounts and validators only have
different roots exactly if they have different accounts, or validators that differ in more than a
last block that is missing in one and zero in the other, the roles, and the address beside the key. -/
theorem root_differs_iff {s s' : AccountState}
    (hsame : s' = { s with accounts := s'.accounts, validators := s'.validators })
    (hsound : SoundDigests C (s.rootMessages C R ++ s'.rootMessages C R)) :
    s.calculateStateRoot C R ≠ s'.calculateStateRoot C R ↔
      s.accounts ≠ s'.accounts ∨
        (s.validators.map fun _ v => v.committed) ≠ s'.validators.map fun _ v => v.committed := by
  rw [← not_and_or, not_iff_not]
  have hmessages : s.rootMessages C R ⊆ s.rootMessages C R ++ s'.rootMessages C R :=
    List.subset_append_left _ _
  have hmessages' : s'.rootMessages C R ⊆ s.rootMessages C R ++ s'.rootMessages C R :=
    List.subset_append_right _ _
  constructor
  · intro hroot
    have hbytes := hsound.inj _ (hmessages preimage_mem) _ (hmessages' preimage_mem)
      (toHex_injective hroot)
    obtain ⟨haccounts, hvalidators⟩ := (stateRootPreimage_eq_iff hsame).1 hbytes
    exact ⟨accounts_eq_of_root hsound hmessages hmessages' haccounts,
      committed_eq_of_root hsound hmessages hmessages' hvalidators⟩
  · rintro ⟨haccounts, hvalidators⟩
    have hroot : s.accountsRoot C = s'.accountsRoot C := by
      rw [accountsRoot, accountsRoot, accountLeaves, accountLeaves, haccounts]
    rw [calculateStateRoot, calculateStateRoot,
      (stateRootPreimage_eq_iff hsame).2 ⟨hroot, validatorsRoot_congr hvalidators⟩]

def oneAccount : AccountState := ({} : AccountState).setAccount 1 ⟨5, 0⟩

/-- The root tells the account from none. -/
theorem oneAccount_root_differs : ({} : AccountState).calculateStateRoot .telling
    NodeLinks.sample.roots ≠ oneAccount.calculateStateRoot .telling NodeLinks.sample.roots :=
  (root_differs_iff rfl ⟨by decide +kernel, by decide +kernel, by decide +kernel⟩).2
    (.inl (by decide +kernel))

/-- A state with one validator, which has proposed no block, or a block. -/
def oneValidator (last : Option UInt64) : AccountState :=
  ({} : AccountState).setValidator 1 { address := 1, stake := 100, lastProposedBlock := last }

/-- A validator that has not proposed yet looks like one that proposed block zero, whatever the
digest. -/
theorem unproposed_looks_proposed : oneValidator none ≠ oneValidator (some 0) ∧
    ∀ C R, (oneValidator none).calculateStateRoot C R =
      (oneValidator (some 0)).calculateStateRoot C R := by
  refine ⟨fun h => ?_, fun C R => rfl⟩
  have hlast := congrArg (fun s : AccountState =>
    (s.validators.get 1).bind (·.lastProposedBlock)) h
  cases hlast

end AccountState

end Budlum
