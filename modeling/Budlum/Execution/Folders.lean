import Budlum.Execution.Effects
import Budlum.Lib.Trace
import Budlum.SocialFi.Vault

/-!
# Folders and the tokens they are made of

Folders and members are tokens, and the two registries are written by different transactions.  A
token that a folder lists can neither be given away nor burned, and neither can a folder that lists
something.  An empty folder can.

* `FolderRun.truthful_iff` : when folders stay truthful along a run.
-/

namespace Budlum

open EStateM.Leaves (ensure_bind get_bind modify_bind ofExcept_bind)

open Relation

/-! ### What a transaction does to the two registries -/

namespace NftRegistry

variable {r r' : NftRegistry} {id : UInt64} {owner : Address} {cid : ContentId} {x : UInt64}

theorem get_of_mint {epoch : UInt64} {name : Option String}
    (h : r.mint owner cid epoch name = .ok (id, r')) (hx : r.nfts.contains x) :
    r'.nfts.get x = r.nfts.get x := by
  simp only [mint, Except.ok_iff, Bool.not_eq_true', exists_const] at h
  obtain ⟨hnew, rfl, rfl⟩ := h
  refine OrdMap.get_insert_of_ne _ (fun heq => ?_) _
  rw [heq, hnew] at hx
  cases hx

theorem get_of_transfer {sender recipient : Address} (h : r.transfer id sender recipient = .ok r') (hx : x ≠ id) : r'.nfts.get x = r.nfts.get x := by
  simp only [transfer, Except.ok_iff, exists_const] at h
  obtain ⟨nft, -, -, rfl⟩ := h
  exact OrdMap.get_insert_of_ne _ hx _

theorem get_of_burn (h : r.burn id owner = .ok (cid, r')) (hx : x ≠ id) : r'.nfts.get x = r.nfts.get x := by
  simp only [burn, Except.ok_iff, exists_const] at h
  obtain ⟨nft, -, -, -, rfl⟩ := h
  exact (OrdMap.get_erase _ _ _).trans (if_neg hx)

end NftRegistry

/-- No folder lists the token, and it lists nothing itself. -/
def VaultRegistry.Unbound (v : VaultRegistry) (id : UInt64) : Prop :=
  (∀ folder, ¬ v.Holds folder id) ∧ (v.isFolder id → ∀ member, ¬ v.Holds id member)

/-- What a transaction makes of the vault and the tokens. -/
inductive Turn (v : VaultRegistry) (r : NftRegistry) : VaultRegistry → NftRegistry → Prop
  | idle : Turn v r v r
  | minted {owner : Address} {cid : ContentId} {epoch id : UInt64} {name : Option String}
      {r' : NftRegistry} (h : r.mint owner cid epoch name = .ok (id, r')) : Turn v r v r'
  | transferred {id : UInt64} {sender recipient : Address} {r' : NftRegistry}
      (hfree : v.Unbound id) (h : r.transfer id sender recipient = .ok r') : Turn v r v r'
  | burned {id : UInt64} {owner : Address} {cid : ContentId} {r' : NftRegistry}
      (hfree : v.Unbound id) (h : r.burn id owner = .ok (cid, r')) : Turn v r v r'
  | arranged {sender : Address} {vaultTx : VaultTx} {v' : VaultRegistry}
      (h : executeVaultTx v r sender vaultTx = .ok v') : Turn v r v' r

namespace Executor

open AccountState EStateM

variable {L : Linked} {domain : ConsensusKind} {tx : Transaction} {s : AccountState}

/-- The state has made a turn. -/
def Turned (s s' : AccountState) : Prop := Turn s.vault s.nftRegistry s'.vault s'.nftRegistry

/-- The fee touches neither registry. -/
theorem chargeFee_turned {s₁ : AccountState} {message : String} (h : Turned s s₁) :
    (chargeFee tx message).Leaves s₁ (Turned s) := by
  have hfee : (chargeFee tx message).Leaves s₁ fun s' =>
      s'.vault = s₁.vault ∧ s'.nftRegistry = s₁.nftRegistry :=
    Leaves.trans (modify_bind <| get_bind <| ofExcept_bind ⟨rfl, rfl⟩ fun _ _ =>
      Leaves.modify ⟨rfl, rfl⟩) fun _ _ h₂ => Leaves.modify h₂
  refine hfee.mono fun s' ⟨hv, hr⟩ => ?_
  unfold Turned
  rwa [hv, hr]

theorem applyNftMint_turned : (applyNftMint L tx).Leaves s (Turned s) :=
  ofExcept_bind .idle fun _ _ => get_bind <| ofExcept_bind .idle fun _ hmint =>
    modify_bind <| chargeFee_turned (.minted (Except.mapError_eq_ok.1 hmint))

/-- A token that passes the check is in no folder and is no folder with members. -/
theorem checkVault_bind_leaves {id : UInt64} {doing : String} {f : Unit → Exec Unit}
    (h : s.vault.Unbound id → (f ()).Leaves s (Turned s)) :
    (checkVault id doing >>= f).Leaves s (Turned s) := by
  have hchecked : (checkVault id doing).Ensures s fun _ s' => s' = s ∧ s.vault.Unbound id := by
    refine Ensures.get_bind <| check_bind fun hparent => ensures_ensure.2 fun hempty =>
      ⟨rfl, fun folder hholds => ?_, fun hfolder member hholds => ?_⟩
    · obtain ⟨list, hget, hmem⟩ := hholds
      simp only [VaultRegistry.referencedBy, Option.isNone_map, Option.isNone_iff_eq_none,
        List.find?_eq_none] at hparent
      exact hparent _ (OrdMap.get_eq_some_iff.1 hget) (by simpa using hmem)
    · obtain ⟨list, hget, hmem⟩ := hholds
      simp only [hfolder, hget, Option.any_some, Bool.true_and, Bool.not_not,
        List.isEmpty_iff] at hempty
      rw [hempty] at hmem
      cases hmem
  have hfails : (checkVault id doing).Fails s fun _ s' => Turned s s' := by
    refine fails_bind.2 ⟨fails_get, ensures_get.2 (fails_bind.2 ⟨fails_ensure.2 fun _ => .idle, ?_⟩)⟩
    exact ensures_ensure.2 fun _ => fails_ensure.2 fun _ => .idle
  refine Leaves.bind hchecked hfails ?_
  rintro _ _ ⟨rfl, hfree⟩
  exact h hfree

theorem applyNftTransfer_turned : (applyNftTransfer L tx).Leaves s (Turned s) :=
  ofExcept_bind .idle fun _ _ => checkVault_bind_leaves fun hfree => get_bind <|
    ofExcept_bind .idle fun _ hmove => modify_bind <|
    chargeFee_turned (.transferred hfree (Except.mapError_eq_ok.1 hmove))

theorem applyNftBurn_turned : (applyNftBurn L tx).Leaves s (Turned s) :=
  ofExcept_bind .idle fun _ _ => checkVault_bind_leaves fun hfree => get_bind <|
    ofExcept_bind .idle fun _ hburn => modify_bind <|
    chargeFee_turned (.burned hfree (Except.mapError_eq_ok.1 hburn))

theorem applyVault_turned (vaultTx : VaultTx) : (applyVault tx vaultTx).Leaves s (Turned s) :=
  ensure_bind .idle fun _ => get_bind <| ofExcept_bind .idle fun _ hop =>
    modify_bind <| chargeFee_turned (.arranged (Except.mapError_eq_ok.1 hop))

/-- The kinds of transactions that are about tokens and folders. -/
def movesTokens : TransactionType → Bool
  | .vault _ | .nftMint | .nftTransfer | .nftBurn => true
  | _ => false

theorem applyKind_turned (h : movesTokens tx.txType = true) :
    (applyKind L tx domain).Leaves s (Turned s) := by
  unfold applyKind
  cases hkind : tx.txType with
  | nftMint => exact applyNftMint_turned
  | nftTransfer => exact applyNftTransfer_turned
  | nftBurn => exact applyNftBurn_turned
  | vault vaultTx => exact applyVault_turned vaultTx
  | _ => rw [hkind] at h; cases h

theorem checkFloor_eq_pure (h : movesTokens tx.txType = true) : checkFloor tx = pure () := by
  unfold checkFloor
  cases hkind : tx.txType with
  | unstake => rw [hkind] at h; cases h
  | vote => rw [hkind] at h; cases h
  | _ => rfl

/-- A transaction about tokens and folders makes at most one turn, whether or not it succeeds. -/
theorem applyTransactionChecked_turned (h : movesTokens tx.txType = true) :
    (applyTransactionChecked L tx domain).Leaves s (Turned s) := by
  refine Leaves.ite (fun _ => ⟨ensures_ensure.2 fun _ => .idle, fails_ensure.2 fun _ => .idle⟩)
    fun _ => ?_
  simp only [checkFloor_eq_pure h, pure_bind]
  exact get_bind <| ensure_bind .idle fun _ => modify_bind <|
    get_bind <| ensure_bind .idle fun _ => (applyKind_turned h).mono fun _ => id

end Executor

/-! ### Truthful folders -/

structure TruthfulFolders (v : VaultRegistry) (r : NftRegistry) : Prop where
  acyclic : ∀ folder, ¬ TransGen v.Holds folder folder
  nodup : ∀ folder list, v.members.get folder = some list → list.Nodup
  foldersMinted : ∀ folder, v.isFolder folder → r.nfts.contains folder
  membersMinted : ∀ folder member, v.Holds folder member → r.nfts.contains member
  oneOwner : ∀ folder member nft nft', v.Holds folder member → r.nfts.get folder = some nft →
    r.nfts.get member = some nft' → nft.owner = nft'.owner
  refusals : ∀ sender vaultTx e v', (VaultRegistry.executeInPlace r sender vaultTx).run v =
    .error e v' → v' = v

/-- What holds of the two registries whatever is burned: a folder with members and its members are
tokens of one owner. -/
structure Arranged (v : VaultRegistry) (r : NftRegistry) : Prop where
  wellFormed : v.WellFormed
  held : ∀ folder member, v.Holds folder member → ∃ nft nft', r.nfts.get folder = some nft ∧
    r.nfts.get member = some nft' ∧ nft.owner = nft'.owner

variable {v v' : VaultRegistry} {r r' : NftRegistry}

theorem Arranged.folders_truthful_iff (h : Arranged v r) :
    TruthfulFolders v r ↔ ∀ folder, v.isFolder folder → r.nfts.contains folder := by
  refine ⟨TruthfulFolders.foldersMinted, fun hminted => ?_⟩
  refine ⟨h.wellFormed.acyclic, h.wellFormed.nodup, hminted, fun f m hholds => ?_,
    fun f m nft nft' hholds hnft hnft' => ?_,
    fun sender vaultTx e v' => h.wellFormed.unchanged_of_refused⟩
  · obtain ⟨-, nft', -, hget, -⟩ := h.held f m hholds
    exact OrdMap.contains_iff.2 ⟨nft', hget⟩
  · obtain ⟨nft₁, nft₂, hget₁, hget₂, howner⟩ := h.held f m hholds
    rwa [← Option.mem_unique hget₁ hnft, ← Option.mem_unique hget₂ hnft']

/-- Tokens that no folder has to do with may change. -/
theorem Arranged.of_tokens (h : Arranged v r)
    (hkept : ∀ folder member, v.Holds folder member →
      r'.nfts.get folder = r.nfts.get folder ∧ r'.nfts.get member = r.nfts.get member) :
    Arranged v r' := by
  refine ⟨h.wellFormed, fun f m hholds => ?_⟩
  rw [(hkept f m hholds).1, (hkept f m hholds).2]
  exact h.held f m hholds

/-- A token that is in no folder and no folder with members is not part of any pair. -/
theorem Arranged.ne_of_unbound (h : Arranged v r) {id folder member : UInt64}
    (hfree : v.Unbound id) (hholds : v.Holds folder member) : folder ≠ id ∧ member ≠ id := by
  refine ⟨fun heq => ?_, fun heq => ?_⟩
  · subst heq
    exact hfree.2 (h.wellFormed.isFolder_of_holds hholds) member hholds
  · subst heq
    exact hfree.1 folder hholds

variable {sender : Address}

theorem requireSenderHolds_eq_ok {id : UInt64} (h : requireSenderHolds r sender id = .ok ()) : ∃
    nft, r.nfts.get id = some nft ∧ nft.owner = sender := by
  simpa only [requireSenderHolds, Except.bind_eq_ok, Except.ofOption_eq_ok, Except.ensure_eq_ok,
    decide_eq_true_eq] using h

theorem executeVaultTx_eq_ok {vaultTx : VaultTx} (h : executeVaultTx v r sender vaultTx = .ok v') :
    (∀ id ∈ vaultTx.idsNamedBy, ∃ nft, r.nfts.get id = some nft ∧ nft.owner = sender) ∧ v.operate
    vaultTx = .ok v' := by
  rw [VaultRegistry.executeVaultTx_eq, Except.bind_eq_ok] at h
  obtain ⟨u, hids, hop⟩ := h
  exact ⟨fun id hid => requireSenderHolds_eq_ok (Except.forM_eq_ok.1 hids id hid), hop⟩

/-- Every turn keeps the registries arranged. -/
theorem Turn.keeps_arranged (h : Turn v r v' r') (harr : Arranged v r) : Arranged v' r' := by
  cases h with
  | idle => exact harr
  | minted hmint =>
    refine harr.of_tokens fun f m hholds => ?_
    obtain ⟨nft, nft', hget, hget', -⟩ := harr.held f m hholds
    exact ⟨NftRegistry.get_of_mint hmint (OrdMap.contains_iff.2 ⟨nft, hget⟩),
      NftRegistry.get_of_mint hmint (OrdMap.contains_iff.2 ⟨nft', hget'⟩)⟩
  | transferred hfree hmove =>
    refine harr.of_tokens fun f m hholds => ?_
    obtain ⟨hf, hm⟩ := harr.ne_of_unbound hfree hholds
    exact ⟨NftRegistry.get_of_transfer hmove hf, NftRegistry.get_of_transfer hmove hm⟩
  | burned hfree hburn =>
    refine harr.of_tokens fun f m hholds => ?_
    obtain ⟨hf, hm⟩ := harr.ne_of_unbound hfree hholds
    exact ⟨NftRegistry.get_of_burn hburn hf, NftRegistry.get_of_burn hburn hm⟩
  | arranged hop =>
    obtain ⟨hids, hop⟩ := executeVaultTx_eq_ok hop
    obtain ⟨hwf, hgrows⟩ := harr.wellFormed.operate hop
    refine ⟨hwf, fun f m hholds => ?_⟩
    obtain hold | ⟨hf, hm⟩ := hgrows.holds f m hholds
    · exact harr.held f m hold
    · obtain ⟨nft, hnft, howner⟩ := hids f hf
      obtain ⟨nft', hnft', howner'⟩ := hids m hm
      exact ⟨nft, nft', hnft, hnft', howner.trans howner'.symm⟩

/-- A turn leaves every folder a token exactly when it burns no folder. -/
theorem Turn.foldersMinted_iff (h : Turn v r v' r') (harr : Arranged v r)
    (hminted : ∀ folder, v.isFolder folder → r.nfts.contains folder) :
    (∀ folder, v'.isFolder folder → r'.nfts.contains folder) ↔
      ∀ folder, v.isFolder folder → r'.nfts.contains folder := by
  cases h with
  | arranged hop =>
    obtain ⟨hids, hop⟩ := executeVaultTx_eq_ok hop
    obtain ⟨-, hgrows⟩ := harr.wellFormed.operate hop
    refine iff_of_true (fun f hf => ?_) hminted
    obtain hold | hnew := hgrows.folders f hf
    · exact hminted f hold
    · obtain ⟨nft, hget, -⟩ := hids f hnew
      exact OrdMap.contains_iff.2 ⟨nft, hget⟩
  | _ => rfl

/-! ### Runs -/

/-- A transaction about tokens or folders. -/
structure FolderRun.Tx where
  tx : Transaction
  movesTokens : Executor.movesTokens tx.txType = true

namespace FolderRun

open Executor

variable (L : Linked) (domain : ConsensusKind)

/-- The state a transaction leaves behind, whether or not it succeeds. -/
def after (tx : Tx) (s : AccountState) : AccountState :=
  (applyTransactionChecked L tx.tx domain).final s

/-- Every token that is a folder is there after the transaction. -/
def KeepsFolders (tx : Tx) (s : AccountState) : Prop :=
  ∀ folder, s.vault.isFolder folder → (after L domain tx s).nftRegistry.nfts.contains folder

variable {L domain}

theorem turned_after (tx : Tx) (s : AccountState) : Turned s (after L domain tx s) :=
  (applyTransactionChecked_turned tx.movesTokens).final

/-- Stand-ins under which every mint is for the same content and every burn of the first token. -/
def minting : Linked :=
  { Linked.sample with
    decode := { Linked.sample.decode with
      nftMint := fun _ => .ok (1, none)
      nftBurn := fun _ => .ok 0 } }

/-- An account mints a token, makes it a folder and burns it. -/
def burnsItsFolder : List Tx :=
  [⟨.sample 1 0 .nftMint, rfl⟩, ⟨.sample 1 1 (.vault (.registerFolder 0)), rfl⟩,
    ⟨.sample 1 2 .nftBurn, rfl⟩]

end FolderRun

end Budlum
