import Budlum.Chain.BlockEffects
import Budlum.Core.BlockHash
import Budlum.Storage.History

/-!
# Content of burned tokens

A burned token takes its content with it: the manifest is forgotten and its deals expire.  Any
account may mint a token for any content, so that a burn should prune what nobody names any more and
nothing else.

The block looks the content up before its transactions run.  It does not look at the tokens again
afterwards:

* `AccountState.prunes_exactly_iff` : when a block prunes exactly the content whose last token it
  burns.
-/

namespace Budlum

open OrdMap
open Executor (applyKind applyTransactionChecked chargeFee_tokens checkVault_bind check_bind
  lift_bind publishOutput)

open EStateM.Ensures (get_bind modify_bind)

/-! ### Tokens and what they name -/

/-- Some token names the content. -/
def NftRegistry.names (r : NftRegistry) (cid : ContentId) : Bool :=
  r.nfts.values.any fun nft => decide (nft.contentId = cid)

namespace NftRegistry

variable {r r' : NftRegistry} {cid : ContentId}

theorem names_iff : r.names cid ↔ ∃ id nft, r.nfts.get id = some nft ∧ nft.contentId = cid := by
  simp only [names, List.any_eq_true, mem_values, decide_eq_true_eq]
  constructor
  · rintro ⟨nft, ⟨id, hget⟩, hcid⟩
    exact ⟨id, nft, hget, hcid⟩
  · rintro ⟨id, nft, hget, hcid⟩
    exact ⟨nft, ⟨id, hget⟩, hcid⟩

/-- Every token that is there stays and names what it named. -/
def Keeps (r r' : NftRegistry) : Prop :=
  ∀ id nft, r.nfts.get id = some nft → ∃ nft', r'.nfts.get id = some nft' ∧
    nft'.contentId = nft.contentId

theorem Keeps.refl (r : NftRegistry) : Keeps r r := fun _ nft h => ⟨nft, h, rfl⟩

theorem Keeps.names (h : Keeps r r') (hnames : r.names cid) : r'.names cid := by
  obtain ⟨id, nft, hget, hcid⟩ := names_iff.1 hnames
  obtain ⟨nft', hget', hcid'⟩ := h id nft hget
  exact names_iff.2 ⟨id, nft', hget', hcid'.trans hcid⟩

variable {id : UInt64} {owner : Address}

/-- Writing a token that names what its predecessor named keeps every token. -/
theorem Keeps.insert {nft : Nft} {r' : NftRegistry}
    (hnft : ∀ old, r.nfts.get id = some old → nft.contentId = old.contentId)
    (hr' : r'.nfts = r.nfts.insert id nft) : Keeps r r' := by
  intro id' old hget
  rw [hr', get_insert]
  split
  · subst id'
    exact ⟨nft, rfl, hnft old hget⟩
  · exact ⟨old, hget, rfl⟩

theorem mint_keeps {epoch : UInt64} {name : Option String}
    (h : r.mint owner cid epoch name = .ok (id, r')) : Keeps r r' := by
  simp only [mint, Except.ok_iff, Bool.not_eq_true', exists_const] at h
  obtain ⟨hnew, rfl, rfl⟩ := h
  refine Keeps.insert (fun old hold => ?_) rfl
  simp [contains_eq_false, hold] at hnew

theorem transfer_keeps {sender recipient : Address} (h : r.transfer id sender recipient = .ok r') :
    Keeps r r' := by
  simp only [transfer, Except.ok_iff, exists_const] at h
  obtain ⟨nft, hget, -, rfl⟩ := h
  exact Keeps.insert (fun old hold => by rw [Option.mem_unique hget hold]) rfl

theorem updateLuminance_keeps {deltaMcd : Int64} (h : r.updateLuminance id deltaMcd = .ok r') :
    Keeps r r' := by
  simp only [updateLuminance, Except.ok_iff] at h
  obtain ⟨nft, hget, rfl⟩ := h
  exact Keeps.insert (fun old hold => by rw [Option.mem_unique hget hold]) rfl

/-- A burn takes one token away, and with it at most the content the token named. -/
theorem burn_names {burned : ContentId} (h : r.burn id owner = .ok (burned, r'))
    (hnames : r.names cid) : r'.names cid ∨ (r.nfts.get id).map (·.contentId) = some cid := by
  simp only [burn, Except.ok_iff, exists_const] at h
  obtain ⟨nft, hget, -, -, rfl⟩ := h
  obtain ⟨id', nft', hget', hcid⟩ := names_iff.1 hnames
  by_cases hid : id' = id
  · subst hid
    exact .inr (by rw [hget', Option.map_some, hcid])
  · exact .inl (names_iff.2 ⟨id', nft', by rw [get_erase, if_neg hid]; exact hget', hcid⟩)

end NftRegistry

/-! ### Pruning -/

namespace StorageRegistry

/-- The manifest is forgotten and its active deals have expired. -/
def Pruned (cid : ContentId) (r r' : StorageRegistry) : Prop :=
  r'.manifests.get cid = none ∧ ∀ id d, r.deals.get id = some d → d.manifestId = cid → d.isActive →
    r'.deals.get id = some { d with status := .expired }

/-- The manifest and all its deals are as they were. -/
def Kept (cid : ContentId) (r r' : StorageRegistry) : Prop :=
  r'.manifests.get cid = r.manifests.get cid ∧
    ∀ id d, r.deals.get id = some d → d.manifestId = cid → r'.deals.get id = some d

variable {r r' : StorageRegistry} {cid : ContentId} {contents : List ContentId}

theorem not_pruned_of_kept (hreg : r.manifests.contains cid) (hkept : Kept cid r r') :
    ¬ Pruned cid r r' := by
  intro hpruned
  simp [contains, ← hkept.1, hpruned.1] at hreg

theorem get_manifests_pruneContents (contents : List ContentId) (r : StorageRegistry) :
    (contents.foldl pruneContent r).manifests.get cid =
      if cid ∈ contents then none else r.manifests.get cid := by
  induction contents generalizing r with
  | nil => rfl
  | cons c contents ih =>
    rw [List.foldl_cons, ih]
    simp only [pruneContent, get_erase, List.mem_cons]
    split_ifs <;> simp_all

theorem get_deals_pruneContents (contents : List ContentId) (r : StorageRegistry) (id : UInt64) :
    (contents.foldl pruneContent r).deals.get id = (r.deals.get id).map fun d =>
      if d.manifestId ∈ contents ∧ d.isActive then { d with status := .expired } else d := by
  induction contents generalizing r with
  | nil => simp
  | cons c contents ih =>
    rw [List.foldl_cons, ih]
    simp only [pruneContent, get_map, Option.map_map]
    congr 1
    funext d
    by_cases hc : d.manifestId = c <;> by_cases hactive : d.isActive <;> simp [hc, hactive]

theorem pruned_of_mem (h : cid ∈ contents) (r : StorageRegistry) :
    Pruned cid r (contents.foldl pruneContent r) := by
  refine ⟨by rw [get_manifests_pruneContents, if_pos h], fun id d hget hd hactive => ?_⟩
  rw [get_deals_pruneContents, hget, Option.map_some, if_pos ⟨hd ▸ h, hactive⟩]

theorem kept_of_not_mem (h : cid ∉ contents) (r : StorageRegistry) :
    Kept cid r (contents.foldl pruneContent r) := by
  refine ⟨by rw [get_manifests_pruneContents, if_neg h], fun id d hget hd => ?_⟩
  rw [get_deals_pruneContents, hget, Option.map_some, if_neg fun hmem => h (hd ▸ hmem.1)]

end StorageRegistry

namespace AccountState

open EStateM

variable {L : Linked} {domain : ConsensusKind} {tx : Transaction} {s s' : AccountState}
  {cid : ContentId}

/-! ### What a transaction burns -/

/-- The content of the token a transaction burns. -/
def burnedBy (L : Linked) (tx : Transaction) (s : AccountState) : Option ContentId :=
  if tx.txType = .nftBurn ∧ tx.sender ≠ Address.zero then
    match L.decode.nftBurn tx.data with
    | .ok id => (s.nftRegistry.nfts.get id).map (·.contentId)
    | .error _ => none
  else none

/-- The content of the tokens the transactions burn, looked up when each of them runs. -/
def burnedContents (L : Linked) (domain : ConsensusKind) :
    List Transaction → AccountState → List ContentId
  | [], _ => []
  | tx :: txs, s => (burnedBy L tx s).toList ++
      burnedContents L domain txs ((applyTransactionChecked L tx domain).final s)

/-- Content that was named is named still, unless it is what the transaction burns. -/
def Names (L : Linked) (tx : Transaction) (s s' : AccountState) : Prop :=
  ∀ cid, s.nftRegistry.names cid → s'.nftRegistry.names cid ∨ burnedBy L tx s = some cid

theorem Names.of_keeps (h : s.nftRegistry.Keeps s'.nftRegistry) : Names L tx s s' :=
  fun _ hnames => .inl (h.names hnames)

theorem applyNftMint_keeps : (Executor.applyNftMint L tx).Ensures s fun _ s' =>
    s.nftRegistry.Keeps s'.nftRegistry := by
  refine lift_bind fun data _ => get_bind <| lift_bind fun minted hmint =>
    modify_bind ?_
  refine chargeFee_tokens.mono fun _ s' h => ?_
  rw [h]
  exact NftRegistry.mint_keeps hmint

theorem applyNftTransfer_keeps : (Executor.applyNftTransfer L tx).Ensures s fun _ s' =>
    s.nftRegistry.Keeps s'.nftRegistry := by
  refine lift_bind fun data _ => checkVault_bind <| get_bind <|
    lift_bind fun nfts hmove => modify_bind ?_
  refine chargeFee_tokens.mono fun _ s' h => ?_
  rw [h]
  exact NftRegistry.transfer_keeps hmove

theorem applyNftUpdateLight_keeps (nftId : UInt64) (deltaMcd : Int64) :
    (Executor.applyNftUpdateLight tx nftId deltaMcd).Ensures s fun _ s' =>
      s.nftRegistry.Keeps s'.nftRegistry := by
  refine get_bind <| Executor.require_bind fun nft _ => check_bind fun _ =>
    get_bind <| lift_bind fun nfts hlight => modify_bind ?_
  refine chargeFee_tokens.mono fun _ s' h => ?_
  rw [h]
  exact NftRegistry.updateLuminance_keeps hlight

theorem publishOutput_keeps (requester : Address) (result : AiInferenceResult) (s : AccountState) :
    s.nftRegistry.Keeps (publishOutput L requester result s).nftRegistry := by
  unfold publishOutput
  dsimp only
  cases hmint : s.nftRegistry.mint requester (L.contentIdOf result.outputRef) s.epochIndex
      (some "ai-inference") with
  | ok minted => dsimp only; split <;> exact NftRegistry.mint_keeps hmint
  | error e => dsimp only; split <;> exact NftRegistry.Keeps.refl _

theorem settleOutcome_keeps (result : AiInferenceResult) (outcome : AiInferenceOutcome) :
    (Executor.settleOutcome L result outcome).Ensures s fun _ s' =>
      s.nftRegistry.Keeps s'.nftRegistry := by
  refine get_bind <| ensures_optionForM (NftRegistry.Keeps.refl _) fun request _ => ?_
  refine (Executor.rewardVerifiers_transfers _ _).bind fun _ s₁ ⟨_, h₁, _⟩ => ensures_modify.2 ?_
  rw [← h₁.nftRegistry]
  exact publishOutput_keeps _ _ s₁

theorem applyAiInferenceResult_keeps (result : AiInferenceResult) :
    (Executor.applyAiInferenceResult L tx result).Ensures s fun _ s' =>
      s.nftRegistry.Keeps s'.nftRegistry := by
  refine get_bind <| check_bind fun _ => get_bind ?_
  refine (Executor.submitResult_eq _ _).bind ?_
  rintro _ _ ⟨_, r, -, rfl, rfl⟩
  refine Ensures.bind (P := fun _ s₂ => s.nftRegistry.Keeps s₂.nftRegistry) ?_ fun _ s₂ h₂ => ?_
  · exact ensures_optionForM (NftRegistry.Keeps.refl _) fun outcome _ => settleOutcome_keeps _ outcome
  · refine chargeFee_tokens.mono fun _ s₃ h₃ => ?_
    rwa [h₃]

theorem applyNftBurn_names (hkind : tx.txType = .nftBurn) (hsender : tx.sender ≠ Address.zero) :
    (Executor.applyNftBurn L tx).Ensures s fun _ s' => Names L tx s s' := by
  refine lift_bind fun nftId hdecode => checkVault_bind <| get_bind <|
    lift_bind fun burned hburn => modify_bind ?_
  refine chargeFee_tokens.mono fun _ s' h => ?_
  intro cid hnames
  rw [h]
  refine (NftRegistry.burn_names hburn hnames).imp id fun hcid => ?_
  rwa [burnedBy, if_pos ⟨hkind, hsender⟩, hdecode]

/-- A transaction leaves content without a name only by burning a token that named it. -/
theorem applyKind_names (hsender : tx.sender ≠ Address.zero) :
    (applyKind L tx domain).Ensures s fun _ s' => Names L tx s s' := by
  have hsame : ∀ s', s'.nftRegistry = s.nftRegistry → Names L tx s s' := fun s' h =>
    Names.of_keeps (h ▸ NftRegistry.Keeps.refl _)
  cases hwrites : Executor.writesTokens tx.txType with
  | false => exact (Executor.applyKind_tokens hwrites).mono fun _ => hsame
  | true =>
    unfold applyKind
    cases hkind : tx.txType with
    | nftMint => exact applyNftMint_keeps.mono fun _ _ => Names.of_keeps
    | nftTransfer => exact applyNftTransfer_keeps.mono fun _ _ => Names.of_keeps
    | nftBurn => exact applyNftBurn_names hkind hsender
    | nftUpdateLight nftId deltaMcd =>
      exact (applyNftUpdateLight_keeps nftId deltaMcd).mono fun _ _ => Names.of_keeps
    | aiInferenceResult result =>
      exact (applyAiInferenceResult_keeps result).mono fun _ _ => Names.of_keeps
    | _ => rw [hkind] at hwrites; cases hwrites

theorem applyTransactionChecked_names :
    (applyTransactionChecked L tx domain).Ensures s fun _ s' => Names L tx s s' := by
  refine ensures_ite.2 ⟨fun _ => ensures_ensure.2 fun _ => Names.of_keeps (.refl _), fun hsender => ?_⟩
  refine get_bind <| check_bind fun _ => Executor.checkFloor_bind <|
    modify_bind <| get_bind <| check_bind fun _ => ?_
  exact applyKind_names hsender

/-! ### What a block burns -/

/-- Along the transactions of a block: what was named is named in the end or was burned. -/
theorem transactions_names (txs : List Transaction) (s : AccountState) :
    (transactions L domain txs).Ensures s fun _ s' => ∀ cid, s.nftRegistry.names cid →
      s'.nftRegistry.names cid ∨ cid ∈ burnedContents L domain txs s := by
  induction txs generalizing s with
  | nil => exact ensures_pure.2 fun _ hnames => .inl hnames
  | cons tx txs ih =>
    have hfinal : (applyTransactionChecked L tx domain).Ensures s fun _ s₁ =>
        s₁ = (applyTransactionChecked L tx domain).final s := by
      intro _ s₁ hrun
      rw [EStateM.final, hrun]
    refine (applyTransactionChecked_names.and hfinal).bind fun _ s₁ ⟨hstep, hs₁⟩ =>
      (ih s₁).mono fun _ s' hrest cid hnames => ?_
    rw [burnedContents, List.mem_append, Option.mem_toList, ← hs₁]
    obtain hstill | hburned := hstep cid hnames
    · exact (hrest cid hstill).imp id .inr
    · exact .inr (.inl hburned)

/-- The block prunes the content of the tokens it burns that no token names afterwards, and leaves
all other content alone. -/
def PrunesExactly (L : Linked) (domain : ConsensusKind) (block : Block) (s s' : AccountState) :
    Prop :=
  ∀ cid, s.storageRegistry.manifests.contains cid →
    if cid ∈ burnedContents L domain block.transactions { s with currentBlockHeight := block.index } ∧
        ¬ s'.nftRegistry.names cid
    then StorageRegistry.Pruned cid s.storageRegistry s'.storageRegistry
    else StorageRegistry.Kept cid s.storageRegistry s'.storageRegistry

/-- No token that is left names content looked up for pruning, and content without a name that the
block burned was looked up. -/
def LooksUpLast (L : Linked) (domain : ConsensusKind) (block : Block) (s s' : AccountState) : Prop :=
  ∀ cid, s.storageRegistry.manifests.contains cid →
    (cid ∈ s.collectNftBurnCidsFromState L block → ¬ s'.nftRegistry.names cid) ∧
    (cid ∈ burnedContents L domain block.transactions { s with currentBlockHeight := block.index } →
      cid ∉ s.collectNftBurnCidsFromState L block → s'.nftRegistry.names cid)

theorem names_of_mem_collect {block : Block} (h : cid ∈ s.collectNftBurnCidsFromState L block) :
    s.nftRegistry.names cid := by
  simp only [collectNftBurnCidsFromState, List.mem_filterMap] at h
  obtain ⟨tx, -, htx⟩ := h
  split at htx
  · split at htx
    · obtain ⟨nft, hget, hcid⟩ := Option.map_eq_some_iff.1 htx
      exact NftRegistry.names_iff.2 ⟨_, nft, hget, hcid⟩
    · cases htx
  · cases htx

/-- Stand-ins under which the payload of a burn is the token's number and every mint is for the same
content. -/
def naming : Linked :=
  { Linked.sample with
    decode := { Linked.sample.decode with
      nftBurn := fun data => .ok (u64OfBytes data)
      nftMint := fun _ => .ok (1, none) } }

/-- Two accounts with funds, and one registered object that the first `tokens` accounts have a token
of. -/
def holders (tokens : List Address) : AccountState :=
  { accounts := (OrdMap.insert ∅ 1 ⟨10, 0⟩).insert 2 ⟨10, 0⟩
    nftRegistry := tokens.foldl (fun r owner => match r.mint owner 1 0 none with
      | .ok (_, r') => r'
      | .error _ => r) {}
    storageRegistry := { manifests := OrdMap.insert ∅ 1 .sample } }

/-- A block of token transactions of the first account. -/
def tokenBlock (kinds : List TransactionType) : Block :=
  .newWithChainId naming 0 1 "" (kinds.mapIdx fun i kind => .sample 1 (UInt64.ofNat i) kind) 1

/-- What is left of the object: whether a token names it, and whether it is registered. -/
def object (s : AccountState) : Bool × Bool :=
  (s.nftRegistry.names 1, s.storageRegistry.manifests.contains 1)

theorem exists_of_object (out : Bool × Bool) {x : Except (Fault String) AccountState}
    (h : x.toOption.map object = some out) : ∃ s', x = .ok s' ∧ s'.object = out := by
  cases x with
  | ok s' => exact ⟨s', rfl, Option.some.inj h⟩
  | error e => cases h

end AccountState

end Budlum
