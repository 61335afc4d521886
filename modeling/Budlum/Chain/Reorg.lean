import Budlum.Chain.Finality

/-!
# Reorganisation of a node with a store

A node that follows a better chain checks it as a whole first, then puts it in place of its own, and
only then, if it has a store, executes the new blocks once more and writes them out one by one.  An
error of the store comes back to the caller when the chain and the state are replaced already.

* `Blockchain.persistBlocks_eq_ok_iff` : what was validated can be executed again, under any kind of
  consensus, so that nothing but the store can refuse.
* `Blockchain.reorg_all_or_nothing_iff` : **a reorganisation is all or nothing exactly if the store
  takes every block after the fork.**
-/

namespace Budlum

open Except (bind_eq_ok ensure ok_iff)

open EStateM

/-! ### Execution under another kind of consensus -/

/-- Where one computation succeeds, the other does the same. -/
def Covers {ε σ α : Type} (m m' : EStateM ε σ α) : Prop :=
  ∀ s a s', m.run s = .ok a s' → m'.run s = .ok a s'

namespace Covers

variable {ε σ α β : Type} {m m' : EStateM ε σ α} {f f' : α → EStateM ε σ β}

theorem refl (m : EStateM ε σ α) : Covers m m := fun _ _ _ h => h

theorem bind (hm : Covers m m') (hf : ∀ a, Covers (f a) (f' a)) : Covers (m >>= f) (m' >>= f') := by
  intro s b s' h
  simp only [run_bind] at h ⊢
  cases hrun : m.run s with
  | error e t => simp [hrun] at h
  | ok a t =>
    rw [hrun] at h
    rw [hm s a t hrun]
    exact hf a t b s' h

theorem forM {f f' : α → EStateM ε σ PUnit} (h : ∀ a, Covers (f a) (f' a)) (l : List α) :
    Covers (l.forM f) (l.forM f') := by
  induction l with
  | nil => exact refl _
  | cons a l ih => exact bind (h a) fun _ => ih

theorem mapError {ε' : Type} (g : ε → ε') (hm : Covers m m') :
    Covers (EStateM.mapError g m) (EStateM.mapError g m') := by
  intro s a s' h
  have hok : ∀ k : EStateM ε σ α, (EStateM.mapError g k).run s = .ok a s' ↔ k.run s = .ok a s' := by
    intro k
    simp only [EStateM.mapError, zoom, EStateM.run, id]
    cases k s <;> simp
  rw [hok] at h ⊢
  exact hm s a s' h

end Covers

/-- Without the authority to write identities only recoveries succeed, and those never need it. -/
theorem IdentityRegistry.executeIdentityTx_of_poS {C : Crypto} {r r' : IdentityRegistry}
    {sender : Address} {tx : IdentityTx} {epoch chainId : UInt64}
    (h : r.executeIdentityTx C sender tx .poS epoch chainId = .ok r') (domain : ConsensusKind) :
    r.executeIdentityTx C sender tx domain epoch chainId = .ok r' := by
  cases tx with
  | recover subject newKey approvals => exact h
  | _ =>
    simp only [executeIdentityTx, checkDomain, ok_iff] at h
    obtain ⟨_, _, _, hdomain, _⟩ := h
    cases hdomain

namespace Executor

variable (L : Linked) (tx : Transaction) (domain : ConsensusKind)

theorem applyIdentity_covers (identityTx : IdentityTx) :
    Covers (applyIdentity L tx .poS identityTx) (applyIdentity L tx domain identityTx) := by
  refine Covers.bind (.refl _) fun _ => Covers.bind (.refl _) fun s => Covers.bind ?_ fun _ => .refl _
  intro t registry t' h
  cases hrun : s.identity.executeIdentityTx L.toCrypto tx.sender identityTx .poS s.epochIndex
      tx.chainId with
  | error e => rw [hrun] at h; cases h
  | ok r =>
    rw [hrun] at h
    rwa [IdentityRegistry.executeIdentityTx_of_poS hrun]

theorem applyKind_covers : Covers (applyKind L tx .poS) (applyKind L tx domain) := by
  cases htype : tx.txType with
  | identity identityTx =>
    simp only [applyKind, htype]
    exact applyIdentity_covers L tx domain identityTx
  | _ =>
    simp only [applyKind, htype]
    exact .refl _

theorem applyTransactionChecked_covers :
    Covers (applyTransactionChecked L tx .poS) (applyTransactionChecked L tx domain) := by
  unfold applyTransactionChecked
  split
  · exact .refl _
  · exact Covers.bind (.refl _) fun _ => Covers.bind (.refl _) fun _ => Covers.bind (.refl _)
      fun _ => Covers.bind (.refl _) fun _ => Covers.bind (.refl _)
      fun _ => Covers.bind (.refl _) fun _ => applyKind_covers L tx domain

theorem applyBlockChecked_covers (txs : List Transaction) (producer : Option Address) :
    Covers (applyBlockChecked L .poS txs producer) (applyBlockChecked L domain txs producer) :=
  Covers.bind (.refl _) fun _ => Covers.bind
    (Covers.forM (fun tx => applyTransactionChecked_covers L tx domain) txs) fun _ => .refl _

end Executor

/-- What a block does under the stake domain it does under every other one. -/
theorem AccountState.applyBlockEffects_of_poS {L : Linked} {s s' : AccountState} {b : Block}
    {preceding : List Block} (h : s.applyBlockEffects L .poS b preceding = .ok s')
    (domain : ConsensusKind) : s.applyBlockEffects L domain b preceding = .ok s' := by
  rw [applyBlockEffects_eq_ok] at h ⊢
  refine Covers.bind (.refl _) (fun s => Covers.bind (.refl _) fun _ => Covers.bind ?_ fun _ => .refl _)
    _ _ _ h
  exact Covers.mapError _ (Executor.applyBlockChecked_covers L domain _ _)

/-! ### The store -/

/-- The store of a node, as a reorganisation meets it: what it has saved, as far as it can be read,
and which blocks it takes.  Its domains and commitments are given as the registries that the valid
ones among them make. -/
structure ReorgStore where
  domains : ConsensusDomainRegistry
  commitments : DomainCommitmentRegistry
  loadBridgeState : Option BridgeState
  loadCrossDomainMessages : Option (List CrossDomainMessage)
  /-- `commit_durable_batch` for a block and the state after it. -/
  commitDurableBatch : Block → AccountState → Except String Unit

namespace ReorgStore

variable (N : NodeLinks) (store : ReorgStore)

/-- The saved messages; repeated and invalid ones are skipped. -/
def messageRegistry (messages : List CrossDomainMessage) : CrossDomainMessageRegistry :=
  messages.foldl (fun r m => (r.insert N.toCrypto m).toOption.getD r) {}

/-- Reload what the chain does not carry. -/
def reload (bc : Blockchain) : Blockchain :=
  { bc with
    domainRegistry := store.domains
    domainCommitmentRegistry := store.commitments
    state := { bc.state with
      bridgeState := store.loadBridgeState.getD bc.state.bridgeState
      messageRegistry := (store.loadCrossDomainMessages.map (messageRegistry N)).getD
        bc.state.messageRegistry } }

def commitBlockDurable (b : Block) (s : AccountState) : Except (Fault String) Unit :=
  (store.commitDurableBatch b s).mapError fun e => .fail s!"Failed to commit durable batch: {e}"

end ReorgStore

namespace Blockchain

variable (N : NodeLinks)

/-- One block of a chain that is executed from its start. -/
def rebuildBlock (preceding : List Block) (b : Block) (s : AccountState) :
    Except (Fault String) AccountState := do
  let s ← (s.applyBlockEffects N.toLinked .poS b preceding).mapError
    (Fault.map fun e => s!"Failed to rebuild state at block {b.index}: {e}")
  let s := replayRoots N s
  ensure (decide (s.calculateStateRoot N.toCrypto N.roots = b.stateRoot))
    (.fail s!"Failed to rebuild state root at block {b.index}")
  return s

def rebuildBlocks : (preceding : List Block) → List Block → AccountState →
    Except (Fault String) AccountState
  | _, [], s => .ok s
  | preceding, b :: rest, s => do
    let s ← rebuildBlock N preceding b s
    rebuildBlocks (preceding ++ [b]) rest s

/-- The state that a chain leads to, by execution alone. -/
def rebuildState (g : GenesisConfig) : List Block → Except (Fault String) AccountState
  | [] => .error (.fail "Cannot rebuild empty chain")
  | genesis :: rest => do
    ensure
      (decide (genesis.hash = (g.buildGenesisBlock N.toLinked N.roots).hash ∧
        genesis.chainId = g.chainId))
      (.fail "Candidate chain genesis does not match configured genesis")
    rebuildBlocks N [genesis] rest (g.buildState N.toLinked)

/-- Execute the new blocks once more and write each of them out.  The index of a validated block is
its position, so that the blocks before it are those before it in the chain. -/
def persistBlocks (store : ReorgStore) (domain : ConsensusKind) :
    (preceding : List Block) → List Block → AccountState → Except (Fault String) Unit
  | _, [], _ => .ok ()
  | preceding, b :: rest, s => do
    let s ← s.applyBlockEffects N.toLinked domain b preceding
    let s := replayRoots N s
    ensure (decide (s.calculateStateRoot N.toCrypto N.roots = b.stateRoot))
      (.fail s!"Reorg persistence state root mismatch at block {b.index}")
    store.commitBlockDurable b s
    persistBlocks store domain (preceding ++ [b]) rest s

variable (bc : Blockchain)

/-- Write out a chain that replaces another one from the fork on.  The part before the fork is
rebuilt under the stake domain, the rest runs under the domain of the engine. -/
def persistReorg (store : ReorgStore) (candidate : List Block) (fork : Nat) :
    Except (Fault String) Unit := do
  let s ← if 0 < fork then rebuildState N bc.genesisConfig (candidate.take fork) else .ok {}
  persistBlocks N store bc.consensus.domainKind (candidate.take fork) (candidate.drop fork) s

/-- Put a validated chain and its state in place of the current ones, before anything is written. -/
def swapChain (store : Option ReorgStore) (now : U128) (chain : List Block) (s : AccountState)
    (fork : Nat) : Blockchain :=
  let dropped := (bc.chain.drop fork).map (·.index)
  let bc' : Blockchain :=
    { bc with
      chain := chain
      state := s
      executionDomain := .poS
      verifiedQcBlobs := bc.verifiedQcBlobs.filter fun height _ => !dropped.contains height
      domainRegistry := {}
      domainCommitmentRegistry := {}
      pendingFinalityCerts := ∅
      pendingSlashingEvidence := []
      universalRelayer := {}
      validatorSnapshots := ∅ }
  let bc' := store.elim bc' fun store => store.reload N bc'
  { bc'.recordValidatorSnapshot N bc'.state.epochIndex with
    mempool := bc.rebuiltMempool N now chain }

/-- What is left to do once the chain is written. -/
def finishReorg : Blockchain :=
  { bc with
    mempool := bc.mempool.setMinFee bc.state.baseFee
    consensus := match bc.chain.getLast? with
      | some last => bc.consensus.recordWithChain N last bc.chain
      | none => bc.consensus }

/-- Follow the candidate if it is better; whether the chain was replaced. -/
def tryReorgStored (store : Option ReorgStore) (now : U128) (candidate : List Block) :
    EStateM (Fault String) Blockchain Bool := do
  let bc ← get
  if !bc.consensus.isBetterChain N bc.chain candidate then return false
  else match bc.findForkPoint candidate with
    | none => return false
    | some fork => do
      EStateM.ofExcept (bc.checkReorg candidate fork).orFail
      let s ← EStateM.ofExcept (bc.validateCandidateChain N now candidate)
      set (bc.swapChain N store now candidate s fork)
      EStateM.ofExcept (store.elim (.ok ()) fun store => bc.persistReorg N store candidate fork)
      modify (finishReorg N)
      return true

/-! ### What was validated can be executed again -/

variable {N bc} {now : U128} {preceding l₁ l₂ l : List Block} {parent b : Block}
  {s s' : AccountState} {store : ReorgStore} {domain : ConsensusKind}

theorem replayCandidate_ok (h : bc.replayCandidate N now preceding parent b s = .ok s') :
    ∃ t, s.applyBlockEffects N.toLinked .poS b preceding = .ok t ∧ s' = replayRoots N t ∧
      s'.calculateStateRoot N.toCrypto N.roots = b.stateRoot := by
  simp only [replayCandidate, ok_iff] at h
  obtain ⟨_, _, _, _, _, _, t, hrun, _, hroot, rfl⟩ := h
  exact ⟨t, hrun, rfl, hroot⟩

theorem replayCandidates_append :
    bc.replayCandidates N now preceding parent (l₁ ++ l₂) s = .ok s' ↔
      ∃ t, bc.replayCandidates N now preceding parent l₁ s = .ok t ∧
        bc.replayCandidates N now (preceding ++ l₁) (l₁.getLast?.getD parent) l₂ t = .ok s' := by
  induction l₁ generalizing preceding parent s with
  | nil => simp [replayCandidates]
  | cons b l ih =>
    simp only [List.cons_append, replayCandidates, bind_eq_ok, ih, List.append_assoc,
      List.nil_append, List.getLast?_cons, Option.getD_some]
    constructor
    · rintro ⟨s₁, hb, t, hl, hrest⟩
      exact ⟨t, ⟨s₁, hb, hl⟩, hrest⟩
    · rintro ⟨t, ⟨s₁, hb, hl⟩, hrest⟩
      exact ⟨s₁, hb, t, hl, hrest⟩

theorem rebuildBlock_of_replayed (h : bc.replayCandidate N now preceding parent b s = .ok s') :
    rebuildBlock N preceding b s = .ok s' := by
  obtain ⟨t, hrun, rfl, hroot⟩ := replayCandidate_ok h
  simp only [rebuildBlock, ok_iff, Except.mapError_eq_ok]
  exact ⟨t, hrun, (), hroot, rfl⟩

theorem rebuildBlocks_of_replayed (h : bc.replayCandidates N now preceding parent l s = .ok s') :
    rebuildBlocks N preceding l s = .ok s' := by
  induction l generalizing preceding parent s with
  | nil => exact h
  | cons b l ih =>
    simp only [replayCandidates, bind_eq_ok] at h
    obtain ⟨s₁, hb, hrest⟩ := h
    simp only [rebuildBlocks, bind_eq_ok]
    exact ⟨s₁, rebuildBlock_of_replayed hb, ih hrest⟩

/-- The store takes the blocks, each with the state that the candidate reaches there. -/
def TakesAll (N : NodeLinks) (bc : Blockchain) (now : U128) (store : ReorgStore)
    (preceding : List Block) (parent : Block) (l : List Block) (s : AccountState) : Prop :=
  ∀ pre b post t, l = pre ++ b :: post →
    bc.replayCandidates N now preceding parent (pre ++ [b]) s = .ok t →
      store.commitDurableBatch b t = .ok ()

theorem takesAll_cons {s₁ : AccountState}
    (hb : bc.replayCandidate N now preceding parent b s = .ok s₁) :
    TakesAll N bc now store preceding parent (b :: l) s ↔
      store.commitDurableBatch b s₁ = .ok () ∧ TakesAll N bc now store (preceding ++ [b]) b l s₁ := by
  constructor
  · refine fun h => ⟨h [] b l s₁ rfl (by simp [replayCandidates, hb]), fun pre c post t hl hrun => ?_⟩
    refine h (b :: pre) c post t (by rw [hl]; rfl) ?_
    simp only [List.cons_append, replayCandidates, bind_eq_ok]
    exact ⟨s₁, hb, hrun⟩
  · rintro ⟨hfirst, hrest⟩ pre c post t hl hrun
    cases pre with
    | nil =>
      obtain ⟨rfl, rfl⟩ := List.cons.inj hl
      simp only [List.nil_append, replayCandidates, bind_eq_ok, Except.ok.injEq, hb] at hrun
      obtain ⟨_, rfl, rfl⟩ := hrun
      exact hfirst
    | cons b' pre =>
      obtain ⟨rfl, rfl⟩ := List.cons.inj hl
      simp only [List.cons_append, replayCandidates, bind_eq_ok, Except.ok.injEq, hb] at hrun
      obtain ⟨_, rfl, hrun⟩ := hrun
      exact hrest pre c post t rfl hrun

/-- The second execution of a validated block ends in the state of the first. -/
theorem persistBlocks_cons {s₁ : AccountState}
    (hb : bc.replayCandidate N now preceding parent b s = .ok s₁) :
    persistBlocks N store domain preceding (b :: l) s =
      (store.commitBlockDurable b s₁ >>= fun _ =>
        persistBlocks N store domain (preceding ++ [b]) l s₁) := by
  obtain ⟨t, hrun, rfl, hroot⟩ := replayCandidate_ok hb
  have hcheck : decide ((replayRoots N t).calculateStateRoot N.toCrypto N.roots = b.stateRoot) =
      true := decide_eq_true hroot
  have hbind : ∀ f : AccountState → Except (Fault String) Unit, (Except.ok t >>= f) = f t := fun _ => rfl
  rw [persistBlocks, AccountState.applyBlockEffects_of_poS hrun domain, hbind]
  dsimp only
  rw [hcheck]
  rfl

theorem persistBlocks_eq_ok_iff
    (h : bc.replayCandidates N now preceding parent l s = .ok s') :
    persistBlocks N store domain preceding l s = .ok () ↔
      TakesAll N bc now store preceding parent l s := by
  induction l generalizing preceding parent s with
  | nil => exact iff_of_true rfl fun pre b post t hl => by simp at hl
  | cons b l ih =>
    simp only [replayCandidates, bind_eq_ok] at h
    obtain ⟨s₁, hb, hrest⟩ := h
    rw [persistBlocks_cons hb, takesAll_cons hb, ← ih hrest, bind_eq_ok]
    simp only [ReorgStore.commitBlockDurable, Except.mapError_eq_ok]
    exact ⟨fun h => ⟨h.choose_spec.1, h.choose_spec.2⟩, fun h => ⟨(), h⟩⟩

theorem persistBlocks_eq_error {e : Fault String}
    (h : bc.replayCandidates N now preceding parent l s = .ok s')
    (herr : persistBlocks N store domain preceding l s = .error e) : ∃ reason, e = .fail reason := by
  induction l generalizing preceding parent s with
  | nil => cases herr
  | cons b l ih =>
    simp only [replayCandidates, bind_eq_ok] at h
    obtain ⟨s₁, hb, hrest⟩ := h
    rw [persistBlocks_cons hb, Except.bind_eq_error] at herr
    rcases herr with hcommit | ⟨_, -, htail⟩
    · rw [ReorgStore.commitBlockDurable] at hcommit
      cases hstore : store.commitDurableBatch b s₁ with
      | ok _ => rw [hstore] at hcommit; cases hcommit
      | error reason =>
        rw [hstore] at hcommit
        exact ⟨_, (Except.error.inj hcommit).symm⟩
    · exact ih hrest htail

/-! ### A candidate as a whole -/

variable {genesis : Block} {candidate : List Block} {fork : Nat}

theorem validateCandidateChain_append :
    bc.validateCandidateChain N now (genesis :: l₁ ++ l₂) = .ok s' ↔
      ∃ t, bc.validateCandidateChain N now (genesis :: l₁) = .ok t ∧
        bc.replayCandidates N now (genesis :: l₁) (l₁.getLast?.getD genesis) l₂ t = .ok s' := by
  simp only [List.cons_append, validateCandidateChain, bind_eq_ok, replayCandidates_append,
    List.nil_append]
  constructor
  · rintro ⟨_, hgenesis, t, hl, hrest⟩
    exact ⟨t, ⟨_, hgenesis, hl⟩, hrest⟩
  · rintro ⟨t, ⟨_, hgenesis, hl⟩, hrest⟩
    exact ⟨_, hgenesis, t, hl, hrest⟩

theorem rebuildState_of_validated (h : bc.validateCandidateChain N now l = .ok s) :
    rebuildState N bc.genesisConfig l = .ok s := by
  cases l with
  | nil => cases h
  | cons genesis rest =>
    simp only [validateCandidateChain, ok_iff] at h
    obtain ⟨_, rfl, hrest⟩ := h
    simp only [rebuildState, ok_iff]
    exact ⟨(), ⟨trivial, rfl⟩, rebuildBlocks_of_replayed hrest⟩

/-- The state after a block that was replayed has the root of the block. -/
theorem root_of_replayed (h : bc.replayCandidates N now preceding parent l s = .ok s')
    (hroot : s.calculateStateRoot N.toCrypto N.roots = parent.stateRoot) :
    s'.calculateStateRoot N.toCrypto N.roots = (l.getLast?.getD parent).stateRoot := by
  induction l generalizing preceding parent s with
  | nil =>
    obtain rfl := Except.ok.inj h
    exact hroot
  | cons b l ih =>
    simp only [replayCandidates, bind_eq_ok] at h
    obtain ⟨s₁, hb, hrest⟩ := h
    obtain ⟨_, _, _, hroot₁⟩ := replayCandidate_ok hb
    rw [ih hrest hroot₁, List.getLast?_cons, Option.getD_some]

/-- The last block of a validated chain commits to the state that the chain leads to. -/
theorem root_of_validated (h : bc.validateCandidateChain N now candidate = .ok s) :
    candidate.getLast?.map (·.stateRoot) = some (s.calculateStateRoot N.toCrypto N.roots) := by
  cases candidate with
  | nil => cases h
  | cons genesis rest =>
    simp only [validateCandidateChain, ok_iff] at h
    obtain ⟨_, rfl, hrest⟩ := h
    rw [root_of_replayed hrest rfl, List.getLast?_cons, Option.map_some]

/-- The store takes every block from the fork on, with the state that the candidate reaches there. -/
def Keeps (N : NodeLinks) (bc : Blockchain) (now : U128) (store : ReorgStore)
    (candidate : List Block) (fork : Nat) : Prop :=
  ∀ pre b post t, candidate = pre ++ b :: post → fork ≤ pre.length →
    bc.validateCandidateChain N now (pre ++ [b]) = .ok t → store.commitDurableBatch b t = .ok ()

theorem keeps_iff_takesAll (h : bc.validateCandidateChain N now (genesis :: l₁) = .ok s) :
    Keeps N bc now store (genesis :: l₁ ++ l₂) (l₁.length + 1) ↔
      TakesAll N bc now store (genesis :: l₁) (l₁.getLast?.getD genesis) l₂ s := by
  constructor
  · intro hkeeps pre b post t hl hrun
    refine hkeeps (genesis :: l₁ ++ pre) b post t (by rw [hl, List.append_assoc]) (by simp) ?_
    rw [List.append_assoc, validateCandidateChain_append]
    exact ⟨s, h, hrun⟩
  · intro htakes pre b post t hl hlen hrun
    obtain ⟨pre', rfl⟩ : genesis :: l₁ <+: pre :=
      List.prefix_of_prefix_length_le (List.prefix_append _ l₂) (hl ▸ List.prefix_append pre _) hlen
    rw [List.append_assoc, validateCandidateChain_append] at hrun
    obtain ⟨s₁, hs₁, hrun⟩ := hrun
    obtain rfl := Except.ok.inj (hs₁.symm.trans h)
    rw [List.append_assoc] at hl
    exact htakes pre' b post t (List.append_cancel_left hl) hrun

/-- The candidate is better, forks where it may and is valid. -/
structure Replaces (N : NodeLinks) (bc : Blockchain) (now : U128) (candidate : List Block)
    (fork : Nat) (s : AccountState) : Prop where
  better : bc.consensus.isBetterChain N bc.chain candidate = true
  forkPoint : bc.findForkPoint candidate = some fork
  allowed : bc.checkReorg candidate fork = .ok ()
  valid : bc.validateCandidateChain N now candidate = .ok s

theorem Replaces.fork_pos (h : Replaces N bc now candidate fork s) : 0 < fork := by
  have hallowed := h.allowed
  simp only [checkReorg, ok_iff] at hallowed
  obtain ⟨_, hpos, -⟩ := hallowed
  omega

theorem Replaces.fork_le (h : Replaces N bc now candidate fork s) : fork ≤ candidate.length := by
  have hfork := h.forkPoint
  unfold findForkPoint at hfork
  split at hfork
  case h_1 index hindex =>
    obtain rfl := Option.some.inj hfork
    obtain ⟨hlt, -⟩ := List.findIdx?_eq_some_iff_getElem.1 hindex
    rw [List.length_zip] at hlt
    omega
  case h_2 =>
    split_ifs at hfork
    obtain rfl := Option.some.inj hfork
    exact min_le_right _ _

theorem findForkPoint_self (bc : Blockchain) : bc.findForkPoint bc.chain = none := by
  have hequal : (bc.chain.zip bc.chain).findIdx? (fun p => decide (p.1.hash ≠ p.2.hash)) = none := by
    rw [List.findIdx?_eq_none_iff]
    intro p hp
    obtain ⟨i, hi, rfl⟩ := List.getElem_of_mem hp
    simp
  simp only [findForkPoint, hequal, ne_eq, not_true_eq_false, if_false]

/-- The chains differ where there is a fork. -/
theorem Replaces.chain_ne (h : Replaces N bc now candidate fork s) : candidate ≠ bc.chain := by
  rintro rfl
  exact nomatch (findForkPoint_self bc).symm.trans h.forkPoint

/-- Nothing but the store can refuse a validated chain. -/
theorem Replaces.persistReorg (h : Replaces N bc now candidate fork s) (store : ReorgStore) :
    (bc.persistReorg N store candidate fork = .ok () ↔ Keeps N bc now store candidate fork) ∧
      ∀ e, bc.persistReorg N store candidate fork = .error e → ∃ reason, e = .fail reason := by
  have hpos := h.fork_pos
  have hle := h.fork_le
  have hvalid := h.valid
  obtain ⟨genesis, l, hsplit⟩ := List.exists_cons_of_length_pos
    (show 0 < (candidate.take fork).length by rw [List.length_take]; omega)
  have hlength : l.length + 1 = fork := by
    rw [← List.length_cons (a := genesis), ← hsplit, List.length_take]
    omega
  rw [← List.take_append_drop fork candidate, hsplit, validateCandidateChain_append] at hvalid
  obtain ⟨t, hbefore, hafter⟩ := hvalid
  have hrun : bc.persistReorg N store candidate fork =
      persistBlocks N store bc.consensus.domainKind (genesis :: l) (candidate.drop fork) t := by
    rw [Blockchain.persistReorg, if_pos hpos, hsplit, rebuildState_of_validated hbefore]
    rfl
  have hkeeps : Keeps N bc now store candidate fork ↔
      TakesAll N bc now store (genesis :: l) (l.getLast?.getD genesis) (candidate.drop fork) t := by
    rw [← keeps_iff_takesAll hbefore, ← hsplit, List.take_append_drop, hlength]
  rw [hrun, hkeeps]
  exact ⟨persistBlocks_eq_ok_iff hafter, fun e => persistBlocks_eq_error hafter⟩

/-! ### All or nothing -/

/-- The same chain, the same state with its bridge and its messages, the same finality. -/
structure SameStanding (bc bc' : Blockchain) : Prop where
  chain : bc'.chain = bc.chain
  state : bc'.state = bc.state
  bridgeState : bc'.state.bridgeState = bc.state.bridgeState
  messageRegistry : bc'.state.messageRegistry = bc.state.messageRegistry
  finalizedHeight : bc'.finalizedHeight = bc.finalizedHeight
  finalizedHash : bc'.finalizedHash = bc.finalizedHash
  verifiedQcBlobs : bc'.verifiedQcBlobs = bc.verifiedQcBlobs
  pendingFinalityCerts : bc'.pendingFinalityCerts = bc.pendingFinalityCerts

theorem SameStanding.refl (bc : Blockchain) : SameStanding bc bc :=
  ⟨rfl, rfl, rfl, rfl, rfl, rfl, rfl, rfl⟩

/-- How a reorganisation should end: in the candidate, with the state that its tip commits to, or
where it started. -/
def AllOrNothing (N : NodeLinks) (bc : Blockchain) (candidate : List Block) :
    EStateM.Result (Fault String) Blockchain Bool → Prop
  | .ok true bc' => bc'.chain = candidate ∧
      candidate.getLast?.map (·.stateRoot) = some (bc'.state.calculateStateRoot N.toCrypto N.roots)
  | .ok false bc' => SameStanding bc bc'
  | .error (.fail _) bc' => SameStanding bc bc'
  | .error .panic _ => True

theorem chain_swapChain (store : Option ReorgStore) :
    (bc.swapChain N store now candidate s fork).chain = candidate := by
  cases store <;> rfl

/-- Both ends of a reorganisation, and when it gets there. -/
theorem tryReorgStored_ends (N : NodeLinks) (bc : Blockchain) (store : Option ReorgStore)
    (now : U128) (candidate : List Block) :
    (tryReorgStored N store now candidate).Ends bc
      (fun replaced bc' =>
        if replaced then ∃ fork s, Replaces N bc now candidate fork s ∧
          (∀ st, store = some st → bc.persistReorg N st candidate fork = .ok ()) ∧
          bc' = (bc.swapChain N store now candidate s fork).finishReorg N
        else bc' = bc ∧ ∀ fork s, ¬ Replaces N bc now candidate fork s)
      (fun e bc' => bc' = bc ∧ (∀ fork s, ¬ Replaces N bc now candidate fork s) ∨
        ∃ st fork s, store = some st ∧ Replaces N bc now candidate fork s ∧
          bc.persistReorg N st candidate fork = .error e ∧ bc'.chain = candidate) := by
  refine Ends.get_bind (Ends.ite (fun hworse => ?_) fun hbetter => ?_)
  · refine Ends.pure ⟨rfl, fun fork s h => ?_⟩
    rw [h.better] at hworse
    cases hworse
  rw [Bool.not_eq_true, Bool.not_eq_false'] at hbetter
  split
  case h_1 hnone =>
    exact Ends.pure ⟨rfl, fun fork s h => nomatch hnone.symm.trans h.forkPoint⟩
  case h_2 fork hfork =>
    have hunique : ∀ {fork' s'}, Replaces N bc now candidate fork' s' → fork' = fork :=
      fun h => Option.mem_unique h.forkPoint hfork
    refine Ends.ofExcept_bind (fun e hrefused => .inl ⟨rfl, fun fork' s' h => ?_⟩) fun _ hallowed => ?_
    · obtain rfl := hunique h
      rw [h.allowed] at hrefused
      cases hrefused
    refine Ends.ofExcept_bind (fun e hinvalid => .inl ⟨rfl, fun fork' s' h => ?_⟩) fun s hvalid => ?_
    · exact nomatch h.valid.symm.trans hinvalid
    have hreplaces : Replaces N bc now candidate fork s :=
      ⟨hbetter, hfork, Except.orFail_eq_ok.1 hallowed, hvalid⟩
    refine Ends.set_bind (Ends.ofExcept_bind (fun e hstore => .inr ?_) fun _ hstored => ?_)
    · cases store with
      | none => cases hstore
      | some st => exact ⟨st, fork, s, rfl, hreplaces, hstore, chain_swapChain _⟩
    · refine Ends.modify_bind (Ends.pure ?_)
      rw [if_pos rfl]
      refine ⟨fork, s, hreplaces, fun st hst => ?_, rfl⟩
      subst hst
      exact hstored

/-- **A reorganisation is all or nothing exactly if the store, where there is one, takes every block
after the fork.** -/
theorem reorg_all_or_nothing_iff (N : NodeLinks) (store : Option ReorgStore) (now : U128)
    (bc : Blockchain) (candidate : List Block) :
    AllOrNothing N bc candidate ((tryReorgStored N store now candidate).run bc) ↔
      ∀ st fork s, store = some st → Replaces N bc now candidate fork s →
        Keeps N bc now st candidate fork := by
  obtain ⟨hok, herr⟩ := tryReorgStored_ends N bc store now candidate
  cases hrun : (tryReorgStored N store now candidate).run bc with
  | ok replaced bc' =>
    have hend := hok _ _ hrun
    cases replaced with
    | true =>
      obtain ⟨fork, s, hreplaces, hstored, rfl⟩ := hend
      refine iff_of_true ⟨@chain_swapChain N bc now s candidate fork store, ?_⟩ fun st fork' s' hst h => ?_
      · rw [root_of_validated hreplaces.valid]
        cases store <;> rfl
      · obtain rfl : fork' = fork :=
          Option.mem_unique h.forkPoint hreplaces.forkPoint
        exact (h.persistReorg st).1.1 (hstored st hst)
    | false =>
      obtain ⟨rfl, hnone⟩ := hend
      exact iff_of_true (.refl _) fun st fork s _ h => absurd h (hnone fork s)
  | error e bc' =>
    rcases herr _ _ hrun with ⟨rfl, hnone⟩ | ⟨st, fork, s, rfl, hreplaces, hrefused, hchain⟩
    · refine iff_of_true ?_ fun st fork s _ h => absurd h (hnone fork s)
      cases e with
      | fail e => exact .refl _
      | panic => trivial
    · obtain ⟨reason, rfl⟩ := (hreplaces.persistReorg st).2 e hrefused
      refine iff_of_false (fun h => ?_) fun h => ?_
      · exact hreplaces.chain_ne (hchain.symm.trans h.chain)
      · have hok := (hreplaces.persistReorg st).1.2 (h st fork s rfl hreplaces)
        exact nomatch hok.symm.trans hrefused

/-- A node that mines on its genesis. -/
def mining : Blockchain := .new .sample (.pow { difficulty := 0 }) Network.devnet.chainId {} {} {}

/-- A first block without transactions. -/
def mined : Block :=
  let b : Block :=
    { index := 1, timestamp := ⟨10000, by decide⟩, previousHash := mining.finalizedHash, hash := ""
      transactions := [], nonce := 0, producer := none, signature := none, producerPublicKey := []
      chainId := Network.devnet.chainId, slashingEvidence := none, stateRoot := toHex 1
      txRoot := "", epoch := 0, slot := 0, vrfOutput := [], vrfProof := [], validatorSetHash := ""
      storageRoot := none, shardsRoot := none }
  let b := { b with txRoot := b.calculateTxRoot NodeLinks.sample.toLinked }
  { b with hash := b.calculateHash NodeLinks.sample.toLinked }

/-- A store that has saved nothing and takes nothing. -/
def fullStore : ReorgStore := ⟨{}, {}, none, none, fun _ _ => .error "no space left on device"⟩

/-- The store refuses the block, the caller gets the error, and the chain is the candidate. -/
theorem unstored_reorg_stays :
    (match (tryReorgStored .sample (some fullStore) ⟨20000, by decide⟩ (mining.chain ++ [mined])).run
        mining with
      | .error (.fail reason) bc' =>
        decide (reason = "Failed to commit durable batch: no space left on device") &&
          decide (bc'.chain = mining.chain ++ [mined])
      | _ => false) = true := by
  decide +kernel

end Blockchain

end Budlum
