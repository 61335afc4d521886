import Budlum.Chain.Blockchain
import Budlum.Lib.Trace

/-!
# Where evidence of double signing goes

The stake engine turns a second block of one producer at one height into evidence and queues it.
From there evidence moves: into a candidate block when the engine previews or prepares one, into the
queue of the node when the local evidence is drained, and from both into the blocks the node commits.

* `EvidenceNode.never_lost_iff` : when evidence survives every call of a run.
-/

namespace Budlum

/-! ### The calls that move evidence -/

/-- What the node compares to tell two pieces of evidence apart. -/
def SlashingEvidence.piece (ev : SlashingEvidence) : (String × String) × (Bytes × Bytes) :=
  ((ev.header1.hash, ev.header2.hash), (ev.signature1, ev.signature2))

namespace ConsensusEngine

/-- The evidence that waits in the engine. -/
def queued : ConsensusEngine → List SlashingEvidence
  | pos e => e.slashingEvidence
  | _ => []

def drainSlashingEvidence : ConsensusEngine → List SlashingEvidence × ConsensusEngine
  | pos e => (e.slashingEvidence, pos { e with slashingEvidence := [] })
  | engine => ([], engine)

def record (N : NodeLinks) (b : Block) : ConsensusEngine → ConsensusEngine
  | pos e => pos (recordPos N e b)
  | engine => engine

end ConsensusEngine

namespace Blockchain

variable (N : NodeLinks) (bc : Blockchain)

def verifySlashingEvidence (L : Linked) (ev : SlashingEvidence) : Bool :=
  decide (ev.header1.index = ev.header2.index) &&
    decide (ev.header1.producer = ev.header2.producer) && ev.header1.producer.isSome &&
    decide (ev.header1.hash ≠ ev.header2.hash) &&
    ev.header1.verifySignature L ev.signature1 && ev.header2.verifySignature L ev.signature2

/-- Queue evidence for the next block, unless the queue has it. -/
def submitSlashingEvidence (ev : SlashingEvidence) : EStateM String Blockchain Unit := do
  EStateM.ensure (verifySlashingEvidence N.toLinked ev) "Invalid slashing evidence"
  modify fun bc =>
    if bc.pendingSlashingEvidence.any fun existing =>
        decide (existing.header1.hash = ev.header1.hash) &&
          decide (existing.header2.hash = ev.header2.hash) &&
          decide (existing.signature1 = ev.signature1) &&
          decide (existing.signature2 = ev.signature2)
    then bc else { bc with pendingSlashingEvidence := bc.pendingSlashingEvidence ++ [ev] }

/-- Submit one piece after the other; refusals are not looked at. -/
def submitAll (evs : List SlashingEvidence) : Blockchain :=
  evs.foldl (fun bc ev => (submitSlashingEvidence N ev).final bc) bc

/-- Move the engine's evidence into the queue of the node; all of it, to be sent to the peers. -/
def drainLocalSlashingEvidence : List SlashingEvidence × Blockchain :=
  let (evidence, engine) := bc.consensus.drainSlashingEvidence
  let bc := { bc with consensus := engine }.submitAll N evidence
  (evidence ++ bc.pendingSlashingEvidence, bc)

/-- The part of `produce_block` before the commit: a block, the state after it and the content of the
tokens it burns. -/
def assembleBlock (now : U128) (producer : Address) :
    EStateM (Fault String) Blockchain (Block × AccountState × List ContentId) := do
  let draft ← EStateM.orThrow ((← get).draftBlock N now producer) .panic
  let bc ← get
  let b ← withConsensus (ConsensusEngine.previewBlockWithChain N draft bc.state bc.chain)
  let burned := bc.state.collectNftBurnCidsFromState N.toLinked b
  let s ← EStateM.ofExcept (bc.state.applyBlockEffects N.toLinked bc.executionDomain b bc.chain)
  let s := bc.withBlockRoots N s
  let b ← withConsensus (ConsensusEngine.prepareBlockWithChain N (bc.sealBlock N b s) bc.state bc.chain)
  EStateM.ofExcept ((← get).consensus.fullValidate N now b bc.chain bc.state)
  return (b, s, burned)

/-- `produce_block` with the outcome of the durable commit: a block that cannot be stored is given
up. -/
def produceBlockStoring (stored : Bool) (now : U128) (producer : Address) :
    EStateM (Fault String) Blockchain (Block × List ContentId) := do
  let (b, s, burned) ← assembleBlock N now producer
  EStateM.ensure stored (.fail s!"Failed to commit block {b.index} durably")
  modify fun bc => { bc.commitBlock N b s with
    pendingSlashingEvidence := if b.slashingEvidence.isSome then [] else bc.pendingSlashingEvidence }
  return (b, burned)

end Blockchain

/-! ### What the engine does with its queue -/

namespace ConsensusEngine

variable {N : NodeLinks} {e : PoSEngine} {b : Block} {s : AccountState} {chain : List Block}

/-- A preview of the block gets as far as the evidence, and the block has none yet. -/
def takesEvidence (b : Block) (s : AccountState) : ConsensusEngine → Bool
  | pos e => decide (e.epochLength ≠ 0) && s.getTotalStake.isSome && b.slashingEvidence.isNone
  | _ => false

/-- The stake engine after it was shown a candidate block. -/
def shown (b : Block) (s : AccountState) (e : PoSEngine) : PoSEngine :=
  if (pos e).takesEvidence b s then { e with slashingEvidence := [] } else e

/-- The evidence of a candidate block once the engine has seen it. -/
def carried (b : Block) (s : AccountState) (e : PoSEngine) : Option (List SlashingEvidence) :=
  if (pos e).takesEvidence b s ∧ e.slashingEvidence ≠ [] then some e.slashingEvidence
  else b.slashingEvidence

theorem shown_eq (hepoch : e.epochLength ≠ 0) (htotal : s.getTotalStake.isSome) :
    (if (b.slashingEvidence.isNone && !e.slashingEvidence.isEmpty) = true
      then { e with slashingEvidence := [] } else e) = shown b s e := by
  simp only [shown, takesEvidence, htotal]
  cases hqueue : e.slashingEvidence with
  | nil => cases e; cases hqueue; simp
  | cons ev evs => simp [hepoch]

theorem shown_of_not_takes (h : ¬(pos e).takesEvidence b s = true) : e = shown b s e := by
  rw [shown, if_neg h]

open EStateM in
/-- The queue is emptied before anything of the validator set is looked at, and a block that comes
out carries what was in it. -/
theorem previewPos_ends (N : NodeLinks) (b : Block) (s : AccountState) (chain : List Block)
    (e : PoSEngine) : (previewPos N b s chain).Ends e
      (fun b' e' => b'.slashingEvidence = carried b s e ∧ e' = shown b s e)
      fun _ e' => e' = shown b s e := by
  refine Ends.get_bind <| Ends.ensure_bind (fun hepoch => shown_of_not_takes ?_) fun hepoch =>
    Ends.orThrow_bind (fun htotal => shown_of_not_takes ?_) fun total htotal => Ends.set_bind ?_
  · simp [takesEvidence, hepoch]
  · simp [takesEvidence, htotal]
  simp only [decide_eq_true_eq] at hepoch
  have hcarried : (if (b.slashingEvidence.isNone && !e.slashingEvidence.isEmpty) = true
      then some e.slashingEvidence else b.slashingEvidence) = carried b s e := by
    simp [carried, takesEvidence, hepoch, htotal]
  rw [shown_eq (b := b) hepoch (htotal.symm ▸ rfl : s.getTotalStake.isSome)]
  -- from here on the engine is only read
  refine Ends.ensure_bind (fun _ => rfl) fun _ => Ends.orThrow_bind (fun _ => rfl) fun keys _ =>
    Ends.orThrow_bind (fun _ => rfl) fun v _ => Ends.ensure_bind (fun _ => rfl) fun _ =>
    Ends.ite (fun _ => Ends.ofExcept_bind (fun _ _ => rfl) fun seed _ =>
      Ends.ensure_bind (fun _ => rfl) fun _ => Ends.pure ⟨?_, rfl⟩) fun _ => Ends.pure ⟨?_, rfl⟩
  all_goals
    rw [← hcarried]
    split <;> rfl

/-- A call that shows the block to the stake engine: whatever comes of it, the evidence is taken, and
a block that comes out carries it. -/
structure Shows (m : EStateM (Fault String) ConsensusEngine Block) (b : Block) (s : AccountState)
    (e : PoSEngine) : Prop where
  leaves : m.Leaves (pos e) fun engine => engine = pos (shown b s e)
  carries : m.Ensures (pos e) fun b' _ => b'.slashingEvidence = carried b s e

/-- The engine runs a preview on its own part and goes on with the block that comes out. -/
theorem Shows.of_preview {m : EStateM (Fault String) ConsensusEngine Block}
    {next : PoSEngine → Block → EStateM (Fault String) ConsensusEngine Block}
    (hm : m.run (pos e) = ((match (previewPos N b s chain).run e with
      | .ok b e => do set (pos e); next e b
      | .error err e => do set (pos e); throw err : EStateM (Fault String) ConsensusEngine Block)).run
        (pos e))
    (hnext : ∀ e b, (next e b).Ends (pos e)
      (fun b' engine => b'.slashingEvidence = b.slashingEvidence ∧ engine = pos e)
      fun _ engine => engine = pos e) : Shows m b s e := by
  have hends := previewPos_ends N b s chain e
  have h : m.Ends (pos e) (fun b' engine => b'.slashingEvidence = carried b s e ∧
      engine = pos (shown b s e)) fun _ engine => engine = pos (shown b s e) := by
    simp only [EStateM.Ends, EStateM.Ensures, EStateM.Fails, hm]
    cases hrun : (previewPos N b s chain).run e with
    | ok b' e' =>
      obtain ⟨hcarried, rfl⟩ := hends.1 b' e' hrun
      exact EStateM.Ends.set_bind ((hnext _ b').mono (fun _ _ h => ⟨h.1.trans hcarried, h.2⟩) fun _ _ h => h)
    | error err e' =>
      obtain rfl := hends.2 err e' hrun
      exact EStateM.Ends.set_bind (.throw rfl)
  exact ⟨⟨h.1.mono fun _ _ h => h.2, h.2⟩, h.1.mono fun _ _ h => h.1⟩

theorem shows_previewBlockWithChain (N : NodeLinks) (b : Block) (s : AccountState)
    (chain : List Block) (e : PoSEngine) : Shows (previewBlockWithChain N b s chain) b s e :=
  .of_preview rfl fun _ _ => .pure ⟨rfl, rfl⟩

theorem slashingEvidence_signPos {b' : Block} (h : signPos N e b = .ok b') :
    b'.slashingEvidence = b.slashingEvidence := by
  simp only [signPos] at h
  split at h
  · simp only [Block.signWithSigner, Except.ok_iff] at h
    obtain ⟨_, _, rfl⟩ := h
    rfl
  · split at h
    · split_ifs at h
      cases h
      rfl
    · cases h

theorem shows_prepareBlockWithChain (N : NodeLinks) (b : Block) (s : AccountState)
    (chain : List Block) (e : PoSEngine) : Shows (prepareBlockWithChain N b s chain) b s e :=
  .of_preview rfl fun _ _ => ⟨EStateM.ensures_ofExcept.2 fun _ h =>
    ⟨slashingEvidence_signPos (Except.orFail_eq_ok.1 h), rfl⟩, EStateM.fails_ofExcept.2 fun _ _ => rfl⟩

/-- Once a candidate has been shown to the engine, showing it again moves nothing. -/
theorem shown_shown {b' : Block} (h : b'.slashingEvidence = carried b s e) :
    shown b' s (shown b s e) = shown b s e ∧ carried b' s (shown b s e) = carried b s e := by
  by_cases htakes : (pos e).takesEvidence b s = true
  · have hempty : (shown b s e).slashingEvidence = [] := by rw [shown, if_pos htakes]
    refine ⟨?_, ?_⟩
    · rw [shown]
      split
      · rw [shown, if_pos htakes]
      · rfl
    · rw [carried, hempty, if_neg (by simp), h]
  · have hidle : shown b s e = e := by rw [shown, if_neg htakes]
    have hsame : b'.slashingEvidence = b.slashingEvidence := by
      rw [h, carried, if_neg (fun hc => htakes hc.1)]
    have hagain : ¬(pos e).takesEvidence b' s = true := by
      simpa only [takesEvidence, hsame] using htakes
    rw [hidle]
    refine ⟨by rw [shown, if_neg hagain], ?_⟩
    rw [carried, if_neg (fun hc => hagain hc.1), h]

end ConsensusEngine

namespace Blockchain

open ConsensusEngine

variable {N : NodeLinks} {bc : Blockchain} {e : PoSEngine} {now : U128} {producer : Address}

/-- The node once its engine has been shown the draft. -/
abbrev withShown (bc : Blockchain) (draft : Block) (e : PoSEngine) : Blockchain :=
  { bc with consensus := pos (shown draft bc.state e) }

/-- A node with the stake engine after it tried to produce a block. -/
def afterAttempt (N : NodeLinks) (bc : Blockchain) (e : PoSEngine) (now : U128)
    (producer : Address) : Blockchain :=
  match bc.draftBlock N now producer with
  | none => bc
  | some draft => bc.withShown draft e

section Shows

variable {m : EStateM (Fault String) ConsensusEngine Block} {b : Block} {s : AccountState}

theorem withConsensus_ends (h : Shows m b s e) (he : bc.consensus = pos e) :
    (withConsensus m).Ends bc
      (fun b' bc' =>
        b'.slashingEvidence = carried b s e ∧ bc' = { bc with consensus := pos (shown b s e) })
      fun _ bc' => bc' = { bc with consensus := pos (shown b s e) } := by
  refine .zoom (he.symm ▸ ⟨(h.carries.and h.leaves.1).mono ?_, fun err _ hrun => ?_⟩)
  · rintro b' _ ⟨hcarried, rfl⟩
    exact ⟨hcarried, rfl⟩
  · obtain rfl := h.leaves.2 err _ hrun
    rfl

theorem withConsensus_leaves (h : Shows m b s e) (he : bc.consensus = pos e) :
    (withConsensus m).Leaves bc fun bc' => bc' = { bc with consensus := pos (shown b s e) } :=
  ⟨(withConsensus_ends h he).1.mono fun _ _ h => h.2, (withConsensus_ends h he).2⟩

end Shows

theorem afterAttempt_of_draft {draft : Block} (h : bc.draftBlock N now producer = some draft) :
    bc.afterAttempt N e now producer = bc.withShown draft e := by rw [afterAttempt, h]

/-- Everything that block production does to the node before the commit is to show the draft to the
engine. -/
theorem assembleBlock_ends (he : bc.consensus = pos e) :
    (assembleBlock N now producer).Ends bc
      (fun out bc' => ∃ draft, bc.draftBlock N now producer = some draft ∧
        out.1.slashingEvidence = carried draft bc.state e ∧ bc' = bc.withShown draft e)
      fun _ bc' => bc' = bc.afterAttempt N e now producer := by
  refine .get_bind <| .orThrow_bind (fun hdraft => by rw [afterAttempt, hdraft]) fun draft hdraft => ?_
  rw [afterAttempt_of_draft hdraft]
  refine .get_bind <| .bind
    (withConsensus_ends (shows_previewBlockWithChain N draft bc.state bc.chain e) he) ?_
  rintro previewed _ ⟨hcarried, rfl⟩
  refine .ofExcept_bind (fun _ _ => rfl) fun s _ => ?_
  -- the second showing finds the queue as the first one left it
  obtain ⟨hagain, hkept⟩ : shown (bc.sealBlock N previewed (bc.withBlockRoots N s)) bc.state
      (shown draft bc.state e) = shown draft bc.state e ∧ _ := shown_shown hcarried
  have hprepare := withConsensus_ends (shows_prepareBlockWithChain N
    (bc.sealBlock N previewed (bc.withBlockRoots N s)) bc.state bc.chain (shown draft bc.state e))
    (rfl : (bc.withShown draft e).consensus = _)
  rw [hagain, hkept] at hprepare
  refine .bind hprepare ?_
  rintro b _ ⟨hb, rfl⟩
  exact .get_bind <| .ofExcept_bind (fun _ _ => rfl) fun _ _ => .pure ⟨draft, hdraft, hb, rfl⟩

/-- The node after it committed a block of its own. -/
def withCommitted (N : NodeLinks) (bc : Blockchain) (b : Block) (s : AccountState) : Blockchain :=
  { bc.commitBlock N b s with
    pendingSlashingEvidence := if b.slashingEvidence.isSome then [] else bc.pendingSlashingEvidence }

theorem produceBlockStoring_ends (stored : Bool) (he : bc.consensus = pos e) :
    (produceBlockStoring N stored now producer).Ends bc
      (fun out bc' => ∃ draft s, bc.draftBlock N now producer = some draft ∧
        out.1.slashingEvidence = carried draft bc.state e ∧
        bc' = (bc.withShown draft e).withCommitted N out.1 s)
      fun _ bc' => bc' = bc.afterAttempt N e now producer := by
  refine (assembleBlock_ends he).bind ?_
  rintro ⟨b, s, burned⟩ _ ⟨draft, hdraft, hcarried, rfl⟩
  exact .ensure_bind (fun _ => (afterAttempt_of_draft hdraft).symm) fun _ => .modify_bind <|
    .pure ⟨draft, s, hdraft, hcarried, rfl⟩

end Blockchain

/-! ### Recording and pruning -/

namespace ConsensusEngine

variable {N : NodeLinks} {e : PoSEngine} {b : Block}

/-- The evidence that recording a block creates. -/
def doubleSigns (N : NodeLinks) (b : Block) : ConsensusEngine → List SlashingEvidence
  | pos e =>
    match b.producer with
    | none => []
    | some producer =>
      if e.epochLength = 0 then []
      else match e.seenBlocks.get (toLex (producer, b.index)) with
        | none => []
        | some (seen, seenSignature) =>
          if seen.hash = b.hash then []
          else [⟨seen, BlockHeader.fromBlock N.toLinked b, seenSignature, b.signature.getD []⟩]
  | _ => []

theorem slashingEvidence_recordPos :
    (recordPos N e b).slashingEvidence = e.slashingEvidence ++ (pos e).doubleSigns N b := by
  simp only [recordPos, doubleSigns]
  cases b.producer with
  | none => simp
  | some producer =>
    by_cases hepoch : e.epochLength = 0
    · simp [hepoch]
    simp only [hepoch, if_false]
    cases e.seenBlocks.get (toLex (producer, b.index)) with
    | none => simp
    | some seen =>
      by_cases hsame : seen.1.hash = b.hash
      · simp [BlockHeader.fromBlock, hsame]
      · simp [BlockHeader.fromBlock, hsame]

@[simp] theorem doubleSigns_shown {draft : Block} {s : AccountState} :
    (pos (shown draft s e)).doubleSigns N b = (pos e).doubleSigns N b := by
  simp only [shown]
  split_ifs <;> rfl

/-- The commit of the block drops the evidence as too old. -/
def tooOldAt (chainId : UInt64) (b : Block) (ev : SlashingEvidence) : Bool :=
  decide (0 < b.index) && decide (b.index % epochLenForChainId chainId = 0) &&
    decide (ev.header1.index < b.index.saturatingSub 1000)

/-- The commit of a block keeps what is not too old of the queue and the new evidence. -/
theorem queued_recordBlock (chainId : UInt64) (chain : List Block) :
    ∃ e', (pos e).recordBlock N chainId b chain = pos e' ∧ e'.slashingEvidence =
      (e.slashingEvidence ++ (pos e).doubleSigns N b).filter fun ev => !tooOldAt chainId b ev := by
  obtain ⟨seed, hseed⟩ : ∃ seed, (pos e).recordWithChain N b chain = pos { e with epochSeed := seed } := by
    simp only [recordWithChain]
    split
    · exact ⟨e.epochSeed, rfl⟩
    · split
      · exact ⟨_, rfl⟩
      · exact ⟨e.epochSeed, rfl⟩
  have hrecord : (recordPos N { e with epochSeed := seed } b).slashingEvidence =
      e.slashingEvidence ++ (pos e).doubleSigns N b := slashingEvidence_recordPos
  simp only [recordBlock, hseed]
  split_ifs with hprune
  · refine ⟨_, rfl, ?_⟩
    simp [hrecord, tooOldAt, hprune, ← decide_not]
  · refine ⟨_, rfl, ?_⟩
    have hnone : ∀ ev, tooOldAt chainId b ev = false := fun ev => by
      simpa [tooOldAt] using fun hpos hepoch => absurd ⟨hpos, hepoch⟩ hprune
    simp [hrecord, hnone]

end ConsensusEngine

/-! ### What the node's own queue holds -/

namespace Blockchain

variable {N : NodeLinks} {bc : Blockchain} {p : (String × String) × (Bytes × Bytes)}

def pieces (evs : List SlashingEvidence) : List ((String × String) × (Bytes × Bytes)) :=
  evs.map SlashingEvidence.piece

theorem mem_pieces_of_mem {evs : List SlashingEvidence} {ev : SlashingEvidence} (h : ev ∈ evs) :
    ev.piece ∈ pieces evs := List.mem_map_of_mem h

/-- Submitting touches the node's queue only. -/
theorem submitSlashingEvidence_final (ev : SlashingEvidence) :
    (submitSlashingEvidence N ev).final bc =
      if verifySlashingEvidence N.toLinked ev = true ∧ ev.piece ∉ pieces bc.pendingSlashingEvidence
      then { bc with pendingSlashingEvidence := bc.pendingSlashingEvidence ++ [ev] } else bc := by
  have hany : (bc.pendingSlashingEvidence.any fun existing =>
      decide (existing.header1.hash = ev.header1.hash) &&
        decide (existing.header2.hash = ev.header2.hash) &&
        decide (existing.signature1 = ev.signature1) &&
        decide (existing.signature2 = ev.signature2)) =
      decide (ev.piece ∈ pieces bc.pendingSlashingEvidence) := by
    rw [Bool.eq_iff_iff]
    simp [pieces, SlashingEvidence.piece, and_assoc]
  cases hverify : verifySlashingEvidence N.toLinked ev with
  | false => simp [submitSlashingEvidence, EStateM.final, EStateM.ensure, hverify, EStateM.run, bind,
      EStateM.bind, throw, throwThe, MonadExceptOf.throw, EStateM.throw]
  | true =>
    have hrun : (submitSlashingEvidence N ev).final bc =
        if decide (ev.piece ∈ pieces bc.pendingSlashingEvidence) = true then bc
        else { bc with pendingSlashingEvidence := bc.pendingSlashingEvidence ++ [ev] } := by
      rw [← hany]
      simp only [submitSlashingEvidence, EStateM.ensure, hverify, if_true, pure_bind]
      rfl
    by_cases hheld : ev.piece ∈ pieces bc.pendingSlashingEvidence <;> simp [hrun, hheld]

/-- What the queue holds after evidence was handed to it: what it held, and what the node accepts. -/
theorem mem_pieces_submitAll (bc : Blockchain) (evs : List SlashingEvidence) :
    ∃ q, bc.submitAll N evs = { bc with pendingSlashingEvidence := q } ∧
      ∀ p, p ∈ pieces q ↔ p ∈ pieces bc.pendingSlashingEvidence ∨
        ∃ ev ∈ evs, verifySlashingEvidence N.toLinked ev = true ∧ ev.piece = p := by
  induction evs generalizing bc with
  | nil => exact ⟨bc.pendingSlashingEvidence, rfl, by simp⟩
  | cons ev evs ih =>
    have hcons : bc.submitAll N (ev :: evs) =
      ((submitSlashingEvidence N ev).final bc).submitAll N evs := rfl
    rw [hcons, submitSlashingEvidence_final]
    split_ifs with hnew
    · obtain ⟨q, hq, hmem⟩ :=
        ih { bc with pendingSlashingEvidence := bc.pendingSlashingEvidence ++ [ev] }
      refine ⟨q, hq, fun p => ?_⟩
      rw [hmem]
      simp only [pieces, List.map_append, List.map_cons, List.map_nil, List.mem_append,
        List.mem_singleton, List.exists_mem_cons_iff, hnew.1, true_and, or_assoc, eq_comm (a := p)]
    · obtain ⟨q, hq, hmem⟩ := ih bc
      refine ⟨q, hq, fun p => ?_⟩
      rw [hmem, List.exists_mem_cons_iff]
      constructor
      · rintro (h | h)
        exacts [.inl h, .inr (.inr h)]
      · rintro (h | ⟨hverify, rfl⟩ | h)
        · exact .inl h
        · exact .inl (not_not.1 fun hfree => hnew ⟨hverify, hfree⟩)
        · exact .inr h

end Blockchain

/-! ### Runs -/

/-- The calls on a node that create or move evidence. -/
inductive EvidenceCall where
  | record (b : Block)
  | preview (b : Block) (s : AccountState) (chain : List Block)
  | prepare (b : Block) (s : AccountState) (chain : List Block)
  /-- `stored` says whether the durable commit went through. -/
  | produce (stored : Bool) (now : U128) (producer : Address)
  | submit (ev : SlashingEvidence)
  | drain

/-- A node, and the evidence that recording blocks has created on it so far. -/
structure EvidenceNode where
  bc : Blockchain
  created : List SlashingEvidence

namespace EvidenceNode

open Blockchain ConsensusEngine

variable (N : NodeLinks) (n : EvidenceNode)

/-- A node with the stake engine.  What waits in the engine was created before. -/
def start (bc : Blockchain) (e : PoSEngine) : EvidenceNode :=
  ⟨{ bc with consensus := pos e }, e.slashingEvidence⟩

def step : EvidenceCall → EvidenceNode → EvidenceNode
  | .record b, n => ⟨{ n.bc with consensus := n.bc.consensus.record N b },
      n.created ++ n.bc.consensus.doubleSigns N b⟩
  | .preview b s chain, n =>
    { n with bc := (withConsensus (previewBlockWithChain N b s chain)).final n.bc }
  | .prepare b s chain, n =>
    { n with bc := (withConsensus (prepareBlockWithChain N b s chain)).final n.bc }
  | .produce stored now producer, n =>
    match (produceBlockStoring N stored now producer).run n.bc with
    -- the commit records the block
    | .ok (b, _) bc => ⟨bc, n.created ++ n.bc.consensus.doubleSigns N b⟩
    | .error _ bc => { n with bc := bc }
  | .submit ev, n => { n with bc := (submitSlashingEvidence N ev).final n.bc }
  | .drain, n => { n with bc := (n.bc.drainLocalSlashingEvidence N).2 }

def committed (bc : Blockchain) : List SlashingEvidence :=
  bc.chain.flatMap fun b => b.slashingEvidence.getD []

/-- The evidence is in the node's queue or in a committed block, or a committed block was past its
horizon. -/
def AccountedFor (bc : Blockchain) (ev : SlashingEvidence) : Prop :=
  ev.piece ∈ pieces (bc.pendingSlashingEvidence ++ committed bc) ∨
    ∃ b ∈ bc.chain, tooOldAt bc.chainId b ev = true

def NoneLost : Prop :=
  ∀ ev ∈ n.created, ev ∈ n.bc.consensus.queued ∨ AccountedFor n.bc ev

instance : Decidable n.NoneLost :=
  inferInstanceAs (Decidable (∀ ev ∈ n.created, _ ∨ _ ∨ ∃ b ∈ _, _ = true))

/-- The call does not drop evidence: a candidate block that takes evidence is committed, and evidence
that is drained is evidence the node accepts.  Evidence that is accounted for already may go. -/
def Careful : EvidenceCall → EvidenceNode → Prop
  | .record _, _ => True
  | .preview b s _, n | .prepare b s _, n => n.bc.consensus.takesEvidence b s = true →
      ∀ ev ∈ n.bc.consensus.queued, AccountedFor n.bc ev
  | .produce stored now producer, n =>
    (produceBlockStoring N stored now producer).succeeds n.bc = false →
      ∀ draft, n.bc.draftBlock N now producer = some draft →
        n.bc.consensus.takesEvidence draft n.bc.state = true →
          ∀ ev ∈ n.bc.consensus.queued, AccountedFor n.bc ev
  | .submit _, _ => True
  | .drain, n => ∀ ev ∈ n.bc.consensus.queued, AccountedFor n.bc ev ∨
      ∃ ev' ∈ n.bc.consensus.queued,
        verifySlashingEvidence N.toLinked ev' = true ∧ ev'.piece = ev.piece

variable {N} {n} {e : PoSEngine}

/-- The engine is the stake engine, and what waits in it was created on this node. -/
def Recorded (n : EvidenceNode) : Prop :=
  ∃ e, n.bc.consensus = pos e ∧ e.slashingEvidence ⊆ n.created

theorem mem_committed {bc : Blockchain} {ev : SlashingEvidence} :
    ev ∈ committed bc ↔ ∃ b ∈ bc.chain, ev ∈ b.slashingEvidence.getD [] := List.mem_flatMap

/-- Where the engine is shown a block, what it held must be accounted for elsewhere. -/
theorem noneLost_shown (he : n.bc.consensus = pos e) (hcreated : e.slashingEvidence ⊆ n.created)
    (h : n.NoneLost) (b : Block) (s : AccountState) :
    NoneLost { n with bc := { n.bc with consensus := pos (shown b s e) } } ↔
      (n.bc.consensus.takesEvidence b s = true →
        ∀ ev ∈ n.bc.consensus.queued, AccountedFor n.bc ev) := by
  rw [he]
  by_cases htakes : (pos e).takesEvidence b s = true
  · simp only [htakes, forall_true_left, NoneLost, shown, if_true, queued, List.not_mem_nil, false_or]
    constructor
    · intro hafter ev hev
      exact hafter ev (hcreated hev)
    · intro hqueue ev hev
      rcases h ev hev with hheld | hheld
      · rw [he] at hheld
        exact hqueue ev hheld
      · exact hheld
  · simp only [htakes, Bool.false_eq_true, false_imp_iff, iff_true, shown, if_false]
    rwa [← he]

theorem shown_subset (b : Block) (s : AccountState) :
    (shown b s e).slashingEvidence ⊆ e.slashingEvidence := by
  simp only [shown]
  split_ifs
  · exact List.nil_subset _
  · exact List.Subset.refl _

/-- The commit of a block leaves the chain with it, and a queue without what it was past the horizon
of. -/
theorem withCommitted_spec (bc : Blockchain) (draft b : Block) (s : AccountState) :
    ∃ e', ((withShown bc draft e).withCommitted N b s).consensus = pos e' ∧
      e'.slashingEvidence = ((shown draft bc.state e).slashingEvidence ++
        (pos e).doubleSigns N b).filter (fun ev => !tooOldAt bc.chainId b ev) ∧
      ((withShown bc draft e).withCommitted N b s).chain = bc.chain ++ [b] ∧
      ((withShown bc draft e).withCommitted N b s).chainId = bc.chainId := by
  obtain ⟨e', hrecord, hqueue⟩ := queued_recordBlock (N := N) (e := shown draft bc.state e)
    (b := b) bc.chainId (bc.chain ++ [b])
  rw [doubleSigns_shown] at hqueue
  exact ⟨e', hrecord, hqueue, rfl, rfl⟩

/-- The evidence a draft starts with is the node's queue. -/
theorem slashingEvidence_draftBlock {bc : Blockchain} {now : U128} {producer : Address}
    {draft : Block} (h : bc.draftBlock N now producer = some draft) :
    draft.slashingEvidence = if bc.pendingSlashingEvidence.isEmpty then none
      else some bc.pendingSlashingEvidence := by
  simp only [draftBlock, Option.bind_eq_bind, Option.bind_eq_some_iff, Option.pure_def] at h
  obtain ⟨_, _, h⟩ := h
  split at h
  · cases h
    rfl
  · cases h

section Commit

variable {bc : Blockchain} {draft b : Block} {ev : SlashingEvidence} {now : U128}
  {producer : Address}

/-- A block that empties the node's queue carries it. -/
theorem carried_of_pending (hdraft : bc.draftBlock N now producer = some draft)
    (hpending : bc.pendingSlashingEvidence ≠ []) :
    carried draft bc.state e = some bc.pendingSlashingEvidence := by
  have hstart := slashingEvidence_draftBlock hdraft
  rw [if_neg (by simpa using hpending)] at hstart
  simp [carried, takesEvidence, hstart]

theorem accountedFor_of_mem {b : Block} (hb : b ∈ bc.chain) {evs : List SlashingEvidence}
    (hevs : b.slashingEvidence = some evs) (hev : ev.piece ∈ pieces evs) : AccountedFor bc ev := by
  refine .inl ?_
  simp only [pieces, List.map_append, List.mem_append, List.mem_map] at hev ⊢
  obtain ⟨ev', hev', hpiece⟩ := hev
  exact .inr ⟨ev', mem_committed.2 ⟨b, hb, by rwa [hevs]⟩, hpiece⟩

/-- What was accounted for stays so over the commit of a block of the node. -/
theorem accountedFor_withCommitted (s : AccountState)
    (hdraft : bc.draftBlock N now producer = some draft)
    (hcarried : b.slashingEvidence = carried draft bc.state e) (h : AccountedFor bc ev) :
    AccountedFor ((withShown bc draft e).withCommitted N b s) ev := by
  obtain ⟨e', -, -, hchain, hid⟩ := withCommitted_spec (N := N) (e := e) bc draft b s
  have hold : ∀ {b'}, b' ∈ bc.chain → b' ∈ ((withShown bc draft e).withCommitted N b s).chain :=
    fun hb' => by rw [hchain]; exact List.mem_append_left _ hb'
  rcases h with h | ⟨b', hb', hb'old⟩
  · simp only [pieces, List.map_append, List.mem_append] at h
    rcases h with h | h
    · have hfull : bc.pendingSlashingEvidence ≠ [] := by rintro hnil; simp [hnil] at h
      refine accountedFor_of_mem (b := b) (by rw [hchain]; simp) ?_ h
      rw [hcarried, carried_of_pending hdraft hfull]
    · obtain ⟨ev', hev', hpiece⟩ := List.mem_map.1 h
      obtain ⟨b', hb', hev'⟩ := mem_committed.1 hev'
      cases hevs : b'.slashingEvidence with
      | none => simp [hevs] at hev'
      | some evs =>
        rw [hevs] at hev'
        exact accountedFor_of_mem (hold hb') hevs (hpiece ▸ mem_pieces_of_mem hev')
  · refine .inr ⟨b', hold hb', ?_⟩
    rwa [hid]

/-- What waited in the engine or is new waits on, or is in the block, or is past its horizon. -/
theorem queued_withCommitted (s : AccountState)
    (hcarried : b.slashingEvidence = carried draft bc.state e)
    (h : ev ∈ e.slashingEvidence ++ (pos e).doubleSigns N b) :
    ev ∈ ((withShown bc draft e).withCommitted N b s).consensus.queued ∨
      AccountedFor ((withShown bc draft e).withCommitted N b s) ev := by
  obtain ⟨e', he', hqueue, hchain, hid⟩ := withCommitted_spec (N := N) (e := e) bc draft b s
  have hb : b ∈ ((withShown bc draft e).withCommitted N b s).chain := by rw [hchain]; simp
  by_cases hold : tooOldAt bc.chainId b ev = true
  · exact .inr (.inr ⟨b, hb, by rw [hid]; exact hold⟩)
  by_cases htaken : (pos e).takesEvidence draft bc.state = true ∧ ev ∈ e.slashingEvidence
  · refine .inr (accountedFor_of_mem hb ?_ (mem_pieces_of_mem htaken.2))
    rw [hcarried, carried, if_pos ⟨htaken.1, List.ne_nil_of_mem htaken.2⟩]
  · refine .inl ?_
    rw [he', queued, hqueue, List.mem_filter]
    refine ⟨?_, by simpa using hold⟩
    rcases List.mem_append.1 h with h | h
    · have hidle : shown draft bc.state e = e := by rw [shown, if_neg fun ht => htaken ⟨ht, h⟩]
      rw [hidle]
      exact List.mem_append_left _ h
    · exact List.mem_append_right _ h

end Commit

/-- The call keeps the engine's queue inside what was created, and loses nothing exactly if it is
careful. -/
structure Settles (N : NodeLinks) (call : EvidenceCall) (n : EvidenceNode) : Prop where
  recorded : (step N call n).Recorded
  noneLost_iff : n.NoneLost → ((step N call n).NoneLost ↔ Careful N call n)

section Calls

variable (he : n.bc.consensus = pos e) (hcreated : e.slashingEvidence ⊆ n.created) (b : Block)

include he hcreated

theorem settles_record : Settles N (.record b) n := by
  have hstep : step N (.record b) n =
      ⟨{ n.bc with consensus := pos (recordPos N e b) }, n.created ++ (pos e).doubleSigns N b⟩ := by
    simp [step, he, record]
  have hqueue := slashingEvidence_recordPos (N := N) (e := e) (b := b)
  constructor
  · rw [hstep]
    refine ⟨_, rfl, ?_⟩
    rw [hqueue]
    exact List.append_subset.2 ⟨List.subset_append_of_subset_left _ hcreated,
      List.subset_append_right _ _⟩
  · intro h
    refine iff_of_true ?_ trivial
    rw [hstep]
    intro ev hev
    simp only [queued, hqueue, List.mem_append]
    rcases List.mem_append.1 hev with hev | hev
    · rcases h ev hev with hheld | hheld
      · rw [he] at hheld
        exact .inl (.inl hheld)
      · exact .inr hheld
    · exact .inl (.inr hev)

/-- A call that comes down to showing the engine a block. -/
theorem settles_shown {call : EvidenceCall} (s : AccountState)
    (hstep : step N call n = { n with bc := { n.bc with consensus := pos (shown b s e) } })
    (hcareful : Careful N call n ↔ (n.bc.consensus.takesEvidence b s = true →
      ∀ ev ∈ n.bc.consensus.queued, AccountedFor n.bc ev)) : Settles N call n := by
  constructor
  · rw [hstep]
    exact ⟨_, rfl, List.Subset.trans (shown_subset b s) hcreated⟩
  · intro h
    rw [hstep, hcareful]
    exact noneLost_shown he hcreated h b s

theorem settles_preview (s : AccountState) (chain : List Block) :
    Settles N (.preview b s chain) n :=
  settles_shown he hcreated b s (congrArg (EvidenceNode.mk · n.created)
    (withConsensus_leaves (shows_previewBlockWithChain N b s chain e) he).final) Iff.rfl

theorem settles_prepare (s : AccountState) (chain : List Block) :
    Settles N (.prepare b s chain) n :=
  settles_shown he hcreated b s (congrArg (EvidenceNode.mk · n.created)
    (withConsensus_leaves (shows_prepareBlockWithChain N b s chain e) he).final) Iff.rfl

/-- A block that comes out takes along all the evidence that leaves a queue. -/
theorem settles_produced {stored : Bool} {now : U128} {producer : Address}
    {out : Block × List ContentId} {bc' : Blockchain}
    (hrun : (produceBlockStoring N stored now producer).run n.bc = .ok out bc') :
    Settles N (.produce stored now producer) n := by
  obtain ⟨draft, s, hdraft, hcarried, rfl⟩ := (produceBlockStoring_ends stored he).1 _ _ hrun
  have hstep : step N (.produce stored now producer) n =
      ⟨(n.bc.withShown draft e).withCommitted N out.1 s,
        n.created ++ (pos e).doubleSigns N out.1⟩ := by
    simp [step, hrun, he]
  constructor
  · obtain ⟨e', he', hqueue, -⟩ := withCommitted_spec (N := N) (e := e) n.bc draft out.1 s
    rw [hstep]
    refine ⟨e', he', ?_⟩
    rw [hqueue]
    refine List.Subset.trans (List.filter_subset_self _) (List.append_subset.2 ⟨?_, ?_⟩)
    · exact List.subset_append_of_subset_left _
        (List.Subset.trans (shown_subset draft n.bc.state) hcreated)
    · exact List.subset_append_right _ _
  · intro h
    refine iff_of_true ?_ fun hfails => ?_
    · rw [hstep]
      intro ev hev
      rcases List.mem_append.1 hev with hev | hev
      · rcases h ev hev with hheld | hheld
        · rw [he] at hheld
          exact queued_withCommitted s hcarried (List.mem_append_left _ hheld)
        · exact .inr (accountedFor_withCommitted s hdraft hcarried hheld)
      · exact queued_withCommitted s hcarried (List.mem_append_right _ hev)
    · simp [EStateM.succeeds, hrun] at hfails

theorem settles_produce (stored : Bool) (now : U128) (producer : Address) :
    Settles N (.produce stored now producer) n := by
  cases hrun : (produceBlockStoring N stored now producer).run n.bc with
  | ok out bc' => exact settles_produced he hcreated hrun
  | error err bc' =>
    obtain rfl := (produceBlockStoring_ends stored he).2 _ _ hrun
    have hfails : (produceBlockStoring N stored now producer).succeeds n.bc = false := by
      simp [EStateM.succeeds, hrun]
    have hstep : step N (.produce stored now producer) n =
        { n with bc := n.bc.afterAttempt N e now producer } := by
      simp [step, hrun]
    cases hdraft : n.bc.draftBlock N now producer with
    | none =>
      have hidle : step N (.produce stored now producer) n = n := by
        rw [hstep, afterAttempt, hdraft]
      have hcareful : Careful N (.produce stored now producer) n := by
        intro _ draft hsome
        simp [hdraft] at hsome
      exact ⟨hidle.symm ▸ ⟨e, he, hcreated⟩, fun h => iff_of_true (hidle.symm ▸ h) hcareful⟩
    | some draft =>
      refine settles_shown he hcreated draft n.bc.state ?_ ?_
      · rw [hstep, afterAttempt, hdraft]
      · simp only [Careful, hfails, hdraft, forall_true_left, Option.some.injEq, forall_eq']

theorem settles_submit (ev : SlashingEvidence) : Settles N (.submit ev) n := by
  obtain ⟨q, hq, hmem⟩ := mem_pieces_submitAll (N := N) n.bc [ev]
  have hstep : step N (.submit ev) n = { n with bc := { n.bc with pendingSlashingEvidence := q } } := by
    rw [← hq]
    rfl
  constructor
  · rw [hstep]
    exact ⟨e, he, hcreated⟩
  · intro h
    refine iff_of_true ?_ trivial
    rw [hstep]
    intro ev' hev'
    refine (h ev' hev').imp_right (Or.imp_left fun hheld => ?_)
    simp only [pieces, List.map_append, List.mem_append] at hheld hmem ⊢
    exact hheld.imp_left fun hpending => (hmem _).2 (.inl hpending)

theorem settles_drain : Settles N .drain n := by
  obtain ⟨q, hq, hmem⟩ := mem_pieces_submitAll (N := N)
    { n.bc with consensus := pos { e with slashingEvidence := [] } } e.slashingEvidence
  have hstep : step N .drain n = { n with bc :=
      { n.bc with consensus := pos { e with slashingEvidence := [] }, pendingSlashingEvidence := q } } := by
    simp [step, drainLocalSlashingEvidence, drainSlashingEvidence, he, hq]
  have haccounted : ∀ ev, AccountedFor (step N .drain n).bc ev ↔ AccountedFor n.bc ev ∨
      ∃ ev' ∈ e.slashingEvidence,
        verifySlashingEvidence N.toLinked ev' = true ∧ ev'.piece = ev.piece := by
    intro ev
    rw [hstep]
    simp only [pieces] at hmem
    simp only [AccountedFor, committed, pieces, List.map_append, List.mem_append, hmem]
    exact iff_of_eq (by ac_rfl)
  have hqueue : ∀ ev, ev ∉ (step N .drain n).bc.consensus.queued := by
    rw [hstep]
    exact fun ev => List.not_mem_nil
  constructor
  · rw [hstep]
    exact ⟨_, rfl, List.nil_subset _⟩
  · intro h
    simp only [Careful, he, queued]
    constructor
    · intro hafter ev hev
      have hev' : ev ∈ (step N .drain n).created := hcreated hev
      exact (haccounted ev).1 ((hafter ev hev').resolve_left (hqueue ev))
    · intro hcareful ev hev
      refine .inr ((haccounted ev).2 ?_)
      rcases h ev hev with hheld | hheld
      · rw [he] at hheld
        exact hcareful ev hheld
      · exact .inl hheld

end Calls

theorem settles_call (call : EvidenceCall) (h : n.Recorded) : Settles N call n := by
  obtain ⟨e, he, hcreated⟩ := h
  cases call with
  | record b => exact settles_record he hcreated b
  | preview b s chain => exact settles_preview he hcreated b s chain
  | prepare b s chain => exact settles_prepare he hcreated b s chain
  | produce stored now producer => exact settles_produce he hcreated stored now producer
  | submit ev => exact settles_submit he hcreated ev
  | drain => exact settles_drain he hcreated

/-- **Evidence is lost exactly where a call is careless**: a node of any state with the stake engine
loses nothing in a run of calls if and only if every candidate block that took evidence was committed
and everything that was drained is something the node accepts. -/
theorem never_lost_iff (N : NodeLinks) (calls : List EvidenceCall) (bc : Blockchain) (e : PoSEngine) :
    (∀ n ∈ Trace.states (step N) calls (start bc e), n.NoneLost) ↔
      Trace.Guarded (step N) (Careful N) calls (start bc e) := by
  refine Trace.forall_states_iff (I := Recorded) (fun call n h => (settles_call call h).recorded)
    (fun call n h => (settles_call call h).noneLost_iff) calls ?_ ?_
  · exact ⟨e, rfl, List.Subset.refl _⟩
  · exact fun ev hev => .inl hev

/-- A signed block of one producer at one height; its hash depends on the timestamp. -/
def doubleSigned (N : NodeLinks) (timestamp : U128) : Block :=
  let b := { Block.newWithChainId N.toLinked timestamp 1 zeroHash [] 1337 with
    producer := some 7, signature := some [] }
  { b with hash := b.calculateHash N.toLinked }

/-- A run in which the node, with no validator to produce for, tries to make a block: the evidence
that it had is gone. -/
def droppingRun : List EvidenceCall :=
  [.record (doubleSigned .telling 1), .record (doubleSigned .telling 2), .produce true 0 7]

/-- **Evidence can be lost**: the engine gives its evidence to a block that is never made. -/
theorem dropped_with_candidate :
    let n := Trace.final (step .telling) droppingRun (start .sample { epochLength := 10 })
    n.created.all (verifySlashingEvidence NodeLinks.telling.toLinked) = true ∧ ¬n.NoneLost := by
  decide +kernel

end EvidenceNode

end Budlum
