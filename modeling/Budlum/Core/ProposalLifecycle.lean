import Budlum.Core.Governance

/-!
# The life of a proposal

Every change of the proposal list is logged: a proposal opens, its vote closes with the tally it
has then, it is handed to execution.  Block application and the epoch hook both hand proposals
over, at whatever epochs the caller names.

* `Lifecycle.inv_run`: **the log of one proposal is its life so far**, in order: opened, then
  closed, then handed over.
* `Lifecycle.handed_once_after_delay`: no proposal is handed over twice, and one that is was
  closed by a passing tally and has waited out the delay of its kind.

The idea is that each step rewrites the proposals one by one (`Rewrite`), so that what a step does
to a proposal and what it logs about it can be checked for that proposal alone.
-/

namespace Budlum

open GovernanceState

/-- One entry of the log. -/
inductive ProposalRecord where
  | opened (p : Proposal)
  /-- The vote on the proposal was closed; `p` carries the final tally. -/
  | closed (p : Proposal) (totalStake quorumPct epoch : UInt64)
  /-- The proposal was handed to execution. -/
  | handed (p : Proposal) (epoch : UInt64)
  deriving DecidableEq

namespace ProposalRecord

/-- The proposal as it was when the entry was made. -/
def proposal : ProposalRecord → Proposal
  | opened p | closed p _ _ _ | handed p _ => p

/-- The entry hands the proposal `id` to execution. -/
def hands (id : UInt64) : ProposalRecord → Bool
  | handed p _ => decide (p.id = id)
  | _ => false

/-- The entry closes the vote on the proposal `id`. -/
def closes (id : UInt64) : ProposalRecord → Bool
  | closed p _ _ _ => decide (p.id = id)
  | _ => false

/-- The entry is about the proposal `id`. -/
def isAbout (id : UInt64) (r : ProposalRecord) : Bool := decide (r.proposal.id = id)

/-- The entry closes a vote with a passing tally. -/
def closesPassing : ProposalRecord → Bool
  | closed p totalStake quorumPct _ =>
    Proposal.tallyPasses p.votesFor p.votesAgainst totalStake quorumPct
  | _ => false

end ProposalRecord

/-- What callers do to proposals. -/
inductive ProposalStep where
  | create (proposer : Address) (pType : ProposalType) (epoch duration : UInt64)
  | addVote (id : UInt64) (voter : Address) (stake : UInt64) (voteFor : Bool) (epoch : UInt64)
  | reduceVoteWeight (id : UInt64) (voter : Address) (reduction : UInt64)
  | cancel (id : UInt64) (caller : Address)
  | finalize (id : UInt64) (totalStake quorumPct epoch : UInt64)
  /-- `execute_passed_proposals`, called by block application. -/
  | executeBlock (epoch : UInt64)
  /-- The epoch hook: close every vote that is due, then execute what has passed. -/
  | executeEpoch (totalStake quorumPct epoch : UInt64)

namespace GovernanceState

/-- The vote on `p` is open and its end has come. -/
def isDue (epoch : UInt64) (p : Proposal) : Bool :=
  decide (p.status = .active ∧ p.endEpoch ≤ epoch)

/-- One step, with the entries it logs. -/
def step (g : GovernanceState) : ProposalStep → GovernanceState × List ProposalRecord
  | .create proposer pType epoch duration =>
    match (createProposal proposer pType epoch duration).run g with
    | .ok _ g' => (g', g'.proposals.getLast?.toList.map .opened)
    | .error _ g' => (g', [])
  | .addVote id voter stake voteFor epoch =>
    match g.castVote id voter stake voteFor epoch with
    | .ok g' => (g', [])
    | .error _ => (g, [])
  | .reduceVoteWeight id voter reduction =>
    (g.updateProposal id (·.reduceVoteWeight voter reduction), [])
  | .cancel id caller =>
    match g.cancelProposal id caller with
    | .ok g' => (g', [])
    | .error _ => (g, [])
  | .finalize id totalStake quorumPct epoch =>
    (g.updateProposal id (·.finalize totalStake quorumPct epoch),
      ((g.findProposal id).filter (isDue epoch)).toList.map (.closed · totalStake quorumPct epoch))
  | .executeBlock epoch =>
    ((g.executePassedProposals epoch).2, (g.proposals.filter (emitsAction epoch)).map (.handed · epoch))
  | .executeEpoch totalStake quorumPct epoch =>
    let g' := g.finalizeDue totalStake quorumPct epoch
    let chosen := g'.executable epoch
    (chosen.foldl (fun g p => g.markExecuted p.id) g',
      (g.proposals.filter (isDue epoch)).map (.closed · totalStake quorumPct epoch) ++
        chosen.map (.handed · epoch))

end GovernanceState

/-- The governance state with the log so far. -/
structure Lifecycle where
  gov : GovernanceState := {}
  log : List ProposalRecord := []

namespace Lifecycle

def run (s : Lifecycle) (steps : List ProposalStep) : Lifecycle :=
  steps.foldl (fun s e => ⟨(s.gov.step e).1, s.log ++ (s.gov.step e).2⟩) s

/-- The entries about one proposal. -/
def history (log : List ProposalRecord) (id : UInt64) : List ProposalRecord :=
  log.filter (ProposalRecord.isAbout id)

@[simp] theorem history_append (l l' : List ProposalRecord) (id : UInt64) :
    history (l ++ l') id = history l id ++ history l' id :=
  List.filter_append ..

/-! ### What may happen to one proposal -/

/-- The terms of a proposal, which no step changes. -/
def SameTerms (p q : Proposal) : Prop :=
  p.id = q.id ∧ p.pType = q.pType ∧ p.endEpoch = q.endEpoch ∧ p.activationEpoch = q.activationEpoch

theorem SameTerms.refl (p : Proposal) : SameTerms p p := ⟨rfl, rfl, rfl, rfl⟩

variable {p q : Proposal}

theorem SameTerms.trans {r : Proposal} (h : SameTerms p q) (h' : SameTerms q r) : SameTerms p r :=
  ⟨h.1.trans h'.1, h.2.1.trans h'.2.1, h.2.2.1.trans h'.2.2.1, h.2.2.2.trans h'.2.2.2⟩

/-- The proposal may be executed only after the delay of its kind. -/
def Scheduled (p : Proposal) : Prop :=
  p.effectiveActivationEpoch.toNat = p.endEpoch.toNat + (activationDelayEpochs p.pType).toNat

theorem Scheduled.congr (h : SameTerms p q) : Scheduled p ↔ Scheduled q := by
  obtain ⟨-, hType, hEnd, hAct⟩ := h
  simp only [Scheduled, Proposal.effectiveActivationEpoch, hType, hEnd, hAct]

/-- The histories a proposal can have, by its status. -/
inductive Life (p : Proposal) : List ProposalRecord → Prop
  | active {o : Proposal} (hs : p.status = .active) (ho : SameTerms o p) : Life p [.opened o]
  | cancelled {o : Proposal} (hs : p.status = .failed) (ho : SameTerms o p) : Life p [.opened o]
  | failed {o c : Proposal} {t k e : UInt64} (hs : p.status = .failed) (ho : SameTerms o p)
      (hc : SameTerms c p) : Life p [.opened o, .closed c t k e]
  | passed {o c : Proposal} {t k e : UInt64} (hs : p.status = .passed) (ho : SameTerms o p)
      (hc : SameTerms c p) (hpass : (ProposalRecord.closed c t k e).closesPassing) :
      Life p [.opened o, .closed c t k e]
  | executed {o c q : Proposal} {t k e e' : UInt64} (hs : p.status = .executed)
      (ho : SameTerms o p) (hc : SameTerms c p) (hq : SameTerms q p)
      (hpass : (ProposalRecord.closed c t k e).closesPassing)
      (hready : p.effectiveActivationEpoch ≤ e') :
      Life p [.opened o, .closed c t k e, .handed q e']

/-- What a step may do to a proposal, with the entries it logs about it. -/
inductive Rewrite : Proposal → Proposal → List ProposalRecord → Prop
  | keep {p q : Proposal} (ht : SameTerms p q) (hs : q.status = p.status) : Rewrite p q []
  | cancel {p q : Proposal} (ht : SameTerms p q) (hp : p.status = .active) (hq : q.status = .failed) :
      Rewrite p q []
  | close {p q : Proposal} {t k e : UInt64} (ht : SameTerms p q) (hp : p.status = .active)
      (hq : q.status = if (ProposalRecord.closed p t k e).closesPassing then .passed else .failed) :
      Rewrite p q [.closed p t k e]
  | hand {p q : Proposal} {e : UInt64} (ht : SameTerms p q) (hp : p.isExecutable e)
      (hq : q.status = .executed) : Rewrite p q [.handed p e]

variable {l : List ProposalRecord} {e : UInt64} {s : Lifecycle}

theorem Rewrite.sameTerms (h : Rewrite p q l) : SameTerms p q := by
  cases h <;> assumption

theorem Rewrite.about (h : Rewrite p q l) : ∀ r ∈ l, r.proposal.id = p.id := by
  cases h <;> simp [ProposalRecord.proposal]

theorem Life.rewrite {l' : List ProposalRecord} (hl : Life p l) (h : Rewrite p q l') : Life q
    (l ++ l') := by
  have ht := h.sameTerms
  cases h with
  | keep _ hs =>
    rw [List.append_nil]
    cases hl with
    | active hp ho => exact .active (hs.trans hp) (ho.trans ht)
    | cancelled hp ho => exact .cancelled (hs.trans hp) (ho.trans ht)
    | failed hp ho hc => exact .failed (hs.trans hp) (ho.trans ht) (hc.trans ht)
    | passed hp ho hc hpass => exact .passed (hs.trans hp) (ho.trans ht) (hc.trans ht) hpass
    | executed hp ho hc hq hpass hready =>
      refine .executed (hs.trans hp) (ho.trans ht) (hc.trans ht) (hq.trans ht) hpass ?_
      simpa only [Proposal.effectiveActivationEpoch, ht.2.2.1, ht.2.2.2] using hready
  | cancel _ hp hq =>
    rw [List.append_nil]
    -- only an open proposal can be cancelled, so its history has one entry
    cases hl with
    | active _ ho => exact .cancelled hq (ho.trans ht)
    | cancelled hs _ | failed hs _ _ | passed hs _ _ _ | executed hs _ _ _ _ _ =>
      rw [hs] at hp; cases hp
  | close _ hp hq =>
    cases hl with
    | active _ ho =>
      split at hq
      · exact .passed hq (ho.trans ht) ht ‹_›
      · exact .failed hq (ho.trans ht) ht
    | cancelled hs _ | failed hs _ _ | passed hs _ _ _ | executed hs _ _ _ _ _ =>
      rw [hs] at hp; cases hp
  | hand _ hp hq =>
    simp only [Proposal.isExecutable, Proposal.activationReady, Bool.and_eq_true,
      decide_eq_true_eq] at hp
    cases hl with
    | passed _ ho hc hpass =>
      refine .executed hq (ho.trans ht) (hc.trans ht) ht hpass ?_
      simpa only [Proposal.effectiveActivationEpoch, ht.2.2.1, ht.2.2.2] using hp.2
    | active hs _ | cancelled hs _ | failed hs _ _ | executed hs _ _ _ _ _ =>
      rw [hs] at hp; cases hp.1

/-! ### Steps that rewrite the list -/

/-- `ps'` and the logged entries come from rewriting every proposal of `ps` by itself. -/
structure Rewrites (ps ps' : List Proposal) (log : List ProposalRecord) : Prop where
  exists_map : ∃ f : Proposal → Proposal, ps' = ps.map f ∧
    ∀ p ∈ ps, Rewrite p (f p) (history log p.id)
  known : ∀ r ∈ log, ∃ p ∈ ps, p.id = r.proposal.id

/-- What holds of a governance state and its log. -/
structure Inv (s : Lifecycle) : Prop where
  nodup : (s.gov.proposals.map (·.id)).Nodup
  below : ∀ p ∈ s.gov.proposals, p.id < s.gov.nextProposalId
  scheduled : ∀ p ∈ s.gov.proposals, Scheduled p
  life : ∀ p ∈ s.gov.proposals, Life p (history s.log p.id)
  known : ∀ r ∈ s.log, ∃ p ∈ s.gov.proposals, p.id = r.proposal.id

theorem inv_init : Inv {} := by
  constructor <;> simp

theorem Inv.rewrites {g g' : GovernanceState} {log log' : List ProposalRecord} (h : Inv ⟨g, log⟩)
    (hr : Rewrites g.proposals g'.proposals log') (hnext : g'.nextProposalId = g.nextProposalId) :
    Inv ⟨g', log ++ log'⟩ := by
  obtain ⟨f, hmap, hf⟩ := hr.exists_map
  have hid : ∀ p ∈ g.proposals, (f p).id = p.id := fun p hp => (hf p hp).sameTerms.1.symm
  have hids : g'.proposals.map (·.id) = g.proposals.map (·.id) := by
    rw [hmap, List.map_map]
    exact List.map_congr_left hid
  -- every proposal after the step is the rewriting of one before it
  have back : ∀ q ∈ g'.proposals, ∃ p ∈ g.proposals, f p = q := by
    intro q hq
    rw [hmap] at hq
    exact List.mem_map.1 hq
  refine ⟨?_, ?_, ?_, ?_, ?_⟩
  · simpa only [hids] using h.nodup
  · intro q hq
    obtain ⟨p, hp, rfl⟩ := back q hq
    simpa only [hnext, hid p hp] using h.below p hp
  · intro q hq
    obtain ⟨p, hp, rfl⟩ := back q hq
    exact (Scheduled.congr (hf p hp).sameTerms).1 (h.scheduled p hp)
  · intro q hq
    obtain ⟨p, hp, rfl⟩ := back q hq
    rw [hid p hp, history_append]
    exact (h.life p hp).rewrite (hf p hp)
  · intro r hr'
    have hknown : ∃ p ∈ g.proposals, p.id = r.proposal.id := by
      rcases List.mem_append.1 hr' with hr' | hr'
      · exact h.known r hr'
      · exact hr.known r hr'
    obtain ⟨p, hp, hpr⟩ := hknown
    exact ⟨f p, hmap ▸ List.mem_map_of_mem hp, (hid p hp).trans hpr⟩

/-! ### Rewriting by identifier -/

section Ids

variable {ps : List Proposal} (hn : (ps.map (·.id)).Nodup)

include hn

theorem eq_of_id_eq (hp : p ∈ ps) (hq : q ∈ ps) (h : p.id = q.id) : p = q :=
  List.inj_on_of_nodup_map hn hp hq h

theorem modifyFirst_eq_map (id : UInt64) (f : Proposal → Proposal) :
    modifyFirst (fun p => decide (p.id = id)) f ps =
      ps.map fun p => if p.id = id then f p else p := by
  induction ps with
  | nil => rfl
  | cons p ps ih =>
    simp only [List.map_cons, List.nodup_cons, List.mem_map, not_exists, not_and] at hn
    simp only [modifyFirst, decide_eq_true_eq, List.map_cons]
    split_ifs with hp
    · -- no later proposal has this identifier
      have hrest : ∀ q ∈ ps, (if q.id = id then f q else q) = q := by
        intro q hq
        rw [if_neg]
        rintro rfl
        exact hn.1 q hq hp.symm
      rw [List.map_congr_left hrest, List.map_id']
    · rw [ih hn.2]

variable {mk : Proposal → ProposalRecord} {f : Proposal → Proposal}

/-- Entries made for the proposals that satisfy `q`, read for one of them. -/
theorem history_filter_map {q : Proposal → Bool} (hmk : ∀ p, (mk p).proposal = p) (hp : p ∈ ps) :
    history ((ps.filter q).map mk) p.id = if q p then [mk p] else [] := by
  have hone : ps.filter (fun r => decide (r.id = p.id)) = [p] := by
    apply List.perm_singleton.1
    refine (List.perm_ext_iff_of_nodup ((List.Nodup.of_map _ hn).filter _) (List.nodup_singleton p)).2 fun r => ?_
    simp only [List.mem_filter, decide_eq_true_eq, List.mem_singleton]
    constructor
    · rintro ⟨hr, hid⟩; exact eq_of_id_eq hn hr hp hid
    · rintro rfl; exact ⟨hp, rfl⟩
  have habout : (ProposalRecord.isAbout p.id ∘ mk) = fun r => decide (r.id = p.id) := by
    funext r
    simp only [Function.comp_apply, ProposalRecord.isAbout, hmk]
  rw [history, List.filter_map, habout, List.filter_filter]
  rw [show (fun r : Proposal => decide (r.id = p.id) && q r) =
    fun r => q r && decide (r.id = p.id) from funext fun r => Bool.and_comm _ _]
  rw [← List.filter_filter, hone]
  cases h : q p <;> simp [h]

/-- Changing one proposal rewrites the list, if it is a rewriting of that proposal. -/
theorem Rewrites.update (hp : p ∈ ps) {log : List ProposalRecord}
    (hf : Rewrite p (f p) log) : Rewrites ps
    (modifyFirst (fun q => decide (q.id = p.id)) f ps) log := by
  refine ⟨⟨_, modifyFirst_eq_map hn p.id f, fun q hq => ?_⟩, fun r hr => ⟨p, hp, (hf.about r hr).symm⟩⟩
  split_ifs with hid
  · obtain rfl := eq_of_id_eq hn hq hp hid
    have hall : history log q.id = log := by
      apply List.filter_eq_self.2
      intro r hr
      simp [ProposalRecord.isAbout, hf.about r hr]
    rwa [hall]
  · have hnone : history log q.id = [] := by
      apply List.filter_eq_nil_iff.2
      intro r hr
      simp only [ProposalRecord.isAbout, hf.about r hr, decide_eq_true_eq]
      exact fun h => hid h.symm
    rw [hnone]
    exact .keep (.refl q) rfl

/-- Changing the proposals that satisfy `q`, with one entry for each. -/
theorem Rewrites.filterMap {q : Proposal → Bool}
    (hmk : ∀ p, (mk p).proposal = p) (hf : ∀ p ∈ ps, q p → Rewrite p (f p) [mk p]) : Rewrites ps
    (ps.map fun p => if q p then f p else p) ((ps.filter q).map mk) := by
  refine ⟨⟨_, rfl, fun p hp => ?_⟩, fun r hr => ?_⟩
  · rw [history_filter_map hn hmk hp]
    split
    · exact hf p hp ‹_›
    · exact .keep (.refl p) rfl
  · obtain ⟨p, hp, rfl⟩ := List.mem_map.1 hr
    exact ⟨p, (List.mem_filter.1 hp).1, by rw [hmk]⟩

end Ids

/-! ### What each operation does to a proposal -/

theorem Rewrite.of_addVote {p' : Proposal} {voter : Address} {stake epoch : UInt64} {b : Bool}
    (h : p.addVote voter stake b epoch = .ok p') : Rewrite p p' [] := by
  simp only [Proposal.addVote, Except.ok_iff] at h
  obtain ⟨-, -, -, -, -, -, rfl⟩ := h
  exact .keep (.refl _) rfl

theorem Rewrite.reduceVoteWeight (p : Proposal) (voter : Address) (reduction : UInt64) :
    Rewrite p (p.reduceVoteWeight voter reduction) [] := by
  unfold Proposal.reduceVoteWeight
  split
  · exact .keep (.refl p) rfl
  · dsimp only
    split
    · exact .keep (.refl p) rfl
    · exact .keep (.refl p) rfl

theorem Rewrite.finalize {t k : UInt64} (h : GovernanceState.isDue e p) : Rewrite p
    (p.finalize t k e) [.closed p t k e] := by
  simp only [GovernanceState.isDue, decide_eq_true_eq] at h
  rw [Proposal.finalize, if_pos h]
  exact .close (.refl p) h.1 rfl

theorem finalize_of_not_due {t k : UInt64} (h : ¬GovernanceState.isDue e p) : p.finalize t k e =
    p := by
  simp only [GovernanceState.isDue, decide_eq_true_eq] at h
  rw [Proposal.finalize, if_neg h]

theorem Rewrite.markExecuted (h : p.isExecutable e) : Rewrite p { p with status := .executed } [.handed p e] :=
  .hand (.refl p) h rfl

/-! ### Opening a proposal -/

open EStateM in
theorem createProposal_ends (g : GovernanceState) (proposer : Address) (pType : ProposalType)
    (epoch duration : UInt64) : (GovernanceState.createProposal proposer pType epoch duration).Ends g
      (fun _ g' => ∃ p : Proposal, g'.proposals = g.proposals ++ [p] ∧ p.id = g.nextProposalId ∧
        p.status = .active ∧ Scheduled p ∧ g.nextProposalId < g'.nextProposalId)
      fun _ g' => g'.proposals = g.proposals ∧ g'.nextProposalId = g.nextProposalId := by
  refine ⟨?_, by simp [GovernanceState.createProposal]⟩
  simp only [GovernanceState.createProposal, ensures_bind, ensures_ofExcept, ensures_ensure,
    ensures_get, ensures_modify, ensures_orThrow, ensures_set, ensures_pure]
  intro _ _ _ _ endEpoch _ activation hact nextId hnext count _
  refine ⟨_, rfl, rfl, rfl, ?_, ?_⟩
  · exact UInt64.checkedAdd_eq_some.1 hact
  · have := UInt64.checkedAdd_eq_some.1 hnext
    rw [UInt64.lt_iff_toNat_lt, this]
    simp

theorem Inv.opened {g g' : GovernanceState} {log : List ProposalRecord} (h : Inv ⟨g, log⟩)
    (hps : g'.proposals = g.proposals ++ [p]) (hid : p.id = g.nextProposalId)
    (hs : p.status = .active) (hsched : Scheduled p) (hnext : g.nextProposalId < g'.nextProposalId)
    : Inv ⟨g', log ++ [.opened p]⟩ := by
  have hfresh : ∀ q ∈ g.proposals, q.id ≠ p.id := by
    intro q hq heq
    exact absurd (h.below q hq) (by simp [heq, hid])
  have hnone : history log p.id = [] := by
    apply List.filter_eq_nil_iff.2
    intro r hr
    obtain ⟨q, hq, hqr⟩ := h.known r hr
    simp only [ProposalRecord.isAbout, ← hqr, decide_eq_true_eq]
    exact hfresh q hq
  refine ⟨?_, ?_, ?_, ?_, ?_⟩
  · rw [hps, List.map_append, List.map_singleton]
    refine h.nodup.append (List.nodup_singleton _) ?_
    simpa [List.disjoint_singleton] using hfresh
  · intro q hq
    rcases List.mem_append.1 (hps ▸ hq) with hq | hq
    · exact (h.below q hq).trans hnext
    · obtain rfl := List.mem_singleton.1 hq
      rwa [hid]
  · intro q hq
    rcases List.mem_append.1 (hps ▸ hq) with hq | hq
    · exact h.scheduled q hq
    · obtain rfl := List.mem_singleton.1 hq
      exact hsched
  · intro q hq
    rcases List.mem_append.1 (hps ▸ hq) with hq | hq
    · have hother : history [.opened p] q.id = [] := by
        simp [history, ProposalRecord.isAbout, ProposalRecord.proposal, (hfresh q hq).symm]
      rw [history_append, hother, List.append_nil]
      exact h.life q hq
    · obtain rfl := List.mem_singleton.1 hq
      have hown : history [.opened q] q.id = [.opened q] := by
        simp [history, ProposalRecord.isAbout, ProposalRecord.proposal]
      rw [history_append, hnone, hown, List.nil_append]
      exact .active hs (.refl q)
  · intro r hr
    rcases List.mem_append.1 hr with hr | hr
    · obtain ⟨q, hq, hqr⟩ := h.known r hr
      exact ⟨q, hps ▸ List.mem_append_left _ hq, hqr⟩
    · obtain rfl := List.mem_singleton.1 hr
      exact ⟨p, hps ▸ List.mem_append_right _ (List.mem_singleton_self p), rfl⟩

/-! ### Every step keeps the invariant -/

section Step

variable {g : GovernanceState} {log : List ProposalRecord} (h : Inv ⟨g, log⟩)

theorem mem_of_findProposal {p : Proposal} {id : UInt64} (h : g.findProposal id = some p) :
    p ∈ g.proposals ∧ p.id = id :=
  ⟨List.mem_of_find?_eq_some h, by simpa using List.find?_some h⟩

include h

/-- A step that changes nothing. -/
theorem Inv.keep : Inv ⟨g, log ++ []⟩ := by rwa [List.append_nil]

/-- A step that changes the proposal `id` only, if there is one. -/
theorem Inv.update (id : UInt64) (f : Proposal → Proposal)
    (entries : Proposal → List ProposalRecord)
    (hf : ∀ p ∈ g.proposals, Rewrite p (f p) (entries p)) :
    Inv ⟨g.updateProposal id f, log ++ (g.findProposal id).toList.flatMap entries⟩ := by
  cases hfind : g.findProposal id with
  | none =>
    have hnone : ∀ p ∈ g.proposals, p.id ≠ id := by
      simpa [findProposal] using hfind
    have hsame : (g.updateProposal id f).proposals = g.proposals := by
      rw [updateProposal, modifyFirst_eq_map h.nodup]
      conv_rhs => rw [← List.map_id g.proposals]
      exact List.map_congr_left fun p hp => if_neg (hnone p hp)
    refine h.rewrites ⟨⟨fun p => p, ?_, fun p _ => .keep (.refl p) rfl⟩, by simp⟩ rfl
    rw [hsame, List.map_id']
  | some p =>
    obtain ⟨hp, rfl⟩ := mem_of_findProposal hfind
    have hlog : (some p).toList.flatMap entries = entries p := by simp
    rw [hlog]
    exact h.rewrites (Rewrites.update h.nodup hp (hf p hp)) rfl

theorem Inv.create (proposer : Address) (pType : ProposalType) (epoch duration : UInt64) :
    Inv ⟨(g.step (.create proposer pType epoch duration)).1,
      log ++ (g.step (.create proposer pType epoch duration)).2⟩ := by
  simp only [GovernanceState.step]
  split
  · rename_i id g' hrun
    obtain ⟨p, hps, hid, hs, hsched, hnext⟩ :=
      (createProposal_ends g proposer pType epoch duration).1 id g' hrun
    simpa [hps] using h.opened hps hid hs hsched hnext
  · rename_i e g' hrun
    obtain ⟨hps, hnext⟩ := (createProposal_ends g proposer pType epoch duration).2 e g' hrun
    refine h.rewrites ⟨⟨fun p => p, ?_, fun p _ => .keep (.refl p) rfl⟩, by simp⟩ hnext
    rw [hps, List.map_id']

theorem Inv.addVote (id : UInt64) (voter : Address) (stake : UInt64) (voteFor : Bool)
    (epoch : UInt64) :
    Inv ⟨(g.step (.addVote id voter stake voteFor epoch)).1,
      log ++ (g.step (.addVote id voter stake voteFor epoch)).2⟩ := by
  simp only [GovernanceState.step, castVote]
  split
  · rename_i g' hcast
    split at hcast
    · cases hcast; exact h.keep
    · rename_i p hfind
      obtain ⟨p', hvote, hg'⟩ := Except.bind_eq_ok.1 hcast
      obtain rfl := Except.pure_eq_ok.1 hg'
      obtain ⟨hp, rfl⟩ := mem_of_findProposal hfind
      exact h.rewrites (Rewrites.update h.nodup hp (.of_addVote hvote)) rfl
  · exact h.keep

theorem Inv.cancel (id : UInt64) (caller : Address) :
    Inv ⟨(g.step (.cancel id caller)).1, log ++ (g.step (.cancel id caller)).2⟩ := by
  simp only [GovernanceState.step]
  split
  · rename_i g' hcancel
    simp only [cancelProposal, Except.ok_iff] at hcancel
    obtain ⟨p, hfind, -, -, -, hactive, rfl⟩ := hcancel
    obtain ⟨hp, rfl⟩ := mem_of_findProposal hfind
    exact h.rewrites (Rewrites.update h.nodup hp (.cancel (.refl p) hactive rfl)) rfl
  · exact h.keep

theorem Inv.finalizeDue (totalStake quorumPct epoch : UInt64) :
    Inv ⟨g.finalizeDue totalStake quorumPct epoch,
      log ++ (g.proposals.filter (GovernanceState.isDue epoch)).map
        (.closed · totalStake quorumPct epoch)⟩ := by
  refine h.rewrites ?_ rfl
  have hmap : (g.finalizeDue totalStake quorumPct epoch).proposals = g.proposals.map fun p =>
      if GovernanceState.isDue epoch p then p.finalize totalStake quorumPct epoch else p := by
    refine List.map_congr_left fun p _ => ?_
    split
    · rfl
    · exact finalize_of_not_due ‹_›
  rw [hmap]
  exact Rewrites.filterMap h.nodup (fun _ => rfl) fun p _ hdue => .finalize hdue

theorem Inv.executeBlock (epoch : UInt64) :
    Inv ⟨(g.step (.executeBlock epoch)).1, log ++ (g.step (.executeBlock epoch)).2⟩ := by
  refine h.rewrites ?_ rfl
  refine Rewrites.filterMap h.nodup (fun _ => rfl) fun p _ hemit => .markExecuted ?_
  exact (Bool.and_eq_true _ _ ▸ hemit : _ ∧ _).1

end Step

/-- Marking the chosen proposals executed, one after the other. -/
theorem Inv.markAll (epoch : UInt64) (chosen : List Proposal) :
    ∀ {g : GovernanceState} {log : List ProposalRecord}, Inv ⟨g, log⟩ →
      (∀ p ∈ chosen, p ∈ g.proposals ∧ p.isExecutable epoch) → (chosen.map (·.id)).Nodup →
      Inv ⟨chosen.foldl (fun g p => g.markExecuted p.id) g, log ++ chosen.map (.handed · epoch)⟩ := by
  induction chosen with
  | nil => intro g log h _ _; exact h.keep
  | cons p rest ih =>
    intro g log h hmem hnodup
    obtain ⟨hp, hexec⟩ := hmem p List.mem_cons_self
    simp only [List.map_cons, List.nodup_cons, List.mem_map, not_exists, not_and] at hnodup
    have hone : Inv ⟨g.markExecuted p.id, log ++ [.handed p epoch]⟩ :=
      h.rewrites (Rewrites.update h.nodup hp (.markExecuted hexec)) rfl
    have hrest : ∀ q ∈ rest, q ∈ (g.markExecuted p.id).proposals ∧ q.isExecutable epoch := by
      intro q hq
      obtain ⟨hqg, hqe⟩ := hmem q (List.mem_cons_of_mem p hq)
      refine ⟨?_, hqe⟩
      -- a proposal with another identifier is untouched
      rw [markExecuted, updateProposal, modifyFirst_eq_map h.nodup]
      exact List.mem_map.2 ⟨q, hqg, if_neg (hnodup.1 q hq)⟩
    simpa using ih hone hrest hnodup.2

theorem Inv.step {g : GovernanceState} {log : List ProposalRecord} (h : Inv ⟨g, log⟩)
    (e : ProposalStep) : Inv ⟨(g.step e).1, log ++ (g.step e).2⟩ := by
  cases e with
  | create proposer pType epoch duration => exact h.create proposer pType epoch duration
  | addVote id voter stake voteFor epoch => exact h.addVote id voter stake voteFor epoch
  | reduceVoteWeight id voter reduction =>
    have hupd := h.update id (·.reduceVoteWeight voter reduction) (fun _ => [])
      fun p _ => .reduceVoteWeight p voter reduction
    rwa [List.flatMap_eq_nil_iff.2 fun _ _ => rfl] at hupd
  | cancel id caller => exact h.cancel id caller
  | finalize id totalStake quorumPct epoch =>
    have hupd := h.update id (·.finalize totalStake quorumPct epoch)
      (fun p => if GovernanceState.isDue epoch p then [.closed p totalStake quorumPct epoch] else [])
      fun p _ => by
        split
        · exact .finalize ‹_›
        · rw [finalize_of_not_due ‹_›]
          exact .keep (.refl p) rfl
    suffices hlog : (g.step (.finalize id totalStake quorumPct epoch)).2 = _ by rw [hlog]; exact hupd
    simp only [GovernanceState.step]
    cases g.findProposal id with
    | none => rfl
    | some p => cases hdue : GovernanceState.isDue epoch p <;> simp [hdue]
  | executeBlock epoch => exact h.executeBlock epoch
  | executeEpoch totalStake quorumPct epoch =>
    have hclosed := h.finalizeDue totalStake quorumPct epoch
    have hchosen := Inv.markAll epoch ((g.finalizeDue totalStake quorumPct epoch).executable epoch)
      hclosed (fun p hp => List.mem_filter.1 hp)
      (hclosed.nodup.sublist (List.filter_sublist.map _))
    simpa only [GovernanceState.step, List.append_assoc] using hchosen

/-- **Along every run the log of each proposal is its life so far.** -/
theorem inv_run (steps : List ProposalStep) : ∀ {s : Lifecycle}, Inv s → Inv (s.run steps) := by
  induction steps with
  | nil => intro s h; exact h
  | cons e steps ih => intro s h; exact ih (h.step e)

/-! ### Exactly once, and never early -/

theorem Life.countP_hands_le (h : Life p l) (id : UInt64) : l.countP (·.hands id) ≤ 1 := by
  cases h <;> simp [ProposalRecord.hands, List.countP_cons]
  split_ifs <;> omega

theorem Life.countP_closes_le (h : Life p l) (id : UInt64) : l.countP (·.closes id) ≤ 1 := by
  cases h <;> simp [ProposalRecord.closes, List.countP_cons] <;> split_ifs <;> omega

/-- A life that hands the proposal over does so last, after a passing close. -/
theorem Life.of_handed {l₁ l₂ : List ProposalRecord}
    (h : Life p (l₁ ++ .handed q e :: l₂)) : SameTerms q p ∧ p.effectiveActivationEpoch ≤ e ∧ ∃ c t
    k e', .closed c t k e' ∈ l₁ ∧ SameTerms c p ∧ Proposal.tallyPasses c.votesFor c.votesAgainst t
    k := by
  generalize hl : l₁ ++ .handed q e :: l₂ = l at h
  match l₁, h with
  | [], .active .. | [], .cancelled .. | [], .failed .. | [], .passed .. | [], .executed .. =>
    cases hl
  | [_], .active .. | [_], .cancelled .. | [_], .failed .. | [_], .passed .. | [_], .executed .. =>
    cases hl
  | [_, _], .active .. | [_, _], .cancelled .. | [_, _], .failed .. | [_, _], .passed .. => cases hl
  | [_, _], .executed _ _ hc hq hpass hready =>
    cases hl
    exact ⟨hq, hready, _, _, _, _, List.mem_cons_of_mem _ (List.mem_singleton_self _), hc, hpass⟩
  | _ :: _ :: _ :: _, .active .. | _ :: _ :: _ :: _, .cancelled .. | _ :: _ :: _ :: _, .failed ..
  | _ :: _ :: _ :: _, .passed .. => cases hl
  | _ :: _ :: _ :: _, .executed .. => simp at hl

theorem Inv.life_of_mem (h : Inv s) {r : ProposalRecord} (hr : r ∈ s.log) :
    ∃ p ∈ s.gov.proposals, Life p (history s.log r.proposal.id) := by
  obtain ⟨p, hp, hid⟩ := h.known r hr
  exact ⟨p, hp, hid ▸ h.life p hp⟩

theorem countP_history (log : List ProposalRecord) (id : UInt64) (q : ProposalRecord → Bool)
    (hq : ∀ r, q r → r.isAbout id) : (history log id).countP q = log.countP q := by
  rw [history, List.countP_filter]
  refine List.countP_congr fun r _ => ?_
  simp only [Bool.and_eq_true]
  exact ⟨fun h => h.1, fun h => ⟨h, hq r h⟩⟩

/-- A count over the entries about one proposal is at most one if it is so in every life. -/
theorem Inv.countP_le (h : Inv s) (id : UInt64) {q : ProposalRecord → Bool}
    (hq : ∀ r, q r → r.isAbout id) (hlife : ∀ p l, Life p l → l.countP q ≤ 1) :
    s.log.countP q ≤ 1 := by
  by_cases hex : ∃ r ∈ s.log, r.proposal.id = id
  · obtain ⟨r, hr, rfl⟩ := hex
    obtain ⟨p, -, hp⟩ := h.life_of_mem hr
    rw [← countP_history s.log _ q hq]
    exact hlife p _ hp
  · rw [List.countP_eq_zero.2]
    · exact Nat.zero_le 1
    · intro r hr hqr
      exact hex ⟨r, hr, by simpa [ProposalRecord.isAbout] using hq r hqr⟩

/-- **Governance executes once and never early.**  Along every run of proposal steps, at any
epochs, no vote is closed twice and no proposal is handed to execution twice; one that is handed
over was closed before by a passing tally, and the epoch is at least the end of its vote plus the
delay of its kind. -/
theorem handed_once_after_delay (steps : List ProposalStep) :
    let log := (run {} steps).log
    (∀ id, log.countP (·.hands id) ≤ 1) ∧ (∀ id, log.countP (·.closes id) ≤ 1) ∧
      ∀ l₁ p e l₂, log = l₁ ++ .handed p e :: l₂ →
        (∃ c t k e', .closed c t k e' ∈ l₁ ∧ c.id = p.id ∧
          Proposal.tallyPasses c.votesFor c.votesAgainst t k) ∧
        p.endEpoch.toNat + (activationDelayEpochs p.pType).toNat ≤ e.toNat := by
  intro log
  have h : Inv (run {} steps) := inv_run steps inv_init
  refine ⟨fun id => ?_, fun id => ?_, fun l₁ q e l₂ hlog => ?_⟩
  · refine h.countP_le id ?_ fun p l hl => hl.countP_hands_le id
    intro r hr
    cases r <;> simp_all [ProposalRecord.hands, ProposalRecord.isAbout, ProposalRecord.proposal]
  · refine h.countP_le id ?_ fun p l hl => hl.countP_closes_le id
    intro r hr
    cases r <;> simp_all [ProposalRecord.closes, ProposalRecord.isAbout, ProposalRecord.proposal]
  · have hmem : .handed q e ∈ (run {} steps).log := by
      show _ ∈ log
      rw [hlog]
      exact List.mem_append_right _ List.mem_cons_self
    obtain ⟨p, hp, hlife⟩ := h.life_of_mem hmem
    -- the entries about this proposal, split at the same place
    have hsplit : history log q.id = history l₁ q.id ++ .handed q e :: history l₂ q.id := by
      rw [hlog, history_append]
      simp [history, ProposalRecord.isAbout, ProposalRecord.proposal]
    obtain ⟨hq, hready, c, t, k, e', hc, hterms, hpass⟩ := Life.of_handed (hsplit ▸ hlife)
    refine ⟨⟨c, t, k, e', (List.mem_filter.1 hc).1, hterms.1.trans hq.1.symm, hpass⟩, ?_⟩
    have hsched : Scheduled p := h.scheduled p hp
    rw [hq.2.1, hq.2.2.1, ← hsched]
    exact UInt64.le_iff_toNat_le.1 hready

/-- A base fee proposal that two thirds of the stake vote for is handed over once its delay is
over, and the theorem applies to that run. -/
theorem handed_once_after_delay_baseFee :
    let steps : List ProposalStep := [.create 1 (.changeBaseFee 7) 0 10, .addVote 0 1 67 true 3,
      .executeEpoch 100 33 10, .executeBlock 20, .executeEpoch 100 33 20, .executeEpoch 100 33 21]
    (run {} steps).log.countP (·.hands 0) = 1 ∧ ∀ id, (run {} steps).log.countP (·.hands id) ≤ 1 :=
  ⟨by decide, (handed_once_after_delay _).1⟩

end Lifecycle

end Budlum
