import Budlum.Registry.Params
import Budlum.Pollen.Marketplace

/-!
# Governance

The constitution (parameters with hard guardrails), proposals and their votes, and the two ways a
passed proposal reaches execution: by block application, for the kinds that emit an action, and
by the epoch hook, for every kind.
-/

namespace Budlum

open Except (ensure ofOption ok_iff)

/-! ### The constitution -/

/-- The parameters the constitution fixes. -/
inductive ConstitutionParameterKey where
  | aiReadRequiresPollenGrant
  | noGovernanceReadOverride
  | permissionlessCoreNoAdminWhitelist
  | poaIslandIsolation
  | noPrivateKeyCustody
  | evidenceApisNoPlaintext
  | maxEmergencyHaltEpochs
  | minConstitutionProposalEpochs
  deriving DecidableEq, Repr

namespace ConstitutionParameterKey

/-- The rank of a key, also its tag in hash preimages. -/
def tag : ConstitutionParameterKey → UInt8
  | aiReadRequiresPollenGrant => 1
  | noGovernanceReadOverride => 2
  | permissionlessCoreNoAdminWhitelist => 3
  | poaIslandIsolation => 4
  | noPrivateKeyCustody => 5
  | evidenceApisNoPlaintext => 6
  | maxEmergencyHaltEpochs => 7
  | minConstitutionProposalEpochs => 8

theorem tag_injective : Function.Injective fun k : ConstitutionParameterKey => k.tag.toNat := by
  intro a b h
  cases a <;> cases b <;> first | rfl | (exact absurd h (by decide))

instance : LinearOrder ConstitutionParameterKey :=
  LinearOrder.lift' (fun k => k.tag.toNat) tag_injective

/-- The guardrails no vote can change. -/
def hardGuardrails : List ConstitutionParameterKey :=
  [aiReadRequiresPollenGrant, noGovernanceReadOverride, permissionlessCoreNoAdminWhitelist,
    poaIslandIsolation, noPrivateKeyCustody, evidenceApisNoPlaintext]

def isHardGuardrail (k : ConstitutionParameterKey) : Bool := hardGuardrails.contains k

def debug : ConstitutionParameterKey → String
  | aiReadRequiresPollenGrant => "AiReadRequiresPollenGrant"
  | noGovernanceReadOverride => "NoGovernanceReadOverride"
  | permissionlessCoreNoAdminWhitelist => "PermissionlessCoreNoAdminWhitelist"
  | poaIslandIsolation => "PoaIslandIsolation"
  | noPrivateKeyCustody => "NoPrivateKeyCustody"
  | evidenceApisNoPlaintext => "EvidenceApisNoPlaintext"
  | maxEmergencyHaltEpochs => "MaxEmergencyHaltEpochs"
  | minConstitutionProposalEpochs => "MinConstitutionProposalEpochs"

end ConstitutionParameterKey

inductive ConstitutionValue where
  | bool (b : Bool)
  | u64 (n : UInt64)
  | hash (h : Hash32)
  deriving DecidableEq

structure ConstitutionParameter where
  key : ConstitutionParameterKey
  value : ConstitutionValue
  effectiveEpoch : UInt64 := 0
  rationaleHash : Hash32 := 0
  deriving DecidableEq

namespace ConstitutionParameter

variable (p : ConstitutionParameter)

/-- A number in a range, given under its name. -/
def validateRange (name : String) (lo hi : UInt64) : ConstitutionValue → Except String Unit
  | .u64 n => ensure (decide (lo ≤ n ∧ n ≤ hi)) s!"{name} must be between {lo} and {hi} epochs"
  | _ => .error s!"{name} must be U64"

/-- The value fits the key. -/
def validateValue : Except String Unit :=
  match p.key with
  | .maxEmergencyHaltEpochs => validateRange p.key.debug 1 10080 p.value
  | .minConstitutionProposalEpochs => validateRange p.key.debug 10 100000 p.value
  | _ =>
    match p.value with
    | .bool true => .ok ()
    | .bool false => .error s!"hard constitution guardrail {p.key.debug} cannot be disabled"
    | _ => .error s!"hard constitution guardrail {p.key.debug} must be Bool(true)"

/-- Governance may make this update. -/
def validateUpdate : Except String Unit := do
  p.validateValue
  ensure (!p.key.isHardGuardrail)
    s!"hard constitution guardrail {p.key.debug} cannot be changed by governance"
  ensure (decide (p.rationaleHash ≠ 0)) "constitution update rationale_hash cannot be zero"

end ConstitutionParameter

structure ConstitutionRegistry where
  parameters : OrdMap ConstitutionParameterKey ConstitutionParameter
  deriving DecidableEq

namespace ConstitutionRegistry

def new : ConstitutionRegistry :=
  let guardrails := ConstitutionParameterKey.hardGuardrails.foldl
    (fun (m : OrdMap ConstitutionParameterKey ConstitutionParameter) k =>
      m.insert k { key := k, value := .bool true }) ∅
  let halt : ConstitutionParameter := { key := .maxEmergencyHaltEpochs, value := .u64 1440 }
  let propose : ConstitutionParameter := { key := .minConstitutionProposalEpochs, value := .u64 10 }
  ⟨(guardrails.insert .maxEmergencyHaltEpochs halt).insert .minConstitutionProposalEpochs propose⟩

instance : Inhabited ConstitutionRegistry := ⟨new⟩

variable (c : ConstitutionRegistry)

/-- One guardrail is present and enabled. -/
def checkGuardrail (key : ConstitutionParameterKey) : Except String Unit := do
  let p ← ofOption (c.parameters.get key) s!"missing hard constitution guardrail {key.debug}"
  p.validateValue

/-- Every guardrail is present and enabled. -/
def assertHardGuardrails : Except String Unit :=
  ConstitutionParameterKey.hardGuardrails.forM c.checkGuardrail

/-- Change a parameter.  The guardrails are looked at after the write. -/
def setParameter (p : ConstitutionParameter) : EStateM String ConstitutionRegistry Unit := do
  EStateM.ofExcept p.validateUpdate
  modify fun c => { c with parameters := c.parameters.insert p.key p }
  EStateM.ofExcept (← get).assertHardGuardrails

end ConstitutionRegistry

/-! ### Proposals -/

/-- What a proposal asks for. -/
inductive ProposalType where
  | changeBaseFee (fee : UInt64)
  | changeBlockReward (reward : UInt64)
  | slashValidator (address : Address) (evidenceHash : Hash32)
  | parameterUpdate (key value : String)
  | whitelistVerifier (address : Address)
  | dewhitelistVerifier (address : Address)
  | setEncryptionPolicy (policy : EncryptionPolicy)
  | setConstitutionParameter (parameter : ConstitutionParameter)
  | verifyHubApp (appId : UInt64) (developer : Address) (manifestId : Option ContentId)
      (websiteUrlHash : Hash32)
  | unfreezeConsensusDomain (domainId : DomainId) (expectedValidatorSetHash : Hash32)
      (justificationHash : Hash32)
  deriving DecidableEq

/-- Epochs between the end of the vote and the earliest execution. -/
def activationDelayEpochs : ProposalType → UInt64
  | .changeBaseFee _ | .changeBlockReward _ | .parameterUpdate _ _ => 10
  | .verifyHubApp .. | .setEncryptionPolicy _ | .setConstitutionParameter _
  | .unfreezeConsensusDomain .. => 20
  | .slashValidator .. | .whitelistVerifier _ | .dewhitelistVerifier _ => 5

/-- The life cycle of a proposal. -/
inductive ProposalStatus where
  | active
  | passed
  | failed
  | executed
  deriving DecidableEq, Repr

structure Proposal where
  id : UInt64
  proposer : Address
  pType : ProposalType
  startEpoch : UInt64
  endEpoch : UInt64
  votesFor : UInt64
  votesAgainst : UInt64
  status : ProposalStatus
  voters : OrdMap Address Bool
  voterWeights : OrdMap Address UInt64
  activationEpoch : Option UInt64
  deriving DecidableEq

namespace Proposal

variable (p : Proposal)

/-- The epoch the proposal may be executed at. -/
def effectiveActivationEpoch : UInt64 := p.activationEpoch.getD p.endEpoch

/-- The activation delay is over. -/
def activationReady (currentEpoch : UInt64) : Bool :=
  decide (p.effectiveActivationEpoch ≤ currentEpoch)

def addVote (voter : Address) (stake : UInt64) (voteFor : Bool) (currentEpoch : UInt64) :
    Except String Proposal := do
  ensure (decide (p.status = .active)) "Proposal is not active"
  ensure (decide (currentEpoch < p.endEpoch)) "Voting period has ended"
  ensure (!p.voters.contains voter) "Already voted"
  return { p with
    votesFor := if voteFor then p.votesFor.saturatingAdd stake else p.votesFor
    votesAgainst := if voteFor then p.votesAgainst else p.votesAgainst.saturatingAdd stake
    voters := p.voters.insert voter voteFor
    voterWeights := p.voterWeights.insert voter stake }

/-- Take back weight of a voter whose stake was cut, whatever the proposal's status. -/
def reduceVoteWeight (voter : Address) (reduction : UInt64) : Proposal :=
  match p.voters.get voter with
  | none => p
  | some voteFor =>
    let current := p.voterWeights.getD voter 0
    let applied := min current reduction
    if applied = 0 then p
    else
      { p with
        votesFor := if voteFor then p.votesFor.saturatingSub applied else p.votesFor
        votesAgainst := if voteFor then p.votesAgainst else p.votesAgainst.saturatingSub applied
        voterWeights := p.voterWeights.insert voter (current.saturatingSub applied) }

/-- The tally passes: the quorum is met and more weight is for than against. -/
def tallyPasses (votesFor votesAgainst totalStake quorumPct : UInt64) : Bool :=
  decide (totalStake.toNat * quorumPct.toNat ≤ (votesFor.toNat + votesAgainst.toNat) * 100) &&
    decide (votesAgainst < votesFor)

/-- Close the vote of an active proposal whose end has come. -/
def finalize (totalStake quorumPct currentEpoch : UInt64) : Proposal :=
  if p.status = .active ∧ p.endEpoch ≤ currentEpoch then
    { p with status :=
        if tallyPasses p.votesFor p.votesAgainst totalStake quorumPct then .passed else .failed }
  else p

/-- Passed, and the activation delay is over. -/
def isExecutable (currentEpoch : UInt64) : Bool :=
  decide (p.status = .passed) && p.activationReady currentEpoch

end Proposal

/-- The actions block application carries out. -/
inductive GovernanceAction where
  | whitelistVerifier (address : Address)
  | dewhitelistVerifier (address : Address)
  | setEncryptionPolicy (policy : EncryptionPolicy)
  | setConstitutionParameter (parameter : ConstitutionParameter)
  | unfreezeConsensusDomain (domainId : DomainId) (expectedValidatorSetHash : Hash32)
      (justificationHash : Hash32)
  deriving DecidableEq

/-- The action of a proposal kind, for the kinds block application executes. -/
def ProposalType.action : ProposalType → Option GovernanceAction
  | .whitelistVerifier a => some (.whitelistVerifier a)
  | .dewhitelistVerifier a => some (.dewhitelistVerifier a)
  | .setEncryptionPolicy policy => some (.setEncryptionPolicy policy)
  | .setConstitutionParameter p => some (.setConstitutionParameter p)
  | .unfreezeConsensusDomain d v j => some (.unfreezeConsensusDomain d v j)
  | .changeBaseFee _ | .changeBlockReward _ | .slashValidator .. | .parameterUpdate ..
  | .verifyHubApp .. => none

/-- Proposals, the next identifier, the constitution and the proposers' counts per epoch. -/
structure GovernanceState where
  proposals : List Proposal := []
  nextProposalId : UInt64 := 0
  constitution : ConstitutionRegistry := .new
  proposerEpochCount : OrdMap (Address ×ₗ UInt64) UInt64 := ∅
  deriving DecidableEq, Inhabited

namespace GovernanceState

/-- The payload checks made when a proposal is created. -/
def validatePayload : ProposalType → Except String Unit
  | .parameterUpdate key value => validateGovernanceParameterUpdate key value
  | .setEncryptionPolicy policy => policy.validate
  | .setConstitutionParameter p => p.validateUpdate
  | .unfreezeConsensusDomain domainId setHash justification => do
    ensure (decide (domainId ≠ 0)) "UnfreezeConsensusDomain domain_id 0 is reserved"
    ensure (decide (setHash ≠ 0))
      "UnfreezeConsensusDomain expected_validator_set_hash must be non-zero"
    ensure (decide (justification ≠ 0))
      "UnfreezeConsensusDomain justification_hash must be non-zero"
  | _ => .ok ()

/-- Shortest voting period. -/
def minProposalDuration : UInt64 := 10

/-- Longest voting period. -/
def maxProposalDuration : UInt64 := 100000

/-- Most proposals open for voting. -/
def maxActiveProposals : Nat := 100

/-- Number of proposals open for voting. -/
def activeCount (g : GovernanceState) : Nat :=
  g.proposals.countP fun p => decide (p.status = .active)

/-- Open a proposal.  The counts of past epochs are dropped before the last two checks. -/
def createProposal (proposer : Address) (pType : ProposalType) (currentEpoch duration : UInt64) :
    EStateM (Fault String) GovernanceState UInt64 := do
  EStateM.ofExcept ((validatePayload pType).mapError .fail)
  EStateM.ensure (decide (minProposalDuration ≤ duration ∧ duration ≤ maxProposalDuration))
    (.fail s!"Proposal duration must be between {minProposalDuration} and {maxProposalDuration} epochs")
  EStateM.ensure (decide ((← get).activeCount < maxActiveProposals))
    (.fail "Too many active proposals")
  modify fun g => { g with
    proposerEpochCount :=
      g.proposerEpochCount.filter fun k _ => decide (currentEpoch ≤ (ofLex k).2) }
  let endEpoch ← EStateM.orThrow (currentEpoch.checkedAdd duration)
    (.fail "Proposal end_epoch overflow")
  let activation ← EStateM.orThrow (endEpoch.checkedAdd (activationDelayEpochs pType))
    (.fail "Proposal activation_epoch overflow")
  let g ← get
  let id := g.nextProposalId
  let nextId ← EStateM.orThrow (id.checkedAdd 1) .panic
  let count ← EStateM.orThrow
    ((g.proposerEpochCount.getD (toLex (proposer, currentEpoch)) 0).checkedAdd 1) .panic
  let proposal : Proposal := ⟨id, proposer, pType, currentEpoch, endEpoch, 0, 0, .active, ∅, ∅,
    some activation⟩
  set { g with
    proposals := g.proposals ++ [proposal]
    nextProposalId := nextId
    proposerEpochCount := g.proposerEpochCount.insert (toLex (proposer, currentEpoch)) count }
  return id

variable (g : GovernanceState)

/-- The first proposal with the given identifier. -/
def findProposal (id : UInt64) : Option Proposal := g.proposals.find? fun p => decide (p.id = id)

/-- Change the first element that satisfies `q`. -/
def modifyFirst {α : Type} (q : α → Bool) (f : α → α) : List α → List α
  | [] => []
  | x :: rest => if q x then f x :: rest else x :: modifyFirst q f rest

/-- Change the first proposal with the given identifier. -/
def updateProposal (id : UInt64) (f : Proposal → Proposal) : GovernanceState :=
  { g with proposals := modifyFirst (fun p => decide (p.id = id)) f g.proposals }

/-- Vote on a proposal.  A vote on an unknown proposal has no effect. -/
def castVote (id : UInt64) (voter : Address) (stake : UInt64) (voteFor : Bool)
    (currentEpoch : UInt64) : Except String GovernanceState :=
  match g.findProposal id with
  | none => .ok g
  | some p => do
    let p' ← p.addVote voter stake voteFor currentEpoch
    return g.updateProposal id fun _ => p'

/-- The factor on the proposal fee: doubled by every proposal made in the epoch. -/
def proposalFeeMultiplier (proposer : Address) (currentEpoch : UInt64) : UInt64 :=
  let count := g.proposerEpochCount.getD (toLex (proposer, currentEpoch)) 0
  if count < 64 then UInt64.clampNat (2 ^ count.toNat) else UInt64.maxValue

/-- The proposer withdraws an open proposal. -/
def cancelProposal (id : UInt64) (caller : Address) : Except String GovernanceState := do
  let p ← ofOption (g.findProposal id) s!"Proposal {id} not found"
  ensure (decide (p.proposer = caller)) "Only the proposer can cancel the proposal"
  ensure (decide (p.status = .active)) "Proposal is not active"
  return g.updateProposal id fun p => { p with status := .failed }

/-- Close every vote whose end has come. -/
def finalizeDue (totalStake quorumPct currentEpoch : UInt64) : GovernanceState :=
  { g with proposals := g.proposals.map (·.finalize totalStake quorumPct currentEpoch) }

/-- The proposals the epoch hook executes. -/
def executable (currentEpoch : UInt64) : List Proposal :=
  g.proposals.filter (·.isExecutable currentEpoch)

def markExecuted (id : UInt64) : GovernanceState :=
  g.updateProposal id fun p => { p with status := .executed }

/-- Block application executes this proposal now. -/
def emitsAction (currentEpoch : UInt64) (p : Proposal) : Bool :=
  p.isExecutable currentEpoch && p.pType.action.isSome

/-- Mark every proposal executed whose action block application takes, and return the actions. -/
def executePassedProposals (currentEpoch : UInt64) : List GovernanceAction × GovernanceState :=
  ((g.proposals.filter (emitsAction currentEpoch)).filterMap (·.pType.action),
    { g with proposals := g.proposals.map fun p =>
        if emitsAction currentEpoch p then { p with status := .executed } else p })

/-- Something differs from the state at genesis. -/
def hasNonDefaultState : Bool :=
  !g.proposals.isEmpty || decide (g.nextProposalId ≠ 0) || decide (g.proposerEpochCount.size ≠ 0) ||
    decide (g.constitution ≠ .new)

end GovernanceState

/-! ### Stored proposals and guardrails -/

namespace ConstitutionRegistry

theorem assertHardGuardrails_eq_ok {c : ConstitutionRegistry} :
    c.assertHardGuardrails = .ok () ↔
      ∀ k ∈ ConstitutionParameterKey.hardGuardrails, c.checkGuardrail k = .ok () := by
  unfold assertHardGuardrails
  induction ConstitutionParameterKey.hardGuardrails with
  | nil => simp [List.forM_eq_forM]
  | cons k ks ih =>
    rw [List.forM_eq_forM] at ih
    simp only [List.forM_eq_forM, List.forM_cons, Except.bind_eq_ok, List.forall_mem_cons, ih]
    exact ⟨fun h => h.choose_spec, fun h => ⟨(), h⟩⟩

theorem not_mem_hardGuardrails {p : ConstitutionParameter} (hp : p.validateUpdate = .ok ()) :
    p.key ∉ ConstitutionParameterKey.hardGuardrails := by
  simp only [ConstitutionParameter.validateUpdate, ok_iff,
    ConstitutionParameterKey.isHardGuardrail] at hp
  obtain ⟨-, -, -, hkey, -⟩ := hp
  simpa using hkey

theorem setParameter_ensures {c : ConstitutionRegistry} {p : ConstitutionParameter} :
    (setParameter p).Ensures c fun _ c' => c'.assertHardGuardrails = .ok () := by
  simp only [setParameter, EStateM.ensures_bind, EStateM.ensures_ofExcept, EStateM.ensures_modify,
    EStateM.ensures_get]
  exact fun _ _ _ h => h

/-- An update governance may make leaves the guardrails alone, so the check after the write
passes. -/
theorem setParameter_fails {c : ConstitutionRegistry} {p : ConstitutionParameter}
    (hp : p.validateUpdate = .ok ()) (hc : c.assertHardGuardrails = .ok ()) :
    (setParameter p).Fails c fun _ _ => False := by
  have hguard : ({ c with parameters := c.parameters.insert p.key p } :
      ConstitutionRegistry).assertHardGuardrails = .ok () := by
    rw [assertHardGuardrails_eq_ok] at hc ⊢
    intro k hk
    have hne : k ≠ p.key := fun h => not_mem_hardGuardrails hp (h ▸ hk)
    simpa only [checkGuardrail, OrdMap.get_insert_of_ne _ hne] using hc k hk
  simp [setParameter, hp, hguard]

end ConstitutionRegistry

namespace GovernanceState

/-- Every stored proposal passed the payload check, and the guardrails stand. -/
structure WellFormed (g : GovernanceState) : Prop where
  payloads : ∀ p ∈ g.proposals, validatePayload p.pType = .ok ()
  guardrails : g.constitution.assertHardGuardrails = .ok ()

theorem wellFormed_default : ({} : GovernanceState).WellFormed where
  payloads := by simp
  guardrails := by decide

variable {g : GovernanceState} {f : Proposal → Proposal}

theorem WellFormed.map (h : g.WellFormed)
    (hf : ∀ p, (f p).pType = p.pType) :
    ({ g with proposals := g.proposals.map f } : GovernanceState).WellFormed where
  payloads p hp := by
    obtain ⟨q, hq, rfl⟩ := List.mem_map.1 hp
    rw [hf]
    exact h.payloads q hq
  guardrails := h.guardrails

theorem mem_modifyFirst {α : Type} {q : α → Bool} {f : α → α} {l : List α} {x : α}
    (h : x ∈ modifyFirst q f l) : x ∈ l ∨ ∃ y ∈ l, q y = true ∧ x = f y := by
  induction l with
  | nil => simp [modifyFirst] at h
  | cons y ys ih =>
    unfold modifyFirst at h
    split_ifs at h with hq
    · obtain rfl | h := List.mem_cons.1 h
      · exact .inr ⟨y, List.mem_cons_self, hq, rfl⟩
      · exact .inl (List.mem_cons_of_mem _ h)
    · obtain rfl | h := List.mem_cons.1 h
      · exact .inl List.mem_cons_self
      · obtain h | ⟨z, hz, hqz, rfl⟩ := ih h
        · exact .inl (List.mem_cons_of_mem _ h)
        · exact .inr ⟨z, List.mem_cons_of_mem _ hz, hqz, rfl⟩

theorem WellFormed.updateProposal (h : g.WellFormed) {id : UInt64}
    (hf : ∀ p ∈ g.proposals, validatePayload (f p).pType = .ok ()) :
    (g.updateProposal id f).WellFormed where
  payloads p hp := by
    obtain hp | ⟨q, hq, -, rfl⟩ := mem_modifyFirst hp
    · exact h.payloads p hp
    · exact hf q hq
  guardrails := h.guardrails

theorem WellFormed.castVote (h : g.WellFormed) {id stake epoch : UInt64} {voter : Address}
    {voteFor : Bool} {g' : GovernanceState}
    (hvote : g.castVote id voter stake voteFor epoch = .ok g') : g'.WellFormed := by
  unfold GovernanceState.castVote at hvote
  split at hvote
  · cases hvote; exact h
  · rename_i p hfind
    simp only [Proposal.addVote, ok_iff] at hvote
    obtain ⟨p', ⟨-, -, -, -, -, -, rfl⟩, rfl⟩ := hvote
    exact h.updateProposal fun _ _ => h.payloads p (List.mem_of_find?_eq_some hfind)

theorem pType_reduceVoteWeight (p : Proposal) (voter : Address) (reduction : UInt64) :
    (p.reduceVoteWeight voter reduction).pType = p.pType := by
  unfold Proposal.reduceVoteWeight
  split
  · rfl
  · dsimp only
    split <;> rfl

theorem pType_finalize (p : Proposal) (stake quorum epoch : UInt64) :
    (p.finalize stake quorum epoch).pType = p.pType := by
  unfold Proposal.finalize
  split <;> rfl

theorem WellFormed.createProposal (h : g.WellFormed) (proposer : Address) (pType : ProposalType)
    (epoch duration : UInt64) :
    (createProposal proposer pType epoch duration).Ensures g fun _ g' => g'.WellFormed := by
  simp only [GovernanceState.createProposal, EStateM.ensures_bind, EStateM.ensures_ofExcept,
    EStateM.ensures_ensure, EStateM.ensures_get, EStateM.ensures_modify, EStateM.ensures_orThrow,
    EStateM.ensures_set, EStateM.ensures_pure, Except.mapError_eq_ok]
  intro _ hpayload _ _ endEpoch _ activation _ nextId _ count _
  refine ⟨fun p hp => ?_, h.guardrails⟩
  obtain hp | rfl := List.mem_append.1 hp |>.imp_right List.mem_singleton.1
  · exact h.payloads p hp
  · exact hpayload

theorem WellFormed.executePassedProposals (h : g.WellFormed) (epoch : UInt64) :
    (g.executePassedProposals epoch).2.WellFormed :=
  h.map fun p => by split <;> rfl

/-- An action block application carries out comes from a stored proposal. -/
theorem exists_of_mem_actions {epoch : UInt64} {action : GovernanceAction}
    (h : action ∈ (g.executePassedProposals epoch).1) :
    ∃ p ∈ g.proposals, p.pType.action = some action := by
  obtain ⟨p, hp, haction⟩ := List.mem_filterMap.1 h
  exact ⟨p, (List.mem_filter.1 hp).1, haction⟩

end GovernanceState

end Budlum
