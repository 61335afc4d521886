import Budlum.Ai.Types

/-!
# The AI registry

Models, requests and the fees put up for them, results, finalized outcomes and the payments agents
hold for each other.

A request's fee is in escrow while the request is *open*: registered, with no outcome, not
cancelled and not reclaimed.  Every way a fee leaves the registry (`submitResult` with an outcome,
`cancelRequest`, `reclaimFee`) closes one open request, and an agent's payment leaves with the
entry that holds it.  The lemmas at the end say so as equations on `openEscrow` and `agentEscrow`.
-/

namespace Budlum

open Except (ensure ofOption ok_iff)

open EStateM

/-- The guest-program builder of the execution layer. -/
structure GuestPrograms where
  /-- The program a model's dimensions build, or why none can be built. -/
  program : AiModelSpec → Except String (List UInt64)
  /-- The proof system's hash of a program. -/
  hash : List UInt64 → Hash32

/-- The AI layer's part of the state. -/
structure AiRegistry where
  models : OrdMap AiModelId AiModelSpec := ∅
  requests : OrdMap AiRequestId AiInferenceRequest := ∅
  results : OrdMap AiRequestId (List AiInferenceResult) := ∅
  outcomes : OrdMap AiRequestId AiInferenceOutcome := ∅
  reclaimedFees : OrdMap AiRequestId Unit := ∅
  equivocationEvents : OrdMap (AiRequestId ×ₗ Address) UInt64 := ∅
  cancelledRequests : OrdMap AiRequestId Unit := ∅
  verifierStakes : OrdMap Address UInt64 := ∅
  verifierEffortCeilings : OrdMap Address EffortTier := ∅
  callbackQueue : OrdMap Address (List AiCallbackEvent) := ∅
  executionProofs : OrdMap (AiRequestId ×ₗ Address) AiExecutionProof := ∅
  verifierQos : OrdMap Address AiVerifierQos := ∅
  agentPayments : OrdMap Hash32 AiAgentPayment := ∅
  settledAgentPayments : OrdMap Hash32 AiAgentPaymentSettlement := ∅
  verifierWhitelist : OrdMap Address Unit := ∅
  deriving DecidableEq, Inhabited

namespace AiRegistry

variable (C : Crypto) (r : AiRegistry)

/-! ### Models -/

/-- A registered program hash is the hash of the program the dimensions build. -/
def checkProgramHash (G : GuestPrograms) (spec : AiModelSpec) : Except String Unit :=
  match spec.executionProgramHash, spec.executionDims with
  | some registered, some _ =>
    match G.program spec with
    | .error e => .error s!"execution_dims do not describe a buildable guest program: {e}"
    | .ok program =>
      let expected := G.hash program
      ensure (decide (registered = expected))
        s!"execution_program_hash {toHex registered} does not match the program execution_dims build ({toHex expected})"
  | _, _ => .ok ()

def registerModel (G : GuestPrograms) (spec : AiModelSpec) : Except String AiRegistry := do
  spec.validate
  ensure (!spec.requireExecutionProof || fullAiStarkVerificationLive)
    "require_execution_proof models are not accepted until full AI STARK verification is live"
  ensure (!spec.requireExecutionProof ||
      (spec.executionProgramHash.isSome && spec.executionDims.isSome))
    "require_execution_proof requires execution_program_hash and execution_dims"
  checkProgramHash G spec
  ensure (!r.models.contains spec.modelId)
    s!"Model ID {toHex spec.modelId} is already registered"
  return { r with models := r.models.insert spec.modelId spec }

/-- Switch a model on or off; only its owner may, and only if it changes something. -/
def setModelActive (modelId : AiModelId) (caller : Address) (active : Bool) (verb already : String) :
    Except String AiRegistry := do
  let spec ← ofOption (r.models.get modelId) s!"Model ID {toHex modelId} not found"
  ensure (decide (spec.owner = caller))
    s!"Only the model owner can {verb} model {toHex modelId}"
  ensure (decide (spec.active ≠ active)) s!"Model {toHex modelId} is already {already}"
  return { r with models := r.models.insert modelId { spec with active := active } }

def deactivateModel (modelId : AiModelId) (caller : Address) : Except String AiRegistry :=
  r.setModelActive modelId caller false "deactivate" "inactive"

def reactivateModel (modelId : AiModelId) (caller : Address) : Except String AiRegistry :=
  r.setModelActive modelId caller true "reactivate" "active"

/-! ### Verifiers -/

def verifierStake (verifier : Address) : UInt64 := r.verifierStakes.getD verifier 0

/-- Staked, and on the whitelist if there is one. -/
def isVerifierAuthorized (verifier : Address) : Bool :=
  decide (minVerifierStake ≤ r.verifierStake verifier) &&
    (decide (r.verifierWhitelist.size = 0) || r.verifierWhitelist.contains verifier)

def effortCeiling (verifier : Address) : EffortTier :=
  r.verifierEffortCeilings.getD verifier defaultOperatorCeiling

def authorizedCeilings : List EffortTier :=
  (r.verifierStakes.keys.filter r.isVerifierAuthorized).map r.effortCeiling

/-- Why no authorized operator serves a tier. -/
def unservableReason (tier : EffortTier) : Option String :=
  let ceilings := r.authorizedCeilings
  if ceilings.isEmpty || ceilings.any tier.servableBy then none
  else
    let deeper (a b : EffortTier) : EffortTier := if a.tenths ≤ b.tenths then b else a
    let best := (ceilings.tail.foldl deeper (ceilings.headD defaultOperatorCeiling))
    some s!"effort tier {tier.display} exceeds every declared operator ceiling (deepest {best.display})"

def lockVerifierStake (verifier : Address) (amount : UInt64) : Except String AiRegistry := do
  ensure (decide (amount ≠ 0)) "Verifier stake must be > 0"
  let stake := (r.verifierStake verifier).saturatingAdd amount
  return { r with verifierStakes := r.verifierStakes.insert verifier stake }

/-- An equivocation of the verifier can still be disputed. -/
def hasPendingDispute (verifier : Address) (currentBlock : UInt64) : Bool :=
  r.equivocationEvents.entries.any fun (k, detected) =>
    decide ((ofLex k).2 = verifier) &&
      decide (currentBlock ≤ detected.saturatingAdd disputeWindowBlocks)

def withdrawVerifierStake (verifier : Address) (amount currentBlock : UInt64) :
    Except String AiRegistry := do
  ensure (!r.hasPendingDispute verifier currentBlock)
    s!"Cannot withdraw stake: verifier {toHex verifier} has pending equivocation disputes"
  let current ← ofOption (r.verifierStakes.get verifier)
    s!"No stake found for verifier {toHex verifier}"
  ensure (decide (amount ≤ current)) s!"Withdrawal {amount} exceeds staked amount {current}"
  let remaining := current.saturatingSub amount
  if remaining = 0 then
    return { r with
      verifierStakes := r.verifierStakes.erase verifier
      verifierEffortCeilings := r.verifierEffortCeilings.erase verifier }
  else
    return { r with verifierStakes := r.verifierStakes.insert verifier remaining }

/-- Take the stake of a verifier whose equivocation is on record. -/
def slashEquivocator (requestId : AiRequestId) (verifier : Address) (currentBlock : UInt64) :
    Except String AiRegistry := do
  let detected ← ofOption (r.equivocationEvents.get (toLex (requestId, verifier)))
    s!"No equivocation record for verifier {toHex verifier} on request {toHex requestId}"
  ensure (decide (currentBlock ≤ detected.saturatingAdd disputeWindowBlocks))
    s!"Dispute window expired for verifier {toHex verifier} on request {toHex requestId} (detected at block {detected}, window {disputeWindowBlocks} blocks)"
  return { r with
    equivocationEvents := r.equivocationEvents.erase (toLex (requestId, verifier))
    verifierStakes := r.verifierStakes.erase verifier
    verifierEffortCeilings := r.verifierEffortCeilings.erase verifier }

/-- The verifier's equivocation is on record and can still be acted on. -/
def isDisputable (requestId : AiRequestId) (verifier : Address) (currentBlock : UInt64) : Bool :=
  (r.equivocationEvents.get (toLex (requestId, verifier))).any fun detected =>
    decide (currentBlock ≤ detected.saturatingAdd disputeWindowBlocks)

/-- Forget the equivocations whose dispute window is over. -/
def expireDisputeWindow (currentBlock : UInt64) : AiRegistry :=
  { r with equivocationEvents := r.equivocationEvents.filter fun _ detected =>
      decide (currentBlock ≤ detected.saturatingAdd disputeWindowBlocks) }

def whitelistVerifier (verifier : Address) : AiRegistry :=
  { r with verifierWhitelist := r.verifierWhitelist.insert verifier () }

def dewhitelistVerifier (verifier : Address) : AiRegistry :=
  { r with verifierWhitelist := r.verifierWhitelist.erase verifier }

/-! ### Requests -/

/-- The request is settled: its fee has left the registry. -/
def isSettled (id : AiRequestId) : Bool :=
  r.outcomes.contains id || r.cancelledRequests.contains id || r.reclaimedFees.contains id

/-- The last block a result for the request may arrive at. -/
def resultDeadline (spec : AiModelSpec) (request : AiInferenceRequest) : UInt64 :=
  request.submittedAtBlock.saturatingAdd spec.resultDeadlineBlocks

/-- The declared read is one the model allows, and the commitment is the canonical one. -/
def admitInferenceRequest (request : AiInferenceRequest) : Except String Unit := do
  let perception ← ofOption request.perception
    "an inference request must carry a perception declaration (V3)"
  let modalities := (r.models.get request.modelId).elim 0 (·.modalities)
  ensure (ModalitySet.declaresModality modalities perception.kind)
    s!"model {toHex request.modelId} did not declare the {perception.kind.debug} modality"
  perception.checkAdmissible modalities
  let dataRef ← MarketplaceRegistry.decodeAiDataInputRef request.inputRef
  ensure (dataRef.all fun d => decide (d.1 = perception.assetId))
    "the perception declaration and input_ref point at different assets"
  ensure (decide (request.inputCommitment = canonicalInputCommitment C request.inputRef))
    "input_commitment does not match the canonical preimage"

def submitRequest (request : AiInferenceRequest) (currentBlock : UInt64) :
    Except String AiRegistry := do
  ensure (request.verifyId C) "Request ID does not match canonical preimage"
  let horizon := maxDeadlineHorizonBlocks
  ensure (decide (request.submittedAtBlock ≤ currentBlock.saturatingAdd horizon ∧
      currentBlock ≤ request.submittedAtBlock.saturatingAdd horizon))
    s!"Request submitted_at_block {request.submittedAtBlock} is outside the {horizon}-block window around current block {currentBlock}"
  r.admitInferenceRequest C request
  let spec ← ofOption (r.models.get request.modelId)
    s!"Model ID {toHex request.modelId} not registered"
  ensure spec.active "Model is inactive"
  ensure (decide (request.inputRef.length ≤ spec.maxInputRefBytes.toNat))
    "input_ref exceeds model specification limits"
  ensure (!r.requests.contains request.requestId)
    s!"Request ID {toHex request.requestId} already exists"
  ensure (decide (request.maxFee ≠ 0))
    "max_fee must be >= 1 (zero-fee requests not allowed)"
  ensure (decide (currentBlock ≤ request.deadlineBlock))
    s!"Request deadline exceeded: current_block={currentBlock}, deadline_block={request.deadlineBlock}"
  ensure (decide (request.deadlineBlock ≤ currentBlock.saturatingAdd horizon))
    s!"Request deadline too far in the future: deadline_block={request.deadlineBlock}, maximum is {horizon} blocks from current_block={currentBlock}"
  match r.unservableReason request.effort with
  | some reason => .error s!"Request is unservable: {reason}"
  | none => return { r with requests := r.requests.insert request.requestId request }

def reclaimFee (id : AiRequestId) (currentBlock : UInt64) :
    Except String (Address × UInt64 × AiRegistry) := do
  let request ← ofOption (r.requests.get id) s!"Request {toHex id} not found"
  ensure (!r.outcomes.contains id)
    s!"Request {toHex id} has been finalized - fee belongs to verifiers"
  ensure (!r.reclaimedFees.contains id) s!"Request {toHex id} fee already reclaimed"
  ensure (!r.cancelledRequests.contains id)
    s!"Request {toHex id} was cancelled - fee already refunded"
  let spec ← ofOption (r.models.get request.modelId) "Associated model for request not found"
  let effectiveDeadline := max request.deadlineBlock (resultDeadline spec request)
  ensure (decide (effectiveDeadline < currentBlock))
    s!"Request {toHex id} not yet expired: current_block={currentBlock}, effective_deadline={effectiveDeadline}"
  return (request.requester, request.maxFee,
    { r with reclaimedFees := r.reclaimedFees.insert id () })

/-- The requester takes the request and its fee back. -/
def cancelRequest (id : AiRequestId) (caller : Address) :
    Except String (Address × UInt64 × AiRegistry) := do
  let request ← ofOption (r.requests.get id) s!"Request {toHex id} not found"
  ensure (decide (request.requester = caller))
    s!"Only the requester can cancel request {toHex id}"
  ensure (!r.outcomes.contains id)
    s!"Request {toHex id} has been finalized - cannot cancel"
  ensure (!r.reclaimedFees.contains id)
    s!"Request {toHex id} fee already reclaimed - cannot cancel"
  ensure (!r.cancelledRequests.contains id) s!"Request {toHex id} already cancelled"
  return (request.requester, request.maxFee,
    { r with cancelledRequests := r.cancelledRequests.insert id () })

/-! ### Results and outcomes -/

def hasExecutionProof (id : AiRequestId) (verifier : Address) : Bool :=
  r.executionProofs.contains (toLex (id, verifier))

/-- Queue a callback event, keeping the newest ones. -/
def enqueueCallbackEvent (address : Address) (event : AiCallbackEvent) : AiRegistry :=
  let queue := r.callbackQueue.getD address [] ++ [event]
  { r with callbackQueue :=
      r.callbackQueue.insert address (queue.drop (queue.length - maxCallbackEventsPerAddress)) }

/-- Change the service record of a verifier that has one. -/
def updateQos (f : AiVerifierQos → AiVerifierQos) (r : AiRegistry) (verifier : Address) :
    AiRegistry :=
  match r.verifierQos.get verifier with
  | some q => { r with verifierQos := r.verifierQos.insert verifier (f q) }
  | none => r

/-- Record an outcome: the verifiers' records, and the callback if there is one. -/
def recordOutcome (outcome : AiInferenceOutcome) : AiRegistry :=
  let r' := { r with outcomes := r.outcomes.insert outcome.requestId outcome }
  let r' := outcome.agreeingVerifiers.foldl (updateQos AiVerifierQos.recordFinalization) r'
  match outcome.callback with
  | some address => r'.enqueueCallbackEvent address
      ⟨outcome.requestId, outcome.outputCommitment, outcome.finalizedAtBlock, address⟩
  | none => r'

/-- The service record of a verifier, a new one if there is none. -/
def qosOf (verifier : Address) : AiVerifierQos :=
  r.verifierQos.getD verifier (AiVerifierQos.new verifier)

/-- The verifier contradicted its own earlier result. -/
def flagEquivocation (id : AiRequestId) (verifier : Address) (currentBlock : UInt64) : AiRegistry :=
  { r with
    equivocationEvents := r.equivocationEvents.insert (toLex (id, verifier)) currentBlock
    verifierQos := r.verifierQos.insert verifier (r.qosOf verifier).recordEquivocation }

/-- Verifiers whose results carry the commitment, and a proof where the model asks for one. -/
def agreeing (spec : AiModelSpec) (id : AiRequestId) (commitment : Hash32)
    (entries : List AiInferenceResult) : List Address :=
  ((entries.filter fun e => decide (e.outputCommitment = commitment)).map (·.verifier)).filter
    fun v => !spec.requireExecutionProof || r.hasExecutionProof id v

/-- The checks on a result before it is compared with the verifier's earlier ones. -/
def checkResult (result : AiInferenceResult) (currentBlock : UInt64) :
    Except String (AiInferenceRequest × AiModelSpec) := do
  ensure (r.isVerifierAuthorized result.verifier)
    s!"Verifier {toHex result.verifier} is not authorized to submit AI results"
  let request ← ofOption (r.requests.get result.requestId)
    s!"Request ID {toHex result.requestId} not found"
  ensure (decide (result.submittedAtBlock = currentBlock))
    s!"Result submitted_at_block {result.submittedAtBlock} is not the current block {currentBlock}"
  let spec ← ofOption (r.models.get request.modelId) "Associated model for request not found"
  ensure (decide (result.outputRef.length ≤ spec.maxOutputRefBytes.toNat))
    "output_ref exceeds model specification limits"
  ensure (decide (currentBlock ≤ request.deadlineBlock))
    s!"Result submitted after request deadline: current_block={currentBlock}, deadline_block={request.deadlineBlock}"
  let deadline := resultDeadline spec request
  ensure (decide (currentBlock ≤ deadline))
    s!"Result deadline exceeded: current_block={currentBlock}, result_deadline={deadline}"
  ensure (decide (result.resultNonce ≠ 0)) "result_nonce must be >= 1 (zero is invalid)"
  return (request, spec)

/-- A verifier answers a request once; a second, different answer is put on record.  What was
written before a refusal stays. -/
def rejectRepeated (entries : List AiInferenceResult) (result : AiInferenceResult)
    (currentBlock : UInt64) : EStateM (Fault String) AiRegistry Unit :=
  match entries.find? fun e => decide (e.verifier = result.verifier) with
  | none => pure ()
  | some existing =>
    if existing.outputCommitment = result.outputCommitment then
      throw (.fail "Verifier has already submitted a result for this request")
    else do
      modify fun r => r.flagEquivocation result.requestId result.verifier currentBlock
      throw (.fail s!"{equivocationErrorPrefix} verifier Address({toHex result.verifier}) submitted conflicting commitments for request {toHex result.requestId} - dispute flagged")

/-- Finalize the request if enough verifiers agree with this result. -/
def finalizeAgreement (request : AiInferenceRequest) (spec : AiModelSpec)
    (result : AiInferenceResult) (entries : List AiInferenceResult) :
    EStateM (Fault String) AiRegistry (Option AiInferenceOutcome) := do
  let r ← get
  let verifiers := r.agreeing spec result.requestId result.outputCommitment entries
  if spec.agreementThreshold.toNat ≤ verifiers.length % 2 ^ 32 ∧
      r.outcomes.contains result.requestId = false then
    let outcome : AiInferenceOutcome := ⟨result.requestId, result.outputCommitment,
      result.outputRef, verifiers.mergeSort, result.submittedAtBlock, request.callback⟩
    set (r.recordOutcome outcome)
    return some outcome
  else
    return none

/-- A verifier submits a result; the outcome is returned if this one settles the request. -/
def submitResult (result : AiInferenceResult) (currentBlock : UInt64) :
    EStateM (Fault String) AiRegistry (Option AiInferenceOutcome) := do
  let r ← get
  let (request, spec) ← EStateM.ofExcept ((r.checkResult result currentBlock).mapError .fail)
  let entries := r.results.getD result.requestId []
  modify fun r => { r with results := r.results.insert result.requestId entries }
  rejectRepeated entries result currentBlock
  EStateM.ensure (!r.cancelledRequests.contains result.requestId)
    (.fail s!"Request {toHex result.requestId} has been cancelled - results not accepted")
  EStateM.ensure (!r.reclaimedFees.contains result.requestId)
    (.fail s!"Request {toHex result.requestId} fee was reclaimed - results not accepted")
  let entries := entries ++ [result]
  let responseBlocks := result.submittedAtBlock.saturatingSub request.submittedAtBlock
  let qos ← EStateM.orThrow
    ((r.qosOf result.verifier).recordResult responseBlocks result.submittedAtBlock) .panic
  modify fun r => { r with
    results := r.results.insert result.requestId entries
    verifierQos := r.verifierQos.insert result.verifier qos }
  finalizeAgreement request spec result entries

def attachExecutionProof (id : AiRequestId) (verifier : Address) (proof : AiExecutionProof) :
    Except String AiRegistry := do
  ensure (!r.cancelledRequests.contains id)
    s!"Request {toHex id} has been cancelled - proofs not accepted"
  ensure (!r.reclaimedFees.contains id)
    s!"Request {toHex id} fee was reclaimed - proofs not accepted"
  let results ← ofOption (r.results.get id) s!"No results found for request {toHex id}"
  let result ← ofOption (results.find? fun e => decide (e.verifier = verifier))
    s!"No result from verifier {toHex verifier} for request {toHex id}"
  let request ← ofOption (r.requests.get id) s!"Request {toHex id} not found"
  let report := proof.verifyStructuralWithModel request result (r.models.get request.modelId)
  ensure report.isStructurallyValid
    (if proof.outputCommitment ≠ result.outputCommitment then
      s!"Execution proof output_commitment mismatch: proof={(hashBytes proof.outputCommitment).map UInt8.toNat} result={(hashBytes result.outputCommitment).map UInt8.toNat}"
    else s!"Execution proof structural validation failed: {report.debug}")
  return { r with executionProofs := r.executionProofs.insert (toLex (id, verifier)) proof }

/-- The verifiers behind each commitment, proofs permitting. -/
def votesByCommitment (spec : AiModelSpec) (id : AiRequestId) (entries : List AiInferenceResult) :
    OrdMap Hash32 (List Address) :=
  (entries.filter fun e => !spec.requireExecutionProof || r.hasExecutionProof id e.verifier).foldl
    (fun m e => m.insert e.outputCommitment (m.getD e.outputCommitment [] ++ [e.verifier])) ∅

/-- The first of the largest groups that reach the threshold. -/
def bestGroup (threshold : UInt32) (groups : OrdMap Hash32 (List Address)) :
    Option (Hash32 × List Address) :=
  groups.entries.foldl
    (fun best g =>
      if threshold.toNat ≤ g.2.length % 2 ^ 32 ∧ best.all (fun b => decide (b.2.length < g.2.length))
      then some g else best) none

/-- The outcome the attached proofs allow, if the request is still open. -/
def outcomeWithProofs (id : AiRequestId) : Option AiInferenceOutcome :=
  if r.isSettled id then none
  else do
    let request ← r.requests.get id
    let spec ← r.models.get request.modelId
    let entries ← r.results.get id
    let best ← bestGroup spec.agreementThreshold (r.votesByCommitment spec id entries)
    let ref := (entries.find? fun e => decide (e.outputCommitment = best.1)).elim [] (·.outputRef)
    let finalizedAt := (entries.map (·.submittedAtBlock)).foldl max 0
    return ⟨id, best.1, ref, best.2.mergeSort, finalizedAt, request.callback⟩

def tryFinalizeWithProofs (id : AiRequestId) : AiRegistry :=
  match r.outcomeWithProofs id with
  | some outcome => r.recordOutcome outcome
  | none => r

/-! ### Maintenance -/

/-- A request without an outcome whose deadlines and retention are over. -/
def requestExpired (currentBlock retention : UInt64) (id : AiRequestId)
    (request : AiInferenceRequest) : Bool :=
  let deadline := (r.models.get request.modelId).elim 0 (resultDeadline · request)
  !r.outcomes.contains id &&
    decide ((max request.deadlineBlock deadline).saturatingAdd retention < currentBlock)

/-- Drop expired requests, old outcomes, old callback events and the proofs that go with them. -/
def pruneExpired (currentBlock retention : UInt64) : AiRegistry :=
  let old (block : UInt64) : Bool := decide (block.saturatingAdd retention < currentBlock)
  let expired := r.requests.filter (r.requestExpired currentBlock retention)
  let oldOutcomes := r.outcomes.filter fun _ o => old o.finalizedAtBlock
  let kept := r.requests.filter fun id _ => !expired.contains id
  let gone (id : AiRequestId) : Bool := expired.contains id || oldOutcomes.contains id
  { r with
    requests := kept.filter fun id _ => !oldOutcomes.contains id
    results := r.results.filter fun id _ => !gone id
    outcomes := r.outcomes.filter fun id _ => !oldOutcomes.contains id
    reclaimedFees := r.reclaimedFees.filter fun id _ => kept.contains id
    cancelledRequests := r.cancelledRequests.filter fun id _ => kept.contains id
    callbackQueue := (r.callbackQueue.map fun _ events =>
      events.filter fun e => !old e.finalizedAtBlock).filter fun _ events => !events.isEmpty
    executionProofs := r.executionProofs.filter fun k _ => !gone (ofLex k).1 }

/-- An operator still answers for a result or an equivocation. -/
def operatorHasOpenObligations (operator : Address) (currentBlock : UInt64) : Bool :=
  let openResult (id : AiRequestId) (results : List AiInferenceResult) : Bool :=
    let own := results.filter fun e => decide (e.verifier = operator)
    if own.isEmpty then false
    else if own.any fun e =>
        decide (currentBlock ≤ e.submittedAtBlock.saturatingAdd disputeWindowBlocks) then true
    else if r.isSettled id then false
    else match r.requests.get id with
      | none => false
      | some request =>
        let deadline := (r.models.get request.modelId).elim request.deadlineBlock
          (resultDeadline · request)
        decide (currentBlock ≤ max request.deadlineBlock deadline)
  (r.results.entries.any fun e => openResult e.1 e.2) || r.hasPendingDispute operator currentBlock

/-! ### Payments between agents -/

/-- A proof-gated payment names a registered request. -/
def checkProofGate (payment : AiAgentPayment) : Except String Unit :=
  if payment.requireProof then
    match payment.requestId with
    | some id => ensure (r.requests.contains id)
        s!"Agent payment: request {toHex id} not found for proof-gated escrow"
    | none => .error "Agent payment: require_proof requires a linked request_id"
  else .ok ()

def submitAgentPayment (payment : AiAgentPayment) (currentBlock : UInt64) :
    Except String AiRegistry := do
  ensure (decide (payment.fromAgent ≠ payment.toAgent))
    "Agent payment: from_agent and to_agent must differ"
  ensure (decide (payment.amount ≠ 0)) "Agent payment: amount must be greater than zero"
  ensure (decide (payment.expiryBlock ≤ currentBlock.saturatingAdd maxDeadlineHorizonBlocks))
    s!"Agent payment: expiry_block too far in the future (max {maxDeadlineHorizonBlocks} blocks from current)"
  ensure (!payment.isExpired currentBlock)
    "Agent payment: expiry_block already expired (must be in the future)"
  r.checkProofGate payment
  ensure (!(r.agentPayments.contains payment.paymentId ||
      r.settledAgentPayments.contains payment.paymentId))
    "Agent payment: payment_id already exists or was previously settled"
  return { r with agentPayments := r.agentPayments.insert payment.paymentId payment }

/-- The payment under an identifier is over. -/
def archivePayment (id : Hash32) (payment : AiAgentPayment) (settledAtBlock : UInt64)
    (status : AiPaymentEscrowStatus) : AiRegistry :=
  { r with
    agentPayments := r.agentPayments.erase id
    settledAgentPayments :=
      r.settledAgentPayments.insert payment.paymentId ⟨payment, settledAtBlock, status⟩ }

/-- The linked request is answered, by the payee, with a proof where one is required. -/
def checkRelease (payment : AiAgentPayment) : Except String Unit :=
  match payment.requestId with
  | none => .error "Agent payment: cannot release non-escrowed payment (already available)"
  | some id => do
    let outcome ← ofOption (r.outcomes.get id)
      "Agent payment: linked request has no finalized outcome yet"
    ensure (decide (payment.toAgent ∈ outcome.agreeingVerifiers))
      "Agent payment: recipient is not an agreeing verifier for this outcome"
    ensure (!payment.requireProof || r.hasExecutionProof id payment.toAgent)
      "Agent payment: execution proof required but not attached"

def releaseAgentPayment (id : Hash32) (currentBlock : UInt64) :
    Except String (Address × AiRegistry) := do
  let payment ← ofOption (r.agentPayments.get id) "Agent payment: payment_id not found"
  ensure (!payment.isExpired currentBlock) "Agent payment: payment has expired, use reclaim"
  r.checkRelease payment
  return (payment.toAgent, r.archivePayment id payment currentBlock .released)

def reclaimAgentPayment (id : Hash32) (claimant : Address) (currentBlock : UInt64) :
    Except String (UInt64 × AiRegistry) := do
  let payment ← ofOption (r.agentPayments.get id) "Agent payment: payment_id not found"
  ensure (decide (payment.fromAgent = claimant)) "Agent payment: only the sender can reclaim"
  ensure (payment.isExpired currentBlock)
    "Agent payment: payment has not expired yet, cannot reclaim"
  return (payment.amount, r.archivePayment id payment currentBlock .reclaimed)

def settleAgentPaymentImmediate (id : Hash32) (settledAtBlock : UInt64) :
    Except String AiRegistry := do
  let payment ← ofOption (r.agentPayments.get id)
    "Agent payment: payment_id not found for settle"
  ensure (!payment.isEscrowed) "Agent payment: escrowed payment cannot use immediate settle"
  ensure (!r.settledAgentPayments.contains id) "Agent payment: already settled"
  return r.archivePayment id payment settledAtBlock .settledImmediate

/-! ### Value in escrow -/

/-- The fee a request holds in escrow. -/
def feeHeld (id : AiRequestId) (request : AiInferenceRequest) : Nat :=
  if r.isSettled id then 0 else request.maxFee.toNat

/-- The fees of all open requests. -/
def openEscrow : Nat := r.requests.sumBy r.feeHeld

/-- The amounts of all payments that are held. -/
def agentEscrow : Nat := r.agentPayments.sumBy fun _ p => p.amount.toNat

/-- The fee an agreement frees: that of its request. -/
def feeReleased (outcome : Option AiInferenceOutcome) : Nat :=
  outcome.elim 0 fun o => (r.requests.get o.requestId).elim 0 (·.maxFee.toNat)

variable {C} {r} {entries : List AiInferenceResult} {currentBlock : UInt64}
  {result : AiInferenceResult} {r' : AiRegistry} {payment : AiAgentPayment}

/-- Updating service records touches nothing else. -/
theorem foldl_updateQos (f : AiVerifierQos → AiVerifierQos) (verifiers : List Address)
    (r : AiRegistry) :
    ∃ qos, verifiers.foldl (updateQos f) r = { r with verifierQos := qos } := by
  induction verifiers generalizing r with
  | nil => exact ⟨r.verifierQos, rfl⟩
  | cons v vs ih =>
    obtain ⟨qos, hqos⟩ := ih (updateQos f r v)
    refine ⟨qos, hqos.trans ?_⟩
    unfold updateQos
    split <;> rfl

/-- An outcome is recorded with service records and callback events, and nothing else. -/
theorem recordOutcome_eq (outcome : AiInferenceOutcome) (r : AiRegistry) :
    ∃ qos queue, r.recordOutcome outcome = { r with
      outcomes := r.outcomes.insert outcome.requestId outcome
      verifierQos := qos
      callbackQueue := queue } := by
  obtain ⟨qos, hqos⟩ := foldl_updateQos AiVerifierQos.recordFinalization outcome.agreeingVerifiers
    { r with outcomes := r.outcomes.insert outcome.requestId outcome }
  refine ⟨qos, ?_⟩
  simp only [recordOutcome, hqos]
  split
  · exact ⟨_, rfl⟩
  · exact ⟨_, rfl⟩

theorem rejectRepeated_ensures :
    (rejectRepeated entries result currentBlock).Ensures r fun _ r' => r' = r := by
  unfold rejectRepeated
  split
  · simp
  · split <;> simp

theorem finalizeAgreement_fails {request : AiInferenceRequest} {spec : AiModelSpec} {E : Fault String → AiRegistry → Prop} :
    (finalizeAgreement request spec result entries).Fails r E := by
  simp only [finalizeAgreement, fails_bind, fails_get, ensures_get]
  split <;> simp

theorem agentEscrow_submitAgentPayment
    (h : r.submitAgentPayment payment currentBlock = .ok r') : r'.agentEscrow = r.agentEscrow +
    payment.amount.toNat ∧ r'.openEscrow = r.openEscrow ∧ r'.agentPayments.get payment.paymentId =
    some payment := by
  simp only [submitAgentPayment, ok_iff] at h
  obtain ⟨-, -, -, -, -, -, -, -, -, -, -, hnew, rfl⟩ := h
  have hnone : r.agentPayments.get payment.paymentId = none := by
    have : r.agentPayments.contains payment.paymentId = false := by simp_all
    exact OrdMap.contains_eq_false.1 this
  refine ⟨?_, rfl, OrdMap.get_insert_self ..⟩
  have hsum := OrdMap.sumBy_insert (fun _ p => p.amount.toNat) r.agentPayments payment.paymentId
    payment
  rwa [OrdMap.amountAt_of_none hnone] at hsum

variable {id : Hash32}

theorem agentEscrow_archivePayment (block : UInt64)
    (status : AiPaymentEscrowStatus) (hget : r.agentPayments.get id = some payment) :
    (r.archivePayment id payment block status).agentEscrow + payment.amount.toNat =
    r.agentEscrow := by
  have h := OrdMap.sumBy_erase (fun _ p => p.amount.toNat) r.agentPayments id
  rwa [OrdMap.amountAt_of_get hget] at h

theorem agentEscrow_releaseAgentPayment {payee : Address}
    (h : r.releaseAgentPayment id currentBlock = .ok (payee, r')) : ∃ payment, r.agentPayments.get
    id = some payment ∧ r'.agentEscrow + payment.amount.toNat = r.agentEscrow ∧ r'.openEscrow =
    r.openEscrow := by
  simp only [releaseAgentPayment, ok_iff] at h
  obtain ⟨payment, hget, -, -, -, -, -, rfl⟩ := h
  exact ⟨payment, hget, agentEscrow_archivePayment _ _ hget, rfl⟩

theorem agentEscrow_reclaimAgentPayment {claimant : Address} {amount : UInt64}
    (h : r.reclaimAgentPayment id claimant currentBlock = .ok (amount, r')) : r'.agentEscrow +
    amount.toNat = r.agentEscrow ∧ r'.openEscrow = r.openEscrow := by
  simp only [reclaimAgentPayment, ok_iff] at h
  obtain ⟨payment, hget, -, -, -, -, rfl, rfl⟩ := h
  exact ⟨agentEscrow_archivePayment _ _ hget, rfl⟩

theorem agentEscrow_settleAgentPaymentImmediate {block : UInt64}
    (h : r.settleAgentPaymentImmediate id block = .ok r') : ∃ payment, r.agentPayments.get id = some
    payment ∧ r'.agentEscrow + payment.amount.toNat = r.agentEscrow ∧ r'.openEscrow =
    r.openEscrow := by
  simp only [settleAgentPaymentImmediate, ok_iff] at h
  obtain ⟨payment, hget, -, -, -, -, rfl⟩ := h
  exact ⟨payment, hget, agentEscrow_archivePayment _ _ hget, rfl⟩

end AiRegistry

end Budlum
