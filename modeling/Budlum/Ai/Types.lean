import Budlum.Pollen.Marketplace

/-!
# Records of the AI layer

Models, inference requests, the results verifiers submit, finalized outcomes, execution proofs,
payments between agents, and the bookkeeping about verifiers and agents.
-/

namespace Budlum

open Except (ensure)

abbrev AiModelId := Hash32
abbrev AiRequestId := Hash32

/-- Longest input or output reference, in bytes. -/
def maxInferenceRefBytes : Nat := 65536

/-- Blocks an equivocation can be disputed for. -/
def disputeWindowBlocks : UInt64 := 10080

/-- How far from the current block a deadline may lie. -/
def maxDeadlineHorizonBlocks : UInt64 := 5256000

def minVerifierStake : UInt64 := 1000

def maxCallbackEventsPerAddress : Nat := 256

/-- Start of the error an equivocation is reported with. -/
def equivocationErrorPrefix : String := "EQUIVOCATION:"

def isEquivocationError (error : String) : Bool :=
  equivocationErrorPrefix.toList.isPrefixOf error.toList

/-- Proof verification inside the chain is not switched on. -/
def fullAiStarkVerificationLive : Bool := false

/-! ### Effort tiers -/

/-- An effort tier in tenths; only tiers between the floor and the ceiling exist. -/
structure EffortTier where
  tenths : UInt16
  floor_le : 5 ≤ tenths
  le_ceiling : tenths ≤ 100
  deriving DecidableEq

namespace EffortTier

/-- The tier of an ordinary request. -/
def baseline : EffortTier := ⟨10, by decide, by decide⟩

/-- Two bytes, least significant first. -/
def asBytes (t : EffortTier) : Bytes := leBytes 2 t.tenths.toNat

/-- An operator with this ceiling serves the tier. -/
def servableBy (t ceiling : EffortTier) : Bool := decide (t.tenths ≤ ceiling.tenths)

/-- How a tier is printed. -/
def display (t : EffortTier) : String := s!"{t.tenths / 10}.{t.tenths % 10}x"

end EffortTier

/-- The ceiling of an operator that declared none. -/
def defaultOperatorCeiling : EffortTier := EffortTier.baseline

/-! ### Perception -/

/-- What a model is asked to read. -/
inductive PerceptionKind where
  | text
  | image
  | audio
  | video
  deriving DecidableEq, Repr

namespace PerceptionKind

def perceptionTag : PerceptionKind → UInt8
  | text => 1
  | image => 2
  | audio => 3
  | video => 4

/-- Largest input of each kind, in its own unit. -/
def maxUnits : PerceptionKind → UInt32
  | text => 1048576
  | image => 16777216
  | audio => 3600000
  | video => 4096

def perceptionUnit : PerceptionKind → String
  | text => "bytes"
  | image => "pixels"
  | audio => "milliseconds"
  | video => "frames"

/-- The printed name of the kind. -/
def debug : PerceptionKind → String
  | text => "Text"
  | image => "Image"
  | audio => "Audio"
  | video => "Video"

/-- The bit of the kind in a set of modalities. -/
def bit (k : PerceptionKind) : UInt32 := 1 <<< (k.perceptionTag.toUInt32 - 1)

end PerceptionKind

/-- A set of modalities, one bit each. -/
abbrev ModalitySet := UInt32

def ModalitySet.declaresModality (m : ModalitySet) (k : PerceptionKind) : Bool :=
  decide (m &&& k.bit ≠ 0)

/-- What a request declares about the input to be read. -/
structure PerceptionRequest where
  assetId : AssetId
  contentId : ContentId
  kind : PerceptionKind
  declaredUnits : UInt32
  deriving DecidableEq, Repr

/-- The declared read is one the modalities allow, not empty and not too large. -/
def PerceptionRequest.checkAdmissible (p : PerceptionRequest) (m : ModalitySet) :
    Except String Unit := do
  ensure (ModalitySet.declaresModality m p.kind)
    s!"this model was not registered to read {p.kind.debug}; a model handed a modality it does not understand returns confident nonsense rather than an error"
  ensure (decide (p.declaredUnits ≠ 0))
    s!"a {p.kind.debug} read of zero {p.kind.perceptionUnit} is not a read"
  ensure (decide (p.declaredUnits ≤ p.kind.maxUnits))
    s!"{p.kind.debug} input declares {p.declaredUnits} {p.kind.perceptionUnit}, above the {p.kind.maxUnits} {p.kind.perceptionUnit} ceiling"

/-! ### Models and requests -/

structure AiModelSpec where
  modelId : AiModelId
  modelHash : Hash32
  owner : Address
  minVerifierCount : UInt32
  agreementThreshold : UInt32
  maxInputRefBytes : UInt64
  maxOutputRefBytes : UInt64
  requestDeadlineBlocks : UInt64
  resultDeadlineBlocks : UInt64
  version : UInt32
  active : Bool
  requireExecutionProof : Bool
  executionProgramHash : Option Hash32
  executionClass : UInt8
  executionWeightsDigest : Option Hash32
  executionDims : Option (List UInt16)
  modalities : ModalitySet
  deriving DecidableEq, Repr

def AiModelId.of (C : Crypto) (owner : Address) (modelHash : Hash32) (version : UInt32) :
    AiModelId :=
  C.sha256 (textBytes "BDLM_AI_MODEL_V1" ++ hashBytes owner ++ hashBytes modelHash ++
    u32Bytes version)

namespace AiModelSpec

variable (m : AiModelSpec)

/-- The shape of the guest network. -/
def validateDims : Option (List UInt16) → Except String Unit
  | none => .ok ()
  | some dims => do
    ensure (decide (2 ≤ dims.length))
      "execution_dims must contain at least 2 layers (input plus output)"
    ensure (decide (dims.length ≤ 32)) "execution_dims may contain at most 32 layers"
    ensure (decide (0 ∉ dims)) "an execution_dims layer size may not be 0"

/-- The shape of a model. -/
def validate : Except String Unit := do
  ensure (decide (m.minVerifierCount ≠ 0)) "min_verifier_count must be >= 1"
  ensure (decide (m.agreementThreshold ≠ 0 ∧ m.agreementThreshold ≤ m.minVerifierCount))
    "agreement_threshold must be between 1 and min_verifier_count"
  ensure (decide (m.maxInputRefBytes.toNat ≤ maxInferenceRefBytes))
    s!"max_input_ref_bytes exceeds allowed maximum {maxInferenceRefBytes}"
  ensure (decide (m.maxOutputRefBytes.toNat ≤ maxInferenceRefBytes))
    s!"max_output_ref_bytes exceeds allowed maximum {maxInferenceRefBytes}"
  ensure (decide (m.requestDeadlineBlocks ≠ 0 ∧ m.resultDeadlineBlocks ≠ 0))
    "Deadlines must be >= 1 block"
  ensure (decide (m.requestDeadlineBlocks ≤ maxDeadlineHorizonBlocks ∧
      m.resultDeadlineBlocks ≤ maxDeadlineHorizonBlocks))
    s!"Deadline windows must be <= {maxDeadlineHorizonBlocks} blocks"
  validateDims m.executionDims

end AiModelSpec

/-- A request for an inference, with the fee put up for it. -/
structure AiInferenceRequest where
  requestId : AiRequestId
  requester : Address
  modelId : AiModelId
  inputCommitment : Hash32
  inputRef : Bytes
  maxFee : UInt64
  callback : Option Address
  submittedAtBlock : UInt64
  deadlineBlock : UInt64
  perception : Option PerceptionRequest
  effort : EffortTier
  deriving DecidableEq

/-- The commitment an input reference has to carry. -/
def canonicalInputCommitment (C : Crypto) (inputRef : Bytes) : Hash32 :=
  C.sha256 (textBytes "AI_INPUT_COMMIT_V1" ++ inputRef)

def callbackBytes : Option Address → Bytes
  | some a => textBytes "cb" ++ hashBytes a
  | none => textBytes "no_cb"

namespace AiInferenceRequest

variable (C : Crypto) (r : AiInferenceRequest)

/-- The perception part of the identifier's preimage. -/
def perceptionBytes : Option PerceptionRequest → Bytes
  | some p => textBytes "perception" ++ hashBytes p.assetId ++ hashBytes p.contentId ++
      [p.kind.perceptionTag] ++ u32Bytes p.declaredUnits
  | none => textBytes "no_perception"

/-- The identifier the other fields determine. -/
def calculateId : AiRequestId :=
  C.sha256 (textBytes "BDLM_AI_REQUEST_ID_V3" ++ hashBytes r.requester ++ hashBytes r.modelId ++
    hashBytes r.inputCommitment ++ r.inputRef ++ u64Bytes r.maxFee ++ callbackBytes r.callback ++
    u64Bytes r.submittedAtBlock ++ u64Bytes r.deadlineBlock ++ r.effort.asBytes ++
    perceptionBytes r.perception)

def verifyId : Bool := decide (r.requestId = r.calculateId C)

end AiInferenceRequest

structure AiInferenceResult where
  requestId : AiRequestId
  verifier : Address
  outputCommitment : Hash32
  outputRef : Bytes
  resultNonce : UInt64
  signature : Bytes
  submittedAtBlock : UInt64
  deriving DecidableEq

/-- A finalized request. -/
structure AiInferenceOutcome where
  requestId : AiRequestId
  outputCommitment : Hash32
  outputRef : Bytes
  agreeingVerifiers : List Address
  finalizedAtBlock : UInt64
  callback : Option Address
  deriving DecidableEq

/-- A note to the callback address of a finalized request. -/
structure AiCallbackEvent where
  requestId : AiRequestId
  outputCommitment : Hash32
  finalizedAtBlock : UInt64
  callbackAddress : Address
  deriving DecidableEq

/-! ### Execution proofs -/

structure AiExecutionPublicInputs where
  chainId : UInt64
  programHash : Hash32
  initialStateRoot : Hash32
  finalStateRoot : Hash32
  sender : UInt64
  nonce : UInt64
  blockHeight : UInt64
  gasLimit : UInt64
  gasUsed : UInt64
  exitCode : UInt64
  traceLen : UInt64
  eventDigest : Hash32
  stateWritesDigest : Hash32
  deriving DecidableEq, Repr

/-- A proof that a result was computed by the model's guest program. -/
structure AiExecutionProof where
  modelId : AiModelId
  inputCommitment : Hash32
  outputCommitment : Hash32
  programHash : Hash32
  proofBytes : Bytes
  steps : UInt64
  gasUsed : UInt64
  weightsDigest : Option Hash32
  publicInputs : Option AiExecutionPublicInputs
  deriving DecidableEq

/-- What the checks on a proof found. -/
structure ExecutionVerifyReport where
  commitmentsOk : Bool
  modelBound : Bool
  hasProofBytes : Bool
  programHashNonzero : Bool
  programHashMatchesModel : Bool
  weightsBound : Bool
  starkOk : Option Bool := none
  starkError : Option String := none

namespace ExecutionVerifyReport

variable (r : ExecutionVerifyReport)

def isStructurallyValid : Bool :=
  r.commitmentsOk && r.modelBound && r.hasProofBytes && r.programHashNonzero &&
    r.programHashMatchesModel && r.weightsBound

/-- How the report is printed. -/
def debug : String :=
  let starkOk := r.starkOk.elim "None" fun b => s!"Some({b})"
  let starkError := r.starkError.elim "None" fun e => "Some(" ++ e.quote ++ ")"
  s!"ExecutionVerifyReport \x7b commitments_ok: {r.commitmentsOk}, model_bound: {r.modelBound}, has_proof_bytes: {r.hasProofBytes}, program_hash_nonzero: {r.programHashNonzero}, program_hash_matches_model: {r.programHashMatchesModel}, weights_bound: {r.weightsBound}, stark_ok: {starkOk}, stark_error: {starkError} \x7d"

end ExecutionVerifyReport

namespace AiExecutionProof

/-- The proof is about this request and this result. -/
def commitmentsMatch (p : AiExecutionProof) (request : AiInferenceRequest)
    (result : AiInferenceResult) : Bool :=
  decide (p.inputCommitment = request.inputCommitment) &&
    decide (p.outputCommitment = result.outputCommitment) && decide (p.modelId = request.modelId)

/-- A registered digest has to be met exactly; without one only a model that asks for no proof
passes. -/
def bound (model : Option AiModelSpec) (registered : Option Hash32) (carried : Option Hash32) :
    Bool :=
  match registered with
  | some expected => decide (carried = some expected)
  | none => model.all fun m => !m.requireExecutionProof

def verifyStructuralWithModel (p : AiExecutionProof) (request : AiInferenceRequest)
    (result : AiInferenceResult) (model : Option AiModelSpec) : ExecutionVerifyReport where
  commitmentsOk := p.commitmentsMatch request result
  modelBound := decide (p.modelId = request.modelId)
  hasProofBytes := !p.proofBytes.isEmpty
  programHashNonzero := decide (p.programHash ≠ 0)
  programHashMatchesModel :=
    bound model (model.bind (·.executionProgramHash)) (some p.programHash)
  weightsBound := bound model (model.bind (·.executionWeightsDigest)) p.weightsDigest

end AiExecutionProof

/-! ### Payments between agents -/

/-- A payment from one agent to another, held until the linked request is answered. -/
structure AiAgentPayment where
  paymentId : Hash32
  fromAgent : Address
  toAgent : Address
  amount : UInt64
  requestId : Option AiRequestId
  requireProof : Bool
  submittedAtBlock : UInt64
  expiryBlock : UInt64
  deriving DecidableEq, Repr

namespace AiAgentPayment

def isEscrowed (p : AiAgentPayment) : Bool := p.requestId.isSome

def isExpired (p : AiAgentPayment) (currentBlock : UInt64) : Bool :=
  decide (p.expiryBlock < currentBlock)

end AiAgentPayment

inductive AiPaymentEscrowStatus where
  | pending
  | released
  | reclaimed
  | settledImmediate
  deriving DecidableEq, Repr

structure AiAgentPaymentSettlement where
  payment : AiAgentPayment
  settledAtBlock : UInt64
  status : AiPaymentEscrowStatus
  deriving DecidableEq, Repr

/-! ### Standing of verifiers and agents -/

/-- The service record of a verifier. -/
structure AiVerifierQos where
  verifier : Address
  totalResultsSubmitted : UInt64
  successfulFinalizations : UInt64
  equivocationCount : UInt64
  avgResponseBlocks : UInt64
  lastActiveBlock : UInt64
  deriving DecidableEq, Repr

namespace AiVerifierQos

def new (verifier : Address) : AiVerifierQos := ⟨verifier, 0, 0, 0, 0, 0⟩

/-- The running average with one more response, if no intermediate value overflows. -/
def averageWith (q : AiVerifierQos) (responseBlocks : UInt64) : Option UInt64 :=
  if q.totalResultsSubmitted = 0 then some responseBlocks
  else do
    let product ← q.avgResponseBlocks.checkedMul q.totalResultsSubmitted
    let sum ← product.checkedAdd responseBlocks
    let count ← q.totalResultsSubmitted.checkedAdd 1
    return sum / count

/-- One more result; `none` is an overflow. -/
def recordResult (q : AiVerifierQos) (responseBlocks currentBlock : UInt64) :
    Option AiVerifierQos := do
  let average ← q.averageWith responseBlocks
  let total ← q.totalResultsSubmitted.checkedAdd 1
  return { q with
    avgResponseBlocks := average, totalResultsSubmitted := total, lastActiveBlock := currentBlock }

def recordFinalization (q : AiVerifierQos) : AiVerifierQos :=
  { q with successfulFinalizations := q.successfulFinalizations.saturatingAdd 1 }

def recordEquivocation (q : AiVerifierQos) : AiVerifierQos :=
  { q with equivocationCount := q.equivocationCount.saturatingAdd 1 }

end AiVerifierQos

end Budlum
