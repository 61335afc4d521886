import Budlum.Core.Linked

/-!
# Execution proofs of inference results

The checks a proof passes before it is attached to a result: the public inputs name the model's
program and this chain, the commitments match, the proof system accepts, and sizes are within the
limits of the model's class.
-/

namespace Budlum

open Except (ensure ofOption)

/-- The proof backend the chain accepts. -/
def aiExecutionBackendPlonky3 : String := "Plonky3-Keccak-Goldilocks"

/-- Largest proof a transaction may carry. -/
def maxProofBytes : Nat := 1048576

/-- Largest trace, as a power of two. -/
def maxDegreeBits : UInt32 := 24

def minProofFormatVersion : UInt32 := 1

/-- The envelope is complete and within limits. -/
def ProofEnvelope.validateStructure (e : ProofEnvelope) : Except String Unit := do
  ensure (decide (e.proofBytes.length ≤ maxProofBytes))
    s!"proof too large: {e.proofBytes.length} bytes (max {maxProofBytes})"
  ensure (decide (e.degreeBits ≤ maxDegreeBits))
    s!"degree bits too large: {e.degreeBits} (max {maxDegreeBits})"
  ensure (decide (minProofFormatVersion ≤ e.proofFormatVersion))
    s!"proof format version {e.proofFormatVersion} too old (min {minProofFormatVersion})"
  ensure (!e.backend.isEmpty) "unsupported proof backend: empty"
  ensure (decide (e.backend = aiExecutionBackendPlonky3))
    s!"unsupported proof backend: {e.backend}"
  ensure (!e.p3Version.isEmpty && !e.friParamsId.isEmpty)
    "invalid STARK proof: proof metadata incomplete (p3_version / fri_params_id)"

/-! ### Sizes -/

/-- Parameters of the largest network of a class; there is one class. -/
def maxMlpParams : Nat := 4096

def executionClassName (c : UInt8) : Option String :=
  if c = 1 then some "fixed_point_mlp_v1" else none

/-- Largest proof of a network, smaller than what a transaction may carry. -/
def maxNetworkProofBytes : Nat := 262144

/-- The class of a model bounds the size of its proofs. -/
def checkClassLimit (spec : AiModelSpec) (size : Nat) : Except BudlumError Unit :=
  if spec.executionClass = 0 then .ok ()
  else match executionClassName spec.executionClass with
    | none => .ok ()
    | some name =>
      let maxProof := maxMlpParams * 64
      ensure (decide (size ≤ maxProof)) (.validation "ai_exec_gas_exceeded"
        s!"proof size {size} exceeds class limit {maxProof} (class={name})")

/-- The size bound of a model with registered dimensions.  The gas ceiling passed along with it is
the largest word, so that it never binds. -/
def checkNetworkSize (spec : AiModelSpec) (size : Nat) : Except BudlumError Unit :=
  match spec.executionDims with
  | none => .ok ()
  | some _ =>
    ensure (decide (size ≤ maxNetworkProofBytes)) (.validation "ai_exec_proof_size"
      s!"proof_bytes {size} exceeds MAX_PROOF_BYTES {maxNetworkProofBytes}")

/-! ### The proof -/

namespace AiExecutionProof

variable (L : Linked) (proof : AiExecutionProof)

/-- The proof system accepts the proof for a program and public inputs. -/
def verifyStark (program : List UInt64) (expected : AiExecutionPublicInputs) :
    Except String Unit := do
  ensure (decide (proof.proofBytes.length ≤ maxProofBytes))
    "execution proof_bytes exceed MAX_PROOF_BYTES"
  let envelope ← (L.decode.envelope proof.proofBytes).mapError
    fun e => s!"execution proof deserialize: {e}"
  ensure (decide (envelope.publicInputsHash = L.publicInputsHash expected))
    "execution proof public_inputs_hash mismatch"
  ensure (decide (expected.programHash = proof.programHash))
    "execution proof program_hash != public_inputs.program_hash"
  (L.verifyProof envelope expected program).mapError
    fun e => s!"execution STARK verify failed: {e}"

/-- The structural report with the proof system's answer, when there is a program to ask about. -/
def verifyFull (request : AiInferenceRequest) (result : AiInferenceResult)
    (model : Option AiModelSpec) (stark : Option (List UInt64 × AiExecutionPublicInputs)) :
    ExecutionVerifyReport :=
  let report := proof.verifyStructuralWithModel request result model
  match stark with
  | none => report
  | some (program, inputs) =>
    match proof.verifyStark L program inputs with
    | .ok () => { report with starkOk := some true }
    | .error e => { report with starkOk := some false, starkError := some e }

/-- The program and the public inputs of a model that requires proofs. -/
def starkInputs (chainId : UInt64) (model : Option AiModelSpec) :
    Except BudlumError (Option (List UInt64 × AiExecutionPublicInputs)) :=
  match model with
  | none => .ok none
  | some spec =>
    if !spec.requireExecutionProof then .ok none
    else do
      let claimed ← ofOption proof.publicInputs (.validation "ai_exec_no_public_inputs"
        "proof-required model needs an execution proof carrying its public inputs")
      let registered ← ofOption spec.executionProgramHash
        (.validation "ai_exec_no_program_hash"
          "proof-required model must register execution_program_hash")
      ensure (decide (claimed.programHash = registered)) (.validation "ai_exec_program_hash"
        "public inputs name a different program than the model registered")
      ensure (decide (claimed.exitCode = 0)) (.validation "ai_exec_exit_code"
        "execution proof attests to a failed run")
      ensure (decide (claimed.chainId = chainId)) (.validation "ai_exec_chain_id"
        "public inputs bind the proof to a different chain")
      let program ← (L.guests.program spec).mapError (.validation "ai_exec_program_rebuild")
      return some (program, claimed)

/-- Everything that is checked before a proof is attached. -/
def check (chainId : UInt64) (request : AiInferenceRequest) (result : AiInferenceResult)
    (model : Option AiModelSpec) : Except BudlumError Unit := do
  let stark ← proof.starkInputs L chainId model
  let report := proof.verifyFull L request result model stark
  ensure report.isStructurallyValid (.validation "ai_exec_structural"
    s!"execution proof structural check failed: {report.debug}")
  ensure (decide (report.starkOk ≠ some false)) (.validation "ai_exec_stark"
    (report.starkError.getD "execution STARK verify failed"))
  let size := proof.proofBytes.length
  ensure (decide (size ≤ maxProofBytes)) (.validation "ai_exec_proof_too_large"
    "execution proof_bytes exceed MAX_PROOF_BYTES")
  model.forM (checkClassLimit · size)
  model.forM (checkNetworkSize · size)
  match L.decode.envelope proof.proofBytes with
  | .error _ => .error (.validation "ai_exec_deserialize"
      "proof_bytes is not a valid bud_proof::ProofEnvelope (postcard)")
  | .ok envelope => do
    envelope.validateStructure.mapError (.validation "ai_exec_envelope")
    ensure (decide (envelope.backend = aiExecutionBackendPlonky3))
      (.validation "ai_exec_backend" s!"unsupported proof backend: {envelope.backend}")

end AiExecutionProof

end Budlum
