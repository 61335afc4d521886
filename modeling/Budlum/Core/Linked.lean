import Budlum.Core.Governance
import Budlum.Core.Transaction
import Budlum.Registry.Permissionless

/-!
# The linked libraries

What block application takes from outside the node: key formats and the pairing library, decoders
of transaction payloads, the contract machine, the proof system and the neural guest programs.
Nothing is assumed about any of them here; a result that needs one of their documented properties
says so.
-/

namespace Budlum

/-- The words of a transaction a contract can read. -/
structure TxContext where
  sender : UInt64
  nonce : UInt64
  blockHeight : UInt64
  deriving DecidableEq

/-- The proof system's envelope around a proof. -/
structure ProofEnvelope where
  proofFormatVersion : UInt32
  backend : String
  p3Version : String
  friParamsId : String
  publicInputsHash : Hash32
  proofBytes : Bytes
  degreeBits : UInt32
  deriving DecidableEq

/-- The decoders of transaction payloads, each the value or the text of the error. -/
structure Decoders where
  bnsRegister : Bytes → Except String (String × UInt64)
  bnsSetContent : Bytes → Except String (String × ContentId)
  bnsRegisterSubdomain : Bytes → Except String (String × String × Address)
  bnsSetStorage : Bytes → Except String (String × Hash32 × UInt32)
  nftMint : Bytes → Except String (ContentId × Option String)
  nftTransfer : Bytes → Except String (UInt64 × Address)
  nftBurn : Bytes → Except String UInt64
  merkleProof : Bytes → Except String MerkleProof
  proposal : Bytes → Except String ProposalType
  envelope : Bytes → Except String ProofEnvelope

/-- Everything block application calls that is not part of the node. -/
structure Linked extends Crypto where
  decode : Decoders
  /-- `schnorrkel::PublicKey::from_bytes` accepts the key. -/
  vrfKeyValid : Bytes → Bool
  /-- The proof of possession of a BLS key by an address on a chain. -/
  verifyPop : (blsPublicKey popSignature : Bytes) → (chainId : UInt64) → Address → Bool
  /-- The post-quantum key check of the configured backend. -/
  validatePqKey : Bytes → Except String Unit
  encodeReport : SlashingReport → Bytes
  /-- The serialized form of the evidence in a block. -/
  encodeEvidence : List SlashingEvidence → Bytes
  /-- A contract run under a gas limit: the events it emitted. -/
  executeBytecode : Bytes → UInt64 → TxContext → Except String (List UInt64)
  guests : GuestPrograms
  publicInputsHash : AiExecutionPublicInputs → Hash32
  verifyProof : ProofEnvelope → AiExecutionPublicInputs → (program : List UInt64) →
    Except String Unit

/-- Stand-ins to evaluate definitions with: one digest for everything, nothing decodes, and every
signature is good except under the all-zero key. -/
def Linked.sample : Linked where
  sha256 _ := 1
  sha3 _ := 1
  verifySignature _ _ key := Except.ensure (decide (key ≠ hashBytes Address.zero)) "weak key"
  verifyMlDsa _ _ _ := .ok ()
  decode :=
    { bnsRegister := fun _ => .error "", bnsSetContent := fun _ => .error ""
      bnsRegisterSubdomain := fun _ => .error "", bnsSetStorage := fun _ => .error ""
      nftMint := fun _ => .error "", nftTransfer := fun _ => .error ""
      nftBurn := fun _ => .error "", merkleProof := fun _ => .error ""
      proposal := fun _ => .error "", envelope := fun _ => .error "" }
  vrfKeyValid _ := true
  verifyPop _ _ _ _ := true
  validatePqKey _ := .ok ()
  encodeReport _ := []
  encodeEvidence _ := []
  executeBytecode _ _ _ := .ok []
  guests := { program := fun _ => .ok [], hash := fun _ => 1 }
  publicInputsHash _ := 1
  verifyProof _ _ _ := .ok ()

/-- A transaction with its own hash and an empty signature, to evaluate definitions with. -/
def Transaction.sample (sender : Address) (nonce : UInt64) (txType : TransactionType) :
    Transaction :=
  let tx : Transaction := ⟨sender, Address.zero, 0, 1, 0, 0, nonce, [], 0, "", some [], [], none,
    defaultChainId, signatureVersionV4, txType⟩
  { tx with hash := tx.calculateHash Linked.sample.toCrypto }

/-- The signature scheme validators register their BLS keys for. -/
def blsSchemeRfc9380V1 : String := "BLS_SIG_BLS12381G1_XMD:SHA-256_SSWU_RO_POP_"

/-- The keys are well formed and the BLS key is the validator's own. -/
def ConsensusKeyRegistration.validate (L : Linked) (r : ConsensusKeyRegistration)
    (validator : Address) (chainId : UInt64) : Except String Unit := do
  Except.ensure (decide (r.schemeId = blsSchemeRfc9380V1))
    s!"Expected BLS scheme {blsSchemeRfc9380V1}, got {r.schemeId}"
  Except.ensure (L.vrfKeyValid r.vrfPublicKey)
    "VRF public key must be a valid 32-byte Ristretto key"
  Except.ensure (L.verifyPop r.blsPublicKey r.popSignature chainId validator)
    "BLS public key or RFC 9380 proof of possession is invalid"
  L.validatePqKey r.pqPublicKey

end Budlum
