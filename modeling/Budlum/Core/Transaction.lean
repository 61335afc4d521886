import Budlum.Ai.Registry
import Budlum.Bns.Registry
import Budlum.Budlumxyz.Registry
import Budlum.CrossDomain.Bridge
import Budlum.Privacy.Notes
import Budlum.Registry.Identity
import Budlum.SocialFi.Registry

/-!
# Transactions and blocks

Every kind of transaction, the preimage a signer signs, and the signature check; and the blocks.

A transaction is signed in one of three ways: with an Ed25519 key that is the address itself
(version 4), with an ML-DSA-87 key whose hash is the address (version 5), or by a quorum of
ML-DSA-87 keys whose set hashes to the address (version 6).  The all-zero address is allowed one
transaction only, the genesis transaction, which carries no signature.
-/

namespace Budlum

/-- 128-bit words. -/
abbrev U128 := Fin (2 ^ 128)

instance U128.neZero : NeZero (2 ^ 128) := inferInstance

/-- The chain identifier the constructors use. -/
def defaultChainId : UInt64 := 45262

def signatureVersionV4 : UInt32 := 4
def signatureVersionV5 : UInt32 := 5
def signatureVersionV6 : UInt32 := 6

def mlDsa87SchemeId : String := "ml-dsa-87-fips204-v1"

/-! ### Relayed transactions -/

/-- A chain outside the network. -/
inductive ExternalChain where
  | ethereum
  | solana
  | bitcoin
  | avalanche
  | polygon
  | arbitrum
  | optimism
  | custom (id : UInt32)
  deriving DecidableEq, Repr

namespace ExternalChain

def domainId : ExternalChain → DomainId
  | ethereum => 1
  | solana => 2
  | bitcoin => 3
  | avalanche => 4
  | polygon => 5
  | arbitrum => 6
  | optimism => 7
  | custom id => id

/-- The position of the constructor. -/
def index : ExternalChain → Nat
  | ethereum => 0
  | solana => 1
  | bitcoin => 2
  | avalanche => 3
  | polygon => 4
  | arbitrum => 5
  | optimism => 6
  | custom _ => 7

def payload : ExternalChain → Bytes
  | custom id => u32Bytes id
  | _ => []

end ExternalChain

/-- A transaction to be carried to another chain. -/
structure ExternalTransaction where
  chain : ExternalChain
  targetAddress : String
  payload : Bytes
  externalNonce : UInt64
  deriving DecidableEq

/-- What a relayer reports about another chain. -/
structure RelayerExternalResult where
  chain : ExternalChain
  txHash : String
  success : Bool
  message : Option CrossDomainMessage
  receiptProof : Bytes
  externalStateRoot : Hash32
  deriving DecidableEq

/-- The leaf that has to be proved under the external state root. -/
def RelayerExternalResult.resultLeaf (C : Crypto) (r : RelayerExternalResult) : Hash32 :=
  C.sha256 (textBytes "BDLM_RELAYER_RESULT_V2" ++ leBytes 4 r.chain.index ++ r.chain.payload ++
    textBytes r.txHash ++ boolByte r.success ++ r.message.elim [] fun m => hashBytes m.messageId)

structure ConsensusKeyRegistration where
  schemeId : String
  vrfPublicKey : Bytes
  blsPublicKey : Bytes
  popSignature : Bytes
  pqPublicKey : Bytes
  deriving DecidableEq

/-! ### Kinds of transactions -/

inductive TransactionType where
  | transfer
  | stake
  | unstake
  | vote
  | contractCall
  | bnsRegister
  | bnsSetContent
  | bnsRegisterSubdomain
  | bnsSetStorage
  | nftMint
  | nftTransfer
  | nftBurn
  | nftBoost (nftId amount : UInt64)
  | nftUpdateLight (nftId : UInt64) (deltaMcd : Int64)
  | nftTag (nftId : UInt64) (tag : String)
  | universalRelay (ext : ExternalTransaction)
  | relayerResult (res : RelayerExternalResult)
  | aiOfferData (cid : ContentId) (price : UInt64)
  | aiPurchaseData (offerId : UInt64)
  | budlumxyzRegisterApp (name : String) (category : AppCategory) (websiteUrl : String)
      (manifestId : Option ContentId)
  | budlumxyzAttestApp (appId : UInt64)
  | aiModelRegister (spec : AiModelSpec)
  | aiInferenceRequest (request : AiInferenceRequest)
  | aiInferenceResult (result : AiInferenceResult)
  | aiFeeReclaim (requestId : AiRequestId)
  | aiModelDeactivate (modelId : AiModelId)
  | aiModelReactivate (modelId : AiModelId)
  | aiRequestCancel (requestId : AiRequestId)
  | pollenRegisterDataAsset (asset : DataAsset)
  | pollenAuthorizeSale (authorization : SaleAuthorization)
  | pollenGrantAccess (grant : AccessGrant)
  | pollenRevokeGrant (grantId : AssetId)
  | pollenRevokeDataAsset (assetId : AssetId)
  | aiDisputeSlash (requestId : AiRequestId) (verifier : Address)
  | aiAgentPayment (payment : AiAgentPayment)
  | aiAgentPaymentRelease (paymentId : Hash32)
  | aiAgentPaymentReclaim (paymentId : Hash32)
  | privateTransferSubmit (submit : PrivateTransferSubmit)
  | privacyNoteInsert (commitment : Hash32)
  | aiAttachExecutionProof (requestId : AiRequestId) (proof : AiExecutionProof)
  | aiOperatorBond
  | aiOperatorUnbond
  | aiOperatorWithdraw
  | registerConsensusKeys (registration : ConsensusKeyRegistration)
  | stateUpdate (domainId : DomainId) (domainHeight : UInt64)
      (stateUpdates : List (Address × UInt64))
  | identity (tx : IdentityTx)
  | vault (tx : VaultTx)
  deriving DecidableEq

/-- The signatures of a quorum of keys. -/
structure MultisigAuthorizationV6 where
  schemeId : String
  owners : List Bytes
  threshold : UInt32
  signatures : List (Bytes × Bytes)
  deriving DecidableEq

structure Transaction where
  sender : Address
  recipient : Address
  amount : UInt64
  fee : UInt64
  maxFee : UInt64
  priorityFee : UInt64
  nonce : UInt64
  data : Bytes
  timestamp : U128
  hash : String
  signature : Option Bytes
  signerPublicKey : Bytes
  authorization : Option MultisigAuthorizationV6
  chainId : UInt64
  signatureVersion : UInt32
  txType : TransactionType
  deriving DecidableEq

/-! ### The signed preimage -/

namespace Encode

/-- A byte string after its length. -/
def bytes (b : Bytes) : Bytes := leBytes 8 b.length ++ b

/-- A text after its length. -/
def string (s : String) : Bytes := bytes (textBytes s)

/-- An optional value after a flag. -/
def option {α : Type} (f : α → Bytes) : Option α → Bytes
  | some a => 1 :: f a
  | none => [0]

/-- A list after its length. -/
def list {α : Type} (f : α → Bytes) (l : List α) : Bytes := leBytes 8 l.length ++ l.flatMap f

def chain (c : ExternalChain) : Bytes := UInt8.ofNat c.index :: c.payload

def messageKind : MessageKind → Bytes
  | .bridgeLock => [0]
  | .bridgeMint => [1]
  | .bridgeBurn => [2]
  | .bridgeUnlock => [3]
  | .custom b => 4 :: bytes b

def message (m : CrossDomainMessage) : Bytes :=
  hashBytes m.messageId ++ option hashBytes m.correlationId ++ u32Bytes m.sourceDomain ++
    u32Bytes m.targetDomain ++ u64Bytes m.sourceHeight ++ u32Bytes m.eventIndex ++
    u64Bytes m.nonce ++ hashBytes m.sender ++ hashBytes m.recipient ++ hashBytes m.payloadHash ++
    messageKind m.kind ++ u64Bytes m.expiryHeight

def vaultTx : VaultTx → Bytes
  | .registerFolder folder => 0 :: u64Bytes folder
  | .closeFolder folder => 1 :: u64Bytes folder
  | .addMember folder member => 2 :: (u64Bytes folder ++ u64Bytes member)
  | .extractMember folder member => 3 :: (u64Bytes folder ++ u64Bytes member)
  | .moveMember source dest member => 4 :: (u64Bytes source ++ u64Bytes dest ++ u64Bytes member)

/-- There is one kind of verification method. -/
def verificationMethod (m : VerificationMethod) : Bytes :=
  hashBytes m.keyId ++ [0] ++ option u64Bytes m.revokedAt

def identityRecord (r : IdentityRecord) : Bytes :=
  hashBytes r.subject ++ list verificationMethod r.methods ++ option hashBytes r.credentialRoot ++
    list hashBytes r.guardians ++ u64Bytes r.recoveryThreshold

def credentialCommitment (c : CredentialCommitment) : Bytes :=
  hashBytes c.issuer ++ hashBytes c.subject ++ string c.schema ++
    list (fun f => string f.name ++ hashBytes f.commitment) c.fields ++ u64Bytes c.issuedAt ++
    option u64Bytes c.expiresAt

def identityTx : IdentityTx → Bytes
  | .register record => 0 :: identityRecord record
  | .issue credential => 1 :: credentialCommitment credential
  | .revoke credential => 2 :: credentialCommitment credential
  | .recover subject newKey approvals =>
    3 :: (hashBytes subject ++ hashBytes newKey ++
      list (fun a => bytes a.publicKey ++ bytes a.signature) approvals)

/-- `1` for an active record, `2` for a revoked one. -/
def activity (active : Bool) : Bytes := [if active then 1 else 2]

def pollenAsset (a : DataAsset) : Bytes :=
  hashBytes a.assetId ++ hashBytes a.owner ++ hashBytes a.manifestId ++
    hashBytes a.metadataCommitment ++ boolByte a.encrypted ++ activity a.active

def pollenGrant (g : AccessGrant) : Bytes :=
  hashBytes g.grantId ++ hashBytes g.assetId ++ hashBytes g.owner ++ hashBytes g.grantee ++
    hashBytes g.payer ++ u64Bytes g.pricePaid ++ u64Bytes g.issuedAtBlock ++
    u64Bytes g.expiresAtBlock ++ u32Bytes g.maxReads ++ u32Bytes g.readsUsed ++
    hashBytes g.purposeHash ++ activity g.active ++ signatureBytes g.ownerSignature

def pollenSaleAuthorization (a : SaleAuthorization) : Bytes :=
  hashBytes a.authorizationId ++ hashBytes a.assetId ++ hashBytes a.seller ++
    u64Bytes a.unitPrice ++ u64Bytes a.validFromBlock ++ u64Bytes a.expiresAtBlock ++
    u32Bytes a.maxGrants ++ u32Bytes a.grantsIssued ++ hashBytes a.termsHash ++
    signatureBytes a.sellerSignature

def appCategory : AppCategory → Bytes
  | .socialFi => [0]
  | .deFi => [1]
  | .storage => [2]
  | .gaming => [3]
  | .infrastructure => [4]
  | .other => [5]

def modelSpec (m : AiModelSpec) : Bytes :=
  hashBytes m.modelId ++ hashBytes m.modelHash ++ hashBytes m.owner ++
    u32Bytes m.minVerifierCount ++ u32Bytes m.agreementThreshold ++ u64Bytes m.maxInputRefBytes ++
    u64Bytes m.maxOutputRefBytes ++ u64Bytes m.requestDeadlineBlocks ++
    u64Bytes m.resultDeadlineBlocks ++ u32Bytes m.version ++ boolByte m.active ++
    boolByte m.requireExecutionProof ++ [m.executionClass] ++
    option hashBytes m.executionProgramHash ++ option hashBytes m.executionWeightsDigest ++
    option (list fun d => leBytes 4 d.toNat) m.executionDims ++ u32Bytes m.modalities

def perception (p : PerceptionRequest) : Bytes :=
  hashBytes p.assetId ++ hashBytes p.contentId ++ [p.kind.perceptionTag] ++ u32Bytes p.declaredUnits

def inferenceRequest (r : AiInferenceRequest) : Bytes :=
  hashBytes r.requestId ++ hashBytes r.requester ++ hashBytes r.modelId ++
    hashBytes r.inputCommitment ++ bytes r.inputRef ++ u64Bytes r.maxFee ++
    option hashBytes r.callback ++ u64Bytes r.submittedAtBlock ++ u64Bytes r.deadlineBlock ++
    leBytes 4 r.effort.tenths.toNat ++ option perception r.perception

def inferenceResult (r : AiInferenceResult) : Bytes :=
  hashBytes r.requestId ++ hashBytes r.verifier ++ hashBytes r.outputCommitment ++
    bytes r.outputRef ++ u64Bytes r.resultNonce ++ bytes r.signature ++
    u64Bytes r.submittedAtBlock

def agentPayment (p : AiAgentPayment) : Bytes :=
  hashBytes p.paymentId ++ hashBytes p.fromAgent ++ hashBytes p.toAgent ++ u64Bytes p.amount ++
    option hashBytes p.requestId ++ boolByte p.requireProof ++ u64Bytes p.submittedAtBlock ++
    u64Bytes p.expiryBlock

def privateTransfer (t : PrivateTransferSubmit) : Bytes :=
  list hashBytes t.spentCommitments ++ list hashBytes t.nullifiers ++
    list hashBytes t.outputCommitments ++ bytes t.authorizationSig ++ hashBytes t.publicDigest

def publicInputs (p : AiExecutionPublicInputs) : Bytes :=
  u64Bytes p.chainId ++ hashBytes p.programHash ++ hashBytes p.initialStateRoot ++
    hashBytes p.finalStateRoot ++ u64Bytes p.sender ++ u64Bytes p.nonce ++
    u64Bytes p.blockHeight ++ u64Bytes p.gasLimit ++ u64Bytes p.gasUsed ++ u64Bytes p.exitCode ++
    u64Bytes p.traceLen ++ hashBytes p.eventDigest ++ hashBytes p.stateWritesDigest

def executionProof (p : AiExecutionProof) : Bytes :=
  hashBytes p.modelId ++ hashBytes p.inputCommitment ++ hashBytes p.outputCommitment ++
    hashBytes p.programHash ++ bytes p.proofBytes ++ u64Bytes p.steps ++ u64Bytes p.gasUsed ++
    option hashBytes p.weightsDigest ++ option publicInputs p.publicInputs

end Encode

namespace TransactionType

def tag : TransactionType → UInt8
  | transfer => 0
  | stake => 1
  | unstake => 2
  | vote => 3
  | contractCall => 4
  | bnsRegister => 5
  | bnsSetContent => 6
  | bnsRegisterSubdomain => 7
  | bnsSetStorage => 8
  | nftMint => 9
  | nftTransfer => 10
  | nftBurn => 11
  | nftBoost .. => 12
  | nftUpdateLight .. => 13
  | nftTag .. => 14
  | universalRelay _ => 15
  | relayerResult _ => 16
  | aiOfferData .. => 17
  | aiPurchaseData _ => 18
  | budlumxyzRegisterApp .. => 19
  | aiModelRegister _ => 20
  | aiInferenceRequest _ => 21
  | aiInferenceResult _ => 22
  | aiFeeReclaim _ => 23
  | aiModelDeactivate _ => 24
  | aiModelReactivate _ => 25
  | aiRequestCancel _ => 26
  | aiDisputeSlash .. => 27
  | aiAgentPayment _ => 28
  | aiAgentPaymentRelease _ => 29
  | aiAgentPaymentReclaim _ => 30
  | pollenRegisterDataAsset _ => 31
  | pollenAuthorizeSale _ => 32
  | pollenGrantAccess _ => 33
  | pollenRevokeGrant _ => 34
  | pollenRevokeDataAsset _ => 35
  | privateTransferSubmit _ => 36
  | privacyNoteInsert _ => 37
  | aiAttachExecutionProof .. => 38
  | aiOperatorBond => 39
  | aiOperatorUnbond => 40
  | aiOperatorWithdraw => 41
  | registerConsensusKeys _ => 42
  | budlumxyzAttestApp _ => 43
  | stateUpdate .. => 44
  | identity _ => 45
  | vault _ => 46

/-- The data of the kind in the signed preimage. -/
def encodePayload : TransactionType → Bytes
  | transfer | stake | unstake | vote | contractCall | bnsRegister | bnsSetContent
  | bnsRegisterSubdomain | bnsSetStorage | nftMint | nftTransfer | nftBurn | aiOperatorBond
  | aiOperatorUnbond | aiOperatorWithdraw => []
  | registerConsensusKeys r =>
    Encode.string r.schemeId ++ Encode.bytes r.vrfPublicKey ++ Encode.bytes r.blsPublicKey ++
      Encode.bytes r.popSignature ++ Encode.bytes r.pqPublicKey
  | nftBoost nftId amount => u64Bytes nftId ++ u64Bytes amount
  | nftUpdateLight nftId delta => u64Bytes nftId ++ u64Bytes delta.toUInt64
  | nftTag nftId tag => u64Bytes nftId ++ Encode.string tag
  | universalRelay ext =>
    Encode.chain ext.chain ++ Encode.string ext.targetAddress ++ Encode.bytes ext.payload ++
      u64Bytes ext.externalNonce
  | relayerResult r =>
    Encode.chain r.chain ++ Encode.string r.txHash ++ boolByte r.success ++
      Encode.option Encode.message r.message ++ Encode.bytes r.receiptProof ++
      hashBytes r.externalStateRoot
  | aiOfferData cid price => hashBytes cid ++ u64Bytes price
  | aiPurchaseData offerId => u64Bytes offerId
  | budlumxyzRegisterApp name category url manifest =>
    Encode.string name ++ Encode.appCategory category ++ Encode.string url ++
      Encode.option hashBytes manifest
  | budlumxyzAttestApp appId => u64Bytes appId
  | aiModelRegister spec => Encode.modelSpec spec
  | aiInferenceRequest request => Encode.inferenceRequest request
  | aiInferenceResult result => Encode.inferenceResult result
  | aiFeeReclaim id | aiModelDeactivate id | aiModelReactivate id | aiRequestCancel id
  | pollenRevokeGrant id | pollenRevokeDataAsset id | aiAgentPaymentRelease id
  | aiAgentPaymentReclaim id | privacyNoteInsert id => hashBytes id
  | pollenRegisterDataAsset asset => Encode.pollenAsset asset
  | pollenAuthorizeSale a => Encode.pollenSaleAuthorization a
  | pollenGrantAccess grant => Encode.pollenGrant grant
  | aiDisputeSlash id verifier => hashBytes id ++ hashBytes verifier
  | aiAgentPayment payment => Encode.agentPayment payment
  | privateTransferSubmit t => Encode.privateTransfer t
  | aiAttachExecutionProof id proof => hashBytes id ++ Encode.executionProof proof
  | stateUpdate domain height updates =>
    u32Bytes domain ++ u64Bytes height ++
      Encode.list (fun u => hashBytes u.1 ++ u64Bytes u.2) updates
  | identity tx => Encode.identityTx tx
  | vault tx => Encode.vaultTx tx

end TransactionType

/-- Byte strings in lexicographic order. -/
def bytesLe (a b : Bytes) : Bool := decide ¬(b.map UInt8.toNat < a.map UInt8.toNat)

/-- The address a set of owners and a threshold control. -/
def multisigAddress (C : Crypto) (owners : List Bytes) (threshold : Nat) : Address :=
  C.sha3 (textBytes "BDLM_TX_V6_MULTISIG_ADDRESS" ++ Encode.string mlDsa87SchemeId ++
    Encode.list Encode.bytes (owners.mergeSort bytesLe) ++ leBytes 8 threshold)

namespace Transaction

variable (C : Crypto) (tx : Transaction)

/-- The part of an authorization the signers commit to. -/
def authorizationBytes (a : MultisigAuthorizationV6) : Bytes :=
  Encode.string a.schemeId ++ Encode.list Encode.bytes (a.owners.mergeSort bytesLe) ++
    u32Bytes a.threshold

/-- Everything a signature covers. -/
def signingPreimage : Bytes :=
  tx.txType.tag :: (hashBytes tx.sender ++ hashBytes tx.recipient ++ u64Bytes tx.amount ++
    u64Bytes tx.fee ++ u64Bytes tx.maxFee ++ u64Bytes tx.priorityFee ++ u64Bytes tx.nonce ++
    Encode.bytes tx.data ++ leBytes 16 tx.timestamp.val ++ u64Bytes tx.chainId ++
    u32Bytes tx.signatureVersion ++ tx.authorization.elim [] authorizationBytes ++
    tx.txType.encodePayload)

def signingHash : Hash32 :=
  let domain :=
    if tx.signatureVersion = signatureVersionV6 then "BDLM_TX_V6"
    else if tx.signatureVersion = signatureVersionV5 then "BDLM_TX_V5"
    else "BDLM_TX_V4"
  C.sha3 (textBytes domain ++ tx.signingPreimage)

def calculateHash : String := toHex (tx.signingHash C)

/-- The one transaction the zero address may send. -/
def genesis : Transaction :=
  let tx : Transaction := ⟨Address.zero, Address.zero, 0, 0, 0, 0, 0, textBytes "BUDLUM_GENESIS_TX",
    0, "", none, [], none, defaultChainId, signatureVersionV5, .transfer⟩
  { tx with hash := tx.calculateHash C }

/-! ### The signature check -/

/-- Largest number of owners of a multisig address. -/
def maxThresholdOwners : Nat := 16

/-- Every signature is by an owner, by no owner twice, and verifies. -/
def verifyOwnerSignatures (message : Bytes) (owners : List Bytes) :
    (seen : List Bytes) → List (Bytes × Bytes) → Option Nat
  | seen, [] => some seen.length
  | seen, (key, sig) :: rest =>
    if owners.contains key && !seen.contains key &&
        (C.verifyMlDsa87Signature message sig key).toBool then
      verifyOwnerSignatures message owners (key :: seen) rest
    else none

/-- A quorum of the owners signed. -/
def verifyPolicy (message : Bytes) (owners : List Bytes) (threshold : Nat)
    (signatures : List (Bytes × Bytes)) : Bool :=
  decide (owners.Nodup) && decide (threshold ≠ 0) && decide (threshold ≤ owners.length) &&
    (verifyOwnerSignatures C message owners [] signatures).any (decide <| threshold ≤ ·)

/-- The check of a version 6 transaction. -/
def verifyV6 : Bool :=
  match tx.authorization with
  | none => false
  | some a =>
    decide (a.schemeId = mlDsa87SchemeId) && tx.signature.isNone && tx.signerPublicKey.isEmpty &&
      !a.owners.isEmpty && decide (a.owners.length ≤ maxThresholdOwners) &&
      a.owners.all (fun k => decide (k.length = mlDsa87PublicKeyLen)) &&
      decide (multisigAddress C a.owners a.threshold.toNat = tx.sender) &&
      a.signatures.all (fun s => decide (s.1.length = mlDsa87PublicKeyLen) &&
        decide (s.2.length = mlDsa87SignatureLen)) &&
      verifyPolicy C (hashBytes (tx.signingHash C)) a.owners a.threshold.toNat a.signatures

/-- The check of a version 5 transaction. -/
def verifyV5 (signature : Bytes) : Bool :=
  match C.walletAddressFromMlDsa87PublicKey tx.signerPublicKey with
  | .error _ => false
  | .ok address =>
    decide (address = tx.sender) &&
      (C.verifyMlDsa87Signature (hashBytes (tx.signingHash C)) signature tx.signerPublicKey).toBool

/-- The check of a version 4 transaction. -/
def verifyV4 (signature : Bytes) : Bool :=
  tx.signerPublicKey.isEmpty &&
    (C.verifySignature (hashBytes (tx.signingHash C)) signature (hashBytes tx.sender)).toBool

def isCanonicalGenesis : Bool := decide (tx.sender = Address.zero) && decide (tx = genesis C)

/-- The hash is the transaction's own and the signature is the sender's. -/
def verify : Bool :=
  if tx.hash ≠ tx.calculateHash C then false
  else if tx.isCanonicalGenesis C then true
  else if tx.signatureVersion = signatureVersionV6 then tx.verifyV6 C
  else if tx.authorization.isSome then false
  else match tx.signature with
    | none => false
    | some signature =>
      if tx.signatureVersion = signatureVersionV5 then tx.verifyV5 C signature
      else if tx.signatureVersion = signatureVersionV4 then tx.verifyV4 C signature
      else false

theorem verify_genesis (C : Crypto) : (genesis C).verify C = true := by
  have hhash : (genesis C).hash = (genesis C).calculateHash C := rfl
  have hcanonical : (genesis C).isCanonicalGenesis C = true := by
    simp only [isCanonicalGenesis, decide_true, Bool.and_true, decide_eq_true_eq]
    rfl
  rw [verify, if_neg (not_not.2 hhash), if_pos hcanonical]

end Transaction

/-! ### Blocks -/

/-- A header.  Evidence inside a header is kept in serialized form, the only form it is read in. -/
structure BlockHeader where
  index : UInt64
  timestamp : U128
  previousHash : String
  hash : String
  producer : Option Address
  chainId : UInt64
  stateRoot : String
  txRoot : String
  slashingEvidence : Option Bytes
  nonce : UInt64
  epoch : UInt64
  slot : UInt64
  vrfOutput : Bytes
  vrfProof : Bytes
  validatorSetHash : String
  storageRoot : Option Hash32
  shardsRoot : Option Hash32
  deriving DecidableEq

/-- Two headers of one producer at one height, each signed. -/
structure SlashingEvidence where
  header1 : BlockHeader
  header2 : BlockHeader
  signature1 : Bytes
  signature2 : Bytes
  deriving DecidableEq

structure Block where
  index : UInt64
  timestamp : U128
  previousHash : String
  hash : String
  transactions : List Transaction
  nonce : UInt64
  producer : Option Address
  signature : Option Bytes
  producerPublicKey : Bytes
  chainId : UInt64
  slashingEvidence : Option (List SlashingEvidence)
  stateRoot : String
  txRoot : String
  epoch : UInt64
  slot : UInt64
  vrfOutput : Bytes
  vrfProof : Bytes
  validatorSetHash : String
  storageRoot : Option Hash32
  shardsRoot : Option Hash32
  deriving DecidableEq

end Budlum
