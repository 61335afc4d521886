import Budlum.Core.Bytes
import Budlum.Core.Linked

/-!
# What a signature covers

Two transactions that pass the signature check and sign the same digest are the same transaction,
up to the signatures themselves and the order in which the owners of a multisig address are
listed.  The preimage has no separators, and no flag in front of an authorization, so every part of
it has to be readable in turn.

* `Encode.*_unique` : each encoder of a payload can be read back.
* `TransactionType.encodePayload_unique` : so can the payload, once the tag is known.
* `Transaction.signed_parts` : **a signature covers the whole transaction.**
-/

namespace Budlum

open Encoding

/-! ### The parts of a payload -/

namespace Encode

variable {N : Nat} {α : Type}

/-- Texts shorter than this have lengths that fit the eight bytes in front of them. -/
def limit : Nat := 256 ^ 8

theorem hashBytes_ne_nil (h : Hash32) : hashBytes h ≠ [] :=
  List.ne_nil_of_length_pos (by simp [hashBytes])

theorem leBytes_ne_nil (w n : Nat) : leBytes (w + 1) n ≠ [] := List.cons_ne_nil _ _

end Budlum.Encode

namespace Encoding

open Budlum Encode

variable {N : Nat} {α : Type}

theorem Unique.bytes : Unique limit Encode.bytes := (leBytes_counts 8).text

theorem Unique.text : Unique limit string := Unique.bytes.comp textBytes_injective

theorem Unique.opt {f : α → Bytes} (hf : Unique N f) : Unique N (Encode.option f) := by
  have h := Unique.option (show (1 : UInt8) ≠ 0 by decide) hf
  refine cast (congrArg (Unique N) (funext fun o => ?_)) h
  cases o <;> rfl

theorem Unique.list {f : α → Bytes} (hne : ∀ a, f a ≠ []) (hf : Unique limit f) :
    Unique limit (Encode.list f) :=
  (leBytes_counts 8).list hne hf

theorem Unique.hashes : Unique limit (Encode.list hashBytes) :=
  Unique.list hashBytes_ne_nil Unique.hash

end Encoding

namespace Budlum

open Encoding

namespace Encode

variable {N : Nat} {α : Type}

theorem chain_unique : Unique limit chain := by
  intro c c' rest rest' hlen h
  cases c <;> cases c' <;> first
    | (simp [chain, ExternalChain.index] at h; done)
    | exact ⟨rfl, (List.cons.inj h).2⟩
    | exact Unique.u32.as (Nat.lt_of_succ_lt hlen) (List.cons.inj h).2

theorem messageKind_unique : Unique limit messageKind := by
  intro k k' rest rest' hlen h
  cases k <;> cases k' <;> first
    | (simp [messageKind] at h; done)
    | exact ⟨rfl, (List.cons.inj h).2⟩
    | exact Unique.bytes.as (Nat.lt_of_succ_lt hlen) (List.cons.inj h).2

open CrossDomainMessage in
theorem message_unique : Unique limit message :=
  Unique.hash.part messageId |>.next (.opt .hash) correlationId
    |>.next .u32 sourceDomain |>.next .u32 targetDomain
    |>.next .u64 sourceHeight |>.next .u32 eventIndex
    |>.next .u64 nonce |>.next .hash sender
    |>.next .hash recipient |>.next .hash payloadHash
    |>.next messageKind_unique kind |>.next .u64 expiryHeight |>.unique (by rintro ⟨⟩ ⟨⟩; grind)

theorem vaultTx_unique : Unique limit vaultTx := by
  have hword := Unique.u64 (N := limit)
  intro t t' rest rest' hlen h
  have hbody := fun n (h : n + 1 < limit) => Nat.lt_of_succ_lt h
  cases t <;> cases t' <;> first
    | (simp [vaultTx] at h; done)
    | skip
  case registerFolder.registerFolder folder folder' =>
    exact hword.as (hbody _ hlen) (List.cons.inj h).2
  case closeFolder.closeFolder folder folder' =>
    exact hword.as (hbody _ hlen) (List.cons.inj h).2
  case addMember.addMember folder member folder' member' =>
    exact hword.bothAs hword (hbody _ hlen) (List.cons.inj h).2
  case extractMember.extractMember folder member folder' member' =>
    exact hword.bothAs hword (hbody _ hlen) (List.cons.inj h).2
  case moveMember.moveMember source dest member source' dest' member' =>
    exact hword.threeAs hword hword (hbody _ hlen) (List.cons.inj h).2

theorem verificationMethod_unique : Unique limit verificationMethod := by
  have hkind : Reads limit (fun _ : VerificationMethod => ([0] : Bytes)) VerificationMethod.kind :=
    fun m m' _ _ _ h => ⟨by cases m.kind; cases m'.kind; rfl, (List.cons.inj h).2⟩
  exact (Unique.hash.part VerificationMethod.keyId).append hkind
    |>.next (.opt .u64) VerificationMethod.revokedAt |>.unique (by rintro ⟨⟩ ⟨⟩; grind)

open IdentityRecord in
theorem identityRecord_unique : Unique limit identityRecord :=
  Unique.hash.part subject
    |>.next (.list (fun _ => by simp [verificationMethod]) verificationMethod_unique) methods
    |>.next (.opt .hash) credentialRoot |>.next .hashes guardians
    |>.next .u64 recoveryThreshold |>.unique (by rintro ⟨⟩ ⟨⟩; grind)

theorem fieldCommitment_unique :
    Unique limit fun f : FieldCommitment => string f.name ++ hashBytes f.commitment :=
  Unique.text.part FieldCommitment.name |>.next .hash FieldCommitment.commitment
    |>.unique (by rintro ⟨⟩ ⟨⟩; grind)

open CredentialCommitment in
theorem credentialCommitment_unique : Unique limit credentialCommitment :=
  Unique.hash.part issuer |>.next .hash subject |>.next .text schema
    |>.next (.list (fun f => List.append_ne_nil_of_right_ne_nil _ (hashBytes_ne_nil _))
      fieldCommitment_unique) fields
    |>.next .u64 issuedAt |>.next (.opt .u64) expiresAt |>.unique (by rintro ⟨⟩ ⟨⟩; grind)

theorem guardianApproval_unique :
    Unique limit fun a : GuardianApproval => bytes a.publicKey ++ bytes a.signature :=
  Unique.bytes.part GuardianApproval.publicKey |>.next .bytes GuardianApproval.signature
    |>.unique (by rintro ⟨⟩ ⟨⟩; grind)

theorem identityTx_unique : Unique limit identityTx := by
  have happrovals := Unique.list (fun a => by simp [bytes, leBytes]) guardianApproval_unique
  intro t t' rest rest' hlen h
  have hbody := fun n (h : n + 1 < limit) => Nat.lt_of_succ_lt h
  cases t <;> cases t' <;> first
    | (simp [identityTx] at h; done)
    | skip
  case register.register record record' =>
    exact identityRecord_unique.as (hbody _ hlen) (List.cons.inj h).2
  case issue.issue credential credential' =>
    exact credentialCommitment_unique.as (hbody _ hlen) (List.cons.inj h).2
  case revoke.revoke credential credential' =>
    exact credentialCommitment_unique.as (hbody _ hlen) (List.cons.inj h).2
  case recover.recover subject key approvals subject' key' approvals' =>
    exact Unique.hash.threeAs .hash happrovals (hbody _ hlen) (List.cons.inj h).2

theorem activity_unique : Unique N activity :=
  .ofLength 1 (fun _ => rfl) fun b b' h => by cases b <;> cases b' <;> simp_all [activity]

open DataAsset in
theorem pollenAsset_unique : Unique limit pollenAsset :=
  Unique.hash.part assetId |>.next .hash owner |>.next .hash manifestId
    |>.next .hash metadataCommitment |>.next .bool encrypted
    |>.next activity_unique active |>.unique (by rintro ⟨⟩ ⟨⟩; grind)

open AccessGrant in
theorem pollenGrant_unique : Unique limit pollenGrant :=
  Unique.hash.part grantId |>.next .hash assetId |>.next .hash owner
    |>.next .hash grantee |>.next .hash payer
    |>.next .u64 pricePaid |>.next .u64 issuedAtBlock
    |>.next .u64 expiresAtBlock |>.next .u32 maxReads
    |>.next .u32 readsUsed |>.next .hash purposeHash
    |>.next activity_unique active |>.next .signature ownerSignature
    |>.unique (by rintro ⟨⟩ ⟨⟩ h; simp_all)

open SaleAuthorization in
theorem pollenSaleAuthorization_unique : Unique limit pollenSaleAuthorization :=
  Unique.hash.part authorizationId |>.next .hash assetId
    |>.next .hash seller |>.next .u64 unitPrice
    |>.next .u64 validFromBlock |>.next .u64 expiresAtBlock
    |>.next .u32 maxGrants |>.next .u32 grantsIssued
    |>.next .hash termsHash |>.next .signature sellerSignature
    |>.unique (by rintro ⟨⟩ ⟨⟩ h; simp_all)

theorem appCategory_unique : Unique N appCategory :=
  .ofLength 1 (fun c => by cases c <;> rfl) fun c c' h => by
    cases c <;> cases c' <;> simp_all [appCategory]

/-- Half words are written in four bytes. -/
theorem halfWord_unique : Unique N fun d : UInt16 => leBytes 4 d.toNat :=
  .ofLength 4 (fun d => length_leBytes 4 d.toNat) fun d d' h =>
    UInt16.toNat_inj.1 (leBytes_inj (d.toNat_lt.trans (by decide)) (d'.toNat_lt.trans (by decide)) h)

open AiModelSpec in
theorem modelSpec_unique : Unique limit modelSpec :=
  Unique.hash.part modelId |>.next .hash modelHash |>.next .hash owner
    |>.next .u32 minVerifierCount |>.next .u32 agreementThreshold
    |>.next .u64 maxInputRefBytes |>.next .u64 maxOutputRefBytes
    |>.next .u64 requestDeadlineBlocks |>.next .u64 resultDeadlineBlocks
    |>.next .u32 version |>.next .bool active
    |>.next .bool requireExecutionProof |>.next .byte executionClass
    |>.next (.opt .hash) executionProgramHash
    |>.next (.opt .hash) executionWeightsDigest
    |>.next (.opt (.list (fun _ => leBytes_ne_nil _ _) halfWord_unique)) executionDims
    |>.next .u32 modalities |>.unique (by rintro ⟨⟩ ⟨⟩; grind)

theorem perceptionKind_unique : Unique N fun k : PerceptionKind => [k.perceptionTag] :=
  Unique.byte.comp fun k k' h => by cases k <;> cases k' <;> simp_all [PerceptionKind.perceptionTag]

open PerceptionRequest in
theorem perception_unique : Unique limit perception :=
  Unique.hash.part assetId |>.next .hash contentId
    |>.next perceptionKind_unique kind |>.next .u32 declaredUnits |>.unique (by rintro ⟨⟩ ⟨⟩; grind)

theorem effort_unique : Unique N fun e : EffortTier => leBytes 4 e.tenths.toNat :=
  halfWord_unique.comp fun ⟨_, _, _⟩ ⟨_, _, _⟩ h => by simp_all

open AiInferenceRequest in
theorem inferenceRequest_unique : Unique limit inferenceRequest :=
  Unique.hash.part requestId |>.next .hash requester
    |>.next .hash modelId |>.next .hash inputCommitment
    |>.next .bytes inputRef |>.next .u64 maxFee
    |>.next (.opt .hash) callback |>.next .u64 submittedAtBlock
    |>.next .u64 deadlineBlock |>.next effort_unique effort
    |>.next (.opt perception_unique) AiInferenceRequest.perception
    |>.unique (by rintro ⟨⟩ ⟨⟩; grind)

open AiInferenceResult in
theorem inferenceResult_unique : Unique limit inferenceResult :=
  Unique.hash.part requestId |>.next .hash verifier
    |>.next .hash outputCommitment |>.next .bytes outputRef
    |>.next .u64 resultNonce |>.next .bytes signature
    |>.next .u64 submittedAtBlock |>.unique (by rintro ⟨⟩ ⟨⟩; grind)

open AiAgentPayment in
theorem agentPayment_unique : Unique limit agentPayment :=
  Unique.hash.part paymentId |>.next .hash fromAgent
    |>.next .hash toAgent |>.next .u64 amount
    |>.next (.opt .hash) requestId |>.next .bool requireProof
    |>.next .u64 submittedAtBlock |>.next .u64 expiryBlock |>.unique (by rintro ⟨⟩ ⟨⟩; grind)

open PrivateTransferSubmit in
theorem privateTransfer_unique : Unique limit privateTransfer :=
  Unique.hashes.part spentCommitments |>.next .hashes nullifiers
    |>.next .hashes outputCommitments |>.next .bytes authorizationSig
    |>.next .hash publicDigest |>.unique (by rintro ⟨⟩ ⟨⟩; grind)

open AiExecutionPublicInputs in
theorem publicInputs_unique : Unique limit publicInputs :=
  Unique.u64.part chainId |>.next .hash programHash
    |>.next .hash initialStateRoot |>.next .hash finalStateRoot
    |>.next .u64 sender |>.next .u64 nonce
    |>.next .u64 blockHeight |>.next .u64 gasLimit
    |>.next .u64 gasUsed |>.next .u64 exitCode
    |>.next .u64 traceLen |>.next .hash eventDigest
    |>.next .hash stateWritesDigest |>.unique (by rintro ⟨⟩ ⟨⟩; grind)

open AiExecutionProof in
theorem executionProof_unique : Unique limit executionProof :=
  Unique.hash.part modelId |>.next .hash inputCommitment
    |>.next .hash outputCommitment |>.next .hash programHash
    |>.next .bytes proofBytes |>.next .u64 steps |>.next .u64 gasUsed
    |>.next (.opt .hash) weightsDigest
    |>.next (.opt publicInputs_unique) AiExecutionProof.publicInputs
    |>.unique (by rintro ⟨⟩ ⟨⟩; grind)

open ConsensusKeyRegistration in
theorem consensusKeys_unique : Unique limit fun r : ConsensusKeyRegistration =>
    string r.schemeId ++ bytes r.vrfPublicKey ++ bytes r.blsPublicKey ++ bytes r.popSignature ++
      bytes r.pqPublicKey :=
  Unique.text.part schemeId |>.next .bytes vrfPublicKey |>.next .bytes blsPublicKey
    |>.next .bytes popSignature |>.next .bytes pqPublicKey |>.unique (by rintro ⟨⟩ ⟨⟩; grind)

theorem externalTransaction_unique : Unique limit fun e : ExternalTransaction =>
    chain e.chain ++ string e.targetAddress ++ bytes e.payload ++ u64Bytes e.externalNonce :=
  chain_unique.part ExternalTransaction.chain |>.next .text ExternalTransaction.targetAddress
    |>.next .bytes ExternalTransaction.payload
    |>.next .u64 ExternalTransaction.externalNonce |>.unique (by rintro ⟨⟩ ⟨⟩; grind)

theorem relayerResult_unique : Unique limit fun r : RelayerExternalResult =>
    chain r.chain ++ string r.txHash ++ boolByte r.success ++ option message r.message ++
      bytes r.receiptProof ++ hashBytes r.externalStateRoot :=
  chain_unique.part RelayerExternalResult.chain |>.next .text RelayerExternalResult.txHash
    |>.next .bool RelayerExternalResult.success
    |>.next (.opt message_unique) RelayerExternalResult.message
    |>.next .bytes RelayerExternalResult.receiptProof
    |>.next .hash RelayerExternalResult.externalStateRoot |>.unique (by rintro ⟨⟩ ⟨⟩; grind)

theorem updates_unique : Unique limit
    (list fun u : Address × UInt64 => hashBytes u.1 ++ u64Bytes u.2) :=
  Unique.list (fun u => List.append_ne_nil_of_left_ne_nil (hashBytes_ne_nil u.1) _)
    (Unique.hash.pair .u64)

end Encode

/-! ### The payload -/

namespace TransactionType

open Encode

/-- The constructor behind a tag. -/
def indexOfTag (tag : UInt8) : Nat :=
  [0, 1, 2, 3, 4, 5, 6, 7, 8, 9, 10, 11, 12, 13, 14, 15, 16, 17, 18, 19, 21, 22, 23, 24, 25, 26,
    27, 33, 34, 35, 36, 28, 29, 30, 31, 32, 37, 38, 39, 40, 41, 42, 43, 20, 44, 45, 46].getD
    tag.toNat 0

theorem indexOfTag_tag (t : TransactionType) : indexOfTag t.tag = t.ctorIdx := by
  cases t <;> rfl

theorem ctorIdx_of_tag {t t' : TransactionType} (h : t.tag = t'.tag) : t'.ctorIdx = t.ctorIdx := by
  rw [← indexOfTag_tag, ← indexOfTag_tag, h]

/-- The payload can be read back once the tag is known. -/
theorem encodePayload_unique {t t' : TransactionType} {rest rest' : Bytes} (htag : t.tag = t'.tag)
    (hlen : (t.encodePayload ++ rest).length < limit)
    (h : t.encodePayload ++ rest = t'.encodePayload ++ rest') : t = t' ∧ rest = rest' := by
  have hidx := ctorIdx_of_tag htag
  clear htag
  revert h
  cases t with
  | transfer | stake | unstake | vote | contractCall | bnsRegister | bnsSetContent
  | bnsRegisterSubdomain | bnsSetStorage | nftMint | nftTransfer | nftBurn | aiOperatorBond
  | aiOperatorUnbond | aiOperatorWithdraw =>
    cases t' <;> cases hidx
    exact fun h => ⟨rfl, h⟩
  | aiFeeReclaim | aiModelDeactivate | aiModelReactivate | aiRequestCancel | pollenRevokeGrant
  | pollenRevokeDataAsset | aiAgentPaymentRelease | aiAgentPaymentReclaim | privacyNoteInsert =>
    cases t' <;> cases hidx
    exact Unique.hash.as hlen
  | nftBoost nftId amount =>
    exact nftBoost.elim t' hidx fun _ _ h => Unique.u64.bothAs .u64 hlen h
  | nftUpdateLight nftId delta =>
    have hdelta : Unique limit fun d : Int64 => u64Bytes d.toUInt64 :=
      Unique.u64.comp fun _ _ => congrArg Int64.ofUInt64
    exact nftUpdateLight.elim t' hidx fun _ _ h => Unique.u64.bothAs hdelta hlen h
  | nftTag nftId tag =>
    exact nftTag.elim t' hidx fun _ _ h => Unique.u64.bothAs .text hlen h
  | universalRelay ext => exact universalRelay.elim t' hidx fun _ h => externalTransaction_unique.as hlen h
  | relayerResult res => exact relayerResult.elim t' hidx fun _ h => relayerResult_unique.as hlen h
  | aiOfferData cid price =>
    exact aiOfferData.elim t' hidx fun _ _ h => Unique.hash.bothAs .u64 hlen h
  | aiPurchaseData offer => exact aiPurchaseData.elim t' hidx fun _ h => Unique.u64.as hlen h
  | budlumxyzRegisterApp name category url manifest =>
    exact budlumxyzRegisterApp.elim t' hidx fun name' category' _ _ h =>
      @Unique.threeAs _ _ _ _ _ _ _ (name, category) (name', category') _ _ _ _ _
        (fun p => budlumxyzRegisterApp p.1 p.2) _ (Unique.text.pair appCategory_unique) .text
        (.opt .hash) _ _ hlen h
  | budlumxyzAttestApp app => exact budlumxyzAttestApp.elim t' hidx fun _ h => Unique.u64.as hlen h
  | aiModelRegister spec => exact aiModelRegister.elim t' hidx fun _ h => modelSpec_unique.as hlen h
  | aiInferenceRequest request =>
    exact aiInferenceRequest.elim t' hidx fun _ h => inferenceRequest_unique.as hlen h
  | aiInferenceResult result =>
    exact aiInferenceResult.elim t' hidx fun _ h => inferenceResult_unique.as hlen h
  | pollenRegisterDataAsset asset =>
    exact pollenRegisterDataAsset.elim t' hidx fun _ h => pollenAsset_unique.as hlen h
  | pollenAuthorizeSale authorization =>
    exact pollenAuthorizeSale.elim t' hidx fun _ h => pollenSaleAuthorization_unique.as hlen h
  | pollenGrantAccess grant =>
    exact pollenGrantAccess.elim t' hidx fun _ h => pollenGrant_unique.as hlen h
  | aiDisputeSlash id verifier =>
    exact aiDisputeSlash.elim t' hidx fun _ _ h => Unique.hash.bothAs .hash hlen h
  | aiAgentPayment payment =>
    exact aiAgentPayment.elim t' hidx fun _ h => agentPayment_unique.as hlen h
  | privateTransferSubmit submit =>
    exact privateTransferSubmit.elim t' hidx fun _ h => privateTransfer_unique.as hlen h
  | aiAttachExecutionProof id proof =>
    exact aiAttachExecutionProof.elim t' hidx fun _ _ h =>
      Unique.hash.bothAs executionProof_unique hlen h
  | registerConsensusKeys registration =>
    exact registerConsensusKeys.elim t' hidx fun _ h => consensusKeys_unique.as hlen h
  | stateUpdate domain height updates =>
    exact stateUpdate.elim t' hidx fun _ _ _ h =>
      Unique.u32.threeAs .u64 updates_unique hlen h
  | identity tx => exact identity.elim t' hidx fun _ h => identityTx_unique.as hlen h
  | vault tx => exact vault.elim t' hidx fun _ h => vaultTx_unique.as hlen h

end TransactionType

/-! ### The preimage -/

namespace Transaction

variable {C : Crypto} {tx tx' : Transaction} {rest rest' : Bytes}

/-- The text a signature commits to, with its domain in front. -/
def signedText (tx : Transaction) : Bytes :=
  textBytes (if tx.signatureVersion = signatureVersionV6 then "BDLM_TX_V6"
    else if tx.signatureVersion = signatureVersionV5 then "BDLM_TX_V5" else "BDLM_TX_V4") ++
    tx.signingPreimage

/-- The domains are of one length, so the version need not be known to read past them. -/
theorem signingPreimage_of_signedText (h : tx.signedText = tx'.signedText) :
    tx.signingPreimage = tx'.signingPreimage := by
  refine (List.append_inj h ?_).2
  have hlen : ∀ v : UInt32, (textBytes (if v = signatureVersionV6 then "BDLM_TX_V6"
      else if v = signatureVersionV5 then "BDLM_TX_V5" else "BDLM_TX_V4")).length = 10 := by
    intro v
    rw [textBytes_eq]
    split_ifs <;> rfl
  rw [hlen, hlen]

/-- The fixed part in front of the authorization. -/
def header (tx : Transaction) : Bytes :=
  [tx.txType.tag] ++ hashBytes tx.sender ++ hashBytes tx.recipient ++ u64Bytes tx.amount ++
    u64Bytes tx.fee ++ u64Bytes tx.maxFee ++ u64Bytes tx.priorityFee ++ u64Bytes tx.nonce ++
    Encode.bytes tx.data ++ leBytes 16 tx.timestamp.val ++ u64Bytes tx.chainId ++
    u32Bytes tx.signatureVersion

theorem signingPreimage_eq (tx : Transaction) : tx.signingPreimage =
    tx.header ++ (tx.authorization.elim [] authorizationBytes ++ tx.txType.encodePayload) := by
  simp [signingPreimage, header]

theorem timestamp_unique {N : Nat} : Unique N fun t : U128 => leBytes 16 t.val :=
  Unique.ofLength 16 (fun _ => length_leBytes _ _) fun a b h => Fin.ext <|
    leBytes_inj (a.isLt.trans_eq (by decide)) (b.isLt.trans_eq (by decide)) h

theorem header_reads : Reads Encode.limit header fun tx : Transaction =>
    (((((((((((tx.txType.tag, tx.sender), tx.recipient), tx.amount), tx.fee), tx.maxFee),
      tx.priorityFee), tx.nonce), tx.data), tx.timestamp), tx.chainId), tx.signatureVersion) :=
  Unique.byte.part (fun tx : Transaction => tx.txType.tag) |>.next .hash sender
    |>.next .hash recipient |>.next .u64 amount |>.next .u64 fee
    |>.next .u64 maxFee |>.next .u64 priorityFee
    |>.next .u64 nonce |>.next .bytes data
    |>.next timestamp_unique timestamp |>.next .u64 chainId
    |>.next .u32 signatureVersion

/-- A verified transaction carries an authorization exactly when its version is 6, which is why
no flag is needed in front of it. -/
theorem isSome_authorization_of_verify (h : tx.verify C) :
    tx.authorization.isSome = decide (tx.signatureVersion = signatureVersionV6) := by
  unfold verify at h
  split_ifs at h with _ hgenesis hv6 hauth
  · have htx : tx = genesis C := by
      simp only [isCanonicalGenesis, Bool.and_eq_true, decide_eq_true_eq] at hgenesis
      exact hgenesis.2
    rw [htx]
    rfl
  · rw [decide_eq_true hv6]
    unfold verifyV6 at h
    split at h
    · cases h
    · rename_i hsome
      rw [hsome]
      rfl
  all_goals
    rw [decide_eq_false hv6, Bool.eq_false_iff]
    exact hauth

/-- Two authorizations name one policy: the scheme, the threshold and the set of owners. -/
structure SamePolicy (a a' : MultisigAuthorizationV6) : Prop where
  schemeId : a.schemeId = a'.schemeId
  owners : a.owners.Perm a'.owners
  threshold : a.threshold = a'.threshold

/-- The owners are sorted before they are written, so only their set can be read back. -/
theorem authorizationBytes_reads {a a' : MultisigAuthorizationV6}
    (hlen : (authorizationBytes a ++ rest).length < Encode.limit)
    (h : authorizationBytes a ++ rest = authorizationBytes a' ++ rest') :
    SamePolicy a a' ∧ rest = rest' := by
  have hreads : Reads Encode.limit authorizationBytes fun a =>
      ((a.schemeId, a.owners.mergeSort bytesLe), a.threshold) :=
    Unique.text.part MultisigAuthorizationV6.schemeId
      |>.next (.list (fun b => by simp [Encode.bytes, leBytes]) .bytes)
        (fun a : MultisigAuthorizationV6 => a.owners.mergeSort bytesLe)
      |>.next .u32 MultisigAuthorizationV6.threshold
  obtain ⟨hparts, hrest⟩ := hreads hlen h
  obtain ⟨⟨hscheme, howners⟩, hthreshold⟩ := (Prod.mk.inj hparts).imp_left Prod.mk.inj
  refine ⟨⟨hscheme, ?_, hthreshold⟩, hrest⟩
  exact (List.mergeSort_perm _ bytesLe).symm.trans (howners.symm ▸ List.mergeSort_perm _ bytesLe)

theorem authorization_reads (hsome : tx.authorization.isSome = tx'.authorization.isSome)
    (hlen : (tx.authorization.elim [] authorizationBytes ++ rest).length < Encode.limit)
    (h : tx.authorization.elim [] authorizationBytes ++ rest =
      tx'.authorization.elim [] authorizationBytes ++ rest') :
    Option.Rel SamePolicy tx.authorization tx'.authorization ∧ rest = rest' := by
  cases hauth : tx.authorization with
  | none =>
    have hauth' : tx'.authorization = none := by simpa [hauth] using hsome.symm
    rw [hauth, hauth'] at h
    exact ⟨by rw [hauth']; exact .none, h⟩
  | some a =>
    obtain ⟨a', hauth'⟩ := Option.isSome_iff_exists.1 (hsome.symm.trans (hauth ▸ rfl))
    rw [hauth] at hlen
    rw [hauth, hauth'] at h
    exact (authorizationBytes_reads hlen h).imp_left fun hpolicy => hauth' ▸ Option.Rel.some hpolicy

/-- **A signature covers the whole transaction.**  The length bound is that of a `Vec`; the digest
is only assumed to tell the two texts at hand apart. -/
theorem signed_parts (htx : tx.verify C) (htx' : tx'.verify C)
    (hlen : tx.signedText.length < 2 ^ 64)
    (hsha3 : C.sha3 tx.signedText = C.sha3 tx'.signedText → tx.signedText = tx'.signedText)
    (h : tx.signingHash C = tx'.signingHash C) :
    tx.sender = tx'.sender ∧ tx.recipient = tx'.recipient ∧ tx.amount = tx'.amount ∧
      tx.fee = tx'.fee ∧ tx.maxFee = tx'.maxFee ∧ tx.priorityFee = tx'.priorityFee ∧
      tx.nonce = tx'.nonce ∧ tx.data = tx'.data ∧ tx.timestamp = tx'.timestamp ∧
      tx.chainId = tx'.chainId ∧ tx.signatureVersion = tx'.signatureVersion ∧
      Option.Rel SamePolicy tx.authorization tx'.authorization ∧ tx.txType = tx'.txType := by
  have hpre := signingPreimage_of_signedText (hsha3 h)
  have hlimit : tx.signingPreimage.length < Encode.limit := by
    rw [signedText, List.length_append] at hlen
    unfold Encode.limit
    omega
  rw [signingPreimage_eq] at hlimit hpre
  rw [signingPreimage_eq tx'] at hpre
  obtain ⟨hheader, hbody⟩ := header_reads hlimit hpre
  simp only [Prod.mk.injEq] at hheader
  obtain ⟨⟨⟨⟨⟨⟨⟨⟨⟨⟨⟨htag, hsender⟩, hrecipient⟩, hamount⟩, hfee⟩, hmaxFee⟩, hpriorityFee⟩, hnonce⟩,
    hdata⟩, htimestamp⟩, hchainId⟩, hversion⟩ := hheader
  have hsome : tx.authorization.isSome = tx'.authorization.isSome := by
    rw [isSome_authorization_of_verify htx, isSome_authorization_of_verify htx', hversion]
  rw [List.length_append] at hlimit
  obtain ⟨hpolicy, hpayload⟩ := authorization_reads hsome (by omega) hbody
  rw [List.length_append] at hlimit
  have htype : tx.txType = tx'.txType :=
    (@TransactionType.encodePayload_unique _ _ [] [] htag
      (by rw [List.append_nil]; omega) (by rw [List.append_nil, List.append_nil, hpayload])).1
  exact ⟨hsender, hrecipient, hamount, hfee, hmaxFee, hpriorityFee, hnonce, hdata, htimestamp,
    hchainId, hversion, hpolicy, htype⟩

/-- Two signatures of one transfer. -/
theorem signed_parts_resigned :
    let tx := sample 1 0 .transfer
    let tx' := { tx with signature := some [7] }
    tx ≠ tx' ∧ tx.data = tx'.data ∧ tx.txType = tx'.txType := by
  have hparts := @signed_parts Linked.sample.toCrypto (sample 1 0 .transfer)
    { sample 1 0 .transfer with signature := some [7] } (by decide) (by decide)
    (by rw [signedText, textBytes_eq]; decide +kernel) (fun _ => rfl) rfl
  exact ⟨by decide, hparts.2.2.2.2.2.2.2.1, hparts.2.2.2.2.2.2.2.2.2.2.2.2⟩

end Transaction

end Budlum
