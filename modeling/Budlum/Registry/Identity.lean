import Budlum.Domain.Types
import Budlum.Lib.MerkleRows

/-!
# The identity registry

Subjects, their verification methods and guardians, and the credentials issued to them.  Writes
belong to a proof-of-authority domain; guardian recovery rotates a subject's key.

The source keys credentials by the hexadecimal text of their identifier.  Here the identifier
itself is the key: the two orders agree.
-/

namespace Budlum

open Except (ensure ofOption)

/-- The decentralised identifier of an address. -/
def didOf (a : Address) : String := "did:bud:" ++ toHex a

/-- The signature scheme of a verification method. -/
inductive MethodKind where
  | mlDsa87
  deriving DecidableEq, Repr

/-- A key of a subject. -/
structure VerificationMethod where
  keyId : Hash32
  kind : MethodKind
  revokedAt : Option UInt64
  deriving DecidableEq

/-- The method is not revoked at the given epoch. -/
def VerificationMethod.isLiveAt (m : VerificationMethod) (now : UInt64) : Bool :=
  m.revokedAt.all fun epoch => decide (now < epoch)

/-- Why the identity registry refuses an operation. -/
inductive IdentityError where
  | notPoaDomain (domain : String)
  | alreadyExists (did : String)
  | unknownSubject (did : String)
  | unknownCredential
  | alreadyRevoked
  | alreadyIssued (did : String)
  | noMethods (did : String)
  | duplicateKeyId (did : String)
  | subjectIsOwnGuardian (did : String)
  | duplicateGuardian (did : String)
  | thresholdWithoutGuardians (did : String)
  | unreachableQuorum (did : String) (threshold guardians : Nat)
  | noGuardians (did : String)
  | quorumShort (did : String) (need got : Nat)
  | badSchema (schema : String)
  | duplicateField (name : String)
  | noFields
  | fromTheFuture (issuedAt now : UInt64)
  | expiredAtIssuance (issuedAt expiry : UInt64)
  | notLive (issuedAt : UInt64) (expiry : Option UInt64) (now : UInt64)
  | rootMismatch (did : String)
  | badApproval (why : String)
  deriving DecidableEq, Repr

def IdentityError.display : IdentityError → String
  | notPoaDomain d => "identity writes are PoA-domain authority; this ran on `" ++ d ++ "`"
  | alreadyExists did => did ++ " is already registered; rotate via recovery"
  | unknownSubject did => "no identity record for " ++ did
  | unknownCredential => "the registry has no credential with this id"
  | alreadyRevoked => "already revoked; a revocation is not a toggle"
  | alreadyIssued did => did ++ " already holds this exact credential (same root, same time)"
  | noMethods did => did ++ " has no method and can authenticate nothing"
  | duplicateKeyId did => did ++ " lists one key handle twice"
  | subjectIsOwnGuardian did => did ++ " is its own guardian"
  | duplicateGuardian did => did ++ " lists a guardian twice"
  | thresholdWithoutGuardians did => did ++ " sets a recovery threshold with no guardians"
  | unreachableQuorum did t g => s!"{did} needs {t} of {g} guardians - unreachable"
  | noGuardians did => did ++ " has no guardians; recovery is impossible"
  | quorumShort did need got => s!"{did} recovery needs {need} approvals, got {got}"
  | badSchema s => "bad schema or field label `" ++ s ++ "`"
  | duplicateField n => "field `" ++ n ++ "` appears twice in one credential"
  | noFields => "a credential must commit to at least one field"
  | fromTheFuture issuedAt now => s!"issued_at {issuedAt} is ahead of now {now}"
  | expiredAtIssuance issuedAt expiry =>
    s!"expiry {expiry} at or before issuance {issuedAt}: born dead"
  | notLive issuedAt expiry now =>
    s!"not live at {now} (issued {issuedAt}, expiry " ++ expiry.elim "none" toString ++ ")"
  | rootMismatch did => did ++ "'s on-chain root and this credential's own fields disagree"
  | badApproval why => "a recovery approval is not sound: " ++ why

/-- What the registry knows about a subject. -/
structure IdentityRecord where
  subject : Address
  methods : List VerificationMethod
  credentialRoot : Option Hash32
  guardians : List Address
  recoveryThreshold : UInt64
  deriving DecidableEq

namespace IdentityRecord

variable (r : IdentityRecord)

/-- The subject is no guardian of itself, and no guardian is listed twice. -/
def checkGuardians : (known : List Address) → List Address → Except IdentityError Unit
  | _, [] => .ok ()
  | known, g :: rest => do
    ensure (decide (g ≠ r.subject)) (.subjectIsOwnGuardian (didOf r.subject))
    ensure (!known.contains g) (.duplicateGuardian (didOf r.subject))
    checkGuardians (g :: known) rest

/-- A record can authenticate and, if it names guardians, can be recovered. -/
def validate : Except IdentityError Unit := do
  let did := didOf r.subject
  ensure (!r.methods.isEmpty) (.noMethods did)
  ensure (decide (r.methods.map (·.keyId)).Nodup) (.duplicateKeyId did)
  r.checkGuardians [] r.guardians
  if r.guardians.isEmpty then
    ensure (decide (r.recoveryThreshold = 0)) (.thresholdWithoutGuardians did)
  else
    ensure (decide (r.recoveryThreshold ≠ 0 ∧ r.recoveryThreshold.toNat ≤ r.guardians.length))
      (.unreachableQuorum did r.recoveryThreshold.toNat r.guardians.length)

end IdentityRecord

structure FieldCommitment where
  name : String
  commitment : Hash32
  deriving DecidableEq

structure CredentialCommitment where
  issuer : Address
  subject : Address
  schema : String
  fields : List FieldCommitment
  issuedAt : UInt64
  expiresAt : Option UInt64
  deriving DecidableEq

/-- The hash of an inner node of a credential's Merkle tree. -/
def fieldPairHash (C : Crypto) (left right : Hash32) : Hash32 :=
  C.hashFieldsBytes [textBytes "bud-vc-v1-node", hashBytes left, hashBytes right]

/-- The Merkle root of the leaves, a last odd node paired with itself; zero when there are none. -/
def credentialMerkleRoot (C : Crypto) (leaves : List Hash32) : Hash32 :=
  (Merkle.root (fieldPairHash C) (fun x => fieldPairHash C x x) leaves).getD 0

namespace CredentialCommitment

variable (C : Crypto) (c : CredentialCommitment)

/-- Field names are non-empty, short and pairwise different. -/
def checkFields : (known : List String) → List FieldCommitment → Except IdentityError Unit
  | _, [] => .ok ()
  | known, f :: rest => do
    ensure (decide (f.name.utf8ByteSize ≠ 0 ∧ f.name.utf8ByteSize ≤ 64))
      (.badSchema ("field name `" ++ f.name ++ "`"))
    ensure (!known.contains f.name) (.duplicateField f.name)
    checkFields (f.name :: known) rest

/-- The shape of a credential. -/
def validate : Except IdentityError Unit := do
  ensure (!c.fields.isEmpty) .noFields
  ensure (decide (c.schema.utf8ByteSize ≠ 0 ∧ c.schema.utf8ByteSize ≤ 64))
    (.badSchema c.schema)
  checkFields [] c.fields

def root : Hash32 := credentialMerkleRoot C (c.fields.map (·.commitment))

/-- The credential is issued and has not expired. -/
def isLiveAt (now : UInt64) : Bool :=
  decide (c.issuedAt ≤ now) && c.expiresAt.all fun e => decide (now < e)

def credentialId : Hash32 :=
  C.hashFieldsBytes [textBytes "bud-vc-v1-id", hashBytes (c.root C), hashBytes c.issuer,
    u64Bytes c.issuedAt]

end CredentialCommitment

/-- A guardian's signed approval of a recovery. -/
structure GuardianApproval where
  publicKey : Bytes
  signature : Bytes
  deriving DecidableEq

inductive IdentityTx where
  | register (record : IdentityRecord)
  | issue (credential : CredentialCommitment)
  | revoke (credential : CredentialCommitment)
  | recover (subject : Address) (newKey : Hash32) (approvals : List GuardianApproval)
  deriving DecidableEq

structure IdentityRegistry where
  records : OrdMap Address IdentityRecord := ∅
  credentials : OrdMap Hash32 CredentialCommitment := ∅
  revoked : OrdMap Hash32 Unit := ∅
  deriving Inhabited, DecidableEq

namespace IdentityRegistry

variable (C : Crypto) (r : IdentityRegistry)

def register (record : IdentityRecord) : Except IdentityError IdentityRegistry := do
  record.validate
  ensure (!r.records.contains record.subject) (.alreadyExists (didOf record.subject))
  return { r with records := r.records.insert record.subject record }

/-- Record a credential and make its root the subject's root. -/
def issue (credential : CredentialCommitment) (now : UInt64) :
    Except IdentityError IdentityRegistry := do
  credential.validate
  ensure (decide (credential.issuedAt ≤ now)) (.fromTheFuture credential.issuedAt now)
  ensure (credential.expiresAt.all fun e => decide (credential.issuedAt < e))
    (.expiredAtIssuance credential.issuedAt (credential.expiresAt.getD 0))
  let record ← ofOption (r.records.get credential.subject)
    (.unknownSubject (didOf credential.subject))
  let issuerKnown := r.records.contains credential.issuer ||
    record.methods.any fun m => decide (m.keyId = credential.issuer) && m.isLiveAt now
  ensure issuerKnown (.unknownSubject (didOf credential.issuer))
  let id := credential.credentialId C
  ensure (!r.credentials.contains id) (.alreadyIssued (didOf credential.subject))
  let updated := { record with credentialRoot := some (credential.root C) }
  return { r with
    credentials := r.credentials.insert id credential
    records := r.records.insert credential.subject updated }

/-- Revoke an issued credential, once. -/
def revoke (credential : CredentialCommitment) : Except IdentityError IdentityRegistry := do
  let id := credential.credentialId C
  ensure (r.credentials.contains id) .unknownCredential
  ensure (!r.revoked.contains id) .alreadyRevoked
  return { r with revoked := r.revoked.insert id () }

/-- The distinct guardians of a record among the approvals, in order of approval. -/
def countApprovals (record : IdentityRecord) (approvals : List Address) : List Address :=
  approvals.foldl (fun counted a =>
    if record.guardians.contains a && !counted.contains a then counted ++ [a] else counted) []

/-- Revoke every live method and install the new key, given enough guardians. -/
def guardianRecovery (subject : Address) (newKey : Hash32) (approvals : List Address)
    (now : UInt64) : Except IdentityError IdentityRegistry := do
  let did := didOf subject
  let record ← ofOption (r.records.get subject) (.unknownSubject did)
  ensure (!record.guardians.isEmpty) (.noGuardians did)
  let counted := countApprovals record approvals
  ensure (decide (record.recoveryThreshold.toNat ≤ counted.length))
    (.quorumShort did record.recoveryThreshold.toNat counted.length)
  ensure (!record.methods.any fun m => decide (m.keyId = newKey) && m.isLiveAt now)
    (.duplicateKeyId did)
  let revokedMethods := record.methods.map fun m =>
    { m with revokedAt := m.revokedAt.orElse fun _ => some now }
  let updated := { record with methods := revokedMethods ++ [⟨newKey, .mlDsa87, none⟩] }
  return { r with records := r.records.insert subject updated }

/-- The digest guardians sign. -/
def recoveryDigest (subject : Address) (newKey : Hash32) (epoch chainId : UInt64) : Hash32 :=
  C.hashFieldsBytes [textBytes "bud-identity-recovery-v1", hashBytes subject, hashBytes newKey,
    u64Bytes epoch, u64Bytes chainId]

/-- The guardian behind one approval, if its signature verifies. -/
def checkApproval (digest : Hash32) (approval : GuardianApproval) : Except IdentityError Address :=
  match C.walletAddressFromMlDsa87PublicKey approval.publicKey with
  | .error e => .error (.badApproval ("key: " ++ e))
  | .ok guardian =>
    match C.verifyMlDsa87Signature (hashBytes digest) approval.signature approval.publicKey with
    | .error e => .error (.badApproval ("signature: " ++ e))
    | .ok () => .ok guardian

/-- Guardian recovery from signed approvals.  The domain is not asked for. -/
def authorizeRecovery (subject : Address) (newKey : Hash32) (approvals : List GuardianApproval)
    (epoch chainId : UInt64) : Except IdentityError IdentityRegistry := do
  let guardians ← approvals.mapM (checkApproval C (recoveryDigest C subject newKey epoch chainId))
  r.guardianRecovery subject newKey guardians epoch

/-- Writes belong to a proof-of-authority domain. -/
def checkDomain (domain : ConsensusKind) : Except IdentityError Unit :=
  ensure (decide (domain = .poA)) (.notPoaDomain domain.debug)

/-- The sender is the party the operation speaks for. -/
def checkSender (sender : Address) (party : Address) (operation role : String) :
    Except IdentityError Unit :=
  ensure (decide (party = sender))
    (.badApproval (operation ++ ": sender " ++ didOf sender ++ " is not the " ++ role ++ " " ++
      didOf party))

/-- Run an identity transaction. -/
def executeIdentityTx (sender : Address) (tx : IdentityTx) (domain : ConsensusKind)
    (epoch chainId : UInt64) : Except IdentityError IdentityRegistry :=
  match tx with
  | .register record => do
    checkSender sender record.subject "register" "subject"
    checkDomain domain
    r.register record
  | .issue credential => do
    checkSender sender credential.issuer "issue" "issuer"
    checkDomain domain
    r.issue C credential epoch
  | .revoke credential => do
    checkSender sender credential.issuer "revoke" "issuer"
    checkDomain domain
    r.revoke C credential
  | .recover subject newKey approvals => do
    checkSender sender subject "recover" "rotating DID"
    r.authorizeRecovery C subject newKey approvals epoch chainId

/-- The credential is issued, not revoked, live, and what its subject's record vouches for. -/
def isCredentialValid (id : Hash32) (now : UInt64) : Except IdentityError Unit := do
  let credential ← ofOption (r.credentials.get id) .unknownCredential
  ensure (!r.revoked.contains id) .alreadyRevoked
  ensure (credential.isLiveAt now) (.notLive credential.issuedAt credential.expiresAt now)
  let record ← ofOption (r.records.get credential.subject)
    (.unknownSubject (didOf credential.subject))
  ensure (decide (record.credentialRoot = some (credential.root C)))
    (.rootMismatch (didOf credential.subject))

end IdentityRegistry

end Budlum
