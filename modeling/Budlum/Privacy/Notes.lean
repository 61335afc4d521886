import Budlum.Core.Primitives

/-!
# Private notes

The set of live note commitments and the set of spent nullifiers.  A transfer spends live
commitments, records their nullifiers and adds new commitments; every check comes before the
first write.
-/

namespace Budlum

open Except (ensure)

/-- The order of the Goldilocks field. -/
def goldilocksP : UInt64 := 0xFFFFFFFF00000001

/-- The field element in the first eight bytes of a hash, least significant byte first. -/
def fieldFromHash (h : Hash32) : Nat :=
  ((hashBytes h).take 8).foldr (fun b n => b.toNat + 256 * n) 0

/-- The hash packs one canonical field element. -/
def isNoteHash (h : Hash32) : Bool :=
  ((hashBytes h).drop 8).all (· == 0) && decide (fieldFromHash h < goldilocksP.toNat)

def maxLiveCommitments : Nat := 65536

def maxSpentNullifiers : Nat := 262144

/-- Most inputs, and most outputs, of one transfer. -/
def maxPrivateIo : Nat := 16

structure L1NoteRegistry where
  liveCommitments : OrdMap Hash32 Unit := ∅
  spentNullifiers : OrdMap Hash32 Unit := ∅
  deriving Inhabited, DecidableEq

namespace L1NoteRegistry

variable (C : Crypto) (r : L1NoteRegistry)

/-- Add a commitment that is not live. -/
def insertNote (commitment : Hash32) : Except String L1NoteRegistry := do
  ensure (!r.liveCommitments.contains commitment) "note commitment already live"
  ensure (decide (r.liveCommitments.size < maxLiveCommitments))
    s!"live commitment set full ({r.liveCommitments.size}/{maxLiveCommitments}) - compact or wait for spends"
  return { r with liveCommitments := r.liveCommitments.insert commitment () }

/-- The nullifier a commitment and a proof determine. -/
def deriveNullifier (commitment proof : Hash32) : Hash32 :=
  C.sha256 (textBytes "BDLM_NULLIFIER_DERIVE_V1" ++ hashBytes commitment ++ hashBytes proof)

/-- Outputs are pairwise different and none is live. -/
def checkOutputs : (seen : List Hash32) → List Hash32 → Except String Unit
  | _, [] => .ok ()
  | seen, c :: rest => do
    ensure (!seen.contains c) "duplicate output commitment"
    ensure (!r.liveCommitments.contains c) "output commitment already live"
    checkOutputs (c :: seen) rest

/-- Inputs are pairwise different and all live. -/
def checkInputs : (seen : List Hash32) → List Hash32 → Except String Unit
  | _, [] => .ok ()
  | seen, c :: rest => do
    ensure (!seen.contains c) "duplicate input commitment"
    ensure (r.liveCommitments.contains c) "spend: commitment not in live set"
    checkInputs (c :: seen) rest

/-- Every given proof derives the nullifier of its input. -/
def checkNullifierProofs : (i : Nat) → List (Hash32 × Hash32) → List Hash32 → Except String Unit
  | i, (commitment, nullifier) :: rest, proof :: proofs => do
    ensure (decide (nullifier = deriveNullifier C commitment proof))
      s!"nullifier derivation proof invalid for input {i}"
    checkNullifierProofs (i + 1) rest proofs
  | _, _, _ => .ok ()

/-- Spend the inputs and add the outputs. -/
def applyTransferWithProofs (spentCommitments nullifiers outputCommitments nullifierProofs :
    List Hash32) : Except String L1NoteRegistry := do
  ensure (decide (spentCommitments.length = nullifiers.length))
    "spent_commitments/nullifiers length mismatch"
  ensure (nullifierProofs.isEmpty || decide (nullifierProofs.length = nullifiers.length))
    "nullifier_proofs length mismatch"
  ensure (!spentCommitments.isEmpty) "private transfer requires at least one input"
  ensure (!outputCommitments.isEmpty) "private transfer requires at least one output"
  ensure (!nullifiers.any r.spentNullifiers.contains) "double-spend: nullifier already spent"
  r.checkOutputs [] outputCommitments
  checkNullifierProofs C 0 (spentCommitments.zip nullifiers) nullifierProofs
  r.checkInputs [] spentCommitments
  ensure (decide (r.spentNullifiers.size + nullifiers.length ≤ maxSpentNullifiers))
    s!"spent nullifier set full ({r.spentNullifiers.size}/{maxSpentNullifiers}) - chain must compact before more private transfers"
  let live := spentCommitments.foldl (fun m c => m.erase c) r.liveCommitments
  return { liveCommitments := outputCommitments.foldl (fun m c => m.insert c ()) live
           spentNullifiers := nullifiers.foldl (fun m n => m.insert n ()) r.spentNullifiers }

/-- `applyTransferWithProofs` without proofs, the call the executor makes. -/
def applyTransfer (spentCommitments nullifiers outputCommitments : List Hash32) :
    Except String L1NoteRegistry :=
  r.applyTransferWithProofs C spentCommitments nullifiers outputCommitments []

end L1NoteRegistry

structure PrivateTransferSubmit where
  spentCommitments : List Hash32
  nullifiers : List Hash32
  outputCommitments : List Hash32
  authorizationSig : Bytes
  publicDigest : Hash32
  deriving DecidableEq

namespace PrivateTransferSubmit

variable (C : Crypto) (t : PrivateTransferSubmit)

/-- Length of an Ed25519 signature. -/
def ed25519AuthSigLen : Nat := 64

def validateShape : Except String Unit := do
  ensure (!t.spentCommitments.isEmpty && !t.nullifiers.isEmpty)
    "private transfer: empty inputs"
  ensure (decide (t.spentCommitments.length = t.nullifiers.length))
    "private transfer: input arity mismatch"
  ensure (!t.outputCommitments.isEmpty) "private transfer: empty outputs"
  ensure (decide (t.spentCommitments.length ≤ maxPrivateIo ∧
    t.outputCommitments.length ≤ maxPrivateIo))
    s!"private transfer: exceeds MAX_PRIVATE_IO ({maxPrivateIo})"
  ensure ((t.spentCommitments ++ t.nullifiers ++ t.outputCommitments).all isNoteHash)
    "private transfer: a commitment or nullifier is not a packed field element"
  ensure (decide (t.authorizationSig.length = ed25519AuthSigLen ∨
    t.authorizationSig.length = mlDsa87SignatureLen))
    s!"private transfer: authorization_sig must be {ed25519AuthSigLen} bytes (Ed25519) or {mlDsa87SignatureLen} bytes (ML-DSA-87), got {t.authorizationSig.length}"

/-- The digest the authorization signs. -/
def computePublicDigest (nullifiers outputs : List Hash32) : Hash32 :=
  C.sha3 (textBytes "BUDLUM_PRIVATE_TRANSFER_V1" ++ leBytes 8 nullifiers.length ++
    nullifiers.flatMap hashBytes ++ leBytes 8 outputs.length ++ outputs.flatMap hashBytes)

/-- The carried digest is the one of the carried notes. -/
def verifyDigestMatches : Bool :=
  decide (t.publicDigest = computePublicDigest C t.nullifiers t.outputCommitments)

end PrivateTransferSubmit

end Budlum
