import Budlum.Core.Signing

/-!
# The cold wallet

The cold side signs settlements it is asked for by an online side it does not trust.  It keeps its
own policy and its own counters, and it releases a payload only when a request passes every rule.
A refused request leaves an entry in a bounded history and nothing else.

* `ColdWalletState.validate` : the check of a state before it may sign.
* `ColdWalletState.check` : the rules, in the order in which they are reported.
* `ColdWalletState.sign`, `signWithQuorum`, `rotateKey` : the calls that change the wallet.
* `ColdWalletState.Signs`, `Rotates`, `Refuses` : what a call may do to the wallet.
* `verifyQuorum_distinct` : a quorum is counted in devices; the keys behind them are as many as the
  identity list, which comes with the signatures, says.
-/

namespace Budlum

open Except (ok_iff)
open EStateM

def maxColdRotationHistory : Nat := 1024
def maxRotationReasonBytes : Nat := 256

/-- The rules the cold side holds itself to. -/
structure ColdWalletPolicy where
  chainId : UInt64
  maxValuePerSettlementAtoms : U128
  maxValuePerEpochAtoms : U128
  /-- How far the height must advance between settlements. -/
  minHeightAdvance : UInt64
  requiredQuorum : UInt32
  deviceCount : UInt32
  refusalHistoryCapacity : Nat
  deriving DecidableEq

/-- Policies that would let anything pass or nothing. -/
def ColdWalletPolicy.validate (p : ColdWalletPolicy) : Except String Unit := do
  Except.ensure (decide (p.chainId ≠ 0)) "chain-id-zero"
  Except.ensure (decide (p.maxValuePerSettlementAtoms ≠ 0)) "per-settlement-ceiling-zero"
  Except.ensure (decide (p.maxValuePerEpochAtoms ≠ 0)) "per-epoch-budget-zero"
  Except.ensure (decide (p.maxValuePerSettlementAtoms ≤ p.maxValuePerEpochAtoms))
    "settlement-ceiling-above-epoch-budget"
  Except.ensure (decide (p.deviceCount ≠ 0)) "device-count-zero"
  Except.ensure (decide (p.requiredQuorum ≠ 0)) "quorum-zero"
  Except.ensure (decide (p.requiredQuorum ≤ p.deviceCount)) "quorum-above-device-count"

/-- What the online side asks to have signed. -/
structure SettlementRequest where
  chainId : UInt64
  height : UInt64
  epoch : UInt64
  globalRoot : Hash32
  valueAtoms : U128
  nonce : UInt64
  deriving DecidableEq

inductive ColdRefusal where
  | invalidPolicy (rule : String)
  | invalidState (rule : String)
  | wrongChain (expected got : UInt64)
  | heightRolledBack (lastSigned requested : UInt64)
  | heightAlreadySettled (height : UInt64)
  | nonceReplayed (lastSigned requested : UInt64)
  | valueAboveCeiling (ceiling requested : U128)
  | epochBudgetExceeded (spent requested budget : U128)
  | keyRotatedOut (currentEpoch presented : UInt32)
  | keyEpochAhead (currentEpoch presented : UInt32)
  | quorumNotReached (required presented : UInt32)
  | quorumExceedsDeviceCount (deviceCount presented : UInt32)
  | epochRolledBack (lastSigned requested : UInt64)
  | nonceZero
  | heightAdvanceTooSmall (required actual : UInt64)
  deriving DecidableEq

/-- The label of a refusal in the history. -/
def ColdRefusal.kind : ColdRefusal → String
  | invalidPolicy _ => "invalid-policy"
  | invalidState _ => "invalid-state"
  | wrongChain .. => "wrong-chain"
  | heightRolledBack .. => "height-rolled-back"
  | heightAlreadySettled _ => "height-already-settled"
  | nonceReplayed .. => "nonce-replayed"
  | valueAboveCeiling .. => "value-above-ceiling"
  | epochBudgetExceeded .. => "epoch-budget-exceeded"
  | keyRotatedOut .. => "key-rotated-out"
  | keyEpochAhead .. => "key-epoch-ahead"
  | quorumNotReached .. => "quorum-not-reached"
  | quorumExceedsDeviceCount .. => "quorum-exceeds-device-count"
  | epochRolledBack .. => "epoch-rolled-back"
  | nonceZero => "nonce-zero"
  | heightAdvanceTooSmall .. => "height-advance-too-small"

structure RefusalRecord where
  kind : String
  height : UInt64
  nonce : UInt64
  deriving DecidableEq

structure KeyRotation where
  keyEpoch : UInt32
  atHeight : UInt64
  reason : String
  deriving DecidableEq

/-! ### The quorum of devices -/

/-- The public identity of a device. -/
structure SignerIdentity where
  deviceId : UInt32
  verifyingKey : Hash32
  deriving DecidableEq

structure DeviceSignature where
  deviceId : UInt32
  keyEpoch : UInt32
  signature : Bytes
  deriving DecidableEq

/-- Why a presented quorum was refused. -/
inductive QuorumError where
  | invalidPolicy (rule : String)
  | tooManySignatures (deviceCount : UInt32) (presented : Nat)
  | quorumNotReached (required : UInt32) (presented : Nat)
  | signerOutOfRange (deviceId deviceCount : UInt32)
  | duplicateSigner (deviceId : UInt32)
  | epochMismatch (signerEpoch currentEpoch : UInt32)
  | unknownSigner (deviceId : UInt32)
  | invalidSignature (deviceId : UInt32)
  deriving DecidableEq

section Quorum

variable (C : Crypto) (policy : ColdWalletPolicy) (identities : List SignerIdentity)
  (payload : Bytes) (currentKeyEpoch : UInt32)

/-- The signers one after the other, each in range, once, and for this key epoch. -/
def collectSigners : (seen : List UInt32) → List DeviceSignature → Except QuorumError (List UInt32)
  | seen, [] => .ok seen
  | seen, sig :: signatures => do
    Except.ensure (decide (sig.deviceId ≠ 0 ∧ sig.deviceId ≤ policy.deviceCount))
      (.signerOutOfRange sig.deviceId policy.deviceCount)
    Except.ensure (decide (sig.deviceId ∉ seen)) (.duplicateSigner sig.deviceId)
    Except.ensure (decide (sig.keyEpoch = currentKeyEpoch))
      (.epochMismatch sig.keyEpoch currentKeyEpoch)
    collectSigners (seen ++ [sig.deviceId]) signatures

/-- One signature, strictly verified against the key of the device that claims it. -/
def verifyDevice (sig : DeviceSignature) : Except QuorumError Unit := do
  let identity ← Except.ofOption (identities.find? fun i => decide (i.deviceId = sig.deviceId))
    (.unknownSigner sig.deviceId)
  Except.ensure (decide (sig.signature.length = 64)) (.invalidSignature sig.deviceId)
  Except.ensure (C.verifySignature payload sig.signature (hashBytes identity.verifyingKey)).toBool
    (.invalidSignature sig.deviceId)

/-- The devices that signed the payload, sorted; everything cheap is checked first. -/
def verifyQuorum (signatures : List DeviceSignature) : Except QuorumError (List UInt32) := do
  policy.validate.mapError .invalidPolicy
  Except.ensure (decide (signatures.length ≤ policy.deviceCount.toNat))
    (.tooManySignatures policy.deviceCount signatures.length)
  Except.ensure (decide (policy.requiredQuorum.toNat ≤ signatures.length))
    (.quorumNotReached policy.requiredQuorum signatures.length)
  let seen ← collectSigners policy currentKeyEpoch [] signatures
  signatures.forM (verifyDevice C identities payload)
  return seen.mergeSort fun a b => decide (a ≤ b)

end Quorum

/-! ### The state of the wallet -/

/-- The cold side's counters, the key in force and its bounded histories. -/
structure ColdWalletState where
  policy : ColdWalletPolicy
  lastSignedHeight : UInt64
  lastSignedNonce : UInt64
  keyEpoch : UInt32
  /-- What was released in `budgetEpoch`. -/
  epochSpentAtoms : U128
  budgetEpoch : UInt64
  rotations : List KeyRotation
  refusals : List RefusalRecord
  signedCount : UInt64
  deriving DecidableEq

/-- A settlement that passed the quorum and the policy. -/
structure VerifiedSettlement where
  payload : Bytes
  signerIds : List UInt32
  keyEpoch : UInt32
  deriving DecidableEq

inductive ColdSettleError where
  | quorum (e : QuorumError)
  | policy (e : ColdRefusal)
  deriving DecidableEq

inductive RotationError where
  | epochExhausted
  | emptyReason
  | reasonTooLong (bytes maximum : Nat)
  deriving DecidableEq

namespace ColdWalletState

def new (policy : ColdWalletPolicy) : ColdWalletState where
  policy := policy
  lastSignedHeight := 0
  lastSignedNonce := 0
  keyEpoch := 1
  epochSpentAtoms := 0
  budgetEpoch := 0
  rotations := []
  refusals := []
  signedCount := 0

/-- The rotations went forward, up to the key in force, each with a reason. -/
def validateRotations (keyEpoch : UInt32) : (previous : UInt32) → List KeyRotation →
    Except String Unit
  | _, [] => .ok ()
  | previous, rotation :: rotations => do
    Except.ensure (decide (previous < rotation.keyEpoch ∧ rotation.keyEpoch ≤ keyEpoch))
      "rotation-epochs-not-monotonic"
    Except.ensure (decide (rotation.reason ≠ "")) "empty-rotation-reason"
    Except.ensure (decide (rotation.reason.utf8ByteSize ≤ maxRotationReasonBytes))
      "rotation-reason-too-long"
    validateRotations keyEpoch rotation.keyEpoch rotations

variable (s : ColdWalletState)

/-- What must hold of a state before it may sign. -/
def validate : Except String Unit := do
  s.policy.validate
  Except.ensure (decide (s.keyEpoch ≠ 0)) "key-epoch-zero"
  Except.ensure (decide (s.refusals.length ≤ s.policy.refusalHistoryCapacity))
    "refusal-history-over-capacity"
  Except.ensure (decide (s.rotations.length ≤ maxColdRotationHistory))
    "rotation-history-over-capacity"
  Except.ensure (decide (s.signedCount = 0 → s.lastSignedHeight = 0 ∧ s.lastSignedNonce = 0 ∧
    s.epochSpentAtoms = 0 ∧ s.budgetEpoch = 0)) "counters-without-a-signed-settlement"
  Except.ensure (decide (s.epochSpentAtoms ≤ s.policy.maxValuePerEpochAtoms))
    "epoch-spent-above-budget"
  validateRotations s.keyEpoch 0 s.rotations
  Except.ensure (s.rotations.getLast?.all fun last => decide (last.keyEpoch = s.keyEpoch))
    "current-key-epoch-not-recorded"

/-- The text that gets signed. -/
def payloadFor (request : SettlementRequest) (keyEpoch : UInt32) : Bytes :=
  textBytes "USL-COLD-SETTLEMENT-V1" ++ u64Bytes request.chainId ++ u64Bytes request.height ++
    u64Bytes request.epoch ++ hashBytes request.globalRoot ++ leBytes 16 request.valueAtoms.val ++
    u64Bytes request.nonce ++ u32Bytes keyEpoch

/-- What the epoch of a request has spent before it. -/
def spentBefore (request : SettlementRequest) : U128 :=
  if request.epoch = s.budgetEpoch then s.epochSpentAtoms else 0

/-- The rules, without any change to the state. -/
def check (request : SettlementRequest) (presentedKeyEpoch presentedSignatures : UInt32) :
    Except ColdRefusal Unit := do
  s.validate.mapError fun rule =>
    if s.policy.validate.toBool then .invalidState rule else .invalidPolicy rule
  Except.ensure (decide (request.chainId = s.policy.chainId))
    (.wrongChain s.policy.chainId request.chainId)
  Except.ensure (decide (s.keyEpoch ≤ presentedKeyEpoch))
    (.keyRotatedOut s.keyEpoch presentedKeyEpoch)
  Except.ensure (decide (presentedKeyEpoch ≤ s.keyEpoch))
    (.keyEpochAhead s.keyEpoch presentedKeyEpoch)
  Except.ensure (decide (presentedSignatures ≤ s.policy.deviceCount))
    (.quorumExceedsDeviceCount s.policy.deviceCount presentedSignatures)
  Except.ensure (decide (s.policy.requiredQuorum ≤ presentedSignatures))
    (.quorumNotReached s.policy.requiredQuorum presentedSignatures)
  Except.ensure (decide (s.lastSignedHeight ≤ request.height))
    (.heightRolledBack s.lastSignedHeight request.height)
  Except.ensure (decide (¬(request.height = s.lastSignedHeight ∧ 0 < s.signedCount)))
    (.heightAlreadySettled request.height)
  let advance := request.height.saturatingSub s.lastSignedHeight
  Except.ensure (decide (0 < s.signedCount → s.policy.minHeightAdvance ≤ advance))
    (.heightAdvanceTooSmall s.policy.minHeightAdvance advance)
  Except.ensure (decide (s.budgetEpoch ≤ request.epoch))
    (.epochRolledBack s.budgetEpoch request.epoch)
  Except.ensure (decide (request.nonce ≠ 0)) .nonceZero
  Except.ensure (decide (s.lastSignedNonce < request.nonce))
    (.nonceReplayed s.lastSignedNonce request.nonce)
  Except.ensure (decide (request.valueAtoms ≤ s.policy.maxValuePerSettlementAtoms))
    (.valueAboveCeiling s.policy.maxValuePerSettlementAtoms request.valueAtoms)
  let exceeded := ColdRefusal.epochBudgetExceeded (s.spentBefore request) request.valueAtoms
    s.policy.maxValuePerEpochAtoms
  let total ← Except.ofOption ((s.spentBefore request).checkedAdd request.valueAtoms) exceeded
  Except.ensure (decide (total ≤ s.policy.maxValuePerEpochAtoms)) exceeded

/-- A refusal enters the history, and the oldest one leaves a full history. -/
def recordRefusal (request : SettlementRequest) (err : ColdRefusal) : ColdWalletState :=
  if s.policy.refusalHistoryCapacity = 0 then s
  else
    let kept := if s.policy.refusalHistoryCapacity ≤ s.refusals.length then s.refusals.tail
      else s.refusals
    { s with refusals := kept ++ [⟨err.kind, request.height, request.nonce⟩] }

/-- Refuse a request: it is recorded and its error returned. -/
def refuse {α : Type} (request : SettlementRequest) (err : ColdRefusal) :
    EStateM ColdRefusal ColdWalletState α := do
  modify fun s => s.recordRefusal request err
  throw err

/-- A value computed for a request, or the refusal of the request. -/
def orRefuse {α : Type} (request : SettlementRequest) (x : Except ColdRefusal α) :
    EStateM ColdRefusal ColdWalletState α :=
  match x with
  | .ok a => pure a
  | .error err => refuse request err

/-- Release the payload of a request that passes every rule.  The counters are computed before any
of them is written. -/
def sign (request : SettlementRequest) (presentedKeyEpoch presentedSignatures : UInt32) :
    EStateM ColdRefusal ColdWalletState Bytes := do
  let s ← get
  orRefuse request (s.check request presentedKeyEpoch presentedSignatures)
  let payload := payloadFor request s.keyEpoch
  let nextSpent ← orRefuse request <|
    if request.epoch ≠ s.budgetEpoch then .ok request.valueAtoms
    else Except.ofOption (s.epochSpentAtoms.checkedAdd request.valueAtoms)
      (.epochBudgetExceeded s.epochSpentAtoms request.valueAtoms s.policy.maxValuePerEpochAtoms)
  let nextCount ← orRefuse request <|
    Except.ofOption (s.signedCount.checkedAdd 1) (.invalidState "signed-count-exhausted")
  set { s with
    lastSignedHeight := request.height
    lastSignedNonce := request.nonce
    budgetEpoch := request.epoch
    epochSpentAtoms := nextSpent
    signedCount := nextCount }
  return payload

/-- Release a payload that a quorum of devices has signed.  A quorum that fails costs the wallet
nothing, not even an entry in the history. -/
def signWithQuorum (C : Crypto) (request : SettlementRequest) (presentedKeyEpoch : UInt32)
    (identities : List SignerIdentity) (signatures : List DeviceSignature) :
    EStateM (Fault ColdSettleError) ColdWalletState VerifiedSettlement := do
  let s ← get
  let payload := payloadFor request s.keyEpoch
  if presentedKeyEpoch ≠ s.keyEpoch then do
    -- The rules of `sign` refuse and record it; were they to pass, the source stops here.
    let _ ← EStateM.mapError (fun e => .fail (.policy e)) (sign request presentedKeyEpoch 0)
    throw .panic
  else do
    let signerIds ← EStateM.ofExcept <|
      (verifyQuorum C s.policy identities payload s.keyEpoch signatures).mapError
        fun e => .fail (.quorum e)
    let _ ← EStateM.mapError (fun e => .fail (.policy e))
      (sign request presentedKeyEpoch (UInt32.ofNat signerIds.length))
    let s ← get
    return { payload, signerIds, keyEpoch := s.keyEpoch }

/-- Put the next key in force; the old one stops at once. -/
def rotateKey (atHeight : UInt64) (reason : String) :
    EStateM RotationError ColdWalletState UInt32 := do
  EStateM.ensure (decide (reason ≠ "")) .emptyReason
  EStateM.ensure (decide (reason.utf8ByteSize ≤ maxRotationReasonBytes))
    (.reasonTooLong reason.utf8ByteSize maxRotationReasonBytes)
  let s ← get
  let next ← EStateM.orThrow (s.keyEpoch.checkedAdd 1) .epochExhausted
  let kept := if maxColdRotationHistory ≤ s.rotations.length then s.rotations.tail else s.rotations
  set { s with keyEpoch := next, rotations := kept ++ [KeyRotation.mk next atHeight reason] }
  return next

/-! ### What the calls do -/

/-- The wallet signed a request. -/
structure Signs (request : SettlementRequest) (s s' : ColdWalletState) : Prop where
  chain : request.chainId = s.policy.chainId
  /-- Every settlement but the first is ahead of the last one. -/
  height : 0 < s.signedCount → s.lastSignedHeight < request.height ∧
    s.lastSignedHeight.toNat + s.policy.minHeightAdvance.toNat ≤ request.height.toNat
  epoch : s.budgetEpoch ≤ request.epoch
  nonce : s.lastSignedNonce < request.nonce
  budget : (s.spentBefore request).val + request.valueAtoms.val ≤ s.policy.maxValuePerEpochAtoms.val
  spent : s'.epochSpentAtoms.val = (s.spentBefore request).val + request.valueAtoms.val
  count : s'.signedCount.toNat = s.signedCount.toNat + 1
  after : s' = { s with
    lastSignedHeight := request.height
    lastSignedNonce := request.nonce
    budgetEpoch := request.epoch
    epochSpentAtoms := s'.epochSpentAtoms
    signedCount := s'.signedCount }

/-- The wallet put its next key in force. -/
structure Rotates (s s' : ColdWalletState) : Prop where
  next : s'.keyEpoch.toNat = s.keyEpoch.toNat + 1
  /-- The new key is in the history, which dropped its oldest entry when it was full. -/
  history : ∃ atHeight reason, reason ≠ "" ∧ reason.utf8ByteSize ≤ maxRotationReasonBytes ∧
    s'.rotations = (if maxColdRotationHistory ≤ s.rotations.length then s.rotations.tail
      else s.rotations) ++ [⟨s'.keyEpoch, atHeight, reason⟩]
  after : s' = { s with keyEpoch := s'.keyEpoch, rotations := s'.rotations }

/-- The wallet is as it was, but for a refusal it may have recorded. -/
def Refuses (s s' : ColdWalletState) : Prop :=
  s' = s ∨ ∃ request err, s' = s.recordRefusal request err

variable {s} {request : SettlementRequest} {presentedKeyEpoch presentedSignatures : UInt32}

theorem orRefuse_bind {α β : Type} {x : Except ColdRefusal α}
    {f : α → EStateM ColdRefusal ColdWalletState β} {Q : β → ColdWalletState → Prop}
    (h : ∀ a, x = .ok a → (f a).Ends s Q fun err s' => s' = s.recordRefusal request err) :
    (orRefuse request x >>= f).Ends s Q fun err s' => s' = s.recordRefusal request err := by
  cases x with
  | ok a => exact h a rfl
  | error err => exact .bind (.modify_bind (.throw rfl)) fun _ _ (h : False) => h.elim

/-- A request that passes the rules is presented under the key in force. -/
theorem keyEpoch_of_check (h : s.check request presentedKeyEpoch presentedSignatures = .ok ()) :
    presentedKeyEpoch = s.keyEpoch := by
  simp only [check, ok_iff] at h
  obtain ⟨_, -, _, -, _, hlo, _, hhi, -⟩ := h
  exact le_antisymm hhi hlo

theorem sign_ends : (sign request presentedKeyEpoch presentedSignatures).Ends s
    (fun payload s' => payload = payloadFor request s.keyEpoch ∧ presentedKeyEpoch = s.keyEpoch ∧
      Signs request s s') fun err s' => s' = s.recordRefusal request err := by
  refine .get_bind (orRefuse_bind fun _ hcheck => orRefuse_bind fun nextSpent hspent =>
    orRefuse_bind fun nextCount hcount => .set_bind (.pure ⟨rfl, ?_⟩))
  refine ⟨keyEpoch_of_check hcheck, ?_⟩
  simp only [check, ok_iff] at hcheck
  obtain ⟨_, -, _, hchain, _, -, _, -, _, -, _, -, _, hback, _, hagain, _, hadvance, _, hepoch, _, -,
    _, hnonce, _, -, total, htotal, hbudget⟩ := hcheck
  have hsum := Fin.checkedAdd_eq_some.1 htotal
  have hnext : nextSpent.val = (s.spentBefore request).val + request.valueAtoms.val := by
    unfold spentBefore
    split at hspent
    · rename_i hnew
      cases hspent
      simp [if_neg hnew]
    · rename_i hsame
      rw [if_pos (not_not.1 hsame)]
      exact Fin.checkedAdd_eq_some.1 (Except.ofOption_eq_ok.1 hspent)
  exact {
    chain := hchain
    height := by
      intro hsigned
      have hne : request.height ≠ s.lastSignedHeight := fun h => hagain ⟨h, hsigned⟩
      refine ⟨lt_of_le_of_ne hback hne.symm, ?_⟩
      have hle := UInt64.le_iff_toNat_le.1 hback
      have hadv := UInt64.le_iff_toNat_le.1 (hadvance hsigned)
      rw [UInt64.toNat_saturatingSub] at hadv
      omega
    epoch := hepoch
    nonce := hnonce
    budget := hsum ▸ Fin.le_def.1 hbudget
    spent := hnext
    count := UInt64.checkedAdd_eq_some.1 (Except.ofOption_eq_ok.1 hcount)
    after := rfl }

variable {signatures : List DeviceSignature}

/-- A key epoch that does not match never passes the rules, so the source's `unreachable!` is. -/
theorem signWithQuorum_ends {C : Crypto} {identities : List SignerIdentity} :
    (signWithQuorum C request presentedKeyEpoch identities signatures).Ends s
      (fun v s' => v.payload = payloadFor request s.keyEpoch ∧ Signs request s s')
      fun e s' => e ≠ .panic ∧ Refuses s s' := by
  have hsign : ∀ n, (EStateM.mapError (fun e => Fault.fail (ColdSettleError.policy e))
      (sign request presentedKeyEpoch n)).Ends s _ fun e s' => e ≠ .panic ∧ Refuses s s' :=
    fun n => .mapError (sign_ends.mono (fun _ _ => id) fun err _ h => ⟨nofun, .inr ⟨_, err, h⟩⟩)
  refine .get_bind (.ite (fun hother => ?_) fun _ => ?_)
  · exact (hsign 0).bind fun _ _ h => absurd h.2.1 hother
  · refine .ofExcept_bind (fun e he => ?_) fun signerIds _ => ?_
    · cases hq : verifyQuorum C s.policy identities (payloadFor request s.keyEpoch) s.keyEpoch
        signatures with
      | ok ids => simp [hq, Except.mapError] at he
      | error e' =>
        simp only [hq, Except.mapError, Except.error.injEq] at he
        exact ⟨he ▸ nofun, .inl rfl⟩
    · exact (hsign _).bind fun _ _ h => .get_bind (.pure ⟨rfl, h.2.2⟩)

theorem rotateKey_ends {atHeight : UInt64} {reason : String} :
    (rotateKey atHeight reason).Ends s (fun _ s' => Rotates s s') fun _ s' => s' = s := by
  refine .ensure_bind (fun _ => rfl) fun hreason => .ensure_bind (fun _ => rfl) fun hbytes => ?_
  refine .get_bind (.orThrow_bind (fun _ => rfl) fun next hnext => .set_bind (.pure ?_))
  exact ⟨UInt32.checkedAdd_eq_some.1 hnext, ⟨atHeight, reason, of_decide_eq_true hreason,
    of_decide_eq_true hbytes, rfl⟩, rfl⟩

/-! ### The self-check -/

theorem validate_eq_ok : s.validate = .ok () ↔ s.policy.validate = .ok () ∧ s.keyEpoch ≠ 0 ∧
    s.refusals.length ≤ s.policy.refusalHistoryCapacity ∧
    s.rotations.length ≤ maxColdRotationHistory ∧
    (s.signedCount = 0 → s.lastSignedHeight = 0 ∧ s.lastSignedNonce = 0 ∧
      s.epochSpentAtoms = 0 ∧ s.budgetEpoch = 0) ∧
    s.epochSpentAtoms ≤ s.policy.maxValuePerEpochAtoms ∧
    validateRotations s.keyEpoch 0 s.rotations = .ok () ∧
    ∀ last ∈ s.rotations.getLast?, last.keyEpoch = s.keyEpoch := by
  simp only [validate, ok_iff, Option.all_eq_true, Option.mem_def]
  constructor
  · rintro ⟨⟨⟩, hpolicy, _, hkey, _, hrefusals, _, hrotations, _, hcounters, _, hspent, ⟨⟩, hforward,
      hlast⟩
    exact ⟨hpolicy, hkey, hrefusals, hrotations, hcounters, hspent, hforward, hlast⟩
  · rintro ⟨hpolicy, hkey, hrefusals, hrotations, hcounters, hspent, hforward, hlast⟩
    exact ⟨(), hpolicy, (), hkey, (), hrefusals, (), hrotations, (), hcounters, (), hspent, (),
      hforward, hlast⟩

theorem new_validate {policy : ColdWalletPolicy} (h : policy.validate = .ok ()) :
    (new policy).validate = .ok () := by
  rw [validate_eq_ok]
  refine ⟨h, nofun, Nat.zero_le _, Nat.zero_le _, fun _ => ⟨rfl, rfl, rfl, rfl⟩, ?_, rfl, ?_⟩
  · exact Fin.zero_le _
  · rintro _ ⟨⟩

theorem recordRefusal_eq (request : SettlementRequest) (err : ColdRefusal) :
    s.recordRefusal request err =
      { s with refusals := (s.recordRefusal request err).refusals } := by
  unfold recordRefusal
  split <;> rfl

theorem length_recordRefusal (request : SettlementRequest) (err : ColdRefusal)
    (h : s.refusals.length ≤ s.policy.refusalHistoryCapacity) :
    (s.recordRefusal request err).refusals.length ≤ s.policy.refusalHistoryCapacity := by
  unfold recordRefusal
  split
  · exact h
  · rename_i hcap
    split <;> simp only [List.length_append, List.length_tail, List.length_singleton] <;> omega

end ColdWalletState

/-! ### The keys behind a quorum -/

/-- The key the identity list gives a device. -/
def deviceKey (identities : List SignerIdentity) (deviceId : UInt32) : Option Hash32 :=
  (identities.find? fun i => decide (i.deviceId = deviceId)).map (·.verifyingKey)

/-- The key of a device under which its signature verifies. -/
def SignedBy (C : Crypto) (identities : List SignerIdentity) (payload : Bytes)
    (signatures : List DeviceSignature) (key : Hash32) : Prop :=
  ∃ sig ∈ signatures, deviceKey identities sig.deviceId = some key ∧
    (C.verifySignature payload sig.signature (hashBytes key)).toBool = true

variable {C : Crypto} {policy : ColdWalletPolicy} {identities : List SignerIdentity}
  {payload : Bytes} {currentKeyEpoch : UInt32} {signatures : List DeviceSignature}
  {seen ids : List UInt32}

theorem collectSigners_eq_ok (h : collectSigners policy currentKeyEpoch seen signatures = .ok ids)
    (hseen : seen.Nodup) : ids = seen ++ signatures.map (·.deviceId) ∧ ids.Nodup := by
  induction signatures generalizing seen with
  | nil =>
    cases h
    exact ⟨(List.append_nil _).symm, hseen⟩
  | cons sig signatures ih =>
    simp only [collectSigners, ok_iff] at h
    obtain ⟨_, -, _, hnew, _, -, h⟩ := h
    simpa using ih h (List.nodup_append.2 ⟨hseen, by simp, by grind⟩)

theorem verifyDevice_eq_ok {sig : DeviceSignature}
    (h : verifyDevice C identities payload sig = .ok ()) :
    ∃ key, deviceKey identities sig.deviceId = some key ∧
      (C.verifySignature payload sig.signature (hashBytes key)).toBool = true := by
  simp only [verifyDevice, ok_iff] at h
  obtain ⟨identity, hfind, _, -, hverified⟩ := h
  exact ⟨identity.verifyingKey, by simp [deviceKey, hfind], hverified⟩

/-- The devices of an accepted quorum are sorted, distinct and enough.  Enough different keys signed
exactly when the identity list gives these devices enough different keys. -/
theorem verifyQuorum_distinct
    (h : verifyQuorum C policy identities payload currentKeyEpoch signatures = .ok ids) :
    ids.Pairwise (· < ·) ∧ policy.requiredQuorum.toNat ≤ ids.length ∧
    ((∃ keys : Finset Hash32, policy.requiredQuorum.toNat ≤ keys.card ∧
        ∀ key ∈ keys, SignedBy C identities payload signatures key) ↔
      policy.requiredQuorum.toNat ≤ (ids.filterMap (deviceKey identities)).toFinset.card) := by
  simp only [verifyQuorum, ok_iff] at h
  obtain ⟨_, -, _, -, _, henough, seen, hseen, _, hverified, rfl⟩ := h
  obtain ⟨hmap, hnodup⟩ := collectSigners_eq_ok hseen List.nodup_nil
  have hperm := List.mergeSort_perm seen fun a b => decide (a ≤ b)
  have hsorted : (seen.mergeSort fun a b => decide (a ≤ b)).Pairwise (decide <| · ≤ ·) :=
    List.pairwise_mergeSort (by simpa using fun _ _ _ => le_trans) (by simpa using le_total) seen
  have hkeys : ∀ key, key ∈ ((seen.mergeSort fun a b => decide (a ≤ b)).filterMap
      (deviceKey identities)).toFinset ↔ SignedBy C identities payload signatures key := by
    intro key
    rw [List.mem_toFinset, (hperm.filterMap _).mem_iff, hmap, List.mem_filterMap]
    constructor
    · rintro ⟨id, hid, hkey⟩
      obtain ⟨sig, hsig, rfl⟩ := List.mem_map.1 hid
      obtain ⟨key', hkey', hok⟩ := verifyDevice_eq_ok (Except.forM_eq_ok.1 hverified sig hsig)
      cases hkey.symm.trans hkey'
      exact ⟨sig, hsig, hkey, hok⟩
    · rintro ⟨sig, hsig, hkey, -⟩
      exact ⟨_, List.mem_map_of_mem hsig, hkey⟩
  refine ⟨?_, by simpa [hmap] using henough, ?_⟩
  · exact (hsorted.and (hperm.nodup_iff.2 hnodup)).imp fun h =>
      lt_of_le_of_ne (of_decide_eq_true h.1) h.2
  · constructor
    · rintro ⟨keys, hcard, hsigned⟩
      exact hcard.trans (Finset.card_le_card fun key hkey => (hkeys key).2 (hsigned key hkey))
    · exact fun hcard => ⟨_, hcard, fun key => (hkeys key).1⟩

/-- Signatures of two devices, for a verifier that accepts all. -/
def twoSignatures : List DeviceSignature :=
  [⟨1, 1, List.replicate 64 0⟩, ⟨2, 1, List.replicate 64 0⟩]

def acceptAll : Crypto := ⟨fun _ => 0, fun _ => 0, fun _ _ _ => .ok (), fun _ _ _ => .ok ()⟩

theorem verifyQuorum_two (a b : Hash32) :
    verifyQuorum acceptAll ⟨1, 1, 1, 0, 2, 2, 0⟩ [⟨1, a⟩, ⟨2, b⟩] [] 1 twoSignatures = .ok [1, 2] :=
  congrArg Except.ok (List.mergeSort_of_pairwise (by decide))

theorem two_keys_sign : ∃ keys : Finset Hash32, 2 ≤ keys.card ∧
    ∀ key ∈ keys, SignedBy acceptAll [⟨1, 8⟩, ⟨2, 9⟩] [] twoSignatures key :=
  (verifyQuorum_distinct (verifyQuorum_two 8 9)).2.2.2 (by decide)

/-- Two devices with one key pass a quorum of two. -/
theorem one_key_passes :
    verifyQuorum acceptAll ⟨1, 1, 1, 0, 2, 2, 0⟩ [⟨1, 9⟩, ⟨2, 9⟩] [] 1 twoSignatures = .ok [1, 2] ∧
    ∀ key, SignedBy acceptAll [⟨1, 9⟩, ⟨2, 9⟩] [] twoSignatures key → key = 9 := by
  refine ⟨verifyQuorum_two 9 9, ?_⟩
  rintro key ⟨sig, hsig, hkey, -⟩
  rcases List.mem_pair.1 hsig with rfl | rfl <;> exact (Option.some.inj hkey).symm

end Budlum
