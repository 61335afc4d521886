import Budlum.CrossDomain.Message

/-!
# The bridge

An asset is locked on its source domain, minted on the target, burned there and unlocked at home.
A lock that expires is released to its owner.  The table of transfers says where the value is: a
transfer that is `Locked` or `Burned` holds its amount in escrow, in every other status the amount
is in somebody's account.

The lemmas say how each operation changes the escrowed amount (`BridgeState.escrowed`).
-/

namespace Budlum

open Except (ensure ofOption ok_iff)

inductive BridgeStatus where
  | active (domain : DomainId)
  | locked (domain : DomainId)
  | minted (domain : DomainId)
  | burned (domain : DomainId)
  | unlocked (domain : DomainId)
  deriving DecidableEq, Repr

namespace BridgeStatus

/-- The transfer holds its amount in escrow. -/
def holdsValue : BridgeStatus → Bool
  | locked _ | burned _ => true
  | active _ | minted _ | unlocked _ => false

/-- Nothing can move the transfer again. -/
def isTerminal : BridgeStatus → Bool
  | unlocked _ | active _ => true
  | locked _ | minted _ | burned _ => false

end BridgeStatus

structure BridgeTransfer where
  messageId : MessageId
  assetId : Hash32
  sourceDomain : DomainId
  targetDomain : DomainId
  owner : Address
  recipient : Address
  amount : UInt64
  status : BridgeStatus
  sourceEventHash : Hash32
  expiryHeight : UInt64
  deriving DecidableEq

/-- Assets, transfers, the queues of expiring and settled transfers, and the replay store. -/
structure BridgeState where
  assetLocations : OrdMap Hash32 BridgeStatus := ∅
  transfers : OrdMap MessageId BridgeTransfer := ∅
  expiryQueue : OrdMap UInt64 (List MessageId) := ∅
  replay : ReplayNonceStore := {}
  settledQueue : OrdMap UInt64 (List MessageId) := ∅
  deriving DecidableEq, Inhabited

/-- Blocks a settled transfer stays readable. -/
def settledRetentionBlocks : UInt64 := 10 * ReplayNonceStore.finalityPruneDepth

def bridgeError (message : String) : String := "Bridge error: " ++ message

/-- The recipient's share and the relayer's fee of a bridged amount. -/
def splitBridgeFee (amount feePpm minFee : UInt64) : Except String (UInt64 × UInt64) := do
  ensure (decide (minFee < amount))
    s!"bridge amount {amount} does not cover the minimum relayer fee {minFee}"
  let proportional := amount.toNat * feePpm.toNat / 1000000
  let fee := max proportional minFee.toNat
  let recipient ← ofOption (UInt64.ofNat? (amount.toNat - fee))
    "bridge recipient amount exceeds u64"
  let fee ← ofOption (UInt64.ofNat? fee) "bridge fee exceeds u64"
  return (recipient, fee)

theorem splitBridgeFee_add {amount feePpm minFee recipient fee : UInt64}
    (hppm : feePpm.toNat < 1000000)
    (h : splitBridgeFee amount feePpm minFee = .ok (recipient, fee)) :
    recipient.toNat + fee.toNat = amount.toNat := by
  simp only [splitBridgeFee, ok_iff, UInt64.ofNat?_eq_some] at h
  obtain ⟨-, hmin, r, hr, f, hf, rfl, rfl⟩ := h
  rw [UInt64.lt_iff_toNat_lt] at hmin
  have hprop : amount.toNat * feePpm.toNat / 1000000 ≤ amount.toNat := by
    apply Nat.div_le_of_le_mul
    rw [Nat.mul_comm 1000000]
    exact Nat.mul_le_mul_left _ (by omega)
  omega

def bridgePayloadHash (C : Crypto) (assetId : Hash32) (amount : UInt64) : Hash32 :=
  C.hashFieldsBytes [textBytes "BDLM_BRIDGE_PAYLOAD_V1", hashBytes assetId, u64Bytes amount]

/-- A relayed burn goes home to the domain the lock was opened from. -/
def checkBurnMatchesLockDomain (lockSource burnTarget : DomainId) : Except String Unit :=
  ensure (decide (lockSource = burnTarget))
    s!"relayed burn targets domain {burnTarget} but the lock was opened from domain {lockSource}"

namespace BridgeState

variable (C : Crypto) (b : BridgeState)

def markSettled (id : MessageId) (height : UInt64) : BridgeState :=
  { b with settledQueue := b.settledQueue.insert height (b.settledQueue.getD height [] ++ [id]) }

/-- Make an asset known, active on a domain. -/
def registerAsset (assetId : Hash32) (domain : DomainId) : Except String BridgeState := do
  ensure (!b.assetLocations.contains assetId) "Asset is already registered"
  return { b with assetLocations := b.assetLocations.insert assetId (.active domain) }

def lockEvent (source target : DomainId) (sourceHeight : UInt64) (eventIndex : UInt32)
    (assetId : Hash32) (owner recipient : Address) (amount expiryHeight nonce : UInt64) :
    CrossDomainMessage × DomainEvent :=
  let payload := bridgePayloadHash C assetId amount
  let message := CrossDomainMessage.withId C ⟨0, none, source, target, sourceHeight, eventIndex,
    nonce, owner, recipient, payload, .bridgeLock, expiryHeight⟩
  (message, ⟨source, sourceHeight, eventIndex, .bridgeLocked, owner, some message, payload⟩)

/-- Lock an asset that is active on the source domain. -/
def lock (source target : DomainId) (sourceHeight : UInt64) (eventIndex : UInt32)
    (assetId : Hash32) (owner recipient : Address) (amount expiryHeight : UInt64) :
    Except String (BridgeTransfer × DomainEvent × BridgeState) := do
  let current ← ofOption (b.assetLocations.get assetId) "Unknown asset"
  ensure (decide (current = .active source))
    "Asset is not active in the source domain"
  let (nonce, replay) := b.replay.nextNonce source target owner
  let (message, event) := lockEvent C source target sourceHeight eventIndex assetId owner recipient
    amount expiryHeight nonce
  let transfer : BridgeTransfer := ⟨message.messageId, assetId, source, target, owner, recipient,
    amount, .locked source, event.leafHash C, expiryHeight⟩
  let queue := if 0 < expiryHeight then
      b.expiryQueue.insert expiryHeight (b.expiryQueue.getD expiryHeight [] ++ [message.messageId])
    else b.expiryQueue
  return (transfer, event, { b with
    replay := replay
    assetLocations := b.assetLocations.insert assetId (.locked source)
    transfers := b.transfers.insert message.messageId transfer
    expiryQueue := queue })

/-- The transfer moves to a new status, and its asset with it. -/
def move (id : MessageId) (t : BridgeTransfer) (status location : BridgeStatus) : BridgeState :=
  { b with
    transfers := b.transfers.insert id { t with status := status }
    assetLocations := b.assetLocations.insert t.assetId location }

/-- Mint the amount of a locked transfer on the target domain. -/
def mint (m : CrossDomainMessage) (currentHeight : UInt64) : Except String BridgeState := do
  ensure (m.verifyId C) "Invalid cross-domain message id"
  let t ← ofOption (b.transfers.get m.messageId) "Unknown bridge transfer"
  let expected := bridgePayloadHash C t.assetId t.amount
  ensure (decide (m.payloadHash = expected))
    s!"payload_hash mismatch - message claims {(hashBytes m.payloadHash).map UInt8.toNat}, transfer binds {(hashBytes expected).map UInt8.toNat}"
  ensure (!b.replay.isProcessed m.sourceDomain m.targetDomain m.sender m.nonce)
    "Cross-domain message was already processed"
  ensure (decide (t.status = .locked m.sourceDomain))
    "Transfer is not locked on source domain"
  let replay ← b.replay.markProcessedAt m.sourceDomain m.targetDomain m.sender m.nonce currentHeight
  return { b.move m.messageId t (.minted m.targetDomain) (.minted m.targetDomain) with
    replay := replay }

/-- Burn a minted transfer on the domain it was minted on. -/
def burnWithEvent (id : MessageId) (domain : DomainId) (domainHeight : UInt64)
    (eventIndex : UInt32) (expiryHeight : UInt64) : Except String (DomainEvent × BridgeState) := do
  let t ← ofOption (b.transfers.get id) "Unknown bridge transfer"
  ensure (decide (t.status = .minted domain))
    "Transfer is not minted on burn domain"
  let (nonce, replay) := b.replay.nextNonce domain t.sourceDomain t.recipient
  let payload := bridgePayloadHash C t.assetId t.amount
  let message := CrossDomainMessage.withId C ⟨0, some id, domain, t.sourceDomain, domainHeight,
    eventIndex, nonce, t.recipient, t.owner, payload, .bridgeBurn, expiryHeight⟩
  let event : DomainEvent :=
    ⟨domain, domainHeight, eventIndex, .bridgeBurned, t.recipient, some message, payload⟩
  return (event, { b.move id t (.burned domain) (.burned domain) with replay := replay })

/-- Unlock a transfer burned on its target domain. -/
def unlock (id : MessageId) (source : DomainId) (settledHeight : UInt64) :
    Except String BridgeState := do
  let t ← ofOption (b.transfers.get id) "Unknown bridge transfer"
  ensure (decide (t.status = .burned t.targetDomain))
    "Transfer is not burned on target domain"
  ensure (decide (t.targetDomain = source))
    "Unlock must originate from the burn (target) domain"
  return (b.move id t (.unlocked t.sourceDomain) (.active t.sourceDomain)).markSettled id settledHeight

def releaseLock (currentHeight : UInt64) (acc : BridgeState × List (Address × UInt64))
    (id : MessageId) : BridgeState × List (Address × UInt64) :=
  match acc.1.transfers.get id with
  | some t =>
    match t.status with
    | .locked domain =>
      ((acc.1.move id t (.active domain) (.active domain)).markSettled id currentHeight,
        acc.2 ++ [(t.owner, t.amount)])
    | _ => acc
  | none => acc

/-- Drop one settled transfer. -/
def dropRow (b : BridgeState) (id : MessageId) : BridgeState :=
  if (b.transfers.get id).any (·.status.isTerminal) then
    { b with transfers := b.transfers.erase id }
  else b

/-- The identifiers queued up to a height, in the order of heights. -/
def queuedThrough (queue : OrdMap UInt64 (List MessageId)) (height : UInt64) : List MessageId :=
  (queue.filter fun h _ => decide (h ≤ height)).values.flatten

/-- Drop the settled transfers whose retention is over. -/
def dropSettledRows (currentHeight : UInt64) : BridgeState :=
  let cutoff := currentHeight.saturatingSub settledRetentionBlocks
  let b' := { b with settledQueue := b.settledQueue.filter fun h _ => decide (cutoff < h) }
  (queuedThrough b.settledQueue cutoff).foldl dropRow b'

/-- Release every expired lock; the released amounts go back to their owners. -/
def sweepExpiredLocks (currentHeight : UInt64) : BridgeState × List (Address × UInt64) :=
  let b' := { b with expiryQueue := b.expiryQueue.filter fun h _ => decide (currentHeight < h) }
  let (swept, released) :=
    (queuedThrough b.expiryQueue currentHeight).foldl (releaseLock currentHeight) (b', [])
  (swept.dropSettledRows currentHeight, released)

/-! ### Value in escrow -/

def heldAmount (t : BridgeTransfer) : Nat := if t.status.holdsValue then t.amount.toNat else 0

/-- The amounts of all transfers that are locked or burned. -/
def escrowed : Nat := b.transfers.sumBy fun _ t => heldAmount t

def releasedTotal (released : List (Address × UInt64)) : Nat := (released.map (·.2.toNat)).sum

variable {C} {b} {id : MessageId} {t : BridgeTransfer} {b' : BridgeState} {source : DomainId}
  {eventIndex : UInt32} {e : DomainEvent}

theorem escrowed_move (status location : BridgeStatus) (hget : b.transfers.get id = some t) :
    (b.move id t status location).escrowed + heldAmount t = b.escrowed + heldAmount
    { t with status := status } := by
  have h := OrdMap.sumBy_insert (fun _ t => heldAmount t) b.transfers id { t with status := status }
  rwa [OrdMap.amountAt_of_get hget] at h

@[simp] theorem escrowed_markSettled (b : BridgeState) (id : MessageId) (height : UInt64) :
    (b.markSettled id height).escrowed = b.escrowed := rfl

theorem escrowed_lock_le {target : DomainId} {sourceHeight : UInt64}
    {assetId : Hash32} {owner recipient : Address} {amount expiryHeight : UInt64}
    (h : b.lock C source target sourceHeight eventIndex assetId owner recipient amount expiryHeight =
      .ok (t, e, b')) :
    b'.escrowed ≤ b.escrowed + amount.toNat := by
  simp only [lock, ok_iff] at h
  obtain ⟨-, -, -, -, -, -, rfl⟩ := h
  -- an earlier transfer under the same identifier is overwritten, which only lowers the sum
  refine (Nat.le_add_right _ _).trans (OrdMap.sumBy_insert (fun _ t => heldAmount t) _ _ _).le |>.trans ?_
  simp [escrowed, heldAmount, BridgeStatus.holdsValue]

variable {height : UInt64}

theorem escrowed_mint {m : CrossDomainMessage} (h : b.mint C m height = .ok b') : ∃ t,
    b.transfers.get m.messageId = some t ∧ b'.escrowed + t.amount.toNat = b.escrowed := by
  simp only [mint, ok_iff] at h
  obtain ⟨-, -, t, hget, -, -, -, -, -, hstatus, replay, -, rfl⟩ := h
  have hmove := escrowed_move (.minted m.targetDomain) (.minted m.targetDomain) hget
  simp only [heldAmount, hstatus, BridgeStatus.holdsValue, if_true, Bool.false_eq_true, if_false] at hmove
  exact ⟨t, hget, hmove⟩

theorem escrowed_burnWithEvent {domain : DomainId} {expiry : UInt64} (h : b.burnWithEvent C id domain height eventIndex expiry = .ok (e, b')) : ∃
    t, b.transfers.get id = some t ∧ t.status = .minted domain ∧ b'.escrowed = b.escrowed +
    t.amount.toNat := by
  simp only [burnWithEvent, ok_iff] at h
  obtain ⟨t, hget, -, hstatus, -, rfl⟩ := h
  have hmove := escrowed_move (.burned domain) (.burned domain) hget
  simp only [heldAmount, hstatus, BridgeStatus.holdsValue, if_true, Bool.false_eq_true, if_false] at hmove
  exact ⟨t, hget, hstatus, hmove⟩

theorem escrowed_unlock (h : b.unlock id source height = .ok b') : ∃ t,
    b.transfers.get id = some t ∧ b'.escrowed + t.amount.toNat = b.escrowed := by
  simp only [unlock, ok_iff] at h
  obtain ⟨t, hget, -, hstatus, -, -, rfl⟩ := h
  have hmove := escrowed_move (.unlocked t.sourceDomain) (.active t.sourceDomain) hget
  exact ⟨t, hget, by simpa [heldAmount, hstatus, BridgeStatus.holdsValue] using hmove⟩

theorem escrowed_releaseLock (height : UInt64) (acc : BridgeState × List (Address × UInt64))
    (id : MessageId) :
    (releaseLock height acc id).1.escrowed + releasedTotal (releaseLock height acc id).2 =
      acc.1.escrowed + releasedTotal acc.2 := by
  unfold releaseLock
  split
  · rename_i t hget
    split
    · rename_i domain hstatus
      have hmove := escrowed_move (.active domain) (.active domain) hget
      simp only [heldAmount, hstatus, BridgeStatus.holdsValue, if_true] at hmove
      simp only [escrowed_markSettled, releasedTotal, List.map_append, List.sum_append,
        List.map_singleton, List.sum_singleton]
      simp only [Bool.false_eq_true, if_false] at hmove
      omega
    · rfl
  · rfl

theorem heldAmount_of_terminal (h : t.status.isTerminal) : heldAmount t = 0 := by
  unfold heldAmount
  cases hs : t.status <;> simp_all [BridgeStatus.isTerminal, BridgeStatus.holdsValue]

variable (b)

theorem escrowed_dropRow (id : MessageId) : (b.dropRow id).escrowed = b.escrowed := by
  unfold dropRow
  split_ifs with hterm
  · have herase := OrdMap.sumBy_erase (fun _ t => heldAmount t) b.transfers id
    cases hget : b.transfers.get id with
    | none => simp [hget] at hterm
    | some t =>
      rw [OrdMap.amountAt_of_get hget, heldAmount_of_terminal (by simpa [hget] using hterm)] at herase
      exact herase
  · rfl

theorem escrowed_dropSettledRows (height : UInt64) :
    (b.dropSettledRows height).escrowed = b.escrowed :=
  List.foldlRecOn (motive := fun b' : BridgeState => b'.escrowed = b.escrowed) _ _ rfl
    fun b' h id _ => (escrowed_dropRow b' id).trans h

/-- A sweep moves the released amounts out of escrow. -/
theorem escrowed_sweep (height : UInt64) :
    (b.sweepExpiredLocks height).1.escrowed + releasedTotal (b.sweepExpiredLocks height).2 =
      b.escrowed := by
  simp only [sweepExpiredLocks, escrowed_dropSettledRows]
  exact List.foldlRecOn
    (motive := fun acc : BridgeState × List (Address × UInt64) =>
      acc.1.escrowed + releasedTotal acc.2 = b.escrowed) _ _ rfl
    fun acc h id _ => (escrowed_releaseLock height acc id).trans h

variable {b}

/-- Without transfers there is nothing to release. -/
theorem sweep_of_empty (hempty : b.transfers = ∅) (height : UInt64) :
    (b.sweepExpiredLocks height).1.transfers = ∅ ∧ (b.sweepExpiredLocks height).2 = [] := by
  have hrelease := List.foldlRecOn
    (motive := fun acc : BridgeState × List (Address × UInt64) => acc.1.transfers = ∅ ∧ acc.2 = [])
    (queuedThrough b.expiryQueue height) (releaseLock height)
    (b := ({ b with expiryQueue := b.expiryQueue.filter fun h _ => decide (height < h) }, []))
    ⟨hempty, rfl⟩ fun acc h id _ => by simpa [releaseLock, h.1] using h
  refine ⟨?_, hrelease.2⟩
  exact List.foldlRecOn (motive := fun b : BridgeState => b.transfers = ∅) _ _ hrelease.1
    fun b hb id _ => by simp [dropRow, hb]

end BridgeState

end Budlum
