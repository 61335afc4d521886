import Budlum.Chain.Blockchain

/-!
# The bridge at the node

The calls through which a node's bridge is used: a lock takes its amount from the owner, a relayer
that proves an event mints on the target or unlocks at home for a fee, a burn turns the transfer
around, a sweep pays expired locks back.  Beside the relayer there is a second way home, an event
proved under a commitment.

Each call writes the table of transfers and the balances separately, and keeps what it wrote when a
later check fails.

* `Blockchain.bridge_calls_value` : **balances and escrow together grow exactly where a minted
  amount is burned**, since nobody is debited for it.
* `Blockchain.unlock_agrees_iff` : **the two ways home agree only on transfers of nothing**, since
  the proved event credits nobody.
-/

namespace Budlum

open BridgeState
open EStateM.Ensures (get_bind modify_bind ofExcept_bind orThrow_bind)

open AccountState

/-! ### Settling on the state -/

namespace AccountState

variable (C : Crypto)

/-- The recipient's and the relayer's part of a transfer under the current parameters. -/
def bridgeShares (s : AccountState) (amount : UInt64) : Except String (UInt64 × UInt64) :=
  (splitBridgeFee amount s.registry.params.bridgeRelayerFeePpm
    s.registry.params.bridgeRelayerMinFee).mapError bridgeError

/-- A relayed lock: the recipient and the relayer are credited. -/
def relayMint (message : CrossDomainMessage) (relayer : Address) (currentHeight : UInt64) :
    EStateM String AccountState Unit := do
  let transfer ← EStateM.orThrow ((← get).bridgeState.transfers.get message.messageId)
    "Unknown bridge transfer for mint"
  let (amount, fee) ← EStateM.ofExcept ((← get).bridgeShares transfer.amount)
  let minted ← EStateM.orThrow (amount.checkedAdd fee)
    "Bridge amount exceeds maximum representable balance"
  EStateM.ofExcept (((← get).ensureMintHeadroom minted).mapError fun e => s!"Bridge relay mint: {e}")
  let bridge ← EStateM.ofExcept
    (((← get).bridgeState.mint C message currentHeight).mapError bridgeError)
  modify fun s => { s with bridgeState := bridge }
  EStateM.mapError (fun e => s!"Bridge relay mint (recipient): {e}")
    (tryMintBalance transfer.recipient amount)
  EStateM.mapError (fun e => s!"Bridge relay mint fee (relayer): {e}") (tryMintBalance relayer fee)

/-- A relayed burn: the owner of the lock and the relayer are credited. -/
def relayUnlock (message : CrossDomainMessage) (relayer : Address) (currentHeight : UInt64) :
    EStateM String AccountState Unit := do
  let transferId ← EStateM.orThrow message.correlationId
    "Bridge burn message missing correlation_id (required to identify the original lock transfer)"
  let locked ← EStateM.orThrow ((← get).bridgeState.transfers.get transferId)
    "Unknown bridge transfer"
  EStateM.ofExcept
    ((checkBurnMatchesLockDomain locked.sourceDomain message.targetDomain).mapError bridgeError)
  let bridge ← EStateM.ofExcept
    (((← get).bridgeState.unlock transferId message.sourceDomain currentHeight).mapError bridgeError)
  modify fun s => { s with bridgeState := bridge }
  let transfer ← EStateM.orThrow ((← get).bridgeState.transfers.get transferId)
    "Failed to retrieve transfer after unlock"
  let (amount, fee) ← EStateM.ofExcept ((← get).bridgeShares transfer.amount)
  EStateM.mapError (fun e => s!"Bridge relay unlock overflow (owner): {e}")
    (tryAddBalance transfer.owner amount)
  EStateM.mapError (fun e => s!"Bridge relay unlock fee overflow (relayer): {e}")
    (tryAddBalance relayer fee)

/-- What a relayed message does to the state. -/
def settleRelayed (message : CrossDomainMessage) (relayer : Address) (currentHeight : UInt64) :
    EStateM String AccountState Unit :=
  match message.kind with
  | .bridgeLock => relayMint C message relayer currentHeight
  | .bridgeBurn => relayUnlock message relayer currentHeight
  | kind => throw s!"Unsupported relay message kind: {kind.debug}"

end AccountState

/-! ### Calls -/

namespace Blockchain

variable (C : Crypto)

def height (bc : Blockchain) : UInt64 := UInt64.ofNat bc.chain.length

/-- Work on the state of the node. -/
def onState {α : Type} (m : EStateM String AccountState α) : EStateM String Blockchain α :=
  EStateM.zoom Blockchain.state (fun s bc => { bc with state := s }) id m

def submitCrossDomainMessage (message : CrossDomainMessage) : EStateM String Blockchain Unit := do
  EStateM.ensure (message.verifyId C)
    "Cross-domain message ID does not match canonical preimage (potential forgery)"
  EStateM.ensure (decide (message.sourceDomain ≠ message.targetDomain))
    s!"Cross-domain message source and target domains must differ (both={message.sourceDomain})"
  let current := (← get).height
  EStateM.ensure (decide (message.expiryHeight = 0 ∨ current ≤ message.expiryHeight))
    s!"Cross-domain message expired (expiry={message.expiryHeight}, current={current})"
  let registry ← EStateM.ofExcept ((← get).state.messageRegistry.insert C message)
  modify fun bc => { bc with state := { bc.state with messageRegistry := registry } }

def enqueueBridgeRelay (sourceEvent : DomainEvent) (message : CrossDomainMessage) :
    EStateM String Blockchain Unit :=
  modify fun bc => { bc with
    universalRelayer := bc.universalRelayer.enqueueRelay sourceEvent message bc.height }

/-- The message of an event is recorded and waits for a relayer. -/
def announce (event : DomainEvent) : EStateM String Blockchain Unit :=
  event.message.forM fun message => do
    submitCrossDomainMessage C message
    enqueueBridgeRelay event message

/-- Lock an amount of an asset.  The debit stays if the message is refused. -/
def lockBridgeTransfer (source target : DomainId) (sourceHeight : UInt64) (eventIndex : UInt32)
    (assetId : Hash32) (owner recipient : Address) (amount expiryHeight : UInt64) :
    EStateM String Blockchain (BridgeTransfer × DomainEvent) := do
  EStateM.ofExcept ((← get).domainRegistry.checkBridge source)
  EStateM.ofExcept ((← get).domainRegistry.checkBridge target)
  EStateM.ensure (decide (source ≠ target)) "Bridge source and target domains must differ"
  EStateM.ensure (decide (amount ≠ 0)) "Bridge transfer amount must be non-zero"
  EStateM.ensure (decide (sourceHeight < expiryHeight))
    "Bridge transfer expiry must be after source height"
  let balance := (← get).state.getBalance owner
  EStateM.ensure (decide (amount ≤ balance))
    s!"Insufficient balance for bridge lock: owner has {balance}, needed {amount}"
  let (transfer, event, bridge) ← EStateM.ofExcept (((← get).state.bridgeState.lock C source target
    sourceHeight eventIndex assetId owner recipient amount expiryHeight).mapError bridgeError)
  onState (modify fun s =>
    { s with bridgeState := bridge }.setBalance owner ((s.getBalance owner).saturatingSub amount))
  announce C event
  return (transfer, event)

/-- Burn a minted transfer.  No account is debited. -/
def burnBridgeTransferWithEvent (messageId : MessageId) (domain : DomainId) (domainHeight : UInt64)
    (eventIndex : UInt32) (expiryHeight : UInt64) : EStateM String Blockchain DomainEvent := do
  let (event, bridge) ← EStateM.ofExcept (((← get).state.bridgeState.burnWithEvent C messageId domain
    domainHeight eventIndex expiryHeight).mapError bridgeError)
  onState (modify fun s => { s with bridgeState := bridge })
  announce C event
  return event

/-- The burn message of an event and the transfer it is about, where they fit together. -/
def checkBurnEvent (event : DomainEvent) (b : BridgeState) :
    Except String (MessageId × CrossDomainMessage) := do
  Except.ensure (decide (event.kind = .bridgeBurned)) "Verified event is not a bridge burn event"
  let message ← Except.ofOption event.message "Verified bridge burn event is missing message"
  Except.ensure (decide (message.kind = .bridgeBurn))
    "Verified event message is not a bridge burn message"
  Except.ensure (message.verifyId C) "Verified bridge burn message id is invalid"
  Except.ensure (decide (event.payloadHash = message.payloadHash))
    "Verified bridge burn event payload hash mismatch"
  let transferId ← Except.ofOption message.correlationId
    "Verified bridge burn message is missing correlation id"
  let transfer ← Except.ofOption (b.transfers.get transferId) "Unknown bridge transfer"
  Except.ensure (decide (transfer.targetDomain = message.sourceDomain))
    "Verified bridge burn source domain mismatch"
  Except.ensure (decide (transfer.sourceDomain = message.targetDomain))
    "Verified bridge burn target domain mismatch"
  Except.ensure (decide (transfer.recipient = message.sender)) "Verified bridge burn sender mismatch"
  Except.ensure (decide (transfer.owner = message.recipient))
    "Verified bridge burn recipient mismatch"
  Except.ensure (decide (message.payloadHash = bridgePayloadHash C transfer.assetId transfer.amount))
    "Verified bridge burn payload does not match transfer"
  return (transferId, message)

/-- Settle a burned transfer by an event proved under a commitment.  No account is credited. -/
def unlockBridgeTransferFromVerifiedEvent (targetDomain : DomainId) (targetHeight sequence : UInt64)
    (expectedBlockHash : Option Hash32) (event : DomainEvent) (proof : MerkleProof) :
    EStateM String Blockchain Unit := do
  let expected ← EStateM.orThrow expectedBlockHash
    "Bridge unlock requires explicit expected_block_hash (forgery gate)"
  EStateM.ofExcept ((← get).domainCommitmentRegistry.verifyEventFromRegistry C targetDomain targetHeight
    sequence (some expected) event proof)
  let (transferId, message) ← EStateM.ofExcept (checkBurnEvent C event (← get).state.bridgeState)
  let settled := (← get).height
  let bridge ← EStateM.ofExcept
    (((← get).state.bridgeState.unlock transferId message.sourceDomain settled).mapError bridgeError)
  onState (modify fun s => { s with bridgeState := bridge })

/-- Settle a pending message whose event is proved. -/
def submitRelayProof (encodeProof : MerkleProof → Bytes) (messageId : MessageId) (relayer : Address)
    (proof : MerkleProof) (sourceDomain : DomainId) :
    EStateM String Blockchain CrossDomainMessage := do
  EStateM.ofExcept (((← get).state.registry.ensureActiveRelayer relayer).mapError RegistryError.display)
  let currentHeight := (← get).height
  let pending ← EStateM.orThrow ((← get).universalRelayer.pending.get messageId)
    s!"no pending relay for message {toHex messageId}"
  let sourceHeight := pending.sourceEvent.domainHeight
  let commitment ← EStateM.orThrow
    ((← get).domainCommitmentRegistry.findByHeight sourceDomain sourceHeight)
    s!"No committed event root for domain {sourceDomain} at height {sourceHeight}"
  let message ← EStateM.zoom Blockchain.universalRelayer (fun u bc => { bc with universalRelayer := u }) id
    (UniversalRelayer.processRelay C encodeProof messageId relayer proof sourceDomain
      commitment.eventRoot currentHeight)
  onState (settleRelayed C message relayer currentHeight)
  return message

end Blockchain

/-! ### Balances and escrow -/

namespace AccountState

open EStateM

variable {C : Crypto} {s s' : AccountState} {message : CrossDomainMessage} {relayer : Address}
  {height : UInt64} {m m' : EStateM String AccountState Unit} {amount : Nat} {b : BridgeState}

/-- What is in accounts or on its way over the bridge. -/
def bridgedValue (s : AccountState) : Nat := s.circulatingSupply + s.bridgeState.escrowed

theorem circulatingSupply_setBalance {a : Address} (balance : UInt64) :
    (s.setBalance a balance).circulatingSupply + (s.getBalance a).toNat =
      s.circulatingSupply + balance.toNat :=
  circulatingSupply_setAccount _

/-- The balances grow by `amount` in all, and the bridge is left alone. -/
structure Credits (amount : Nat) (s s' : AccountState) : Prop where
  supply : s'.circulatingSupply = s.circulatingSupply + amount
  bridge : s'.bridgeState = s.bridgeState

theorem Credits.trans {x y : Nat} {s₁ : AccountState} (h : Credits x s s₁) (h' : Credits y s₁ s') :
    Credits (x + y) s s' where
  supply := by rw [h'.supply, h.supply, Nat.add_assoc]
  bridge := h'.bridge.trans h.bridge

/-- A payment credits its amount or, if it fails, nothing. -/
def IsPayment (m : EStateM String AccountState Unit) (amount : Nat) : Prop :=
  ∀ s, m.Ensures s (fun _ s' => Credits amount s s') ∧ m.Fails s fun _ s' => Credits 0 s s'

theorem IsPayment.mapError (h : IsPayment m amount) (f : String → String) : IsPayment
    (mapError f m) amount :=
  fun s => ⟨ensures_mapError.2 (h s).1, fails_mapError.2 (h s).2⟩

theorem isPayment_tryAddBalance (a : Address) (amount : UInt64) :
    IsPayment (tryAddBalance a amount) amount.toNat := by
  intro s
  constructor
  · rw [tryAddBalance, updateBalance_ensures]
    intro balance h
    rw [Except.ofOption_eq_ok, UInt64.checkedAdd_eq_some] at h
    have hsum := circulatingSupply_setBalance (s := s) (a := a) balance
    exact ⟨by omega, rfl⟩
  · intro e s' hrun
    rw [(updateBalance_fails e s' hrun).2]
    exact ⟨Nat.add_right_cancel (circulatingSupply_setAccount (s := s) (a := a) (s.account a)), rfl⟩

theorem isPayment_tryMintBalance (a : Address) (amount : UInt64) :
    IsPayment (tryMintBalance a amount) amount.toNat := by
  intro s
  refine ⟨get_bind (ofExcept_bind fun _ _ => (isPayment_tryAddBalance a amount s).1),
    fails_bind.2 ⟨fails_get, ensures_get.2 (fails_bind.2 ⟨?_, ?_⟩)⟩⟩
  · exact fails_ofExcept.2 fun _ _ => ⟨rfl, rfl⟩
  · exact ensures_ofExcept.2 fun _ _ => (isPayment_tryAddBalance a amount s).2

theorem IsPayment.ensures_bind {x y : Nat}
    (h : IsPayment m x) (h' : IsPayment m' y) : (m >>= fun _ => m').Ensures s fun _ s' => Credits
    (x + y) s s' :=
  (h s).1.bind fun _ _ hx => (h' _).1.mono fun _ _ hy => hx.trans hy

theorem IsPayment.leaves_bind {x y : Nat}
    (h : IsPayment m x) (h' : IsPayment m' y) : (m >>= fun _ => m').Leaves s fun s' => ∃ paid ≤ x +
    y, Credits paid s s' := by
  refine .bind (h s).1 (fun e s' hrun => ⟨0, Nat.zero_le _, (h s).2 e s' hrun⟩) fun _ s₁ hx => ?_
  refine ⟨(h' s₁).1.mono fun _ _ hy => ⟨x + y, le_rfl, hx.trans hy⟩, fun e s' hrun => ?_⟩
  exact ⟨x, Nat.le_add_right _ _, hx.trans ((h' s₁).2 e s' hrun)⟩

theorem bridgeShares_add {amount recipient fee : UInt64}
    (h : s.bridgeShares amount = .ok (recipient, fee)) :
    recipient.toNat + fee.toNat = amount.toNat :=
  splitBridgeFee_add (RegistryParams.bridgeRelayerFeePpm_lt s.registry.paramsValid)
    (Except.mapError_eq_ok.1 h)

/-- What left the bridge covers what is paid out. -/
theorem bridgedValue_le {paid : Nat}
    (hb : b.escrowed + amount = s.bridgeState.escrowed) (hpaid : paid ≤ amount)
    (h : Credits paid { s with bridgeState := b } s') : s'.bridgedValue ≤ s.bridgedValue := by
  have hsupply := h.supply
  have hsame : ({ s with bridgeState := b } : AccountState).circulatingSupply =
    s.circulatingSupply := rfl
  rw [bridgedValue, bridgedValue, h.bridge]
  dsimp only at hsupply ⊢
  omega

theorem relayMint_leaves :
    (relayMint C message relayer height).Leaves s fun s' => s'.bridgedValue ≤ s.bridgedValue := by
  refine .get_bind <| .orThrow_bind le_rfl fun t ht => .get_bind <|
    .ofExcept_bind le_rfl fun (amount, fee) hshares => .orThrow_bind le_rfl fun minted _ =>
    .get_bind <| .ofExcept_bind le_rfl fun _ _ => .get_bind <|
    .ofExcept_bind le_rfl fun b hb => .modify_bind ?_
  obtain ⟨t', ht', hout⟩ := escrowed_mint (Except.mapError_eq_ok.1 hb)
  obtain rfl : t = t' := Option.mem_unique ht ht'
  refine (IsPayment.leaves_bind ((isPayment_tryMintBalance t.recipient amount).mapError _)
    ((isPayment_tryMintBalance relayer fee).mapError _)).mono ?_
  rintro s' ⟨paid, hpaid, h⟩
  exact bridgedValue_le hout (hpaid.trans (bridgeShares_add hshares).le) h

/-- An unlocked transfer is back in its source domain, with its amount. -/
theorem unlock_transfer {b' : BridgeState} {id : MessageId} {t : BridgeTransfer}
    {source : DomainId} (ht : b.transfers.get id = some t)
    (h : b.unlock id source height = .ok b') :
    b'.transfers.get id = some { t with status := .unlocked t.sourceDomain } := by
  simp only [unlock, Except.ok_iff] at h
  obtain ⟨t', ht', -, -, -, -, rfl⟩ := h
  obtain rfl : t = t' := Option.mem_unique ht ht'
  simp [move, markSettled]

/-- The owner and the relayer share the amount of the transfer. -/
theorem relayUnlock_ensures :
    (relayUnlock message relayer height).Ensures s fun _ s' => ∃ id t b,
      message.correlationId = some id ∧ s.bridgeState.transfers.get id = some t ∧
      s.bridgeState.unlock id message.sourceDomain height = .ok b ∧
      Credits t.amount.toNat { s with bridgeState := b } s' := by
  refine orThrow_bind fun id hid => get_bind <| orThrow_bind fun t ht =>
    ofExcept_bind fun _ _ => get_bind <| ofExcept_bind fun b hb =>
    modify_bind <| get_bind <| orThrow_bind fun t' ht' =>
    get_bind <| ofExcept_bind fun (amount, fee) hshares => ?_
  replace hb := Except.mapError_eq_ok.1 hb
  obtain rfl := Option.mem_unique ht' (unlock_transfer ht hb)
  refine (IsPayment.ensures_bind ((isPayment_tryAddBalance t.owner amount).mapError _)
    ((isPayment_tryAddBalance relayer fee).mapError _)).mono fun _ s' h => ?_
  rw [bridgeShares_add hshares] at h
  exact ⟨id, t, b, hid, ht, hb, h⟩

theorem relayUnlock_leaves :
    (relayUnlock message relayer height).Leaves s fun s' => s'.bridgedValue ≤ s.bridgedValue := by
  refine .orThrow_bind le_rfl fun id _ => .get_bind <| .orThrow_bind le_rfl fun t ht =>
    .ofExcept_bind le_rfl fun _ _ => .get_bind <| .ofExcept_bind le_rfl fun b hb =>
    .modify_bind <| .get_bind ?_
  replace hb := Except.mapError_eq_ok.1 hb
  obtain ⟨t', ht', hout⟩ := escrowed_unlock hb
  obtain rfl : t = t' := Option.mem_unique ht ht'
  have hrelease : ({ s with bridgeState := b } : AccountState).bridgedValue ≤ s.bridgedValue :=
    bridgedValue_le hout (Nat.zero_le _) ⟨rfl, rfl⟩
  refine .orThrow_bind hrelease fun t' ht' => .get_bind <|
    .ofExcept_bind hrelease fun (amount, fee) hshares => ?_
  obtain rfl := Option.mem_unique ht' (unlock_transfer ht hb)
  refine (IsPayment.leaves_bind ((isPayment_tryAddBalance t.owner amount).mapError _)
    ((isPayment_tryAddBalance relayer fee).mapError _)).mono ?_
  rintro s' ⟨paid, hpaid, h⟩
  exact bridgedValue_le hout (hpaid.trans (bridgeShares_add hshares).le) h

theorem settleRelayed_leaves :
    (settleRelayed C message relayer height).Leaves s fun s' => s'.bridgedValue ≤ s.bridgedValue := by
  unfold settleRelayed
  split
  · exact relayMint_leaves
  · exact relayUnlock_leaves
  · exact .throw le_rfl

theorem applyBridgeSweepToState_leaves :
    (applyBridgeSweepToState height).Leaves s fun s' => s'.bridgedValue ≤ s.bridgedValue := by
  refine .get_bind <| .modify_bind ?_
  -- what is still to be paid out has left the bridge already
  refine .listForM_bind (I := fun rest s' =>
    s'.bridgedValue + releasedTotal rest ≤ s.bridgedValue) ?_ ?_ ?_ fun s' h => .pure h
  · rintro ⟨owner, amount⟩ rest s₁ h
    refine ensures_mapError.2 ((isPayment_tryAddBalance owner amount s₁).1.mono fun _ s₂ hpay => ?_)
    have hsupply := hpay.supply
    simp only [releasedTotal, List.map_cons, List.sum_cons, bridgedValue,
      hpay.bridge] at h ⊢
    omega
  · rintro ⟨owner, amount⟩ rest s₁ h
    refine fails_mapError.2 fun e s₂ hrun => ?_
    have hpay := (isPayment_tryAddBalance owner amount s₁).2 e s₂ hrun
    have hsupply := hpay.supply
    simp only [bridgedValue, hpay.bridge] at h ⊢
    omega
  · have hout := escrowed_sweep s.bridgeState height
    change s.circulatingSupply + (s.bridgeState.sweepExpiredLocks height).1.escrowed +
      releasedTotal (s.bridgeState.sweepExpiredLocks height).2 ≤
      s.circulatingSupply + s.bridgeState.escrowed
    omega

end AccountState

/-! ### Runs of calls -/

namespace Blockchain

open EStateM

variable {C : Crypto} {bc : Blockchain} (encodeProof : MerkleProof → Bytes)

theorem announce_leaves (event : DomainEvent) :
    (announce C event).Leaves bc fun bc' => bc'.state.bridgedValue = bc.state.bridgedValue := by
  unfold announce
  cases event.message with
  | none => exact .pure rfl
  | some message =>
    refine .trans ?_ fun _ bc' h => .modify h
    exact .ensure_bind rfl fun _ => .ensure_bind rfl fun _ => .get_bind <| .ensure_bind rfl fun _ =>
      .get_bind <| .ofExcept_bind rfl fun _ _ => .modify rfl

theorem lockBridgeTransfer_leaves (source target : DomainId) (sourceHeight : UInt64)
    (eventIndex : UInt32) (assetId : Hash32) (owner recipient : Address)
    (amount expiryHeight : UInt64) :
    (lockBridgeTransfer C source target sourceHeight eventIndex assetId owner recipient amount
      expiryHeight).Leaves bc fun bc' => bc'.state.bridgedValue ≤ bc.state.bridgedValue := by
  refine .get_bind <| .ofExcept_bind le_rfl fun _ _ => .get_bind <| .ofExcept_bind le_rfl fun _ _ =>
    .ensure_bind le_rfl fun _ => .ensure_bind le_rfl fun _ => .ensure_bind le_rfl fun _ =>
    .get_bind <| .ensure_bind le_rfl fun hfunds => .get_bind <|
    .ofExcept_bind le_rfl fun (transfer, event, b) hlock => .trans (.zoom (.modify ?_)) fun _ bc₁ h =>
    .trans ((announce_leaves event).mono fun _ heq => heq.le.trans h) fun _ _ h => .pure h
  have hin := escrowed_lock_le (Except.mapError_eq_ok.1 hlock)
  have hout := circulatingSupply_setBalance (s := bc.state) (a := owner)
    ((bc.state.getBalance owner).saturatingSub amount)
  have hbalance : ((bc.state.getBalance owner).saturatingSub amount).toNat + amount.toNat =
      (bc.state.getBalance owner).toNat := by
    rw [decide_eq_true_eq, UInt64.le_iff_toNat_le] at hfunds
    rw [UInt64.toNat_saturatingSub]
    omega
  change (bc.state.setBalance owner _).circulatingSupply + b.escrowed ≤
    bc.state.circulatingSupply + bc.state.bridgeState.escrowed
  omega

theorem submitRelayProof_leaves (messageId : MessageId)
    (relayer : Address) (proof : MerkleProof) (sourceDomain : DomainId) :
    (submitRelayProof C encodeProof messageId relayer proof sourceDomain).Leaves bc
      fun bc' => bc'.state.bridgedValue ≤ bc.state.bridgedValue := by
  refine .get_bind <| .ofExcept_bind le_rfl fun _ _ => .get_bind <| .get_bind <|
    .orThrow_bind le_rfl fun pending _ => .get_bind <| .orThrow_bind le_rfl fun commitment _ => ?_
  refine .bind (Q := fun _ bc' => bc'.state = bc.state) (ensures_zoom.2 fun _ _ _ => rfl)
    (fails_zoom.2 fun _ _ _ => le_rfl) fun message bc₁ h => ?_
  refine .trans (.zoom (settleRelayed_leaves.mono fun s' hs => ?_)) fun _ _ h => .pure h
  rwa [h] at hs

inductive BridgeEntryCall where
  | lock (source target : DomainId) (sourceHeight : UInt64) (eventIndex : UInt32)
      (assetId : Hash32) (owner recipient : Address) (amount expiryHeight : UInt64)
  | relay (messageId : MessageId) (relayer : Address) (proof : MerkleProof)
      (sourceDomain : DomainId)
  | burn (messageId : MessageId) (domain : DomainId) (domainHeight : UInt64) (eventIndex : UInt32)
      (expiryHeight : UInt64)
  | sweep (height : UInt64)

/-- The node after a call, whatever the call returns. -/
def afterCall (C : Crypto) (encodeProof : MerkleProof → Bytes) (bc : Blockchain) :
    BridgeEntryCall → Blockchain
  | .lock source target sourceHeight eventIndex assetId owner recipient amount expiryHeight =>
    (lockBridgeTransfer C source target sourceHeight eventIndex assetId owner recipient amount
      expiryHeight).final bc
  | .relay messageId relayer proof sourceDomain =>
    (submitRelayProof C encodeProof messageId relayer proof sourceDomain).final bc
  | .burn messageId domain domainHeight eventIndex expiryHeight =>
    (burnBridgeTransferWithEvent C messageId domain domainHeight eventIndex expiryHeight).final bc
  | .sweep height => (onState (applyBridgeSweepToState height)).final bc

/-- What a call burns: the amount of a transfer that is minted on the domain. -/
def burned (bc : Blockchain) : BridgeEntryCall → Nat
  | .burn messageId domain _ _ _ =>
    match bc.state.bridgeState.transfers.get messageId with
    | some t => if t.status = .minted domain then t.amount.toNat else 0
    | none => 0
  | _ => 0

theorem burnBridgeTransferWithEvent_leaves (messageId : MessageId) (domain : DomainId)
    (domainHeight : UInt64) (eventIndex : UInt32) (expiryHeight : UInt64) :
    (burnBridgeTransferWithEvent C messageId domain domainHeight eventIndex expiryHeight).Leaves bc
      fun bc' => bc'.state.bridgedValue = bc.state.bridgedValue +
        bc.burned (.burn messageId domain domainHeight eventIndex expiryHeight) := by
  refine .get_bind <| .bind (Q := fun r bc' => bc' = bc ∧ bc.state.bridgeState.burnWithEvent C
    messageId domain domainHeight eventIndex expiryHeight = .ok r) ?_ ?_ ?_
  · exact ensures_ofExcept.2 fun r hr => ⟨rfl, Except.mapError_eq_ok.1 hr⟩
  · -- only a transfer that is minted on the domain is burned, so a refused call burns nothing
    refine fails_ofExcept.2 fun e he => ?_
    have hnone : bc.burned (.burn messageId domain domainHeight eventIndex expiryHeight) = 0 := by
      simp only [burned]
      split
      · rename_i t ht
        refine if_neg fun hstatus => ?_
        simp [burnWithEvent, ht, hstatus, Except.ofOption, Except.ensure, bind,
          Except.bind, pure, Except.pure, Except.mapError] at he
      · rfl
    rw [hnone, Nat.add_zero]
  · rintro ⟨event, b⟩ bc ⟨rfl, hburn⟩
    obtain ⟨t, ht, hstatus, hin⟩ := escrowed_burnWithEvent hburn
    refine .trans (.zoom (.modify ?_)) fun _ bc₁ h =>
      .trans ((announce_leaves event).mono fun _ heq => heq.trans h) fun _ _ h => .pure h
    simp only [burned, ht, hstatus, if_true]
    change bc.state.circulatingSupply + b.escrowed =
      bc.state.circulatingSupply + bc.state.bridgeState.escrowed + t.amount.toNat
    omega

/-- A call changes the balances and the escrow together by what it burns, at most. -/
theorem afterCall_value_le (call : BridgeEntryCall) :
    (bc.afterCall C encodeProof call).state.bridgedValue ≤ bc.state.bridgedValue ↔
      bc.burned call = 0 := by
  cases call with
  | lock source target sourceHeight eventIndex assetId owner recipient amount expiryHeight =>
    exact iff_of_true (lockBridgeTransfer_leaves ..).final rfl
  | relay messageId relayer proof sourceDomain =>
    exact iff_of_true (submitRelayProof_leaves ..).final rfl
  | burn messageId domain domainHeight eventIndex expiryHeight =>
    have h := (@burnBridgeTransferWithEvent_leaves C bc messageId domain domainHeight
      eventIndex expiryHeight).final
    simp only [afterCall, h]
    omega
  | sweep height =>
    have h : (onState (applyBridgeSweepToState height)).Leaves bc
        fun bc' => bc'.state.bridgedValue ≤ bc.state.bridgedValue :=
      .zoom applyBridgeSweepToState_leaves
    exact iff_of_true h.final rfl

def afterCalls (C : Crypto) (encodeProof : MerkleProof → Bytes) (bc : Blockchain)
    (calls : List BridgeEntryCall) : Blockchain :=
  calls.foldl (afterCall C encodeProof) bc

/-- **Value on the bridge.**  Along a run of calls the balances and the escrow together never grow
exactly if no call of the run burns a minted amount. -/
theorem bridge_calls_value (encodeProof : MerkleProof → Bytes) (bc : Blockchain)
    (calls : List BridgeEntryCall) :
    (∀ done call rest, calls = done ++ call :: rest →
      ((bc.afterCalls C encodeProof done).afterCall C encodeProof call).state.bridgedValue ≤
        (bc.afterCalls C encodeProof done).state.bridgedValue) ↔
    ∀ done call rest, calls = done ++ call :: rest →
      (bc.afterCalls C encodeProof done).burned call = 0 := by
  simp [afterCall_value_le]

/-! ### A round trip -/

/-- The event of a lock of 100 units by account 1 for account 2. -/
def roundTripLock : CrossDomainMessage × DomainEvent :=
  BridgeState.lockEvent .telling 1 2 0 0 9 1 2 100 50 0

def commitmentTo (C : Crypto) (event : DomainEvent) : DomainCommitment where
  domainId := event.domainId
  domainHeight := event.domainHeight
  domainBlockHash := 0
  parentDomainBlockHash := 0
  stateRoot := 0
  txRoot := 0
  eventRoot := event.leafHash C
  finalityProofHash := 0
  consensusKind := .poS
  validatorSetHash := 0
  timestampMs := 0
  sequence := 0
  producer := none
  stateUpdates := ∅

def commitmentsTo (C : Crypto) (event : DomainEvent) : DomainCommitmentRegistry :=
  ⟨(∅ : OrdMap CommitmentKey DomainCommitment).insert
    (toLex (event.domainId, toLex (event.domainHeight, 0))) (commitmentTo C event)⟩

/-- Two domains that are open for the bridge, 100 units in account 1, and a relayer, account 3. -/
def roundTripStart : Blockchain :=
  { Blockchain.sample with
    state := { ({} : AccountState).setAccount 1 ⟨100, 0⟩ with
      bridgeState :=
        { assetLocations := (∅ : OrdMap Hash32 BridgeStatus).insert 9 (.active 1) }
      registry := PermissionlessRegistry.new.store ⟨3, Roles.relayer, 1, .active, 0⟩ }
    domainRegistry := ⟨((∅ : OrdMap DomainId ConsensusDomain).insert 1 ⟨1, .active, 0, true⟩).insert 2
      ⟨2, .active, 0, true⟩⟩
    domainCommitmentRegistry := commitmentsTo .telling roundTripLock.2 }

/-- Lock, mint by the relayer, burn. -/
def roundTrip : List BridgeEntryCall :=
  [.lock 1 2 0 0 9 1 2 100 50,
    .relay roundTripLock.1.messageId 3 ⟨roundTripLock.2.leafHash .telling, 0, []⟩ 1,
    .burn roundTripLock.1.messageId 2 0 0 50]

/-- The burn takes nothing from account 2, which keeps what was minted for it. -/
theorem round_trip_doubles :
    (roundTripStart.afterCalls .telling (fun _ => []) []).state.bridgedValue = 100 ∧
    (roundTripStart.afterCalls .telling (fun _ => []) (roundTrip.take 2)).state.bridgedValue = 100 ∧
    (roundTripStart.afterCalls .telling (fun _ => []) roundTrip).state.bridgedValue = 200 := by
  decide +kernel

/-! ### The two ways home -/

section WaysHome

variable {E : MerkleProof → Bytes} {bc₁ : Blockchain} {event : DomainEvent}

theorem unlockBridgeTransferFromVerifiedEvent_ensures (targetDomain : DomainId)
    (targetHeight sequence : UInt64) (expected : Option Hash32) (proof : MerkleProof) :
    (unlockBridgeTransferFromVerifiedEvent C targetDomain targetHeight sequence expected event
      proof).Ensures bc fun _ bc' => ∃ message id b, event.message = some message ∧
        message.correlationId = some id ∧
        bc.state.bridgeState.unlock id message.sourceDomain bc.height = .ok b ∧
        bc' = { bc with state := { bc.state with bridgeState := b } } := by
  refine orThrow_bind fun _ _ => get_bind <| ofExcept_bind fun _ _ =>
    get_bind <| ofExcept_bind fun (id, message) hcheck => get_bind <|
    get_bind <| ofExcept_bind fun b hb =>
    ensures_zoom.2 (ensures_modify.2 ⟨message, id, b, ?_, ?_, Except.mapError_eq_ok.1 hb, rfl⟩)
  all_goals
    simp only [checkBurnEvent, Except.ok_iff] at hcheck
    obtain ⟨-, -, m, hm, -, -, -, -, -, -, id', hid, -, -, -, -, -, -, -, -, -, -, -, -, rfl, rfl⟩ :=
      hcheck
  · exact hm
  · exact hid

/-- A relayed burn unlocks the transfer and pays out its amount. -/
theorem submitRelayProof_ensures (messageId : MessageId) (relayer : Address) (proof : MerkleProof)
    (sourceDomain : DomainId) :
    (submitRelayProof C E messageId relayer proof sourceDomain).Ensures bc
      fun message bc' => message.kind = .bridgeBurn → ∃ id t b,
        message.correlationId = some id ∧ bc.state.bridgeState.transfers.get id = some t ∧
        bc.state.bridgeState.unlock id message.sourceDomain bc.height = .ok b ∧
        Credits t.amount.toNat { bc.state with bridgeState := b } bc'.state := by
  refine get_bind <| ofExcept_bind fun _ _ => get_bind <| get_bind <|
    orThrow_bind fun pending _ => get_bind <|
    orThrow_bind fun commitment _ => ?_
  refine Ensures.bind (P := fun _ bc' => bc'.state = bc.state) (ensures_zoom.2 fun _ _ _ => rfl)
    fun message bc₁ hstate => ?_
  refine Ensures.bind (P := fun _ bc' => message.kind = .bridgeBurn → ∃ id t b,
    message.correlationId = some id ∧ bc.state.bridgeState.transfers.get id = some t ∧
    bc.state.bridgeState.unlock id message.sourceDomain bc.height = .ok b ∧
    Credits t.amount.toNat { bc.state with bridgeState := b } bc'.state) (ensures_zoom.2 ?_)
    fun _ _ h => ensures_pure.2 h
  rw [hstate]
  intro _ s' hrun hkind
  rw [settleRelayed, hkind] at hrun
  exact relayUnlock_ensures _ _ hrun

/-- **The two ways home.**  Where a proved event settles a transfer, the balances grow by its amount,
as they do when a relayer settles it, exactly if the amount is zero: the proved event pays nobody. -/
theorem unlock_agrees_iff {targetDomain : DomainId} {targetHeight sequence : UInt64}
    {expected : Option Hash32} {proof : MerkleProof} {id : MessageId} {t : BridgeTransfer}
    (hevent : (event.message.bind (·.correlationId)) = some id)
    (ht : bc.state.bridgeState.transfers.get id = some t)
    (hunlock : (unlockBridgeTransferFromVerifiedEvent C targetDomain targetHeight sequence expected
      event proof).run bc = .ok () bc₁) :
    (bc₁.state.circulatingSupply = bc.state.circulatingSupply + t.amount.toNat ∧
      bc₁.state.bridgeState.transfers.get id = some { t with status := .unlocked t.sourceDomain } ∧
      ∀ messageId relayer relayProof sourceDomain message bc₂,
        (submitRelayProof C E messageId relayer relayProof sourceDomain).run bc = .ok message bc₂ →
        message.kind = .bridgeBurn → message.correlationId = some id →
        bc₂.state.circulatingSupply = bc.state.circulatingSupply + t.amount.toNat ∧
          bc₂.state.bridgeState.transfers.get id = bc₁.state.bridgeState.transfers.get id) ↔
      t.amount = 0 := by
  obtain ⟨m, id', b, hm, hid, hb, rfl⟩ :=
    unlockBridgeTransferFromVerifiedEvent_ensures _ _ _ _ _ _ _ hunlock
  obtain rfl : id = id' := by simpa [hm, hid] using hevent.symm
  constructor
  · rintro ⟨hsupply, -⟩
    change bc.state.circulatingSupply = bc.state.circulatingSupply + t.amount.toNat at hsupply
    rw [← UInt64.toNat_inj, UInt64.toNat_zero]
    omega
  · intro hzero
    refine ⟨?_, unlock_transfer ht hb, ?_⟩
    · change bc.state.circulatingSupply = bc.state.circulatingSupply + t.amount.toNat
      rw [hzero, UInt64.toNat_zero, Nat.add_zero]
    · intro messageId relayer relayProof sourceDomain message bc₂ hrun hkind hcorr
      obtain ⟨id', t', b', hid', ht', hb', hcredit⟩ :=
        submitRelayProof_ensures _ _ _ _ _ _ hrun hkind
      obtain rfl : id = id' := Option.mem_unique hcorr hid'
      obtain rfl : t = t' := Option.mem_unique ht ht'
      refine ⟨hcredit.supply, ?_⟩
      rw [hcredit.bridge]
      exact (unlock_transfer ht hb').trans (unlock_transfer ht hb).symm

end WaysHome

/-- The burn of a transfer of account 1 by account 2. -/
def burnEvent (amount : UInt64) : DomainEvent :=
  let payload := bridgePayloadHash .telling 9 amount
  let message := CrossDomainMessage.withId .telling
    ⟨0, some 7, 2, 1, 0, 0, 0, 2, 1, payload, .bridgeBurn, 50⟩
  ⟨2, 0, 0, .bridgeBurned, 2, some message, payload⟩

def burnedTransfer (amount : UInt64) : BridgeTransfer := ⟨7, 9, 1, 2, 1, 2, amount, .burned 2, 0, 50⟩

/-- A node that holds the burned transfer and the commitment to its event. -/
def burnedNode (amount : UInt64) : Blockchain :=
  { roundTripStart with
    state := { roundTripStart.state with
      bridgeState :=
        { transfers := (∅ : OrdMap MessageId BridgeTransfer).insert 7 (burnedTransfer amount) } }
    domainCommitmentRegistry := commitmentsTo .telling (burnEvent amount)
    universalRelayer := ((burnEvent amount).message.map fun message =>
      ({} : UniversalRelayer).enqueueRelay (burnEvent amount) message 1).getD {} }

/-- Settle the burned transfer by its proved event. -/
def settleByEvent (amount : UInt64) : EStateM String Blockchain Unit :=
  unlockBridgeTransferFromVerifiedEvent .telling 2 0 0 (some 0) (burnEvent amount)
    ⟨(burnEvent amount).leafHash .telling, 0, []⟩

/-- Settle the burned transfer through the relayer, account 3. -/
def settleByRelay (amount : UInt64) : EStateM String Blockchain CrossDomainMessage :=
  submitRelayProof .telling (fun _ => [])
    (((burnEvent amount).message.map (·.messageId)).getD 0) 3
    ⟨(burnEvent amount).leafHash .telling, 0, []⟩ 2

theorem unlock_agrees_nothing :
    ((settleByEvent 0).run (burnedNode 0) = .ok () ((settleByEvent 0).final (burnedNode 0))) ∧
    (((settleByEvent 0).final (burnedNode 0)).state.circulatingSupply =
        (burnedNode 0).state.circulatingSupply + (burnedTransfer 0).amount.toNat) := by
  have hrun : (settleByEvent 0).run (burnedNode 0) =
      .ok () ((settleByEvent 0).final (burnedNode 0)) :=
    run_of_succeeds (by decide +kernel)
  have hevent : (burnEvent 0).message.bind (·.correlationId) = some 7 := rfl
  have hget : (burnedNode 0).state.bridgeState.transfers.get 7 = some (burnedTransfer 0) := rfl
  exact ⟨hrun, ((unlock_agrees_iff (E := fun _ => []) hevent hget hrun).2 rfl).1⟩

/-- Both ways settle a transfer of 100 units, and only the relayer's pays them out. -/
theorem unlock_disagrees :
    (settleByEvent 100).succeeds (burnedNode 100) ∧ (settleByRelay 100).succeeds (burnedNode 100) ∧
    ((settleByEvent 100).final (burnedNode 100)).state.circulatingSupply = 100 ∧
    ((settleByRelay 100).final (burnedNode 100)).state.circulatingSupply = 200 ∧
    ((settleByEvent 100).final (burnedNode 100)).state.bridgeState.transfers.get 7 =
      ((settleByRelay 100).final (burnedNode 100)).state.bridgeState.transfers.get 7 := by
  decide +kernel

end Blockchain

end Budlum
