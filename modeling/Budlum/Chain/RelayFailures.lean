import Budlum.Chain.BridgeEntry

/-!
# Relays that fail

A relayer submits the proof of a pending message.  The node checks the proof, writes the relay into
its ledger, takes the message off the pending ones, and only then settles it on the bridge and pays
the recipient and the relayer.  Whatever fails after the ledger was written leaves the entry there.

* `Blockchain.RelayAccepted` : what is checked before the ledger is written.
* `AccountState.RelaySettles` : the bridge can settle the message and everybody can be paid.
* `Blockchain.relay_failure_harmless_iff` : **a submission that fails changes nothing exactly if an
  accepted relay settles.**
-/

namespace Budlum

open Option (mem_unique)

namespace AccountState

open EStateM

variable (C : Crypto) (s : AccountState)

/-! ### What a settlement needs -/

/-- Two payments, one after the other, keep every balance a word. -/
def PaymentsFit (a b : Address) (x y : UInt64) : Prop :=
  ∀ c, (s.getBalance c).toNat + (credit a x.toNat + credit b y.toNat) c < 2 ^ 64

/-- The transfer of a relayed lock covers the fee, fits under the cap and can be minted. -/
def RelayMints (message : CrossDomainMessage) (height : UInt64) : Prop :=
  ∃ t shares b, s.bridgeState.transfers.get message.messageId = some t ∧
    s.bridgeShares t.amount = .ok shares ∧ s.ensureMintHeadroom t.amount = .ok () ∧
    s.bridgeState.mint C message height = .ok b

/-- The transfer of a relayed burn came from the domain it goes to, can be unlocked, covers the fee,
and the owner and the relayer can hold what they get. -/
def RelayUnlocks (message : CrossDomainMessage) (relayer : Address) (height : UInt64) : Prop :=
  ∃ id t b amount fee, message.correlationId = some id ∧
    s.bridgeState.transfers.get id = some t ∧ t.sourceDomain = message.targetDomain ∧
    s.bridgeState.unlock id message.sourceDomain height = .ok b ∧
    s.bridgeShares t.amount = .ok (amount, fee) ∧ s.PaymentsFit t.owner relayer amount fee

def RelaySettles (message : CrossDomainMessage) (relayer : Address) (height : UInt64) : Prop :=
  match message.kind with
  | .bridgeLock => s.RelayMints C message height
  | .bridgeBurn => s.RelayUnlocks message relayer height
  | _ => False

variable {C} {s}

/-! ### Payments -/

theorem ensureMintHeadroom_eq_ok {amount : UInt64} :
    s.ensureMintHeadroom amount = .ok () ↔
      amount.toNat ≤ budTotalSupply.toNat - s.totalBudCommitted := by
  have hcap : budTotalSupply.toNat = 100000000000000 := rfl
  rw [ensureMintHeadroom, Except.ensure_eq_ok, decide_eq_true_eq, UInt64.le_iff_toNat_le,
    supplyCapacityRemaining, UInt64.toNat_clampNat]
  omega

theorem getBalance_le_committed (a : Address) : (s.getBalance a).toNat ≤ s.totalBudCommitted := by
  have h := circulatingSupply_setBalance (s := s) (a := a) 0
  rw [UInt64.toNat_zero] at h
  rw [totalBudCommitted]
  omega

theorem payments_ends (f g : String → String) (a b : Address) (x y : UInt64) :
    (mapError f (tryAddBalance a x) >>= fun _ => mapError g (tryAddBalance b y)).Ends s
      (fun _ _ => s.PaymentsFit a b x y) fun _ _ => ¬s.PaymentsFit a b x y := by
  refine .bind (P := fun _ s₁ => Raises (credit a x.toNat) x.toNat s s₁) (.mapError ?_) fun _ s₁ h =>
    .mapError ?_
  · refine (tryAddBalance_ends a x).mono (fun _ _ h => h) fun _ _ hover hfit => ?_
    have ha := hfit a
    simp only [Pi.add_apply, credit, if_true] at ha
    omega
  · refine (tryAddBalance_ends b y).mono (fun _ _ h' => (h.trans h').fits) fun _ _ hover hfit => ?_
    have hb := hfit b
    rw [h.balance] at hover
    simp only [Pi.add_apply, credit, if_true] at hb hover
    omega

/-- A payment under the cap goes through. -/
theorem tryMintBalance_ends {a : Address} {x : UInt64}
    (h : x.toNat ≤ budTotalSupply.toNat - s.totalBudCommitted) :
    (tryMintBalance a x).Ends s
      (fun _ s' => s'.totalBudCommitted = s.totalBudCommitted + x.toNat) fun _ _ => False := by
  refine .get_bind <| .ofExcept_bind (fun e he => ?_) fun _ _ => ⟨?_, ?_⟩
  · rw [ensureMintHeadroom_eq_ok.2 h] at he
    cases he
  · refine updateBalance_ensures.2 fun balance hfits => ?_
    rw [Except.ofOption_eq_ok, UInt64.checkedAdd_eq_some] at hfits
    have hsupply := circulatingSupply_setBalance (s := s) (a := a) balance
    change (s.setBalance a balance).circulatingSupply + s.totalStakedSupply +
      s.totalUnbondingSupply + s.totalRegistryRoleBondedSupply = s.totalBudCommitted + x.toNat
    rw [totalBudCommitted]
    omega
  · refine fun e s' hrun => ?_
    -- a balance is part of what the cap bounds
    have hover := (tryAddBalance_ends a x).2 e s' hrun
    have hle := getBalance_le_committed (s := s) a
    have hword := (s.getBalance a).toNat_lt
    have hcap : budTotalSupply.toNat = 100000000000000 := rfl
    omega

theorem mints_ends (f g : String → String) {a b : Address} {x y : UInt64}
    (h : x.toNat + y.toNat ≤ budTotalSupply.toNat - s.totalBudCommitted) :
    (mapError f (tryMintBalance a x) >>= fun _ => mapError g (tryMintBalance b y)).Ends s
      (fun _ _ => True) fun _ _ => False := by
  refine .bind (.mapError (tryMintBalance_ends (by omega))) fun _ s₁ h₁ => .mapError ?_
  exact (tryMintBalance_ends (by omega)).mono (fun _ _ _ => trivial) fun _ _ h => h

/-! ### Settling -/

variable {message : CrossDomainMessage} {relayer : Address} {height : UInt64}

theorem relayMint_ends :
    (relayMint C message relayer height).Ends s (fun _ _ => s.RelayMints C message height)
      fun _ _ => ¬s.RelayMints C message height := by
  refine .get_bind <| .orThrow_bind ?_ fun t ht => .get_bind <| .ofExcept_bind ?_
    fun (amount, fee) hshares => ?_
  · rintro hnone ⟨t, -, -, ht, -⟩
    exact nomatch hnone.symm.trans ht
  · rintro e he ⟨t', shares, -, ht', hshares, -⟩
    obtain rfl : t = t' := mem_unique ht ht'
    exact nomatch he.symm.trans hshares
  have hsum := bridgeShares_add hshares
  refine .orThrow_bind ?_ fun minted hminted => .get_bind <| .ofExcept_bind ?_ fun _ hroom =>
    .get_bind <| .ofExcept_bind ?_ fun b hb => .modify_bind ?_
  · rw [UInt64.checkedAdd_eq_none]
    have hword := t.amount.toNat_lt
    omega
  all_goals
    rw [UInt64.checkedAdd_eq_some, hsum, UInt64.toNat_inj] at hminted
    subst hminted
  · rintro e he ⟨t', -, -, ht', -, hroom, -⟩
    obtain rfl : t = t' := mem_unique ht ht'
    rw [hroom] at he
    cases he
  · rintro e he ⟨-, -, b, -, -, -, hb⟩
    rw [hb] at he
    cases he
  · replace hroom := Except.mapError_eq_ok.1 hroom
    have hmints : s.RelayMints C message height :=
      ⟨t, _, b, ht, hshares, hroom, Except.mapError_eq_ok.1 hb⟩
    refine (mints_ends _ _ ?_).mono (fun _ _ _ => hmints) fun _ _ h => h.elim
    rw [hsum]
    exact ensureMintHeadroom_eq_ok.1 hroom

theorem relayUnlock_ends :
    (relayUnlock message relayer height).Ends s
      (fun _ _ => s.RelayUnlocks message relayer height)
      fun _ _ => ¬s.RelayUnlocks message relayer height := by
  refine .orThrow_bind ?_ fun id hid => .get_bind <| .orThrow_bind ?_ fun t ht =>
    .ofExcept_bind ?_ fun _ hdomain => .get_bind <| .ofExcept_bind ?_ fun b hb => .modify_bind <|
    .get_bind ?_
  · rintro hnone ⟨id, -, -, -, -, hid, -⟩
    cases hnone.symm.trans hid
  · rintro hnone ⟨id', t, -, -, -, hid', ht, -⟩
    obtain rfl : id = id' := mem_unique hid hid'
    cases hnone.symm.trans ht
  · rintro e he ⟨id', t', -, -, -, hid', ht', hdomain, -⟩
    obtain rfl : id = id' := mem_unique hid hid'
    obtain rfl : t = t' := mem_unique ht ht'
    simp [checkBurnMatchesLockDomain, hdomain, Except.ensure, Except.mapError] at he
  · rintro e he ⟨id', -, b, -, -, hid', -, -, hb, -⟩
    obtain rfl : id = id' := mem_unique hid hid'
    rw [hb] at he
    cases he
  replace hb := Except.mapError_eq_ok.1 hb
  have hsource : t.sourceDomain = message.targetDomain := by
    simpa [checkBurnMatchesLockDomain] using hdomain
  have hafter := unlock_transfer ht hb
  -- the transfer read back is the one before, and so are the parameters
  refine .orThrow_bind (fun hnone => by cases hnone.symm.trans hafter) fun t' ht' => .get_bind <|
    .ofExcept_bind ?_ fun shares hshares => ?_
  all_goals obtain rfl := mem_unique ht' hafter
  · rintro e he ⟨id', t', -, _, _, hid', ht', -, -, hshares, -⟩
    obtain rfl : id = id' := mem_unique hid hid'
    obtain rfl : t = t' := mem_unique ht ht'
    cases he.symm.trans hshares
  · obtain ⟨amount, fee⟩ := shares
    refine (payments_ends _ _ t.owner relayer amount fee).mono (fun _ _ hfit => ?_)
      fun _ _ hover hunlocks => ?_
    · exact ⟨id, t, b, amount, fee, hid, ht, hsource, hb, hshares, hfit⟩
    · obtain ⟨id', t', -, amount', fee', hid', ht', -, -, hshares', hfit⟩ := hunlocks
      obtain rfl : id = id' := mem_unique hid hid'
      obtain rfl : t = t' := mem_unique ht ht'
      obtain ⟨rfl, rfl⟩ := Prod.mk.inj (Except.ok.inj (hshares.symm.trans hshares'))
      exact hover hfit

theorem settleRelayed_ends :
    (settleRelayed C message relayer height).Ends s
      (fun _ _ => s.RelaySettles C message relayer height)
      fun _ _ => ¬s.RelaySettles C message relayer height := by
  unfold settleRelayed RelaySettles
  cases message.kind with
  | bridgeLock => exact relayMint_ends
  | bridgeBurn => exact relayUnlock_ends
  | _ => exact .throw not_false

end AccountState

/-! ### Recording -/

namespace UniversalRelayer

open EStateM

variable (C : Crypto) (u : UniversalRelayer) (messageId : MessageId) (proof : MerkleProof)
  (sourceDomain : DomainId) (root : Hash32) (height : UInt64)

/-- The checks before the ledger is written: not relayed yet, in time, from the domain, and proved
under the root. -/
def Relayable (pending : PendingRelay) : Prop :=
  u.relayed.get messageId = none ∧ (pending.expiryHeight = 0 ∨ height ≤ pending.expiryHeight) ∧
    pending.sourceDomain = sourceDomain ∧ proof.verify C root ∧
    proof.leaf = pending.sourceEvent.leafHash C

variable {C u messageId proof sourceDomain root height}

/-- A relay that fails is in the ledger unless it was not relayable. -/
theorem processRelay_ends {E : MerkleProof → Bytes} {relayer : Address} {pending : PendingRelay}
    (hpending : u.pending.get messageId = some pending) :
    (processRelay C E messageId relayer proof sourceDomain root height).Ends u
      (fun message u' => u.Relayable C messageId proof sourceDomain root height pending ∧
        u'.relayed.get messageId ≠ none ∧ pending.sourceEvent.message = some message ∧
        message.verifyId C)
      fun _ u' =>
        (¬u.Relayable C messageId proof sourceDomain root height pending ∧ u' = u) ∨
        (u.Relayable C messageId proof sourceDomain root height pending ∧
          u'.relayed.get messageId ≠ none ∧
          ∀ message, pending.sourceEvent.message = some message → ¬message.verifyId C) := by
  refine .get_bind <| .ensure_bind ?_ fun hfresh => .get_bind <| .orThrow_bind ?_ fun p hp => ?_
  · exact fun hseen => .inl ⟨fun h => by simp [OrdMap.contains, h.1] at hseen, rfl⟩
  · intro hnone
    cases hnone.symm.trans hpending
  obtain rfl : pending = p := mem_unique hpending hp
  refine .ensure_bind ?_ fun htime => .ensure_bind ?_ fun hdomain => .ensure_bind ?_ fun hverify =>
    .ensure_bind ?_ fun hleaf => .modify_bind ?_
  · exact fun hlate => .inl ⟨fun h => of_decide_eq_false hlate h.2.1, rfl⟩
  · exact fun hother => .inl ⟨fun h => of_decide_eq_false hother h.2.2.1, rfl⟩
  · exact fun hbad => .inl ⟨fun h => (by cases hbad.symm.trans h.2.2.2.1), rfl⟩
  · exact fun hbad => .inl ⟨fun h => of_decide_eq_false hbad h.2.2.2.2, rfl⟩
  have hrelayable : u.Relayable C messageId proof sourceDomain root height pending :=
    ⟨by simpa [OrdMap.contains] using hfresh, of_decide_eq_true htime, of_decide_eq_true hdomain,
      hverify, of_decide_eq_true hleaf⟩
  refine .orThrow_bind ?_ fun message hmessage => .ensure_bind ?_ fun hid =>
    .modify_bind (.pure ⟨hrelayable, by simp, hmessage, hid⟩)
  · exact fun hnone => .inr ⟨hrelayable, by simp, fun m hm => by cases hnone.symm.trans hm⟩
  · refine fun hbad => .inr ⟨hrelayable, by simp, fun m hm hm' => ?_⟩
    obtain rfl : message = m := mem_unique hmessage hm
    cases hbad.symm.trans hm'

end UniversalRelayer

/-! ### Submissions -/

namespace Blockchain

open EStateM

variable (C : Crypto) (bc : Blockchain) (messageId : MessageId) (relayer : Address)
  (proof : MerkleProof) (sourceDomain : DomainId)

/-- The relayer is active, and its proof relays a message that is pending. -/
def RelayAccepted (pending : PendingRelay) : Prop :=
  bc.state.registry.isActiveRelayer relayer ∧
    bc.universalRelayer.pending.get messageId = some pending ∧
    ∃ commitment, bc.domainCommitmentRegistry.findByHeight sourceDomain
        pending.sourceEvent.domainHeight = some commitment ∧
      bc.universalRelayer.Relayable C messageId proof sourceDomain commitment.eventRoot bc.height
        pending

/-- The event of the pending relay carries a message under its own identifier, and the bridge can
settle it. -/
def PendingSettles (pending : PendingRelay) : Prop :=
  ∃ message, pending.sourceEvent.message = some message ∧ message.verifyId C ∧
    bc.state.RelaySettles C message relayer bc.height

/-- The bridge, the balances and the relayer's books are as before. -/
structure SameBooks (bc bc' : Blockchain) : Prop where
  bridge : bc'.state.bridgeState = bc.state.bridgeState
  balance : ∀ a, bc'.state.getBalance a = bc.state.getBalance a
  relayer : bc'.universalRelayer = bc.universalRelayer

variable {C bc messageId relayer proof sourceDomain}

/-- A submission that fails was not accepted, or stays in the ledger without being settled. -/
theorem submitRelayProof_ends (E : MerkleProof → Bytes) (bc : Blockchain) (messageId : MessageId)
    (relayer : Address) (proof : MerkleProof) (sourceDomain : DomainId) :
    (submitRelayProof C E messageId relayer proof sourceDomain).Ends bc
      (fun _ _ => ∀ pending, bc.universalRelayer.pending.get messageId = some pending →
        bc.PendingSettles C relayer pending)
      fun _ bc' =>
        ((∀ pending, ¬bc.RelayAccepted C messageId relayer proof sourceDomain pending) ∧ bc' = bc) ∨
        (∃ pending, bc.RelayAccepted C messageId relayer proof sourceDomain pending ∧
          ¬bc.PendingSettles C relayer pending) ∧
          bc'.universalRelayer.relayed.get messageId ≠ none := by
  refine .get_bind <| .ofExcept_bind ?_ fun _ hactive => .get_bind <| .get_bind <|
    .orThrow_bind ?_ fun pending hpending => .get_bind <| .orThrow_bind ?_ fun commitment hroot => ?_
  · refine fun e he => .inl ⟨fun pending h => ?_, rfl⟩
    simp [PermissionlessRegistry.ensureActiveRelayer, h.1, Except.ensure, Except.mapError] at he
  · exact fun hnone => .inl ⟨fun pending h => (by cases hnone.symm.trans h.2.1), rfl⟩
  · refine fun hnone => .inl ⟨?_, rfl⟩
    rintro p ⟨-, hp, commitment, hroot, -⟩
    obtain rfl : pending = p := mem_unique hpending hp
    cases hnone.symm.trans hroot
  have hactive : bc.state.registry.isActiveRelayer relayer := by
    simpa [PermissionlessRegistry.ensureActiveRelayer] using hactive
  refine .bind (P := fun message bc₁ => bc₁.state = bc.state ∧
    bc.RelayAccepted C messageId relayer proof sourceDomain pending ∧
    bc₁.universalRelayer.relayed.get messageId ≠ none ∧
    pending.sourceEvent.message = some message ∧ message.verifyId C) (.zoom ?_)
    fun message bc₁ h => ?_
  · refine (UniversalRelayer.processRelay_ends hpending).mono (fun message u' h =>
      ⟨rfl, ⟨hactive, hpending, commitment, hroot, h.1⟩, h.2⟩) fun e u' h => ?_
    rcases h with ⟨hnot, rfl⟩ | ⟨hrelayable, hledger, hbad⟩
    · refine .inl ⟨?_, rfl⟩
      rintro p ⟨-, hp, commitment', hroot', h⟩
      obtain rfl : pending = p := mem_unique hpending hp
      obtain rfl : commitment = commitment' := mem_unique hroot hroot'
      exact hnot h
    · refine .inr ⟨⟨pending, ⟨hactive, hpending, commitment, hroot, hrelayable⟩, ?_⟩, hledger⟩
      rintro ⟨message, hmessage, hid, -⟩
      exact hbad message hmessage hid
  obtain ⟨hstate, haccepted, hledger, hmessage, hid⟩ := h
  refine .bind (P := fun _ _ => bc.state.RelaySettles C message relayer bc.height) (.zoom ?_)
    fun _ _ hsettles => .pure fun p hp => ?_
  · rw [hstate]
    refine AccountState.settleRelayed_ends.mono (fun _ _ h => h) fun _ _ hnot =>
      .inr ⟨⟨pending, haccepted, ?_⟩, hledger⟩
    rintro ⟨m, hm, -, hsettles⟩
    obtain rfl : message = m := mem_unique hmessage hm
    exact hnot hsettles
  · obtain rfl : pending = p := mem_unique hpending hp
    exact ⟨message, hmessage, hid, hsettles⟩

/-- **Failed relays.**  A submission that fails leaves the bridge, the balances and the relayer's
books as they were, so that it can be made again, exactly if an accepted relay settles. -/
theorem relay_failure_harmless_iff (E : MerkleProof → Bytes) (bc : Blockchain)
    (messageId : MessageId) (relayer : Address) (proof : MerkleProof) (sourceDomain : DomainId) :
    (submitRelayProof C E messageId relayer proof sourceDomain).Fails bc
        (fun _ bc' => SameBooks bc bc') ↔
      ∀ pending, bc.RelayAccepted C messageId relayer proof sourceDomain pending →
        bc.PendingSettles C relayer pending := by
  obtain ⟨hok, herr⟩ := submitRelayProof_ends (C := C) E bc messageId relayer proof sourceDomain
  constructor
  · intro hsame pending haccepted
    cases hrun : (submitRelayProof C E messageId relayer proof sourceDomain).run bc with
    | ok message bc' => exact hok message bc' hrun pending haccepted.2.1
    | error e bc' =>
      rcases herr e bc' hrun with ⟨hnot, -⟩ | ⟨-, hledger⟩
      · exact absurd haccepted (hnot pending)
      · -- an accepted message was not in the ledger
        obtain ⟨-, -, commitment, -, hfresh, -⟩ := haccepted
        rw [(hsame e bc' hrun).relayer] at hledger
        exact absurd hfresh hledger
  · intro hsettles e bc' hrun
    rcases herr e bc' hrun with ⟨-, rfl⟩ | ⟨⟨pending, haccepted, hnot⟩, -⟩
    · exact ⟨rfl, fun _ => rfl, rfl⟩
    · exact absurd (hsettles pending haccepted) hnot

/-- The event of a lock of 10 units, which the smallest fee of a relayer uses up. -/
def smallLock : CrossDomainMessage × DomainEvent :=
  BridgeState.lockEvent .telling 1 2 0 0 9 1 2 10 50 0

/-- Account 1 has locked the 10 units. -/
def smallLocked : Blockchain :=
  { roundTripStart with domainCommitmentRegistry := commitmentsTo .telling smallLock.2 }.afterCall
    .telling (fun _ => []) (.lock 1 2 0 0 9 1 2 10 50)

def relaySmallLock : EStateM String Blockchain CrossDomainMessage :=
  submitRelayProof .telling (fun _ => []) smallLock.1.messageId 3
    ⟨smallLock.2.leafHash .telling, 0, []⟩ 1

/-- The relay fails, but the message is no longer pending and counts as relayed. -/
theorem small_lock_spent :
    smallLocked.universalRelayer.pending.contains smallLock.1.messageId ∧
    ¬relaySmallLock.succeeds smallLocked ∧
    ¬(relaySmallLock.final smallLocked).universalRelayer.pending.contains smallLock.1.messageId ∧
    (relaySmallLock.final smallLocked).universalRelayer.relayed.contains smallLock.1.messageId := by
  decide +kernel

end Blockchain

end Budlum
