import Budlum.Core.Bytes
import Budlum.Core.Linked

/-!
# The bridge table

The bridge keeps its transfers under their message identifiers and, beside them, the place of every
asset, a queue of locks that may expire, a queue of settled rows and the marks against replay.  No
operation writes all of them, so their agreement is an invariant of whole runs.

A sweep empties a queue before it works through the identifiers it took out of it.  The invariant
`Indexed` therefore carries the identifiers still to be worked through.

* `BridgeState.Indexed` : the places and the queues agree with the transfers.
* `BridgeRun.Sound` : with the messages seen so far, and the marks that keep one from being minted
  twice.
* `BridgeRun.run_indexed` : **after any calls the table is consistent, and no lock was minted
  twice.**
-/

namespace Budlum

open OrdMap ReplayNonceStore
open Except (ok_iff)
open Encoding
open List.Subset (refl)

/-! ### Message identifiers -/

namespace CrossDomainMessage

/-- The text whose digest is the identifier. -/
def idPreimage (m : CrossDomainMessage) : Bytes :=
  [textBytes "BDLM_CROSS_DOMAIN_MESSAGE_V2", hashBytes (m.correlationId.getD 0),
    u32Bytes m.sourceDomain, u32Bytes m.targetDomain, u64Bytes m.sourceHeight,
    u32Bytes m.eventIndex, u64Bytes m.nonce, hashBytes m.sender, hashBytes m.recipient,
    hashBytes m.payloadHash, m.kind.asBytes, u64Bytes m.expiryHeight].flatMap
    fun f => leBytes 8 f.length ++ f

theorem calculateMessageId_eq (C : Crypto) (m : CrossDomainMessage) :
    m.calculateMessageId C = C.sha256 m.idPreimage := rfl

theorem sha256_of_messageId {C : Crypto} {m m' : CrossDomainMessage} (hm : m.verifyId C)
    (hm' : m'.verifyId C) (h : m.messageId = m'.messageId) :
    C.sha256 m.idPreimage = C.sha256 m'.idPreimage := by
  simp only [verifyId, decide_eq_true_eq] at hm hm'
  rw [← calculateMessageId_eq, ← calculateMessageId_eq, ← hm, ← hm', h]

/-- The fields in front of the recipient have fixed lengths, so they can be read off. -/
theorem route_of_idPreimage {m m' : CrossDomainMessage} (h : m.idPreimage = m'.idPreimage) :
    m.sourceDomain = m'.sourceDomain ∧ m.targetDomain = m'.targetDomain ∧ m.nonce = m'.nonce ∧
      m.sender = m'.sender := by
  have hhash {N} : Unique N fun a : Hash32 => leBytes 8 (hashBytes a).length ++ hashBytes a :=
    Unique.hash.after fun _ _ => by simp [hashBytes]
  have hword {N} : Unique N fun a : UInt64 => leBytes 8 (u64Bytes a).length ++ u64Bytes a :=
    Unique.u64.after fun _ _ => by simp [u64Bytes]
  have hhalf {N} : Unique N fun a : UInt32 => leBytes 8 (u32Bytes a).length ++ u32Bytes a :=
    Unique.u32.after fun _ _ => by simp [u32Bytes]
  have hreads := hhash.part (N := (m.idPreimage.length + 1)) (fun m => m.correlationId.getD 0)
    |>.next hhalf sourceDomain |>.next hhalf targetDomain |>.next hword sourceHeight
    |>.next hhalf eventIndex |>.next hword nonce |>.next hhash sender
  let tail (m : CrossDomainMessage) : Bytes := [hashBytes m.recipient, hashBytes m.payloadHash,
    m.kind.asBytes, u64Bytes m.expiryHeight].flatMap fun f => leBytes 8 f.length ++ f
  have hparts := (@hreads m m' (tail m) (tail m') ?_ ?_).1
  · simp only [Prod.mk.injEq] at hparts
    obtain ⟨⟨⟨⟨⟨⟨-, hsource⟩, htarget⟩, -⟩, -⟩, hnonce⟩, hsender⟩ := hparts
    exact ⟨hsource, htarget, hnonce, hsender⟩
  · simp only [idPreimage, tail, List.flatMap_cons, List.length_append]
    omega
  · simpa only [idPreimage, tail, List.flatMap_cons, List.append_assoc,
      List.append_cancel_left_eq] using h

end CrossDomainMessage

/-! ### The indexes -/

/-- The asset has left its source domain and is not back. -/
def BridgeStatus.inFlight (s : BridgeStatus) : Bool := !s.isTerminal

/-- Where the amount of a transfer in flight is: locked at the source, or minted or burned at the
target. -/
def BridgeTransfer.routed (t : BridgeTransfer) : Prop :=
  t.status = .locked t.sourceDomain ∨ t.status = .minted t.targetDomain ∨
    t.status = .burned t.targetDomain

/-- One of the messages is the lock that opened the transfer. -/
def BridgeTransfer.openedBy (C : Crypto) (locks : List CrossDomainMessage) (id : MessageId)
    (t : BridgeTransfer) : Prop :=
  ∃ m ∈ locks, m.messageId = id ∧ m.verifyId C ∧ m.targetDomain = t.targetDomain

namespace BridgeState

variable {C : Crypto} {b b' : BridgeState} {id : MessageId} {t : BridgeTransfer}
  {locks : List CrossDomainMessage} {expired dropped : List MessageId}
  (q : OrdMap UInt64 (List MessageId))

/-- The places of the assets and the two queues agree with the transfers.  A sweep in progress has
taken `expired` out of the queue of locks and `dropped` out of the queue of settled rows.  Every
row was opened by one of the messages `locks`. -/
structure Indexed (C : Crypto) (locks : List CrossDomainMessage) (expired dropped : List MessageId)
    (b : BridgeState) : Prop where
  single : ∀ {id id' t t'}, b.transfers.get id = some t → b.transfers.get id' = some t' →
    t.status.inFlight → t'.status.inFlight → t.assetId = t'.assetId → id = id'
  located : ∀ {id t}, b.transfers.get id = some t → t.status.inFlight →
    b.assetLocations.get t.assetId = some t.status
  routed : ∀ {id t}, b.transfers.get id = some t → t.status.inFlight → t.routed
  expiring : ∀ {id t domain}, b.transfers.get id = some t → t.status = .locked domain →
    t.expiryHeight ≠ 0 → id ∈ expired ++ b.expiryQueue.getD t.expiryHeight []
  settled : ∀ {id t}, b.transfers.get id = some t → t.status.isTerminal →
    ∃ height, id ∈ dropped ++ b.settledQueue.getD height []
  opened : ∀ {id t}, b.transfers.get id = some t → t.openedBy C locks id

theorem indexed_empty (C : Crypto) (locks : List CrossDomainMessage) : Indexed C locks [] [] {} where
  single h := by simp at h
  located h := by simp at h
  routed h := by simp at h
  expiring h := by simp at h
  settled h := by simp at h
  opened h := by simp at h

section

variable (h : Indexed C locks expired dropped b)

include h

/-- Only the marks against replay change. -/
theorem Indexed.withReplay (replay : ReplayNonceStore) :
    Indexed C locks expired dropped { b with replay := replay } where
  single := h.single
  located := h.located
  routed := h.routed
  expiring := h.expiring
  settled := h.settled
  opened := h.opened

/-- More messages may have been seen. -/
theorem Indexed.mono {locks' : List CrossDomainMessage}
    (hlocks : locks ⊆ locks') : Indexed C locks' expired dropped b :=
  { h with opened := fun hget => (h.opened hget).imp fun _ hm => ⟨hlocks hm.1, hm.2⟩ }

theorem Indexed.registerAsset {assetId : Hash32} {domain : DomainId}
    (hreg : b.registerAsset assetId domain = .ok b') :
    Indexed C locks expired dropped b' ∧
      b'.replay.processedHighWater = b.replay.processedHighWater := by
  simp only [BridgeState.registerAsset, ok_iff, Bool.not_eq_true', contains_eq_false] at hreg
  obtain ⟨-, hnew, rfl⟩ := hreg
  refine ⟨{ h with located := fun {id t} hget hflight => ?_ }, rfl⟩
  -- an asset in flight has a place, so it is not the new one
  have hplace := h.located hget hflight
  have hne : t.assetId ≠ assetId := by
    rintro rfl
    simp [hnew] at hplace
  rw [get_insert_of_ne _ hne, hplace]

end

/-- The queue `q'` lists at least what `q` lists. -/
def QueueLe (q q' : OrdMap UInt64 (List MessageId)) : Prop :=
  ∀ ⦃height id⦄, id ∈ q.getD height [] → id ∈ q'.getD height []

theorem queueLe_refl : QueueLe q q := fun _ _ hmem => hmem

theorem queueLe_push (height : UInt64) (id : MessageId) :
    QueueLe q (q.insert height (q.getD height [] ++ [id])) := by
  intro height' id' hmem
  simp only [getD, get_insert]
  split_ifs with heq
  · subst heq
    exact List.mem_append_left _ hmem
  · exact hmem

theorem mem_push (height : UInt64) (id : MessageId) :
    id ∈ (q.insert height (q.getD height [] ++ [id])).getD height [] := by
  simp [getD]

section

variable (h : Indexed C locks expired dropped b) {location status : BridgeStatus}

include h

/-- One row is written, and its asset is placed with it.  No other transfer of the asset may be in
flight, and the row has to stand in the queue it belongs to. -/
theorem Indexed.write
    (htransfers : b'.transfers = b.transfers.insert id t)
    (hlocations : b'.assetLocations = b.assetLocations.insert t.assetId location)
    (hexpiry : QueueLe b.expiryQueue b'.expiryQueue)
    (hsettled : QueueLe b.settledQueue b'.settledQueue)
    (hfree : ∀ {j u}, b.transfers.get j = some u → j ≠ id → u.status.inFlight →
      u.assetId ≠ t.assetId)
    (hplace : t.status.inFlight → location = t.status ∧ t.routed)
    (hlocked : ∀ domain, t.status = .locked domain → t.expiryHeight ≠ 0 →
      id ∈ expired ++ b'.expiryQueue.getD t.expiryHeight [])
    (hterminal : t.status.isTerminal → ∃ height, id ∈ dropped ++ b'.settledQueue.getD height [])
    (hopened : t.openedBy C locks id) :
    Indexed C locks expired dropped b' := by
  have hrow : ∀ {j u}, b'.transfers.get j = some u →
      j = id ∧ u = t ∨ j ≠ id ∧ b.transfers.get j = some u := by
    intro j u hj
    rwa [htransfers, get_insert_eq_some, eq_comm (a := t)] at hj
  constructor
  case single =>
    intro j j' u u' hj hj' hu hu' hasset
    obtain ⟨rfl, rfl⟩ | ⟨hne, hj⟩ := hrow hj <;> obtain ⟨rfl, rfl⟩ | ⟨hne', hj'⟩ := hrow hj'
    · rfl
    · exact absurd hasset.symm (hfree hj' hne' hu')
    · exact absurd hasset (hfree hj hne hu)
    · exact h.single hj hj' hu hu' hasset
  case located =>
    intro j u hj hu
    rw [hlocations]
    obtain ⟨rfl, rfl⟩ | ⟨hne, hj⟩ := hrow hj
    · rw [get_insert_self, (hplace hu).1]
    · rw [get_insert_of_ne _ (hfree hj hne hu), h.located hj hu]
  case routed =>
    intro j u hj hu
    obtain ⟨rfl, rfl⟩ | ⟨-, hj⟩ := hrow hj
    · exact (hplace hu).2
    · exact h.routed hj hu
  case expiring =>
    intro j u domain hj hu hnever
    obtain ⟨rfl, rfl⟩ | ⟨-, hj⟩ := hrow hj
    · exact hlocked domain hu hnever
    · exact List.mem_append.2 ((List.mem_append.1 (h.expiring hj hu hnever)).imp_right
        fun hmem => hexpiry hmem)
  case settled =>
    intro j u hj hu
    obtain ⟨rfl, rfl⟩ | ⟨-, hj⟩ := hrow hj
    · exact hterminal hu
    · obtain ⟨height, hmem⟩ := h.settled hj hu
      exact ⟨height, List.mem_append.2 ((List.mem_append.1 hmem).imp_right
        fun hmem => hsettled hmem)⟩
  case opened =>
    intro j u hj
    obtain ⟨rfl, rfl⟩ | ⟨-, hj⟩ := hrow hj
    · exact hopened
    · exact h.opened hj

/-- No transfer of an asset is in flight beside one that is. -/
theorem Indexed.free (hget : b.transfers.get id = some t)
    (hflight : t.status.inFlight) {j : MessageId} {u : BridgeTransfer}
    (hj : b.transfers.get j = some u) (hne : j ≠ id) (hu : u.status.inFlight) :
    u.assetId ≠ t.assetId :=
  fun hasset => hne (h.single hj hget hu hflight hasset)

/-- A transfer in flight moves on, and its asset with it. -/
theorem Indexed.move
    (hget : b.transfers.get id = some t) (hflight : t.status.inFlight)
    (hstatus : status = .minted t.targetDomain ∨ status = .burned t.targetDomain) :
    Indexed C locks expired dropped (b.move id t status status) := by
  refine h.write rfl rfl (queueLe_refl _) (queueLe_refl _) (h.free hget hflight)
    (fun _ => ⟨rfl, .inr hstatus⟩) ?_ ?_ ?opened
  · rintro domain rfl
    rcases hstatus with h | h <;> cases h
  · intro hterminal
    rcases hstatus with rfl | rfl <;> cases hterminal
  case opened => exact show t.openedBy C locks id from h.opened hget

/-- A transfer in flight comes home and is queued as settled. -/
theorem Indexed.settle
    (hget : b.transfers.get id = some t) (hflight : t.status.inFlight)
    (hterminal : status.isTerminal) (height : UInt64) :
    Indexed C locks expired dropped ((b.move id t status location).markSettled id height) := by
  refine h.write rfl rfl (queueLe_refl _) (queueLe_push _ _ _) (h.free hget hflight) ?_ ?_ ?_ ?opened
  · intro hflight'
    simp [BridgeStatus.inFlight, hterminal] at hflight'
  · rintro domain rfl
    cases hterminal
  · exact fun _ => ⟨height, List.mem_append_right _ (mem_push _ _ _)⟩
  case opened => exact show t.openedBy C locks id from h.opened hget

theorem Indexed.lock {source target : DomainId} {sourceHeight : UInt64} {eventIndex : UInt32}
    {assetId : Hash32} {owner recipient : Address} {amount expiryHeight : UInt64}
    {e : DomainEvent}
    (hlock : b.lock C source target sourceHeight eventIndex assetId owner recipient amount
      expiryHeight = .ok (t, e, b')) :
    Indexed C (e.message.toList ++ locks) expired dropped b' ∧
      b'.replay.processedHighWater = b.replay.processedHighWater := by
  simp only [BridgeState.lock, ok_iff] at hlock
  obtain ⟨_, hactive, -, rfl, rfl, rfl, rfl⟩ := hlock
  refine ⟨(h.mono (List.subset_append_right _ _)).write rfl rfl ?_ (queueLe_refl _) ?_
    (fun _ => ⟨rfl, .inl rfl⟩) ?_ ?_ ⟨_, List.mem_append_left _ (by simp [lockEvent]), rfl, ?_, rfl⟩,
    rfl⟩
  · split_ifs
    · exact queueLe_push _ _ _
    · exact queueLe_refl _
  · -- the asset is active, so no transfer of it is in flight
    intro j u hj _ hu hasset
    have hplace := h.located hj hu
    rw [hasset, hactive] at hplace
    rw [← Option.some.inj hplace] at hu
    cases hu
  · intro domain _ hnever
    rw [if_pos (UInt64.pos_iff_ne_zero.2 hnever)]
    exact List.mem_append_right _ (mem_push _ _ _)
  · intro hterminal
    cases hterminal
  · exact decide_eq_true rfl

end

variable {height : UInt64}

section

variable (h : Indexed C locks expired dropped b)

include h

/-- A mint is by the message of the lock, as far as the digest tells messages apart. -/
theorem Indexed.mint {m : CrossDomainMessage}

    (hsep : ∀ m' ∈ locks, C.sha256 m'.idPreimage = C.sha256 m.idPreimage →
      m'.idPreimage = m.idPreimage)
    (hmint : b.mint C m height = .ok b') : Indexed C locks expired dropped b' := by
  simp only [BridgeState.mint, ok_iff] at hmint
  obtain ⟨-, hid, t, hget, -, -, -, -, -, hstatus, replay, -, rfl⟩ := hmint
  obtain ⟨m', hm', hsame, hid', htarget⟩ := h.opened hget
  have hroute := CrossDomainMessage.route_of_idPreimage
    (hsep m' hm' (CrossDomainMessage.sha256_of_messageId hid' hid hsame))
  have hmove := h.move hget (by rw [hstatus]; rfl) (.inl rfl)
  rw [← htarget, hroute.2.1] at hmove
  exact hmove.withReplay replay

theorem Indexed.burnWithEvent {domain : DomainId} {eventIndex : UInt32} {expiry : UInt64}
    {e : DomainEvent}
    (hburn : b.burnWithEvent C id domain height eventIndex expiry = .ok (e, b')) :
    Indexed C locks expired dropped b' ∧
      b'.replay.processedHighWater = b.replay.processedHighWater := by
  simp only [BridgeState.burnWithEvent, ok_iff] at hburn
  obtain ⟨t, hget, -, hstatus, -, rfl⟩ := hburn
  have hflight : t.status.inFlight := by rw [hstatus]; rfl
  have hdomain : domain = t.targetDomain := by
    have hrouted := h.routed hget hflight
    simpa [BridgeTransfer.routed, hstatus] using hrouted
  subst hdomain
  exact ⟨(h.move hget hflight (.inr rfl)).withReplay _, rfl⟩

theorem Indexed.unlock {source : DomainId}
    (hunlock : b.unlock id source height = .ok b') :
    Indexed C locks expired dropped b' ∧
      b'.replay.processedHighWater = b.replay.processedHighWater := by
  simp only [BridgeState.unlock, ok_iff] at hunlock
  obtain ⟨t, hget, -, hstatus, -, -, rfl⟩ := hunlock
  exact ⟨h.settle hget (by rw [hstatus]; rfl) rfl height, rfl⟩

end

/-! ### Sweeps -/

/-- The identifiers queued at a height are either taken out up to it or left in the queue. -/
theorem mem_queuedThrough {q : OrdMap UInt64 (List MessageId)} {cutoff : UInt64}
    (hmem : id ∈ q.getD height []) : id ∈ queuedThrough q cutoff ++
    (q.filter fun h _ => decide (cutoff < h)).getD height [] := by
  rw [List.mem_append]
  cases hrow : q.get height with
  | none => simp [getD, hrow] at hmem
  | some ids =>
    have hids : id ∈ ids := by simpa [getD, hrow] using hmem
    rcases UInt64.lt_or_le cutoff height with hlt | hle
    · right
      simpa [getD, get_filter, hrow, hlt, Option.filter_some] using hids
    · left
      refine List.mem_flatten.2 ⟨ids, OrdMap.mem_values.2 ⟨height, ?_⟩, hids⟩
      simp [get_filter, hrow, hle, Option.filter_some]

/-- An identifier taken out of the queue of locks is no longer locked once it is worked through. -/
theorem Indexed.releaseLock {acc : BridgeState × List (Address × UInt64)}
    (h : Indexed C locks (id :: expired) dropped acc.1) : Indexed C locks expired dropped
    (BridgeState.releaseLock height acc id).1 := by
  -- the row named `id`, if it stays, is not locked
  have hpop : ∀ {b : BridgeState}, Indexed C locks (id :: expired) dropped b →
      (∀ t domain, b.transfers.get id = some t → t.status ≠ .locked domain) →
      Indexed C locks expired dropped b := by
    intro b h hunlocked
    refine { h with expiring := fun {j u domain} hj hu hnever => ?_ }
    have hmem := h.expiring hj hu hnever
    rw [List.cons_append, List.mem_cons] at hmem
    refine hmem.resolve_left ?_
    rintro rfl
    exact hunlocked u domain hj hu
  unfold BridgeState.releaseLock
  split
  · rename_i t hget
    split
    · rename_i domain hstatus
      refine hpop (h.settle hget (by rw [hstatus]; rfl) rfl height) fun u domain' hu => ?_
      rw [show ((acc.1.move id t _ _).markSettled id height).transfers.get id = _ from
        get_insert_self _ _ _] at hu
      cases hu
      simp
    · rename_i hstatus
      refine hpop h fun u domain hu hlocked => ?_
      rw [hget] at hu
      cases hu
      exact hstatus domain hlocked
  · rename_i hnone
    refine hpop h fun u domain hu => ?_
    rw [hnone] at hu
    cases hu

theorem Indexed.dropRow (h : Indexed C locks expired (id :: dropped) b) :
    Indexed C locks expired dropped (b.dropRow id) := by
  have hpop : ∀ {j u}, b.transfers.get j = some u → u.status.isTerminal → j ≠ id →
      ∃ height, j ∈ dropped ++ b.settledQueue.getD height [] := by
    intro j u hj hu hne
    obtain ⟨height, hmem⟩ := h.settled hj hu
    rw [List.cons_append, List.mem_cons] at hmem
    exact ⟨height, hmem.resolve_left hne⟩
  unfold BridgeState.dropRow
  split_ifs with hterminal
  · have hrow : ∀ {j u}, (b.transfers.erase id).get j = some u →
        j ≠ id ∧ b.transfers.get j = some u := by
      intro j u hj
      exact OrdMap.get_erase_eq_some.1 hj
    exact {
      single := fun hj hj' => h.single (hrow hj).2 (hrow hj').2
      located := fun hj => h.located (hrow hj).2
      routed := fun hj => h.routed (hrow hj).2
      expiring := fun hj => h.expiring (hrow hj).2
      settled := fun hj hu => hpop (hrow hj).2 hu (hrow hj).1
      opened := fun hj => h.opened (hrow hj).2 }
  · refine { h with settled := fun {j u} hj hu => hpop hj hu ?_ }
    rintro rfl
    exact hterminal (by rw [hj]; exact hu)

theorem Indexed.dropSettledRows (h : Indexed C locks expired [] b) (height : UInt64) :
    Indexed C locks expired [] (b.dropSettledRows height) := by
  have hfold : ∀ (ids : List MessageId) {b : BridgeState}, Indexed C locks expired ids b →
      Indexed C locks expired [] (ids.foldl BridgeState.dropRow b) := by
    intro ids
    induction ids with
    | nil => exact fun h => h
    | cons j ids ih => exact fun h => ih h.dropRow
  refine hfold _ { h with settled := fun hj hu => ?_ }
  obtain ⟨height', hmem⟩ := h.settled hj hu
  exact ⟨height', mem_queuedThrough hmem⟩

theorem Indexed.sweepExpiredLocks (h : Indexed C locks [] [] b) (height : UInt64) :
    Indexed C locks [] [] (b.sweepExpiredLocks height).1 := by
  have hfold : ∀ (ids : List MessageId) {acc : BridgeState × List (Address × UInt64)},
      Indexed C locks ids [] acc.1 → Indexed C locks [] [] (ids.foldl (BridgeState.releaseLock height) acc).1 := by
    intro ids
    induction ids with
    | nil => exact fun h => h
    | cons j ids ih => exact fun h => ih h.releaseLock
  refine (hfold _ { h with expiring := fun hj hu hnever => ?_ }).dropSettledRows height
  exact mem_queuedThrough (h.expiring hj hu hnever)

/-! ### The marks against replay -/

theorem replay_dropSettledRows (b : BridgeState) (height : UInt64) :
    (b.dropSettledRows height).replay = b.replay := by
  refine List.foldlRecOn (motive := fun b' : BridgeState => b'.replay = b.replay) _ _ rfl
    fun b' h id _ => ?_
  unfold BridgeState.dropRow
  split_ifs <;> exact h

theorem replay_sweepExpiredLocks (b : BridgeState) (height : UInt64) :
    (b.sweepExpiredLocks height).1.replay = b.replay := by
  refine (replay_dropSettledRows _ _).trans (List.foldlRecOn
    (motive := fun acc : BridgeState × List (Address × UInt64) => acc.1.replay = b.replay) _ _ rfl
    fun acc h id _ => ?_)
  unfold BridgeState.releaseLock
  split
  · split <;> exact h
  · exact h

/-- A mint leaves its slot processed, and takes no processed slot back. -/
theorem isProcessed_mint {m : CrossDomainMessage} (hmint : b.mint C m height = .ok b') :
    b.replay.isProcessed m.sourceDomain m.targetDomain m.sender m.nonce = false ∧
    b'.replay.isProcessed m.sourceDomain m.targetDomain m.sender m.nonce ∧ ∀ source target sender
    nonce, b.replay.isProcessed source target sender nonce → b'.replay.isProcessed source target
    sender nonce := by
  simp only [BridgeState.mint, ok_iff, markProcessedAt, Bool.not_eq_true'] at hmint
  obtain ⟨-, -, t, -, -, -, -, hfresh, -, -, replay, ⟨-, -, rfl⟩, rfl⟩ := hmint
  refine ⟨hfresh, by simp [isProcessed], fun source target sender nonce h => ?_⟩
  simp only [isProcessed, get_insert] at h hfresh ⊢
  split_ifs with hroute
  · -- the mark of the route only rises
    rw [hroute] at h
    cases hmark : b.replay.processedHighWater.get
        (routeKey m.sourceDomain m.targetDomain m.sender) with
    | none => simp [hmark] at h
    | some w =>
      simp only [hmark, Option.any_some, decide_eq_true_eq, decide_eq_false_iff_not] at h hfresh ⊢
      exact UInt64.le_trans h (UInt64.le_of_lt (UInt64.not_le.1 hfresh))
  · exact h

end BridgeState

/-! ### Runs -/

inductive BridgeCall where
  | registerAsset (assetId : Hash32) (domain : DomainId)
  | lock (source target : DomainId) (sourceHeight : UInt64) (eventIndex : UInt32)
      (assetId : Hash32) (owner recipient : Address) (amount expiryHeight : UInt64)
  | mint (m : CrossDomainMessage) (currentHeight : UInt64)
  | burnWithEvent (id : MessageId) (domain : DomainId) (domainHeight : UInt64)
      (eventIndex : UInt32) (expiryHeight : UInt64)
  | unlock (id : MessageId) (source : DomainId) (settledHeight : UInt64)
  | sweepExpiredLocks (currentHeight : UInt64)
  | dropSettledRows (currentHeight : UInt64)

/-- A bridge with the messages of its locks and the messages it minted. -/
structure BridgeRun where
  state : BridgeState := {}
  locked : List CrossDomainMessage := []
  minted : List CrossDomainMessage := []

namespace BridgeRun

variable (C : Crypto)

/-- One call.  A refused call changes nothing. -/
def call (r : BridgeRun) : BridgeCall → BridgeRun
  | .registerAsset assetId domain =>
    match r.state.registerAsset assetId domain with
    | .ok b => { r with state := b }
    | .error _ => r
  | .lock source target sourceHeight eventIndex assetId owner recipient amount expiryHeight =>
    match r.state.lock C source target sourceHeight eventIndex assetId owner recipient amount
      expiryHeight with
    | .ok (_, event, b) => { r with state := b, locked := event.message.toList ++ r.locked }
    | .error _ => r
  | .mint m currentHeight =>
    match r.state.mint C m currentHeight with
    | .ok b => { r with state := b, minted := m :: r.minted }
    | .error _ => r
  | .burnWithEvent id domain domainHeight eventIndex expiryHeight =>
    match r.state.burnWithEvent C id domain domainHeight eventIndex expiryHeight with
    | .ok (_, b) => { r with state := b }
    | .error _ => r
  | .unlock id source settledHeight =>
    match r.state.unlock id source settledHeight with
    | .ok b => { r with state := b }
    | .error _ => r
  | .sweepExpiredLocks currentHeight =>
    { r with state := (r.state.sweepExpiredLocks currentHeight).1 }
  | .dropSettledRows currentHeight => { r with state := r.state.dropSettledRows currentHeight }

/-- The calls in turn, from an empty bridge. -/
def run (calls : List BridgeCall) : BridgeRun := calls.foldl (call C) {}

/-- The digest tells the messages of the run apart. -/
def Separated (r : BridgeRun) : Prop :=
  ∀ m ∈ r.locked ++ r.minted, ∀ m' ∈ r.locked ++ r.minted,
    C.sha256 m.idPreimage = C.sha256 m'.idPreimage → m.idPreimage = m'.idPreimage

/-- The table is consistent, every minted slot is spent, and no lock was minted twice. -/
structure Sound (r : BridgeRun) : Prop where
  indexed : r.state.Indexed C r.locked [] []
  spent : ∀ m ∈ r.minted, m.verifyId C ∧
    r.state.replay.isProcessed m.sourceDomain m.targetDomain m.sender m.nonce
  once : (r.minted.map (·.messageId)).Nodup

variable {C} {r : BridgeRun}

/-- No message is forgotten. -/
theorem subset_call (r : BridgeRun) (c : BridgeCall) :
    r.locked ⊆ (r.call C c).locked ∧ r.minted ⊆ (r.call C c).minted := by
  cases c <;> unfold call <;> dsimp only
  case sweepExpiredLocks => exact ⟨refl _, refl _⟩
  case dropSettledRows => exact ⟨refl _, refl _⟩
  all_goals
    split
    · simp
    · exact ⟨refl _, refl _⟩

theorem Separated.of_call (c : BridgeCall) (h : Separated C (r.call C c)) : Separated C r := by
  have hsub : ∀ m ∈ r.locked ++ r.minted, m ∈ (r.call C c).locked ++ (r.call C c).minted := by
    intro m hm
    obtain ⟨hlocked, hminted⟩ := subset_call (C := C) r c
    exact List.mem_append.2 ((List.mem_append.1 hm).imp (@hlocked m) (@hminted m))
  exact fun m hm m' hm' => h m (hsub m hm) m' (hsub m' hm')

/-- A call that mints nothing. -/
theorem Sound.ofIndexed {b : BridgeState} {locked : List CrossDomainMessage} (h : Sound C r)
    (hb : b.Indexed C locked [] [] ∧
      b.replay.processedHighWater = r.state.replay.processedHighWater) :
    Sound C ⟨b, locked, r.minted⟩ where
  indexed := hb.1
  spent m hm := by simpa [isProcessed, hb.2] using h.spent m hm
  once := h.once

/-- A second mint of one lock would need a second message with the identifier of the first.  The
digest tells messages apart, so it would be the first message, whose slot is spent. -/
theorem Sound.mint (h : Sound C r) (m : CrossDomainMessage) (height : UInt64)
    (hsep : Separated C (r.call C (.mint m height))) : Sound C (r.call C (.mint m height)) := by
  unfold call at hsep ⊢
  dsimp only at hsep ⊢
  split at hsep
  · rename_i b hmint
    obtain ⟨hfresh, hprocessed, hmono⟩ := BridgeState.isProcessed_mint hmint
    have hid : m.verifyId C := by
      simp only [BridgeState.mint, ok_iff] at hmint
      exact hmint.choose_spec.1
    have hsame : ∀ m' ∈ r.locked ++ r.minted, C.sha256 m'.idPreimage = C.sha256 m.idPreimage →
        m'.idPreimage = m.idPreimage :=
      fun m' hm' => hsep m' (by simpa using (List.mem_append.1 hm').imp_right .inr) m (by simp)
    refine ⟨h.indexed.mint (fun m' hm' => hsame m' (List.mem_append_left _ hm')) hmint, ?_, ?_⟩
    · rintro m' hm'
      obtain rfl | hm' := List.mem_cons.1 hm'
      · exact ⟨hid, hprocessed⟩
      · exact ⟨(h.spent m' hm').1, hmono _ _ _ _ (h.spent m' hm').2⟩
    · refine List.nodup_cons.2 ⟨fun hmem => ?_, h.once⟩
      obtain ⟨m', hm', hids⟩ := List.mem_map.1 hmem
      obtain ⟨hsource, htarget, hnonce, hsender⟩ := CrossDomainMessage.route_of_idPreimage
        (hsame m' (List.mem_append_right _ hm')
          (CrossDomainMessage.sha256_of_messageId (h.spent m' hm').1 hid hids))
      have hspent := (h.spent m' hm').2
      rw [hsource, htarget, hsender, hnonce, hfresh] at hspent
      cases hspent
  · exact h

theorem sound_call (c : BridgeCall) (h : Sound C r) (hsep : Separated C (r.call C c)) :
    Sound C (r.call C c) := by
  cases c with
  | registerAsset assetId domain =>
    rw [call]
    split
    · exact h.ofIndexed (h.indexed.registerAsset ‹_›)
    · exact h
  | lock source target sourceHeight eventIndex assetId owner recipient amount expiryHeight =>
    rw [call]
    split
    · exact h.ofIndexed (h.indexed.lock ‹_›)
    · exact h
  | mint m height => exact h.mint m height hsep
  | burnWithEvent id domain height eventIndex expiry =>
    rw [call]
    split
    · exact h.ofIndexed (h.indexed.burnWithEvent ‹_›)
    · exact h
  | unlock id source height =>
    rw [call]
    split
    · exact h.ofIndexed (h.indexed.unlock ‹_›)
    · exact h
  | sweepExpiredLocks height =>
    exact h.ofIndexed ⟨h.indexed.sweepExpiredLocks height,
      by rw [BridgeState.replay_sweepExpiredLocks]⟩
  | dropSettledRows height =>
    exact h.ofIndexed ⟨h.indexed.dropSettledRows height,
      by rw [BridgeState.replay_dropSettledRows]⟩

/-- **After any calls the table is consistent, and no lock was minted twice.**  The digest is
assumed to tell apart the messages of the run, nothing more. -/
theorem run_indexed (calls : List BridgeCall) (hsep : Separated C (run C calls)) :
    (run C calls).state.Indexed C (run C calls).locked [] [] ∧
      ((run C calls).minted.map (·.messageId)).Nodup := by
  have hsound : Sound C (run C calls) := by
    induction calls using List.reverseRecOn with
    | nil => exact ⟨BridgeState.indexed_empty C [], by simp [run], List.nodup_nil⟩
    | append_singleton calls c ih =>
      have hrun : run C (calls ++ [c]) = (run C calls).call C c := List.foldl_append
      rw [hrun] at hsep ⊢
      exact sound_call c (ih (hsep.of_call c)) hsep
  exact ⟨hsound.indexed, hsound.once⟩

/-- A lock that is minted, and a second mint that is refused. -/
theorem run_indexed_minted :
    let C := Linked.sample.toCrypto
    let message := (BridgeState.lockEvent C 1 2 5 0 7 3 4 100 50 0).1
    let calls : List BridgeCall := [.registerAsset 7 1, .lock 1 2 5 0 7 3 4 100 50,
      .mint message 6, .mint message 7]
    (run C calls).minted = [message] ∧ (run C calls).state.Indexed C (run C calls).locked [] [] := by
  intro C message calls
  have hmessages : (run C calls).locked ++ (run C calls).minted = [message, message] := by decide
  refine ⟨by decide, (run_indexed calls fun m hm m' hm' _ => ?_).1⟩
  rw [hmessages] at hm hm'
  simp only [List.mem_cons, List.not_mem_nil, or_false, or_self] at hm hm'
  rw [hm, hm']

end BridgeRun

end Budlum
