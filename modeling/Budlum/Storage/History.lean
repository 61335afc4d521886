import Budlum.Lib.Trace
import Budlum.Storage.Deals

/-!
# Runs of the storage registry

Every call on the registry as one step, and what a step can do: a deal is opened under the next
number, or the deals that exist grow older.  A deal that left `active` never comes back, and nothing
but its status and its end ever changes.

* `StorageRegistry.Step`, `StorageOp.after_step` : what a call does to deals and challenges.
* `StorageRegistry.Numbered` : deals and challenges are kept under their own numbers.
* `slots_unique_iff` : when a run keeps at most one active deal in every slot.
-/

namespace Budlum

open OrdMap
open Except (ok_iff)
open StorageRegistry

/-- A call on the registry. -/
inductive StorageOp where
  | openDeal (q : DealRequest)
  | acceptReallocationTicket (ticketId : UInt64) (a : ReplacementRequest)
  | openChallenge (q : ChallengeRequest)
  | answerChallenge (a : RetrievalResponse)
  | finalizeMissedChallenge (challengeId nowEpoch : UInt64)
  | renewDeal (dealId : UInt64) (operator : Address) (nowEpoch extraEpochs : UInt64)
  | expireDeal (dealId nowEpoch : UInt64)
  | pruneContent (manifestId : ContentId)
  | openExpiryReallocation (dealId nowEpoch : UInt64)
  | openNeverPlacedTicket (domainId : UInt32) (slot : Slot) (nowEpoch : UInt64)
  | openRepairTicketsForFreeSlots (nowEpoch : UInt64)
  | markOverdueReallocationsUnderReplicated (nowEpoch : UInt64)
  | sweepSettledReallocations (nowEpoch : UInt64)
  | annotateExpectedHolders (entropy : Hash32) (candidates : List ShardCandidate)
  | registerManifest (m : ContentManifest)
  | setOperatorClass (operator : Address) (c : OperatorClass)
  | declareSelfHostPolicy (policy : MobileSelfContentPolicy) (profile : MobileSelfProfile)
  | beginOperatorCooldown (operator : Address) (nowUnixSecs : UInt64)
  | pruneExpiredCooldowns (nowUnixSecs : UInt64)

/-- What happened to deals and challenges in a call. -/
inductive StorageEvent where
  | opened (q : DealRequest)
  | asked (challengeId : UInt64)
  | answered (challengeId : UInt64)
  | mismatched (challengeId dealId : UInt64)
  | missed (challengeId dealId : UInt64)
  | renewed (dealId endEpoch : UInt64)
  | expired (dealId : UInt64)
  | pruned (manifestId : ContentId)
  /-- Tickets, manifests and operators at most. -/
  | tended

namespace StorageOp

section Calls

variable (L : Linked) (verify : ChallengeVerifier)

def call (op : StorageOp) (r : StorageRegistry) : Except (Fault StorageError) StorageRegistry :=
  match op with
  | openDeal q => (r.openDeal L q).map Prod.snd
  | acceptReallocationTicket ticketId a => (r.acceptReallocationTicket L ticketId a).map Prod.snd
  | openChallenge q => (r.openChallenge q).map Prod.snd
  | answerChallenge a => (r.answerChallenge verify a).orFail.map Prod.snd
  | finalizeMissedChallenge challengeId nowEpoch =>
    (r.finalizeMissedChallenge challengeId nowEpoch).orFail.map Prod.snd
  | renewDeal dealId operator nowEpoch extraEpochs =>
    (r.renewDeal dealId operator nowEpoch extraEpochs).orFail.map Prod.snd
  | expireDeal dealId nowEpoch => (r.expireDeal dealId nowEpoch).orFail.map Prod.snd
  | pruneContent manifestId => .ok (r.pruneContent manifestId)
  | openExpiryReallocation dealId nowEpoch => .ok (r.openExpiryReallocation dealId nowEpoch).2
  | openNeverPlacedTicket domainId slot nowEpoch =>
    .ok (r.openNeverPlacedTicket domainId slot nowEpoch).2
  | openRepairTicketsForFreeSlots nowEpoch => .ok (r.openRepairTicketsForFreeSlots nowEpoch)
  | markOverdueReallocationsUnderReplicated nowEpoch =>
    .ok (r.markOverdueReallocationsUnderReplicated nowEpoch)
  | sweepSettledReallocations nowEpoch => .ok (r.sweepSettledReallocations nowEpoch)
  | annotateExpectedHolders entropy candidates =>
    .ok (r.annotateExpectedHolders L.toCrypto entropy candidates)
  | registerManifest m => .ok (r.registerManifest m)
  | setOperatorClass operator c => .ok (r.setOperatorClass operator c)
  | declareSelfHostPolicy policy profile => (r.declareSelfHostPolicy policy profile).orFail
  | beginOperatorCooldown operator nowUnixSecs => .ok (r.beginOperatorCooldown operator nowUnixSecs)
  | pruneExpiredCooldowns nowUnixSecs => .ok (r.pruneExpiredCooldowns nowUnixSecs)

/-- The registry after a call; one that fails leaves it as it is. -/
def after (op : StorageOp) (r : StorageRegistry) : StorageRegistry :=
  match op.call L verify r with
  | .ok r' => r'
  | .error _ => r

/-- What a call reports. -/
def event (op : StorageOp) (r : StorageRegistry) : StorageEvent :=
  match op with
  | openDeal q => if (r.openDeal L q).toBool then .opened q else .tended
  | acceptReallocationTicket ticketId a =>
    match r.checkTicket ticketId a.operator with
    | .ok (ticket, m) =>
      if (r.openDeal L (a.dealRequest ticket m)).toBool then .opened (a.dealRequest ticket m)
      else .tended
    | .error _ => .tended
  | openChallenge q =>
    match r.openChallenge q with
    | .ok (challengeId, _) => .asked challengeId
    | .error _ => .tended
  | answerChallenge a =>
    match r.answerChallenge verify a with
    | .ok (result, _) =>
      if result.outcome = .answered then .answered a.challengeId
      else .mismatched a.challengeId result.dealId
    | .error _ => .tended
  | finalizeMissedChallenge challengeId nowEpoch =>
    match r.finalizeMissedChallenge challengeId nowEpoch with
    | .ok (result, _) => .missed challengeId result.dealId
    | .error _ => .tended
  | renewDeal dealId operator nowEpoch extraEpochs =>
    match r.renewDeal dealId operator nowEpoch extraEpochs with
    | .ok (endEpoch, _) => .renewed dealId endEpoch
    | .error _ => .tended
  | expireDeal dealId nowEpoch =>
    if (r.expireDeal dealId nowEpoch).toBool && (r.deals.get dealId).any StorageDeal.isActive then
      .expired dealId
    else .tended
  | pruneContent manifestId => .pruned manifestId
  | _ => .tended

end Calls

end StorageOp

/-! ### What calls return -/

namespace StorageRegistry

variable {L : Linked} {verify : ChallengeVerifier} {r r' : StorageRegistry}
  {dealId challengeId nowEpoch : UInt64} {q : ChallengeRequest} {deal : StorageDeal}
  {c : RetrievalChallenge} {a : RetrievalResponse} {result : ChallengeResult}

theorem openDeal_eq_ok {q : DealRequest}
    (h : r.openDeal L q = .ok (dealId, r')) : ∃ shardBytes next, r.checkDeal L q = .ok shardBytes ∧
      r.nextDealId.checkedAdd 1 = some next ∧ dealId = r.nextDealId ∧
      r' = r.recordDeal q next shardBytes := by
  simp only [openDeal, ok_iff, Except.orFail_eq_ok] at h
  obtain ⟨shardBytes, hcheck, next, hnext, rfl, rfl⟩ := h
  exact ⟨shardBytes, next, hcheck, hnext, rfl, rfl⟩

theorem acceptReallocationTicket_eq_ok {ticketId : UInt64} {a : ReplacementRequest}
    (h : r.acceptReallocationTicket L ticketId a = .ok (dealId, r')) : ∃ ticket m opened,
      r.checkTicket ticketId a.operator = .ok (ticket, m) ∧
      r.openDeal L (a.dealRequest ticket m) = .ok (dealId, opened) ∧
      r' = opened.settleTicket ticket ticketId dealId a.startEpoch := by
  simp only [acceptReallocationTicket, ok_iff, Except.orFail_eq_ok, Prod.exists] at h
  obtain ⟨ticket, m, hticket, _, opened, hopen, rfl, rfl⟩ := h
  exact ⟨ticket, m, opened, hticket, hopen, rfl⟩

theorem openChallenge_eq_ok
    (h : r.openChallenge q = .ok (challengeId, r')) : ∃ deal next, r.admitChallenge q = .ok deal ∧
      r.checkChallengeCaps q.dealId deal.operator = .ok () ∧
      r.nextChallengeId.checkedAdd 1 = some next ∧ challengeId = r.nextChallengeId ∧
      r' = { r with
        nextChallengeId := next
        challenges := r.challenges.insert r.nextChallengeId (r.challengeOf q deal.shardId) } := by
  simp only [openChallenge, ok_iff, Except.orFail_eq_ok] at h
  obtain ⟨deal, hadmitted, _, hcaps, next, hnext, rfl, rfl⟩ := h
  exact ⟨deal, next, hadmitted, hcaps, hnext, rfl, rfl⟩

theorem admitChallenge_eq_ok
    (h : r.admitChallenge q = .ok deal) :
    r.deals.get q.dealId = some deal ∧ deal.isActive = true := by
  simp only [admitChallenge, ok_iff] at h
  obtain ⟨-, -, -, -, -, -, -, -, d, hget, -, hactive, -, -, rfl⟩ := h
  exact ⟨hget, hactive⟩

theorem checkAnswer_eq_ok
    (h : r.checkAnswer a = .ok (c, deal)) :
    r.challenges.get a.challengeId = some c ∧ r.deals.get c.dealId = some deal ∧
      deal.isActive = true ∧ a.responder = deal.operator := by
  simp only [checkAnswer, ok_iff] at h
  obtain ⟨-, -, -, -, c', hc, d, hd, -, hactive, -, hresponder, -, -, rfl, rfl⟩ := h
  exact ⟨hc, hd, hactive, hresponder⟩

theorem answerChallenge_eq_ok
    (h : r.answerChallenge verify a = .ok (result, r')) : ∃ c deal,
      r.checkAnswer a = .ok (c, deal) ∧
      ((result = ⟨a.challengeId, deal.dealId, .answered, a.responseEpoch, 0⟩ ∧
        r' = (r.recordProvenRead deal.manifestId a.responseEpoch).resolve result) ∨
      (result = ⟨a.challengeId, deal.dealId, .mismatched, a.responseEpoch,
          deal.economics.operatorBond⟩ ∧
        r' = (r.slashDeal deal.dealId deal).resolve result)) := by
  simp only [answerChallenge, Except.bind_eq_ok, Prod.exists] at h
  obtain ⟨c, deal, hcheck, h⟩ := h
  refine ⟨c, deal, hcheck, ?_⟩
  split at h
  · obtain ⟨rfl, rfl⟩ := Prod.mk.inj (Except.ok.inj h)
    exact .inl ⟨rfl, rfl⟩
  · obtain ⟨rfl, rfl⟩ := Prod.mk.inj (Except.ok.inj h)
    exact .inr ⟨rfl, rfl⟩

theorem checkMissed_eq_ok (h : r.checkMissed challengeId nowEpoch = .ok (c, deal)) :
    r.challenges.get challengeId = some c ∧ r.deals.get c.dealId = some deal ∧
      deal.isActive = true := by
  simp only [checkMissed, ok_iff] at h
  obtain ⟨-, -, c', hc, -, -, d, hd, -, hactive, rfl, rfl⟩ := h
  exact ⟨hc, hd, hactive⟩

def afterMissed (r : StorageRegistry) (challengeId nowEpoch : UInt64) (c : RetrievalChallenge)
    (deal : StorageDeal) : StorageRegistry :=
  let slashed := r.slashDeal c.dealId deal
  (if r.isTicketed c.dealId then slashed
    else slashed.addTicket (dealTicket c.dealId deal deal.operator nowEpoch)).resolve
    ⟨challengeId, c.dealId, .missed, nowEpoch, deal.economics.operatorBond⟩

theorem finalizeMissedChallenge_eq_ok
    (h : r.finalizeMissedChallenge challengeId nowEpoch = .ok (result, r')) : ∃ c deal,
      r.checkMissed challengeId nowEpoch = .ok (c, deal) ∧
      result = ⟨challengeId, c.dealId, .missed, nowEpoch, deal.economics.operatorBond⟩ ∧
      r' = r.afterMissed challengeId nowEpoch c deal := by
  simp only [finalizeMissedChallenge, ok_iff, Prod.exists] at h
  obtain ⟨c, deal, hcheck, rfl, rfl⟩ := h
  exact ⟨c, deal, hcheck, rfl, rfl⟩

theorem renewDeal_eq_ok {extraEpochs endEpoch : UInt64} {operator : Address}
    (h : r.renewDeal dealId operator nowEpoch extraEpochs = .ok (endEpoch, r')) : ∃ deal,
      r.deals.get dealId = some deal ∧ deal.isActive = true ∧
      r' = { r with deals := r.deals.insert dealId { deal with dealEndEpoch := endEpoch } } := by
  simp only [renewDeal, ok_iff] at h
  obtain ⟨deal, hget, -, hactive, -, -, -, -, -, -, rfl, rfl⟩ := h
  exact ⟨deal, hget, hactive, rfl⟩

theorem expireDeal_eq_ok {bond : UInt64}
    (h : r.expireDeal dealId nowEpoch = .ok (bond, r')) : ∃ deal, r.deals.get dealId = some deal ∧
      ((deal.isActive = false ∧ bond = 0 ∧ r' = r) ∨
      (deal.isActive = true ∧ bond = deal.economics.operatorBond ∧
        r' = { r with deals := r.deals.insert dealId { deal with status := .expired } })) := by
  simp only [expireDeal, ok_iff] at h
  obtain ⟨deal, hget, -, -, h⟩ := h
  refine ⟨deal, hget, ?_⟩
  split at h
  · obtain ⟨rfl, rfl⟩ := Prod.mk.inj (Except.ok.inj h)
    exact .inl ⟨by simpa [StorageDeal.isActive] using ‹deal.status ≠ .active›, rfl, rfl⟩
  · simp only [ok_iff] at h
    obtain ⟨-, -, rfl, rfl⟩ := h
    exact .inr ⟨by simpa [StorageDeal.isActive] using ‹¬deal.status ≠ .active›, rfl, rfl⟩

end StorageRegistry

/-! ### Deals grow older -/

/-- A later stage of a deal: only the status and the end can differ, and only an active deal changes
its status. -/
structure StorageDeal.Later (d d' : StorageDeal) : Prop where
  same : d' = { d with status := d'.status, dealEndEpoch := d'.dealEndEpoch }
  status : d.isActive = true ∨ d'.status = d.status

namespace StorageDeal.Later

variable {d d' d'' : StorageDeal}

theorem refl (d : StorageDeal) : Later d d := ⟨rfl, .inr rfl⟩

theorem isActive (h : Later d d') (hactive : d'.isActive = true) : d.isActive = true := by
  rcases h.status with hd | hstatus
  · exact hd
  · rwa [StorageDeal.isActive, ← hstatus]

theorem dealId (h : Later d d') : d'.dealId = d.dealId := by rw [h.same]

theorem slot (h : Later d d') : d'.slot = d.slot := by rw [h.same]; rfl

theorem operator (h : Later d d') : d'.operator = d.operator := by rw [h.same]

end StorageDeal.Later

namespace StorageRegistry

variable {r r' : StorageRegistry} {id : UInt64} {d : StorageDeal}

/-- No deal is opened or forgotten, and every deal is at a later stage. -/
structure Ages (r r' : StorageRegistry) : Prop where
  nextDealId : r'.nextDealId = r.nextDealId
  deals : ∀ id, Option.Rel StorageDeal.Later (r.deals.get id) (r'.deals.get id)

namespace Ages

theorem rel_refl : ∀ o : Option StorageDeal, Option.Rel StorageDeal.Later o o
  | none => .none
  | some d => .some (.refl d)

theorem of_deals_eq (hnext : r'.nextDealId = r.nextDealId) (hdeals : r'.deals = r.deals) :
    Ages r r' where
  nextDealId := hnext
  deals _ := hdeals ▸ rel_refl _

/-- One deal moves on. -/
theorem insert {d' : StorageDeal} (hnext : r'.nextDealId = r.nextDealId)
    (hdeals : r'.deals = r.deals.insert id d') (hget : r.deals.get id = some d)
    (hlater : d.Later d') : Ages r r' where
  nextDealId := hnext
  deals j := by
    rw [hdeals, get_insert]
    split
    · subst j
      rw [hget]
      exact .some hlater
    · exact rel_refl _

/-- Every deal moves on by itself. -/
theorem map {f : UInt64 → StorageDeal → StorageDeal} (hnext : r'.nextDealId = r.nextDealId)
    (hdeals : r'.deals = r.deals.map f) (hlater : ∀ id (d : StorageDeal), d.Later (f id d)) :
    Ages r r' where
  nextDealId := hnext
  deals id := by
    rw [hdeals, get_map]
    cases r.deals.get id with
    | none => exact .none
    | some d => exact .some (hlater id d)

theorem get (h : Ages r r') (hget : r.deals.get id = some d) :
    ∃ d', r'.deals.get id = some d' ∧ d.Later d' := by
  have hrel := h.deals id
  rw [hget] at hrel
  generalize r'.deals.get id = o at hrel
  cases hrel with
  | some hlater => exact ⟨_, rfl, hlater⟩

theorem get_before {d' : StorageDeal} (h : Ages r r') (hget : r'.deals.get id = some d') :
    ∃ d, r.deals.get id = some d ∧ d.Later d' := by
  have hrel := h.deals id
  rw [hget] at hrel
  generalize r.deals.get id = o at hrel
  cases hrel with
  | some hlater => exact ⟨_, rfl, hlater⟩

end Ages

/-! ### What is left alone -/

/-- Deals, challenges and results stay as they are. -/
structure Tends (r r' : StorageRegistry) : Prop where
  deals : r'.deals = r.deals
  nextDealId : r'.nextDealId = r.nextDealId
  challenges : r'.challenges = r.challenges
  nextChallengeId : r'.nextChallengeId = r.nextChallengeId
  results : r'.results = r.results

namespace Tends

variable {r₁ r₂ : StorageRegistry}

theorem refl (r : StorageRegistry) : Tends r r := ⟨rfl, rfl, rfl, rfl, rfl⟩

theorem trans (h : Tends r r₁) (h' : Tends r₁ r₂) : Tends r r₂ :=
  ⟨h'.deals.trans h.deals, h'.nextDealId.trans h.nextDealId, h'.challenges.trans h.challenges,
    h'.nextChallengeId.trans h.nextChallengeId, h'.results.trans h.results⟩

theorem foldl {α : Type} {f : StorageRegistry → α → StorageRegistry}
    (hf : ∀ r a, Tends r (f r a)) (l : List α) (r : StorageRegistry) : Tends r (l.foldl f r) :=
  l.foldlRecOn f (refl r) fun r' h a _ => h.trans (hf r' a)

theorem ages (h : Tends r r') : Ages r r' := .of_deals_eq h.nextDealId h.deals

variable (r)

theorem addTicket (ticket : UInt64 → StorageReallocationTicket) :
    Tends r (r.addTicket ticket) := ⟨rfl, rfl, rfl, rfl, rfl⟩

theorem openExpiryReallocation (dealId nowEpoch : UInt64) :
    Tends r (r.openExpiryReallocation dealId nowEpoch).2 := by
  unfold StorageRegistry.openExpiryReallocation
  split
  · exact refl r
  · split
    · exact refl r
    · exact addTicket r _

theorem openNeverPlacedTicket (domainId : UInt32) (slot : Slot)
    (nowEpoch : UInt64) : Tends r (r.openNeverPlacedTicket domainId slot nowEpoch).2 := by
  unfold StorageRegistry.openNeverPlacedTicket
  split
  · exact refl r
  · split
    · exact refl r
    · split
      · exact refl r
      · exact addTicket r _

theorem openRepairTicketsForFreeSlots (nowEpoch : UInt64) :
    Tends r (r.openRepairTicketsForFreeSlots nowEpoch) :=
  foldl (fun r _ => foldl (fun r dealId => openExpiryReallocation r dealId nowEpoch) _ r) _ r

theorem sweepSettledReallocations (nowEpoch : UInt64) :
    Tends r (r.sweepSettledReallocations nowEpoch) := by
  unfold StorageRegistry.sweepSettledReallocations
  split <;> exact ⟨rfl, rfl, rfl, rfl, rfl⟩

theorem registerManifest (m : ContentManifest) : Tends r (r.registerManifest m) := by
  unfold StorageRegistry.registerManifest
  split <;> exact ⟨rfl, rfl, rfl, rfl, rfl⟩

variable {r}

end Tends

/-! ### Steps -/

/-- What each event says about the registry before and after it. -/
inductive Step (L : Linked) (r : StorageRegistry) : StorageEvent → StorageRegistry → Prop
  | opened {q : DealRequest} {shardBytes next : UInt64} {r' : StorageRegistry}
      (hcheck : r.checkDeal L q = .ok shardBytes) (hnext : r.nextDealId.checkedAdd 1 = some next)
      (htends : Tends (r.recordDeal q next shardBytes) r') : Step L r (.opened q) r'
  | asked {q : ChallengeRequest} {deal : StorageDeal} {next : UInt64}
      (hadmitted : r.admitChallenge q = .ok deal)
      (hcaps : r.checkChallengeCaps q.dealId deal.operator = .ok ())
      (hnext : r.nextChallengeId.checkedAdd 1 = some next) :
      Step L r (.asked r.nextChallengeId) { r with
        nextChallengeId := next
        challenges := r.challenges.insert r.nextChallengeId (r.challengeOf q deal.shardId) }
  | answered {a : RetrievalResponse} {c : RetrievalChallenge} {deal : StorageDeal}
      (hcheck : r.checkAnswer a = .ok (c, deal)) : Step L r (.answered a.challengeId)
        ((r.recordProvenRead deal.manifestId a.responseEpoch).resolve
          ⟨a.challengeId, deal.dealId, .answered, a.responseEpoch, 0⟩)
  | mismatched {a : RetrievalResponse} {c : RetrievalChallenge} {deal : StorageDeal}
      (hcheck : r.checkAnswer a = .ok (c, deal)) :
      Step L r (.mismatched a.challengeId deal.dealId) ((r.slashDeal deal.dealId deal).resolve
        ⟨a.challengeId, deal.dealId, .mismatched, a.responseEpoch, deal.economics.operatorBond⟩)
  | missed {challengeId nowEpoch : UInt64} {c : RetrievalChallenge} {deal : StorageDeal}
      (hcheck : r.checkMissed challengeId nowEpoch = .ok (c, deal)) :
      Step L r (.missed challengeId c.dealId) (r.afterMissed challengeId nowEpoch c deal)
  | renewed {dealId endEpoch : UInt64} {deal : StorageDeal} (hget : r.deals.get dealId = some deal)
      (hactive : deal.isActive = true) : Step L r (.renewed dealId endEpoch)
        { r with deals := r.deals.insert dealId { deal with dealEndEpoch := endEpoch } }
  | expired {dealId : UInt64} {deal : StorageDeal} (hget : r.deals.get dealId = some deal)
      (hactive : deal.isActive = true) : Step L r (.expired dealId)
        { r with deals := r.deals.insert dealId { deal with status := .expired } }
  | pruned (manifestId : ContentId) : Step L r (.pruned manifestId) (r.pruneContent manifestId)
  | tended {r' : StorageRegistry} (htends : Tends r r') : Step L r .tended r'

end StorageRegistry

namespace StorageOp

variable {L : Linked} {verify : ChallengeVerifier} {r r' : StorageRegistry} {op : StorageOp}

/-- The call is the step it reports. -/
abbrev Reports (L : Linked) (verify : ChallengeVerifier) (op : StorageOp) (r : StorageRegistry) :
    Prop :=
  Step L r (op.event L verify r) (op.after L verify r)

theorem step_of_refused {e : Fault StorageError}
    (hcall : op.call L verify r = .error e) (hevent : op.event L verify r = .tended) :
    op.Reports L verify r := by
  rw [Reports, hevent, after, hcall]
  exact .tended (.refl r)

theorem after_of_call (hcall : op.call L verify r = .ok r') :
    op.after L verify r = r' := by rw [after, hcall]

theorem step_of_returned (event : StorageEvent) (r' : StorageRegistry)
    (hcall : op.call L verify r = .ok r') (hevent : op.event L verify r = event)
    (hstep : Step L r event r') : op.Reports L verify r := by
  rwa [Reports, hevent, after_of_call hcall]

/-- Calls that cannot panic return what they return. -/
theorem call_of_ok {α : Type} {x : Except StorageError (α × StorageRegistry)}
    {a : α} (h : x = .ok (a, r')) (hcall : op.call L verify r = x.orFail.map Prod.snd) :
    op.call L verify r = .ok r' := by rw [hcall, h]; rfl

theorem call_of_error {α : Type} {x : Except StorageError (α × StorageRegistry)}
    {e : StorageError} (h : x = .error e) (hcall : op.call L verify r = x.orFail.map Prod.snd) :
    op.call L verify r = .error (.fail e) := by rw [hcall, h]; rfl

theorem openDeal_step (q : DealRequest) : (openDeal q).Reports L verify r := by
  cases h : r.openDeal L q with
  | error e =>
    exact step_of_refused (e := e) (by simp [call, h, Except.map]) (by simp [event, h, Except.toBool])
  | ok x =>
    obtain ⟨shardBytes, next, hcheck, hnext, -, hafter⟩ := openDeal_eq_ok h
    refine step_of_returned (.opened q) x.2 (by simp [call, h, Except.map])
      (by simp [event, h, Except.toBool]) ?_
    exact .opened hcheck hnext (hafter ▸ .refl _)

theorem acceptReallocationTicket_step (ticketId : UInt64) (a : ReplacementRequest) :
    (acceptReallocationTicket ticketId a).Reports L verify r := by
  cases hticket : r.checkTicket ticketId a.operator with
  | error e =>
    have hrefused : r.acceptReallocationTicket L ticketId a = .error (.fail e) := by
      simp [StorageRegistry.acceptReallocationTicket, hticket, Except.orFail, bind, Except.bind]
    exact step_of_refused (by simp [call, hrefused, Except.map]; rfl) (by simp [event, hticket])
  | ok t =>
    obtain ⟨ticket, m⟩ := t
    cases hopen : r.openDeal L (a.dealRequest ticket m) with
    | error e =>
      have hrefused : r.acceptReallocationTicket L ticketId a = .error e := by
        simp [StorageRegistry.acceptReallocationTicket, hticket, hopen, Except.orFail, bind, Except.bind]
      exact step_of_refused (by simp [call, hrefused, Except.map]; rfl)
        (by simp [event, hticket, hopen, Except.toBool])
    | ok x =>
      obtain ⟨shardBytes, next, hcheck, hnext, -, hafter⟩ := openDeal_eq_ok hopen
      refine step_of_returned (.opened (a.dealRequest ticket m))
        (x.2.settleTicket ticket ticketId x.1 a.startEpoch) ?_
        (by simp [event, hticket, hopen, Except.toBool]) ?_
      · simp [call, StorageRegistry.acceptReallocationTicket, hticket, hopen, Except.orFail, bind,
          Except.bind, Except.map, pure, Except.pure]
      exact .opened hcheck hnext (hafter ▸ ⟨rfl, rfl, rfl, rfl, rfl⟩)

theorem openChallenge_step (q : ChallengeRequest) : (openChallenge q).Reports L verify r := by
  cases h : r.openChallenge q with
  | error e => exact step_of_refused (e := e) (by simp [call, h, Except.map]) (by simp [event, h])
  | ok x =>
    obtain ⟨deal, next, hadmitted, hcaps, hnext, hid, hafter⟩ := openChallenge_eq_ok h
    refine step_of_returned (.asked x.1) x.2 (by simp [call, h, Except.map]) (by simp [event, h]) ?_
    rw [hid, hafter]
    exact .asked hadmitted hcaps hnext

theorem answerChallenge_step (a : RetrievalResponse) : (answerChallenge a).Reports L verify r := by
  cases h : r.answerChallenge verify a with
  | error e =>
    exact step_of_refused (call_of_error h rfl) (by simp [event, h])
  | ok x =>
    have hcall : (answerChallenge a).call L verify r = .ok x.2 := call_of_ok h rfl
    obtain ⟨c, deal, hcheck, ⟨hresult, hafter⟩ | ⟨hresult, hafter⟩⟩ := answerChallenge_eq_ok h
    · refine step_of_returned (.answered a.challengeId) x.2 hcall (by simp [event, h, hresult]) ?_
      rw [hafter, hresult]
      exact .answered hcheck
    · refine step_of_returned (.mismatched a.challengeId deal.dealId) x.2 hcall
        (by simp [event, h, hresult]) ?_
      rw [hafter, hresult]
      exact .mismatched hcheck

theorem finalizeMissedChallenge_step (challengeId nowEpoch : UInt64) :
    (finalizeMissedChallenge challengeId nowEpoch).Reports L verify r := by
  cases h : r.finalizeMissedChallenge challengeId nowEpoch with
  | error e =>
    exact step_of_refused (call_of_error h rfl) (by simp [event, h])
  | ok x =>
    obtain ⟨c, deal, hcheck, hresult, hafter⟩ := finalizeMissedChallenge_eq_ok h
    refine step_of_returned (.missed challengeId c.dealId) x.2 (call_of_ok h rfl)
      (by simp [event, h, hresult]) ?_
    rw [hafter]
    exact .missed hcheck

theorem renewDeal_step (dealId : UInt64) (operator : Address) (nowEpoch extraEpochs : UInt64) :
    (renewDeal dealId operator nowEpoch extraEpochs).Reports L verify r := by
  cases h : r.renewDeal dealId operator nowEpoch extraEpochs with
  | error e =>
    exact step_of_refused (call_of_error h rfl) (by simp [event, h])
  | ok x =>
    obtain ⟨deal, hget, hactive, hafter⟩ := renewDeal_eq_ok h
    refine step_of_returned (.renewed dealId x.1) x.2 (call_of_ok h rfl) (by simp [event, h]) ?_
    rw [hafter]
    exact .renewed hget hactive

theorem expireDeal_step (dealId nowEpoch : UInt64) :
    (expireDeal dealId nowEpoch).Reports L verify r := by
  cases h : r.expireDeal dealId nowEpoch with
  | error e =>
    exact step_of_refused (call_of_error h rfl) (by simp [event, h, Except.toBool])
  | ok x =>
    have hcall : (expireDeal dealId nowEpoch).call L verify r = .ok x.2 := call_of_ok h rfl
    obtain ⟨deal, hget, ⟨hactive, -, hafter⟩ | ⟨hactive, -, hafter⟩⟩ := expireDeal_eq_ok h
    · refine step_of_returned .tended x.2 hcall (by simp [event, hget, hactive]) ?_
      rw [hafter]
      exact .tended (.refl r)
    · refine step_of_returned (.expired dealId) x.2 hcall
        (by simp [event, h, hget, hactive, Except.toBool]) ?_
      rw [hafter]
      exact .expired hget hactive

theorem declareSelfHostPolicy_step (policy : MobileSelfContentPolicy) (profile : MobileSelfProfile) :
    (declareSelfHostPolicy policy profile).Reports L verify r := by
  cases h : policy.validateAgainstProfile profile with
  | error e =>
    refine step_of_refused (e := .fail (.selfHostRefusedByPolicy policy.contentId e)) ?_ rfl
    simp [call, StorageRegistry.declareSelfHostPolicy, h, Except.mapError, Except.orFail, bind,
      Except.bind]
  | ok u =>
    refine step_of_returned .tended
      { r with selfHostPolicies := r.selfHostPolicies.insert policy.contentId policy } ?_ rfl
      (.tended ⟨rfl, rfl, rfl, rfl, rfl⟩)
    simp [call, StorageRegistry.declareSelfHostPolicy, h, Except.mapError, Except.orFail, bind,
      Except.bind, pure, Except.pure]

/-- Every call is the step it reports. -/
theorem after_step (op : StorageOp) (r : StorageRegistry) : op.Reports L verify r := by
  cases op with
  | openDeal q => exact openDeal_step q
  | acceptReallocationTicket ticketId a => exact acceptReallocationTicket_step ticketId a
  | openChallenge q => exact openChallenge_step q
  | answerChallenge a => exact answerChallenge_step a
  | finalizeMissedChallenge challengeId nowEpoch =>
    exact finalizeMissedChallenge_step challengeId nowEpoch
  | renewDeal dealId operator nowEpoch extraEpochs =>
    exact renewDeal_step dealId operator nowEpoch extraEpochs
  | expireDeal dealId nowEpoch => exact expireDeal_step dealId nowEpoch
  | declareSelfHostPolicy policy profile => exact declareSelfHostPolicy_step policy profile
  | pruneContent manifestId => exact .pruned manifestId
  | openExpiryReallocation dealId nowEpoch =>
    exact .tended (.openExpiryReallocation r dealId nowEpoch)
  | openNeverPlacedTicket domainId slot nowEpoch =>
    exact .tended (.openNeverPlacedTicket r domainId slot nowEpoch)
  | openRepairTicketsForFreeSlots nowEpoch =>
    exact .tended (.openRepairTicketsForFreeSlots r nowEpoch)
  | sweepSettledReallocations nowEpoch => exact .tended (.sweepSettledReallocations r nowEpoch)
  | registerManifest m => exact .tended (.registerManifest r m)
  | markOverdueReallocationsUnderReplicated nowEpoch | annotateExpectedHolders entropy candidates
  | setOperatorClass operator c | beginOperatorCooldown operator nowUnixSecs
  | pruneExpiredCooldowns nowUnixSecs => exact .tended ⟨rfl, rfl, rfl, rfl, rfl⟩

end StorageOp

namespace StorageRegistry

variable {L : Linked} {verify : ChallengeVerifier} {r r' : StorageRegistry} {event : StorageEvent}

/-! ### Numbers -/

/-- Deals and challenges are kept under their own numbers, and the next numbers are free. -/
structure Numbered (r : StorageRegistry) : Prop where
  deals : ∀ id d, r.deals.get id = some d → d.dealId = id ∧ id < r.nextDealId
  challenges : ∀ id c, r.challenges.get id = some c → c.challengeId = id ∧ id < r.nextChallengeId

theorem Numbered.nextDealId_free (h : r.Numbered) : r.deals.get r.nextDealId = none :=
  Option.eq_none_iff_forall_ne_some.2 fun d hget => lt_irrefl _ (h.deals _ d hget).2

theorem Numbered.nextChallengeId_free (h : r.Numbered) :
    r.challenges.get r.nextChallengeId = none :=
  Option.eq_none_iff_forall_ne_some.2 fun c hget => lt_irrefl _ (h.challenges _ c hget).2

theorem recordDeal_challenges (q : DealRequest) (next shardBytes : UInt64) :
    (r.recordDeal q next shardBytes).challenges = r.challenges ∧
      (r.recordDeal q next shardBytes).nextChallengeId = r.nextChallengeId ∧
      (r.recordDeal q next shardBytes).results = r.results := by
  have h := Tends.registerManifest r q.manifest
  exact ⟨h.challenges, h.nextChallengeId, h.results⟩

theorem afterMissed_deals (challengeId nowEpoch : UInt64) (c : RetrievalChallenge)
    (deal : StorageDeal) : (r.afterMissed challengeId nowEpoch c deal).deals =
      r.deals.insert c.dealId { deal with status := .slashed } := by
  unfold afterMissed
  split <;> rfl

theorem afterMissed_challenges (challengeId nowEpoch : UInt64) (c : RetrievalChallenge)
    (deal : StorageDeal) :
    (r.afterMissed challengeId nowEpoch c deal).nextDealId = r.nextDealId ∧
      (r.afterMissed challengeId nowEpoch c deal).challenges = r.challenges ∧
      (r.afterMissed challengeId nowEpoch c deal).nextChallengeId = r.nextChallengeId := by
  unfold afterMissed
  split <;> exact ⟨rfl, rfl, rfl⟩

/-- A step that opens no deal only lets the deals grow older. -/
theorem Step.ages (hnum : r.Numbered) (h : Step L r event r') (hevent : ∀ q, event ≠ .opened q) :
    Ages r r' := by
  cases h with
  | opened hcheck hnext htends => exact absurd rfl (hevent _)
  | asked hadmitted hcaps hnext | answered hcheck => exact .of_deals_eq rfl rfl
  | mismatched hcheck =>
    obtain ⟨-, hget, hactive, -⟩ := checkAnswer_eq_ok hcheck
    have hkey := (hnum.deals _ _ hget).1
    exact .insert rfl rfl (hkey ▸ hget) ⟨rfl, .inl hactive⟩
  | @missed challengeId nowEpoch c deal hcheck =>
    obtain ⟨-, hget, hactive⟩ := checkMissed_eq_ok hcheck
    exact .insert (afterMissed_challenges challengeId nowEpoch c deal).1
      (afterMissed_deals challengeId nowEpoch c deal) hget ⟨rfl, .inl hactive⟩
  | renewed hget hactive => exact .insert rfl rfl hget ⟨rfl, .inr rfl⟩
  | expired hget hactive => exact .insert rfl rfl hget ⟨rfl, .inl hactive⟩
  | pruned manifestId =>
    refine .map (f := fun _ d => if d.manifestId = manifestId ∧ d.isActive then
      { d with status := .expired } else d) rfl rfl fun id d => ?_
    split_ifs with hpruned
    · exact ⟨rfl, .inl hpruned.2⟩
    · exact .refl d
  | tended htends => exact htends.ages

theorem Ages.numbered_deals (h : Ages r r') (hnum : r.Numbered) :
    ∀ id d, r'.deals.get id = some d → d.dealId = id ∧ id < r'.nextDealId := by
  intro id d' hget
  obtain ⟨d, hd, hlater⟩ := h.get_before hget
  obtain ⟨hid, hlt⟩ := hnum.deals id d hd
  exact ⟨hlater.dealId.trans hid, h.nextDealId ▸ hlt⟩

/-- What a step adds to the deals. -/
theorem Step.opened_get {q : DealRequest} (h : Step L r (.opened q) r') :
    ∃ shardBytes, r.checkDeal L q = .ok shardBytes ∧
      r'.nextDealId.toNat = r.nextDealId.toNat + 1 ∧
      r'.deals = r.deals.insert r.nextDealId (q.deal r.nextDealId shardBytes) := by
  cases h with
  | opened hcheck hnext htends =>
    refine ⟨_, hcheck, ?_, htends.deals⟩
    rw [htends.nextDealId]
    exact UInt64.checkedAdd_eq_some.1 hnext

theorem lt_of_toNat_succ {a b : UInt64} (h : b.toNat = a.toNat + 1) : a < b := by
  rw [UInt64.lt_iff_toNat_lt]
  omega

/-- A step that asks nothing leaves the challenges alone. -/
theorem Step.challenges (h : Step L r event r') (hevent : ∀ id, event ≠ .asked id) :
    r'.challenges = r.challenges ∧ r'.nextChallengeId = r.nextChallengeId := by
  cases h with
  | opened hcheck hnext htends =>
    obtain ⟨hchallenges, hnextId, -⟩ := recordDeal_challenges (r := r) _ _ _
    exact ⟨htends.challenges.trans hchallenges, htends.nextChallengeId.trans hnextId⟩
  | asked hadmitted hcaps hnext => exact absurd rfl (hevent _)
  | missed hcheck => exact (afterMissed_challenges _ _ _ _).2
  | tended htends => exact ⟨htends.challenges, htends.nextChallengeId⟩
  | answered hcheck | mismatched hcheck | renewed hget hactive | expired hget hactive
  | pruned manifestId => exact ⟨rfl, rfl⟩

theorem Step.numbered_deals (hnum : r.Numbered) (h : Step L r event r') :
    ∀ id d, r'.deals.get id = some d → d.dealId = id ∧ id < r'.nextDealId := by
  by_cases hevent : ∃ q, event = .opened q
  · obtain ⟨q, rfl⟩ := hevent
    obtain ⟨shardBytes, -, hnext, hdeals⟩ := h.opened_get
    have hlt := lt_of_toNat_succ hnext
    intro id d hget
    rw [hdeals] at hget
    obtain ⟨rfl, rfl⟩ | ⟨-, hget⟩ := OrdMap.get_insert_eq_some.1 hget
    · exact ⟨rfl, hlt⟩
    · obtain ⟨hid, hold⟩ := hnum.deals id d hget
      exact ⟨hid, hold.trans hlt⟩
  · exact (h.ages hnum fun q hq => hevent ⟨q, hq⟩).numbered_deals hnum

theorem Step.numbered_challenges (hnum : r.Numbered) (h : Step L r event r') :
    ∀ id c, r'.challenges.get id = some c → c.challengeId = id ∧ id < r'.nextChallengeId := by
  by_cases hevent : ∃ id, event = .asked id
  · obtain ⟨challengeId, rfl⟩ := hevent
    cases h with
    | asked hadmitted hcaps hnext =>
      have hlt := lt_of_toNat_succ (UInt64.checkedAdd_eq_some.1 hnext)
      intro id c hget
      obtain ⟨rfl, rfl⟩ | ⟨-, hget⟩ := OrdMap.get_insert_eq_some.1 hget
      · exact ⟨rfl, hlt⟩
      · obtain ⟨hid, hold⟩ := hnum.challenges id c hget
        exact ⟨hid, hold.trans hlt⟩
  · obtain ⟨hchallenges, hnext⟩ := h.challenges fun id hid => hevent ⟨id, hid⟩
    rw [hchallenges, hnext]
    exact hnum.challenges

theorem Step.numbered (hnum : r.Numbered) (h : Step L r event r') : r'.Numbered :=
  ⟨h.numbered_deals hnum, h.numbered_challenges hnum⟩

theorem numbered_empty : ({} : StorageRegistry).Numbered :=
  ⟨fun _ _ h => by simp at h, fun _ _ h => by simp at h⟩

theorem numbered_after (op : StorageOp) (r : StorageRegistry) (hnum : r.Numbered) :
    (op.after L verify r).Numbered :=
  (op.after_step r).numbered hnum

/-! ### Slots -/

/-- Some active deal fills the slot. -/
def slotTaken (r : StorageRegistry) (slot : Slot) : Bool :=
  r.deals.values.any fun d => d.isActive && decide (d.slot = slot)

/-- No slot is filled by two active deals. -/
def OneOperatorPerSlot (r : StorageRegistry) : Prop :=
  ∀ i j d d', r.deals.get i = some d → r.deals.get j = some d' → d.isActive = true →
    d'.isActive = true → d.slot = d'.slot → i = j

theorem slotTaken_iff {slot : Slot} : r.slotTaken slot = true ↔
    ∃ id d, r.deals.get id = some d ∧ d.isActive = true ∧ d.slot = slot := by
  simp only [slotTaken, List.any_eq_true, Bool.and_eq_true, decide_eq_true_eq, mem_values]
  constructor
  · rintro ⟨d, ⟨id, hget⟩, hactive, hslot⟩
    exact ⟨id, d, hget, hactive, hslot⟩
  · rintro ⟨id, d, hget, hactive, hslot⟩
    exact ⟨d, ⟨id, hget⟩, hactive, hslot⟩

theorem Ages.oneOperatorPerSlot (h : Ages r r') (hone : r.OneOperatorPerSlot) :
    r'.OneOperatorPerSlot := by
  intro i j d₁ d₂ hi hj hactive₁ hactive₂ hslot
  obtain ⟨e₁, he₁, hlater₁⟩ := h.get_before hi
  obtain ⟨e₂, he₂, hlater₂⟩ := h.get_before hj
  exact hone i j e₁ e₂ he₁ he₂ (hlater₁.isActive hactive₁) (hlater₂.isActive hactive₂)
    (hlater₁.slot.symm.trans (hslot.trans hlater₂.slot))

/-- A new deal leaves every slot to one operator exactly when its own slot was free. -/
theorem oneOperatorPerSlot_insert {d : StorageDeal} {id : UInt64} (hone : r.OneOperatorPerSlot)
    (hfree : r.deals.get id = none) (hactive : d.isActive = true)
    (hdeals : r'.deals = r.deals.insert id d) :
    r'.OneOperatorPerSlot ↔ r.slotTaken d.slot = false := by
  rw [← Bool.not_eq_true, slotTaken_iff]
  constructor
  · rintro hone' ⟨j, e, hget, he, hslot⟩
    have hne : j ≠ id := fun heq => by rw [heq, hfree] at hget; cases hget
    refine hne (hone' j id e d ?_ ?_ he hactive hslot)
    · rw [hdeals, get_insert_of_ne _ hne, hget]
    · rw [hdeals, get_insert_self]
  · intro hnone i j d₁ d₂ hi hj hactive₁ hactive₂ hslot
    rw [hdeals, get_insert_eq_some] at hi hj
    obtain ⟨rfl, rfl⟩ | ⟨-, hi⟩ := hi <;> obtain ⟨rfl, rfl⟩ | ⟨-, hj⟩ := hj
    · rfl
    · exact absurd ⟨j, d₂, hj, hactive₂, hslot.symm⟩ hnone
    · exact absurd ⟨i, d₁, hi, hactive₁, hslot⟩ hnone
    · exact hone i j d₁ d₂ hi hj hactive₁ hactive₂ hslot

end StorageRegistry

namespace StorageOp

variable (L : Linked) (verify : ChallengeVerifier)

/-- A deal the call opens finds its slot free. -/
def FillsFreeSlot (op : StorageOp) (r : StorageRegistry) : Prop :=
  match op.event L verify r with
  | .opened q => r.slotTaken q.slot = false
  | _ => True

variable {L verify}

theorem oneOperatorPerSlot_after_iff (op : StorageOp) (r : StorageRegistry) (hnum : r.Numbered)
    (hone : r.OneOperatorPerSlot) :
    (op.after L verify r).OneOperatorPerSlot ↔ op.FillsFreeSlot L verify r := by
  have hstep : Step L r (op.event L verify r) (op.after L verify r) := op.after_step r
  unfold FillsFreeSlot
  split
  · rename_i q hevent
    rw [hevent] at hstep
    obtain ⟨shardBytes, -, -, hdeals⟩ := hstep.opened_get
    exact oneOperatorPerSlot_insert hone hnum.nextDealId_free rfl hdeals
  · rename_i hother
    exact ⟨fun _ => trivial, fun _ => (hstep.ages hnum hother).oneOperatorPerSlot hone⟩

/-- **A run of calls leaves at most one active deal in every slot, in every state, exactly when each
deal it opens finds its slot free.** -/
theorem slots_unique_iff (L : Linked) (verify : ChallengeVerifier) (ops : List StorageOp) :
    (∀ r ∈ Trace.states (after L verify) ops {}, r.OneOperatorPerSlot) ↔
      Trace.Guarded (after L verify) (FillsFreeSlot L verify) ops {} :=
  Trace.forall_states_iff numbered_after oneOperatorPerSlot_after_iff ops numbered_empty
    fun _ _ _ _ h => by simp at h

end StorageOp

/-! ### Two operators in one slot -/

/-- Stand-ins under which every proof envelope decodes. -/
def Linked.storing : Linked :=
  { Linked.sample with
    decode := { Linked.sample.decode with
      envelope := fun b => .ok ⟨1, "", "", "", 0, b, 0⟩ } }

/-- An object of one byte in one shard. -/
def ContentManifest.sample : ContentManifest where
  manifestId := 1
  totalSize := 1
  shardCount := 1
  shards := [⟨0, 7, 1, .data⟩]

/-- A deal over a replica of the only shard, with a bond of five. -/
def DealRequest.sample (operator : Address) (replicaIndex : UInt8) : DealRequest :=
  ⟨0, .sample, 7, operator, replicaIndex, 0, 1000, ⟨5, 0⟩, { minOperatorBond := 1 },
    some (List.replicate 64 0), some 1⟩

/-- A challenge of one byte, with a bond of one. -/
def ChallengeRequest.sample (dealId challengeEpoch : UInt64) : ChallengeRequest :=
  ⟨dealId, 0, 1, challengeEpoch, challengeEpoch + 1, 9, 1⟩

/-- Accepts every proof. -/
def StorageRegistry.ChallengeVerifier.sample : ChallengeVerifier := fun _ _ _ _ _ => .ok ()

/-- Two operators open a deal over the first replica of the same shard, and both succeed. -/
theorem StorageOp.slot_filled_twice :
    ¬ (Trace.final (after .storing .sample) [openDeal (.sample 1 0), openDeal (.sample 2 0)]
      {}).OneOperatorPerSlot := by
  intro hone
  have hids := hone 0 1 ((DealRequest.sample 1 0).deal 0 1) ((DealRequest.sample 2 0).deal 1 1)
    (by decide +kernel) (by decide +kernel) (by decide +kernel) (by decide +kernel)
    (by decide +kernel)
  exact absurd hids (by decide)

end Budlum
