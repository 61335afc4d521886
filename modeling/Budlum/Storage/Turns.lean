import Budlum.Core.Ledger
import Budlum.Storage.Node
import Budlum.Storage.SlashedSlots

/-!
# What an action does

Every action of the node is one of a few turns: a deal is opened for a fee, a challenge is asked, with
or without a bond, a challenge is answered, a deal is slashed, expires or is pruned, a reward is paid.
Whatever else happens leaves deals, challenges and the books of storage as they are.

* `StorageAction.ends` : the deal or challenge an action ends, as the registry tells it beforehand.
* `StorageNode.Turn`, `StorageAction.act_turn` : what every action does to the registry and the books.
-/

namespace Budlum

open StorageOp
open AccountState (burnFrom_frame burnFrom_fst getBalance getBalance_touch setBalance tryAddBalance
  updateBalance_ensures updateBalance_fails)
open EStateM.Leaves (ensure_bind get_bind orThrow_bind set_bind)
open EStateM

open StorageRegistry

/-- The end of a deal or of a challenge that an action brings about. -/
def StorageAction.ends (L : Linked) (verify : ChallengeVerifier) (action : StorageAction)
    (n : StorageNode) : StorageEvent :=
  match action with
  | answerChallenge a _ => (StorageOp.answerChallenge a).event L verify n.registry
  | finalizeMissed currentEpoch _ challengeId =>
    (StorageOp.finalizeMissedChallenge challengeId currentEpoch).event L verify n.registry
  | finalizeExpired currentEpoch dealId =>
    (StorageOp.expireDeal dealId currentEpoch).event L verify n.registry
  | prune manifestId => .pruned manifestId
  | _ => .tended

def DealRequest.fee (q : DealRequest) (shard : ShardRef) : UInt64 :=
  q.economics.totalFee shard.size.toUInt64 (q.endEpoch.saturatingSub q.startEpoch)

/-- The fee of a deal is written down. -/
def StorageLog.escrow (log : StorageLog) (dealId fee : UInt64) : StorageLog :=
  { log with escrowedFees := log.escrowedFees.insert dealId fee }

/-- What a deal earns from one epoch to another. -/
def StorageDeal.earned (d : StorageDeal) (since till : UInt64) : UInt64 :=
  (d.totalFee (till.saturatingSub d.dealStartEpoch)).saturatingSub
    (d.totalFee (since.saturatingSub d.dealStartEpoch))

namespace StorageNode

/-- The records beside the registry are the same. -/
structure SameBooks (n n' : StorageNode) : Prop where
  rewards : n'.storageLastRewardEpoch = n.storageLastRewardEpoch
  events : n'.storageEconomicsEvents = n.storageEconomicsEvents
  log : n'.log = n.log

/-- At most accounts changed. -/
structure Paid (n n' : StorageNode) : Prop extends SameBooks n n' where
  registry : n'.registry = n.registry

/-- A deal was opened, and its fee written down. -/
structure Opened (L : Linked) (n n' : StorageNode) : Prop where
  opened : ∃ q shard, Step L n.registry (.opened q) n'.registry ∧
    q.manifest.shard q.shardId = some shard ∧
    n'.log = n.log.escrow n.registry.nextDealId (q.fee shard)
  rewards : n'.storageLastRewardEpoch = n.storageLastRewardEpoch
  events : n'.storageEconomicsEvents = n.storageEconomicsEvents

/-- The credit of a bond when a deal expires, if there is one and it fits. -/
def bondReturn (n : StorageNode) (epoch : UInt64) (d : StorageDeal) : List StorageEconomicsEvent :=
  let bond := d.economics.operatorBond
  if bond ≠ 0 ∧ ((n.balance d.operator).checkedAdd bond).isSome then
    [⟨epoch, d.dealId, d.operator, bond, bond, .operatorBondReturned⟩]
  else []

/-- The burn of a bond when a deal is slashed, as far as the balance goes. -/
def bondBurn (n : StorageNode) (epoch : UInt64) (d : StorageDeal) : StorageEconomicsEvent :=
  let bond := d.economics.operatorBond
  ⟨epoch, d.dealId, d.operator, bond, min bond (n.balance d.operator), .operatorBondSlashed⟩

/-- The epoch up to which a deal was rewarded. -/
def rewardedUntil (n : StorageNode) (d : StorageDeal) : UInt64 :=
  n.storageLastRewardEpoch.getD d.dealId d.dealStartEpoch

/-- What an action does to the registry and the books. -/
inductive Turn (L : Linked) (verify : ChallengeVerifier) (n : StorageNode) (action : StorageAction) :
    StorageNode → Prop
  | quiet {n' : StorageNode} (hends : action.ends L verify n = .tended)
      (hreg : Tends n.registry n'.registry) (hbooks : SameBooks n n') : Turn L verify n action n'
  | opened {n' : StorageNode} (hends : action.ends L verify n = .tended) (h : Opened L n n') :
      Turn L verify n action n'
  /-- The node asks; no bond is taken. -/
  | asked {n' : StorageNode} {challengeId : UInt64} (hends : action.ends L verify n = .tended)
      (hreg : Step L n.registry (.asked challengeId) n'.registry) (hbooks : SameBooks n n') :
      Turn L verify n action n'
  /-- Somebody asks for a bond. -/
  | bonded {n' : StorageNode} {challengeId : UInt64} {c : RetrievalChallenge}
      (hends : action.ends L verify n = .tended)
      (hreg : Step L n.registry (.asked challengeId) n'.registry)
      (hget : n'.registry.challenges.get challengeId = some c)
      (hrewards : n'.storageLastRewardEpoch = n.storageLastRewardEpoch)
      (hevents : n'.storageEconomicsEvents = n.storageEconomicsEvents)
      (hlog : n'.log = { n.log with
        bondsTaken := (c.opener, c.openerBond) :: n.log.bondsTaken
        bonded := challengeId :: n.log.bonded }) : Turn L verify n action n'
  /-- Somebody asks, is refused and gets the bond back. -/
  | refunded {n' : StorageNode} {opener : Address} {bond : UInt64}
      (hends : action.ends L verify n = .tended) (hreg : n'.registry = n.registry)
      (hrewards : n'.storageLastRewardEpoch = n.storageLastRewardEpoch)
      (hevents : n'.storageEconomicsEvents = n.storageEconomicsEvents)
      (hlog : n'.log = { n.log with
        bondsTaken := (opener, bond) :: n.log.bondsTaken
        bondsRefunded := (opener, bond) :: n.log.bondsRefunded }) : Turn L verify n action n'
  | answered {n' : StorageNode} {challengeId : UInt64}
      (hends : action.ends L verify n = .answered challengeId)
      (hreg : Step L n.registry (.answered challengeId) n'.registry) (hbooks : SameBooks n n') :
      Turn L verify n action n'
  | slashed {n' : StorageNode} {r : StorageRegistry} {dealId : UInt64} {d : StorageDeal}
      (epoch : UInt64) (hends : (action.ends L verify n).slashes = some dealId)
      (hstep : Step L n.registry (action.ends L verify n) r) (hreg : Tends r n'.registry)
      (hget : n.registry.deals.get dealId = some d)
      (hrewards : n'.storageLastRewardEpoch = n.storageLastRewardEpoch)
      (hevents : n'.storageEconomicsEvents = n.storageEconomicsEvents ++ [n.bondBurn epoch d])
      (hlog : n'.log = n.log) : Turn L verify n action n'
  | expired {n' : StorageNode} {r : StorageRegistry} {dealId : UInt64} {d : StorageDeal}
      (epoch : UInt64) (hends : action.ends L verify n = .expired dealId)
      (hstep : Step L n.registry (.expired dealId) r) (hreg : Tends r n'.registry)
      (hget : n.registry.deals.get dealId = some d)
      (hrewards : n'.storageLastRewardEpoch = n.storageLastRewardEpoch)
      (hevents : n'.storageEconomicsEvents = n.storageEconomicsEvents ++ n.bondReturn epoch d)
      (hlog : n'.log = n.log) : Turn L verify n action n'
  | pruned {n' : StorageNode} {manifestId : ContentId}
      (hends : action.ends L verify n = .pruned manifestId)
      (hreg : n'.registry = n.registry.pruneContent manifestId) (hbooks : SameBooks n n') :
      Turn L verify n action n'
  /-- The first epoch of a deal is noted without a reward. -/
  | noted {n' : StorageNode} {dealId : UInt64} {d : StorageDeal}
      (hends : action.ends L verify n = .tended) (hget : n.registry.deals.get dealId = some d)
      (hreg : n'.registry = n.registry)
      (hrewards : n'.storageLastRewardEpoch =
        n.storageLastRewardEpoch.insert d.dealId (n.rewardedUntil d))
      (hevents : n'.storageEconomicsEvents = n.storageEconomicsEvents) (hlog : n'.log = n.log) :
      Turn L verify n action n'
  | rewarded {n' : StorageNode} {dealId epoch till amount : UInt64} {d : StorageDeal}
      (hends : action.ends L verify n = .tended) (hget : n.registry.deals.get dealId = some d)
      (hreg : n'.registry = n.registry) (hlater : n.rewardedUntil d < till)
      (hterm : till ≤ d.dealEndEpoch) (hamount : amount = d.earned (n.rewardedUntil d) till)
      (hrewards : n'.storageLastRewardEpoch = n.storageLastRewardEpoch.insert d.dealId till)
      (hevents : n'.storageEconomicsEvents = n.storageEconomicsEvents ++
        [⟨epoch, d.dealId, d.operator, amount, amount, .operatorRewardAccrued⟩])
      (hlog : n'.log = n.log) : Turn L verify n action n'

/-! ### Accounts -/

variable {L : Linked} {verify : ChallengeVerifier} {action : StorageAction} {n n' n'' : StorageNode}

theorem SameBooks.refl (n : StorageNode) : SameBooks n n := ⟨rfl, rfl, rfl⟩

theorem Paid.refl (n : StorageNode) : Paid n n := ⟨.refl n, rfl⟩

/-- Money moved at most. -/
theorem Turn.paid (hends : action.ends L verify n = .tended) (h : Paid n n') :
    Turn L verify n action n' :=
  .quiet hends (h.registry ▸ .refl _) h.toSameBooks

theorem Turn.still (hends : action.ends L verify n = .tended) : Turn L verify n action n :=
  .paid hends (.refl n)

theorem Paid.trans (h : Paid n n') (h' : Paid n' n'') : Paid n n'' :=
  ⟨⟨h'.rewards.trans h.rewards, h'.events.trans h.events, h'.log.trans h.log⟩,
    h'.registry.trans h.registry⟩

variable (n)

/-- Anything else about the accounts may change. -/
theorem Paid.setState {s : AccountState}
    (h : s.storageRegistry = n.state.storageRegistry) : Paid n (n.setState s) :=
  ⟨⟨rfl, rfl, rfl⟩, h⟩

theorem Paid.take (a : Address) (amount : UInt64) : Paid n (n.take a amount) :=
  .setState n rfl

/-- A balance can be raised unless it overflows. -/
theorem give_ends (a : Address) (amount : UInt64)
    (refusal : String → StorageRefusal) : (give a amount refusal).Ends n
      (fun _ n' => Paid n n' ∧ ((n.balance a).checkedAdd amount).isSome = true ∧
        AccountState.Raises (AccountState.credit a amount.toNat) amount.toNat n.state n'.state)
      fun _ n' => Paid n n' ∧ (n.balance a).checkedAdd amount = none := by
  refine .zoom ⟨updateBalance_ensures.2 fun balance hfits => ?_, fun e s hrun => ?_⟩
  · rw [Except.ofOption_eq_ok] at hfits
    exact ⟨.setState n rfl, Option.isSome_of_eq_some hfits,
      .setBalance (UInt64.checkedAdd_eq_some.1 hfits)⟩
  · obtain ⟨hover, rfl⟩ := updateBalance_fails e s hrun
    exact ⟨.setState n rfl, (Except.ofOption_eq_error.1 hover).1⟩

theorem giveBack_paid (a : Address) (amount : UInt64) : (giveBack a amount).Leaves n (Paid n) :=
  Leaves.ite (fun _ => (give_ends n a amount _).mono (fun _ _ h => h.1) fun _ _ h => h.1) fun _ =>
    .pure (.refl n)

theorem checkCooldown_paid (operator : Address) (nowUnix : UInt64) :
    (checkCooldown operator nowUnix).Leaves n (Paid n) := by
  refine get_bind ?_
  split
  · exact .throw (.refl n)
  · exact .pure (.refl n)

theorem takeFee_paid (payer : Address) (fee : UInt64) : (takeFee payer fee).Leaves n (Paid n) :=
  Leaves.ite (fun _ => get_bind <| ensure_bind (.refl n) fun _ => .modify (.take n payer fee))
    fun _ => .pure (.refl n)

theorem takeBond_paid (operator : Address) (bond : UInt64) :
    (takeBond operator bond).Leaves n (Paid n) :=
  Leaves.ite (fun _ => get_bind <| ensure_bind (.refl n) fun _ => .modify (.take n operator bond))
    fun _ => .pure (.refl n)

theorem takeBondOrRefund_paid (payer operator : Address) (fee bond : UInt64) :
    (takeBondOrRefund payer operator fee bond).Leaves n (Paid n) := by
  refine Leaves.ite (fun _ => get_bind ?_) fun _ => .pure (.refl n)
  refine Leaves.ite (fun _ => ?_) fun _ => .modify (.take n operator bond)
  exact (giveBack_paid n payer fee).trans fun _ _ h => .throw h

variable {n} {bond dealId : UInt64} {r : StorageRegistry} {d : StorageDeal}

/-! ### Opening deals -/

/-- A call that was refused, or opened a deal. -/
def MayOpen (L : Linked) (n n' : StorageNode) : Prop := Paid n n' ∨ Opened L n n'

theorem Opened.of_paid (h : Paid n n') (h' : Opened L n' n'') : Opened L n n'' := by
  obtain ⟨q, shard, hstep, hshard, hlog⟩ := h'.opened
  refine ⟨⟨q, shard, h.registry ▸ hstep, hshard, ?_⟩, h'.rewards.trans h.rewards,
    h'.events.trans h.events⟩
  rw [hlog, h.registry, h.log]

/-- First money moves, then the rest of the call runs. -/
theorem mayOpen_bind {α β : Type} {m : StorageM α} {f : α → StorageM β}
    (hm : m.Leaves n (Paid n)) (hf : ∀ a n', Paid n n' → (f a).Leaves n' (MayOpen L n')) :
    (m >>= f).Leaves n (MayOpen L n) := by
  refine Leaves.bind hm.1 (fun e n' hrun => .inl (hm.2 e n' hrun)) fun a n' h => ?_
  refine (hf a n' h).mono fun n'' h' => ?_
  rcases h' with hpaid | hopened
  · exact .inl (h.trans hpaid)
  · exact .inr (hopened.of_paid h)

theorem openEscrowed_mayOpen {opening : StorageRegistry →
      Except (Fault StorageError) (UInt64 × StorageRegistry)}
    {refusal : StorageError → StorageRefusal} {payer operator : Address} {fee : UInt64}
    {q : DealRequest} {shard : ShardRef} (hshard : q.manifest.shard q.shardId = some shard)
    (hfee : fee = q.fee shard)
    (hopening : ∀ dealId r, opening n.registry = .ok (dealId, r) →
      dealId = n.registry.nextDealId ∧ Step L n.registry (.opened q) r) :
    (openEscrowed opening refusal payer operator fee bond).Leaves n (MayOpen L n) := by
  refine get_bind ?_
  split
  · rename_i dealId r hopen
    obtain ⟨rfl, hstep⟩ := hopening dealId r hopen
    subst hfee
    exact set_bind (.pure (.inr ⟨⟨q, shard, hstep, hshard, rfl⟩, rfl, rfl⟩))
  · refine mayOpen_bind (giveBack_paid n payer fee) fun _ n' _ => ?_
    exact mayOpen_bind (giveBack_paid n' operator bond) fun _ n'' _ => .throw (.inl (.refl n''))
  · exact .throw (.inl (.refl n))

theorem openStorageDealWithEscrow_mayOpen (q : DealRequest) (payer : Address) (nowUnix : UInt64) :
    (openStorageDealWithEscrow L q payer nowUnix).Leaves n (MayOpen L n) := by
  refine mayOpen_bind (checkCooldown_paid n q.operator nowUnix) fun _ n₁ _ => ?_
  refine ensure_bind (.inl (.refl n₁)) fun _ => ?_
  refine orThrow_bind (.inl (.refl n₁)) fun shard hshard => ?_
  refine get_bind ?_
  refine ensure_bind (.inl (.refl n₁)) fun _ => ?_
  refine mayOpen_bind (takeFee_paid n₁ payer _) fun _ n₂ _ => ?_
  refine mayOpen_bind (takeBondOrRefund_paid n₂ payer q.operator _ _) fun _ n₃ _ => ?_
  refine openEscrowed_mayOpen hshard rfl fun dealId r hopen => ?_
  obtain ⟨shardBytes, next, hcheck, hnext, rfl, rfl⟩ := openDeal_eq_ok hopen
  exact ⟨rfl, .opened hcheck hnext (.refl _)⟩

theorem acceptStorageReallocationWithEscrow_mayOpen (ticketId : UInt64)
    (a : StorageRegistry.ReplacementRequest) (payer : Address) (nowUnix : UInt64) :
    (acceptStorageReallocationWithEscrow L ticketId a payer nowUnix).Leaves n (MayOpen L n) := by
  refine get_bind ?_
  refine orThrow_bind (.inl (.refl n)) fun ticket hticket => ?_
  refine ensure_bind (.inl (.refl n)) fun _ => ?_
  refine ensure_bind (.inl (.refl n)) fun _ => ?_
  refine mayOpen_bind (checkCooldown_paid n a.operator nowUnix) fun _ n₁ h₁ => ?_
  refine orThrow_bind (.inl (.refl n₁)) fun m hm => ?_
  refine ensure_bind (.inl (.refl n₁)) fun _ => ?_
  refine orThrow_bind (.inl (.refl n₁)) fun shard hshard => ?_
  refine mayOpen_bind (takeFee_paid n₁ payer _) fun _ n₂ h₂ => ?_
  refine mayOpen_bind (takeBond_paid n₂ a.operator _) fun _ n₃ h₃ => ?_
  have hsame : n₃.registry = n.registry := ((h₁.trans h₂).trans h₃).registry
  refine openEscrowed_mayOpen (q := a.dealRequest ticket m) hshard rfl fun dealId r hopen => ?_
  obtain ⟨ticket', m', opened, hcheck, hopened, rfl⟩ := acceptReallocationTicket_eq_ok hopen
  rw [hsame] at hcheck
  -- The ticket and the manifest the node looked up are those the registry finds.
  simp only [checkTicket, Except.ok_iff] at hcheck
  obtain ⟨_, hticket', _, -, _, -, _, hm', rfl, rfl⟩ := hcheck
  obtain rfl := Option.mem_unique hticket hticket'
  obtain rfl := Option.mem_unique hm hm'
  obtain ⟨shardBytes, next, hcheck, hnext, rfl, rfl⟩ := openDeal_eq_ok hopened
  exact ⟨rfl, .opened hcheck hnext ⟨rfl, rfl, rfl, rfl, rfl⟩⟩

theorem MayOpen.turn (hends : action.ends L verify n = .tended) (h : MayOpen L n n') :
    Turn L verify n action n' :=
  h.elim (.paid hends) (.opened hends)

/-! ### Bonds of openers -/

/-- The bond was taken and nothing else happened. -/
structure Debited (opener : Address) (bond : UInt64) (n n' : StorageNode) : Prop where
  registry : n'.registry = n.registry
  rewards : n'.storageLastRewardEpoch = n.storageLastRewardEpoch
  events : n'.storageEconomicsEvents = n.storageEconomicsEvents
  log : n'.log = { n.log with bondsTaken := (opener, bond) :: n.log.bondsTaken }
  bond_ne : bond ≠ 0
  balance : (n'.balance opener).toNat + bond.toNat = (n.balance opener).toNat

theorem debitOpenerBond_ends (opener : Address) (bond : UInt64) :
    (debitOpenerBond opener bond).Ends n (fun _ n' => Debited opener bond n n')
      fun _ n' => Paid n n' := by
  refine .ensure_bind (fun _ => .refl n) fun hbond => .modify_bind <| .get_bind <|
    .ensure_bind (fun _ => .setState n rfl) fun hle => ⟨ensures_set.2 ?_, fails_set⟩
  have hbalance : (n.setState (n.state.touch opener)).balance opener = n.balance opener :=
    getBalance_touch
  rw [hbalance] at hle
  refine ⟨rfl, rfl, rfl, rfl, of_decide_eq_true hbond, ?_⟩
  have htaken : (((n.setState (n.state.touch opener)).take opener bond).balance opener) =
      (n.balance opener).saturatingSub bond := by
    simp [take, balance, setState, getBalance, setBalance]
  have hle' := UInt64.le_iff_toNat_le.1 (of_decide_eq_true hle)
  change (((n.setState (n.state.touch opener)).take opener bond).balance opener).toNat + _ = _
  rw [htaken, UInt64.toNat_saturatingSub]
  omega

/-- A bond that was just taken fits back in. -/
theorem refundOpenerBond_turn {opener : Address}
    (hends : action.ends L verify n = .tended) (h : Debited opener bond n n') :
    (refundOpenerBond opener bond).Leaves n' (Turn L verify n action) := by
  have hfits : (n'.balance opener).checkedAdd bond = some (n.balance opener) :=
    UInt64.checkedAdd_eq_some.2 h.balance.symm
  rw [refundOpenerBond, if_neg h.bond_ne]
  refine Ends.bind ((give_ends n' opener bond _).mono (fun _ _ h => h.1) fun _ _ h => ?_)
    fun _ n'' hpaid => .modify ?_
  · exact nomatch hfits.symm.trans h.2
  · refine @Turn.refunded _ _ _ _ _ opener bond hends (hpaid.registry.trans h.registry)
      (hpaid.rewards.trans h.rewards) (hpaid.events.trans h.events) ?_
    rw [hpaid.log, h.log]

/-- A challenge about a drawn range is a challenge. -/
theorem asked_of_entropy {r' : StorageRegistry} {q : ChallengeRequest} {entropy : Hash32}
    {challengeId : UInt64} (h : r.openChallengeWithEntropy L q entropy = .ok (challengeId, r')) :
    Step L r (.asked challengeId) r' ∧ ∃ c, r'.challenges.get challengeId = some c ∧
      c.opener = q.opener ∧ c.openerBond = q.openerBond := by
  simp only [openChallengeWithEntropy, Except.bind_eq_ok, Prod.exists] at h
  obtain ⟨_, -, _, -, _, -, byteStart, byteEnd, -, hopen⟩ := h
  obtain ⟨deal, next, hadmitted, hcaps, hnext, rfl, rfl⟩ := openChallenge_eq_ok hopen
  exact ⟨.asked hadmitted hcaps hnext, _, OrdMap.get_insert_self _ _ _, rfl, rfl⟩

theorem openStorageChallenge_turn (hends : action.ends L verify n = .tended) (q : ChallengeRequest)
    (entropy : Hash32) : Turn L verify n action ((openStorageChallenge L q entropy).settled n) := by
  have hturn : (openStorageChallenge L q entropy).Ends n (fun _ n' => Turn L verify n action n')
      fun e n' => e ≠ .panic → Turn L verify n action n' := by
    refine .bind ((debitOpenerBond_ends q.opener q.openerBond).mono (fun _ _ h => h)
      fun _ _ h _ => .paid hends h) fun _ n₁ h => .get_bind ?_
    split
    · rename_i challengeId r hopen
      obtain ⟨hstep, c, hget, hopener, hbond⟩ := asked_of_entropy hopen
      refine .set_bind (.pure (.bonded hends (h.registry ▸ hstep) hget h.rewards h.events ?_))
      rw [hopener, hbond]
      rw [h.log]
    · exact .bind (Ends.mono (refundOpenerBond_turn hends h).caught (fun _ _ h => h) fun _ _ h _ => h)
        fun _ _ hback => .throw fun _ => hback
    · exact .throw fun hpanic => absurd rfl hpanic
  exact settled_of hturn.1 hturn.2 (.still hends)

/-! ### Slashes -/

/-- A slash that the registry recorded, with the burn that follows it. -/
theorem slash_turn (hends : (action.ends L verify n).slashes = some dealId)
    (hstep : Step L n.registry (action.ends L verify n) r)
    (hget : n.registry.deals.get dealId = some d) (hid : d.dealId = dealId)
    (epoch nowUnix : UInt64) : Turn L verify n action ((n.setRegistry r).applyStorageBondSlash epoch
      dealId d.operator d.economics.operatorBond nowUnix) := by
  refine .slashed epoch hends hstep ?_ hget rfl ?_ rfl
  · have hreg : ((n.setRegistry r).applyStorageBondSlash epoch dealId d.operator
        d.economics.operatorBond nowUnix).registry = r.beginOperatorCooldown d.operator nowUnix :=
      (burnFrom_frame _ _ _).2.2
    rw [hreg]
    exact ⟨rfl, rfl, rfl, rfl, rfl⟩
  · simp only [applyStorageBondSlash, burnFrom_fst, bondBurn, hid]
    rfl

theorem answerStorageChallenge_settled (a : RetrievalResponse) (nowUnix : UInt64) :
    (answerStorageChallenge verify a nowUnix).settled n =
      match n.registry.answerChallenge verify a with
      | .ok (result, r) =>
        if result.outcome = .mismatched then
          (n.setRegistry r).applyStorageBondSlash a.responseEpoch result.dealId a.responder
            result.slashedBond nowUnix
        else n.setRegistry r
      | .error _ => n := by
  cases h : n.registry.answerChallenge verify a with
  | error e =>
    simp [answerStorageChallenge, settled, EStateM.ofExcept, h, Except.mapError]
    rfl
  | ok x =>
    by_cases hm : x.1.outcome = .mismatched <;>
      simp [answerStorageChallenge, settled, EStateM.ofExcept, h, Except.mapError, hm]

theorem answerChallenge_turn (hnum : n.registry.Numbered) (a : RetrievalResponse)
    (nowUnix : UInt64) : Turn L verify n (.answerChallenge a nowUnix)
      ((answerStorageChallenge verify a nowUnix).settled n) := by
  rw [answerStorageChallenge_settled]
  have hstep : Step L n.registry (StorageAction.ends L verify (.answerChallenge a nowUnix) n)
      ((StorageOp.answerChallenge a).after L verify n.registry) :=
    answerChallenge_step a
  cases h : n.registry.answerChallenge verify a with
  | error e =>
    refine .still ?_
    simp [StorageAction.ends, event, h]
  | ok x =>
    have hafter : (StorageOp.answerChallenge a).after L verify n.registry = x.2 :=
      after_of_call (call_of_ok h rfl)
    obtain ⟨c, deal, hcheck, ⟨hresult, -⟩ | ⟨hresult, -⟩⟩ := answerChallenge_eq_ok h
    · have hends : StorageAction.ends L verify (.answerChallenge a nowUnix) n =
          .answered a.challengeId := by simp [StorageAction.ends, event, h, hresult]
      rw [hends, hafter] at hstep
      simp only [hresult, reduceCtorEq, if_false]
      exact .answered hends hstep ⟨rfl, rfl, rfl⟩
    · have hends : StorageAction.ends L verify (.answerChallenge a nowUnix) n =
          .mismatched a.challengeId deal.dealId := by
        simp [StorageAction.ends, event, h, hresult]
      obtain ⟨-, hget, -, hresponder⟩ := checkAnswer_eq_ok hcheck
      rw [hafter] at hstep
      simp only [hresult, if_true, hresponder]
      exact slash_turn (by rw [hends]; rfl) hstep ((hnum.deals _ _ hget).1 ▸ hget) rfl _ _

theorem finalizeMissed_turn (hnum : n.registry.Numbered) (currentEpoch nowUnix challengeId : UInt64) :
    Turn L verify n (.finalizeMissed currentEpoch nowUnix challengeId)
      (StorageAction.act L verify (.finalizeMissed currentEpoch nowUnix challengeId) n) := by
  have hstep : Step L n.registry
      (StorageAction.ends L verify (.finalizeMissed currentEpoch nowUnix challengeId) n)
      ((finalizeMissedChallenge challengeId currentEpoch).after L verify n.registry) :=
    finalizeMissedChallenge_step challengeId currentEpoch
  have hrefused : ∀ e, n.registry.finalizeMissedChallenge challengeId currentEpoch = .error e →
      Turn L verify n (.finalizeMissed currentEpoch nowUnix challengeId) n := by
    intro e h
    refine .still ?_
    simp [StorageAction.ends, event, h]
  simp only [StorageAction.act]
  cases hc : n.registry.challenges.get challengeId with
  | none =>
    cases h : n.registry.finalizeMissedChallenge challengeId currentEpoch with
    | error e => exact hrefused e h
    | ok x =>
      obtain ⟨c, deal, hcheck, -⟩ := finalizeMissedChallenge_eq_ok h
      simp [(checkMissed_eq_ok hcheck).1] at hc
  | some c =>
    have hid := (hnum.challenges _ _ hc).1
    simp only [finalizeMissed, hid]
    cases h : n.registry.finalizeMissedChallenge challengeId currentEpoch with
    | error e => exact hrefused e h
    | ok x =>
      obtain ⟨c', deal, hcheck, hresult, -⟩ := finalizeMissedChallenge_eq_ok h
      obtain ⟨hc', hget, -⟩ := checkMissed_eq_ok hcheck
      obtain rfl := Option.mem_unique hc hc'
      have hends : StorageAction.ends L verify
          (.finalizeMissed currentEpoch nowUnix challengeId) n = .missed challengeId c.dealId := by
        simp [StorageAction.ends, event, h, hresult]
      have hafter : (finalizeMissedChallenge challengeId currentEpoch).after L verify
          n.registry = x.2 := after_of_call (call_of_ok h rfl)
      rw [hafter] at hstep
      simp only [hresult, if_true, hget, Option.elim_some]
      exact slash_turn (by rw [hends]; rfl) hstep hget (hnum.deals _ _ hget).1 _ _

/-! ### Rewards -/

/-- A reward on the account of the operator and in the books, unless it is nothing or does not
fit. -/
def payReward (currentEpoch till amount : UInt64) (d : StorageDeal) (n : StorageNode) :
    StorageNode :=
  if amount = 0 then n
  else
    match (tryAddBalance d.operator amount).run n.state with
    | .error _ s => n.setState s
    | .ok _ s =>
      let earned := n.storageOperatorRewards.getD d.operator 0
      { n.setState s with
        storageOperatorRewards :=
          n.storageOperatorRewards.insert d.operator (earned.saturatingAdd amount)
        storageLastRewardEpoch := n.storageLastRewardEpoch.insert d.dealId till
        storageEconomicsEvents := n.storageEconomicsEvents ++
          [⟨currentEpoch, d.dealId, d.operator, amount, amount, .operatorRewardAccrued⟩] }

/-- There is nothing to pay for a deal up to an epoch: it was paid already, or is free. -/
def rewarded (n : StorageNode) (currentEpoch : UInt64) (d : StorageDeal) : Prop :=
  min currentEpoch d.dealEndEpoch ≤ n.rewardedUntil d ∨ d.economics.feePerByteEpoch = 0

/-- The three ways to go on with a deal when rewards are accrued. -/
theorem accrueDeal_cases {P : StorageNode → Prop} (currentEpoch : UInt64) (d : StorageDeal)
    (hsame : n.rewarded currentEpoch d → P n)
    (hnoted : n.rewarded currentEpoch d → P { n with
      storageLastRewardEpoch := n.storageLastRewardEpoch.insert d.dealId (n.rewardedUntil d) })
    (hpaid : n.rewardedUntil d < min currentEpoch d.dealEndEpoch →
      ∀ amount, amount = d.earned (n.rewardedUntil d) (min currentEpoch d.dealEndEpoch) →
        P (n.payReward currentEpoch (min currentEpoch d.dealEndEpoch) amount d)) :
    P (n.accrueDeal currentEpoch d) := by
  rw [accrueDeal]
  split
  · rename_i hdone
    split
    · exact hsame hdone
    · exact hnoted hdone
  · rename_i hdue
    exact hpaid (not_le.1 fun hle => hdue (.inl hle)) _ rfl

theorem tryAddBalance_registry (s : AccountState) (a : Address) (amount : UInt64) :
    (tryAddBalance a amount).Leaves s fun s' => s'.storageRegistry = s.storageRegistry := by
  refine ⟨updateBalance_ensures.2 fun _ _ => rfl, fun e s' hrun => ?_⟩
  rw [(updateBalance_fails e s' hrun).2]
  rfl

theorem accrueDeal_turn
    (hends : action.ends L verify n = .tended) (hget : n.registry.deals.get dealId = some d)
    (currentEpoch : UInt64) : Turn L verify n action (n.accrueDeal currentEpoch d) := by
  refine accrueDeal_cases currentEpoch d (fun _ => ?_) (fun _ => ?_) fun hlater amount hamount => ?_
  · exact .still hends
  · exact .noted hends hget rfl rfl rfl rfl
  · unfold payReward
    split
    · exact .still hends
    · obtain ⟨hok, herr⟩ := tryAddBalance_registry n.state d.operator amount
      split
      · rename_i e s hrun
        exact .paid hends (.setState n (herr e s hrun))
      · rename_i u s hrun
        exact .rewarded hends hget (hok u s hrun) hlater (min_le_right _ _) hamount rfl rfl rfl

/-! ### Ends of terms -/

theorem run_give (a : Address) (amount : UInt64) (refusal : String → StorageRefusal)
    (n : StorageNode) : (give a amount refusal).run n =
      match (tryAddBalance a amount).run n.state with
      | .ok u s => .ok u (n.setState s)
      | .error e s => .error (.fail (refusal e)) (n.setState s) := by
  simp only [give, EStateM.zoom, EStateM.run]
  cases tryAddBalance a amount n.state <;> rfl

theorem finalizeExpired_settled (currentEpoch dealId : UInt64) (operator : Address) :
    (finalizeExpired currentEpoch dealId operator).settled n =
      match n.registry.expireDeal dealId currentEpoch with
      | .ok (bond, r) =>
        let expired := n.setRegistry (r.openExpiryReallocation dealId currentEpoch).2
        if bond = 0 then expired
        else match (give operator bond (.returnOverflow operator)).run expired with
          | .ok _ n' =>
            n'.record ⟨currentEpoch, dealId, operator, bond, bond, .operatorBondReturned⟩
          | .error _ n' => n'
      | .error (.expiryWouldStrandContent _ _ _ _ _) =>
        n.setRegistry (n.registry.openExpiryReallocation dealId currentEpoch).2
      | .error _ => n := by
  cases h : n.registry.expireDeal dealId currentEpoch with
  | error e => cases e <;> simp [finalizeExpired, settled, h]
  | ok x =>
    by_cases hbond : x.1 = 0
    · simp [finalizeExpired, settled, h, hbond]
    · cases hrun : (tryAddBalance operator x.1).run
          (n.setRegistry (x.2.openExpiryReallocation dealId currentEpoch).2).state with
      | ok u s | error e s => simp [finalizeExpired, settled, h, hbond, run_give, hrun]

theorem finalizeExpired_turn (hnum : n.registry.Numbered) (currentEpoch dealId : UInt64) :
    Turn L verify n (.finalizeExpired currentEpoch dealId)
      (StorageAction.act L verify (.finalizeExpired currentEpoch dealId) n) := by
  have hstep : Step L n.registry (StorageAction.ends L verify (.finalizeExpired currentEpoch dealId) n)
      ((expireDeal dealId currentEpoch).after L verify n.registry) :=
    expireDeal_step dealId currentEpoch
  simp only [StorageAction.act]
  cases hd : n.registry.deals.get dealId with
  | none =>
    refine .still ?_
    simp [StorageAction.ends, event, hd]
  | some d =>
    simp only [finalizeExpired_settled]
    cases h : n.registry.expireDeal dealId currentEpoch with
    | error e =>
      have hends : StorageAction.ends L verify (.finalizeExpired currentEpoch dealId) n = .tended := by
        simp [StorageAction.ends, event, h, Except.toBool]
      split
      · cases ‹Except.error e = Except.ok _›
      · exact .quiet hends (.openExpiryReallocation _ _ _) ⟨rfl, rfl, rfl⟩
      · exact .still hends
    | ok x =>
      have hafter : (expireDeal dealId currentEpoch).after L verify n.registry = x.2 :=
        after_of_call (call_of_ok h rfl)
      have htends : Tends x.2 (x.2.openExpiryReallocation dealId currentEpoch).2 :=
        .openExpiryReallocation _ _ _
      rw [hafter] at hstep
      dsimp only
      obtain ⟨d', hd', ⟨hactive, hbond, hsame⟩ | ⟨hactive, hbond, -⟩⟩ := expireDeal_eq_ok h
      · rw [if_pos hbond]
        refine .quiet ?_ (hsame ▸ htends) ⟨rfl, rfl, rfl⟩
        simp [StorageAction.ends, event, hd', hactive]
      · obtain rfl := Option.mem_unique hd hd'
        have hid := (hnum.deals _ _ hd).1
        have hends : StorageAction.ends L verify (.finalizeExpired currentEpoch dealId) n =
            .expired dealId := by
          simp [StorageAction.ends, event, h, hd', hactive, Except.toBool]
        rw [hends] at hstep
        set expired := n.setRegistry (x.2.openExpiryReallocation dealId currentEpoch).2
        have hbalance : expired.balance d.operator = n.balance d.operator := rfl
        rw [hbond]
        split
        · rename_i hzero
          refine .expired currentEpoch hends hstep htends hd rfl ?_ rfl
          simp [bondReturn, hzero]
          rfl
        · rename_i hpos
          cases hgive : (give d.operator d.economics.operatorBond
              (.returnOverflow d.operator)).run expired with
          | ok u n' =>
            obtain ⟨hpaid, hfits, -⟩ := (give_ends _ _ _ _).1 u n' hgive
            rw [hbalance] at hfits
            have hreg : Tends x.2 n'.registry := hpaid.registry ▸ htends
            refine .expired currentEpoch hends hstep hreg hd hpaid.rewards ?_ hpaid.log
            · simp [bondReturn, hpos, hfits, record, hpaid.events, hid]
              rfl
          | error e n' =>
            obtain ⟨hpaid, hover⟩ := (give_ends _ _ _ _).2 e n' hgive
            rw [hbalance] at hover
            have hreg : Tends x.2 n'.registry := hpaid.registry ▸ htends
            refine .expired currentEpoch hends hstep hreg hd hpaid.rewards ?_ hpaid.log
            simp [bondReturn, hover, hpaid.events]
            rfl

end StorageNode

namespace StorageAction

open StorageNode

variable {L : Linked} {verify : ChallengeVerifier} {n : StorageNode}

theorem upkeep_turn (op : StorageOp) :
    Budlum.StorageNode.Turn L verify n (.upkeep op) (act L verify (.upkeep op) n) := by
  have hends : ends L verify (.upkeep op) n = .tended := rfl
  simp only [act]
  split_ifs with hop
  · have hstep : Step L n.registry (op.event L verify n.registry) (op.after L verify n.registry) :=
      op.after_step n.registry
    cases hevent : op.event L verify n.registry with
    | tended =>
      rw [hevent] at hstep
      cases hstep with
      | tended htends => exact .quiet hends htends ⟨rfl, rfl, rfl⟩
    | asked challengeId =>
      rw [hevent] at hstep
      exact .asked hends hstep ⟨rfl, rfl, rfl⟩
    | opened | answered | mismatched | missed | renewed | expired | pruned =>
      cases op <;> simp [isUpkeep] at hop <;> simp [event] at hevent
      split at hevent <;> cases hevent
  · exact .still hends

/-- Every action is one of the turns. -/
theorem act_turn (hnum : n.registry.Numbered) (action : StorageAction) :
    Budlum.StorageNode.Turn L verify n action (action.act L verify n) := by
  cases action with
  | openDeal q payer nowUnix =>
    exact MayOpen.turn rfl ((openStorageDealWithEscrow_mayOpen q payer nowUnix).settled (.inl (.refl n)))
  | acceptTicket ticketId a payer nowUnix =>
    exact MayOpen.turn rfl
      ((acceptStorageReallocationWithEscrow_mayOpen ticketId a payer nowUnix).settled (.inl (.refl n)))
  | openChallenge q entropy => exact openStorageChallenge_turn rfl q entropy
  | answerChallenge a nowUnix => exact answerChallenge_turn hnum a nowUnix
  | accrue currentEpoch dealId =>
    simp only [act]
    cases hd : (n.registry.deals.get dealId).filter StorageDeal.isActive with
    | none => exact .still rfl
    | some d => exact accrueDeal_turn rfl (Option.filter_eq_some_iff.1 hd).1 currentEpoch
  | finalizeMissed currentEpoch nowUnix challengeId =>
    exact finalizeMissed_turn hnum currentEpoch nowUnix challengeId
  | finalizeExpired currentEpoch dealId => exact finalizeExpired_turn hnum currentEpoch dealId
  | prune manifestId => exact .pruned rfl rfl ⟨rfl, rfl, rfl⟩
  | upkeep op => exact upkeep_turn op
  | elsewhere s => exact .quiet rfl (.refl _) ⟨rfl, rfl, rfl⟩

end StorageAction

end Budlum
