import Budlum.Core.StateRoot
import Budlum.Storage.History

/-!
# Storage and balances

Around the registry the node moves money: the payer's fee and the operator's bond are taken when a
deal is opened, the opener's bond when a challenge is, rewards are paid from epoch to epoch, a slash
burns and an expiry returns.  Every such call runs on the state of the accounts and on the records
the node keeps beside it.

The loops of the maintenance run one round per deal or challenge.  A round is one `StorageAction`;
so is every command, a burned token's pruning, and whatever else happens to the accounts in between.

* `StorageAction.act` : one action.
* `StorageNode.runStorageMaintenance` : what happens after every block.
-/

namespace Budlum

open EStateM (attempt caught ensure orThrow zoom)

open StorageRegistry

inductive StorageEconomicsEventKind where
  | operatorRewardAccrued
  | operatorBondSlashed
  | operatorBondReturned
  deriving DecidableEq, Repr

structure StorageEconomicsEvent where
  epoch : UInt64
  dealId : UInt64
  operator : Address
  amount : UInt64
  /-- What the balance of the operator changed by. -/
  balanceEffect : UInt64
  kind : StorageEconomicsEventKind
  deriving DecidableEq, Repr

/-- What the source does not write down: the fee that was escrowed for each deal, and every bond of
an opener that was taken or given back, with the challenges that were opened for one. -/
structure StorageLog where
  escrowedFees : OrdMap UInt64 UInt64 := ∅
  bondsTaken : List (Address × UInt64) := []
  bondsRefunded : List (Address × UInt64) := []
  bonded : List UInt64 := []

/-- The accounts and the records of the node that storage reads and writes. -/
structure StorageNode where
  state : AccountState
  storageLastRewardEpoch : OrdMap UInt64 UInt64 := ∅
  storageOperatorRewards : OrdMap Address UInt64 := ∅
  storageSlashedBondTotal : UInt64 := 0
  storageBurnedBondTotal : UInt64 := 0
  storageEconomicsEvents : List StorageEconomicsEvent := []
  log : StorageLog := {}

/-- Why the node refuses a storage command. -/
inductive StorageRefusal where
  | coolingDown (operator : Address) (ends left : UInt64)
  | noDuration
  | notInManifest (shardId manifestId : ContentId)
  | replayedOpen (shardId : ContentId) (operator : Address) (replicaIndex : UInt8)
      (startEpoch endEpoch : UInt64)
  | insufficientPayer (fee : UInt64)
  | insufficientOperator (bond : UInt64)
  | refundOverflow (reason : String)
  | openDealFailed (e : StorageError)
  | unknownTicket (ticketId : UInt64)
  | ticketNotOpen (ticketId : UInt64)
  | slashedOperator (operator : Address) (ticketId : UInt64)
  | manifestVanished (manifestId : ContentId) (ticketId : UInt64)
  | acceptFailed (e : StorageError)
  | zeroOpenerBond
  | insufficientOpener (balance bond : UInt64)
  | refused (e : StorageError)
  | noTip
  | noEntropy
  | noShardSize (dealId : UInt64)
  | invalidShardSize (dealId : UInt64)
  | returnOverflow (operator : Address) (reason : String)
  | notPersisted (reason : String)
  deriving DecidableEq, Repr

abbrev StorageM := EStateM (Fault StorageRefusal) StorageNode

namespace StorageNode

/-! ### Parts of the node -/

section Parts

variable (n : StorageNode)

def registry : StorageRegistry := n.state.storageRegistry

def balance (a : Address) : UInt64 := n.state.getBalance a

def setRegistry (r : StorageRegistry) : StorageNode :=
  { n with state := { n.state with storageRegistry := r } }

def setState (s : AccountState) : StorageNode := { n with state := s }

def record (event : StorageEconomicsEvent) : StorageNode :=
  { n with storageEconomicsEvents := n.storageEconomicsEvents ++ [event] }

/-- Lower a balance. -/
def take (a : Address) (amount : UInt64) : StorageNode :=
  n.setState (n.state.setBalance a ((n.balance a).saturatingSub amount))

end Parts

/-- Raise a balance. -/
def give (a : Address) (amount : UInt64) (refusal : String → StorageRefusal) : StorageM Unit :=
  zoom state (fun s n => n.setState s) (fun e => .fail (refusal e))
    (AccountState.tryAddBalance a amount)

/-- Return an amount that was taken; nothing to do if it is zero. -/
def giveBack (a : Address) (amount : UInt64) : StorageM Unit :=
  if 0 < amount then give a amount .refundOverflow else pure ()

/-! ### Opening deals -/

def checkCooldown (operator : Address) (nowUnix : UInt64) : StorageM Unit := do
  match (← get).registry.operatorCooldownUntil operator nowUnix with
  | some ends => throw (.fail (.coolingDown operator ends (ends.saturatingSub nowUnix)))
  | none => pure ()

/-- The same operator keeps the same slot over the same epochs already. -/
def isReplay (q : DealRequest) (r : StorageRegistry) : Bool :=
  (r.dealsForShard q.manifest.manifestId q.shardId).any fun d =>
    decide (d.status = .active ∧ d.operator = q.operator ∧ d.replicaIndex = q.replicaIndex ∧
      d.dealStartEpoch = q.startEpoch ∧ d.dealEndEpoch = q.endEpoch)

def takeFee (payer : Address) (fee : UInt64) : StorageM Unit :=
  if 0 < fee then do
    ensure (decide (fee ≤ (← get).balance payer)) (.fail (.insufficientPayer fee))
    modify (·.take payer fee)
  else pure ()

/-- Take the bond; an operator that cannot pay it is refused, and the fee stays where it is. -/
def takeBond (operator : Address) (bond : UInt64) : StorageM Unit :=
  if 0 < bond then do
    ensure (decide (bond ≤ (← get).balance operator)) (.fail (.insufficientOperator bond))
    modify (·.take operator bond)
  else pure ()

/-- Take the bond; an operator that cannot pay it is refused, and the fee is given back. -/
def takeBondOrRefund (payer operator : Address) (fee bond : UInt64) : StorageM Unit :=
  if 0 < bond then do
    if (← get).balance operator < bond then
      giveBack payer fee
      throw (.fail (.insufficientOperator bond))
    else modify (·.take operator bond)
  else pure ()

/-- Open the deal the money was taken for, or give it back. -/
def openEscrowed (opening : StorageRegistry → Except (Fault StorageError) (UInt64 × StorageRegistry))
    (refusal : StorageError → StorageRefusal) (payer operator : Address) (fee bond : UInt64) :
    StorageM UInt64 := do
  let n ← get
  match opening n.registry with
  | .ok (dealId, r) =>
    set { n.setRegistry r with
      log := { n.log with escrowedFees := n.log.escrowedFees.insert dealId fee } }
    return dealId
  | .error (.fail e) =>
    giveBack payer fee
    giveBack operator bond
    throw (.fail (refusal e))
  | .error .panic => throw .panic

section Commands

variable (L : Linked) (verify : ChallengeVerifier)

def openStorageDealWithEscrow (q : DealRequest) (payer : Address) (nowUnix : UInt64) :
    StorageM UInt64 := do
  checkCooldown q.operator nowUnix
  let epochs := q.endEpoch.saturatingSub q.startEpoch
  ensure (decide (epochs ≠ 0)) (.fail .noDuration)
  let shard ← orThrow (q.manifest.shard q.shardId)
    (.fail (.notInManifest q.shardId q.manifest.manifestId))
  ensure (!isReplay q (← get).registry) (.fail (.replayedOpen q.shardId q.operator
    q.replicaIndex q.startEpoch q.endEpoch))
  let fee := q.economics.totalFee shard.size.toUInt64 epochs
  takeFee payer fee
  takeBondOrRefund payer q.operator fee q.economics.operatorBond
  openEscrowed (fun r => r.openDeal L q) .openDealFailed payer q.operator fee
    q.economics.operatorBond

/-- Take a ticket.  If the operator cannot pay the bond, the payer's fee is gone. -/
def acceptStorageReallocationWithEscrow (ticketId : UInt64) (a : ReplacementRequest)
    (payer : Address) (nowUnix : UInt64) : StorageM UInt64 := do
  let n ← get
  let ticket ← orThrow (n.registry.reallocations.get ticketId)
    (.fail (.unknownTicket ticketId))
  ensure ticket.status.isOpen (.fail (.ticketNotOpen ticketId))
  ensure (decide (a.operator ≠ ticket.slashedOperator))
    (.fail (.slashedOperator a.operator ticketId))
  checkCooldown a.operator nowUnix
  let m ← orThrow (n.registry.manifests.get ticket.manifestId)
    (.fail (.manifestVanished ticket.manifestId ticketId))
  let epochs := a.endEpoch.saturatingSub a.startEpoch
  ensure (decide (epochs ≠ 0)) (.fail .noDuration)
  let shard ← orThrow (m.shard ticket.shardId)
    (.fail (.notInManifest ticket.shardId ticket.manifestId))
  let fee := a.economics.totalFee shard.size.toUInt64 epochs
  takeFee payer fee
  takeBond a.operator a.economics.operatorBond
  openEscrowed (fun r => r.acceptReallocationTicket L ticketId a) .acceptFailed payer a.operator fee
    a.economics.operatorBond

/-! ### Challenges -/

def debitOpenerBond (opener : Address) (bond : UInt64) : StorageM Unit := do
  ensure (decide (bond ≠ 0)) (.fail .zeroOpenerBond)
  modify fun n => n.setState (n.state.touch opener)
  let n ← get
  ensure (decide (bond ≤ n.balance opener))
    (.fail (.insufficientOpener (n.balance opener) bond))
  set { n.take opener bond with
    log := { n.log with bondsTaken := (opener, bond) :: n.log.bondsTaken } }

def refundOpenerBond (opener : Address) (bond : UInt64) : StorageM Unit :=
  if bond = 0 then pure ()
  else do
    give opener bond .refundOverflow
    modify fun n =>
      { n with log := { n.log with bondsRefunded := (opener, bond) :: n.log.bondsRefunded } }

/-- The entropy of a challenge that is opened by a command. -/
def challengeEntropy (chainId : UInt64) (tipHash : String) (opener : Address) (signature : Bytes) :
    Hash32 :=
  L.hashFieldsBytes [textBytes "BDLM_RPC_STORAGE_CHALLENGE_ENTROPY_V1", u64Bytes chainId,
    textBytes tipHash, hashBytes opener, signature]

/-- Open a challenge.  Its bond is given back if the registry refuses the challenge, and nowhere
else. -/
def openStorageChallenge (q : ChallengeRequest) (entropy : Hash32) : StorageM UInt64 := do
  debitOpenerBond q.opener q.openerBond
  let n ← get
  match n.registry.openChallengeWithEntropy L q entropy with
  | .ok (challengeId, r) =>
    set { n.setRegistry r with log := { n.log with bonded := challengeId :: n.log.bonded } }
    return challengeId
  | .error (.fail e) =>
    let _ ← caught (refundOpenerBond q.opener q.openerBond)
    throw (.fail (.refused e))
  | .error .panic => throw .panic

/-- Burn the bond from what the operator has left; the bond itself was taken when the deal was
opened. -/
def applyStorageBondSlash (epoch dealId : UInt64) (operator : Address) (slashedBond nowUnix : UInt64)
    (n : StorageNode) : StorageNode :=
  let n := n.setRegistry (n.registry.beginOperatorCooldown operator nowUnix)
  let burn := n.state.burnFrom operator slashedBond
  { n.setState burn.2 with
    storageSlashedBondTotal := n.storageSlashedBondTotal.saturatingAdd slashedBond
    storageBurnedBondTotal := n.storageBurnedBondTotal.saturatingAdd burn.1
    storageEconomicsEvents := n.storageEconomicsEvents ++
      [⟨epoch, dealId, operator, slashedBond, burn.1, .operatorBondSlashed⟩] }

def answerStorageChallenge (a : RetrievalResponse) (nowUnix : UInt64) : StorageM ChallengeResult := do
  let n ← get
  let answer ← EStateM.ofExcept ((n.registry.answerChallenge verify a).mapError
    fun e => .fail (.refused e))
  set (n.setRegistry answer.2)
  if answer.1.outcome = .mismatched then
    modify (applyStorageBondSlash a.responseEpoch answer.1.dealId a.responder answer.1.slashedBond
      nowUnix)
  return answer.1

/-! ### Rewards -/

/-- Pay the operator what the deal has earned since the last reward. -/
def accrueDeal (currentEpoch : UInt64) (d : StorageDeal) (n : StorageNode) : StorageNode :=
  let lastEpoch := n.storageLastRewardEpoch.getD d.dealId d.dealStartEpoch
  let rewardUntil := min currentEpoch d.dealEndEpoch
  if rewardUntil ≤ lastEpoch ∨ d.economics.feePerByteEpoch = 0 then
    if n.storageLastRewardEpoch.contains d.dealId then n
    else
      { n with storageLastRewardEpoch := n.storageLastRewardEpoch.insert d.dealId lastEpoch }
  else
    let paidThrough := lastEpoch.saturatingSub d.dealStartEpoch
    let owedThrough := rewardUntil.saturatingSub d.dealStartEpoch
    let amount := (d.totalFee owedThrough).saturatingSub (d.totalFee paidThrough)
    if amount = 0 then n
    else
      match (AccountState.tryAddBalance d.operator amount).run n.state with
      | .error _ s => n.setState s
      | .ok _ s =>
        let earned := n.storageOperatorRewards.getD d.operator 0
        { n.setState s with
          storageOperatorRewards :=
            n.storageOperatorRewards.insert d.operator (earned.saturatingAdd amount)
          storageLastRewardEpoch := n.storageLastRewardEpoch.insert d.dealId rewardUntil
          storageEconomicsEvents := n.storageEconomicsEvents ++
            [⟨currentEpoch, d.dealId, d.operator, amount, amount, .operatorRewardAccrued⟩] }

def accrueStorageOperatorRewards (currentEpoch nowUnix : UInt64) (n : StorageNode) : StorageNode :=
  let n := n.setRegistry (n.registry.pruneExpiredCooldowns nowUnix)
  (n.registry.deals.values.filter StorageDeal.isActive).foldl
    (fun n d => n.accrueDeal currentEpoch d) n

/-! ### Challenges that the node opens -/

def defaultChallengeInterval : UInt64 := 100
def minChallengeRangeBytes : UInt64 := 4 * 1024
def maxChallengeRangeBytes : UInt64 := 64 * 1024

/-- How much of a shard is asked for. -/
def challengeRangeLen (shardSize : UInt64) : UInt64 :=
  if shardSize ≤ minChallengeRangeBytes then shardSize
  else min (max minChallengeRangeBytes (min maxChallengeRangeBytes (shardSize / 64))) shardSize

/-- The challenge of a deal in an epoch, if it is due. -/
def issueChallenge (chainId currentEpoch : UInt64) (vrfOutput : Bytes) (d : StorageDeal) :
    StorageM Unit := do
  let elapsed := currentEpoch.saturatingSub d.dealStartEpoch
  if 0 < elapsed ∧ elapsed % defaultChallengeInterval = 0 then
    let n ← get
    let shard ← orThrow ((n.registry.manifests.get d.manifestId).bind (·.shard d.shardId))
      (.fail (.noShardSize d.dealId))
    let rangeLen := challengeRangeLen shard.size.toUInt64
    let rangeCount ← orThrow
      ((shard.size.toUInt64.checkedSub rangeLen).bind (·.checkedAdd 1))
      (.fail (.invalidShardSize d.dealId))
    let digest := L.hashFieldsBytes [textBytes "BDLM_RETRIEVAL_CHALLENGE_RANGE_V1",
      u64Bytes chainId, u64Bytes d.dealId, hashBytes d.manifestId, hashBytes d.shardId,
      u64Bytes currentEpoch, vrfOutput]
    let byteStart := u64OfBytes ((hashBytes digest).take 8) % rangeCount
    let deadline ← orThrow (currentEpoch.checkedAdd 10) .panic
    match n.registry.openChallenge ⟨d.dealId, byteStart, byteStart + rangeLen, currentEpoch, deadline,
        Address.zero, 1⟩ with
    | .ok (_, r) => set (n.setRegistry r)
    | .error (.fail _) => pure ()
    | .error .panic => throw .panic
  else pure ()

def issueStorageChallenges (chainId currentEpoch : UInt64) (tipVrfOutput : Option Bytes) :
    StorageM Unit := do
  let active := (← get).registry.deals.values.filter StorageDeal.isActive
  if active.isEmpty then pure ()
  else do
    let vrfOutput ← orThrow tipVrfOutput (.fail .noTip)
    ensure (!vrfOutput.isEmpty) (.fail .noEntropy)
    active.forM (issueChallenge L chainId currentEpoch vrfOutput)

/-! ### Ends of deals -/

/-- A challenge that was not answered in time costs the deal. -/
def finalizeMissed (currentEpoch nowUnix : UInt64) (c : RetrievalChallenge) (n : StorageNode) :
    StorageNode :=
  let operator := (n.registry.deals.get c.dealId).elim Address.zero (·.operator)
  match n.registry.finalizeMissedChallenge c.challengeId currentEpoch with
  | .ok (result, r) =>
    if result.outcome = .missed then
      (n.setRegistry r).applyStorageBondSlash currentEpoch c.dealId operator result.slashedBond nowUnix
    else n.setRegistry r
  | .error _ => n

def finalizeMissedStorageChallenges (currentEpoch nowUnix : UInt64) (n : StorageNode) : StorageNode :=
  let pending := n.registry.challenges.values.filter fun c =>
    decide (c.deadlineEpoch ≤ currentEpoch) && n.registry.isUnresolved c
  pending.foldl (fun n c => n.finalizeMissed currentEpoch nowUnix c) n

/-- The end of a deal's term: a ticket for its slot and the bond for its operator.  A deal that keeps
the object alive is held, with a ticket too. -/
def finalizeExpired (currentEpoch dealId : UInt64) (operator : Address) : StorageM Unit := do
  let n ← get
  match n.registry.expireDeal dealId currentEpoch with
  | .ok (bond, r) =>
    set (n.setRegistry (r.openExpiryReallocation dealId currentEpoch).2)
    if bond = 0 then pure ()
    else do
      give operator bond (.returnOverflow operator)
      modify (·.record ⟨currentEpoch, dealId, operator, bond, bond, .operatorBondReturned⟩)
  | .error (.expiryWouldStrandContent _ _ _ _ _) =>
    set (n.setRegistry (n.registry.openExpiryReallocation dealId currentEpoch).2)
  | .error _ => pure ()

def finalizeExpiredStorageDeals (currentEpoch : UInt64) : StorageM Unit := do
  let matured := (← get).registry.deals.values.filter fun d =>
    d.isActive && decide (d.dealEndEpoch ≤ currentEpoch)
  matured.forM fun d => finalizeExpired currentEpoch d.dealId d.operator

/-! ### Tickets of the maintenance -/

/-- A ticket for a shard nobody keeps: for the last deal it had, or for a slot that never had one. -/
def ticketForShard (currentEpoch : UInt64) (manifestId : ContentId) (r : StorageRegistry)
    (shard : ShardRef) : StorageRegistry :=
  if 0 < r.activeReplicaCount manifestId shard.shardId then r
  else
    let historic := (r.dealsForShard manifestId shard.shardId).filter fun d => !d.isActive
    match historic.getLast? with
    | some d => (r.openExpiryReallocation d.dealId currentEpoch).2
    | none =>
      let domainId := (r.dealsForManifest manifestId).head?.elim 0 (·.domainId)
      (r.openNeverPlacedTicket domainId ⟨manifestId, shard.shardId, 0⟩ currentEpoch).2

/-- Tickets for the missing shards of the objects that need repair. -/
def ticketsForRepair (currentEpoch : UInt64) (r : StorageRegistry) : StorageRegistry :=
  r.objectsBelowOwnRepairMargin.foldl (fun r manifestId =>
    match r.manifests.get manifestId with
    | none => r
    | some m => m.shards.foldl (ticketForShard currentEpoch manifestId) r) r

/-- The part of the last block the maintenance reads. -/
structure StorageTip where
  height : UInt64
  unixSecs : UInt64
  hash : String
  vrfOutput : Bytes

/-- Advice for the pending tickets, if there are validators to advise. -/
def adviseHolders (chainId currentEpoch : UInt64) (tip : StorageTip) (n : StorageNode) : StorageNode :=
  let candidates := n.state.getActiveValidators.map fun v => ⟨v.address, v.stake⟩
  if candidates.isEmpty then n
  else
    let entropy := L.hashFieldsBytes [textBytes "BDLM_MAINTENANCE_PLACEMENT_V1", u64Bytes chainId,
      textBytes tip.hash, u64Bytes currentEpoch]
    n.setRegistry (n.registry.annotateExpectedHolders L.toCrypto entropy candidates)

/-- What happens to the tickets at the end of the maintenance. -/
def tendTickets (currentEpoch : UInt64) (r : StorageRegistry) : StorageRegistry :=
  ((r.openRepairTicketsForFreeSlots currentEpoch).markOverdueReallocationsUnderReplicated
    currentEpoch).sweepSettledReallocations currentEpoch

/-- The maintenance after a block.  An error of one part is logged and the next part runs. -/
def runStorageMaintenance (chainId : UInt64) (tip : StorageTip) : StorageM Unit := do
  if chainId = Network.mainnet.chainId then pure ()
  else do
    let currentEpoch := tip.height / epochLenForChainId chainId
    modify (accrueStorageOperatorRewards currentEpoch tip.unixSecs)
    let _ ← attempt (issueStorageChallenges L chainId currentEpoch (some tip.vrfOutput))
    modify (finalizeMissedStorageChallenges currentEpoch tip.unixSecs)
    let _ ← attempt (finalizeExpiredStorageDeals currentEpoch)
    modify fun n => n.setRegistry (ticketsForRepair currentEpoch n.registry)
    modify (adviseHolders L chainId currentEpoch tip)
    modify fun n => n.setRegistry (tendTickets currentEpoch n.registry)

end Commands

end StorageNode

/-! ### Actions -/

/-- The calls that only the maintenance and the owners of manifests and operators make. -/
def StorageOp.isUpkeep : StorageOp → Bool
  | openChallenge _ | openExpiryReallocation _ _ | openNeverPlacedTicket _ _ _
  | openRepairTicketsForFreeSlots _ | markOverdueReallocationsUnderReplicated _
  | sweepSettledReallocations _ | annotateExpectedHolders _ _ | registerManifest _
  | setOperatorClass _ _ | declareSelfHostPolicy _ _ | pruneExpiredCooldowns _ => true
  | _ => false

/-- One thing that happens to the node. -/
inductive StorageAction where
  | openDeal (q : DealRequest) (payer : Address) (nowUnix : UInt64)
  | acceptTicket (ticketId : UInt64) (a : StorageRegistry.ReplacementRequest) (payer : Address)
      (nowUnix : UInt64)
  | openChallenge (q : ChallengeRequest) (entropy : Hash32)
  | answerChallenge (a : RetrievalResponse) (nowUnix : UInt64)
  | accrue (currentEpoch dealId : UInt64)
  | finalizeMissed (currentEpoch nowUnix challengeId : UInt64)
  | finalizeExpired (currentEpoch dealId : UInt64)
  | prune (manifestId : ContentId)
  | upkeep (op : StorageOp)
  /-- Blocks, transfers and everything else that leaves storage alone. -/
  | elsewhere (s : AccountState)

namespace StorageAction

open StorageNode

variable (L : Linked) (verify : ChallengeVerifier)

/-- The node after an action.  What a refused command wrote stays written. -/
def act (action : StorageAction) (n : StorageNode) : StorageNode :=
  match action with
  | openDeal q payer nowUnix => (openStorageDealWithEscrow L q payer nowUnix).settled n
  | acceptTicket ticketId a payer nowUnix =>
    (acceptStorageReallocationWithEscrow L ticketId a payer nowUnix).settled n
  | openChallenge q entropy => (openStorageChallenge L q entropy).settled n
  | answerChallenge a nowUnix => (answerStorageChallenge verify a nowUnix).settled n
  | accrue currentEpoch dealId =>
    match (n.registry.deals.get dealId).filter StorageDeal.isActive with
    | some d => n.accrueDeal currentEpoch d
    | none => n
  | finalizeMissed currentEpoch nowUnix challengeId =>
    match n.registry.challenges.get challengeId with
    | some c => n.finalizeMissed currentEpoch nowUnix c
    | none => n
  | finalizeExpired currentEpoch dealId =>
    match n.registry.deals.get dealId with
    | some d => (StorageNode.finalizeExpired currentEpoch dealId d.operator).settled n
    | none => n
  | prune manifestId => n.setRegistry (n.registry.pruneContent manifestId)
  | upkeep op => if op.isUpkeep then n.setRegistry (op.after L verify n.registry) else n
  | elsewhere s => n.setState { s with storageRegistry := n.registry }

end StorageAction

end Budlum
