import Budlum.Core.Linked
import Budlum.Domain.Storage
import Budlum.Registry.Liveness
import Budlum.Registry.PoaOnboarding
import Budlum.Settlement.ProofMarket

/-!
# The account state

Accounts, validators, the unbonding queue and every registry that transactions write.  This file
has the state itself, the operations on balances, stakes and role bonds, and the admission check
of a transaction.

Value is in one of a few places: account balances, validator stakes, the unbonding queue, role
bonds, transfers in flight over the bridge, and the two escrows of the AI layer.  The first four
are the committed supply; `AccountState.totalHeld` adds the rest.  These places make up the
`Ledger` of a state.
-/

namespace Budlum

open Except (ensure ofOption)

/-- Balance and next nonce. -/
structure Account where
  balance : UInt64 := 0
  nonce : UInt64 := 0
  deriving DecidableEq, Repr, Inhabited

/-- Stake on its way back to an account. -/
structure UnbondingEntry where
  address : Address
  amount : UInt64
  releaseEpoch : UInt64
  deriving DecidableEq, Repr

structure PendingDomainUnfreeze where
  domainId : DomainId
  expectedValidatorSetHash : Hash32
  justificationHash : Hash32
  deriving DecidableEq, Repr

/-! ### Validators -/

structure Validator where
  address : Address
  stake : UInt64
  active : Bool := true
  slashed : Bool := false
  jailed : Bool := false
  jailUntil : UInt64 := 0
  lastProposedBlock : Option UInt64 := none
  votesFor : UInt64 := 0
  votesAgainst : UInt64 := 0
  vrfPublicKey : Bytes := []
  blsPublicKey : Bytes := []
  popSignature : Bytes := []
  pqPublicKey : Bytes := []
  /-- The roles the validator serves in; a new one validates. -/
  roles : OrdMap RoleId Unit := (∅ : OrdMap RoleId Unit).insert Roles.validator ()
  deriving DecidableEq

namespace Validator

variable (v : Validator)

/-- All four keys are registered. -/
def isConsensusReady : Bool :=
  !v.vrfPublicKey.isEmpty && !v.blsPublicKey.isEmpty && !v.pqPublicKey.isEmpty &&
    !v.popSignature.isEmpty

def verifyPopIsValid (L : Linked) (chainId : UInt64) : Bool :=
  !v.popSignature.isEmpty && !v.blsPublicKey.isEmpty &&
    L.verifyPop v.blsPublicKey v.popSignature chainId v.address

/-- The stake counts in elections and governance. -/
def counts : Bool := v.active && !v.slashed

def afterSlash (slashRatioFixed epoch : UInt64) : Validator :=
  { v with
    stake := v.stake.saturatingSub (slashPenalty v.stake slashRatioFixed)
    slashed := true
    active := false
    jailed := true
    jailUntil := epoch.saturatingAdd 7 }

end Validator

/-! ### The state -/

def minTxFee : UInt64 := 1
def maxBaseFee : UInt64 := 1000000

structure AccountState where
  accounts : OrdMap Address Account := ∅
  validators : OrdMap Address Validator := ∅
  tokenomics : TokenomicsParams := .default
  timedBurn : TimedBurnState := {}
  bnsRegistry : BnsRegistry := {}
  nftRegistry : NftRegistry := {}
  identity : IdentityRegistry := {}
  vault : VaultRegistry := {}
  marketplace : MarketplaceRegistry := {}
  budlumxyz : BudlumxyzRegistry := {}
  storageRegistry : StorageRegistry := {}
  aiRegistry : AiRegistry := {}
  noteRegistry : L1NoteRegistry := {}
  bridgeState : BridgeState := {}
  poaOnboarding : PoAOnboarding := {}
  poaAdmitted : OrdMap DomainId (OrdMap Address Unit) := ∅
  messageRegistry : CrossDomainMessageRegistry := {}
  externalRoots : OrdMap DomainId Hash32 := ∅
  burnReserveAddress : Option Address := none
  teamVesting : Option (Address × VestingSchedule) := none
  unbondingQueue : List UnbondingEntry := []
  epochIndex : UInt64 := 0
  lastEpochTime : UInt64 := 0
  currentBlockHeight : UInt64 := 0
  governance : GovernanceState := {}
  baseFee : UInt64 := minTxFee
  bridgeRoot : Hash32 := 0
  messageRoot : Hash32 := 0
  settlementRoot : Hash32 := 0
  globalHeaderSummary : Hash32 := 0
  registry : PermissionlessRegistry := .new
  liveness : LivenessTracker := {}
  /-- Boost shares of the current block, not yet distributed. -/
  pendingBudBoostShare : UInt64 := 0
  pendingDomainUnfreezes : List PendingDomainUnfreeze := []
  proofMarket : ProofMarketState := {}
  deriving Inhabited

namespace AccountState

variable (s : AccountState)

/-- The account under an address, empty if it was never used. -/
def account (a : Address) : Account := s.accounts.getD a {}

def getBalance (a : Address) : UInt64 := (s.account a).balance

def getNonce (a : Address) : UInt64 := (s.account a).nonce

def setAccount (a : Address) (acc : Account) : AccountState :=
  { s with accounts := s.accounts.insert a acc }

/-- `get_or_create`: the account exists afterwards. -/
def touch (a : Address) : AccountState := s.setAccount a (s.account a)

def setBalance (a : Address) (balance : UInt64) : AccountState :=
  s.setAccount a { s.account a with balance := balance }

def setNonce (a : Address) (nonce : UInt64) : AccountState :=
  s.setAccount a { s.account a with nonce := nonce }

def setValidator (a : Address) (v : Validator) : AccountState :=
  { s with validators := s.validators.insert a v }

/-- What an address may spend: nothing from the burn reserve, only unlocked funds from the team's
allocation. -/
def spendableBalance (a : Address) : UInt64 :=
  if s.burnReserveAddress = some a then 0
  else match s.teamVesting with
    | some (team, schedule) =>
      if team = a then (s.getBalance a).saturatingSub (schedule.lockedAt s.epochIndex)
      else s.getBalance a
    | none => s.getBalance a

/-! ### Supply -/

def circulatingSupply : Nat := s.accounts.sumBy fun _ a => a.balance.toNat

def totalStakedSupply : Nat := s.validators.sumBy fun _ v => v.stake.toNat

def totalUnbondingSupply : Nat := (s.unbondingQueue.map (·.amount.toNat)).sum

def totalRegistryRoleBondedSupply : Nat := s.registry.totalBondedStakeExcluding Roles.validator

def totalBudCommitted : Nat :=
  s.circulatingSupply + s.totalStakedSupply + s.totalUnbondingSupply +
    s.totalRegistryRoleBondedSupply

def supplyCapacityRemaining : UInt64 :=
  UInt64.clampNat (budTotalSupply.toNat - s.totalBudCommitted)

/-- The committed supply and what is held for somebody: transfers in flight, open inference
requests, payments between agents. -/
def totalHeld : Nat :=
  s.totalBudCommitted + s.bridgeState.escrowed + s.aiRegistry.openEscrow + s.aiRegistry.agentEscrow

/-- Minting `amount` keeps the committed supply within the cap. -/
def ensureMintHeadroom (amount : UInt64) : Except String Unit :=
  ensure (decide (amount ≤ s.supplyCapacityRemaining))
    s!"supply cap: minting {amount} would put total committed supply above BUD_TOTAL_SUPPLY; only {s.supplyCapacityRemaining} remains. Committed supply counts liquid balances, validator stake, unbonding entries and role bonds, so the cap is a property of the chain and not of any one account."

/-! ### Balances -/

/-- Replace a balance by what `f` makes of it.  The account is created even if `f` refuses. -/
def updateBalance {ε : Type} (a : Address) (f : UInt64 → Except ε UInt64) :
    EStateM ε AccountState Unit := do
  modify (·.touch a)
  let balance ← EStateM.ofExcept (f ((← get).getBalance a))
  modify (·.setBalance a balance)

def tryAddBalance (a : Address) (amount : UInt64) : EStateM String AccountState Unit :=
  updateBalance a fun balance => ofOption (balance.checkedAdd amount)
    s!"balance overflow: {balance} + {amount} > u64::MAX"

def tryMintBalance (a : Address) (amount : UInt64) : EStateM String AccountState Unit := do
  EStateM.ofExcept ((← get).ensureMintHeadroom amount)
  tryAddBalance a amount

/-- Remove up to `amount` from a balance and say how much was removed. -/
def burnFrom (a : Address) (amount : UInt64) : UInt64 × AccountState :=
  if amount = 0 then (0, s)
  else
    let burned := min amount (s.getBalance a)
    (burned, s.setBalance a (s.getBalance a - burned))

/-! ### Stakes and role bonds -/

/-- Mirror a validator's stake into the table of roles. -/
def syncValidatorRegistration (a : Address) : AccountState :=
  let stake := (s.validators.get a).elim 0 (·.stake)
  { s with registry := s.registry.upsertStake a Roles.validator stake s.epochIndex }

def addValidator (a : Address) (stake : UInt64) : AccountState :=
  (s.setValidator a { address := a, stake := stake }).syncValidatorRegistration a

/-- The stake of active validators; `none` when the sum does not fit a word. -/
def getTotalStake : Option UInt64 :=
  UInt64.ofNat? ((s.validators.values.filter Validator.counts).map (·.stake.toNat)).sum

def requiredAiBond (chainId : UInt64) : UInt64 :=
  (Network.fromChainId chainId).elim s.registry.params.minStake fun n =>
    max n.minStake s.registry.params.minStake

/-- Move a bond from a balance into the table of roles. -/
def bondAiOperator (a : Address) (amount chainId : UInt64) : Except RegistryError AccountState := do
  let required := s.requiredAiBond chainId
  let available := s.spendableBalance a
  ensure (decide (required ≤ amount ∧ amount ≤ available))
    (.insufficientStake required (min amount available))
  let registry ← s.registry.registerAiOperator a amount s.epochIndex
  return { s with registry := registry }.setBalance a (s.getBalance a - amount)

def beginAiOperatorUnbonding (a : Address) : Except String AccountState := do
  ensure (!s.aiRegistry.operatorHasOpenObligations a s.currentBlockHeight)
    "AI inference layer operator has open inference or dispute obligations"
  let (_, registry) ← (s.registry.beginUnbonding a Roles.aiOperator s.epochIndex).mapError
    RegistryError.display
  return { s with registry := registry }

/-- Move an unbonded bond, less the fee, back to its balance. -/
def withdrawAiOperator (a : Address) (fee : UInt64) : Except String AccountState := do
  let registration ← ofOption (s.registry.get a Roles.aiOperator)
    "AI inference layer operator is not registered"
  let finalBalance ← ofOption
    (((s.getBalance a).checkedAdd registration.stake).bind (·.checkedSub fee))
    "AI inference layer withdrawal balance overflow/fee underflow"
  let (_, registry) ← (s.registry.withdraw a Roles.aiOperator s.epochIndex).mapError
    RegistryError.display
  return { s with registry := registry }.setAccount a
    ⟨finalBalance, (s.getNonce a).saturatingAdd 1⟩

/-- Slash a validator and, with it, every role of its account.  A validator that is slashed already
is left alone. -/
def slashValidator (a : Address) (slashRatioFixed : UInt64) : AccountState :=
  match s.validators.get a with
  | none => s
  | some v =>
    if v.slashed then s
    else
      let registry := match s.registry.slash a Roles.validator .doubleSign slashRatioFixed with
        | .ok (_, registry) => registry
        | .error _ => s.registry
      { s with
        validators := s.validators.insert a (v.afterSlash slashRatioFixed s.epochIndex)
        registry := registry }

def requiredGovernanceProposalFee (proposer : Address) : UInt64 :=
  s.baseFee.saturatingMul (s.governance.proposalFeeMultiplier proposer s.epochIndex)

end AccountState

/-! ### Admission of transactions -/

/-- Amount and fee, stopped at the largest word. -/
def Transaction.totalCost (tx : Transaction) : UInt64 := tx.amount.saturatingAdd tx.fee

/-- The transaction carries no value, no recipient and no data. -/
def Transaction.isBare (tx : Transaction) : Bool :=
  decide (tx.amount = 0) && decide (tx.recipient = Address.zero) && tx.data.isEmpty

namespace AccountState

variable (L : Linked) (s : AccountState) (tx : Transaction)

/-- The admission rules of each kind of transaction. -/
def validateKind : Except String Unit :=
  match tx.txType with
  | .transfer =>
    ensure (decide (tx.recipient ≠ Address.zero)) "Transfer missing 'to' address"
  | .stake => ensure (decide (tx.amount ≠ 0)) "Stake amount must be > 0"
  | .registerConsensusKeys registration => do
    ensure tx.isBare
      "Consensus key registration requires zero amount/recipient and empty data"
    let v ← ofOption (s.validators.get tx.sender)
      "Validator must bond stake before registering keys"
    ensure (!v.active) "Active validator key rotation is forbidden"
    registration.validate L tx.sender tx.chainId
  | .aiOperatorBond => do
    let required := s.requiredAiBond tx.chainId
    ensure (decide (required ≤ tx.amount))
      s!"AI inference layer operator bond below network validator floor: {tx.amount} < {required}"
    ensure (decide (tx.recipient = Address.zero) && tx.data.isEmpty)
      "AI inference layer operator bond requires zero recipient and empty data"
    ensure (s.registry.get tx.sender Roles.aiOperator).isNone
      "AI inference layer operator is already registered"
  | .aiOperatorUnbond => do
    ensure tx.isBare
      "AI inference layer unbond requires zero amount/recipient and empty data"
    ensure (s.registry.isActive tx.sender Roles.aiOperator)
      "AI inference layer operator is not active"
    ensure (!s.aiRegistry.operatorHasOpenObligations tx.sender s.currentBlockHeight)
      "AI inference layer operator has open inference or dispute obligations"
  | .aiOperatorWithdraw => do
    ensure tx.isBare
      "AI inference layer withdrawal requires zero amount/recipient and empty data"
    let registration ← ofOption (s.registry.get tx.sender Roles.aiOperator)
      "AI inference layer operator is not registered"
    match registration.status with
    | .unbonding releaseEpoch =>
      ensure (decide (releaseEpoch ≤ s.epochIndex))
        s!"AI inference layer bond remains locked until epoch {releaseEpoch}"
    | _ => .error "AI inference layer operator is not in unbonding state"
  | .privateTransferSubmit _ | .privacyNoteInsert _ =>
    ensure (decide (tx.chainId ≠ Network.mainnet.chainId))
      "privacy transfers are disabled on mainnet until full proof verification is wired"
  | .unstake => do
    let v ← ofOption (s.validators.get tx.sender) "Not a validator"
    ensure (decide (tx.amount ≤ v.stake)) s!"Insufficient stake: {v.stake} < {tx.amount}"
  | .vote => do
    ensure (s.validators.contains tx.sender) "Only validators can vote"
    let required := s.requiredGovernanceProposalFee tx.sender
    ensure (decide (tx.data.length ≤ 9) || decide (required ≤ tx.fee))
      s!"Governance proposal fee too low: {tx.fee} < {required}"
  | .contractCall => do
    ensure (decide (tx.amount = 0)) "Contract call amount must be 0"
    ensure (!tx.data.isEmpty && decide (tx.data.length % 8 = 0))
      "Contract call data must be non-empty BudZKVM bytecode"
  | .aiInferenceResult _ | .aiAttachExecutionProof .. =>
    ensure (s.registry.isActive tx.sender Roles.aiOperator)
      "Inference result/proof signer is not an active bonded AI_OPERATOR"
  | .aiDisputeSlash requestId verifier => do
    ensure (s.registry.isActive verifier Roles.aiOperator)
      "Equivocation target is not an active AI_OPERATOR"
    ensure (s.aiRegistry.isDisputable requestId verifier s.currentBlockHeight)
      "No live AI inference layer equivocation evidence for target"
  | .stateUpdate _ _ updates => do
    ensure tx.isBare "State update requires zero amount/recipient and empty data"
    ensure (!updates.isEmpty) "State update requires at least one nonce write"
    ensure (decide (updates.length ≤ maxStateUpdates))
      s!"State update exceeds {maxStateUpdates} nonce writes"
  | _ => .ok ()

/-- The least fee of the transaction. -/
def requiredFee : UInt64 :=
  match tx.txType with
  | .transfer => s.registry.params.requiredTransferFee tx.amount s.baseFee
  | _ => s.baseFee

/-- The admission check against an expected nonce and a spendable balance. -/
def validateTransactionWithContext (expectedNonce spendableBalance : UInt64) : Except String Unit :=
  if tx.sender = Address.zero then
    ensure (tx.verify L.toCrypto)
      "zero-address sender is only valid for the canonical genesis transaction"
  else do
    ensure (decide (s.burnReserveAddress ≠ some tx.sender))
      "Burn reserve is schedule-controlled and cannot originate transactions"
    ensure (decide (tx.nonce = expectedNonce))
      s!"Invalid nonce: expected {expectedNonce}, got {tx.nonce}"
    ensure (decide (tx.maxFee = 0 ∨ tx.maxFee = tx.fee))
      s!"flat-fee mode requires max_fee == fee ({tx.maxFee} != {tx.fee})"
    ensure (decide (tx.priorityFee = 0)) "flat-fee mode requires priority_fee == 0"
    let required := s.requiredFee tx
    ensure (decide (required ≤ tx.fee))
      s!"Fee too low: fee {tx.fee} < required {required} (base_fee {s.baseFee}, amount {tx.amount})"
    ensure (tx.amount.checkedAdd tx.fee).isSome "Transaction amount + fee overflows u64"
    ensure (decide (tx.totalCost ≤ spendableBalance))
      s!"Insufficient balance: {spendableBalance} < {tx.totalCost} (amount: {tx.amount}, fee: {tx.fee})"
    ensure (tx.verify L.toCrypto) "Invalid signature"
    s.validateKind L tx

/-- The admission check against the sender's own account. -/
def validateTransaction : Except String Unit :=
  s.validateTransactionWithContext L tx (s.getNonce tx.sender) (s.spendableBalance tx.sender)

end AccountState

end Budlum
