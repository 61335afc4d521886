import Budlum.Ai.Execution
import Budlum.Core.Ledger

/-!
# The executor

What every kind of transaction does to the state, and block application: the transactions in
order, the fees to the producer, and the governance actions that are due.

A transaction that fails leaves behind whatever it wrote before the failing step.
-/

namespace Budlum

/-- Computations of the executor. -/
abbrev Exec (α : Type) := EStateM (Fault BudlumError) AccountState α

namespace Executor

open AccountState

def refuse (code message : String) : Fault BudlumError := .fail (.validation code message)

/-- Continue only if the condition holds. -/
def check (b : Bool) (code message : String) : Exec Unit := EStateM.ensure b (refuse code message)

/-- The value of an option, or a validation error. -/
def require {α : Type} (o : Option α) (code message : String) : Exec α :=
  EStateM.orThrow o (refuse code message)

/-- The value of a fallible function of the state's parts, with its error under a code. -/
def lift {ε α : Type} (code : String) (display : ε → String) (x : Except ε α) : Exec α :=
  EStateM.ofExcept (x.mapError fun e => refuse code (display e))

/-- `lift` for functions that can stop the process. -/
def liftFault {ε α : Type} (code : String) (display : ε → String) (x : Except (Fault ε) α) :
    Exec α :=
  EStateM.ofExcept (x.mapError (Fault.map fun e => .validation code (display e)))

/-- Run a state operation with its error under a code. -/
def run {α : Type} (code : String) (m : EStateM String AccountState α) : Exec α :=
  EStateM.mapError (refuse code) m

/-- Take `amount` from a balance. -/
def debit (a : Address) (amount : UInt64) (message : String) : Exec Unit :=
  updateBalance a fun balance =>
    Except.ofOption (balance.checkedSub amount) (refuse "balance_underflow" message)

/-- Take two amounts from a balance, both or none. -/
def debitBoth (a : Address) (first : UInt64) (message : String) (second : UInt64)
    (message' : String) : Exec Unit :=
  updateBalance a fun balance => do
    let rest ← Except.ofOption (balance.checkedSub first) (refuse "balance_underflow" message)
    Except.ofOption (rest.checkedSub second) (refuse "balance_underflow" message')

def credit (a : Address) (amount : UInt64) (message : String) : Exec Unit :=
  updateBalance a fun balance =>
    Except.ofOption (balance.checkedAdd amount) (refuse "balance_overflow" message)

/-- Count the sender's nonce up. -/
def bump (a : Address) : Exec Unit := modify (·.bumpNonce a)

/-- The fee and the nonce, where most transactions end. -/
def chargeFee (tx : Transaction) (message : String) : Exec Unit := do
  debit tx.sender tx.fee message
  bump tx.sender

/-- The text most fee deductions fail with. -/
def underflow : String := "balance underflow"

variable (L : Linked) (tx : Transaction)

/-- Smallest stake of an active validator on the transaction's chain. -/
def minStake : UInt64 := (Network.fromChainId tx.chainId).elim 1 (·.minStake)

/-! ### Transfers and stake -/

def applyTransfer : Exec Unit := do
  let spendable := (← get).spendableBalance tx.sender
  check (decide (tx.totalCost ≤ spendable)) "vesting_locked"
    s!"Transfer exceeds spendable balance: have {spendable}, need {tx.totalCost}"
  debit tx.sender tx.totalCost underflow
  bump tx.sender
  credit tx.recipient tx.amount "Receiver balance overflow: transfer would exceed u64::MAX"

/-- Add to a validator's stake, or make the sender a validator. -/
def raiseStake : Exec Unit := do
  match (← get).validators.get tx.sender with
  | some v =>
    let stake ← require (v.stake.checkedAdd tx.amount) "stake_overflow" "stake overflow"
    let active := decide (minStake tx ≤ stake) && v.isConsensusReady
    modify (·.setValidator tx.sender { v with stake := stake, active := active })
  | none =>
    modify (·.addValidator tx.sender tx.amount)
    -- a new validator has no keys yet
    let v : Validator := { address := tx.sender, stake := tx.amount }
    let active := decide (minStake tx ≤ v.stake) && v.isConsensusReady
    modify (·.setValidator tx.sender { v with active := active })

def applyStake : Exec Unit := do
  check (decide (tx.totalCost ≤ (← get).spendableBalance tx.sender)) "stake_vesting_locked"
    s!"Stake exceeds spendable balance (vesting-locked funds cannot be staked): need {tx.totalCost}"
  debit tx.sender tx.totalCost underflow
  bump tx.sender
  raiseStake tx
  modify (·.syncValidatorRegistration tx.sender)

/-- The weight of a voter's open votes follows its stake. -/
def reduceOpenVotes (voter : Address) (reduction : UInt64) (g : GovernanceState) : GovernanceState :=
  { g with proposals := g.proposals.map fun p =>
      if p.status = .active then p.reduceVoteWeight voter reduction else p }

def applyUnstake : Exec Unit := do
  let v ← require ((← get).validators.get tx.sender) "not_validator" "Not a validator"
  check (decide (tx.amount ≤ v.stake)) "insufficient_stake" "Insufficient stake"
  modify fun s => { s with governance := reduceOpenVotes tx.sender tx.amount s.governance }
  let stake ← require (v.stake.checkedSub tx.amount) "stake_underflow" "stake underflow"
  modify (·.setValidator tx.sender
    { v with stake := stake, active := v.active && decide (stake ≠ 0) })
  modify fun s =>
    let release := s.epochIndex.saturatingAdd s.registry.params.unbondingEpochs
    { s with unbondingQueue := s.unbondingQueue ++ [⟨tx.sender, tx.amount, release⟩] }
  modify (·.syncValidatorRegistration tx.sender)
  chargeFee tx underflow

def applyRegisterConsensusKeys (registration : ConsensusKeyRegistration) : Exec Unit := do
  check tx.isBare "consensus_key_registration_shape"
    "Consensus key registration requires zero amount/recipient and empty data"
  lift "invalid_consensus_keys" id (registration.validate L tx.sender tx.chainId)
  let v ← require ((← get).validators.get tx.sender) "validator_not_bonded"
    "Stake must be bonded before consensus keys are registered"
  check (!v.active) "active_validator_key_rotation_forbidden"
    "Active validator keys cannot change mid-epoch; unbond before replacement"
  let v : Validator := { v with
    vrfPublicKey := registration.vrfPublicKey
    blsPublicKey := registration.blsPublicKey
    popSignature := registration.popSignature
    pqPublicKey := registration.pqPublicKey }
  let active := decide (minStake tx ≤ v.stake) && v.isConsensusReady &&
    v.verifyPopIsValid L tx.chainId
  modify (·.setValidator tx.sender { v with active := active })
  chargeFee tx "Consensus key registration fee underflow"

/-! ### Votes -/

def voteOnValidator : Exec Unit := do
  match (← get).validators.get tx.recipient with
  | none => pure ()
  | some v =>
    if 0 < tx.amount then
      let count ← EStateM.orThrow (v.votesFor.checkedAdd 1) .panic
      modify (·.setValidator tx.recipient { v with votesFor := count })
    else
      let count ← EStateM.orThrow (v.votesAgainst.checkedAdd 1) .panic
      modify (·.setValidator tx.recipient { v with votesAgainst := count })

/-- The stake behind a governance action of the sender. -/
def senderStake : Exec UInt64 := do
  return ((← get).validators.get tx.sender).elim 0 (·.stake)

/-- A vote on a proposal: one byte for the direction, eight for the identifier. -/
def voteOnProposal : Exec Unit := do
  let stake ← senderStake tx
  check (decide (stake ≠ 0)) "governance_voter_not_validator"
    "Only validators can vote in governance"
  let s ← get
  let governance ← lift "governance_vote_failed" id
    (s.governance.castVote (u64OfBytes ((tx.data.drop 1).take 8)) tx.sender stake
      (decide (tx.data.headD 0 ≠ 0)) s.epochIndex)
  modify fun s => { s with governance := governance }

/-- A new proposal: eight bytes for the duration, then the proposal. -/
def openProposal : Exec Unit := do
  let pType ← lift "governance_proposal_invalid" id (L.decode.proposal (tx.data.drop 8))
  let stake ← senderStake tx
  check (decide (stake ≠ 0)) "governance_proposer_not_validator"
    "Only active validators can create proposals"
  let epoch := (← get).epochIndex
  let _ ← EStateM.zoom AccountState.governance (fun g s => { s with governance := g })
    (Fault.map (.validation "governance_proposal_creation_failed"))
    (GovernanceState.createProposal tx.sender pType epoch (u64OfBytes (tx.data.take 8)))

/-- The fee and the nonce are written before anything is checked but the fee itself. -/
def applyVote : Exec Unit := do
  let required := (← get).requiredGovernanceProposalFee tx.sender
  check (decide (tx.data.length ≤ 9) || decide (required ≤ tx.fee))
    "governance_proposal_fee_too_low"
    s!"Governance proposal fee {tx.fee} is below escalating requirement {required}"
  chargeFee tx underflow
  if tx.recipient ≠ Address.zero then voteOnValidator tx
  else if tx.data.length < 9 then pure ()
  else if tx.data.length = 9 then voteOnProposal tx
  else openProposal L tx

/-! ### Roles of the AI layer -/

/-- The verifier stake that goes with the role.  It is not taken from anyone. -/
def lockVerifierStake (a : Address) (s : AccountState) : AccountState :=
  match s.aiRegistry.lockVerifierStake a minVerifierStake with
  | .ok registry => { s with aiRegistry := registry }
  | .error _ => s

def applyAiOperatorBond : Exec Unit := do
  let required := (← get).requiredAiBond tx.chainId
  check (decide (required ≤ tx.amount)) "ai_operator_bond_below_floor"
    s!"AI inference layer operator bond {tx.amount} is below network validator floor {required}"
  check (decide (tx.recipient = Address.zero) && tx.data.isEmpty) "ai_operator_bond_shape"
    "AI inference layer operator bond requires zero recipient and empty data"
  check (decide (tx.totalCost ≤ (← get).spendableBalance tx.sender))
    "ai_operator_bond_vesting_locked" "AI inference layer operator bond exceeds spendable balance"
  set (← lift "ai_operator_bond_failed" RegistryError.display
    ((← get).bondAiOperator tx.sender tx.amount tx.chainId))
  modify (lockVerifierStake tx.sender)
  chargeFee tx "AI inference layer bond fee underflow"

def applyAiOperatorUnbond : Exec Unit := do
  check tx.isBare "ai_operator_unbond_shape"
    "AI inference layer unbond requires zero amount/recipient and empty data"
  set (← lift "ai_operator_unbond_failed" id ((← get).beginAiOperatorUnbonding tx.sender))
  chargeFee tx "AI inference layer unbond fee underflow"

def applyAiOperatorWithdraw : Exec Unit := do
  check tx.isBare "ai_operator_withdraw_shape"
    "AI inference layer withdrawal requires zero amount/recipient and empty data"
  set (← lift "ai_operator_withdraw_failed" id ((← get).withdrawAiOperator tx.sender tx.fee))

/-! ### Contracts -/

def defaultContractGasLimit : UInt64 := 1000000

/-- The words of the transaction a contract can read. -/
def txContext (blockHeight : UInt64) : TxContext :=
  ⟨u64OfBytes ((hashBytes tx.sender).take 8), tx.nonce, blockHeight⟩

/-- The request a contract's events ask for, when they do. -/
def requestOfEvents (height : UInt64) : List UInt64 → Option AiInferenceRequest
  | 0x00A100A1 :: model :: maxFee :: blocks :: _ =>
    let request : AiInferenceRequest :=
      { requestId := 0
        requester := tx.sender
        modelId := hashOfBytes (u64Bytes model ++ List.replicate 24 0)
        inputCommitment := tx.signingHash L.toCrypto
        inputRef := if tx.data.length ≤ maxInferenceRefBytes then tx.data else []
        maxFee := maxFee
        callback := some tx.sender
        submittedAtBlock := height
        deadlineBlock := height.saturatingAdd blocks
        effort := EffortTier.baseline
        perception := none }
    some { request with requestId := request.calculateId L.toCrypto }
  | _ => none

/-- Use up the grant a request reads under. -/
def consumeGrant (grant : Option AssetId) (height : UInt64) : Exec Unit :=
  grant.forM fun grantId => do
    let marketplace ← lift "ai_data_access_denied" id
      ((← get).marketplace.consumeAiReadGrant grantId tx.sender height)
    modify fun s => { s with marketplace := marketplace }

/-- The checks a request passes before it reaches the registry. -/
def admitRequest (request : AiInferenceRequest) (height : UInt64) : Exec (Option AssetId) := do
  let s ← get
  lift "ai_perception_rejected" id (s.aiRegistry.admitInferenceRequest L.toCrypto request)
  lift "ai_data_access_denied" id
    (s.marketplace.validateAiReadRef request.inputRef tx.sender height)

/-- A contract's request is dropped silently when the registry refuses it. -/
def submitContractRequest (request : AiInferenceRequest) : Exec Unit := do
  let height := (← get).currentBlockHeight
  let grant ← admitRequest L tx request height
  let spendable := (← get).spendableBalance tx.sender
  check (decide (request.maxFee ≤ spendable)) "ai_insufficient_balance_for_escrow"
    s!"Insufficient balance for max_fee escrow: have {spendable}, need {request.maxFee}"
  match (← get).aiRegistry.submitRequest L.toCrypto request height with
  | .error _ => pure ()
  | .ok registry =>
    modify fun s => { s with aiRegistry := registry }
    consumeGrant tx grant height
    debit tx.sender request.maxFee underflow

def applyContractCall : Exec Unit := do
  let height := (← get).currentBlockHeight
  let events ← lift "contract_execution_failed" id
    (L.executeBytecode tx.data defaultContractGasLimit (txContext tx height))
  (requestOfEvents L tx height events).forM (submitContractRequest L tx)
  chargeFee tx underflow

/-! ### Names -/

def applyBnsRegister : Exec Unit := do
  let (name, duration) ← lift "bns_invalid_data" id (L.decode.bnsRegister tx.data)
  let s ← get
  let cost := s.bnsRegistry.calculateCost name duration
  check (decide (cost ≤ tx.amount)) "bns_insufficient_payment"
    s!"Required: {cost}, provided: {tx.amount}"
  let total ← require (tx.fee.checkedAdd cost) "bns_cost_overflow" "cost overflow"
  let spendable := s.spendableBalance tx.sender
  check (decide (total ≤ spendable)) "bns_vesting_locked"
    s!"BNS registration exceeds spendable balance: need {total}, spendable {spendable}"
  let bns ← liftFault "bns_registration_failed" BnsError.display
    (s.bnsRegistry.register name tx.sender s.epochIndex duration)
  modify fun s => { s with bnsRegistry := bns }
  debitBoth tx.sender tx.fee "balance underflow on fee deduction" cost
    "balance underflow on cost deduction"
  bump tx.sender

def applyBnsSetContent : Exec Unit := do
  let (name, cid) ← lift "bns_invalid_data" id (L.decode.bnsSetContent tx.data)
  let bns ← lift "bns_set_content_failed" BnsError.display
    ((← get).bnsRegistry.setContent name tx.sender cid)
  modify fun s => { s with bnsRegistry := bns }
  chargeFee tx underflow

def applyBnsRegisterSubdomain : Exec Unit := do
  let (parent, label, owner) ← lift "bns_invalid_data" id (L.decode.bnsRegisterSubdomain tx.data)
  let bns ← lift "bns_subdomain_failed" BnsError.display
    ((← get).bnsRegistry.registerSubdomain parent label owner tx.sender)
  modify fun s => { s with bnsRegistry := bns }
  chargeFee tx underflow

def applyBnsSetStorage : Exec Unit := do
  let (name, root, domain) ← lift "bns_invalid_data" id (L.decode.bnsSetStorage tx.data)
  let s ← get
  let bns ← lift "bns_set_storage_failed" BnsError.display
    (s.bnsRegistry.setStorage name tx.sender root domain s.epochIndex)
  modify fun s => { s with bnsRegistry := bns }
  chargeFee tx underflow

/-! ### Tokens -/

def applyNftMint : Exec Unit := do
  let (cid, author) ← lift "nft_invalid_data" id (L.decode.nftMint tx.data)
  let s ← get
  let (_, nfts) ← lift "nft_mint_refused" NftError.display
    (s.nftRegistry.mint tx.sender cid s.epochIndex author)
  modify fun s => { s with nftRegistry := nfts }
  chargeFee tx underflow

/-- A token in a folder, and a folder with members, stay where they are. -/
def checkVault (id : UInt64) (doing : String) : Exec Unit := do
  let vault := (← get).vault
  let parent := vault.referencedBy id
  check parent.isNone "vault_member_locked"
    s!"token {id} is listed in folder {parent.getD 0}; extract it before {doing}"
  check (!(vault.isFolder id && (vault.members.get id).any fun m => !m.isEmpty))
    "vault_folder_not_empty" s!"folder {id} still holds members; close it before {doing}"

def applyNftTransfer : Exec Unit := do
  let (nftId, recipient) ← lift "nft_invalid_data" id (L.decode.nftTransfer tx.data)
  checkVault nftId "transferring"
  let nfts ← lift "nft_transfer_failed" NftError.display
    ((← get).nftRegistry.transfer nftId tx.sender recipient)
  modify fun s => { s with nftRegistry := nfts }
  chargeFee tx underflow

def applyNftBurn : Exec Unit := do
  let nftId ← lift "nft_invalid_data" id (L.decode.nftBurn tx.data)
  checkVault nftId "burning"
  let (_, nfts) ← lift "nft_burn_failed" NftError.display
    ((← get).nftRegistry.burn nftId tx.sender)
  modify fun s => { s with nftRegistry := nfts }
  chargeFee tx underflow

/-- The treasury's share of a boost.  Without a treasury it is burned. -/
def creditTreasury (share : UInt64) : Exec Unit := do
  match (← get).burnReserveAddress with
  | none => pure ()
  | some treasury =>
    if share = 0 then pure ()
    else credit treasury share "Protocol treasury share overflow"

def applyNftBoost (nftId amount : UInt64) : Exec Unit := do
  let largest := UInt64.maxValue / 100
  check (decide (amount ≤ largest)) "boost_amount_too_large"
    s!"Boost amount {amount} exceeds safe maximum {largest}"
  let bud4 ← require (amount.checkedMul 4) "share_overflow" "bud_share overflow"
  let budShare := bud4 / 100
  let creator16 ← require (amount.checkedMul 16) "share_overflow" "creator_share overflow"
  let creatorShare := creator16 / 100
  let rest ← require (amount.checkedSub budShare) "share_underflow" "bud_share exceeds amount"
  let protocolShare ← require (rest.checkedSub creatorShare) "share_underflow"
    "creator_share exceeds remainder"
  let nft ← require ((← get).nftRegistry.nfts.get nftId) "nft_not_found" "NFT not found"
  let total ← require (amount.checkedAdd tx.fee) "cost_overflow" "boost cost overflow"
  let spendable := (← get).spendableBalance tx.sender
  check (decide (total ≤ spendable)) "insufficient_funds"
    s!"Cannot afford boost: need {total}, spendable {spendable}"
  debitBoth tx.sender amount "boost amount underflow" tx.fee "boost fee underflow"
  bump tx.sender
  credit nft.owner creatorShare "NFT boost creator share overflow"
  let pending ← require ((← get).pendingBudBoostShare.checkedAdd budShare)
    "pending_share_overflow" "pending bud boost share overflow"
  modify fun s => { s with pendingBudBoostShare := pending }
  creditTreasury protocolShare

def applyNftUpdateLight (nftId : UInt64) (deltaMcd : Int64) : Exec Unit := do
  let nft ← require ((← get).nftRegistry.nfts.get nftId) "nft_not_found" "NFT not found"
  check (decide (nft.owner = tx.sender)) "not_owner" "Only the NFT owner can update luminance"
  let nfts ← lift "luminance_update" NftError.display
    ((← get).nftRegistry.updateLuminance nftId deltaMcd)
  modify fun s => { s with nftRegistry := nfts }
  chargeFee tx underflow

def applyVault (vaultTx : VaultTx) : Exec Unit := do
  check (decide (tx.amount = 0)) "vault_amount_must_be_zero"
    "a vault transaction moves ids between folders; it cannot carry value"
  let s ← get
  let vault ← lift "vault_tx_failed" VaultError.display
    (executeVaultTx s.vault s.nftRegistry tx.sender vaultTx)
  modify fun s => { s with vault := vault }
  chargeFee tx underflow

/-! ### Relayed results -/

def maxRelayerResultProofBytes : Nat := 4096

/-- The proof of a relayed result under an anchored root of its chain. -/
def checkRelayerProof (res : RelayerExternalResult) : Exec Unit := do
  check (!isBlank res.txHash) "relayer_empty_tx_hash" "Transaction hash cannot be empty"
  check (decide (res.chain ≠ .ethereum)) "relayer_evm_package_required"
    "Ethereum relay results require the full DepositProofPackage consensus path"
  check (!res.receiptProof.isEmpty) "relayer_invalid_proof" "Receipt proof cannot be empty"
  check (decide (res.receiptProof.length ≤ maxRelayerResultProofBytes)) "relayer_proof_malformed"
    "Receipt proof exceeds the size ceiling"
  check (decide (res.externalStateRoot ≠ 0)) "relayer_zero_root"
    "External state root cannot be zero"
  check (decide ((← get).externalRoots.get res.chain.domainId = some res.externalStateRoot))
    "relayer_unanchored_root" "external state root has no finalized light-client anchor"
  let proof ← lift "relayer_proof_malformed" id (L.decode.merkleProof res.receiptProof)
  check (!proof.siblings.isEmpty) "relayer_proof_path" "Receipt proof must contain a sibling path"
  check (decide (proof.leaf = res.resultLeaf L.toCrypto)) "relayer_leaf_mismatch"
    "Proof leaf does not match the declared result facts"
  check (proof.verify L.toCrypto res.externalStateRoot) "relayer_proof_invalid"
    "Merkle proof does not anchor to the declared external state root"

/-- The recipient's and the relayer's part of a transfer under the current parameters. -/
def splitFee (amount : UInt64) : Exec (UInt64 × UInt64) := do
  let params := (← get).registry.params
  lift "bridge_fee_below_minimum" id
    (splitBridgeFee amount params.bridgeRelayerFeePpm params.bridgeRelayerMinFee)

/-- A locked transfer arrives: the recipient and the relayer are credited. -/
def mintBridged (msg : CrossDomainMessage) : Exec Unit := do
  let transfer ← require ((← get).bridgeState.transfers.get msg.messageId) "bridge_mint_failed"
    "Unknown bridge transfer for mint"
  let (amount, fee) ← splitFee transfer.amount
  let minted ← require (amount.checkedAdd fee) "bridge_mint_failed"
    "Bridge amount exceeds maximum representable balance"
  lift "bridge_mint_overflow" id ((← get).ensureMintHeadroom minted)
  let s ← get
  let bridge ← lift "bridge_mint_failed" id (s.bridgeState.mint L.toCrypto msg s.currentBlockHeight)
  modify fun s => { s with bridgeState := bridge }
  run "bridge_mint_overflow" (tryMintBalance transfer.recipient amount)
  if fee = 0 then pure () else run "bridge_fee_overflow" (tryMintBalance tx.sender fee)

/-- A burned transfer comes home: the owner and the relayer are credited. -/
def unlockBridged (msg : CrossDomainMessage) : Exec Unit := do
  let transferId ← require msg.correlationId "bridge_unlock_failed"
    "Bridge burn message missing correlation_id"
  let transfer ← require ((← get).bridgeState.transfers.get transferId) "bridge_unlock_failed"
    "Unknown bridge transfer for unlock"
  lift "bridge_unlock_failed" id
    (checkBurnMatchesLockDomain transfer.sourceDomain msg.targetDomain)
  let s ← get
  let bridge ← lift "bridge_unlock_failed" id
    (s.bridgeState.unlock transferId msg.sourceDomain s.currentBlockHeight)
  modify fun s => { s with bridgeState := bridge }
  let (amount, fee) ← splitFee transfer.amount
  run "bridge_unlock_overflow" (tryAddBalance transfer.owner amount)
  if fee = 0 then pure () else run "bridge_unlock_fee_overflow" (tryAddBalance tx.sender fee)

/-- The bridge leg of a relayed result that succeeded. -/
def applyBridgeMessage (res : RelayerExternalResult) : Exec Unit :=
  match res.message with
  | none => pure ()
  | some msg =>
    if !res.success then pure ()
    else match msg.kind with
      | .bridgeLock => mintBridged L tx msg
      | .bridgeBurn => unlockBridged tx msg
      | _ => pure ()

def applyRelayerResult (res : RelayerExternalResult) : Exec Unit := do
  checkRelayerProof L res
  applyBridgeMessage L tx res
  chargeFee tx underflow

/-! ### Data market and applications -/

def applyAiOfferData (cid : ContentId) (price : UInt64) : Exec Unit := do
  let (_, marketplace) ← liftFault "offer_invalid" id
    ((← get).marketplace.createOffer tx.sender cid price)
  modify fun s => { s with marketplace := marketplace }
  chargeFee tx underflow

/-- The offer is closed before the buyer's funds are looked at. -/
def applyAiPurchaseData (offerId : UInt64) : Exec Unit := do
  let offer ← require ((← get).marketplace.offers.get offerId) "offer_not_found" "Offer not found"
  check offer.active "marketplace_offer_inactive" "Offer inactive"
  let marketplace ← lift "race" id ((← get).marketplace.closeOffer offerId offer.seller)
  modify fun s => { s with marketplace := marketplace }
  let total ← require (offer.price.checkedAdd tx.fee) "cost_overflow" "offer cost overflow"
  check (decide (total ≤ (← get).spendableBalance tx.sender)) "funds" "Insufficient funds"
  debit tx.sender total underflow
  bump tx.sender
  credit offer.seller offer.price "Marketplace sale credit overflow"

/-- The application is registered before the funds are looked at. -/
def applyBudlumxyzRegisterApp (name : String) (category : AppCategory) (websiteUrl : String)
    (manifestId : Option ContentId) : Exec Unit := do
  check (decide (budlumxyzRegisterMinFee ≤ tx.amount)) "hub_insufficient_fee"
    s!"App registration requires {budlumxyzRegisterMinFee} fee, provided: {tx.amount}"
  let s ← get
  let (_, hub) ← liftFault "hub_register_refused" BudlumxyzError.display
    (s.budlumxyz.registerApp name tx.sender category websiteUrl manifestId s.epochIndex)
  modify fun s => { s with budlumxyz := hub }
  let total ← require (tx.fee.checkedAdd budlumxyzRegisterMinFee) "cost_overflow"
    "hub total cost overflow"
  let spendable := (← get).spendableBalance tx.sender
  check (decide (total ≤ spendable)) "insufficient_funds"
    s!"Hub registration requires {total}, spendable balance: {spendable}"
  debitBoth tx.sender tx.fee "hub fee underflow" budlumxyzRegisterMinFee
    "hub register fee underflow"
  bump tx.sender

def applyBudlumxyzAttestApp (appId : UInt64) : Exec Unit := do
  let hub ← lift "hub_attest_refused" BudlumxyzError.display
    ((← get).budlumxyz.attestAppAsDeveloper appId tx.sender)
  modify fun s => { s with budlumxyz := hub }
  chargeFee tx "hub attest fee underflow"

/-! ### Models, requests and results -/

def applyAiModelRegister (spec : AiModelSpec) : Exec Unit := do
  let spec := { spec with owner := tx.sender }
  let s ← get
  let registerFee := s.registry.params.aiModelRegisterFee
  check (decide (registerFee = 0) || decide (registerFee ≤ tx.amount))
    "ai_model_register_fee_insufficient"
    s!"AI model registration requires amount >= {registerFee} (governance-tunable)"
  let total ← require (tx.fee.checkedAdd registerFee) "cost_overflow" "AI register cost overflow"
  let spendable := s.spendableBalance tx.sender
  check (decide (total ≤ spendable)) "insufficient_funds"
    s!"AI registration requires {total}, spendable balance: {spendable}"
  let registry ← lift "ai_model_registration_failed" id (s.aiRegistry.registerModel L.guests spec)
  modify fun s => { s with aiRegistry := registry }
  debit tx.sender total "AI fee underflow"
  bump tx.sender

/-- Change the AI registry by a function that can refuse, and pay the fee. -/
def withAiRegistry (code : String) (f : AccountState → Except String AiRegistry) : Exec Unit := do
  let registry ← lift code id (f (← get))
  modify fun s => { s with aiRegistry := registry }
  chargeFee tx underflow

def applyAiModelDeactivate (modelId : AiModelId) : Exec Unit :=
  withAiRegistry tx "ai_model_deactivate_failed" (·.aiRegistry.deactivateModel modelId tx.sender)

def applyAiModelReactivate (modelId : AiModelId) : Exec Unit :=
  withAiRegistry tx "ai_model_reactivate_failed" (·.aiRegistry.reactivateModel modelId tx.sender)

def applyAiInferenceRequest (request : AiInferenceRequest) : Exec Unit := do
  let request := { request with requester := tx.sender }
  let needed ← require (request.maxFee.checkedAdd tx.fee) "cost_overflow" "AI cost overflow"
  check (decide (needed ≤ (← get).spendableBalance tx.sender)) "ai_insufficient_fee_balance"
    "Sender balance insufficient for AI inference request max_fee"
  let height := (← get).currentBlockHeight
  let grant ← admitRequest L tx request height
  let registry ← lift "ai_request_failed" id
    ((← get).aiRegistry.submitRequest L.toCrypto request height)
  modify fun s => { s with aiRegistry := registry }
  consumeGrant tx grant height
  let total ← require (tx.fee.checkedAdd request.maxFee) "cost_overflow" "AI total cost overflow"
  let spendable := (← get).spendableBalance tx.sender
  check (decide (total ≤ spendable)) "insufficient_funds"
    s!"AI inference requires {total}, spendable: {spendable}"
  debitBoth tx.sender tx.fee "AI fee underflow" request.maxFee "AI max_fee underflow"
  bump tx.sender

/-- Pay the reward of each verifier; the first `remainder` of them get one unit more. -/
def payVerifiers (reward : UInt64) : (remainder : Nat) → List Address → Exec Unit
  | _, [] => pure ()
  | remainder, verifier :: rest => do
    let share ← EStateM.orThrow (reward.checkedAdd (if 0 < remainder then 1 else 0)) .panic
    credit verifier share "AI verifier reward overflow"
    payVerifiers reward (remainder - 1) rest

/-- The output becomes a token and a data asset of the requester, when that is possible. -/
def publishOutput (requester : Address) (result : AiInferenceResult) (s : AccountState) :
    AccountState :=
  let cid := L.toCrypto.contentIdOf result.outputRef
  let s := match s.nftRegistry.mint requester cid s.epochIndex (some "ai-inference") with
    | .ok (_, nfts) => { s with nftRegistry := nfts }
    | .error _ => s
  let asset := DataAsset.new L.toCrypto requester cid result.outputCommitment false
  match s.marketplace.registerDataAsset L.toCrypto asset with
  | .ok marketplace => { s with marketplace := marketplace }
  | .error _ => s

/-- The fee of a request, shared evenly. -/
def rewardVerifiers (maxFee : UInt64) (verifiers : List Address) : Exec Unit :=
  if verifiers.isEmpty then pure ()
  else payVerifiers (UInt64.ofNat (maxFee.toNat / verifiers.length))
    (maxFee.toNat % verifiers.length) verifiers

/-- An agreement was reached: its verifiers share the fee. -/
def settleOutcome (result : AiInferenceResult) (outcome : AiInferenceOutcome) : Exec Unit := do
  ((← get).aiRegistry.requests.get outcome.requestId).forM fun request => do
    rewardVerifiers request.maxFee outcome.agreeingVerifiers
    modify (publishOutput L request.requester result)

/-- A result that contradicts an earlier one of its signer is not an error: the evidence is kept
and the fee is paid. -/
def submitResult (result : AiInferenceResult) (height : UInt64) :
    Exec (Option AiInferenceOutcome) := do
  let outcome ← EStateM.zoom AccountState.aiRegistry (fun r s => { s with aiRegistry := r }) id
    (EStateM.attempt (AiRegistry.submitResult result height))
  match outcome with
  | .ok outcome => return outcome
  | .error e => do
    check (isEquivocationError e) "ai_result_failed" e
    return none

def applyAiInferenceResult (result : AiInferenceResult) : Exec Unit := do
  check ((← get).registry.isActive tx.sender Roles.aiOperator) "ai_operator_unauthorized"
    "Inference result signer must be an active bonded AI_OPERATOR (RoleId=8)"
  let height := (← get).currentBlockHeight
  let result := { result with verifier := tx.sender, submittedAtBlock := height }
  (← submitResult result height).forM (settleOutcome L result)
  chargeFee tx underflow

def applyAiFeeReclaim (requestId : AiRequestId) : Exec Unit := do
  let s ← get
  let (requester, maxFee, registry) ← lift "ai_fee_reclaim_failed" id
    (s.aiRegistry.reclaimFee requestId s.currentBlockHeight)
  modify fun s => { s with aiRegistry := registry }
  check (decide (requester = tx.sender)) "ai_fee_reclaim_unauthorized"
    "Only the original requester can reclaim the escrowed fee"
  credit requester maxFee "AI fee reclaim overflow"
  debit requester tx.fee underflow
  bump requester

def applyAiRequestCancel (requestId : AiRequestId) : Exec Unit := do
  let (requester, maxFee, registry) ← lift "ai_request_cancel_failed" id
    ((← get).aiRegistry.cancelRequest requestId tx.sender)
  modify fun s => { s with aiRegistry := registry }
  credit requester maxFee "AI fee reclaim overflow"
  chargeFee tx underflow

def applyAiDisputeSlash (requestId : AiRequestId) (verifier : Address) : Exec Unit := do
  check ((← get).registry.isActive verifier Roles.aiOperator) "ai_slash_operator_inactive"
    "Equivocation target is not an active bonded AI_OPERATOR"
  let s ← get
  let registry ← lift "ai_dispute_slash_failed" id
    (s.aiRegistry.slashEquivocator requestId verifier s.currentBlockHeight)
  modify fun s => { s with aiRegistry := registry }
  let (_, roles) ← lift "ai_role_slash_failed" RegistryError.display
    ((← get).registry.slashRoleOnly verifier Roles.aiOperator .maliciousBehaviour fixedPointScale)
  modify fun s => { s with registry := roles }
  chargeFee tx underflow

def applyAiAttachExecutionProof (requestId : AiRequestId) (proof : AiExecutionProof) :
    Exec Unit := do
  check ((← get).registry.isActive tx.sender Roles.aiOperator) "ai_operator_unauthorized"
    "Execution proof signer must be an active bonded AI_OPERATOR (RoleId=8)"
  let registry := (← get).aiRegistry
  let request ← require (registry.requests.get requestId) "ai_exec_no_request" "request not found"
  let results ← require (registry.results.get requestId) "ai_exec_no_result"
    "no results for request"
  let result ← require (results.find? fun r => decide (r.verifier = tx.sender))
    "ai_exec_not_verifier_result" "tx.from has no result for request"
  EStateM.ofExcept ((proof.check L tx.chainId request result
    (registry.models.get proof.modelId)).mapError .fail)
  let registry ← lift "ai_exec_attach" id
    (registry.attachExecutionProof requestId tx.sender proof)
  modify fun s => { s with aiRegistry := registry.tryFinalizeWithProofs requestId }
  chargeFee tx underflow

/-! ### Payments between agents -/

def applyAiAgentPayment (payment : AiAgentPayment) : Exec Unit := do
  let height := (← get).currentBlockHeight
  check (decide (payment.fromAgent = tx.sender)) "ai_payment_from_spoof"
    "Agent payment: from_agent must equal tx.from"
  let total ← require (payment.amount.checkedAdd tx.fee) "cost_overflow" "payment cost overflow"
  check (decide (total ≤ (← get).spendableBalance tx.sender)) "ai_payment_insufficient_funds"
    "Insufficient funds for agent payment + fee"
  let registry ← lift "ai_payment_invalid" id
    ((← get).aiRegistry.submitAgentPayment payment height)
  modify fun s => { s with aiRegistry := registry }
  debit tx.sender total underflow
  bump tx.sender
  if payment.isEscrowed then pure ()
  else do
    credit payment.toAgent payment.amount "Agent payment credit overflow"
    let registry ← lift "ai_payment_settle_failed" id
      ((← get).aiRegistry.settleAgentPaymentImmediate payment.paymentId height)
    modify fun s => { s with aiRegistry := registry }

def applyAiAgentPaymentRelease (paymentId : Hash32) : Exec Unit := do
  let s ← get
  let payment ← require (s.aiRegistry.agentPayments.get paymentId) "ai_payment_release_failed"
    "Agent payment: payment_id not found"
  let (recipient, registry) ← lift "ai_payment_release_failed" id
    (s.aiRegistry.releaseAgentPayment paymentId s.currentBlockHeight)
  modify fun s => { s with aiRegistry := registry }
  credit recipient payment.amount "Agent payment release overflow"
  chargeFee tx underflow

/-- The reclaimed amount and the fee meet on one balance; the sum is checked before the write. -/
def reclaimBalance (amount fee balance : UInt64) : Except (Fault BudlumError) UInt64 := do
  let available ← Except.ofOption (balance.checkedAdd amount)
    (refuse "balance_overflow" "reclaim balance overflow")
  Except.ensure (decide (fee ≤ available)) (refuse "ai_payment_reclaim_insufficient_fee"
    "Reclaimed amount + existing balance insufficient for tx fee")
  Except.ofOption (available.checkedSub fee) (refuse "balance_arithmetic_overflow"
    "AI payment reclaim + fee arithmetic overflow")

def applyAiAgentPaymentReclaim (paymentId : Hash32) : Exec Unit := do
  let s ← get
  let (amount, registry) ← lift "ai_payment_reclaim_failed" id
    (s.aiRegistry.reclaimAgentPayment paymentId tx.sender s.currentBlockHeight)
  modify fun s => { s with aiRegistry := registry }
  updateBalance tx.sender (reclaimBalance amount tx.fee)
  bump tx.sender

/-! ### Data rights -/

/-- Change the marketplace by a function that can refuse, and pay the fee. -/
def withMarketplace (code : String) (f : MarketplaceRegistry → Except String MarketplaceRegistry) :
    Exec Unit := do
  let marketplace ← lift code id (f (← get).marketplace)
  modify fun s => { s with marketplace := marketplace }
  chargeFee tx underflow

def applyPollenRegisterDataAsset (asset : DataAsset) : Exec Unit := do
  check (decide (asset.owner = tx.sender)) "pollen_asset_owner_mismatch"
    "DataAsset owner must equal tx.from"
  let assetId := DataAsset.deriveId L.toCrypto asset.owner asset.manifestId asset.metadataCommitment
  withMarketplace tx "pollen_asset_register_failed"
    (·.registerDataAsset L.toCrypto { asset with assetId := assetId })

def applyPollenAuthorizeSale (authorization : SaleAuthorization) : Exec Unit := do
  check (decide (authorization.seller = tx.sender)) "pollen_sale_seller_mismatch"
    "SaleAuthorization seller must equal tx.from"
  withMarketplace tx "pollen_sale_authorization_failed"
    (·.createSaleAuthorization L.toCrypto authorization)

def applyPollenGrantAccess (grant : AccessGrant) : Exec Unit := do
  check (decide (grant.owner = tx.sender)) "pollen_grant_owner_mismatch"
    "AccessGrant owner must equal tx.from"
  withMarketplace tx "pollen_grant_failed" (·.createAccessGrant L.toCrypto grant)

def applyPollenRevokeGrant (grantId : AssetId) : Exec Unit :=
  withMarketplace tx "pollen_grant_revoke_failed" (·.revokeAccessGrant grantId tx.sender)

def applyPollenRevokeDataAsset (assetId : AssetId) : Exec Unit :=
  withMarketplace tx "pollen_asset_revoke_failed" (·.revokeDataAsset assetId tx.sender)

/-! ### Private notes -/

/-- Private transfers run on the development and test networks only. -/
def privacyTransfersEnabled (chainId : UInt64) : Bool :=
  decide (chainId = Network.devnet.chainId) || decide (chainId = Network.testnet.chainId)

def applyPrivacyNoteInsert (commitment : Hash32) : Exec Unit := do
  check (privacyTransfersEnabled tx.chainId) "privacy_mainnet_disabled"
    "privacy note insertion is disabled on mainnet until full proof verification is wired"
  check (isNoteHash commitment) "privacy_note_shape" "commitment is not a packed field element"
  let notes ← lift "privacy_note_insert" id ((← get).noteRegistry.insertNote commitment)
  modify fun s => { s with noteRegistry := notes }
  chargeFee tx underflow

/-- The sender's signature on the public digest of a private transfer. -/
def transferAuthorized (submit : PrivateTransferSubmit) : Bool :=
  let digest := hashBytes submit.publicDigest
  if tx.signatureVersion = signatureVersionV5 then
    (L.toCrypto.verifyMlDsa87Signature digest submit.authorizationSig tx.signerPublicKey).toBool
  else (L.verifySignature digest submit.authorizationSig (hashBytes tx.sender)).toBool

def applyPrivateTransferSubmit (submit : PrivateTransferSubmit) : Exec Unit := do
  check (privacyTransfersEnabled tx.chainId) "privacy_mainnet_disabled"
    "private transfers are disabled on mainnet until ownership, value-conservation, and membership proofs are wired"
  lift "private_transfer_shape" id submit.validateShape
  check (submit.verifyDigestMatches L.toCrypto) "private_transfer_digest"
    "public_digest does not match nullifiers/outputs"
  check (transferAuthorized L tx submit) "private_transfer_auth"
    "authorization_sig invalid for tx.from"
  let notes ← lift "private_transfer_apply" id ((← get).noteRegistry.applyTransfer L.toCrypto
    submit.spentCommitments submit.nullifiers submit.outputCommitments)
  modify fun s => { s with noteRegistry := notes }
  chargeFee tx underflow

/-! ### Nonces of other accounts, identities -/

def writeNonces (updates : List (Address × UInt64)) (s : AccountState) : AccountState :=
  updates.foldl (fun s u => s.setNonce u.1 u.2) s

def stateUpdateNonceCeiling : UInt64 := UInt64.maxValue - 1000

/-- One entry of a state update against the nonce before the transaction. -/
def checkStateUpdate (domainId : DomainId) (domainHeight : UInt64) (s : AccountState)
    (u : Address × UInt64) : Except (Fault BudlumError) Unit := do
  Except.ensure (decide (s.getNonce u.1 < u.2)) (refuse "state_update_nonce"
    s!"domain {domainId} height {domainHeight}: non-monotonic nonce for {toHex u.1}")
  Except.ensure (decide (u.2 < stateUpdateNonceCeiling)) (refuse "state_update_nonce_ceiling"
    s!"domain {domainId} height {domainHeight}: nonce near u64::MAX for {toHex u.1}")

/-- Every entry is checked before the first is written. -/
def applyStateUpdate (domainId : DomainId) (domainHeight : UInt64)
    (updates : List (Address × UInt64)) : Exec Unit := do
  check (decide (updates.length ≤ maxStateUpdates)) "state_update_ceiling"
    s!"domain {domainId} height {domainHeight}: {updates.length} state updates exceed {maxStateUpdates}"
  EStateM.ofExcept (updates.forM (checkStateUpdate domainId domainHeight (← get)))
  modify (writeNonces updates)
  chargeFee tx underflow

/-- Identities are written on chains of one kind of consensus only: `domain` is the chain's own. -/
def applyIdentity (domain : ConsensusKind) (identityTx : IdentityTx) : Exec Unit := do
  check (decide (tx.amount = 0)) "identity_amount_must_be_zero"
    "an identity transaction commits state; an unspent amount would be silently burned"
  let s ← get
  let identity ← lift "identity_tx_failed" IdentityError.display
    (s.identity.executeIdentityTx L.toCrypto tx.sender identityTx domain s.epochIndex tx.chainId)
  modify fun s => { s with identity := identity }
  chargeFee tx underflow

/-! ### Dispatch -/

/-- What each kind of transaction does on a chain of the given consensus. -/
def applyKind (domain : ConsensusKind) : Exec Unit :=
  match tx.txType with
  | .transfer => applyTransfer tx
  | .stake => applyStake tx
  | .unstake => applyUnstake tx
  | .vote => applyVote L tx
  | .contractCall => applyContractCall L tx
  | .bnsRegister => applyBnsRegister L tx
  | .bnsSetContent => applyBnsSetContent L tx
  | .bnsRegisterSubdomain => applyBnsRegisterSubdomain L tx
  | .bnsSetStorage => applyBnsSetStorage L tx
  | .nftMint => applyNftMint L tx
  | .nftTransfer => applyNftTransfer L tx
  | .nftBurn => applyNftBurn L tx
  | .nftBoost nftId amount => applyNftBoost tx nftId amount
  | .nftUpdateLight nftId deltaMcd => applyNftUpdateLight tx nftId deltaMcd
  -- tags and relayed calls leave no trace but the fee
  | .nftTag .. | .universalRelay _ => chargeFee tx underflow
  | .relayerResult res => applyRelayerResult L tx res
  | .aiOfferData cid price => applyAiOfferData tx cid price
  | .aiPurchaseData offerId => applyAiPurchaseData tx offerId
  | .budlumxyzRegisterApp name category url manifest =>
    applyBudlumxyzRegisterApp tx name category url manifest
  | .budlumxyzAttestApp appId => applyBudlumxyzAttestApp tx appId
  | .aiModelRegister spec => applyAiModelRegister L tx spec
  | .aiInferenceRequest request => applyAiInferenceRequest L tx request
  | .aiInferenceResult result => applyAiInferenceResult L tx result
  | .aiFeeReclaim requestId => applyAiFeeReclaim tx requestId
  | .aiModelDeactivate modelId => applyAiModelDeactivate tx modelId
  | .aiModelReactivate modelId => applyAiModelReactivate tx modelId
  | .aiRequestCancel requestId => applyAiRequestCancel tx requestId
  | .pollenRegisterDataAsset asset => applyPollenRegisterDataAsset L tx asset
  | .pollenAuthorizeSale authorization => applyPollenAuthorizeSale L tx authorization
  | .pollenGrantAccess grant => applyPollenGrantAccess L tx grant
  | .pollenRevokeGrant grantId => applyPollenRevokeGrant tx grantId
  | .pollenRevokeDataAsset assetId => applyPollenRevokeDataAsset tx assetId
  | .aiDisputeSlash requestId verifier => applyAiDisputeSlash tx requestId verifier
  | .aiAgentPayment payment => applyAiAgentPayment tx payment
  | .aiAgentPaymentRelease paymentId => applyAiAgentPaymentRelease tx paymentId
  | .aiAgentPaymentReclaim paymentId => applyAiAgentPaymentReclaim tx paymentId
  | .privateTransferSubmit submit => applyPrivateTransferSubmit L tx submit
  | .privacyNoteInsert commitment => applyPrivacyNoteInsert tx commitment
  | .aiAttachExecutionProof requestId proof => applyAiAttachExecutionProof L tx requestId proof
  | .aiOperatorBond => applyAiOperatorBond tx
  | .aiOperatorUnbond => applyAiOperatorUnbond tx
  | .aiOperatorWithdraw => applyAiOperatorWithdraw tx
  | .registerConsensusKeys registration => applyRegisterConsensusKeys L tx registration
  | .stateUpdate domainId height updates => applyStateUpdate tx domainId height updates
  | .identity identityTx => applyIdentity L tx domain identityTx
  | .vault vaultTx => applyVault tx vaultTx

/-- Unstaking and voting never come for free. -/
def checkFloor : Exec Unit :=
  match tx.txType with
  | .unstake => do
    check (decide (tx.amount ≠ 0)) "unstake_amount_zero" "Unstake amount cannot be 0"
    check (decide (tx.fee ≠ 0)) "unstake_fee_zero" "Unstake fee cannot be 0 (consensus cost-floor)"
  | .vote =>
    check (decide (tx.fee ≠ 0)) "vote_fee_zero" "Vote fee cannot be 0 (consensus cost-floor)"
  | _ => pure ()

/-- What the sender's balance has to cover at the least. -/
def liquidCost : UInt64 :=
  match tx.txType with
  | .unstake | .vote => tx.fee
  | _ => tx.totalCost

def applyTransactionChecked (domain : ConsensusKind) : Exec Unit :=
  if tx.sender = Address.zero then
    check (tx.verify L.toCrypto) "zero_address_sender_forbidden"
      "the zero address cannot originate transactions outside the canonical genesis transaction"
  else do
    check (decide ((← get).burnReserveAddress ≠ some tx.sender)) "burn_reserve_locked"
      "Burn reserve is schedule-controlled and cannot originate transactions"
    checkFloor tx
    modify (·.touch tx.sender)
    check (decide (liquidCost tx ≤ (← get).getBalance tx.sender)) "insufficient_balance"
      "Insufficient balance"
    applyKind L tx domain

/-! ### Blocks -/

def maxBlockContractGas : UInt64 := 64 * defaultContractGasLimit

/-- The contract calls of a block share a gas budget. -/
def checkContractCallCount (calls : UInt64) : Exec Unit :=
  let asked := calls.saturatingMul defaultContractGasLimit
  check (decide (asked ≤ maxBlockContractGas)) "block_contract_gas_exceeded"
    s!"block asks {asked} contract gas over {calls} calls; the block budget is {maxBlockContractGas}"

def checkBlockContractGas (txs : List Transaction) : Exec Unit :=
  checkContractCallCount
    (UInt64.ofNat (txs.countP fun tx => decide (tx.txType = .contractCall)))

/-- The producer's part of one fee: what is not burned. -/
def payProducer (producer : Address) (tx : Transaction) : Exec Unit := do
  let burn := (← get).tokenomics.metabolicBurn tx.fee
  let producerFee ← require (tx.fee.checkedSub burn) "fee_underflow" "producer fee underflow"
  if producerFee = 0 then pure ()
  else run "producer_fee_overflow" (tryAddBalance producer producerFee)

def applyAction (action : GovernanceAction) : Exec Unit :=
  match action with
  | .whitelistVerifier a =>
    modify fun s => { s with aiRegistry := s.aiRegistry.whitelistVerifier a }
  | .dewhitelistVerifier a =>
    modify fun s => { s with aiRegistry := s.aiRegistry.dewhitelistVerifier a }
  | .setEncryptionPolicy policy => do
    let marketplace ← lift "pollen_encryption_policy" id
      ((← get).marketplace.setEncryptionPolicy policy)
    modify fun s => { s with marketplace := marketplace }
  | .setConstitutionParameter parameter =>
    EStateM.zoom (·.governance.constitution)
      (fun c s => { s with governance := { s.governance with constitution := c } })
      (refuse "constitution_parameter") (ConstitutionRegistry.setParameter parameter)
  | .unfreezeConsensusDomain domainId setHash justification =>
    modify fun s => { s with pendingDomainUnfreezes :=
      s.pendingDomainUnfreezes ++ [⟨domainId, setHash, justification⟩] }

def applyDueActions : Exec Unit := do
  let s ← get
  let (actions, governance) := s.governance.executePassedProposals s.epochIndex
  modify fun s => { s with governance := governance }
  actions.forM applyAction

/-- A block: transactions, fees, governance actions. -/
def applyBlockChecked (domain : ConsensusKind) (txs : List Transaction)
    (producer : Option Address) : Exec Unit := do
  checkBlockContractGas txs
  txs.forM fun tx => applyTransactionChecked L tx domain
  producer.forM fun p => txs.forM (payProducer p)
  applyDueActions

end Executor

end Budlum
