import Budlum.Execution.Effects

/-!
# The fees of inference requests

A request takes its fee from the requester.  The fee should leave again exactly once: to the
verifiers when the request is finalized by a result, to the requester when it is cancelled or
reclaimed.  Two more steps end a request and credit nobody, the proof that completes an agreement
and the sweep that removes what is past its deadlines.

What is credited on behalf of a request is read off the balances: all that accounts hold after a
transaction about the request, with the fee of the transaction, less all they held before.

* `Executor.requests_settled_iff` : when the fee of every request is credited exactly once.
-/

namespace Budlum

open AiRegistry (isOpen isOpen_of_get isOpen_of_tables isOpen_pruneExpired isSettled)
open EStateM.Ensures (get_bind modify_bind ofExcept_bind orThrow_bind)

namespace Executor

open AccountState EStateM

variable {L : Linked} {domain : ConsensusKind} {tx : Transaction} {s s' : AccountState}
  {id : AiRequestId}

/-! ### Transactions -/

theorem applyAiInferenceRequest_opens (request : AiInferenceRequest) :
    (applyAiInferenceRequest L tx request).Ensures s fun _ s' =>
      s'.circulatingSupply + (tx.fee.toNat + request.maxFee.toNat) = s.circulatingSupply ∧
        s.aiRegistry.Opens { request with requester := tx.sender } s'.aiRegistry := by
  refine require_bind fun _ _ => get_bind <| check_bind fun _ => get_bind <|
    admitRequest_bind fun grant _ => get_bind <| lift_bind fun r hsubmit =>
      modify_bind <| (consumeGrant_eq grant _).bind fun _ s₁ ⟨market, hgrant⟩ =>
        require_bind fun _ _ => get_bind <| check_bind fun _ =>
          (debitBoth_transfers _ _ _ _ _).bind fun _ _ hdebit => ensures_modify.2 ?_
  have hgranted : Books [] [] { s with aiRegistry := r } s₁ := hgrant ▸ (Books.refl _).after rfl rfl
  have hbooks := (hgranted.trans hdebit.toBooks).bumpNonce tx.sender
  refine ⟨?_, hbooks.aiRegistry.symm ▸ AiRegistry.submitRequest_opens hsubmit⟩
  simpa using hbooks.supply_of_registry

/-- A transaction about a request either leaves the tables alone and credits nobody, or settles the
request and credits its fee. -/
def SettlesByFee (id : AiRequestId) (credited : Nat) (r r' : AiRegistry) : Prop :=
  (credited = 0 ∧ r'.requestTables = r.requestTables) ∨
    ∃ request, r.Closes id request r' ∧ credited = request.maxFee.toNat

theorem submitResult_outcome (hmodels : s.aiRegistry.ValidModels) (result : AiInferenceResult)
    (height : UInt64) :
    (submitResult result height).Ensures s fun outcome s' => s'.accounts = s.accounts ∧
      s.aiRegistry.ResultOutcome result.requestId outcome s'.aiRegistry := by
  have hattempt : (attempt (AiRegistry.submitResult result height) :
      EStateM (Fault BudlumError) AiRegistry _).Ensures s.aiRegistry fun outcome r' =>
        s.aiRegistry.ResultOutcome result.requestId outcome.toOption.join r' := by
    refine ensures_attempt (AiRegistry.submitResult_outcome hmodels result height) ?_
    rintro e r' hrun e' -
    exact (AiRegistry.submitResult_error_tables result height e r' hrun).1
  refine (submitResult_eq result height).mono ?_
  rintro _ _ ⟨answer, r, hrun, rfl, rfl⟩
  exact ⟨rfl, hattempt answer r hrun⟩

variable {request : AiInferenceRequest}

theorem settleOutcome_books {result : AiInferenceResult} {outcome : AiInferenceOutcome}
    (hget : s.aiRegistry.requests.get outcome.requestId = some request)
    (hagreeing : outcome.agreeingVerifiers ≠ []) : (settleOutcome L result outcome).Ensures s fun _
    s' => ∃ received : Bookings, Books [] received s s' ∧ received.total =
    request.maxFee.toNat := by
  refine get_bind ?_
  rw [hget]
  refine (rewardVerifiers_transfers _ _).bind fun _ s₁ ⟨received, hpaid, htotal⟩ =>
    ensures_modify.2 ⟨received, ?_, htotal.trans (if_neg hagreeing)⟩
  have hledger := (publishOutput_ledger (L := L) request.requester result s₁).1
  exact hpaid.toBooks.after (congrArg Ledger.accounts hledger) (congrArg Ledger.aiRegistry hledger)

theorem applyAiInferenceResult_settles (hmodels : s.aiRegistry.ValidModels)
    (result : AiInferenceResult) :
    (applyAiInferenceResult L tx result).Ensures s fun _ s' => ∃ credited,
      s'.circulatingSupply + tx.fee.toNat = s.circulatingSupply + credited ∧
        SettlesByFee result.requestId credited s.aiRegistry s'.aiRegistry := by
  refine get_bind <| check_bind fun _ => get_bind <|
    (submitResult_outcome hmodels _ _).bind fun outcome s₁ hsubmit => ?_
  obtain ⟨haccounts, houtcome⟩ := hsubmit
  have hsupply : s₁.circulatingSupply = s.circulatingSupply := by
    simp only [circulatingSupply, haccounts]
  cases outcome with
  | none =>
    refine (chargeFee_books (Books.refl s₁)).mono fun _ s' hbooks => ⟨0, ?_, .inl ⟨rfl, ?_⟩⟩
    · simpa [hsupply] using hbooks.supply
    · rwa [hbooks.aiRegistry]
  | some o =>
    obtain ⟨request, hcloses, hid, hagreeing⟩ := houtcome
    have hget : s₁.aiRegistry.requests.get o.requestId = some request := by
      rw [hcloses.requests, hid]
      exact hcloses.get
    refine Ensures.bind (settleOutcome_books hget hagreeing) fun _ s₂ hsettle => ?_
    obtain ⟨received, hpaid, htotal⟩ := hsettle
    refine (chargeFee_books hpaid).mono fun _ s' hbooks =>
      ⟨request.maxFee.toNat, ?_, .inr ⟨request, ?_, rfl⟩⟩
    · simpa [hsupply, htotal] using hbooks.supply
    · rwa [hbooks.aiRegistry]

variable (id)

theorem applyAiFeeReclaim_settles : (applyAiFeeReclaim tx id).Ensures s fun _ s' => ∃ credited,
      s'.circulatingSupply + tx.fee.toNat = s.circulatingSupply + credited ∧
        SettlesByFee id credited s.aiRegistry s'.aiRegistry := by
  refine get_bind <| lift_bind fun ⟨requester, fee, r⟩ hreclaim => modify_bind <|
    check_bind fun _ => (credit_transfers _ _ _).bind fun _ _ hcredit =>
    (debit_transfers _ _ _).bind fun _ _ hdebit => ensures_modify.2 ?_
  obtain ⟨request, hcloses, rfl, -⟩ := AiRegistry.reclaimFee_closes hreclaim
  have hbooks := (hcredit.trans hdebit).toBooks.bumpNonce requester
  refine ⟨request.maxFee.toNat, ?_, .inr ⟨request, hbooks.aiRegistry.symm ▸ hcloses, rfl⟩⟩
  simpa using hbooks.supply_of_registry

theorem applyAiRequestCancel_settles :
    (applyAiRequestCancel tx id).Ensures s fun _ s' => ∃ credited,
      s'.circulatingSupply + tx.fee.toNat = s.circulatingSupply + credited ∧
        SettlesByFee id credited s.aiRegistry s'.aiRegistry := by
  refine get_bind <| lift_bind fun ⟨requester, fee, r⟩ hcancel => modify_bind <|
    (credit_transfers _ _ _).bind fun _ _ hcredit =>
    (chargeFee_books hcredit.toBooks).mono fun _ _ hbooks => ?_
  obtain ⟨request, hcloses, rfl, -⟩ := AiRegistry.cancelRequest_closes hcancel
  refine ⟨request.maxFee.toNat, ?_, .inr ⟨request, hbooks.aiRegistry.symm ▸ hcloses, rfl⟩⟩
  simpa using hbooks.supply_of_registry

/-- A proof credits nobody, and the registry takes it before it looks for an agreement. -/
theorem applyAiAttachExecutionProof_registry (proof : AiExecutionProof) :
    (applyAiAttachExecutionProof L tx id proof).Ensures s fun _ s' =>
      s'.circulatingSupply + tx.fee.toNat = s.circulatingSupply ∧
        ∃ r, s.aiRegistry.attachExecutionProof id tx.sender proof = .ok r ∧
          s'.aiRegistry = r.tryFinalizeWithProofs id := by
  refine get_bind <| check_bind fun _ => get_bind <| require_bind fun _ _ =>
    require_bind fun _ _ => require_bind fun _ _ => ofExcept_bind fun _ _ =>
      lift_bind fun r hattach => modify_bind <|
        (chargeFee_books (Books.refl _)).mono fun _ _ hbooks => ⟨?_, r, hattach, hbooks.aiRegistry⟩
  simpa using hbooks.supply_of_registry

variable {id}

/-! ### Runs -/

inductive RequestAction where
  | transaction (tx : Transaction)
  | prune (currentBlock retention : UInt64)

namespace RequestAction

def fee : RequestAction → Nat
  | transaction tx => tx.fee.toNat
  | prune _ _ => 0

/-- The action asks for the request to be taken. -/
def opens (id : AiRequestId) : RequestAction → Bool
  | transaction tx => match tx.txType with
    | .aiInferenceRequest request => decide (request.requestId = id)
    | _ => false
  | prune _ _ => false

/-- The action is about the request; the sweep is about all of them. -/
def concerns (id : AiRequestId) : RequestAction → Bool
  | transaction tx => match tx.txType with
    | .aiInferenceResult result => decide (result.requestId = id)
    | .aiAttachExecutionProof requestId _ | .aiRequestCancel requestId | .aiFeeReclaim requestId =>
      decide (requestId = id)
    | _ => false
  | prune _ _ => true

end RequestAction

/-- The transaction is one of the five about inference requests. -/
def isRequestKind (tx : Transaction) : Bool :=
  match tx.txType with
  | .aiInferenceRequest _ | .aiInferenceResult _ | .aiAttachExecutionProof _ _ | .aiRequestCancel _
  | .aiFeeReclaim _ => true
  | _ => false

/-- An action between the states around it. -/
structure RequestStep where
  before : AccountState
  action : RequestAction
  after : AccountState

/-- What accounts gain by a step, its fee apart. -/
def RequestStep.gain (step : RequestStep) : Nat :=
  step.after.circulatingSupply + step.action.fee - step.before.circulatingSupply

/-- What accounts lose by a step, its fee apart. -/
def RequestStep.loss (step : RequestStep) : Nat :=
  step.before.circulatingSupply - (step.after.circulatingSupply + step.action.fee)

theorem gain_transaction {credited : Nat}
    (h : s'.circulatingSupply + tx.fee.toNat = s.circulatingSupply + credited) :
    RequestStep.gain ⟨s, .transaction tx, s'⟩ = credited := by
  change s'.circulatingSupply + tx.fee.toNat - s.circulatingSupply = credited
  omega

/-- What was put up for a request when it was last taken; the steps are listed newest first. -/
def escrowed (id : AiRequestId) : List RequestStep → Option Nat
  | [] => none
  | step :: earlier => if step.action.opens id then some step.loss else escrowed id earlier

/-- What was credited on behalf of a request since it was last taken. -/
def creditedSince (id : AiRequestId) : List RequestStep → Nat
  | [] => 0
  | step :: earlier =>
    if step.action.opens id then 0
    else (if step.action.concerns id then step.gain else 0) + creditedSince id earlier

/-- Nothing is credited on behalf of an open request, and what was put up for it on behalf of any
other. -/
def SettledOnce (steps : List RequestStep) (r : AiRegistry) : Prop :=
  ∀ id fee, escrowed id steps = some fee → creditedSince id steps = if r.isOpen id then 0 else fee

/-- Transactions about requests and sweeps, newest first, among any other changes of the state that
leave the tables of requests alone. -/
inductive RequestRun (L : Linked) (s₀ : AccountState) : List RequestStep → AccountState → Prop
  | start : RequestRun L s₀ [] s₀
  | other {steps : List RequestStep} {s s' : AccountState} : RequestRun L s₀ steps s →
      s'.aiRegistry.requests = s.aiRegistry.requests →
      s'.aiRegistry.outcomes = s.aiRegistry.outcomes →
      s'.aiRegistry.cancelledRequests = s.aiRegistry.cancelledRequests →
      s'.aiRegistry.reclaimedFees = s.aiRegistry.reclaimedFees →
      s'.aiRegistry.ValidModels → RequestRun L s₀ steps s'
  | apply {steps : List RequestStep} {s s' : AccountState} {tx : Transaction}
      (domain : ConsensusKind) : RequestRun L s₀ steps s → tx.sender ≠ Address.zero →
      isRequestKind tx = true → (applyTransactionChecked L tx domain).run s = .ok () s' →
      RequestRun L s₀ (⟨s, .transaction tx, s'⟩ :: steps) s'
  | prune {steps : List RequestStep} {s : AccountState} (currentBlock retention : UInt64) :
      RequestRun L s₀ steps s →
      RequestRun L s₀ (⟨s, .prune currentBlock retention,
        { s with aiRegistry := s.aiRegistry.pruneExpired currentBlock retention }⟩ :: steps)
        { s with aiRegistry := s.aiRegistry.pruneExpired currentBlock retention }

/-- A proof finalizes no request, and a sweep finds only requests that are settled. -/
def RequestStep.PaysOut (step : RequestStep) : Prop :=
  match step.action with
  | .transaction tx => match tx.txType with
    | .aiAttachExecutionProof id proof => ∀ r,
      step.before.aiRegistry.attachExecutionProof id tx.sender proof = .ok r →
        r.outcomeWithProofs id = none
    | _ => True
  | .prune currentBlock retention => ∀ id,
    step.before.aiRegistry.sweeps currentBlock retention id = true →
      step.before.aiRegistry.isSettled id = true

/-! ### What one step does -/

/-- What a transaction about requests does, by its kind. -/
inductive RequestEffect (tx : Transaction) (s s' : AccountState) : Prop
  | opens (request : AiInferenceRequest) (hkind : tx.txType = .aiInferenceRequest request)
      (hsupply : s'.circulatingSupply + (tx.fee.toNat + request.maxFee.toNat) = s.circulatingSupply)
      (hopens : s.aiRegistry.Opens { request with requester := tx.sender } s'.aiRegistry)
  | settles (id : AiRequestId) (credited : Nat)
      (hnot : ∀ j, (RequestAction.transaction tx).opens j = false)
      (hconcerns : ∀ j, (RequestAction.transaction tx).concerns j = decide (id = j))
      (hpays : (⟨s, .transaction tx, s'⟩ : RequestStep).PaysOut)
      (hsupply : s'.circulatingSupply + tx.fee.toNat = s.circulatingSupply + credited)
      (hsettles : SettlesByFee id credited s.aiRegistry s'.aiRegistry)
  | attaches (id : AiRequestId) (proof : AiExecutionProof) (r : AiRegistry)
      (hkind : tx.txType = .aiAttachExecutionProof id proof)
      (hsupply : s'.circulatingSupply + tx.fee.toNat = s.circulatingSupply)
      (hattach : s.aiRegistry.attachExecutionProof id tx.sender proof = .ok r)
      (hfinal : s'.aiRegistry = r.tryFinalizeWithProofs id)

theorem request_effect (hzero : tx.sender ≠ Address.zero) (hkind : isRequestKind tx = true)
    (hmodels : s.aiRegistry.ValidModels) :
    (applyTransactionChecked L tx domain).Ensures s fun _ s' => RequestEffect tx s s' := by
  refine applyTransactionChecked_books hzero ?_
  have htouch : (s.touch tx.sender).circulatingSupply = s.circulatingSupply :=
    (Books.touch s tx.sender).supply
  have hmodels : (s.touch tx.sender).aiRegistry.ValidModels := hmodels
  unfold applyKind
  unfold isRequestKind at hkind
  split at hkind
  case h_1 request htype =>
    simp only [htype]
    refine (applyAiInferenceRequest_opens request).mono fun _ s' ⟨hsupply, hopens⟩ => ?_
    exact .opens request htype (htouch ▸ hsupply) hopens
  case h_2 result htype =>
    simp only [htype]
    refine (applyAiInferenceResult_settles hmodels result).mono
      fun _ s' ⟨credited, hsupply, hsettles⟩ => .settles result.requestId credited ?_ ?_ ?_
        (htouch ▸ hsupply) hsettles
    all_goals simp [RequestAction.opens, RequestAction.concerns, RequestStep.PaysOut, htype]
  case h_3 id proof htype =>
    simp only [htype]
    refine (applyAiAttachExecutionProof_registry id proof).mono
      fun _ s' ⟨hsupply, r, hattach, hfinal⟩ => ?_
    exact .attaches id proof r htype (htouch ▸ hsupply) hattach hfinal
  case h_4 id htype =>
    simp only [htype]
    refine (applyAiRequestCancel_settles id).mono
      fun _ s' ⟨credited, hsupply, hsettles⟩ => .settles id credited ?_ ?_ ?_
        (htouch ▸ hsupply) hsettles
    all_goals simp [RequestAction.opens, RequestAction.concerns, RequestStep.PaysOut, htype]
  case h_5 id htype =>
    simp only [htype]
    refine (applyAiFeeReclaim_settles id).mono
      fun _ s' ⟨credited, hsupply, hsettles⟩ => .settles id credited ?_ ?_ ?_
        (htouch ▸ hsupply) hsettles
    all_goals simp [RequestAction.opens, RequestAction.concerns, RequestStep.PaysOut, htype]
  case h_6 => cases hkind

/-! ### Books and tables -/

/-- What the steps of a run and the tables at its end agree on. -/
structure RequestsBooked (steps : List RequestStep) (r : AiRegistry) : Prop where
  tidy : r.Tidy
  models : r.ValidModels
  registered : ∀ id request, r.requests.get id = some request →
    request.maxFee ≠ 0 ∧ escrowed id steps = some request.maxFee.toNat
  settled : SettledOnce steps r

namespace RequestsBooked

variable {steps : List RequestStep} {step : RequestStep} {r r' : AiRegistry}

section

variable (h : RequestsBooked steps r)

include h

/-- A request that is open has been credited nothing of the fee it holds. -/
theorem of_isOpen (hopen : r.isOpen id = true) :
    ∃ fee, fee ≠ 0 ∧ escrowed id steps = some fee ∧ creditedSince id steps = 0 := by
  simp only [isOpen, Bool.and_eq_true, OrdMap.contains_iff] at hopen
  obtain ⟨⟨request, hget⟩, hnot⟩ := hopen
  obtain ⟨hfee, hescrowed⟩ := h.registered id request hget
  refine ⟨_, fun hzero => hfee (UInt64.toNat_inj.1 hzero), hescrowed, ?_⟩
  rw [h.settled id _ hescrowed, isOpen_of_get hget, hnot, if_pos rfl]

/-- A step that takes no request is accounted for request by request. -/
theorem advance (hnot : ∀ id, step.action.opens id = false)
    (htidy : r'.Tidy) (hmodels : r'.ValidModels)
    (hget : ∀ id request, r'.requests.get id = some request → r.requests.get id = some request)
    (hcredit : ∀ id fee, escrowed id steps = some fee →
      (if step.action.concerns id then step.gain else 0) + (if r.isOpen id then 0 else fee) =
        if r'.isOpen id then 0 else fee) :
    RequestsBooked (step :: steps) r' where
  tidy := htidy
  models := hmodels
  registered id request hrequest := by
    rw [escrowed, if_neg (by simp [hnot id])]
    exact h.registered id request (hget id request hrequest)
  settled id fee hfee := by
    rw [escrowed, if_neg (by simp [hnot id])] at hfee
    rw [creditedSince, if_neg (by simp [hnot id]), h.settled id fee hfee]
    exact hcredit id fee hfee

theorem opens
    (hopens : r.Opens request r') (hown : ∀ id, step.action.opens id = decide (request.requestId = id))
    (hconcerns : ∀ id, step.action.concerns id = false) (hloss : step.loss = request.maxFee.toNat) :
    RequestsBooked (step :: steps) r' where
  tidy := hopens.tidy h.tidy
  models := by
    rw [hopens.after]
    exact h.models
  registered id q hq := by
    rw [hopens.after] at hq
    by_cases hid : id = request.requestId
    · subst hid
      obtain rfl : request = q := by simpa using hq
      exact ⟨hopens.fee, by rw [escrowed, if_pos (by simp [hown]), hloss]⟩
    · rw [OrdMap.get_insert_of_ne _ hid] at hq
      rw [escrowed, if_neg (by simp [hown, Ne.symm hid])]
      exact h.registered id q hq
  settled id fee hfee := by
    rw [hopens.isOpen h.tidy]
    by_cases hid : id = request.requestId
    · simp [creditedSince, hown, hid]
    · have hnot : ¬step.action.opens id = true := by simp [hown, Ne.symm hid]
      rw [escrowed, if_neg hnot] at hfee
      rw [creditedSince, if_neg hnot, h.settled id fee hfee]
      simp [hconcerns, hid]

theorem settles (hnot : ∀ j, step.action.opens j = false)
    (hconcerns : ∀ j, step.action.concerns j = decide (id = j))
    (hsettles : SettlesByFee id step.gain r r') : RequestsBooked (step :: steps) r' := by
  obtain ⟨hgain, htables⟩ | ⟨request, hcloses, hgain⟩ := hsettles
  · have hopen := isOpen_of_tables htables
    have htidy := h.tidy.of_tables htables
    simp only [AiRegistry.requestTables, Prod.mk.injEq] at htables
    obtain ⟨hrequests, -, -, -, hmodels⟩ := htables
    refine h.advance hnot htidy ?_ (fun id q hq => hrequests ▸ hq) fun j fee _ => ?_
    · unfold AiRegistry.ValidModels
      rw [hmodels]
      exact h.models
    · simp [hopen, hgain]
  · refine h.advance hnot (hcloses.tidy h.tidy) ?_ (fun id q hq => hcloses.requests ▸ hq)
      fun j fee hfee => ?_
    · unfold AiRegistry.ValidModels
      rw [hcloses.models]
      exact h.models
    · rw [hcloses.isOpen, hconcerns]
      by_cases hj : id = j
      · subst hj
        rw [(h.registered id request hcloses.get).2, Option.some.injEq] at hfee
        simp [isOpen_of_get hcloses.get, hcloses.wasOpen, hgain, hfee]
      · simp [hj, Ne.symm hj]

/-- A request that stops being open in a step that credits nobody has lost its fee. -/
theorem not_settledOnce (hnot : step.action.opens id = false)
    (hgain : step.gain = 0) (hopen : r.isOpen id = true) (hclosed : r'.isOpen id = false) :
    ¬SettledOnce (step :: steps) r' := by
  obtain ⟨fee, hfee, hescrowed, hcredited⟩ := h.of_isOpen hopen
  intro hsettled
  have hlost := hsettled id fee (by rw [escrowed, if_neg (by simp [hnot]), hescrowed])
  rw [creditedSince, if_neg (by simp [hnot]), hcredited, hclosed] at hlost
  simp only [hgain, ite_self, Bool.false_eq_true, if_false] at hlost
  exact hfee hlost.symm

end

theorem prune (h : RequestsBooked steps s.aiRegistry) {currentBlock retention : UInt64}
    (hpays : (⟨s, .prune currentBlock retention, s'⟩ : RequestStep).PaysOut)
    (hafter : s' = { s with aiRegistry := s.aiRegistry.pruneExpired currentBlock retention }) :
    RequestsBooked (⟨s, .prune currentBlock retention, s'⟩ :: steps) s'.aiRegistry := by
  subst hafter
  refine h.advance (fun _ => rfl) h.tidy.pruneExpired h.models
    (fun id q hq => AiRegistry.get_of_pruneExpired hq) fun id fee _ => ?_
  have hgain : RequestStep.gain ⟨s, .prune currentBlock retention,
      { s with aiRegistry := s.aiRegistry.pruneExpired currentBlock retention }⟩ = 0 :=
    Nat.sub_self _
  rw [hgain, isOpen_pruneExpired, ite_self, zero_add]
  cases hswept : s.aiRegistry.sweeps currentBlock retention id with
  | false => simp
  | true => simp [isOpen, hpays id hswept]

theorem attach (h : RequestsBooked steps s.aiRegistry) {proof : AiExecutionProof}
    (hkind : tx.txType = .aiAttachExecutionProof id proof)
    (hsupply : s'.circulatingSupply + tx.fee.toNat = s.circulatingSupply)
    (hattach : s.aiRegistry.attachExecutionProof id tx.sender proof = .ok r)
    (hfinal : s'.aiRegistry = r.tryFinalizeWithProofs id)
    (hpays : (⟨s, .transaction tx, s'⟩ : RequestStep).PaysOut) :
    RequestsBooked (⟨s, .transaction tx, s'⟩ :: steps) s'.aiRegistry := by
  have hnone : r.outcomeWithProofs id = none := by
    simp only [RequestStep.PaysOut, hkind] at hpays
    exact hpays r hattach
  have htables : s'.aiRegistry.requestTables = s.aiRegistry.requestTables := by
    rw [hfinal, AiRegistry.tryFinalizeWithProofs, hnone]
    exact AiRegistry.attachExecutionProof_tables hattach
  have hsettles : SettlesByFee id (RequestStep.gain ⟨s, .transaction tx, s'⟩) _ _ :=
    .inl ⟨gain_transaction hsupply, htables⟩
  refine h.settles ?_ ?_ hsettles
  · simp [RequestAction.opens, hkind]
  · simp [RequestAction.concerns, hkind]

end RequestsBooked

namespace RequestRun

variable {s₀ : AccountState} {steps : List RequestStep}

/-- Books and tables agree as long as every step pays out. -/
theorem booked (h : RequestRun L s₀ steps s) (hnone : s₀.aiRegistry.requests = ∅)
    (htidy : s₀.aiRegistry.Tidy) (hmodels : s₀.aiRegistry.ValidModels)
    (hpays : ∀ step ∈ steps, step.PaysOut) : RequestsBooked steps s.aiRegistry := by
  induction h with
  | start => exact ⟨htidy, hmodels, by simp [hnone], by simp [SettledOnce, escrowed]⟩
  | other _ hrequests houtcomes hcancelled hreclaimed hvalid ih =>
    obtain ⟨htidy, -, hregistered, hsettled⟩ := ih hpays
    have hset : ∀ r r' : AiRegistry, r'.requests = r.requests → r'.outcomes = r.outcomes →
        r'.cancelledRequests = r.cancelledRequests → r'.reclaimedFees = r.reclaimedFees →
        ∀ id, r'.isSettled id = r.isSettled id ∧ r'.isOpen id = r.isOpen id := by
      intro r r' h₁ h₂ h₃ h₄ id
      simp [isOpen, isSettled, h₁, h₂, h₃, h₄]
    have hboth := hset _ _ hrequests houtcomes hcancelled hreclaimed
    refine ⟨⟨fun id hid => ?_, ?_⟩, hvalid, hrequests ▸ hregistered, fun id fee hfee => ?_⟩
    · rw [hrequests]
      exact htidy.known id ((hboth id).1 ▸ hid)
    · rw [houtcomes, hcancelled, hreclaimed]
      exact htidy.apart
    · rw [(hboth id).2]
      exact hsettled id fee hfee
  | apply domain _ hzero hkind hrun ih =>
    obtain ⟨hpaysOut, hpays⟩ := List.forall_mem_cons.1 hpays
    have hbooked := ih hpays
    cases request_effect hzero hkind hbooked.models () _ hrun with
    | opens request htype hsupply hopens =>
      refine hbooked.opens hopens ?_ ?_ ?_
      · simp [RequestAction.opens, htype]
      · simp [RequestAction.concerns, htype]
      · simp only [RequestStep.loss, RequestAction.fee]
        omega
    | settles id credited hnot hconcerns _ hsupply hsettles =>
      refine hbooked.settles hnot hconcerns ?_
      rwa [gain_transaction hsupply]
    | attaches id proof r htype hsupply hattach hfinal =>
      exact hbooked.attach htype hsupply hattach hfinal hpaysOut
  | prune currentBlock retention _ ih =>
    obtain ⟨hpaysOut, hpays⟩ := List.forall_mem_cons.1 hpays
    exact (ih hpays).prune hpaysOut rfl

/-- The first step of a run that does not pay out loses a fee. -/
theorem paysOut_of_settledOnce {step : RequestStep} (h : RequestRun L s₀ (step :: steps) s)
    (hnone : s₀.aiRegistry.requests = ∅) (htidy : s₀.aiRegistry.Tidy)
    (hmodels : s₀.aiRegistry.ValidModels) (hpays : ∀ step ∈ steps, step.PaysOut)
    (hsettled : SettledOnce (step :: steps) step.after.aiRegistry) : step.PaysOut := by
  generalize hsteps : step :: steps = all at h
  induction h with
  | start => cases hsteps
  | other _ _ _ _ _ _ ih => exact ih hsteps
  | @apply steps' s₁ s' tx domain hrun hzero hkind happly _ =>
    obtain ⟨rfl, rfl⟩ := List.cons.inj hsteps
    have hbooked := hrun.booked hnone htidy hmodels hpays
    cases request_effect hzero hkind hbooked.models () _ happly with
    | opens request htype _ _ => simp [RequestStep.PaysOut, htype]
    | settles _ _ _ _ hpaysOut _ _ => exact hpaysOut
    | attaches id proof r htype hsupply hattach hfinal =>
      simp only [RequestStep.PaysOut, htype]
      intro r' hattach'
      obtain rfl : r = r' := Except.ok.inj (hattach.symm.trans hattach')
      by_contra hsome
      obtain ⟨outcome, houtcome⟩ := Option.ne_none_iff_exists'.1 hsome
      obtain ⟨request, hcloses, -⟩ := AiRegistry.outcomeWithProofs_closes houtcome
      have hopen : s₁.aiRegistry.isOpen id = true := by
        rw [← isOpen_of_tables (AiRegistry.attachExecutionProof_tables hattach),
          isOpen_of_get hcloses.get, hcloses.wasOpen]
        rfl
      have hclosed : s'.aiRegistry.isOpen id = false := by
        rw [hfinal, hcloses.isOpen]
        simp
      refine hbooked.not_settledOnce ?_ (gain_transaction hsupply) hopen hclosed hsettled
      simp [RequestAction.opens, htype]
  | @prune steps' s₁ currentBlock retention hrun _ =>
    obtain ⟨rfl, rfl⟩ := List.cons.inj hsteps
    have hbooked := hrun.booked hnone htidy hmodels hpays
    intro id hswept
    by_contra hnot
    rw [Bool.not_eq_true] at hnot
    have hopen : s₁.aiRegistry.isOpen id = true := by
      obtain ⟨request, hget, -⟩ := (Option.any_eq_true _ _).1 hswept
      rw [isOpen_of_get hget, hnot]
      rfl
    refine hbooked.not_settledOnce rfl (Nat.sub_self _) hopen ?_ hsettled
    rw [isOpen_pruneExpired, hswept]
    rfl

end RequestRun

/-- **Every fee is credited exactly once** along a run exactly if every step pays out: nothing has
been credited on behalf of a request while it is open, and all that was put up for it once it is
not. -/
theorem requests_settled_iff {s₀ : AccountState} {steps : List RequestStep}
    (hrun : RequestRun L s₀ steps s) (hnone : s₀.aiRegistry.requests = ∅)
    (htidy : s₀.aiRegistry.Tidy) (hmodels : s₀.aiRegistry.ValidModels) :
    (∀ step earlier, step :: earlier <:+ steps →
        SettledOnce (step :: earlier) step.after.aiRegistry) ↔
      ∀ step ∈ steps, step.PaysOut := by
  -- one more step, whichever it is
  have hcons : ∀ {step steps}, RequestRun L s₀ (step :: steps) step.after →
      ((∀ st earlier, st :: earlier <:+ steps → SettledOnce (st :: earlier) st.after.aiRegistry) ↔
        ∀ st ∈ steps, st.PaysOut) →
      ((∀ st earlier, st :: earlier <:+ step :: steps →
          SettledOnce (st :: earlier) st.after.aiRegistry) ↔
        ∀ st ∈ step :: steps, st.PaysOut) := by
    intro step steps hrun ih
    constructor
    · intro hall
      have hearlier := ih.1 fun st earlier hsuffix =>
        hall st earlier (hsuffix.trans (List.suffix_cons step steps))
      have hlast := hall step steps List.suffix_rfl
      exact List.forall_mem_cons.2
        ⟨hrun.paysOut_of_settledOnce hnone htidy hmodels hearlier hlast, hearlier⟩
    · intro hpays st earlier hsuffix
      obtain heq | hsuffix := List.suffix_cons_iff.1 hsuffix
      · obtain ⟨rfl, rfl⟩ := List.cons.inj heq
        exact (hrun.booked hnone htidy hmodels hpays).settled
      · exact ih.2 (List.forall_mem_cons.1 hpays).2 st earlier hsuffix
  induction hrun with
  | start => simp
  | other _ _ _ _ _ _ ih => exact ih
  | apply domain hrun hzero hkind happly ih => exact hcons (hrun.apply domain hzero hkind happly) ih
  | prune currentBlock retention hrun ih => exact hcons (hrun.prune currentBlock retention) ih

/-! ### A fee that comes back and one that does not -/

/-- A model that one verifier can answer for. -/
def smallModel : AiModelSpec where
  modelId := 5
  modelHash := 0
  owner := 9
  minVerifierCount := 1
  agreementThreshold := 1
  maxInputRefBytes := 8
  maxOutputRefBytes := 8
  requestDeadlineBlocks := 1
  resultDeadlineBlocks := 1
  version := 1
  active := true
  requireExecutionProof := false
  executionProgramHash := none
  executionClass := 0
  executionWeightsDigest := none
  executionDims := none
  modalities := 1

/-- Account 1 can ask the model. -/
def asker : AccountState :=
  { ({} : AccountState).setAccount 1 ⟨10, 0⟩ with
    aiRegistry := { models := OrdMap.insert ∅ 5 smallModel } }

/-- It asks for at most 4 units. -/
def asks : Transaction := .sample 1 0 (.aiInferenceRequest
  ⟨1, 1, 5, 1, [], 4, none, 0, 1, some ⟨0, 0, .text, 1⟩, EffortTier.baseline⟩)

def cancels : Transaction := .sample 1 1 (.aiRequestCancel 1)

theorem asker_fresh : asker.aiRegistry.requests = ∅ ∧ asker.aiRegistry.Tidy ∧
    asker.aiRegistry.ValidModels := by
  refine ⟨rfl, ⟨fun id h => ?_, fun id h => ?_⟩, fun id spec hget => ?_⟩
  · simp [isSettled, asker, OrdMap.contains] at h
  · simp [asker, OrdMap.contains] at h
  · obtain ⟨-, rfl⟩ | ⟨-, hget⟩ := OrdMap.get_insert_eq_some.1 hget
    · decide
    · cases hget

/-- A request that is cancelled. -/
theorem requests_settled_cancelled : ∃ steps s, RequestRun Linked.sample asker steps s ∧
      steps.map (·.action) = [.transaction cancels, .transaction asks] ∧
      ∀ step earlier, step :: earlier <:+ steps →
        SettledOnce (step :: earlier) step.after.aiRegistry := by
  have hasked := RequestRun.start.apply .poS (by decide) rfl
    (EStateM.run_of_succeeds (m := applyTransactionChecked Linked.sample asks .poS)
      (s := asker) (by decide +kernel))
  have hrun := hasked.apply .poS (by decide) rfl
    (EStateM.run_of_succeeds (m := applyTransactionChecked Linked.sample cancels .poS)
      (by decide +kernel))
  obtain ⟨hnone, htidy, hmodels⟩ := asker_fresh
  refine ⟨_, _, hrun, rfl, (requests_settled_iff hrun hnone htidy hmodels).2 ?_⟩
  simp [RequestStep.PaysOut, asks, cancels, Transaction.sample]

/-- The request expires and is swept out: 4 units were put up for it and nobody got them. -/
theorem swept_fee_lost : ∃ steps s, RequestRun Linked.sample asker steps s ∧
      steps.map (·.action) = [.prune 20 3, .transaction asks] ∧
      escrowed 1 steps = some 4 ∧ s.aiRegistry.requests.contains 1 = false ∧
      creditedSince 1 steps = 0 ∧ ¬SettledOnce steps s.aiRegistry := by
  have hasked := RequestRun.start.apply .poS (by decide) rfl
    (EStateM.run_of_succeeds (m := applyTransactionChecked Linked.sample asks .poS)
      (s := asker) (by decide +kernel))
  refine ⟨_, _, hasked.prune 20 3, rfl, by decide +kernel, by decide +kernel, by decide +kernel,
    fun hsettled => ?_⟩
  have hlost := hsettled 1 4 (by decide +kernel)
  exact absurd hlost (by decide +kernel)

end Executor

end Budlum
