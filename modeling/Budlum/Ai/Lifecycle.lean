import Budlum.Ai.Registry

/-!
# The life of an inference request

A request is open from the moment the registry takes it until it is finalized, cancelled, reclaimed
or swept out.  `Opens` and `Closes` say what the operations do to the tables of requests, and
`isOpen_pruneExpired` what the sweep does: it removes open requests as well.

The tables stay `Tidy`: what is settled is registered, and a finalized request is neither cancelled
nor reclaimed.
-/

namespace Budlum

open OrdMap (contains contains_filter_key contains_insert get_filter sumBy)

open EStateM

namespace AiRegistry

variable {C : Crypto} {r r' : AiRegistry} {id : AiRequestId} {request : AiInferenceRequest}
  {currentBlock fee : UInt64} {requester : Address}

/-- The request is registered and its fee is in escrow. -/
def isOpen (r : AiRegistry) (id : AiRequestId) : Bool := r.requests.contains id && !r.isSettled id

/-- The tables that say which requests there are and how they ended, and the models. -/
def requestTables (r : AiRegistry) :=
  (r.requests, r.outcomes, r.cancelledRequests, r.reclaimedFees, r.models)

/-- Every model asks for some agreement. -/
def ValidModels (r : AiRegistry) : Prop :=
  ∀ id spec, r.models.get id = some spec → spec.agreementThreshold ≠ 0

/-- What is settled is registered, and the ways to settle a request exclude each other. -/
structure Tidy (r : AiRegistry) : Prop where
  known : ∀ id, r.isSettled id = true → r.requests.contains id = true
  apart : ∀ id, r.outcomes.contains id = true →
    r.cancelledRequests.contains id = false ∧ r.reclaimedFees.contains id = false

/-- The registry takes a new request. -/
structure Opens (r : AiRegistry) (request : AiInferenceRequest) (r' : AiRegistry) : Prop where
  new : r.requests.get request.requestId = none
  fee : request.maxFee ≠ 0
  after : r' = { r with requests := r.requests.insert request.requestId request }

/-- An open request is settled, and nothing else changes. -/
structure Closes (r : AiRegistry) (id : AiRequestId) (request : AiInferenceRequest)
    (r' : AiRegistry) : Prop where
  get : r.requests.get id = some request
  wasOpen : r.isSettled id = false
  requests : r'.requests = r.requests
  models : r'.models = r.models
  settled : ∀ j, r'.isSettled j = (decide (j = id) || r.isSettled j)
  tidy : r.Tidy → r'.Tidy

/-! ### One request -/

theorem isSettled_eq_false : r.isSettled id = false ↔ r.outcomes.contains id = false ∧
    r.cancelledRequests.contains id = false ∧ r.reclaimedFees.contains id = false := by
  simp [isSettled, and_assoc]

theorem isOpen_of_get (hget : r.requests.get id = some request) : r.isOpen id = !r.isSettled id := by
  simp [isOpen, contains, hget]

theorem isSettled_of_tables (h : r'.requestTables = r.requestTables) (id : AiRequestId) :
    r'.isSettled id = r.isSettled id := by
  simp only [requestTables, Prod.mk.injEq] at h
  simp [isSettled, h]

theorem isOpen_of_tables (h : r'.requestTables = r.requestTables) (id : AiRequestId) :
    r'.isOpen id = r.isOpen id := by
  have hsettled := isSettled_of_tables h id
  simp only [requestTables, Prod.mk.injEq] at h
  simp [isOpen, hsettled, h]

theorem Tidy.of_tables (h : r.Tidy) (htables : r'.requestTables = r.requestTables) : r'.Tidy := by
  have hsettled := isSettled_of_tables htables
  simp only [requestTables, Prod.mk.injEq] at htables
  obtain ⟨hrequests, houtcomes, hcancelled, hreclaimed, -⟩ := htables
  refine ⟨fun id hid => ?_, ?_⟩
  · rw [hrequests]
    exact h.known id (hsettled id ▸ hid)
  · rw [houtcomes, hcancelled, hreclaimed]
    exact h.apart

/-- Only the new request is opened. -/
theorem Opens.isOpen (h : r.Opens request r') (htidy : r.Tidy) (j : AiRequestId) :
    r'.isOpen j = (decide (j = request.requestId) || r.isOpen j) := by
  obtain ⟨hnew, -, rfl⟩ := h
  have hsettled : r.isSettled request.requestId = false := by
    rw [← Bool.not_eq_true]
    intro hset
    have hknown := htidy.known _ hset
    simp [contains, hnew] at hknown
  change ((r.requests.insert request.requestId request).contains j && !r.isSettled j) = _
  rw [contains_insert]
  by_cases hj : j = request.requestId
  · subst hj
    simp [hsettled]
  · simp [hj, AiRegistry.isOpen]

theorem Opens.tidy (h : r.Opens request r') (htidy : r.Tidy) : r'.Tidy := by
  obtain ⟨-, -, rfl⟩ := h
  refine ⟨fun id hid => ?_, htidy.apart⟩
  rw [contains_insert, Bool.or_eq_true]
  exact .inr (htidy.known id hid)

theorem Closes.isOpen (h : r.Closes id request r') (j : AiRequestId) :
    r'.isOpen j = (decide (j ≠ id) && r.isOpen j) := by
  unfold AiRegistry.isOpen
  rw [h.requests, h.settled]
  by_cases hj : j = id <;> simp [hj]

/-- A request is settled by an entry for it in one of the three tables. -/
theorem Closes.of_off (hget : r.requests.get id = some request) (hopen : r.isSettled id = false)
    (hrequests : r'.requests = r.requests) (hmodels : r'.models = r.models)
    (hsettled : r'.isSettled id = true)
    (hoff : ∀ j, j ≠ id → r'.outcomes.contains j = r.outcomes.contains j ∧
      r'.cancelledRequests.contains j = r.cancelledRequests.contains j ∧
      r'.reclaimedFees.contains j = r.reclaimedFees.contains j)
    (hone : r'.outcomes.contains id = true →
      r'.cancelledRequests.contains id = false ∧ r'.reclaimedFees.contains id = false) :
    r.Closes id request r' := by
  have hj : ∀ j, r'.isSettled j = (decide (j = id) || r.isSettled j) := by
    intro j
    by_cases hj : j = id
    · simp [hj, hsettled]
    · simp [hj, isSettled, hoff j hj]
  refine ⟨hget, hopen, hrequests, hmodels, hj, fun htidy => ⟨fun j hset => ?_, fun j houtcome => ?_⟩⟩
  · rw [hrequests]
    rw [hj, Bool.or_eq_true, decide_eq_true_eq] at hset
    obtain rfl | hset := hset
    · exact OrdMap.contains_iff.2 ⟨request, hget⟩
    · exact htidy.known j hset
  · by_cases hj : j = id
    · subst hj
      exact hone houtcome
    · obtain ⟨ho, hc, hr⟩ := hoff j hj
      rw [hc, hr]
      exact htidy.apart j (ho ▸ houtcome)

/-! ### Value in escrow -/

theorem openEscrow_of_tables (h : r'.requestTables = r.requestTables) :
    r'.openEscrow = r.openEscrow := by
  have hheld : r'.feeHeld = r.feeHeld := by
    funext id q
    rw [feeHeld, feeHeld, isSettled_of_tables h]
  simp only [requestTables, Prod.mk.injEq] at h
  rw [openEscrow, openEscrow, hheld, h.1]

theorem Opens.openEscrow_le (h : r.Opens request r') :
    r'.openEscrow ≤ r.openEscrow + request.maxFee.toNat := by
  obtain ⟨hnew, -, rfl⟩ := h
  have hsum := OrdMap.sumBy_insert r.feeHeld r.requests request.requestId request
  rw [OrdMap.amountAt_of_none hnew] at hsum
  have hfee : r.feeHeld request.requestId request ≤ request.maxFee.toNat := by
    unfold feeHeld
    split <;> omega
  change sumBy r.feeHeld (r.requests.insert request.requestId request) ≤
    sumBy r.feeHeld r.requests + _
  omega

/-- Settling one open request takes exactly its fee out of escrow. -/
theorem Closes.openEscrow_add (h : r.Closes id request r') :
    r'.openEscrow + request.maxFee.toNat = r.openEscrow := by
  have hoff : ∀ j q, j ≠ id → r'.feeHeld j q = r.feeHeld j q := by
    intro j q hj
    simp [feeHeld, h.settled, hj]
  have hsum := OrdMap.sumBy_congr_off r.requests hoff
  rw [OrdMap.amountAt_of_get h.get, OrdMap.amountAt_of_get h.get] at hsum
  simp only [feeHeld, h.wasOpen, h.settled, decide_true, Bool.true_or, if_true, Bool.false_eq_true,
    if_false] at hsum
  rwa [openEscrow, openEscrow, h.requests]

/-! ### Requests -/

theorem submitRequest_opens (h : r.submitRequest C request currentBlock = .ok r') :
    r.Opens request r' := by
  simp only [submitRequest, Except.ok_iff] at h
  obtain ⟨-, -, -, -, -, -, spec, -, -, -, -, -, -, hnew, -, hfee, -, -, -, -, h⟩ := h
  cases hservable : r.unservableReason request.effort with
  | some reason => simp [hservable] at h
  | none =>
    simp only [hservable, Except.pure_eq_ok] at h
    exact ⟨by simpa [OrdMap.contains_eq_false] using hnew, hfee, h.symm⟩

theorem reclaimFee_closes
    (h : r.reclaimFee id currentBlock = .ok (requester, fee, r')) :
    ∃ request, r.Closes id request r' ∧ fee = request.maxFee ∧
      r'.agentPayments = r.agentPayments := by
  simp only [reclaimFee, Except.ok_iff, Bool.not_eq_true'] at h
  obtain ⟨request, hget, -, houtcome, -, hreclaimed, -, hcancelled, -, -, -, -, -, rfl, rfl⟩ := h
  have hopen := isSettled_eq_false.2 ⟨houtcome, hcancelled, hreclaimed⟩
  refine ⟨request, .of_off hget hopen rfl rfl ?_ (fun j hj => ?_) (by simp [houtcome]), rfl, rfl⟩
  · simp [isSettled, contains_insert]
  · simp [contains_insert, hj]

theorem cancelRequest_closes {caller : Address}
    (h : r.cancelRequest id caller = .ok (requester, fee, r')) :
    ∃ request, r.Closes id request r' ∧ fee = request.maxFee ∧
      r'.agentPayments = r.agentPayments := by
  simp only [cancelRequest, Except.ok_iff, Bool.not_eq_true'] at h
  obtain ⟨request, hget, -, -, -, houtcome, -, hreclaimed, -, hcancelled, -, rfl, rfl⟩ := h
  have hopen := isSettled_eq_false.2 ⟨houtcome, hcancelled, hreclaimed⟩
  refine ⟨request, .of_off hget hopen rfl rfl ?_ (fun j hj => ?_) (by simp [houtcome]), rfl, rfl⟩
  · simp [isSettled, contains_insert]
  · simp [contains_insert, hj]

theorem recordOutcome_closes {outcome : AiInferenceOutcome} (hid : outcome.requestId = id)
    (hget : r.requests.get id = some request) (hopen : r.isSettled id = false) :
    r.Closes id request (r.recordOutcome outcome) ∧
      (r.recordOutcome outcome).agentPayments = r.agentPayments := by
  subst hid
  obtain ⟨qos, queue, heq⟩ := recordOutcome_eq outcome r
  rw [heq]
  refine ⟨.of_off hget hopen rfl rfl ?_ (fun j hj => ?_) fun _ => (isSettled_eq_false.1 hopen).2, rfl⟩
  · simp [isSettled, contains_insert]
  · simp [contains_insert, hj]

/-! ### Results -/

/-- What a result does to the tables: nothing, or it settles its request by an outcome that somebody
agreed on. -/
def ResultOutcome (r : AiRegistry) (id : AiRequestId) (outcome : Option AiInferenceOutcome)
    (r' : AiRegistry) : Prop :=
  match outcome with
  | none => r'.requestTables = r.requestTables
  | some o => ∃ request, r.Closes id request r' ∧ o.requestId = id ∧ o.agreeingVerifiers ≠ []

/-- The same as the registry finds it, where the model may ask for no agreement. -/
def Answers (r : AiRegistry) (id : AiRequestId) (spec : AiModelSpec)
    (outcome : Option AiInferenceOutcome) (r' : AiRegistry) : Prop :=
  match outcome with
  | none => r'.requestTables = r.requestTables
  | some o => ∃ request, r.Closes id request r' ∧ o.requestId = id ∧
      spec.agreementThreshold.toNat ≤ o.agreeingVerifiers.length

variable {spec : AiModelSpec} {outcome : Option AiInferenceOutcome} {result : AiInferenceResult}

theorem Answers.resultOutcome (h : r.Answers id spec outcome r')
    (hspec : spec.agreementThreshold ≠ 0) : r.ResultOutcome id outcome r' := by
  cases outcome with
  | none => exact h
  | some o =>
    obtain ⟨request, hcloses, hid, hthreshold⟩ := h
    refine ⟨request, hcloses, hid, fun hnil => ?_⟩
    -- nobody agreed, and the model asks for somebody
    rw [hnil] at hthreshold
    exact hspec (UInt32.toNat_inj.1 (Nat.le_zero.1 hthreshold))

theorem Answers.openEscrow_add (h : r.Answers id spec outcome r') :
    r'.openEscrow + r'.feeReleased outcome = r.openEscrow := by
  cases outcome with
  | none => exact openEscrow_of_tables h
  | some o =>
    obtain ⟨request, hcloses, rfl, -⟩ := h
    rw [feeReleased, Option.elim_some, hcloses.requests, hcloses.get]
    exact hcloses.openEscrow_add

theorem finalizeAgreement_answers {entries : List AiInferenceResult}
    (hget : r.requests.get result.requestId = some request)
    (hcancelled : r.cancelledRequests.contains result.requestId = false)
    (hreclaimed : r.reclaimedFees.contains result.requestId = false) :
    (finalizeAgreement request spec result entries).Ensures r fun outcome r' =>
      r.Answers result.requestId spec outcome r' ∧ r'.agentPayments = r.agentPayments := by
  simp only [finalizeAgreement, ensures_bind, ensures_get, ensures_ite]
  refine ⟨?_, fun _ => ensures_pure.2 ⟨rfl, rfl⟩⟩
  rintro ⟨hthreshold, houtcome⟩
  simp only [ensures_set, ensures_pure]
  have hopen := isSettled_eq_false.2 ⟨houtcome, hcancelled, hreclaimed⟩
  have hrecorded := fun (o : AiInferenceOutcome) (hid : o.requestId = _) =>
    recordOutcome_closes hid hget hopen
  refine ⟨⟨request, (hrecorded _ rfl).1, rfl, ?_⟩, (hrecorded _ rfl).2⟩
  rw [List.length_mergeSort]
  exact hthreshold.trans (Nat.mod_le _ _)

theorem checkResult_eq_ok
    (h : r.checkResult result currentBlock = .ok (request, spec)) :
    r.requests.get result.requestId = some request ∧ r.models.get request.modelId = some spec := by
  simp only [checkResult, Except.ok_iff] at h
  obtain ⟨-, -, request', hget, h⟩ := h
  obtain ⟨-, -, spec', hspec, -, -, -, -, -, -, -, -, rfl, rfl⟩ := h
  exact ⟨hget, hspec⟩

theorem submitResult_answers (result : AiInferenceResult) (currentBlock : UInt64) :
    (submitResult result currentBlock).Ensures r fun outcome r' =>
      (∃ id spec, r.models.get id = some spec ∧ r.Answers result.requestId spec outcome r') ∧
        r'.agentPayments = r.agentPayments := by
  simp only [submitResult, ensures_bind, ensures_get, ensures_ofExcept,
    ensures_modify, ensures_ensure, ensures_orThrow]
  rintro ⟨request, spec⟩ hcheck
  obtain ⟨hget, hspec⟩ := checkResult_eq_ok (Except.mapError_eq_ok.1 hcheck)
  refine rejectRepeated_ensures.mono ?_
  rintro _ _ rfl hcancelled hreclaimed qos -
  rw [Bool.not_eq_true'] at hcancelled hreclaimed
  refine (finalizeAgreement_answers ?_ ?_ ?_).mono fun outcome r' hends =>
    ⟨⟨request.modelId, spec, hspec, ?_⟩, hends.2⟩
  · exact hget
  · exact hcancelled
  · exact hreclaimed
  -- the results and the service records are not among the tables
  · have h := hends.1
    cases outcome with
    | none => exact h
    | some o =>
      obtain ⟨q, hcloses, hid, hagreeing⟩ := h
      exact ⟨q, ⟨hcloses.get, hcloses.wasOpen, hcloses.requests, hcloses.models, hcloses.settled,
        fun htidy => hcloses.tidy (htidy.of_tables rfl)⟩, hid, hagreeing⟩

theorem submitResult_outcome (hmodels : r.ValidModels) (result : AiInferenceResult)
    (currentBlock : UInt64) :
    (submitResult result currentBlock).Ensures r fun outcome r' =>
      r.ResultOutcome result.requestId outcome r' :=
  (submitResult_answers result currentBlock).mono fun _ _ ⟨⟨_, _, hspec, h⟩, _⟩ =>
    h.resultOutcome (hmodels _ _ hspec)

/-- A refused result leaves the tables and the payments as they were. -/
theorem submitResult_error_tables (result : AiInferenceResult) (currentBlock : UInt64) :
    (submitResult result currentBlock).Fails r fun _ r' =>
      r'.requestTables = r.requestTables ∧ r'.agentPayments = r.agentPayments := by
  have hrepeated : ∀ entries (r₁ : AiRegistry), (rejectRepeated entries result currentBlock).Fails r₁
      fun _ r' => r'.requestTables = r₁.requestTables ∧ r'.agentPayments = r₁.agentPayments := by
    intro entries r₁
    unfold rejectRepeated
    split
    · simp
    · split
      · simp
      · simp only [fails_bind, fails_modify, ensures_modify, fails_throw]
        exact ⟨trivial, rfl, rfl⟩
  simp only [submitResult, fails_bind, ensures_get, fails_get, fails_ofExcept, ensures_ofExcept,
    fails_modify, ensures_modify, fails_ensure, ensures_ensure, fails_orThrow, ensures_orThrow,
    finalizeAgreement_fails, true_and, implies_true, and_true]
  intro _ _
  refine ⟨hrepeated _ _, rejectRepeated_ensures.mono ?_⟩
  rintro _ _ rfl
  exact ⟨fun _ => ⟨rfl, rfl⟩, fun _ => ⟨fun _ => ⟨rfl, rfl⟩, fun _ _ => ⟨rfl, rfl⟩⟩⟩

theorem attachExecutionProof_tables {verifier : Address} {proof : AiExecutionProof}
    (h : r.attachExecutionProof id verifier proof = .ok r') : r'.requestTables = r.requestTables := by
  simp only [attachExecutionProof, Except.ok_iff] at h
  obtain ⟨-, -, -, -, -, -, -, -, -, -, -, -, rfl⟩ := h
  rfl

/-- An outcome found on the proofs settles its request. -/
theorem outcomeWithProofs_closes {outcome : AiInferenceOutcome}
    (h : r.outcomeWithProofs id = some outcome) :
    ∃ request, r.Closes id request (r.tryFinalizeWithProofs id) ∧
      (r.tryFinalizeWithProofs id).agentPayments = r.agentPayments := by
  have hfinal : r.tryFinalizeWithProofs id = r.recordOutcome outcome := by
    rw [tryFinalizeWithProofs, h]
  simp only [outcomeWithProofs, Option.bind_eq_bind, Option.ite_none_left_eq_some,
    Option.bind_eq_some_iff, Option.pure_def, Option.some.injEq] at h
  obtain ⟨hopen, request, hget, spec, -, entries, -, best, -, rfl⟩ := h
  exact ⟨request, hfinal ▸ recordOutcome_closes rfl hget (Bool.eq_false_iff.2 hopen)⟩

/-! ### The sweep -/

section Prune

variable {retention : UInt64}

/-- The sweep finds a request that has no outcome and is past its deadlines. -/
def sweeps (r : AiRegistry) (currentBlock retention : UInt64) (id : AiRequestId) : Bool :=
  (r.requests.get id).any (r.requestExpired currentBlock retention id)

/-- The outcome of a request is old enough to be dropped with it. -/
def outlives (r : AiRegistry) (currentBlock retention : UInt64) (id : AiRequestId) : Bool :=
  (r.outcomes.filter fun _ o =>
    decide (o.finalizedAtBlock.saturatingAdd retention < currentBlock)).contains id

theorem contains_of_outlives (h : r.outlives currentBlock retention id = true) :
    r.outcomes.contains id = true := by
  simp only [outlives, contains, get_filter] at *
  cases hget : r.outcomes.get id with
  | none => simp [hget] at h
  | some o => rfl

theorem not_contains_of_sweeps (h : r.sweeps currentBlock retention id = true) :
    r.outcomes.contains id = false := by
  obtain ⟨q, -, hexpired⟩ := (Option.any_eq_true _ _).1 h
  simp only [requestExpired, Bool.and_eq_true, Bool.not_eq_true'] at hexpired
  exact hexpired.1

/-- The requests the sweep found, as it computes them. -/
theorem contains_expired : (r.requests.filter (r.requestExpired currentBlock retention)).contains id =
    r.sweeps currentBlock retention id := by
  rw [contains, get_filter, sweeps]
  cases r.requests.get id with
  | none => rfl
  | some q => cases hq : r.requestExpired currentBlock retention id q <;> simp [Option.filter, hq]

theorem contains_pruneExpired : (r.pruneExpired currentBlock retention).requests.contains id =
    (!r.outlives currentBlock retention id && (!r.sweeps currentBlock retention id &&
      r.requests.contains id)) := by
  simp [pruneExpired, contains_filter_key, contains_expired, outlives]

theorem get_of_pruneExpired
    (h : (r.pruneExpired currentBlock retention).requests.get id = some request) :
    r.requests.get id = some request := by
  simp only [pruneExpired, get_filter, Option.filter_eq_some_iff] at h
  exact h.1.1

/-- The entries that settle a request go when the request goes. -/
theorem isSettled_pruneExpired : (r.pruneExpired currentBlock retention).isSettled id =
    (!r.outlives currentBlock retention id && r.outcomes.contains id ||
      (!r.sweeps currentBlock retention id && r.requests.contains id) &&
        (r.cancelledRequests.contains id || r.reclaimedFees.contains id)) := by
  simp only [isSettled, pruneExpired, contains_filter_key, contains_expired, outlives]
  cases r.cancelledRequests.contains id <;> cases r.reclaimedFees.contains id <;> simp

/-- An open request survives the sweep exactly if the sweep did not find it. -/
theorem isOpen_pruneExpired : (r.pruneExpired currentBlock retention).isOpen id =
    (!r.sweeps currentBlock retention id && r.isOpen id) := by
  have hold : r.outlives currentBlock retention id = true → r.outcomes.contains id = true :=
    contains_of_outlives
  simp only [isOpen, contains_pruneExpired, isSettled_pruneExpired]
  simp only [isSettled]
  cases hout : r.outlives currentBlock retention id with
  | true => simp [hold hout]
  | false =>
    cases r.sweeps currentBlock retention id <;> cases r.requests.contains id <;> simp [Bool.or_assoc]

theorem Tidy.pruneExpired (h : r.Tidy) : (r.pruneExpired currentBlock retention).Tidy := by
  refine ⟨fun id hset => ?_, fun id houtcome => ?_⟩
  · rw [isSettled_pruneExpired, Bool.or_eq_true] at hset
    rw [contains_pruneExpired]
    obtain hfinal | hclosed := hset
    · simp only [Bool.and_eq_true, Bool.not_eq_true'] at hfinal ⊢
      refine ⟨hfinal.1, ?_, h.known id (by simp [isSettled, hfinal.2])⟩
      by_contra hswept
      rw [Bool.not_eq_false] at hswept
      exact Bool.false_ne_true ((not_contains_of_sweeps hswept).symm.trans hfinal.2)
    · rw [Bool.and_eq_true] at hclosed
      refine Bool.and_eq_true_iff.2 ⟨?_, hclosed.1⟩
      rw [Bool.not_eq_true']
      by_contra hout
      rw [Bool.not_eq_false] at hout
      obtain ⟨hc, hr⟩ := h.apart id (contains_of_outlives hout)
      simp [hc, hr] at hclosed
  · simp only [AiRegistry.pruneExpired, contains_filter_key, Bool.and_eq_true] at houtcome
    obtain ⟨hc, hr⟩ := h.apart id houtcome.2
    simp [AiRegistry.pruneExpired, contains_filter_key, hc, hr]

end Prune

end AiRegistry

end Budlum
