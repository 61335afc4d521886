import Budlum.Execution.Effects

/-!
# Payments between agents

A payment takes its amount from the payer.  An amount that waits for the outcome of a request is
held until it is released to the payee or, after it expired, reclaimed by the payer; any other
amount goes to the payee in the same transaction.

The books of a run are read off its transactions: `PaymentEntry.accepted` where a payer is debited,
`PaymentEntry.credited` where an account gets the amount.

* `Executor.agent_payments_settled` : **every payment is accepted once and credited at most once.**
-/

namespace Budlum

open OrdMap AiRegistry
open Bookings (on on_cons on_nil total)
open List (append_nil flatMap_cons flatMap_nil mem_cons mem_cons_of_mem)

/-! ### Books -/

/-- An entry in the books of the payments between agents. -/
inductive PaymentEntry where
  /-- The payer put up the amount. -/
  | accepted (payment : AiAgentPayment)
  /-- The amount was credited, in the way the status says. -/
  | credited (payment : AiAgentPayment) (status : AiPaymentEscrowStatus)

namespace PaymentEntry

/-- The account a payment is credited to: a reclaimed one goes back to its payer. -/
def creditedTo (payment : AiAgentPayment) (status : AiPaymentEscrowStatus) : Address :=
  if status = .reclaimed then payment.fromAgent else payment.toAgent

/-- What an entry takes from accounts. -/
def paid : PaymentEntry → Bookings
  | accepted p => [(p.fromAgent, p.amount.toNat)]
  | credited _ _ => []

/-- What an entry gives to accounts. -/
def received : PaymentEntry → Bookings
  | accepted _ => []
  | credited p status => [(creditedTo p status, p.amount.toNat)]

def acceptedId : PaymentEntry → Option Hash32
  | accepted p => some p.paymentId
  | credited _ _ => none

def creditedId : PaymentEntry → Option Hash32
  | accepted _ => none
  | credited p _ => some p.paymentId

end PaymentEntry

open PaymentEntry

/-- The identifiers accepted in the books, with repetitions. -/
def acceptedIds (entries : List PaymentEntry) : List Hash32 := entries.filterMap acceptedId

/-- The identifiers credited in the books, with repetitions. -/
def creditedIds (entries : List PaymentEntry) : List Hash32 := entries.filterMap creditedId

/-- All that payers were debited. -/
def totalPaid (entries : List PaymentEntry) : Nat := total (entries.flatMap paid)

/-- All that accounts were credited. -/
def totalReceived (entries : List PaymentEntry) : Nat := total (entries.flatMap received)

/-! ### The registry -/

namespace AiRegistry

variable {r r' : AiRegistry} {id : Hash32} {payment : AiAgentPayment} {currentBlock : UInt64}

/-- What the tables of payments record, newest entry first. -/
inductive Records : AiRegistry → List PaymentEntry → AiRegistry → Prop
  | accept {r : AiRegistry} {p : AiAgentPayment} (hheld : r.agentPayments.contains p.paymentId = false)
      (hsettled : r.settledAgentPayments.contains p.paymentId = false) :
      Records r [.accepted p] { r with agentPayments := r.agentPayments.insert p.paymentId p }
  | credit {r : AiRegistry} {id : Hash32} {p : AiAgentPayment} (block : UInt64)
      (status : AiPaymentEscrowStatus) (hget : r.agentPayments.get id = some p) :
      Records r [.credited p status] (r.archivePayment id p block status)
  | append {r r₁ r₂ : AiRegistry} {entries entries' : List PaymentEntry} :
      Records r entries r₁ → Records r₁ entries' r₂ → Records r (entries' ++ entries) r₂

theorem submitAgentPayment_records (h : r.submitAgentPayment payment currentBlock = .ok r') :
    Records r [.accepted payment] r' ∧ r'.agentPayments.get payment.paymentId = some payment := by
  simp only [submitAgentPayment, Except.ok_iff, Bool.not_eq_true', Bool.or_eq_false_iff] at h
  obtain ⟨-, -, -, -, -, -, -, -, -, -, -, ⟨hheld, hsettled⟩, rfl⟩ := h
  exact ⟨.accept hheld hsettled, get_insert_self ..⟩

theorem releaseAgentPayment_records {payee : Address}
    (h : r.releaseAgentPayment id currentBlock = .ok (payee, r')) :
    ∃ p, r.agentPayments.get id = some p ∧ payee = p.toAgent ∧
      Records r [.credited p .released] r' := by
  simp only [releaseAgentPayment, Except.ok_iff] at h
  obtain ⟨p, hget, -, -, -, -, rfl, rfl⟩ := h
  exact ⟨p, hget, rfl, .credit _ _ hget⟩

theorem reclaimAgentPayment_records {claimant : Address} {amount : UInt64}
    (h : r.reclaimAgentPayment id claimant currentBlock = .ok (amount, r')) :
    ∃ p, r.agentPayments.get id = some p ∧ p.fromAgent = claimant ∧ amount = p.amount ∧
      Records r [.credited p .reclaimed] r' := by
  simp only [reclaimAgentPayment, Except.ok_iff] at h
  obtain ⟨p, hget, -, hclaimant, -, -, rfl, rfl⟩ := h
  exact ⟨p, hget, hclaimant, rfl, .credit _ _ hget⟩

theorem settleAgentPaymentImmediate_records
    (h : r.settleAgentPaymentImmediate id currentBlock = .ok r') :
    ∃ p, r.agentPayments.get id = some p ∧ Records r [.credited p .settledImmediate] r' := by
  simp only [settleAgentPaymentImmediate, Except.ok_iff] at h
  obtain ⟨p, hget, -, -, -, -, rfl⟩ := h
  exact ⟨p, hget, .credit _ _ hget⟩

end AiRegistry

/-! ### What the books and the tables agree on -/

/-- The books of a run and the tables at its end. -/
structure SettlesPayments (entries : List PaymentEntry) (r : AiRegistry) : Prop where
  held : ∀ id p, r.agentPayments.get id = some p →
    p.paymentId = id ∧ .accepted p ∈ entries ∧ id ∉ creditedIds entries
  known : ∀ id ∈ acceptedIds entries,
    r.agentPayments.contains id = true ∨ r.settledAgentPayments.contains id = true
  covered : ∀ p status, .credited p status ∈ entries → .accepted p ∈ entries
  acceptedOnce : (acceptedIds entries).Nodup
  creditedOnce : (creditedIds entries).Nodup
  balanced : totalPaid entries = totalReceived entries + r.agentEscrow

namespace SettlesPayments

variable {entries : List PaymentEntry} {r r' : AiRegistry} {id : Hash32} {p : AiAgentPayment}

/-- What was credited had been accepted. -/
theorem creditedIds_subset (h : SettlesPayments entries r) (hid : id ∈ creditedIds entries) :
    id ∈ acceptedIds entries := by
  obtain ⟨entry, hentry, heq⟩ := List.mem_filterMap.1 hid
  cases entry with
  | accepted q => simp [creditedId] at heq
  | credited q status =>
    obtain rfl : q.paymentId = id := Option.some.inj heq
    exact List.mem_filterMap.2 ⟨_, h.covered q status hentry, rfl⟩

theorem accept (h : SettlesPayments entries r) (hheld : r.agentPayments.contains p.paymentId = false)
    (hsettled : r.settledAgentPayments.contains p.paymentId = false) :
    SettlesPayments (.accepted p :: entries)
      { r with agentPayments := r.agentPayments.insert p.paymentId p } := by
  have hnew : p.paymentId ∉ acceptedIds entries := fun hmem => by
    simpa [hheld, hsettled] using h.known _ hmem
  refine ⟨?_, ?_, ?_, ?_, ?_, ?_⟩
  · intro id q hget
    by_cases hid : id = p.paymentId
    · subst hid
      obtain rfl : p = q := by simpa using hget
      exact ⟨rfl, List.mem_cons_self, fun hmem => hnew (h.creditedIds_subset hmem)⟩
    · rw [get_insert_of_ne _ hid] at hget
      obtain ⟨hkey, hmem, hcredited⟩ := h.held id q hget
      exact ⟨hkey, mem_cons_of_mem _ hmem, hcredited⟩
  · intro id hmem
    rw [contains_insert]
    obtain rfl | hmem := mem_cons.1 (show id ∈ p.paymentId :: acceptedIds entries from hmem)
    · exact .inl (by simp)
    · exact (h.known id hmem).imp_left fun hcontains => by simp [hcontains]
  · intro q status hmem
    obtain heq | hmem := mem_cons.1 hmem
    · cases heq
    · exact mem_cons_of_mem _ (h.covered q status hmem)
  · exact List.nodup_cons.2 ⟨hnew, h.acceptedOnce⟩
  · exact h.creditedOnce
  · have hsum := sumBy_insert (fun _ q => q.amount.toNat) r.agentPayments p.paymentId p
    rw [amountAt_of_none (OrdMap.contains_eq_false.1 hheld)] at hsum
    have hbalanced : totalPaid entries = totalReceived entries +
        r.agentPayments.sumBy fun _ q => q.amount.toNat := h.balanced
    change p.amount.toNat + totalPaid entries = totalReceived entries +
      (r.agentPayments.insert p.paymentId p).sumBy fun _ q => q.amount.toNat
    omega

theorem credit (h : SettlesPayments entries r) (block : UInt64) (status : AiPaymentEscrowStatus)
    (hget : r.agentPayments.get id = some p) :
    SettlesPayments (.credited p status :: entries) (r.archivePayment id p block status) := by
  obtain ⟨hkey, haccepted, hcredited⟩ := h.held id p hget
  subst hkey
  refine ⟨?_, ?_, ?_, ?_, ?_, ?_⟩
  · intro id q hq
    simp only [archivePayment, get_erase, Option.ite_none_left_eq_some] at hq
    obtain ⟨hne, hq⟩ := hq
    obtain ⟨hkey, hmem, hnot⟩ := h.held id q hq
    refine ⟨hkey, mem_cons_of_mem _ hmem, fun hcons => ?_⟩
    exact (mem_cons.1 (show id ∈ p.paymentId :: creditedIds entries from hcons)).elim hne hnot
  · intro id hmem
    simp only [archivePayment, contains_erase, contains_insert]
    by_cases hid : id = p.paymentId
    · exact .inr (by simp [hid])
    · exact (h.known id hmem).imp (fun hheld => by simp [hid, hheld]) fun hsettled => by
        simp [hsettled]
  · intro q st hmem
    obtain heq | hmem := mem_cons.1 hmem
    · obtain ⟨rfl, -⟩ := PaymentEntry.credited.inj heq
      exact mem_cons_of_mem _ haccepted
    · exact mem_cons_of_mem _ (h.covered q st hmem)
  · exact h.acceptedOnce
  · exact List.nodup_cons.2 ⟨hcredited, h.creditedOnce⟩
  · have hsum := agentEscrow_archivePayment block status hget
    have hbalanced := h.balanced
    change totalPaid entries = p.amount.toNat + totalReceived entries + _
    omega

/-- The agreement survives whatever the registry records. -/
theorem records {new : List PaymentEntry} (h : SettlesPayments entries r)
    (hrec : AiRegistry.Records r new r') : SettlesPayments (new ++ entries) r' := by
  induction hrec generalizing entries with
  | accept hheld hsettled => exact h.accept hheld hsettled
  | credit block status hget => exact h.credit block status hget
  | append _ _ ih ih' => exact List.append_assoc .. ▸ ih' (ih h)

end SettlesPayments

/-! ### Transactions -/

namespace Executor

open AccountState EStateM

variable {L : Linked} {domain : ConsensusKind} {tx : Transaction} {s s' : AccountState}

/-- What a transaction on a state enters into the books, newest entry first. -/
def paymentEntries (tx : Transaction) (s : AccountState) : List PaymentEntry :=
  match tx.txType with
  | .aiAgentPayment p =>
    if p.isEscrowed then [.accepted p] else [.credited p .settledImmediate, .accepted p]
  | .aiAgentPaymentRelease id =>
    (s.aiRegistry.agentPayments.get id).elim [] fun p => [.credited p .released]
  | .aiAgentPaymentReclaim id =>
    (s.aiRegistry.agentPayments.get id).elim [] fun p => [.credited p .reclaimed]
  | _ => []

/-- The transaction is one of the three about payments between agents. -/
def isPaymentKind (tx : Transaction) : Bool :=
  match tx.txType with
  | .aiAgentPayment _ | .aiAgentPaymentRelease _ | .aiAgentPaymentReclaim _ => true
  | _ => false

/-- The balances change by the entries and the fee, and the tables record the entries. -/
structure BooksPayments (tx : Transaction) (entries : List PaymentEntry) (s s' : AccountState) :
    Prop where
  balances : ∀ a, (s'.getBalance a).toNat +
      (on (entries.flatMap PaymentEntry.paid) a + if tx.sender = a then tx.fee.toNat else 0) =
    (s.getBalance a).toNat + on (entries.flatMap PaymentEntry.received) a
  records : AiRegistry.Records s.aiRegistry entries s'.aiRegistry

/-- The balances are booked after the registry was written. -/
theorem BooksPayments.of_books {entries : List PaymentEntry} {r : AiRegistry} {paid received : Bookings}
    (hrecords : AiRegistry.Records s.aiRegistry entries r)
    (hbooks : Books paid received { s with aiRegistry := r } s')
    (hon : ∀ a, on (entries.flatMap PaymentEntry.paid) a +
        (if tx.sender = a then tx.fee.toNat else 0) + received.on a =
      paid.on a + on (entries.flatMap PaymentEntry.received) a) :
    BooksPayments tx entries s s' where
  balances a := by
    have hbalance : (s'.getBalance a).toNat + paid.on a = (s.getBalance a).toNat + received.on a :=
      hbooks.balances a
    have hsum := hon a
    omega
  records := hbooks.aiRegistry.symm ▸ hrecords

theorem applyAiAgentPayment_books {p : AiAgentPayment} (hkind : tx.txType = .aiAgentPayment p) :
    (applyAiAgentPayment tx p).Ensures s fun _ s' => BooksPayments tx (paymentEntries tx s) s s' := by
  refine Ensures.get_bind <| check_bind fun hsender => require_bind fun total htotal =>
    Ensures.get_bind <| check_bind fun _ => Ensures.get_bind <| lift_bind fun r hsubmit =>
    Ensures.modify_bind <| (debit_transfers _ _ _).bind fun _ s₁ hdebit => bump_bind ?_
  rw [decide_eq_true_eq] at hsender
  rw [UInt64.checkedAdd_eq_some] at htotal
  obtain ⟨hrecords, hheld⟩ := AiRegistry.submitAgentPayment_records hsubmit
  simp only [paymentEntries, hkind]
  refine ensures_ite.2 ⟨fun hescrowed => ensures_pure.2 ?_, fun hescrowed => ?_⟩
  · rw [if_pos hescrowed]
    refine .of_books hrecords (hdebit.toBooks.bumpNonce tx.sender) fun a => ?_
    simp only [flatMap_cons, flatMap_nil, PaymentEntry.paid, PaymentEntry.received,
      append_nil, on_cons, on_nil, hsender]
    split <;> omega
  · rw [if_neg hescrowed]
    refine (credit_transfers _ _ _).bind fun _ s₂ hcredit => Ensures.get_bind <|
      lift_bind fun r' hsettle => ensures_modify.2 ?_
    obtain ⟨q, hget, hrecords'⟩ := AiRegistry.settleAgentPaymentImmediate_records hsettle
    have hbooks := (hdebit.toBooks.bumpNonce tx.sender).trans hcredit.toBooks
    have hregistry : s₂.aiRegistry = r := hbooks.aiRegistry
    rw [hregistry, hheld, Option.some.injEq] at hget
    subst hget
    rw [hregistry] at hrecords'
    refine .of_books (hrecords.append hrecords') (hbooks.withRegistry r') fun a => ?_
    simp only [flatMap_cons, flatMap_nil, PaymentEntry.paid, PaymentEntry.received,
      PaymentEntry.creditedTo, append_nil, List.nil_append, on_cons, on_nil, hsender,
      reduceCtorEq, if_false]
    split <;> omega

theorem applyAiAgentPaymentRelease_books {id : Hash32}
    (hkind : tx.txType = .aiAgentPaymentRelease id) :
    (applyAiAgentPaymentRelease tx id).Ensures s fun _ s' =>
      BooksPayments tx (paymentEntries tx s) s s' := by
  refine Ensures.get_bind <| require_bind fun p hget => lift_bind fun ⟨payee, r⟩ hrelease =>
    Ensures.modify_bind <| (credit_transfers _ _ _).bind fun _ _ hcredit =>
    (chargeFee_books hcredit.toBooks).mono fun _ _ hbooks => ?_
  obtain ⟨q, hq, rfl, hrecords⟩ := AiRegistry.releaseAgentPayment_records hrelease
  obtain rfl : p = q := Option.mem_unique hget hq
  simp only [paymentEntries, hkind, hget, Option.elim_some]
  refine .of_books hrecords hbooks fun a => ?_
  simp only [flatMap_cons, flatMap_nil, PaymentEntry.paid, PaymentEntry.received,
    PaymentEntry.creditedTo, append_nil, List.nil_append, on_cons, on_nil, reduceCtorEq, if_false]
  omega

theorem applyAiAgentPaymentReclaim_books {id : Hash32}
    (hkind : tx.txType = .aiAgentPaymentReclaim id) :
    (applyAiAgentPaymentReclaim tx id).Ensures s fun _ s' =>
      BooksPayments tx (paymentEntries tx s) s s' := by
  refine Ensures.get_bind <| lift_bind fun ⟨amount, r⟩ hreclaim => Ensures.modify_bind <|
    (reclaimBalance_transfers _ _ _).bind fun _ _ hbooks => ensures_modify.2 ?_
  obtain ⟨p, hget, hclaimant, rfl, hrecords⟩ := AiRegistry.reclaimAgentPayment_records hreclaim
  simp only [paymentEntries, hkind, hget, Option.elim_some]
  refine .of_books hrecords (hbooks.toBooks.bumpNonce tx.sender) fun a => ?_
  simp only [flatMap_cons, flatMap_nil, PaymentEntry.paid, PaymentEntry.received,
    PaymentEntry.creditedTo, append_nil, on_cons, on_nil, hclaimant, if_true]
  omega

/-- What a transaction about payments does to the books. -/
theorem payment_books (hzero : tx.sender ≠ Address.zero) (hkind : isPaymentKind tx = true) :
    (applyTransactionChecked L tx domain).Ensures s fun _ s' =>
      BooksPayments tx (paymentEntries tx s) s s' := by
  -- the account that is created for the sender is empty
  have htouch : ∀ s', BooksPayments tx (paymentEntries tx (s.touch tx.sender)) (s.touch tx.sender) s' →
      BooksPayments tx (paymentEntries tx s) s s' := fun s' h =>
    ⟨fun a => getBalance_touch (s := s) ▸ h.balances a, h.records⟩
  refine applyTransactionChecked_books hzero (EStateM.Ensures.mono ?_ fun _ => htouch)
  unfold applyKind
  unfold isPaymentKind at hkind
  split at hkind
  case h_1 p htype => simpa only [htype] using applyAiAgentPayment_books htype
  case h_2 id htype => simpa only [htype] using applyAiAgentPaymentRelease_books htype
  case h_3 id htype => simpa only [htype] using applyAiAgentPaymentReclaim_books htype
  case h_4 => cases hkind

/-! ### Runs -/

/-- A transaction between the states around it. -/
structure AppliedPayment where
  before : AccountState
  tx : Transaction
  after : AccountState

/-- Transactions about payments, newest first, among any other changes of the state: of the height,
of requests and their outcomes, of balances. -/
inductive PaymentRun (L : Linked) (s₀ : AccountState) : List AppliedPayment → AccountState → Prop
  | start : PaymentRun L s₀ [] s₀
  | other {steps : List AppliedPayment} {s s' : AccountState} : PaymentRun L s₀ steps s →
      s'.aiRegistry.agentPayments = s.aiRegistry.agentPayments →
      s'.aiRegistry.settledAgentPayments = s.aiRegistry.settledAgentPayments →
      PaymentRun L s₀ steps s'
  | apply {steps : List AppliedPayment} {s s' : AccountState} {tx : Transaction}
      (domain : ConsensusKind) : PaymentRun L s₀ steps s → tx.sender ≠ Address.zero →
      isPaymentKind tx = true → (applyTransactionChecked L tx domain).run s = .ok () s' →
      PaymentRun L s₀ (⟨s, tx, s'⟩ :: steps) s'

def paymentBooks (steps : List AppliedPayment) : List PaymentEntry :=
  steps.flatMap fun step => paymentEntries step.tx step.before

theorem SettlesPayments_of_tables {entries : List PaymentEntry} {r r' : AiRegistry}
    (h : SettlesPayments entries r) (hheld : r'.agentPayments = r.agentPayments)
    (hsettled : r'.settledAgentPayments = r.settledAgentPayments) : SettlesPayments entries r' := by
  obtain ⟨held, known, covered, accepted, credited, balanced⟩ := h
  refine ⟨hheld ▸ held, ?_, covered, accepted, credited, ?_⟩
  · rwa [hheld, hsettled]
  · rwa [agentEscrow, hheld]

/-- The books and the tables agree after every run. -/
theorem PaymentRun.settles {s₀ : AccountState} {steps : List AppliedPayment}
    (h : PaymentRun L s₀ steps s) (hheld : s₀.aiRegistry.agentPayments = ∅) :
    SettlesPayments (paymentBooks steps) s.aiRegistry := by
  induction h with
  | start =>
    refine ⟨?_, ?_, ?_, List.nodup_nil, List.nodup_nil, ?_⟩
    · simp [hheld]
    · simp [paymentBooks, acceptedIds]
    · simp [paymentBooks]
    · simp [paymentBooks, totalPaid, totalReceived, agentEscrow, hheld]
  | other _ hsame hsettled ih => exact SettlesPayments_of_tables ih hsame hsettled
  | apply domain _ hzero hkind hrun ih =>
    exact ih.records (payment_books hzero hkind () _ hrun).records

/-- **Every payment is accepted once and credited at most once**, to its payee or, reclaimed, to its
payer; the balances move by the entries and the fees, and what was debited is what was credited and
what is still held. -/
theorem agent_payments_settled {s₀ : AccountState} {steps : List AppliedPayment}
    (hrun : PaymentRun L s₀ steps s) (hheld : s₀.aiRegistry.agentPayments = ∅) :
    (acceptedIds (paymentBooks steps)).Nodup ∧
    (creditedIds (paymentBooks steps)).Nodup ∧
    (∀ p status, .credited p status ∈ paymentBooks steps → .accepted p ∈ paymentBooks steps) ∧
    totalPaid (paymentBooks steps) = totalReceived (paymentBooks steps) + s.aiRegistry.agentEscrow ∧
    ∀ step ∈ steps, ∀ a, (step.after.getBalance a).toNat +
        (on ((paymentEntries step.tx step.before).flatMap PaymentEntry.paid) a +
          if step.tx.sender = a then step.tx.fee.toNat else 0) =
      (step.before.getBalance a).toNat +
        on ((paymentEntries step.tx step.before).flatMap PaymentEntry.received) a := by
  have hsettles := hrun.settles hheld
  refine ⟨hsettles.acceptedOnce, hsettles.creditedOnce, hsettles.covered, hsettles.balanced, ?_⟩
  clear hsettles
  induction hrun with
  | start => simp
  | other _ _ _ ih => exact ih
  | apply domain _ hzero hkind hrun ih =>
    exact List.forall_mem_cons.2 ⟨(payment_books hzero hkind () _ hrun).balances, ih⟩

/-- Account 1 puts up 4 units for the outcome of request 3, at most until block 5. -/
def paysForOutcome : Transaction := .sample 1 0 (.aiAgentPayment ⟨7, 1, 2, 4, some 3, false, 0, 5⟩)

def takesBack : Transaction := .sample 1 1 (.aiAgentPaymentReclaim 7)

/-- The payer before the payment. -/
def payer : AccountState := ({} : AccountState).setAccount 1 ⟨10, 0⟩

/-- The payment is held and expires. -/
def paymentExpired : AccountState :=
  { (applyTransactionChecked Linked.sample paysForOutcome .poS).final payer with
    currentBlockHeight := 6 }

/-- A payment that is held until it expires and then goes back to its payer. -/
theorem agent_payments_settled_reclaimed :
    ∃ steps s, PaymentRun Linked.sample payer steps s ∧
      steps.map (·.tx) = [takesBack, paysForOutcome] ∧ totalPaid (paymentBooks steps) = 4 ∧
      totalPaid (paymentBooks steps) =
        totalReceived (paymentBooks steps) + s.aiRegistry.agentEscrow := by
  have hpaid := PaymentRun.start.apply .poS (by decide) rfl
    (EStateM.run_of_succeeds (m := applyTransactionChecked Linked.sample paysForOutcome .poS)
      (s := payer) (by decide +kernel))
  have hexpired : PaymentRun Linked.sample payer _ paymentExpired := hpaid.other rfl rfl
  have hrun := hexpired.apply .poS (by decide) rfl
    (EStateM.run_of_succeeds (m := applyTransactionChecked Linked.sample takesBack .poS)
      (by decide +kernel))
  exact ⟨_, _, hrun, rfl, by decide +kernel, (agent_payments_settled hrun rfl).2.2.2.1⟩

end Executor

end Budlum
