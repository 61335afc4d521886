import Budlum.Storage.Turns

/-!
# Refused openings

A deal is paid for before it is opened: the payer's fee and the operator's bond are taken first, and
what was taken goes back when the registry refuses.  Three things can go wrong in between.  The first
opening gives the fee back when the bond cannot be paid; the acceptance of a ticket does not.  And once
a deal stands, a database that does not take the registry makes the call fail, with everything kept.

* `StorageNode.Owes` : what the node holds of somebody's money in the middle of a call.
* `StorageNode.acceptStorageReallocationWithEscrow_eq` : an acceptance is a quote and a payment.
* `StorageNode.refused_openings_free_iff` : when a refused call has cost nothing.
-/

namespace Budlum

open EStateM.Ends (ensure_bind get_bind orThrow_bind set_bind)
open EStateM

open StorageRegistry

namespace StorageNode

/-! ### The database -/

/-- The database, if there is one: whether it takes a registry. -/
abbrev RegistryStore := Option (StorageRegistry → Except String Unit)

/-- There is no database, or it takes the registry. -/
def RegistryStore.takes (store : RegistryStore) (r : StorageRegistry) : Bool :=
  store.all fun save => (save r).toBool

def persistStorageRegistry (store : RegistryStore) : StorageM Unit := do
  match store with
  | none => pure ()
  | some save =>
    EStateM.ofExcept ((save (← get).registry).mapError fun reason => .fail (.notPersisted reason))

section Commands

variable (L : Linked) (store : RegistryStore)

/-- Open a deal and write the registry down. -/
def openStorageDealWithEscrowOn (q : DealRequest) (payer : Address) (nowUnix : UInt64) :
    StorageM UInt64 := do
  let dealId ← openStorageDealWithEscrow L q payer nowUnix
  persistStorageRegistry store
  return dealId

/-- Take a ticket and write the registry down. -/
def acceptStorageReallocationWithEscrowOn (ticketId : UInt64) (a : ReplacementRequest)
    (payer : Address) (nowUnix : UInt64) : StorageM UInt64 := do
  let dealId ← acceptStorageReallocationWithEscrow L ticketId a payer nowUnix
  persistStorageRegistry store
  return dealId

/-- What an acceptance is going to cost the payer, after every check that comes before money. -/
def ticketFee (n : StorageNode) (ticketId : UInt64) (a : ReplacementRequest) (nowUnix : UInt64) :
    Except StorageRefusal UInt64 := do
  let ticket ← Except.ofOption (n.registry.reallocations.get ticketId) (.unknownTicket ticketId)
  Except.ensure ticket.status.isOpen (.ticketNotOpen ticketId)
  Except.ensure (decide (a.operator ≠ ticket.slashedOperator)) (.slashedOperator a.operator ticketId)
  match n.registry.operatorCooldownUntil a.operator nowUnix with
  | some ends => throw (.coolingDown a.operator ends (ends.saturatingSub nowUnix))
  | none => pure ()
  let m ← Except.ofOption (n.registry.manifests.get ticket.manifestId)
    (.manifestVanished ticket.manifestId ticketId)
  let epochs := a.endEpoch.saturatingSub a.startEpoch
  Except.ensure (decide (epochs ≠ 0)) .noDuration
  let shard ← Except.ofOption (m.shard ticket.shardId)
    (.notInManifest ticket.shardId ticket.manifestId)
  return a.economics.totalFee shard.size.toUInt64 epochs

/-- The part of an acceptance that moves money. -/
def payForTicket (ticketId : UInt64) (a : ReplacementRequest) (payer : Address) (fee : UInt64) :
    StorageM UInt64 := do
  takeFee payer fee
  takeBond a.operator a.economics.operatorBond
  openEscrowed (fun r => r.acceptReallocationTicket L ticketId a) .acceptFailed payer a.operator fee
    a.economics.operatorBond

end Commands

/-- Every balance and the registry are what they were. -/
structure Untouched (n n' : StorageNode) : Prop where
  registry : n'.registry = n.registry
  balance : ∀ a, n'.balance a = n.balance a

/-- A call that returns an error has changed no balance and not the registry. -/
def FailsFree {α : Type} (m : StorageM α) (n : StorageNode) : Prop :=
  m.Fails n fun e n' => e ≠ .panic → Untouched n n'

/-- Once the fee of a ticket is taken, the operator can pay the bond. -/
def BondCovered (n : StorageNode) (ticketId : UInt64) (a : ReplacementRequest) (payer : Address)
    (nowUnix : UInt64) : Prop :=
  ∀ fee, n.ticketFee ticketId a nowUnix = .ok fee → fee ≠ 0 → fee ≤ n.balance payer →
    a.economics.operatorBond ≤ (n.take payer fee).balance a.operator

/-- The database takes the registry a call ends with, if the call opens a deal. -/
def Recordable {α : Type} (store : RegistryStore) (m : StorageM α) (n : StorageNode) : Prop :=
  m.Ensures n fun _ n' => store.takes n'.registry = true

variable {L : Linked} {store : RegistryStore} {n n' n'' : StorageNode}

/-! ### What is owed -/

/-- An amount that is owed to one address. -/
def due (a : Address) (amount : UInt64) : Address → Nat :=
  fun b => if b = a then amount.toNat else 0

/-- The registry is the same, and every balance is lower by what is owed. -/
structure Owes (owed : Address → Nat) (n n' : StorageNode) : Prop where
  registry : n'.registry = n.registry
  balance : ∀ a, (n'.balance a).toNat + owed a = (n.balance a).toNat

theorem Untouched.refl (n : StorageNode) : Untouched n n := ⟨rfl, fun _ => rfl⟩

theorem Owes.refl (n : StorageNode) : Owes 0 n n := ⟨rfl, fun _ => rfl⟩

theorem Owes.untouched (h : Owes 0 n n') : Untouched n n' :=
  ⟨h.registry, fun a => UInt64.toNat_inj.1 (h.balance a)⟩

variable {amount fee bond dealId : UInt64} {owed : Address → Nat} {payer operator : Address}

/-- Nothing is owed for an amount that is not positive. -/
theorem due_of_not_pos {a : Address} (h : ¬0 < amount) : due a amount = 0 := by
  have hzero : amount.toNat = 0 := by simpa [UInt64.lt_iff_toNat_lt] using h
  funext b
  simp [due, hzero]

theorem balance_take (a b : Address) (amount : UInt64) :
    (n.take a amount).balance b = if b = a then (n.balance a).saturatingSub amount else n.balance b := by
  change ((n.state.setBalance a _).account b).balance = _
  rw [AccountState.setBalance, AccountState.account_setAccount]
  split <;> rfl

/-- What is taken is owed. -/
theorem Owes.take {a : Address} (h : Owes owed n n')
    (hle : amount ≤ n'.balance a) : Owes (due a amount + owed) n (n'.take a amount) := by
  refine ⟨h.registry, fun b => ?_⟩
  have hb := h.balance b
  rw [balance_take, Pi.add_apply, due]
  split_ifs with heq
  · subst heq
    have hle' := UInt64.le_iff_toNat_le.1 hle
    rw [UInt64.toNat_saturatingSub]
    omega
  · omega

/-- What is owed can be given back, since it fitted into the balance before. -/
theorem giveBack_owes {a : Address}
    {E : Fault StorageRefusal → StorageNode → Prop} (h : Owes (due a amount + owed) n n') :
    (giveBack a amount).Ends n' (fun _ n'' => Owes owed n n'') E := by
  refine Ends.ite (fun _ => (give_ends n' a amount _).mono (fun _ n'' hgive => ?_)
    fun _ n'' hgive => ?_) fun hpos => ?_
  · refine ⟨hgive.1.registry.trans h.registry, fun b => ?_⟩
    have hb := h.balance b
    have hraised : (n''.balance b).toNat = (n'.balance b).toNat + due a amount b :=
      hgive.2.2.balance b
    rw [Pi.add_apply] at hb
    omega
  · have hover := UInt64.checkedAdd_eq_none.1 hgive.2
    have hb := h.balance a
    rw [Pi.add_apply, due, if_pos rfl] at hb
    have := (n.balance a).toNat_lt
    omega
  · rw [due_of_not_pos hpos, zero_add] at h
    exact .pure h

/-! ### Money comes first -/

/-- A call in the middle, on its way from `n`: it changes the registry or has cost nothing. -/
def OpensOrFree {α : Type} (n : StorageNode) (m : StorageM α) (n' : StorageNode) : Prop :=
  m.Ends n' (fun _ n'' => n''.registry ≠ n.registry) fun e n'' => e ≠ .panic → Untouched n n''

theorem checkCooldown_same (n : StorageNode) (operator : Address) (nowUnix : UInt64) :
    (checkCooldown operator nowUnix).Ends n (fun _ n' => n' = n) fun _ n' => n' = n := by
  refine get_bind ?_
  split
  · exact .throw rfl
  · exact .pure rfl

/-- What the fee leaves: the node as it was, or a node that owes the fee. -/
theorem takeFee_ends (n : StorageNode) (payer : Address) (fee : UInt64) :
    (takeFee payer fee).Ends n
      (fun _ n' => Owes (due payer fee) n n' ∧
        (n' = n ∨ fee ≠ 0 ∧ fee ≤ n.balance payer ∧ n' = n.take payer fee))
      fun _ n' => n' = n := by
  refine Ends.ite (fun hpos => ?_) fun hpos => ?_
  · refine get_bind (ensure_bind (fun _ => rfl) fun hle => .modify ?_)
    have hne : fee ≠ 0 := fun heq => by simp [heq] at hpos
    have howes := (Owes.refl n).take (of_decide_eq_true hle)
    rw [add_zero] at howes
    exact ⟨howes, .inr ⟨hne, of_decide_eq_true hle, rfl⟩⟩
  · rw [due_of_not_pos hpos]
    exact .pure ⟨.refl n, .inl rfl⟩

/-- The first opening: the fee goes back when the bond cannot be paid. -/
theorem takeBondOrRefund_owes (h : Owes (due payer fee) n n') :
    (takeBondOrRefund payer operator fee bond).Ends n'
    (fun _ n'' => Owes (due operator bond + due payer fee) n n'') fun _ n'' => Untouched n n'' := by
  refine Ends.ite (fun _ => get_bind ?_) fun hpos => ?_
  · refine Ends.ite (fun _ => ?_) fun hle => .modify (h.take (UInt64.not_lt.1 hle))
    rw [← add_zero (due payer fee)] at h
    exact Ends.bind (giveBack_owes h) fun _ n'' h' => .throw h'.untouched
  · rw [due_of_not_pos hpos, zero_add]
    exact .pure h

/-- The deal is opened, or everything that was taken for it goes back. -/
theorem openEscrowed_opensOrFree
    {opening : StorageRegistry → Except (Fault StorageError) (UInt64 × StorageRegistry)}
    {refusal : StorageError → StorageRefusal}
    (hopening : ∀ dealId r, opening n.registry = .ok (dealId, r) → r ≠ n.registry)
    (h : Owes (due operator bond + due payer fee) n n') : OpensOrFree n
    (openEscrowed opening refusal payer operator fee bond) n' := by
  refine get_bind ?_
  split
  · rename_i dealId r hopen
    rw [h.registry] at hopen
    exact set_bind (.pure (hopening dealId r hopen))
  · rw [add_comm] at h
    refine Ends.bind (giveBack_owes h) fun _ n₁ h₁ => ?_
    rw [← add_zero (due operator bond)] at h₁
    exact Ends.bind (giveBack_owes h₁) fun _ n₂ h₂ => .throw fun _ => h₂.untouched
  · exact .throw fun hpanic => absurd rfl hpanic

/-- A new deal has a new number. -/
theorem openDeal_changes {r r' : StorageRegistry} {q : DealRequest}
    (h : r.openDeal L q = .ok (dealId, r')) : r'.nextDealId ≠ r.nextDealId := by
  obtain ⟨shardBytes, next, -, hnext, -, rfl⟩ := openDeal_eq_ok h
  intro heq
  change next = r.nextDealId at heq
  rw [UInt64.checkedAdd_eq_some, heq] at hnext
  exact absurd hnext (by simp)

variable {a : ReplacementRequest} {ticketId nowUnix : UInt64}

theorem acceptReallocationTicket_changes {r r' : StorageRegistry}
    (h : r.acceptReallocationTicket L ticketId a = .ok (dealId, r')) : r'.nextDealId ≠
    r.nextDealId := by
  obtain ⟨ticket, m, opened, -, hopen, rfl⟩ := acceptReallocationTicket_eq_ok h
  change opened.nextDealId ≠ r.nextDealId
  exact openDeal_changes hopen

theorem openStorageDealWithEscrow_opensOrFree (n : StorageNode) (q : DealRequest) (payer : Address)
    (nowUnix : UInt64) : OpensOrFree n (openStorageDealWithEscrow L q payer nowUnix) n := by
  have hfree : ∀ (e : Fault StorageRefusal) (n' : StorageNode), n' = n → e ≠ .panic →
      Untouched n n' := fun _ _ h _ => h ▸ .refl n
  refine Ends.bind ((checkCooldown_same n q.operator nowUnix).mono (fun _ _ h => h) hfree) ?_
  rintro _ _ rfl
  refine ensure_bind (fun _ => hfree _ _ rfl) fun _ => ?_
  refine orThrow_bind (fun _ => hfree _ _ rfl) fun shard _ => ?_
  refine get_bind (ensure_bind (fun _ => hfree _ _ rfl) fun _ => ?_)
  refine Ends.bind ((takeFee_ends _ payer _).mono (fun _ _ h => h.1) hfree) fun _ n₁ h₁ => ?_
  refine Ends.bind ((takeBondOrRefund_owes h₁).mono (fun _ _ h => h) fun _ _ h _ => h)
    fun _ n₂ h₂ => ?_
  exact openEscrowed_opensOrFree
    (fun dealId r hopen heq => openDeal_changes hopen (congrArg nextDealId heq)) h₂

/-! ### Tickets -/

/-- A call begins by looking: it stops where `x` does and goes on with `k`. -/
def Looks {α β : Type} (n : StorageNode) (m : StorageM α) (x : Except StorageRefusal β)
    (k : β → StorageM α) : Prop :=
  m.run n = match x with
    | .ok b => (k b).run n
    | .error e => .error (.fail e) n

section Looks

variable {α β γ : Type} {k : β → StorageM α} {e : StorageRefusal} {m : StorageM α}

theorem Looks.ensure {b : Bool} {f : Unit → StorageM α}
    {g : Unit → Except StorageRefusal β} (h : Looks n (f ()) (g ()) k) :
    Looks n (EStateM.ensure b (.fail e) >>= f) (Except.ensure b e >>= g) k := by
  cases b with
  | true => exact h
  | false => rfl

theorem Looks.orThrow {o : Option γ} {f : γ → StorageM α}
    {g : γ → Except StorageRefusal β} (h : ∀ c, Looks n (f c) (g c) k) :
    Looks n (EStateM.orThrow o (.fail e) >>= f) (Except.ofOption o e >>= g) k := by
  cases o with
  | some c => exact h c
  | none => rfl

theorem Looks.pure (n : StorageNode) (b : β) : Looks n (k b) (pure b) k := rfl

theorem Looks.run_ok {b : β} (h : Looks n m (.ok b) k) : m.run n = (k b).run n := h

/-- Looking costs nothing. -/
theorem Looks.opensOrFree {x : Except StorageRefusal β} (h : Looks n m x k)
    (hk : ∀ b, x = .ok b → OpensOrFree n (k b) n) : OpensOrFree n m n := by
  unfold OpensOrFree Ends Ensures Fails
  cases x with
  | ok b =>
    rw [h.run_ok]
    exact hk b rfl
  | error e =>
    have hrun : m.run n = .error (.fail e) n := h
    rw [hrun]
    refine ⟨fun a n' hok => (nomatch hok), fun e' n' herr _ => ?_⟩
    obtain ⟨-, rfl⟩ := EStateM.Result.error.inj herr
    exact .refl n

end Looks

theorem run_checkCooldown (n : StorageNode) (operator : Address) (nowUnix : UInt64) :
    (checkCooldown operator nowUnix).run n =
      match n.registry.operatorCooldownUntil operator nowUnix with
      | some ends => .error (.fail (.coolingDown operator ends (ends.saturatingSub nowUnix))) n
      | none => .ok () n := by
  rw [checkCooldown, run_bind, run_get]
  cases h : n.registry.operatorCooldownUntil operator nowUnix <;> simp only [h] <;> rfl

/-- The first part of an acceptance only looks. -/
theorem acceptStorageReallocationWithEscrow_looks (n : StorageNode) (ticketId : UInt64)
    (a : ReplacementRequest) (payer : Address) (nowUnix : UInt64) :
    Looks n (acceptStorageReallocationWithEscrow L ticketId a payer nowUnix)
      (n.ticketFee ticketId a nowUnix) (payForTicket L ticketId a payer) := by
  refine Looks.orThrow fun ticket => Looks.ensure (Looks.ensure ?_)
  unfold Looks
  rw [run_bind, run_checkCooldown]
  cases n.registry.operatorCooldownUntil a.operator nowUnix with
  | some ends => rfl
  | none =>
    refine Looks.orThrow fun m => Looks.ensure (Looks.orThrow fun shard => ?_)
    exact Looks.pure (k := payForTicket L ticketId a payer) n _

/-- A bond that can be paid is taken; a call that took no fee may stop here. -/
theorem takeBond_ends (h : Owes (due payer fee) n n')
    (hcovered : n' = n ∨ bond ≤ n'.balance operator) : (takeBond operator bond).Ends n'
    (fun _ n'' => Owes (due operator bond + due payer fee) n n'') fun _ n'' => Untouched n n'' := by
  refine Ends.ite (fun _ => ?_) fun hpos => ?_
  · refine get_bind (ensure_bind (fun hnot => ?_) fun hle => ?_)
    · rcases hcovered with rfl | hle
      · exact .refl _
      · exact absurd hle (of_decide_eq_false hnot)
    · exact .modify (h.take (of_decide_eq_true hle))
  · rw [due_of_not_pos hpos, zero_add]
    exact .pure h

/-- A ticket is paid for: nothing is lost if the operator can pay the bond. -/
theorem payForTicket_opensOrFree
    (hcovered : fee ≠ 0 → fee ≤ n.balance payer →
      a.economics.operatorBond ≤ (n.take payer fee).balance a.operator) :
    OpensOrFree n (payForTicket L ticketId a payer fee) n := by
  refine Ends.bind ((takeFee_ends n payer fee).mono (fun _ _ h => h)
    fun _ _ h _ => h ▸ .refl n) fun _ n₁ ⟨howes, htaken⟩ => ?_
  have hbond : n₁ = n ∨ a.economics.operatorBond ≤ n₁.balance a.operator :=
    htaken.imp_right fun ⟨hne, hle, heq⟩ => heq ▸ hcovered hne hle
  refine Ends.bind ((takeBond_ends howes hbond).mono (fun _ _ h => h) fun _ _ h _ => h)
    fun _ n₂ h₂ => ?_
  exact openEscrowed_opensOrFree (fun dealId r hopen heq =>
    acceptReallocationTicket_changes hopen (congrArg nextDealId heq)) h₂

/-- The payer's fee is gone when the operator cannot pay the bond. -/
theorem run_payForTicket_of_not_covered (hne : fee ≠ 0) (hle : fee ≤ n.balance payer)
    (hnot : ¬a.economics.operatorBond ≤ (n.take payer fee).balance a.operator) :
    (payForTicket L ticketId a payer fee).run n = .error
    (.fail (.insufficientOperator a.economics.operatorBond)) (n.take payer fee) := by
  have hpos : 0 < fee := UInt64.pos_iff_ne_zero.2 hne
  have hbond : 0 < a.economics.operatorBond := by
    refine UInt64.pos_iff_ne_zero.2 fun hzero => hnot ?_
    rw [hzero]
    exact UInt64.zero_le
  have hfee : (takeFee payer fee).run n = .ok () (n.take payer fee) := by
    rw [takeFee, if_pos hpos, run_bind, run_get]
    simp [EStateM.ensure, hle]
  have hrefused : (takeBond a.operator a.economics.operatorBond).run (n.take payer fee) =
      .error (.fail (.insufficientOperator a.economics.operatorBond)) (n.take payer fee) := by
    rw [takeBond, if_pos hbond, run_bind, run_get]
    simp [EStateM.ensure, hnot]
  rw [payForTicket, run_bind, hfee]
  simp only [run_bind, hrefused]

theorem not_untouched_take (hne : fee ≠ 0) (hle : fee ≤ n.balance payer) : ¬Untouched n
    (n.take payer fee) := by
  intro h
  have hsame := h.balance payer
  rw [balance_take, if_pos rfl, ← UInt64.toNat_inj, UInt64.toNat_saturatingSub] at hsame
  have hle' := UInt64.le_iff_toNat_le.1 hle
  have hpos := UInt64.lt_iff_toNat_lt.1 (UInt64.pos_iff_ne_zero.2 hne)
  omega

theorem acceptStorageReallocationWithEscrow_opensOrFree
    (h : n.BondCovered ticketId a payer nowUnix) : OpensOrFree n
    (acceptStorageReallocationWithEscrow L ticketId a payer nowUnix) n := by
  have hlooks := acceptStorageReallocationWithEscrow_looks (L := L) n ticketId a payer nowUnix
  refine hlooks.opensOrFree fun fee hfee => ?_
  have hcovered := h fee hfee
  exact payForTicket_opensOrFree hcovered

/-- An acceptance that costs the payer a fee for nothing. -/
theorem BondCovered.of_failsFree
    (h : FailsFree (acceptStorageReallocationWithEscrow L ticketId a payer nowUnix) n) :
    n.BondCovered ticketId a payer nowUnix := by
  intro fee hfee hne hle
  by_contra hnot
  have hlooks := acceptStorageReallocationWithEscrow_looks (L := L) n ticketId a payer nowUnix
  rw [hfee] at hlooks
  have hlost := hlooks.run_ok.trans (run_payForTicket_of_not_covered hne hle hnot)
  exact not_untouched_take hne hle (h _ _ hlost nofun)

/-! ### Writing the registry down -/

theorem persistStorageRegistry_ends (store : RegistryStore) (n : StorageNode) :
    (persistStorageRegistry store).Ends n (fun _ n' => n' = n ∧ store.takes n.registry = true)
      fun e n' => n' = n ∧ store.takes n.registry = false ∧ e ≠ .panic := by
  cases store with
  | none => exact .pure ⟨rfl, rfl⟩
  | some save =>
    refine get_bind ?_
    cases hsave : save n.registry with
    | ok u => exact .pure ⟨rfl, by simp [RegistryStore.takes, hsave, Except.toBool]⟩
    | error e => exact .throw ⟨rfl, by simp [RegistryStore.takes, hsave, Except.toBool], by simp⟩

/-- A call that is written down at its end fails where it fails by itself. -/
theorem FailsFree.of_persisted {α : Type} {m : StorageM α}
    (h : FailsFree (do let a ← m; persistStorageRegistry store; return a) n) : FailsFree m n :=
  (fails_bind.1 h).1

/-- A call that is written down at its end is free when it fails iff it is so by itself and what it
opens can be written down. -/
theorem failsFree_persisted {α : Type} {m : StorageM α} (h : OpensOrFree n m n) :
    FailsFree (do let a ← m; persistStorageRegistry store; return a) n ↔ Recordable store m n := by
  constructor
  · intro hfree a n' hrun
    -- A registry that cannot be written down holds a deal already.
    have hpersist := (fails_bind.1 ((fails_bind.1 hfree).2 a n' hrun)).1
    have hends := persistStorageRegistry_ends store n'
    cases hwrite : (persistStorageRegistry store).run n' with
    | ok u n'' => exact (hends.1 u n'' hwrite).2
    | error e n'' =>
      obtain ⟨rfl, -, hreturned⟩ := hends.2 e n'' hwrite
      exact absurd (hpersist e n'' hwrite hreturned).registry (h.1 a n'' hrun)
  · intro hrec
    refine fails_bind.2 ⟨h.2, fun a n' hrun => fails_bind.2 ⟨?_, ?_⟩⟩
    · intro e n'' hpersist
      obtain ⟨-, hnot, -⟩ := (persistStorageRegistry_ends store n').2 e n'' hpersist
      rw [hrec a n' hrun] at hnot
      cases hnot
    · exact fun _ _ _ => fails_pure

/-- **Refused openings**: a call that opens a deal and returns an error leaves every balance and the
registry as they were, exactly if the database takes the registry with the deal and, for a ticket, the
operator can pay the bond once a fee was taken. -/
theorem refused_openings_free_iff (L : Linked) (store : RegistryStore) (n : StorageNode)
    (payer : Address) (nowUnix : UInt64) :
    (∀ q, FailsFree (openStorageDealWithEscrowOn L store q payer nowUnix) n ↔
      Recordable store (openStorageDealWithEscrow L q payer nowUnix) n) ∧
    ∀ ticketId a, FailsFree (acceptStorageReallocationWithEscrowOn L store ticketId a payer nowUnix) n ↔
      n.BondCovered ticketId a payer nowUnix ∧
        Recordable store (acceptStorageReallocationWithEscrow L ticketId a payer nowUnix) n := by
  refine ⟨fun q => failsFree_persisted (openStorageDealWithEscrow_opensOrFree n q payer nowUnix),
    fun ticketId a => ⟨fun hfree => ?_, fun ⟨hcovered, hrec⟩ => ?_⟩⟩
  · have hcovered := BondCovered.of_failsFree hfree.of_persisted
    exact ⟨hcovered, (failsFree_persisted
      (acceptStorageReallocationWithEscrow_opensOrFree hcovered)).1 hfree⟩
  · exact (failsFree_persisted (acceptStorageReallocationWithEscrow_opensOrFree hcovered)).2 hrec

/-! ### A fee for nothing -/

/-- A payer with a balance, and a ticket for a replica nobody keeps. -/
def ticketed : StorageNode where
  state := { ({} : AccountState).setBalance 9 5000 with
    storageRegistry := Trace.final (StorageOp.after .storing .sample)
      [.registerManifest .sample, .openNeverPlacedTicket 0 ⟨1, 7, 1⟩ 0] {} }

/-- Somebody without money takes the ticket, at the payer's expense. -/
def penniless : ReplacementRequest where
  operator := 1
  startEpoch := 0
  endEpoch := 1000
  economics := ⟨5, 1⟩
  domainParams := { minOperatorBond := 1 }
  merkleProof := some (List.replicate 64 0)
  storageRoot := some 1

theorem penniless_costs_payer :
    ¬ FailsFree (acceptStorageReallocationWithEscrowOn .storing none 0 penniless 9 0) ticketed := by
  intro h
  have hcovered := BondCovered.of_failsFree h.of_persisted 1 (by decide +kernel) (by decide)
    (by decide +kernel)
  exact absurd hcovered (by decide +kernel)

end StorageNode

end Budlum
