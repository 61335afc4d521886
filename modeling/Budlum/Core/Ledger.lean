import Budlum.Core.AccountState

/-!
# Where value is, and what moves it

Every operation on the state is described by one relation, `Moves lost gained s s'`: what is held
in `s'` plus `lost` is at most what is held in `s` plus `gained`, no nonce changes, and the parts of
the state that no transaction writes stay as they are.  Moves compose by adding up, so that a
sequence of operations is accounted for by the sum of its parts.

`Pays tx s s'` is what a whole transaction amounts to: it costs at least its fee and moves the
sender's nonce by one.
-/

namespace Budlum

open OrdMap

namespace AccountState

variable {s s₁ s₂ : AccountState} {a b : Address} (acc : Account) (balance : UInt64)

/-! ### Accounts -/

theorem account_setAccount :
    (s.setAccount a acc).account b = if b = a then acc else s.account b := by
  simp only [account, setAccount, getD, get_insert]
  split <;> simp

@[simp] theorem account_setAccount_self : (s.setAccount a acc).account a = acc := by
  simp [account_setAccount]

@[simp] theorem setAccount_setAccount (acc acc' : Account) :
    (s.setAccount a acc).setAccount a acc' = s.setAccount a acc' := by
  have h : (s.accounts.insert a acc).insert a acc' = s.accounts.insert a acc' :=
    ext_get fun k => by
      simp only [get_insert]
      split <;> rfl
  simp only [setAccount, h]

@[simp] theorem account_touch : (s.touch a).account b = s.account b := by
  rw [touch, account_setAccount]
  split_ifs with h
  · rw [h]
  · rfl

@[simp] theorem setBalance_touch : (s.touch a).setBalance a balance = s.setBalance a balance := by
  simp only [setBalance, account_touch]
  exact setAccount_setAccount _ _

@[simp] theorem getBalance_touch : (s.touch a).getBalance b = s.getBalance b := by
  simp only [getBalance, account_touch]

@[simp] theorem getNonce_setBalance : (s.setBalance a balance).getNonce b = s.getNonce b := by
  simp only [getNonce, setBalance, account_setAccount]
  split_ifs with h
  · rw [h]
  · rfl

theorem burnFrom_fst (s : AccountState) (a : Address) (amount : UInt64) :
    (s.burnFrom a amount).1 = min amount (s.getBalance a) := by
  unfold burnFrom
  split_ifs with h
  · rw [h]
    exact (min_eq_left UInt64.zero_le).symm
  · rfl

theorem burnFrom_frame (s : AccountState) (a : Address) (amount : UInt64) :
    (s.burnFrom a amount).2.timedBurn = s.timedBurn ∧
      (s.burnFrom a amount).2.tokenomics = s.tokenomics ∧
      (s.burnFrom a amount).2.storageRegistry = s.storageRegistry := by
  unfold burnFrom
  split <;> exact ⟨rfl, rfl, rfl⟩

/-- The sender's next nonce.  The counter stops at the end of its range. -/
def bumpNonce (s : AccountState) (a : Address) : AccountState :=
  s.setNonce a ((s.getNonce a).saturatingAdd 1)

/-- A balance and the next nonce written at once. -/
theorem setAccount_eq_bumpNonce : s.setAccount a ⟨balance, (s.getNonce a).saturatingAdd 1⟩ =
      (s.setBalance a balance).bumpNonce a := by
  simp only [bumpNonce, setNonce, getNonce_setBalance]
  simp only [setBalance, account_setAccount_self, setAccount_setAccount]

theorem getNonce_setNonce (nonce : UInt64) :
    (s.setNonce a nonce).getNonce b = if b = a then nonce else s.getNonce b := by
  simp only [getNonce, setNonce, account_setAccount]
  split <;> rfl

/-! ### What is held -/

/-- The places value can be in. -/
structure Ledger where
  accounts : OrdMap Address Account
  validators : OrdMap Address Validator
  unbondingQueue : List UnbondingEntry
  registry : PermissionlessRegistry
  bridgeState : BridgeState
  aiRegistry : AiRegistry

def ledger (s : AccountState) : Ledger :=
  ⟨s.accounts, s.validators, s.unbondingQueue, s.registry, s.bridgeState, s.aiRegistry⟩

/-- The part of the state that no transaction writes; everything else is blank. -/
def settings (s : AccountState) : AccountState :=
  { s with
    accounts := ∅, validators := ∅, bnsRegistry := {}, nftRegistry := {}, identity := {}
    vault := {}, marketplace := {}, budlumxyz := {}, aiRegistry := {}, noteRegistry := {}
    bridgeState := {}, unbondingQueue := [], governance := {}
    registry := PermissionlessRegistry.new.setParams s.registry.params s.registry.paramsValid
    pendingBudBoostShare := 0 }

/-- What is held, place by place. -/
theorem totalHeld_eq (s : AccountState) : s.totalHeld = s.accounts.sumBy (fun _ a => a.balance.toNat) +
    s.validators.sumBy (fun _ v => v.stake.toNat) + (s.unbondingQueue.map (·.amount.toNat)).sum +
    s.registry.totalBondedStakeExcluding Roles.validator + s.bridgeState.escrowed +
    s.aiRegistry.openEscrow + s.aiRegistry.agentEscrow := rfl

theorem circulatingSupply_setAccount :
    (s.setAccount a acc).circulatingSupply + (s.getBalance a).toNat =
      s.circulatingSupply + acc.balance.toNat := by
  have h := sumBy_insert (fun _ (a : Account) => a.balance.toNat) s.accounts a acc
  have hat : amountAt (fun _ (a : Account) => a.balance.toNat) s.accounts a =
      (s.getBalance a).toNat := by
    simp only [amountAt, getBalance, account, getD]
    cases s.accounts.get a <;> rfl
  rwa [hat] at h

theorem totalHeld_setAccount :
    (s.setAccount a acc).totalHeld + (s.getBalance a).toNat = s.totalHeld + acc.balance.toNat := by
  have h := circulatingSupply_setAccount (s := s) (a := a) acc
  simp only [totalHeld_eq, circulatingSupply, setAccount] at h ⊢
  omega

theorem totalHeld_setBalance :
    (s.setBalance a balance).totalHeld + (s.getBalance a).toNat = s.totalHeld + balance.toNat :=
  totalHeld_setAccount _

@[simp] theorem totalHeld_setNonce (nonce : UInt64) : (s.setNonce a nonce).totalHeld = s.totalHeld :=
  Nat.add_right_cancel (totalHeld_setAccount (s := s) (a := a) { s.account a with nonce := nonce })

theorem totalHeld_of_ledger (h : s₁.ledger = s.ledger) : s₁.totalHeld = s.totalHeld := by
  simp only [ledger, Ledger.mk.injEq] at h
  obtain ⟨ha, hv, hu, hr, hb, hi⟩ := h
  simp only [totalHeld_eq, ha, hv, hu, hr, hb, hi]

theorem bridgeState_of_ledger (h : s₁.ledger = s.ledger) :
    s₁.bridgeState.transfers = s.bridgeState.transfers :=
  congrArg (·.bridgeState.transfers) h

/-! ### Moves -/

/-- What every step keeps in order: the payloads of proposals, and a bridge nobody used. -/
structure Keeps (s s' : AccountState) : Prop where
  governance : s.governance.WellFormed → s'.governance.WellFormed
  bridge : s.bridgeState.transfers = ∅ → s'.bridgeState.transfers = ∅

theorem Keeps.refl (s : AccountState) : Keeps s s := ⟨id, id⟩

theorem Keeps.trans (h₁ : Keeps s s₁) (h₂ : Keeps s₁ s₂) : Keeps s s₂ :=
  ⟨h₂.governance ∘ h₁.governance, h₂.bridge ∘ h₁.bridge⟩

/-- An operation that gives up `lost`, takes in `gained` and leaves nonces and settings alone. -/
structure Moves (lost gained : Nat) (s s' : AccountState) : Prop extends Keeps s s' where
  held : s'.totalHeld + lost ≤ s.totalHeld + gained
  nonces : ∀ a, s'.getNonce a = s.getNonce a
  settings : s'.settings = s.settings

namespace Moves

variable {l l₁ l₂ g g₁ g₂ : Nat}

theorem trans (h₁ : Moves l₁ g₁ s s₁) (h₂ : Moves l₂ g₂ s₁ s₂) :
    Moves (l₁ + l₂) (g₁ + g₂) s s₂ where
  toKeeps := h₁.toKeeps.trans h₂.toKeeps
  held := by have := h₁.held; have := h₂.held; omega
  nonces a := (h₂.nonces a).trans (h₁.nonces a)
  settings := h₂.settings.trans h₁.settings

/-- Something that changes no place value can be in. -/
theorem of_ledger (hledger : s₁.ledger = s.ledger) (hsettings : s₁.settings = s.settings)
    (hgovernance : s.governance.WellFormed → s₁.governance.WellFormed) : Moves 0 0 s s₁ where
  governance := hgovernance
  bridge h := (bridgeState_of_ledger hledger).trans h
  held := (totalHeld_of_ledger hledger).le
  nonces a := by rw [getNonce, account, show s₁.accounts = s.accounts from
    congrArg Ledger.accounts hledger, getNonce, account]
  settings := hsettings

variable (s)

theorem refl : Moves 0 0 s s := of_ledger rfl rfl id

theorem setBalance (a : Address) (balance : UInt64) :
    Moves (s.getBalance a).toNat balance.toNat s (s.setBalance a balance) where
  held := (totalHeld_setBalance balance).le
  nonces _ := getNonce_setBalance balance
  settings := rfl
  governance := id
  bridge := id

theorem touch (a : Address) : Moves 0 0 s (s.touch a) where
  held := (Nat.add_right_cancel (totalHeld_setAccount (s := s) (a := a) (s.account a))).le
  nonces _ := by simp only [getNonce, account_touch]
  settings := rfl
  governance := id
  bridge := id

variable {s}

/-- The same nonce written before and after a move. -/
theorem setNonce (h : Moves l g s s₁) (a : Address) (nonce : UInt64) :
    Moves l g (s.setNonce a nonce) (s₁.setNonce a nonce) where
  held := by rw [totalHeld_setNonce, totalHeld_setNonce]; exact h.held
  nonces b := by rw [getNonce_setNonce, getNonce_setNonce, h.nonces]
  settings := h.settings
  governance := h.governance
  bridge := h.bridge

theorem registry {r : PermissionlessRegistry}
    (h : r.totalBondedStakeExcluding Roles.validator + l ≤
      s.registry.totalBondedStakeExcluding Roles.validator + g)
    (hparams : r.params = s.registry.params) : Moves l g s { s with registry := r } where
  held := by simp only [totalHeld_eq]; omega
  nonces _ := rfl
  settings := by simp only [AccountState.settings, hparams]
  governance := id
  bridge := id

theorem aiRegistry {r : AiRegistry}
    (h : r.openEscrow + r.agentEscrow + l ≤
      s.aiRegistry.openEscrow + s.aiRegistry.agentEscrow + g) :
    Moves l g s { s with aiRegistry := r } where
  held := by simp only [totalHeld_eq]; omega
  nonces _ := rfl
  settings := rfl
  governance := id
  bridge := id

theorem ofBridge {b : BridgeState} (h : b.escrowed + l ≤ s.bridgeState.escrowed + g)
    (hempty : s.bridgeState.transfers = ∅ → b.transfers = ∅) :
    Moves l g s { s with bridgeState := b } where
  held := by simp only [totalHeld_eq]; omega
  nonces _ := rfl
  settings := rfl
  governance := fun h => h
  bridge := hempty

/-- A transfer that is found in the table moves. -/
theorem bridgeState {b : BridgeState} {id : MessageId} {t : BridgeTransfer}
    (hget : s.bridgeState.transfers.get id = some t)
    (h : b.escrowed + l ≤ s.bridgeState.escrowed + g) :
    Moves l g s { s with bridgeState := b } :=
  ofBridge h fun hempty => by rw [hempty] at hget; simp at hget

theorem validators {m : OrdMap Address Validator}
    (h : m.sumBy (fun _ v => v.stake.toNat) + l ≤ s.totalStakedSupply + g) :
    Moves l g s { s with validators := m } where
  held := by simp only [totalHeld_eq, totalStakedSupply] at h ⊢; omega
  nonces _ := rfl
  settings := rfl
  governance := id
  bridge := id

theorem setValidator {v' : Validator}
    (h : v'.stake.toNat + l ≤ (s.validators.get a).elim 0 (·.stake.toNat) + g) :
    Moves l g s (s.setValidator a v') := by
  refine validators ?_
  have hsum := sumBy_insert (fun _ (v : Validator) => v.stake.toNat) s.validators a v'
  change _ + (s.validators.get a).elim 0 (·.stake.toNat) = s.totalStakedSupply + _ at hsum
  omega

theorem unbondingQueue {q : List UnbondingEntry}
    (h : (q.map (·.amount.toNat)).sum + l ≤ s.totalUnbondingSupply + g) :
    Moves l g s { s with unbondingQueue := q } where
  held := by simp only [totalHeld_eq, totalUnbondingSupply] at h ⊢; omega
  nonces _ := rfl
  settings := rfl
  governance := id
  bridge := id

theorem unbond (s : AccountState) (entry : UnbondingEntry) :
    Moves 0 entry.amount.toNat s
      { s with unbondingQueue := s.unbondingQueue ++ [entry] } :=
  unbondingQueue (by simp [totalUnbondingSupply])

end Moves

theorem Moves.of_le {l l' g g' : Nat} (h : Moves l g s s₁) (hle : l' + g ≤ g' + l) :
    Moves l' g' s s₁ where
  toKeeps := h.toKeeps
  held := by have := h.held; omega
  nonces := h.nonces
  settings := h.settings

/-! ### Balances -/

section Balances

variable {ε : Type} {f : UInt64 → Except ε UInt64}

theorem updateBalance_ensures {Q : Unit → AccountState → Prop} :
    (updateBalance a f).Ensures s Q ↔
      ∀ balance, f (s.getBalance a) = .ok balance → Q () (s.setBalance a balance) := by
  simp only [updateBalance, EStateM.ensures_bind, EStateM.ensures_modify, EStateM.ensures_get,
    EStateM.ensures_ofExcept, getBalance_touch, setBalance_touch]

/-- A balance that cannot be updated leaves only the account behind. -/
theorem updateBalance_fails :
    (updateBalance a f).Fails s fun e s' => f (s.getBalance a) = .error e ∧ s' = s.touch a := by
  simp [updateBalance, EStateM.Ensures]

end Balances

end AccountState

/-! ### Steps outside transactions -/

namespace AccountState

/-- The steps between transactions create no value. -/
structure Settles (s s' : AccountState) : Prop extends Keeps s s' where
  held : s'.totalHeld ≤ s.totalHeld

variable {s s₁ s₂ : AccountState}

/-- The boosts still to be shared out, the stored content and the tokens. -/
def apart (s : AccountState) : UInt64 × StorageRegistry × NftRegistry :=
  (s.pendingBudBoostShare, s.storageRegistry, s.nftRegistry)

/-- Nor do they touch what is kept apart. -/
structure Passes (s s' : AccountState) : Prop extends Settles s s' where
  apart : s'.apart = s.apart

theorem Moves.passes {l g : Nat} (h : Moves l g s s₁) (hle : g ≤ l) (hapart : s₁.apart = s.apart) :
    Passes s s₁ where
  toKeeps := h.toKeeps
  held := by have := h.held; omega
  apart := hapart

namespace Passes

theorem trans (h₁ : Passes s s₁) (h₂ : Passes s₁ s₂) : Passes s s₂ where
  toKeeps := h₁.toKeeps.trans h₂.toKeeps
  held := h₂.held.trans h₁.held
  apart := h₂.apart.trans h₁.apart

/-- Something that changes no place value can be in. -/
theorem of_ledger (hledger : s₁.ledger = s.ledger) (hapart : s₁.apart = s.apart)
    (hgovernance : s.governance.WellFormed → s₁.governance.WellFormed) : Passes s s₁ where
  governance := hgovernance
  bridge h := (bridgeState_of_ledger hledger).trans h
  held := (totalHeld_of_ledger hledger).le
  apart := hapart

theorem refl (s : AccountState) : Passes s s := of_ledger rfl rfl id

theorem setNonce (s : AccountState) (a : Address) (nonce : UInt64) :
    Passes s (s.setNonce a nonce) :=
  ⟨⟨⟨id, id⟩, (totalHeld_setNonce nonce).le⟩, rfl⟩

/-- A sequence of steps. -/
theorem foldl {α : Type} {f : AccountState → α → AccountState}
    (h : ∀ s x, Passes s (f s x)) (xs : List α) (s : AccountState) : Passes s (xs.foldl f s) :=
  xs.foldlRecOn f (refl s) fun s' hs x _ => hs.trans (h s' x)

end Passes

end AccountState

/-! ### Whole transactions -/

/-- What a transaction amounts to: it costs at least its fee, and the sender's nonce moves on.
The cost is computed with a saturating addition, which is exact below the largest word. -/
structure Pays (tx : Transaction) (s s' : AccountState) : Prop extends
    AccountState.Keeps s s' where
  held : s.totalHeld < UInt64.maxValue.toNat → s'.totalHeld + tx.fee.toNat ≤ s.totalHeld
  nonces : ∀ a, s'.getNonce a =
    if a = tx.sender then (s.getNonce a).saturatingAdd 1 else s.getNonce a
  settings : s'.settings = s.settings

namespace Pays

open AccountState

variable {tx : Transaction} {s s₁ s₂ s₃ : AccountState} {l₁ l₂ g₁ g₂ : Nat}

/-- Moves before and after the nonce is counted up. -/
theorem of_moves (h₁ : Moves l₁ g₁ s s₁) (h₂ : Moves l₂ g₂ (s₁.bumpNonce tx.sender) s₂)
    (hle : s.totalHeld < UInt64.maxValue.toNat → g₁ + g₂ + tx.fee.toNat ≤ l₁ + l₂) :
    Pays tx s s₂ where
  toKeeps := h₁.toKeeps.trans ⟨h₂.governance, h₂.bridge⟩
  held hs := by
    have := h₁.held
    have := h₂.held
    rw [AccountState.bumpNonce, totalHeld_setNonce] at this
    omega
  nonces a := by
    rw [h₂.nonces a, AccountState.bumpNonce, getNonce_setNonce, h₁.nonces, h₁.nonces]
    split_ifs with h
    · rw [h]
    · rfl
  settings := h₂.settings.trans h₁.settings

/-- A transaction that does something else before it pays. -/
theorem after (h₁ : Moves 0 0 s s₁) (h : Pays tx s₁ s₂) : Pays tx s s₂ where
  toKeeps := h₁.toKeeps.trans h.toKeeps
  held hs := by have := h₁.held; have := h.held (by omega); omega
  nonces a := by rw [h.nonces, h₁.nonces]
  settings := h.settings.trans h₁.settings

/-- A transaction that goes on after it has paid. -/
theorem trans (h : Pays tx s s₁) (h₂ : Moves 0 0 s₁ s₂) : Pays tx s s₂ where
  toKeeps := h.toKeeps.trans h₂.toKeeps
  held hs := by have := h.held hs; have := h₂.held; omega
  nonces a := (h₂.nonces a).trans (h.nonces a)
  settings := h₂.settings.trans h.settings

end Pays

/-! ### Paying out

Several parts of the node only ever raise balances: boosts, rewards, stakes that are returned.  What
such a part did is said by the amount each address got and by the sum of all amounts. -/

namespace AccountState

variable {s s₁ s₂ : AccountState}

def credit (a : Address) (amount : Nat) : Address → Nat := fun b => if b = a then amount else 0

@[simp] theorem credit_zero (a : Address) : credit a 0 = 0 := by
  funext b
  simp [credit]

/-- Balances were raised, and by how much in total. -/
structure Raises (paid : Address → Nat) (sum : Nat) (s s' : AccountState) : Prop where
  balance : ∀ a, (s'.getBalance a).toNat = (s.getBalance a).toNat + paid a
  supply : s'.circulatingSupply = s.circulatingSupply + sum

theorem Raises.refl (s : AccountState) : Raises 0 0 s s := ⟨fun _ => rfl, rfl⟩

theorem Raises.trans {p₁ p₂ : Address → Nat} {n₁ n₂ : Nat} (h₁ : Raises p₁ n₁ s s₁)
    (h₂ : Raises p₂ n₂ s₁ s₂) : Raises (p₁ + p₂) (n₁ + n₂) s s₂ :=
  ⟨fun a => by rw [h₂.balance, h₁.balance, Pi.add_apply, Nat.add_assoc],
    by rw [h₂.supply, h₁.supply, Nat.add_assoc]⟩

/-- A balance that was raised is a word. -/
theorem Raises.fits {paid : Address → Nat} {sum : Nat} (h : Raises paid sum s s₁) (a : Address) :
    (s.getBalance a).toNat + paid a < 2 ^ 64 :=
  h.balance a ▸ (s₁.getBalance a).toNat_lt

/-- A payment that fits. -/
theorem Raises.setBalance {a : Address} {amount : Nat} {balance : UInt64}
    (h : balance.toNat = (s.getBalance a).toNat + amount) :
    Raises (credit a amount) amount s (s.setBalance a balance) := by
  refine ⟨fun b => ?_, ?_⟩
  · change (((s.setAccount a _).account b).balance).toNat = _
    rw [account_setAccount, credit]
    split_ifs with heq
    · rwa [heq]
    · rfl
  · have hsupply := circulatingSupply_setAccount (s := s) (a := a)
      { s.account a with balance := balance }
    change (s.setBalance a balance).circulatingSupply + _ = s.circulatingSupply + balance.toNat
      at hsupply
    omega

/-- A payment fits or fails. -/
theorem tryAddBalance_ends (a : Address) (amount : UInt64) :
    (tryAddBalance a amount).Ends s
      (fun _ s' => Raises (credit a amount.toNat) amount.toNat s s')
      fun _ _ => 2 ^ 64 ≤ (s.getBalance a).toNat + amount.toNat := by
  constructor
  · refine updateBalance_ensures.2 fun balance hfits => ?_
    rw [Except.ofOption_eq_ok, UInt64.checkedAdd_eq_some] at hfits
    exact .setBalance hfits
  · intro e s' hrun
    have hover := (updateBalance_fails e s' hrun).1
    rw [Except.ofOption_eq_error, UInt64.checkedAdd_eq_none] at hover
    exact hover.1

end AccountState

end Budlum
