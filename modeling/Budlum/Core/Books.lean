import Budlum.Core.Ledger

/-!
# What is booked on which account

`Books paid received s s'` says exactly what happened to every balance between two states, as a list
of amounts paid and a list of amounts received.  Bookings compose by appending the lists.  The AI
registry is not touched by them, so that an operation that changes the registry first and the
balances afterwards can be read in two parts.

A payment changes nothing but balances (`Transfers`): what it moves and what it draws from whom is
read off its bookings.
-/

namespace Budlum

/-- Amounts booked on accounts. -/
abbrev Bookings := List (Address × Nat)

namespace Bookings

/-- What is booked on one account. -/
def on (l : Bookings) (a : Address) : Nat := (l.map fun b => if b.1 = a then b.2 else 0).sum

/-- What is booked on all accounts. -/
def total (l : Bookings) : Nat := (l.map (·.2)).sum

@[simp] theorem on_nil (a : Address) : on [] a = 0 := rfl

@[simp] theorem on_cons (b : Address × Nat) (l : Bookings) (a : Address) :
    on (b :: l) a = (if b.1 = a then b.2 else 0) + on l a := rfl

@[simp] theorem on_append (l l' : Bookings) (a : Address) : on (l ++ l') a = on l a + on l' a := by
  simp [on]

@[simp] theorem total_nil : total [] = 0 := rfl

@[simp] theorem total_cons (b : Address × Nat) (l : Bookings) : total (b :: l) = b.2 + total l := rfl

@[simp] theorem total_append (l l' : Bookings) : total (l ++ l') = total l + total l' := by
  simp [total]

end Bookings

namespace AccountState

variable {s s₁ s₂ : AccountState} {a b : Address} {paid paid' received received' : Bookings}

theorem getBalance_setAccount (acc : Account) :
    (s.setAccount a acc).getBalance b = if b = a then acc.balance else s.getBalance b := by
  simp only [getBalance, account_setAccount]
  split <;> rfl

/-- Every balance changes by what is booked on its account, and the AI registry stays. -/
structure Books (paid received : Bookings) (s s' : AccountState) : Prop where
  balances : ∀ a, (s'.getBalance a).toNat + paid.on a = (s.getBalance a).toNat + received.on a
  supply : s'.circulatingSupply + paid.total = s.circulatingSupply + received.total
  aiRegistry : s'.aiRegistry = s.aiRegistry

namespace Books

theorem refl (s : AccountState) : Books [] [] s s := ⟨fun _ => rfl, rfl, rfl⟩

theorem trans (h : Books paid received s s₁) (h' : Books paid' received' s₁ s₂) :
    Books (paid ++ paid') (received ++ received') s s₂ where
  balances a := by
    have h₁ := h.balances a
    have h₂ := h'.balances a
    simp only [Bookings.on_append]
    omega
  supply := by
    have h₁ := h.supply
    have h₂ := h'.supply
    simp only [Bookings.total_append]
    omega
  aiRegistry := h'.aiRegistry.trans h.aiRegistry

/-- A change elsewhere books nothing. -/
theorem after (h : Books paid received s s₁) (haccounts : s₂.accounts = s₁.accounts)
    (hai : s₂.aiRegistry = s₁.aiRegistry) : Books paid received s s₂ where
  balances a := by
    have hbalance : s₂.getBalance a = s₁.getBalance a := by
      simp only [getBalance, account, haccounts]
    rw [hbalance]
    exact h.balances a
  supply := by
    have hsupply : s₂.circulatingSupply = s₁.circulatingSupply := by
      simp only [circulatingSupply, haccounts]
    rw [hsupply]
    exact h.supply
  aiRegistry := hai.trans h.aiRegistry

/-- Bookings do not see the AI registry. -/
theorem withRegistry (h : Books paid received s s₁) (r : AiRegistry) :
    Books paid received { s with aiRegistry := r } { s₁ with aiRegistry := r } :=
  ⟨h.balances, h.supply, rfl⟩

theorem supply_of_registry {r : AiRegistry} (h : Books paid received { s with aiRegistry := r } s₁) :
    s₁.circulatingSupply + paid.total = s.circulatingSupply + received.total :=
  h.supply

theorem setAccount {acc : Account} (paid received : Nat)
    (h : acc.balance.toNat + paid = (s.getBalance a).toNat + received) :
    Books [(a, paid)] [(a, received)] s (s.setAccount a acc) where
  balances b := by
    rw [getBalance_setAccount]
    simp only [Bookings.on_cons, Bookings.on_nil]
    by_cases hb : b = a
    · subst hb
      simp only [if_true]
      omega
    · simp only [if_neg hb, if_neg (Ne.symm hb)]
  supply := by
    have hsupply := circulatingSupply_setAccount (s := s) (a := a) acc
    simp only [Bookings.total_cons, Bookings.total_nil]
    omega
  aiRegistry := rfl

/-- Bookings count by their sums, on each account and in all. -/
theorem of_eq (h : Books paid received s s₁) (hon : ∀ a, paid'.on a + received.on a =
    paid.on a + received'.on a) (htotal : paid'.total + received.total = paid.total + received'.total) :
    Books paid' received' s s₁ where
  balances a := by
    have h₁ := h.balances a
    have h₂ := hon a
    omega
  supply := by
    have h₁ := h.supply
    omega
  aiRegistry := h.aiRegistry

/-- Amounts of zero are not worth an entry. -/
theorem drop_paid (h : Books [(a, 0)] received s s₁) : Books [] received s s₁ :=
  h.of_eq (fun b => by simp) (by simp)

theorem drop_received (h : Books paid [(a, 0)] s s₁) : Books paid [] s s₁ :=
  h.of_eq (fun b => by simp) (by simp)

theorem touch (s : AccountState) (a : Address) : Books [] [] s (s.touch a) :=
  (setAccount 0 0 rfl : Books _ _ s (s.setAccount a (s.account a))).drop_paid.drop_received

theorem bumpNonce (h : Books paid received s s₁) (a : Address) :
    Books paid received s (s₁.bumpNonce a) := by
  have hbump : Books [] [] s₁ (s₁.bumpNonce a) :=
    (setAccount 0 0 rfl : Books _ _ s₁ (s₁.setAccount a
      { s₁.account a with nonce := (s₁.getNonce a).saturatingAdd 1 })).drop_paid.drop_received
  have htrans := h.trans hbump
  rwa [List.append_nil, List.append_nil] at htrans

end Books

/-- No balance falls, except that of `a` by at most `n`. -/
def Draws (a : Address) (n : Nat) (s s' : AccountState) : Prop :=
  ∀ b, (s.getBalance b).toNat ≤ (s'.getBalance b).toNat + if b = a then n else 0

namespace Draws

variable {n m : Nat}

theorem trans (h : Draws a n s s₁) (h' : Draws a m s₁ s₂) : Draws a (n + m) s s₂ := by
  intro b
  have h₁ := h b
  have h₂ := h' b
  split at h₁ <;> simp_all <;> omega

theorem of_le (h : Draws a n s s₁) (hle : n ≤ m) : Draws a m s s₁ := by
  intro b
  have h₁ := h b
  split at h₁ <;> simp_all
  omega

/-- Changes that leave the accounts alone take nothing. -/
theorem of_accounts (a : Address) (h : s₁.accounts = s.accounts) : Draws a 0 s s₁ := by
  intro b
  simp only [getBalance, account, h]
  exact Nat.le_add_right _ _

end Draws

theorem Books.draws {n : Nat} (h : Books [(a, n)] received s s₁) : Draws a n s s₁ := by
  intro b
  have hb := h.balances b
  simp only [Bookings.on_cons, Bookings.on_nil] at hb
  by_cases hba : b = a
  · subst hba
    omega
  · rw [if_neg (Ne.symm hba)] at hb
    rw [if_neg hba]
    omega

theorem Books.draws_nothing (a : Address) (h : Books [] received s s₁) : Draws a 0 s s₁ := by
  intro b
  have hb := h.balances b
  rw [Bookings.on_nil] at hb
  omega

/-! ### Transfers -/

/-- Balances change, and nothing else. -/
structure Transfers (paid received : Bookings) (s s' : AccountState) : Prop extends
    Books paid received s s' where
  nonces : ∀ a, s'.getNonce a = s.getNonce a
  rest : s' = { s with accounts := s'.accounts }

namespace Transfers

theorem refl (s : AccountState) : Transfers [] [] s s := ⟨.refl s, fun _ => rfl, rfl⟩

theorem trans (h : Transfers paid received s s₁) (h' : Transfers paid' received' s₁ s₂) :
    Transfers (paid ++ paid') (received ++ received') s s₂ where
  toBooks := h.toBooks.trans h'.toBooks
  nonces a := (h'.nonces a).trans (h.nonces a)
  rest := h'.rest.trans (congrArg (fun t : AccountState => { t with accounts := s₂.accounts }) h.rest)

theorem setBalance {balance : UInt64} (paid received : Nat)
    (h : balance.toNat + paid = (s.getBalance a).toNat + received) :
    Transfers [(a, paid)] [(a, received)] s (s.setBalance a balance) :=
  ⟨Books.setAccount paid received h, fun _ => getNonce_setBalance balance, rfl⟩

theorem nftRegistry (h : Transfers paid received s s₁) : s₁.nftRegistry = s.nftRegistry := by
  rw [h.rest]

theorem apart (h : Transfers paid received s s₁) : s₁.apart = s.apart := by
  rw [h.rest]
  rfl

/-- A payment moves value by what is booked in all. -/
theorem moves (h : Transfers paid received s s₁) : Moves paid.total received.total s s₁ := by
  have hsupply := h.supply
  have hnonces := h.nonces
  obtain ⟨accounts, rfl⟩ : ∃ accounts, s₁ = { s with accounts := accounts } := ⟨_, h.rest⟩
  refine ⟨⟨id, id⟩, ?_, hnonces, rfl⟩
  change { s with accounts := accounts }.circulatingSupply + s.totalStakedSupply +
    s.totalUnbondingSupply + s.totalRegistryRoleBondedSupply + s.bridgeState.escrowed +
    s.aiRegistry.openEscrow + s.aiRegistry.agentEscrow + paid.total ≤ _
  simp only [totalHeld, totalBudCommitted]
  omega

end Transfers

section Balances

variable {ε : Type} {f : UInt64 → Except ε UInt64} {amount : Nat}

theorem updateBalance_transfers (paid received : Nat) (h : ∀ balance balance',
      f balance = .ok balance' → balance'.toNat + paid = balance.toNat + received) :
    (updateBalance a f).Ensures s fun _ s' => Transfers [(a, paid)] [(a, received)] s s' :=
  updateBalance_ensures.2 fun _ hbalance => .setBalance paid received (h _ _ hbalance)

theorem addBalance_transfers (h : ∀ balance balance',
      f balance = .ok balance' → balance'.toNat = balance.toNat + amount) :
    (updateBalance a f).Ensures s fun _ s' => Transfers [] [(a, amount)] s s' :=
  (updateBalance_transfers 0 amount h).mono fun _ _ htransfers =>
    { htransfers with toBooks := htransfers.toBooks.drop_paid }

theorem takeBalance_transfers (h : ∀ balance balance',
      f balance = .ok balance' → balance'.toNat + amount = balance.toNat) :
    (updateBalance a f).Ensures s fun _ s' => Transfers [(a, amount)] [] s s' :=
  (updateBalance_transfers amount 0 h).mono fun _ _ htransfers =>
    { htransfers with toBooks := htransfers.toBooks.drop_received }

end Balances

theorem tryAddBalance_transfers (a : Address) (amount : UInt64) :
    (tryAddBalance a amount).Ensures s fun _ s' => Transfers [] [(a, amount.toNat)] s s' :=
  addBalance_transfers fun _ _ h => by
    rw [Except.ofOption_eq_ok, UInt64.checkedAdd_eq_some] at h
    omega

theorem tryMintBalance_transfers (a : Address) (amount : UInt64) :
    (tryMintBalance a amount).Ensures s fun _ s' => Transfers [] [(a, amount.toNat)] s s' :=
  EStateM.Ensures.get_bind <| EStateM.Ensures.ofExcept_bind fun _ _ => tryAddBalance_transfers a amount

end AccountState

end Budlum
