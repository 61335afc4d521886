import Budlum.Execution.Effects
import Budlum.Lib.Trace

/-!
# Bonds for roles

Relayers, provers, storage operators and AI operators put a part of their balance into the table of
roles and get it back when they have unbonded.  The first three roles are bonded by an upsert: the
balance is lowered by the amount, and the table then holds the amount of the last bond only, or nothing
if the first one is too small.  An AI operator is registered at most once, and pays a fee when the bond
comes back.

* `RoleBondCall.run` : the calls.
* `BondBook.Square` : what an address paid for a role and did not get back is what is bonded for it.
* `BondBook.role_bonds_square_iff` : which calls and which runs conserve value.
-/

namespace Budlum

open Roles (aiOperator prover relayer storageOperator validator)
open RegistryError (display)
open Except (mapError_eq_ok ofOption ok_iff)

open EStateM

namespace AccountState

/-! ### The calls -/

def bondRole (role : RoleId) (a : Address) (amount : UInt64) :
    EStateM RegistryError AccountState UInt64 := do
  EStateM.ensure (decide (amount ≠ 0)) (.insufficientStake 1 0)
  modify (·.touch a)
  let s ← get
  EStateM.ensure (decide (amount ≤ s.getBalance a)) (.insufficientStake amount (s.getBalance a))
  set { s.setBalance a (s.getBalance a - amount) with
    registry := s.registry.upsertStake a role amount s.epochIndex }
  return amount

def bondRelayer := bondRole Roles.relayer
def bondProver := bondRole Roles.prover
def bondStorageOperator := bondRole Roles.storageOperator

/-- Roles whose bond is taken from the balance by `bondRole`. -/
def ensureWithdrawableRole (role : RoleId) : Except String Unit :=
  if role = relayer ∨ role = prover ∨ role = storageOperator then .ok ()
  else if role = validator then
    .error "validator stake unwinds through Unstake and the unbonding queue, not this path"
  else if role = aiOperator then
    .error "the RoleId(8) bond unwinds through begin_ai_operator_unbonding/withdraw_ai_operator"
  else .error s!"role {Roles.display role} has no independently debited bond"

def beginRoleBondUnbonding (s : AccountState) (a : Address) (role : RoleId) :
    Except String AccountState := do
  ensureWithdrawableRole role
  let (_, registry) ← (s.registry.beginUnbonding a role s.epochIndex).mapError display
  return { s with registry := registry }

def withdrawRoleBond (s : AccountState) (a : Address) (role : RoleId) :
    Except String AccountState := do
  ensureWithdrawableRole role
  let registration ← ofOption (s.registry.get a role)
    ("no " ++ Roles.display role ++ " bond registered for " ++ toHex a)
  let finalBalance ← ofOption ((s.getBalance a).checkedAdd registration.stake)
    "role bond withdrawal would overflow the account balance"
  let (_, registry) ← (s.registry.withdraw a role s.epochIndex).mapError display
  return { s with registry := registry }.setBalance a finalBalance

end AccountState

inductive RoleBondCall where
  | bondRelayer (a : Address) (amount : UInt64)
  | bondProver (a : Address) (amount : UInt64)
  | bondStorageOperator (a : Address) (amount : UInt64)
  | beginRoleBondUnbonding (a : Address) (role : RoleId)
  | withdrawRoleBond (a : Address) (role : RoleId)
  | bondAiOperator (a : Address) (amount chainId : UInt64)
  | beginAiOperatorUnbonding (a : Address)
  | withdrawAiOperator (a : Address) (fee : UInt64)
  deriving DecidableEq, Repr

namespace RoleBondCall

/-- A call that replaces the state or refuses. -/
def replace (f : AccountState → Except String AccountState) : EStateM String AccountState Unit := do
  set (← EStateM.ofExcept (f (← get)))

def run : RoleBondCall → EStateM String AccountState Unit
  | bondRelayer a amount => discard (EStateM.mapError display (AccountState.bondRelayer a amount))
  | bondProver a amount => discard (EStateM.mapError display (AccountState.bondProver a amount))
  | bondStorageOperator a amount =>
    discard (EStateM.mapError display (AccountState.bondStorageOperator a amount))
  | beginRoleBondUnbonding a role => replace (·.beginRoleBondUnbonding a role)
  | withdrawRoleBond a role => replace (·.withdrawRoleBond a role)
  | bondAiOperator a amount chainId =>
    replace fun s => (s.bondAiOperator a amount chainId).mapError display
  | beginAiOperatorUnbonding a => replace (·.beginAiOperatorUnbonding a)
  | withdrawAiOperator a fee => replace (·.withdrawAiOperator a fee)

/-- Whose bond a call is about. -/
def account : RoleBondCall → Address
  | bondRelayer a _ | bondProver a _ | bondStorageOperator a _ | beginRoleBondUnbonding a _
  | withdrawRoleBond a _ | bondAiOperator a _ _ | beginAiOperatorUnbonding a
  | withdrawAiOperator a _ => a

def role : RoleBondCall → RoleId
  | bondRelayer _ _ => relayer
  | bondProver _ _ => prover
  | bondStorageOperator _ _ => storageOperator
  | beginRoleBondUnbonding _ role | withdrawRoleBond _ role => role
  | bondAiOperator _ _ _ | beginAiOperatorUnbonding _ | withdrawAiOperator _ _ => aiOperator

def key (call : RoleBondCall) : RoleKey := roleKey call.role call.account

/-- What a bond by upsert adds to the table, less what it takes from the balance: the old stake is
overwritten, and a first bond below the minimum is not entered. -/
def upsertGain (role : RoleId) (a : Address) (amount : UInt64) (s : AccountState) : Int :=
  match s.registry.get a role with
  | some r => -r.stake.toNat
  | none => if s.registry.params.minStake ≤ amount then 0 else -amount.toNat

/-- What a successful call adds to the committed supply. -/
def gain (s : AccountState) : RoleBondCall → Int
  | bondRelayer a amount => upsertGain relayer a amount s
  | bondProver a amount => upsertGain prover a amount s
  | bondStorageOperator a amount => upsertGain storageOperator a amount s
  | withdrawAiOperator _ fee => -fee.toNat
  | _ => 0

/-- A bond by upsert goes into the table whole, and overwrites nothing. -/
def UpsertConserves (role : RoleId) (a : Address) (amount : UInt64) (s : AccountState) : Prop :=
  match s.registry.get a role with
  | some r => r.stake = 0
  | none => s.registry.params.minStake ≤ amount

/-- When a successful call conserves value. -/
def Conserves (s : AccountState) : RoleBondCall → Prop
  | bondRelayer a amount => UpsertConserves relayer a amount s
  | bondProver a amount => UpsertConserves prover a amount s
  | bondStorageOperator a amount => UpsertConserves storageOperator a amount s
  | withdrawAiOperator _ fee => fee = 0
  | _ => True

end RoleBondCall

/-! ### Stakes in the table -/

namespace PermissionlessRegistry

def stakeAt (reg : PermissionlessRegistry) (k : RoleKey) : Nat :=
  (reg.registrations.get k).elim 0 (·.stake.toNat)

/-- At most one registration changed, and the total accordingly. -/
structure Restakes (role : RoleId) (a : Address) (reg reg' : PermissionlessRegistry) : Prop where
  others : ∀ k, k ≠ roleKey role a → reg'.stakeAt k = reg.stakeAt k
  total : role ≠ validator →
    reg'.totalBondedStakeExcluding validator + reg.stakeAt (roleKey role a) =
      reg.totalBondedStakeExcluding validator + reg'.stakeAt (roleKey role a)

variable {reg reg' : PermissionlessRegistry} {role : RoleId} {a : Address} {r : Registration}

theorem Restakes.refl (role : RoleId) (a : Address) (reg : PermissionlessRegistry) :
    Restakes role a reg reg := ⟨fun _ _ => rfl, fun _ => rfl⟩

theorem stakeAt_of_get (h : reg.get a role = some r) :
    reg.stakeAt (roleKey role a) = r.stake.toNat := by
  rw [stakeAt, show reg.registrations.get (roleKey role a) = some r from h]
  rfl

theorem stakeAt_of_none (h : reg.get a role = none) : reg.stakeAt (roleKey role a) = 0 := by
  rw [stakeAt, show reg.registrations.get (roleKey role a) = none from h]
  rfl

variable (reg)

theorem stakeAt_store (r : Registration) (k : RoleKey) :
    (reg.store r).stakeAt k = if k = roleKey r.role r.account then r.stake.toNat else reg.stakeAt k := by
  rw [stakeAt, show (reg.store r).registrations = reg.registrations.insert _ r from rfl,
    OrdMap.get_insert]
  split <;> rfl

theorem stakeAt_remove (role : RoleId) (a : Address) (k : RoleKey) :
    (reg.remove role a).stakeAt k = if k = roleKey role a then 0 else reg.stakeAt k := by
  rw [stakeAt, show (reg.remove role a).registrations = reg.registrations.erase _ from rfl,
    OrdMap.get_erase]
  split <;> rfl

variable {reg} {epoch : UInt64}

theorem Restakes.store (r : Registration) : Restakes r.role r.account reg (reg.store r) := by
  refine ⟨fun k hk => by rw [stakeAt_store, if_neg hk], fun hrole => ?_⟩
  have htotal := totalBonded_store validator reg r
  rw [bondOutside_of_ne hrole] at htotal
  rw [stakeAt_store, if_pos rfl, ← htotal]
  congr 1
  cases hget : reg.get r.account r.role with
  | none => rw [stakeAt_of_none hget]; rfl
  | some old =>
    rw [stakeAt_of_get hget, Option.elim_some, bondOutside_of_ne]
    rwa [(role_of_get hget).1]

theorem Restakes.remove (h : reg.get a role = some r) : Restakes role a reg (reg.remove role a) := by
  refine ⟨fun k hk => by rw [stakeAt_remove, if_neg hk], fun hrole => ?_⟩
  have htotal := totalBonded_remove validator h
  rw [bondOutside_of_ne ((role_of_get h).1.symm ▸ hrole)] at htotal
  rwa [stakeAt_remove, if_pos rfl, stakeAt_of_get h, Nat.add_zero]

/-- A registration that is replaced by another one of the same role and account. -/
theorem Restakes.store_get (h : reg.get a role = some r) {r' : Registration} (hrole : r'.role = r.role)
    (haccount : r'.account = r.account) : Restakes role a reg (reg.store r') := by
  obtain ⟨hr, ha⟩ := role_of_get h
  have hstore : Restakes r'.role r'.account reg (reg.store r') := .store r'
  rwa [hrole, haccount, hr, ha] at hstore

theorem Restakes.upsertStake (role : RoleId) (a : Address) (total epoch : UInt64) :
    Restakes role a reg (reg.upsertStake a role total epoch) := by
  unfold PermissionlessRegistry.upsertStake
  cases hget : reg.get a role with
  | none =>
    dsimp only
    split
    · exact .store ⟨a, role, total, .active, epoch⟩
    · exact .refl role a reg
  | some r =>
    dsimp only
    split_ifs
    · exact .store_get hget rfl rfl
    · exact .remove hget
    · exact .store_get hget rfl rfl

/-- After an upsert the table holds the new amount, unless a first amount is below the minimum. -/
theorem stakeAt_upsertStake (reg : PermissionlessRegistry) (role : RoleId) (a : Address)
    (total epoch : UInt64) : (reg.upsertStake a role total epoch).stakeAt (roleKey role a) =
      match reg.get a role with
      | some _ => total.toNat
      | none => if reg.params.minStake ≤ total then total.toNat else 0 := by
  unfold PermissionlessRegistry.upsertStake
  cases hget : reg.get a role with
  | none =>
    dsimp only
    split
    · rw [stakeAt_store, if_pos rfl]
    · exact stakeAt_of_none hget
  | some r =>
    obtain ⟨hr, ha⟩ := role_of_get hget
    dsimp only
    split_ifs with hslashed hzero
    · rw [stakeAt_store, if_pos (by rw [hr, ha])]
    · rw [stakeAt_remove, if_pos rfl, hzero]
      rfl
    · rw [stakeAt_store, if_pos (by rw [hr, ha])]

/-- Unbonding changes the status only. -/
theorem beginUnbonding_restakes {release : UInt64}
    (h : reg.beginUnbonding a role epoch = .ok (release, reg')) :
    Restakes role a reg reg' ∧ reg'.stakeAt (roleKey role a) = reg.stakeAt (roleKey role a) := by
  simp only [beginUnbonding, ok_iff] at h
  obtain ⟨r, hget, -, -, -, rfl⟩ := h
  obtain ⟨hr, ha⟩ := role_of_get hget
  refine ⟨.store_get hget rfl rfl, ?_⟩
  rw [stakeAt_store, if_pos (by rw [hr, ha]), stakeAt_of_get hget]

theorem withdraw_restakes {stake : UInt64} (hget : reg.get a role = some r)
    (h : reg.withdraw a role epoch = .ok (stake, reg')) :
    Restakes role a reg reg' ∧ reg'.stakeAt (roleKey role a) = 0 := by
  simp only [withdraw, hget, ofOption, Except.bind_eq_ok] at h
  obtain ⟨r', ⟨⟩, h⟩ := h
  split at h
  · simp only [ok_iff] at h
    obtain ⟨-, -, -, rfl⟩ := h
    exact ⟨.remove hget, by rw [stakeAt_remove, if_pos rfl]⟩
  · cases h

theorem register_restakes {stake : UInt64} (h : reg.register a role stake epoch = .ok reg') :
    Restakes role a reg reg' ∧ reg.stakeAt (roleKey role a) = 0 ∧
      reg'.stakeAt (roleKey role a) = stake.toNat := by
  simp only [register, ok_iff, Option.isNone_iff_eq_none] at h
  obtain ⟨-, -, -, hnone, rfl⟩ := h
  exact ⟨.store ⟨a, role, stake, .active, epoch⟩, stakeAt_of_none hnone,
    by rw [stakeAt_store, if_pos rfl]⟩

end PermissionlessRegistry

/-! ### What a call moves -/

open PermissionlessRegistry

/-- At most one balance and one stake changed. -/
structure BondMoves (role : RoleId) (a : Address) (s s' : AccountState) : Prop where
  role_ne : role ≠ validator
  restakes : Restakes role a s.registry s'.registry
  supply : s'.circulatingSupply + (s.getBalance a).toNat =
    s.circulatingSupply + (s'.getBalance a).toNat
  validators : s'.validators = s.validators
  queue : s'.unbondingQueue = s.unbondingQueue

namespace BondMoves

variable {role : RoleId} {a : Address} {s s' : AccountState}

/-- The committed supply changes by what the balance and the stake change by. -/
theorem committed (h : BondMoves role a s s') :
    (s'.totalBudCommitted : Int) - s.totalBudCommitted =
      ((s'.getBalance a).toNat - (s.getBalance a).toNat) +
        (s'.registry.stakeAt (roleKey role a) - s.registry.stakeAt (roleKey role a)) := by
  have htotal := h.restakes.total h.role_ne
  have hsupply := h.supply
  have hstaked : s'.totalStakedSupply = s.totalStakedSupply := by
    rw [AccountState.totalStakedSupply, h.validators]
    rfl
  have hunbonding : s'.totalUnbondingSupply = s.totalUnbondingSupply := by
    rw [AccountState.totalUnbondingSupply, h.queue]
    rfl
  simp only [AccountState.totalBudCommitted, AccountState.totalRegistryRoleBondedSupply, hstaked,
    hunbonding]
  omega

/-- A new balance and a new table. -/
theorem mk' {registry : PermissionlessRegistry} (hrole : role ≠ validator)
    (h : Restakes role a s.registry registry) (acc : Account) :
    BondMoves role a s ({ s with registry := registry }.setAccount a acc) where
  role_ne := hrole
  restakes := h
  supply := by
    have hsupply := AccountState.circulatingSupply_setAccount
      (s := { s with registry := registry }) (a := a) acc
    change _ = s.circulatingSupply + (({ s with registry := registry }.setAccount a acc).account a).balance.toNat
    rwa [AccountState.account_setAccount_self]
  validators := rfl
  queue := rfl

end BondMoves

/-- What a call did to the balance and the stake it is about. -/
structure Gains (call : RoleBondCall) (s s' : AccountState) : Prop where
  moves : BondMoves call.role call.account s s'
  gain : ((s'.getBalance call.account).toNat - (s.getBalance call.account).toNat : Int) +
    (s'.registry.stakeAt call.key - s.registry.stakeAt call.key) = call.gain s
  gain_eq_zero : call.gain s = 0 ↔ call.Conserves s

section Calls

open AccountState RoleBondCall

variable {s s' : AccountState} {a : Address} {amount : UInt64}

theorem upsertGain_eq_zero {role : RoleId} (hamount : amount ≠ 0) :
    upsertGain role a amount s = 0 ↔ UpsertConserves role a amount s := by
  unfold upsertGain UpsertConserves
  cases s.registry.get a role with
  | some r => simp [← UInt64.toNat_inj]
  | none =>
    split_ifs with hmin
    · simp [hmin]
    · simpa [hmin, ← UInt64.toNat_inj] using hamount

theorem bondRole_gains {role : RoleId} (hrole : role ≠ validator) :
    (bondRole role a amount).Ensures s fun _ s' => BondMoves role a s s' ∧
      ((s'.getBalance a).toNat - (s.getBalance a).toNat : Int) +
        (s'.registry.stakeAt (roleKey role a) - s.registry.stakeAt (roleKey role a)) =
          upsertGain role a amount s ∧ amount ≠ 0 := by
  simp only [bondRole, ensures_bind, ensures_ensure, ensures_modify, ensures_get, ensures_set,
    ensures_pure, decide_eq_true_eq, getBalance_touch, setBalance_touch]
  intro hamount hle
  have hrestakes : Restakes role a s.registry (s.registry.upsertStake a role amount s.epochIndex) :=
    .upsertStake role a amount s.epochIndex
  refine ⟨BondMoves.mk' hrole hrestakes _, ?_, hamount⟩
  have hbalance := UInt64.toNat_sub_of_le _ _ hle
  have hle' := UInt64.le_iff_toNat_le.1 hle
  have hstake := stakeAt_upsertStake s.registry role a amount s.epochIndex
  change (((s.setBalance a (s.getBalance a - amount)).getBalance a).toNat - _ : Int) +
    ((s.registry.upsertStake a role amount s.epochIndex).stakeAt (roleKey role a) - _) = _
  rw [setBalance, getBalance_setAccount, if_pos rfl, hstake, upsertGain]
  cases hget : s.registry.get a role with
  | some r =>
    rw [stakeAt_of_get hget]
    dsimp only
    omega
  | none =>
    rw [stakeAt_of_none hget]
    dsimp only
    split <;> omega

/-- A call that replaces the state. -/
theorem replace_ends {f : AccountState → Except String AccountState}
    {Q : Unit → AccountState → Prop} (h : ∀ s', f s = .ok s' → Q () s') :
    (replace f).Ends s Q fun _ s' =>
      s'.registry = s.registry ∧ ∀ b, s'.getBalance b = s.getBalance b :=
  .get_bind (.ofExcept_bind (fun _ _ => ⟨rfl, fun _ => rfl⟩) fun s' hs' =>
    ⟨ensures_set.2 (h s' hs'), fails_set⟩)

/-- Only three roles are bonded by upsert. -/
theorem ne_validator_of_withdrawable {role : RoleId} {u : Unit}
    (h : ensureWithdrawableRole role = .ok u) : role ≠ validator := by
  rintro rfl
  simp [ensureWithdrawableRole, validator, relayer, prover, storageOperator] at h

variable {registry : PermissionlessRegistry}

/-- A call that begins unbonding moves nothing. -/
theorem Gains.of_begin {call : RoleBondCall} {release : UInt64}
    (hrole : call.role ≠ validator) (hgain : call.gain s = 0) (hconserves : call.Conserves s)
    (h : s.registry.beginUnbonding call.account call.role s.epochIndex = .ok (release, registry)) :
    Gains call s { s with registry := registry } := by
  obtain ⟨hrestakes, hstake⟩ := beginUnbonding_restakes h
  refine ⟨⟨hrole, hrestakes, rfl, rfl, rfl⟩, ?_, iff_of_true hgain hconserves⟩
  change ((s.getBalance call.account).toNat - (s.getBalance call.account).toNat : Int) +
    (registry.stakeAt (roleKey call.role call.account) - _) = _
  rw [hstake, hgain, RoleBondCall.key]
  omega

/-- A call that writes a new balance and a new table. -/
theorem Gains.of_setAccount (call : RoleBondCall) {acc : Account} {old new : Nat}
    (hrole : call.role ≠ validator)
    (hrestakes : Restakes call.role call.account s.registry registry)
    (hold : s.registry.stakeAt call.key = old) (hnew : registry.stakeAt call.key = new)
    (hgain : (acc.balance.toNat + new : Int) =
      (s.getBalance call.account).toNat + old + call.gain s)
    (hzero : call.gain s = 0 ↔ call.Conserves s) :
    Gains call s ({ s with registry := registry }.setAccount call.account acc) := by
  refine ⟨BondMoves.mk' hrole hrestakes acc, ?_, hzero⟩
  rw [getBalance, account_setAccount_self]
  change _ + (registry.stakeAt call.key - _ : Int) = _
  omega

/-- What every successful call does.  A refused call moves nothing; it may leave an empty account
behind. -/
theorem run_ends (call : RoleBondCall) : call.run.Ends s (fun _ s' => Gains call s s') fun _ s' =>
    s'.registry = s.registry ∧ ∀ b, s'.getBalance b = s.getBalance b := by
  cases call with
  | bondRelayer a amount | bondProver a amount | bondStorageOperator a amount =>
    refine ⟨ensures_map.2 (ensures_mapError.2 ?_), fails_map.2 (fails_mapError.2 ?_)⟩
    · refine (bondRole_gains (by decide)).mono fun _ s' h => ?_
      exact ⟨h.1, h.2.1, upsertGain_eq_zero h.2.2⟩
    · change (bondRole _ a amount).Fails s _
      simp only [bondRole, fails_bind, fails_ensure, ensures_ensure, fails_modify, ensures_modify,
        fails_get, ensures_get, fails_set, ensures_set, fails_pure, true_and, and_true, implies_true]
      exact fun _ _ => ⟨rfl, fun b => getBalance_touch⟩
  | beginRoleBondUnbonding a role =>
    refine replace_ends fun s' h => ?_
    simp only [AccountState.beginRoleBondUnbonding, ok_iff, mapError_eq_ok] at h
    obtain ⟨u, hrole, ⟨release, registry⟩, hbegin, rfl⟩ := h
    exact .of_begin (ne_validator_of_withdrawable hrole) rfl trivial hbegin
  | beginAiOperatorUnbonding a =>
    refine replace_ends fun s' h => ?_
    simp only [AccountState.beginAiOperatorUnbonding, ok_iff, mapError_eq_ok] at h
    obtain ⟨-, -, ⟨release, registry⟩, hbegin, rfl⟩ := h
    exact .of_begin (show aiOperator ≠ validator by decide) rfl trivial hbegin
  | withdrawRoleBond a role =>
    refine replace_ends fun s' h => ?_
    simp only [AccountState.withdrawRoleBond, ok_iff, mapError_eq_ok,
      UInt64.checkedAdd_eq_some] at h
    obtain ⟨u, hrole, r, hget, balance, hbalance, ⟨stake, registry⟩, hwithdraw, rfl⟩ := h
    obtain ⟨hrestakes, hstake⟩ := withdraw_restakes hget hwithdraw
    refine Gains.of_setAccount (.withdrawRoleBond a role) (ne_validator_of_withdrawable hrole)
      hrestakes (stakeAt_of_get hget) hstake ?_ (iff_of_true rfl trivial)
    simp only [RoleBondCall.account, gain]
    omega
  | bondAiOperator a amount chainId =>
    refine replace_ends fun s' h => ?_
    simp only [AccountState.bondAiOperator, ok_iff, mapError_eq_ok] at h
    obtain ⟨-, ⟨-, hamount⟩, registry, hregister, rfl⟩ := h
    obtain ⟨hrestakes, hold, hnew⟩ := register_restakes hregister
    have hle := (UInt64.le_iff_toNat_le.1 hamount).trans (Executor.spendableBalance_le s a)
    have hbalance := UInt64.toNat_sub_of_le _ _ (UInt64.le_iff_toNat_le.2 hle)
    refine Gains.of_setAccount (.bondAiOperator a amount chainId)
      (show aiOperator ≠ validator by decide) hrestakes hold hnew ?_ (iff_of_true rfl trivial)
    simp only [RoleBondCall.account, gain]
    omega
  | withdrawAiOperator a fee =>
    refine replace_ends fun s' h => ?_
    simp only [AccountState.withdrawAiOperator, ok_iff, mapError_eq_ok,
      Option.bind_eq_some_iff, UInt64.checkedAdd_eq_some, UInt64.checkedSub_eq_some] at h
    obtain ⟨r, hget, balance, ⟨sum, hsum, hbalance⟩, ⟨stake, registry⟩, hwithdraw, rfl⟩ := h
    obtain ⟨hrestakes, hstake⟩ := withdraw_restakes hget hwithdraw
    refine Gains.of_setAccount (.withdrawAiOperator a fee)
      (show aiOperator ≠ validator by decide) hrestakes (stakeAt_of_get hget) hstake ?_ ?_
    · simp only [RoleBondCall.account, gain]
      omega
    · simp [gain, Conserves, ← UInt64.toNat_inj]

end Calls

/-! ### Runs -/

/-- The accounts, with what every address paid for a role and did not get back. -/
structure BondBook where
  state : AccountState
  outlay : RoleKey → Int

/-- A call, or whatever else happens to the accounts without a slash. -/
inductive BondAction where
  | call (c : RoleBondCall)
  | elsewhere (s : AccountState)

namespace BondBook

open AccountState

/-- The bonds that are there count as paid. -/
def fresh (s : AccountState) : BondBook := ⟨s, fun k => s.registry.stakeAt k⟩

def act : BondAction → BondBook → BondBook
  | .call c, b =>
    let s' := c.run.final b.state
    { state := s'
      outlay := fun k => b.outlay k + if k = c.key then
        ((b.state.getBalance c.account).toNat - (s'.getBalance c.account).toNat : Int) else 0 }
  | .elsewhere s, b => { b with state := { s with registry := b.state.registry } }

/-- What an address paid for a role and did not get back is what is bonded for it. -/
def Square (b : BondBook) : Prop := ∀ k, b.outlay k = b.state.registry.stakeAt k

/-- A call that succeeds conserves value. -/
def Fair : BondAction → BondBook → Prop
  | .call c, b => c.run.succeeds b.state = true → c.Conserves b.state
  | .elsewhere _, _ => True

variable {b : BondBook}

/-- The books stay square exactly if the call conserves value. -/
theorem square_act_iff (action : BondAction) (hsquare : b.Square) :
    (b.act action).Square ↔ Fair action b := by
  cases action with
  | elsewhere s => exact iff_of_true hsquare trivial
  | call c =>
    unfold Fair Square act
    cases hrun : c.run.run b.state with
    | error e s' =>
      have hfinal : c.run.final b.state = s' := by rw [EStateM.final, hrun]
      have hrefused : c.run.succeeds b.state = false := by rw [EStateM.succeeds, hrun]
      obtain ⟨hregistry, hbalance⟩ := (run_ends c).2 e s' hrun
      simp only [hfinal, hrefused, hregistry, hbalance, Int.sub_self, ite_self, Int.add_zero]
      exact iff_of_true hsquare nofun
    | ok u s' =>
      have hfinal : c.run.final b.state = s' := by rw [EStateM.final, hrun]
      have hdone : c.run.succeeds b.state = true := by rw [EStateM.succeeds, hrun]
      have hgains : Gains c b.state s' := (run_ends c).1 u s' hrun
      have hgain := hgains.gain
      simp only [hfinal, hdone, forall_const]
      rw [← hgains.gain_eq_zero]
      constructor
      · intro h
        have hkey := h c.key
        rw [if_pos rfl, hsquare c.key] at hkey
        omega
      · intro hzero k
        by_cases hk : k = c.key
        · subst hk
          rw [if_pos rfl, hsquare]
          omega
        · rw [if_neg hk, Int.add_zero, hsquare, hgains.moves.restakes.others k hk]

/-- **Bonds for roles**: a successful call leaves the committed supply as it is exactly if it conserves
value, and in every run without a slash every address has paid for a role, less what it got back,
exactly what is bonded for it, if and only if all calls of the run that succeed conserve value. -/
theorem role_bonds_square_iff (s : AccountState) :
    (∀ (call : RoleBondCall) (s' : AccountState), call.run.run s = .ok () s' →
      (s'.totalBudCommitted = s.totalBudCommitted ↔ call.Conserves s)) ∧
    ∀ actions : List BondAction,
      (∀ b ∈ Trace.states act actions (fresh s), b.Square) ↔
        Trace.Guarded act Fair actions (fresh s) := by
  refine ⟨fun call s' hrun => ?_, fun actions => ?_⟩
  · have hgains := (run_ends call).1 () s' hrun
    have hcommitted := hgains.moves.committed
    have hgain := hgains.gain
    rw [RoleBondCall.key] at hgain
    rw [← hgains.gain_eq_zero]
    omega
  · exact Trace.forall_states_iff (I := fun _ => True) (fun _ _ _ => trivial)
      (fun action b _ hsquare => square_act_iff action hsquare) actions trivial fun _ => rfl

/-! ### A bond that is raised -/

/-- An address with some balance, in some epoch. -/
def bonder (balance epoch : UInt64) : AccountState :=
  { ({} : AccountState).setBalance 5 balance with epochIndex := epoch }

/-- A relayer bonds twice, unbonds and withdraws when the time has come. -/
def raisedBond : List BondAction :=
  [.call (.bondRelayer 5 1000), .call (.bondRelayer 5 1000),
    .call (.beginRoleBondUnbonding 5 relayer), .elsewhere (bonder 1000 1000),
    .call (.withdrawRoleBond 5 relayer)]

/-- Of 2000 that were bonded, 1000 come back. -/
theorem raised_bond_lost :
    (Trace.final act raisedBond (fresh (bonder 3000 0))).state.getBalance 5 = 2000 ∧
      ¬ (Trace.final act raisedBond (fresh (bonder 3000 0))).Square := by
  refine ⟨by decide +kernel, fun hsquare => ?_⟩
  exact absurd (hsquare (roleKey relayer 5)) (by decide +kernel)

end BondBook

end Budlum
