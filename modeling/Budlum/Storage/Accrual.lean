import Budlum.Storage.Turns

/-!
# Rewards in one call or in many

An operator is rewarded for its active deals up to the current epoch.  What is paid is the difference
of two totals, so it does not matter how often rewards are accrued on the way: the total of a deal only
depends on the last epoch.  A reward that does not fit into a balance is skipped, and then it does
matter: a smaller one might have fitted.

* `StorageNode.Settles` : what the round of one deal does when its reward fits.
* `StorageNode.Accrued`, `Accrued.trans` : what a call does, and what two calls do.
* `StorageNode.rewards_batchFree_iff` : when rewards do not depend on the calls before the last.
-/

namespace Budlum

open AccountState StorageDeal OrdMap

def StorageDeal.feeUntil (d : StorageDeal) (epoch : UInt64) : Nat :=
  (d.totalFee (epoch.saturatingSub d.dealStartEpoch)).toNat

/-- What a deal is worth up to an epoch; its term ends. -/
def StorageDeal.dueAt (d : StorageDeal) (epoch : UInt64) : Nat := d.feeUntil (min epoch d.dealEndEpoch)

namespace StorageNode

/-- What was paid for a deal, by the epoch it was rewarded until. -/
def settledFor (n : StorageNode) (d : StorageDeal) : Nat := d.feeUntil (n.rewardedUntil d)

/-- What is still to be paid for a deal up to an epoch. -/
def owes (n : StorageNode) (epoch : UInt64) (d : StorageDeal) : Nat := d.dueAt epoch - n.settledFor d

def activeDeals (n : StorageNode) : List StorageDeal :=
  n.registry.deals.values.filter StorageDeal.isActive

/-- What is still to be paid to an operator for some deals. -/
def owesFor (n : StorageNode) (epoch : UInt64) (deals : List StorageDeal) (a : Address) : Nat :=
  ((deals.filter fun d => decide (d.operator = a)).map (n.owes epoch)).sum

/-- The rewards in the books of a deal. -/
def rewardsOf (n : StorageNode) (dealId : UInt64) : Nat :=
  ((n.storageEconomicsEvents.filter fun event =>
    decide (event.kind = .operatorRewardAccrued ∧ event.dealId = dealId)).map (·.amount.toNat)).sum

/-- Rewards are accrued in several calls, each for an epoch and at a time. -/
def accrueAll (calls : List (UInt64 × UInt64)) (n : StorageNode) : StorageNode :=
  calls.foldl (fun n call => n.accrueStorageOperatorRewards call.1 call.2) n

/-- Every balance has room for the rewards up to an epoch. -/
def RewardsFit (n : StorageNode) (epoch : UInt64) : Prop :=
  ∀ a, (n.balance a).toNat + n.owesFor epoch n.activeDeals a < 2 ^ 64

/-- Calls for increasing epochs, the last of which is `epoch`, leave every operator with the balance
one call leaves, and every deal with exactly its fee up to then. -/
def BatchFree (n : StorageNode) (epoch : UInt64) : Prop :=
  ∀ (earlier : List (UInt64 × UInt64)) (now once : UInt64),
    (earlier.map Prod.fst ++ [epoch]).Pairwise (· < ·) →
      (∀ a, (n.accrueAll (earlier ++ [(epoch, now)])).balance a =
        (n.accrueStorageOperatorRewards epoch once).balance a) ∧
      ∀ d ∈ n.activeDeals, (n.accrueAll (earlier ++ [(epoch, now)])).rewardsOf d.dealId =
        n.rewardsOf d.dealId + n.owes epoch d

variable {n n' n'' : StorageNode} {d : StorageDeal} {deals : List StorageDeal} {epoch : UInt64}

/-! ### Fees -/

variable {x y : UInt64}

theorem totalFee_mono (p : StorageEconomicsParams) (shardBytes : UInt64) (h : x ≤ y) :
    (p.totalFee shardBytes x).toNat ≤ (p.totalFee shardBytes y).toNat := by
  have hmul := Nat.mul_le_mul_left (min (p.feePerByteEpoch.toNat * shardBytes.toNat) u128Max)
    (UInt64.le_iff_toNat_le.1 h)
  simp only [StorageEconomicsParams.totalFee, UInt64.toNat_clampNat]
  exact min_le_min_right _ (Nat.div_le_div_right (Nat.add_le_add_right (min_le_min_right _ hmul) _))

theorem totalFee_zero (p : StorageEconomicsParams) (shardBytes : UInt64) :
    (p.totalFee shardBytes 0).toNat = 0 := by
  simp only [StorageEconomicsParams.totalFee, UInt64.toNat_clampNat, UInt64.toNat_zero, Nat.mul_zero,
    Nat.zero_min]
  rfl

theorem saturatingSub_self (x : UInt64) : x.saturatingSub x = 0 := by
  rw [← UInt64.toNat_inj, UInt64.toNat_saturatingSub, Nat.sub_self]
  rfl

/-- A deal without a price is worth nothing. -/
theorem feeUntil_of_free (h : d.economics.feePerByteEpoch = 0) (epoch : UInt64) :
    d.feeUntil epoch = 0 := by
  simp [feeUntil, totalFee, StorageEconomicsParams.totalFee, h, feeRateScale,
    UInt64.toNat_clampNat]

theorem feeUntil_mono (d : StorageDeal) (h : x ≤ y) : d.feeUntil x ≤ d.feeUntil y := by
  refine totalFee_mono _ _ (UInt64.le_iff_toNat_le.2 ?_)
  have h' := UInt64.le_iff_toNat_le.1 h
  rw [UInt64.toNat_saturatingSub, UInt64.toNat_saturatingSub]
  omega

theorem dueAt_mono (d : StorageDeal) (h : x ≤ y) : d.dueAt x ≤ d.dueAt y :=
  feeUntil_mono d (min_le_min_right _ h)

/-! ### One deal -/

/-- The reward of a deal was paid. -/
structure Settles (epoch : UInt64) (d : StorageDeal) (n n' : StorageNode) : Prop where
  registry : n'.registry = n.registry
  settled : n'.settledFor d = max (n.settledFor d) (d.dueAt epoch)
  others : ∀ d', d'.dealId ≠ d.dealId → n'.rewardedUntil d' = n.rewardedUntil d'
  rewards : ∀ id, n'.rewardsOf id = n.rewardsOf id + if id = d.dealId then n.owes epoch d else 0
  raises : AccountState.Raises (AccountState.credit d.operator (n.owes epoch d)) (n.owes epoch d)
    n.state n'.state

/-- The reward of a deal did not fit. -/
structure Skips (epoch : UInt64) (d : StorageDeal) (n n' : StorageNode) : Prop where
  owed : 0 < n.owes epoch d
  overflow : 2 ^ 64 ≤ (n.balance d.operator).toNat + n.owes epoch d
  until_eq : ∀ d', n'.rewardedUntil d' = n.rewardedUntil d'
  rewards : ∀ id, n'.rewardsOf id = n.rewardsOf id

/-- Nothing is owed, and at most the epoch was noted that counts anyway. -/
theorem Settles.of_owes_zero (howes : n.owes epoch d = 0) (hregistry : n'.registry = n.registry)
    (huntil : n'.rewardedUntil d = n.rewardedUntil d)
    (hothers : ∀ d', d'.dealId ≠ d.dealId → n'.rewardedUntil d' = n.rewardedUntil d')
    (hevents : n'.storageEconomicsEvents = n.storageEconomicsEvents) (hstate : n'.state = n.state) :
    Settles epoch d n n' := by
  refine ⟨hregistry, ?_, hothers, fun id => ?_, ?_⟩
  · rw [settledFor, huntil]
    exact (max_eq_left (Nat.sub_eq_zero_iff_le.1 howes)).symm
  · rw [howes, ite_self, rewardsOf, hevents]
    rfl
  · rw [howes, credit_zero, hstate]
    exact .refl _

/-- Nothing is owed for a deal that was rewarded up to the epoch. -/
theorem rewarded.owes_eq_zero (h : n.rewarded epoch d) : n.owes epoch d = 0 := by
  rcases h with hle | hfree
  · exact Nat.sub_eq_zero_of_le (feeUntil_mono d hle)
  · rw [owes, dueAt, feeUntil_of_free hfree, Nat.zero_sub]

theorem rewardsOf_append (event : StorageEconomicsEvent) (id : UInt64)
    (hevents : n'.storageEconomicsEvents = n.storageEconomicsEvents ++ [event])
    (hkind : event.kind = .operatorRewardAccrued) :
    n'.rewardsOf id = n.rewardsOf id + if id = event.dealId then event.amount.toNat else 0 := by
  rw [rewardsOf, hevents, List.filter_append, List.map_append, List.sum_append]
  congr 1
  by_cases hid : event.dealId = id
  · simp [hkind, hid]
  · simp [hid, Ne.symm hid]

theorem accrueDeal_settles_or_skips (n : StorageNode) (epoch : UInt64) (d : StorageDeal) :
    Settles epoch d n (n.accrueDeal epoch d) ∨ Skips epoch d n (n.accrueDeal epoch d) := by
  refine accrueDeal_cases (P := fun n' => Settles epoch d n n' ∨ Skips epoch d n n') epoch d
    (fun hdone => ?_) (fun hdone => ?_) fun hlater amount hamount => ?_
  · exact .inl (.of_owes_zero hdone.owes_eq_zero rfl rfl (fun _ _ => rfl) rfl rfl)
  · refine .inl (.of_owes_zero hdone.owes_eq_zero rfl ?_ (fun d' hne => ?_) rfl rfl)
    · simp [rewardedUntil, getD]
    · simp [rewardedUntil, getD, get_insert_of_ne _ hne]
  have howes : amount.toNat = n.owes epoch d := by
    rw [hamount]
    exact UInt64.toNat_saturatingSub _ _
  rw [payReward]
  split
  · rename_i hzero
    have hnone : n.owes epoch d = 0 := by rw [← howes, hzero]; rfl
    exact .inl (.of_owes_zero hnone rfl rfl (fun _ _ => rfl) rfl rfl)
  · rename_i hpos
    obtain ⟨hok, herr⟩ := tryAddBalance_ends (s := n.state) d.operator amount
    have hregistry : (tryAddBalance d.operator amount).Ensures n.state fun _ s =>
        s.storageRegistry = n.state.storageRegistry :=
      AccountState.updateBalance_ensures.2 fun _ _ => rfl
    split
    · rename_i e s hrun
      refine .inr ⟨?_, howes ▸ herr e s hrun, fun _ => rfl, fun _ => rfl⟩
      rw [← howes]
      exact UInt64.lt_iff_toNat_lt.1 (UInt64.pos_iff_ne_zero.2 hpos)
    · rename_i u s hrun
      have hpaid := hok u s hrun
      rw [howes] at hpaid
      refine .inl ⟨hregistry u s hrun, ?_, fun d' hne => ?_, fun id => ?_, hpaid⟩
      · have huntil : ((n.storageLastRewardEpoch.insert d.dealId (min epoch d.dealEndEpoch)).getD
            d.dealId d.dealStartEpoch) = min epoch d.dealEndEpoch := by
          simp [getD]
        have hle := feeUntil_mono d hlater.le
        rw [settledFor, rewardedUntil, huntil]
        exact (max_eq_right hle).symm
      · exact congrArg (fun o => o.getD d'.dealStartEpoch)
          (get_insert_of_ne n.storageLastRewardEpoch hne (min epoch d.dealEndEpoch))
      · rw [← howes]
        exact rewardsOf_append ⟨epoch, d.dealId, d.operator, amount, amount, .operatorRewardAccrued⟩ id
          rfl rfl

/-! ### One call -/

/-- The rewards of some deals were paid. -/
structure Accrued (deals : List StorageDeal) (epoch : UInt64) (n n' : StorageNode) : Prop where
  sameDeals : n'.registry.deals = n.registry.deals
  settled : ∀ d ∈ deals, n'.settledFor d = max (n.settledFor d) (d.dueAt epoch)
  rewards : ∀ d ∈ deals, n'.rewardsOf d.dealId = n.rewardsOf d.dealId + n.owes epoch d
  raises : AccountState.Raises (n.owesFor epoch deals) (deals.map (n.owes epoch)).sum n.state n'.state

theorem owesFor_cons (n : StorageNode) (epoch : UInt64) (d : StorageDeal) (deals : List StorageDeal) :
    n.owesFor epoch (d :: deals) =
      credit d.operator (n.owes epoch d) + n.owesFor epoch deals := by
  funext a
  simp only [owesFor, Pi.add_apply, credit, List.filter_cons, decide_eq_true_eq,
    eq_comm (a := a)]
  split
  · rfl
  · exact (Nat.zero_add _).symm

theorem Settles.owes_other {d' : StorageDeal} (h : Settles epoch d n n') (hne : d'.dealId ≠ d.dealId)
    (x : UInt64) : n'.owes x d' = n.owes x d' := by
  rw [owes, owes, settledFor, settledFor, h.others d' hne]

/-- The other deals are owed what they were owed before. -/
theorem owesFor_congr (h : ∀ d ∈ deals, n'.owes epoch d = n.owes epoch d) :
    n'.owesFor epoch deals = n.owesFor epoch deals := by
  funext a
  exact congrArg List.sum (List.map_congr_left fun d hd => h d (List.mem_filter.1 hd).1)

/-- The room a deal took is the room for what it was owed. -/
theorem Settles.fits_iff (h : Settles epoch d n n')
    (howes : ∀ d' ∈ deals, n'.owes epoch d' = n.owes epoch d') (a : Address) :
    (n'.balance a).toNat + n'.owesFor epoch deals a < 2 ^ 64 ↔
      (n.balance a).toNat + n.owesFor epoch (d :: deals) a < 2 ^ 64 := by
  rw [owesFor_congr howes, owesFor_cons, Pi.add_apply, ← Nat.add_assoc]
  exact iff_of_eq (congrArg (· + _ < _) (h.raises.balance a))

/-- A loop leaves the books of the other deals alone. -/
theorem foldl_accrueDeal_other {d' : StorageDeal} (n : StorageNode) (epoch : UInt64)
    (hother : ∀ d ∈ deals, d'.dealId ≠ d.dealId) :
    (deals.foldl (fun n d => n.accrueDeal epoch d) n).rewardsOf d'.dealId = n.rewardsOf d'.dealId ∧
      (deals.foldl (fun n d => n.accrueDeal epoch d) n).rewardedUntil d' = n.rewardedUntil d' := by
  induction deals generalizing n with
  | nil => exact ⟨rfl, rfl⟩
  | cons d deals ih =>
    obtain ⟨hd, hdeals⟩ := List.forall_mem_cons.1 hother
    obtain ⟨hrewards, huntil⟩ := ih (n := n.accrueDeal epoch d) hdeals
    rw [List.foldl_cons, hrewards, huntil]
    rcases n.accrueDeal_settles_or_skips epoch d with h | h
    · rw [h.rewards, if_neg hd, Nat.add_zero]
      exact ⟨rfl, h.others d' hd⟩
    · exact ⟨h.rewards d'.dealId, h.until_eq d'⟩

/-- A loop over deals pays what is owed for them, if it fits. -/
theorem accrued_foldl (hids : (deals.map StorageDeal.dealId).Nodup)
    (hfit : ∀ a, (n.balance a).toNat + n.owesFor epoch deals a < 2 ^ 64) :
    Accrued deals epoch n (deals.foldl (fun n d => n.accrueDeal epoch d) n) := by
  induction deals generalizing n with
  | nil => exact ⟨rfl, nofun, nofun, .refl _⟩
  | cons d deals ih =>
    simp only [List.map_cons, List.nodup_cons, List.mem_map, not_exists, not_and] at hids
    obtain ⟨hother, hids⟩ := hids
    rcases n.accrueDeal_settles_or_skips epoch d with h | h
    · have howes : ∀ d' ∈ deals, (n.accrueDeal epoch d).owes epoch d' = n.owes epoch d' :=
        fun d' hd' => h.owes_other (hother d' hd') epoch
      have hrest := ih hids fun a => (h.fits_iff howes a).2 (hfit a)
      rw [List.foldl_cons]
      obtain ⟨hbooks, huntil⟩ := foldl_accrueDeal_other (n.accrueDeal epoch d) epoch
        fun d' hd' => Ne.symm (hother d' hd')
      refine ⟨hrest.sameDeals.trans (congrArg StorageRegistry.deals h.registry), ?_, ?_, ?_⟩
      · refine List.forall_mem_cons.2 ⟨?_, fun d' hd' => ?_⟩
        · rw [settledFor, huntil]
          exact h.settled
        · have hsame : (n.accrueDeal epoch d).settledFor d' = n.settledFor d' := by
            rw [settledFor, h.others d' (hother d' hd')]
            rfl
          rw [hrest.settled d' hd', hsame]
      · refine List.forall_mem_cons.2 ⟨?_, fun d' hd' => ?_⟩
        · rw [hbooks, h.rewards, if_pos rfl]
        · rw [hrest.rewards d' hd', howes d' hd', h.rewards, if_neg (hother d' hd'), Nat.add_zero]
      · have hsum : deals.map ((n.accrueDeal epoch d).owes epoch) = deals.map (n.owes epoch) :=
          List.map_congr_left howes
        have hraises := h.raises.trans hrest.raises
        rwa [owesFor_congr howes, hsum, ← owesFor_cons] at hraises
    · have ha := hfit d.operator
      rw [owesFor_cons, Pi.add_apply, credit, if_pos rfl] at ha
      have := h.overflow
      omega

/-- A loop that paid every deal found room for what was owed. -/
theorem fit_of_foldl (hids : (deals.map StorageDeal.dealId).Nodup)
    (hpaid : ∀ d ∈ deals, (deals.foldl (fun n d => n.accrueDeal epoch d) n).rewardsOf d.dealId =
      n.rewardsOf d.dealId + n.owes epoch d) (a : Address) :
    (n.balance a).toNat + n.owesFor epoch deals a < 2 ^ 64 := by
  induction deals generalizing n with
  | nil => exact (n.balance a).toNat_lt
  | cons d deals ih =>
    simp only [List.map_cons, List.nodup_cons, List.mem_map, not_exists, not_and] at hids
    obtain ⟨hother, hids⟩ := hids
    obtain ⟨hbooks, -⟩ := foldl_accrueDeal_other (n.accrueDeal epoch d) epoch
      fun d' hd' => Ne.symm (hother d' hd')
    obtain ⟨hpaidFirst, hpaidRest⟩ := List.forall_mem_cons.1 hpaid
    rw [List.foldl_cons] at hpaidFirst
    rcases n.accrueDeal_settles_or_skips epoch d with h | h
    · have howes : ∀ d' ∈ deals, (n.accrueDeal epoch d).owes epoch d' = n.owes epoch d' :=
        fun d' hd' => h.owes_other (hother d' hd') epoch
      have hrest := ih (n := n.accrueDeal epoch d) hids fun d' hd' => by
        have hd := hpaidRest d' hd'
        rw [List.foldl_cons] at hd
        rw [hd, howes d' hd', h.rewards, if_neg (hother d' hd'), Nat.add_zero]
      exact (h.fits_iff howes a).1 hrest
    · -- The books would show the reward that was skipped.
      rw [hbooks, h.rewards] at hpaidFirst
      have := h.owed
      omega

/-! ### Several calls -/

/-- The deals of the registry have different numbers. -/
theorem nodup_activeDeals (hkept : ∀ id d, n.registry.deals.get id = some d → d.dealId = id) :
    (n.activeDeals.map StorageDeal.dealId).Nodup := by
  have hkeys : n.registry.deals.values.map StorageDeal.dealId = n.registry.deals.keys := by
    simp only [values, keys, List.map_map]
    refine List.map_congr_left fun e he => ?_
    exact hkept e.1 e.2 (OrdMap.get_eq_some_iff.2 he)
  have hnodup : (n.registry.deals.values.map StorageDeal.dealId).Nodup := by
    rw [hkeys]
    exact (List.pairwise_map.2 n.registry.deals.sorted).imp fun h => ne_of_lt h
  exact hnodup.sublist (List.filter_sublist.map _)

/-- A call pays what is owed, if it fits. -/
theorem accrued_call (hkept : ∀ id d, n.registry.deals.get id = some d → d.dealId = id)
    (hfit : n.RewardsFit epoch) (now : UInt64) :
    Accrued n.activeDeals epoch n (n.accrueStorageOperatorRewards epoch now) := by
  have h := accrued_foldl (n := n.setRegistry (n.registry.pruneExpiredCooldowns now))
    (nodup_activeDeals hkept) hfit
  exact ⟨h.sameDeals, h.settled, h.rewards, ⟨h.raises.balance, h.raises.supply⟩⟩

/-- What is owed up to a later epoch is what was paid and what is owed then. -/
theorem Accrued.owes_add (h : Accrued deals x n n') (hxy : x ≤ y) (hd : d ∈ deals) : n.owes x
    d + n'.owes y d = n.owes y d := by
  have hmono := dueAt_mono d hxy
  rw [owes, owes, owes, h.settled d hd]
  omega

theorem Accrued.owesFor_add (h : Accrued deals x n n') (hxy : x ≤ y) : n.owesFor x deals +
    n'.owesFor y deals = n.owesFor y deals := by
  funext a
  rw [Pi.add_apply, owesFor, owesFor, ← List.sum_map_add]
  exact congrArg List.sum (List.map_congr_left fun d hd => h.owes_add hxy (List.mem_filter.1 hd).1)

/-- Two calls do what the later one would have done. -/
theorem Accrued.trans (h : Accrued deals x n n') (h' : Accrued deals y n' n'') (hxy : x ≤ y) :
    Accrued deals y n n'' := by
  refine ⟨h'.sameDeals.trans h.sameDeals, fun d hd => ?_, fun d hd => ?_, ?_⟩
  · rw [h'.settled d hd, h.settled d hd, max_assoc, max_eq_right (dueAt_mono d hxy)]
  · rw [h'.rewards d hd, h.rewards d hd, Nat.add_assoc, h.owes_add hxy hd]
  · have hsum : (deals.map (n.owes x)).sum + (deals.map (n'.owes y)).sum =
        (deals.map (n.owes y)).sum := by
      rw [← List.sum_map_add]
      exact congrArg List.sum (List.map_congr_left fun d hd => h.owes_add hxy hd)
    have hraises := h.raises.trans h'.raises
    rwa [h.owesFor_add hxy, hsum] at hraises

theorem Accrued.activeDeals (h : Accrued deals epoch n n') : n'.activeDeals = n.activeDeals := by
  rw [StorageNode.activeDeals, h.sameDeals]
  rfl

/-- There is room for what is left. -/
theorem Accrued.rewardsFit (h : Accrued n.activeDeals x n n') (hxy : x ≤ y) (hfit : n.RewardsFit y)
    : n'.RewardsFit y := by
  intro a
  have ha := hfit a
  have hraised := h.raises.balance a
  rw [← h.owesFor_add hxy, Pi.add_apply] at ha
  rw [h.activeDeals]
  change (n.state.getBalance a).toNat + _ < _ at ha
  change (n'.state.getBalance a).toNat + _ < _
  omega

theorem RewardsFit.mono (hxy : x ≤ y) (hfit : n.RewardsFit y) : n.RewardsFit x := by
  intro a
  refine Nat.lt_of_le_of_lt (Nat.add_le_add_left ?_ _) (hfit a)
  exact List.sum_le_sum fun d _ => Nat.sub_le_sub_right (dueAt_mono d hxy) _

/-- Calls for increasing epochs pay what is owed up to the last one. -/
theorem accrued_accrueAll (hkept : ∀ id d, n.registry.deals.get id = some d → d.dealId = id)
    (hfit : n.RewardsFit epoch) {earlier : List (UInt64 × UInt64)} (now : UInt64)
    (hinc : (earlier.map Prod.fst ++ [epoch]).Pairwise (· < ·)) :
    Accrued n.activeDeals epoch n (n.accrueAll (earlier ++ [(epoch, now)])) := by
  induction earlier generalizing n with
  | nil => exact accrued_call hkept hfit now
  | cons call earlier ih =>
    obtain ⟨hfirst, hinc⟩ := List.pairwise_cons.1 hinc
    have hle : call.1 ≤ epoch := (hfirst epoch (by simp)).le
    have hcall := accrued_call hkept (hfit.mono hle) call.2
    have hrest := ih (n := n.accrueStorageOperatorRewards call.1 call.2)
      (fun id d hget => hkept id d (hcall.sameDeals ▸ hget)) (hcall.rewardsFit hle hfit) hinc
    rw [hcall.activeDeals] at hrest
    exact hcall.trans hrest hle

/-- A new deal that has ended is owed its whole fee. -/
theorem owes_of_ended (hnew : n.storageLastRewardEpoch.get d.dealId = none)
    (hended : d.dealEndEpoch ≤ epoch) :
    n.owes epoch d = (d.totalFee (d.dealEndEpoch.saturatingSub d.dealStartEpoch)).toNat := by
  have huntil : n.rewardedUntil d = d.dealStartEpoch := by rw [rewardedUntil, getD, hnew]; rfl
  have hsettled : n.settledFor d = 0 := by
    rw [settledFor, huntil, feeUntil, saturatingSub_self]
    exact totalFee_zero _ _
  rw [owes, hsettled, Nat.sub_zero, dueAt, min_eq_right hended, feeUntil]

/-- **Rewards in one call or in many**: however often rewards are accrued for increasing epochs up to a
last one, every operator has the balance that a single call leaves and every deal has exactly its fee
up to then, exactly if every balance has room for what is owed.  For a deal that is over and was not
rewarded before, that is its whole fee. -/
theorem rewards_batchFree_iff (n : StorageNode) (epoch : UInt64)
    (hkept : ∀ id d, n.registry.deals.get id = some d → d.dealId = id) :
    (n.BatchFree epoch ↔ n.RewardsFit epoch) ∧
      ∀ d ∈ n.activeDeals, n.storageLastRewardEpoch.get d.dealId = none → d.dealEndEpoch ≤ epoch →
        n.owes epoch d = (d.totalFee (d.dealEndEpoch.saturatingSub d.dealStartEpoch)).toNat := by
  refine ⟨⟨fun hfree => ?_, fun hfit earlier now once hinc => ?_⟩, fun d _ => owes_of_ended⟩
  · exact fit_of_foldl (n := n.setRegistry (n.registry.pruneExpiredCooldowns 0))
      (nodup_activeDeals hkept) (hfree [] 0 0 (by simp)).2
  · have hall := accrued_accrueAll hkept hfit now hinc
    refine ⟨fun a => ?_, hall.rewards⟩
    have honce := (accrued_call hkept hfit once).raises.balance a
    exact UInt64.toNat_inj.1 ((hall.raises.balance a).trans honce.symm)

/-! ### A balance that is almost full -/

/-- A deal that earns one unit per epoch. -/
def drip : StorageDeal where
  dealId := 0
  manifestId := 1
  shardId := 7
  operator := 5
  economics := ⟨5, 1000000000⟩
  shardBytes := 1
  dealStartEpoch := 0
  dealEndEpoch := 1000
  status := .active

/-- The operator of the deal, with some balance. -/
def dripping (balance : UInt64) : StorageNode where
  state := { ({} : AccountState).setBalance 5 balance with
    storageRegistry := { deals := (∅ : OrdMap UInt64 StorageDeal).insert 0 drip } }

theorem dripping_kept (balance id : UInt64) (d : StorageDeal)
    (hget : (dripping balance).registry.deals.get id = some d) : d.dealId = id := by
  obtain ⟨rfl, rfl⟩ | ⟨-, hget⟩ := OrdMap.get_insert_eq_some.1 hget
  · rfl
  · cases hget

/-- There is room for one more unit.  Two calls pay it, one call pays nothing. -/
theorem almost_full_not_batchFree : ¬ (dripping 18446744073709551614).BatchFree 2 := by
  intro hfree
  have hsame := (hfree [(1, 0)] 0 0 (by decide)).1 5
  exact absurd hsame (by decide +kernel)

theorem dripping_fits : (dripping 100).RewardsFit 1000 := by
  have hactive : (dripping 100).activeDeals = [drip] := by decide +kernel
  have howes : (dripping 100).owes 1000 drip = 1000 := by decide +kernel
  intro a
  have hbalance : ((dripping 100).balance a).toNat ≤ 100 := by
    change ((({} : AccountState).setBalance 5 100).account a).balance.toNat ≤ 100
    rw [setBalance, account_setAccount]
    split_ifs
    · exact le_rfl
    · exact Nat.zero_le _
  have howed : (dripping 100).owesFor 1000 (dripping 100).activeDeals a ≤ 1000 := by
    rw [hactive, owesFor_cons, howes, Pi.add_apply, credit]
    split_ifs
    · exact le_rfl
    · exact Nat.zero_le _
  omega

/-- With room for the whole fee the calls in between do not matter. -/
theorem dripping_batchFree :
    (dripping 100).BatchFree 1000 ∧ (dripping 100).owes 1000 drip = 1000 := by
  obtain ⟨hiff, hwhole⟩ := rewards_batchFree_iff (dripping 100) 1000 (dripping_kept 100)
  exact ⟨hiff.2 dripping_fits, hwhole drip (by decide +kernel) (by decide +kernel) (by decide)⟩

end StorageNode

end Budlum
