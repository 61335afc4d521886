import Budlum.Chain.BlockEffects
import Budlum.Lib.Apportion

/-!
# The boosts of a block

At the end of a block the boosts are divided among the operators of active deals, by what each deal
earns in an epoch.  Every part is rounded down, and what the rounding leaves over goes to the operator
of the first deal.  Products and the sum of the weights are words: where one of them does not fit, the
distribution fails and so does the block.  Where all weights are zero, nobody gets the boosts.

* `AccountState.payBoostShares_ends` : what a distribution pays, and why it fails.
* `AccountState.boosts_shared_iff` : when the boosts are distributed exactly.
-/

namespace Budlum

open EStateM Ends

namespace AccountState

open Apportion

def dealWeight (deal : Address × UInt64) : Nat := deal.2.toNat

def dealsOf (a : Address) (deals : List (Address × UInt64)) : List (Address × UInt64) :=
  deals.filter fun deal => decide (deal.1 = a)

def boostWeight (s : AccountState) : Nat := weights dealWeight s.storageRegistry.activeWeights

section Parts

variable (share : UInt64) (total : Nat) (deals : List (Address × UInt64))

/-- What a deal gets. -/
def boostPart (deal : Address × UInt64) : Nat := share.toNat * dealWeight deal / total

/-- What an operator gets for its deals. -/
def boostParts (a : Address) : Nat := parts dealWeight share.toNat total (dealsOf a deals)

/-- What the rounding leaves over goes to the operator of the first deal. -/
def boostDust (a : Address) : Nat :=
  if deals.head?.map Prod.fst = some a then
    share.toNat - parts dealWeight share.toNat total deals
  else 0

/-- What an operator gets. -/
def boostPayout : Address → Nat := boostParts share total deals + boostDust share total deals

end Parts

/-- The words of a distribution all fit. -/
structure BoostFits (s : AccountState) (share : UInt64) : Prop where
  weight_pos : 0 < s.boostWeight
  weight_fits : s.boostWeight < 2 ^ 64
  products : ∀ deal ∈ s.storageRegistry.activeWeights, share.toNat * dealWeight deal < 2 ^ 64
  balances : ∀ a, (s.getBalance a).toNat +
    boostPayout share s.boostWeight s.storageRegistry.activeWeights a < 2 ^ 64

/-- The remainders of an operator's deals do not make up a unit, the first operator's apart. -/
def EvenRests (s : AccountState) (share : UInt64) : Prop :=
  ∀ a, s.storageRegistry.activeWeights.head?.map Prod.fst ≠ some a →
    rests dealWeight share.toNat s.boostWeight (dealsOf a s.storageRegistry.activeWeights) <
      s.boostWeight

/-- The distribution succeeds, the credits sum up to the share, and every address gets at least what
it is owed. -/
def Shares (s : AccountState) (share : UInt64) (owed : Address → Nat) : Prop :=
  ∃ s', (distributeBudBoostShareInState share).run s = .ok () s' ∧
    s'.circulatingSupply = s.circulatingSupply + share.toNat ∧
    ∀ a, (s.getBalance a).toNat + owed a ≤ (s'.getBalance a).toNat

/-- What is owed deal by deal. -/
def owedByDeal (s : AccountState) (share : UInt64) : Address → Nat :=
  boostParts share s.boostWeight s.storageRegistry.activeWeights

/-- What is owed for the joint weight of an operator's deals. -/
def owedByWeight (s : AccountState) (share : UInt64) (a : Address) : Nat :=
  share.toNat * weights dealWeight (dealsOf a s.storageRegistry.activeWeights) / s.boostWeight

variable {s s₁ s₂ : AccountState} {share totalWeight : UInt64} {deals : List (Address × UInt64)}

/-! ### One deal -/

theorem payBoostShare_ends {distributed : UInt64} {deal : Address × UInt64}
    (hroom : distributed.toNat + boostPart share totalWeight.toNat deal < 2 ^ 64) :
    (payBoostShare share totalWeight distributed deal).Ends s
      (fun distributed' s' => share.toNat * dealWeight deal < 2 ^ 64 ∧
        distributed'.toNat = distributed.toNat + boostPart share totalWeight.toNat deal ∧
        Raises (credit deal.1 (boostPart share totalWeight.toNat deal)) (boostPart share totalWeight.toNat deal)
          s s')
      fun _ _ => share.toNat * dealWeight deal < 2 ^ 64 →
        2 ^ 64 ≤ (s.getBalance deal.1).toNat + boostPart share totalWeight.toNat deal := by
  refine orThrow_bind (fun hnone hfits => ?_) fun product hproduct => ?_
  · exact absurd hfits (Nat.not_lt.2 (UInt64.ofNat?_eq_none.1 hnone))
  rw [UInt64.checkedMul_eq_some] at hproduct
  have hfits : share.toNat * dealWeight deal < 2 ^ 64 := hproduct ▸ product.toNat_lt
  have hpart : (product / totalWeight).toNat = boostPart share totalWeight.toNat deal := by
    rw [UInt64.toNat_div, hproduct]
    rfl
  refine ite (fun hzero => ?_) fun _ => ?_
  · rw [← hpart, hzero, UInt64.toNat_zero, credit_zero]
    exact .pure ⟨hfits, rfl, .refl s⟩
  · rw [← hpart] at hroom ⊢
    refine bind (P := fun _ s' => Raises (credit deal.1 (product / totalWeight).toNat)
      (product / totalWeight).toNat s s') ?_ fun _ s' hpaid => ⟨?_, ?_⟩
    · exact zoom ((tryAddBalance_ends deal.1 _).mono (fun _ _ h => h) fun _ _ h _ => h)
    · refine ensures_orThrow.2 fun distributed' hsum => ?_
      exact ⟨hfits, UInt64.checkedAdd_eq_some.1 hsum, hpaid⟩
    · refine fails_orThrow.2 fun hnone => ?_
      rw [UInt64.checkedAdd_eq_none] at hnone
      omega

/-! ### All deals -/

theorem boostParts_cons (share : UInt64) (total : Nat) (deal : Address × UInt64)
    (deals : List (Address × UInt64)) :
    boostParts share total (deal :: deals) =
      credit deal.1 (boostPart share total deal) + boostParts share total deals := by
  funext a
  simp only [boostParts, dealsOf, Pi.add_apply, credit, List.filter_cons, decide_eq_true_eq,
    eq_comm (a := a)]
  split
  · exact parts_cons _ _ _ _ _
  · exact (Nat.zero_add _).symm

/-- The loop pays every deal, unless a product or a balance does not fit. -/
theorem foldlM_payBoostShare_ends (deals : List (Address × UInt64)) (distributed : UInt64)
    (s : AccountState)
    (hroom : distributed.toNat + parts dealWeight share.toNat totalWeight.toNat deals < 2 ^ 64) :
    (deals.foldlM (payBoostShare share totalWeight) distributed).Ends s
      (fun distributed' s' => (∀ deal ∈ deals, share.toNat * dealWeight deal < 2 ^ 64) ∧
        distributed'.toNat =
          distributed.toNat + parts dealWeight share.toNat totalWeight.toNat deals ∧
        Raises (boostParts share totalWeight.toNat deals)
          (parts dealWeight share.toNat totalWeight.toNat deals) s s')
      fun _ _ => (∀ deal ∈ deals, share.toNat * dealWeight deal < 2 ^ 64) →
        ∃ a, 2 ^ 64 ≤ (s.getBalance a).toNat + boostParts share totalWeight.toNat deals a := by
  induction deals generalizing distributed s with
  | nil => exact .pure ⟨by simp, rfl, .refl s⟩
  | cons deal deals ih =>
    rw [parts_cons, ← Nat.add_assoc] at hroom
    rw [List.foldlM_cons, boostParts_cons]
    refine bind ((payBoostShare_ends (Nat.lt_of_le_of_lt (Nat.le_add_right _ _) hroom)).mono
      (fun _ _ h => h) fun _ _ h hfits => ⟨deal.1, ?_⟩) fun d₁ s₁ hfirst => ?_
    · have hover := h (hfits deal List.mem_cons_self)
      rw [Pi.add_apply, credit, if_pos rfl]
      omega
    · obtain ⟨hfits, hd₁, hpaid⟩ := hfirst
      refine (ih d₁ s₁ (hd₁ ▸ hroom)).mono (fun d₂ s₂ hlater => ?_) fun _ _ h hall => ?_
      · obtain ⟨hall, hd₂, hrest⟩ := hlater
        refine ⟨List.forall_mem_cons.2 ⟨hfits, hall⟩, ?_, hpaid.trans hrest⟩
        rw [hd₂, hd₁, parts_cons, Nat.add_assoc]
        rfl
      · obtain ⟨a, hover⟩ := h fun d hd => hall d (List.mem_cons_of_mem _ hd)
        rw [hpaid.balance] at hover
        exact ⟨a, by rw [Pi.add_apply]; omega⟩

/-- What a distribution pays, and why it fails. -/
theorem payBoostShares_ends (hweights : weights dealWeight deals = totalWeight.toNat)
    (hpos : 0 < totalWeight.toNat) :
    (payBoostShares share totalWeight deals).Ends s
      (fun _ s' => (∀ deal ∈ deals, share.toNat * dealWeight deal < 2 ^ 64) ∧
        Raises (boostPayout share totalWeight.toNat deals) share.toNat s s')
      fun _ _ => (∀ deal ∈ deals, share.toNat * dealWeight deal < 2 ^ 64) →
        ∃ a, 2 ^ 64 ≤ (s.getBalance a).toNat + boostPayout share totalWeight.toNat deals a := by
  have hle : parts dealWeight share.toNat totalWeight.toNat deals ≤ share.toNat :=
    parts_le hpos hweights.le
  have hroom : (0 : UInt64).toNat + parts dealWeight share.toNat totalWeight.toNat deals < 2 ^ 64 := by
    have := share.toNat_lt
    simp only [UInt64.toNat_zero]
    omega
  refine bind ((foldlM_payBoostShare_ends deals 0 s hroom).mono (fun _ _ h => h)
    fun _ _ h hall => ?_) fun distributed s₁ ⟨hall, hsum, hpaid⟩ => ?_
  · obtain ⟨a, hover⟩ := h hall
    exact ⟨a, by simp only [boostPayout, Pi.add_apply]; omega⟩
  have hdust : (share.saturatingSub distributed).toNat =
      share.toNat - parts dealWeight share.toNat totalWeight.toNat deals := by
    rw [UInt64.toNat_saturatingSub, hsum, UInt64.toNat_zero, Nat.zero_add]
  cases deals with
  | nil => exact absurd hweights.symm (Nat.ne_of_gt hpos)
  | cons deal deals =>
    -- The first operator is paid twice, for its deals and for the dust.
    have hfirst : boostDust share totalWeight.toNat (deal :: deals) =
        credit deal.1 (share.saturatingSub distributed).toNat := by
      funext a
      simp only [boostDust, ← hdust, credit, List.head?_cons, Option.map_some, Option.some.injEq,
        eq_comm (a := a)]
    unfold boostPayout
    rw [hfirst]
    have hshare : parts dealWeight share.toNat totalWeight.toNat (deal :: deals) +
        (share.saturatingSub distributed).toNat = share.toNat := by omega
    refine ite (fun _ => ?_) fun hzero => .pure ⟨hall, ?_⟩
    · refine zoom ((tryAddBalance_ends (s := s₁) deal.1 _).mono (fun _ s₂ h => ⟨hall, ?_⟩)
        fun _ _ hover _ => ⟨deal.1, ?_⟩)
      · rw [← hshare]
        exact hpaid.trans h
      · rw [hpaid.balance] at hover
        rw [Pi.add_apply, credit, if_pos rfl]
        omega
    · rw [not_not] at hzero
      rw [hzero, UInt64.toNat_zero, Nat.add_zero] at hshare
      rw [hzero, UInt64.toNat_zero, credit_zero, add_zero]
      rwa [hshare] at hpaid

/-! ### The distribution -/

/-- Boosts that are distributed were divided as above, or there was nobody to get them. -/
theorem distributeBudBoostShareInState_ends (hshare : share ≠ 0) :
    (distributeBudBoostShareInState share).Ends s
      (fun _ s' => s.boostWeight = 0 ∧ s'.circulatingSupply = s.circulatingSupply ∨
        BoostFits s share ∧
          Raises (boostPayout share s.boostWeight s.storageRegistry.activeWeights) share.toNat s s')
      fun _ _ => ¬BoostFits s share := by
  refine ite (fun _ => ?_) fun hzero => absurd hshare hzero
  refine get_bind (orThrow_bind (fun hnone h => ?_) fun totalWeight hsome => ?_)
  · exact absurd h.weight_fits (Nat.not_lt.2 (UInt64.ofNat?_eq_none.1 hnone))
  have hweight : s.boostWeight = totalWeight.toNat := (UInt64.ofNat?_eq_some.1 hsome).symm
  refine ite (fun hne => ?_) fun hzero => .modify (.inl ⟨?_, rfl⟩)
  · have hpos : 0 < totalWeight.toNat :=
      UInt64.lt_iff_toNat_lt.1 (UInt64.pos_iff_ne_zero.2 hne)
    refine bind (P := fun _ s' => BoostFits s share ∧
      Raises (boostPayout share s.boostWeight s.storageRegistry.activeWeights) share.toNat s s') ?_ ?_
    · refine zoom ((payBoostShares_ends (s := s) hweight hpos).mono
        (fun _ s' ⟨hall, hpaid⟩ => ?_) fun _ _ hover hfits => ?_)
      · rw [← hweight] at hpaid
        exact ⟨⟨hweight ▸ hpos, hweight ▸ totalWeight.toNat_lt, hall, hpaid.fits⟩, hpaid⟩
      · obtain ⟨a, ha⟩ := hover hfits.products
        rw [← hweight] at ha
        exact absurd (hfits.balances a) (Nat.not_lt.2 ha)
    · exact fun _ s' ⟨hfits, hpaid⟩ => .modify (.inr ⟨hfits, hpaid.balance, hpaid.supply⟩)
  · rw [hweight, not_not.1 hzero]
    rfl

/-- Boosts are shared exactly if the words fit and the payouts cover what is owed. -/
theorem shares_iff (hshare : share ≠ 0) {owed : Address → Nat} :
    s.Shares share owed ↔ BoostFits s share ∧
      ∀ a, owed a ≤ boostPayout share s.boostWeight s.storageRegistry.activeWeights a := by
  obtain ⟨hok, herr⟩ := distributeBudBoostShareInState_ends (s := s) hshare
  constructor
  · rintro ⟨s', hrun, hsupply, howed⟩
    rcases hok () s' hrun with ⟨-, hsame⟩ | ⟨hfits, hpaid⟩
    · -- Nobody got the boosts.
      have hzero : share.toNat = 0 := by omega
      exact absurd (UInt64.toNat_inj.1 hzero) hshare
    · refine ⟨hfits, fun a => ?_⟩
      have ha := howed a
      rw [hpaid.balance] at ha
      omega
  · rintro ⟨hfits, howed⟩
    cases hrun : (distributeBudBoostShareInState share).run s with
    | error e s' => exact absurd hfits (herr e s' hrun)
    | ok u s' =>
      rcases hok u s' hrun with ⟨hzero, -⟩ | ⟨-, hpaid⟩
      · exact absurd hzero (Nat.ne_of_gt hfits.weight_pos)
      · refine ⟨s', hrun, hpaid.supply, fun a => ?_⟩
        rw [hpaid.balance]
        exact Nat.add_le_add_left (howed a) _

theorem shares_zero {owed : Address → Nat} (howed : ∀ a, owed a = 0) : s.Shares 0 owed :=
  ⟨s, rfl, rfl, fun a => (congrArg _ (howed a)).le⟩

/-- Only the first operator is sure to get what its joint weight is worth. -/
theorem owedByWeight_le_payout_iff (hpos : 0 < s.boostWeight) :
    (∀ a, s.owedByWeight share a ≤
      boostPayout share s.boostWeight s.storageRegistry.activeWeights a) ↔ EvenRests s share := by
  refine forall_congr' fun a => ?_
  rw [boostPayout, Pi.add_apply, boostDust]
  split_ifs with hfirst
  · refine iff_of_true ?_ fun hnot => absurd hfirst hnot
    exact share_le_parts_add_left_over hpos rfl List.filter_sublist
  · rw [Nat.add_zero, imp_iff_right hfirst]
    exact share_le_parts_iff hpos _

/-- **The boosts of a block**: the distribution succeeds, pays out the whole share and gives every
operator at least its part, rounded down, exactly if there is nothing to distribute or all words fit.
For the joint weight of an operator's deals, the remainders of its deals must not make up a unit
either. -/
theorem boosts_shared_iff (s : AccountState) (share : UInt64) :
    (s.Shares share (s.owedByDeal share) ↔ share = 0 ∨ BoostFits s share) ∧
      (s.Shares share (s.owedByWeight share) ↔
        share = 0 ∨ BoostFits s share ∧ EvenRests s share) := by
  by_cases hshare : share = 0
  · subst hshare
    refine ⟨iff_of_true (shares_zero fun a => by simp [owedByDeal, boostParts, parts]) (.inl rfl),
      iff_of_true (shares_zero fun a => ?_) (.inl rfl)⟩
    simp [owedByWeight]
  · simp only [hshare, false_or, shares_iff hshare]
    refine ⟨and_iff_left fun a => Nat.le_add_right _ _, and_congr_right fun hfits => ?_⟩
    exact owedByWeight_le_payout_iff hfits.weight_pos

/-! ### A share that is too large -/

/-- A deal that is worth 200000 an epoch. -/
def expensiveDeal : StorageDeal where
  dealId := 0
  manifestId := 1
  shardId := 7
  operator := 5
  economics := ⟨5, 200000⟩
  shardBytes := 1000000000
  dealStartEpoch := 0
  dealEndEpoch := 1000
  status := .active

def oneOperator : AccountState where
  storageRegistry := { deals := (∅ : OrdMap UInt64 StorageDeal).insert 0 expensiveDeal }

/-- The whole supply cannot be shared out, although there is only one operator. -/
theorem oneOperator_gets_nothing :
    ¬ oneOperator.Shares budTotalSupply (oneOperator.owedByDeal budTotalSupply) := by
  rintro ⟨s', hrun, -⟩
  have hfails : (distributeBudBoostShareInState budTotalSupply).succeeds oneOperator = false := by
    decide +kernel
  simp [EStateM.succeeds, hrun] at hfails

end AccountState

end Budlum
