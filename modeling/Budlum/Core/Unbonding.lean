import Budlum.Core.Epoch

/-!
# What leaves the unbonding queue

At the end of an epoch the entries that are due are paid out.  An entry stays in the queue if it does
not fit into the balance of its owner, either before anything is paid or after the entries before it;
in the second case it is queued again, due in the current epoch.

* `AccountState.Unbonded` : which entries were paid, and where the others are.
* `AccountState.processUnbonding_unbonded` : unbonding loses nothing and pays nothing twice.
-/

namespace Budlum

open List (append_assoc map_append map_map mem_append mem_filter sum_append)

namespace AccountState

/-- What an address is to get from some entries. -/
def entriesTo (entries : List UnbondingEntry) (a : Address) : Nat :=
  ((entries.filter fun e => decide (e.address = a)).map (·.amount.toNat)).sum

def dueEntries (s : AccountState) : List UnbondingEntry := s.unbondingQueue.filter s.isReleasable

/-- Whom an entry belongs to, and how much it is. -/
def claim (e : UnbondingEntry) : Address × UInt64 := (e.address, e.amount)

/-- Every due entry was paid or waits, whole and once.  Only entries that do not fit wait; they stay
due.  The entries that are not due are where they were. -/
structure Unbonded (paid waiting : List UnbondingEntry) (s s' : AccountState) : Prop where
  due : (s.dueEntries.map claim).Perm ((paid ++ waiting).map claim)
  queue : s'.unbondingQueue = (s.unbondingQueue.filter fun e => !s.isReleasable e) ++ waiting
  still_due : ∀ e ∈ waiting, s'.isReleasable e = true
  balance : ∀ a, (s'.getBalance a).toNat = (s.getBalance a).toNat + entriesTo paid a
  overflow : ∀ e ∈ waiting, 2 ^ 64 ≤ (s'.getBalance e.address).toNat + e.amount.toNat
  committed : s'.totalBudCommitted = s.totalBudCommitted

variable {s s' : AccountState} {entries paid waiting : List UnbondingEntry}

theorem entriesTo_cons (e : UnbondingEntry) (entries : List UnbondingEntry) :
    entriesTo (e :: entries) = credit e.address e.amount.toNat + entriesTo entries := by
  funext a
  simp only [entriesTo, Pi.add_apply, credit, List.filter_cons, decide_eq_true_eq, eq_comm (a := a)]
  split
  · rfl
  · exact (Nat.zero_add _).symm

/-! ### Paying out -/

/-- The entries of a loop were paid, or were queued again because they did not fit. -/
structure Releases (entries paid waiting : List UnbondingEntry) (s s' : AccountState) : Prop where
  all : (entries.map claim).Perm ((paid ++ waiting).map claim)
  queue : s'.unbondingQueue = s.unbondingQueue ++ waiting
  still_due : ∀ e ∈ waiting, e.releaseEpoch = s.epochIndex
  overflow : ∀ e ∈ waiting, 2 ^ 64 ≤ (s'.getBalance e.address).toNat + e.amount.toNat
  raises : Raises (entriesTo paid) (paid.map (·.amount.toNat)).sum s s'
  validators : s'.validators = s.validators
  registry : s'.registry = s.registry
  epochIndex : s'.epochIndex = s.epochIndex

theorem entriesTo_append (l l' : List UnbondingEntry) :
    entriesTo (l ++ l') = entriesTo l + entriesTo l' := by
  funext a
  simp [entriesTo]

theorem Releases.refl (s : AccountState) : Releases [] [] [] s s :=
  ⟨.nil, (List.append_nil _).symm, nofun, nofun, .refl s, rfl, rfl, rfl⟩

theorem Releases.trans {s₁ : AccountState} {entries' paid' waiting' : List UnbondingEntry}
    (h : Releases entries paid waiting s s₁) (h' : Releases entries' paid' waiting' s₁ s') :
    Releases (entries ++ entries') (paid ++ paid') (waiting ++ waiting') s s' where
  all := by
    have hall := h.all.append h'.all
    rw [← map_append, ← map_append] at hall
    refine hall.trans (List.Perm.map claim ?_)
    rw [append_assoc, append_assoc]
    exact List.Perm.append_left paid (List.perm_append_comm_assoc _ _ _)
  queue := by rw [h'.queue, h.queue, append_assoc]
  still_due := by
    intro e he
    rcases mem_append.1 he with he | he
    · exact h.still_due e he
    · exact (h'.still_due e he).trans h.epochIndex
  overflow := by
    intro e he
    rcases mem_append.1 he with he | he
    · -- Balances only grow.
      have hover := h.overflow e he
      rw [h'.raises.balance]
      omega
    · exact h'.overflow e he
  raises := by
    rw [entriesTo_append, map_append, sum_append]
    exact h.raises.trans h'.raises
  validators := h'.validators.trans h.validators
  registry := h'.registry.trans h.registry
  epochIndex := h'.epochIndex.trans h.epochIndex

/-- An entry is paid, or is queued again. -/
theorem releaseEntry_releases (e : UnbondingEntry) (s : AccountState) :
    ∃ paid waiting, Releases [e] paid waiting s (s.releaseEntry e) := by
  obtain ⟨hok, herr⟩ := tryAddBalance_ends (s := s) e.address e.amount
  unfold releaseEntry
  cases hrun : (tryAddBalance e.address e.amount).run s with
  | ok u s₁ =>
    have hframe : s₁.unbondingQueue = s.unbondingQueue ∧ s₁.validators = s.validators ∧
        s₁.registry = s.registry ∧ s₁.epochIndex = s.epochIndex :=
      (updateBalance_ensures (Q := fun _ s' => s'.unbondingQueue = s.unbondingQueue ∧
        s'.validators = s.validators ∧ s'.registry = s.registry ∧ s'.epochIndex = s.epochIndex)).2
        (fun _ _ => ⟨rfl, rfl, rfl, rfl⟩) u s₁ hrun
    obtain ⟨hqueue, hvalidators, hregistry, hepoch⟩ := hframe
    have hpaid := hok u s₁ hrun
    rw [← add_zero (credit e.address e.amount.toNat)] at hpaid
    refine ⟨[e], [], .refl _, ?_, nofun, nofun, ?_, hvalidators, hregistry, hepoch⟩
    · rwa [List.append_nil]
    · rwa [entriesTo_cons]
  | error message s₁ =>
    have hover := herr message s₁ hrun
    obtain rfl : s₁ = s.touch e.address := (updateBalance_fails message s₁ hrun).2
    have hsame : Raises 0 0 s (s.touch e.address) := by
      have hraises : Raises (credit e.address 0) 0 s (s.setBalance e.address (s.getBalance e.address)) :=
        .setBalance (Nat.add_zero _).symm
      rwa [credit_zero] at hraises
    refine ⟨[], [⟨e.address, e.amount, s.epochIndex⟩], .refl _, rfl, ?_, ?_,
      ⟨hsame.balance, hsame.supply⟩, rfl, rfl, rfl⟩
    · simp
    · simp only [List.mem_singleton, forall_eq]
      change 2 ^ 64 ≤ ((s.touch e.address).getBalance e.address).toNat + e.amount.toNat
      rwa [getBalance_touch]

theorem exists_releases (entries : List UnbondingEntry) (s : AccountState) :
    ∃ paid waiting, Releases entries paid waiting s (entries.foldl releaseEntry s) := by
  induction entries generalizing s with
  | nil => exact ⟨[], [], .refl s⟩
  | cons e entries ih =>
    obtain ⟨paid, waiting, h⟩ := releaseEntry_releases e s
    obtain ⟨paid', waiting', h'⟩ := ih (s.releaseEntry e)
    exact ⟨paid ++ paid', waiting ++ waiting', h.trans h'⟩

/-! ### The queue -/

/-- The same claims amount to the same for everybody. -/
theorem entriesTo_eq_of_perm {l l' : List UnbondingEntry} (h : (l.map claim).Perm (l'.map claim)) :
    entriesTo l = entriesTo l' := by
  have hclaims : ∀ (l : List UnbondingEntry) (a : Address), entriesTo l a =
      (((l.map claim).filter fun c => decide (c.1 = a)).map (·.2.toNat)).sum := by
    intro l a
    rw [entriesTo, List.filter_map, map_map]
    rfl
  funext a
  rw [hclaims, hclaims]
  exact ((h.filter _).map _).sum_nat

theorem sum_amounts_eq_of_perm {l l' : List UnbondingEntry} (h : (l.map claim).Perm (l'.map claim)) :
    (l.map (·.amount.toNat)).sum = (l'.map (·.amount.toNat)).sum := by
  have hclaims : ∀ l : List UnbondingEntry, l.map (·.amount.toNat) =
      (l.map claim).map (·.2.toNat) := fun l => by rw [map_map]; rfl
  rw [hclaims, hclaims]
  exact (h.map _).sum_nat

/-- Entries that are paid or queued again count as committed. -/
theorem Releases.committed (h : Releases entries paid waiting s s') :
    s'.totalBudCommitted = s.totalBudCommitted + (entries.map (·.amount.toNat)).sum := by
  have hamounts := sum_amounts_eq_of_perm h.all
  rw [map_append, sum_append] at hamounts
  rw [totalBudCommitted, totalBudCommitted, h.raises.supply, totalStakedSupply, h.validators,
    totalUnbondingSupply, h.queue, map_append, sum_append, totalRegistryRoleBondedSupply,
    h.registry]
  simp only [totalStakedSupply, totalUnbondingSupply, totalRegistryRoleBondedSupply]
  omega

/-- Every due entry is paid exactly if every balance has room for what is due. -/
theorem Unbonded.waiting_eq_nil_iff (h : Unbonded paid waiting s s') :
    waiting = [] ↔ ∀ a, (s.getBalance a).toNat + entriesTo s.dueEntries a < 2 ^ 64 := by
  rw [entriesTo_eq_of_perm h.due, entriesTo_append]
  constructor
  · rintro rfl a
    rw [Pi.add_apply]
    change (s.getBalance a).toNat + (entriesTo paid a + 0) < 2 ^ 64
    rw [Nat.add_zero, ← h.balance]
    exact (s'.getBalance a).toNat_lt
  · intro hroom
    refine List.eq_nil_iff_forall_not_mem.2 fun e he => ?_
    have hover := h.overflow e he
    have hfits := hroom e.address
    have hle : e.amount.toNat ≤ entriesTo waiting e.address := by
      refine List.le_sum_of_mem (List.mem_map_of_mem (mem_filter.2 ⟨he, ?_⟩))
      simp
    rw [h.balance] at hover
    rw [Pi.add_apply] at hfits
    omega

/-- **Unbonding**: every due entry is paid to its owner once and in full, unless it does not fit into the
balance; then it stays in the queue and is still due.  Entries that are not due stay, and the committed
supply is the same. -/
theorem processUnbonding_unbonded (s : AccountState) :
    ∃ paid waiting, Unbonded paid waiting s s.processUnbonding ∧
      (waiting = [] ↔ ∀ a, (s.getBalance a).toNat + entriesTo s.dueEntries a < 2 ^ 64) := by
  let kept := s.unbondingQueue.filter fun e => !s.isReleasable e
  let deferred := s.dueEntries.filter fun e => !s.fitsBalance e
  obtain ⟨paid, waiting, h⟩ := exists_releases (s.dueEntries.filter s.fitsBalance)
    { s with unbondingQueue := kept ++ deferred }
  have hdue : (s.dueEntries.map claim).Perm ((paid ++ (deferred ++ waiting)).map claim) := by
    have hsplit := (List.filter_append_perm s.fitsBalance s.dueEntries).symm.map claim
    rw [map_append] at hsplit
    refine hsplit.trans ((h.all.append_right _).trans ?_)
    rw [← map_append, append_assoc]
    exact (List.Perm.append_left paid List.perm_append_comm).map claim
  have hunbonded : Unbonded paid (deferred ++ waiting) s s.processUnbonding := by
    refine ⟨hdue, h.queue.trans (append_assoc _ _ _), fun e he => ?_, h.raises.balance,
      fun e he => ?_, ?_⟩
    · change decide (e.releaseEpoch ≤ s.processUnbonding.epochIndex) = true
      rw [show s.processUnbonding.epochIndex = s.epochIndex from h.epochIndex, decide_eq_true_eq]
      rcases mem_append.1 he with he | he
      · exact of_decide_eq_true (mem_filter.1 (mem_filter.1 he).1).2
      · exact (h.still_due e he).le
    · rcases mem_append.1 he with he | he
      · have hnot := (mem_filter.1 he).2
        rw [Bool.not_eq_true', fitsBalance, Option.isSome_eq_false_iff, Option.isNone_iff_eq_none,
          UInt64.checkedAdd_eq_none] at hnot
        rw [show (s.processUnbonding.getBalance e.address).toNat = _ from h.raises.balance e.address]
        exact hnot.trans (Nat.add_le_add_right (Nat.le_add_right _ _) _)
      · exact h.overflow e he
    · refine h.committed.trans ?_
      have hdueSum := sum_filter_add_sum_filter_not s.isReleasable s.unbondingQueue
      have hfitSum := sum_filter_add_sum_filter_not s.fitsBalance s.dueEntries
      change s.circulatingSupply + s.totalStakedSupply +
        ((kept ++ deferred).map (·.amount.toNat)).sum + s.totalRegistryRoleBondedSupply + _ =
        s.circulatingSupply + s.totalStakedSupply + (s.unbondingQueue.map (·.amount.toNat)).sum +
          s.totalRegistryRoleBondedSupply
      rw [map_append, sum_append]
      change (s.dueEntries.map (·.amount.toNat)).sum + (kept.map (·.amount.toNat)).sum = _ at hdueSum
      change _ + (deferred.map (·.amount.toNat)).sum = _ at hfitSum
      omega
  exact ⟨paid, deferred ++ waiting, hunbonded, hunbonded.waiting_eq_nil_iff⟩

/-! ### An entry that waits -/

/-- An owner whose balance is full, with an entry that is due. -/
def fullOwner : AccountState :=
  { ({} : AccountState).setBalance 5 18446744073709551615 with unbondingQueue := [⟨5, 1, 0⟩] }

/-- The entry is due, but its owner does not get it. -/
theorem fullOwner_not_paid :
    ¬ ∀ a, (fullOwner.processUnbonding.getBalance a).toNat =
      (fullOwner.getBalance a).toNat + entriesTo fullOwner.dueEntries a := by
  intro hpaid
  exact absurd (hpaid 5) (by decide +kernel)

end AccountState

end Budlum
