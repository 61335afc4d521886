import Budlum.Storage.History

/-!
# Operators that cannot be challenged

The cap on an operator's unresolved challenges counts the challenges of all its deals.  A challenge is
resolved only while its deal is active, so one that is left behind by a deal that was slashed, expired
or pruned counts for good.

* `operatorOpen_eq` : the unresolved challenges of an operator are those of its active deals and the
  stranded ones.
* `strandedOpen_after_le` : a stranded challenge stays stranded.
* `challenge_uncapped_iff` : when the caps let a challenge of an operator through.
-/

namespace Budlum

open StorageRegistry

/-- The error is one of the two caps on unresolved challenges. -/
def StorageError.isCap : StorageError → Bool
  | .tooManyOpenChallenges _ _ | .tooManyOpenChallengesPerOperator _ _ => true
  | _ => false

namespace StorageRegistry

variable (r : StorageRegistry)

def onActiveDeal (c : RetrievalChallenge) : Bool := (r.deals.get c.dealId).any StorageDeal.isActive

/-- The unresolved challenges of an operator's active deals. -/
def activeOpen (operator : Address) : Nat :=
  r.challenges.values.countP fun c =>
    r.isUnresolved c && r.concerns operator c && r.onActiveDeal c

/-- The unresolved challenge belongs to a deal of the operator that is not active any more. -/
def isStranded (operator : Address) (c : RetrievalChallenge) : Bool :=
  r.isUnresolved c && r.concerns operator c && !r.onActiveDeal c

/-- The unresolved challenges of an operator's other deals. -/
def strandedOpen (operator : Address) : Nat := r.challenges.values.countP (r.isStranded operator)

/-- Opening the challenge fails by one of the caps. -/
def refusedByCap (q : ChallengeRequest) : Bool :=
  match r.openChallenge q with
  | .error (.fail e) => e.isCap
  | _ => false

variable {r} {L : Linked} {verify : ChallengeVerifier} {r' : StorageRegistry} {operator : Address}
  {deal d : StorageDeal} {q : ChallengeRequest} {e : StorageError} {id : UInt64}
  {result : ChallengeResult} {c : RetrievalChallenge}

theorem operatorOpen_eq (operator : Address) :
    r.operatorOpen operator = r.activeOpen operator + r.strandedOpen operator := by
  unfold operatorOpen activeOpen strandedOpen isStranded
  induction r.challenges.values with
  | nil => rfl
  | cons c l ih =>
    simp only [List.countP_cons, ih]
    cases r.isUnresolved c <;> cases r.concerns operator c <;> cases r.onActiveDeal c <;>
      simp <;> omega

/-- The unresolved challenges of an active deal are among those of its operator's active deals. -/
theorem openCount_le_activeOpen {dealId : UInt64}
    (hget : r.deals.get dealId = some deal) (hactive : deal.isActive = true) :
    r.openCount dealId ≤ r.activeOpen deal.operator := by
  refine List.countP_mono_left fun c _ hc => ?_
  simp only [Bool.and_eq_true, decide_eq_true_eq] at hc
  obtain ⟨rfl, hopen⟩ := hc
  simp [hopen, concerns, onActiveDeal, hget, hactive]

/-! ### When a cap refuses -/

theorem admitChallenge_not_cap (h : r.admitChallenge q = .error e) : e.isCap = false := by
  simp only [admitChallenge, Except.bind_eq_error, Except.ensure_eq_error,
    Except.ofOption_eq_error] at h
  rcases h with ⟨-, rfl⟩ | ⟨_, -, ⟨-, rfl⟩ | ⟨_, -, ⟨-, rfl⟩ | ⟨_, -, ⟨-, rfl⟩ | ⟨_, -, ⟨-, rfl⟩ |
    ⟨_, -, ⟨-, rfl⟩ | ⟨_, -, ⟨-, rfl⟩ | ⟨_, -, h⟩⟩⟩⟩⟩⟩⟩
  case inr.inr.inr.inr.inr.inr.inr => cases h
  all_goals rfl

theorem refusedByCap_of_refused (h : r.admitChallenge q = .error e) : r.refusedByCap q = false := by
  have hcall : r.openChallenge q = .error (.fail e) := by
    simp [openChallenge, h, Except.orFail, bind, Except.bind]
  simp only [refusedByCap, hcall]
  exact admitChallenge_not_cap h

theorem refusedByCap_of_admitted (h : r.admitChallenge q = .ok deal) :
    r.refusedByCap q = false ↔ r.openCount q.dealId < maxOpenChallengesPerDeal ∧ r.operatorOpen
    deal.operator < maxOpenChallengesPerOperator := by
  unfold refusedByCap openChallenge checkChallengeCaps
  simp only [h, Except.orFail, bind, Except.bind, Except.ensure]
  by_cases hdeal : r.openCount q.dealId < maxOpenChallengesPerDeal
  · by_cases hoperator : r.operatorOpen deal.operator < maxOpenChallengesPerOperator
    · cases hnext : r.nextChallengeId.checkedAdd 1 <;>
        simp [hdeal, hoperator, Except.ofOption, pure, Except.pure]
    · simp [hdeal, hoperator, StorageError.isCap]
  · simp [hdeal, StorageError.isCap]

/-! ### Stranded challenges stay -/

theorem contains_resolve (r : StorageRegistry) :
    (r.resolve result).results.contains id =
    (decide (id = result.challengeId) || r.results.contains id) := by
  simp only [resolve, OrdMap.contains, OrdMap.get_insert]
  split <;> simp [*]

/-- A result is new only for the challenge that is resolved. -/
theorem resolved_before {t : StorageRegistry}
    (hc : r.challenges.get result.challengeId = some c) (hget : r.deals.get c.dealId = some d)
    (hactive : d.isActive = true) (ht : t.results = r.results)
    (h : (t.resolve result).results.contains id = true) : r.results.contains id = true ∨ ∃ c d,
    r.challenges.get id = some c ∧ r.deals.get c.dealId = some d ∧ d.isActive = true := by
  rw [contains_resolve, ht, Bool.or_eq_true, decide_eq_true_eq] at h
  rcases h with rfl | hold
  · exact .inr ⟨c, d, hc, hget, hactive⟩
  · exact .inl hold

variable {event : StorageEvent}

/-- A new result is about a challenge of an active deal. -/
theorem Step.results (h : Step L r event r') (hresult : r'.results.contains id = true) :
    r.results.contains id = true ∨ ∃ c d, r.challenges.get id = some c ∧ r.deals.get c.dealId = some
    d ∧ d.isActive = true := by
  cases h with
  | opened hcheck hnext htends =>
    rw [htends.results, (recordDeal_challenges _ _ _).2.2] at hresult
    exact .inl hresult
  | answered hcheck | mismatched hcheck =>
    obtain ⟨hc, hget, hactive, -⟩ := checkAnswer_eq_ok hcheck
    exact resolved_before hc hget hactive rfl hresult
  | missed hcheck =>
    obtain ⟨hc, hget, hactive⟩ := checkMissed_eq_ok hcheck
    refine resolved_before hc hget hactive ?_ hresult
    split <;> rfl
  | tended htends => exact .inl (htends.results ▸ hresult)
  | asked hadmitted hcaps hnext | renewed hget hactive | expired hget hactive | pruned manifestId =>
    exact .inl hresult

/-- A deal that exists is at a later stage after every step. -/
theorem Step.later (hnum : r.Numbered) (h : Step L r event r')
    (hget : r.deals.get id = some d) : ∃ d', r'.deals.get id = some d' ∧ d.Later d' := by
  by_cases hevent : ∃ q, event = .opened q
  · obtain ⟨q, rfl⟩ := hevent
    obtain ⟨shardBytes, -, -, hdeals⟩ := h.opened_get
    have hne : id ≠ r.nextDealId := fun heq => by
      rw [heq, hnum.nextDealId_free] at hget
      cases hget
    exact ⟨d, by rw [hdeals, OrdMap.get_insert_of_ne _ hne, hget], .refl d⟩
  · exact (h.ages hnum fun q hq => hevent ⟨q, hq⟩).get hget

theorem isStranded_iff : r.isStranded operator c = true ↔ r.results.contains c.challengeId = false ∧
    ∃ d, r.deals.get c.dealId = some d ∧ d.operator = operator ∧ d.isActive = false := by
  unfold isStranded isUnresolved concerns onActiveDeal
  cases r.deals.get c.dealId with
  | none => simp
  | some d => simp [and_assoc]

theorem Step.isStranded (hnum : r.Numbered) (h : Step L r event r')
    (hget : r.challenges.get id = some c) (hstranded : r.isStranded operator c = true) :
    r'.isStranded operator c = true := by
  obtain ⟨hopen, d, hd, hoperator, hactive⟩ := isStranded_iff.1 hstranded
  obtain ⟨d', hd', hlater⟩ := h.later hnum hd
  refine isStranded_iff.2 ⟨?_, d', hd', hlater.operator.trans hoperator, ?_⟩
  · -- a result would be about a challenge of an active deal
    rw [(hnum.challenges id c hget).1] at hopen ⊢
    rw [← Bool.not_eq_true]
    intro hresult
    rcases h.results hresult with hold | ⟨c', e, hc', he, hactive'⟩
    · rw [hopen] at hold
      cases hold
    · obtain rfl := Option.mem_unique hget hc'
      obtain rfl := Option.mem_unique hd he
      rw [hactive] at hactive'
      cases hactive'
  · rw [← Bool.not_eq_true] at hactive ⊢
    exact fun hactive' => hactive (hlater.isActive hactive')

/-- Challenges are only added. -/
theorem Step.challenge_kept (hnum : r.Numbered) (h : Step L r event r')
    (hget : r.challenges.get id = some c) : r'.challenges.get id = some c := by
  by_cases hevent : ∃ id, event = .asked id
  · obtain ⟨challengeId, rfl⟩ := hevent
    cases h with
    | asked hadmitted hcaps hnext =>
      have hne : id ≠ r.nextChallengeId := fun heq => by
        rw [heq, hnum.nextChallengeId_free] at hget
        cases hget
      exact (OrdMap.get_insert_of_ne _ hne _).trans hget
  · rw [(h.challenges fun id hid => hevent ⟨id, hid⟩).1, hget]

theorem strandedOpen_after_le (op : StorageOp) (hnum : r.Numbered) (operator : Address) :
    r.strandedOpen operator ≤ (op.after L verify r).strandedOpen operator := by
  have hstep : Step L r (op.event L verify r) (op.after L verify r) := op.after_step r
  exact OrdMap.countP_values_le fun id c hget hstranded =>
    ⟨hstep.challenge_kept hnum hget, hstep.isStranded hnum hget hstranded⟩

theorem strandedOpen_final_le (ops : List StorageOp) (hnum : r.Numbered) (operator : Address) :
    r.strandedOpen operator ≤ (Trace.final (StorageOp.after L verify) ops r).strandedOpen operator := by
  induction ops generalizing r with
  | nil => exact le_rfl
  | cons op ops ih => exact (strandedOpen_after_le op hnum operator).trans (ih (numbered_after op r hnum))

/-- **If no active deal of an operator has an unresolved challenge, the caps let a challenge of one of
them through exactly when fewer challenges than the operator's cap are stranded with its other deals;
and whatever is called afterwards, these stay.** -/
theorem challenge_uncapped_iff (L : Linked) (verify : ChallengeVerifier) (ops : List StorageOp)
    {r : StorageRegistry} (hr : r ∈ Trace.states (StorageOp.after L verify) ops {})
    (q : ChallengeRequest) (deal : StorageDeal) (hget : r.deals.get q.dealId = some deal)
    (hactive : deal.isActive = true) (hquiet : r.activeOpen deal.operator = 0) :
    (r.refusedByCap q = false ↔ ((r.admitChallenge q).toBool = true →
      r.strandedOpen deal.operator < maxOpenChallengesPerOperator)) ∧
    ∀ later, r.strandedOpen deal.operator ≤
      (Trace.final (StorageOp.after L verify) later r).strandedOpen deal.operator := by
  have hnum : r.Numbered := Trace.states_of_invariant numbered_after numbered_empty hr
  refine ⟨?_, fun later => strandedOpen_final_le later hnum deal.operator⟩
  cases hadmitted : r.admitChallenge q with
  | error e => simp [refusedByCap_of_refused hadmitted, Except.toBool]
  | ok d =>
    obtain rfl := Option.some.inj (hget.symm.trans (admitChallenge_eq_ok hadmitted).1)
    have hdeal := openCount_le_activeOpen hget hactive
    have hoperator := operatorOpen_eq (r := r) deal.operator
    rw [refusedByCap_of_admitted hadmitted]
    simp only [Except.toBool, true_implies, maxOpenChallengesPerDeal]
    constructor
    · rintro ⟨-, hlt⟩
      omega
    · intro hlt
      exact ⟨by omega, by omega⟩

/-! ### An operator that no challenge reaches -/

end StorageRegistry

namespace StorageOp

/-- An operator takes three replicas of a shard.  Two of its deals are challenged eight times each and
then expire; the third was never challenged. -/
def strandingCalls : List StorageOp :=
  [openDeal (.sample 1 0), openDeal (.sample 1 1), openDeal (.sample 1 2)] ++
    (List.range 8).map (fun k => openChallenge (.sample 0 (4 * UInt64.ofNat k))) ++
    (List.range 8).map (fun k => openChallenge (.sample 1 (32 + 4 * UInt64.ofNat k))) ++
    [expireDeal 0 1000, expireDeal 1 1000]

/-- The third deal cannot be challenged any more. -/
theorem untouched_deal_capped :
    let r := Trace.final (after .storing .sample) strandingCalls {}
    r.deals.get 2 = some ((DealRequest.sample 1 2).deal 2 1) ∧
      ((DealRequest.sample 1 2).deal 2 1).isActive = true ∧ r.activeOpen 1 = 0 ∧
      r.refusedByCap (.sample 2 64) = true := by
  decide +kernel

/-- Without a stranded challenge the deal can be challenged. -/
theorem challenge_uncapped_fresh :
    let r := Trace.final (after .storing .sample) [openDeal (.sample 1 0)] {}
    r.refusedByCap (.sample 0 64) = false :=
  ((StorageRegistry.challenge_uncapped_iff .storing .sample [openDeal (.sample 1 0)]
    (Trace.final_mem_states _ _) (.sample 0 64) ((DealRequest.sample 1 0).deal 0 1)
    (by decide +kernel) (by decide +kernel) (by decide +kernel)).1).2 fun _ => by decide +kernel

end StorageOp

end Budlum
