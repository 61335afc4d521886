import Budlum.Storage.Challengeability
import Budlum.Storage.Turns

/-!
# The bonds of challengers

Who opens a challenge pays a bond.  It should come back once the challenge has its result or its deal
is over.  The node gives a bond back in one place only, when the registry refuses the challenge; a
challenge that is answered, missed or overtaken by the end of its deal keeps it for good.

* `StorageRegistry.isOpen`, `Step.isOpen_eq` : which challenges a step closes.
* `StorageNode.BondsReturned` : every bond that was taken is held for an open challenge or was given
  back.
* `StorageNode.bonds_returned_iff` : when a run gives back every bond in time.
-/

namespace Budlum

open StorageRegistry StorageEvent

namespace StorageRegistry

/-- The challenge waits for its result and its deal runs. -/
def isOpen (r : StorageRegistry) (challengeId : UInt64) : Bool :=
  (r.challenges.get challengeId).any fun c => !r.results.contains challengeId &&
    (r.deals.get c.dealId).any StorageDeal.isActive

end StorageRegistry

/-- The event closes the challenge: with a result, or because the deal of the challenge ends. -/
def StorageEvent.closes (r : StorageRegistry) (challengeId : UInt64) : StorageEvent → Bool
  | answered id => decide (id = challengeId)
  | mismatched _ dealId | missed _ dealId | expired dealId =>
    (r.challenges.get challengeId).any fun c => decide (c.dealId = dealId)
  | pruned manifestId =>
    (r.challenges.get challengeId).any fun c =>
      (r.deals.get c.dealId).any fun d => decide (d.manifestId = manifestId)
  | _ => false

namespace StorageNode

def bondOf (n : StorageNode) (challengeId : UInt64) : Address × UInt64 :=
  (n.registry.challenges.get challengeId).elim (Address.zero, 0) fun c => (c.opener, c.openerBond)

/-- The bonds of the challenges that are open. -/
def bondsHeld (n : StorageNode) : List (Address × UInt64) :=
  (n.log.bonded.filter n.registry.isOpen).map n.bondOf

/-- Every bond that was taken is held for an open challenge or was given back, once. -/
def BondsReturned (n : StorageNode) : Prop :=
  n.log.bondsTaken.Perm (n.log.bondsRefunded ++ n.bondsHeld)

/-- The action closes no challenge that was opened for a bond. -/
def ClosesNoBonded (L : Linked) (verify : ChallengeVerifier) (action : StorageAction)
    (n : StorageNode) : Prop :=
  ∀ id ∈ n.log.bonded, n.registry.isOpen id = true →
    (action.ends L verify n).closes n.registry id = false

/-- A node whose registry is empty. -/
def fresh (s : AccountState) : StorageNode := { state := { s with storageRegistry := {} } }

end StorageNode

/-! ### What steps close -/

namespace StorageRegistry

variable {L : Linked} {r r' : StorageRegistry} {event : StorageEvent} {id dealId : UInt64}
  {c : RetrievalChallenge} {d : StorageDeal}

/-- Challenges are about deals, and results about challenges. -/
structure Grounded (r : StorageRegistry) : Prop extends Numbered r where
  asked : ∀ id c, r.challenges.get id = some c → ∃ d, r.deals.get c.dealId = some d
  resolved : ∀ id, r.results.contains id = true → ∃ c, r.challenges.get id = some c

theorem Tends.isOpen_eq (h : Tends r r') : r'.isOpen id = r.isOpen id := by
  simp only [isOpen, h.challenges, h.results, h.deals]

/-- One deal is replaced: its challenges are open as long as it is active. -/
theorem isOpen_insert
    (hc : r.challenges.get id = some c) (hchallenges : r'.challenges = r.challenges)
    (hresults : r'.results = r.results) (hdeals : r'.deals = r.deals.insert dealId d) :
    r'.isOpen id = if c.dealId = dealId then !r.results.contains id && d.isActive
      else r.isOpen id := by
  simp only [isOpen, hchallenges, hc, hresults, hdeals, Option.any_some, OrdMap.get_insert]
  split <;> rfl

/-- The deal ends, with or without a result for one of its challenges. -/
theorem isOpen_of_ended (hc : r.challenges.get id = some c)
    (hchallenges : r'.challenges = r.challenges)
    (hresults : c.dealId ≠ dealId → r'.results.contains id = r.results.contains id)
    (hdeals : r'.deals = r.deals.insert dealId d) (hended : d.isActive = false) : r'.isOpen id =
    (r.isOpen id && !decide (c.dealId = dealId)) := by
  simp only [isOpen, hchallenges, hc, hdeals, Option.any_some, OrdMap.get_insert]
  by_cases hdeal : c.dealId = dealId
  · simp [hdeal, hended]
  · simp [hdeal, hresults hdeal]

/-- A challenge is open after a step if it was open and the step did not close it. -/
theorem Step.isOpen_eq (hg : r.Grounded) (h : Step L r event r') (hc : r.challenges.get id = some c)
    : r'.isOpen id = (r.isOpen id && !event.closes r id) := by
  cases h with
  | @opened q shardBytes next _ hcheck hnext htends =>
    obtain ⟨hchallenges, -, hresults⟩ := recordDeal_challenges (r := r) q next shardBytes
    obtain ⟨d, hd⟩ := hg.asked id c hc
    have hne : c.dealId ≠ r.nextDealId := (hg.deals _ _ hd).2.ne
    rw [htends.isOpen_eq, isOpen_insert hc hchallenges hresults rfl, if_neg hne]
    simp [closes]
  | asked hadmitted hcaps hnext =>
    have hne : id ≠ r.nextChallengeId := (hg.challenges _ _ hc).2.ne
    simp [isOpen, closes, OrdMap.get_insert_of_ne _ hne]
  | @answered a c' deal hcheck =>
    have hopen : ((r.recordProvenRead deal.manifestId a.responseEpoch).resolve
        ⟨a.challengeId, deal.dealId, .answered, a.responseEpoch, 0⟩).isOpen id =
          (!(decide (id = a.challengeId) || r.results.contains id) &&
            (r.deals.get c.dealId).any StorageDeal.isActive) := by
      simp only [isOpen, contains_resolve]
      change (r.challenges.get id).any _ = _
      rw [hc]
      rfl
    rw [hopen]
    simp only [isOpen, hc, Option.any_some, closes, eq_comm (a := a.challengeId)]
    cases decide (id = a.challengeId) <;> simp
  | @mismatched a c' deal hcheck =>
    obtain ⟨hc', hget, -⟩ := checkAnswer_eq_ok hcheck
    have hid := (hg.deals _ _ hget).1
    refine Eq.trans (isOpen_of_ended (d := { deal with status := .slashed }) hc rfl (fun hne => ?_)
      rfl rfl) ?_
    · have hother : id ≠ a.challengeId := by
        rintro rfl
        obtain rfl := Option.mem_unique hc hc'
        exact hne hid.symm
      rw [contains_resolve, decide_eq_false hother]
      rfl
    · simp [closes, hc]
  | @missed challengeId nowEpoch c' deal hcheck =>
    obtain ⟨hc', -⟩ := checkMissed_eq_ok hcheck
    refine Eq.trans (isOpen_of_ended (d := { deal with status := .slashed }) hc
      (afterMissed_challenges _ _ _ _).2.1 (fun hne => ?_) (afterMissed_deals _ _ _ _) rfl) ?_
    · have hother : id ≠ challengeId := by
        rintro rfl
        obtain rfl := Option.mem_unique hc hc'
        exact hne rfl
      unfold afterMissed
      rw [contains_resolve, decide_eq_false hother]
      split <;> rfl
    · simp [closes, hc]
  | @renewed dealId endEpoch deal hget hactive =>
    refine Eq.trans (isOpen_insert (d := { deal with dealEndEpoch := endEpoch }) hc rfl rfl rfl) ?_
    simp only [closes, Bool.not_false, Bool.and_true]
    split_ifs with hdeal
    · simp only [isOpen, hc, Option.any_some, hdeal, hget]
      rfl
    · rfl
  | @expired dealId deal hget hactive =>
    refine Eq.trans (isOpen_of_ended (d := { deal with status := .expired }) hc rfl (fun _ => rfl)
      rfl rfl) ?_
    simp [closes, hc]
  | pruned manifestId =>
    obtain ⟨d, hd⟩ := hg.asked id c hc
    have hopen : (r.pruneContent manifestId).isOpen id = (!r.results.contains id &&
        (if d.manifestId = manifestId ∧ d.isActive then { d with status := .expired }
          else d).isActive) := by
      change (r.challenges.get id).any _ = _
      simp only [hc, Option.any_some, pruneContent, OrdMap.get_map, hd, Option.map_some]
    rw [hopen]
    simp only [isOpen, hc, Option.any_some, hd, closes]
    by_cases hmanifest : d.manifestId = manifestId
    · cases hactive : d.isActive with
      | true => simp [hmanifest, StorageDeal.isActive]
      | false => simp [hactive]
    · simp [hmanifest]
  | tended htends =>
    rw [htends.isOpen_eq]
    simp [closes]

/-- A challenge after a step is about a deal. -/
theorem Step.asked_deal (hg : r.Grounded) (h : Step L r event r')
    (hc : r'.challenges.get id = some c) : ∃ d, r.deals.get c.dealId = some d := by
  by_cases hevent : ∃ challengeId, event = .asked challengeId
  · obtain ⟨challengeId, rfl⟩ := hevent
    cases h with
    | asked hadmitted hcaps hnext =>
      obtain ⟨-, rfl⟩ | ⟨-, hc⟩ := OrdMap.get_insert_eq_some.1 hc
      · exact ⟨_, (admitChallenge_eq_ok hadmitted).1⟩
      · exact hg.asked id c hc
  · rw [(h.challenges fun challengeId hasked => hevent ⟨challengeId, hasked⟩).1] at hc
    exact hg.asked id c hc

theorem Step.grounded (hg : r.Grounded) (h : Step L r event r') : r'.Grounded where
  toNumbered := h.numbered hg.toNumbered
  asked id c hc := by
    obtain ⟨d, hd⟩ := h.asked_deal hg hc
    obtain ⟨d', hd', -⟩ := h.later hg.toNumbered hd
    exact ⟨d', hd'⟩
  resolved id hid := by
    rcases h.results hid with hold | ⟨c, d, hc, -⟩
    · obtain ⟨c, hc⟩ := hg.resolved id hold
      exact ⟨c, h.challenge_kept hg.toNumbered hc⟩
    · exact ⟨c, h.challenge_kept hg.toNumbered hc⟩

theorem Tends.grounded (h : Tends r r') (hg : r.Grounded) : r'.Grounded :=
  (Step.tended (L := .sample) h).grounded hg

/-- A challenge that was just asked is open. -/
theorem Step.asked_isOpen {challengeId : UInt64} (hg : r.Grounded)
    (h : Step L r (.asked challengeId) r') : r'.isOpen challengeId = true := by
  cases h with
  | asked hadmitted hcaps hnext =>
    obtain ⟨hget, hactive⟩ := admitChallenge_eq_ok hadmitted
    have hnew : r.results.contains r.nextChallengeId = false := by
      rw [← Bool.not_eq_true]
      intro hresolved
      obtain ⟨c, hc⟩ := hg.resolved _ hresolved
      rw [hg.nextChallengeId_free] at hc
      cases hc
    simp [isOpen, OrdMap.get_insert_self, hnew, challengeOf, hget, hactive]

end StorageRegistry

/-! ### What actions close -/

namespace StorageNode

variable {L : Linked} {verify : ChallengeVerifier} {n n' : StorageNode} {action : StorageAction}

/-- The registry takes one step, and that step closes what the action is said to end. -/
theorem Turn.step (h : Turn L verify n action n') : ∃ event r, Step L n.registry event r ∧
    Tends r n'.registry ∧
      ∀ id, event.closes n.registry id = (action.ends L verify n).closes n.registry id := by
  cases h with
  | quiet hends hreg hbooks => exact ⟨.tended, _, .tended hreg, .refl _, fun id => by rw [hends]⟩
  | opened hends hopened =>
    obtain ⟨q, shard, hstep, -⟩ := hopened.opened
    exact ⟨_, _, hstep, .refl _, fun id => by rw [hends]; rfl⟩
  | asked hends hreg hbooks | bonded hends hreg hget hrewards hevents hlog =>
    exact ⟨_, _, hreg, .refl _, fun id => by rw [hends]; rfl⟩
  | answered hends hreg hbooks => exact ⟨_, _, hreg, .refl _, fun id => by rw [hends]⟩
  | slashed epoch hends hstep hreg hget hrewards hevents hlog =>
    exact ⟨_, _, hstep, hreg, fun id => rfl⟩
  | expired epoch hends hstep hreg hget hrewards hevents hlog =>
    exact ⟨_, _, hstep, hreg, fun id => by rw [hends]⟩
  | @pruned manifestId hends hreg hbooks =>
    refine ⟨_, _, .pruned manifestId, ?_, fun id => by rw [hends]⟩
    rw [hreg]
    exact .refl _
  | refunded hends hreg | noted hends hget hreg | rewarded hends hget hreg =>
    refine ⟨.tended, _, .tended (.refl _), ?_, fun id => by rw [hends]⟩
    rw [hreg]
    exact .refl _

/-- The registry is in order, and the challenges on record are known to it. -/
structure InOrder (n : StorageNode) : Prop where
  grounded : n.registry.Grounded
  bonded : ∀ id ∈ n.log.bonded, ∃ c, n.registry.challenges.get id = some c

theorem inOrder_fresh (s : AccountState) : (fresh s).InOrder where
  grounded :=
    { numbered_empty with
      asked := fun _ _ h => by cases h
      resolved := fun _ h => by cases h }
  bonded := nofun

/-- What an action does to the bonds of openers. -/
inductive BondTurn (n n' : StorageNode) : Prop
  | same (htaken : n'.log.bondsTaken = n.log.bondsTaken)
      (hrefunded : n'.log.bondsRefunded = n.log.bondsRefunded)
      (hbonded : n'.log.bonded = n.log.bonded)
  | taken {challengeId : UInt64} {c : RetrievalChallenge}
      (hopen : n'.registry.isOpen challengeId = true)
      (hget : n'.registry.challenges.get challengeId = some c)
      (htaken : n'.log.bondsTaken = (c.opener, c.openerBond) :: n.log.bondsTaken)
      (hrefunded : n'.log.bondsRefunded = n.log.bondsRefunded)
      (hbonded : n'.log.bonded = challengeId :: n.log.bonded)
  | returned {bond : Address × UInt64} (htaken : n'.log.bondsTaken = bond :: n.log.bondsTaken)
      (hrefunded : n'.log.bondsRefunded = bond :: n.log.bondsRefunded)
      (hbonded : n'.log.bonded = n.log.bonded)

section

variable (hn : n.InOrder)

include hn

/-- A bond is taken or given back only while the action ends nothing. -/
theorem Turn.bonds (h : Turn L verify n action n') :
    n'.log = n.log ∨ (action.ends L verify n = .tended ∧ BondTurn n n') := by
  cases h with
  | quiet hends hreg hbooks | asked hends hreg hbooks | answered hends hreg hbooks
  | pruned hends hreg hbooks => exact .inl hbooks.log
  | opened hends hopened =>
    obtain ⟨q, shard, -, -, hlog⟩ := hopened.opened
    exact .inr ⟨hends, .same (by rw [hlog]; rfl) (by rw [hlog]; rfl) (by rw [hlog]; rfl)⟩
  | bonded hends hreg hget hrewards hevents hlog =>
    exact .inr ⟨hends, .taken (hreg.asked_isOpen hn.grounded) hget (by rw [hlog]) (by rw [hlog])
      (by rw [hlog])⟩
  | refunded hends hreg hrewards hevents hlog =>
    exact .inr ⟨hends, .returned (by rw [hlog]) (by rw [hlog]) (by rw [hlog])⟩
  | slashed epoch hends hstep hreg hget hrewards hevents hlog => exact .inl hlog
  | expired epoch hends hstep hreg hget hrewards hevents hlog => exact .inl hlog
  | noted hends hget hreg hrewards hevents hlog => exact .inl hlog
  | rewarded hends hget hreg hlater hterm hamount hrewards hevents hlog => exact .inl hlog

theorem Turn.challenge_kept (h : Turn L verify n action n') {id : UInt64}
    {c : RetrievalChallenge} (hc : n.registry.challenges.get id = some c) :
    n'.registry.challenges.get id = some c := by
  obtain ⟨event, r, hstep, htends, -⟩ := h.step
  rw [htends.challenges]
  exact hstep.challenge_kept hn.grounded.toNumbered hc

theorem Turn.isOpen_eq (h : Turn L verify n action n') {id : UInt64}
    (hid : id ∈ n.log.bonded) : n'.registry.isOpen id =
      (n.registry.isOpen id && !(action.ends L verify n).closes n.registry id) := by
  obtain ⟨c, hc⟩ := hn.bonded id hid
  obtain ⟨event, r, hstep, htends, hcloses⟩ := h.step
  rw [htends.isOpen_eq, hstep.isOpen_eq hn.grounded hc, hcloses]

theorem Turn.bondOf_eq (h : Turn L verify n action n') {id : UInt64}
    (hid : id ∈ n.log.bonded) : n'.bondOf id = n.bondOf id := by
  obtain ⟨c, hc⟩ := hn.bonded id hid
  simp only [bondOf, hc, h.challenge_kept hn hc]

theorem Turn.inOrder (h : Turn L verify n action n') : n'.InOrder where
  grounded := by
    obtain ⟨event, r, hstep, htends, -⟩ := h.step
    exact htends.grounded (hstep.grounded hn.grounded)
  bonded := by
    have hold : ∀ id ∈ n.log.bonded, ∃ c, n'.registry.challenges.get id = some c := fun id hid => by
      obtain ⟨c, hc⟩ := hn.bonded id hid
      exact ⟨c, h.challenge_kept hn hc⟩
    rcases h.bonds hn with hlog | ⟨-, hbonds⟩
    · rwa [hlog]
    · cases hbonds with
      | same htaken hrefunded hbonded => rwa [hbonded]
      | returned htaken hrefunded hbonded => rwa [hbonded]
      | @taken challengeId c hopen hget htaken hrefunded hbonded =>
        rw [hbonded]
        exact List.forall_mem_cons.2 ⟨⟨c, hget⟩, hold⟩

/-- The bonds held after an action, of the challenges on record before it. -/
theorem Turn.bondsHeld_eq (h : Turn L verify n action n') :
    (n.log.bonded.filter n'.registry.isOpen).map n'.bondOf =
      (n.log.bonded.filter fun id => n.registry.isOpen id &&
        !(action.ends L verify n).closes n.registry id).map n.bondOf := by
  rw [List.filter_congr fun id hid => h.isOpen_eq hn hid]
  exact List.map_congr_left fun id hid => h.bondOf_eq hn (List.mem_filter.1 hid).1

end

/-- A filter that is made stricter keeps every element of its image exactly when it drops nothing. -/
theorem perm_map_filter_iff {α β : Type} {l : List α} {p q : α → Bool} {f : α → β} :
    ((l.filter p).map f).Perm ((l.filter fun x => p x && !q x).map f) ↔
      ∀ x ∈ l, p x = true → q x = false := by
  have hsub : (l.filter fun x => p x && !q x).Sublist (l.filter p) :=
    List.monotone_filter_right l fun x hx => (Bool.and_eq_true _ _ ▸ hx).1
  constructor
  · intro hperm x hx hpx
    have hlen : (l.filter fun x => p x && !q x).length = (l.filter p).length := by
      simpa using hperm.length_eq.symm
    have hmem : x ∈ l.filter fun x => p x && !q x := by
      rw [hsub.eq_of_length hlen]
      exact List.mem_filter.2 ⟨hx, hpx⟩
    simpa [hpx] using (List.mem_filter.1 hmem).2
  · intro hkeep
    have heq : l.filter (fun x => p x && !q x) = l.filter p :=
      List.filter_congr fun x hx => by
        cases hpx : p x with
        | false => rfl
        | true => simp [hkeep x hx hpx]
    rw [heq]

/-- An action keeps every bond accounted for exactly when it closes no challenge that was opened for
one. -/
theorem Turn.bondsReturned_iff (hn : n.InOrder) (hback : n.BondsReturned)
    (h : Turn L verify n action n') : n'.BondsReturned ↔ ClosesNoBonded L verify action n := by
  rcases h.bonds hn with hlog | ⟨hends, hbonds⟩
  · rw [BondsReturned, bondsHeld, hlog, h.bondsHeld_eq hn, ClosesNoBonded]
    refine Iff.trans ?_ (perm_map_filter_iff (f := n.bondOf))
    exact ⟨fun hafter => (List.perm_append_left_iff _).1 (hback.symm.trans hafter),
      fun hafter => hback.trans (hafter.append_left _)⟩
  · have hguard : ClosesNoBonded L verify action n := fun id _ _ => by rw [hends]; rfl
    refine ⟨fun _ => hguard, fun _ => ?_⟩
    have hheld : (n.log.bonded.filter n'.registry.isOpen).map n'.bondOf = n.bondsHeld := by
      rw [h.bondsHeld_eq hn, hends]
      simp [closes, bondsHeld]
    cases hbonds with
    | same htaken hrefunded hbonded =>
      rwa [BondsReturned, htaken, hrefunded, bondsHeld, hbonded, hheld]
    | returned htaken hrefunded hbonded =>
      rw [BondsReturned, htaken, hrefunded, bondsHeld, hbonded, hheld]
      exact hback.cons _
    | @taken challengeId c hopen hget htaken hrefunded hbonded =>
      have hbond : n'.bondOf challengeId = (c.opener, c.openerBond) := by simp [bondOf, hget]
      rw [BondsReturned, htaken, hrefunded, bondsHeld, hbonded, List.filter_cons_of_pos hopen,
        List.map_cons, hbond, hheld]
      exact (hback.cons _).trans List.perm_middle.symm

/-- **A run of the node has every opener's bond either held for an open challenge or given back once,
in every state, exactly when no action of the run closes a challenge that was opened for a bond.** -/
theorem bonds_returned_iff (L : Linked) (verify : ChallengeVerifier) (s : AccountState)
    (actions : List StorageAction) :
    (∀ n ∈ Trace.states (StorageAction.act L verify) actions (fresh s), n.BondsReturned) ↔
      Trace.Guarded (StorageAction.act L verify) (ClosesNoBonded L verify) actions (fresh s) := by
  refine Trace.forall_states_iff (I := InOrder) (fun action n hn => ?_) (fun action n hn hback => ?_)
    actions (inOrder_fresh s) (.refl _)
  · exact (StorageAction.act_turn hn.grounded.toNumbered action).inOrder hn
  · exact (StorageAction.act_turn hn.grounded.toNumbered action).bondsReturned_iff hn hback

/-! ### A bond that does not come back -/

/-- An operator with a deal, and somebody who can pay for a challenge. -/
def challenged : AccountState :=
  (({} : AccountState).setBalance 1 100).setBalance 9 100

/-- A deal is opened and challenged, and the challenge answered with a proof. -/
def answeredInTime : List StorageAction :=
  [.openDeal (.sample 1 0) 9 0, .openChallenge (.sample 0 0) 3, .answerChallenge ⟨0, 5, 1, 0, some []⟩ 0]

theorem answered_bond_kept :
    ¬ (Trace.final (StorageAction.act .storing .sample) answeredInTime
      (fresh challenged)).BondsReturned := by
  intro hback
  exact absurd hback.length_eq (by decide +kernel)

end StorageNode

end Budlum
