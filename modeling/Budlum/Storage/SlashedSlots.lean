import Budlum.Storage.History

/-!
# Slashed slots and their tickets

A slash leaves a slot empty, and a ticket for the slot is how it gets a new operator.  A missed
challenge opens one unless some ticket is kept under the number of the deal; tickets for slots that
never had an operator are kept under number zero, which is also the number of the first deal.  An
answer that does not verify slashes the deal and opens none.

Tickets are swept some time after they are settled, so that a ticket was opened is a statement about
the past of the registry.

* `slashed_slots_ticketed_iff` : when a run opens a ticket for every slashed deal.
-/

namespace Budlum

open StorageRegistry StorageReallocationTicket OrdMap

/-- The ticket was opened for the slot of the deal, because the deal ended. -/
def StorageReallocationTicket.isFor (t : StorageReallocationTicket) (dealId : UInt64)
    (d : StorageDeal) : Bool :=
  decide (t.cause = .failedDeal ∧ t.failedDealId = dealId ∧ t.slot = d.slot)

/-- A registry and the registries before it, newest first. -/
structure StorageHistory where
  past : List StorageRegistry := []
  now : StorageRegistry := {}

namespace StorageHistory

/-- The registry keeps a ticket for the deal now, or kept one before. -/
def ticketed (h : StorageHistory) (dealId : UInt64) (d : StorageDeal) : Bool :=
  (h.now :: h.past).any fun r => r.reallocations.values.any fun t => t.isFor dealId d

/-- For every slashed deal a ticket was opened. -/
def Remembers (h : StorageHistory) : Prop :=
  ∀ id d, h.now.deals.get id = some d → d.status = .slashed → h.ticketed id d = true

variable (L : Linked) (verify : ChallengeVerifier)

/-- One more call. -/
def after (op : StorageOp) (h : StorageHistory) : StorageHistory :=
  ⟨h.now :: h.past, op.after L verify h.now⟩

/-- A deal the call slashes has a ticket already, or the challenge was missed and no ticket uses the
number of the deal. -/
def LeavesTicket (op : StorageOp) (h : StorageHistory) : Prop :=
  match op.event L verify h.now with
  | .mismatched _ dealId => ∀ d, h.now.deals.get dealId = some d → h.ticketed dealId d = true
  | .missed _ dealId => h.now.isTicketed dealId = false ∨
      ∀ d, h.now.deals.get dealId = some d → h.ticketed dealId d = true
  | _ => True

end StorageHistory

def StorageEvent.slashes : StorageEvent → Option UInt64
  | .mismatched _ dealId | .missed _ dealId => some dealId
  | _ => none

namespace StorageRegistry

variable {L : Linked} {r r' : StorageRegistry} {event : StorageEvent} {challengeId : UInt64}

/-- A deal that is slashed after one deal was replaced by one that is not was slashed before. -/
theorem slashed_of_insert {id j : UInt64} {d e : StorageDeal}
    (hget : (r.deals.insert j e).get id = some d) (hslashed : d.status = .slashed)
    (he : e.status ≠ .slashed) : r.deals.get id = some d := by
  obtain ⟨-, rfl⟩ | ⟨-, hget⟩ := OrdMap.get_insert_eq_some.1 hget
  · exact absurd hslashed he
  · exact hget

theorem status_of_isActive {d : StorageDeal} (h : d.isActive = true) : d.status ≠ .slashed := by
  rw [of_decide_eq_true h]
  decide

/-- A deal that is slashed after a step was slashed before, or the step slashed it. -/
theorem Step.slashed_before {id : UInt64} {d' : StorageDeal}
    (h : Step L r event r') (hget : r'.deals.get id = some d') (hslashed : d'.status = .slashed) :
    (∃ d, r.deals.get id = some d ∧ d.status = .slashed ∧ d.slot = d'.slot) ∨
      event.slashes = some id := by
  have hkept : r.deals.get id = some d' → (∃ d, r.deals.get id = some d ∧ d.status = .slashed ∧
      d.slot = d'.slot) ∨ event.slashes = some id := fun hd => .inl ⟨d', hd, hslashed, rfl⟩
  cases h with
  | opened hcheck hnext htends =>
    rw [htends.deals] at hget
    exact hkept (slashed_of_insert hget hslashed nofun)
  | asked hadmitted hcaps hnext => exact hkept hget
  | answered hcheck => exact hkept hget
  | @mismatched a c deal hcheck =>
    by_cases hid : id = deal.dealId
    · exact .inr (congrArg some hid.symm)
    · exact hkept ((get_insert_of_ne _ hid _).symm.trans hget)
  | @missed challengeId nowEpoch c deal hcheck =>
    by_cases hid : id = c.dealId
    · exact .inr (congrArg some hid.symm)
    · rw [afterMissed_deals, get_insert_of_ne _ hid] at hget
      exact hkept hget
  | renewed hd hactive => exact hkept (slashed_of_insert hget hslashed (status_of_isActive hactive))
  | expired hd hactive => exact hkept (slashed_of_insert hget hslashed nofun)
  | pruned manifestId =>
    simp only [pruneContent, get_map, Option.map_eq_some_iff] at hget
    obtain ⟨d, hd, rfl⟩ := hget
    split at hslashed
    · cases hslashed
    · rename_i hother
      rw [if_neg hother] at hkept ⊢
      exact hkept hd
  | tended htends => exact hkept (htends.deals ▸ hget)

/-- The deal a step slashes, before and after. -/
theorem Step.slashed_after {dealId : UInt64} (hnum : r.Numbered) (h : Step L r event r')
    (hevent : event.slashes = some dealId) : ∃ d, r.deals.get dealId = some d ∧
      r'.deals.get dealId = some { d with status := .slashed } := by
  cases h with
  | @mismatched a c deal hcheck =>
    obtain ⟨-, hget, -⟩ := checkAnswer_eq_ok hcheck
    obtain rfl := Option.some.inj hevent
    exact ⟨deal, (hnum.deals _ _ hget).1 ▸ hget, get_insert_self _ _ _⟩
  | @missed challengeId nowEpoch c deal hcheck =>
    obtain ⟨-, hget, -⟩ := checkMissed_eq_ok hcheck
    obtain rfl := Option.some.inj hevent
    exact ⟨deal, hget, by rw [afterMissed_deals, get_insert_self]⟩
  | opened | asked | answered | renewed | expired | pruned | tended => cases hevent

/-- A wrong answer opens no ticket. -/
theorem Step.mismatched_reallocations {dealId : UInt64}
    (h : Step L r (.mismatched challengeId dealId) r') : r'.reallocations = r.reallocations := by
  cases h with
  | mismatched hcheck => rfl

/-- A missed challenge opens a ticket unless one uses the number of the deal. -/
theorem Step.missed_reallocations {dealId : UInt64}
    (h : Step L r (.missed challengeId dealId) r') :
    (r.isTicketed dealId = true ∧ r'.reallocations = r.reallocations) ∨
      (r.isTicketed dealId = false ∧ ∃ d t, r.deals.get dealId = some d ∧ t.isFor dealId d = true ∧
        t ∈ r'.reallocations.values) := by
  cases h with
  | @missed challengeId nowEpoch c deal hcheck =>
    obtain ⟨-, hget, -⟩ := checkMissed_eq_ok hcheck
    unfold afterMissed
    cases hticketed : r.isTicketed c.dealId with
    | true => exact .inl ⟨rfl, rfl⟩
    | false =>
      refine .inr ⟨rfl, deal, dealTicket c.dealId deal deal.operator nowEpoch r.nextReallocationId,
        hget, by simp [isFor, dealTicket, slot,
          StorageDeal.slot], ?_⟩
      exact OrdMap.mem_values.2 ⟨r.nextReallocationId, get_insert_self _ _ _⟩

end StorageRegistry

namespace StorageHistory

variable {L : Linked} {verify : ChallengeVerifier} {h : StorageHistory} {d d' : StorageDeal}
  {dealId : UInt64}

theorem ticketed_iff : h.ticketed dealId d = true ↔ ∃ r ∈ h.now :: h.past, ∃ t ∈
    r.reallocations.values, t.isFor dealId d = true := by
  simp [ticketed]

theorem isFor_congr {t : StorageReallocationTicket} (hslot : d.slot = d'.slot) :
    t.isFor dealId d = t.isFor dealId d' := by
  simp [isFor, hslot]

variable {op : StorageOp}

/-- A ticket that was opened stays opened. -/
theorem ticketed_after (hslot : d.slot = d'.slot)
    (hd : h.ticketed dealId d = true) : (h.after L verify op).ticketed dealId d' = true := by
  obtain ⟨r, hr, t, ht, hfor⟩ := ticketed_iff.1 hd
  exact ticketed_iff.2 ⟨r, List.mem_cons_of_mem _ hr, t, ht, isFor_congr hslot ▸ hfor⟩

/-- If a call changes no ticket, whatever is ticketed after it was ticketed before. -/
theorem ticketed_of_after (hslot : d.slot = d'.slot)
    (hsame : (op.after L verify h.now).reallocations = h.now.reallocations)
    (hd : (h.after L verify op).ticketed dealId d' = true) : h.ticketed dealId d = true := by
  obtain ⟨r, hr, t, ht, hfor⟩ := ticketed_iff.1 hd
  rw [← isFor_congr hslot] at hfor
  rcases List.mem_cons.1 hr with rfl | hr
  · exact ticketed_iff.2 ⟨h.now, List.mem_cons_self, t, hsame ▸ ht, hfor⟩
  · exact ticketed_iff.2 ⟨r, hr, t, ht, hfor⟩

/-- Only the deal that the call slashes needs a ticket. -/
theorem remembers_after (hrem : h.Remembers)
    (hslash : ∀ dealId d', (op.event L verify h.now).slashes = some dealId →
      (op.after L verify h.now).deals.get dealId = some d' →
      (h.after L verify op).ticketed dealId d' = true) : (h.after L verify op).Remembers := by
  intro id d' hget hslashed
  rcases (op.after_step h.now).slashed_before hget hslashed with
    ⟨d, hd, hbefore, hslot⟩ | hevent
  · exact ticketed_after hslot (hrem id d hd hbefore)
  · exact hslash id d' hevent hget

/-- The history remembers exactly if the deal that the call slashes has its ticket. -/
theorem remembers_after_of_slash (hnum : h.now.Numbered) (hrem : h.Remembers)
    (hevent : (op.event L verify h.now).slashes = some dealId) : ∃ d d', h.now.deals.get dealId =
    some d ∧ d.slot = d'.slot ∧
    ((h.after L verify op).Remembers ↔ (h.after L verify op).ticketed dealId d' = true) := by
  obtain ⟨d, hd, hd'⟩ := (op.after_step h.now).slashed_after hnum hevent
  refine ⟨d, _, hd, ?_, fun hrem' => hrem' dealId _ hd' rfl, fun hticket => ?_⟩
  · rfl
  · refine remembers_after hrem fun id e hid hget => ?_
    obtain rfl := Option.mem_unique hevent hid
    obtain rfl := Option.mem_unique hd' hget
    exact hticket

theorem remembers_after_iff (op : StorageOp) (h : StorageHistory) (hnum : h.now.Numbered)
    (hrem : h.Remembers) : (h.after L verify op).Remembers ↔ h.LeavesTicket L verify op := by
  have hstep : Step L h.now (op.event L verify h.now) (op.after L verify h.now) :=
    op.after_step h.now
  unfold LeavesTicket
  split
  · rename_i challengeId dealId hevent
    obtain ⟨d, d', hd, hslot, hiff⟩ := remembers_after_of_slash hnum hrem
      (show _ = some dealId by rw [hevent]; rfl)
    rw [hiff]
    rw [hevent] at hstep
    constructor
    · intro hticket e he
      obtain rfl := Option.mem_unique hd he
      exact ticketed_of_after hslot hstep.mismatched_reallocations hticket
    · exact fun hguard => ticketed_after hslot (hguard d hd)
  · rename_i challengeId dealId hevent
    obtain ⟨d, d', hd, hslot, hiff⟩ := remembers_after_of_slash hnum hrem
      (show _ = some dealId by rw [hevent]; rfl)
    rw [hiff]
    rw [hevent] at hstep
    rcases hstep.missed_reallocations with ⟨hused, hsame⟩ | ⟨hfree, e, t, he, hfor, ht⟩
    · constructor
      · refine fun hticket => .inr fun e he => ?_
        obtain rfl := Option.mem_unique hd he
        exact ticketed_of_after hslot hsame hticket
      · rintro (hfree | hguard)
        · rw [hfree] at hused
          cases hused
        · exact ticketed_after hslot (hguard d hd)
    · obtain rfl := Option.mem_unique hd he
      refine ⟨fun _ => .inl hfree, fun _ => ticketed_iff.2 ⟨_, List.mem_cons_self, t, ht, ?_⟩⟩
      rwa [← isFor_congr hslot]
  · rename_i hmismatched hmissed
    refine ⟨fun _ => trivial, fun _ => remembers_after hrem fun id d' hevent => ?_⟩
    unfold StorageEvent.slashes at hevent
    split at hevent
    · exact absurd ‹_› (hmismatched _ _)
    · exact absurd ‹_› (hmissed _ _)
    · cases hevent

/-- **A run of calls opens a ticket for every deal it slashes, in every state, exactly when each slash
finds the deal ticketed already, or is a missed challenge of a deal whose number no ticket uses.** -/
theorem slashed_slots_ticketed_iff (L : Linked) (verify : ChallengeVerifier) (ops : List StorageOp) :
    (∀ h ∈ Trace.states (fun op h => after L verify op h) ops {}, h.Remembers) ↔
      Trace.Guarded (fun op h => after L verify op h) (LeavesTicket L verify) ops {} :=
  Trace.forall_states_iff (I := fun h => h.now.Numbered) (fun op h hnum => numbered_after op h.now hnum)
    remembers_after_iff ops numbered_empty fun _ _ hget => by simp at hget

/-! ### Forgotten slots -/

/-- Two operators keep a shard; the first one answers a challenge without a proof. -/
def wrongAnswer : List StorageOp :=
  [.openDeal (.sample 1 0), .openDeal (.sample 2 1), .openChallenge (.sample 0 0),
    .answerChallenge ⟨0, 5, 1, 0, none⟩, .openRepairTicketsForFreeSlots 1]

/-- A shard waits for its first operator; the first deal, over another replica, misses a
challenge. -/
def firstDealMissed : List StorageOp :=
  [.registerManifest .sample, .openNeverPlacedTicket 0 ⟨1, 7, 0⟩ 0, .openDeal (.sample 1 1),
    .openChallenge (.sample 0 0), .finalizeMissedChallenge 0 2, .openRepairTicketsForFreeSlots 2]

/-- Both ways to lose a slot without a ticket. -/
theorem slashed_slots_forgotten :
    ¬ (Trace.final (fun op h => after .storing .sample op h) wrongAnswer {}).Remembers ∧
      ¬ (Trace.final (fun op h => after .storing .sample op h) firstDealMissed {}).Remembers := by
  constructor
  · intro hrem
    have hticket := hrem 0 { (DealRequest.sample 1 0).deal 0 1 with status := .slashed }
      (by decide +kernel) rfl
    exact absurd hticket (by decide +kernel)
  · intro hrem
    have hticket := hrem 0 { (DealRequest.sample 1 1).deal 0 1 with status := .slashed }
      (by decide +kernel) rfl
    exact absurd hticket (by decide +kernel)

end StorageHistory

end Budlum
