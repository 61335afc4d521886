import Budlum.Core.Governance
import Budlum.Lib.Trace

/-!
# The weight of votes

A vote is recorded with the stake the voter has at that time.  A stake that is lowered takes its loss
back from the record and from the total of the voter's side.  The totals are words that saturate, and
the records are not added up again.

* `Poll.step` : a vote, or a change of a stake with the reduction that follows it.
* `Poll.Honest` : each total is the sum of the records on its side, each record is on one side and
  within the voter's stake.
* `Poll.honest_iff` : a run is honest throughout exactly if no vote takes a total past its word.
-/

namespace Budlum

open OrdMap UInt64 Proposal

/-- The recorded weights of the voters on a side. -/
def Proposal.weightOn (p : Proposal) (side : Bool) : Nat :=
  p.voterWeights.sumBy fun a w => if p.voters.get a = some side then w.toNat else 0

/-- The total the tally reads for a side. -/
def Proposal.total (p : Proposal) (side : Bool) : UInt64 :=
  if side then p.votesFor else p.votesAgainst

/-- A proposal that is voted on, and the stakes of the voters. -/
structure Poll extends Proposal where
  stake : Address → UInt64

namespace Poll

inductive Move where
  | vote (voter : Address) (voteFor : Bool) (epoch : UInt64)
  | restake (voter : Address) (stake : UInt64)

/-- A refused vote changes nothing; a raised stake takes nothing back. -/
def step : Move → Poll → Poll
  | .vote voter voteFor epoch, s =>
    match s.addVote voter (s.stake voter) voteFor epoch with
    | .ok p => { s with toProposal := p }
    | .error _ => s
  | .restake voter stake, s =>
    ⟨s.reduceVoteWeight voter ((s.stake voter).saturatingSub stake),
      Function.update s.stake voter stake⟩

structure Honest (s : Poll) : Prop where
  totals : ∀ side, (s.total side).toNat = s.weightOn side
  oneSide : ∀ a w, s.voterWeights.get a = some w → ∃! side, s.voters.get a = some side
  within : ∀ a w, s.voterWeights.get a = some w → w ≤ s.stake a

/-- An accepted vote finds room for its weight in the total. -/
def Fits : Move → Poll → Prop
  | .vote voter voteFor epoch, s =>
    (s.addVote voter (s.stake voter) voteFor epoch).isOk →
      (s.total voteFor).toNat + (s.stake voter).toNat < 2 ^ 64
  | .restake .., _ => True

variable {s t : Poll} {voter : Address} {b : Bool} {w : UInt64}

/-- One record is written: what the totals have to do. -/
theorem Honest.record_iff (h : s.Honest)
    (hvoter : t.voters.get voter = some b)
    (hothers : ∀ a, a ≠ voter → t.voters.get a = s.voters.get a)
    (hweights : t.voterWeights = s.voterWeights.insert voter w)
    (hside : ∀ old, s.voterWeights.get voter = some old → s.voters.get voter = some b)
    (hle : w ≤ t.stake voter) (hstake : ∀ a, a ≠ voter → t.stake a = s.stake a) :
    t.Honest ↔ ∀ side, (t.total side).toNat +
        (if side = b then amountAt (fun _ => toNat) s.voterWeights voter else 0) =
      (s.total side).toNat + if side = b then w.toNat else 0 := by
  have hsum : ∀ side, t.weightOn side +
        (if side = b then amountAt (fun _ => toNat) s.voterWeights voter else 0) =
      (s.total side).toNat + if side = b then w.toNat else 0 := by
    intro side
    have hins := sumBy_insert (fun a (w : UInt64) =>
      if t.voters.get a = some side then w.toNat else 0) s.voterWeights voter w
    have hold : s.weightOn side = s.voterWeights.sumBy fun a w =>
        if t.voters.get a = some side then w.toNat else 0 := by
      refine sumBy_congr fun a w ha => ?_
      by_cases heq : a = voter
      · subst heq
        rw [hvoter, hside w ha]
      · rw [hothers a heq]
    have hsame : t.voters.get voter = some side ↔ side = b := by simp [hvoter, eq_comm]
    rw [h.totals, hold, weightOn, hweights]
    refine Eq.trans ?_ (hins.trans (by simp only [hsame]))
    rw [amountAt, amountAt]
    cases s.voterWeights.get voter <;> simp [hsame]
  constructor
  · exact fun ht side => ht.totals side ▸ hsum side
  · refine fun htotals => ⟨fun side => ?_, fun a v ha => ?_, fun a v ha => ?_⟩
    · have := hsum side
      have := htotals side
      omega
    all_goals
      rw [hweights, get_insert_eq_some] at ha
      obtain ⟨rfl, rfl⟩ | ⟨hne, ha⟩ := ha
    · simp [hvoter]
    · simpa [hothers a hne] using h.oneSide a v ha
    · exact hle
    · exact hstake a hne ▸ h.within a v ha

theorem Honest.vote_iff (h : s.Honest) (voter : Address) (b : Bool) (epoch : UInt64) :
    (step (.vote voter b epoch) s).Honest ↔ Fits (.vote voter b epoch) s := by
  simp only [step, Fits]
  cases hvote : s.addVote voter (s.stake voter) b epoch with
  | error e => simp [h, Except.isOk, Except.toBool]
  | ok p' =>
    simp only [addVote, Except.ok_iff, Bool.not_eq_true', contains_eq_false] at hvote
    obtain ⟨-, -, -, -, -, hfresh, rfl⟩ := hvote
    have hnew : ∀ old, s.voterWeights.get voter ≠ some old := fun old hold => by
      obtain ⟨side, hside, -⟩ := h.oneSide voter old hold
      simp [hfresh] at hside
    refine Iff.trans (h.record_iff (get_insert_self ..) (fun _ hne => get_insert_of_ne _ hne _) rfl
      (fun old hold => (hnew old hold).elim) le_rfl fun _ _ => rfl) ?_
    rw [amountAt_of_none (Option.eq_none_iff_forall_ne_some.2 hnew)]
    cases b <;> simp [total, toNat_saturatingAdd, Except.isOk, Except.toBool] <;> omega

theorem Honest.restake (h : s.Honest) (voter : Address) (amount : UInt64) :
    (step (.restake voter amount) s).Honest := by
  have hstake : ∀ a, a ≠ voter → Function.update s.stake voter amount a = s.stake a :=
    fun a hne => Function.update_of_ne hne ..
  -- the record stays if nothing is taken back
  have hsame : (∀ w, s.voterWeights.get voter = some w → w ≤ amount) →
      Honest ⟨s.toProposal, Function.update s.stake voter amount⟩ := fun hkeep =>
    ⟨h.totals, h.oneSide, fun a w ha => by
      by_cases heq : a = voter
      · subst heq
        exact (hkeep w ha).trans_eq (Function.update_self a amount s.stake).symm
      · exact (h.within a w ha).trans_eq (hstake a heq).symm⟩
  cases hw : s.voterWeights.get voter with
  | none =>
    have hnone : s.reduceVoteWeight voter ((s.stake voter).saturatingSub amount) =
        s.toProposal := by
      unfold reduceVoteWeight
      split <;> simp [getD, hw]
    rw [step, hnone]
    exact hsame (by simp [hw])
  | some w =>
    obtain ⟨b, hb, -⟩ := h.oneSide voter w hw
    have hle := le_iff_toNat_le.1 (h.within voter w hw)
    have hcover : w.toNat ≤ (s.total b).toNat := by
      rw [h.totals b, weightOn]
      refine le_trans (Eq.le ?_) (amountAt_le_sumBy _ _ voter)
      rw [amountAt_of_get hw, if_pos hb]
    have happlied := toNat_min w ((s.stake voter).saturatingSub amount)
    rw [toNat_saturatingSub] at happlied
    simp only [step, reduceVoteWeight, hb, getD, hw, Option.getD_some]
    by_cases hzero : min w ((s.stake voter).saturatingSub amount) = 0
    · rw [if_pos hzero]
      refine hsame fun v hv => ?_
      obtain rfl := Option.mem_unique hv hw
      rw [hzero, show toNat 0 = 0 from rfl] at happlied
      rw [le_iff_toNat_le]
      omega
    · rw [if_neg hzero]
      refine Iff.mpr (h.record_iff hb (fun _ _ => rfl) rfl (fun _ _ => hb) ?_ hstake) fun side => ?_
      · dsimp only
        rw [Function.update_self, le_iff_toNat_le, toNat_saturatingSub]
        omega
      · rw [amountAt_of_get hw]
        cases side <;> cases b <;> simp [total, toNat_saturatingSub] at hcover ⊢ <;> omega

/-- **Vote weight is honest while it fits.**  From a proposal nobody has voted on, the totals are the
sums of the records exactly if no accepted vote saturates its total. -/
theorem honest_iff (p : Proposal) (hfor : p.votesFor = 0) (hagainst : p.votesAgainst = 0)
    (hweights : p.voterWeights = ∅) (stake : Address → UInt64) (moves : List Move) :
    (∀ s ∈ Trace.states step moves ⟨p, stake⟩, s.Honest) ↔
      Trace.Guarded step Fits moves ⟨p, stake⟩ := by
  refine Trace.forall_states_iff (I := fun _ => True) (fun _ _ _ => trivial) (fun move s _ h => ?_)
    moves trivial ⟨fun side => ?_, ?_, ?_⟩
  · cases move with
    | vote voter b epoch => exact h.vote_iff voter b epoch
    | restake voter amount => exact iff_of_true (h.restake voter amount) trivial
  · cases side <;> simp [Proposal.total, Proposal.weightOn, hfor, hagainst, hweights]
  all_goals
    intro a w ha
    simp [hweights, get_empty] at ha

/-- A proposal nobody has voted on. -/
def sample : Poll := ⟨⟨0, 0, .changeBaseFee 1, 0, 10, 0, 0, .active, ∅, ∅, none⟩, fun _ => 0⟩

theorem honest_after_vote :
    (Trace.final step [.restake 1 5, .vote 1 true 0, .restake 1 3] sample).Honest := by
  refine (honest_iff sample.toProposal rfl rfl rfl _ _).2 ?_ _ (Trace.final_mem_states _ sample)
  exact ⟨trivial, fun _ => by decide +kernel, trivial, trivial⟩

/-- Two voters with the largest stake, both for: the total holds one of them. -/
theorem total_saturates : ¬ (Trace.final step [.restake 1 maxValue, .restake 2 maxValue,
    .vote 1 true 0, .vote 2 true 0] sample).Honest :=
  fun h => absurd (h.totals true) (by decide +kernel)

end Poll

end Budlum
