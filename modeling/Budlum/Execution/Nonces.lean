import Budlum.Execution.Effects

/-!
# Nonces

Along a sequence of transactions that are admitted and applied, no nonce ever falls, and the
sender's nonce rises with every transaction until it reaches the end of its range.  So a sender and
a nonce below the end of the range are used at most once (`Executor.nodup_sender_nonce`).

Transactions write the nonce of their sender, and state updates write nonces of others as well.
The list of writes is taken from the transaction alone.  `Executor.others_unchanged_iff` says
exactly when the nonces of others move only on the authority of a recorded commitment.
-/

namespace Budlum

open Address (zero)
open UInt64 (maxValue toNat_one)
open Linked (sample)
open Transaction (genesis sample)

namespace Executor

open AccountState

variable {L : Linked} {domain : ConsensusKind} {tx : Transaction} {s s₁ s' : AccountState} {a : Address}

/-! ### One transaction -/

/-- Writing a list of nonces leaves an address alone or gives it one of the listed nonces. -/
theorem getNonce_writeNonces (updates : List (Address × UInt64)) (s : AccountState) (a : Address) :
    ((∀ u ∈ updates, u.1 ≠ a) ∧ (writeNonces updates s).getNonce a = s.getNonce a) ∨
      ∃ u ∈ updates, u.1 = a ∧ (writeNonces updates s).getNonce a = u.2 := by
  induction updates generalizing s with
  | nil => exact .inl ⟨by simp, rfl⟩
  | cons v vs ih =>
    obtain ⟨hrest, heq⟩ | ⟨u, hu, hua, heq⟩ := ih (s.setNonce v.1 v.2)
    · rw [getNonce_setNonce] at heq
      by_cases hv : a = v.1
      · rw [if_pos hv] at heq
        exact .inr ⟨v, List.mem_cons_self, hv.symm, heq⟩
      · rw [if_neg hv] at heq
        exact .inl ⟨List.forall_mem_cons.2 ⟨fun h => hv h.symm, hrest⟩, heq⟩
    · exact .inr ⟨u, List.mem_cons_of_mem v hu, hua, heq⟩

/-- Admitted writes only raise nonces. -/
theorem getNonce_le_writeNonces {updates : List (Address × UInt64)}
    (h : ∀ u ∈ updates, Admits s u) (a : Address) :
    s.getNonce a ≤ (writeNonces updates s).getNonce a := by
  obtain ⟨-, heq⟩ | ⟨u, hu, rfl, heq⟩ := getNonce_writeNonces updates s a
  · exact heq.symm.le
  · exact heq ▸ (h u hu).1.le

/-- The transaction passes the admission check under an expected nonce and is applied. -/
def Executes (L : Linked) (domain : ConsensusKind) (expectedNonce : UInt64) (s : AccountState)
    (tx : Transaction) (s' : AccountState) : Prop :=
  (∃ spendable, s.validateTransactionWithContext L tx expectedNonce spendable = .ok ()) ∧
    (applyTransactionChecked L tx domain).run s = .ok () s'

variable {expectedNonce : UInt64}

theorem Executes.cases (h : Executes L domain expectedNonce s tx s') :
    (tx.sender = zero ∧ s' = s) ∨ (tx.sender ≠ zero ∧ Applies tx s s') := by
  obtain ⟨hzero, -, hs⟩ | happ := applyTransactionChecked_applies () s' h.2
  · exact .inl ⟨hzero, hs⟩
  · exact .inr happ

theorem Executes.nonce_eq (h : Executes L domain expectedNonce s tx s')
    (hzero : tx.sender ≠ zero) : tx.nonce = expectedNonce := by
  obtain ⟨spendable, hvalid⟩ := h.1
  simp only [validateTransactionWithContext, if_neg hzero, Except.ok_iff] at hvalid
  obtain ⟨-, -, -, hnonce, -⟩ := hvalid
  exact hnonce

theorem le_saturatingAdd_one (n : UInt64) : n ≤ n.saturatingAdd 1 := by
  rw [UInt64.le_iff_toNat_le, UInt64.toNat_saturatingAdd]
  have := n.toNat_lt
  omega

theorem lt_saturatingAdd_one {n m : UInt64} (h : n ≤ m) (hn : n < maxValue) :
    n < m.saturatingAdd 1 := by
  rw [UInt64.le_iff_toNat_le] at h
  rw [UInt64.lt_iff_toNat_lt, UInt64.toNat_maxValue] at hn
  rw [UInt64.lt_iff_toNat_lt, UInt64.toNat_saturatingAdd, toNat_one]
  omega

/-- No nonce falls. -/
theorem Executes.getNonce_le (h : Executes L domain expectedNonce s tx s') (a : Address) :
    s.getNonce a ≤ s'.getNonce a := by
  obtain ⟨-, rfl⟩ | ⟨-, hadmits, hpays⟩ := h.cases
  · exact le_rfl
  · refine (getNonce_le_writeNonces hadmits a).trans ?_
    rw [hpays.nonces]
    split
    · exact le_saturatingAdd_one _
    · exact le_rfl

/-- The sender's nonce rises above the transaction's. -/
theorem Executes.nonce_lt (h : Executes L domain (s.getNonce tx.sender) s tx s')
    (hzero : tx.sender ≠ zero) (hnonce : tx.nonce < maxValue) :
    tx.nonce < s'.getNonce tx.sender := by
  obtain ⟨hz, -⟩ | ⟨-, hadmits, hpays⟩ := h.cases
  · exact absurd hz hzero
  · rw [hpays.nonces, if_pos rfl]
    refine lt_saturatingAdd_one ?_ hnonce
    rw [h.nonce_eq hzero]
    exact getNonce_le_writeNonces hadmits tx.sender

/-! ### Sequences -/

/-- Transactions that are admitted and applied one after the other. -/
inductive ExecutesAll (L : Linked) (domain : ConsensusKind) :
    AccountState → List Transaction → AccountState → Prop
  | nil (s : AccountState) : ExecutesAll L domain s [] s
  | cons {s s₁ s' : AccountState} {tx : Transaction} {txs : List Transaction} :
      Executes L domain (s.getNonce tx.sender) s tx s₁ → ExecutesAll L domain s₁ txs s' →
      ExecutesAll L domain s (tx :: txs) s'

/-- A nonce the sender has passed is not used again. -/
theorem ExecutesAll.getNonce_le_nonce {txs : List Transaction} (h : ExecutesAll L domain s txs s') :
    ∀ tx ∈ txs, tx.sender ≠ zero → s.getNonce tx.sender ≤ tx.nonce := by
  induction h with
  | nil => simp
  | cons hstep _ ih =>
    refine List.forall_mem_cons.2 ⟨fun hzero => (hstep.nonce_eq hzero).symm.le, ?_⟩
    exact fun t ht hzero => (hstep.getNonce_le t.sender).trans (ih t ht hzero)

/-- **No replay.**  A sender other than the zero address uses a nonce below the end of the range at
most once. -/
theorem nodup_sender_nonce {txs : List Transaction} (h : ExecutesAll L domain s txs s') :
    txs.Pairwise fun t t' => t.sender ≠ zero → t.nonce < maxValue →
      (t.sender, t.nonce) ≠ (t'.sender, t'.nonce) := by
  induction h with
  | nil => exact List.Pairwise.nil
  | @cons s s₁ s' tx txs hstep hrest ih =>
    refine List.pairwise_cons.2 ⟨fun t ht hzero hnonce heq => ?_, ih⟩
    obtain ⟨hsender, heq⟩ := Prod.mk.inj heq
    have hrises := hstep.nonce_lt hzero hnonce
    have hpassed := hrest.getNonce_le_nonce t ht (hsender ▸ hzero)
    rw [← hsender, ← heq] at hpassed
    exact absurd hrises (not_lt.2 hpassed)

def funded (a : Address) (nonce : UInt64) : AccountState :=
  ({} : AccountState).setAccount a ⟨10, nonce⟩

theorem executesAll_funded :
    ExecutesAll sample .poS (funded 1 5)
      [sample 1 5 (.nftTag 0 ""), sample 1 6 (.nftTag 0 "")]
      ((funded 1 5).setAccount 1 ⟨8, 7⟩) := by
  have hfirst : Executes sample .poS 5 (funded 1 5) (sample 1 5 (.nftTag 0 ""))
      ((funded 1 5).setAccount 1 ⟨9, 6⟩) := ⟨⟨10, rfl⟩, rfl⟩
  have hsecond : Executes sample .poS 6 ((funded 1 5).setAccount 1 ⟨9, 6⟩)
      (sample 1 6 (.nftTag 0 "")) ((funded 1 5).setAccount 1 ⟨8, 7⟩) :=
    ⟨⟨9, rfl⟩, rfl⟩
  exact .cons hfirst (.cons hsecond (.nil _))

theorem nodup_sender_nonce_funded :
    [sample 1 5 (.nftTag 0 ""), sample 1 6 (.nftTag 0 "")].Pairwise
      fun t t' => t.sender ≠ zero → t.nonce < maxValue →
        (t.sender, t.nonce) ≠ (t'.sender, t'.nonce) :=
  nodup_sender_nonce executesAll_funded

theorem executes_genesis (L : Linked) (domain : ConsensusKind) (s : AccountState)
    (expectedNonce : UInt64) :
    Executes L domain expectedNonce s (genesis L.toCrypto) s := by
  have hzero : (genesis L.toCrypto).sender = zero := rfl
  have hverify := Transaction.verify_genesis L.toCrypto
  refine ⟨⟨0, ?_⟩, ?_⟩
  · simp [validateTransactionWithContext, hzero, hverify, Except.ensure]
  · simp only [applyTransactionChecked, hzero, if_true, check, EStateM.ensure, hverify]
    rfl

/-- The genesis transaction can be applied any number of times, and at the end of its range a nonce
does not move. -/
theorem sender_nonce_repeats :
    (∃ txs s', ExecutesAll sample .poS {} txs s' ∧
      ¬txs.Pairwise fun t t' => (t.sender, t.nonce) ≠ (t'.sender, t'.nonce)) ∧
    ∃ txs s', ExecutesAll sample .poS (funded 1 maxValue) txs s' ∧
      (∀ tx ∈ txs, tx.sender ≠ zero) ∧
      ¬txs.Pairwise fun t t' => (t.sender, t.nonce) ≠ (t'.sender, t'.nonce) := by
  refine ⟨⟨[genesis sample.toCrypto, genesis sample.toCrypto],
    {}, ?_, by simp⟩, ⟨[sample 1 maxValue (.nftTag 0 ""),
    sample 1 maxValue (.nftTag 0 "")],
    (funded 1 5).setAccount 1 ⟨8, maxValue⟩, ?_, ?_, by simp⟩⟩
  · exact .cons (executes_genesis _ _ _ _) (.cons (executes_genesis _ _ _ _) (.nil _))
  · have hfirst : Executes sample .poS maxValue (funded 1 maxValue)
        (sample 1 maxValue (.nftTag 0 ""))
        ((funded 1 5).setAccount 1 ⟨9, maxValue⟩) := ⟨⟨10, rfl⟩, rfl⟩
    have hsecond : Executes sample .poS maxValue
        ((funded 1 5).setAccount 1 ⟨9, maxValue⟩)
        (sample 1 maxValue (.nftTag 0 ""))
        ((funded 1 5).setAccount 1 ⟨8, maxValue⟩) := ⟨⟨9, rfl⟩, rfl⟩
    exact .cons hfirst (.cons hsecond (.nil _))
  · decide

/-! ### Nonces of others -/

/-- A recorded commitment carries exactly the nonces the transaction writes. -/
def Authorized (recorded : List DomainCommitment) (tx : Transaction) : Prop :=
  ∃ c ∈ recorded, tx.txType = .stateUpdate c.domainId c.domainHeight c.stateUpdates.entries

/-- The nonce of everybody but the sender is left alone, unless a recorded commitment says
otherwise. -/
def NonceAuthority (recorded : List DomainCommitment) (tx : Transaction) (s s' : AccountState) :
    Prop :=
  ∀ a, a ≠ tx.sender → s'.getNonce a = s.getNonce a ∨ Authorized recorded tx

/-- **Authority over nonces.**  The executor never looks a commitment up: the nonces of others are
safe exactly from transactions that name none of them, or happen to match a commitment. -/
theorem others_unchanged_iff {expectedNonce : UInt64} (recorded : List DomainCommitment)
    (h : Executes L domain expectedNonce s tx s') :
    NonceAuthority recorded tx s s' ↔
      tx.sender = zero ∨ (∀ u ∈ nonceWrites tx, u.1 = tx.sender) ∨ Authorized recorded tx := by
  obtain ⟨hzero, rfl⟩ | ⟨hzero, hadmits, hpays⟩ := h.cases
  · exact ⟨fun _ => .inl hzero, fun _ _ _ => .inl rfl⟩
  have hothers : ∀ a, a ≠ tx.sender →
      s'.getNonce a = (writeNonces (nonceWrites tx) s).getNonce a := fun a ha => by
    rw [hpays.nonces, if_neg ha]
  constructor
  · intro hauth
    by_contra hcond
    push Not at hcond
    obtain ⟨-, ⟨u, hu, hne⟩, hunauthorized⟩ := hcond
    have hsame := (hauth u.1 hne).resolve_right hunauthorized
    rw [hothers u.1 hne] at hsame
    -- some write to this address comes last, and it was admitted
    obtain ⟨hnone, -⟩ | ⟨v, hv, hvu, hlast⟩ := getNonce_writeNonces (nonceWrites tx) s u.1
    · exact hnone u hu rfl
    · have hrise := (hadmits v hv).1
      rw [hvu, ← hlast, hsame] at hrise
      exact lt_irrefl _ hrise
  · rintro (hz | hown | hauthorized) a ha
    · exact absurd hz hzero
    · obtain ⟨-, hsame⟩ | ⟨v, hv, rfl, -⟩ := getNonce_writeNonces (nonceWrites tx) s a
      · exact .inl ((hothers a ha).trans hsame)
      · exact absurd (hown v hv) ha
    · exact .inr hauthorized

/-- A nonce update for a domain nobody committed to. -/
def strayUpdate : Transaction := .sample 1 0 (.stateUpdate 7 1 [(2, 5)])

def afterStrayUpdate : AccountState := ((funded 1 0).setAccount 1 ⟨9, 1⟩).setAccount 2 ⟨0, 5⟩

theorem executes_strayUpdate : Executes sample .poS 0 (funded 1 0) strayUpdate afterStrayUpdate :=
  ⟨⟨10, rfl⟩, rfl⟩

theorem others_unchanged_iff_strayUpdate :
    NonceAuthority [] strayUpdate (funded 1 0) afterStrayUpdate ↔
      strayUpdate.sender = zero ∨ (∀ u ∈ nonceWrites strayUpdate, u.1 = strayUpdate.sender) ∨
        Authorized [] strayUpdate :=
  others_unchanged_iff [] executes_strayUpdate

/-- Anybody can move the nonce of anybody. -/
theorem strayUpdate_unauthorized :
    Executes sample .poS 0 (funded 1 0) strayUpdate afterStrayUpdate ∧
      ¬NonceAuthority [] strayUpdate (funded 1 0) afterStrayUpdate := by
  refine ⟨executes_strayUpdate, fun h => ?_⟩
  obtain hsame | ⟨c, hc, -⟩ := h 2 (by decide)
  · exact absurd hsame (by decide)
  · simp at hc

end Executor

end Budlum
