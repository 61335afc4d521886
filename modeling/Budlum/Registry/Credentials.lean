import Budlum.Consensus.Engine
import Budlum.Lib.Trace

/-!
# How long a credential stays valid

A credential is valid while it is live, not revoked, and has the root that its subject's record
vouches for.  The record has room for one root, and every credential issued to the subject, by anybody
the registry knows, overwrites it.

* `CredentialWatch.valid_until_revoked_iff` : when a credential stays valid until it is revoked.

A recovery is to leave the new key alone alive; `IdentityRegistry.recovery_revokes_iff` says when.
-/

namespace Budlum

open Except (ok_iff)

namespace IdentityRegistry

variable {C : Crypto} {r r' : IdentityRegistry} {sender : Address} {tx : IdentityTx}
  {domain : ConsensusKind} {epoch chainId : UInt64}

/-- What an accepted transaction makes of the registry. -/
inductive Wrote (C : Crypto) (r : IdentityRegistry) (sender : Address) :
    IdentityTx → IdentityRegistry → Prop
  | registered {record : IdentityRecord} (hnew : r.records.contains record.subject = false) :
      Wrote C r sender (.register record)
        { r with records := r.records.insert record.subject record }
  | issued {d : CredentialCommitment} {record : IdentityRecord} (hissuer : d.issuer = sender)
      (hrecord : r.records.get d.subject = some record)
      (hnew : r.credentials.contains (d.credentialId C) = false) :
      Wrote C r sender (.issue d) { r with
        credentials := r.credentials.insert (d.credentialId C) d
        records := r.records.insert d.subject { record with credentialRoot := some (d.root C) } }
  | revoked {d : CredentialCommitment} (hissuer : d.issuer = sender) :
      Wrote C r sender (.revoke d) { r with revoked := r.revoked.insert (d.credentialId C) () }
  | recovered {subject : Address} {newKey : Hash32} {approvals : List GuardianApproval}
      {record : IdentityRecord} {methods : List VerificationMethod}
      (hrecord : r.records.get subject = some record) :
      Wrote C r sender (.recover subject newKey approvals)
        { r with records := r.records.insert subject { record with methods := methods } }

theorem Wrote.of_execute (h : r.executeIdentityTx C sender tx domain epoch chainId = .ok r') :
    Wrote C r sender tx r' := by
  cases tx with
  | register record =>
    simp only [executeIdentityTx, register, ok_iff] at h
    obtain ⟨_, _, _, _, _, _, _, hnew, rfl⟩ := h
    exact .registered (by simpa using hnew)
  | issue d =>
    simp only [executeIdentityTx, checkSender, issue, ok_iff] at h
    obtain ⟨_, hissuer, _, _, _, _, _, _, _, _, record, hrecord, _, _, _, hnew, rfl⟩ := h
    exact .issued hissuer hrecord (by simpa using hnew)
  | revoke d =>
    simp only [executeIdentityTx, checkSender, revoke, ok_iff] at h
    obtain ⟨_, hissuer, _, _, _, _, _, _, rfl⟩ := h
    exact .revoked hissuer
  | recover subject newKey approvals =>
    simp only [executeIdentityTx, authorizeRecovery, guardianRecovery, ok_iff] at h
    obtain ⟨_, _, _, _, record, hrecord, _, _, _, _, _, _, rfl⟩ := h
    exact .recovered hrecord

/-- Nothing but its lifetime can end the validity of the credential: it is not revoked, and the record
of its subject vouches for it. -/
structure Upheld (C : Crypto) (id : Hash32) (c : CredentialCommitment) (r : IdentityRegistry) :
    Prop where
  unrevoked : r.revoked.contains id = false
  vouched : ∃ record, r.records.get c.subject = some record ∧
    record.credentialRoot = some (c.root C)

theorem isCredentialValid_iff {id : Hash32} {c : CredentialCommitment} {now : UInt64}
    (hc : r.credentials.get id = some c) :
    r.isCredentialValid C id now = .ok () ↔ c.isLiveAt now = true ∧ Upheld C id c r := by
  simp only [isCredentialValid, hc, ok_iff, Option.some.injEq, exists_eq_left',
    Bool.not_eq_true']
  constructor
  · rintro ⟨_, hunrevoked, _, hlive, record, hrecord, hroot⟩
    exact ⟨hlive, hunrevoked, record, hrecord, hroot⟩
  · rintro ⟨hlive, hunrevoked, record, hrecord, hroot⟩
    exact ⟨(), hunrevoked, (), hlive, record, hrecord, hroot⟩

section Writes

variable {id : Hash32} {c : CredentialCommitment}

/-- A credential that was issued stays on file. -/
theorem Wrote.credentials_get (h : Wrote C r sender tx r') (hc : r.credentials.get id = some c) :
    r'.credentials.get id = some c := by
  cases h with
  | registered | revoked | recovered => exact hc
  | @issued d record _ _ hnew =>
    have hne : id ≠ d.credentialId C := by
      rintro rfl
      rw [OrdMap.contains_eq_false.1 hnew] at hc
      cases hc
    exact (OrdMap.get_insert_of_ne _ hne _).trans hc

/-- The transaction leaves the credential's root in its subject's record, and does not revoke it. -/
def Spares (C : Crypto) (id : Hash32) (c : CredentialCommitment) : IdentityTx → Prop
  | .issue d => d.subject = c.subject → d.root C = c.root C
  | .revoke d => d.credentialId C ≠ id
  | .register _ | .recover .. => True

/-- A record that takes the place of the subject's. -/
theorem upheld_insert (h : Upheld C id c r) (subject : Address) (record : IdentityRecord)
    (hrecord : subject = c.subject → record.credentialRoot = some (c.root C)) :
    Upheld C id c { r with records := r.records.insert subject record } := by
  refine ⟨h.unrevoked, ?_⟩
  obtain ⟨held, hheld, hroot⟩ := h.vouched
  by_cases hsubject : c.subject = subject
  · exact ⟨record, by rw [hsubject, OrdMap.get_insert, if_pos rfl], hrecord hsubject.symm⟩
  · exact ⟨held, by rw [OrdMap.get_insert_of_ne _ hsubject]; exact hheld, hroot⟩

/-- **A transaction ends the validity of a credential exactly if it does not spare it.** -/
theorem Wrote.upheld_iff (hwrote : Wrote C r sender tx r') (h : Upheld C id c r) :
    Upheld C id c r' ↔ Spares C id c tx := by
  obtain ⟨held, hheld, hroot⟩ := h.vouched
  cases hwrote with
  | @registered record hnew =>
    refine iff_of_true (upheld_insert h _ _ fun hsubject => ?_) trivial
    rw [hsubject, OrdMap.contains_eq_false, hheld] at hnew
    cases hnew
  | @issued d record _ hrecord hnew =>
    constructor
    · rintro ⟨-, record', hrecord', hroot'⟩ hsubject
      rw [hsubject, OrdMap.get_insert, if_pos rfl] at hrecord'
      obtain rfl := Option.some.inj hrecord'
      exact Option.some.inj hroot'
    · intro hspares
      have hinsert := upheld_insert h d.subject { record with credentialRoot := some (d.root C) }
        fun hsubject => congrArg some (hspares hsubject)
      exact ⟨h.unrevoked, hinsert.vouched⟩
  | @revoked d _ =>
    constructor
    · rintro ⟨hunrevoked, -⟩ rfl
      simp [OrdMap.contains_insert] at hunrevoked
    · intro hspares
      refine ⟨?_, h.vouched⟩
      rw [OrdMap.contains_insert, h.unrevoked, Bool.or_false, decide_eq_false_iff_not]
      exact fun heq => hspares heq.symm
  | @recovered subject _ _ record _ hrecord =>
    refine iff_of_true (upheld_insert h _ _ fun hsubject => ?_) trivial
    rw [hsubject, hheld] at hrecord
    obtain rfl := Option.some.inj hrecord
    exact hroot

end Writes

/-! ### Recovery -/

variable {record : IdentityRecord} {methods methods' : List VerificationMethod}

/-- From now on the new key is live and no other, in a record that is in order. -/
def Recovered (now : UInt64) (newKey : Hash32) (record : IdentityRecord) : Prop :=
  (∀ later, now ≤ later → record.methods.filter (·.isLiveAt later) = [⟨newKey, .mlDsa87, none⟩]) ∧
    record.validate = .ok ()

theorem checkGuardians_methods (known guardians : List Address) :
    { record with methods := methods }.checkGuardians known guardians =
      record.checkGuardians known guardians := by
  induction guardians generalizing known with
  | nil => rfl
  | cons g guardians ih => simp only [IdentityRecord.checkGuardians, ih]

/-- Of the methods a record is checked for the keys only. -/
theorem validate_methods (h : methods.map (·.keyId) = methods'.map (·.keyId)) :
    { record with methods := methods }.validate = { record with methods := methods' }.validate := by
  have hempty : methods.isEmpty = methods'.isEmpty := by
    simpa only [List.isEmpty_map] using congrArg List.isEmpty h
  simp only [IdentityRecord.validate, checkGuardians_methods, hempty, h]

/-- **A recovery revokes every old key exactly if** none has a revocation ahead of it, and the record
with the new key among the old ones is in order. -/
theorem recovery_revokes_iff {subject : Address} {newKey : Hash32}
    {approvals : List GuardianApproval} (h : r.executeIdentityTx C sender
      (.recover subject newKey approvals) domain epoch chainId = .ok r') :
    ∃ record recovered, r.records.get subject = some record ∧
      r'.records.get subject = some recovered ∧ (Recovered epoch newKey recovered ↔
        (∀ m ∈ record.methods, m.revokedAt.all fun e => decide (e ≤ epoch)) ∧
          { record with methods :=
              record.methods ++ [VerificationMethod.mk newKey .mlDsa87 none] }.validate = .ok ()) := by
  simp only [executeIdentityTx, authorizeRecovery, guardianRecovery, ok_iff] at h
  obtain ⟨_, _, _, _, record, hrecord, _, _, _, _, _, _, rfl⟩ := h
  refine ⟨record, _, hrecord, OrdMap.get_insert_self _ _ _, and_congr ?_ ?_⟩
  · simp only [VerificationMethod.isLiveAt, Option.orElse_eq_or, Option.or_some, List.filter_append,
      List.filter_map, Option.all_none, List.filter_cons_of_pos, List.filter_nil,
      List.append_left_eq_self, List.map_eq_nil_iff, List.filter_eq_nil_iff, Function.comp_apply,
      Option.all_some, decide_eq_true_eq, not_lt]
    refine ⟨fun h m hm => ?_, fun h later hle m hm => ?_⟩
    · have hdead := h epoch le_rfl m hm
      cases hrevoked : m.revokedAt <;> simp_all
    · have hpast := h m hm
      cases hrevoked : m.revokedAt with
      | none => exact hle
      | some e => exact le_trans (by simpa [hrevoked] using hpast) hle
  · rw [validate_methods]
    simp

/-- Account 2, whose key 5 may have a revocation ahead, with account 1 for a guardian. -/
def guarded (revokedAt : Option UInt64) : IdentityRecord :=
  ⟨2, [⟨5, .mlDsa87, revokedAt⟩], none, [1], 1⟩

/-- The account runs a transaction. -/
def runGuarded (tx : IdentityTx) (epoch : UInt64) (r : IdentityRegistry) :
    Except IdentityError IdentityRegistry :=
  r.executeIdentityTx Linked.sample.toCrypto 2 tx .poA epoch 1

def rotate : IdentityTx := .recover 2 6 [⟨.replicate 2592 0, .replicate 4627 0⟩]

theorem plain_key_revoked :
    ∃ r record, runGuarded rotate 7 { records := OrdMap.insert ∅ 2 (guarded none) } = .ok r ∧
      r.records.get 2 = some record ∧ Recovered 7 6 record := by
  obtain ⟨r, hr⟩ := Except.exists_ok (show (runGuarded rotate 7
    { records := OrdMap.insert ∅ 2 (guarded none) }).toBool = true by decide +kernel)
  obtain ⟨record, recovered, hrecord, hrecovered, hiff⟩ := recovery_revokes_iff hr
  obtain rfl : guarded none = record := Option.some.inj hrecord
  exact ⟨r, recovered, hr, hrecovered, hiff.2 ⟨by decide, rfl⟩⟩

/-- **A key that is to be revoked later survives**: at epoch 8 both keys are live. -/
theorem scheduled_key_survives :
    let r := (runGuarded (.register (guarded (some 100))) 5 {}).bind (runGuarded rotate 7)
    (r.toOption.bind (·.records.get 2)).map (·.methods.filter (·.isLiveAt 8)) =
      some [⟨5, .mlDsa87, some 100⟩, ⟨6, .mlDsa87, none⟩] := by
  decide +kernel

end IdentityRegistry

/-! ### Runs -/

/-- An identity transaction with what it is run under. -/
structure IdentityCall where
  sender : Address
  tx : IdentityTx
  domain : ConsensusKind
  epoch : UInt64
  chainId : UInt64

/-- A registry, and whether the issuer of the credential that is watched has revoked it. -/
structure CredentialWatch where
  r : IdentityRegistry
  ended : Bool := false

namespace CredentialWatch

open IdentityRegistry

variable (C : Crypto) (id : Hash32) (c : CredentialCommitment) (now : UInt64)

def exec (call : IdentityCall) (w : CredentialWatch) : Except IdentityError IdentityRegistry :=
  w.r.executeIdentityTx C call.sender call.tx call.domain call.epoch call.chainId

/-- The call is the issuer's revocation of the credential. -/
def isEnd (call : IdentityCall) : Bool :=
  match call.tx with
  | .revoke d => decide (d.credentialId C = id) && decide (call.sender = c.issuer)
  | _ => false

def step (call : IdentityCall) (w : CredentialWatch) : CredentialWatch :=
  match w.exec C call with
  | .ok r => ⟨r, w.ended || isEnd C id c call⟩
  | .error _ => w

/-- Unless its issuer has revoked it, the credential is valid from now until it expires. -/
def Stands (w : CredentialWatch) : Prop :=
  w.ended = true ∨ ∀ later, now ≤ later → c.expiresAt.all (fun e => decide (later < e)) = true →
    w.r.isCredentialValid C id later = .ok ()

/-- An accepted call before the revocation issues no other root to the subject, and revokes the
identifier only if the sender is the issuer. -/
def Respects (call : IdentityCall) (w : CredentialWatch) : Prop :=
  w.ended = true ∨ ∀ r, w.exec C call = .ok r →
    match call.tx with
    | .issue d => d.subject = c.subject → d.root C = c.root C
    | .revoke d => d.credentialId C = id → call.sender = c.issuer
    | .register _ | .recover .. => True

variable {C id c now} {w : CredentialWatch}

theorem stands_iff (hlive : c.isLiveAt now = true) (hc : w.r.credentials.get id = some c) :
    w.Stands C id c now ↔ w.ended = true ∨ Upheld C id c w.r := by
  simp only [CredentialCommitment.isLiveAt, Bool.and_eq_true, decide_eq_true_eq] at hlive
  refine or_congr_right ⟨fun h => ?_, fun h later hle hexpiry => ?_⟩
  · exact ((isCredentialValid_iff hc).1 (h now le_rfl hlive.2)).2
  · refine (isCredentialValid_iff hc).2 ⟨?_, h⟩
    simp only [CredentialCommitment.isLiveAt, Bool.and_eq_true, decide_eq_true_eq]
    exact ⟨le_trans hlive.1 hle, hexpiry⟩

theorem credentials_get_step (call : IdentityCall) (hc : w.r.credentials.get id = some c) :
    (step C id c call w).r.credentials.get id = some c := by
  simp only [step]
  split
  · next r hexec => exact (Wrote.of_execute hexec).credentials_get hc
  · exact hc

/-- One call keeps the credential standing exactly if it respects it. -/
theorem stands_step (hlive : c.isLiveAt now = true) (call : IdentityCall)
    (hc : w.r.credentials.get id = some c) (h : w.Stands C id c now) :
    (step C id c call w).Stands C id c now ↔ Respects C id c call w := by
  rw [stands_iff hlive hc] at h
  rw [stands_iff hlive (credentials_get_step call hc)]
  cases hended : w.ended with
  | true =>
    refine iff_of_true (.inl ?_) (.inl hended)
    simp only [step]
    split <;> simp [hended]
  | false =>
    have hupheld : Upheld C id c w.r := h.resolve_left (by simp [hended])
    simp only [Respects, hended, Bool.false_eq_true, false_or, step]
    cases hexec : w.exec C call with
    | error e => simpa using .inr hupheld
    | ok r =>
      have hiff := (Wrote.of_execute hexec).upheld_iff hupheld
      simp only [hiff, Except.ok.injEq, forall_eq', Bool.false_or]
      cases htx : call.tx with
      | register record | recover subject newKey approvals | issue d => simp [isEnd, Spares, htx]
      | revoke d =>
        by_cases hid : d.credentialId C = id <;> simp [isEnd, Spares, htx, hid]

/-- **Only another root for its subject ends a credential early**: from any registry in which it is
valid now, it stays valid until it expires or its issuer revokes it, exactly if every call of the run
respects it. -/
theorem valid_until_revoked_iff (C : Crypto) (id : Hash32) (c : CredentialCommitment) (now : UInt64)
    (r : IdentityRegistry) (calls : List IdentityCall) (hc : r.credentials.get id = some c)
    (hvalid : r.isCredentialValid C id now = .ok ()) :
    (∀ w ∈ Trace.states (step C id c) calls { r := r }, w.Stands C id c now) ↔
      Trace.Guarded (step C id c) (Respects C id c) calls { r := r } := by
  obtain ⟨hlive, hupheld⟩ := (isCredentialValid_iff hc).1 hvalid
  refine Trace.forall_states_iff (I := fun w => w.r.credentials.get id = some c)
    (fun call w hw => credentials_get_step call hw)
    (fun call w hw hstands => stands_step hlive call hw hstands) calls hc ?_
  exact (stands_iff hlive hc).2 (.inr hupheld)

def sampleCredential (issuer subject : Address) (field : Hash32) : CredentialCommitment :=
  ⟨issuer, subject, "kyc", [⟨"residency", field⟩], 1, none⟩

def sampleRecord (subject : Address) : IdentityRecord :=
  ⟨subject, [⟨subject, .mlDsa87, none⟩], none, [], 0⟩

def sampleCall (sender : Address) (tx : IdentityTx) : IdentityCall := ⟨sender, tx, .poA, 5, 1337⟩

/-- The identifier of the credential that account 9 has issued to account 1. -/
def sampleId : Hash32 := (sampleCredential 9 1 3).credentialId .telling

/-- Accounts 1, 8 and 9 are registered, and 9 has issued its credential to 1. -/
def sampleRegistry : IdentityRegistry :=
  (Trace.final (step .telling sampleId (sampleCredential 9 1 3))
    [sampleCall 1 (.register (sampleRecord 1)), sampleCall 8 (.register (sampleRecord 8)),
      sampleCall 9 (.register (sampleRecord 9)), sampleCall 9 (.issue (sampleCredential 9 1 3))]
    { r := {} }).r

/-- Registrations, credentials for others and in the end the revocation leave it standing. -/
theorem stands_until_revoked :
    sampleRegistry.credentials.get sampleId = some (sampleCredential 9 1 3) ∧
    ∀ w ∈ Trace.states (step .telling sampleId (sampleCredential 9 1 3))
      [sampleCall 7 (.register (sampleRecord 7)), sampleCall 8 (.issue (sampleCredential 8 7 4)),
        sampleCall 9 (.revoke (sampleCredential 9 1 3))] { r := sampleRegistry },
      w.Stands .telling sampleId (sampleCredential 9 1 3) 5 := by
  have hc : sampleRegistry.credentials.get sampleId = some (sampleCredential 9 1 3) := by
    decide +kernel
  obtain ⟨_, hvalid⟩ := Except.exists_ok
    (show (sampleRegistry.isCredentialValid .telling sampleId 5).toBool = true by decide +kernel)
  refine ⟨hc, (valid_until_revoked_iff _ _ _ 5 _ _ hc hvalid).2 ⟨.inr ?_, .inr ?_, .inr ?_, trivial⟩⟩
  · exact fun _ _ => trivial
  · exact fun _ _ hsubject => absurd hsubject (by decide)
  · exact fun _ _ _ => rfl

/-- **Another account ends it**: account 8 issues a credential of its own to the same subject. -/
theorem overwritten_by_other_issuer :
    (sampleRegistry.isCredentialValid .telling sampleId 5).toBool = true ∧
      ((step .telling sampleId (sampleCredential 9 1 3)
        (sampleCall 8 (.issue (sampleCredential 8 1 4))) { r := sampleRegistry }).r.isCredentialValid
          .telling sampleId 5).toBool = false := by
  decide +kernel

end CredentialWatch

end Budlum
