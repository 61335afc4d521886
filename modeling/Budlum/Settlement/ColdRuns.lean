import Budlum.Lib.Trace
import Budlum.Settlement.ColdWallet

/-!
# What a cold wallet releases over its life

A run is any sequence of calls on a new wallet.  Two records are kept beside it: the payloads it
released, in order, and the key epochs it rotated out.  `ColdRun.Kept` ties the wallet's few
counters to the whole record: every release is at or below the last signed height, nonce and epoch,
and what the current epoch released is what the wallet says it spent.  Each call keeps it, so the
limits of the policy hold of every run and the wallet always passes its own self-check.
-/

namespace Budlum

open EStateM

open ColdWalletState

/-- A payload that left the wallet, and the request it was made for. -/
structure Release where
  request : SettlementRequest
  payload : Bytes

/-- What a successful call did. -/
inductive ColdEvent where
  | released (r : Release)
  | rotated (old : UInt32)

inductive ColdError where
  | settle (e : ColdSettleError)
  | rotation (e : RotationError)

inductive ColdCall where
  | sign (request : SettlementRequest) (presentedKeyEpoch presentedSignatures : UInt32)
  | signWithQuorum (request : SettlementRequest) (presentedKeyEpoch : UInt32)
      (identities : List SignerIdentity) (signatures : List DeviceSignature)
  | rotateKey (atHeight : UInt64) (reason : String)

def ColdCall.exec (C : Crypto) : ColdCall → EStateM (Fault ColdError) ColdWalletState ColdEvent
  | sign request presentedKeyEpoch presentedSignatures => do
    let payload ← EStateM.mapError (fun e => .fail (.settle (.policy e)))
      (ColdWalletState.sign request presentedKeyEpoch presentedSignatures)
    return .released ⟨request, payload⟩
  | signWithQuorum request presentedKeyEpoch identities signatures => do
    let settlement ← EStateM.mapError (Fault.map .settle)
      (ColdWalletState.signWithQuorum C request presentedKeyEpoch identities signatures)
    return .released ⟨request, settlement.payload⟩
  | rotateKey atHeight reason => do
    let s ← get
    let _ ← EStateM.mapError (fun e => .fail (.rotation e))
      (ColdWalletState.rotateKey atHeight reason)
    return .rotated s.keyEpoch

/-- A wallet, what it released and the key epochs it left behind. -/
structure ColdRun where
  wallet : ColdWalletState
  released : List Release
  rotatedOut : List UInt32

namespace ColdRun

def start (policy : ColdWalletPolicy) : ColdRun := ⟨.new policy, [], []⟩

/-- One call, with its event put on record. -/
def step (C : Crypto) (call : ColdCall) (n : ColdRun) : ColdRun :=
  match (call.exec C).run n.wallet with
  | .ok (.released r) wallet => { n with wallet, released := n.released ++ [r] }
  | .ok (.rotated old) wallet => { n with wallet, rotatedOut := n.rotatedOut ++ [old] }
  | .error _ wallet => { n with wallet }

/-- What the releases of one epoch add up to. -/
def valueIn (epoch : UInt64) (released : List Release) : Nat :=
  ((released.filter fun r => decide (r.request.epoch = epoch)).map fun r =>
    r.request.valueAtoms.val).sum

/-- The limits of the policy hold of everything released so far, and of whatever the next call
does. -/
structure Sound (C : Crypto) (policy : ColdWalletPolicy) (n : ColdRun) : Prop where
  policy_eq : n.wallet.policy = policy
  heights : n.released.Pairwise fun r r' => r.request.height < r'.request.height ∧
    r.request.height.toNat + policy.minHeightAdvance.toNat ≤ r'.request.height.toNat
  nonces : n.released.Pairwise fun r r' => r.request.nonce < r'.request.nonce
  epochs : n.released.Pairwise fun r r' => r.request.epoch ≤ r'.request.epoch
  budget : ∀ epoch, valueIn epoch n.released ≤ policy.maxValuePerEpochAtoms.val
  payloads : (n.released.map Release.payload).Nodup
  /-- What is released next is bound to the key in force, which was not rotated out. -/
  current : ∀ call r wallet, (ColdCall.exec C call).run n.wallet = .ok (.released r) wallet →
    r.payload = payloadFor r.request n.wallet.keyEpoch ∧ n.wallet.keyEpoch ∉ n.rotatedOut
  /-- A call that is refused touches the history only, and the history stays within its limit. -/
  refusal : ∀ call e wallet, (ColdCall.exec C call).run n.wallet = .error e wallet →
    e ≠ .panic ∧ wallet = { n.wallet with refusals := wallet.refusals } ∧
      wallet.refusals.length ≤ policy.refusalHistoryCapacity
  valid : n.wallet.validate = .ok ()

end ColdRun

namespace ColdCall

variable {C : Crypto} {s : ColdWalletState}

theorem exec_ends (call : ColdCall) : (call.exec C).Ends s (fun event s' =>
      (∃ r, event = .released r ∧ r.payload = payloadFor r.request s.keyEpoch ∧
        Signs r.request s s') ∨ (event = .rotated s.keyEpoch ∧ Rotates s s'))
    fun e s' => e ≠ .panic ∧ Refuses s s' := by
  cases call with
  | sign request presentedKeyEpoch presentedSignatures =>
    refine .bind (.mapError (sign_ends.mono (fun _ _ => id) fun err _ h => ?_)) fun _ _ h => ?_
    · exact ⟨nofun, .inr ⟨request, err, h⟩⟩
    · exact .pure (.inl ⟨_, rfl, h.1, h.2.2⟩)
  | signWithQuorum request presentedKeyEpoch identities signatures =>
    refine .bind (.mapError (signWithQuorum_ends.mono (fun _ _ => id) fun e _ h => ?_))
      fun _ _ h => ?_
    · refine ⟨?_, h.2⟩
      cases e with
      | fail e => nofun
      | panic => exact absurd rfl h.1
    · exact .pure (.inl ⟨_, rfl, h⟩)
  | rotateKey atHeight reason =>
    refine .get_bind (.bind (.mapError (rotateKey_ends.mono (fun _ _ => id) fun e _ h => ?_))
      fun _ _ h => ?_)
    · exact ⟨nofun, .inl h⟩
    · exact .pure (.inr ⟨rfl, h⟩)

end ColdCall

namespace ColdWalletState

variable {s s' : ColdWalletState} {request : SettlementRequest}

/-! ### Each kind of change keeps the self-check -/

theorem Refuses.only_refusals (h : Refuses s s')
    (hlen : s.refusals.length ≤ s.policy.refusalHistoryCapacity) :
    s' = { s with refusals := s'.refusals } ∧
      s'.refusals.length ≤ s.policy.refusalHistoryCapacity := by
  rcases h with rfl | ⟨request, err, rfl⟩
  · exact ⟨rfl, hlen⟩
  · exact ⟨recordRefusal_eq request err, length_recordRefusal request err hlen⟩

theorem Refuses.validate (h : Refuses s s') (hs : s.validate = .ok ()) : s'.validate = .ok () := by
  rw [validate_eq_ok] at hs
  obtain ⟨heq, hlen⟩ := h.only_refusals hs.2.2.1
  rw [heq, validate_eq_ok]
  exact ⟨hs.1, hs.2.1, hlen, hs.2.2.2⟩

theorem Signs.validate (h : Signs request s s')
    (hs : s.validate = .ok ()) : s'.validate = .ok () := by
  rw [validate_eq_ok] at hs
  obtain ⟨hpolicy, hkey, hrefusals, hrotations, -, -, hforward, hlast⟩ := hs
  have hbudget : s'.epochSpentAtoms.val ≤ s.policy.maxValuePerEpochAtoms.val := h.spent ▸ h.budget
  have hsigned : s'.signedCount ≠ 0 := by
    intro h0
    have := h.count
    rw [h0] at this
    exact absurd this.symm (Nat.succ_ne_zero _)
  rw [h.after, validate_eq_ok]
  exact ⟨hpolicy, hkey, hrefusals, hrotations, fun h0 => absurd h0 hsigned, hbudget, hforward, hlast⟩

variable {rotations : List KeyRotation} {keyEpoch keyEpoch' : UInt32}

/-- A history that goes forward still does when its key epoch is raised and a newer entry added. -/
theorem validateRotations_append (hkey : keyEpoch < keyEpoch')
    {rotation : KeyRotation} (hnew : rotation.keyEpoch = keyEpoch') (hreason : rotation.reason ≠ "")
    (hbytes : rotation.reason.utf8ByteSize ≤ maxRotationReasonBytes) {previous : UInt32}
    (hprev : previous < keyEpoch') (h : validateRotations keyEpoch previous rotations = .ok ()) :
    validateRotations keyEpoch' previous (rotations ++ [rotation]) = .ok () := by
  induction rotations generalizing previous with
  | nil =>
    simp only [List.nil_append, validateRotations, hnew, hprev, hreason, hbytes, le_refl,
      and_self, ne_eq, not_false_eq_true, decide_true, Except.ok_iff, exists_const]
  | cons r rotations ih =>
    simp only [List.cons_append, validateRotations, Except.ok_iff, exists_const] at h ⊢
    obtain ⟨⟨hlo, hhi⟩, hr, hrb, hrest⟩ := h
    exact ⟨⟨hlo, hhi.trans hkey.le⟩, hr, hrb, ih (lt_of_le_of_lt hhi hkey) hrest⟩

/-- The oldest entry of a history can be dropped. -/
theorem validateRotations_tail
    (h : validateRotations keyEpoch 0 rotations = .ok ()) : validateRotations keyEpoch 0
    rotations.tail = .ok () := by
  cases rotations with
  | nil => exact h
  | cons r rotations =>
    simp only [validateRotations, Except.ok_iff, exists_const] at h
    obtain ⟨⟨hpos, -⟩, -, -, hrest⟩ := h
    cases rotations with
    | nil => rfl
    | cons r' rotations =>
      simp only [List.tail_cons, validateRotations, Except.ok_iff, exists_const] at hrest ⊢
      obtain ⟨⟨hlo, hhi⟩, hrest⟩ := hrest
      exact ⟨⟨hpos.trans hlo, hhi⟩, hrest⟩

theorem Rotates.lt (h : Rotates s s') : s.keyEpoch < s'.keyEpoch :=
  UInt32.lt_iff_toNat_lt.2 (by rw [h.next]; exact Nat.lt_succ_self _)

theorem Rotates.validate (h : Rotates s s') (hs : s.validate = .ok ()) : s'.validate = .ok () := by
  rw [validate_eq_ok] at hs
  obtain ⟨hpolicy, hkey, hrefusals, hrotations, hcounters, hspent, hforward, -⟩ := hs
  obtain ⟨atHeight, reason, hreason, hbytes, hhistory⟩ := h.history
  have hlt := h.lt
  have hpos : 0 < s'.keyEpoch := lt_of_le_of_lt UInt32.zero_le hlt
  set kept := if maxColdRotationHistory ≤ s.rotations.length then s.rotations.tail else s.rotations
    with hkept
  have hkeptForward : validateRotations s.keyEpoch 0 kept = .ok () := by
    rw [hkept]
    split
    · exact validateRotations_tail hforward
    · exact hforward
  have hkeptLen : kept.length < maxColdRotationHistory := by
    rw [hkept]
    have : 0 < maxColdRotationHistory := by decide
    split
    · rw [List.length_tail]; omega
    · omega
  rw [h.after, validate_eq_ok]
  rw [hhistory]
  refine ⟨hpolicy, hpos.ne', hrefusals, ?_, hcounters, hspent, ?_, ?_⟩
  · rw [List.length_append, List.length_singleton]; omega
  · exact validateRotations_append hlt rfl hreason hbytes hpos hkeptForward
  · intro last hlast
    rw [List.getLast?_concat, Option.mem_some_iff] at hlast
    rw [← hlast]

/-- The payload says what was asked and under which key. -/
theorem payloadFor_inj {request' : SettlementRequest}
    (h : payloadFor request keyEpoch = payloadFor request' keyEpoch') :
    request = request' ∧ keyEpoch = keyEpoch' := by
  have hlead : Encoding.Reads ((payloadFor request keyEpoch).length + 1)
      (fun _ : SettlementRequest × UInt32 => textBytes "USL-COLD-SETTLEMENT-V1") fun _ => () :=
    fun _ _ _ _ _ heq => ⟨rfl, List.append_cancel_left heq⟩
  have hreads := hlead |>.next .u64 (fun p => p.1.chainId)
    |>.next .u64 (fun p => p.1.height) |>.next .u64 (fun p => p.1.epoch)
    |>.next .hash (fun p => p.1.globalRoot)
    |>.next Transaction.timestamp_unique (fun p => p.1.valueAtoms)
    |>.next .u64 (fun p => p.1.nonce) |>.next .u32 (fun p => p.2)
  have hparts := (@hreads (request, keyEpoch) (request', keyEpoch') [] []
    (by rw [List.append_nil]; exact Nat.lt_succ_self _)
    (by rw [List.append_nil, List.append_nil]; exact h)).1
  simp only [Prod.mk.injEq, true_and] at hparts
  obtain ⟨⟨⟨⟨⟨⟨hchain, hheight⟩, hepoch⟩, hroot⟩, hvalue⟩, hnonce⟩, hkey⟩ := hparts
  cases request
  cases request'
  cases hchain; cases hheight; cases hepoch; cases hroot; cases hvalue; cases hnonce
  exact ⟨rfl, hkey⟩

end ColdWalletState

namespace ColdRun

variable {C : Crypto} {policy : ColdWalletPolicy} {n : ColdRun}

@[simp] theorem valueIn_nil (epoch : UInt64) : valueIn epoch [] = 0 := rfl

theorem valueIn_concat (epoch : UInt64) (released : List Release) (r : Release) :
    valueIn epoch (released ++ [r]) = valueIn epoch released +
      if r.request.epoch = epoch then r.request.valueAtoms.val else 0 := by
  simp only [valueIn, List.filter_append, List.map_append, List.sum_append]
  split <;> simp [*]

theorem valueIn_eq_zero {epoch : UInt64} {released : List Release}
    (h : ∀ r ∈ released, r.request.epoch ≠ epoch) : valueIn epoch released = 0 := by
  have hnone : (released.filter fun r => decide (r.request.epoch = epoch)) = [] :=
    List.filter_eq_nil_iff.2 fun r hr => by simpa using h r hr
  simp [valueIn, hnone]

/-- The counters of the wallet bound the record of its releases. -/
structure Kept (policy : ColdWalletPolicy) (n : ColdRun) : Prop where
  policy_eq : n.wallet.policy = policy
  valid : n.wallet.validate = .ok ()
  heights : n.released.Pairwise fun r r' => r.request.height < r'.request.height ∧
    r.request.height.toNat + policy.minHeightAdvance.toNat ≤ r'.request.height.toNat
  nonces : n.released.Pairwise fun r r' => r.request.nonce < r'.request.nonce
  epochs : n.released.Pairwise fun r r' => r.request.epoch ≤ r'.request.epoch
  budget : ∀ epoch, valueIn epoch n.released ≤ policy.maxValuePerEpochAtoms.val
  bound : ∀ r ∈ n.released, ∃ keyEpoch, r.payload = payloadFor r.request keyEpoch
  /-- The counters are at or past every release. -/
  counters : ∀ r ∈ n.released, 0 < n.wallet.signedCount ∧
    r.request.height ≤ n.wallet.lastSignedHeight ∧ r.request.nonce ≤ n.wallet.lastSignedNonce ∧
    r.request.epoch ≤ n.wallet.budgetEpoch
  spent : valueIn n.wallet.budgetEpoch n.released = n.wallet.epochSpentAtoms.val
  keys : ∀ old ∈ n.rotatedOut, old < n.wallet.keyEpoch

theorem kept_start (h : policy.validate = .ok ()) : Kept policy (start policy) where
  policy_eq := rfl
  valid := new_validate h
  heights := .nil
  nonces := .nil
  epochs := .nil
  budget _ := Nat.zero_le _
  bound := nofun
  counters := nofun
  spent := rfl
  keys := nofun

variable {wallet : ColdWalletState}

section

variable (h : Kept policy n)

include h

theorem Kept.refused (hrefuses : Refuses n.wallet wallet) : Kept policy
    { n with wallet } := by
  have hvalid := hrefuses.validate h.valid
  obtain ⟨heq, -⟩ := hrefuses.only_refusals (validate_eq_ok.1 h.valid).2.2.1
  generalize wallet.refusals = refusals at heq
  subst heq
  exact { h with valid := hvalid }

theorem Kept.rotated (hrotates : Rotates n.wallet wallet) : Kept policy
    { n with wallet, rotatedOut := n.rotatedOut ++ [n.wallet.keyEpoch] } := by
  have hvalid := hrotates.validate h.valid
  have hlt := hrotates.lt
  have hafter := hrotates.after
  generalize wallet.keyEpoch = keyEpoch at hafter hlt
  generalize wallet.rotations = rotations at hafter
  subst hafter
  refine { h with valid := hvalid, keys := fun old hold => ?_ }
  rcases List.mem_append.1 hold with hold | hold
  · exact (h.keys old hold).trans hlt
  · rwa [List.mem_singleton.1 hold]

/-- What the epoch of a request has released is what the wallet counts against it. -/
theorem Kept.valueIn_epoch {request : SettlementRequest}
    (hepoch : n.wallet.budgetEpoch ≤ request.epoch) :
    valueIn request.epoch n.released = (n.wallet.spentBefore request).val := by
  unfold spentBefore
  split
  · rename_i hsame
    rw [hsame]
    exact h.spent
  · rename_i hnew
    refine valueIn_eq_zero fun r hr heq => hnew ?_
    exact le_antisymm (heq ▸ (h.counters r hr).2.2.2) hepoch

theorem Kept.signed {r : Release}
    (hpayload : r.payload = payloadFor r.request n.wallet.keyEpoch)
    (hsigns : Signs r.request n.wallet wallet) : Kept policy { n with wallet, released := n.released ++ [r] } := by
  have hvalid := hsigns.validate h.valid
  have hvalue : valueIn r.request.epoch (n.released ++ [r]) = wallet.epochSpentAtoms.val := by
    rw [valueIn_concat, if_pos rfl, h.valueIn_epoch hsigns.epoch, hsigns.spent]
  have hbudget : wallet.epochSpentAtoms.val ≤ policy.maxValuePerEpochAtoms.val := by
    rw [hsigns.spent, ← h.policy_eq]
    exact hsigns.budget
  have hcount : 0 < wallet.signedCount :=
    UInt64.lt_iff_toNat_lt.2 (by rw [hsigns.count]; exact Nat.succ_pos _)
  have hpair : ∀ {R : Release → Release → Prop}, n.released.Pairwise R →
      (∀ r' ∈ n.released, R r' r) → (n.released ++ [r]).Pairwise R := fun hold hnew =>
    List.pairwise_append.2 ⟨hold, List.pairwise_singleton _ _, fun r' hr' r'' hr'' =>
      List.mem_singleton.1 hr'' ▸ hnew r' hr'⟩
  have hafter := hsigns.after
  generalize wallet.epochSpentAtoms = spent at *
  generalize wallet.signedCount = count at *
  subst hafter
  exact {
    policy_eq := h.policy_eq
    valid := hvalid
    heights := hpair h.heights fun r' hr' => by
      obtain ⟨hsigned, hheight, -⟩ := h.counters r' hr'
      obtain ⟨hlt, hadvance⟩ := hsigns.height hsigned
      rw [h.policy_eq] at hadvance
      have := UInt64.le_iff_toNat_le.1 hheight
      exact ⟨lt_of_le_of_lt hheight hlt, by omega⟩
    nonces := hpair h.nonces fun r' hr' => lt_of_le_of_lt (h.counters r' hr').2.2.1 hsigns.nonce
    epochs := hpair h.epochs fun r' hr' => (h.counters r' hr').2.2.2.trans hsigns.epoch
    budget := fun epoch => by
      by_cases heq : r.request.epoch = epoch
      · rwa [← heq, hvalue]
      · rw [valueIn_concat, if_neg heq]
        exact h.budget epoch
    bound := fun r' hr' => by
      rcases List.mem_append.1 hr' with hr' | hr'
      · exact h.bound r' hr'
      · rw [List.mem_singleton.1 hr']
        exact ⟨_, hpayload⟩
    counters := fun r' hr' => by
      rcases List.mem_append.1 hr' with hr' | hr'
      · obtain ⟨hsigned, hheight, hnonce, hepoch⟩ := h.counters r' hr'
        exact ⟨hcount, hheight.trans (hsigns.height hsigned).1.le, hnonce.trans hsigns.nonce.le,
          hepoch.trans hsigns.epoch⟩
      · rw [List.mem_singleton.1 hr']
        exact ⟨hcount, le_refl _, le_refl _, le_refl _⟩
    spent := hvalue
    keys := h.keys }

theorem Kept.step (call : ColdCall) : Kept policy (n.step C call) := by
  unfold ColdRun.step
  cases hrun : (call.exec C).run n.wallet with
  | ok event wallet =>
    obtain ⟨r, rfl, hpayload, hsigns⟩ | ⟨rfl, hrotates⟩ := call.exec_ends.1 event wallet hrun
    · exact h.signed hpayload hsigns
    · exact h.rotated hrotates
  | error e wallet => exact h.refused (call.exec_ends.2 e wallet hrun).2

theorem Kept.sound : Sound C policy n where
  policy_eq := h.policy_eq
  heights := h.heights
  nonces := h.nonces
  epochs := h.epochs
  budget := h.budget
  payloads := by
    -- Equal payloads would be for one request, and no two requests share a nonce.
    refine List.pairwise_map.2 (h.nonces.imp_of_mem fun {r r'} hr hr' hlt heq => ?_)
    obtain ⟨keyEpoch, hpayload⟩ := h.bound r hr
    obtain ⟨keyEpoch', hpayload'⟩ := h.bound r' hr'
    rw [hpayload, hpayload'] at heq
    rw [(payloadFor_inj heq).1] at hlt
    exact lt_irrefl _ hlt
  current := by
    intro call r wallet hrun
    refine ⟨?_, fun hold => lt_irrefl _ (h.keys _ hold)⟩
    obtain ⟨r', hevent, hpayload, -⟩ | ⟨hevent, -⟩ := call.exec_ends.1 _ wallet hrun
    · cases hevent
      exact hpayload
    · cases hevent
  refusal := by
    intro call e wallet hrun
    obtain ⟨hpanic, hrefuses⟩ := call.exec_ends.2 e wallet hrun
    exact ⟨hpanic, h.policy_eq ▸ hrefuses.only_refusals (validate_eq_ok.1 h.valid).2.2.1⟩
  valid := h.valid

end

/-- Whatever is asked of a new wallet with a valid policy, it stays within the policy. -/
theorem within_policy (C : Crypto) {policy : ColdWalletPolicy} (h : policy.validate = .ok ())
    (calls : List ColdCall) : ∀ n ∈ Trace.states (step C) calls (start policy), Sound C policy n :=
  fun _ hn => (Trace.states_of_invariant (I := Kept policy) (fun call _ hn => hn.step call)
    (kept_start h) hn).sound

/-- The policy of a small committee. -/
def samplePolicy : ColdWalletPolicy := ⟨7, 1000, 1500, 2, 2, 3, 4⟩

/-- Two settlements with a rotation between them, and a third that would exceed the budget. -/
def sampleCalls : List ColdCall :=
  [.sign ⟨7, 10, 1, 0, 900, 1⟩ 1 2, .rotateKey 11 "scheduled", .sign ⟨7, 12, 1, 0, 600, 2⟩ 2 2,
    .sign ⟨7, 14, 1, 0, 1, 3⟩ 2 3]

def sampleEnd : ColdRun :=
  Trace.final (step Linked.sample.toCrypto) sampleCalls (start samplePolicy)

theorem within_policy_sample :
    sampleEnd.released.length = 2 ∧ sampleEnd.rotatedOut = [1] ∧
      sampleEnd.wallet.refusals = [⟨"epoch-budget-exceeded", 14, 3⟩] ∧
      ∀ n ∈ Trace.states (step Linked.sample.toCrypto) sampleCalls (start samplePolicy),
        Sound Linked.sample.toCrypto samplePolicy n :=
  ⟨by decide +kernel, by decide +kernel, by decide +kernel,
    within_policy Linked.sample.toCrypto rfl sampleCalls⟩

end ColdRun

end Budlum
