import Budlum.Execution.Executor
import Budlum.Lib.Trace

/-!
# Spending private notes

A private transfer takes live commitments out of the note registry and puts the nullifiers it names
into the set of spent ones.  The registry refuses a nullifier that is spent and an input that is not
live or is named twice.  It does not compare the nullifiers of one transfer with each other, and it
forgets a commitment once it is spent.

* `NoteRun.spent_once_iff` : when every note and every nullifier is used once in a run.
-/

namespace Budlum

/-! ### Transfers in the registry -/

namespace L1NoteRegistry

variable {C : Crypto} {r r' : L1NoteRegistry} {c : Hash32} {ins nulls outs : List Hash32}

theorem contains_foldl_insert (l : List Hash32) (m : OrdMap Hash32 Unit) :
    (l.foldl (fun m c => m.insert c ()) m).contains c = true ↔ c ∈ l ∨ m.contains c = true := by
  induction l generalizing m with
  | nil => simp
  | cons x l ih => simp [ih, OrdMap.contains_insert, or_left_comm, or_assoc]

theorem contains_foldl_erase (l : List Hash32) (m : OrdMap Hash32 Unit) :
    (l.foldl (fun m c => m.erase c) m).contains c = true ↔ c ∉ l ∧ m.contains c = true := by
  induction l generalizing m with
  | nil => simp
  | cons x l ih => simp [ih, OrdMap.contains_erase, and_assoc, and_left_comm]

theorem checkInputs_eq_ok {seen : List Hash32} (h : r.checkInputs seen ins = .ok ()) :
    ins.Nodup ∧ ∀ c ∈ ins, c ∉ seen ∧ r.liveCommitments.contains c = true := by
  induction ins generalizing seen with
  | nil => simp
  | cons c ins ih =>
    simp only [checkInputs, Except.ok_iff] at h
    obtain ⟨_, hseen, _, hlive, hrest⟩ := h
    obtain ⟨hnodup, hins⟩ := ih hrest
    refine ⟨List.nodup_cons.2 ⟨fun hc => (hins c hc).1 (List.mem_cons_self ..), hnodup⟩, ?_⟩
    rintro d (_ | ⟨_, hd⟩)
    · exact ⟨by simpa using hseen, hlive⟩
    · exact ⟨fun hd' => (hins d hd).1 (List.mem_cons_of_mem _ hd'), (hins d hd).2⟩

/-- A transfer that the registry has made. -/
structure Transfer (r : L1NoteRegistry) (ins nulls outs : List Hash32) (r' : L1NoteRegistry) :
    Prop where
  length : ins.length = nulls.length
  unspent : ∀ n ∈ nulls, r.spentNullifiers.contains n = false
  nodup : ins.Nodup
  live : ∀ c ∈ ins, r.liveCommitments.contains c = true
  live_after : ∀ c, r'.liveCommitments.contains c = true ↔
    c ∈ outs ∨ c ∉ ins ∧ r.liveCommitments.contains c = true
  spent_after : ∀ n, r'.spentNullifiers.contains n = true ↔
    n ∈ nulls ∨ r.spentNullifiers.contains n = true

theorem Transfer.of_applyTransfer (h : r.applyTransfer C ins nulls outs = .ok r') :
    Transfer r ins nulls outs r' := by
  simp only [applyTransfer, applyTransferWithProofs, Except.ok_iff] at h
  obtain ⟨_, hlength, _, _, _, _, _, _, _, hunspent, _, _, _, _, _, hins, _, _, rfl⟩ := h
  obtain ⟨hnodup, hlive⟩ := checkInputs_eq_ok hins
  exact
    { length := hlength
      unspent := by simpa using hunspent
      nodup := hnodup
      live := fun c hc => (hlive c hc).2
      live_after := fun c => by rw [contains_foldl_insert, contains_foldl_erase]
      spent_after := fun n => contains_foldl_insert nulls _ }

end L1NoteRegistry

/-! ### Transactions -/

namespace Executor

open AccountState EStateM

variable {L : Linked} {domain : ConsensusKind} {tx : Transaction} {s : AccountState}
  {x : Except String L1NoteRegistry} {message : String}

/-- A transaction either puts the result of `x` in place of the note registry, or is refused and
leaves the registry as it is. -/
structure Writes (m : Exec Unit) (s : AccountState) (x : Except String L1NoteRegistry) : Prop where
  done : m.Ensures s fun _ s' => x = .ok s'.noteRegistry
  refused : m.Fails s fun _ s' => s'.noteRegistry = s.noteRegistry

theorem Writes.of_ends {m : Exec Unit} (h : m.Ends s (fun _ s' => x = .ok s'.noteRegistry)
    fun _ s' => s'.noteRegistry = s.noteRegistry) : Writes m s x :=
  ⟨h.1, h.2⟩

/-- A fee that the balance covers is charged without fail. -/
theorem chargeFee_ends (hfee : tx.fee ≤ s.getBalance tx.sender) : (chargeFee tx message).Ends s
    (fun _ s' => s'.noteRegistry = s.noteRegistry) fun _ _ => False := by
  refine .bind (P := fun _ s' => s'.noteRegistry = s.noteRegistry) ?_ fun _ _ h => .modify h
  refine .modify_bind <| .get_bind <| .ofExcept_bind (fun e he => ?_) fun _ _ => .modify rfl
  rw [Except.ofOption_eq_error, getBalance_touch, UInt64.checkedSub_eq_none] at he
  exact absurd he.1 (by rw [UInt64.le_iff_toNat_le] at hfee; omega)

theorem writes_chargeFee {code : String} (hfee : tx.fee ≤ s.getBalance tx.sender) :
    (do
      let r ← lift code id x
      modify (fun s : AccountState => { s with noteRegistry := r })
      chargeFee tx message : Exec Unit).Ends s (fun _ s' => x = .ok s'.noteRegistry)
        fun _ s' => s'.noteRegistry = s.noteRegistry := by
  refine .ofExcept_bind (fun _ _ => rfl) fun r hr => .modify_bind ?_
  refine Ends.mono (chargeFee_ends hfee) (fun _ s' h => ?_) fun _ _ => False.elim
  rw [Except.mapError_eq_ok.1 hr, h]

variable (tx)

theorem applyPrivacyNoteInsert_writes (c : Hash32) (hfee : tx.fee ≤ s.getBalance tx.sender) :
    Writes (applyPrivacyNoteInsert tx c) s (s.noteRegistry.insertNote c) := by
  exact .of_ends <| .ensure_bind (fun _ => rfl) fun _ => .ensure_bind (fun _ => rfl) fun _ =>
    .get_bind (writes_chargeFee hfee)

theorem applyPrivateTransferSubmit_writes (t : PrivateTransferSubmit)
    (hfee : tx.fee ≤ s.getBalance tx.sender) :
    Writes (applyPrivateTransferSubmit L tx t) s (s.noteRegistry.applyTransfer L.toCrypto
      t.spentCommitments t.nullifiers t.outputCommitments) := by
  exact .of_ends <| .ensure_bind (fun _ => rfl) fun _ => .ofExcept_bind (fun _ _ => rfl) fun _ _ =>
    .ensure_bind (fun _ => rfl) fun _ => .ensure_bind (fun _ => rfl) fun _ =>
      .get_bind (writes_chargeFee hfee)

abbrev ofKind (tx : Transaction) (kind : TransactionType) : Transaction := { tx with txType := kind }

theorem fee_le_totalCost : tx.fee ≤ tx.totalCost := by
  rw [UInt64.le_iff_toNat_le, Transaction.totalCost, UInt64.toNat_saturatingAdd]
  have := tx.fee.toNat_lt
  omega

variable {tx}

/-- What the checks before a transaction of these kinds leave of it: the sender can pay. -/
theorem applyTransactionChecked_writes (kind : TransactionType)
    (hkind : kind ≠ .unstake ∧ kind ≠ .vote) (hsender : tx.sender ≠ Address.zero)
    (x : L1NoteRegistry → Except String L1NoteRegistry)
    (h : ∀ s : AccountState, tx.fee ≤ s.getBalance tx.sender →
      Writes (applyKind L (ofKind tx kind) domain) s (x s.noteRegistry)) :
    Writes (applyTransactionChecked L (ofKind tx kind) domain) s (x s.noteRegistry) := by
  have hfloor : checkFloor (ofKind tx kind) = pure () := by
    cases kind <;> first | rfl | simp at hkind
  have hliquid : liquidCost (ofKind tx kind) = tx.totalCost := by
    cases kind <;> first | rfl | simp at hkind
  rw [applyTransactionChecked, if_neg hsender, hfloor, hliquid]
  refine .of_ends <| .get_bind <| .ensure_bind (fun _ => rfl) fun _ => ?_
  rw [pure_bind]
  -- opening the sender's account is no write to the notes
  refine .modify_bind <| .get_bind <| .ensure_bind (fun _ => rfl) fun hbalance => ?_
  have hwrites := h (s.touch tx.sender)
    (le_trans (fee_le_totalCost tx) (of_decide_eq_true hbalance))
  exact ⟨hwrites.done, hwrites.refused⟩

theorem privacyNoteInsert_writes (c : Hash32) (hsender : tx.sender ≠ Address.zero) :
    Writes (applyTransactionChecked L (ofKind tx (.privacyNoteInsert c)) domain) s
      (s.noteRegistry.insertNote c) :=
  applyTransactionChecked_writes (.privacyNoteInsert c) (by simp) hsender (·.insertNote c)
    fun _ hfee => applyPrivacyNoteInsert_writes (ofKind tx _) c hfee

theorem privateTransferSubmit_writes (t : PrivateTransferSubmit)
    (hsender : tx.sender ≠ Address.zero) :
    Writes (applyTransactionChecked L (ofKind tx (.privateTransferSubmit t)) domain) s
      (s.noteRegistry.applyTransfer L.toCrypto t.spentCommitments t.nullifiers t.outputCommitments) :=
  applyTransactionChecked_writes (.privateTransferSubmit t) (by simp) hsender
    (·.applyTransfer L.toCrypto t.spentCommitments t.nullifiers t.outputCommitments)
    fun _ hfee => applyPrivateTransferSubmit_writes (ofKind tx _) t hfee

end Executor

/-! ### Runs -/

inductive NoteCall where
  /-- `insert_note` on the registry itself. -/
  | insert (c : Hash32)
  | insertTx (tx : Transaction) (c : Hash32)
  | transferTx (tx : Transaction) (t : PrivateTransferSubmit)

/-- A state, the notes that were spent in it with the nullifiers named for them, and the notes that
were made again after they had been spent. -/
structure NoteRun where
  s : AccountState
  spends : List (Hash32 × Hash32) := []
  remade : List Hash32 := []

namespace NoteRun

open Executor

variable (L : Linked) (domain : ConsensusKind) (n : NoteRun)

/-- Any state, with no notes yet. -/
def start (s : AccountState) : NoteRun := { s := { s with noteRegistry := {} } }

def spentNotes : List Hash32 := n.spends.map Prod.fst

def usedNullifiers : List Hash32 := n.spends.map Prod.snd

/-- The run after notes were made. -/
def made (s : AccountState) (notes : List Hash32) : NoteRun :=
  { n with s := s, remade := n.remade ++ notes.filter fun c => decide (c ∈ n.spentNotes) }

/-- The run after the inputs of a transfer were spent, each with the nullifier in its place. -/
def spent (t : PrivateTransferSubmit) : NoteRun :=
  { n with spends := n.spends ++ t.spentCommitments.zip t.nullifiers }

/-- A transaction that went through and had an effect. -/
def applied (tx : Transaction) (kind : TransactionType) : Bool :=
  (applyTransactionChecked L (ofKind tx kind) domain).succeeds n.s && decide (tx.sender ≠ Address.zero)

/-- The state a transaction leaves; a refused one is not rolled back. -/
def after (tx : Transaction) (kind : TransactionType) : AccountState :=
  (applyTransactionChecked L (ofKind tx kind) domain).final n.s

def step : NoteCall → NoteRun → NoteRun
  | .insert c, n =>
    match n.s.noteRegistry.insertNote c with
    | .ok r => n.made { n.s with noteRegistry := r } [c]
    | .error _ => n
  | .insertTx tx c, n =>
    if n.applied L domain tx (.privacyNoteInsert c) then
      n.made (n.after L domain tx (.privacyNoteInsert c)) [c]
    else { n with s := n.after L domain tx (.privacyNoteInsert c) }
  | .transferTx tx t, n =>
    if n.applied L domain tx (.privateTransferSubmit t) then
      (n.spent t).made (n.after L domain tx (.privateTransferSubmit t)) t.outputCommitments
    else { n with s := n.after L domain tx (.privateTransferSubmit t) }

/-- Every nullifier was used for one note, no note was spent twice, and a transfer that is refused
now leaves the registry as it is. -/
structure SpentOnce : Prop where
  nullifiers : n.usedNullifiers.Nodup
  notes : n.spentNotes.Nodup
  refused : ∀ tx t, n.applied L domain tx (.privateTransferSubmit t) = false →
    (n.after L domain tx (.privateTransferSubmit t)).noteRegistry = n.s.noteRegistry

/-- A transfer that goes through names its nullifiers once, and spends no note that was made again. -/
def Orderly : NoteCall → NoteRun → Prop
  | .insert _, _ => True
  | .insertTx _ _, _ => True
  | .transferTx tx t, n => n.applied L domain tx (.privateTransferSubmit t) = true →
      t.nullifiers.Nodup ∧ ∀ c ∈ t.spentCommitments, c ∉ n.remade

/-- What the registry holds against the record. -/
structure Recorded : Prop where
  used : ∀ x ∈ n.usedNullifiers, n.s.noteRegistry.spentNullifiers.contains x = true
  live : ∀ c ∈ n.spentNotes, n.s.noteRegistry.liveCommitments.contains c = true → c ∈ n.remade
  remade : ∀ c ∈ n.remade, c ∈ n.spentNotes

variable {L domain n} {tx : Transaction} {kind : TransactionType}

/-- What a transaction that writes notes has done, by whether it had an effect. -/
theorem noteRegistry_after {x : Except String L1NoteRegistry}
    (h : tx.sender ≠ Address.zero →
      Writes (applyTransactionChecked L (ofKind tx kind) domain) n.s x) :
    (n.applied L domain tx kind = true → x = .ok (n.after L domain tx kind).noteRegistry) ∧
      (n.applied L domain tx kind = false →
        (n.after L domain tx kind).noteRegistry = n.s.noteRegistry) := by
  by_cases hsender : tx.sender = Address.zero
  · -- the zero address gets through without effect
    have hleaves : (applyTransactionChecked L (ofKind tx kind) domain).Leaves n.s (· = n.s) := by
      rw [applyTransactionChecked, if_pos hsender]
      exact ⟨EStateM.ensures_ensure.2 fun _ => rfl, EStateM.fails_ensure.2 fun _ => rfl⟩
    have hidle : n.after L domain tx kind = n.s := hleaves.final
    simp [applied, hsender, hidle]
  · have hwrites := h hsender
    cases hrun : (applyTransactionChecked L (ofKind tx kind) domain).run n.s with
    | ok a s' =>
      have hdone := hwrites.done a s' hrun
      simp [applied, after, EStateM.succeeds, EStateM.final, hrun, hsender, hdone]
    | error e s' =>
      have hrefused := hwrites.refused e s' hrun
      simp [applied, after, EStateM.succeeds, EStateM.final, hrun, hrefused]

variable {s' : AccountState}

theorem Recorded.made {notes : List Hash32} (hremade : ∀ c ∈ n.remade, c ∈ n.spentNotes)
    (hused : ∀ x ∈ n.usedNullifiers, s'.noteRegistry.spentNullifiers.contains x = true)
    (hlive : ∀ c ∈ n.spentNotes, s'.noteRegistry.liveCommitments.contains c = true →
      c ∈ notes ∨ c ∈ n.remade) : (n.made s' notes).Recorded := by
  refine ⟨hused, fun c hc hlive' => ?_, fun c hc => ?_⟩
  · rcases hlive c hc hlive' with hnew | hold
    · exact List.mem_append_right _ (List.mem_filter.2 ⟨hnew, decide_eq_true hc⟩)
    · exact List.mem_append_left _ hold
  · rcases List.mem_append.1 hc with hold | hnew
    · exact hremade c hold
    · exact of_decide_eq_true (List.mem_filter.1 hnew).2

/-- A note that was inserted is one more live commitment. -/
theorem recorded_inserted {r : L1NoteRegistry} {c : Hash32} (h : n.Recorded)
    (hinsert : n.s.noteRegistry.insertNote c = .ok r) (hs' : s'.noteRegistry = r) :
    (n.made s' [c]).Recorded := by
  simp only [L1NoteRegistry.insertNote, Except.ok_iff] at hinsert
  obtain ⟨_, _, _, _, rfl⟩ := hinsert
  refine .made h.remade (by rw [hs']; exact h.used) fun d hd hlive => ?_
  rw [hs', OrdMap.contains_insert, Bool.or_eq_true, decide_eq_true_eq] at hlive
  rcases hlive with rfl | hlive
  · exact .inl (List.mem_singleton_self _)
  · exact .inr (h.live d hd hlive)

/-- The call keeps the record, and keeps everything spent once exactly if it is orderly. -/
structure Settles (L : Linked) (domain : ConsensusKind) (call : NoteCall) (n : NoteRun) : Prop where
  recorded : (step L domain call n).Recorded
  spentOnce_iff : n.SpentOnce L domain →
    ((step L domain call n).SpentOnce L domain ↔ Orderly L domain call n)

theorem insertTx_after (L : Linked) (domain : ConsensusKind) (n : NoteRun) (tx : Transaction) (c : Hash32) :
    (n.applied L domain tx (.privacyNoteInsert c) = true → n.s.noteRegistry.insertNote c =
      .ok (n.after L domain tx (.privacyNoteInsert c)).noteRegistry) ∧
    (n.applied L domain tx (.privacyNoteInsert c) = false →
      (n.after L domain tx (.privacyNoteInsert c)).noteRegistry = n.s.noteRegistry) :=
  noteRegistry_after fun hsender => privacyNoteInsert_writes c hsender

theorem transferTx_after (L : Linked) (domain : ConsensusKind) (n : NoteRun) (tx : Transaction)
    (t : PrivateTransferSubmit) :
    (n.applied L domain tx (.privateTransferSubmit t) = true →
      n.s.noteRegistry.applyTransfer L.toCrypto t.spentCommitments t.nullifiers t.outputCommitments =
        .ok (n.after L domain tx (.privateTransferSubmit t)).noteRegistry) ∧
    (n.applied L domain tx (.privateTransferSubmit t) = false →
      (n.after L domain tx (.privateTransferSubmit t)).noteRegistry = n.s.noteRegistry) :=
  noteRegistry_after fun hsender => privateTransferSubmit_writes t hsender

theorem spentOnce_iff : n.SpentOnce L domain ↔ n.usedNullifiers.Nodup ∧ n.spentNotes.Nodup :=
  ⟨fun h => ⟨h.nullifiers, h.notes⟩, fun h => ⟨h.1, h.2, fun tx t => (transferTx_after L domain n tx t).2⟩⟩

theorem recorded_of_noteRegistry (h : n.Recorded) (hs' : s'.noteRegistry = n.s.noteRegistry) :
    Recorded { n with s := s' } :=
  ⟨by rw [hs']; exact h.used, by rw [hs']; exact h.live, h.remade⟩

/-- A call that spends nothing. -/
theorem settles_of_spends {call : NoteCall} (hrecorded : (step L domain call n).Recorded)
    (hspends : (step L domain call n).spends = n.spends) (horderly : Orderly L domain call n) :
    Settles L domain call n := by
  refine ⟨hrecorded, fun h => iff_of_true ?_ horderly⟩
  rw [spentOnce_iff] at h ⊢
  simpa only [usedNullifiers, spentNotes, hspends] using h

theorem settles_insert (c : Hash32) (h : n.Recorded) : Settles L domain (.insert c) n := by
  refine settles_of_spends ?_ ?_ trivial
  · simp only [step]
    split
    · next r hinsert => exact recorded_inserted h hinsert rfl
    · exact h
  · simp only [step]
    split <;> rfl

variable (tx)

theorem settles_insertTx (c : Hash32) (h : n.Recorded) : Settles L domain (.insertTx tx c) n := by
  have hafter := insertTx_after L domain n tx c
  refine settles_of_spends ?_ ?_ trivial
  · simp only [step]
    split_ifs with happlied
    · exact recorded_inserted h (hafter.1 happlied) rfl
    · exact recorded_of_noteRegistry h (hafter.2 (by simpa using happlied))
  · simp only [step]
    split_ifs <;> rfl

/-- A transfer that goes through: the registry has compared its nullifiers with those used before and
its inputs with each other. -/
theorem settles_transferred (t : PrivateTransferSubmit) (h : n.Recorded)
    (happlied : n.applied L domain tx (.privateTransferSubmit t) = true) :
    Settles L domain (.transferTx tx t) n := by
  have htransfer := L1NoteRegistry.Transfer.of_applyTransfer
    ((transferTx_after L domain n tx t).1 happlied)
  have hnotes : (n.spent t).spentNotes = n.spentNotes ++ t.spentCommitments := by
    simp [spent, spentNotes, List.map_fst_zip htransfer.length.le]
  have hnullifiers : (n.spent t).usedNullifiers = n.usedNullifiers ++ t.nullifiers := by
    simp [spent, usedNullifiers, List.map_snd_zip htransfer.length.ge]
  have hstep : step L domain (.transferTx tx t) n = (n.spent t).made
      (n.after L domain tx (.privateTransferSubmit t)) t.outputCommitments := by
    rw [step, if_pos happlied]
  constructor
  · rw [hstep]
    refine .made (fun c hc => ?_) (fun x hx => ?_) fun c hc hlive => ?_
    · rw [hnotes]
      exact List.mem_append_left _ (h.remade c hc)
    · rw [hnullifiers, List.mem_append] at hx
      exact (htransfer.spent_after x).2 (hx.symm.imp_right (h.used x))
    · -- a note that is live now was either made by this transfer or not spent by it
      rcases (htransfer.live_after c).1 hlive with hout | ⟨hin, hlive⟩
      · exact .inl hout
      · rw [hnotes, List.mem_append] at hc
        exact .inr (h.live c (hc.resolve_right hin) hlive)
  · intro honce
    rw [hstep, spentOnce_iff]
    rw [spentOnce_iff] at honce
    change (n.spent t).usedNullifiers.Nodup ∧ (n.spent t).spentNotes.Nodup ↔ _
    rw [hnotes, hnullifiers, List.nodup_append, List.nodup_append]
    simp only [Orderly, happlied, forall_true_left, honce.1, honce.2, htransfer.nodup, true_and]
    constructor
    · rintro ⟨⟨hnodup, -⟩, hapart⟩
      exact ⟨hnodup, fun c hc hremade => hapart c (h.remade c hremade) c hc rfl⟩
    · rintro ⟨hnodup, hremade⟩
      refine ⟨⟨hnodup, ?_⟩, ?_⟩
      · rintro x hx _ hx' rfl
        have hused := h.used x hx
        rw [htransfer.unspent x hx'] at hused
        cases hused
      · rintro c hc _ hc' rfl
        exact hremade c hc' (h.live c hc (htransfer.live c hc'))

theorem settles_transferTx (t : PrivateTransferSubmit) (h : n.Recorded) :
    Settles L domain (.transferTx tx t) n := by
  cases happlied : n.applied L domain tx (.privateTransferSubmit t) with
  | true => exact settles_transferred tx t h happlied
  | false =>
    have hstep : step L domain (.transferTx tx t) n =
        { n with s := n.after L domain tx (.privateTransferSubmit t) } := by
      rw [step, happlied]
      rfl
    refine settles_of_spends ?_ ?_ ?_
    · rw [hstep]
      exact recorded_of_noteRegistry h ((transferTx_after L domain n tx t).2 happlied)
    · rw [hstep]
    · exact fun happlied' => absurd happlied' (by simp [happlied])

variable {tx}

theorem settles_call (call : NoteCall) (h : n.Recorded) : Settles L domain call n := by
  cases call with
  | insert c => exact settles_insert c h
  | insertTx tx c => exact settles_insertTx tx c h
  | transferTx tx t => exact settles_transferTx tx t h

/-- **Notes and nullifiers are used once exactly along orderly runs**, from any state with an empty
note registry; a transfer that is refused changes nothing in any case. -/
theorem spent_once_iff (L : Linked) (domain : ConsensusKind) (calls : List NoteCall)
    (s : AccountState) :
    (∀ n ∈ Trace.states (step L domain) calls (start s), n.SpentOnce L domain) ↔
      Trace.Guarded (step L domain) (Orderly L domain) calls (start s) := by
  refine Trace.forall_states_iff (I := Recorded) (fun call n h => (settles_call call h).recorded)
    (fun call n h => (settles_call call h).spentOnce_iff) calls ?_ ?_
  · exact ⟨by simp [start, usedNullifiers], by simp [start, spentNotes], by simp [start]⟩
  · exact spentOnce_iff.2 (by simp [start, usedNullifiers, spentNotes])

/-- A hash that packs a small field element. -/
def noteHash (k : Nat) : Hash32 := Fin.ofNat _ (k * 2 ^ 248)

/-- A transfer that the links of the examples take. -/
def sampleTransfer (ins nulls outs : List Nat) : NoteCall :=
  .transferTx (Transaction.sample 7 0 .transfer)
    ⟨ins.map noteHash, nulls.map noteHash, outs.map noteHash, List.replicate 64 0, 1⟩

/-- A state in which the sender can pay. -/
def sampleState : AccountState := ({} : AccountState).setBalance 7 100

/-- One transfer names one nullifier for both of its inputs. -/
def sharedNullifier : List NoteCall :=
  [.insert (noteHash 1), .insert (noteHash 2), sampleTransfer [1, 2] [3, 3] [4]]

/-- A note is spent, inserted again and spent again. -/
def remadeNote : List NoteCall :=
  [.insert (noteHash 1), sampleTransfer [1] [2] [3], .insert (noteHash 1), sampleTransfer [1] [4] [5]]

/-- **Notes can be spent twice and nullifiers used twice.** -/
theorem spent_twice :
    ¬(Trace.final (step .sample .poA) sharedNullifier (start sampleState)).usedNullifiers.Nodup ∧
      ¬(Trace.final (step .sample .poA) remadeNote (start sampleState)).spentNotes.Nodup := by
  decide +kernel

end NoteRun

end Budlum
