import Mathlib

/-!
# Fallible computations that keep their state

Programs that change a state in place and can stop with an error leave behind whatever they wrote
before the error.  They are `EStateM ε σ`: a run ends in `ok` or `error`, each with the state
reached.  This file fixes the small vocabulary such programs are written in (`ensure`, `orThrow`,
`ofExcept`) and one predicate, `Ensures`, for what holds after a successful run, with a rule for
every building block.

An error is either a value the program returns (`Fault.fail`) or a failed runtime check that
stops the process (`Fault.panic`).
-/

/-- How a computation can stop early. -/
inductive Fault (ε : Type*) where
  /-- The program returned an error. -/
  | fail (e : ε)
  /-- A runtime check failed and the process stopped. -/
  | panic
  deriving DecidableEq, Repr

/-- Change the error that is returned. -/
def Fault.map {ε ε' : Type*} (f : ε → ε') : Fault ε → Fault ε'
  | fail e => fail (f e)
  | panic => panic

namespace Except

variable {ε α β : Type}

/-- Continue only if the condition holds. -/
def ensure (b : Bool) (e : ε) : Except ε Unit := if b then .ok () else .error e

/-- The value of an option, or an error. -/
def ofOption (o : Option α) (e : ε) : Except ε α :=
  match o with
  | some a => .ok a
  | none => .error e

/-- The error is returned, the process goes on. -/
def orFail (x : Except ε α) : Except (Fault ε) α :=
  match x with
  | .ok a => .ok a
  | .error e => .error (.fail e)

theorem exists_ok {x : Except ε α} (h : x.toBool) : ∃ a, x = .ok a := by
  cases x with
  | error e => cases h
  | ok a => exact ⟨a, rfl⟩

@[simp] theorem orFail_eq_ok {x : Except ε α} {a : α} : x.orFail = .ok a ↔ x = .ok a := by
  cases x <;> simp [orFail]

@[simp] theorem bind_eq_ok {x : Except ε α} {f : α → Except ε β} {b : β} :
    (x >>= f) = .ok b ↔ ∃ a, x = .ok a ∧ f a = .ok b := by
  cases x with
  | error e => simp [bind, Except.bind]
  | ok a => simp [bind, Except.bind]

@[simp] theorem ensure_eq_ok {b : Bool} {e : ε} {u : Unit} : ensure b e = .ok u ↔ b = true := by
  cases b <;> simp [ensure]

@[simp] theorem ofOption_eq_ok {o : Option α} {e : ε} {a : α} :
    ofOption o e = .ok a ↔ o = some a := by
  cases o <;> simp [ofOption]

theorem bind_eq_error {x : Except ε α} {f : α → Except ε β} {e : ε} :
    (x >>= f) = .error e ↔ x = .error e ∨ ∃ a, x = .ok a ∧ f a = .error e := by
  cases x with
  | error e => simp [bind, Except.bind]
  | ok a => simp [bind, Except.bind]

theorem ensure_eq_error {b : Bool} {e e' : ε} : ensure b e = .error e' ↔ b = false ∧ e = e' := by
  cases b <;> simp [ensure]

theorem ofOption_eq_error {o : Option α} {e e' : ε} :
    ofOption o e = .error e' ↔ o = none ∧ e = e' := by
  cases o <;> simp [ofOption]

@[simp] theorem pure_eq_ok {a b : α} : (pure a : Except ε α) = .ok b ↔ a = b := by
  simp [pure, Except.pure]

@[simp] theorem mapError_eq_ok {ε' : Type} {x : Except ε α} {f : ε → ε'} {a : α} :
    x.mapError f = .ok a ↔ x = .ok a := by
  cases x <;> simp [Except.mapError]

theorem forM_eq_ok {f : α → Except ε Unit} {l : List α} :
    l.forM f = .ok () ↔ ∀ a ∈ l, f a = .ok () := by
  induction l with
  | nil => exact iff_of_true rfl (by simp)
  | cons a l ih =>
    rw [List.forall_mem_cons, ← ih]
    exact bind_eq_ok.trans ⟨fun ⟨_, h⟩ => h, fun h => ⟨(), h⟩⟩

theorem mapM_eq_ok {f : α → Except ε β} {g : α → β} {l : List α} (h : ∀ a ∈ l, f a = .ok (g a)) :
    l.mapM f = .ok (l.map g) := by
  induction l with
  | nil => rfl
  | cons a l ih =>
    rw [List.mapM_cons, h a (.head _), ih fun b hb => h b (.tail _ hb)]
    rfl

/-- How a computation succeeds: the rules above as one, for `simp`. -/
theorem ok_iff :
    (∀ {ε α β : Type} {x : Except ε α} {f : α → Except ε β} {b : β},
      (x >>= f) = .ok b ↔ ∃ a, x = .ok a ∧ f a = .ok b) ∧
    (∀ {ε : Type} {b : Bool} {e : ε} {u : Unit}, ensure b e = .ok u ↔ b = true) ∧
    (∀ {ε α : Type} {o : Option α} {e : ε} {a : α}, ofOption o e = .ok a ↔ o = some a) ∧
    (∀ {ε α : Type} {a b : α}, (pure a : Except ε α) = .ok b ↔ a = b) ∧
    (∀ {p : Prop} [Decidable p], decide p = true ↔ p) ∧
    ∀ {α β : Type} {a c : α} {b d : β}, (a, b) = (c, d) ↔ a = c ∧ b = d :=
  ⟨bind_eq_ok, ensure_eq_ok, ofOption_eq_ok, pure_eq_ok, decide_eq_true_iff, .of_eq (Prod.mk.injEq ..)⟩

end Except

namespace EStateM

variable {ε σ α β : Type} {a : α} {s' : σ}

/-- The outcome of a run; the state of a failed one is dropped. -/
def exec (m : EStateM ε σ α) (s : σ) : Except ε (α × σ) :=
  match m.run s with
  | .ok a s' => .ok (a, s')
  | .error e _ => .error e

@[simp] theorem exec_eq_ok {m : EStateM ε σ α} {s : σ} :
    m.exec s = .ok (a, s') ↔ m.run s = .ok a s' := by
  unfold exec
  cases m.run s <;> simp

theorem exec_eq_error {m : EStateM ε σ α} {s : σ} {e : ε} :
    m.exec s = .error e ↔ ∃ s', m.run s = .error e s' := by
  unfold exec
  cases m.run s <;> simp

/-- Continue only if the condition holds. -/
def ensure (b : Bool) (e : ε) : EStateM ε σ Unit := if b then pure () else throw e

/-- The value of an option, or an error. -/
def orThrow (o : Option α) (e : ε) : EStateM ε σ α :=
  match o with
  | some a => pure a
  | none => throw e

/-- Lift a computation that does not touch the state. -/
def ofExcept (x : Except ε α) : EStateM ε σ α :=
  match x with
  | .ok a => pure a
  | .error e => throw e

/-- Whenever `m` succeeds from `s`, its value and final state satisfy `Q`. -/
def Ensures (m : EStateM ε σ α) (s : σ) (Q : α → σ → Prop) : Prop :=
  ∀ a s', m.run s = .ok a s' → Q a s'

variable {m m' : EStateM ε σ α} {f : α → EStateM ε σ β} {s t : σ} {e : ε} {o : Option α}
  {x : Except ε α} {Q Q' : α → σ → Prop} {E : ε → σ → Prop} {c : Prop} [Decidable c] {g : σ → σ}
  {b : Bool} {I : List α → σ → Prop} {l : List α}

theorem Ensures.mono (h : m.Ensures s Q) (hQ : ∀ a s', Q a s' → Q' a s') : m.Ensures s Q' :=
  fun a s' hrun => hQ a s' (h a s' hrun)

theorem Ensures.and (h : m.Ensures s Q) (h' : m.Ensures s Q') :
    m.Ensures s fun a s' => Q a s' ∧ Q' a s' :=
  fun a s' hrun => ⟨h a s' hrun, h' a s' hrun⟩

theorem ensures_of_ok (h : m.run s = .ok a s') : m.Ensures s Q ↔ Q a s' := by
  simp only [Ensures, h]
  exact ⟨fun hQ => hQ a s' rfl, by rintro hQ _ _ ⟨⟩; exact hQ⟩

theorem ensures_of_error (h : m.run s = .error e s') : m.Ensures s Q := fun _ _ hrun => by
  cases h.symm.trans hrun

@[simp] theorem ensures_pure : (pure a : EStateM ε σ α).Ensures s Q ↔ Q a s :=
  ensures_of_ok rfl

@[simp] theorem ensures_bind {Q : β → σ → Prop} :
    (m >>= f).Ensures s Q ↔ m.Ensures s fun a s' => (f a).Ensures s' Q := by
  cases hm : m.run s with
  | ok a s' =>
    rw [ensures_of_ok hm]
    simp only [Ensures, run_bind, hm]
  | error e s' => exact iff_of_true (ensures_of_error (by rw [run_bind, hm])) (ensures_of_error hm)

@[simp] theorem ensures_map {g : α → β} {Q : β → σ → Prop} :
    (g <$> m).Ensures s Q ↔ m.Ensures s fun a s' => Q (g a) s' := by
  rw [map_eq_pure_bind, ensures_bind]
  simp only [ensures_pure]

@[simp] theorem ensures_throw : (throw e : EStateM ε σ α).Ensures s Q := ensures_of_error rfl

@[simp] theorem ensures_get {Q : σ → σ → Prop} : (get : EStateM ε σ σ).Ensures s Q ↔ Q s s :=
  ensures_of_ok rfl

@[simp] theorem ensures_set {Q : PUnit → σ → Prop} :
    (set t : EStateM ε σ PUnit).Ensures s Q ↔ Q ⟨⟩ t :=
  ensures_of_ok rfl

@[simp] theorem ensures_modify {Q : PUnit → σ → Prop} :
    (modify g : EStateM ε σ PUnit).Ensures s Q ↔ Q ⟨⟩ (g s) :=
  ensures_of_ok rfl

@[simp] theorem ensures_ensure {Q : Unit → σ → Prop} :
    (ensure b e : EStateM ε σ Unit).Ensures s Q ↔ (b = true → Q () s) := by
  cases b <;> simp [ensure]

@[simp] theorem ensures_orThrow :
    (orThrow o e : EStateM ε σ α).Ensures s Q ↔ ∀ a, o = some a → Q a s := by
  cases o <;> simp [orThrow]

@[simp] theorem ensures_ofExcept :
    (ofExcept x : EStateM ε σ α).Ensures s Q ↔ ∀ a, x = .ok a → Q a s := by
  cases x <;> simp [ofExcept]

theorem ensures_ite :
    (if c then m else m').Ensures s Q ↔ (c → m.Ensures s Q) ∧ (¬c → m'.Ensures s Q) := by
  split <;> simp_all

theorem ensures_optionForM {f : α → EStateM ε σ PUnit} {Q : PUnit → σ → Prop}
    (hnone : Q ⟨⟩ s) (hsome : ∀ a, o = some a → (f a).Ensures s Q) : (o.forM f).Ensures s Q := by
  cases o with
  | none => exact ensures_pure.2 hnone
  | some a => exact hsome a rfl

/-- A loop over a list keeps what it is going to do in its invariant. -/
theorem ensures_listForM {f : α → EStateM ε σ PUnit}
    (hstep : ∀ x l s, I (x :: l) s → (f x).Ensures s fun _ s' => I l s') (h : I l s) :
    (l.forM f).Ensures s fun _ s' => I [] s' := by
  induction l generalizing s with
  | nil => exact ensures_pure.2 h
  | cons x l ih => exact ensures_bind.2 ((hstep x l s h).mono fun _ _ => ih)

/-! ### Rules for the head of a sequence -/

namespace Ensures

variable {Q : β → σ → Prop}

theorem bind {P : α → σ → Prop} (hm : m.Ensures s P)
    (hf : ∀ a s', P a s' → (f a).Ensures s' Q) : (m >>= f).Ensures s Q :=
  ensures_bind.2 (hm.mono hf)

theorem get_bind {f : σ → EStateM ε σ β} (h : (f s).Ensures s Q) : (get >>= f).Ensures s Q :=
  ensures_bind.2 (ensures_get.2 h)

theorem set_bind {f : PUnit → EStateM ε σ β} (h : (f ⟨⟩).Ensures t Q) : (set t >>= f).Ensures s Q :=
  ensures_bind.2 (ensures_set.2 h)

theorem modify_bind {f : PUnit → EStateM ε σ β} (h : (f ⟨⟩).Ensures (g s) Q) :
    ((modify g : EStateM ε σ PUnit) >>= f).Ensures s Q :=
  ensures_bind.2 (ensures_modify.2 h)

theorem ensure_bind {f : Unit → EStateM ε σ β} (h : b = true → (f ()).Ensures s Q) :
    (ensure b e >>= f).Ensures s Q :=
  ensures_bind.2 (ensures_ensure.2 h)

theorem orThrow_bind (h : ∀ a, o = some a → (f a).Ensures s Q) : (orThrow o e >>= f).Ensures s Q :=
  ensures_bind.2 (ensures_orThrow.2 h)

theorem ofExcept_bind (h : ∀ a, x = .ok a → (f a).Ensures s Q) : (ofExcept x >>= f).Ensures s Q :=
  ensures_bind.2 (ensures_ofExcept.2 h)

end Ensures

/-! ### Failed runs -/

/-- Whenever `m` fails from `s`, its error and the state left behind satisfy `E`. -/
def Fails (m : EStateM ε σ α) (s : σ) (E : ε → σ → Prop) : Prop :=
  ∀ e s', m.run s = .error e s' → E e s'

theorem fails_of_ok (h : m.run s = .ok a s') : m.Fails s E := fun _ _ hrun => by
  cases h.symm.trans hrun

theorem fails_of_error (h : m.run s = .error e s') : m.Fails s E ↔ E e s' := by
  simp only [Fails, h]
  exact ⟨fun hE => hE e s' rfl, by rintro hE _ _ ⟨⟩; exact hE⟩

@[simp] theorem fails_pure : (pure a : EStateM ε σ α).Fails s E := fails_of_ok rfl

@[simp] theorem fails_throw : (throw e : EStateM ε σ α).Fails s E ↔ E e s := fails_of_error rfl

@[simp] theorem fails_bind :
    (m >>= f).Fails s E ↔ m.Fails s E ∧ m.Ensures s fun a s' => (f a).Fails s' E := by
  cases hm : m.run s with
  | ok a s' =>
    rw [ensures_of_ok hm, and_iff_right (fails_of_ok hm)]
    simp only [Fails, run_bind, hm]
  | error e s' =>
    rw [fails_of_error hm, and_iff_left (ensures_of_error hm), fails_of_error (by rw [run_bind, hm])]

@[simp] theorem fails_map {g : α → β} : (g <$> m).Fails s E ↔ m.Fails s E := by
  rw [map_eq_pure_bind, fails_bind]
  simp [Ensures]

@[simp] theorem fails_get : (get : EStateM ε σ σ).Fails s E := fails_of_ok rfl

@[simp] theorem fails_set : (set t : EStateM ε σ PUnit).Fails s E := fails_of_ok rfl

@[simp] theorem fails_modify : (modify g : EStateM ε σ PUnit).Fails s E := fails_of_ok rfl

@[simp] theorem fails_ensure : (ensure b e : EStateM ε σ Unit).Fails s E ↔ (b = false → E e s) := by
  cases b <;> simp [ensure]

@[simp] theorem fails_orThrow : (orThrow o e : EStateM ε σ α).Fails s E ↔ (o = none → E e s) := by
  cases o <;> simp [orThrow]

@[simp] theorem fails_ofExcept :
    (ofExcept x : EStateM ε σ α).Fails s E ↔ ∀ e, x = .error e → E e s := by
  cases x <;> simp [ofExcept]

theorem fails_ite : (if c then m else m').Fails s E ↔ (c → m.Fails s E) ∧ (¬c → m'.Fails s E) := by
  split <;> simp_all

/-- A loop fails only where one of its rounds does. -/
theorem fails_listForM {f : α → EStateM ε σ PUnit} (hstep : ∀ x l s, I (x :: l) s → (f x).Ensures s fun _ s' => I l s')
    (hfail : ∀ x l s, I (x :: l) s → (f x).Fails s E) (h : I l s) : (l.forM f).Fails s E := by
  induction l generalizing s with
  | nil => exact fails_pure
  | cons x l ih => exact fails_bind.2 ⟨hfail x l s h, (hstep x l s h).mono fun _ _ => ih⟩

/-! ### Parts of the state -/

/-- Run a computation on a part of the state.  What it wrote before an error stays written. -/
def zoom {τ ε' : Type} (part : σ → τ) (put : τ → σ → σ) (err : ε' → ε) (m : EStateM ε' τ α) :
    EStateM ε σ α := fun s =>
  match m.run (part s) with
  | .ok a t => .ok a (put t s)
  | .error e t => .error (err e) (put t s)

/-- Change the error of a computation.  What it wrote before the error stays written. -/
def mapError {ε' : Type} (f : ε' → ε) (m : EStateM ε' σ α) : EStateM ε σ α :=
  zoom id (fun t _ => t) f m

/-- Run a computation and hand its error to the caller; a failed runtime check still stops. -/
def attempt {ε' : Type} (m : EStateM (Fault ε') σ α) : EStateM (Fault ε) σ (Except ε' α) := fun s =>
  match m.run s with
  | .ok a s' => .ok (.ok a) s'
  | .error (.fail e) s' => .ok (.error e) s'
  | .error .panic s' => .error .panic s'

/-- Run a computation and hand its error to the caller as a value. -/
def caught (m : EStateM ε σ α) : EStateM ε σ (Option ε) := fun s =>
  match m.run s with
  | .ok _ s' => .ok none s'
  | .error e s' => .ok (some e) s'

theorem run_zoom {τ ε' : Type} (part : σ → τ) (put : τ → σ → σ) (err : ε' → ε) (m : EStateM ε' τ α)
    (s : σ) : (zoom part put err m).run s = match m.run (part s) with
      | .ok a t => .ok a (put t s)
      | .error e t => .error (err e) (put t s) := rfl

@[simp] theorem ensures_zoom {τ ε' : Type} {part : σ → τ} {put : τ → σ → σ} {err : ε' → ε}
    {m : EStateM ε' τ α} {Q : α → σ → Prop} :
    (zoom part put err m).Ensures s Q ↔ m.Ensures (part s) fun a t => Q a (put t s) := by
  have hrun := run_zoom part put err m s
  cases hm : m.run (part s) with
  | ok a t =>
    rw [hm] at hrun
    rw [ensures_of_ok hm, ensures_of_ok hrun]
  | error e t =>
    rw [hm] at hrun
    exact iff_of_true (ensures_of_error hrun) (ensures_of_error hm)

@[simp] theorem fails_zoom {τ ε' : Type} {part : σ → τ} {put : τ → σ → σ} {err : ε' → ε}
    {m : EStateM ε' τ α} :
    (zoom part put err m).Fails s E ↔ m.Fails (part s) fun e t => E (err e) (put t s) := by
  have hrun := run_zoom part put err m s
  cases hm : m.run (part s) with
  | ok a t =>
    rw [hm] at hrun
    exact iff_of_true (fails_of_ok hrun) (fails_of_ok hm)
  | error e t =>
    rw [hm] at hrun
    rw [fails_of_error hm, fails_of_error hrun]

@[simp] theorem ensures_mapError {ε' : Type} {f : ε' → ε} {m : EStateM ε' σ α}
    {Q : α → σ → Prop} : (mapError f m).Ensures s Q ↔ m.Ensures s Q :=
  ensures_zoom

@[simp] theorem fails_mapError {ε' : Type} {f : ε' → ε} {m : EStateM ε' σ α}
    : (mapError f m).Fails s E ↔ m.Fails s fun e t => E (f e) t :=
  fails_zoom

theorem ensures_attempt {ε' : Type} {m : EStateM (Fault ε') σ α} {Q : Except ε' α → σ → Prop}
    (hok : m.Ensures s fun a s' => Q (.ok a) s')
    (herr : m.Fails s fun e s' => ∀ e', e = .fail e' → Q (.error e') s') :
    (attempt m : EStateM (Fault ε) σ (Except ε' α)).Ensures s Q := by
  intro a s' hrun
  simp only [attempt, EStateM.run] at hrun
  split at hrun <;> cases hrun
  · exact hok _ _ ‹_›
  · exact herr _ _ ‹_› _ rfl

/-! ### Both ends of a run -/

/-- A run of `m` from `s` that succeeds ends in `Q`, one that fails in `E`. -/
def Ends (m : EStateM ε σ α) (s : σ) (Q : α → σ → Prop) (E : ε → σ → Prop) : Prop :=
  m.Ensures s Q ∧ m.Fails s E

namespace Ends

variable {Q : β → σ → Prop}

theorem mono {P P' : α → σ → Prop} {E' : ε → σ → Prop} (h : m.Ends s P E)
    (hP : ∀ a s', P a s' → P' a s') (hE : ∀ e s', E e s' → E' e s') : m.Ends s P' E' :=
  ⟨h.1.mono hP, fun e s' hrun => hE e s' (h.2 e s' hrun)⟩

theorem pure {b : β} (h : Q b s) : (pure b : EStateM ε σ β).Ends s Q E :=
  ⟨ensures_pure.2 h, fails_pure⟩

theorem throw {e : ε} (h : E e s) : (throw e : EStateM ε σ β).Ends s Q E :=
  ⟨ensures_throw, fails_throw.2 h⟩

theorem modify {Q : PUnit → σ → Prop} (h : Q ⟨⟩ (g s)) :
    (modify g : EStateM ε σ PUnit).Ends s Q E :=
  ⟨ensures_modify.2 h, fails_modify⟩

theorem bind {P : α → σ → Prop} (hm : m.Ends s P E) (hf : ∀ a s', P a s' → (f a).Ends s' Q E) :
    (m >>= f).Ends s Q E :=
  ⟨hm.1.bind fun a s' h => (hf a s' h).1, fails_bind.2 ⟨hm.2, hm.1.mono fun a s' h => (hf a s' h).2⟩⟩

theorem get_bind {f : σ → EStateM ε σ β} (h : (f s).Ends s Q E) : (get >>= f).Ends s Q E :=
  ⟨.get_bind h.1, fails_bind.2 ⟨fails_get, ensures_get.2 h.2⟩⟩

theorem set_bind {f : PUnit → EStateM ε σ β} (h : (f ⟨⟩).Ends t Q E) : (set t >>= f).Ends s Q E :=
  ⟨.set_bind h.1, fails_bind.2 ⟨fails_set, ensures_set.2 h.2⟩⟩

theorem modify_bind {f : PUnit → EStateM ε σ β} (h : (f ⟨⟩).Ends (g s) Q E) :
    ((MonadState.modifyGet fun s => (PUnit.unit, g s) : EStateM ε σ PUnit) >>= f).Ends s Q E :=
  ⟨.modify_bind h.1, fails_bind.2 ⟨fails_modify, ensures_modify.2 h.2⟩⟩

theorem ensure_bind {e : ε} {f : Unit → EStateM ε σ β} (hE : b = false → E e s)
    (h : b = true → (f ()).Ends s Q E) : (ensure b e >>= f).Ends s Q E :=
  ⟨.ensure_bind fun hb => (h hb).1,
    fails_bind.2 ⟨fails_ensure.2 hE, ensures_ensure.2 fun hb => (h hb).2⟩⟩

theorem orThrow_bind {e : ε} (hE : o = none → E e s)
    (h : ∀ a, o = some a → (f a).Ends s Q E) : (orThrow o e >>= f).Ends s Q E :=
  ⟨.orThrow_bind fun a ha => (h a ha).1,
    fails_bind.2 ⟨fails_orThrow.2 hE, ensures_orThrow.2 fun a ha => (h a ha).2⟩⟩

theorem ofExcept_bind (hE : ∀ e, x = .error e → E e s)
    (h : ∀ a, x = .ok a → (f a).Ends s Q E) : (ofExcept x >>= f).Ends s Q E :=
  ⟨.ofExcept_bind fun a ha => (h a ha).1,
    fails_bind.2 ⟨fails_ofExcept.2 hE, ensures_ofExcept.2 fun a ha => (h a ha).2⟩⟩

theorem ite {m m' : EStateM ε σ β} (h : c → m.Ends s Q E)
    (h' : ¬c → m'.Ends s Q E) : (if c then m else m').Ends s Q E := by
  split
  · exact h ‹c›
  · exact h' ‹¬c›

theorem zoom {τ ε' : Type} {part : σ → τ} {put : τ → σ → σ} {err : ε' → ε} {m : EStateM ε' τ β}
    (h : m.Ends (part s) (fun a t => Q a (put t s)) fun e t => E (err e) (put t s)) :
    (zoom part put err m).Ends s Q E :=
  ⟨ensures_zoom.2 h.1, fails_zoom.2 h.2⟩

theorem mapError {ε' : Type} {g : ε' → ε} {m : EStateM ε' σ β}
    (h : m.Ends s Q fun e s' => E (g e) s') : (mapError g m).Ends s Q E :=
  ⟨ensures_mapError.2 h.1, fails_mapError.2 h.2⟩

end Ends

/-! ### The state a call leaves -/

/-- Whether `m` succeeds or fails from `s`, the state it leaves satisfies `P`. -/
def Leaves (m : EStateM ε σ α) (s : σ) (P : σ → Prop) : Prop :=
  m.Ensures s (fun _ s' => P s') ∧ m.Fails s fun _ s' => P s'

/-- The state after a run, whether it succeeded or failed. -/
def final (m : EStateM ε σ α) (s : σ) : σ :=
  match m.run s with
  | .ok _ s' | .error _ s' => s'

/-- The run ends without an error. -/
def succeeds (m : EStateM ε σ α) (s : σ) : Bool :=
  match m.run s with
  | .ok _ _ => true
  | .error _ _ => false

/-- The state a process goes on with: a failed runtime check stops it, and the call is undone. -/
def settled (m : EStateM (Fault ε) σ α) (s : σ) : σ :=
  match m.run s with
  | .ok _ s' | .error (.fail _) s' => s'
  | .error .panic _ => s

theorem run_of_succeeds {m : EStateM ε σ Unit} {s : σ} (h : m.succeeds s) :
    m.run s = .ok () (m.final s) := by
  unfold succeeds at h
  unfold final
  cases hm : m.run s with
  | ok a s' => rfl
  | error e s' => simp [hm] at h

/-- A process goes on with what a call leaves, unless a runtime check stopped the call. -/
theorem settled_of {m : EStateM (Fault ε) σ α} {s : σ} {P : σ → Prop}
    (hok : m.Ensures s fun _ s' => P s') (herr : m.Fails s fun e s' => e ≠ .panic → P s')
    (hs : P s) : P (m.settled s) := by
  unfold settled
  cases hm : m.run s with
  | ok a s' => exact hok a s' hm
  | error e s' =>
    cases e with
    | fail e => exact herr _ s' hm nofun
    | panic => exact hs

namespace Leaves

variable {P P' : σ → Prop}

theorem final (h : m.Leaves s P) : P (m.final s) := by
  unfold EStateM.final
  cases hm : m.run s with
  | ok a s' => exact h.1 a s' hm
  | error e s' => exact h.2 e s' hm

theorem settled {m : EStateM (Fault ε) σ α} (h : m.Leaves s P) (hs : P s) : P (m.settled s) :=
  settled_of h.1 (fun e s' hrun _ => h.2 e s' hrun) hs

theorem mono (h : m.Leaves s P) (hP : ∀ s', P s' → P' s') : m.Leaves s P' :=
  Ends.mono h (fun _ => hP) fun _ => hP

theorem pure (h : P s) : (pure a : EStateM ε σ α).Leaves s P := Ends.pure h

theorem throw {e : ε} (h : P s) : (throw e : EStateM ε σ α).Leaves s P := Ends.throw h

theorem modify (h : P (g s)) : (modify g : EStateM ε σ PUnit).Leaves s P := Ends.modify h

theorem bind {Q : α → σ → Prop} (hok : m.Ensures s Q) (herr : m.Fails s fun _ s' => P s')
    (hf : ∀ a s', Q a s' → (f a).Leaves s' P) : (m >>= f).Leaves s P :=
  Ends.bind ⟨hok, herr⟩ hf

theorem trans (hm : m.Leaves s P) (hf : ∀ a s', P s' → (f a).Leaves s' P) : (m >>= f).Leaves s P :=
  Ends.bind hm hf

theorem get_bind {f : σ → EStateM ε σ β} (h : (f s).Leaves s P) : (get >>= f).Leaves s P :=
  Ends.get_bind h

theorem modify_bind {f : PUnit → EStateM ε σ β} (h : (f ⟨⟩).Leaves (g s) P) :
    ((MonadState.modifyGet fun s => (PUnit.unit, g s) : EStateM ε σ PUnit) >>= f).Leaves s P :=
  Ends.modify_bind h

theorem set_bind {f : PUnit → EStateM ε σ β} (h : (f ⟨⟩).Leaves t P) :
    ((MonadStateOf.set t : EStateM ε σ PUnit) >>= f).Leaves s P :=
  Ends.set_bind h

theorem ensure_bind {e : ε} {f : Unit → EStateM ε σ β} (hs : P s)
    (h : b = true → (f ()).Leaves s P) : (ensure b e >>= f).Leaves s P :=
  Ends.ensure_bind (fun _ => hs) h

theorem orThrow_bind {e : ε} (hs : P s) (h : ∀ a, o = some a → (f a).Leaves s P) :
    (orThrow o e >>= f).Leaves s P :=
  Ends.orThrow_bind (fun _ => hs) h

theorem ofExcept_bind (hs : P s) (h : ∀ a, x = .ok a → (f a).Leaves s P) :
    (ofExcept x >>= f).Leaves s P :=
  Ends.ofExcept_bind (fun _ _ => hs) h

theorem ite (h : c → m.Leaves s P) (h' : ¬c → m'.Leaves s P) : (if c then m else m').Leaves s P :=
  Ends.ite h h'

theorem zoom {τ ε' : Type} {part : σ → τ} {put : τ → σ → σ} {err : ε' → ε} {m : EStateM ε' τ α}
    (h : m.Leaves (part s) fun t => P (put t s)) : (zoom part put err m).Leaves s P :=
  Ends.zoom h

theorem caught (h : m.Leaves s P) : (caught m).Leaves s P := by
  constructor
  all_goals
    intro o s' hrun
    simp only [EStateM.caught, EStateM.run] at hrun
    split at hrun <;> cases hrun
  · exact h.1 _ _ ‹_›
  · exact h.2 _ _ ‹_›

/-- A loop keeps its invariant, and every round that fails leaves `P`. -/
theorem listForM_bind {f : α → EStateM ε σ PUnit} {g : PUnit → EStateM ε σ β}
    (hstep : ∀ x l s, I (x :: l) s → (f x).Ensures s fun _ s' => I l s')
    (hfail : ∀ x l s, I (x :: l) s → (f x).Fails s fun _ s' => P s') (h : I l s)
    (hend : ∀ s', I [] s' → (g ⟨⟩).Leaves s' P) : (l.forM f >>= g).Leaves s P :=
  bind (ensures_listForM hstep h) (fails_listForM hstep hfail h) fun _ => hend

end Leaves

end EStateM
