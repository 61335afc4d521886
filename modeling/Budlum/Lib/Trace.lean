import Mathlib

/-!
# Runs of a deterministic system

A system takes a step for every input.  A property that each step keeps holds along every run.  If
each step keeps it exactly when a guard holds of the input and the state before, then a run satisfies
the property throughout exactly when every step of it meets the guard (`forall_states_iff`).
-/

namespace Trace

variable {σ ι : Type*} (step : ι → σ → σ)

/-- The state after a list of inputs. -/
def final (is : List ι) (s : σ) : σ := is.foldl (fun s i => step i s) s

/-- The states a run passes through, first to last. -/
def states : List ι → σ → List σ
  | [], s => [s]
  | i :: is, s => s :: states is (step i s)

/-- Every input of the run meets the guard where it is taken. -/
def Guarded (guard : ι → σ → Prop) : List ι → σ → Prop
  | [], _ => True
  | i :: is, s => guard i s ∧ Guarded guard is (step i s)

variable {step} {is : List ι} {s : σ}

@[simp] theorem final_nil (s : σ) : final step [] s = s := rfl

@[simp] theorem final_cons (i : ι) (is : List ι) (s : σ) :
    final step (i :: is) s = final step is (step i s) := rfl

theorem mem_states_self (is : List ι) (s : σ) : s ∈ states step is s := by
  cases is <;> simp [states]

theorem final_mem_states (is : List ι) (s : σ) : final step is s ∈ states step is s := by
  induction is generalizing s with
  | nil => simp [states]
  | cons i is ih => exact List.mem_cons_of_mem _ (ih _)

/-- A state on the way is the end of an earlier run. -/
theorem exists_final_of_mem {t : σ} (h : t ∈ states step is s) : ∃ js, t = final step js s := by
  induction is generalizing s with
  | nil => exact ⟨[], List.mem_singleton.1 h⟩
  | cons i is ih =>
    rcases List.mem_cons.1 h with rfl | h
    · exact ⟨[], rfl⟩
    · obtain ⟨js, rfl⟩ := ih h
      exact ⟨i :: js, rfl⟩

section Invariants

variable {I P : σ → Prop} {guard : ι → σ → Prop} {s : σ}

theorem final_of_invariant (hI : ∀ i s, I s → I (step i s)) (is : List ι) (hs : I s) :
    I (final step is s) := by
  induction is generalizing s with
  | nil => exact hs
  | cons i is ih => exact ih (hI i s hs)

theorem states_of_invariant (hI : ∀ i s, I s → I (step i s)) {t : σ} (hs : I s)
    (ht : t ∈ states step is s) : I t := by
  obtain ⟨js, rfl⟩ := exists_final_of_mem ht
  exact final_of_invariant hI js hs

/-- A property that each step keeps exactly when its guard holds, holds along a run exactly when
every step of the run meets its guard. -/
theorem forall_states_iff (hI : ∀ i s, I s → I (step i s))
    (hP : ∀ i s, I s → P s → (P (step i s) ↔ guard i s)) (is : List ι) (hs : I s)
    (hPs : P s) : (∀ t ∈ states step is s, P t) ↔ Guarded step guard is s := by
  induction is generalizing s with
  | nil => simp [states, Guarded, hPs]
  | cons i is ih =>
    simp only [states, List.forall_mem_cons, Guarded]
    constructor
    · rintro ⟨-, hrest⟩
      have hnext : P (step i s) := hrest _ (mem_states_self is _)
      exact ⟨(hP i s hs hPs).1 hnext, (ih (hI i s hs) hnext).1 hrest⟩
    · rintro ⟨hguard, hrest⟩
      have hnext : P (step i s) := (hP i s hs hPs).2 hguard
      exact ⟨hPs, (ih (hI i s hs) hnext).2 hrest⟩

end Invariants

end Trace
