import Mathlib

/-!
# Tables of accesses

An offline memory argument lists the accesses in a table and lets every entry copy the entry before
it: a read of the same address repeats its value, and a read of another address is zero or an
initial value.  The discipline speaks about neighbours that are both in use; it does not sort the
table, and it says nothing about an entry after a gap.

* `Disciplined` : the rules between neighbouring entries.
* `Latest` : a value is that of the latest write, or zero or initial if there is none.
* `Disciplined.latest_iff` : **a read in the table has the latest value exactly when the entry it
  copies has.**
-/

namespace Budlum.AccessTable

variable {F : Type*} [Field F] [DecidableEq F]

structure Entry (F : Type*) where
  addr : F
  val : F
  isWrite : F
  active : F
  /-- The next entry is said to be of the same address. -/
  same : F
  /-- The value is part of the committed initial image. -/
  isInit : F

/-- The rules for the first `n` entries of a table. -/
structure Disciplined (n : ℕ) (e : ℕ → Entry F) : Prop where
  same_bit : ∀ k < n, (e k).same = 0 ∨ (e k).same = 1
  init_bit : ∀ k < n, (e k).isInit = 0 ∨ (e k).isInit = 1
  first : (e 0).active * (1 - (e 0).isWrite) * (1 - (e 0).isInit) * (e 0).val = 0
  copies : ∀ k < n - 1, (e k).active * (e (k + 1)).active * (e k).same *
    (1 - (e (k + 1)).isWrite) * ((e (k + 1)).val - (e k).val) = 0
  fresh : ∀ k < n - 1, (e k).active * (e (k + 1)).active * (1 - (e k).same) *
    (1 - (e (k + 1)).isWrite) * (1 - (e (k + 1)).isInit) * (e (k + 1)).val = 0

/-- The value that entry `k` copies, if the entry before is in use and of the same address. -/
def copied (e : ℕ → Entry F) : ℕ → Option F
  | 0 => none
  | k + 1 => if (e k).active ≠ 0 ∧ (e k).same = 1 then some (e k).val else none

/-- Entry `k` opens an address: it is the first, or the entry before is in use and of another
address. -/
def opens (e : ℕ → Entry F) : ℕ → Prop
  | 0 => True
  | k + 1 => (e k).active ≠ 0 ∧ (e k).same = 0

/-- The committed initial image has the value at the address. -/
def Initial (n : ℕ) (e : ℕ → Entry F) (a v : F) : Prop :=
  ∃ k < n, (e k).isInit = 1 ∧ (e k).addr = a ∧ (e k).val = v

/-- The value is that of the latest write, or zero or initial if there is none. -/
def Latest (n : ℕ) (e : ℕ → Entry F) (write : Option F) (a v : F) : Prop :=
  match write with
  | some w => v = w
  | none => v = 0 ∨ Initial n e a v

/-- What the table has to say for entry `k` to have the latest value. -/
def CopiesLatest (n : ℕ) (e : ℕ → Entry F) (write : Option F) (k : ℕ) : Prop :=
  match copied e k with
  | some w => Latest n e write (e k).addr w
  | none => (opens e k ∧ write = none) ∨ Latest n e write (e k).addr (e k).val

variable {n k : ℕ} {e : ℕ → Entry F}

omit [DecidableEq F] in
/-- A read of an entry in use that opens an address is zero or initial. -/
theorem Disciplined.initial_of_opens (h : Disciplined n e) (hk : k < n)
    (hactive : (e k).active ≠ 0) (hread : (e k).isWrite = 0) (hopens : opens e k) :
    (e k).val = 0 ∨ Initial n e (e k).addr (e k).val := by
  rcases h.init_bit k hk with hinit | hinit
  · left
    cases k with
    | zero =>
      have hfirst := h.first
      rw [hread, hinit] at hfirst
      simpa [hactive] using hfirst
    | succ k =>
      obtain ⟨hprev, hsame⟩ := hopens
      have hfresh := h.fresh k (by omega)
      rw [hsame, hread, hinit] at hfresh
      simpa [hactive, hprev] using hfresh
  · exact .inr ⟨k, hk, hinit, rfl, rfl⟩

/-- A read of an entry in use repeats the value it copies. -/
theorem Disciplined.val_of_copied (h : Disciplined n e) (hk : k < n)
    (hactive : (e k).active ≠ 0) (hread : (e k).isWrite = 0) {w : F} (hcopied : copied e k = some w) :
    (e k).val = w := by
  cases k with
  | zero => cases hcopied
  | succ k =>
    rw [copied] at hcopied
    split_ifs at hcopied with hprev
    obtain rfl := Option.some.inj hcopied
    have hcopy := h.copies k (by omega)
    rw [hprev.2, hread] at hcopy
    simpa [hactive, hprev.1, sub_eq_zero] using hcopy

/-- A read in the table has the latest value exactly when what it copies has. -/
theorem Disciplined.latest_iff (h : Disciplined n e) (hk : k < n) (hactive : (e k).active ≠ 0)
    (hread : (e k).isWrite = 0) (write : Option F) :
    Latest n e write (e k).addr (e k).val ↔ CopiesLatest n e write k := by
  unfold CopiesLatest
  cases hcopied : copied e k with
  | some w => rw [h.val_of_copied hk hactive hread hcopied]
  | none =>
    refine ⟨.inr, ?_⟩
    rintro (⟨hopens, rfl⟩ | hlatest)
    · exact h.initial_of_opens hk hactive hread hopens
    · exact hlatest

end Budlum.AccessTable
