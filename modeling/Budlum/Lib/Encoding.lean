import Mathlib

/-!
# Reading back what an encoder wrote

An encoder writes the parts of a value one after the other, without separators.  `Reads N enc p`
says that the part `p a` of the value `a` is determined by any text that starts with `enc a`, and
so is the rest of the text, as long as the text is shorter than `N`.  The bound is there for
lengths written in a word of fixed size.

* `Reads.append` : parts written one after the other.
* `Unique` : the whole value is determined; `Reads.unique` gets it from the parts.
* `Counts.text`, `Counts.list` : a text or a list after its length.
-/

namespace Encoding

variable {α β γ σ : Type*} {N : Nat} {p : α → β} {enc : α → List σ} {num : Nat → List σ}

/-- Any text shorter than `N` that starts with `enc a` determines `p a` and the rest. -/
def Reads (N : Nat) (enc : α → List σ) (p : α → β) : Prop :=
  ∀ ⦃a a' : α⦄ ⦃rest rest' : List σ⦄, (enc a ++ rest).length < N →
    enc a ++ rest = enc a' ++ rest' → p a = p a' ∧ rest = rest'

/-- The whole value can be read back. -/
def Unique (N : Nat) (enc : α → List σ) : Prop :=
  ∀ ⦃a a' : α⦄ ⦃rest rest' : List σ⦄, (enc a ++ rest).length < N →
    enc a ++ rest = enc a' ++ rest' → a = a' ∧ rest = rest'

/-- Parts one after the other. -/
theorem Reads.append {f g : α → List σ} {q : α → γ} (hf : Reads N f p)
    (hg : Reads N g q) : Reads N (fun a => f a ++ g a) fun a => (p a, q a) := by
  intro a a' rest rest' hlen h
  simp only [List.append_assoc] at hlen h
  obtain ⟨hp, hrest⟩ := hf hlen h
  rw [List.length_append] at hlen
  obtain ⟨hq, hrest⟩ := hg (by omega) hrest
  exact ⟨Prod.ext hp hq, hrest⟩

/-- Values that differ differ in a part that can be read back. -/
theorem Reads.unique (h : Reads N enc p) (hp : Function.Injective p) : Unique N enc :=
  fun _ _ _ _ hlen heq => (h hlen heq).imp_left fun ha => hp ha

/-- A part of a value, written by its own encoder. -/
theorem Unique.part {enc : β → List σ} (h : Unique N enc) (p : α → β) :
    Reads N (fun a => enc (p a)) p :=
  fun _ _ _ _ hlen heq => h hlen heq

/-- One more part after those read so far. -/
theorem Reads.next {f : α → List σ} (hf : Reads N f p) {enc : γ → List σ}
    (henc : Unique N enc) (q : α → γ) : Reads N (fun a => f a ++ enc (q a)) fun a => (p a, q a) :=
  hf.append (henc.part q)

theorem Unique.comp {enc : β → List σ} (h : Unique N enc) {f : α → β}
    (hf : Function.Injective f) : Unique N fun a => enc (f a) :=
  (h.part f).unique hf

section Parts

variable {f : α → List σ} {g : β → List σ} {a a' : α} {b b' : β} {rest rest' : List σ}

/-- Two values one after the other. -/
theorem Unique.pair (hf : Unique N f) (hg : Unique N g) :
    Unique N fun p : α × β => f p.1 ++ g p.2 :=
  ((hf.part Prod.fst).next hg Prod.snd).unique fun _ _ h => h

/-- A value is determined by its parts, one, two or three. -/
theorem Unique.as {γ : Sort*} {C : α → γ} (hf : Unique N f) (hlen : (f a ++ rest).length < N)
    (h : f a ++ rest = f a' ++ rest') : C a = C a' ∧ rest = rest' :=
  (hf hlen h).imp_left (congrArg C)

theorem Unique.bothAs {γ : Sort*} {C : α → β → γ} (hf : Unique N f) (hg : Unique N g)
    (hlen : (f a ++ g b ++ rest).length < N) (h : f a ++ g b ++ rest = f a' ++ g b' ++ rest') :
    C a b = C a' b' ∧ rest = rest' :=
  (@Unique.pair _ _ _ _ f g hf hg (a, b) (a', b') rest rest' hlen h).imp_left
    (congrArg fun p : α × β => C p.1 p.2)

theorem Unique.threeAs {δ : Sort*} {C : α → β → γ → δ} {k : γ → List σ} (hf : Unique N f)
    (hg : Unique N g) (hk : Unique N k) {c c' : γ} (hlen : (f a ++ g b ++ k c ++ rest).length < N)
    (h : f a ++ g b ++ k c ++ rest = f a' ++ g b' ++ k c' ++ rest') :
    C a b c = C a' b' c' ∧ rest = rest' :=
  @Unique.bothAs _ _ _ _ _ _ (a, b) (a', b') _ _ _ _ _ (fun p c => C p.1 p.2 c) (hf.pair hg) hk
    hlen h

end Parts

/-- One text in front of every value. -/
theorem Unique.after {lead : α → List σ} (h : Unique N enc) (hlead : ∀ a a', lead a = lead a') :
    Unique N fun a => lead a ++ enc a := by
  intro a a' rest rest' hlen heq
  rw [List.append_assoc, List.length_append] at hlen
  rw [List.append_assoc, List.append_assoc, hlead a a', List.append_cancel_left_eq] at heq
  exact h (by omega) heq

/-- Values written in a fixed number of symbols. -/
theorem Unique.ofLength (w : Nat) (hlen : ∀ a, (enc a).length = w)
    (henc : Function.Injective enc) : Unique N enc := fun a a' _ _ _ heq => by
  obtain ⟨ha, hrest⟩ := List.append_inj heq ((hlen a).trans (hlen a').symm)
  exact ⟨henc ha, hrest⟩

/-- Counts below `N` are written in a fixed number of symbols, each in its own way. -/
structure Counts (N : Nat) (num : Nat → List σ) : Prop where
  length_eq : ∀ n n', (num n).length = (num n').length
  inj : ∀ n n', n < N → n' < N → num n = num n' → n = n'

theorem Counts.reads (h : Counts N num) {n n' : Nat} {rest rest' : List σ}
    (hn : n < N) (hn' : n' < N) (heq : num n ++ rest = num n' ++ rest') :
    n = n' ∧ rest = rest' := by
  obtain ⟨hnum, hrest⟩ := List.append_inj heq (h.length_eq n n')
  exact ⟨h.inj n n' hn hn' hnum, hrest⟩

/-- A text after its length. -/
theorem Counts.text (hnum : Counts N num) : Unique N fun l : List σ => num l.length ++ l := by
  intro l l' rest rest' hlen h
  have hlen' := h ▸ hlen
  simp only [List.length_append] at hlen hlen'
  simp only [List.append_assoc] at h
  obtain ⟨hsize, hrest⟩ := hnum.reads (by omega) (by omega) h
  exact List.append_inj hrest hsize

/-- As many values as the reader knows of. -/
theorem Unique.flatMap (henc : Unique N enc) :
    ∀ {l l' : List α} {rest rest' : List σ}, l.length = l'.length →
      (l.flatMap enc ++ rest).length < N → l.flatMap enc ++ rest = l'.flatMap enc ++ rest' →
      l = l' ∧ rest = rest'
  | [], [], _, _, _, _, h => ⟨rfl, h⟩
  | a :: l, a' :: l', rest, rest', hsize, hlen, h => by
    simp only [List.flatMap_cons, List.append_assoc] at hlen h
    obtain ⟨ha, hrest⟩ := henc hlen h
    rw [List.length_append] at hlen
    obtain ⟨hl, hrest⟩ := henc.flatMap (Nat.succ.inj hsize) (by omega) hrest
    exact ⟨congrArg₂ List.cons ha hl, hrest⟩

theorem length_le_flatMap (hne : ∀ a, enc a ≠ []) (l : List α) :
    l.length ≤ (l.flatMap enc).length := by
  induction l with
  | nil => exact Nat.zero_le _
  | cons a l ih =>
    have ha := List.length_pos_of_ne_nil (hne a)
    simp only [List.flatMap_cons, List.length_append, List.length_cons]
    omega

/-- A list of values, none of them empty, after its length. -/
theorem Counts.list (hnum : Counts N num)
    (hne : ∀ a, enc a ≠ []) (henc : Unique N enc) :
    Unique N fun l : List α => num l.length ++ l.flatMap enc := by
  intro l l' rest rest' hlen h
  have hlen' := h ▸ hlen
  simp only [List.length_append] at hlen hlen'
  simp only [List.append_assoc] at h
  have hl := length_le_flatMap hne l
  have hl' := length_le_flatMap hne l'
  obtain ⟨hsize, hrest⟩ := hnum.reads (by omega) (by omega) h
  exact henc.flatMap hsize (by rw [List.length_append]; omega) hrest

/-- An optional value after a flag. -/
theorem Unique.option {yes no : σ} (hne : yes ≠ no) (henc : Unique N enc) :
    Unique N fun o : Option α => o.elim [no] fun a => yes :: enc a := by
  intro o o' rest rest' hlen h
  cases o with
  | none =>
    cases o' with
    | none => exact ⟨rfl, (List.cons.inj h).2⟩
    | some a' => exact absurd (List.cons.inj h).1.symm hne
  | some a =>
    cases o' with
    | none => exact absurd (List.cons.inj h).1 hne
    | some a' =>
      obtain ⟨ha, hrest⟩ := henc (Nat.lt_of_succ_lt hlen) (List.cons.inj h).2
      exact ⟨congrArg some ha, hrest⟩

/-- A value is determined by its text. -/
theorem Unique.eq (h : Unique N enc) {a a' : α} (hlen : (enc a).length < N)
    (heq : enc a = enc a') : a = a' :=
  (@h a a' [] [] (by simpa using hlen) (by simpa using heq)).1

/-- So are as many values as there are. -/
theorem Unique.flatMap_eq (h : Unique N enc) {l l' : List α}
    (hsize : l.length = l'.length)
    (hlen : (l.flatMap enc).length < N) (heq : l.flatMap enc = l'.flatMap enc) : l = l' := by
  have hlists : l = l' ∧ ([] : List σ) = [] :=
    h.flatMap hsize (by simpa using hlen) (by simpa using heq)
  exact hlists.1

end Encoding
