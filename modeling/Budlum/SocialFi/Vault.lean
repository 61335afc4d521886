import Budlum.SocialFi.Registry

/-!
# Folders stay a forest

A folder may list folders, and a token that a folder lists may become a folder later.  The walk that
looks for cycles follows registered folders only.

* `VaultRegistry.not_reaches` : a walk that does not find its target visited everything below its
  start.
* `VaultRegistry.WellFormed.operate` : **every operation that succeeds keeps the folders without
  cycles and without repeated members.**
* `VaultRegistry.WellFormed.unchanged_of_refused` : a transaction that is refused writes nothing, not
  even the first half of a move.
-/

namespace Relation

variable {α : Type*} {r : α → α → Prop} {a b : α}

/-- A path along `r` and one more edge either does without the edge or leads to it and on from it. -/
theorem TransGen.of_edge {x y : α} (h : TransGen (fun x y => r x y ∨ x = a ∧ y = b) x y) :
    TransGen r x y ∨ ReflTransGen r x a ∧ ReflTransGen r b y := by
  induction h with
  | single hxy =>
    obtain hr | ⟨rfl, rfl⟩ := hxy
    · exact .inl (.single hr)
    · exact .inr ⟨.refl, .refl⟩
  | tail _ hyz ih =>
    obtain hr | ⟨rfl, rfl⟩ := hyz
    · exact ih.imp (·.tail hr) fun ⟨hxa, hby⟩ => ⟨hxa, hby.tail hr⟩
    · obtain hxy | ⟨hxa, -⟩ := ih
      · exact .inr ⟨hxy.to_reflTransGen, .refl⟩
      · exact .inr ⟨hxa, .refl⟩

/-- An edge whose end does not lead back to its start closes no cycle. -/
theorem acyclic_of_edge (hr : ∀ x, ¬ TransGen r x x) (hback : ¬ ReflTransGen r b a) (x : α) :
    ¬ TransGen (fun x y => r x y ∨ x = a ∧ y = b) x x := by
  intro h
  obtain hcycle | ⟨hxa, hbx⟩ := TransGen.of_edge h
  · exact hr x hcycle
  · exact hback (hbx.trans hxa)

/-- Fewer edges make no cycle. -/
theorem acyclic_mono {r' : α → α → Prop} (hr : ∀ x, ¬ TransGen r x x) (h : ∀ x y, r' x y → r x y)
    (x : α) : ¬ TransGen r' x x :=
  fun hcycle => hr x (TransGen.mono h x x hcycle)

end Relation

namespace Budlum

namespace VaultRegistry

open Relation

variable {v v' : VaultRegistry} {folder member : UInt64}

/-- The folder lists the token. -/
def Holds (v : VaultRegistry) (folder member : UInt64) : Prop :=
  ∃ list, v.members.get folder = some list ∧ member ∈ list

theorem holds_iff : v.Holds folder member ↔ v.lists folder member = true := by
  simp [Holds, lists, Option.any_eq_true]

/-- Exactly the folders have a list, no list repeats a token, and no folder is below itself. -/
structure WellFormed (v : VaultRegistry) : Prop where
  listed : ∀ folder, v.isFolder folder ↔ ∃ list, v.members.get folder = some list
  nodup : ∀ folder list, v.members.get folder = some list → list.Nodup
  acyclic : ∀ folder, ¬ TransGen v.Holds folder folder

theorem wellFormed_empty : ({} : VaultRegistry).WellFormed where
  listed folder := by simp [isFolder, OrdMap.contains]
  nodup folder list h := by simp at h
  acyclic folder h := by
    obtain ⟨_, ⟨_, hget, _⟩, _⟩ := TransGen.head'_iff.1 h
    simp at hget

namespace WellFormed

theorem isFolder_of_holds (h : v.WellFormed) (hholds : v.Holds folder member) : v.isFolder folder :=
  (h.listed folder).2 ⟨hholds.choose, hholds.choose_spec.1⟩

end WellFormed

/-! ### The walk -/

section Walk

variable {target start : UInt64} {seen seen' : List UInt64}

/-- How many folders the walk has not met yet. -/
def unseen (v : VaultRegistry) (seen : List UInt64) : Nat :=
  (v.folders.keys.filter fun f => decide (f ∉ seen)).length

theorem unseen_mono (h : seen ⊆ seen') : v.unseen seen' ≤ v.unseen seen := by
  refine (List.monotone_filter_right _ fun f hf => ?_).length_le
  simp only [decide_eq_true_eq] at hf ⊢
  exact fun hmem => hf (h hmem)

theorem unseen_cons_lt (hfolder : v.isFolder folder) (hnew : folder ∉ seen) : v.unseen
    (folder :: seen) < v.unseen seen := by
  have hkey : folder ∈ v.folders.keys := by
    obtain ⟨u, hget⟩ := OrdMap.contains_iff.1 hfolder
    exact List.mem_map.2 ⟨_, OrdMap.get_eq_some_iff.1 hget, rfl⟩
  have hsplit : (v.folders.keys.filter fun f => decide (f ∉ folder :: seen)) =
      (v.folders.keys.filter fun f => decide (f ∉ seen)).filter fun f => decide (f ≠ folder) := by
    rw [List.filter_filter]
    congr 1
    funext f
    simp [Bool.decide_and]
  unfold unseen
  rw [hsplit, List.length_filter_lt_length_iff_exists]
  exact ⟨folder, List.mem_filter.2 ⟨hkey, by simpa using hnew⟩, by simp⟩

/-- The walk went from `seen` to `seen'` without meeting the target, and left no folder out below
what it met. -/
structure Explored (v : VaultRegistry) (target : UInt64) (seen seen' : List UInt64) : Prop where
  subset : seen ⊆ seen'
  closed : ∀ x ∈ seen', x ∈ seen ∨ x ≠ target ∧ ∀ y, v.Holds x y → v.isFolder y → y ∈ seen'

theorem Explored.refl (seen : List UInt64) : v.Explored target seen seen :=
  ⟨List.Subset.refl _, fun _ hx => .inl hx⟩

theorem Explored.trans {seen₁ seen₂ seen₃ : List UInt64} (h : v.Explored target seen₁ seen₂)
    (h' : v.Explored target seen₂ seen₃) : v.Explored target seen₁ seen₃ := by
  refine ⟨List.Subset.trans h.subset h'.subset, fun x hx => ?_⟩
  obtain hmet | hnew := h'.closed x hx
  · exact (h.closed x hmet).imp id fun ⟨hne, hbelow⟩ =>
      ⟨hne, fun y hxy hy => h'.subset (hbelow y hxy hy)⟩
  · exact .inr hnew

/-- What `reachesWalk` has done when it comes back without the target. -/
def WalkExplores (v : VaultRegistry) (target : UInt64) (fuel : Nat) : Prop :=
  ∀ start seen seen', v.isFolder start → v.unseen seen < fuel →
    v.reachesWalk fuel start target seen = (false, seen') →
      v.Explored target seen seen' ∧ start ∈ seen'

theorem reachesAny_explored {fuel : Nat} (hwalk : v.WalkExplores target fuel) (list : List UInt64) (hfuel : v.unseen seen < fuel)
    (h : v.reachesAny fuel list target seen = (false, seen')) : v.Explored target seen seen' ∧ ∀ m ∈
    list, v.isFolder m → m ∈ seen' := by
  induction list generalizing seen with
  | nil =>
    rw [reachesAny] at h
    obtain rfl := (Prod.mk.inj h).2
    exact ⟨.refl _, by simp⟩
  | cons m rest ih =>
    rw [reachesAny] at h
    split at h
    case isFalse hleaf =>
      obtain ⟨hexp, hrest⟩ := ih hfuel h
      refine ⟨hexp, fun x hx hfolder => ?_⟩
      obtain rfl | hx := List.mem_cons.1 hx
      · exact absurd hfolder hleaf
      · exact hrest x hx hfolder
    case isTrue hfolder =>
      split at h
      case h_1 => cases (Prod.mk.inj h).1
      case h_2 seen₁ hstep =>
        obtain ⟨hexp₁, hm⟩ := hwalk m seen seen₁ hfolder hfuel hstep
        obtain ⟨hexp₂, hrest⟩ := ih ((unseen_mono hexp₁.subset).trans_lt hfuel) h
        refine ⟨hexp₁.trans hexp₂, fun x hx hx' => ?_⟩
        obtain rfl | hx := List.mem_cons.1 hx
        · exact hexp₂.subset hm
        · exact hrest x hx hx'

/-- The walk is complete as long as the fuel exceeds the folders it has not met. -/
theorem walkExplores (v : VaultRegistry) (target : UInt64) (fuel : Nat) :
    v.WalkExplores target fuel := by
  induction fuel with
  | zero => exact fun _ _ _ _ hfuel => absurd hfuel (Nat.not_lt_zero _)
  | succ fuel ih =>
    intro start seen seen' hfolder hfuel h
    rw [reachesWalk] at h
    split at h
    case isTrue => cases (Prod.mk.inj h).1
    case isFalse hne =>
      split at h
      case isTrue hmet =>
        obtain rfl := (Prod.mk.inj h).2
        exact ⟨.refl _, by simpa using hmet⟩
      case isFalse hnew =>
        have hnew : start ∉ seen := by simpa using hnew
        split at h
        case h_1 hnone =>
          obtain rfl := (Prod.mk.inj h).2
          refine ⟨⟨List.subset_cons_self _ _, fun x hx => ?_⟩, List.mem_cons_self⟩
          obtain rfl | hx := List.mem_cons.1 hx
          · exact .inr ⟨hne, fun y h => by obtain ⟨list, hget, -⟩ := h; cases hnone.symm.trans hget⟩
          · exact .inl hx
        case h_2 list hget =>
          have hless := unseen_cons_lt hfolder hnew
          obtain ⟨hexp, hlist⟩ := reachesAny_explored ih list (by omega) h
          refine ⟨⟨List.Subset.trans (List.subset_cons_self _ _) hexp.subset, fun x hx => ?_⟩,
            hexp.subset List.mem_cons_self⟩
          obtain hmet | hrest := hexp.closed x hx
          · obtain rfl | hx := List.mem_cons.1 hmet
            · refine .inr ⟨hne, fun y hholds hy' => hlist y ?_ hy'⟩
              obtain ⟨list', hget', hy⟩ := hholds
              rwa [Option.mem_unique hget hget']
            · exact .inl hx
          · exact .inr hrest

/-- A walk that does not find its target visited everything below its start. -/
theorem not_reaches (hfolder : v.isFolder start)
    (h : v.reaches start target = false) :
    ¬ ReflTransGen (fun x y => v.Holds x y ∧ v.isFolder y) start target := by
  obtain ⟨seen', hwalk⟩ : ∃ seen', v.reachesWalk (v.folders.size + 2) start target [] =
      (false, seen') := ⟨_, Prod.ext h rfl⟩
  have hfuel : v.unseen [] < v.folders.size + 2 := by
    have hle := List.length_filter_le (fun f => decide (f ∉ ([] : List UInt64))) v.folders.keys
    have hsize : v.folders.keys.length = v.folders.size := List.length_map _
    unfold unseen
    omega
  obtain ⟨hexp, hstart⟩ := walkExplores v target _ start [] seen' hfolder hfuel hwalk
  have hclosed : ∀ x ∈ seen', x ≠ target ∧ ∀ y, v.Holds x y → v.isFolder y → y ∈ seen' :=
    fun x hx => (hexp.closed x hx).resolve_left (List.not_mem_nil)
  have hstay : ∀ x, ReflTransGen (fun x y => v.Holds x y ∧ v.isFolder y) start x → x ∈ seen' := by
    intro x hpath
    induction hpath with
    | refl => exact hstart
    | tail _ hedge ih => exact (hclosed _ ih).2 _ hedge.1 hedge.2
  exact fun hpath => (hclosed target (hstay target hpath)).1 rfl

/-- A walk finds its target only along members. -/
theorem reflTransGen_of_reachesWalk (fuel : Nat)
    (h : (v.reachesWalk fuel start target seen).1 = true) : ReflTransGen v.Holds start target := by
  induction fuel generalizing start seen with
  | zero => rw [reachesWalk] at h; cases h
  | succ fuel ih =>
    have hany : ∀ (list : List UInt64) (seen : List UInt64),
        (v.reachesAny fuel list target seen).1 = true →
          ∃ m ∈ list, ReflTransGen v.Holds m target := by
      intro list
      induction list with
      | nil => intro seen h; rw [reachesAny] at h; cases h
      | cons m rest ihrest =>
        intro seen h
        rw [reachesAny] at h
        split at h
        case isTrue =>
          split at h
          case h_1 seen₁ hstep => exact ⟨m, List.mem_cons_self, ih (by rw [hstep])⟩
          case h_2 =>
            obtain ⟨x, hx, hpath⟩ := ihrest _ h
            exact ⟨x, List.mem_cons_of_mem _ hx, hpath⟩
        case isFalse =>
          obtain ⟨x, hx, hpath⟩ := ihrest _ h
          exact ⟨x, List.mem_cons_of_mem _ hx, hpath⟩
    rw [reachesWalk] at h
    split at h
    case isTrue heq => exact heq ▸ .refl
    case isFalse =>
      split at h
      case isTrue => cases h
      case isFalse =>
        split at h
        case h_1 => cases h
        case h_2 list hget =>
          obtain ⟨m, hm, hpath⟩ := hany list _ h
          exact .head ⟨list, hget, hm⟩ hpath

end Walk

/-! ### The operations -/

/-- Nothing a folder lists leads back to the folder when the walk did not. -/
theorem WellFormed.not_below (h : v.WellFormed) (hfolder : v.isFolder folder)
    (hcycle : (v.isFolder member && v.reaches member folder) = false) :
    ¬ ReflTransGen v.Holds member folder := by
  -- whatever leads to a folder is a folder itself
  have hisFolder : ∀ x, ReflTransGen v.Holds x folder → v.isFolder x := by
    intro x hpath
    obtain rfl | ⟨y, hxy, -⟩ := hpath.cases_head
    · exact hfolder
    · exact h.isFolder_of_holds hxy
  have hedges : ∀ x, ReflTransGen v.Holds x folder →
      ReflTransGen (fun x y => v.Holds x y ∧ v.isFolder y) x folder := by
    intro x hpath
    induction hpath using ReflTransGen.head_induction_on with
    | refl => exact .refl
    | head hxy hrest ih => exact .head ⟨hxy, hisFolder _ hrest⟩ ih
  intro hpath
  have hmember := hisFolder member hpath
  rw [hmember, Bool.true_and] at hcycle
  exact not_reaches hmember hcycle (hedges member hpath)

/-- Folders and members are new only among the tokens `ids`. -/
structure Grows (ids : List UInt64) (v v' : VaultRegistry) : Prop where
  folders : ∀ folder, v'.isFolder folder → v.isFolder folder ∨ folder ∈ ids
  holds : ∀ folder member, v'.Holds folder member →
    v.Holds folder member ∨ folder ∈ ids ∧ member ∈ ids

variable {ids : List UInt64}

theorem Grows.mono {ids' : List UInt64} (h : Grows ids v v') (hids : ids ⊆ ids') : Grows ids' v
    v' :=
  ⟨fun x hx => (h.folders x hx).imp id (hids ·), fun x y hxy =>
    (h.holds x y hxy).imp id fun ⟨hx, hy⟩ => ⟨hids hx, hids hy⟩⟩

theorem Grows.trans {v₁ : VaultRegistry} (h : Grows ids v v₁) (h' : Grows ids v₁ v') : Grows ids v
    v' := by
  refine ⟨fun x hx => ?_, fun x y hxy => ?_⟩
  · exact (h'.folders x hx).elim (h.folders x) .inr
  · exact (h'.holds x y hxy).elim (h.holds x y) .inr

theorem Grows.of_holds (hfolders : ∀ x, v'.isFolder x → v.isFolder x)
    (hholds : ∀ x y, v'.Holds x y → v.Holds x y) : Grows ids v v' :=
  ⟨fun x hx => .inl (hfolders x hx), fun x y hxy => .inl (hholds x y hxy)⟩

variable {list : List UInt64} {tx : VaultTx}

/-- Writing a list. -/
theorem holds_insert (hmembers : v'.members = v.members.insert folder list) {x y : UInt64} :
    v'.Holds x y ↔ if x = folder then y ∈ list else v.Holds x y := by
  unfold Holds
  rw [hmembers, OrdMap.get_insert]
  split <;> simp

/-- Writing another list of a folder keeps the vault well formed if the new members close no
cycle. -/
theorem WellFormed.insert (h : v.WellFormed) (hfolder : v.isFolder folder) (hnodup : list.Nodup)
    (hacyclic : ∀ x, ¬ TransGen ({ v with members := v.members.insert folder list } : VaultRegistry).Holds x x) :
    ({ v with members := v.members.insert folder list } : VaultRegistry).WellFormed := by
  refine ⟨fun x => ?_, fun x list' hget => ?_, hacyclic⟩
  · rw [OrdMap.get_insert]
    split
    case isTrue hx =>
      subst hx
      exact iff_of_true hfolder ⟨list, rfl⟩
    case isFalse => exact h.listed x
  · obtain ⟨-, rfl⟩ | ⟨-, hget⟩ := OrdMap.get_insert_eq_some.1 hget
    · exact hnodup
    · exact h.nodup x list' hget

theorem WellFormed.registerFolder (h : v.WellFormed) (hop : v.registerFolder folder = .ok v') :
    v'.WellFormed ∧ Grows [folder] v v' := by
  simp only [VaultRegistry.registerFolder, Except.ok_iff, exists_const, Bool.not_eq_true'] at hop
  obtain ⟨hnew, rfl⟩ := hop
  have hnone : v.members.get folder = none := by
    by_contra hsome
    have hfolder := (h.listed folder).2 (Option.ne_none_iff_exists'.1 hsome)
    rw [hnew] at hfolder
    cases hfolder
  rw [show v.members.getD folder [] = [] by rw [OrdMap.getD, hnone]; rfl]
  generalize hv' : ({ folders := v.folders.insert folder (), members := v.members.insert folder [] } :
    VaultRegistry) = v'
  have hmembers : v'.members = v.members.insert folder [] := hv' ▸ rfl
  have hfolders : ∀ x, v'.isFolder x ↔ x = folder ∨ v.isFolder x := by
    intro x
    rw [← hv']
    simp [isFolder, OrdMap.contains_insert]
  have hholds : ∀ x y, v'.Holds x y → v.Holds x y := by
    intro x y hxy
    rw [holds_insert hmembers] at hxy
    split at hxy
    · cases hxy
    · exact hxy
  refine ⟨⟨fun x => ?_, fun x list hget => ?_, acyclic_mono h.acyclic hholds⟩, fun x hx => ?_,
    fun x y hxy => .inl (hholds x y hxy)⟩
  · rw [hfolders, hmembers, OrdMap.get_insert, h.listed x]
    split <;> simp [*]
  · rw [hmembers] at hget
    obtain ⟨-, rfl⟩ | ⟨-, hget⟩ := OrdMap.get_insert_eq_some.1 hget
    · exact List.nodup_nil
    · exact h.nodup x list hget
  · exact ((hfolders x).1 hx).symm.imp id List.mem_singleton.2

theorem WellFormed.closeFolder (h : v.WellFormed) (hop : v.closeFolder folder = .ok v') :
    v'.WellFormed ∧ Grows [folder] v v' := by
  simp only [VaultRegistry.closeFolder, Except.ok_iff, exists_const] at hop
  obtain ⟨-, -, hop⟩ := hop
  split at hop
  case h_1 => cases hop
  case h_2 =>
    obtain rfl := Except.ok.inj hop
    have hholds : ∀ x y, VaultRegistry.Holds ⟨v.folders.erase folder, v.members.erase folder⟩ x y →
        v.Holds x y := by
      rintro x y ⟨list, hget, hy⟩
      exact ⟨list, (OrdMap.get_erase_eq_some.1 hget).2, hy⟩
    refine ⟨⟨fun x => ?_, fun x list hget => ?_, acyclic_mono h.acyclic hholds⟩,
      .of_holds (fun x hx => ?_) hholds⟩
    · have hx := h.listed x
      simp only [isFolder, OrdMap.contains_erase, OrdMap.get_erase] at hx ⊢
      by_cases hne : x = folder <;> simp [hne, hx]
    · exact h.nodup x list (OrdMap.get_erase_eq_some.1 hget).2
    · simp only [isFolder, OrdMap.contains_erase, Bool.and_eq_true] at hx
      exact hx.2

/-- What `addMember` checks, and what it writes. -/
theorem addMember_eq_ok : v.addMember folder member = .ok v' ↔
    v.isFolder folder ∧ folder ≠ member ∧ (v.isFolder member && v.reaches member folder) = false ∧
      ∃ list, v.members.get folder = some list ∧ member ∉ list ∧
        v' = { v with members := v.members.insert folder (list ++ [member]) } := by
  simp only [addMember, Except.ok_iff, exists_const, Bool.not_eq_true',
    List.contains_eq_mem, decide_eq_false_iff_not, eq_comm (a := v')]

theorem WellFormed.addMember (h : v.WellFormed) (hop : v.addMember folder member = .ok v') :
    v'.WellFormed ∧ Grows [folder, member] v v' := by
  obtain ⟨hfolder, -, hcycle, list, hget, hnew, rfl⟩ := addMember_eq_ok.1 hop
  have hholds : ∀ x y, ({ v with members := v.members.insert folder (list ++ [member]) } :
      VaultRegistry).Holds x y → v.Holds x y ∨ x = folder ∧ y = member := by
    intro x y hxy
    rw [holds_insert (v := v) rfl] at hxy
    split at hxy
    case isTrue hx =>
      rw [List.mem_append, List.mem_singleton] at hxy
      exact hxy.imp (fun hy => ⟨list, hx ▸ hget, hy⟩) fun hy => ⟨hx, hy⟩
    case isFalse => exact .inl hxy
  refine ⟨h.insert hfolder ?_ ?_, fun x hx => .inl hx, fun x y hxy => ?_⟩
  · exact List.nodup_append.2 ⟨h.nodup folder list hget, by simp, by
      rintro a ha b hb rfl
      exact hnew (List.mem_singleton.1 hb ▸ ha)⟩
  · exact acyclic_mono (acyclic_of_edge h.acyclic (h.not_below hfolder hcycle)) hholds
  · exact (hholds x y hxy).imp id fun ⟨hx, hy⟩ => by simp [hx, hy]

/-- What `extractMember` checks, and what it writes. -/
theorem extractMember_eq_ok : v.extractMember folder member = .ok v' ↔
    ∃ list, v.members.get folder = some list ∧ member ∈ list ∧
      v' = { v with members := v.members.insert folder (list.erase member) } := by
  simp only [extractMember, Except.ok_iff, exists_const, List.contains_eq_mem, eq_comm (a := v')]

theorem holds_of_extracted (hget : v.members.get folder = some list) {x y : UInt64}
    (hxy : ({ v with members := v.members.insert folder (list.erase member) } :
      VaultRegistry).Holds x y) : v.Holds x y := by
  rw [holds_insert (v := v) rfl] at hxy
  split at hxy
  case isTrue hx => exact ⟨list, hx ▸ hget, List.mem_of_mem_erase hxy⟩
  case isFalse => exact hxy

theorem WellFormed.extractMember (h : v.WellFormed) (hop : v.extractMember folder member = .ok v') :
    v'.WellFormed ∧ Grows [folder, member] v v' := by
  obtain ⟨list, hget, -, rfl⟩ := extractMember_eq_ok.1 hop
  have hholds : ∀ x y, ({ v with members := v.members.insert folder (list.erase member) } :
      VaultRegistry).Holds x y → v.Holds x y := fun _ _ => holds_of_extracted hget
  exact ⟨h.insert ((h.listed folder).2 ⟨list, hget⟩) ((h.nodup folder list hget).erase _)
    (acyclic_mono h.acyclic hholds), .of_holds (fun _ hx => hx) hholds⟩

/-! ### Moves -/

/-- Everything a move can be refused for. -/
def checkMove (v : VaultRegistry) (source dest member : UInt64) : Except VaultError Unit := do
  Except.ensure (v.isFolder dest) (.unregisteredParent dest)
  Except.ensure (decide (dest ≠ member)) .selfMembership
  Except.ensure (!(v.isFolder member && v.reaches member dest)) (.cycle dest member)
  let list ← Except.ofOption (v.members.get source) (.unknownFolder source)
  Except.ensure (list.contains member) (.notMember member source)
  Except.ensure (!v.lists dest member) (.alreadyMember member dest)

theorem moveMember_eq (v : VaultRegistry) (source dest member : UInt64) :
    v.moveMember source dest member = v.checkMove source dest member >>= fun _ =>
      v.extractMember source member >>= (·.addMember dest member) := by
  simp [moveMember, checkMove, bind_assoc]

/-- A move that passes the checks goes through: the extraction takes nothing away that the addition
looks at. -/
theorem WellFormed.exists_move {source dest : UInt64} (h : v.WellFormed)
    (hcheck : v.checkMove source dest member = .ok ()) :
    ∃ v₁ v', v.extractMember source member = .ok v₁ ∧ v₁.addMember dest member = .ok v' := by
  simp only [checkMove, Except.ok_iff, exists_const, Bool.not_eq_true',
    List.contains_eq_mem] at hcheck
  obtain ⟨hfolder, hne, hcycle, list, hget, hmem, hnot⟩ := hcheck
  generalize hv₁ : ({ v with members := v.members.insert source (list.erase member) } :
    VaultRegistry) = v₁
  have hextract : v.extractMember source member = .ok v₁ :=
    extractMember_eq_ok.2 ⟨list, hget, hmem, hv₁.symm⟩
  have hholds : ∀ x y, v₁.Holds x y → v.Holds x y := by
    intro x y hxy
    rw [← hv₁] at hxy
    exact holds_of_extracted hget hxy
  have hfolder₁ : v₁.isFolder dest := by rw [← hv₁]; exact hfolder
  obtain ⟨list', hget'⟩ := ((h.extractMember hextract).1.listed dest).1 hfolder₁
  refine ⟨v₁, _, hextract, addMember_eq_ok.2 ⟨hfolder₁, hne, ?_, list', hget', ?_, rfl⟩⟩
  · by_contra hreaches
    rw [Bool.not_eq_false, Bool.and_eq_true] at hreaches
    exact h.not_below hfolder hcycle
      (ReflTransGen.mono hholds _ _ (reflTransGen_of_reachesWalk _ hreaches.2))
  · intro hlisted
    rw [holds_iff.1 (hholds dest member ⟨list', hget', hlisted⟩)] at hnot
    cases hnot

theorem WellFormed.moveMember {source dest : UInt64} (h : v.WellFormed)
    (hop : v.moveMember source dest member = .ok v') :
    v'.WellFormed ∧ Grows [source, dest, member] v v' := by
  simp only [moveMember_eq, Except.bind_eq_ok] at hop
  obtain ⟨-, -, v₁, hextract, hadd⟩ := hop
  obtain ⟨h₁, hgrows₁⟩ := h.extractMember hextract
  obtain ⟨h₂, hgrows₂⟩ := h₁.addMember hadd
  exact ⟨h₂, (hgrows₁.mono (by simp)).trans (hgrows₂.mono (by simp))⟩

/-! ### Transactions -/

/-- The operation a transaction carries. -/
def operate (v : VaultRegistry) : VaultTx → Except VaultError VaultRegistry
  | .registerFolder f => v.registerFolder f
  | .closeFolder f => v.closeFolder f
  | .addMember f m => v.addMember f m
  | .extractMember f m => v.extractMember f m
  | .moveMember s d m => v.moveMember s d m

theorem executeVaultTx_eq (v : VaultRegistry) (nfts : NftRegistry) (sender : Address)
    (tx : VaultTx) : executeVaultTx v nfts sender tx =
      tx.idsNamedBy.forM (requireSenderHolds nfts sender) >>= fun _ => v.operate tx := by
  cases tx <;> rfl

/-- Every operation that succeeds keeps the vault well formed, and what it adds it names. -/
theorem WellFormed.operate (h : v.WellFormed) (hop : v.operate tx = .ok v') :
    v'.WellFormed ∧ Grows tx.idsNamedBy v v' := by
  cases tx with
  | registerFolder f => exact h.registerFolder hop
  | closeFolder f => exact h.closeFolder hop
  | addMember f m => exact h.addMember hop
  | extractMember f m => exact h.extractMember hop
  | moveMember s d m => exact h.moveMember hop

/-! ### Refusals -/

/-- Run an operation on the registry itself.  Its checks come before its only write. -/
def inPlace (op : VaultRegistry → Except VaultError VaultRegistry) :
    EStateM VaultError VaultRegistry Unit := do
  set (← EStateM.ofExcept (op (← get)))

/-- The operation a transaction carries, on the registry itself.  A move writes twice. -/
def operateInPlace : VaultTx → EStateM VaultError VaultRegistry Unit
  | .registerFolder f => inPlace (·.registerFolder f)
  | .closeFolder f => inPlace (·.closeFolder f)
  | .addMember f m => inPlace (·.addMember f m)
  | .extractMember f m => inPlace (·.extractMember f m)
  | .moveMember s d m => do
    EStateM.ofExcept ((← get).checkMove s d m)
    inPlace (·.extractMember s m)
    inPlace (·.addMember d m)

def executeInPlace (nfts : NftRegistry) (sender : Address) (tx : VaultTx) :
    EStateM VaultError VaultRegistry Unit := do
  EStateM.ofExcept (tx.idsNamedBy.forM (requireSenderHolds nfts sender))
  operateInPlace tx

/-- What a call leaves behind that writes its result or nothing. -/
def atOnce (x : Except VaultError VaultRegistry) (v : VaultRegistry) :
    EStateM.Result VaultError VaultRegistry Unit :=
  match x with
  | .ok v' => .ok () v'
  | .error e => .error e v

theorem run_inPlace (op : VaultRegistry → Except VaultError VaultRegistry) (v : VaultRegistry) :
    (inPlace op).run v = atOnce (op v) v := by
  change (EStateM.ofExcept (op v) >>= fun t => MonadStateOf.set t : EStateM _ _ _).run v = _
  cases op v <;> rfl

theorem WellFormed.run_operateInPlace (h : v.WellFormed) (tx : VaultTx) :
    (operateInPlace tx).run v = atOnce (v.operate tx) v := by
  cases tx with
  | moveMember s d m =>
    change ((EStateM.ofExcept (v.checkMove s d m) >>= fun _ => inPlace (·.extractMember s m) >>=
      fun _ => inPlace (·.addMember d m)) : EStateM _ _ _).run v = _
    rw [VaultRegistry.operate, moveMember_eq]
    cases hcheck : v.checkMove s d m with
    | error e => rfl
    | ok u =>
      obtain ⟨v₁, v₂, hextract, hadd⟩ := h.exists_move hcheck
      have hrun₁ : (inPlace (·.extractMember s m)).run v = .ok () v₁ := by
        rw [run_inPlace, hextract]
        rfl
      have hrun₂ : (inPlace (·.addMember d m)).run v₁ = .ok () v₂ := by
        rw [run_inPlace, hadd]
        rfl
      change ((inPlace (·.extractMember s m) >>= fun _ => inPlace (·.addMember d m)) :
        EStateM _ _ _).run v = atOnce (v.extractMember s m >>= (·.addMember d m)) v
      rw [EStateM.run_bind, hrun₁, hextract]
      exact hrun₂.trans (congrArg (atOnce · v) hadd.symm)
  | _ => exact run_inPlace _ v

/-- On a well-formed vault a transaction writes what `executeVaultTx` computes, or nothing. -/
theorem WellFormed.run_executeInPlace (h : v.WellFormed) (nfts : NftRegistry) (sender : Address)
    (tx : VaultTx) :
    (executeInPlace nfts sender tx).run v = atOnce (executeVaultTx v nfts sender tx) v := by
  rw [executeVaultTx_eq, executeInPlace, EStateM.run_bind]
  cases tx.idsNamedBy.forM (requireSenderHolds nfts sender) with
  | error e => rfl
  | ok u => exact h.run_operateInPlace tx

/-- A refused transaction leaves the vault as it was. -/
theorem WellFormed.unchanged_of_refused (h : v.WellFormed) {nfts : NftRegistry} {sender : Address} {e : VaultError} (hrun : (executeInPlace nfts sender tx).run v = .error e v') :
    v' = v := by
  rw [h.run_executeInPlace] at hrun
  cases hx : executeVaultTx v nfts sender tx with
  | ok v₁ => rw [hx] at hrun; cases hrun
  | error e' => rw [hx] at hrun; exact (EStateM.Result.error.inj hrun).2.symm

end VaultRegistry

end Budlum
