import Budlum.Core.StateRoot
import Budlum.Lib.MerkleRows

/-!
# The cached state root

The account state keeps the tree over the accounts from one root to the next, and the set of accounts
that may have changed since.  As long as no account was added, the next root recomputes only the
leaves of those accounts and the nodes above them.

* `CachedState.calculateStateRoot` : the root, and what is remembered of it.  There is no result
  where the source would index out of bounds.
* `CachedState.Current` : the remembered tree is right but for the accounts marked as changed.
* `CachedState.cached_root_eq_rebuilt` : **after any work on the accounts the root is the one that is
  computed without a cache.**
-/

namespace Budlum

open AccountState OrdMap

/-- The order in which hash sets are walked through.  The standard library leaves it open. -/
structure WalkOrder where
  keys : List Address → List Address
  keys_perm : ∀ l, (keys l).Perm l
  indices : List Nat → List Nat
  indices_perm : ∀ l, (indices l).Perm l

/-- What is remembered of the last root. -/
structure RootCache where
  /-- Accounts that may have changed since. -/
  dirtyAccounts : List Address := []
  /-- Accounts may have been added since. -/
  keysDirty : Bool := true
  cachedLeaves : List Hash32 := []
  cachedKeys : List Address := []
  /-- The rows of the tree over the leaves. -/
  cachedTree : List (List Hash32) := []

structure CachedState where
  state : AccountState
  cache : RootCache := {}

namespace CachedState

variable (C : Crypto) (R : RegistryRoots) (order : WalkOrder) (c : CachedState)

/-! ### Roots -/

/-- The whole tree. -/
def rebuild : RootCache :=
  let leaves := c.state.accountLeaves C
  { c.cache with
    cachedKeys := c.state.accounts.keys
    cachedLeaves := leaves
    cachedTree := Merkle.rows (AccountState.accountNode C) (fun x => AccountState.accountNode C x x) leaves
    keysDirty := false }

/-- The leaf of one account, and its position among the affected ones.  `binary_search` finds a key
where it is, the keys being distinct. -/
def refreshLeaf (acc : List Hash32 × List Nat) (key : Address) : Option (List Hash32 × List Nat) :=
  match c.cache.cachedKeys.idxOf? key, c.state.accounts.get key with
  | some pos, some account =>
    if pos < acc.1.length then
      some (acc.1.set pos (AccountState.accountLeaf C key account), acc.2.insert pos)
    else none
  | _, _ => some acc

/-- The leaves of the changed accounts and the nodes above them. -/
def refresh : Option RootCache := do
  let (leaves, affected) ←
    (order.keys c.cache.dirtyAccounts).foldlM (c.refreshLeaf C) (c.cache.cachedLeaves, [])
  match c.cache.cachedTree with
  | [] => none
  | _ :: above =>
    let above ← Merkle.refreshAbove (AccountState.accountNode C)
      (fun x => AccountState.accountNode C x x) order.indices leaves affected above
    return { c.cache with cachedLeaves := leaves, cachedTree := leaves :: above }

/-- The cache after the tree over the accounts was brought up to date. -/
def update : Option RootCache :=
  if c.state.accounts.size = 0 then
    some { c.cache with cachedKeys := [], cachedLeaves := [], cachedTree := [], keysDirty := false }
  else if c.cache.keysDirty || c.cache.cachedTree.isEmpty then some (c.rebuild C)
  else c.refresh C order

/-- The root of the remembered tree. -/
def topHash (cache : RootCache) : Option Hash32 :=
  cache.cachedTree.getLast?.elim (some 0) List.head?

def calculateStateRoot : Option (String × CachedState) := do
  let cache ← c.update C order
  let accountsRoot ← topHash cache
  return (toHex (C.sha256 (c.state.stateRootPreimageOver C R accountsRoot)),
    ⟨c.state, { cache with dirtyAccounts := [] }⟩)

/-- Forget everything. -/
def clearCaches : CachedState := ⟨c.state, {}⟩

/-! ### Work on the accounts -/

def genesisBalance : UInt64 := 1000000000

/-- `get_or_create`, and what the caller makes of the account. -/
def updateAccount (a : Address) (f : Account → Account) : CachedState where
  state := c.state.setAccount a (f (c.state.account a))
  cache := { c.cache with
    keysDirty := c.cache.keysDirty || !c.state.accounts.contains a
    dirtyAccounts := c.cache.dirtyAccounts.insert a }

def initGenesis (a : Address) : CachedState where
  state := c.state.setAccount a { balance := genesisBalance }
  cache := { c.cache with keysDirty := true }

def addValidator (a : Address) (stake : UInt64) : CachedState where
  state := c.state.addValidator a stake
  cache := { c.cache with keysDirty := true }

def loadFromStorage (accounts : OrdMap Address Account) : CachedState where
  state := { c.state with accounts := accounts }
  cache := { c.cache with keysDirty := true }

def markDirty (a : Address) : CachedState :=
  { c with cache := { c.cache with dirtyAccounts := c.cache.dirtyAccounts.insert a } }

def markAllAccountsDirty : CachedState :=
  { c with cache := { c.cache with
      dirtyAccounts := c.cache.dirtyAccounts ∪ c.state.accounts.keys } }

inductive Work where
  | updateAccount (a : Address) (f : Account → Account)
  | initGenesis (a : Address)
  | addValidator (a : Address) (stake : UInt64)
  | loadFromStorage (accounts : OrdMap Address Account)
  | markDirty (a : Address)
  | markAllAccountsDirty
  /-- The other parts of the state change, the accounts do not. -/
  | elsewhere (s : AccountState)
  | calculateStateRoot

def work : Work → Option CachedState
  | .updateAccount a f => some (c.updateAccount a f)
  | .initGenesis a => some (c.initGenesis a)
  | .addValidator a stake => some (c.addValidator a stake)
  | .loadFromStorage accounts => some (c.loadFromStorage accounts)
  | .markDirty a => some (c.markDirty a)
  | .markAllAccountsDirty => some c.markAllAccountsDirty
  | .elsewhere s => some { c with state := { s with accounts := c.state.accounts } }
  | .calculateStateRoot => (c.calculateStateRoot C R order).map Prod.snd

def runWork (works : List Work) : Option CachedState := works.foldlM (work C R order) c

/-! ### The remembered tree -/

/-- The remembered tree is over the accounts there are, and its leaves are theirs but for the accounts
marked as changed.  Where accounts may have been added, or nothing is remembered, it says nothing. -/
def Current : Prop :=
  c.cache.keysDirty = false → c.cache.cachedTree ≠ [] →
    c.cache.cachedKeys = c.state.accounts.keys ∧
    c.cache.cachedTree = Merkle.rows (AccountState.accountNode C)
      (fun x => AccountState.accountNode C x x) c.cache.cachedLeaves ∧
    c.cache.cachedLeaves.length = c.state.accounts.size ∧
    ∀ (i : Nat) (a : Address), c.state.accounts.keys[i]? = some a → a ∉ c.cache.dirtyAccounts →
      c.cache.cachedLeaves[i]? = some (AccountState.accountLeaf C a (c.state.account a))

variable {C R order c} {acc : List Hash32 × List Nat} {walked : List Address} {s : AccountState}
  {cache : RootCache}

theorem getElem?_accountLeaves (s : AccountState) (i : Nat) :
    (s.accountLeaves C)[i]? =
      s.accounts.keys[i]?.map fun a => accountLeaf C a (s.account a) := by
  rw [accountLeaves, map_entries s.accounts (accountLeaf C) {},
    List.getElem?_map]
  rfl

theorem length_accountLeaves (s : AccountState) : (s.accountLeaves C).length = s.accounts.size :=
  List.length_map _

/-- The leaves of the accounts walked through are new and their positions affected; the other leaves
are those remembered. -/
structure Walked (C : Crypto) (c : CachedState) (walked : List Address)
    (acc : List Hash32 × List Nat) : Prop where
  length_eq : acc.1.length = c.state.accounts.size
  inRange : ∀ i ∈ acc.2, i < c.state.accounts.size
  leaf : ∀ (i : Nat) (a : Address), c.state.accounts.keys[i]? = some a → a ∈ walked →
    i ∈ acc.2 ∧ acc.1[i]? = some (AccountState.accountLeaf C a (c.state.account a))
  kept : ∀ (i : Nat) (a : Address), c.state.accounts.keys[i]? = some a → a ∉ walked →
    acc.1[i]? = c.cache.cachedLeaves[i]?

theorem walked_refreshLeaf (hkeys : c.cache.cachedKeys = c.state.accounts.keys) (h : Walked C c walked acc) (key : Address) : ∃ acc', c.refreshLeaf C
    acc key = some acc' ∧ Walked C c (key :: walked) acc' := by
  unfold refreshLeaf
  rw [hkeys]
  cases hpos : c.state.accounts.keys.idxOf? key with
  | none =>
    -- the account does not exist
    have hne : ∀ (i : Nat) (a : Address), c.state.accounts.keys[i]? = some a → a ≠ key := by
      rintro i a hi rfl
      exact List.idxOf?_eq_none_iff.1 hpos (List.mem_of_getElem? hi)
    refine ⟨acc, rfl, h.length_eq, h.inRange, fun i a hi ha => ?_, fun i a hi ha => ?_⟩
    · exact h.leaf i a hi ((List.mem_cons.1 ha).resolve_left (hne i a hi))
    · exact h.kept i a hi fun hmem => ha (List.mem_cons_of_mem _ hmem)
  | some pos =>
    obtain ⟨hlt, hkey, -⟩ := List.idxOf?_eq_some_iff.1 hpos
    have hat : c.state.accounts.keys[pos]? = some key := by rw [List.getElem?_eq_getElem hlt, hkey]
    have hsize : pos < c.state.accounts.size := by simpa [OrdMap.keys, size] using hlt
    obtain ⟨account, hget⟩ := OrdMap.contains_iff.1 (OrdMap.mem_keys.1 (List.mem_of_getElem? hat))
    have haccount : c.state.account key = account := by
      rw [AccountState.account, getD, hget, Option.getD_some]
    -- another account has another position
    have hother : ∀ (i : Nat) (a : Address), c.state.accounts.keys[i]? = some a → a ≠ key → pos ≠ i := by
      rintro i a hi hne rfl
      exact hne (Option.mem_unique hi hat)
    rw [hget]
    dsimp only
    rw [if_pos (h.length_eq ▸ hsize)]
    refine ⟨_, rfl, (List.length_set ..).trans h.length_eq, fun i hi => ?_, fun i a hi ha => ?_,
      fun i a hi ha => ?_⟩
    · rcases List.mem_insert_iff.1 hi with rfl | hi
      · exact hsize
      · exact h.inRange i hi
    · by_cases hak : a = key
      · subst hak
        have hipos : i = pos :=
          (List.getElem?_inj (List.getElem?_eq_some_iff.1 hi).1 c.state.accounts.nodup_keys).1
            (hi.trans hat.symm)
        subst hipos
        rw [List.getElem?_set_self (h.length_eq ▸ hsize), haccount]
        exact ⟨List.mem_insert_self, rfl⟩
      · obtain ⟨haff, hleaf⟩ := h.leaf i a hi ((List.mem_cons.1 ha).resolve_left hak)
        exact ⟨List.mem_insert_of_mem haff, (List.getElem?_set_ne (hother i a hi hak)).trans hleaf⟩
    · rw [List.mem_cons, not_or] at ha
      obtain ⟨hak, hmem⟩ := ha
      exact (List.getElem?_set_ne (hother i a hi hak)).trans (h.kept i a hi hmem)

theorem walked_foldlM (hkeys : c.cache.cachedKeys = c.state.accounts.keys) (keys : List Address) (h : Walked C c walked acc) : ∃ acc', keys.foldlM (c.refreshLeaf C) acc
    = some acc' ∧ Walked C c (keys.reverse ++ walked) acc' := by
  induction keys generalizing walked acc with
  | nil => exact ⟨acc, rfl, h⟩
  | cons key keys ih =>
    obtain ⟨acc₁, hacc₁, h₁⟩ := walked_refreshLeaf hkeys h key
    obtain ⟨acc', hacc', h'⟩ := ih h₁
    refine ⟨acc', ?_, by simpa using h'⟩
    rwa [List.foldlM_cons, hacc₁]

/-- The tree over the accounts as they are. -/
def tree (C : Crypto) (s : AccountState) : List (List Hash32) :=
  Merkle.rows (AccountState.accountNode C) (fun x => AccountState.accountNode C x x)
    (s.accountLeaves C)

/-- A current tree is brought up to date. -/
theorem refresh_eq (h : c.Current C) (hdirty : c.cache.keysDirty = false)
    (htree : c.cache.cachedTree ≠ []) :
    c.refresh C order = some { c.cache with
      cachedLeaves := c.state.accountLeaves C, cachedTree := tree C c.state } := by
  obtain ⟨hkeys, hrows, hlen, hleaves⟩ := h hdirty htree
  have hstart : Walked C c [] (c.cache.cachedLeaves, []) :=
    ⟨hlen, nofun, nofun, fun _ _ _ _ => rfl⟩
  obtain ⟨⟨leaves, affected⟩, hfold, hwalked⟩ :=
    walked_foldlM hkeys (order.keys c.cache.dirtyAccounts) hstart
  have hmem : ∀ a, a ∈ (order.keys c.cache.dirtyAccounts).reverse ++ [] ↔
      a ∈ c.cache.dirtyAccounts := by
    intro a
    rw [List.append_nil, List.mem_reverse]
    exact (order.keys_perm _).mem_iff
  have hout : ∀ (i : Nat) (l : List Hash32), l.length = c.state.accounts.size →
      c.state.accounts.keys[i]? = none → l[i]? = none := by
    intro i l hl hi
    rw [List.getElem?_eq_none_iff] at hi ⊢
    rwa [hl, size, ← List.length_map Prod.fst]
  have hnew : leaves = c.state.accountLeaves C := by
    refine List.ext_getElem? fun i => ?_
    cases hi : c.state.accounts.keys[i]? with
    | none => rw [hout i _ hwalked.length_eq hi, hout i _ (length_accountLeaves _) hi]
    | some a =>
      rw [getElem?_accountLeaves, hi]
      by_cases ha : a ∈ c.cache.dirtyAccounts
      · exact (hwalked.leaf i a hi ((hmem a).2 ha)).2
      · exact (hwalked.kept i a hi fun h => ha ((hmem a).1 h)).trans (hleaves i a hi ha)
  subst hnew
  have hsame : ∀ i, i ∉ affected → c.cache.cachedLeaves[i]? = (c.state.accountLeaves C)[i]? := by
    intro i hi
    cases hkey : c.state.accounts.keys[i]? with
    | none => rw [hout i _ hlen hkey, hout i _ (length_accountLeaves _) hkey]
    | some a =>
      have ha : a ∉ (order.keys c.cache.dirtyAccounts).reverse ++ [] := fun ha =>
        hi (hwalked.leaf i a hkey ha).1
      exact (hwalked.kept i a hkey ha).symm
  have habove : Merkle.refreshAbove (accountNode C)
      (fun x => accountNode C x x) order.indices (c.state.accountLeaves C) affected
      c.cache.cachedTree.tail = some (tree C c.state).tail := by
    rw [hrows]
    exact Merkle.refreshAbove_rows order.indices_perm (hlen.trans hwalked.length_eq.symm) hsame
      fun i hi => hwalked.length_eq.symm ▸ hwalked.inRange i hi
  rw [refresh, hfold]
  cases hcached : c.cache.cachedTree with
  | nil => exact absurd hcached htree
  | cons row above =>
    rw [hcached, List.tail_cons] at habove
    simp only [Option.bind_eq_bind, Option.bind_some, habove]
    rw [tree, ← Merkle.rows_eq_cons]
    rfl

/-! ### Roots from the cache -/

theorem topHash_tree (h : s.accounts.size ≠ 0)
    (hcache : cache.cachedTree = tree C s) : topHash cache = some (s.accountsRoot C) := by
  have hne : s.accountLeaves C ≠ [] := fun hnil =>
    h (by rw [← length_accountLeaves (C := C), hnil, List.length_nil])
  rw [topHash, hcache, tree, Merkle.getLast?_rows hne, AccountState.accountsRoot]
  cases Merkle.root (accountNode C) _ (s.accountLeaves C) <;> rfl

/-- A tree over the accounts as they are is current, whatever is marked. -/
theorem current_of_tree
    (hkeys : cache.cachedKeys = s.accounts.keys) (hleaves : cache.cachedLeaves = s.accountLeaves C)
    (htree : cache.cachedTree = tree C s) : (⟨s, cache⟩ : CachedState).Current C := by
  refine fun _ _ => ⟨hkeys, htree.trans (by rw [tree, hleaves]), ?_, fun i a hi _ => ?_⟩
  · rw [hleaves, length_accountLeaves]
  · rw [hleaves, getElem?_accountLeaves, hi]
    rfl

/-- The root is that of the state, and what is remembered of it is current. -/
theorem calculateStateRoot_eq (R : RegistryRoots) (order : WalkOrder) (h : c.Current C) :
    ∃ c', c.calculateStateRoot C R order = some (c.state.calculateStateRoot C R, c') ∧
      c'.Current C := by
  obtain ⟨cache, hupdate, htop, hcurrent⟩ : ∃ cache, c.update C order = some cache ∧
      topHash cache = some (c.state.accountsRoot C) ∧
      (⟨c.state, { cache with dirtyAccounts := [] }⟩ : CachedState).Current C := by
    unfold update
    split_ifs with hsize hdirty
    · refine ⟨_, rfl, ?_, fun _ hne => absurd rfl hne⟩
      have hnil : c.state.accountLeaves C = [] :=
        List.eq_nil_of_length_eq_zero ((length_accountLeaves _).trans hsize)
      rw [AccountState.accountsRoot, hnil, Merkle.root]
      rfl
    · exact ⟨_, rfl, topHash_tree hsize rfl, current_of_tree rfl rfl rfl⟩
    · rw [Bool.or_eq_true, not_or, Bool.not_eq_true, List.isEmpty_iff] at hdirty
      refine ⟨_, refresh_eq h hdirty.1 hdirty.2, topHash_tree hsize rfl, ?_⟩
      exact current_of_tree (h hdirty.1 hdirty.2).1 rfl rfl
  refine ⟨_, ?_, hcurrent⟩
  rw [calculateStateRoot, hupdate, Option.bind_eq_bind, Option.bind_some, htop]
  rfl

/-! ### Work -/

theorem current_of_keysDirty (h : c.cache.keysDirty = true) : c.Current C :=
  fun hclean => nomatch h.symm.trans hclean

/-- Marking more accounts does not hurt. -/
theorem Current.mark (h : c.Current C) {dirty : List Address} (hsub : c.cache.dirtyAccounts ⊆ dirty) :
    ({ c with cache := { c.cache with dirtyAccounts := dirty } } : CachedState).Current C :=
  fun hclean htree =>
    let ⟨hkeys, hrows, hlen, hleaves⟩ := h hclean htree
    ⟨hkeys, hrows, hlen, fun i a hi ha => hleaves i a hi fun hmem => ha (hsub hmem)⟩

/-- An account that changes is marked, one that is new marks the keys. -/
theorem Current.updateAccount (h : c.Current C) (a : Address) (f : Account → Account) :
    (c.updateAccount a f).Current C := by
  intro hclean htree
  obtain ⟨hold, hexists⟩ : c.cache.keysDirty = false ∧ c.state.accounts.contains a = true := by
    simpa [CachedState.updateAccount] using hclean
  obtain ⟨hkeys, hrows, hlen, hleaves⟩ := h hold htree
  have hsame : (c.updateAccount a f).state.accounts.keys = c.state.accounts.keys :=
    keys_insert hexists _
  have hsize : (c.updateAccount a f).state.accounts.size = c.state.accounts.size := by
    rw [size, ← List.length_map Prod.fst]
    exact (congrArg List.length hsame).trans (List.length_map _)
  refine ⟨hkeys.trans hsame.symm, hrows, hlen.trans hsize.symm, fun i b hi hb => ?_⟩
  rw [hsame] at hi
  obtain ⟨hba, hclean'⟩ : b ≠ a ∧ b ∉ c.cache.dirtyAccounts := by
    simpa [CachedState.updateAccount] using hb
  have haccount : (c.updateAccount a f).state.account b = c.state.account b := by
    change (c.state.accounts.insert a _).getD b {} = c.state.accounts.getD b {}
    rw [getD, getD, get_insert_of_ne _ hba]
  rw [haccount]
  exact hleaves i b hi hclean'

theorem Current.work (h : c.Current C) (R : RegistryRoots) (order : WalkOrder) (w : Work) :
    ∃ c', c.work C R order w = some c' ∧ c'.Current C := by
  cases w with
  | updateAccount a f => exact ⟨_, rfl, h.updateAccount a f⟩
  | initGenesis a | addValidator a stake | loadFromStorage accounts =>
    exact ⟨_, rfl, current_of_keysDirty rfl⟩
  | markDirty a => exact ⟨_, rfl, h.mark fun _ => List.mem_insert_of_mem⟩
  | markAllAccountsDirty => exact ⟨_, rfl, h.mark fun _ hmem => List.mem_union_left hmem _⟩
  | elsewhere s => exact ⟨_, rfl, h⟩
  | calculateStateRoot =>
    obtain ⟨c', hroot, hc'⟩ := calculateStateRoot_eq R order h
    exact ⟨c', by rw [CachedState.work, hroot]; rfl, hc'⟩

theorem Current.runWork (h : c.Current C) (R : RegistryRoots) (order : WalkOrder)
    (works : List Work) : ∃ c', c.runWork C R order works = some c' ∧ c'.Current C := by
  induction works generalizing c with
  | nil => exact ⟨c, rfl, h⟩
  | cons w works ih =>
    obtain ⟨c₁, hwork, h₁⟩ := h.work R order w
    obtain ⟨c', hrun, h'⟩ := ih h₁
    refine ⟨c', ?_, h'⟩
    rwa [CachedState.runWork, List.foldlM_cons, hwork]

/-- **The cache does not show.**  After any work on a state, roots in between included, and in
whatever order sets are walked through, the root from the cache is the root from nothing. -/
theorem cached_root_eq_rebuilt (C : Crypto) (R : RegistryRoots) (order order' : WalkOrder)
    (s : AccountState) (works : List Work) :
    ∃ c root c₁ c₂, (⟨s, {}⟩ : CachedState).runWork C R order works = some c ∧
      c.calculateStateRoot C R order = some (root, c₁) ∧
      c.clearCaches.calculateStateRoot C R order' = some (root, c₂) := by
  obtain ⟨c, hrun, hc⟩ := Current.runWork (c := ⟨s, {}⟩) (current_of_keysDirty rfl) R order works
  obtain ⟨c₁, hroot, -⟩ := calculateStateRoot_eq R order hc
  obtain ⟨c₂, hrebuilt, -⟩ :=
    calculateStateRoot_eq (c := c.clearCaches) R order' (current_of_keysDirty rfl)
  exact ⟨c, _, c₁, c₂, hrun, hroot, hrebuilt⟩

end CachedState

end Budlum
