import Budlum.Storage.Generated
import Budlum.Storage.History

/-!
# Where manifests come from

A manifest can enter the registry in three ways.  `registerManifestWithSource` checks the claim the
manifest makes about its source: a recipe is run and compared, and a dictionary must exist and gets
one more reference.  `registerManifest` and `openDeal` check neither.  Pruning forgets a manifest
and gives no reference back.

* `generated_proven_iff` : when every generated manifest of a run reproduces its shard.
* `references_exact_iff` : when the reference counts of a run are the numbers of manifests.
-/

namespace Budlum

open DictionaryRegistry OrdMap

namespace StorageRegistry

section Registration

variable (C : Crypto) (r : StorageRegistry)

/-- The master of a derivation is derived itself, or not known at all. -/
def masterIsDerived (masterId : ContentId) : Bool :=
  (r.manifests.get masterId).elim true fun m =>
    match m.source with
    | .derived _ => true
    | _ => false

/-- Check what a manifest claims about its source.  What cannot be checked is refused. -/
def checkSource (m : ContentManifest) : Except StorageError Unit := do
  (m.edition.checkSource m.source).mapError .invalidManifest
  match m.source with
  | .stored => pure ()
  | .generated spec => do
    Except.ensure (decide (m.shards.length = 1))
      (.invalidManifest "Generated manifest must have exactly one shard")
    let shard ← Except.ofOption m.shards.head? (.invalidManifest "Generated manifest has no shard")
    let _ ← (generateAndVerify C spec shard.shardId).mapError fun e => .invalidManifest
      s!"Generated manifest recipe does not reproduce its content: {reprStr e}"
  | .sealedGenerated spec => do
    Except.ensure (decide (m.shards.length = 1))
      (.invalidManifest "SealedGenerated manifest must have exactly one shard")
    Except.ensure (decide (spec.recipeCommitment ≠ 0))
      (.invalidManifest "SealedGenerated recipe_commitment must not be zero")
    Except.ensure (decide (spec.outputLen ≠ 0))
      (.invalidManifest "SealedGenerated output_len must be non-zero")
  | .hybrid _ _ => throw (.invalidManifest
      "Hybrid source cannot be verified on-chain; its prefix is not recoverable")
  | .derived spec => do
    spec.checkRegion.mapError fun e =>
      .invalidManifest s!"Derived spec is not internally consistent: {reprStr e}"
    (spec.checkMasterIsStored (r.masterIsDerived spec.masterId)).mapError fun e =>
      .invalidManifest s!"Derived master is not a stored object: {reprStr e}"
    throw (.invalidManifest "Derived source cannot be verified here; the master's bytes are not on chain")

/-- The dictionaries once a new manifest refers to one of them. -/
def acquireFor (m : ContentManifest) : Except StorageError DictionaryRegistry :=
  match m.dictionaryId with
  | none => .ok r.dictionaries
  | some dictionaryId =>
    if r.manifests.contains m.manifestId then .ok r.dictionaries
    else (r.dictionaries.acquireDictionary dictionaryId
        (r.dictionaries.hasDictionary m.manifestId)).mapError fun e =>
      .invalidManifest s!"dictionary reference is not usable: {reprStr e}"

/-- Register a manifest whose claims hold. -/
def registerManifestWithSource (m : ContentManifest) : Except StorageError StorageRegistry := do
  r.checkSource C m
  let dictionaries ← r.acquireFor m
  return { r with dictionaries := dictionaries }.registerManifest m

end Registration

end StorageRegistry

/-- A call that concerns manifests or dictionaries. -/
inductive SourceOp where
  | registerManifest (m : ContentManifest)
  | registerManifestWithSource (m : ContentManifest)
  | openDeal (q : DealRequest)
  | pruneContent (manifestId : ContentId)
  | registerDictionary (id : ContentId) (size : UInt64)
  | acquireDictionary (id : ContentId) (referrerIsDictionary : Bool)
  | releaseDictionary (id : ContentId) (nowEpoch : UInt64)
  | deleteDictionary (id : ContentId) (nowEpoch : UInt64)

namespace SourceOp

/-- The registry with other dictionaries, if there are any. -/
def withDictionaries (r : StorageRegistry) (result : Except DictionaryError DictionaryRegistry) :
    StorageRegistry :=
  match result with
  | .ok d => { r with dictionaries := d }
  | .error _ => r

variable (L : Linked)

/-- The registry after a call; one that fails leaves it as it is. -/
def after (op : SourceOp) (r : StorageRegistry) : StorageRegistry :=
  match op with
  | registerManifest m => r.registerManifest m
  | registerManifestWithSource m =>
    match r.registerManifestWithSource L.toCrypto m with
    | .ok r' => r'
    | .error _ => r
  | openDeal q =>
    match r.openDeal L q with
    | .ok (_, r') => r'
    | .error _ => r
  | pruneContent manifestId => r.pruneContent manifestId
  | registerDictionary id size => withDictionaries r (r.dictionaries.registerDictionary id size)
  | acquireDictionary id b => withDictionaries r (r.dictionaries.acquireDictionary id b)
  | releaseDictionary id nowEpoch =>
    { r with dictionaries := r.dictionaries.releaseDictionary id nowEpoch }
  | deleteDictionary id nowEpoch =>
    withDictionaries r (r.dictionaries.deleteDictionary id nowEpoch)

/-- The manifest that enters by the call without a look at its claims. -/
def entersUnchecked (op : SourceOp) (r : StorageRegistry) : Option ContentManifest :=
  match op with
  | registerManifest m => if r.manifests.contains m.manifestId then none else some m
  | openDeal q =>
    if (r.openDeal L q).toBool && !r.manifests.contains q.manifest.manifestId then some q.manifest
    else none
  | _ => none

end SourceOp

namespace StorageRegistry

variable {L : Linked} {r r' : StorageRegistry} {m : ContentManifest}

/-! ### What enters -/

theorem registerManifest_of_known (h : r.manifests.contains m.manifestId = true) :
    r.registerManifest m = r := by
  rw [registerManifest, if_pos h]

theorem registerManifest_of_new (h : r.manifests.contains m.manifestId = false) :
    r.registerManifest m = { r with manifests := r.manifests.insert m.manifestId m } := by
  rw [registerManifest, if_neg (by simp [h])]

theorem registerManifest_dictionaries (m : ContentManifest) :
    (r.registerManifest m).dictionaries = r.dictionaries := by
  unfold registerManifest
  split <;> rfl

theorem openDeal_manifests {q : DealRequest} {dealId : UInt64}
    (h : r.openDeal L q = .ok (dealId, r')) : r'.manifests = (r.registerManifest q.manifest).manifests ∧
      r'.dictionaries = r.dictionaries := by
  obtain ⟨shardBytes, next, -, -, -, rfl⟩ := openDeal_eq_ok h
  exact ⟨rfl, registerManifest_dictionaries q.manifest⟩

theorem registerManifestWithSource_eq_ok {C : Crypto} :
    r.registerManifestWithSource C m = .ok r' ↔ r.checkSource C m = .ok () ∧
      ∃ dictionaries, r.acquireFor m = .ok dictionaries ∧
        r' = { r with dictionaries := dictionaries }.registerManifest m := by
  simp only [registerManifestWithSource, Except.ok_iff]
  constructor
  · rintro ⟨⟨⟩, hcheck, dictionaries, hacquire, rfl⟩
    exact ⟨hcheck, dictionaries, hacquire, rfl⟩
  · rintro ⟨hcheck, dictionaries, hacquire, rfl⟩
    exact ⟨(), hcheck, dictionaries, hacquire, rfl⟩

/-! ### Recipes -/

/-- A manifest that claims to be generated has one shard, and its recipe reproduces it. -/
def isReproduced (C : Crypto) (m : ContentManifest) : Bool :=
  match m.source, m.shards with
  | .generated spec, [shard] => (generateAndVerify C spec shard.shardId).toBool
  | .generated _, _ => false
  | _, _ => true

/-- Every generated manifest of the registry reproduces its shard. -/
def GeneratedProven (C : Crypto) (r : StorageRegistry) : Prop :=
  ∀ id m, r.manifests.get id = some m → isReproduced C m = true

theorem isReproduced_of_checkSource {C : Crypto} (h : r.checkSource C m = .ok ()) :
    isReproduced C m = true := by
  unfold isReproduced
  split
  · rename_i spec shard hsource hshards
    simp only [checkSource, hsource, hshards, Except.ok_iff, Except.mapError_eq_ok,
      List.head?_cons, Option.some.injEq] at h
    obtain ⟨-, -, -, -, _, rfl, bytes, hbytes, -⟩ := h
    rw [hbytes]
    rfl
  · rename_i spec shards hsource hmany
    simp only [checkSource, hsource, Except.ok_iff, Except.mapError_eq_ok] at h
    obtain ⟨-, -, -, hone, -⟩ := h
    obtain ⟨shard, hshard⟩ := List.length_eq_one_iff.1 hone
    exact absurd hshard (hmany shard)
  · rfl

theorem generatedProven_insert {C : Crypto} {id : ContentId} (hr : r.GeneratedProven C)
    (hmanifests : r'.manifests = r.manifests.insert id m) :
    r'.GeneratedProven C ↔ isReproduced C m = true := by
  constructor
  · intro hr'
    exact hr' id m (by rw [hmanifests, get_insert_self])
  · intro hm j m' hget
    rw [hmanifests] at hget
    obtain ⟨-, rfl⟩ | ⟨-, hget⟩ := OrdMap.get_insert_eq_some.1 hget
    · exact hm
    · exact hr j m' hget

theorem generatedProven_congr {C : Crypto} (hr : r.GeneratedProven C)
    (hmanifests : r'.manifests = r.manifests) : r'.GeneratedProven C := by
  intro id m hget
  exact hr id m (hmanifests ▸ hget)

end StorageRegistry

namespace SourceOp

open StorageRegistry

variable {L : Linked}

theorem withDictionaries_manifests (r : StorageRegistry)
    (result : Except DictionaryError DictionaryRegistry) :
    (withDictionaries r result).manifests = r.manifests := by
  cases result <;> rfl

/-- The manifest that enters by the call unchecked reproduces its shard. -/
def EntersProven (L : Linked) (op : SourceOp) (r : StorageRegistry) : Prop :=
  ∀ m, op.entersUnchecked L r = some m → isReproduced L.toCrypto m = true

/-- A manifest that is entered by hand keeps the recipes proven exactly when its own is. -/
theorem generatedProven_register {r r' : StorageRegistry} {m : ContentManifest}
    (hr : r.GeneratedProven L.toCrypto) (hmanifests : r'.manifests = (r.registerManifest m).manifests) :
    r'.GeneratedProven L.toCrypto ↔
      (r.manifests.contains m.manifestId = false → isReproduced L.toCrypto m = true) := by
  cases hknown : r.manifests.contains m.manifestId with
  | true =>
    rw [registerManifest_of_known hknown] at hmanifests
    exact ⟨nofun, fun _ => generatedProven_congr hr hmanifests⟩
  | false =>
    rw [registerManifest_of_new hknown] at hmanifests
    rw [generatedProven_insert hr hmanifests]
    exact ⟨fun h _ => h, fun h => h rfl⟩

theorem generatedProven_after_iff (op : SourceOp) (r : StorageRegistry) (_ : True)
    (hr : r.GeneratedProven L.toCrypto) :
    (op.after L r).GeneratedProven L.toCrypto ↔ op.EntersProven L r := by
  have hkept : ∀ r' : StorageRegistry, r'.manifests = r.manifests → op.entersUnchecked L r = none →
      (r'.GeneratedProven L.toCrypto ↔ op.EntersProven L r) := by
    intro r' hmanifests hnone
    exact ⟨fun _ m hm => by simp [hnone] at hm, fun _ => generatedProven_congr hr hmanifests⟩
  cases op with
  | registerManifest m =>
    refine (generatedProven_register hr rfl).trans ?_
    cases hknown : r.manifests.contains m.manifestId <;>
      simp [EntersProven, entersUnchecked, hknown]
  | openDeal q =>
    cases hopen : r.openDeal L q with
    | error e =>
      refine hkept _ ?_ ?_
      · simp [after, hopen]
      · simp [entersUnchecked, hopen, Except.toBool]
    | ok result =>
      obtain ⟨hmanifests, -⟩ := openDeal_manifests hopen
      have hafter : (SourceOp.openDeal q).after L r = result.2 := by simp [after, hopen]
      rw [hafter]
      refine (generatedProven_register hr hmanifests).trans ?_
      cases hknown : r.manifests.contains q.manifest.manifestId <;>
        simp [EntersProven, entersUnchecked, hknown, hopen, Except.toBool]
  | registerManifestWithSource m =>
    cases hregister : r.registerManifestWithSource L.toCrypto m with
    | error e =>
      refine hkept _ ?_ rfl
      simp [after, hregister]
    | ok r' =>
      obtain ⟨hcheck, dictionaries, -, rfl⟩ := registerManifestWithSource_eq_ok.1 hregister
      have hafter : (SourceOp.registerManifestWithSource m).after L r =
          { r with dictionaries := dictionaries }.registerManifest m := by simp [after, hregister]
      rw [hafter]
      have hr₁ : ({ r with dictionaries := dictionaries } : StorageRegistry).GeneratedProven
        L.toCrypto := hr
      refine ⟨fun _ m hm => by simp [entersUnchecked] at hm, fun _ => ?_⟩
      exact (generatedProven_register hr₁ rfl).2 fun _ => isReproduced_of_checkSource hcheck
  | pruneContent manifestId =>
    refine ⟨fun _ m hm => by simp [entersUnchecked] at hm, fun _ id m hget => ?_⟩
    exact hr id m (OrdMap.get_erase_eq_some.1 hget).2
  | registerDictionary id size | acquireDictionary id b | deleteDictionary id nowEpoch =>
    exact hkept _ (withDictionaries_manifests r _) rfl
  | releaseDictionary id nowEpoch => exact hkept _ rfl rfl

/-- **In every state of a run every registered manifest that claims to be generated reproduces its
shard, exactly when every manifest that enters without a check of its source does.** -/
theorem generated_proven_iff (L : Linked) (ops : List SourceOp) :
    (∀ r ∈ Trace.states (after L) ops {}, r.GeneratedProven L.toCrypto) ↔
      Trace.Guarded (after L) (EntersProven L) ops {} :=
  Trace.forall_states_iff (I := fun _ => True) (fun _ _ _ => trivial) generatedProven_after_iff ops
    trivial fun _ _ h => by simp at h

/-- A recipe for three bytes. -/
def recipe : GeneratedSpec := ⟨.avatar, 0, 3, 4096⟩

/-- A manifest that claims its one shard, of other content, is generated. -/
def mislabelled : ContentManifest := { ContentManifest.sample with source := .generated recipe }

/-- The two ways around the check let a recipe in that does not reproduce its shard, the checked way
does not. -/
theorem mislabelled_registered :
    ¬ StorageRegistry.GeneratedProven Linked.storing.toCrypto
      (Trace.final (after Linked.storing) [.registerManifest mislabelled] {}) ∧
    ¬ StorageRegistry.GeneratedProven Linked.storing.toCrypto
      (Trace.final (after Linked.storing)
        [.openDeal { DealRequest.sample 3 0 with manifest := mislabelled }] {}) ∧
    ({} : StorageRegistry).registerManifestWithSource Linked.storing.toCrypto mislabelled ≠
      .ok (({} : StorageRegistry).registerManifest mislabelled) := by
  refine ⟨fun h => ?_, fun h => ?_, fun h => ?_⟩
  · exact absurd (h 1 mislabelled (by decide +kernel)) (by decide +kernel)
  · exact absurd (h 1 mislabelled (by decide +kernel)) (by decide +kernel)
  · have hrefused : (({} : StorageRegistry).registerManifestWithSource Linked.storing.toCrypto
        mislabelled).toBool = false := by decide +kernel
    rw [h] at hrefused
    cases hrefused

end SourceOp

/-! ### References -/

namespace StorageRegistry

variable {r r' : StorageRegistry} {m : ContentManifest} {id dictionaryId : ContentId}

/-- The number of registered manifests that name a dictionary. -/
def naming (r : StorageRegistry) (dictionaryId : ContentId) : Nat :=
  r.manifests.sumBy fun _ m => if m.dictionaryId = some dictionaryId then 1 else 0

/-- The references to every dictionary are the manifests that name it. -/
def ReferencesExact (r : StorageRegistry) : Prop :=
  ∀ dictionaryId entry, r.dictionaries.entries.get dictionaryId = some entry →
    entry.refs.toNat = r.naming dictionaryId

/-- The manifest names a dictionary that is registered. -/
def namesKnown (r : StorageRegistry) (m : ContentManifest) : Bool :=
  m.dictionaryId.any r.dictionaries.hasDictionary

theorem namesKnown_eq_false : r.namesKnown m = false ↔
    ∀ d entry, r.dictionaries.entries.get d = some entry → m.dictionaryId ≠ some d := by
  unfold namesKnown
  cases m.dictionaryId with
  | none => simp
  | some d =>
    simp only [Option.any_some, hasDictionary, contains_eq_false]
    constructor
    · rintro hnone d' entry hget heq
      rw [Option.some.inj heq, hget] at hnone
      cases hnone
    · intro h
      cases hget : r.dictionaries.entries.get d with
      | none => rfl
      | some entry => exact absurd rfl (h d entry hget)

theorem naming_insert (hfree : r.manifests.get id = none)
    (hmanifests : r'.manifests = r.manifests.insert id m) (d : ContentId) :
    r'.naming d = r.naming d + if m.dictionaryId = some d then 1 else 0 := by
  have hsum := sumBy_insert
    (fun _ (m : ContentManifest) => if m.dictionaryId = some d then 1 else 0) r.manifests id m
  rw [amountAt_of_none hfree] at hsum
  rwa [naming, hmanifests]

theorem naming_erase (hget : r.manifests.get id = some m)
    (hmanifests : r'.manifests = r.manifests.erase id) (d : ContentId) :
    r'.naming d + (if m.dictionaryId = some d then 1 else 0) = r.naming d := by
  have hsum := sumBy_erase
    (fun _ (m : ContentManifest) => if m.dictionaryId = some d then 1 else 0) r.manifests id
  rw [amountAt_of_get hget] at hsum
  rwa [naming, hmanifests]

theorem referencesExact_congr (hr : r.ReferencesExact) (hmanifests : r'.manifests = r.manifests)
    (hdictionaries : r'.dictionaries = r.dictionaries) : r'.ReferencesExact := by
  intro d entry hget
  rw [hdictionaries] at hget
  rw [naming, hmanifests]
  exact hr d entry hget

/-- A manifest enters or leaves and nothing is counted. -/
theorem referencesExact_moved (hr : r.ReferencesExact) (hdictionaries : r'.dictionaries = r.dictionaries)
    (hmoved : ∀ d, r'.naming d = r.naming d ↔ m.dictionaryId ≠ some d) :
    r'.ReferencesExact ↔ r.namesKnown m = false := by
  rw [namesKnown_eq_false, ReferencesExact, hdictionaries]
  refine forall₃_congr fun d entry hget => ?_
  rw [hr d entry hget, eq_comm, hmoved]

/-- One count is replaced, and no other dictionary is named more or less. -/
theorem referencesExact_entry {entry : DictionaryEntry} {n : Nat} (hr : r.ReferencesExact)
    (hnaming : ∀ d, d ≠ dictionaryId → r'.naming d = r.naming d)
    (hentries : r'.dictionaries.entries = r.dictionaries.entries.insert dictionaryId entry)
    (hn : r'.naming dictionaryId = n) : r'.ReferencesExact ↔ entry.refs.toNat = n := by
  subst hn
  constructor
  · intro hr'
    exact hr' dictionaryId entry (by rw [hentries, get_insert_self])
  · intro hentry d e hget
    rw [hentries] at hget
    obtain ⟨rfl, rfl⟩ | ⟨hd, hget⟩ := OrdMap.get_insert_eq_some.1 hget
    · exact hentry
    · exact (hr d e hget).trans (hnaming d hd).symm

/-- A count goes up by one, unless it is full. -/
theorem toNat_acquired (n : UInt32) :
    (if n = maxRefs then n else n + 1).toNat =
      n.toNat + if n = maxRefs then 0 else 1 := by
  split_ifs with h
  · rfl
  · have hlt := n.toNat_lt
    have hne : n.toNat ≠ 2 ^ 32 - 1 := fun hn => h (UInt32.toNat_inj.1 hn)
    rw [UInt32.toNat_add]
    exact Nat.mod_eq_of_lt (by simp; omega)

end StorageRegistry

namespace SourceOp

open StorageRegistry

variable (L : Linked)

/-- What a call must find so that the counts stay exact.  A manifest that names a known dictionary
neither enters unchecked nor is pruned; a new dictionary is not named yet; references move with
manifests only. -/
def KeepsReferences (op : SourceOp) (r : StorageRegistry) : Prop :=
  match op with
  | registerManifest _ | openDeal _ =>
    ∀ m, op.entersUnchecked L r = some m → r.namesKnown m = false
  | registerManifestWithSource m =>
    (r.registerManifestWithSource L.toCrypto m).toBool = true →
      r.manifests.contains m.manifestId = false → ∀ d, m.dictionaryId = some d →
        r.dictionaries.referenceCount d ≠ some DictionaryRegistry.maxRefs
  | pruneContent manifestId => ∀ m, r.manifests.get manifestId = some m → r.namesKnown m = false
  | registerDictionary id size =>
    (r.dictionaries.registerDictionary id size).toBool = true →
      r.dictionaries.hasDictionary id = false → r.naming id = 0
  | acquireDictionary id b =>
    (r.dictionaries.acquireDictionary id b).toBool = true →
      r.dictionaries.referenceCount id = some DictionaryRegistry.maxRefs
  | releaseDictionary id _ => ∀ n, r.dictionaries.referenceCount id = some n → n = 0
  | deleteDictionary _ _ => True

variable {L} {r r' : StorageRegistry} (id : ContentId)

/-- A manifest that is entered by hand keeps the counts exact when it names no known dictionary. -/
theorem referencesExact_register {m : ContentManifest} (hr : r.ReferencesExact)
    (hmanifests : r'.manifests = (r.registerManifest m).manifests)
    (hdictionaries : r'.dictionaries = r.dictionaries) :
    r'.ReferencesExact ↔ (r.manifests.contains m.manifestId = false → r.namesKnown m = false) := by
  cases hknown : r.manifests.contains m.manifestId with
  | true =>
    rw [registerManifest_of_known hknown] at hmanifests
    exact ⟨nofun, fun _ => referencesExact_congr hr hmanifests hdictionaries⟩
  | false =>
    rw [registerManifest_of_new hknown] at hmanifests
    rw [referencesExact_moved (m := m) hr hdictionaries fun d => by
      simp [naming_insert (OrdMap.contains_eq_false.1 hknown) hmanifests]]
    exact ⟨fun h _ => h, fun h => h rfl⟩

theorem registerManifest_references (m : ContentManifest) (hr : r.ReferencesExact) :
    ((registerManifest m).after L r).ReferencesExact ↔ (registerManifest m).KeepsReferences L r := by
  refine (referencesExact_register hr rfl (registerManifest_dictionaries m)).trans ?_
  cases hknown : r.manifests.contains m.manifestId <;>
    simp [KeepsReferences, entersUnchecked, hknown]

theorem openDeal_references (q : DealRequest) (hr : r.ReferencesExact) :
    ((openDeal q).after L r).ReferencesExact ↔ (openDeal q).KeepsReferences L r := by
  cases hopen : r.openDeal L q with
  | error e => simp [after, KeepsReferences, entersUnchecked, hopen, Except.toBool, hr]
  | ok result =>
    obtain ⟨hmanifests, hdictionaries⟩ := openDeal_manifests hopen
    have hafter : (openDeal q).after L r = result.2 := by simp [after, hopen]
    rw [hafter]
    refine (referencesExact_register hr hmanifests hdictionaries).trans ?_
    cases hknown : r.manifests.contains q.manifest.manifestId <;>
      simp [KeepsReferences, entersUnchecked, hknown, hopen, Except.toBool]

/-- A manifest that is registered with its source brings its reference. -/
theorem registerManifestWithSource_references (m : ContentManifest) (hr : r.ReferencesExact) :
    ((registerManifestWithSource m).after L r).ReferencesExact ↔
      (registerManifestWithSource m).KeepsReferences L r := by
  cases hregister : r.registerManifestWithSource L.toCrypto m with
  | error e => simp [after, KeepsReferences, hregister, Except.toBool, hr]
  | ok r' =>
    have hafter : (registerManifestWithSource m).after L r = r' := by simp [after, hregister]
    rw [hafter]
    obtain ⟨-, dictionaries, hacquire, rfl⟩ := registerManifestWithSource_eq_ok.1 hregister
    simp only [KeepsReferences, hregister, Except.toBool, forall_const]
    cases hnames : if r.manifests.contains m.manifestId then none else m.dictionaryId with
    | none =>
      have hsame : r.dictionaries = dictionaries := by
        cases hname : m.dictionaryId <;> simp_all [acquireFor]
      subst hsame
      refine (referencesExact_register hr rfl (registerManifest_dictionaries m)).trans ?_
      split_ifs at hnames with hknown
      · simp [hknown]
      · simp [hnames, namesKnown]
    | some d =>
      split_ifs at hnames with hknown
      have hfree := OrdMap.contains_eq_false.1 (Bool.not_eq_true _ ▸ hknown)
      rw [StorageRegistry.registerManifest, if_neg hknown]
      simp only [acquireFor, hnames, hknown, Bool.false_eq_true, if_false, Except.mapError_eq_ok] at hacquire
      obtain ⟨entry, hentry, rfl⟩ := acquireDictionary_eq_ok hacquire
      refine Iff.trans (referencesExact_entry hr (fun d' hd => ?_) rfl
        (naming_insert (m := m) hfree rfl d)) ?_
      · refine (naming_insert (m := m) hfree rfl d').trans ?_
        simp [hnames, hd.symm]
      · rw [if_pos hnames, ← hr d entry hentry, toNat_acquired]
        simp [referenceCount, hknown, hnames, hentry]

theorem pruneContent_references (manifestId : ContentId) (hr : r.ReferencesExact) :
    ((pruneContent manifestId).after L r).ReferencesExact ↔
      (pruneContent manifestId).KeepsReferences L r := by
  cases hget : r.manifests.get manifestId with
  | none =>
    refine ⟨fun _ m hm => by simp [hget] at hm, fun _ => ?_⟩
    refine referencesExact_congr hr (ext_get fun id => ?_) rfl
    change (r.manifests.erase manifestId).get id = r.manifests.get id
    rw [get_erase]
    split
    · rw [‹id = manifestId›, hget]
    · rfl
  | some m =>
    have herase : ∀ d, (r.pruneContent manifestId).naming d + _ = _ := naming_erase hget rfl
    refine Iff.trans (referencesExact_moved (m := m) hr rfl fun d => ?_) (by simp [KeepsReferences, hget])
    simp [after, ← herase d]

theorem registerDictionary_references (size : UInt64) (hr : r.ReferencesExact) :
    ((registerDictionary id size).after L r).ReferencesExact ↔
      (registerDictionary id size).KeepsReferences L r := by
  cases hregister : r.dictionaries.registerDictionary id size with
  | error e => simp [after, withDictionaries, KeepsReferences, hregister, Except.toBool, hr]
  | ok d =>
    simp only [after, withDictionaries, KeepsReferences, hregister, Except.toBool, forall_const]
    rcases registerDictionary_eq_ok hregister with ⟨hhas, rfl⟩ | ⟨hnew, rfl⟩
    · exact ⟨fun _ hnew => by simp [hhas] at hnew, fun _ => hr⟩
    · refine Iff.trans (referencesExact_entry (n := r.naming id) hr (fun _ _ => rfl) rfl rfl) ?_
      simp [hnew, eq_comm]

theorem acquireDictionary_references (b : Bool) (hr : r.ReferencesExact) :
    ((acquireDictionary id b).after L r).ReferencesExact ↔
      (acquireDictionary id b).KeepsReferences L r := by
  cases hacquire : r.dictionaries.acquireDictionary id b with
  | error e => simp [after, withDictionaries, KeepsReferences, hacquire, Except.toBool, hr]
  | ok d =>
    simp only [after, withDictionaries, KeepsReferences, hacquire, Except.toBool, forall_const]
    obtain ⟨entry, hentry, rfl⟩ := acquireDictionary_eq_ok hacquire
    refine Iff.trans (referencesExact_entry (n := r.naming id) hr (fun _ _ => rfl) rfl rfl) ?_
    rw [toNat_acquired, hr id entry hentry]
    simp [referenceCount, hentry]

theorem releaseDictionary_references (nowEpoch : UInt64) (hr : r.ReferencesExact) :
    ((releaseDictionary id nowEpoch).after L r).ReferencesExact ↔
      (releaseDictionary id nowEpoch).KeepsReferences L r := by
  simp only [after, KeepsReferences, DictionaryRegistry.releaseDictionary,
    referenceCount]
  cases hentry : r.dictionaries.entries.get id with
  | none => exact ⟨fun _ n hn => by simp at hn, fun _ => hr⟩
  | some entry =>
    refine Iff.trans (referencesExact_entry (n := r.naming id) hr (fun _ _ => rfl) rfl rfl) ?_
    simp only [Option.map_some, Option.some.injEq, forall_eq', ← hr id entry hentry]
    split
    · simp [‹entry.refs = 0›]
    · rename_i hsome
      simp only [hsome, iff_false]
      have hpos : entry.refs.toNat ≠ 0 := fun hzero => hsome (UInt32.toNat_inj.1 hzero)
      have hle : 1 ≤ entry.refs := UInt32.le_iff_toNat_le.2 (Nat.one_le_iff_ne_zero.2 hpos)
      rw [UInt32.toNat_sub_of_le _ _ hle]
      exact fun heq => absurd heq (Nat.ne_of_lt (Nat.sub_lt (Nat.pos_of_ne_zero hpos) one_pos))

theorem deleteDictionary_references (nowEpoch : UInt64) (hr : r.ReferencesExact) :
    ((deleteDictionary id nowEpoch).after L r).ReferencesExact := by
  cases hdelete : r.dictionaries.deleteDictionary id nowEpoch with
  | error e => simpa [after, withDictionaries, hdelete] using hr
  | ok d =>
    simp only [after, withDictionaries, hdelete]
    rcases deleteDictionary_eq_ok hdelete with ⟨-, rfl⟩ | ⟨entry, -, -, rfl⟩
    · exact hr
    · intro d e hget
      exact hr d e (OrdMap.get_erase_eq_some.1 hget).2

theorem referencesExact_after_iff (op : SourceOp) (r : StorageRegistry) (_ : True)
    (hr : r.ReferencesExact) : (op.after L r).ReferencesExact ↔ op.KeepsReferences L r := by
  cases op with
  | registerManifest m => exact registerManifest_references m hr
  | registerManifestWithSource m => exact registerManifestWithSource_references m hr
  | openDeal q => exact openDeal_references q hr
  | pruneContent manifestId => exact pruneContent_references manifestId hr
  | registerDictionary id size => exact registerDictionary_references id size hr
  | acquireDictionary id b => exact acquireDictionary_references id b hr
  | releaseDictionary id nowEpoch => exact releaseDictionary_references id nowEpoch hr
  | deleteDictionary id nowEpoch =>
    exact ⟨fun _ => trivial, fun _ => deleteDictionary_references id nowEpoch hr⟩

/-- **In every state of a run the references to each dictionary are the registered manifests that
name it, exactly when every call of the run moves references and manifests together.** -/
theorem references_exact_iff (L : Linked) (ops : List SourceOp) :
    (∀ r ∈ Trace.states (after L) ops {}, r.ReferencesExact) ↔
      Trace.Guarded (after L) (KeepsReferences L) ops {} :=
  Trace.forall_states_iff (I := fun _ => True) (fun _ _ _ => trivial) referencesExact_after_iff ops
    trivial fun _ _ h => by simp at h

def compressed : ContentManifest := { ContentManifest.sample with dictionaryId := some 5 }

/-- A deal's manifest is not counted; a pruned one stays counted; and a dictionary is deleted under a
registered manifest that names it. -/
theorem references_drift :
    ¬ (Trace.final (after Linked.storing) [.registerDictionary 5 10,
      .openDeal { DealRequest.sample 3 0 with manifest := compressed }] {}).ReferencesExact ∧
    ¬ (Trace.final (after Linked.storing) [.registerDictionary 5 10,
      .registerManifestWithSource compressed, .pruneContent 1] {}).ReferencesExact ∧
    (let r := Trace.final (after Linked.storing) [.registerDictionary 5 10,
      .registerManifest compressed, .releaseDictionary 5 0, .deleteDictionary 5 1024] {}
    r.manifests.get 1 = some compressed ∧ r.dictionaries.hasDictionary 5 = false) := by
  refine ⟨fun h => ?_, fun h => ?_, by decide +kernel⟩
  · exact absurd (h 5 ⟨10, 0, none⟩ (by decide +kernel)) (by decide +kernel)
  · exact absurd (h 5 ⟨10, 1, none⟩ (by decide +kernel)) (by decide +kernel)

end SourceOp

end Budlum
