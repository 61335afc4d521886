import Budlum.Storage.History

/-!
# What the end of a deal leaves of an object

A deal may not end if its shard has no other replica and the object has no more live shards than its
floor.  Live shards are counted over the positions of the manifest's list, as if one deal kept one
position; a shard that is listed twice is kept at both positions by one deal, and lost at both with it.

* `liveShardCount_expired` : the end of a deal takes the positions which that deal alone keeps.
* `aloneShardCount_le` : in an object of distinct shards the guard leaves room for them.
* `expirySpares_iff` : when deals can end without taking an object below the shards it needs.
-/

namespace Budlum.StorageRegistry

section Keepers

variable (r : StorageRegistry) (dealId : UInt64) (deal : StorageDeal) (manifestId shardId : ContentId)

/-- The active deals over a shard. -/
def keepers : List UInt64 :=
  (r.dealsByShard.getD (toLex (manifestId, shardId)) []).filter fun id =>
    (r.deals.get id).any StorageDeal.isActive

/-- The registry after the term of an active deal. -/
def expired : StorageRegistry :=
  { r with deals := r.deals.insert dealId { deal with status := .expired } }

/-- The shard is live, by no other deal. -/
def keepsAlone : Bool :=
  decide (r.keepers manifestId shardId ≠ []) &&
    (r.keepers manifestId shardId).all fun id => decide (id = dealId)

/-- The positions of an object that one deal alone keeps. -/
def aloneShardCount : Nat :=
  (r.manifests.get manifestId).elim 0 fun m =>
    m.shards.countP fun s => r.keepsAlone dealId manifestId s.shardId

/-- No end of the deal takes an object from the shards it needs, or more, to fewer. -/
def ExpirySpares : Prop :=
  ∀ nowEpoch bond r' manifestId m, r.expireDeal dealId nowEpoch = .ok (bond, r') →
    r.manifests.get manifestId = some m → m.erasure.k.toNat ≤ r.liveShardCount manifestId →
      m.erasure.k.toNat ≤ r'.liveShardCount manifestId

theorem activeReplicaCount_eq :
    r.activeReplicaCount manifestId shardId = (r.keepers manifestId shardId).length := by
  rw [activeReplicaCount, dealsForShard, List.countP_filterMap, keepers, ← List.countP_eq_length_filter]
  exact List.countP_congr fun id _ => by cases r.deals.get id <;> simp

theorem keepers_expired : (r.expired dealId deal).keepers manifestId shardId =
    (r.keepers manifestId shardId).filter fun id => decide (id ≠ dealId) := by
  rw [keepers, keepers, List.filter_filter]
  refine List.filter_congr fun id _ => ?_
  by_cases hid : id = dealId
  · simp [expired, hid, StorageDeal.isActive]
  · simp [expired, OrdMap.get_insert_of_ne _ hid, hid]

/-- A deal alone keeps the shards that are live only before its end. -/
theorem keepsAlone_iff : r.keepsAlone dealId manifestId shardId = true ↔
    0 < r.activeReplicaCount manifestId shardId ∧
      ¬ 0 < (r.expired dealId deal).activeReplicaCount manifestId shardId := by
  simp [keepsAlone, activeReplicaCount_eq, keepers_expired, List.length_pos_iff]

/-- The end of a deal takes the positions that the deal alone keeps, and no others. -/
theorem liveShardCount_expired :
    (r.expired dealId deal).liveShardCount manifestId + r.aloneShardCount dealId manifestId =
      r.liveShardCount manifestId := by
  have hmanifests : (r.expired dealId deal).manifests = r.manifests := rfl
  unfold liveShardCount aloneShardCount
  rw [hmanifests]
  cases r.manifests.get manifestId with
  | none => rfl
  | some m =>
    simp only [Option.elim_some]
    induction m.shards with
    | nil => rfl
    | cons s shards ih =>
      have hlive : (r.expired dealId deal).activeReplicaCount manifestId s.shardId ≤
          r.activeReplicaCount manifestId s.shardId := by
        rw [activeReplicaCount_eq, activeReplicaCount_eq, keepers_expired]
        exact List.length_filter_le _ _
      simp only [List.countP_cons, decide_eq_true_eq, keepsAlone_iff r dealId deal] at ih ⊢
      split_ifs <;> omega

end Keepers

variable {r : StorageRegistry} {dealId : UInt64} {deal : StorageDeal}

/-- An active deal can end exactly when the guard lets it. -/
theorem expireDeal_active {nowEpoch bond : UInt64} {r' : StorageRegistry}
    (hget : r.deals.get dealId = some deal) (hactive : deal.isActive = true) :
    r.expireDeal dealId nowEpoch = .ok (bond, r') ↔ deal.dealEndEpoch ≤ nowEpoch ∧
      r.wouldStrand deal = false ∧ deal.economics.operatorBond = bond ∧
      r.expired dealId deal = r' := by
  have hstatus : deal.status = .active := by simpa [StorageDeal.isActive] using hactive
  simp [expireDeal, hget, hstatus, expired, -bind_pure_comp]

/-- In an object of distinct shards, with an index that lists every deal once and under its own
shard, the guard leaves room for what the deal alone keeps. -/
theorem aloneShardCount_le {manifestId : ContentId} {m : ContentManifest}
    (hguard : r.wouldStrand deal = false) (hm : r.manifests.get manifestId = some m)
    (hdistinct : (m.shards.map (·.shardId)).Nodup)
    (hindex : ∀ s, (r.keepers manifestId s).Nodup ∧ (dealId ∈ r.keepers manifestId s →
      deal.manifestId = manifestId ∧ deal.shardId = s))
    (hlive : m.erasure.k.toNat ≤ r.liveShardCount manifestId) :
    m.erasure.k.toNat + r.aloneShardCount dealId manifestId ≤ r.liveShardCount manifestId := by
  have hown : ∀ s, r.keepsAlone dealId manifestId s = true → r.keepers manifestId s = [dealId] := by
    intro s hs
    simp only [keepsAlone, Bool.and_eq_true, decide_eq_true_eq, List.all_eq_true] at hs
    have hrep : r.keepers manifestId s = .replicate (r.keepers manifestId s).length dealId :=
      List.eq_replicate_iff.2 ⟨rfl, hs.2⟩
    have hle := List.nodup_replicate.1 (hrep ▸ (hindex s).1)
    have hpos := List.length_pos_iff.2 hs.1
    rw [hrep, show (r.keepers manifestId s).length = 1 by omega, List.replicate_one]
  have hshard : ∀ s, r.keepsAlone dealId manifestId s = true → deal.shardId = s := fun s hs =>
    ((hindex s).2 (by simp [hown s hs])).2
  have hcount : r.aloneShardCount dealId manifestId ≤ 1 := by
    calc r.aloneShardCount dealId manifestId
      _ = m.shards.countP fun s => r.keepsAlone dealId manifestId s.shardId := by
        simp [aloneShardCount, hm]
      _ ≤ (m.shards.map (·.shardId)).count deal.shardId := by
        rw [List.count, List.countP_map]
        exact List.countP_mono_left fun s _ hs => by simpa using (hshard _ hs).symm
      _ ≤ 1 := List.nodup_iff_count.1 hdistinct _
  by_cases hnone : r.aloneShardCount dealId manifestId = 0
  · omega
  · simp only [aloneShardCount, hm, Option.elim_some, List.countP_eq_zero, not_forall, not_not] at hnone
    obtain ⟨s, -, hs⟩ := hnone
    obtain ⟨hmanifest, hshard⟩ := (hindex s.shardId).2 (by simp [hown _ hs])
    simp [wouldStrand, hmanifest, hshard, activeReplicaCount_eq, hown _ hs, permanenceFloor,
      hm] at hguard
    omega

/-- **A deal can end without taking an object below the shards it needs exactly when no object that
has them has the deal alone for more of its positions than it can miss.** -/
theorem expirySpares_iff (r : StorageRegistry) (dealId : UInt64) : r.ExpirySpares dealId ↔
    ∀ deal, r.deals.get dealId = some deal → deal.isActive = true → r.wouldStrand deal = false →
      ∀ manifestId m, r.manifests.get manifestId = some m →
        m.erasure.k.toNat ≤ r.liveShardCount manifestId →
          m.erasure.k.toNat + r.aloneShardCount dealId manifestId ≤
            r.liveShardCount manifestId := by
  constructor
  · intro hspares deal hget hactive hguard manifestId m hm hlive
    have hafter := hspares deal.dealEndEpoch _ _ manifestId m
      ((expireDeal_active hget hactive).2 ⟨le_rfl, hguard, rfl, rfl⟩) hm hlive
    have hlost := liveShardCount_expired r dealId deal manifestId
    omega
  · intro hroom nowEpoch bond r' manifestId m hcall hm hlive
    obtain ⟨deal, hget, ⟨-, -, rfl⟩ | ⟨hactive, -, -⟩⟩ := expireDeal_eq_ok hcall
    · exact hlive
    · obtain ⟨-, hguard, -, rfl⟩ := (expireDeal_active hget hactive).1 hcall
      have hkept := hroom deal hget hactive hguard manifestId m hm hlive
      have hlost := liveShardCount_expired r dealId deal manifestId
      omega

/-! ### A shard listed twice -/

/-- An object of one shard, listed as a code word of two that needs one. -/
def doubledRegistry : StorageRegistry :=
  Trace.final (StorageOp.after .storing .sample)
    [.registerManifest { ContentManifest.sample with
        shards := [⟨0, 7, 1, .data⟩, ⟨1, 7, 1, .parity⟩], shardCount := 2, erasure := ⟨1, 2⟩ },
      .openDeal (.sample 1 0)] {}

/-- The only deal over the shard may end: two positions are live, above the floor of one, and both are
lost. -/
theorem doubled_shard_lost : ¬ doubledRegistry.ExpirySpares 0 := by
  intro hspares
  have hgone := hspares 1000 5 (doubledRegistry.expired 0 ((DealRequest.sample 1 0).deal 0 1)) 1 _
    (by decide +kernel) rfl (by decide +kernel)
  exact absurd hgone (by decide +kernel)

end Budlum.StorageRegistry
