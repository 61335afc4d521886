import Budlum.Core.Primitives

/-!
# Content manifests

A manifest lists the shards of a stored object with their sizes, the erasure code they belong to and
where the bytes come from.  Its identifier is a digest of all of that, so a manifest from outside is
checked before it is used: the parts must agree with each other and with the identifier.
-/

namespace Budlum

open Except (ensure ofOption)

/-! ### Shards and codes -/

inductive ShardKind where
  | data
  | parity
  deriving DecidableEq, Repr

structure ShardRef where
  index : UInt32
  shardId : ContentId
  size : UInt32
  kind : ShardKind := .data
  deriving DecidableEq, Repr

inductive ContentCipher where
  | aes256Gcm
  | chaCha20Poly1305
  | xChaCha20Poly1305
  deriving DecidableEq, Repr

namespace ContentCipher

def commitmentTag : ContentCipher → UInt8
  | aes256Gcm => 1
  | chaCha20Poly1305 => 2
  | xChaCha20Poly1305 => 3

def display : ContentCipher → String
  | aes256Gcm => "aes-256-gcm"
  | chaCha20Poly1305 => "chacha20-poly1305"
  | xChaCha20Poly1305 => "xchacha20-poly1305"

end ContentCipher

inductive ContentEncryption where
  | plaintext
  | clientSide (cipher : ContentCipher)
  deriving DecidableEq, Repr

namespace ContentEncryption

def commitmentTag : ContentEncryption → UInt8
  | plaintext => 0
  | clientSide cipher => cipher.commitmentTag

def isEncrypted : ContentEncryption → Bool
  | plaintext => false
  | clientSide _ => true

def display : ContentEncryption → String
  | plaintext => "plaintext"
  | clientSide cipher => s!"client-side/{cipher.display}"

end ContentEncryption

/-- Any `k` of `n` shards give the object back. -/
structure ErasureScheme where
  k : UInt32 := 1
  n : UInt32 := 1
  deriving DecidableEq, Repr

namespace ErasureScheme

variable (e : ErasureScheme)

def parityCount : Nat := e.n.toNat - e.k.toNat

/-- A third of the parity shards, rounded up, but two of them if there are two. -/
def repairMargin : Nat := min (max ((e.parityCount + 2) / 3) 2) e.parityCount

def validate : Except String Unit := do
  ensure (decide (e.k ≠ 0)) "erasure scheme k must be at least 1"
  ensure (decide (e.k ≤ e.n))
    s!"erasure scheme n {e.n} is below k {e.k}; n counts data plus parity"

end ErasureScheme

/-! ### Where the bytes come from -/

inductive GeneratorId where
  | avatar
  | gradient
  | rings
  deriving DecidableEq, Repr

def GeneratorId.generatorCommitmentTag : GeneratorId → UInt8
  | avatar => 1
  | gradient => 2
  | rings => 3

/-- A recipe anybody can run. -/
structure GeneratedSpec where
  generator : GeneratorId
  seed : Hash32
  outputLen : UInt32
  stepBudget : UInt32
  deriving DecidableEq, Repr

/-- A recipe whose seed is only committed to. -/
structure SealedGeneratedSpec where
  generator : GeneratorId
  outputLen : UInt32
  stepBudget : UInt32
  recipeCommitment : Hash32
  deriving DecidableEq, Repr

inductive DerivedTransform where
  | crop
  | leading
  deriving DecidableEq, Repr

def DerivedTransform.transformTag : DerivedTransform → UInt8
  | crop => 1
  | leading => 2

/-- A leading run of a master's bytes. -/
structure PrefixSpan where
  keptBytes : UInt64
  masterBytes : UInt64
  deriving DecidableEq, Repr

/-- A part of another object. -/
structure DerivedSpec where
  masterId : ContentId
  transform : DerivedTransform
  blockX : UInt32
  blockY : UInt32
  blockW : UInt32
  blockH : UInt32
  masterBlocksW : UInt32
  masterBlocksH : UInt32
  span : Option PrefixSpan
  deriving DecidableEq, Repr

inductive ContentSource where
  | stored
  | generated (spec : GeneratedSpec)
  | sealedGenerated (spec : SealedGeneratedSpec)
  | hybrid (prefixBytes : UInt32) (spec : GeneratedSpec)
  | derived (spec : DerivedSpec)
  deriving DecidableEq, Repr

/-- How many replicas an object needs: a recipe is its own copy. -/
def requiredReplicaCount (source : ContentSource) (fullTarget : UInt8) : UInt8 :=
  match source with
  | .generated _ | .sealedGenerated _ => 1
  | .stored | .hybrid _ _ | .derived _ => fullTarget

/-- The bytes an operator holds of an object of the given size. -/
def heldBytes (source : ContentSource) (objectBytes : UInt64) : Option UInt64 :=
  match source with
  | .stored => some objectBytes
  | .generated _ | .sealedGenerated _ | .derived _ => some 0
  | .hybrid prefixBytes _ =>
    if objectBytes < prefixBytes.toUInt64 then none else some prefixBytes.toUInt64

inductive BudStorageEdition where
  | classic
  | three
  deriving DecidableEq, Repr

namespace BudStorageEdition

def admitsBody : BudStorageEdition → Bool
  | classic => true
  | three => false

def commitmentBytes : BudStorageEdition → Bytes
  | classic => []
  | three => textBytes "BUD_EDITION_3"

def checkSource : BudStorageEdition → ContentSource → Except String Unit
  | classic, _ => .ok ()
  | three, .generated _ => .ok ()
  | three, .sealedGenerated _ => .ok ()
  | three, .stored => .error
    "BUD edition Three admits no durable body: ContentSource::Stored is Classic-only"
  | three, .hybrid _ _ => .error
    "BUD edition Three admits no durable body: ContentSource::Hybrid is Classic-only"
  | three, .derived _ => .error
    "BUD edition Three admits no durable body: Derived depends on a master body and is Classic-only"

end BudStorageEdition

/-! ### Commitments -/

section Commitments

variable (C : Crypto)

def generatedSpecDigest (spec : GeneratedSpec) : Hash32 :=
  C.hashFieldsBytes [textBytes "BDLM_GENERATED_SPEC_V1", [spec.generator.generatorCommitmentTag],
    hashBytes spec.seed, u32Bytes spec.outputLen, u32Bytes spec.stepBudget]

def sealedGeneratedCommitment (spec : SealedGeneratedSpec) : Hash32 :=
  C.hashFieldsBytes [textBytes "BDLM_SEALED_GENERATED_V1", [spec.generator.generatorCommitmentTag],
    u32Bytes spec.outputLen, u32Bytes spec.stepBudget, hashBytes spec.recipeCommitment]

def DerivedSpec.derivationCommitmentTag (spec : DerivedSpec) : Hash32 :=
  C.hashFieldsBytes [textBytes "BDLM_DERIVED_CONTENT_V1", hashBytes spec.masterId,
    [spec.transform.transformTag], u32Bytes spec.blockX, u32Bytes spec.blockY, u32Bytes spec.blockW,
    u32Bytes spec.blockH, u32Bytes spec.masterBlocksW, u32Bytes spec.masterBlocksH,
    [if spec.span.isSome then 1 else 0], u64Bytes (spec.span.elim 0 (·.keptBytes)),
    u64Bytes (spec.span.elim 0 (·.masterBytes))]

def sourceCommitmentBytes : ContentSource → Bytes
  | .stored => []
  | .generated spec => 1 :: hashBytes (generatedSpecDigest C spec)
  | .sealedGenerated spec => 4 :: hashBytes (sealedGeneratedCommitment C spec)
  | .hybrid prefixBytes spec => 2 :: u32Bytes prefixBytes ++ hashBytes (generatedSpecDigest C spec)
  | .derived spec => 3 :: hashBytes (spec.derivationCommitmentTag C)

end Commitments

/-! ### Manifests -/

structure ContentManifest where
  manifestId : ContentId
  owner : Address := Address.zero
  dictionaryId : Option ContentId := none
  totalSize : UInt64
  shardCount : UInt32
  shards : List ShardRef
  erasure : ErasureScheme := {}
  source : ContentSource := .stored
  edition : BudStorageEdition := .classic
  contentSize : UInt64 := 0
  encryption : ContentEncryption := .plaintext
  deriving DecidableEq, Repr

/-- The authentication tag every cipher appends. -/
def minAeadCiphertextBytes : UInt64 := 16

namespace ContentManifest

variable (C : Crypto) (m : ContentManifest)

/-- The size of the object; older manifests leave it at zero. -/
def effectiveContentSize : UInt64 := if m.contentSize = 0 then m.totalSize else m.contentSize

def manifestIdFromParts : ContentId :=
  let shards := m.shards.flatMap fun s =>
    u32Bytes s.index ++ hashBytes s.shardId ++ u32Bytes s.size ++
      [if s.kind = .data then (0 : UInt8) else 1]
  C.hashFieldsBytes [textBytes "BDLM_MANIFEST_V4",
    textBytes "BDLM_MANIFEST_V4" ++ u32Bytes (UInt32.ofNat m.shards.length) ++ shards ++
      u32Bytes m.erasure.k ++ u32Bytes m.erasure.n ++ [m.encryption.commitmentTag] ++
      u64Bytes m.effectiveContentSize ++ u64Bytes m.totalSize ++
      sourceCommitmentBytes C m.source ++ m.edition.commitmentBytes ++
      m.dictionaryId.elim [] fun d => 1 :: hashBytes d]

def verifyId : Except String Unit :=
  ensure (decide (m.manifestIdFromParts C = m.manifestId))
    s!"manifest_id {toHex m.manifestId} does not match the {toHex (m.manifestIdFromParts C)} its contents derive"

/-- The indices and identifiers seen so far and the sum of the sizes. -/
structure ShardTally where
  indices : List UInt32 := []
  ids : List ContentId := []
  total : UInt64 := 0

/-- One more shard.  Identifiers may repeat unless the shards form a code word. -/
def tallyShard (t : ShardTally) (s : ShardRef) : Except String ShardTally := do
  ensure (decide (s.size ≠ 0)) s!"Shard {s.index} has size 0"
  ensure (!t.indices.contains s.index) s!"Duplicate shard index {s.index}"
  ensure (!(decide (m.erasure.k < m.erasure.n) && t.ids.contains s.shardId))
    s!"Shard {s.index} repeats the content id of another shard in the same code word"
  let total ← ofOption (t.total.checkedAdd s.size.toUInt64)
    "ContentManifest total size overflow"
  return ⟨s.index :: t.indices, s.shardId :: t.ids, total⟩

/-- The number of data shards, in a 32-bit word. -/
def dataShards : UInt32 := UInt32.ofNat (m.shards.countP fun s => decide (s.kind = .data))

def validateUntrusted : Except String Unit := do
  ensure (!m.shards.isEmpty) "ContentManifest must have at least one shard"
  ensure (decide (UInt32.ofNat m.shards.length = m.shardCount))
    s!"shard_count {m.shardCount} does not match the {m.shards.length} shards present"
  let tally ← m.shards.foldlM m.tallyShard {}
  ensure (decide (tally.total = m.totalSize))
    s!"total_size {m.totalSize} does not match the {tally.total} bytes the shards sum to"
  ensure (decide (m.contentSize ≤ m.totalSize))
    s!"content_size {m.contentSize} exceeds the {m.totalSize} bytes stored across shards"
  m.erasure.validate
  ensure (decide (m.erasure.n = m.shardCount))
    s!"erasure n {m.erasure.n} does not match shard_count {m.shardCount}"
  ensure (decide (m.dataShards = m.erasure.k))
    s!"erasure k {m.erasure.k} does not match the {m.dataShards} data shards present"
  ensure (!(m.encryption.isEncrypted && decide (m.effectiveContentSize < minAeadCiphertextBytes)))
    s!"manifest declares {m.encryption.display} but content_size {m.effectiveContentSize} is below the {minAeadCiphertextBytes}-byte authentication tag every named cipher appends"
  (m.edition.checkSource m.source).mapError fun reason =>
    s!"edition/source pair refused: {reason}"
  m.verifyId C

/-- The shard with the given identifier. -/
def shard (shardId : ContentId) : Option ShardRef :=
  m.shards.find? fun s => decide (s.shardId = shardId)

def isRecoverable (live : Nat) : Bool := decide (m.erasure.k.toNat ≤ live)

/-- Enough shards to recover, but fewer than the margin above that. -/
def needsRepair (live margin : Nat) : Bool :=
  decide (m.erasure.k.toNat ≤ live) && decide (live < min (m.erasure.k.toNat + margin) (2 ^ 32 - 1))

end ContentManifest

end Budlum
