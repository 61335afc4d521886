import Budlum.Core.Primitives

/-!
# Pollen: data assets, grants and sales

The data-rights registry: assets with an owner, read grants with an expiry and a read budget,
sale authorizations from which a buyer draws grants, and the encryption policies governance sets.
Every operation that can fail leaves the registry as it was.
-/

namespace Budlum

open Address (zero)

open Except (ensure ofOption)

/-- Identifiers of data assets, grants, authorizations and receipts. -/
abbrev AssetId := Hash32

/-- Prefix of an AI input that points at a Pollen asset. -/
def pollenAiInputRefPrefix : Bytes := textBytes "BDLM_POLLEN_AI_INPUT_REF_V1"

/-- A signature that was never made. -/
def Signature64.isSentinel (s : Signature64) : Bool := decide (s = 0)

/-! ### Records -/

structure EncryptionPolicy where
  version : UInt32
  hpkeSuiteId : UInt16
  minPublicKeyBytes : UInt16
  maxGrantDurationBlocks : UInt64
  deprecatedAfterBlock : Option UInt64
  active : Bool
  deriving DecidableEq, Repr

namespace EncryptionPolicy

variable (p : EncryptionPolicy)

/-- The shape of a policy. -/
def validate : Except String Unit := do
  ensure (decide (p.version ≠ 0)) "EncryptionPolicy version must be >= 1"
  ensure (decide (p.hpkeSuiteId ≠ 0)) "EncryptionPolicy hpke_suite_id must be non-zero"
  ensure (decide (32 ≤ p.minPublicKeyBytes))
    "EncryptionPolicy min_public_key_bytes must be >= 32"
  ensure (decide (p.maxGrantDurationBlocks ≠ 0))
    "EncryptionPolicy max_grant_duration_blocks must be >= 1"
  ensure (decide (p.deprecatedAfterBlock ≠ some 0))
    "EncryptionPolicy deprecated_after_block cannot be zero"

/-- A grant citing the policy is within its terms. -/
def checkGrantDuration (issuedAtBlock expiresAtBlock : UInt64) : Except String Unit := do
  ensure p.active
    s!"EncryptionPolicy v{p.version} is not active; a grant cannot cite it"
  match p.deprecatedAfterBlock with
  | some deprecated =>
    ensure (decide (issuedAtBlock < deprecated))
      s!"EncryptionPolicy v{p.version} was deprecated after block {deprecated}; grant issued at {issuedAtBlock}"
  | none => .ok ()
  let requested := expiresAtBlock.saturatingSub issuedAtBlock
  ensure (decide (requested ≤ p.maxGrantDurationBlocks))
    s!"AccessGrant duration {requested} exceeds EncryptionPolicy v{p.version} maximum {p.maxGrantDurationBlocks}"

end EncryptionPolicy

/-- A seller's standing permission to draw grants on an asset. -/
structure SaleAuthorization where
  authorizationId : AssetId
  assetId : AssetId
  seller : Address
  unitPrice : UInt64
  validFromBlock : UInt64
  expiresAtBlock : UInt64
  maxGrants : UInt32
  grantsIssued : UInt32
  termsHash : Hash32
  sellerSignature : Signature64
  deriving DecidableEq

namespace SaleAuthorization

variable (C : Crypto) (a : SaleAuthorization)

/-- The fields the identifier commits to. -/
def idFields : Bytes :=
  hashBytes a.assetId ++ hashBytes a.seller ++ u64Bytes a.unitPrice ++ u64Bytes a.validFromBlock ++
    u64Bytes a.expiresAtBlock ++ u32Bytes a.maxGrants ++ hashBytes a.termsHash

/-- The canonical identifier. -/
def deriveId : AssetId := C.sha256 (textBytes "BDLM_POLLEN_SALE_AUTHORIZATION_V1" ++ a.idFields)

/-- What the seller signs. -/
def signingHash : Hash32 :=
  C.sha256 (textBytes "BDLM_POLLEN_SALE_AUTHORIZATION_SIGNING_V1" ++ hashBytes a.authorizationId ++
    a.idFields)

def validateShape : Except String Unit := do
  ensure (decide (a.authorizationId ≠ 0)) "SaleAuthorization authorization_id cannot be zero"
  ensure (decide (a.assetId ≠ 0)) "SaleAuthorization asset_id cannot be zero"
  ensure (decide (a.seller ≠ zero)) "SaleAuthorization seller cannot be zero"
  ensure (decide (a.unitPrice ≠ 0)) "SaleAuthorization unit_price must be >= 1"
  ensure (decide (a.validFromBlock < a.expiresAtBlock))
    "SaleAuthorization expires_at_block must be after valid_from_block"
  ensure (decide (a.maxGrants ≠ 0)) "SaleAuthorization max_grants must be >= 1"
  ensure (decide (a.grantsIssued ≤ a.maxGrants))
    "SaleAuthorization grants_issued exceeds max_grants"
  ensure (!a.sellerSignature.isSentinel)
    "SaleAuthorization seller_signature sentinel is invalid"
  ensure (decide (a.authorizationId = a.deriveId C))
    "SaleAuthorization id does not match canonical preimage"

/-- A grant can be drawn at this block. -/
def canIssue (currentBlock : UInt64) : Bool :=
  decide (a.validFromBlock ≤ currentBlock) && decide (currentBlock ≤ a.expiresAtBlock) &&
    decide (a.grantsIssued < a.maxGrants)

end SaleAuthorization

structure DataAsset where
  assetId : AssetId
  owner : Address
  manifestId : ContentId
  metadataCommitment : Hash32
  encrypted : Bool
  /-- `false` once the owner revoked it. -/
  active : Bool
  deriving DecidableEq

namespace DataAsset

variable (C : Crypto) (a : DataAsset)

/-- The canonical identifier. -/
def deriveId (owner : Address) (manifestId : ContentId) (metadataCommitment : Hash32) : AssetId :=
  C.sha256 (textBytes "BDLM_POLLEN_DATA_ASSET_V1" ++ hashBytes owner ++ hashBytes manifestId ++
    hashBytes metadataCommitment)

/-- A fresh asset under its canonical identifier. -/
def new (owner : Address) (manifestId : ContentId) (metadataCommitment : Hash32)
    (encrypted : Bool) : DataAsset :=
  ⟨deriveId C owner manifestId metadataCommitment, owner, manifestId, metadataCommitment,
    encrypted, true⟩

/-- The shape of an asset. -/
def validate : Except String Unit := do
  ensure (decide (a.assetId ≠ 0)) "DataAsset asset_id cannot be zero"
  ensure (decide (a.owner ≠ zero)) "DataAsset owner cannot be zero"
  ensure (decide (a.assetId = deriveId C a.owner a.manifestId a.metadataCommitment))
    "DataAsset asset_id does not match canonical preimage"

end DataAsset

structure AccessGrant where
  grantId : AssetId
  assetId : AssetId
  owner : Address
  grantee : Address
  payer : Address
  pricePaid : UInt64
  issuedAtBlock : UInt64
  expiresAtBlock : UInt64
  maxReads : UInt32
  readsUsed : UInt32
  purposeHash : Hash32
  /-- `false` once the owner revoked it. -/
  active : Bool
  ownerSignature : Signature64
  deriving DecidableEq

namespace AccessGrant

variable (C : Crypto) (g : AccessGrant)

/-- The fields the identifier commits to. -/
def idFields : Bytes :=
  hashBytes g.assetId ++ hashBytes g.owner ++ hashBytes g.grantee ++ hashBytes g.payer ++
    u64Bytes g.pricePaid ++ u64Bytes g.issuedAtBlock ++ u64Bytes g.expiresAtBlock ++
    u32Bytes g.maxReads ++ hashBytes g.purposeHash

/-- The canonical identifier. -/
def deriveId : AssetId := C.sha256 (textBytes "BDLM_POLLEN_ACCESS_GRANT_V1" ++ g.idFields)

/-- What the owner signs. -/
def signingHash : Hash32 :=
  C.sha256 (textBytes "BDLM_POLLEN_ACCESS_GRANT_SIGNING_V1" ++ hashBytes g.grantId ++ g.idFields)

def validateShape : Except String Unit := do
  ensure (decide (g.grantId ≠ 0)) "AccessGrant grant_id cannot be zero"
  ensure (decide (g.assetId ≠ 0)) "AccessGrant asset_id cannot be zero"
  ensure (decide (g.owner ≠ zero ∧ g.grantee ≠ zero ∧
    g.payer ≠ zero)) "AccessGrant addresses cannot be zero"
  ensure (decide (g.issuedAtBlock < g.expiresAtBlock))
    "AccessGrant expires_at_block must be after issued_at_block"
  ensure (decide (g.maxReads ≠ 0)) "AccessGrant max_reads must be >= 1"
  ensure (!g.ownerSignature.isSentinel) "AccessGrant owner_signature sentinel is invalid"
  ensure (decide (g.grantId = g.deriveId C))
    "AccessGrant grant_id does not match canonical preimage"

/-- The grantee may read at this block. -/
def isActiveFor (grantee : Address) (currentBlock : UInt64) : Bool :=
  g.active && decide (g.grantee = grantee) && decide (g.issuedAtBlock ≤ currentBlock) &&
    decide (currentBlock ≤ g.expiresAtBlock) && decide (g.readsUsed < g.maxReads)

end AccessGrant

structure DataOffer where
  id : UInt64
  seller : Address
  cid : ContentId
  price : UInt64
  active : Bool
  deriving DecidableEq

/-- The receipt of a grant drawn from an authorization. -/
structure PollenPurchaseReceipt where
  receiptId : AssetId
  authorizationId : AssetId
  assetId : AssetId
  seller : Address
  buyer : Address
  grantee : Address
  pricePaid : UInt64
  grantId : AssetId
  purchasedAtBlock : UInt64
  grantExpiresAtBlock : UInt64
  maxReads : UInt32
  termsHash : Hash32
  paymentCommitment : Hash32
  deriving DecidableEq

namespace PollenPurchaseReceipt

variable (C : Crypto) (r : PollenPurchaseReceipt)

/-- The canonical identifier. -/
def deriveId : AssetId :=
  C.sha256 (textBytes "BDLM_POLLEN_PURCHASE_RECEIPT_V1" ++ hashBytes r.authorizationId ++
    hashBytes r.assetId ++ hashBytes r.seller ++ hashBytes r.buyer ++ hashBytes r.grantee ++
    u64Bytes r.pricePaid ++ hashBytes r.grantId ++ u64Bytes r.purchasedAtBlock ++
    u64Bytes r.grantExpiresAtBlock ++ u32Bytes r.maxReads ++ hashBytes r.termsHash ++
    hashBytes r.paymentCommitment)

def validateShape : Except String Unit := do
  ensure (decide (r.receiptId ≠ 0)) "PollenPurchaseReceipt receipt_id cannot be zero"
  ensure (decide (r.authorizationId ≠ 0))
    "PollenPurchaseReceipt authorization_id cannot be zero"
  ensure (decide (r.assetId ≠ 0 ∧ r.grantId ≠ 0))
    "PollenPurchaseReceipt asset/grant id cannot be zero"
  ensure (decide (r.seller ≠ zero ∧ r.buyer ≠ zero ∧
    r.grantee ≠ zero)) "PollenPurchaseReceipt addresses cannot be zero"
  ensure (decide (r.pricePaid ≠ 0)) "PollenPurchaseReceipt price_paid must be >= 1"
  ensure (decide (r.purchasedAtBlock < r.grantExpiresAtBlock))
    "PollenPurchaseReceipt grant expiry must be after purchase"
  ensure (decide (r.maxReads ≠ 0)) "PollenPurchaseReceipt max_reads must be >= 1"
  ensure (decide (r.paymentCommitment ≠ 0))
    "PollenPurchaseReceipt payment_commitment cannot be zero"
  ensure (decide (r.receiptId = r.deriveId C))
    "PollenPurchaseReceipt id does not match canonical preimage"

end PollenPurchaseReceipt

/-! ### The registry -/

structure MarketplaceRegistry where
  offers : OrdMap UInt64 DataOffer := ∅
  nextOfferId : UInt64 := 0
  dataAssets : OrdMap AssetId DataAsset := ∅
  accessGrants : OrdMap AssetId AccessGrant := ∅
  saleAuthorizations : OrdMap AssetId SaleAuthorization := ∅
  purchaseReceipts : OrdMap AssetId PollenPurchaseReceipt := ∅
  encryptionPolicies : OrdMap UInt32 EncryptionPolicy := ∅
  deriving Inhabited, DecidableEq

namespace MarketplaceRegistry

variable (C : Crypto) (m : MarketplaceRegistry)

/-- List content for sale.  The counter's increment is checked at run time. -/
def createOffer (seller : Address) (cid : ContentId) (price : UInt64) :
    Except (Fault String) (UInt64 × MarketplaceRegistry) := do
  ensure (decide (price ≠ 0)) (.fail "Price must be greater than zero")
  let id := m.nextOfferId
  ensure (!m.offers.contains id) (.fail
    s!"offer id {id} is already live: the registry's counter is behind its own contents, and minting over it would hand one seller's listing to another")
  let next ← ofOption (m.nextOfferId.checkedAdd 1) .panic
  return (id, { m with offers := m.offers.insert id ⟨id, seller, cid, price, true⟩,
                       nextOfferId := next })

def closeOffer (id : UInt64) (caller : Address) : Except String MarketplaceRegistry := do
  let offer ← ofOption (m.offers.get id) "Offer not found"
  ensure (decide (offer.seller = caller)) "Not the seller"
  return { m with offers := m.offers.insert id { offer with active := false } }

/-- Register an asset under its canonical identifier. -/
def registerDataAsset (asset : DataAsset) : Except String MarketplaceRegistry := do
  asset.validate C
  ensure (!m.dataAssets.contains asset.assetId) "DataAsset already registered"
  return { m with dataAssets := m.dataAssets.insert asset.assetId asset }

def revokeDataAsset (assetId : AssetId) (caller : Address) : Except String MarketplaceRegistry := do
  let asset ← ofOption (m.dataAssets.get assetId) "DataAsset not found"
  ensure (decide (asset.owner = caller)) "Only DataAsset owner can revoke"
  return { m with dataAssets := m.dataAssets.insert assetId { asset with active := false } }

/-- The active policy with the shortest grant term, the first one on a tie. -/
def strictestPolicy : Option EncryptionPolicy :=
  (m.encryptionPolicies.values.filter (·.active)).foldl (fun best p =>
    match best with
    | none => some p
    | some b => if p.maxGrantDurationBlocks < b.maxGrantDurationBlocks then some p else some b) none

/-- The governance ceiling on a grant's duration. -/
def checkDaoGrantDurationCeiling (issuedAtBlock expiresAtBlock : UInt64) : Except String Unit :=
  match m.strictestPolicy with
  | some p => p.checkGrantDuration issuedAtBlock expiresAtBlock
  | none => .ok ()

/-- Prefix the error of a signature check. -/
def checkSignature (what : String) (message : Hash32) (signature : Signature64) (key : Address) :
    Except String Unit :=
  match C.verifySignature (hashBytes message) (signatureBytes signature) (hashBytes key) with
  | .ok _ => .ok ()
  | .error e => .error s!"{what} signature invalid: {e}"

/-- Register a grant signed by the asset's owner. -/
def createAccessGrant (grant : AccessGrant) : Except String MarketplaceRegistry := do
  grant.validateShape C
  let asset ← ofOption (m.dataAssets.get grant.assetId)
    "AccessGrant references unknown DataAsset"
  ensure asset.active "AccessGrant references inactive DataAsset"
  ensure (decide (grant.owner = asset.owner)) "AccessGrant owner must match DataAsset owner"
  checkSignature C "AccessGrant owner" (grant.signingHash C) grant.ownerSignature grant.owner
  ensure (!m.accessGrants.contains grant.grantId) "AccessGrant already registered"
  m.checkDaoGrantDurationCeiling grant.issuedAtBlock grant.expiresAtBlock
  return { m with accessGrants := m.accessGrants.insert grant.grantId grant }

def revokeAccessGrant (grantId : AssetId) (caller : Address) :
    Except String MarketplaceRegistry := do
  let grant ← ofOption (m.accessGrants.get grantId) "AccessGrant not found"
  ensure (decide (grant.owner = caller)) "Only AccessGrant owner can revoke"
  return { m with accessGrants := m.accessGrants.insert grantId { grant with active := false } }

/-- Store a policy under its version. -/
def setEncryptionPolicy (policy : EncryptionPolicy) : Except String MarketplaceRegistry := do
  policy.validate
  return { m with encryptionPolicies := m.encryptionPolicies.insert policy.version policy }

/-- Register a sale authorization signed by the asset's owner. -/
def createSaleAuthorization (a : SaleAuthorization) : Except String MarketplaceRegistry := do
  a.validateShape C
  let asset ← ofOption (m.dataAssets.get a.assetId)
    "SaleAuthorization references unknown DataAsset"
  ensure asset.active "SaleAuthorization references inactive DataAsset"
  ensure (decide (a.seller = asset.owner))
    "SaleAuthorization seller must match DataAsset owner"
  checkSignature C "SaleAuthorization seller" (a.signingHash C) a.sellerSignature a.seller
  ensure (!m.saleAuthorizations.contains a.authorizationId)
    "SaleAuthorization already registered"
  return { m with saleAuthorizations := m.saleAuthorizations.insert a.authorizationId a }

/-- What the buyer signs; the grant must end with the authorization at the latest. -/
def purchaseSigningHash (a : SaleAuthorization) (buyer grantee : Address)
    (currentBlock grantDurationBlocks : UInt64) (maxReads : UInt32) (paymentCommitment : Hash32) :
    Except String Hash32 := do
  let expires ← ofOption (currentBlock.checkedAdd grantDurationBlocks)
    "Pollen purchase grant expiry overflow"
  ensure (decide (expires ≤ a.expiresAtBlock))
    "Pollen purchase grant expiry exceeds SaleAuthorization expiry"
  return C.sha256 (textBytes "BDLM_POLLEN_PURCHASE_V1" ++ hashBytes a.authorizationId ++
    hashBytes a.assetId ++ hashBytes a.seller ++ hashBytes buyer ++ hashBytes grantee ++
    u64Bytes a.unitPrice ++ u64Bytes grantDurationBlocks ++ u32Bytes maxReads ++
    hashBytes paymentCommitment ++ u64Bytes expires)

/-- The grant a purchase draws from an authorization, under its canonical identifier. -/
def grantOfSale (a : SaleAuthorization) (buyer grantee : Address) (currentBlock expires : UInt64)
    (maxReads : UInt32) : AccessGrant :=
  let unsigned : AccessGrant :=
    ⟨0, a.assetId, a.seller, grantee, buyer, a.unitPrice, currentBlock, expires, maxReads, 0,
      a.termsHash, true, a.sellerSignature⟩
  { unsigned with grantId := unsigned.deriveId C }

/-- The receipt of a purchase, under its canonical identifier. -/
def receiptOfSale (a : SaleAuthorization) (grant : AccessGrant) (buyer grantee : Address)
    (currentBlock expires : UInt64) (maxReads : UInt32) (paymentCommitment : Hash32) :
    PollenPurchaseReceipt :=
  let unsigned : PollenPurchaseReceipt :=
    ⟨0, a.authorizationId, a.assetId, a.seller, buyer, grantee, a.unitPrice, grant.grantId,
      currentBlock, expires, maxReads, a.termsHash, paymentCommitment⟩
  { unsigned with receiptId := unsigned.deriveId C }

/-- Draw one grant from a sale authorization. -/
def issueGrantFromSaleAuthorization (authorizationId : AssetId) (buyer grantee : Address)
    (currentBlock grantDurationBlocks : UInt64) (maxReads : UInt32) (paymentCommitment : Hash32)
    (buyerSignature : Signature64) :
    Except String (PollenPurchaseReceipt × MarketplaceRegistry) := do
  ensure (decide (buyer ≠ zero ∧ grantee ≠ zero))
    "Pollen purchase buyer/grantee cannot be zero"
  ensure (decide (grantDurationBlocks ≠ 0))
    "Pollen purchase grant_duration_blocks must be >= 1"
  ensure (decide (maxReads ≠ 0)) "Pollen purchase max_reads must be >= 1"
  ensure (decide (paymentCommitment ≠ 0)) "Pollen purchase payment_commitment cannot be zero"
  ensure (!buyerSignature.isSentinel) "Pollen purchase buyer_signature sentinel is invalid"
  let a ← ofOption (m.saleAuthorizations.get authorizationId) "SaleAuthorization not found"
  a.validateShape C
  ensure (a.canIssue currentBlock)
    "SaleAuthorization inactive, expired, or grant limit exhausted"
  let asset ← ofOption (m.dataAssets.get a.assetId)
    "SaleAuthorization references unknown DataAsset"
  ensure asset.active "SaleAuthorization references inactive DataAsset"
  ensure (decide (asset.owner = a.seller))
    "SaleAuthorization seller must match DataAsset owner"
  let preimage ← purchaseSigningHash C a buyer grantee currentBlock grantDurationBlocks maxReads
    paymentCommitment
  checkSignature C "Pollen purchase buyer" preimage buyerSignature buyer
  let expires ← ofOption (currentBlock.checkedAdd grantDurationBlocks)
    "Pollen purchase grant expiry overflow"
  ensure (decide (expires ≤ a.expiresAtBlock))
    "Pollen purchase grant expiry exceeds SaleAuthorization expiry"
  let grant := grantOfSale C a buyer grantee currentBlock expires maxReads
  grant.validateShape C
  ensure (!m.accessGrants.contains grant.grantId) "AccessGrant already registered"
  m.checkDaoGrantDurationCeiling grant.issuedAtBlock grant.expiresAtBlock
  let receipt := receiptOfSale C a grant buyer grantee currentBlock expires maxReads
    paymentCommitment
  receipt.validateShape C
  ensure (!m.purchaseReceipts.contains receipt.receiptId)
    "PollenPurchaseReceipt already registered"
  ensure (decide (a.grantsIssued < a.maxGrants)) "SaleAuthorization grant limit exhausted"
  return (receipt, { m with
    saleAuthorizations := m.saleAuthorizations.insert authorizationId
      { a with grantsIssued := a.grantsIssued + 1 }
    accessGrants := m.accessGrants.insert grant.grantId grant
    purchaseReceipts := m.purchaseReceipts.insert receipt.receiptId receipt })

/-- The asset and the grant an AI input points at, if it points at Pollen data. -/
def decodeAiDataInputRef (input : Bytes) : Except String (Option (AssetId × AssetId)) :=
  let ofBytes (b : Bytes) : Hash32 :=
    Fin.ofNat (2 ^ 256) (b.foldl (fun n x => 256 * n + x.toNat) 0)
  let offset := pollenAiInputRefPrefix.length
  if pollenAiInputRefPrefix.isPrefixOf input then
    if input.length = offset + 64 then
      .ok (some (ofBytes ((input.drop offset).take 32), ofBytes ((input.drop (offset + 32)).take 32)))
    else
      .error s!"Malformed Pollen AI input_ref: expected {offset + 64} bytes, got {input.length}"
  else .ok none

/-- The grant an AI read needs, checked but not consumed. -/
def validateAiReadRef (inputRef : Bytes) (requester : Address) (currentBlock : UInt64) :
    Except String (Option AssetId) := do
  match ← decodeAiDataInputRef inputRef with
  | none => return none
  | some (assetId, grantId) =>
    let asset ← ofOption (m.dataAssets.get assetId) "AI data read denied: DataAsset not found"
    ensure asset.active "AI data read denied: DataAsset inactive"
    let grant ← ofOption (m.accessGrants.get grantId)
      "AI data read denied: AccessGrant not found"
    ensure (decide (grant.assetId = assetId)) "AI data read denied: grant/asset mismatch"
    ensure (decide (grant.owner = asset.owner)) "AI data read denied: grant owner mismatch"
    ensure (grant.isActiveFor requester currentBlock)
      "AI data read denied: AccessGrant inactive, expired, exhausted, or wrong grantee"
    return some grantId

/-- Use up one read of a grant. -/
def consumeAiReadGrant (grantId : AssetId) (requester : Address) (currentBlock : UInt64) :
    Except String MarketplaceRegistry := do
  let grant ← ofOption (m.accessGrants.get grantId) "AccessGrant not found"
  ensure (grant.isActiveFor requester currentBlock) "AccessGrant cannot be consumed"
  ensure (decide (grant.readsUsed < grant.maxReads)) "AccessGrant read limit exhausted"
  return { m with accessGrants :=
    m.accessGrants.insert grantId { grant with readsUsed := grant.readsUsed + 1 } }

end MarketplaceRegistry

end Budlum
