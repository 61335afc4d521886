import Budlum.Core.Linked

/-!
# Block hashes

What a block's hash and its transaction root commit to, and the check of a producer's signature.
-/

namespace Budlum

/-- The value of a hexadecimal digit of either case. -/
def hexDigit (c : Char) : Option Nat :=
  let n := c.toNat
  if 48 ≤ n ∧ n ≤ 57 then some (n - 48)
  else if 97 ≤ n ∧ n ≤ 102 then some (n - 87)
  else if 65 ≤ n ∧ n ≤ 70 then some (n - 55)
  else none

/-- The bytes that pairs of hexadecimal digits stand for. -/
def bytesOfHexDigits : List Char → Option Bytes
  | [] => some []
  | [_] => none
  | hi :: lo :: rest => do
    let h ← hexDigit hi
    let l ← hexDigit lo
    let bytes ← bytesOfHexDigits rest
    return UInt8.ofNat (h * 16 + l) :: bytes

def decodeHex (s : String) : Option Bytes := bytesOfHexDigits s.toList

/-- A digest in hexadecimal. -/
def hash32OfHex (s : String) : Option Hash32 := do
  let bytes ← decodeHex s
  if bytes.length = 32 then some (hashOfBytes bytes) else none

/-- A root behind a byte that says whether there is one. -/
def presenceTagged : Option Hash32 → Bytes
  | some root => 1 :: hashBytes root
  | none => List.replicate 33 0

/-- What stands for a digest where there is none. -/
def zeroHash : String := "0000000000000000000000000000000000000000000000000000000000000000"

namespace Block

variable (L : Linked) (b : Block)

def calculateHashBytes : Hash32 :=
  L.hashFieldsBytes <|
    [textBytes "BDLM_BLOCK_V4", u64Bytes b.index, leBytes 16 b.timestamp.val,
      textBytes b.previousHash, textBytes b.txRoot, u64Bytes b.nonce,
      b.producer.elim [] hashBytes, b.slashingEvidence.elim [] L.encodeEvidence,
      u64Bytes b.chainId, textBytes b.stateRoot, u64Bytes b.epoch, u64Bytes b.slot, b.vrfOutput,
      b.vrfProof, textBytes b.validatorSetHash, presenceTagged b.storageRoot] ++
    b.shardsRoot.toList.map hashBytes

def calculateHash : String := toHex (b.calculateHashBytes L)

/-- The leaf of a transaction.  A hash that is not a digest is hashed under a tag of its own. -/
def txLeaf (hash : String) : Hash32 :=
  match hash32OfHex hash with
  | some digest => L.sha256 (0 :: hashBytes digest)
  | none => L.sha256 (1 :: hashBytes (L.sha256 (textBytes hash)))

/-- The root over the transactions; a node without a sibling moves up unchanged. -/
def calculateTxRoot : String :=
  (Merkle.root (fun l r => L.sha256 (1 :: (hashBytes l ++ hashBytes r))) id
    (b.transactions.map fun tx => txLeaf L tx.hash)).elim zeroHash toHex

/-- The signature under the key that the producer's address stands for. -/
def verifyProducer (producer : Address) (signature : Bytes) : Bool :=
  let message := hashBytes (b.calculateHashBytes L)
  match b.producerPublicKey with
  | [] => (L.verifySignature message signature (hashBytes producer)).toBool
  | version :: key =>
    decide (version = 5) &&
      decide ((L.walletAddressFromMlDsa87PublicKey key).toOption = some producer) &&
      (L.verifyMlDsa87Signature message signature key).toBool

/-- The block carries its own hash and the signature of its producer. -/
def verifySignature : Bool :=
  match b.producer, b.signature with
  | some producer, some signature =>
    decide (b.calculateHash L = b.hash) && b.verifyProducer L producer signature
  | _, _ => false

/-- The block is signed by the expected producer. -/
def verifySignatureWithPubkey (expected : Address) : Bool :=
  decide (b.producer = some expected) && b.verifySignature L

/-- `Block::new_with_chain_id` at the time `now`. -/
def newWithChainId (now : U128) (index : UInt64) (previousHash : String)
    (transactions : List Transaction) (chainId : UInt64) : Block :=
  let b : Block :=
    { index := index, timestamp := now, previousHash := previousHash, hash := ""
      transactions := transactions, nonce := 0, producer := none, signature := none
      producerPublicKey := [], chainId := chainId, slashingEvidence := none, stateRoot := ""
      txRoot := "", epoch := 0, slot := 0, vrfOutput := [], vrfProof := []
      validatorSetHash := "", storageRoot := none, shardsRoot := none }
  let b := { b with txRoot := b.calculateTxRoot L }
  { b with hash := b.calculateHash L }

end Block

/-! ### Headers in evidence -/

namespace BlockHeader

variable (L : Linked) (h : BlockHeader)

def calculateHashBytes : Hash32 :=
  L.hashFieldsBytes <|
    [textBytes "BDLM_BLOCK_V4", u64Bytes h.index, leBytes 16 h.timestamp.val,
      textBytes h.previousHash, textBytes h.txRoot, u64Bytes h.nonce,
      h.producer.elim [] hashBytes, h.slashingEvidence.getD [],
      u64Bytes h.chainId, textBytes h.stateRoot, u64Bytes h.epoch, u64Bytes h.slot, h.vrfOutput,
      h.vrfProof, textBytes h.validatorSetHash, presenceTagged h.storageRoot] ++
    h.shardsRoot.toList.map hashBytes

/-- The header carries its own hash, signed by its producer. -/
def verifySignature (signature : Bytes) : Bool :=
  match h.producer with
  | some producer =>
    decide (toHex (h.calculateHashBytes L) = h.hash) &&
      (L.verifySignature (hashBytes (h.calculateHashBytes L)) signature (hashBytes producer)).toBool
  | none => false

def fromBlock (b : Block) : BlockHeader :=
  { index := b.index, timestamp := b.timestamp, previousHash := b.previousHash, hash := b.hash
    producer := b.producer, chainId := b.chainId, stateRoot := b.stateRoot, txRoot := b.txRoot
    slashingEvidence := b.slashingEvidence.map L.encodeEvidence, nonce := b.nonce
    epoch := b.epoch, slot := b.slot, vrfOutput := b.vrfOutput, vrfProof := b.vrfProof
    validatorSetHash := b.validatorSetHash, storageRoot := b.storageRoot
    shardsRoot := b.shardsRoot }

end BlockHeader

end Budlum
