import Budlum.Lib.Word
import Budlum.Lib.OrdMap
import Budlum.Lib.Effect

/-!
# Primitive data

Byte strings, 32-byte digests and addresses, the error type every fallible entry point returns,
and the hash functions and signature schemes the node links against.

A 32-byte array is a number below `2^256`, read in big-endian order, so that the order of the
numbers is the lexicographic order the source's `BTreeMap` keys use.
-/

namespace Budlum

abbrev Bytes := List UInt8

/-- 32-byte digests. -/
abbrev Hash32 := Fin (2 ^ 256)

instance Hash32.neZero : NeZero (2 ^ 256) := inferInstance

abbrev Address := Hash32

instance Address.lawfulBEq : LawfulBEq Address := inferInstance

/-- Content identifiers of stored objects. -/
abbrev ContentId := Hash32

abbrev Signature64 := Fin (2 ^ 512)

abbrev DomainId := UInt32

/-- The all-zero address, which no key controls. -/
def Address.zero : Address := 0

/-! ### Encodings used in hash preimages -/

/-- The `w` low bytes of `n`, least significant first. -/
def leBytes : (w : Nat) → (n : Nat) → Bytes
  | 0, _ => []
  | w + 1, n => UInt8.ofNat (n % 256) :: leBytes w (n / 256)

def u64Bytes (n : UInt64) : Bytes := leBytes 8 n.toNat

def u32Bytes (n : UInt32) : Bytes := leBytes 4 n.toNat

def u64OfBytes (b : Bytes) : UInt64 :=
  UInt64.ofNat (b.foldr (fun x n => x.toNat + 256 * n) 0)

/-- The digest or the address with the given bytes. -/
def hashOfBytes (b : Bytes) : Hash32 :=
  Fin.ofNat (2 ^ 256) (b.foldl (fun n x => 256 * n + x.toNat) 0)

/-- The bytes of a digest or an address. -/
def hashBytes (h : Hash32) : Bytes := (leBytes 32 h.val).reverse

def signatureBytes (s : Signature64) : Bytes := (leBytes 64 s.val).reverse

def textBytes (s : String) : Bytes := s.toUTF8.toList

def isWhiteSpace (c : Char) : Bool :=
  let n := c.toNat
  (9 ≤ n && n ≤ 13) || (0x2000 ≤ n && n ≤ 0x200A) ||
    [0x20, 0x85, 0xA0, 0x1680, 0x2028, 0x2029, 0x202F, 0x205F, 0x3000].contains n

/-- `trim().is_empty()`. -/
def isBlank (s : String) : Bool := s.toList.all isWhiteSpace

def boolByte (b : Bool) : Bytes := [if b then 1 else 0]

/-- Two hexadecimal digits per byte. -/
def hexOfBytes (b : Bytes) : String :=
  let digit (n : Nat) : Char := if n < 10 then Char.ofNat (48 + n) else Char.ofNat (87 + n)
  String.ofList (b.flatMap fun x => [digit (x.toNat / 16), digit (x.toNat % 16)])

/-- `hex::encode` of a digest or an address. -/
def toHex (h : Hash32) : String := hexOfBytes (hashBytes h)

/-! ### Errors -/

/-- The error type of the node's fallible entry points: a class, a code and a message. -/
inductive BudlumError where
  | storage (code message : String)
  | consensus (code message : String)
  | settlement (code message : String)
  | bridge (code message : String)
  | network (code message : String)
  | rpc (code message : String)
  | validation (code message : String)
  deriving DecidableEq, Repr

namespace BudlumError

/-- The machine-readable code. -/
def code : BudlumError → String
  | storage c _ | consensus c _ | settlement c _ | bridge c _ | network c _ | rpc c _
  | validation c _ => c

def message : BudlumError → String
  | storage _ m | consensus _ m | settlement _ m | bridge _ m | network _ m | rpc _ m
  | validation _ m => m

/-- How the error is printed. -/
def display (e : BudlumError) : String := e.code ++ ": " ++ e.message

end BudlumError

/-! ### Linked cryptography -/

/-- The hash functions and signature checks of the linked crates.  Nothing is assumed about them
here; a result that needs one of their documented properties says so. -/
structure Crypto where
  sha256 : Bytes → Hash32
  sha3 : Bytes → Hash32
  /-- Ed25519 `verify_strict` of a message, a signature and a key. -/
  verifySignature : (message signature key : Bytes) → Except String Unit
  /-- ML-DSA-87 verification of a message, a signature and a key of the right lengths. -/
  verifyMlDsa : (message signature key : Bytes) → Except String Unit

/-- SHA-256 over length-prefixed fields. -/
def Crypto.hashFieldsBytes (C : Crypto) (fields : List Bytes) : Hash32 :=
  C.sha256 (fields.flatMap fun f => leBytes 8 f.length ++ f)

def Crypto.contentIdOf (C : Crypto) (chunk : Bytes) : ContentId :=
  C.hashFieldsBytes [textBytes "BDLM_CONTENT_V1", chunk]

def mlDsa87PublicKeyLen : Nat := 2592

def mlDsa87SignatureLen : Nat := 4627

def checkMlDsa87KeyLen (publicKey : Bytes) : Except String Unit :=
  Except.ensure (decide (publicKey.length = mlDsa87PublicKeyLen))
    s!"Verification error: invalid ML-DSA-87 public key length: expected {mlDsa87PublicKeyLen}, got {publicKey.length}"

/-- The wallet address an ML-DSA-87 key controls. -/
def Crypto.walletAddressFromMlDsa87PublicKey (C : Crypto) (publicKey : Bytes) :
    Except String Address := do
  checkMlDsa87KeyLen publicKey
  return C.sha3 (textBytes "BUDLUM_ADDRESS_V2" ++ publicKey)

def Crypto.verifyMlDsa87Signature (C : Crypto) (message signature publicKey : Bytes) :
    Except String Unit := do
  Except.ensure (decide (signature.length = mlDsa87SignatureLen))
    s!"Verification error: invalid ML-DSA-87 signature length: expected {mlDsa87SignatureLen}, got {signature.length}"
  checkMlDsa87KeyLen publicKey
  C.verifyMlDsa message signature publicKey

end Budlum
