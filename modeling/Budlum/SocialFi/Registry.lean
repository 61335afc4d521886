import Budlum.Core.Primitives

/-!
# NFTs and folders

The NFT registry with its ownership index, and the vault: folders are NFTs that list other NFTs.
A folder may hold folders, so adding a member walks the containment relation first and refuses a
cycle.
-/

namespace Budlum

open Except (ensure ofOption)

/-! ### NFTs -/

structure Nft where
  id : UInt64
  owner : Address
  contentId : ContentId
  mintedAtEpoch : UInt64
  authorName : Option String
  /-- Light score in millicandelas. -/
  luminance : UInt64
  tags : List String
  deriving DecidableEq

/-- Why the NFT registry refuses an operation. -/
inductive NftError where
  | notFound
  | notOwner
  | duplicateId
  deriving DecidableEq, Repr

def NftError.display : NftError → String
  | notFound => "NFT not found"
  | notOwner => "Not the owner"
  | duplicateId => "Duplicate ID"

structure NftRegistry where
  nfts : OrdMap UInt64 Nft := ∅
  /-- The identifiers each account owns, in the order it got them. -/
  ownership : OrdMap Address (List UInt64) := ∅
  nextId : UInt64 := 0
  deriving Inhabited, DecidableEq

namespace NftRegistry

variable (r : NftRegistry)

/-- Append an identifier to an account's list. -/
def giveTo (ownership : OrdMap Address (List UInt64)) (owner : Address) (id : UInt64) :
    OrdMap Address (List UInt64) :=
  ownership.insert owner (ownership.getD owner [] ++ [id])

/-- Drop an identifier from an account's list, and the list when it is empty. -/
def takeFrom (ownership : OrdMap Address (List UInt64)) (owner : Address) (id : UInt64) :
    OrdMap Address (List UInt64) :=
  match ownership.get owner with
  | none => ownership
  | some list =>
    let rest := list.filter (· ≠ id)
    if rest.isEmpty then ownership.erase owner else ownership.insert owner rest

/-- Mint under the next identifier. -/
def mint (owner : Address) (cid : ContentId) (epoch : UInt64) (name : Option String) :
    Except NftError (UInt64 × NftRegistry) := do
  let id := r.nextId
  ensure (!r.nfts.contains id) .duplicateId
  return (id, { r with nfts := r.nfts.insert id ⟨id, owner, cid, epoch, name, 1000, []⟩,
                       ownership := giveTo r.ownership owner id,
                       nextId := r.nextId.saturatingAdd 1 })

/-- Attach a tag once. -/
def addTag (id : UInt64) (tag : String) : Except NftError NftRegistry := do
  let nft ← ofOption (r.nfts.get id) .notFound
  let tags := if nft.tags.contains tag then nft.tags else nft.tags ++ [tag]
  return { r with nfts := r.nfts.insert id { nft with tags := tags } }

/-- Move the light score, staying within range. -/
def updateLuminance (id : UInt64) (deltaMcd : Int64) : Except NftError NftRegistry := do
  let nft ← ofOption (r.nfts.get id) .notFound
  let moved := UInt64.clampNat ((nft.luminance.toNat : Int) + deltaMcd.toInt).toNat
  return { r with nfts := r.nfts.insert id { nft with luminance := moved } }

/-- Hand an NFT over. -/
def transfer (id : UInt64) (sender recipient : Address) : Except NftError NftRegistry := do
  let nft ← ofOption (r.nfts.get id) .notFound
  ensure (decide (nft.owner = sender)) .notOwner
  return { r with nfts := r.nfts.insert id { nft with owner := recipient },
                  ownership := giveTo (takeFrom r.ownership sender id) recipient id }

/-- Burn an NFT and return the content it named. -/
def burn (id : UInt64) (owner : Address) : Except NftError (ContentId × NftRegistry) := do
  let nft ← ofOption (r.nfts.get id) .notFound
  ensure (decide (nft.owner = owner)) .notOwner
  return (nft.contentId, { r with nfts := r.nfts.erase id,
                                  ownership := takeFrom r.ownership owner id })

end NftRegistry

/-! ### Folders -/

/-- Why the vault refuses an operation. -/
inductive VaultError where
  | unknownFolder (folder : UInt64)
  | alreadyFolder (folder : UInt64)
  | unregisteredParent (folder : UInt64)
  | selfMembership
  | cycle (folder member : UInt64)
  | alreadyMember (member folder : UInt64)
  | notMember (member folder : UInt64)
  | nonEmpty (folder : UInt64)
  | referenced (folder parent : UInt64)
  | unknownToken (id : UInt64)
  | notOwner (id : UInt64) (holder : Address)
  deriving DecidableEq, Repr

def VaultError.display : VaultError → String
  | unknownFolder f => s!"folder {f} is not a folder here"
  | alreadyFolder f => s!"folder {f} already exists"
  | unregisteredParent f => s!"membership points at an unregistered folder {f}"
  | selfMembership => "a folder cannot contain itself"
  | cycle f m => s!"cycle: folder {f} already reaches folder {m}"
  | alreadyMember m f => s!"token {m} is already a member of folder {f}"
  | notMember m f => s!"token {m} is not a member of folder {f}"
  | nonEmpty f => s!"folder {f} still holds members; extract them first"
  | referenced f p => s!"folder {f} is still held by folder {p}; extract it there first"
  | unknownToken i => s!"token {i} is not minted; a folder lists registrations, not ideas"
  | notOwner i h => s!"token {i} belongs to " ++ toHex h ++
      "; the sender named it as if it were theirs"

/-- The folders and what they list. -/
structure VaultRegistry where
  folders : OrdMap UInt64 Unit := ∅
  members : OrdMap UInt64 (List UInt64) := ∅
  deriving Inhabited, DecidableEq

namespace VaultRegistry

variable (v : VaultRegistry)

def isFolder (folder : UInt64) : Bool := v.folders.contains folder

def lists (folder member : UInt64) : Bool := (v.members.get folder).any (·.contains member)

/-- The first folder that lists a token. -/
def referencedBy (candidate : UInt64) : Option UInt64 :=
  (v.members.entries.find? fun e => e.2.contains candidate).map Prod.fst

mutual

/-- The walk of `reaches`, with the folders seen so far.  Every level of the recursion adds a
folder to `seen`, so `fuel` above the number of folders is never used up. -/
def reachesWalk (fuel : Nat) (start target : UInt64) (seen : List UInt64) : Bool × List UInt64 :=
  match fuel with
  | 0 => (false, seen)
  | fuel + 1 =>
    if start = target then (true, seen)
    else if seen.contains start then (false, seen)
    else
      match v.members.get start with
      | none => (false, start :: seen)
      | some list => reachesAny fuel list target (start :: seen)

/-- Some folder of the list reaches the target. -/
def reachesAny (fuel : Nat) (list : List UInt64) (target : UInt64) (seen : List UInt64) :
    Bool × List UInt64 :=
  match list with
  | [] => (false, seen)
  | member :: rest =>
    if v.isFolder member then
      match reachesWalk fuel member target seen with
      | (true, seen) => (true, seen)
      | (false, seen) => reachesAny fuel rest target seen
    else reachesAny fuel rest target seen

end

/-- Containment leads from one folder to another. -/
def reaches (start target : UInt64) : Bool :=
  (v.reachesWalk (v.folders.size + 2) start target []).1

/-- Make a token a folder. -/
def registerFolder (folder : UInt64) : Except VaultError VaultRegistry := do
  ensure (!v.isFolder folder) (.alreadyFolder folder)
  return { v with folders := v.folders.insert folder (),
                  members := v.members.insert folder (v.members.getD folder []) }

/-- Close an empty folder that no other folder lists. -/
def closeFolder (folder : UInt64) : Except VaultError VaultRegistry := do
  ensure (v.isFolder folder) (.unknownFolder folder)
  ensure (!(v.members.get folder).any fun l => !l.isEmpty) (.nonEmpty folder)
  match v.referencedBy folder with
  | some parent => .error (.referenced folder parent)
  | none => return { v with folders := v.folders.erase folder, members := v.members.erase folder }

/-- List a token in a folder. -/
def addMember (folder member : UInt64) : Except VaultError VaultRegistry := do
  ensure (v.isFolder folder) (.unregisteredParent folder)
  ensure (decide (folder ≠ member)) .selfMembership
  ensure (!(v.isFolder member && v.reaches member folder)) (.cycle folder member)
  let list ← ofOption (v.members.get folder) (.unregisteredParent folder)
  ensure (!list.contains member) (.alreadyMember member folder)
  return { v with members := v.members.insert folder (list ++ [member]) }

/-- Take a token out of a folder. -/
def extractMember (folder member : UInt64) : Except VaultError VaultRegistry := do
  let list ← ofOption (v.members.get folder) (.unknownFolder folder)
  ensure (list.contains member) (.notMember member folder)
  return { v with members := v.members.insert folder (list.erase member) }

/-- Move a token between folders, after every check. -/
def moveMember (source dest member : UInt64) : Except VaultError VaultRegistry := do
  ensure (v.isFolder dest) (.unregisteredParent dest)
  ensure (decide (dest ≠ member)) .selfMembership
  ensure (!(v.isFolder member && v.reaches member dest)) (.cycle dest member)
  let list ← ofOption (v.members.get source) (.unknownFolder source)
  ensure (list.contains member) (.notMember member source)
  ensure (!v.lists dest member) (.alreadyMember member dest)
  let v' ← v.extractMember source member
  v'.addMember dest member

end VaultRegistry

/-- The vault operations a transaction can carry. -/
inductive VaultTx where
  | registerFolder (folder : UInt64)
  | closeFolder (folder : UInt64)
  | addMember (folder member : UInt64)
  | extractMember (folder member : UInt64)
  | moveMember (source dest member : UInt64)
  deriving DecidableEq, Repr

/-- The tokens an operation names. -/
def VaultTx.idsNamedBy : VaultTx → List UInt64
  | registerFolder f | closeFolder f => [f]
  | addMember f m | extractMember f m => [f, m]
  | moveMember s t m => [s, t, m]

/-- The sender holds the named token. -/
def requireSenderHolds (nfts : NftRegistry) (who : Address) (id : UInt64) :
    Except VaultError Unit := do
  let nft ← ofOption (nfts.nfts.get id) (.unknownToken id)
  ensure (decide (nft.owner = who)) (.notOwner id nft.owner)

/-- Run a vault operation for a sender who holds every token it names. -/
def executeVaultTx (vault : VaultRegistry) (nfts : NftRegistry) (sender : Address) (tx : VaultTx) :
    Except VaultError VaultRegistry := do
  tx.idsNamedBy.forM (requireSenderHolds nfts sender)
  match tx with
  | .registerFolder f => vault.registerFolder f
  | .closeFolder f => vault.closeFolder f
  | .addMember f m => vault.addMember f m
  | .extractMember f m => vault.extractMember f m
  | .moveMember s t m => vault.moveMember s t m

end Budlum
