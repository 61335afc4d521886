import Budlum.Core.Transaction

/-!
# The mempool

Transactions that wait for a block, with two indexes: the nonces of each sender, and the hashes at
each fee.  Blocks are filled from the fee index, highest fee first.
-/

namespace Budlum

structure MempoolConfig where
  maxSize : Nat := 20000
  maxPerSender : Nat := 100
  minFee : UInt64 := 1
  txTtlSecs : UInt64 := 3600
  rbfBumpPercent : UInt64 := 10
  maxPoolBytes : Nat := 256 * 1024 * 1024
  deriving DecidableEq

inductive MempoolError where
  | poolFull
  | poolBytesFull
  | duplicateTransaction
  | feeTooLow
  | senderLimitReached
  | rbfFeeTooLow
  | invalidTransaction (message : String)
  deriving DecidableEq, Repr

/-- A waiting transaction and the bytes it is charged for. -/
structure PendingTx where
  tx : Transaction
  addedAt : U128
  charged : Nat
  deriving DecidableEq

structure Mempool where
  config : MempoolConfig := {}
  transactions : OrdMap String PendingTx := ∅
  bySender : OrdMap Address (OrdMap UInt64 String) := ∅
  byFee : OrdMap UInt64 (OrdMap String Unit) := ∅
  residentBytes : Nat := 0
  deriving DecidableEq

namespace Mempool

variable (p : Mempool)

/-- Drop a key of an inner map, and the inner map with its last key. -/
def eraseFrom {K J V : Type} [LinearOrder K] [LinearOrder J] (m : OrdMap K (OrdMap J V)) (k : K)
    (j : J) : OrdMap K (OrdMap J V) :=
  match m.get k with
  | none => m
  | some inner =>
    let inner := inner.erase j
    if inner.entries.isEmpty then m.erase k else m.insert k inner

def removeTransaction (hash : String) : Mempool :=
  match p.transactions.get hash with
  | none => p
  | some pending =>
    { p with
      transactions := p.transactions.erase hash
      residentBytes := p.residentBytes - pending.charged
      bySender := eraseFrom p.bySender pending.tx.sender pending.tx.nonce
      byFee := eraseFrom p.byFee pending.tx.fee hash }

/-- Remove the transactions that have waited too long. -/
def cleanupExpired (now : U128) : Mempool :=
  let ttlMs := p.config.txTtlSecs.toNat * 1000
  let expired := (p.transactions.entries.filter fun e =>
    decide (ttlMs < now.toNat - e.2.addedAt.toNat)).map Prod.fst
  expired.foldl removeTransaction p

/-- Empty the pool. -/
def drain : Mempool :=
  { p with transactions := ∅, bySender := ∅, byFee := ∅, residentBytes := 0 }

/-- The waiting transactions, highest fee first. -/
def getSortedTransactions (limit : Nat) : List Transaction :=
  ((p.byFee.values.reverse.flatMap fun hashes =>
    hashes.keys.filterMap fun hash => (p.transactions.get hash).map (·.tx))).take limit

def findTxBySenderNonce (sender : Address) (nonce : UInt64) : Option String :=
  (p.bySender.get sender).bind (·.get nonce)

/-- The fee levels below the fee of a transaction, lowest first. -/
def lowerFees (tx : Transaction) : List (OrdMap String Unit) :=
  (p.byFee.entries.takeWhile fun level => decide (level.1 < tx.fee)).map (·.2)

/-- The hash belongs to a transaction of another sender. -/
def foreignTo (tx : Transaction) (hash : String) : Option PendingTx :=
  (p.transactions.get hash).filter fun entry => decide (entry.tx.sender ≠ tx.sender)

/-- Make room for one transaction at the lowest fee level that has one of another sender. -/
def evictLowestFee (tx : Transaction) : Option Mempool :=
  ((p.lowerFees tx).findSome? fun hashes =>
    hashes.keys.find? fun hash => (p.foreignTo tx hash).isSome).map p.removeTransaction

/-- The cheapest transactions of other senders, until they free `needed` bytes. -/
def victims (tx : Transaction) (needed : Nat) : (freed : Nat) → List String → Nat × List String
  | freed, [] => (freed, [])
  | freed, hash :: rest =>
    match p.foreignTo tx hash with
    | none => victims tx needed freed rest
    | some entry =>
      if needed ≤ freed + entry.charged then (freed + entry.charged, [hash])
      else
        let (freed, more) := victims tx needed (freed + entry.charged) rest
        (freed, hash :: more)

/-- Free `needed` bytes, or leave the pool as it is. -/
def evictUntilBytesFit (tx : Transaction) (needed : Nat) : Option Mempool :=
  let (freed, hashes) := p.victims tx needed 0 ((p.lowerFees tx).flatMap (·.keys))
  if freed < needed then none else some (hashes.foldl removeTransaction p)

def replacementFee (fee : UInt64) : UInt64 :=
  let bump := (fee.toNat * p.config.rbfBumpPercent.toNat + 99) / 100
  fee.saturatingAdd (UInt64.clampNat (max bump 1))

/-- What a new transaction may do at its sender's nonce: replace the one there, or come on top of
a limited number. -/
def checkSender (tx : Transaction) : Except MempoolError Unit :=
  match p.findTxBySenderNonce tx.sender tx.nonce with
  | some hash => do
    let existing ← Except.ofOption (p.transactions.get hash)
      (.invalidTransaction "replacement target vanished from the pool")
    Except.ensure (decide (p.replacementFee existing.tx.fee ≤ tx.fee)) .rbfFeeTooLow
  | none =>
    Except.ensure (decide (((p.bySender.get tx.sender).elim 0 OrdMap.size) < p.config.maxPerSender))
      .senderLimitReached

/-- Enter a transaction into the map and both indexes. -/
def enter (tx : Transaction) (now : U128) (charged : Nat) : Mempool :=
  { p with
    transactions := p.transactions.insert tx.hash ⟨tx, now, charged⟩
    bySender := p.bySender.insert tx.sender
      ((p.bySender.getD tx.sender ∅).insert tx.nonce tx.hash)
    byFee := p.byFee.insert tx.fee ((p.byFee.getD tx.fee ∅).insert tx.hash ())
    residentBytes := p.residentBytes + charged }

/-- Add a transaction.  Evictions stay when a later check fails. -/
def addTransaction (C : Crypto) (chargedBytes : Transaction → Nat) (now : U128)
    (tx : Transaction) : EStateM MempoolError Mempool Unit := do
  EStateM.ensure (tx.verify C) (.invalidTransaction "Invalid transaction signature")
  EStateM.ensure (!(← get).transactions.contains tx.hash) .duplicateTransaction
  EStateM.ensure (decide ((← get).config.minFee ≤ tx.fee)) .feeTooLow
  EStateM.ofExcept ((← get).checkSender tx)
  let existing := (← get).findTxBySenderNonce tx.sender tx.nonce
  let p ← get
  if existing.isNone && decide (p.config.maxSize ≤ p.transactions.size) then
    set (← EStateM.orThrow (p.evictLowestFee tx) .poolFull)
  let p ← get
  let incoming := chargedBytes tx
  let freed := (existing.bind p.transactions.get).elim 0 (·.charged)
  let projected := p.residentBytes - freed + incoming
  if p.config.maxPoolBytes < projected then
    set (← EStateM.orThrow (p.evictUntilBytesFit tx (projected - p.config.maxPoolBytes))
      .poolBytesFull)
  modify fun p => (existing.elim p p.removeTransaction).enter tx now incoming

def setMinFee (fee : UInt64) : Mempool := { p with config := { p.config with minFee := fee } }

end Mempool

end Budlum
