import Budlum.Core.Primitives

/-!
# Parity shards and their audit

The Reed–Solomon coder over GF(2^8) computes its parity shards a whole shard at a time; the audit
checks one byte column.  Both are the same sum over the generator's row.
-/

namespace Budlum

open Except (ensure ok_iff)

/-! ### The field -/

structure GfTables where
  exp : List UInt8
  log : List UInt8

def gfPoly : UInt16 := 0x11D

/-- One turn of the loop that fills the first 255 powers. -/
def GfTables.fill (t : GfTables × UInt16) (i : Nat) : GfTables × UInt16 :=
  let x := t.2 <<< 1
  (⟨t.1.exp.set i t.2.toUInt8, t.1.log.set t.2.toNat (UInt8.ofNat i)⟩,
    if x &&& 0x100 ≠ 0 then x ^^^ gfPoly else x)

def tables : GfTables :=
  let t := ((List.range 255).foldl GfTables.fill
    (⟨List.replicate 255 0, List.replicate 256 0⟩, 1)).1
  { t with exp := (List.range 512).map fun i => t.exp.getD (i % 255) 0 }

def gfMul (a b : UInt8) : UInt8 :=
  if a = 0 ∨ b = 0 then 0
  else tables.exp.getD ((tables.log.getD a.toNat 0).toNat + (tables.log.getD b.toNat 0).toNat) 0

def gfInv (a : UInt8) : UInt8 :=
  if a = 0 then 0 else tables.exp.getD (255 - (tables.log.getD a.toNat 0).toNat) 0

/-- A matrix, row by row. -/
structure GfMatrix where
  cols : Nat
  data : List UInt8

namespace GfMatrix

def zero (rows cols : Nat) : GfMatrix := ⟨cols, List.replicate (rows * cols) 0⟩

def get (g : GfMatrix) (r c : Nat) : UInt8 := g.data.getD (r * g.cols + c) 0

def set (g : GfMatrix) (r c : Nat) (v : UInt8) : GfMatrix :=
  { g with data := g.data.set (r * g.cols + c) v }

end GfMatrix

/-- The identity over a Cauchy block. -/
def generatorMatrix (k m : Nat) : GfMatrix :=
  let g := (List.range k).foldl (fun g i => g.set i i 1) (GfMatrix.zero (k + m) k)
  (List.range m).foldl (fun g i => (List.range k).foldl (fun g j =>
    g.set (k + i) j (gfInv (UInt8.ofNat (k + i) ^^^ UInt8.ofNat j))) g) g

/-! ### The coder -/

inductive ErasureError where
  | invalidScheme (message : String)
  | shardMismatch (message : String)

structure ReedSolomon where
  k : Nat
  m : Nat
  generator : GfMatrix

namespace ReedSolomon

def maxTotalShards : Nat := 255

def new (dataShards parityShards : Nat) : Except ErasureError ReedSolomon := do
  ensure (decide (dataShards ≠ 0)) (.invalidScheme "data shards must be at least 1")
  let total := dataShards + parityShards
  ensure (decide (total < 2 ^ 64)) (.invalidScheme "shard count overflow")
  ensure (decide (total ≤ maxTotalShards))
    (.invalidScheme s!"{total} total shards exceeds the {maxTotalShards} that GF(2^8) admits")
  return ⟨dataShards, parityShards, generatorMatrix dataShards parityShards⟩

variable (c : ReedSolomon)

def checkCount (data : List Bytes) : Except ErasureError Unit :=
  ensure (decide (data.length = c.k))
    (.shardMismatch s!"expected {c.k} data shards, got {data.length}")

/-- The length of the shards, if it is one length and not zero. -/
def shardLength (data : List Bytes) : Except ErasureError Nat := do
  let len := (data.getD 0 []).length
  ensure (decide (len ≠ 0)) (.shardMismatch "data shards must be non-empty")
  let bad := data.findIdx fun s => decide (s.length ≠ len)
  ensure (decide (data.length ≤ bad)) (.shardMismatch
    s!"shard {bad} is {(data.getD bad []).length} bytes but shard 0 is {len}; Reed-Solomon needs equal-length shards")
  return len

/-- Add one data shard into a parity shard. -/
def addShard (parityIndex : Nat) (out : Bytes) (src : Bytes × Nat) : Bytes :=
  let coeff := c.generator.get (c.k + parityIndex) src.2
  if coeff = 0 then out else out.zipWith (fun o s => o ^^^ gfMul coeff s) src.1

/-- The sum of the data shards under one row of the generator. -/
def paritySum (data : List Bytes) (len parityIndex : Nat) : Bytes :=
  data.zipIdx.foldl (c.addShard parityIndex) (List.replicate len 0)

def parityRow (data : List Bytes) (parityIndex : Nat) : Except ErasureError Bytes := do
  c.checkCount data
  ensure (decide (parityIndex < c.m))
    (.shardMismatch s!"parity index {parityIndex} is outside 0..{c.m}")
  let len ← shardLength data
  return c.paritySum data len parityIndex

def encodeParity (data : List Bytes) : Except ErasureError (List Bytes) := do
  c.checkCount data
  if c.m = 0 then return [] else do
    let _ ← shardLength data
    (List.range c.m).mapM (c.parityRow data)

/-- Add one data byte into a parity byte. -/
def addByte (parityIndex : Nat) (acc : UInt8) (byte : UInt8 × Nat) : UInt8 :=
  acc ^^^ gfMul (c.generator.get (c.k + parityIndex) byte.2) byte.1

def columnIsCorrectlyEncoded (parityIndex : Nat) (dataColumn : Bytes) (parityByte : UInt8) : Bool :=
  if dataColumn.length ≠ c.k ∨ c.m ≤ parityIndex then false
  else dataColumn.zipIdx.foldl (c.addByte parityIndex) 0 == parityByte

/-! ### A column of the parity -/

variable {c} {i column : Nat}

theorem addShard_column {out src : Bytes} {j : Nat} {o b : UInt8} (ho : out[column]? = some o)
    (hb : src[column]? = some b) :
    (c.addShard i out (src, j))[column]? = some (c.addByte i o (b, j)) := by
  by_cases hzero : c.generator.get (c.k + i) j = 0
  · simp [addShard, addByte, hzero, gfMul, ho]
  · simp [addShard, addByte, hzero, List.getElem?_zipWith, ho, hb]

/-- A column of the sum of the shards is the sum of their bytes there. -/
theorem foldl_addShard_column {shards : List (Bytes × Nat)} {out : Bytes} {o : UInt8}
    (h : ∀ s ∈ shards, column < s.1.length) (ho : out[column]? = some o) :
    (shards.foldl (c.addShard i) out)[column]? =
      some ((shards.map fun s => (s.1.getD column 0, s.2)).foldl (c.addByte i) o) := by
  induction shards generalizing out o with
  | nil => exact ho
  | cons s shards ih =>
    have hb : s.1[column]? = some (s.1.getD column 0) := by simp [h s (.head _)]
    exact ih (fun t ht => h t (.tail _ ht)) (addShard_column ho hb)

theorem shardLength_eq_ok {data : List Bytes} {len : Nat} (hdata : data ≠ []) (hlen : 0 < len)
    (heq : ∀ s ∈ data, s.length = len) : shardLength data = .ok len := by
  obtain ⟨s, rest, rfl⟩ := List.exists_cons_of_ne_nil hdata
  obtain rfl := heq s (.head _)
  have hbad : (s :: rest).findIdx (fun t => decide (t.length ≠ s.length)) = (s :: rest).length := by
    simpa only [List.findIdx_eq_length, decide_eq_false_iff_not, not_not] using heq
  simp only [shardLength, ok_iff]
  exact ⟨(), hlen.ne', (), hbad.ge, rfl⟩

/-- The audit of a column accepts the byte the coder puts there, and no other. -/
theorem audit_exact {k m len : Nat} (hnew : ReedSolomon.new k m = .ok c) {data : List Bytes}
    (hcount : data.length = k) (hlen : 0 < len) (heq : ∀ s ∈ data, s.length = len) :
    ∃ parity, c.encodeParity data = .ok parity ∧ ∀ i < m, ∀ column < len, ∀ byte,
      c.columnIsCorrectlyEncoded i (data.map (·.getD column 0)) byte = true ↔
        parity[i]?.bind (·[column]?) = some byte := by
  simp only [new, ok_iff] at hnew
  obtain ⟨-, hk, -, -, -, -, rfl⟩ := hnew
  set c : ReedSolomon := ⟨k, m, generatorMatrix k m⟩
  have hlength := shardLength_eq_ok (by rintro rfl; exact hk hcount.symm) hlen heq
  have hchecked : c.checkCount data = .ok () := Except.ensure_eq_ok.2 (decide_eq_true hcount)
  have hrow : ∀ i ∈ List.range m, c.parityRow data i = .ok (c.paritySum data len i) := by
    intro i hi
    simp only [parityRow, ok_iff]
    exact ⟨(), hchecked, (), List.mem_range.1 hi, len, hlength, rfl⟩
  refine ⟨(List.range m).map (c.paritySum data len), ?_, fun i hi column hcolumn byte => ?_⟩
  · by_cases hm : m = 0
    · subst hm
      exact Except.bind_eq_ok.2 ⟨(), hchecked, rfl⟩
    · simp only [encodeParity, show c.m = m from rfl, hm, if_false, ok_iff]
      exact ⟨(), hchecked, len, hlength, Except.mapM_eq_ok hrow⟩
  · have hcol : (c.paritySum data len i)[column]? =
        some ((data.map (·.getD column 0)).zipIdx.foldl (c.addByte i) 0) := by
      rw [List.zipIdx_map]
      refine foldl_addShard_column (fun s hs => ?_) (by simp [hcolumn])
      rwa [heq s.1 (List.fst_mem_of_mem_zipIdx hs)]
    rw [List.getElem?_map, List.getElem?_range hi, Option.map_some, Option.bind_some, hcol]
    simp [columnIsCorrectlyEncoded, hcount, c, hi]

def twoShards : List Bytes := [[1, 2], [3, 4]]

theorem audit_two_shards : ∃ c parity, new 2 1 = .ok c ∧ (∀ s ∈ twoShards, s.length = 2) ∧
    c.encodeParity twoShards = .ok parity ∧ ∀ byte,
      c.columnIsCorrectlyEncoded 0 [2, 4] byte = true ↔ parity[0]?.bind (·[1]?) = some byte :=
  have hlens : ∀ s ∈ twoShards, s.length = 2 := by decide
  have ⟨parity, hparity, haudit⟩ := audit_exact (k := 2) (m := 1) rfl rfl Nat.two_pos hlens
  ⟨_, parity, rfl, hlens, hparity, haudit 0 Nat.one_pos 1 Nat.one_lt_two⟩

end ReedSolomon

end Budlum
