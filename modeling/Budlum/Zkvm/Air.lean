import Budlum.Lib.Lookup
import Budlum.Zkvm.Isa
import Budlum.Zkvm.Poseidon

/-!
# The constraint system of the zkVM

A proof is about a main trace of field elements.  A row carries one step of the machine and,
unrelated to it, one entry of the table of register accesses, one of the table of memory accesses
and the multiplicity of one word of the program.  `BudAir` constrains every row, every pair of
consecutive rows, the first and the last row, and balances the step columns against the tables with
three lookups.

Each list below holds the polynomials of one section of the constraint system, in the order of the
source; a constraint under a condition is the product with the condition.

* `Row` : the columns.
* `BudAir.Satisfies` : **a main trace meets every constraint and every lookup balances.**
-/

namespace Budlum.Zkvm

open List (range)

open Lookup

/-! ### Columns -/

/-- `COL_REG_*`: an entry of the table of register accesses. -/
structure RegCols where
  clk : Goldilocks
  subClk : Goldilocks
  idx : Goldilocks
  val : Goldilocks
  isWrite : Goldilocks
  active : Goldilocks
  same : Goldilocks
  sameInv : Goldilocks
  isInit : Goldilocks
  initAcc : Goldilocks

/-- `COL_MEM_*`: an entry of the table of memory accesses. -/
structure MemCols where
  clk : Goldilocks
  addr : Goldilocks
  val : Goldilocks
  isWrite : Goldilocks
  active : Goldilocks
  same : Goldilocks
  isInit : Goldilocks
  initAcc : Goldilocks

/-- `COL_VM_MERKLE_*` and `COL_MERKLE_*`.  Of the eight pairs of S-box columns two are read. -/
structure MerkleCols where
  key : Goldilocks
  bit : Goldilocks
  current : Goldilocks
  sibling : Goldilocks
  round : Goldilocks
  isExpand : Goldilocks
  keyRem : Goldilocks
  diffInv : Goldilocks
  finalFlag : Goldilocks
  x2 : ℕ → Goldilocks
  x4 : ℕ → Goldilocks

/-- `COL_INFERENCE_*` -/
structure InferenceCols where
  isExpand : Goldilocks
  modelCommit : Goldilocks
  inputCommit : Goldilocks
  outputCommit : Goldilocks

/-- `COL_CMP_*`: the bits of both operands, most significant equal prefixes, and the witnesses
that the bits are canonical. -/
structure CmpCols where
  rs1 : ℕ → Goldilocks
  rs2 : ℕ → Goldilocks
  eq : ℕ → Goldilocks
  ltRaw : Goldilocks
  rs1HiInv : Goldilocks
  rs2HiInv : Goldilocks

/-- `COL_POSEIDON_*`: the state before each round, and the powers of the lanes that go through the
S-box. -/
structure PoseidonCols where
  state : ℕ → ℕ → Goldilocks
  x2 : ℕ → ℕ → Goldilocks
  x4 : ℕ → ℕ → Goldilocks

structure Row where
  clk : Goldilocks
  pc : Goldilocks
  opcode : Goldilocks
  rdIdx : Goldilocks
  rs1Idx : Goldilocks
  rs2Idx : Goldilocks
  rs1Val : Goldilocks
  rs2Val : Goldilocks
  rdValNew : Goldilocks
  nextPc : Goldilocks
  imm : Goldilocks
  rawInst : Goldilocks
  /-- `COL_IS_*` -/
  sel : Opcode → Goldilocks
  cpuActive : Goldilocks
  stackPtr : Goldilocks
  gasUsed : Goldilocks
  rdIdxInv : Goldilocks
  rs1IdxInv : Goldilocks
  jnzCond : Goldilocks
  jnzCondInv : Goldilocks
  divInv : Goldilocks
  divZero : Goldilocks
  invZero : Goldilocks
  eqDiffInv : Goldilocks
  assertInv : Goldilocks
  syscallIs1 : Goldilocks
  syscallIs2 : Goldilocks
  syscallIs3 : Goldilocks
  syscallIs6 : Goldilocks
  progMult : Goldilocks
  initRoot : ℕ → Goldilocks
  finalRoot : ℕ → Goldilocks
  eventDigest : ℕ → Goldilocks
  stateWrites : ℕ → Goldilocks
  gasLimit : Goldilocks
  traceLenCtr : Goldilocks
  exitCode : Goldilocks
  chainId : Goldilocks
  reg : RegCols
  mem : MemCols
  merkle : MerkleCols
  inference : InferenceCols
  cmp : CmpCols
  poseidon : PoseidonCols

/-- A 64-bit public value, committed as two 32-bit limbs. -/
def limbPair (pub : ℕ → Goldilocks) (k : ℕ) : Goldilocks := pub k + pub (k + 1) * 2 ^ 32

/-- Every polynomial of a section is zero. -/
def Vanish (l : List Goldilocks) : Prop := ∀ e ∈ l, e = 0

-- by name, since the field is finite and deciding by enumeration would be found first
instance (l : List Goldilocks) : Decidable (Vanish l) := List.decidableBAll (· = 0) l

namespace Row

variable (r cur nxt : Row) (pub : ℕ → Goldilocks)

/-! ### Selectors and the step of the machine -/

def isRealOp : Goldilocks := (Opcode.all.tail.map r.sel).sum

def isCpu : Goldilocks := r.isRealOp + r.sel .halt

def selectors : List Goldilocks :=
  Opcode.all.map (fun o => boolCheck (r.sel o)) ++
    [r.isCpu - 1, (Opcode.all.map fun o => r.sel o * (r.opcode - o.code)).sum]

def clockAndPc : List Goldilocks :=
  [cur.isCpu * (nxt.clk - cur.clk - 1), cur.isCpu * (nxt.pc - cur.nextPc)]

def activity : List Goldilocks :=
  [boolCheck r.cpuActive, (1 - r.cpuActive) * (r.sel .halt - 1)]

def activityStep : List Goldilocks :=
  [nxt.cpuActive * (1 - cur.cpuActive), cur.cpuActive * cur.sel .halt * nxt.cpuActive,
    cur.cpuActive * (1 - nxt.cpuActive) * (1 - cur.sel .halt)]

/-! ### Results of the opcodes -/

def arithmetic : List Goldilocks :=
  [r.sel .add * (r.rdValNew - (r.rs1Val + r.rs2Val)),
    r.sel .sub * (r.rdValNew - (r.rs1Val - r.rs2Val)),
    r.sel .mul * (r.rdValNew - r.rs1Val * r.rs2Val),
    r.sel .div * boolCheck r.divZero,
    r.sel .div * (r.rs2Val * r.divZero),
    r.sel .div * (r.rs2Val * r.divInv + r.divZero - 1),
    r.sel .div * (r.rdValNew * r.rs2Val - r.rs1Val * (1 - r.divZero)),
    r.sel .div * r.divZero * r.rdValNew,
    r.sel .inv * boolCheck r.invZero,
    r.sel .inv * (r.rs1Val * r.invZero),
    r.sel .inv * (r.rs1Val * r.rdValNew + r.invZero - 1),
    r.sel .inv * r.invZero * r.rdValNew]

/-- Whether two columns differ, witnessed by the inverse of their difference in `eqDiffInv`. -/
def differ (x y : Goldilocks) : Goldilocks := (x - y) * r.eqDiffInv

def equality : List Goldilocks :=
  let z := r.differ r.rs1Val r.rs2Val
  [(r.sel .eq + r.sel .neq) * boolCheck z,
    (r.sel .eq + r.sel .neq) * ((r.rs1Val - r.rs2Val) * (1 - z)),
    r.sel .eq * (r.rdValNew - (1 - z)),
    r.sel .neq * (r.rdValNew - z)]

/-- Whether `rs1` is a register other than r0. -/
def rs1IdxZ : Goldilocks := r.rs1Idx * r.rs1IdxInv

/-- Whether `rd` is a register other than r0. -/
def rdIdxZ : Goldilocks := r.rdIdx * r.rdIdxInv

def registerIndices : List Goldilocks :=
  [boolCheck r.rs1IdxZ, r.rs1Idx * (1 - r.rs1IdxZ), boolCheck r.rdIdxZ, r.rdIdx * (1 - r.rdIdxZ)]

def loadImmediate : List Goldilocks :=
  [r.sel .load * (1 - r.rs1IdxZ) * (r.rdValNew - r.imm)]

def jumps : List Goldilocks :=
  let z := r.rs1Val * r.jnzCondInv
  [(r.sel .jmp + r.sel .call) * (r.nextPc - (r.pc + r.imm)),
    r.sel .jnz * boolCheck z,
    r.sel .jnz * (r.rs1Val * (1 - z)),
    r.sel .jnz * (r.jnzCond - z),
    r.sel .jnz * (r.nextPc - (r.jnzCond * (r.pc + r.imm) + (1 - r.jnzCond) * (r.pc + 1)))]

def assertion : List Goldilocks :=
  let z := r.rs1Val * r.assertInv
  [r.sel .assert * boolCheck z, r.sel .assert * (r.rs1Val * (1 - z)), r.sel .assert * (z - 1)]

def logicalNot : List Goldilocks :=
  let z := r.rs1Val * r.invZero
  [r.sel .not * boolCheck z, r.sel .not * (r.rs1Val * (1 - z)),
    r.sel .not * (r.rdValNew - (1 - z))]

/-! ### Merkle paths -/

/-- The row of a `VerifyMerkle` instruction, as against the rows of its path. -/
def onOriginal : Goldilocks := r.sel .verifyMerkle * (1 - r.merkle.isExpand)

/-- The two inputs of a path step in the order the direction bit gives. -/
def merkleLeft : Goldilocks :=
  r.merkle.current * (1 - r.merkle.bit) + r.merkle.sibling * r.merkle.bit

def merkleRight : Goldilocks :=
  r.merkle.sibling * (1 - r.merkle.bit) + r.merkle.current * r.merkle.bit

def merkleLeftRc : Goldilocks := r.merkleLeft + roundConstant 0 0

def merkleRightRc : Goldilocks := r.merkleRight + roundConstant 0 1

/-- `poseidon_output` of a path step. -/
def merkleOutput : Goldilocks :=
  r.merkle.x4 0 * r.merkle.x2 0 * r.merkleLeftRc * mdsEntry 0 0 +
    r.merkle.x4 1 * r.merkle.x2 1 * r.merkleRightRc * mdsEntry 0 1

def merkleLocal : List Goldilocks :=
  let diff := r.merkle.current - r.rs1Val
  let prod := diff * r.merkle.diffInv
  [r.sel .verifyMerkle * (r.opcode - Opcode.verifyMerkle.code),
    r.sel .verifyMerkle * boolCheck r.rdValNew,
    boolCheck r.merkle.isExpand,
    r.merkle.isExpand * boolCheck r.merkle.bit,
    r.merkle.isExpand * (r.merkle.x2 0 - r.merkleLeftRc * r.merkleLeftRc),
    r.merkle.isExpand * (r.merkle.x2 1 - r.merkleRightRc * r.merkleRightRc),
    r.merkle.isExpand * (r.merkle.x4 0 - r.merkle.x2 0 * r.merkle.x2 0),
    r.merkle.isExpand * (r.merkle.x4 1 - r.merkle.x2 1 * r.merkle.x2 1),
    r.onOriginal * (prod * (1 - prod)),
    r.onOriginal * (diff * (1 - prod)),
    r.onOriginal * (r.rdValNew - (1 - prod))]

def merkleSteps : List Goldilocks :=
  let both := cur.merkle.isExpand * nxt.merkle.isExpand
  let last := cur.merkle.isExpand * (1 - nxt.merkle.isExpand)
  let starts := cur.onOriginal * nxt.merkle.isExpand
  [cur.cpuActive * (both * (cur.merkle.keyRem - 2 * nxt.merkle.keyRem - cur.merkle.bit)),
    cur.cpuActive * (last * (cur.merkle.keyRem - cur.merkle.bit)),
    starts * (nxt.merkle.keyRem - nxt.merkle.key),
    cur.cpuActive * (both * (cur.merkle.key - nxt.merkle.key)),
    cur.cpuActive * (cur.sel .verifyMerkle * nxt.merkle.isExpand *
      (cur.merkle.key - nxt.merkle.key)),
    cur.cpuActive * (both * (nxt.merkle.round - cur.merkle.round - 1)),
    both * (nxt.merkle.current - cur.merkleOutput),
    starts * (nxt.merkle.finalFlag - cur.merkle.current),
    both * (nxt.merkle.finalFlag - cur.merkle.finalFlag),
    last * (cur.merkle.finalFlag - cur.merkleOutput),
    starts * (nxt.merkle.current - cur.rs2Val),
    starts * nxt.merkle.round]

/-! ### Stack, halting and gas -/

def stackPc : List Goldilocks :=
  [r.sel .push * (r.nextPc - (r.pc + 1)), r.sel .pop * (r.nextPc - (r.pc + 1)),
    r.sel .call * (r.nextPc - (r.pc + r.imm))]

def stackStep : List Goldilocks :=
  [cur.sel .push * (nxt.stackPtr - cur.stackPtr - 1) +
    cur.sel .call * (nxt.stackPtr - cur.stackPtr - 1) +
    cur.sel .pop * (nxt.stackPtr - cur.stackPtr + 1) +
    cur.sel .ret * (nxt.stackPtr - cur.stackPtr + 1) +
    (1 - cur.sel .push - cur.sel .pop - cur.sel .call - cur.sel .ret) *
      (nxt.stackPtr - cur.stackPtr)]

def haltStep : List Goldilocks :=
  [cur.sel .halt * (nxt.sel .halt - 1), cur.sel .halt * (nxt.pc - cur.pc)]

def gasCost : Goldilocks :=
  r.sel .load * 3 + r.sel .store * 3 + r.sel .sRead * 8 + r.sel .sWrite * 12 +
    r.sel .poseidon * 10 + r.sel .verifyMerkle * (1 - r.merkle.isExpand) * 10 +
    r.sel .verifyInference * (1 - r.inference.isExpand) * 10 + r.sel .privacyCommit * 10 +
    r.sel .nullifierCheck * 10 + r.sel .sumConservation * 10 + r.sel .call * 2 + r.sel .ret * 2 +
    r.sel .push * 2 + r.sel .pop * 2 + r.sel .syscall * 5 + r.sel .div * 10 +
    (1 - r.sel .load - r.sel .store - r.sel .sRead - r.sel .sWrite - r.sel .poseidon -
      r.sel .verifyMerkle - r.sel .verifyInference - r.sel .privacyCommit - r.sel .nullifierCheck -
      r.sel .sumConservation - r.sel .call - r.sel .ret - r.sel .push - r.sel .pop -
      r.sel .syscall - r.sel .div - r.sel .halt) * 1

def gasStep : List Goldilocks := [nxt.gasUsed - cur.gasUsed - cur.gasCost]

/-! ### Public values and events -/

/-- What the halting row binds to the public values. -/
def outputs : List Goldilocks :=
  let g := r.sel .halt * r.cpuActive
  ((range 8).map fun j => g * (r.finalRoot j - pub (18 + j))) ++
    ((range 8).map fun j => g * (r.stateWrites j - pub (48 + j))) ++
    [g * (r.traceLenCtr - limbPair pub 38)] ++
    ((range 8).map fun j => g * (r.eventDigest j - pub (40 + j))) ++
    [g * (r.exitCode - limbPair pub 36)]

def aiMarker : Goldilocks := 0x00A100A1

def eventStep : List Goldilocks :=
  (cur.cpuActive * (nxt.eventDigest 0 - cur.eventDigest 0 - nxt.sel .log * nxt.rs1Val -
    nxt.syscallIs6 * (aiMarker + nxt.rs1Val))) ::
    ((range 7).map fun j => cur.cpuActive * (nxt.eventDigest (j + 1) - cur.eventDigest (j + 1)))

def stateWritesCarry : List Goldilocks :=
  (range 8).map fun j => (1 - cur.sel .sWrite) * (nxt.stateWrites j - cur.stateWrites j)

/-- A flag of a syscall row may only be raised for its own number. -/
def syscallFlag (flag number : Goldilocks) : List Goldilocks :=
  [r.sel .syscall * boolCheck (1 - flag), r.sel .syscall * ((r.imm - number) * (1 - (1 - flag))),
    r.sel .syscall * (flag * (r.imm - number)), (1 - r.sel .syscall) * flag]

def syscalls : List Goldilocks :=
  r.syscallFlag r.syscallIs6 6 ++ r.syscallFlag r.syscallIs1 1 ++ r.syscallFlag r.syscallIs2 2 ++
    r.syscallFlag r.syscallIs3 3 ++
    [r.sel .syscall * (r.syscallIs1 * (r.rdValNew - limbPair pub 26)),
      r.sel .syscall * (r.syscallIs2 * (r.rdValNew - limbPair pub 30)),
      r.sel .syscall * (r.syscallIs3 * (r.rdValNew - limbPair pub 28)),
      r.sel .syscall *
        ((1 - (r.syscallIs1 + r.syscallIs2 + r.syscallIs3 + r.syscallIs6)) * r.rdValNew),
      r.sel .syscall * (r.syscallIs6 * (r.rdValNew - limbPair pub 30 - r.rs1Val))]

/-! ### The two tables -/

def regInitBeta : Goldilocks := 0xD1B54A32D192ED03
def regInitGamma : Goldilocks := 0xA24BAED4963EE407
def memInitBeta : Goldilocks := 0x9E3779B97F4A7C15
def memInitGamma : Goldilocks := 0xC2B2AE3D27D4EB4F

def registerTable : List Goldilocks :=
  [boolCheck r.reg.same, boolCheck r.reg.isInit, r.reg.isInit * r.reg.isWrite]

def registerTableStep : List Goldilocks :=
  let live := cur.reg.active * nxt.reg.active
  let diff := nxt.reg.idx - cur.reg.idx
  let z := diff * cur.reg.sameInv
  [live * boolCheck z, live * (diff * (1 - z)), live * (cur.reg.same - (1 - z)),
    live * cur.reg.same * (1 - nxt.reg.isWrite) * (nxt.reg.val - cur.reg.val),
    live * cur.reg.same * (nxt.reg.idx - cur.reg.idx),
    live * (1 - cur.reg.same) * (1 - nxt.reg.isWrite) * (1 - nxt.reg.isInit) * nxt.reg.val,
    nxt.reg.initAcc - (cur.reg.initAcc + nxt.reg.isInit *
      (cur.reg.initAcc * regInitBeta + nxt.reg.idx * regInitGamma + nxt.reg.val -
        cur.reg.initAcc))]

def memoryTable : List Goldilocks :=
  [boolCheck r.mem.same, boolCheck r.mem.isInit, r.mem.isInit * r.mem.isWrite]

def memoryTableStep : List Goldilocks :=
  let live := cur.mem.active * nxt.mem.active
  [live * cur.mem.same * (1 - nxt.mem.isWrite) * (nxt.mem.val - cur.mem.val),
    live * cur.mem.same * (nxt.mem.addr - cur.mem.addr),
    live * (1 - cur.mem.same) * (1 - nxt.mem.isWrite) * (1 - nxt.mem.isInit) * nxt.mem.val,
    nxt.mem.initAcc - (cur.mem.initAcc + nxt.mem.isInit *
      (cur.mem.initAcc * memInitBeta + nxt.mem.addr * memInitGamma + nxt.mem.val -
        cur.mem.initAcc))]

/-! ### Comparisons -/

/-- The value of the low `n` of a list of bit columns from position `k` on. -/
def bitsValue (bit : ℕ → Goldilocks) (k n : ℕ) : Goldilocks :=
  ((range n).map fun i => bit (k + i) * 2 ^ i).sum

def isCmp : Goldilocks := r.sel .lt + r.sel .gt + r.sel .lte + r.sel .gte

def isCmpOrBw : Goldilocks := r.isCmp + r.sel .and

/-- A 64-bit string of value below the modulus: a saturated high half leaves no low half. -/
def canonical (bit : ℕ → Goldilocks) (hiInv : Goldilocks) : List Goldilocks :=
  let d := bitsValue bit 32 32 - 0xFFFFFFFF
  let z := d * hiInv
  [r.isCmpOrBw * boolCheck z, r.isCmpOrBw * (d * (1 - z)),
    r.isCmpOrBw * ((1 - z) * bitsValue bit 0 32)]

/-- Whether the operands agree in bit `i`. -/
def eqBit (i : ℕ) : Goldilocks :=
  1 - r.cmp.rs1 i - r.cmp.rs2 i + 2 * r.cmp.rs1 i * r.cmp.rs2 i

def comparison : List Goldilocks :=
  ((range 64).map fun i => r.isCmpOrBw * boolCheck (r.cmp.rs1 i)) ++
    ((range 64).map fun i => r.isCmpOrBw * boolCheck (r.cmp.rs2 i)) ++
    r.canonical r.cmp.rs1 r.cmp.rs1HiInv ++ r.canonical r.cmp.rs2 r.cmp.rs2HiInv ++
    ((range 64).map fun i => r.isCmp * boolCheck (r.cmp.eq i)) ++
    [r.isCmpOrBw * (bitsValue r.cmp.rs1 0 64 - r.rs1Val),
      r.isCmpOrBw * (bitsValue r.cmp.rs2 0 64 - r.rs2Val),
      r.sel .and * (r.rdValNew - bitsValue (fun i => r.cmp.rs1 i * r.cmp.rs2 i) 0 64),
      r.isCmp * (r.cmp.eq 63 - r.eqBit 63)] ++
    ((range 63).map fun i => r.isCmp * (r.cmp.eq i - r.cmp.eq (i + 1) * r.eqBit i)) ++
    [r.isCmp * (r.cmp.ltRaw - ((1 - r.cmp.rs1 63) * r.cmp.rs2 63 +
        ((range 63).map fun i =>
          r.cmp.eq (i + 1) * (1 - r.cmp.rs1 i) * r.cmp.rs2 i).sum)),
      r.sel .lt * (r.rdValNew - r.cmp.ltRaw),
      r.sel .gt * (r.rdValNew - (1 - r.cmp.eq 0 - r.cmp.ltRaw)),
      r.sel .lte * (r.rdValNew - (r.cmp.eq 0 + r.cmp.ltRaw)),
      r.sel .gte * (r.rdValNew - (1 - r.cmp.ltRaw))]

/-! ### Inference rows and the Poseidon gadget -/

/-- The row of a `VerifyInference` instruction, as against its expansion rows. -/
def onInference : Goldilocks := r.sel .verifyInference * (1 - r.inference.isExpand)

def inferenceLocal : List Goldilocks :=
  [r.sel .verifyInference * (r.opcode - Opcode.verifyInference.code),
    boolCheck r.inference.isExpand,
    r.inference.isExpand * (1 - r.sel .verifyInference),
    r.onInference * (r.imm * (r.imm - 1))]

/-- Consecutive expansion rows carry the same commitments.  The source states this on every pair of
neighbours, the last and the first row included. -/
def inferenceChain : List Goldilocks :=
  let both := cur.inference.isExpand * nxt.inference.isExpand
  [both * (cur.inference.modelCommit - nxt.inference.modelCommit),
    both * (cur.inference.inputCommit - nxt.inference.inputCommit),
    both * (cur.inference.outputCommit - nxt.inference.outputCommit)]

/-- The rows that use the gadget. -/
def usesPoseidon : Goldilocks :=
  r.sel .poseidon + r.sel .privacyCommit + r.sel .nullifierCheck + r.sel .sWrite + r.onInference

def domainNullifier : ℕ := 0x4e554c4c49464552

/-- Two 32-bit limbs of the accumulator of state writes. -/
def accLane (k : ℕ) : Goldilocks := r.stateWrites (2 * k) + r.stateWrites (2 * k + 1) * 2 ^ 32

/-- The state the gadget starts from. -/
def poseidonInput : List Goldilocks :=
  [r.sel .poseidon * r.rs1Val + r.sel .privacyCommit * r.rs1Val +
      r.sel .nullifierCheck * r.rs2Val + r.sel .sWrite * r.imm +
      r.onInference * r.inference.modelCommit,
    r.sel .poseidon * r.rs2Val + r.sel .privacyCommit * r.rs2Val +
      r.sel .nullifierCheck * domainNullifier + r.sel .sWrite * r.rs1Val +
      r.onInference * r.inference.inputCommit,
    r.sel .privacyCommit * r.imm + r.sel .sWrite * r.accLane 0,
    r.sel .sWrite * r.accLane 1, r.sel .sWrite * r.accLane 2, r.sel .sWrite * r.accLane 3]

def roundInput (k i : ℕ) : Goldilocks := r.poseidon.state k i + roundConstant k i

def sboxOut (k i : ℕ) : Goldilocks :=
  if i < poseidonSboxLanes k then
    r.poseidon.x4 k i * r.poseidon.x2 k i * r.roundInput k i
  else r.roundInput k i

def poseidonOut (i : ℕ) : Goldilocks := mix (r.sboxOut (poseidonRounds - 1)) i

def poseidonGadget : List Goldilocks :=
  ((range 8).map fun i =>
      r.usesPoseidon * (r.poseidon.state 0 i - lanesOf r.poseidonInput i)) ++
    ((range poseidonRounds).flatMap fun k => (range (poseidonSboxLanes k)).flatMap fun i =>
      [r.usesPoseidon * (r.poseidon.x2 k i - r.roundInput k i * r.roundInput k i),
        r.usesPoseidon * (r.poseidon.x4 k i - r.poseidon.x2 k i * r.poseidon.x2 k i)]) ++
    ((range (poseidonRounds - 1)).flatMap fun k => (range 8).map fun i =>
      r.usesPoseidon * (r.poseidon.state (k + 1) i - mix (r.sboxOut k) i))

/-- The results that read the output of the gadget. -/
def poseidonResults : List Goldilocks :=
  let z := r.differ (r.poseidonOut 0) r.inference.outputCommit
  let y := r.differ (r.poseidonOut 0) r.rs1Val
  [r.sel .poseidon * (r.opcode - Opcode.poseidon.code),
    r.sel .privacyCommit * (r.opcode - Opcode.privacyCommit.code),
    r.sel .nullifierCheck * (r.opcode - Opcode.nullifierCheck.code),
    r.sel .sWrite * (r.opcode - Opcode.sWrite.code),
    r.sel .sumConservation * (r.opcode - Opcode.sumConservation.code),
    (r.sel .poseidon + r.sel .privacyCommit) * (r.rdValNew - r.poseidonOut 0),
    r.sel .verifyInference * boolCheck z,
    r.sel .verifyInference * ((r.poseidonOut 0 - r.inference.outputCommit) * (1 - z)),
    r.onInference * (r.rdValNew - (1 - z)),
    r.onInference * boolCheck r.rdValNew,
    r.sel .nullifierCheck * boolCheck y,
    r.sel .nullifierCheck * ((r.poseidonOut 0 - r.rs1Val) * (1 - y)),
    r.sel .nullifierCheck * (r.rdValNew - (1 - y)),
    r.sel .nullifierCheck * boolCheck r.rdValNew]

def stateWritesStep : List Goldilocks :=
  (range 4).map fun k => cur.sel .sWrite *
    (nxt.stateWrites (2 * k) + nxt.stateWrites (2 * k + 1) * 2 ^ 32 - cur.poseidonOut k)

def sumConservation : List Goldilocks :=
  let z := r.differ r.rs1Val r.rs2Val
  [r.sel .sumConservation * boolCheck z,
    r.sel .sumConservation * ((r.rs1Val - r.rs2Val) * (1 - z)),
    r.sel .sumConservation * (r.rdValNew - (1 - z)),
    r.sel .sumConservation * boolCheck r.rdValNew]

/-! ### The first and the last row -/

def firstRow : List Goldilocks :=
  [r.cpuActive - 1, r.stackPtr, r.gasUsed] ++
    ((range 8).map fun j => r.initRoot j - pub (10 + j)) ++
    ((range 8).map fun j => r.stateWrites j) ++
    [r.gasLimit - limbPair pub 32,
      r.eventDigest 0 - r.sel .log * r.rs1Val - r.syscallIs6 * (aiMarker + r.rs1Val),
      r.chainId - pub 0,
      r.reg.active * (1 - r.reg.isWrite) * (1 - r.reg.isInit) * r.reg.val,
      r.reg.initAcc - r.reg.isInit * (r.reg.idx * regInitGamma + r.reg.val),
      r.mem.active * (1 - r.mem.isWrite) * (1 - r.mem.isInit) * r.mem.val,
      r.mem.initAcc - r.mem.isInit * (r.mem.addr * memInitGamma + r.mem.val),
      r.clk, r.pc]

def lastRow : List Goldilocks :=
  [r.gasUsed - limbPair pub 34, r.mem.initAcc - limbPair pub 10, r.reg.initAcc - limbPair pub 12]

/-! ### The three lookups -/

end Row

/-- An access to a register or to a word of memory. -/
structure Access where
  clk : Goldilocks
  addr : Goldilocks
  val : Goldilocks
  isWrite : Goldilocks
  deriving DecidableEq

/-- A decoded word of the program. -/
structure Fetch where
  pc : Goldilocks
  inst : Goldilocks
  opcode : Goldilocks
  rd : Goldilocks
  rs1 : Goldilocks
  rs2 : Goldilocks
  imm : Goldilocks
  deriving DecidableEq

namespace Row

variable (r : Row)

/-- The sum of the two flags that take a row out of the program and the register lookup. -/
def expansion : Goldilocks := r.merkle.isExpand + r.inference.isExpand

/-- A row that targets r0 writes zero whatever it computed. -/
def rdWritten : Goldilocks := r.rdValNew * r.rdIdxZ

def readRs1 : Access := ⟨r.clk * 4 + 1, r.rs1Idx, r.rs1Val, 0⟩
def readRs2 : Access := ⟨r.clk * 4 + 2, r.rs2Idx, r.rs2Val, 0⟩
def writeRd : Access := ⟨r.clk * 4 + 3, r.rdIdx, r.rdWritten, 1⟩

def isRegActive : Goldilocks := r.isRealOp * (1 - r.expansion)

def registerDemand : List (Goldilocks × Access) :=
  [(r.isRegActive, r.readRs1), (r.isRegActive, r.readRs2), (r.isRegActive, r.writeRd)]

def registerEntry : Access := ⟨r.reg.clk * 4 + r.reg.subClk, r.reg.idx, r.reg.val, r.reg.isWrite⟩

def registerSupply : List (Goldilocks × Access) := [(r.reg.active, r.registerEntry)]

def isRealMemOp : Goldilocks := (r.sel .load + r.sel .store) * r.rs1IdxZ
def isStackOp : Goldilocks := r.sel .push + r.sel .pop + r.sel .call + r.sel .ret
def isStorageOp : Goldilocks := r.sel .sRead + r.sel .sWrite

def isAnyMemOp : Goldilocks :=
  r.isRealMemOp + r.isStackOp + r.isStorageOp + (r.merkle.isExpand + r.onOriginal)

def stackBase : Goldilocks := 2 ^ 60
def storageBase : Goldilocks := 2 * 2 ^ 60

def stackAddr : Goldilocks :=
  stackBase + (r.sel .push + r.sel .call) * r.stackPtr +
    (r.sel .pop + r.sel .ret) * (r.stackPtr - 1)

def finalMemAddr : Goldilocks :=
  r.isRealMemOp * (r.rs1Val + r.imm) + r.isStackOp * r.stackAddr +
    r.isStorageOp * (storageBase + r.imm) +
    r.merkle.isExpand * (r.imm + 8 + 8 * r.merkle.round) + r.onOriginal * r.imm

def isMemWrite : Goldilocks := r.sel .store + r.sel .push + r.sel .call + r.sel .sWrite

def cpuMemVal : Goldilocks :=
  r.sel .load * r.rdValNew + r.sel .store * r.rs2Val + r.sel .push * r.rs1Val +
    r.sel .pop * r.rdValNew + r.sel .call * (r.pc + 1) + r.sel .ret * r.nextPc +
    r.sel .sRead * r.rdValNew + r.sel .sWrite * r.rs1Val +
    r.merkle.isExpand * r.merkle.sibling + r.onOriginal * r.merkle.key

def memAccess : Access := ⟨r.clk, r.finalMemAddr, r.cpuMemVal, r.isMemWrite⟩

def memoryDemand : List (Goldilocks × Access) := [(r.isAnyMemOp, r.memAccess)]

def memoryEntry : Access := ⟨r.mem.clk, r.mem.addr, r.mem.val, r.mem.isWrite⟩

def memorySupply : List (Goldilocks × Access) := [(r.mem.active, r.memoryEntry)]

def fetch : Fetch :=
  ⟨r.pc, r.rawInst, r.opcode, r.rdIdx, r.rs1Idx, r.rs2Idx, r.imm⟩

def programDemand : List (Goldilocks × Fetch) := [(r.cpuActive * (1 - r.expansion), r.fetch)]

end Row

/-! ### The whole system -/

/-- The public part of a proof: the number of steps and the program.  A verifier refuses both above
`MAX_TRACE_LEN`. -/
structure BudAir where
  numSteps : ℕ
  program : List UInt64
  numSteps_le : numSteps ≤ 2 ^ 20
  program_le : program.length ≤ 2 ^ 20

namespace BudAir

theorem two_steps_le : 2 ≤ 2 ^ 20 := by norm_num

variable (air : BudAir)

/-- The number of rows. -/
def height : ℕ := max (2 ^ Nat.clog 2 (3 * air.numSteps + 1)) 16

/-- The preprocessed columns: the program decoded, and zero words after its end. -/
def rom (i : ℕ) : Fetch :=
  let inst := air.program.getD i 0
  { pc := i
    inst := inst.toNat
    opcode := Instruction.opcodeByte inst
    rd := (Instruction.rdBits inst).toNat
    rs1 := (Instruction.rs1Bits inst).toNat
    rs2 := (Instruction.rs2Bits inst).toNat
    imm := ((Instruction.decodeAny inst).map fun d => immField d.imm).getD 0 }

def romActive (i : ℕ) : Goldilocks := if i < air.program.length then 1 else 0

/-- A main trace of `n` rows meets every constraint, and the three lookups balance.  The running sums
step between consecutive rows, so the last row puts nothing on either side. -/
structure SatisfiesAt (n : ℕ) (pub : ℕ → Goldilocks) (tr : ℕ → Row) : Prop where
  selectors : ∀ i < n, Vanish (tr i).selectors
  activity : ∀ i < n, Vanish (tr i).activity
  arithmetic : ∀ i < n, Vanish (tr i).arithmetic
  equality : ∀ i < n, Vanish (tr i).equality
  registerIndices : ∀ i < n, Vanish (tr i).registerIndices
  loadImmediate : ∀ i < n, Vanish (tr i).loadImmediate
  jumps : ∀ i < n, Vanish (tr i).jumps
  assertion : ∀ i < n, Vanish (tr i).assertion
  logicalNot : ∀ i < n, Vanish (tr i).logicalNot
  merkleLocal : ∀ i < n, Vanish (tr i).merkleLocal
  stackPc : ∀ i < n, Vanish (tr i).stackPc
  outputs : ∀ i < n, Vanish ((tr i).outputs pub)
  syscalls : ∀ i < n, Vanish ((tr i).syscalls pub)
  registerTable : ∀ i < n, Vanish (tr i).registerTable
  memoryTable : ∀ i < n, Vanish (tr i).memoryTable
  comparison : ∀ i < n, Vanish (tr i).comparison
  inferenceLocal : ∀ i < n, Vanish (tr i).inferenceLocal
  poseidonGadget : ∀ i < n, Vanish (tr i).poseidonGadget
  poseidonResults : ∀ i < n, Vanish (tr i).poseidonResults
  sumConservation : ∀ i < n, Vanish (tr i).sumConservation
  progMult : ∀ i < n, (tr i).progMult * (1 - air.romActive i) = 0
  clockAndPc : ∀ i < n - 1, Vanish ((tr i).clockAndPc (tr (i + 1)))
  activityStep : ∀ i < n - 1, Vanish ((tr i).activityStep (tr (i + 1)))
  merkleSteps : ∀ i < n - 1, Vanish ((tr i).merkleSteps (tr (i + 1)))
  stackStep : ∀ i < n - 1, Vanish ((tr i).stackStep (tr (i + 1)))
  haltStep : ∀ i < n - 1, Vanish ((tr i).haltStep (tr (i + 1)))
  gasStep : ∀ i < n - 1, Vanish ((tr i).gasStep (tr (i + 1)))
  eventStep : ∀ i < n - 1, Vanish ((tr i).eventStep (tr (i + 1)))
  stateWritesCarry : ∀ i < n - 1, Vanish ((tr i).stateWritesCarry (tr (i + 1)))
  stateWritesStep : ∀ i < n - 1, Vanish ((tr i).stateWritesStep (tr (i + 1)))
  registerTableStep : ∀ i < n - 1, Vanish ((tr i).registerTableStep (tr (i + 1)))
  memoryTableStep : ∀ i < n - 1, Vanish ((tr i).memoryTableStep (tr (i + 1)))
  inferenceChain : ∀ i < n, Vanish ((tr i).inferenceChain (tr ((i + 1) % n)))
  firstRow : Vanish ((tr 0).firstRow pub)
  lastRow : Vanish ((tr (n - 1)).lastRow pub)
  registers : Balanced (traffic (n - 1) fun i => (tr i).registerDemand)
    (traffic (n - 1) fun i => (tr i).registerSupply)
  memory : Balanced (traffic (n - 1) fun i => (tr i).memoryDemand)
    (traffic (n - 1) fun i => (tr i).memorySupply)
  program : Balanced (traffic (n - 1) fun i => (tr i).programDemand)
    (traffic (n - 1) fun i => [((tr i).progMult, air.rom i)])

def Satisfies (pub : ℕ → Goldilocks) (tr : ℕ → Row) : Prop := air.SatisfiesAt air.height pub tr

theorem sixteen_le_height : 16 ≤ air.height := le_max_right _ _

theorem height_le : air.height ≤ 2 ^ 22 := by
  have hsteps := air.numSteps_le
  have hlog : Nat.clog 2 (3 * air.numSteps + 1) ≤ 22 :=
    Nat.clog_le_of_le_pow (by norm_num at hsteps ⊢; omega)
  exact max_le (Nat.pow_le_pow_right (by norm_num) hlog) (by norm_num)

/-- Up to five steps need sixteen rows. -/
theorem height_eq_sixteen (h : air.numSteps ≤ 5) : air.height = 16 := by
  have hlog : Nat.clog 2 (3 * air.numSteps + 1) ≤ 4 := Nat.clog_le_of_le_pow (by omega)
  exact max_eq_right (Nat.pow_le_pow_right (by norm_num) hlog)

end BudAir

end Budlum.Zkvm
