import Budlum.Zkvm.Goldilocks

/-!
# The instruction set

An instruction is one 64-bit word: the opcode in the low byte, three register numbers of five bits,
and a signed 32-bit immediate.

* `Instruction.encode`, `Instruction.decodeAny` : the two directions of the word format.
* `immField` : the field element a signed immediate becomes.
-/

namespace Budlum.Zkvm

inductive Opcode where
  | halt | add | sub | mul | div | inv | and | not | eq | neq | lt | gt | lte | gte
  | jmp | jnz | call | ret | load | store | push | pop | assert | poseidon | log
  | sRead | sWrite | syscall | verifyMerkle | verifyInference
  | privacyCommit | nullifierCheck | sumConservation
  deriving Repr, DecidableEq

namespace Opcode

/-- The discriminants.  0x07 and 0x08 are not assigned. -/
def code : Opcode → ℕ
  | halt => 0x00 | add => 0x01 | sub => 0x02 | mul => 0x03 | div => 0x04 | inv => 0x05
  | and => 0x06 | not => 0x09 | eq => 0x0A | neq => 0x0B | lt => 0x0C | gt => 0x0D
  | lte => 0x0E | gte => 0x0F | jmp => 0x10 | jnz => 0x11 | call => 0x12 | ret => 0x13
  | load => 0x14 | store => 0x15 | push => 0x16 | pop => 0x17 | assert => 0x18
  | poseidon => 0x19 | log => 0x1A | sRead => 0x1B | sWrite => 0x1C | syscall => 0x1D
  | verifyMerkle => 0x1E | verifyInference => 0x1F | privacyCommit => 0x20
  | nullifierCheck => 0x21 | sumConservation => 0x22

/-- The opcodes in the order of their discriminants. -/
def all : List Opcode :=
  [halt, add, sub, mul, div, inv, and, not, eq, neq, lt, gt, lte, gte, jmp, jnz, call, ret, load,
    store, push, pop, assert, poseidon, log, sRead, sWrite, syscall, verifyMerkle,
    verifyInference, privacyCommit, nullifierCheck, sumConservation]

theorem nodup_all : all.Nodup := by decide

theorem mem_all (o : Opcode) : o ∈ all := by cases o <;> decide

instance : Fintype Opcode := ⟨⟨all, nodup_all⟩, mem_all⟩

def ofCode (c : ℕ) : Option Opcode := all.find? (·.code = c)

theorem ofCode_code (o : Opcode) : ofCode o.code = some o := by cases o <;> rfl

theorem code_injective : Function.Injective code := fun o o' h => by
  simpa [ofCode_code] using congrArg ofCode h

end Opcode

structure Instruction where
  opcode : Opcode
  rd : UInt8
  rs1 : UInt8
  rs2 : UInt8
  imm : Int32
  deriving DecidableEq

namespace Instruction

def encode (i : Instruction) : UInt64 :=
  UInt64.ofNat i.opcode.code ||| (i.rd.toUInt64 <<< 8) ||| (i.rs1.toUInt64 <<< 13) |||
    (i.rs2.toUInt64 <<< 18) ||| (i.imm.toUInt32.toUInt64 <<< 23)

/-- The fields of a word, before the opcode is checked. -/
def opcodeByte (word : UInt64) : ℕ := (word &&& 0xFF).toNat
def rdBits (word : UInt64) : UInt64 := (word >>> 8) &&& 0x1F
def rs1Bits (word : UInt64) : UInt64 := (word >>> 13) &&& 0x1F
def rs2Bits (word : UInt64) : UInt64 := (word >>> 18) &&& 0x1F
def immBits (word : UInt64) : Int32 := ((word >>> 23) &&& 0xFFFFFFFF).toUInt32.toInt32

/-- `decode_any`: no instruction for an unknown opcode. -/
def decodeAny (word : UInt64) : Option Instruction :=
  (Opcode.ofCode (opcodeByte word)).map fun opcode =>
    { opcode
      rd := (rdBits word).toUInt8
      rs1 := (rs1Bits word).toUInt8
      rs2 := (rs2Bits word).toUInt8
      imm := immBits word }

end Instruction

/-- A signed immediate as a field element: a negative one is the negated magnitude. -/
def immField (imm : Int32) : Goldilocks :=
  if imm < 0 then 0 - ((-imm.toInt).toNat : Goldilocks) else (imm.toInt.toNat : Goldilocks)

end Budlum.Zkvm
