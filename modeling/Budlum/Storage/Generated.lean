import Budlum.Storage.Manifest

/-!
# Generated content

A recipe names a generator, a seed and the length of the output, and a budget of steps.  Running it
draws a square picture, row by row, in fixed-point arithmetic; the bytes depend on the recipe alone.
A manifest that claims to be generated is checked by running its recipe and comparing the content
identifier of the bytes.
-/

namespace Budlum

open Except (ensure)

/-! ### Fixed-point numbers with 16 fractional bits -/

namespace Fixed

def one : Int := 65536

/-- Saturate at a signed word of `w` bits. -/
def clampSigned (w : Nat) (v : Int) : Int := max (-2 ^ (w - 1)) (min (2 ^ (w - 1) - 1) v)

def fromInt (v : Int) : Int := v * one

def toInt (v : Int) : Int := clampSigned 32 (v / one)

def mul (a b : Int) : Int := clampSigned 64 (a * b / one)

def div (a b : Int) : Int := if b = 0 then 0 else clampSigned 64 ((a * one).tdiv b)

def clampUnit (v : Int) : Int := max 0 (min one v)

/-- Newton's iteration for an integer square root, at most `fuel` steps. -/
def sqrtLoop (v : Nat) : (fuel x y : Nat) → Nat
  | 0, x, _ => x
  | fuel + 1, x, y => if x ≤ y then x else sqrtLoop v fuel y ((y + v / y) / 2)

def sqrt (v : Int) : Int :=
  if v ≤ 0 then 0 else fromInt (sqrtLoop v.toNat 40 v.toNat ((v.toNat + 1) / 2))

end Fixed

/-! ### Recipes -/

inductive GenerateError where
  | budgetExhausted (budget needed : UInt32)
  | lengthMismatch (declared : UInt32) (produced : Nat)
  | idMismatch (expected produced : ContentId)
  | outputTooLarge (declared max : UInt32)
  | budgetAboveCeiling (declared ceiling : UInt32)
  | emptyOutput
  deriving DecidableEq, Repr

def maxGeneratedBytes : UInt32 := 4 * 1024 * 1024
def stepsPerOutputByte : Nat := 1
def maxStepsPerOutputByte : Nat := 8
def stepBudgetBase : Nat := 4096

/-- The steps that were used and those that were paid for. -/
structure Meter where
  used : Nat := 0
  budget : UInt32

/-- Use some steps.  The count saturates at 32 bits. -/
def Meter.charge (meter : Meter) (n : Nat) : Except GenerateError Meter := do
  let used := min (meter.used + n) (2 ^ 32 - 1)
  ensure (decide (used ≤ meter.budget.toNat))
    (.budgetExhausted meter.budget (UInt32.ofNat used))
  return { meter with used := used }

/-- Use the same number of steps for every row. -/
def Meter.chargeRows (meter : Meter) (steps : Nat) : (rows : Nat) → Except GenerateError Meter
  | 0 => .ok meter
  | rows + 1 => do
    let meter ← meter.charge steps
    meter.chargeRows steps rows

section Drawing

variable (C : Crypto)

/-- The byte at a position of the stream a seed expands to. -/
def seedByte (seed : Hash32) (i : Nat) : UInt8 :=
  (hashBytes (C.hashFieldsBytes [textBytes "BDLM_GENERATED_STREAM_V1", hashBytes seed,
    u64Bytes (UInt64.ofNat (i / 32))])).getD (i % 32) 0

/-- The side of the largest square of three-byte pixels, at least one. -/
def squareSide (len : UInt32) : Nat := max (Nat.sqrt (len.toNat / 3)) 1

/-- The pixels of a square, row by row, cut or padded to a length. -/
def raster (len : UInt32) (pixel : Nat → Nat → Bytes) : Bytes :=
  let side := squareSide len
  let out := (List.range side).flatMap fun y => (List.range side).flatMap fun x => pixel x y
  out.take len.toNat ++ List.replicate (len.toNat - out.length) 0

/-- Five cells in a row, mirrored: the last two columns repeat the first two. -/
def avatarCell (seed : Hash32) (row col : Nat) : Bool :=
  decide (seedByte C seed (3 + 3 * row + min col (4 - col)) &&& 1 = 1)

def drawAvatar (seed : Hash32) (len : UInt32) (meter : Meter) : Except GenerateError Bytes := do
  let side := squareSide len
  let foreground := [seedByte C seed 0, seedByte C seed 1, seedByte C seed 2]
  let meter ← meter.charge 15
  let _ ← meter.chargeRows side side
  return raster len fun x y =>
    if avatarCell C seed (y * 5 / side) (x * 5 / side) then foreground else [0xF0, 0xF0, 0xF0]

def drawGradient (seed : Hash32) (len : UInt32) (meter : Meter) : Except GenerateError Bytes := do
  let side := squareSide len
  let direction := seedByte C seed 6 % 3
  let span := Fixed.fromInt (max (side - 1) 1 : Nat)
  let _ ← meter.chargeRows (side * 3) side
  return raster len fun x y =>
    let along :=
      if direction = 0 then Fixed.fromInt x
      else if direction = 1 then Fixed.fromInt y
      else Fixed.div (Fixed.fromInt (x + y : Nat)) (Fixed.fromInt 2)
    let t := Fixed.clampUnit (Fixed.div along span)
    [0, 1, 2].map fun channel =>
      let start := Fixed.fromInt (seedByte C seed channel).toNat
      let stop := Fixed.fromInt (seedByte C seed (3 + channel)).toNat
      let v := start + Fixed.mul (stop - start) t
      let scaled := Fixed.clampUnit (Fixed.div v (Fixed.fromInt 255)) * 255 / Fixed.one
      UInt8.ofNat (min scaled.toNat 255)

def drawRings (seed : Hash32) (len : UInt32) (meter : Meter) : Except GenerateError Bytes := do
  let side := squareSide len
  let inner := [seedByte C seed 0, seedByte C seed 1, seedByte C seed 2]
  let outer := [seedByte C seed 3, seedByte C seed 4, seedByte C seed 5]
  let period : Int := (seedByte C seed 6 % 16 + 4).toNat
  let center := Fixed.fromInt (side / 2 : Nat)
  let _ ← meter.chargeRows (side * 4) side
  return raster len fun x y =>
    let dx := Fixed.fromInt x - center
    let dy := Fixed.fromInt y - center
    let d := Fixed.sqrt (max (Fixed.toInt (Fixed.mul dx dx + Fixed.mul dy dy)) 0)
    if Fixed.toInt d / period % 2 = 0 then inner else outer

/-- Run a recipe. -/
def generateContent (spec : GeneratedSpec) : Except GenerateError Bytes := do
  ensure (decide (spec.outputLen ≠ 0)) .emptyOutput
  ensure (decide (spec.outputLen ≤ maxGeneratedBytes))
    (.outputTooLarge spec.outputLen maxGeneratedBytes)
  let ceiling := min (stepBudgetBase +
    min (spec.outputLen.toNat * maxStepsPerOutputByte) (2 ^ 32 - 1)) (2 ^ 32 - 1)
  ensure (decide (spec.stepBudget.toNat ≤ ceiling))
    (.budgetAboveCeiling spec.stepBudget (UInt32.ofNat ceiling))
  let meter : Meter := { budget := spec.stepBudget }
  let meter ← meter.charge (spec.outputLen.toNat * stepsPerOutputByte)
  let out ← match spec.generator with
    | .avatar => drawAvatar C spec.seed spec.outputLen meter
    | .gradient => drawGradient C spec.seed spec.outputLen meter
    | .rings => drawRings C spec.seed spec.outputLen meter
  ensure (decide (out.length = spec.outputLen.toNat))
    (.lengthMismatch spec.outputLen out.length)
  return out

def contentIdOf (chunk : Bytes) : ContentId :=
  C.hashFieldsBytes [textBytes "BDLM_CONTENT_V1", chunk]

/-- Run a recipe and compare the identifier of what it produced. -/
def generateAndVerify (spec : GeneratedSpec) (expected : ContentId) : Except GenerateError Bytes := do
  let bytes ← generateContent C spec
  ensure (decide (contentIdOf C bytes = expected)) (.idMismatch expected (contentIdOf C bytes))
  return bytes

end Drawing

/-! ### Derived content -/

inductive DerivedError where
  | emptyRegion
  | outOfBounds (spec : DerivedSpec)
  | masterTooLarge (blocks max : UInt32)
  | derivationChain (masterId : ContentId)
  | wholeMaster
  | transformFieldsMismatch (transform : DerivedTransform) (hasPrefix : Bool)
  | prefixSpanDegenerate (keptBytes masterBytes : UInt64)
  | prefixPastEnd (keptBytes masterBytes : UInt64)
  deriving DecidableEq, Repr

def derivedMaxBlocksPerSide : UInt32 := 4096

namespace DerivedSpec

variable (spec : DerivedSpec)

def checkPrefixSpan (span : PrefixSpan) : Except DerivedError Unit := do
  ensure (decide (span.keptBytes ≤ span.masterBytes))
    (.prefixPastEnd span.keptBytes span.masterBytes)
  ensure (decide (span.keptBytes ≠ 0 ∧ span.keptBytes ≠ span.masterBytes))
    (.prefixSpanDegenerate span.keptBytes span.masterBytes)

/-- The recipe of a derivation agrees with itself. -/
def checkRegion : Except DerivedError Unit := do
  ensure (decide (spec.transform = .leading) == spec.span.isSome)
    (.transformFieldsMismatch spec.transform spec.span.isSome)
  match spec.span with
  | some span => checkPrefixSpan span
  | none => do
    ensure (decide (spec.blockW ≠ 0 ∧ spec.blockH ≠ 0)) .emptyRegion
    ensure (decide (spec.masterBlocksW ≤ derivedMaxBlocksPerSide))
      (.masterTooLarge spec.masterBlocksW derivedMaxBlocksPerSide)
    ensure (decide (spec.masterBlocksH ≤ derivedMaxBlocksPerSide))
      (.masterTooLarge spec.masterBlocksH derivedMaxBlocksPerSide)
    ensure (decide (spec.blockX.toNat + spec.blockW.toNat ≤ spec.masterBlocksW.toNat ∧
      spec.blockY.toNat + spec.blockH.toNat ≤ spec.masterBlocksH.toNat)) (.outOfBounds spec)
    ensure (!decide (spec.blockX = 0 ∧ spec.blockY = 0 ∧ spec.blockW = spec.masterBlocksW ∧
      spec.blockH = spec.masterBlocksH)) .wholeMaster

def checkMasterIsStored (masterIsDerived : Bool) : Except DerivedError Unit :=
  ensure (!masterIsDerived) (.derivationChain spec.masterId)

end DerivedSpec

end Budlum
