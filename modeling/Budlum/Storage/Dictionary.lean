import Budlum.Core.Primitives

/-!
# Shared dictionaries

An object can be compressed against a dictionary that other objects use too.  The registry of
dictionaries counts who refers to each; a dictionary nobody refers to any more can be deleted after a
period of grace.
-/

namespace Budlum

open Except (ensure ofOption ok_iff)

inductive DictionaryError where
  | unknownDictionary (dictionaryId : ContentId)
  | dictionaryChain (dictionaryId : ContentId)
  | tooLarge (size max : UInt64)
  | empty
  | sizeConflict (dictionaryId : ContentId) (recorded claimed : UInt64)
  | retiring (dictionaryId : ContentId) (deletableAtEpoch : UInt64)
  | stillReferenced (dictionaryId : ContentId) (refs : UInt32)
  | graceNotElapsed (dictionaryId : ContentId) (deletableAtEpoch nowEpoch : UInt64)
  deriving DecidableEq, Repr

def maxDictionaryBytes : UInt64 := 1024 * 1024
def dictionaryGraceEpochs : UInt64 := 1024

structure DictionaryEntry where
  size : UInt64
  refs : UInt32
  deletableAtEpoch : Option UInt64
  deriving DecidableEq, Repr

structure DictionaryRegistry where
  entries : OrdMap ContentId DictionaryEntry := ∅
  deriving DecidableEq, Inhabited

namespace DictionaryRegistry

variable (d : DictionaryRegistry)

/-- Register a dictionary; a second time it must have the same size. -/
def registerDictionary (id : ContentId) (size : UInt64) :
    Except DictionaryError DictionaryRegistry := do
  ensure (decide (size ≠ 0)) .empty
  ensure (decide (size ≤ maxDictionaryBytes)) (.tooLarge size maxDictionaryBytes)
  match d.entries.get id with
  | some existing => do
    ensure (decide (existing.size = size)) (.sizeConflict id existing.size size)
    return d
  | none => return ⟨d.entries.insert id ⟨size, 0, none⟩⟩

def hasDictionary (id : ContentId) : Bool := d.entries.contains id

def referenceCount (id : ContentId) : Option UInt32 := (d.entries.get id).map (·.refs)

/-- An object may refer to the dictionary. -/
def checkDictionaryReference (id : ContentId) (referrerIsDictionary : Bool) :
    Except DictionaryError DictionaryEntry := do
  ensure (!referrerIsDictionary) (.dictionaryChain id)
  let entry ← ofOption (d.entries.get id) (.unknownDictionary id)
  match entry.deletableAtEpoch with
  | some epoch => throw (.retiring id epoch)
  | none => return entry

/-- The largest count. -/
def maxRefs : UInt32 := UInt32.ofNat (2 ^ 32 - 1)

/-- One more reference; the count saturates. -/
def acquireDictionary (id : ContentId) (referrerIsDictionary : Bool) :
    Except DictionaryError DictionaryRegistry := do
  let entry ← d.checkDictionaryReference id referrerIsDictionary
  let refs := if entry.refs = maxRefs then entry.refs else entry.refs + 1
  return ⟨d.entries.insert id ⟨entry.size, refs, none⟩⟩

/-- One reference less; the last one starts the period of grace. -/
def releaseDictionary (id : ContentId) (nowEpoch : UInt64) : DictionaryRegistry :=
  match d.entries.get id with
  | none => d
  | some entry =>
    let refs := if entry.refs = 0 then 0 else entry.refs - 1
    let deletableAtEpoch :=
      if refs = 0 then some (nowEpoch.saturatingAdd dictionaryGraceEpochs) else entry.deletableAtEpoch
    ⟨d.entries.insert id ⟨entry.size, refs, deletableAtEpoch⟩⟩

def deleteDictionary (id : ContentId) (nowEpoch : UInt64) :
    Except DictionaryError DictionaryRegistry :=
  match d.entries.get id with
  | none => .ok d
  | some entry => do
    ensure (decide (entry.refs = 0)) (.stillReferenced id entry.refs)
    let epoch ← ofOption entry.deletableAtEpoch (.graceNotElapsed id UInt64.maxValue nowEpoch)
    ensure (decide (epoch ≤ nowEpoch)) (.graceNotElapsed id epoch nowEpoch)
    return ⟨d.entries.erase id⟩

variable {d}

variable {d' : DictionaryRegistry} {id : ContentId}

/-- What a dictionary with one more reference is. -/
theorem acquireDictionary_eq_ok {referrer : Bool}
    (h : d.acquireDictionary id referrer = .ok d') : ∃ entry, d.entries.get id = some entry ∧
      d' = ⟨d.entries.insert id ⟨entry.size,
        if entry.refs = maxRefs then entry.refs else entry.refs + 1, none⟩⟩ := by
  simp only [acquireDictionary, checkDictionaryReference, ok_iff] at h
  obtain ⟨entry, ⟨-, -, e, hget, hentry⟩, rfl⟩ := h
  split at hentry
  · cases hentry
  · obtain rfl := Except.ok.inj hentry
    exact ⟨_, hget, rfl⟩

/-- A dictionary is registered anew, or it was there before. -/
theorem registerDictionary_eq_ok {size : UInt64} (h : d.registerDictionary id size = .ok d') :
    (d.hasDictionary id = true ∧ d' = d) ∨
    (d.hasDictionary id = false ∧ d' = ⟨d.entries.insert id ⟨size, 0, none⟩⟩) := by
  simp only [registerDictionary, ok_iff] at h
  obtain ⟨-, -, -, -, h⟩ := h
  split at h
  · rename_i existing hget
    simp only [ok_iff] at h
    obtain ⟨-, -, rfl⟩ := h
    exact .inl ⟨OrdMap.contains_iff.2 ⟨existing, hget⟩, rfl⟩
  · rename_i hget
    obtain rfl := Except.ok.inj h
    exact .inr ⟨OrdMap.contains_eq_false.2 hget, rfl⟩

/-- Only a dictionary without references is deleted. -/
theorem deleteDictionary_eq_ok {nowEpoch : UInt64} (h : d.deleteDictionary id nowEpoch = .ok d') :
    (d.entries.get id = none ∧ d' = d) ∨ ∃ entry, d.entries.get id = some entry ∧ entry.refs = 0 ∧
    d' = ⟨d.entries.erase id⟩ := by
  unfold deleteDictionary at h
  split at h
  · rename_i hget
    exact .inl ⟨hget, (Except.ok.inj h).symm⟩
  · rename_i entry hget
    simp only [ok_iff] at h
    obtain ⟨-, hrefs, -, -, -, -, rfl⟩ := h
    exact .inr ⟨entry, hget, hrefs, rfl⟩

end DictionaryRegistry

end Budlum
