import Budlum.Core.Signing

/-!
# What message identifiers and event leaves tell apart

An identifier is a digest of length-prefixed fields, so it tells apart whatever the fields tell
apart.  Two fields say less than the value they stand for.  A missing correlation is written as zero,
like a correlation with the zero identifier.  Of the message of an event only the identifier is
written, and a missing message as zero.

* `ids_differ_iff` : **messages and events that differ have different digests, unless the difference
  is in a correlation or a message that is written alike.**
-/

namespace Budlum

/-- The texts fit their length prefixes, and the digest tells them apart. -/
structure ToldApart (C : Crypto) (fields fields' : List Bytes) : Prop where
  short : (fields.flatMap Encode.bytes).length < Encode.limit
  size : fields.length = fields'.length
  inj : C.hashFieldsBytes fields = C.hashFieldsBytes fields' →
    fields.flatMap Encode.bytes = fields'.flatMap Encode.bytes

theorem ToldApart.eq_iff {C : Crypto} {fields fields' : List Bytes}
    (h : ToldApart C fields fields') :
    C.hashFieldsBytes fields = C.hashFieldsBytes fields' ↔ fields = fields' :=
  ⟨fun heq => Encoding.Unique.bytes.flatMap_eq h.size h.short (h.inj heq), fun heq => heq ▸ rfl⟩

/-- Things that are the same but for a part have the same digest if that part is written alike. -/
theorem differs_iff {same but part written digest : Prop} (hdigest : digest ↔ but ∧ written)
    (hsame : same ↔ but ∧ part) : (¬same → ¬digest) ↔ ¬(but ∧ ¬part ∧ written) := by
  rw [hdigest, hsame]
  tauto

theorem head?_custom (bytes : Bytes) : (textBytes "custom:" ++ bytes).head? = some 99 := by
  rw [List.head?_append, show (textBytes "custom:").head? = some 99 by decide +kernel]
  rfl

theorem MessageKind.asBytes_injective : Function.Injective MessageKind.asBytes := by
  intro k k' h
  cases k <;> cases k' <;> first
    | rfl
    | exact congrArg custom (List.append_cancel_left h)
    | exact absurd (congrArg (List.drop 7) h) (by decide +kernel)
    | exact absurd (congrArg List.head? h) (by simp only [asBytes, head?_custom]; decide +kernel)

theorem DomainEventKind.asBytes_injective : Function.Injective DomainEventKind.asBytes := by
  intro k k' h
  cases k <;> cases k' <;> first
    | rfl
    | exact congrArg custom (List.append_cancel_left h)
    | exact absurd (congrArg (List.drop 7) h) (by decide +kernel)
    | exact absurd (congrArg List.head? h) (by simp only [asBytes, head?_custom]; decide +kernel)

theorem u32Bytes_injective : Function.Injective u32Bytes := fun _ _ h =>
  Encoding.Unique.u32.eq (N := 5) (by simp [u32Bytes]) h

theorem u64Bytes_injective : Function.Injective u64Bytes := fun _ _ h =>
  Encoding.Unique.u64.eq (N := 9) (by simp [u64Bytes]) h

namespace CrossDomainMessage

variable (m m' : CrossDomainMessage)

/-- What the identifier is a digest of. -/
def idFields : List Bytes :=
  [textBytes "BDLM_CROSS_DOMAIN_MESSAGE_V2", hashBytes (m.correlationId.getD 0),
    u32Bytes m.sourceDomain, u32Bytes m.targetDomain, u64Bytes m.sourceHeight,
    u32Bytes m.eventIndex, u64Bytes m.nonce, hashBytes m.sender, hashBytes m.recipient,
    hashBytes m.payloadHash, m.kind.asBytes, u64Bytes m.expiryHeight]

/-- The messages agree in every field but the identifier. -/
def SameBody : Prop := { m with messageId := m'.messageId } = m'

/-- The messages agree in every field but the identifier and the correlation. -/
def SameBut : Prop := SameBody { m with correlationId := m'.correlationId } m'

variable {m m'}

theorem idFields_eq_iff : m.idFields = m'.idFields ↔
    m.SameBut m' ∧ m.correlationId.getD 0 = m'.correlationId.getD 0 := by
  cases m
  cases m'
  simp [idFields, SameBut, SameBody, hashBytes_injective.eq_iff, u32Bytes_injective.eq_iff,
    u64Bytes_injective.eq_iff, MessageKind.asBytes_injective.eq_iff]
  exact and_comm

end CrossDomainMessage

namespace DomainEvent

variable (e e' : DomainEvent)

/-- What the leaf is a digest of. -/
def leafFields : List Bytes :=
  [textBytes "BDLM_DOMAIN_EVENT_V1", u32Bytes e.domainId, u64Bytes e.domainHeight,
    u32Bytes e.eventIndex, e.kind.asBytes, hashBytes e.emitter,
    hashBytes ((e.message.map (·.messageId)).getD 0), hashBytes e.payloadHash]

theorem and_message {a b c d f message g : Prop} :
    a ∧ b ∧ c ∧ d ∧ f ∧ message ∧ g ↔ (a ∧ b ∧ c ∧ d ∧ f ∧ g) ∧ message := by
  tauto

/-- The events agree in every field but the message. -/
def SameBut : Prop := { e with message := e'.message } = e'

variable {e e'}

theorem leafFields_eq_iff : e.leafFields = e'.leafFields ↔ e.SameBut e' ∧
    (e.message.map (·.messageId)).getD 0 = (e'.message.map (·.messageId)).getD 0 := by
  cases e
  cases e'
  simp only [leafFields, SameBut, List.cons.injEq, hashBytes_injective.eq_iff, mk.injEq,
    u32Bytes_injective.eq_iff, u64Bytes_injective.eq_iff,
    DomainEventKind.asBytes_injective.eq_iff, true_and, and_true]
  exact and_message

end DomainEvent

open CrossDomainMessage

/-- **Messages and events that differ have different digests**, exactly if they do not differ in a
correlation or a message that is written alike, and in nothing else. -/
theorem ids_differ_iff (C : Crypto) (m m' : CrossDomainMessage) (e e' : DomainEvent)
    (hm : ToldApart C m.idFields m'.idFields) (he : ToldApart C e.leafFields e'.leafFields) :
    ((¬m.SameBody m' → m.calculateMessageId C ≠ m'.calculateMessageId C) ↔
      ¬(m.SameBut m' ∧ m.correlationId ≠ m'.correlationId ∧
        m.correlationId.getD 0 = m'.correlationId.getD 0)) ∧
    ((e ≠ e' → e.leafHash C ≠ e'.leafHash C) ↔ ¬(e.SameBut e' ∧ e.message ≠ e'.message ∧
      (e.message.map (·.messageId)).getD 0 = (e'.message.map (·.messageId)).getD 0)) := by
  have hid : m.calculateMessageId C = m'.calculateMessageId C ↔ _ :=
    hm.eq_iff.trans idFields_eq_iff
  have hleaf : e.leafHash C = e'.leafHash C ↔ _ := he.eq_iff.trans DomainEvent.leafFields_eq_iff
  have hbody : m.SameBody m' ↔ m.SameBut m' ∧ m.correlationId = m'.correlationId := by
    cases m
    cases m'
    simp [SameBut, SameBody]
    exact and_comm
  have hevent : e = e' ↔ e.SameBut e' ∧ e.message = e'.message := by
    cases e
    cases e'
    simp only [DomainEvent.SameBut, DomainEvent.mk.injEq, true_and]
    exact DomainEvent.and_message
  exact ⟨differs_iff hid hbody, differs_iff hleaf hevent⟩

/-- A digest that tells texts of different lengths apart. -/
def lengthDigest : Crypto :=
  ⟨fun t => Fin.ofNat _ t.length, fun _ => 0, fun _ _ _ => .ok (), fun _ _ _ => .ok ()⟩

def sampleMessage (correlationId : Option MessageId) (kind : MessageKind) : CrossDomainMessage :=
  ⟨0, correlationId, 1, 2, 42, 7, 3, 5, 6, 9, kind, 100⟩

def sampleEvent (message : Option CrossDomainMessage) (kind : DomainEventKind) : DomainEvent :=
  ⟨1, 42, 7, kind, 5, message, 9⟩

theorem ids_differ_kinds :
    (sampleMessage none .bridgeLock).calculateMessageId lengthDigest ≠
      (sampleMessage none (.custom [])).calculateMessageId lengthDigest ∧
    (sampleEvent none .bridgeLocked).leafHash lengthDigest ≠
      (sampleEvent none .messageEmitted).leafHash lengthDigest := by
  have hdiffer := ids_differ_iff lengthDigest (sampleMessage none .bridgeLock)
    (sampleMessage none (.custom [])) (sampleEvent none .bridgeLocked)
    (sampleEvent none .messageEmitted) ⟨by decide +kernel, rfl, by decide +kernel⟩
    ⟨by decide +kernel, rfl, by decide +kernel⟩
  exact ⟨hdiffer.1.2 (fun h => h.2.1 rfl) (by simp [SameBody, sampleMessage]),
    hdiffer.2.2 (fun h => h.2.1 rfl) (by decide)⟩

/-- No correlation and a correlation with zero; no message, and messages that share an identifier. -/
theorem written_alike :
    (sampleMessage none .bridgeLock).calculateMessageId lengthDigest =
      (sampleMessage (some 0) .bridgeLock).calculateMessageId lengthDigest ∧
    (sampleEvent none .bridgeLocked).leafHash lengthDigest =
      (sampleEvent (some (sampleMessage none .bridgeLock)) .bridgeLocked).leafHash lengthDigest ∧
    (sampleEvent (some (sampleMessage none .bridgeLock)) .bridgeLocked).leafHash lengthDigest =
      (sampleEvent (some (sampleMessage none .bridgeMint)) .bridgeLocked).leafHash lengthDigest :=
  ⟨rfl, rfl, rfl⟩

end Budlum
