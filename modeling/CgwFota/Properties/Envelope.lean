import CgwFota.Data.LittleEndian
import CgwFota.Inventory.Envelope

/-!
# The format of an envelope

The header parser accepts exactly the byte strings that consist of the magic, five little-endian
numbers and as many payload bytes as the last of them says.

## Main definition

* `IsEnvelope`: the format, on the bytes.

## Main results

* `parseEnvelopeHeader_eq_ok`: the parser accepts the envelopes it can read, with their header.
* `envelope_format`: so it is in both directions, and what is encoded is such an envelope.

## Proof strategy

Every field of fixed width spells some number, so a string that is long enough and has the magic is
the layout of some header. What the parser reads of a layout is that header.
-/
namespace CgwFota.Inventory

open LittleEndian (Spells)

/-- The envelope with this header and payload. The time is stored in two's complement. -/
def IsEnvelope (b : Bytes) (h : EnvelopeHeader) (payload : Bytes) : Prop :=
  payload.length = h.payloadLen.toNat ∧ ∃ version writer reader time length : Bytes,
    b = envelope.MAGIC ++ version ++ writer ++ reader ++ time ++ length ++ payload ∧
      Spells 4 h.schemaVersion.toNat version ∧ Spells 4 h.writerVersion.toNat writer ∧
      Spells 4 h.minReaderVersion.toNat reader ∧ Spells 8 h.writtenAt.toUInt64.toNat time ∧
      Spells 4 h.payloadLen.toNat length

/-! ### Numbers -/

theorem spells_putU32Le (v : UInt32) : Spells 4 v.toNat (putU32Le v) where
  length := length_putU32Le v
  value := by
    have bound := v.toNat_lt
    simp only [putU32Le, mask_toUInt8_of_uint32, LittleEndian.value, UInt32.toNat_toUInt8,
      UInt32.toNat_shiftRight, Nat.shiftRight_eq_div_pow, UInt32.reduceToNat, Nat.reduceMod,
      Nat.reducePow]
    omega

theorem spells_putU64Le (v : Int64) : Spells 8 v.toUInt64.toNat (putU64Le v) where
  length := length_putU64Le v
  value := by
    have bound := v.toUInt64.toNat_lt
    simp only [putU64Le, mask_toUInt8_of_uint64, List.range, List.range.loop, List.map,
      LittleEndian.value, UInt64.toNat_toUInt8, UInt64.toNat_shiftRight, Nat.shiftRight_eq_div_pow,
      Nat.toUInt64_eq, UInt64.toNat_ofNat', Nat.reduceMul, Nat.reduceMod, Nat.reducePow]
    omega

/-- Any four bytes are some number as it is written. -/
theorem exists_putU32Le {field : Bytes} (four : field.length = 4) : ∃ v, field = putU32Le v := by
  have bound := LittleEndian.value_lt field
  rw [four] at bound
  refine ⟨UInt32.ofNat (LittleEndian.value field), ?_⟩
  have same := UInt32.toNat_ofNat_of_lt' bound
  exact Spells.unique ⟨four, same.symm⟩ (spells_putU32Le _)

theorem exists_putU64Le {field : Bytes} (eight : field.length = 8) : ∃ v, field = putU64Le v := by
  have bound := LittleEndian.value_lt field
  rw [eight] at bound
  refine ⟨(UInt64.ofNat (LittleEndian.value field)).toInt64, ?_⟩
  have same := UInt64.toNat_ofNat_of_lt' bound
  exact Spells.unique ⟨eight, same.symm⟩ (spells_putU64Le _)

/-! ### Headers -/

theorem isEnvelope_iff {b : Bytes} {h : EnvelopeHeader} {payload : Bytes} :
    IsEnvelope b h payload ↔ b = layout h payload ∧ payload.length = h.payloadLen.toNat := by
  constructor
  · rintro ⟨size, version, writer, reader, time, length, rfl, v, w, m, t, n⟩
    refine ⟨?_, size⟩
    unfold layout
    rw [v.unique (spells_putU32Le _), w.unique (spells_putU32Le _), m.unique (spells_putU32Le _),
      t.unique (spells_putU64Le _), n.unique (spells_putU32Le _)]
  · rintro ⟨rfl, size⟩
    exact ⟨size, _, _, _, _, _, rfl, spells_putU32Le _, spells_putU32Le _, spells_putU32Le _,
      spells_putU64Le _, spells_putU32Le _⟩

/-- A string that is long enough and starts with the magic is laid out as an envelope; only the
declared length may be wrong. -/
theorem exists_layout {b : Bytes} (long : ¬b.length < envelope.HEADER_SIZE)
    (magic : b.take 4 = envelope.MAGIC) : ∃ h payload, b = layout h payload := by
  have size : 28 ≤ b.length := Nat.not_lt.mp long
  have rest (from_ width : Nat) (within : from_ + width ≤ 28) :
      ((b.drop from_).take width).length = width := by
    rw [List.length_take, List.length_drop]
    omega
  obtain ⟨schemaVersion, v⟩ := exists_putU32Le (rest 4 4 (by decide))
  obtain ⟨writerVersion, w⟩ := exists_putU32Le (rest 8 4 (by decide))
  obtain ⟨minReaderVersion, m⟩ := exists_putU32Le (rest 12 4 (by decide))
  obtain ⟨writtenAt, t⟩ := exists_putU64Le (rest 16 8 (by decide))
  obtain ⟨payloadLen, n⟩ := exists_putU32Le (rest 24 4 (by decide))
  refine ⟨{ schemaVersion, writerVersion, minReaderVersion, writtenAt, payloadLen }, b.drop 28, ?_⟩
  unfold layout
  rw [← v, ← w, ← m, ← t, ← n, ← magic]
  have chop (from_ width : Nat) :
      b.take from_ ++ (b.drop from_).take width = b.take (from_ + width) := List.take_add.symm
  rw [chop 4 4, chop 8 4, chop 12 4, chop 16 8, chop 24 4, List.take_append_drop]

/-- The parser accepts exactly the envelopes it is new enough to read. -/
theorem parseEnvelopeHeader_eq_ok {b : Bytes} {h : EnvelopeHeader} :
    parseEnvelopeHeader b = .ok h ↔
      ∃ payload, IsEnvelope b h payload ∧ h.minReaderVersion ≤ schema.WRITER_VERSION := by
  simp only [isEnvelope_iff]
  constructor
  -- accepted: long enough, with the magic, and of the declared length
  · intro parsed
    have long : ¬b.length < envelope.HEADER_SIZE := by
      intro short
      rw [parseEnvelopeHeader, if_pos short] at parsed
      cases parsed
    have magic : b.take 4 = envelope.MAGIC := by
      by_contra other
      rw [parseEnvelopeHeader, if_neg long, if_pos other] at parsed
      cases parsed
    obtain ⟨h', payload, rfl⟩ := exists_layout long magic
    rw [parse_layout_eq] at parsed
    split at parsed
    next => cases parsed
    next size =>
      split at parsed
      next => cases parsed
      next readable =>
        cases parsed
        exact ⟨payload, ⟨rfl, not_not.mp size⟩, UInt32.not_lt.mp readable⟩
  -- a layout reads back as its header
  · rintro ⟨payload, ⟨rfl, size⟩, readable⟩
    exact parse_layout size readable

/-- The parser accepts the envelopes it can read and returns their header, the payload is taken out
of them whole, and what is encoded is such an envelope. -/
theorem envelope_format (b : Bytes) :
    (∀ h, parseEnvelopeHeader b = .ok h ↔
      ∃ payload, IsEnvelope b h payload ∧ h.minReaderVersion ≤ schema.WRITER_VERSION) ∧
    (∀ h payload, IsEnvelope b h payload → extractPayload b h = payload) ∧
    ∀ writtenAt version payload, payload.length < 2 ^ 32 →
      ∃ h, parseEnvelopeHeader (encodeEnvelope writtenAt version payload) = .ok h ∧
        h.schemaVersion = version ∧
        extractPayload (encodeEnvelope writtenAt version payload) h = payload := by
  refine ⟨fun _ => parseEnvelopeHeader_eq_ok, ?_, fun _ _ _ => parse_encodeEnvelope _ _⟩
  intro h payload encoded
  obtain ⟨rfl, size⟩ := isEnvelope_iff.mp encoded
  exact extractPayload_layout size

end CgwFota.Inventory
