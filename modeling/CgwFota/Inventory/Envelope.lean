import Mathlib.Algebra.Group.Nat.Defs
import Mathlib.Tactic.Common

/-!
# The envelope of a stored state

Every inventory state is stored as a fixed header, integers in little-endian order, followed by the
JSON text of the state.

## Main definitions

* `putU32Le`, `getU32Le` and their siblings: integers as bytes
* `encodeEnvelope`, `parseEnvelopeHeader`, `extractPayload`: the three functions of the source
* `layout`: where the fields of a header stand

## Main results

* `getU32Le_putU32Le`, `getU64Le_putU64Le`: an integer that was written is read again
* `parse_layout_eq`: what the parser makes of a layout, check by check
* `parse_encodeEnvelope`, `parse_encodeEnvelope_long`: a payload comes back if its length fits
-/
namespace CgwFota.Inventory

abbrev Bytes := List UInt8

/-- Thrown by the decoders; carries the message. -/
structure StateDecodeError where
  message : String
  deriving DecidableEq, Repr

namespace schema

def SEQUENCE_VERSION : UInt32 := 1
def LAST_SUCCESS_VERSION : UInt32 := 2
def DEDUPE_VERSION : UInt32 := 2
def ACTIVE_JOB_VERSION : UInt32 := 2
def MIN_READER_VERSION : UInt32 := 0
def WRITER_VERSION : UInt32 := 2

end schema

namespace envelope

/-- `FTSE`. -/
def MAGIC : Bytes := [0x46, 0x54, 0x53, 0x45]

def HEADER_SIZE : Nat := 4 + 4 + 4 + 4 + 8 + 4

end envelope

/-! ### Integers as bytes -/

def putU32Le (v : UInt32) : Bytes :=
  [ (v &&& 0xFF).toUInt8,
    ((v >>> 8) &&& 0xFF).toUInt8,
    ((v >>> 16) &&& 0xFF).toUInt8,
    ((v >>> 24) &&& 0xFF).toUInt8 ]

def putU64Le (v : Int64) : Bytes :=
  let u := v.toUInt64
  (List.range 8).map fun i => ((u >>> (8 * i).toUInt64) &&& 0xFF).toUInt8

def getU32Le (b : Bytes) (off : Nat) : UInt32 :=
  (b.getD off 0).toUInt32
    ||| (b.getD (off + 1) 0).toUInt32 <<< 8
    ||| (b.getD (off + 2) 0).toUInt32 <<< 16
    ||| (b.getD (off + 3) 0).toUInt32 <<< 24

def getU64Le (b : Bytes) (off : Nat) : Int64 :=
  let u := (List.range 8).foldl
    (fun u i => u ||| (b.getD (off + i) 0).toUInt64 <<< (8 * i).toUInt64) 0
  u.toInt64

@[simp] theorem length_putU32Le (v : UInt32) : (putU32Le v).length = 4 := rfl

@[simp] theorem length_putU64Le (v : Int64) : (putU64Le v).length = 8 := rfl

theorem mask_toUInt8_of_uint32 (v : UInt32) : (v &&& 0xFF).toUInt8 = v.toUInt8 := by
  rw [UInt32.toUInt8_and]
  exact UInt8.and_neg_one

theorem mask_toUInt8_of_uint64 (v : UInt64) : (v &&& 0xFF).toUInt8 = v.toUInt8 := by
  rw [UInt64.toUInt8_and]
  exact UInt8.and_neg_one

/-- Reading looks only at the bytes from the offset on. -/
theorem getU32Le_append (before b : Bytes) :
    getU32Le (before ++ b) before.length = getU32Le b 0 := by
  simp [getU32Le, List.getElem?_append_right]

/-- Reading looks only at the bytes from the offset on. -/
theorem getU64Le_append (before b : Bytes) :
    getU64Le (before ++ b) before.length = getU64Le b 0 := by
  simp [getU64Le, List.getElem?_append_right]

/-- Four bytes that were written are read as the number they were written from. -/
theorem getU32Le_putU32Le (v : UInt32) (rest : Bytes) : getU32Le (putU32Le v ++ rest) 0 = v := by
  simp only [getU32Le, putU32Le, mask_toUInt8_of_uint32, List.cons_append, List.getD_cons_zero,
    List.getD_cons_succ]
  -- bit by bit: the bytes cover disjoint ranges
  apply UInt32.eq_of_toBitVec_eq
  apply BitVec.eq_of_getLsbD_eq
  intro i inside
  simp [-UInt32.toUInt32_toUInt8]
  grind

/-- Eight bytes that were written are read as the number they were written from. -/
theorem getU64Le_putU64Le (v : Int64) (rest : Bytes) : getU64Le (putU64Le v ++ rest) 0 = v := by
  have same : (List.range 8).foldl (fun u i => u |||
      (v.toUInt64 >>> (8 * i).toUInt64).toUInt8.toUInt64 <<< (8 * i).toUInt64) 0 = v.toUInt64 := by
    apply UInt64.eq_of_toBitVec_eq
    apply BitVec.eq_of_getLsbD_eq
    -- bit by bit again
    intro i inside
    simp [List.range, List.range.loop, -UInt64.toUInt64_toUInt8]
    grind
  have read : getU64Le (putU64Le v ++ rest) 0 = v.toUInt64.toInt64 := by
    rw [← same]
    simp only [getU64Le, putU64Le, mask_toUInt8_of_uint64, List.range, List.range.loop, List.map,
      List.foldl, List.cons_append, Nat.zero_add, List.getD_cons_zero, List.getD_cons_succ]
  rw [read]
  exact Int64.toInt64_toUInt64 v

/-- Where `putU32Le` wrote, `getU32Le` reads the value back. -/
theorem getU32Le_at {b : Bytes} {off : Nat} {v : UInt32} (before rest : Bytes)
    (split : b = before ++ (putU32Le v ++ rest)) (position : before.length = off) :
    getU32Le b off = v := by
  subst split position
  exact (getU32Le_append before _).trans (getU32Le_putU32Le v rest)

theorem getU64Le_at {b : Bytes} {off : Nat} {v : Int64} (before rest : Bytes)
    (split : b = before ++ (putU64Le v ++ rest)) (position : before.length = off) :
    getU64Le b off = v := by
  subst split position
  exact (getU64Le_append before _).trans (getU64Le_putU64Le v rest)

/-! ### Header and payload -/

structure EnvelopeHeader where
  schemaVersion : UInt32 := 0
  writerVersion : UInt32 := 0
  minReaderVersion : UInt32 := 0
  writtenAt : Int64 := 0
  payloadLen : UInt32 := 0
  deriving DecidableEq, Repr

/-- The layout of an envelope. -/
def layout (h : EnvelopeHeader) (payload : Bytes) : Bytes :=
  envelope.MAGIC
    ++ putU32Le h.schemaVersion
    ++ putU32Le h.writerVersion
    ++ putU32Le h.minReaderVersion
    ++ putU64Le h.writtenAt
    ++ putU32Le h.payloadLen
    ++ payload

/-- The time the source reads from the clock is passed in. -/
def encodeEnvelope (writtenAt : Int64) (schemaVersion : UInt32) (payloadJson : Bytes) : Bytes :=
  layout
    { schemaVersion
      writerVersion := schema.WRITER_VERSION
      minReaderVersion := schema.MIN_READER_VERSION
      writtenAt
      payloadLen := UInt32.ofNat payloadJson.length }
    payloadJson

def parseEnvelopeHeader (bytes : Bytes) : Except StateDecodeError EnvelopeHeader :=
  if bytes.length < envelope.HEADER_SIZE then
    .error ⟨"envelope truncated: size=" ++ toString bytes.length⟩
  else if bytes.take 4 ≠ envelope.MAGIC then
    .error ⟨"envelope bad magic"⟩
  else
    let h : EnvelopeHeader :=
      { schemaVersion := getU32Le bytes 4
        writerVersion := getU32Le bytes 8
        minReaderVersion := getU32Le bytes 12
        writtenAt := getU64Le bytes 16
        payloadLen := getU32Le bytes 24 }
    if bytes.length ≠ envelope.HEADER_SIZE + h.payloadLen.toNat then
      .error ⟨"envelope length mismatch: declared=" ++ toString h.payloadLen ++ " actual=" ++
        toString (bytes.length - envelope.HEADER_SIZE)⟩
    else if h.minReaderVersion > schema.WRITER_VERSION then
      .error ⟨"envelope minReaderVersion too high: " ++ toString h.minReaderVersion⟩
    else .ok h

def extractPayload (bytes : Bytes) (hdr : EnvelopeHeader) : Bytes :=
  (bytes.drop envelope.HEADER_SIZE).take hdr.payloadLen.toNat

section Layout

variable {h : EnvelopeHeader} {payload : Bytes}

@[simp] theorem length_layout :
    (layout h payload).length = envelope.HEADER_SIZE + payload.length := by
  simp only [layout, List.length_append, length_putU32Le, length_putU64Le, envelope.HEADER_SIZE]
  rfl

/-- The header is read back field by field, then the declared length is compared with the real one
and the version with what this reader understands. -/
theorem parse_layout_eq :
    parseEnvelopeHeader (layout h payload) =
      if payload.length ≠ h.payloadLen.toNat then
        .error ⟨"envelope length mismatch: declared=" ++ toString h.payloadLen ++ " actual=" ++
          toString payload.length⟩
      else if h.minReaderVersion > schema.WRITER_VERSION then
        .error ⟨"envelope minReaderVersion too high: " ++ toString h.minReaderVersion⟩
      else .ok h := by
  -- each field is found behind the fields that stand before it
  have schemaVersion : getU32Le (layout h payload) 4 = h.schemaVersion :=
    getU32Le_at envelope.MAGIC _ (by simp only [layout, List.append_assoc]; rfl) rfl
  have writerVersion : getU32Le (layout h payload) 8 = h.writerVersion :=
    getU32Le_at (envelope.MAGIC ++ putU32Le h.schemaVersion) _
      (by simp only [layout, List.append_assoc]; rfl) rfl
  have minReaderVersion : getU32Le (layout h payload) 12 = h.minReaderVersion :=
    getU32Le_at (envelope.MAGIC ++ putU32Le h.schemaVersion ++ putU32Le h.writerVersion) _
      (by simp only [layout, List.append_assoc]; rfl) rfl
  have writtenAt : getU64Le (layout h payload) 16 = h.writtenAt :=
    getU64Le_at (envelope.MAGIC ++ putU32Le h.schemaVersion ++ putU32Le h.writerVersion
      ++ putU32Le h.minReaderVersion) _ (by simp only [layout, List.append_assoc]; rfl) rfl
  have payloadLen : getU32Le (layout h payload) 24 = h.payloadLen :=
    getU32Le_at (envelope.MAGIC ++ putU32Le h.schemaVersion ++ putU32Le h.writerVersion
      ++ putU32Le h.minReaderVersion ++ putU64Le h.writtenAt) _
      (by simp only [layout, List.append_assoc]; rfl) rfl
  have magic : (layout h payload).take 4 = envelope.MAGIC := by
    simp only [layout, List.append_assoc]
    exact List.take_left' rfl
  unfold parseEnvelopeHeader
  rw [schemaVersion, writerVersion, minReaderVersion, writtenAt, payloadLen, magic]
  have whole : ¬envelope.HEADER_SIZE + payload.length < envelope.HEADER_SIZE := by omega
  simp [whole]

theorem parse_layout (size : payload.length = h.payloadLen.toNat)
    (readable : h.minReaderVersion ≤ schema.WRITER_VERSION) :
    parseEnvelopeHeader (layout h payload) = .ok h := by
  rw [parse_layout_eq, if_neg (not_not.mpr size), if_neg (UInt32.not_lt.mpr readable)]

/-- The payload of a header with the true length is what was put behind it. -/
theorem extractPayload_layout (size : payload.length = h.payloadLen.toNat) :
    extractPayload (layout h payload) h = payload := by
  have rest : (layout h payload).drop envelope.HEADER_SIZE = payload := by
    unfold layout
    exact List.drop_left' rfl
  unfold extractPayload
  rw [rest, ← size]
  exact List.take_length

end Layout

section Encoded

variable (writtenAt : Int64) (version : UInt32) {payload : Bytes}

/-- A payload shorter than four gigabytes comes back out of its envelope. -/
theorem parse_encodeEnvelope (short : payload.length < 2 ^ 32) :
    ∃ h, parseEnvelopeHeader (encodeEnvelope writtenAt version payload) = .ok h ∧
      h.schemaVersion = version ∧
      extractPayload (encodeEnvelope writtenAt version payload) h = payload := by
  have size : payload.length = (UInt32.ofNat payload.length).toNat :=
    (UInt32.toNat_ofNat_of_lt' short).symm
  exact ⟨_, parse_layout size (by show schema.MIN_READER_VERSION ≤ schema.WRITER_VERSION; decide),
    rfl, extractPayload_layout size⟩

/-- A longer payload does not fit the length field, and its envelope is rejected. -/
theorem parse_encodeEnvelope_long (long : ¬payload.length < 2 ^ 32) :
    ∃ x, parseEnvelopeHeader (encodeEnvelope writtenAt version payload) = .error x := by
  have cut : payload.length ≠ (UInt32.ofNat payload.length).toNat := by
    have small := (UInt32.ofNat payload.length).toNat_lt
    omega
  unfold encodeEnvelope
  rw [parse_layout_eq, if_pos cut]
  exact ⟨_, rfl⟩

end Encoded

end CgwFota.Inventory
