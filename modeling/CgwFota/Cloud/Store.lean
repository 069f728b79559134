import Mathlib.Logic.Function.Basic
import CgwFota.Cloud.Serializer
import CgwFota.Inventory.RoundTrip
import CgwFota.Inventory.StateStore

/-!
# The cloud state store

`FotaCloudStateStore` files one encoded record under each key. The store of the framework is a map
from keys to bytes here.

## Main definitions

* `Codec.Storable`: a record that its decoder gets back
* `loadVehicleTask`, `saveVehicleTask` and their siblings: the methods, under their own names
* `load`, `save`, `remove`: the methods by kind

## Main results

* `decodeEnvelopeJson_encodeEnvelope`: what a decoder makes of an envelope, check by check
* `Codec.Faithful.decode_encode`: a storable record is read back
* `load_stored`, `load_absent`, `load_congr`: a load depends on its own key only

## Proof strategy

The ten codecs are shown faithful once (`Kind.faithful`), each member being read as it was written;
everything else is said of any faithful codec.
-/
namespace CgwFota.Cloud

open Inventory (Bytes Thrown Disk StateDecodeError encodeEnvelope layout bad bind_ok)
open JsonText (parse dump)

/-! ### Reading what was written -/

section Envelope

variable [JsonText] {writtenAt : Int64} {v expectedVersion : UInt32} {tag : String} {text : Bytes}

/-- What a decoder finds in an envelope; the time it was written at plays no role. -/
theorem decodeEnvelopeJson_encodeEnvelope :
    decodeEnvelopeJson (encodeEnvelope writtenAt v text) expectedVersion tag =
      if text.length ≠ (UInt32.ofNat text.length).toNat then
        bad ("envelope length mismatch: declared=" ++ toString (UInt32.ofNat text.length) ++
          " actual=" ++ toString text.length)
      else if v > expectedVersion then
        bad (tag ++ " unknown newer schemaVersion: " ++ toString v)
      else if v < expectedVersion then
        bad (tag ++ " unsupported older schemaVersion: " ++ toString v)
      else (parse text).mapError fun e => .state ⟨tag ++ " json parse failed: " ++ e.what⟩ := by
  unfold decodeEnvelopeJson encodeEnvelope
  rw [Inventory.parse_layout_eq]
  dsimp only
  by_cases long : text.length ≠ (UInt32.ofNat text.length).toNat
  · rw [if_pos long, if_pos long]
    rfl
  -- the reader accepts the version the writer puts in
  · have readable : ¬Inventory.schema.MIN_READER_VERSION > Inventory.schema.WRITER_VERSION := by
      decide
    rw [if_neg long, if_neg long, if_neg readable]
    have whole : text.length = (UInt32.ofNat text.length).toNat := not_not.mp long
    simp only [Except.mapError, bind_ok]
    rw [Inventory.extractPayload_layout (by exact whole)]

end Envelope

namespace Codec

variable {ρ : Type} {codec : Codec ρ} {r : ρ}

/-- A record is read back from its own JSON object. -/
structure Faithful (codec : Codec ρ) : Prop where
  canonical : ∀ r, (codec.toJson r).Canonical
  read : ∀ r, codec.fields (codec.toJson r) = .ok r

variable [JsonText]

/-- The record is of the current version, and its text is shorter than four gigabytes. -/
structure Storable (codec : Codec ρ) (r : ρ) : Prop where
  current : codec.schemaVersion r = codec.version
  fits : (dump (codec.toJson r)).length < 2 ^ 32

/-- When a record was written cannot be seen by its decoder. -/
theorem decode_envelope (codec : Codec ρ) (t t' : Int64) (v : UInt32) (text : Bytes) :
    codec.decode (encodeEnvelope t v text) = codec.decode (encodeEnvelope t' v text) := by
  unfold decode
  rw [decodeEnvelopeJson_encodeEnvelope, decodeEnvelopeJson_encodeEnvelope]

theorem Faithful.storable [LawfulJsonText] (faithful : codec.Faithful)
    (current : codec.schemaVersion r = codec.version)
    (short : (codec.toJson r).maxLength < 2 ^ 32) : codec.Storable r :=
  ⟨current, Nat.lt_of_le_of_lt (LawfulJsonText.length_dump (faithful.canonical r)) short⟩

/-- What was encoded is decoded to the same record. -/
theorem Faithful.decode_encode [LawfulJsonText] (faithful : codec.Faithful)
    (storable : codec.Storable r) (writtenAt : Int64) :
    codec.decode (codec.encode writtenAt r) = .ok r := by
  -- the length in the envelope is not cut
  have short : ¬(dump (codec.toJson r)).length ≠
      (UInt32.ofNat (dump (codec.toJson r)).length).toNat :=
    not_not.mpr (UInt32.toNat_ofNat_of_lt' storable.fits).symm
  unfold decode encode
  rw [decodeEnvelopeJson_encodeEnvelope, if_neg short, storable.current,
    if_neg (UInt32.lt_irrefl _), if_neg (UInt32.lt_irrefl _),
    LawfulJsonText.parse_dump (faithful.canonical r)]
  show (liftM (codec.fields (codec.toJson r)) : Except Thrown ρ) = .ok r
  rw [faithful.read]
  rfl

end Codec

theorem Kind.faithful (k : Kind) : k.codec.Faithful where
  canonical r := by
    apply Json.canonical_ofMembers
    cases k <;> simp [codec, vehicleTaskCodec, inventoryCodec, consentCodec, downloadCodec,
      executionCodec, eventOutboxMetaCodec, eventOutboxCodec, controlCodec, policyCodec,
      logJobCodec, Json.Canonical.string, Json.Canonical.boolean, Json.canonical_uint64,
      Json.canonical_uint32, Json.canonical_int64]
  read r := by
    cases k <;>
    simp only [codec, vehicleTaskCodec, inventoryCodec, consentCodec, downloadCodec,
      executionCodec, eventOutboxMetaCodec, eventOutboxCodec, controlCodec, policyCodec,
      logJobCodec, Codec.toJson, getStr, getStrOpt, Json.atKey_ofMembers, Json.value_ofMembers,
      Json.lookup_first] <;>
    simp [Json.getString, Json.getBoolean, Json.getUInt64_toNat, Json.getUInt32_toNat,
      Json.getInt64_toInt, bind_ok]

/-! ### The methods -/

section Methods

variable [JsonText] {ρ : Type}

def loadRecord (key : String) (codec : Codec ρ) (d : Disk) : Except Thrown (Option ρ) :=
  match d key with
  | none => .ok none
  | some bytes => (codec.decode bytes).map some

def saveRecord (key : String) (codec : Codec ρ) (r : ρ) (writtenAt : Int64) (d : Disk) : Disk :=
  d.put key (codec.encode writtenAt r)

namespace FotaCloudStateStore

def loadVehicleTask := loadRecord keys.VEHICLE_TASK vehicleTaskCodec
def saveVehicleTask := saveRecord keys.VEHICLE_TASK vehicleTaskCodec
def removeVehicleTask (d : Disk) := d.remove keys.VEHICLE_TASK

def loadInventory := loadRecord keys.INVENTORY inventoryCodec
def saveInventory := saveRecord keys.INVENTORY inventoryCodec
def removeInventory (d : Disk) := d.remove keys.INVENTORY

def loadConsent := loadRecord keys.CONSENT consentCodec
def saveConsent := saveRecord keys.CONSENT consentCodec
def removeConsent (d : Disk) := d.remove keys.CONSENT

def loadDownload (packageId : String) := loadRecord (keys.downloadKey packageId) downloadCodec
def saveDownload (r : FotaDownloadRecord) :=
  saveRecord (keys.downloadKey r.packageId) downloadCodec r
def removeDownload (packageId : String) (d : Disk) := d.remove (keys.downloadKey packageId)

def loadExecution := loadRecord keys.EXECUTION executionCodec
def saveExecution := saveRecord keys.EXECUTION executionCodec
def removeExecution (d : Disk) := d.remove keys.EXECUTION

def loadEventOutboxMeta := loadRecord keys.EVENT_OUTBOX_META eventOutboxMetaCodec
def saveEventOutboxMeta := saveRecord keys.EVENT_OUTBOX_META eventOutboxMetaCodec

def loadEvent (sequenceNo : UInt64) := loadRecord (keys.eventKey sequenceNo) eventOutboxCodec
def saveEvent (r : FotaEventOutboxRecord) :=
  saveRecord (keys.eventKey r.sequenceNo) eventOutboxCodec r
def removeEvent (sequenceNo : UInt64) (d : Disk) := d.remove (keys.eventKey sequenceNo)

def loadControl (revision : UInt64) := loadRecord (keys.controlKey revision) controlCodec
def saveControl (r : FotaControlRecord) :=
  saveRecord (keys.controlKey r.controlRevision) controlCodec r
def removeControl (revision : UInt64) (d : Disk) := d.remove (keys.controlKey revision)

def loadPolicy := loadRecord keys.POLICY policyCodec
def savePolicy := saveRecord keys.POLICY policyCodec
def removePolicy (d : Disk) := d.remove keys.POLICY

def loadLogJob (logRequestId : String) := loadRecord (keys.logJobKey logRequestId) logJobCodec
def saveLogJob (r : FotaLogJobRecord) := saveRecord (keys.logJobKey r.logRequestId) logJobCodec r
def removeLogJob (logRequestId : String) (d : Disk) := d.remove (keys.logJobKey logRequestId)

/-- The load of each kind. -/
def load : (k : Kind) → k.Id → Disk → Except Thrown (Option k.Record)
  | .vehicleTask, _ => loadVehicleTask
  | .inventory, _ => loadInventory
  | .consent, _ => loadConsent
  | .download, packageId => loadDownload packageId
  | .execution, _ => loadExecution
  | .eventOutboxMeta, _ => loadEventOutboxMeta
  | .event, sequenceNo => loadEvent sequenceNo
  | .control, revision => loadControl revision
  | .policy, _ => loadPolicy
  | .logJob, logRequestId => loadLogJob logRequestId

/-- The save of each kind; the encoder reads the clock. -/
def save : (k : Kind) → k.Record → Int64 → Disk → Disk
  | .vehicleTask => saveVehicleTask
  | .inventory => saveInventory
  | .consent => saveConsent
  | .download => saveDownload
  | .execution => saveExecution
  | .eventOutboxMeta => saveEventOutboxMeta
  | .event => saveEvent
  | .control => saveControl
  | .policy => savePolicy
  | .logJob => saveLogJob

/-- The removal of each kind. The outbox watermarks cannot be removed. -/
def remove : (k : Kind) → k ≠ .eventOutboxMeta → k.Id → Disk → Disk
  | .vehicleTask, _, _ => removeVehicleTask
  | .inventory, _, _ => removeInventory
  | .consent, _, _ => removeConsent
  | .download, _, packageId => removeDownload packageId
  | .execution, _, _ => removeExecution
  | .eventOutboxMeta, item, _ => absurd rfl item
  | .event, _, sequenceNo => removeEvent sequenceNo
  | .control, _, revision => removeControl revision
  | .policy, _, _ => removePolicy
  | .logJob, _, logRequestId => removeLogJob logRequestId

variable {k : Kind} {id : k.Id} {r : k.Record} {d d' : Disk}

theorem load_eq : load k id d = loadRecord (k.key id) k.codec d := by cases k <;> rfl

theorem save_eq {writtenAt : Int64} :
    save k r writtenAt d = d.put (k.key (k.idOf r)) (k.codec.encode writtenAt r) := by
  cases k <;> rfl

omit [JsonText] in
theorem remove_eq {item : k ≠ .eventOutboxMeta} : remove k item id d = d.remove (k.key id) := by
  cases k <;> first | rfl | exact absurd rfl item

/-- A load looks at its own key. -/
theorem load_congr (same : d' (k.key id) = d (k.key id)) : load k id d' = load k id d := by
  rw [load_eq, load_eq, loadRecord, loadRecord, same]

theorem load_absent (absent : d (k.key id) = none) : load k id d = .ok none := by
  rw [load_eq, loadRecord, absent]

theorem load_stored [LawfulJsonText] {writtenAt : Int64}
    (stored : d (k.key id) = some (k.codec.encode writtenAt r)) (storable : k.codec.Storable r) :
    load k id d = .ok (some r) := by
  rw [load_eq, loadRecord, stored]
  dsimp only
  rw [k.faithful.decode_encode storable writtenAt]
  rfl

end FotaCloudStateStore

end Methods

end CgwFota.Cloud
