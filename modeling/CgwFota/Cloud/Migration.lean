import CgwFota.Cloud.Legacy
import CgwFota.Cloud.Store
import CgwFota.Crash.Throwing

/-!
# Migration of the `ota.*` keys

`migrateOtaToFota` as requests to the framework's store. The earlier keys are removed only after the
new records and a marker are durable; where the marker is there already, nothing but this removal is
left to do.

## Main definitions

* `oldKeys`, `kMarkerKey`: the keys the migration is about
* `Part`: an earlier key with the new records its value is carried over to
* `migrateOtaToFota`: detection, marker, new records, second reading, marker, removal

## Main result

* `decodeMarker_encodeMarker`: a marker that was written is read again
-/
namespace CgwFota.Cloud

open Crash
open Inventory (Bytes Thrown Timestamp Disk StoreException StoreM StoreWorld Surroundings
  encodeEnvelope request)
open JsonText (dump)

/-! ### Keys and marker -/

def OLD_VEHICLE_TASK : String := "ota.vehicle_task"
def OLD_INVENTORY : String := "ota.inventory"
def OLD_CONSENT : String := "ota.consent"
def OLD_DOWNLOADS : String := "ota.downloads"
def OLD_EXECUTION : String := "ota.execution"
def OLD_EVENT_OUTBOX : String := "ota.event_outbox"
def OLD_CONTROLS : String := "ota.controls"
def OLD_POLICY : String := "ota.policy"
def OLD_LOG_JOBS : String := "ota.log_jobs"

def oldKeys : List String :=
  [ OLD_VEHICLE_TASK, OLD_INVENTORY, OLD_CONSENT, OLD_DOWNLOADS, OLD_EXECUTION, OLD_EVENT_OUTBOX,
    OLD_CONTROLS, OLD_POLICY, OLD_LOG_JOBS ]

def kMarkerKey : String := keys.MIGRATION_MARKER

structure MigrationMarker where
  schemaVersion : UInt32 := 1
  completed : Bool := false
  migratedKeyCount : UInt32 := 0
  migratedAtMs : Timestamp := 0
  deriving DecidableEq, Repr

def markerCodec : Codec MigrationMarker where
  tag := "migration_marker"
  version := 1
  schemaVersion := (·.schemaVersion)
  members m :=
    [ ("schemaVersion", .integer m.schemaVersion.toNat),
      ("completed", .boolean m.completed),
      ("migratedKeyCount", .integer m.migratedKeyCount.toNat),
      ("migratedAtMs", .integer m.migratedAtMs.toInt) ]
  fields j := do
    let schemaVersion ← j.value Json.getUInt32 "schemaVersion" 1
    let completed ← j.value Json.getBoolean "completed" false
    let migratedKeyCount ← j.value Json.getUInt32 "migratedKeyCount" 0
    let migratedAtMs ← j.value Json.getInt64 "migratedAtMs" 0
    return { schemaVersion, completed, migratedKeyCount, migratedAtMs }

theorem faithful_markerCodec : markerCodec.Faithful where
  canonical m := by
    apply Json.canonical_ofMembers
    simp [markerCodec, Json.Canonical.boolean, Json.canonical_uint32, Json.canonical_int64]
  read m := by
    simp [markerCodec, Codec.toJson, Json.value_ofMembers, Json.lookup_first, Json.getBoolean,
      Json.getUInt32_toNat, Json.getInt64_toInt, Inventory.bind_ok]

section Marker

variable [JsonText]

def encodeMarker (writtenAt : Int64) (m : MigrationMarker) : Bytes := markerCodec.encode writtenAt m

def decodeMarker (bytes : Bytes) : Except Thrown MigrationMarker := markerCodec.decode bytes

/-- The marker is small enough to be read back. -/
theorem decodeMarker_encodeMarker [LawfulJsonText] (writtenAt : Int64) {m : MigrationMarker}
    (current : m.schemaVersion = 1) : decodeMarker (encodeMarker writtenAt m) = .ok m := by
  -- the members as the object sorts them, so that their length can be computed
  have sorted : markerCodec.toJson m = .object
      [ ("completed", .boolean m.completed),
        ("migratedAtMs", .integer m.migratedAtMs.toInt),
        ("migratedKeyCount", .integer m.migratedKeyCount.toNat),
        ("schemaVersion", .integer m.schemaVersion.toNat) ] := by
    simp [markerCodec, Codec.toJson, Json.ofMembers, Json.emplace, Json.keyBefore,
      Json.keyBefore.go]
  apply faithful_markerCodec.decode_encode
  apply faithful_markerCodec.storable current
  rw [sorted]
  simp only [Json.maxLength, Json.maxLengthMembers]
  decide

end Marker

/-! ### What each earlier key is carried over to -/

/-- A record to be saved under its own key. -/
structure Write where
  kind : Kind
  record : kind.Record

def Write.key (r : Write) : String := r.kind.key (r.kind.idOf r.record)

/-- The new records, and the watermarks where the earlier value has some. -/
structure Carried where
  records : List Write
  outboxMeta : Option FotaEventOutboxMeta := none

structure Part where
  key : String
  carry : Bytes → Except Thrown Carried

section Parts

variable [JsonText]

def vehicleTaskPart : Part where
  key := OLD_VEHICLE_TASK
  carry bytes := do
    let old ← decodeLegacyVehicleTask bytes
    return { records := [⟨.vehicleTask, old.migrate⟩] }

def inventoryPart : Part where
  key := OLD_INVENTORY
  carry bytes := do
    let old ← decodeLegacyInventory bytes
    return { records := [⟨.inventory, old.migrate⟩] }

def consentPart : Part where
  key := OLD_CONSENT
  carry bytes := do
    let old ← decodeLegacyConsent bytes
    return { records := [⟨.consent, old.migrate⟩] }

def downloadsPart : Part where
  key := OLD_DOWNLOADS
  carry bytes := do
    let old ← decodeLegacyDownloads bytes
    return { records := old.entries.map fun e => ⟨.download, e.migrate⟩ }

def executionPart : Part where
  key := OLD_EXECUTION
  carry bytes := do
    let old ← decodeLegacyExecution bytes
    return { records := [⟨.execution, old.migrate⟩], outboxMeta := some old.outboxMeta }

def eventOutboxPart : Part where
  key := OLD_EVENT_OUTBOX
  carry bytes := do
    let old ← decodeLegacyEventOutbox bytes
    return {
      records := old.entries.map fun e => ⟨.event, e.migrate⟩
      outboxMeta := some old.outboxMeta }

def controlsPart : Part where
  key := OLD_CONTROLS
  carry bytes := do
    let old ← decodeLegacyControls bytes
    return { records := old.entries.map fun e => ⟨.control, e.migrate⟩ }

def policyPart : Part where
  key := OLD_POLICY
  carry bytes := do
    let old ← decodeLegacyPolicy bytes
    return { records := [⟨.policy, old.migrate⟩] }

def logJobsPart : Part where
  key := OLD_LOG_JOBS
  carry bytes := do
    let old ← decodeLegacyLogJobs bytes
    return { records := old.entries.map fun e => ⟨.logJob, e.migrate⟩ }

/-- What is carried over before the watermarks are known. -/
def firstParts : List Part :=
  [ vehicleTaskPart, inventoryPart, consentPart, downloadsPart, executionPart, eventOutboxPart ]

def lastParts : List Part := [controlsPart, policyPart, logJobsPart]

end Parts

/-! ### Requests -/

/-- What leaves the migration: an exception of the store, or what a decoder throws. -/
inductive Aborted where
  | store (e : StoreException)
  | thrown (x : Thrown)
  deriving DecidableEq, Repr

section Requests

variable [JsonText]

abbrev MigrationM : Type → Type := Throwing Surroundings StoreWorld Aborted

def ask {α : Type} (m : StoreM (Except StoreException α)) : MigrationM α :=
  Throwing.attempt do return (← m).mapError .store

def decoding {α : Type} (r : Except Thrown α) : MigrationM α :=
  match r with
  | .ok a => pure a
  | .error x => throw (.thrown x)

def nowMs : MigrationM Int64 := Throwing.attempt do return .ok (← Inventory.nowMs)

namespace Store

def has (key : String) : MigrationM Bool := ask (Inventory.has key)

def load (key : String) : MigrationM Bytes := ask (Inventory.load key)

def save (key : String) (bytes : Bytes) : MigrationM Unit := ask (Inventory.save key bytes)

/-- Tells whether the key was there. -/
def remove (key : String) : MigrationM Bool :=
  ask (request (·.remove key) fun _ d => .ok (d key).isSome)

end Store

/-- The encoder reads the clock. -/
def saveEncoded (r : Write) : MigrationM Unit := do
  let writtenAt ← nowMs
  Store.save r.key (r.kind.codec.encode writtenAt r.record)

end Requests

/-! ### The migration -/

structure FotaMigrationResult where
  ran : Bool := false
  completed : Bool := true
  migratedKeys : Nat := 0
  detail : String := ""
  deriving DecidableEq, Repr

/-- The local variables of the migration. -/
structure Progress where
  outboxMeta : FotaEventOutboxMeta := {}
  written : Nat := 0

section Migration

variable [JsonText]

def anyOld : List String → MigrationM Bool
  | [] => pure false
  | key :: keys => do if ← Store.has key then return true else anyOld keys

def markerDone : MigrationM Bool := do
  if ← Store.has kMarkerKey then
    let m ← decoding (decodeMarker (← Store.load kMarkerKey))
    return m.completed
  else return false

/-- Save a record and count it. -/
def saveCounted (written : Nat) (r : Write) : MigrationM Nat := do
  saveEncoded r
  return written + 1

def carryOver (p : Progress) (part : Part) : MigrationM Progress := do
  if ← Store.has part.key then
    let carried ← decoding (part.carry (← Store.load part.key))
    let written ← Throwing.fold saveCounted carried.records p.written
    return { outboxMeta := carried.outboxMeta.getD p.outboxMeta, written }
  else return p

/-- All new records; the watermarks are saved whatever the store held. -/
def writeNew : MigrationM Nat := do
  let p ← Throwing.fold carryOver firstParts {}
  let written ← saveCounted p.written ⟨.eventOutboxMeta, p.outboxMeta⟩
  let p ← Throwing.fold carryOver lastParts { p with written }
  return p.written

/-- The records that are read once more. -/
def rechecked : List ((k : Kind) × k.Id) :=
  [ ⟨.vehicleTask, ()⟩, ⟨.inventory, ()⟩, ⟨.consent, ()⟩, ⟨.execution, ()⟩, ⟨.eventOutboxMeta, ()⟩,
    ⟨.policy, ()⟩ ]

def recheck (_ : Unit) (r : (k : Kind) × k.Id) : MigrationM Unit := do
  if ← Store.has (r.1.key r.2) then
    let _ ← decoding (r.1.codec.decode (← Store.load (r.1.key r.2)))

def saveMarker (written : Nat) : MigrationM Unit := do
  let migratedAtMs ← nowMs
  let writtenAt ← nowMs
  Store.save kMarkerKey
    (encodeMarker writtenAt
      { completed := true, migratedKeyCount := UInt32.ofNat written, migratedAtMs })

def removeCounted (cleaned : Nat) (key : String) : MigrationM Nat := do
  if ← Store.remove key then return cleaned + 1 else return cleaned

def cleanUp : MigrationM Nat := Throwing.fold removeCounted oldKeys 0

def cleanedResult (cleaned : Nat) : FotaMigrationResult :=
  { ran := true
    completed := true
    migratedKeys := cleaned
    detail := "marker already completed; cleaned leftover ota.* keys" }

def migratedResult (written cleaned : Nat) : FotaMigrationResult :=
  { ran := true
    completed := true
    migratedKeys := cleaned
    detail := "migrated " ++ toString written ++ " fota.* key(s), cleaned " ++ toString cleaned ++
      " ota.* key(s)" }

def migrateOtaToFota : MigrationM FotaMigrationResult := do
  if ← anyOld oldKeys then
    if ← markerDone then
      let cleaned ← cleanUp
      return cleanedResult cleaned
    else
      let written ← writeNew
      Throwing.fold recheck rechecked ()
      saveMarker written
      let cleaned ← cleanUp
      return migratedResult written cleaned
  else return {}

end Migration

end CgwFota.Cloud
