import Mathlib.Tactic.Common
import CgwFota.Inventory.Envelope

/-!
# States of the inventory reporter

The four states under the `inventory.*` keys, the software snapshot of the vehicle they refer to,
and the names of their enumerations.

## Main definitions

* `VehicleSoftwareSnapshot`, `EcuVersionEntry`: what is reported of a vehicle
* `SequenceState`, `LastSuccessState`, `DedupeState`, `ActiveJobState`: the four states
* `jobPhaseToString`, `jobPhaseFromString` and their siblings: the names of the enumerations
-/
namespace CgwFota.Inventory

namespace keys

def SEQUENCE : String := "inventory.sequence"
def LAST_SUCCESS : String := "inventory.last_success"
def DEDUPE : String := "inventory.dedupe"
def ACTIVE_JOB : String := "inventory.active_job"

end keys

def SNAPSHOT_SEQ_MAX : UInt64 := 0xFFFFFFFFFFFFFFFF

/-- Below the maximum the next number does not wrap. -/
theorem toNat_next {h : UInt64} (room : ¬h ≥ SNAPSHOT_SEQ_MAX) : (h + 1).toNat = h.toNat + 1 := by
  have max : SNAPSHOT_SEQ_MAX.toNat = 2 ^ 64 - 1 := rfl
  rw [ge_iff_le, UInt64.le_iff_toNat_le, max] at room
  rw [UInt64.toNat_add]
  have one : (1 : UInt64).toNat = 1 := rfl
  omega

abbrev Timestamp := Int64

/-! ### Snapshot of the vehicle -/

inductive VersionSource where
  | UDS_0x22 | SOMEIP_GET_VERSION
  deriving DecidableEq, Repr, Inhabited

inductive CollectionStatus where
  | ALL_OK | PARTIAL | FAILED
  deriving DecidableEq, Repr, Inhabited

inductive EcuStatus where
  | OK | MISSING | NRC | TIMEOUT | UNREACHABLE | PARSE_ERROR
  deriving DecidableEq, Repr, Inhabited

inductive BaselineSource where
  | FACTORY | LAST_OTA | UNKNOWN
  deriving DecidableEq, Repr, Inhabited

inductive VinSource where
  | PROVISIONED | UNKNOWN
  deriving DecidableEq, Repr, Inhabited

def versionSourceToString : VersionSource → String
  | .UDS_0x22 => "UDS_0x22"
  | .SOMEIP_GET_VERSION => "SOMEIP_GET_VERSION"

def collectionStatusToString : CollectionStatus → String
  | .ALL_OK => "ALL_OK"
  | .PARTIAL => "PARTIAL"
  | .FAILED => "FAILED"

def ecuStatusToString : EcuStatus → String
  | .OK => "OK"
  | .MISSING => "MISSING"
  | .NRC => "NRC"
  | .TIMEOUT => "TIMEOUT"
  | .UNREACHABLE => "UNREACHABLE"
  | .PARSE_ERROR => "PARSE_ERROR"

def baselineSourceToString : BaselineSource → String
  | .FACTORY => "FACTORY"
  | .LAST_OTA => "LAST_OTA"
  | .UNKNOWN => "UNKNOWN"

def vinSourceToString : VinSource → String
  | .PROVISIONED => "PROVISIONED"
  | .UNKNOWN => "UNKNOWN"

structure EcuVersionEntry where
  ecu_id : String := ""
  part_number : Option String := none
  sw_version : Option String := none
  hw_version : Option String := none
  source : VersionSource := .UDS_0x22
  status : EcuStatus := .OK
  error_code : Option String := none
  deriving DecidableEq, Repr, Inhabited

structure VehicleSoftwareSnapshot where
  vin : String := ""
  vin_source : VinSource := .UNKNOWN
  baseline_id : Option String := none
  baseline_source : BaselineSource := .UNKNOWN
  registry_version : String := ""
  collected_at : String := ""
  overall_result : CollectionStatus := .ALL_OK
  snapshot_seq : UInt64 := 0
  ecu_list : List EcuVersionEntry := []
  deriving DecidableEq, Repr, Inhabited

/-! ### States -/

/-- How far a job has come. -/
inductive JobPhase where
  | Accepted | Collecting | Assembled | SubmitPrepared | SubmitUnknown | RetryWaiting
  | CompletedPendingCleanup
  deriving DecidableEq, Repr, Inhabited

def jobPhaseToString : JobPhase → String
  | .Accepted => "Accepted"
  | .Collecting => "Collecting"
  | .Assembled => "Assembled"
  | .SubmitPrepared => "SubmitPrepared"
  | .SubmitUnknown => "SubmitUnknown"
  | .RetryWaiting => "RetryWaiting"
  | .CompletedPendingCleanup => "CompletedPendingCleanup"

def jobPhaseFromString : String → Option JobPhase
  | "Accepted" => some .Accepted
  | "Collecting" => some .Collecting
  | "Assembled" => some .Assembled
  | "SubmitPrepared" => some .SubmitPrepared
  | "SubmitUnknown" => some .SubmitUnknown
  | "RetryWaiting" => some .RetryWaiting
  | "CompletedPendingCleanup" => some .CompletedPendingCleanup
  | _ => none

/-- Why a report was asked for. -/
inductive TriggerReason where
  | AutoStart | ChangeEvent | CloudRequest | Recovery
  deriving DecidableEq, Repr, Inhabited

def triggerReasonToString : TriggerReason → String
  | .AutoStart => "AutoStart"
  | .ChangeEvent => "ChangeEvent"
  | .CloudRequest => "CloudRequest"
  | .Recovery => "Recovery"

def triggerReasonFromString : String → Option TriggerReason
  | "AutoStart" => some .AutoStart
  | "ChangeEvent" => some .ChangeEvent
  | "CloudRequest" => some .CloudRequest
  | "Recovery" => some .Recovery
  | _ => none

/-- The digests of a snapshot as they are stored, in hexadecimal. -/
structure PersistedFingerprints where
  algorithm : String := ""
  canonicalization : String := ""
  versionFingerprintHex : String := ""
  snapshotFingerprintHex : String := ""
  dedupeKeyHex : String := ""
  deriving DecidableEq, Repr, Inhabited

/-- The highest number that was given out. -/
structure SequenceState where
  schemaVersion : UInt32 := schema.SEQUENCE_VERSION
  highestAllocated : UInt64 := 0
  updatedAt : Timestamp := 0
  deriving DecidableEq, Repr

/-- The last report that was confirmed. -/
structure LastSuccessState where
  schemaVersion : UInt32 := schema.LAST_SUCCESS_VERSION
  reportId : String := ""
  snapshotSeq : UInt64 := 0
  completedAt : Timestamp := 0
  registryVersion : String := ""
  overallResult : CollectionStatus := .ALL_OK
  fingerprints : PersistedFingerprints := {}
  snapshot : VehicleSoftwareSnapshot := {}
  deriving DecidableEq, Repr

/-- A finished report in the window. -/
structure DedupeEntry where
  requestId : String := ""
  reportId : String := ""
  snapshotSeq : UInt64 := 0
  fingerprints : PersistedFingerprints := {}
  overallResult : String := ""
  completedAt : Timestamp := 0
  expiresAt : Timestamp := 0
  deriving DecidableEq, Repr

/-- The window of finished reports. -/
structure DedupeState where
  schemaVersion : UInt32 := schema.DEDUPE_VERSION
  entries : List DedupeEntry := []
  maxEntries : UInt32 := 0
  ttlMs : Int64 := 0
  deriving DecidableEq, Repr

/-- The job in flight. -/
structure ActiveJobState where
  schemaVersion : UInt32 := schema.ACTIVE_JOB_VERSION
  requestId : String := ""
  reportId : String := ""
  snapshotSeq : UInt64 := 0
  reason : TriggerReason := .AutoStart
  phase : JobPhase := .Accepted
  attempt : UInt32 := 0
  nextRetryAt : Timestamp := 0
  lastErrorCode : String := ""
  idempotencyKey : String := ""
  fingerprints : PersistedFingerprints := {}
  deriving DecidableEq, Repr

end CgwFota.Inventory
