import CgwFota.Inventory.State

/-!
# Records of the cloud state

The records behind the `fota.*` keys as the serializer sees them: numbers have the width of the
source's, and protobuf messages are opaque hexadecimal strings.

## Main definitions

* `FotaVehicleTaskRecord` and its siblings: the ten records
* `Kind`: which of them; `Kind.Record`, `Kind.Id` and `Kind.key` are its record, what tells its
  records apart, and the key of the framework's store

## Main result

* `Kind.key_injective`: a key belongs to one kind and one identity
-/
namespace CgwFota.Cloud

open Inventory (Timestamp)

namespace schema

def VEHICLE_TASK_VERSION : UInt32 := 1
def INVENTORY_VERSION : UInt32 := 1
def CONSENT_VERSION : UInt32 := 1
def DOWNLOADS_VERSION : UInt32 := 1
def EXECUTION_VERSION : UInt32 := 1
def EVENT_OUTBOX_META_VERSION : UInt32 := 1
def EVENT_OUTBOX_VERSION : UInt32 := 1
def CONTROLS_VERSION : UInt32 := 1
def POLICY_VERSION : UInt32 := 1
def LOG_JOBS_VERSION : UInt32 := 1

end schema

/-! ### Records -/

structure FotaVehicleTaskRecord where
  schemaVersion : UInt32 := schema.VEHICLE_TASK_VERSION
  vehicleTaskId : String := ""
  taskRevision : UInt64 := 0
  targetBaselineCode : String := ""
  vehicleTaskState : String := ""
  frozenAtMs : Timestamp := 0
  taskSnapshotPbHex : String := ""
  localDispositionResult : String := ""
  superseded : Bool := false
  deriving DecidableEq, Repr

structure FotaInventoryRecord where
  schemaVersion : UInt32 := schema.INVENTORY_VERSION
  mode : String := ""
  inventoryRevision : UInt64 := 0
  algorithm : String := ""
  ecuListDigestHex : String := ""
  baselineCode : String := ""
  fotaMasterVersion : String := ""
  collectedAtMs : Timestamp := 0
  requestPbHex : String := ""
  fullRequired : Bool := false
  deriving DecidableEq, Repr

structure FotaConsentRecord where
  schemaVersion : UInt32 := schema.CONSENT_VERSION
  vehicleTaskId : String := ""
  effectiveStatus : String := ""
  receiptId : String := ""
  receiptExpiresAtMs : Timestamp := 0
  termsId : String := ""
  termsVersion : String := ""
  termsDigestHex : String := ""
  termsAlgorithm : String := ""
  consentTimeMs : Timestamp := 0
  channel : String := ""
  deriving DecidableEq, Repr

structure FotaDownloadRecord where
  schemaVersion : UInt32 := schema.DOWNLOADS_VERSION
  packageId : String := ""
  packageRevision : String := ""
  etag : String := ""
  currentOffsetBytes : UInt64 := 0
  offsetScope : String := ""
  credentialExpiresAtMs : Timestamp := 0
  verifyStatus : String := ""
  stageResultId : String := ""
  stageResultDigestHex : String := ""
  ready : Bool := false
  deriving DecidableEq, Repr

structure FotaExecutionRecord where
  schemaVersion : UInt32 := schema.EXECUTION_VERSION
  vehicleTaskId : String := ""
  executionId : String := ""
  attemptNo : UInt32 := 0
  permitId : String := ""
  permitToken : String := ""
  controlRevision : UInt64 := 0
  validUntilMs : Timestamp := 0
  executionState : String := ""
  installPlanVersion : String := ""
  checkpointPbHex : String := ""
  offlinePolicyPbHex : String := ""
  timeoutPolicyPbHex : String := ""
  deriving DecidableEq, Repr

structure FotaEventOutboxMeta where
  schemaVersion : UInt32 := schema.EVENT_OUTBOX_META_VERSION
  nextSequenceNo : UInt64 := 1
  acceptedSequenceNo : UInt64 := 0
  deriving DecidableEq, Repr

structure FotaEventOutboxRecord where
  schemaVersion : UInt32 := schema.EVENT_OUTBOX_VERSION
  sequenceNo : UInt64 := 0
  eventId : String := ""
  eventDigestHex : String := ""
  stage : String := ""
  eventStatus : String := ""
  progress : UInt32 := 0
  occurredAtMs : Timestamp := 0
  payloadSummary : String := ""
  sendStatus : String := ""
  eventPbHex : String := ""
  deriving DecidableEq, Repr

structure FotaControlRecord where
  schemaVersion : UInt32 := schema.CONTROLS_VERSION
  controlId : String := ""
  controlRevision : UInt64 := 0
  action : String := ""
  scope : String := ""
  applyMode : String := ""
  issuedAtMs : Timestamp := 0
  expiresAtMs : Timestamp := 0
  reason : String := ""
  ackStatus : String := ""
  ackSequenceNo : UInt64 := 0
  appliedAtMs : Timestamp := 0
  deriving DecidableEq, Repr

structure FotaPolicyRecord where
  schemaVersion : UInt32 := schema.POLICY_VERSION
  localPolicyVersion : String := ""
  basePreferenceVersion : String := ""
  preferenceVersion : String := ""
  effectivePolicyPbHex : String := ""
  conflict : Bool := false
  effectiveAtMs : Timestamp := 0
  deriving DecidableEq, Repr

structure FotaLogJobRecord where
  schemaVersion : UInt32 := schema.LOG_JOBS_VERSION
  logRequestId : String := ""
  objectKey : String := ""
  digestHex : String := ""
  algorithm : String := ""
  sizeBytes : UInt64 := 0
  status : String := ""
  completedAtMs : Timestamp := 0
  deriving DecidableEq, Repr

/-! ### Keys -/

namespace keys

def VEHICLE_TASK : String := "fota.vehicle_task"
def INVENTORY : String := "fota.inventory"
def CONSENT : String := "fota.consent"
def DOWNLOADS_PREFIX : String := "fota.downloads:"
def EXECUTION : String := "fota.execution"
def EVENT_OUTBOX_META : String := "fota.event_outbox_meta"
def EVENT_OUTBOX_PREFIX : String := "fota.event_outbox:"
def CONTROLS_PREFIX : String := "fota.controls:"
def POLICY : String := "fota.policy"
def LOG_JOBS_PREFIX : String := "fota.log_jobs:"
def MIGRATION_MARKER : String := "fota.migration_marker"

def downloadKey (packageId : String) : String := DOWNLOADS_PREFIX ++ packageId
def eventKey (seq : UInt64) : String := EVENT_OUTBOX_PREFIX ++ toString seq
def controlKey (revision : UInt64) : String := CONTROLS_PREFIX ++ toString revision
def logJobKey (logRequestId : String) : String := LOG_JOBS_PREFIX ++ logRequestId

end keys

/-! ### Kinds of records -/

inductive Kind where
  | vehicleTask | inventory | consent | download | execution | eventOutboxMeta | event | control
  | policy | logJob
  deriving DecidableEq, Repr

namespace Kind

abbrev Record : Kind → Type
  | vehicleTask => FotaVehicleTaskRecord
  | inventory => FotaInventoryRecord
  | consent => FotaConsentRecord
  | download => FotaDownloadRecord
  | execution => FotaExecutionRecord
  | eventOutboxMeta => FotaEventOutboxMeta
  | event => FotaEventOutboxRecord
  | control => FotaControlRecord
  | policy => FotaPolicyRecord
  | logJob => FotaLogJobRecord

/-- What tells the records of a kind apart. There is one record of a kind without items. -/
abbrev Id : Kind → Type
  | download | logJob => String
  | event | control => UInt64
  | _ => Unit

/-- The identifier inside a record. -/
def idOf : (k : Kind) → k.Record → k.Id
  | download, r => r.packageId
  | event, r => r.sequenceNo
  | control, r => r.controlRevision
  | logJob, r => r.logRequestId
  | vehicleTask, _ | inventory, _ | consent, _ | execution, _ | eventOutboxMeta, _ | policy, _ => ()

def key : (k : Kind) → k.Id → String
  | vehicleTask, _ => keys.VEHICLE_TASK
  | inventory, _ => keys.INVENTORY
  | consent, _ => keys.CONSENT
  | download, packageId => keys.downloadKey packageId
  | execution, _ => keys.EXECUTION
  | eventOutboxMeta, _ => keys.EVENT_OUTBOX_META
  | event, seq => keys.eventKey seq
  | control, revision => keys.controlKey revision
  | policy, _ => keys.POLICY
  | logJob, logRequestId => keys.logJobKey logRequestId

instance decidableEqId : (k : Kind) → DecidableEq k.Id
  | download | logJob => inferInstanceAs (DecidableEq String)
  | event | control => inferInstanceAs (DecidableEq UInt64)
  | vehicleTask | inventory | consent | execution | eventOutboxMeta | policy =>
    inferInstanceAs (DecidableEq Unit)

instance decidableEqRecord : (k : Kind) → DecidableEq k.Record
  | vehicleTask => inferInstanceAs (DecidableEq FotaVehicleTaskRecord)
  | inventory => inferInstanceAs (DecidableEq FotaInventoryRecord)
  | consent => inferInstanceAs (DecidableEq FotaConsentRecord)
  | download => inferInstanceAs (DecidableEq FotaDownloadRecord)
  | execution => inferInstanceAs (DecidableEq FotaExecutionRecord)
  | eventOutboxMeta => inferInstanceAs (DecidableEq FotaEventOutboxMeta)
  | event => inferInstanceAs (DecidableEq FotaEventOutboxRecord)
  | control => inferInstanceAs (DecidableEq FotaControlRecord)
  | policy => inferInstanceAs (DecidableEq FotaPolicyRecord)
  | logJob => inferInstanceAs (DecidableEq FotaLogJobRecord)

/-! ### Keys tell records apart -/

/-- How the keys of a kind begin. -/
def stem : Kind → String
  | vehicleTask => keys.VEHICLE_TASK
  | inventory => keys.INVENTORY
  | consent => keys.CONSENT
  | download => keys.DOWNLOADS_PREFIX
  | execution => keys.EXECUTION
  | eventOutboxMeta => keys.EVENT_OUTBOX_META
  | event => keys.EVENT_OUTBOX_PREFIX
  | control => keys.CONTROLS_PREFIX
  | policy => keys.POLICY
  | logJob => keys.LOG_JOBS_PREFIX

/-- Different numbers are printed differently. -/
theorem toString_uint64_injective {m n : UInt64} (same : toString m = toString n) : m = n := by
  have digits : Nat.toDigits 10 m.toNat = Nat.toDigits 10 n.toNat := String.ofList_inj.mp same
  have numbers := congrArg (Nat.ofDigitChars 10 · 0) digits
  simp only [Nat.ofDigitChars_ten_toDigits] at numbers
  exact UInt64.toNat_inj.mp numbers

theorem stem_prefix_key (k : Kind) (id : k.Id) : k.stem.toList <+: (k.key id).toList := by
  cases k with
  | download | event | control | logJob => exact ⟨_, (String.toList_append).symm⟩
  | vehicleTask | inventory | consent | execution | eventOutboxMeta | policy =>
    exact List.prefix_rfl

/-- No kind's keys begin like those of another kind. -/
theorem stem_apart : ∀ k k' : Kind, k ≠ k' → ¬k.stem.toList <+: k'.stem.toList := by
  intro k k' other
  cases k <;> cases k' <;> first | exact absurd rfl other | decide

/-- A key tells the kind and the identity of its record. -/
theorem key_injective {k k' : Kind} {id : k.Id} {id' : k'.Id} (same : k.key id = k'.key id') :
    (⟨k, id⟩ : (k : Kind) × k.Id) = ⟨k', id'⟩ := by
  -- keys of two kinds would have two different beginnings
  have kinds : k = k' := by
    by_contra other
    have first := stem_prefix_key k id
    rw [same] at first
    rcases List.prefix_or_prefix_of_prefix first (stem_prefix_key k' id') with inside | inside
    · exact stem_apart k k' other inside
    · exact stem_apart k' k (Ne.symm other) inside
  subst kinds
  congr 1
  -- behind the stem stands the identity, printed
  cases k with
  | download | logJob => exact (String.append_right_inj _).mp same
  | event | control => exact toString_uint64_injective ((String.append_right_inj _).mp same)
  | vehicleTask | inventory | consent | execution | eventOutboxMeta | policy => rfl

end Kind

end CgwFota.Cloud
