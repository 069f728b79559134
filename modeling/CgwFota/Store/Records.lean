import CgwFota.Data.Keyed
import CgwFota.Proto.Messages

/-!
# Durable state of the cloud FOTA contract

The records under the `fota.*` keys as the orchestrator sees them. A store holds at most one record
for each singleton key and one record for each item of the itemised kinds, filed under the
identifier inside the record.

## Main definitions

* The nine kinds of record and the outbox meta.
* `FotaCloudStateStore`: what is durable.
* `Save`, `FotaCloudStateStore.save`: one durable write, atomic on its own.
* `FotaCloudStateStore.outboxMeta`: the meta as it is read, with its defaults.

## Proof strategy

Nothing here speaks of bytes, texts or files. The byte level has its own records, which carry the
hex texts and the write times as well, and the two levels are tied together record by record where
their properties are proved.
-/
namespace CgwFota

structure FotaVehicleTaskRecord where
  vehicleTaskId : String := ""
  taskRevision : Nat := 0
  targetBaselineCode : String := ""
  vehicleTaskState : String := ""
  frozenAtMs : Int := 0
  taskSnapshotPbHex : PbHex VehicleTaskSnapshot := default
  localDispositionResult : String := ""
  superseded : Bool := false
  deriving DecidableEq, Repr, Inhabited

structure FotaInventoryRecord where
  mode : String := ""
  inventoryRevision : Nat := 0
  algorithm : String := ""
  ecuListDigestHex : String := ""
  baselineCode : String := ""
  fotaMasterVersion : String := ""
  collectedAtMs : Int := 0
  requestPbHex : PbHex TaskCheckRequest := default
  fullRequired : Bool := false
  deriving DecidableEq, Repr, Inhabited

structure FotaConsentRecord where
  vehicleTaskId : String := ""
  effectiveStatus : String := ""
  receiptId : String := ""
  receiptExpiresAtMs : Int := 0
  termsId : String := ""
  termsVersion : String := ""
  termsDigestHex : String := ""
  termsAlgorithm : String := ""
  consentTimeMs : Int := 0
  channel : String := ""
  deriving DecidableEq, Repr, Inhabited

structure FotaDownloadRecord where
  packageId : String := ""
  packageRevision : String := ""
  etag : String := ""
  currentOffsetBytes : Nat := 0
  offsetScope : String := ""
  credentialExpiresAtMs : Int := 0
  verifyStatus : String := ""
  stageResultId : String := ""
  stageResultDigestHex : String := ""
  ready : Bool := false
  deriving DecidableEq, Repr, Inhabited

structure FotaExecutionRecord where
  vehicleTaskId : String := ""
  executionId : String := ""
  attemptNo : Nat := 0
  permitId : String := ""
  permitToken : String := ""
  controlRevision : Nat := 0
  validUntilMs : Int := 0
  executionState : String := ""
  installPlanVersion : String := ""
  offlinePolicyPbHex : PbHex OfflinePolicy := default
  timeoutPolicyPbHex : PbHex TimeoutPolicy := default
  deriving DecidableEq, Repr, Inhabited

/-- The two watermarks of the outbox. -/
structure FotaEventOutboxMeta where
  nextSequenceNo : Nat := 1
  acceptedSequenceNo : Nat := 0
  deriving DecidableEq, Repr

instance : Inhabited FotaEventOutboxMeta := ⟨{}⟩

structure FotaEventOutboxRecord where
  sequenceNo : Nat := 0
  eventId : String := ""
  eventDigestHex : String := ""
  stage : String := ""
  eventStatus : String := ""
  progress : Nat := 0
  occurredAtMs : Int := 0
  payloadSummary : String := ""
  sendStatus : String := ""
  eventPbHex : PbHex ExecutionEvent := default
  deriving DecidableEq, Repr, Inhabited

structure FotaControlRecord where
  controlId : String := ""
  controlRevision : Nat := 0
  action : String := ""
  scope : String := ""
  applyMode : String := ""
  issuedAtMs : Int := 0
  expiresAtMs : Int := 0
  reason : String := ""
  ackStatus : String := ""
  ackSequenceNo : Nat := 0
  appliedAtMs : Int := 0
  deriving DecidableEq, Repr, Inhabited

structure FotaPolicyRecord where
  localPolicyVersion : String := ""
  basePreferenceVersion : String := ""
  preferenceVersion : String := ""
  effectivePolicyPbHex : PbHex EffectivePolicy := default
  conflict : Bool := false
  effectiveAtMs : Int := 0
  deriving DecidableEq, Repr, Inhabited

structure FotaLogJobRecord where
  logRequestId : String := ""
  objectKey : String := ""
  digestHex : String := ""
  algorithm : String := ""
  sizeBytes : Nat := 0
  status : String := ""
  completedAtMs : Int := 0
  deriving DecidableEq, Repr, Inhabited

/-- The durable state behind `FotaCloudStateStore`. -/
structure FotaCloudStateStore where
  vehicleTask : Option FotaVehicleTaskRecord := none
  inventory : Option FotaInventoryRecord := none
  consent : Option FotaConsentRecord := none
  downloads : Keyed FotaDownloadRecord.packageId := Keyed.empty
  execution : Option FotaExecutionRecord := none
  eventOutboxMeta : Option FotaEventOutboxMeta := none
  events : Keyed FotaEventOutboxRecord.sequenceNo := Keyed.empty
  controls : Keyed FotaControlRecord.controlRevision := Keyed.empty
  policy : Option FotaPolicyRecord := none
  logJobs : Keyed FotaLogJobRecord.logRequestId := Keyed.empty

/-- One durable write. Each is atomic on its own; nothing spans two keys. -/
inductive Save where
  | vehicleTask (r : FotaVehicleTaskRecord)
  | inventory (r : FotaInventoryRecord)
  | consent (r : FotaConsentRecord)
  | download (r : FotaDownloadRecord)
  | execution (r : FotaExecutionRecord)
  | eventOutboxMeta (r : FotaEventOutboxMeta)
  | event (r : FotaEventOutboxRecord)
  | control (r : FotaControlRecord)
  | policy (r : FotaPolicyRecord)
  | logJob (r : FotaLogJobRecord)
  deriving DecidableEq, Repr

namespace FotaCloudStateStore

@[simp] def save (s : FotaCloudStateStore) : Save → FotaCloudStateStore
  | .vehicleTask r => { s with vehicleTask := some r }
  | .inventory r => { s with inventory := some r }
  | .consent r => { s with consent := some r }
  | .download r => { s with downloads := s.downloads.insert r }
  | .execution r => { s with execution := some r }
  | .eventOutboxMeta r => { s with eventOutboxMeta := some r }
  | .event r => { s with events := s.events.insert r }
  | .control r => { s with controls := s.controls.insert r }
  | .policy r => { s with policy := some r }
  | .logJob r => { s with logJobs := s.logJobs.insert r }

def loadDownload (s : FotaCloudStateStore) (packageId : String) : Option FotaDownloadRecord :=
  s.downloads.get packageId

def loadEvent (s : FotaCloudStateStore) (sequenceNo : Nat) : Option FotaEventOutboxRecord :=
  s.events.get sequenceNo

def loadControl (s : FotaCloudStateStore) (revision : Nat) : Option FotaControlRecord :=
  s.controls.get revision

/-- `loadEventOutboxMeta().value_or(FotaEventOutboxMeta{})`. -/
def outboxMeta (s : FotaCloudStateStore) : FotaEventOutboxMeta := s.eventOutboxMeta.getD {}

end FotaCloudStateStore

end CgwFota
