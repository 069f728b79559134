import Mathlib.Algebra.Group.Nat.Defs
import CgwFota.Store.Records

/-!
# Migration of the `ota.*` state

The records of the earlier contract, as decoded from their keys, and the writes that carry them
over. Opaque protobuf payloads are not carried over; in particular no task snapshot is.

## Main definitions

* `LegacyStore`: the `ota.*` records that are present.
* `revisionToUint64`: a revision that was a text becomes a number.
* `LegacyStore.outboxMeta`: where the watermarks come from.
* `migrationSaves`, `migrateOtaToFota`: the writes in their order, and their effect.
* `FirstStore`: the stores a vehicle starts out with, empty or migrated.

## Main result

* `FirstStore.vehicleTask`: no first store holds a task snapshot, so a run from it begins with a
  task check.
-/
namespace CgwFota

/-! ### Legacy records -/

structure LegacyVehicleTask where
  vehicleTaskId : String := ""
  taskRevision : String := ""
  targetBaselineId : String := ""
  vehicleTaskState : String := ""
  frozenAtMs : Int := 0
  localDispositionResult : String := ""
  superseded : Bool := false
  deriving DecidableEq, Repr

structure LegacyInventory where
  mode : String := ""
  inventoryRevision : String := ""
  algorithm : String := ""
  ecuListDigest : String := ""
  collectedAtMs : Int := 0
  fullRequired : Bool := false
  deriving DecidableEq, Repr

structure LegacyConsent where
  vehicleTaskId : String := ""
  effectiveStatus : String := ""
  receiptId : String := ""
  receiptExpiresAtMs : Int := 0
  termsId : String := ""
  termsVersion : String := ""
  deriving DecidableEq, Repr

structure LegacyDownloadEntry where
  packageId : String := ""
  packageRevision : String := ""
  etag : String := ""
  offset : Int := 0
  credentialExpiresAtMs : Int := 0
  verifyStatus : String := ""
  stageResultId : String := ""
  stageResultDigest : String := ""
  ready : Bool := false
  deriving DecidableEq, Repr

structure LegacyExecution where
  vehicleTaskId : String := ""
  executionId : String := ""
  attemptNo : Nat := 0
  permitId : String := ""
  permitToken : String := ""
  controlRevision : String := ""
  validUntilMs : Int := 0
  executionState : String := ""
  installPlanVersion : String := ""
  acceptedSequenceNo : Nat := 0
  nextSequenceNo : Nat := 1
  deriving DecidableEq, Repr

structure LegacyEventOutboxEntry where
  sequenceNo : Nat := 0
  eventId : String := ""
  eventDigest : String := ""
  stage : String := ""
  progressPercent : Nat := 0
  result : String := ""
  timestampMs : Int := 0
  payloadSummary : String := ""
  sendStatus : String := ""
  deriving DecidableEq, Repr

structure LegacyEventOutbox where
  nextSequenceNo : Nat := 1
  acceptedSequenceNo : Nat := 0
  entries : List LegacyEventOutboxEntry := []
  deriving DecidableEq, Repr

structure LegacyControlEntry where
  controlRevision : String := ""
  commandType : String := ""
  applyMode : String := ""
  expiresAtMs : Int := 0
  reason : String := ""
  ackStatus : String := ""
  ackSequenceNo : Nat := 0
  appliedAtMs : Int := 0
  deriving DecidableEq, Repr

structure LegacyPolicy where
  basePreferenceVersion : String := ""
  preferenceVersion : String := ""
  conflict : Bool := false
  deriving DecidableEq, Repr

structure LegacyLogJobEntry where
  logRequestId : String := ""
  objectKey : String := ""
  digestHex : String := ""
  sizeBytes : Int := 0
  status : String := ""
  completedAtMs : Int := 0
  deriving DecidableEq, Repr

/-- The `ota.*` keys that are present. -/
structure LegacyStore where
  vehicleTask : Option LegacyVehicleTask := none
  inventory : Option LegacyInventory := none
  consent : Option LegacyConsent := none
  downloads : Option (List LegacyDownloadEntry) := none
  execution : Option LegacyExecution := none
  eventOutbox : Option LegacyEventOutbox := none
  controls : Option (List LegacyControlEntry) := none
  policy : Option LegacyPolicy := none
  logJobs : Option (List LegacyLogJobEntry) := none
  deriving DecidableEq, Repr

def LegacyStore.anyOld (old : LegacyStore) : Bool :=
  old.vehicleTask.isSome || old.inventory.isSome || old.consent.isSome || old.downloads.isSome ||
    old.execution.isSome || old.eventOutbox.isSome || old.controls.isSome || old.policy.isSome ||
    old.logJobs.isSome

/-! ### Conversions -/

/-- `std::isspace` in the C locale. -/
def isSpace (c : Char) : Bool := c = ' ' || (9 ≤ c.toNat && c.toNat ≤ 13)

/-- `std::strtoull` with base 10 on a C string, where it consumes the whole string and does not
overflow. A minus sign negates modulo 2^64. -/
def strtoullAll (cs : List Char) : Option Nat :=
  let (negative, digits) :=
    match cs.dropWhile isSpace with
    | '-' :: rest => (true, rest)
    | '+' :: rest => (false, rest)
    | rest => (false, rest)
  if cs = [] then some 0
  else if digits = [] ∨ ¬digits.all Char.isDigit then none
  else
    let value := digits.foldl (fun n c => 10 * n + (c.toNat - '0'.toNat)) 0
    if value ≥ 2 ^ 64 then none
    else some (if negative then (2 ^ 64 - value) % 2 ^ 64 else value)

/-- FNV-1a over the bytes of the string. -/
def fnv1a (s : String) : Nat :=
  s.toUTF8.data.foldl (fun hash byte => (hash ^^^ byte.toNat) * 1099511628211 % 2 ^ 64)
    1469598103934665603

/-- A revision that reads as a number is that number, any other one is hashed. -/
def revisionToUint64 (s : String) : Nat :=
  if s = "" then fnv1a s
  else (strtoullAll (s.toList.takeWhile (· ≠ Char.ofNat 0))).getD (fnv1a s)

def mapControlAction : String → String
  | "RESUME" => "CONTINUE"
  | old => old

def mapApplyMode : String → String
  | "IMMEDIATE" => "IMMEDIATE_IF_SAFE"
  | old => old

def LegacyVehicleTask.migrate (old : LegacyVehicleTask) : FotaVehicleTaskRecord :=
  { vehicleTaskId := old.vehicleTaskId
    taskRevision := revisionToUint64 old.taskRevision
    targetBaselineCode := old.targetBaselineId
    vehicleTaskState := old.vehicleTaskState
    frozenAtMs := old.frozenAtMs
    localDispositionResult := old.localDispositionResult
    superseded := old.superseded }

def LegacyInventory.migrate (old : LegacyInventory) : FotaInventoryRecord :=
  { mode := old.mode
    inventoryRevision := revisionToUint64 old.inventoryRevision
    algorithm := old.algorithm
    ecuListDigestHex := old.ecuListDigest
    collectedAtMs := old.collectedAtMs
    fullRequired := old.fullRequired }

def LegacyConsent.migrate (old : LegacyConsent) : FotaConsentRecord :=
  { vehicleTaskId := old.vehicleTaskId
    effectiveStatus := old.effectiveStatus
    receiptId := old.receiptId
    receiptExpiresAtMs := old.receiptExpiresAtMs
    termsId := old.termsId
    termsVersion := old.termsVersion }

def LegacyDownloadEntry.migrate (e : LegacyDownloadEntry) : FotaDownloadRecord :=
  { packageId := e.packageId
    packageRevision := e.packageRevision
    etag := e.etag
    currentOffsetBytes := e.offset.toNat
    offsetScope := "STORED_OBJECT"
    credentialExpiresAtMs := e.credentialExpiresAtMs
    verifyStatus := e.verifyStatus
    stageResultId := e.stageResultId
    stageResultDigestHex := e.stageResultDigest
    ready := e.ready }

def LegacyExecution.migrate (old : LegacyExecution) : FotaExecutionRecord :=
  { vehicleTaskId := old.vehicleTaskId
    executionId := old.executionId
    attemptNo := old.attemptNo
    permitId := old.permitId
    permitToken := old.permitToken
    controlRevision := revisionToUint64 old.controlRevision
    validUntilMs := old.validUntilMs
    executionState := old.executionState
    installPlanVersion := old.installPlanVersion }

def LegacyEventOutboxEntry.migrate (e : LegacyEventOutboxEntry) : FotaEventOutboxRecord :=
  { sequenceNo := e.sequenceNo
    eventId := e.eventId
    eventDigestHex := e.eventDigest
    stage := e.stage
    eventStatus := e.result
    progress := e.progressPercent
    occurredAtMs := e.timestampMs
    payloadSummary := e.payloadSummary
    sendStatus := e.sendStatus }

def LegacyControlEntry.migrate (e : LegacyControlEntry) : FotaControlRecord :=
  { controlRevision := revisionToUint64 e.controlRevision
    action := mapControlAction e.commandType
    scope := "EXECUTION"
    applyMode := mapApplyMode e.applyMode
    expiresAtMs := e.expiresAtMs
    reason := e.reason
    ackStatus := e.ackStatus
    ackSequenceNo := e.ackSequenceNo
    appliedAtMs := e.appliedAtMs }

def LegacyPolicy.migrate (old : LegacyPolicy) : FotaPolicyRecord :=
  { basePreferenceVersion := old.basePreferenceVersion
    preferenceVersion := old.preferenceVersion
    conflict := old.conflict }

def LegacyLogJobEntry.migrate (e : LegacyLogJobEntry) : FotaLogJobRecord :=
  { logRequestId := e.logRequestId
    objectKey := e.objectKey
    digestHex := e.digestHex
    sizeBytes := e.sizeBytes.toNat
    status := e.status
    completedAtMs := e.completedAtMs }

/-- The watermarks come from the outbox, else from the execution, else from the defaults. -/
def LegacyStore.outboxMeta (old : LegacyStore) : FotaEventOutboxMeta :=
  match old.eventOutbox, old.execution with
  | some outbox, _ =>
    { nextSequenceNo := outbox.nextSequenceNo, acceptedSequenceNo := outbox.acceptedSequenceNo }
  | none, some ex =>
    { nextSequenceNo := ex.nextSequenceNo, acceptedSequenceNo := ex.acceptedSequenceNo }
  | none, none => {}

/-- The writes of `migrateOtaToFota`, in order. -/
def migrationSaves (old : LegacyStore) : List Save :=
  (old.vehicleTask.map fun r => Save.vehicleTask r.migrate).toList ++
  (old.inventory.map fun r => Save.inventory r.migrate).toList ++
  (old.consent.map fun r => Save.consent r.migrate).toList ++
  (old.downloads.getD []).map (fun e => Save.download e.migrate) ++
  (old.execution.map fun r => Save.execution r.migrate).toList ++
  ((old.eventOutbox.getD {}).entries.map fun e => Save.event e.migrate) ++
  [Save.eventOutboxMeta old.outboxMeta] ++
  (old.controls.getD []).map (fun e => Save.control e.migrate) ++
  (old.policy.map fun r => Save.policy r.migrate).toList ++
  (old.logJobs.getD []).map (fun e => Save.logJob e.migrate)

/-- `migrateOtaToFota` where it runs to its end for the first time. -/
def migrateOtaToFota (old : LegacyStore) (s : FotaCloudStateStore) : FotaCloudStateStore :=
  if old.anyOld then (migrationSaves old).foldl FotaCloudStateStore.save s else s

/-- The stores a vehicle starts out with under the new contract. -/
inductive FirstStore : FotaCloudStateStore → Prop where
  | empty : FirstStore {}
  | migrated (old : LegacyStore) : FirstStore (migrateOtaToFota old {})

/-- No migrated task record carries a snapshot. -/
theorem migrationSaves_vehicleTask {old : LegacyStore} {r : FotaVehicleTaskRecord}
    (member : Save.vehicleTask r ∈ migrationSaves old) : r.taskSnapshotPbHex.isEmpty := by
  -- the member comes of the task record: every other save is of another kind
  have found : ∃ task, LegacyVehicleTask.migrate task = r := by
    simp only [migrationSaves, List.mem_append, List.mem_map, Option.mem_toList,
      Option.map_eq_some_iff, List.mem_cons, reduceCtorEq, and_false, exists_false, or_false,
      Save.vehicleTask.injEq, List.not_mem_nil] at member
    obtain ⟨task, -, eq⟩ := member
    exact ⟨task, eq⟩
  obtain ⟨task, rfl⟩ := found
  rfl

/-- The first store of a vehicle holds no task snapshot, whatever was migrated. -/
theorem FirstStore.vehicleTask {s : FotaCloudStateStore} (h : FirstStore s) :
    ∀ r ∈ s.vehicleTask, r.taskSnapshotPbHex.isEmpty := by
  -- a save of a task record puts an empty snapshot there, any other one leaves the record alone
  have folded : ∀ (saves : List Save) (s : FotaCloudStateStore),
      (∀ r ∈ s.vehicleTask, r.taskSnapshotPbHex.isEmpty) →
      (∀ r, Save.vehicleTask r ∈ saves → r.taskSnapshotPbHex.isEmpty) →
      ∀ r ∈ (saves.foldl FotaCloudStateStore.save s).vehicleTask, r.taskSnapshotPbHex.isEmpty := by
    intro saves
    induction saves with
    | nil => exact fun s start _ => start
    | cons save saves ih =>
      intro s start all
      refine ih _ ?_ fun r member => all r (List.mem_cons_of_mem _ member)
      cases save with
      | vehicleTask r =>
        rintro r' found
        cases found
        exact all r (by simp)
      | _ => exact start
  cases h with
  | empty => simp
  | migrated old =>
    unfold migrateOtaToFota
    split
    · exact folded _ _ (by simp) fun r member => migrationSaves_vehicleTask member
    · simp

end CgwFota
