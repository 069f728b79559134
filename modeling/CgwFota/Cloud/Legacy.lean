import CgwFota.Cloud.Serializer
import CgwFota.Store.Migration

/-!
# The earlier records

What the `ota.*` keys hold, how it is decoded, and the record of the new contract that takes over
its fields. Messages of the earlier contract are opaque hexadecimal strings; they are decoded and
then dropped.

## Main definitions

* `LegacyVehicleTask` and its siblings: the nine earlier records
* `decodeLegacyVehicleTask` and its siblings: how they are read
* `LegacyVehicleTask.migrate` and its siblings: the new records that take over their fields
* `revision`, `nonNegative`: how a revision and a signed size are converted

## Main results

* `revision_toNat`, `nonNegative_toNat`: the conversions as numbers
-/
namespace CgwFota.Cloud

open Inventory (Bytes Thrown Timestamp)

/-! ### Decoding -/

/-- The envelope of the earlier records is that of the new ones. -/
def decodeLegacyEnvelopeJson [JsonText] (bytes : Bytes) (expectedVersion : UInt32) (tag : String) :
    Except Thrown Json :=
  decodeEnvelopeJson bytes expectedVersion tag

structure LegacyVehicleTask where
  vehicleTaskId : String := ""
  taskRevision : String := ""
  targetBaselineId : String := ""
  vehicleTaskState : String := ""
  frozenAtMs : Timestamp := 0
  frozenSnapshotPbHex : String := ""
  localDispositionResult : String := ""
  superseded : Bool := false
  deriving DecidableEq, Repr

def decodeLegacyVehicleTask [JsonText] (bytes : Bytes) : Except Thrown LegacyVehicleTask := do
  let j ← decodeLegacyEnvelopeJson bytes 1 "vehicle_task"
  let vehicleTaskId ← getStr j "vehicleTaskId"
  let taskRevision ← getStr j "taskRevision"
  let targetBaselineId ← getStr j "targetBaselineId"
  let vehicleTaskState ← getStr j "vehicleTaskState"
  let frozenAtMs ← (← j.atKey "frozenAtMs").getInt64
  let frozenSnapshotPbHex ← getStrOpt j "frozenSnapshotPbHex" ""
  let localDispositionResult ← getStrOpt j "localDispositionResult" ""
  let superseded ← j.value Json.getBoolean "superseded" false
  return {
    vehicleTaskId, taskRevision, targetBaselineId, vehicleTaskState, frozenAtMs,
    frozenSnapshotPbHex, localDispositionResult, superseded }

structure LegacyInventory where
  mode : String := ""
  inventoryRevision : String := ""
  algorithm : String := ""
  ecuListDigest : String := ""
  collectedAtMs : Timestamp := 0
  inventoryPbHex : String := ""
  fullRequired : Bool := false
  deriving DecidableEq, Repr

def decodeLegacyInventory [JsonText] (bytes : Bytes) : Except Thrown LegacyInventory := do
  let j ← decodeLegacyEnvelopeJson bytes 1 "inventory"
  let mode ← getStr j "mode"
  let inventoryRevision ← getStr j "inventoryRevision"
  let algorithm ← getStr j "algorithm"
  let ecuListDigest ← getStr j "ecuListDigest"
  let collectedAtMs ← (← j.atKey "collectedAtMs").getInt64
  let inventoryPbHex ← getStrOpt j "inventoryPbHex" ""
  let fullRequired ← j.value Json.getBoolean "fullRequired" false
  return {
    mode, inventoryRevision, algorithm, ecuListDigest, collectedAtMs, inventoryPbHex,
    fullRequired }

structure LegacyConsent where
  vehicleTaskId : String := ""
  effectiveStatus : String := ""
  receiptId : String := ""
  receiptExpiresAtMs : Timestamp := 0
  consentReceiptPbHex : String := ""
  termsId : String := ""
  termsVersion : String := ""
  deriving DecidableEq, Repr

def decodeLegacyConsent [JsonText] (bytes : Bytes) : Except Thrown LegacyConsent := do
  let j ← decodeLegacyEnvelopeJson bytes 1 "consent"
  let vehicleTaskId ← getStr j "vehicleTaskId"
  let effectiveStatus ← getStr j "effectiveStatus"
  let receiptId ← getStr j "receiptId"
  let receiptExpiresAtMs ← (← j.atKey "receiptExpiresAtMs").getInt64
  let consentReceiptPbHex ← getStrOpt j "consentReceiptPbHex" ""
  let termsId ← getStrOpt j "termsId" ""
  let termsVersion ← getStrOpt j "termsVersion" ""
  return {
    vehicleTaskId, effectiveStatus, receiptId, receiptExpiresAtMs, consentReceiptPbHex, termsId,
    termsVersion }

structure LegacyDownloadEntry where
  packageId : String := ""
  packageRevision : String := ""
  etag : String := ""
  offset : Int64 := 0
  credentialExpiresAtMs : Timestamp := 0
  verifyStatus : String := ""
  stageResultId : String := ""
  stageResultDigest : String := ""
  ready : Bool := false
  deriving DecidableEq, Repr

def downloadEntryFromJson (j : Json) : Except Thrown LegacyDownloadEntry := do
  let packageId ← getStr j "packageId"
  let packageRevision ← getStr j "packageRevision"
  let etag ← getStr j "etag"
  let offset ← (← j.atKey "offset").getInt64
  let credentialExpiresAtMs ← j.value Json.getInt64 "credentialExpiresAtMs" 0
  let verifyStatus ← getStr j "verifyStatus"
  let stageResultId ← getStr j "stageResultId"
  let stageResultDigest ← getStr j "stageResultDigest"
  let ready ← j.value Json.getBoolean "ready" false
  return {
    packageId, packageRevision, etag, offset, credentialExpiresAtMs, verifyStatus, stageResultId,
    stageResultDigest, ready }

structure LegacyDownloads where
  entries : List LegacyDownloadEntry := []
  deriving DecidableEq, Repr

def decodeLegacyDownloads [JsonText] (bytes : Bytes) : Except Thrown LegacyDownloads := do
  let j ← decodeLegacyEnvelopeJson bytes 1 "downloads"
  let entries ← (← j.atKey "entries").items.mapM downloadEntryFromJson
  return { entries }

structure LegacyExecution where
  vehicleTaskId : String := ""
  executionId : String := ""
  attemptNo : UInt32 := 0
  permitId : String := ""
  permitToken : String := ""
  controlRevision : String := ""
  validUntilMs : Timestamp := 0
  executionState : String := ""
  installPlanVersion : String := ""
  offlinePolicyPbHex : String := ""
  timeoutPolicyPbHex : String := ""
  acceptedSequenceNo : UInt64 := 0
  nextSequenceNo : UInt64 := 1
  deriving DecidableEq, Repr

def decodeLegacyExecution [JsonText] (bytes : Bytes) : Except Thrown LegacyExecution := do
  let j ← decodeLegacyEnvelopeJson bytes 1 "execution"
  let vehicleTaskId ← getStr j "vehicleTaskId"
  let executionId ← getStr j "executionId"
  let attemptNo ← (← j.atKey "attemptNo").getUInt32
  let permitId ← getStr j "permitId"
  let permitToken ← getStr j "permitToken"
  let controlRevision ← getStr j "controlRevision"
  let validUntilMs ← (← j.atKey "validUntilMs").getInt64
  let executionState ← getStr j "executionState"
  let installPlanVersion ← getStrOpt j "installPlanVersion" ""
  let offlinePolicyPbHex ← getStrOpt j "offlinePolicyPbHex" ""
  let timeoutPolicyPbHex ← getStrOpt j "timeoutPolicyPbHex" ""
  let acceptedSequenceNo ← (← j.atKey "acceptedSequenceNo").getUInt64
  let nextSequenceNo ← (← j.atKey "nextSequenceNo").getUInt64
  return {
    vehicleTaskId, executionId, attemptNo, permitId, permitToken, controlRevision, validUntilMs,
    executionState, installPlanVersion, offlinePolicyPbHex, timeoutPolicyPbHex,
    acceptedSequenceNo, nextSequenceNo }

structure LegacyEventOutboxEntry where
  sequenceNo : UInt64 := 0
  eventId : String := ""
  eventDigest : String := ""
  stage : String := ""
  progressPercent : UInt32 := 0
  result : String := ""
  timestampMs : Timestamp := 0
  payloadSummary : String := ""
  sendStatus : String := ""
  eventPbHex : String := ""
  deriving DecidableEq, Repr

def eventEntryFromJson (j : Json) : Except Thrown LegacyEventOutboxEntry := do
  let sequenceNo ← (← j.atKey "sequenceNo").getUInt64
  let eventId ← getStr j "eventId"
  let eventDigest ← getStr j "eventDigest"
  let stage ← getStr j "stage"
  let progressPercent ← j.value Json.getUInt32 "progressPercent" 0
  let result ← getStr j "result"
  let timestampMs ← (← j.atKey "timestampMs").getInt64
  let payloadSummary ← getStr j "payloadSummary"
  let sendStatus ← getStr j "sendStatus"
  let eventPbHex ← getStr j "eventPbHex"
  return {
    sequenceNo, eventId, eventDigest, stage, progressPercent, result, timestampMs, payloadSummary,
    sendStatus, eventPbHex }

structure LegacyEventOutbox where
  nextSequenceNo : UInt64 := 1
  acceptedSequenceNo : UInt64 := 0
  entries : List LegacyEventOutboxEntry := []
  deriving DecidableEq, Repr

def decodeLegacyEventOutbox [JsonText] (bytes : Bytes) : Except Thrown LegacyEventOutbox := do
  let j ← decodeLegacyEnvelopeJson bytes 1 "event_outbox"
  let nextSequenceNo ← (← j.atKey "nextSequenceNo").getUInt64
  let acceptedSequenceNo ← (← j.atKey "acceptedSequenceNo").getUInt64
  let entries ← (← j.atKey "entries").items.mapM eventEntryFromJson
  return { nextSequenceNo, acceptedSequenceNo, entries }

structure LegacyControlEntry where
  controlRevision : String := ""
  commandType : String := ""
  applyMode : String := ""
  expiresAtMs : Timestamp := 0
  reason : String := ""
  ackStatus : String := ""
  ackSequenceNo : UInt64 := 0
  appliedAtMs : Timestamp := 0
  deriving DecidableEq, Repr

def controlEntryFromJson (j : Json) : Except Thrown LegacyControlEntry := do
  let controlRevision ← getStr j "controlRevision"
  let commandType ← getStr j "commandType"
  let applyMode ← getStr j "applyMode"
  let expiresAtMs ← (← j.atKey "expiresAtMs").getInt64
  let reason ← getStr j "reason"
  let ackStatus ← getStr j "ackStatus"
  let ackSequenceNo ← (← j.atKey "ackSequenceNo").getUInt64
  let appliedAtMs ← (← j.atKey "appliedAtMs").getInt64
  return {
    controlRevision, commandType, applyMode, expiresAtMs, reason, ackStatus, ackSequenceNo,
    appliedAtMs }

structure LegacyControls where
  entries : List LegacyControlEntry := []
  deriving DecidableEq, Repr

def decodeLegacyControls [JsonText] (bytes : Bytes) : Except Thrown LegacyControls := do
  let j ← decodeLegacyEnvelopeJson bytes 1 "controls"
  let entries ← (← j.atKey "entries").items.mapM controlEntryFromJson
  return { entries }

structure LegacyPolicy where
  basePreferenceVersion : String := ""
  preferenceVersion : String := ""
  conflict : Bool := false
  deriving DecidableEq, Repr

def decodeLegacyPolicy [JsonText] (bytes : Bytes) : Except Thrown LegacyPolicy := do
  let j ← decodeLegacyEnvelopeJson bytes 1 "policy"
  let basePreferenceVersion ← getStr j "basePreferenceVersion"
  let preferenceVersion ← getStr j "preferenceVersion"
  let conflict ← j.value Json.getBoolean "conflict" false
  return { basePreferenceVersion, preferenceVersion, conflict }

structure LegacyLogJobEntry where
  logRequestId : String := ""
  objectKey : String := ""
  digestHex : String := ""
  sizeBytes : Int64 := 0
  status : String := ""
  completedAtMs : Timestamp := 0
  deriving DecidableEq, Repr

def logJobEntryFromJson (j : Json) : Except Thrown LegacyLogJobEntry := do
  let logRequestId ← getStr j "logRequestId"
  let objectKey ← getStr j "objectKey"
  let digestHex ← getStr j "digestHex"
  let sizeBytes ← (← j.atKey "sizeBytes").getInt64
  let status ← getStr j "status"
  let completedAtMs ← (← j.atKey "completedAtMs").getInt64
  return { logRequestId, objectKey, digestHex, sizeBytes, status, completedAtMs }

structure LegacyLogJobs where
  entries : List LegacyLogJobEntry := []
  deriving DecidableEq, Repr

def decodeLegacyLogJobs [JsonText] (bytes : Bytes) : Except Thrown LegacyLogJobs := do
  let j ← decodeLegacyEnvelopeJson bytes 1 "log_jobs"
  let entries ← (← j.atKey "entries").items.mapM logJobEntryFromJson
  return { entries }

/-! ### Conversion -/

/-- A revision as the new contract has it; `revisionToUint64` keeps below `2 ^ 64`. -/
def revision (s : String) : UInt64 := UInt64.ofNat (revisionToUint64 s)

/-- Signed sizes and offsets, `x > 0 ? static_cast<uint64_t>(x) : 0`. -/
def nonNegative (x : Int64) : UInt64 := if x > 0 then x.toUInt64 else 0

def LegacyVehicleTask.migrate (old : LegacyVehicleTask) : FotaVehicleTaskRecord :=
  { vehicleTaskId := old.vehicleTaskId
    taskRevision := revision old.taskRevision
    targetBaselineCode := old.targetBaselineId
    vehicleTaskState := old.vehicleTaskState
    frozenAtMs := old.frozenAtMs
    localDispositionResult := old.localDispositionResult
    superseded := old.superseded }

def LegacyInventory.migrate (old : LegacyInventory) : FotaInventoryRecord :=
  { mode := old.mode
    inventoryRevision := revision old.inventoryRevision
    algorithm := old.algorithm
    ecuListDigestHex := old.ecuListDigest
    collectedAtMs := old.collectedAtMs
    fullRequired := old.fullRequired }

def LegacyConsent.migrate (old : LegacyConsent) : FotaConsentRecord :=
  { vehicleTaskId := old.vehicleTaskId
    effectiveStatus := old.effectiveStatus
    receiptId := old.receiptId
    receiptExpiresAtMs := old.receiptExpiresAtMs
    termsId := old.termsId
    termsVersion := old.termsVersion }

def LegacyDownloadEntry.migrate (e : LegacyDownloadEntry) : FotaDownloadRecord :=
  { packageId := e.packageId
    packageRevision := e.packageRevision
    etag := e.etag
    currentOffsetBytes := nonNegative e.offset
    offsetScope := "STORED_OBJECT"
    credentialExpiresAtMs := e.credentialExpiresAtMs
    verifyStatus := e.verifyStatus
    stageResultId := e.stageResultId
    stageResultDigestHex := e.stageResultDigest
    ready := e.ready }

def LegacyExecution.migrate (old : LegacyExecution) : FotaExecutionRecord :=
  { vehicleTaskId := old.vehicleTaskId
    executionId := old.executionId
    attemptNo := old.attemptNo
    permitId := old.permitId
    permitToken := old.permitToken
    controlRevision := revision old.controlRevision
    validUntilMs := old.validUntilMs
    executionState := old.executionState
    installPlanVersion := old.installPlanVersion }

def LegacyExecution.outboxMeta (old : LegacyExecution) : FotaEventOutboxMeta :=
  { nextSequenceNo := old.nextSequenceNo, acceptedSequenceNo := old.acceptedSequenceNo }

def LegacyEventOutbox.outboxMeta (old : LegacyEventOutbox) : FotaEventOutboxMeta :=
  { nextSequenceNo := old.nextSequenceNo, acceptedSequenceNo := old.acceptedSequenceNo }

def LegacyEventOutboxEntry.migrate (e : LegacyEventOutboxEntry) : FotaEventOutboxRecord :=
  { sequenceNo := e.sequenceNo
    eventId := e.eventId
    eventDigestHex := e.eventDigest
    stage := e.stage
    eventStatus := e.result
    progress := e.progressPercent
    occurredAtMs := e.timestampMs
    payloadSummary := e.payloadSummary
    sendStatus := e.sendStatus }

def LegacyControlEntry.migrate (e : LegacyControlEntry) : FotaControlRecord :=
  { controlRevision := revision e.controlRevision
    action := mapControlAction e.commandType
    scope := "EXECUTION"
    applyMode := mapApplyMode e.applyMode
    expiresAtMs := e.expiresAtMs
    reason := e.reason
    ackStatus := e.ackStatus
    ackSequenceNo := e.ackSequenceNo
    appliedAtMs := e.appliedAtMs }

def LegacyPolicy.migrate (old : LegacyPolicy) : FotaPolicyRecord :=
  { basePreferenceVersion := old.basePreferenceVersion
    preferenceVersion := old.preferenceVersion
    conflict := old.conflict }

def LegacyLogJobEntry.migrate (e : LegacyLogJobEntry) : FotaLogJobRecord :=
  { logRequestId := e.logRequestId
    objectKey := e.objectKey
    digestHex := e.digestHex
    sizeBytes := nonNegative e.sizeBytes
    status := e.status
    completedAtMs := e.completedAtMs }

theorem fnv1a_lt (s : String) : fnv1a s < 2 ^ 64 := by
  have bytes : ∀ (bs : List UInt8) (start : Nat), start < 2 ^ 64 →
      bs.foldl (fun hash byte => (hash ^^^ byte.toNat) * 1099511628211 % 2 ^ 64) start < 2 ^
        64 := by
    intro bs
    induction bs with
    | nil => exact fun start small => small
    -- every step of the hash is cut to 64 bits
    | cons b bs ih => exact fun start _ => ih _ (Nat.mod_lt _ (by decide))
  unfold fnv1a
  rw [← Array.foldl_toList]
  exact bytes _ _ (by decide)

/-- A number that was read from a string needs no more than 64 bits. -/
theorem strtoullAll_lt {cs : List Char} {n : Nat} (whole : strtoullAll cs = some n) :
    n < 2 ^ 64 := by
  unfold strtoullAll at whole
  split at whole
  next negative digits split =>
    split at whole
    · cases whole
      decide
    · split at whole
      · cases whole
      · dsimp only at whole
        split at whole
        · cases whole
        · cases whole
          split
          -- a number with a sign in front is negated modulo `2 ^ 64`
          · exact Nat.mod_lt _ (by decide)
          · omega

theorem revision_toNat (s : String) : (revision s).toNat = revisionToUint64 s := by
  apply UInt64.toNat_ofNat_of_lt'
  unfold revisionToUint64
  split
  · exact fnv1a_lt s
  · cases whole : strtoullAll (s.toList.takeWhile (· ≠ Char.ofNat 0)) with
    | none => exact fnv1a_lt s
    | some n => exact strtoullAll_lt whole

/-- A signed size that is not negative keeps its value. -/
theorem nonNegative_toNat (x : Int64) : (nonNegative x).toNat = x.toInt.toNat := by
  unfold nonNegative
  have high := x.toInt_lt
  split
  next positive =>
    have above : 0 < x.toInt := by simpa using Int64.lt_iff_toInt_lt.mp positive
    have same : (x.toUInt64.toNat : Int) = x.toInt := by
      have bits : x.toInt = (x.toBitVec).toInt := rfl
      have unsigned : x.toUInt64.toNat = x.toBitVec.toNat := rfl
      rw [BitVec.toInt_eq_toNat_cond] at bits
      have bound := x.toBitVec.isLt
      split at bits
      · omega
      · omega
    omega
  next other =>
    have below : ¬0 < x.toInt :=
      fun above => other (Int64.lt_iff_toInt_lt.mpr (by simpa using above))
    simp only [UInt64.toNat_zero]
    omega

end CgwFota.Cloud
