import CgwFota.Cloud.State
import CgwFota.Inventory.Serializer

/-!
# Encoding and decoding of the cloud records

A record is stored as an envelope around its JSON text. A decoder accepts the current version only;
what the library throws while the fields are read is not turned into a `StateDecodeError`.

## Main definitions

* `decodeEnvelopeJson`: the checks of the envelope, in the order of the source
* `Codec`: how a kind of record is written as an object and read from one
* `vehicleTaskCodec` and its siblings: the ten kinds, each member under the name the source gives it
* `Kind.codec`: the codec of each kind
-/
namespace CgwFota.Cloud

open Inventory (Bytes Thrown StateDecodeError Timestamp bad encodeEnvelope parseEnvelopeHeader
  extractPayload)
open JsonText (parse dump)

/-- A string that has to be there. -/
def getStr (j : Json) (key : String) : Except JsonException String := do
  (← j.atKey key).getString

def getStrOpt (j : Json) (key dflt : String) : Except JsonException String :=
  j.value Json.getString key dflt

/-- The JSON value inside an envelope of the expected version. -/
def decodeEnvelopeJson [JsonText] (bytes : Bytes) (expectedVersion : UInt32) (tag : String) :
    Except Thrown Json := do
  let h ← (parseEnvelopeHeader bytes).mapError .state
  if h.schemaVersion > expectedVersion then
    bad (tag ++ " unknown newer schemaVersion: " ++ toString h.schemaVersion)
  else if h.schemaVersion < expectedVersion then
    bad (tag ++ " unsupported older schemaVersion: " ++ toString h.schemaVersion)
  else
    (parse (extractPayload bytes h)).mapError fun e =>
      .state ⟨tag ++ " json parse failed: " ++ e.what⟩

/-- How a record is written as a JSON object and read from one. -/
structure Codec (ρ : Type) where
  tag : String
  version : UInt32
  schemaVersion : ρ → UInt32
  members : ρ → List (String × Json)
  fields : Json → Except JsonException ρ

namespace Codec

variable {ρ : Type}

/-- The object that a record is written as. -/
def toJson (codec : Codec ρ) (r : ρ) : Json := .ofMembers (codec.members r)

variable [JsonText]

/-- The bytes of a record, with the time of the writing. -/
def encode (codec : Codec ρ) (writtenAt : Int64) (r : ρ) : Bytes :=
  encodeEnvelope writtenAt (codec.schemaVersion r) (dump (codec.toJson r))

/-- Reading stops at the first check that fails. -/
def decode (codec : Codec ρ) (bytes : Bytes) : Except Thrown ρ := do
  let j ← decodeEnvelopeJson bytes codec.version codec.tag
  codec.fields j

end Codec

/-! ### The ten kinds -/

def vehicleTaskCodec : Codec FotaVehicleTaskRecord where
  tag := "vehicle_task"
  version := schema.VEHICLE_TASK_VERSION
  schemaVersion := (·.schemaVersion)
  members r :=
    [ ("schemaVersion", .integer r.schemaVersion.toNat),
      ("vehicleTaskId", .string r.vehicleTaskId),
      ("taskRevision", .integer r.taskRevision.toNat),
      ("targetBaselineCode", .string r.targetBaselineCode),
      ("vehicleTaskState", .string r.vehicleTaskState),
      ("frozenAtMs", .integer r.frozenAtMs.toInt),
      ("taskSnapshotPbHex", .string r.taskSnapshotPbHex),
      ("localDispositionResult", .string r.localDispositionResult),
      ("superseded", .boolean r.superseded) ]
  fields j := do
    let schemaVersion ← j.value Json.getUInt32 "schemaVersion" schema.VEHICLE_TASK_VERSION
    let vehicleTaskId ← getStr j "vehicleTaskId"
    let taskRevision ← (← j.atKey "taskRevision").getUInt64
    let targetBaselineCode ← getStr j "targetBaselineCode"
    let vehicleTaskState ← getStr j "vehicleTaskState"
    let frozenAtMs ← (← j.atKey "frozenAtMs").getInt64
    let taskSnapshotPbHex ← getStrOpt j "taskSnapshotPbHex" ""
    let localDispositionResult ← getStrOpt j "localDispositionResult" ""
    let superseded ← j.value Json.getBoolean "superseded" false
    return {
      schemaVersion, vehicleTaskId, taskRevision, targetBaselineCode, vehicleTaskState, frozenAtMs,
      taskSnapshotPbHex, localDispositionResult, superseded }

def inventoryCodec : Codec FotaInventoryRecord where
  tag := "inventory"
  version := schema.INVENTORY_VERSION
  schemaVersion := (·.schemaVersion)
  members r :=
    [ ("schemaVersion", .integer r.schemaVersion.toNat),
      ("mode", .string r.mode),
      ("inventoryRevision", .integer r.inventoryRevision.toNat),
      ("algorithm", .string r.algorithm),
      ("ecuListDigestHex", .string r.ecuListDigestHex),
      ("baselineCode", .string r.baselineCode),
      ("fotaMasterVersion", .string r.fotaMasterVersion),
      ("collectedAtMs", .integer r.collectedAtMs.toInt),
      ("requestPbHex", .string r.requestPbHex),
      ("fullRequired", .boolean r.fullRequired) ]
  fields j := do
    let schemaVersion ← j.value Json.getUInt32 "schemaVersion" schema.INVENTORY_VERSION
    let mode ← getStr j "mode"
    let inventoryRevision ← (← j.atKey "inventoryRevision").getUInt64
    let algorithm ← getStr j "algorithm"
    let ecuListDigestHex ← getStr j "ecuListDigestHex"
    let baselineCode ← getStrOpt j "baselineCode" ""
    let fotaMasterVersion ← getStrOpt j "fotaMasterVersion" ""
    let collectedAtMs ← (← j.atKey "collectedAtMs").getInt64
    let requestPbHex ← getStrOpt j "requestPbHex" ""
    let fullRequired ← j.value Json.getBoolean "fullRequired" false
    return {
      schemaVersion, mode, inventoryRevision, algorithm, ecuListDigestHex, baselineCode,
      fotaMasterVersion, collectedAtMs, requestPbHex, fullRequired }

def consentCodec : Codec FotaConsentRecord where
  tag := "consent"
  version := schema.CONSENT_VERSION
  schemaVersion := (·.schemaVersion)
  members r :=
    [ ("schemaVersion", .integer r.schemaVersion.toNat),
      ("vehicleTaskId", .string r.vehicleTaskId),
      ("effectiveStatus", .string r.effectiveStatus),
      ("receiptId", .string r.receiptId),
      ("receiptExpiresAtMs", .integer r.receiptExpiresAtMs.toInt),
      ("termsId", .string r.termsId),
      ("termsVersion", .string r.termsVersion),
      ("termsDigestHex", .string r.termsDigestHex),
      ("termsAlgorithm", .string r.termsAlgorithm),
      ("consentTimeMs", .integer r.consentTimeMs.toInt),
      ("channel", .string r.channel) ]
  fields j := do
    let schemaVersion ← j.value Json.getUInt32 "schemaVersion" schema.CONSENT_VERSION
    let vehicleTaskId ← getStr j "vehicleTaskId"
    let effectiveStatus ← getStr j "effectiveStatus"
    let receiptId ← getStr j "receiptId"
    let receiptExpiresAtMs ← (← j.atKey "receiptExpiresAtMs").getInt64
    let termsId ← getStrOpt j "termsId" ""
    let termsVersion ← getStrOpt j "termsVersion" ""
    let termsDigestHex ← getStrOpt j "termsDigestHex" ""
    let termsAlgorithm ← getStrOpt j "termsAlgorithm" ""
    let consentTimeMs ← j.value Json.getInt64 "consentTimeMs" 0
    let channel ← getStrOpt j "channel" ""
    return {
      schemaVersion, vehicleTaskId, effectiveStatus, receiptId, receiptExpiresAtMs, termsId,
      termsVersion, termsDigestHex, termsAlgorithm, consentTimeMs, channel }

def downloadCodec : Codec FotaDownloadRecord where
  tag := "download"
  version := schema.DOWNLOADS_VERSION
  schemaVersion := (·.schemaVersion)
  members r :=
    [ ("schemaVersion", .integer r.schemaVersion.toNat),
      ("packageId", .string r.packageId),
      ("packageRevision", .string r.packageRevision),
      ("etag", .string r.etag),
      ("currentOffsetBytes", .integer r.currentOffsetBytes.toNat),
      ("offsetScope", .string r.offsetScope),
      ("credentialExpiresAtMs", .integer r.credentialExpiresAtMs.toInt),
      ("verifyStatus", .string r.verifyStatus),
      ("stageResultId", .string r.stageResultId),
      ("stageResultDigestHex", .string r.stageResultDigestHex),
      ("ready", .boolean r.ready) ]
  fields j := do
    let schemaVersion ← j.value Json.getUInt32 "schemaVersion" schema.DOWNLOADS_VERSION
    let packageId ← getStr j "packageId"
    let packageRevision ← getStr j "packageRevision"
    let etag ← getStr j "etag"
    let currentOffsetBytes ← (← j.atKey "currentOffsetBytes").getUInt64
    let offsetScope ← getStrOpt j "offsetScope" ""
    let credentialExpiresAtMs ← j.value Json.getInt64 "credentialExpiresAtMs" 0
    let verifyStatus ← getStr j "verifyStatus"
    let stageResultId ← getStrOpt j "stageResultId" ""
    let stageResultDigestHex ← getStrOpt j "stageResultDigestHex" ""
    let ready ← j.value Json.getBoolean "ready" false
    return {
      schemaVersion, packageId, packageRevision, etag, currentOffsetBytes, offsetScope,
      credentialExpiresAtMs, verifyStatus, stageResultId, stageResultDigestHex, ready }

def executionCodec : Codec FotaExecutionRecord where
  tag := "execution"
  version := schema.EXECUTION_VERSION
  schemaVersion := (·.schemaVersion)
  members r :=
    [ ("schemaVersion", .integer r.schemaVersion.toNat),
      ("vehicleTaskId", .string r.vehicleTaskId),
      ("executionId", .string r.executionId),
      ("attemptNo", .integer r.attemptNo.toNat),
      ("permitId", .string r.permitId),
      ("permitToken", .string r.permitToken),
      ("controlRevision", .integer r.controlRevision.toNat),
      ("validUntilMs", .integer r.validUntilMs.toInt),
      ("executionState", .string r.executionState),
      ("installPlanVersion", .string r.installPlanVersion),
      ("checkpointPbHex", .string r.checkpointPbHex),
      ("offlinePolicyPbHex", .string r.offlinePolicyPbHex),
      ("timeoutPolicyPbHex", .string r.timeoutPolicyPbHex) ]
  fields j := do
    let schemaVersion ← j.value Json.getUInt32 "schemaVersion" schema.EXECUTION_VERSION
    let vehicleTaskId ← getStr j "vehicleTaskId"
    let executionId ← getStr j "executionId"
    let attemptNo ← (← j.atKey "attemptNo").getUInt32
    let permitId ← getStr j "permitId"
    let permitToken ← getStr j "permitToken"
    let controlRevision ← (← j.atKey "controlRevision").getUInt64
    let validUntilMs ← (← j.atKey "validUntilMs").getInt64
    let executionState ← getStr j "executionState"
    let installPlanVersion ← getStrOpt j "installPlanVersion" ""
    let checkpointPbHex ← getStrOpt j "checkpointPbHex" ""
    let offlinePolicyPbHex ← getStrOpt j "offlinePolicyPbHex" ""
    let timeoutPolicyPbHex ← getStrOpt j "timeoutPolicyPbHex" ""
    return {
      schemaVersion, vehicleTaskId, executionId, attemptNo, permitId, permitToken, controlRevision,
      validUntilMs, executionState, installPlanVersion, checkpointPbHex, offlinePolicyPbHex,
      timeoutPolicyPbHex }

def eventOutboxMetaCodec : Codec FotaEventOutboxMeta where
  tag := "event_outbox_meta"
  version := schema.EVENT_OUTBOX_META_VERSION
  schemaVersion := (·.schemaVersion)
  members r :=
    [ ("schemaVersion", .integer r.schemaVersion.toNat),
      ("nextSequenceNo", .integer r.nextSequenceNo.toNat),
      ("acceptedSequenceNo", .integer r.acceptedSequenceNo.toNat) ]
  fields j := do
    let schemaVersion ← j.value Json.getUInt32 "schemaVersion" schema.EVENT_OUTBOX_META_VERSION
    let nextSequenceNo ← (← j.atKey "nextSequenceNo").getUInt64
    let acceptedSequenceNo ← (← j.atKey "acceptedSequenceNo").getUInt64
    return { schemaVersion, nextSequenceNo, acceptedSequenceNo }

def eventOutboxCodec : Codec FotaEventOutboxRecord where
  tag := "event_outbox"
  version := schema.EVENT_OUTBOX_VERSION
  schemaVersion := (·.schemaVersion)
  members r :=
    [ ("schemaVersion", .integer r.schemaVersion.toNat),
      ("sequenceNo", .integer r.sequenceNo.toNat),
      ("eventId", .string r.eventId),
      ("eventDigestHex", .string r.eventDigestHex),
      ("stage", .string r.stage),
      ("eventStatus", .string r.eventStatus),
      ("progress", .integer r.progress.toNat),
      ("occurredAtMs", .integer r.occurredAtMs.toInt),
      ("payloadSummary", .string r.payloadSummary),
      ("sendStatus", .string r.sendStatus),
      ("eventPbHex", .string r.eventPbHex) ]
  fields j := do
    let schemaVersion ← j.value Json.getUInt32 "schemaVersion" schema.EVENT_OUTBOX_VERSION
    let sequenceNo ← (← j.atKey "sequenceNo").getUInt64
    let eventId ← getStr j "eventId"
    let eventDigestHex ← getStrOpt j "eventDigestHex" ""
    let stage ← getStrOpt j "stage" ""
    let eventStatus ← getStrOpt j "eventStatus" ""
    let progress ← j.value Json.getUInt32 "progress" 0
    let occurredAtMs ← j.value Json.getInt64 "occurredAtMs" 0
    let payloadSummary ← getStrOpt j "payloadSummary" ""
    let sendStatus ← getStr j "sendStatus"
    let eventPbHex ← getStrOpt j "eventPbHex" ""
    return {
      schemaVersion, sequenceNo, eventId, eventDigestHex, stage, eventStatus, progress,
      occurredAtMs, payloadSummary, sendStatus, eventPbHex }

def controlCodec : Codec FotaControlRecord where
  tag := "control"
  version := schema.CONTROLS_VERSION
  schemaVersion := (·.schemaVersion)
  members r :=
    [ ("schemaVersion", .integer r.schemaVersion.toNat),
      ("controlId", .string r.controlId),
      ("controlRevision", .integer r.controlRevision.toNat),
      ("action", .string r.action),
      ("scope", .string r.scope),
      ("applyMode", .string r.applyMode),
      ("issuedAtMs", .integer r.issuedAtMs.toInt),
      ("expiresAtMs", .integer r.expiresAtMs.toInt),
      ("reason", .string r.reason),
      ("ackStatus", .string r.ackStatus),
      ("ackSequenceNo", .integer r.ackSequenceNo.toNat),
      ("appliedAtMs", .integer r.appliedAtMs.toInt) ]
  fields j := do
    let schemaVersion ← j.value Json.getUInt32 "schemaVersion" schema.CONTROLS_VERSION
    let controlId ← getStrOpt j "controlId" ""
    let controlRevision ← (← j.atKey "controlRevision").getUInt64
    let action ← getStrOpt j "action" ""
    let scope ← getStrOpt j "scope" ""
    let applyMode ← getStrOpt j "applyMode" ""
    let issuedAtMs ← j.value Json.getInt64 "issuedAtMs" 0
    let expiresAtMs ← j.value Json.getInt64 "expiresAtMs" 0
    let reason ← getStrOpt j "reason" ""
    let ackStatus ← getStrOpt j "ackStatus" ""
    let ackSequenceNo ← j.value Json.getUInt64 "ackSequenceNo" 0
    let appliedAtMs ← j.value Json.getInt64 "appliedAtMs" 0
    return {
      schemaVersion, controlId, controlRevision, action, scope, applyMode, issuedAtMs, expiresAtMs,
      reason, ackStatus, ackSequenceNo, appliedAtMs }

def policyCodec : Codec FotaPolicyRecord where
  tag := "policy"
  version := schema.POLICY_VERSION
  schemaVersion := (·.schemaVersion)
  members r :=
    [ ("schemaVersion", .integer r.schemaVersion.toNat),
      ("localPolicyVersion", .string r.localPolicyVersion),
      ("basePreferenceVersion", .string r.basePreferenceVersion),
      ("preferenceVersion", .string r.preferenceVersion),
      ("effectivePolicyPbHex", .string r.effectivePolicyPbHex),
      ("conflict", .boolean r.conflict),
      ("effectiveAtMs", .integer r.effectiveAtMs.toInt) ]
  fields j := do
    let schemaVersion ← j.value Json.getUInt32 "schemaVersion" schema.POLICY_VERSION
    let localPolicyVersion ← getStrOpt j "localPolicyVersion" ""
    let basePreferenceVersion ← getStr j "basePreferenceVersion"
    let preferenceVersion ← getStr j "preferenceVersion"
    let effectivePolicyPbHex ← getStrOpt j "effectivePolicyPbHex" ""
    let conflict ← j.value Json.getBoolean "conflict" false
    let effectiveAtMs ← j.value Json.getInt64 "effectiveAtMs" 0
    return {
      schemaVersion, localPolicyVersion, basePreferenceVersion, preferenceVersion,
      effectivePolicyPbHex, conflict, effectiveAtMs }

def logJobCodec : Codec FotaLogJobRecord where
  tag := "log_job"
  version := schema.LOG_JOBS_VERSION
  schemaVersion := (·.schemaVersion)
  members r :=
    [ ("schemaVersion", .integer r.schemaVersion.toNat),
      ("logRequestId", .string r.logRequestId),
      ("objectKey", .string r.objectKey),
      ("digestHex", .string r.digestHex),
      ("algorithm", .string r.algorithm),
      ("sizeBytes", .integer r.sizeBytes.toNat),
      ("status", .string r.status),
      ("completedAtMs", .integer r.completedAtMs.toInt) ]
  fields j := do
    let schemaVersion ← j.value Json.getUInt32 "schemaVersion" schema.LOG_JOBS_VERSION
    let logRequestId ← getStr j "logRequestId"
    let objectKey ← getStr j "objectKey"
    let digestHex ← getStrOpt j "digestHex" ""
    let algorithm ← getStrOpt j "algorithm" ""
    let sizeBytes ← (← j.atKey "sizeBytes").getUInt64
    let status ← getStr j "status"
    let completedAtMs ← j.value Json.getInt64 "completedAtMs" 0
    return {
      schemaVersion, logRequestId, objectKey, digestHex, algorithm, sizeBytes, status,
      completedAtMs }

def Kind.codec : (k : Kind) → Codec k.Record
  | vehicleTask => vehicleTaskCodec
  | inventory => inventoryCodec
  | consent => consentCodec
  | download => downloadCodec
  | execution => executionCodec
  | eventOutboxMeta => eventOutboxMetaCodec
  | event => eventOutboxCodec
  | control => controlCodec
  | policy => policyCodec
  | logJob => logJobCodec

end CgwFota.Cloud
