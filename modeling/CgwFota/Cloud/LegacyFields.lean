import CgwFota.Cloud.Legacy
import CgwFota.Inventory.Decoded

/-!
# The members behind the earlier records

A decoder of the earlier contract reads every field from the member of its own name. A required
field stands in the object; an optional one stands in the object or has its default. So what is
said of a decoded record elsewhere is said of the stored JSON text.

## Main results

For each of the nine decoders `decodeLegacy…_ok`: where it succeeds, the bytes are an envelope of
version 1 around an object, and the record is read from the members of that object.
-/
namespace CgwFota.Cloud

open Inventory (Bytes Thrown bind_ok_iff liftM_ok_iff getString_ok getUInt64_ok getUInt32_ok
  getInt64_ok StandsUInt64 StandsUInt32 StandsInt64 parseEnvelopeHeader extractPayload
  forall₂_of_mapM_ok)

/-- The object has this key, and its value is as described. -/
def Holds (j : Json) (key : String) (is : Json → Prop) : Prop := ∃ v ∈ j.member? key, is v

/-- The object has this key with such a value, or it lacks the key and the field has its default. -/
def HoldsOr (j : Json) (key : String) (is : Json → Prop) (default : Prop) : Prop :=
  Holds j key is ∨ j.member? key = none ∧ default

/-- The bytes are an envelope of version 1 around an object as described. -/
def Wraps [JsonText] (bytes : Bytes) (is : Json → Prop) : Prop :=
  ∃ h j, parseEnvelopeHeader bytes = .ok h ∧ h.schemaVersion = 1 ∧
    JsonText.parse (extractPayload bytes h) = .ok j ∧ is j

/-! ### The fields -/

/-- The fields of an earlier task, each in the member of its own name. -/
structure LegacyVehicleTask.ReadFrom (old : LegacyVehicleTask) (j : Json) : Prop where
  vehicleTaskId : Holds j "vehicleTaskId" (· = .string old.vehicleTaskId)
  taskRevision : Holds j "taskRevision" (· = .string old.taskRevision)
  targetBaselineId : Holds j "targetBaselineId" (· = .string old.targetBaselineId)
  vehicleTaskState : Holds j "vehicleTaskState" (· = .string old.vehicleTaskState)
  frozenAtMs : Holds j "frozenAtMs" (StandsInt64 old.frozenAtMs)
  frozenSnapshotPbHex : HoldsOr j "frozenSnapshotPbHex" (· = .string old.frozenSnapshotPbHex)
    (old.frozenSnapshotPbHex = "")
  localDispositionResult :
    HoldsOr j "localDispositionResult" (· = .string old.localDispositionResult)
      (old.localDispositionResult = "")
  superseded : HoldsOr j "superseded" (· = .boolean old.superseded) (old.superseded = false)

/-- The fields of an earlier inventory. -/
structure LegacyInventory.ReadFrom (old : LegacyInventory) (j : Json) : Prop where
  mode : Holds j "mode" (· = .string old.mode)
  inventoryRevision : Holds j "inventoryRevision" (· = .string old.inventoryRevision)
  algorithm : Holds j "algorithm" (· = .string old.algorithm)
  ecuListDigest : Holds j "ecuListDigest" (· = .string old.ecuListDigest)
  collectedAtMs : Holds j "collectedAtMs" (StandsInt64 old.collectedAtMs)
  inventoryPbHex :
    HoldsOr j "inventoryPbHex" (· = .string old.inventoryPbHex) (old.inventoryPbHex = "")
  fullRequired :
    HoldsOr j "fullRequired" (· = .boolean old.fullRequired) (old.fullRequired = false)

/-- The fields of an earlier consent. -/
structure LegacyConsent.ReadFrom (old : LegacyConsent) (j : Json) : Prop where
  vehicleTaskId : Holds j "vehicleTaskId" (· = .string old.vehicleTaskId)
  effectiveStatus : Holds j "effectiveStatus" (· = .string old.effectiveStatus)
  receiptId : Holds j "receiptId" (· = .string old.receiptId)
  receiptExpiresAtMs : Holds j "receiptExpiresAtMs" (StandsInt64 old.receiptExpiresAtMs)
  consentReceiptPbHex : HoldsOr j "consentReceiptPbHex" (· = .string old.consentReceiptPbHex)
    (old.consentReceiptPbHex = "")
  termsId : HoldsOr j "termsId" (· = .string old.termsId) (old.termsId = "")
  termsVersion : HoldsOr j "termsVersion" (· = .string old.termsVersion) (old.termsVersion = "")

structure LegacyDownloadEntry.ReadFrom (j : Json) (e : LegacyDownloadEntry) : Prop where
  packageId : Holds j "packageId" (· = .string e.packageId)
  packageRevision : Holds j "packageRevision" (· = .string e.packageRevision)
  etag : Holds j "etag" (· = .string e.etag)
  offset : Holds j "offset" (StandsInt64 e.offset)
  credentialExpiresAtMs : HoldsOr j "credentialExpiresAtMs" (StandsInt64 e.credentialExpiresAtMs)
    (e.credentialExpiresAtMs = 0)
  verifyStatus : Holds j "verifyStatus" (· = .string e.verifyStatus)
  stageResultId : Holds j "stageResultId" (· = .string e.stageResultId)
  stageResultDigest : Holds j "stageResultDigest" (· = .string e.stageResultDigest)
  ready : HoldsOr j "ready" (· = .boolean e.ready) (e.ready = false)

/-- The entries are read one by one, in the order they are stored. -/
def LegacyDownloads.ReadFrom (old : LegacyDownloads) (j : Json) : Prop :=
  Holds j "entries" fun v => List.Forall₂ LegacyDownloadEntry.ReadFrom v.items old.entries

structure LegacyExecution.ReadFrom (old : LegacyExecution) (j : Json) : Prop where
  vehicleTaskId : Holds j "vehicleTaskId" (· = .string old.vehicleTaskId)
  executionId : Holds j "executionId" (· = .string old.executionId)
  attemptNo : Holds j "attemptNo" (StandsUInt32 old.attemptNo)
  permitId : Holds j "permitId" (· = .string old.permitId)
  permitToken : Holds j "permitToken" (· = .string old.permitToken)
  controlRevision : Holds j "controlRevision" (· = .string old.controlRevision)
  validUntilMs : Holds j "validUntilMs" (StandsInt64 old.validUntilMs)
  executionState : Holds j "executionState" (· = .string old.executionState)
  installPlanVersion : HoldsOr j "installPlanVersion" (· = .string old.installPlanVersion)
    (old.installPlanVersion = "")
  offlinePolicyPbHex : HoldsOr j "offlinePolicyPbHex" (· = .string old.offlinePolicyPbHex)
    (old.offlinePolicyPbHex = "")
  timeoutPolicyPbHex : HoldsOr j "timeoutPolicyPbHex" (· = .string old.timeoutPolicyPbHex)
    (old.timeoutPolicyPbHex = "")
  acceptedSequenceNo : Holds j "acceptedSequenceNo" (StandsUInt64 old.acceptedSequenceNo)
  nextSequenceNo : Holds j "nextSequenceNo" (StandsUInt64 old.nextSequenceNo)

structure LegacyEventOutboxEntry.ReadFrom (j : Json) (e : LegacyEventOutboxEntry) : Prop where
  sequenceNo : Holds j "sequenceNo" (StandsUInt64 e.sequenceNo)
  eventId : Holds j "eventId" (· = .string e.eventId)
  eventDigest : Holds j "eventDigest" (· = .string e.eventDigest)
  stage : Holds j "stage" (· = .string e.stage)
  progressPercent : HoldsOr j "progressPercent" (StandsUInt32 e.progressPercent)
    (e.progressPercent = 0)
  result : Holds j "result" (· = .string e.result)
  timestampMs : Holds j "timestampMs" (StandsInt64 e.timestampMs)
  payloadSummary : Holds j "payloadSummary" (· = .string e.payloadSummary)
  sendStatus : Holds j "sendStatus" (· = .string e.sendStatus)
  eventPbHex : Holds j "eventPbHex" (· = .string e.eventPbHex)

structure LegacyEventOutbox.ReadFrom (old : LegacyEventOutbox) (j : Json) : Prop where
  nextSequenceNo : Holds j "nextSequenceNo" (StandsUInt64 old.nextSequenceNo)
  acceptedSequenceNo : Holds j "acceptedSequenceNo" (StandsUInt64 old.acceptedSequenceNo)
  entries :
    Holds j "entries" fun v => List.Forall₂ LegacyEventOutboxEntry.ReadFrom v.items old.entries

structure LegacyControlEntry.ReadFrom (j : Json) (e : LegacyControlEntry) : Prop where
  controlRevision : Holds j "controlRevision" (· = .string e.controlRevision)
  commandType : Holds j "commandType" (· = .string e.commandType)
  applyMode : Holds j "applyMode" (· = .string e.applyMode)
  expiresAtMs : Holds j "expiresAtMs" (StandsInt64 e.expiresAtMs)
  reason : Holds j "reason" (· = .string e.reason)
  ackStatus : Holds j "ackStatus" (· = .string e.ackStatus)
  ackSequenceNo : Holds j "ackSequenceNo" (StandsUInt64 e.ackSequenceNo)
  appliedAtMs : Holds j "appliedAtMs" (StandsInt64 e.appliedAtMs)

def LegacyControls.ReadFrom (old : LegacyControls) (j : Json) : Prop :=
  Holds j "entries" fun v => List.Forall₂ LegacyControlEntry.ReadFrom v.items old.entries

structure LegacyPolicy.ReadFrom (old : LegacyPolicy) (j : Json) : Prop where
  basePreferenceVersion : Holds j "basePreferenceVersion" (· = .string old.basePreferenceVersion)
  preferenceVersion : Holds j "preferenceVersion" (· = .string old.preferenceVersion)
  conflict : HoldsOr j "conflict" (· = .boolean old.conflict) (old.conflict = false)

structure LegacyLogJobEntry.ReadFrom (j : Json) (e : LegacyLogJobEntry) : Prop where
  logRequestId : Holds j "logRequestId" (· = .string e.logRequestId)
  objectKey : Holds j "objectKey" (· = .string e.objectKey)
  digestHex : Holds j "digestHex" (· = .string e.digestHex)
  sizeBytes : Holds j "sizeBytes" (StandsInt64 e.sizeBytes)
  status : Holds j "status" (· = .string e.status)
  completedAtMs : Holds j "completedAtMs" (StandsInt64 e.completedAtMs)

def LegacyLogJobs.ReadFrom (old : LegacyLogJobs) (j : Json) : Prop :=
  Holds j "entries" fun v => List.Forall₂ LegacyLogJobEntry.ReadFrom v.items old.entries

/-! ### Reading one field -/

section Reading

variable {j v : Json} {key : String}

theorem Holds.of_getStr {s : String} (read : getStr j key = .ok s) :
    Holds j key (· = .string s) := by
  simp only [getStr, bind_ok_iff] at read
  obtain ⟨v, found, got⟩ := read
  exact ⟨v, Json.atKey_ok found, getString_ok got⟩

theorem Holds.of_atKey {is : Json → Prop} (found : j.atKey key = .ok v) (got : is v) :
    Holds j key is :=
  ⟨v, Json.atKey_ok found, got⟩

/-- A value that was read with a default is the value of its member, or the default. -/
theorem HoldsOr.of_value {α : Type} {get : Json → Except JsonException α} {default a : α}
    {is : Json → Prop} (read : j.value get key default = .ok a)
    (got : ∀ v, get v = .ok a → is v) : HoldsOr j key is (a = default) := by
  rcases Json.value_ok read with ⟨v, stored, here⟩ | ⟨absent, same⟩
  · exact .inl ⟨v, stored, got v here⟩
  · exact .inr ⟨absent, same⟩

theorem HoldsOr.of_getStrOpt {default s : String} (read : getStrOpt j key default = .ok s) :
    HoldsOr j key (· = .string s) (s = default) :=
  .of_value read fun _ => getString_ok

theorem getBoolean_ok {b : Bool} (got : v.getBoolean = .ok b) : v = .boolean b := by
  cases v with
  | boolean b' => cases got; rfl
  | _ => cases got

theorem HoldsOr.of_flag {default b : Bool} (read : j.value Json.getBoolean key default = .ok b) :
    HoldsOr j key (· = .boolean b) (b = default) :=
  .of_value read fun _ => getBoolean_ok

/-- A sequence that was read entry by entry is the value of its member, in its order. -/
theorem Holds.of_mapM {α : Type} {f : Json → Except Thrown α} {R : Json → α → Prop} {as : List α}
    (found : j.atKey key = .ok v) (read : v.items.mapM f = .ok as)
    (each : ∀ x a, f x = .ok a → R x a) :
    Holds j key fun v => List.Forall₂ R v.items as :=
  ⟨v, Json.atKey_ok found, forall₂_of_mapM_ok read each⟩

end Reading

/-! ### Reading the entries -/

/-- An earlier download entry is read from the members of its object. -/
theorem downloadEntryFromJson_ok (j : Json) (e : LegacyDownloadEntry)
    (read : downloadEntryFromJson j = .ok e) : LegacyDownloadEntry.ReadFrom j e := by
  simp only [downloadEntryFromJson, bind_ok_iff, liftM_ok_iff] at read
  obtain ⟨_, packageId, _, packageRevision, _, etag, _, found, _, offset, _, expires, _,
    verifyStatus, _, stageResultId, _, stageResultDigest, _, ready, same⟩ := read
  cases same
  exact ⟨.of_getStr packageId, .of_getStr packageRevision, .of_getStr etag,
    .of_atKey found (getInt64_ok offset), .of_value expires fun _ => getInt64_ok,
    .of_getStr verifyStatus, .of_getStr stageResultId, .of_getStr stageResultDigest,
    .of_flag ready⟩

theorem eventEntryFromJson_ok (j : Json) (e : LegacyEventOutboxEntry)
    (read : eventEntryFromJson j = .ok e) : LegacyEventOutboxEntry.ReadFrom j e := by
  simp only [eventEntryFromJson, bind_ok_iff, liftM_ok_iff] at read
  obtain ⟨_, found, _, sequenceNo, _, eventId, _, eventDigest, _, stage, _, progress, _, result, _,
    found', _, timestamp, _, summary, _, sendStatus, _, eventPbHex, same⟩ := read
  cases same
  exact ⟨.of_atKey found (getUInt64_ok sequenceNo), .of_getStr eventId, .of_getStr eventDigest,
    .of_getStr stage, .of_value progress fun _ => getUInt32_ok, .of_getStr result,
    .of_atKey found' (getInt64_ok timestamp), .of_getStr summary, .of_getStr sendStatus,
    .of_getStr eventPbHex⟩

theorem controlEntryFromJson_ok (j : Json) (e : LegacyControlEntry)
    (read : controlEntryFromJson j = .ok e) : LegacyControlEntry.ReadFrom j e := by
  simp only [controlEntryFromJson, bind_ok_iff, liftM_ok_iff] at read
  obtain ⟨_, revision, _, command, _, applyMode, _, found, _, expires, _, reason, _, ackStatus, _,
    found', _, ackSequenceNo, _, found'', _, applied, same⟩ := read
  cases same
  exact ⟨.of_getStr revision, .of_getStr command, .of_getStr applyMode,
    .of_atKey found (getInt64_ok expires), .of_getStr reason, .of_getStr ackStatus,
    .of_atKey found' (getUInt64_ok ackSequenceNo), .of_atKey found'' (getInt64_ok applied)⟩

theorem logJobEntryFromJson_ok (j : Json) (e : LegacyLogJobEntry)
    (read : logJobEntryFromJson j = .ok e) : LegacyLogJobEntry.ReadFrom j e := by
  simp only [logJobEntryFromJson, bind_ok_iff, liftM_ok_iff] at read
  obtain ⟨_, logRequestId, _, objectKey, _, digestHex, _, found, _, size, _, status, _, found', _,
    completed, same⟩ := read
  cases same
  exact ⟨.of_getStr logRequestId, .of_getStr objectKey, .of_getStr digestHex,
    .of_atKey found (getInt64_ok size), .of_getStr status,
    .of_atKey found' (getInt64_ok completed)⟩

/-! ### Reading the records -/

section Records

variable [JsonText] {bytes : Bytes}

/-- The earlier envelope is read at exactly one version. -/
theorem decodeLegacyEnvelopeJson_ok {tag : String} {j : Json} {is : Json → Prop}
    (read : decodeLegacyEnvelopeJson bytes 1 tag = .ok j) (described : is j) : Wraps bytes is := by
  unfold decodeLegacyEnvelopeJson decodeEnvelopeJson at read
  simp only [bind_ok_iff] at read
  obtain ⟨h, header, read⟩ := read
  split at read
  next => cases read
  next known =>
    split at read
    next => cases read
    next old =>
      -- neither newer nor older, so it is version 1
      have version : h.schemaVersion = 1 :=
        UInt32.le_antisymm (UInt32.not_lt.mp known) (UInt32.not_lt.mp old)
      exact ⟨h, j, Inventory.mapError_ok_iff.mp header, version, Inventory.mapError_ok_iff.mp read,
        described⟩

/-- An earlier task is read from the members behind its envelope. -/
theorem decodeLegacyVehicleTask_ok {old : LegacyVehicleTask}
    (decoded : decodeLegacyVehicleTask bytes = .ok old) : Wraps bytes old.ReadFrom := by
  simp only [decodeLegacyVehicleTask, bind_ok_iff, liftM_ok_iff] at decoded
  obtain ⟨j, envelope, _, vehicleTaskId, _, taskRevision, _, targetBaselineId, _, state, _, found,
    _, frozenAtMs, _, snapshot, _, disposition, _, superseded, same⟩ := decoded
  cases same
  exact decodeLegacyEnvelopeJson_ok envelope ⟨.of_getStr vehicleTaskId, .of_getStr taskRevision,
    .of_getStr targetBaselineId, .of_getStr state, .of_atKey found (getInt64_ok frozenAtMs),
    .of_getStrOpt snapshot, .of_getStrOpt disposition, .of_flag superseded⟩

/-- An earlier inventory is read from the members behind its envelope. -/
theorem decodeLegacyInventory_ok {old : LegacyInventory}
    (decoded : decodeLegacyInventory bytes = .ok old) : Wraps bytes old.ReadFrom := by
  simp only [decodeLegacyInventory, bind_ok_iff, liftM_ok_iff] at decoded
  obtain ⟨j, envelope, _, mode, _, revision, _, algorithm, _, digest, _, found, _, collectedAtMs, _,
    inventory, _, fullRequired, same⟩ := decoded
  cases same
  exact decodeLegacyEnvelopeJson_ok envelope ⟨.of_getStr mode, .of_getStr revision,
    .of_getStr algorithm, .of_getStr digest, .of_atKey found (getInt64_ok collectedAtMs),
    .of_getStrOpt inventory, .of_flag fullRequired⟩

/-- An earlier consent is read from the members behind its envelope. -/
theorem decodeLegacyConsent_ok {old : LegacyConsent}
    (decoded : decodeLegacyConsent bytes = .ok old) : Wraps bytes old.ReadFrom := by
  simp only [decodeLegacyConsent, bind_ok_iff, liftM_ok_iff] at decoded
  obtain ⟨j, envelope, _, vehicleTaskId, _, status, _, receiptId, _, found, _, expires, _, receipt,
    _, termsId, _, termsVersion, same⟩ := decoded
  cases same
  exact decodeLegacyEnvelopeJson_ok envelope ⟨.of_getStr vehicleTaskId, .of_getStr status,
    .of_getStr receiptId, .of_atKey found (getInt64_ok expires), .of_getStrOpt receipt,
    .of_getStrOpt termsId, .of_getStrOpt termsVersion⟩

theorem decodeLegacyDownloads_ok {old : LegacyDownloads}
    (decoded : decodeLegacyDownloads bytes = .ok old) : Wraps bytes old.ReadFrom := by
  simp only [decodeLegacyDownloads, bind_ok_iff, liftM_ok_iff] at decoded
  obtain ⟨j, envelope, v, found, _, entries, same⟩ := decoded
  cases same
  exact decodeLegacyEnvelopeJson_ok envelope (Holds.of_mapM found entries downloadEntryFromJson_ok)

/-- An earlier execution is read from the members behind its envelope. -/
theorem decodeLegacyExecution_ok {old : LegacyExecution}
    (decoded : decodeLegacyExecution bytes = .ok old) : Wraps bytes old.ReadFrom := by
  simp only [decodeLegacyExecution, bind_ok_iff, liftM_ok_iff] at decoded
  obtain ⟨j, envelope, _, vehicleTaskId, _, executionId, _, found, _, attemptNo, _, permitId, _,
    permitToken, _, controlRevision, _, found', _, validUntilMs, _, state, _, plan, _, offline, _,
    timeout, _, found'', _, accepted, _, found''', _, next, same⟩ := decoded
  cases same
  exact decodeLegacyEnvelopeJson_ok envelope ⟨.of_getStr vehicleTaskId, .of_getStr executionId,
    .of_atKey found (getUInt32_ok attemptNo), .of_getStr permitId, .of_getStr permitToken,
    .of_getStr controlRevision, .of_atKey found' (getInt64_ok validUntilMs), .of_getStr state,
    .of_getStrOpt plan, .of_getStrOpt offline, .of_getStrOpt timeout,
    .of_atKey found'' (getUInt64_ok accepted), .of_atKey found''' (getUInt64_ok next)⟩

theorem decodeLegacyEventOutbox_ok {old : LegacyEventOutbox}
    (decoded : decodeLegacyEventOutbox bytes = .ok old) : Wraps bytes old.ReadFrom := by
  simp only [decodeLegacyEventOutbox, bind_ok_iff, liftM_ok_iff] at decoded
  obtain ⟨j, envelope, _, found, _, next, _, found', _, accepted, v, found'', _, entries, same⟩ :=
    decoded
  cases same
  exact decodeLegacyEnvelopeJson_ok envelope ⟨.of_atKey found (getUInt64_ok next),
    .of_atKey found' (getUInt64_ok accepted), .of_mapM found'' entries eventEntryFromJson_ok⟩

theorem decodeLegacyControls_ok {old : LegacyControls}
    (decoded : decodeLegacyControls bytes = .ok old) : Wraps bytes old.ReadFrom := by
  simp only [decodeLegacyControls, bind_ok_iff, liftM_ok_iff] at decoded
  obtain ⟨j, envelope, v, found, _, entries, same⟩ := decoded
  cases same
  exact decodeLegacyEnvelopeJson_ok envelope (Holds.of_mapM found entries controlEntryFromJson_ok)

theorem decodeLegacyPolicy_ok {old : LegacyPolicy}
    (decoded : decodeLegacyPolicy bytes = .ok old) : Wraps bytes old.ReadFrom := by
  simp only [decodeLegacyPolicy, bind_ok_iff, liftM_ok_iff] at decoded
  obtain ⟨j, envelope, _, base, _, preference, _, conflict, same⟩ := decoded
  cases same
  exact decodeLegacyEnvelopeJson_ok envelope ⟨.of_getStr base, .of_getStr preference,
    .of_flag conflict⟩

theorem decodeLegacyLogJobs_ok {old : LegacyLogJobs}
    (decoded : decodeLegacyLogJobs bytes = .ok old) : Wraps bytes old.ReadFrom := by
  simp only [decodeLegacyLogJobs, bind_ok_iff, liftM_ok_iff] at decoded
  obtain ⟨j, envelope, v, found, _, entries, same⟩ := decoded
  cases same
  exact decodeLegacyEnvelopeJson_ok envelope (Holds.of_mapM found entries logJobEntryFromJson_ok)

end Records

end CgwFota.Cloud
