import Mathlib.Data.List.Induction
import CgwFota.Properties.MigratedFields

/-!
# The two levels of the store

The orchestrator works on records with mathematical numbers and with messages; the store of the
framework holds bytes, in which numbers have a width and messages are hexadecimal text. Seen through
the loads of the byte level, both are the same store.

## Main results

* `Mirrors.saves`: every sequence of saves of bytes leads from a store that mirrors one of the upper
  level to a store that mirrors what the same saves make of the latter.
* `asSave_records`: the records that the migration writes are, one by one and in order, the saves
  of the migration as the orchestrator's level has it.
* `migration_mirrors`: a migration that has come to its end leaves a store that mirrors the first
  store of the orchestrator.

## Proof strategy

`Kind.view` says what a record of the byte level is on the upper level, and `seen` finds a record of
the upper store under the identifier of the byte level. The relation between the stores is then one
equation for each kind and identifier, and each side changes at one such place with every save.
-/
namespace CgwFota.Cloud

open Crash
open Inventory (Bytes Thrown Disk StoreWorld Surroundings)
open CgwFota.Cloud.FotaCloudStateStore (load load_congr load_absent load_stored)

/-- How a hexadecimal text is read as a message. The empty text is that of the message without
content. -/
class HexText (α : Type) [Inhabited α] where
  message : String → α
  message_empty : message "" = default

/-- A text of the byte level as the upper level has it. -/
def seenHex {α : Type} [Inhabited α] [HexText α] (hex : String) : PbHex α := ⟨HexText.message hex⟩

theorem seenHex_empty {α : Type} [Inhabited α] [HexText α] : (seenHex "" : PbHex α) = default :=
  congrArg PbHex.mk HexText.message_empty

/-! ### Earlier records -/

/-- The earlier records lose their messages, which the migration does not carry over. -/
def LegacyVehicleTask.view (old : LegacyVehicleTask) : CgwFota.LegacyVehicleTask :=
  { vehicleTaskId := old.vehicleTaskId
    taskRevision := old.taskRevision
    targetBaselineId := old.targetBaselineId
    vehicleTaskState := old.vehicleTaskState
    frozenAtMs := old.frozenAtMs.toInt
    localDispositionResult := old.localDispositionResult
    superseded := old.superseded }

def LegacyInventory.view (old : LegacyInventory) : CgwFota.LegacyInventory :=
  { mode := old.mode
    inventoryRevision := old.inventoryRevision
    algorithm := old.algorithm
    ecuListDigest := old.ecuListDigest
    collectedAtMs := old.collectedAtMs.toInt
    fullRequired := old.fullRequired }

def LegacyConsent.view (old : LegacyConsent) : CgwFota.LegacyConsent :=
  { vehicleTaskId := old.vehicleTaskId
    effectiveStatus := old.effectiveStatus
    receiptId := old.receiptId
    receiptExpiresAtMs := old.receiptExpiresAtMs.toInt
    termsId := old.termsId
    termsVersion := old.termsVersion }

def LegacyDownloadEntry.view (e : LegacyDownloadEntry) : CgwFota.LegacyDownloadEntry :=
  { packageId := e.packageId
    packageRevision := e.packageRevision
    etag := e.etag
    offset := e.offset.toInt
    credentialExpiresAtMs := e.credentialExpiresAtMs.toInt
    verifyStatus := e.verifyStatus
    stageResultId := e.stageResultId
    stageResultDigest := e.stageResultDigest
    ready := e.ready }

def LegacyExecution.view (old : LegacyExecution) : CgwFota.LegacyExecution :=
  { vehicleTaskId := old.vehicleTaskId
    executionId := old.executionId
    attemptNo := old.attemptNo.toNat
    permitId := old.permitId
    permitToken := old.permitToken
    controlRevision := old.controlRevision
    validUntilMs := old.validUntilMs.toInt
    executionState := old.executionState
    installPlanVersion := old.installPlanVersion
    acceptedSequenceNo := old.acceptedSequenceNo.toNat
    nextSequenceNo := old.nextSequenceNo.toNat }

def LegacyEventOutboxEntry.view (e : LegacyEventOutboxEntry) : CgwFota.LegacyEventOutboxEntry :=
  { sequenceNo := e.sequenceNo.toNat
    eventId := e.eventId
    eventDigest := e.eventDigest
    stage := e.stage
    progressPercent := e.progressPercent.toNat
    result := e.result
    timestampMs := e.timestampMs.toInt
    payloadSummary := e.payloadSummary
    sendStatus := e.sendStatus }

def LegacyEventOutbox.view (old : LegacyEventOutbox) : CgwFota.LegacyEventOutbox :=
  { nextSequenceNo := old.nextSequenceNo.toNat
    acceptedSequenceNo := old.acceptedSequenceNo.toNat
    entries := old.entries.map LegacyEventOutboxEntry.view }

def LegacyControlEntry.view (e : LegacyControlEntry) : CgwFota.LegacyControlEntry :=
  { controlRevision := e.controlRevision
    commandType := e.commandType
    applyMode := e.applyMode
    expiresAtMs := e.expiresAtMs.toInt
    reason := e.reason
    ackStatus := e.ackStatus
    ackSequenceNo := e.ackSequenceNo.toNat
    appliedAtMs := e.appliedAtMs.toInt }

def LegacyPolicy.view (old : LegacyPolicy) : CgwFota.LegacyPolicy :=
  { basePreferenceVersion := old.basePreferenceVersion
    preferenceVersion := old.preferenceVersion
    conflict := old.conflict }

def LegacyLogJobEntry.view (e : LegacyLogJobEntry) : CgwFota.LegacyLogJobEntry :=
  { logRequestId := e.logRequestId
    objectKey := e.objectKey
    digestHex := e.digestHex
    sizeBytes := e.sizeBytes.toInt
    status := e.status
    completedAtMs := e.completedAtMs.toInt }

def LegacyStore.view (old : LegacyStore) : CgwFota.LegacyStore where
  vehicleTask := old.vehicleTask.map LegacyVehicleTask.view
  inventory := old.inventory.map LegacyInventory.view
  consent := old.consent.map LegacyConsent.view
  downloads := old.downloads.map fun old => old.entries.map LegacyDownloadEntry.view
  execution := old.execution.map LegacyExecution.view
  eventOutbox := old.eventOutbox.map LegacyEventOutbox.view
  controls := old.controls.map fun old => old.entries.map LegacyControlEntry.view
  policy := old.policy.map LegacyPolicy.view
  logJobs := old.logJobs.map fun old => old.entries.map LegacyLogJobEntry.view

/-- Both levels agree on whether there is anything to migrate. -/
theorem anyOld_view [JsonText] {d : Disk} (decodes : Decodes d) :
    (legacyStore d).view.anyOld = true ↔ HasOld d := by
  have there {α : Type} (part : Part) {decode : Bytes → Except Thrown α} {convert : α → Carried}
      (shape : ∀ bytes, part.carry bytes = (decode bytes).map convert)
      (member : part ∈ firstParts ++ lastParts) :
      (oldValue part.key decode d).isSome = true ↔ d part.key ≠ none := by
    have present := ifPresent_of_read (P := fun old => oldValue part.key decode d = some old) part
      shape (decodes part member) fun _ found => found
    constructor
    · intro some none
      simp [oldValue, none] at some
    · intro stored
      obtain ⟨bytes, stored⟩ := Option.ne_none_iff_exists'.mp stored
      obtain ⟨old, -, found⟩ := present bytes stored
      exact Option.isSome_iff_exists.mpr ⟨old, found⟩
  have vehicleTask := there vehicleTaskPart (fun _ => bind_return _ _) (by simp [firstParts])
  have inventory := there inventoryPart (fun _ => bind_return _ _) (by simp [firstParts])
  have consent := there consentPart (fun _ => bind_return _ _) (by simp [firstParts])
  have downloads := there downloadsPart (fun _ => bind_return _ _) (by simp [firstParts])
  have execution := there executionPart (fun _ => bind_return _ _) (by simp [firstParts])
  have eventOutbox := there eventOutboxPart (fun _ => bind_return _ _) (by simp [firstParts])
  have controls := there controlsPart (fun _ => bind_return _ _) (by simp [lastParts])
  have policy := there policyPart (fun _ => bind_return _ _) (by simp [lastParts])
  have logJobs := there logJobsPart (fun _ => bind_return _ _) (by simp [lastParts])
  simp only [CgwFota.LegacyStore.anyOld, LegacyStore.view, legacyStore, Option.isSome_map,
    Bool.or_eq_true, or_assoc, HasOld, oldKeys, List.exists_mem_cons_iff, List.not_mem_nil,
    false_and, exists_const, or_false]
  exact or_congr vehicleTask (or_congr inventory (or_congr consent (or_congr downloads
    (or_congr execution (or_congr eventOutbox (or_congr controls (or_congr policy logJobs)))))))

/-! ### Records -/

def FotaVehicleTaskRecord.view [HexText VehicleTaskSnapshot] (r : FotaVehicleTaskRecord) :
    CgwFota.FotaVehicleTaskRecord :=
  { vehicleTaskId := r.vehicleTaskId
    taskRevision := r.taskRevision.toNat
    targetBaselineCode := r.targetBaselineCode
    vehicleTaskState := r.vehicleTaskState
    frozenAtMs := r.frozenAtMs.toInt
    taskSnapshotPbHex := seenHex r.taskSnapshotPbHex
    localDispositionResult := r.localDispositionResult
    superseded := r.superseded }

def FotaInventoryRecord.view [HexText TaskCheckRequest] (r : FotaInventoryRecord) :
    CgwFota.FotaInventoryRecord :=
  { mode := r.mode
    inventoryRevision := r.inventoryRevision.toNat
    algorithm := r.algorithm
    ecuListDigestHex := r.ecuListDigestHex
    baselineCode := r.baselineCode
    fotaMasterVersion := r.fotaMasterVersion
    collectedAtMs := r.collectedAtMs.toInt
    requestPbHex := seenHex r.requestPbHex
    fullRequired := r.fullRequired }

def FotaConsentRecord.view (r : FotaConsentRecord) : CgwFota.FotaConsentRecord :=
  { vehicleTaskId := r.vehicleTaskId
    effectiveStatus := r.effectiveStatus
    receiptId := r.receiptId
    receiptExpiresAtMs := r.receiptExpiresAtMs.toInt
    termsId := r.termsId
    termsVersion := r.termsVersion
    termsDigestHex := r.termsDigestHex
    termsAlgorithm := r.termsAlgorithm
    consentTimeMs := r.consentTimeMs.toInt
    channel := r.channel }

def FotaDownloadRecord.view (r : FotaDownloadRecord) : CgwFota.FotaDownloadRecord :=
  { packageId := r.packageId
    packageRevision := r.packageRevision
    etag := r.etag
    currentOffsetBytes := r.currentOffsetBytes.toNat
    offsetScope := r.offsetScope
    credentialExpiresAtMs := r.credentialExpiresAtMs.toInt
    verifyStatus := r.verifyStatus
    stageResultId := r.stageResultId
    stageResultDigestHex := r.stageResultDigestHex
    ready := r.ready }

/-- The orchestrator never uses the checkpoint. -/
def FotaExecutionRecord.view [HexText OfflinePolicy] [HexText TimeoutPolicy]
    (r : FotaExecutionRecord) : CgwFota.FotaExecutionRecord :=
  { vehicleTaskId := r.vehicleTaskId
    executionId := r.executionId
    attemptNo := r.attemptNo.toNat
    permitId := r.permitId
    permitToken := r.permitToken
    controlRevision := r.controlRevision.toNat
    validUntilMs := r.validUntilMs.toInt
    executionState := r.executionState
    installPlanVersion := r.installPlanVersion
    offlinePolicyPbHex := seenHex r.offlinePolicyPbHex
    timeoutPolicyPbHex := seenHex r.timeoutPolicyPbHex }

def FotaEventOutboxMeta.view (r : FotaEventOutboxMeta) : CgwFota.FotaEventOutboxMeta :=
  { nextSequenceNo := r.nextSequenceNo.toNat
    acceptedSequenceNo := r.acceptedSequenceNo.toNat }

def FotaEventOutboxRecord.view [HexText ExecutionEvent] (r : FotaEventOutboxRecord) :
    CgwFota.FotaEventOutboxRecord :=
  { sequenceNo := r.sequenceNo.toNat
    eventId := r.eventId
    eventDigestHex := r.eventDigestHex
    stage := r.stage
    eventStatus := r.eventStatus
    progress := r.progress.toNat
    occurredAtMs := r.occurredAtMs.toInt
    payloadSummary := r.payloadSummary
    sendStatus := r.sendStatus
    eventPbHex := seenHex r.eventPbHex }

def FotaControlRecord.view (r : FotaControlRecord) : CgwFota.FotaControlRecord :=
  { controlId := r.controlId
    controlRevision := r.controlRevision.toNat
    action := r.action
    scope := r.scope
    applyMode := r.applyMode
    issuedAtMs := r.issuedAtMs.toInt
    expiresAtMs := r.expiresAtMs.toInt
    reason := r.reason
    ackStatus := r.ackStatus
    ackSequenceNo := r.ackSequenceNo.toNat
    appliedAtMs := r.appliedAtMs.toInt }

def FotaPolicyRecord.view [HexText EffectivePolicy] (r : FotaPolicyRecord) :
    CgwFota.FotaPolicyRecord :=
  { localPolicyVersion := r.localPolicyVersion
    basePreferenceVersion := r.basePreferenceVersion
    preferenceVersion := r.preferenceVersion
    effectivePolicyPbHex := seenHex r.effectivePolicyPbHex
    conflict := r.conflict
    effectiveAtMs := r.effectiveAtMs.toInt }

def FotaLogJobRecord.view (r : FotaLogJobRecord) : CgwFota.FotaLogJobRecord :=
  { logRequestId := r.logRequestId
    objectKey := r.objectKey
    digestHex := r.digestHex
    algorithm := r.algorithm
    sizeBytes := r.sizeBytes.toNat
    status := r.status
    completedAtMs := r.completedAtMs.toInt }

/-! ### Conversions -/

theorem LegacyVehicleTask.view_migrate [HexText VehicleTaskSnapshot] (old : LegacyVehicleTask) :
    old.migrate.view = old.view.migrate := by
  simp [migrate, FotaVehicleTaskRecord.view, LegacyVehicleTask.view,
    CgwFota.LegacyVehicleTask.migrate, revision_toNat, seenHex_empty]

theorem LegacyInventory.view_migrate [HexText TaskCheckRequest] (old : LegacyInventory) :
    old.migrate.view = old.view.migrate := by
  simp [migrate, FotaInventoryRecord.view, LegacyInventory.view,
    CgwFota.LegacyInventory.migrate, revision_toNat, seenHex_empty]

theorem LegacyConsent.view_migrate (old : LegacyConsent) :
    old.migrate.view = old.view.migrate := rfl

theorem LegacyDownloadEntry.view_migrate (e : LegacyDownloadEntry) :
    e.migrate.view = e.view.migrate := by
  simp [migrate, FotaDownloadRecord.view, LegacyDownloadEntry.view,
    CgwFota.LegacyDownloadEntry.migrate, nonNegative_toNat]

theorem LegacyExecution.view_migrate [HexText OfflinePolicy] [HexText TimeoutPolicy]
    (old : LegacyExecution) :
    old.migrate.view = old.view.migrate := by
  simp [migrate, FotaExecutionRecord.view, LegacyExecution.view,
    CgwFota.LegacyExecution.migrate, revision_toNat, seenHex_empty]

theorem LegacyEventOutboxEntry.view_migrate [HexText ExecutionEvent] (e : LegacyEventOutboxEntry) :
    e.migrate.view = e.view.migrate := by
  simp [migrate, FotaEventOutboxRecord.view, LegacyEventOutboxEntry.view,
    CgwFota.LegacyEventOutboxEntry.migrate, seenHex_empty]

theorem LegacyControlEntry.view_migrate (e : LegacyControlEntry) :
    e.migrate.view = e.view.migrate := by
  simp [migrate, FotaControlRecord.view, LegacyControlEntry.view,
    CgwFota.LegacyControlEntry.migrate, revision_toNat]

theorem LegacyPolicy.view_migrate [HexText EffectivePolicy] (old : LegacyPolicy) :
    old.migrate.view = old.view.migrate := by
  simp [migrate, FotaPolicyRecord.view, LegacyPolicy.view, CgwFota.LegacyPolicy.migrate,
    seenHex_empty]

theorem LegacyLogJobEntry.view_migrate (e : LegacyLogJobEntry) :
    e.migrate.view = e.view.migrate := by
  simp [migrate, FotaLogJobRecord.view, LegacyLogJobEntry.view,
    CgwFota.LegacyLogJobEntry.migrate, nonNegative_toNat]

theorem LegacyStore.view_outboxMeta (old : LegacyStore) :
    old.outboxMeta.view = old.view.outboxMeta := by
  unfold LegacyStore.outboxMeta CgwFota.LegacyStore.outboxMeta LegacyStore.view
  cases old.eventOutbox <;> cases old.execution <;> rfl

section Levels

variable [HexText VehicleTaskSnapshot] [HexText TaskCheckRequest] [HexText OfflinePolicy]
  [HexText TimeoutPolicy] [HexText ExecutionEvent] [HexText EffectivePolicy]

/-! ### Kinds, writes and stores -/

namespace Kind

/-- What the records of a kind are on the upper level. -/
abbrev Seen : Kind → Type
  | vehicleTask => CgwFota.FotaVehicleTaskRecord
  | inventory => CgwFota.FotaInventoryRecord
  | consent => CgwFota.FotaConsentRecord
  | download => CgwFota.FotaDownloadRecord
  | execution => CgwFota.FotaExecutionRecord
  | eventOutboxMeta => CgwFota.FotaEventOutboxMeta
  | event => CgwFota.FotaEventOutboxRecord
  | control => CgwFota.FotaControlRecord
  | policy => CgwFota.FotaPolicyRecord
  | logJob => CgwFota.FotaLogJobRecord

/-- A record as the upper level has it. -/
def view : (k : Kind) → k.Record → k.Seen
  | vehicleTask => FotaVehicleTaskRecord.view
  | inventory => FotaInventoryRecord.view
  | consent => FotaConsentRecord.view
  | download => FotaDownloadRecord.view
  | execution => FotaExecutionRecord.view
  | eventOutboxMeta => FotaEventOutboxMeta.view
  | event => FotaEventOutboxRecord.view
  | control => FotaControlRecord.view
  | policy => FotaPolicyRecord.view
  | logJob => FotaLogJobRecord.view

end Kind

/-- A write of the byte level as a save of the upper one. -/
def Write.asSave : Write → Save
  | ⟨.vehicleTask, r⟩ => .vehicleTask r.view
  | ⟨.inventory, r⟩ => .inventory r.view
  | ⟨.consent, r⟩ => .consent r.view
  | ⟨.download, r⟩ => .download r.view
  | ⟨.execution, r⟩ => .execution r.view
  | ⟨.eventOutboxMeta, r⟩ => .eventOutboxMeta r.view
  | ⟨.event, r⟩ => .event r.view
  | ⟨.control, r⟩ => .control r.view
  | ⟨.policy, r⟩ => .policy r.view
  | ⟨.logJob, r⟩ => .logJob r.view

/-- The record of the upper store under an identifier of the byte level. -/
def seen (s : CgwFota.FotaCloudStateStore) : (k : Kind) → k.Id → Option k.Seen
  | .vehicleTask, _ => s.vehicleTask
  | .inventory, _ => s.inventory
  | .consent, _ => s.consent
  | .download, packageId => s.loadDownload packageId
  | .execution, _ => s.execution
  | .eventOutboxMeta, _ => s.eventOutboxMeta
  | .event, sequenceNo => s.loadEvent sequenceNo.toNat
  | .control, revision => s.loadControl revision.toNat
  | .policy, _ => s.policy
  | .logJob, logRequestId => s.logJobs.get logRequestId

variable {s : CgwFota.FotaCloudStateStore} {r : Write} {k : Kind} {id : k.Id}

/-! ### One save on the upper level -/

theorem seen_save_self (s : CgwFota.FotaCloudStateStore) (r : Write) :
    seen (s.save r.asSave) r.kind (r.kind.idOf r.record) = some (r.kind.view r.record) := by
  obtain ⟨kind, r⟩ := r
  cases kind with
  | download | event | control | logJob => exact Keyed.get_insert_self _ _
  | vehicleTask | inventory | consent | execution | eventOutboxMeta | policy => rfl

/-- A save leaves every other record alone. -/
theorem seen_save_other
    (other : (⟨r.kind, r.kind.idOf r.record⟩ : (k : Kind) × k.Id) ≠ ⟨k, id⟩) :
    seen (s.save r.asSave) k id = seen s k id := by
  obtain ⟨kind, r⟩ := r
  by_cases same : kind = k
  · subst same
    have apart : kind.idOf r ≠ id := fun same => other (by rw [same])
    cases kind with
    | download | logJob => exact Keyed.get_insert_ne _ _ apart
    | event | control =>
      -- Numbers of 64 bits are told apart by their values.
      exact Keyed.get_insert_ne _ _ fun same => apart (UInt64.toNat_inj.mp same)
    | vehicleTask | inventory | consent | execution | eventOutboxMeta | policy =>
      exact absurd rfl apart
  · cases kind <;> cases k <;> first | rfl | exact absurd rfl same

/-- The migration of the byte level writes what the migration of the upper level saves, in the same
order. -/
theorem asSave_records (old : LegacyStore) :
    old.records.map Write.asSave = migrationSaves old.view := by
  have downloads : old.downloadEntries.map LegacyDownloadEntry.view =
      old.view.downloads.getD [] := by
    unfold LegacyStore.downloadEntries LegacyStore.view
    cases old.downloads <;> simp
  have events : old.eventEntries.map LegacyEventOutboxEntry.view =
      (old.view.eventOutbox.getD {}).entries := by
    unfold LegacyStore.eventEntries LegacyStore.view
    cases old.eventOutbox <;> simp [LegacyEventOutbox.view]
  have controls : old.controlEntries.map LegacyControlEntry.view = old.view.controls.getD [] := by
    unfold LegacyStore.controlEntries LegacyStore.view
    cases old.controls <;> simp
  have logJobs : old.logJobEntries.map LegacyLogJobEntry.view = old.view.logJobs.getD [] := by
    unfold LegacyStore.logJobEntries LegacyStore.view
    cases old.logJobs <;> simp
  unfold LegacyStore.records LegacyStore.firstRecords LegacyStore.lastRecords migrationSaves
  rw [← downloads, ← events, ← controls, ← logJobs, ← LegacyStore.view_outboxMeta]
  simp [LegacyStore.view, Function.comp_def, Write.asSave, Option.toList_map,
    LegacyVehicleTask.view_migrate, LegacyInventory.view_migrate, LegacyConsent.view_migrate,
    LegacyDownloadEntry.view_migrate, LegacyExecution.view_migrate,
    LegacyEventOutboxEntry.view_migrate, LegacyControlEntry.view_migrate,
    LegacyPolicy.view_migrate, LegacyLogJobEntry.view_migrate]

/-! ### The two stores -/

section Stores

variable [JsonText]

/-- The bytes hold what the upper store holds: every load finds it. -/
def Mirrors (d : Disk) (s : CgwFota.FotaCloudStateStore) : Prop :=
  ∀ (k : Kind) (id : k.Id), (load k id d).map (Option.map k.view) = .ok (seen s k id)

theorem mirrors_empty {d : Disk} (noRecord : ∀ (k : Kind) (id : k.Id), d (k.key id) = none) :
    Mirrors d {} := by
  intro k id
  rw [load_absent (noRecord k id)]
  cases k <;> rfl

variable [LawfulJsonText] {d d₀ : Disk}

/-- What a key shows after writes is what the upper store holds after the same saves: both come from
the last write of the key. -/
theorem mirrors_shown (mirrors : Mirrors d₀ s) (rs : List Write)
    (storable : ∀ r ∈ rs, r.kind.codec.Storable r.record)
    (shown : changes.Shows (rs.map .write) d₀ (k.key id) (d (k.key id))) :
    (load k id d).map (Option.map k.view) =
      .ok (seen ((rs.map Write.asSave).foldl CgwFota.FotaCloudStateStore.save s) k id) := by
  induction rs using List.reverseRecOn with
  | nil =>
    rw [load_congr (shown.frame rfl)]
    exact mirrors k id
  | append_singleton rs r ih =>
    rw [List.map_append, List.foldl_append]
    show _ = Except.ok (seen (CgwFota.FotaCloudStateStore.save _ r.asSave) k id)
    by_cases here : (⟨r.kind, r.kind.idOf r.record⟩ : (k : Kind) × k.Id) = ⟨k, id⟩
    · cases here
      have last : changes.last r.key ((rs ++ [r]).map .write) = some (.write r) := by
        rw [List.map_append, Changes.last_append]
        simp [Changes.last, changes, Change.key]
      obtain ⟨stamp, stored⟩ := shown.of_last last
      rw [load_stored stored (storable r (by simp)), seen_save_self]
      rfl
    · have apart : changes.key (.write r) ≠ k.key id := fun same => here (Kind.key_injective same)
      rw [seen_save_other here]
      refine ih (fun r member => storable r (List.mem_append_left _ member)) ?_
      unfold Changes.Shows at shown ⊢
      rw [List.map_append, Changes.last_append] at shown
      simpa [Changes.last, apart] using shown

theorem Mirrors.save (mirrors : Mirrors d s) (r : Write) (storable : r.kind.codec.Storable r.record)
    (writtenAt : Int64) :
    Mirrors (FotaCloudStateStore.save r.kind r.record writtenAt d) (s.save r.asSave) := by
  have applied : changes.Applied [.write r] d
      (FotaCloudStateStore.save r.kind r.record writtenAt d) := by
    refine ⟨(writtenAt, 0), ?_⟩
    rw [FotaCloudStateStore.save_eq]
    rfl
  intro k id
  exact mirrors_shown mirrors [r] (by simpa using storable) (applied.shows _)

theorem Mirrors.saves (mirrors : Mirrors d s) (rs : List (Int64 × Write))
    (storable : ∀ r ∈ rs, r.2.kind.codec.Storable r.2.record) :
    Mirrors (rs.foldl (fun d r => FotaCloudStateStore.save r.2.kind r.2.record r.1 d) d)
      ((rs.map fun r => r.2.asSave).foldl CgwFota.FotaCloudStateStore.save s) := by
  induction rs generalizing d s with
  | nil => exact mirrors
  | cons r rs ih =>
    exact ih (mirrors.save r.2 (storable r (by simp)) r.1) fun r' member =>
      storable r' (List.mem_cons_of_mem _ member)

/-! ### A finished migration -/

/-- A migration that has come to its end leaves the first store of the orchestrator's level, seen
through the loads. -/
theorem migration_mirrors (legacy : Legacy d₀) (decodes : Decodes d₀) (fits : AllFit d₀)
    {e : Surroundings} (intact : e.Intact) {r : FotaMigrationResult} {w : StoreWorld}
    (done : migrateOnce e d₀ = .done (.ok r) w) :
    Mirrors w.disk (CgwFota.migrateOtaToFota (legacyStore d₀).view {}) := by
  have first : Mirrors d₀ {} := mirrors_empty legacy.noRecord
  obtain ⟨possible, applied⟩ := migrateOnce_ok intact done
  unfold CgwFota.migrateOtaToFota
  cases (Phase.start d₀).finish legacy possible applied with
  | idle absent same =>
    rw [if_neg fun any => absent ((anyOld_view decodes).mp any), same]
    exact first
  | migrated there plan again shown olds =>
    rw [if_pos ((anyOld_view decodes).mpr there), ← asSave_records]
    intro k id
    refine mirrors_shown first _ (fun r member => ?_) ?_
    · exact ⟨(LegacyStore.mem_records.mp member).current, fits r member⟩
    · have fresh : k.key id ∉ oldKeys := fun old => Kind.key_ne_oldKey old k id rfl
      have value := shown _ fresh
      unfold Changes.Shows at value ⊢
      rw [last_transferred (k.key_ne_marker id), planned_of_decodes decodes] at value
      exact value

end Stores

end Levels

end CgwFota.Cloud
