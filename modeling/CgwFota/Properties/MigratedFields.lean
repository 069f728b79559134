import CgwFota.Cloud.Contents
import CgwFota.Cloud.LegacyFields
import CgwFota.Properties.MigrationSafety

/-!
# What the migration preserves

After a migration that came to its end, every earlier record is found under its new key, field by
field, and nothing else was created.

## Main definitions

* `KeptIn`, for each kind: a new record has the fields of an earlier one.
* `Watermarks`: where the watermarks come from.
* `Preserved`: what was in one store is found in another.
* `DistinctKeys`, `AllFit`: no two entries share a new key, and every new record fits.

## Main results

* `migration_preserves_fields`: a migration that comes to its end preserves everything.
* `Preserved.members`: what was preserved, from the members of the stored texts on.

## Proof strategy

The fields of a new record are read off the conversions. That it is found follows from what a
finished migration shows under a key: the last write to it, which with distinct keys is the only
one. That nothing else is there is the same statement for any other key.
-/
namespace CgwFota.Cloud

open Crash
open Inventory (Bytes Thrown Disk StoreWorld Surroundings)
open CgwFota.Cloud.FotaCloudStateStore

/-! ### Fields -/

/-- The fields of the earlier task, in the new record. -/
structure LegacyVehicleTask.KeptIn (old : LegacyVehicleTask) (r : FotaVehicleTaskRecord) :
    Prop where
  vehicleTaskId : r.vehicleTaskId = old.vehicleTaskId
  taskRevision : r.taskRevision.toNat = revisionToUint64 old.taskRevision
  targetBaselineCode : r.targetBaselineCode = old.targetBaselineId
  vehicleTaskState : r.vehicleTaskState = old.vehicleTaskState
  frozenAtMs : r.frozenAtMs = old.frozenAtMs
  localDispositionResult : r.localDispositionResult = old.localDispositionResult
  superseded : r.superseded = old.superseded
  taskSnapshotPbHex : r.taskSnapshotPbHex = ""

/-- The fields of the earlier inventory. -/
structure LegacyInventory.KeptIn (old : LegacyInventory) (r : FotaInventoryRecord) : Prop where
  mode : r.mode = old.mode
  inventoryRevision : r.inventoryRevision.toNat = revisionToUint64 old.inventoryRevision
  algorithm : r.algorithm = old.algorithm
  ecuListDigestHex : r.ecuListDigestHex = old.ecuListDigest
  collectedAtMs : r.collectedAtMs = old.collectedAtMs
  fullRequired : r.fullRequired = old.fullRequired
  requestPbHex : r.requestPbHex = ""

/-- The fields of the earlier consent. -/
structure LegacyConsent.KeptIn (old : LegacyConsent) (r : FotaConsentRecord) : Prop where
  vehicleTaskId : r.vehicleTaskId = old.vehicleTaskId
  effectiveStatus : r.effectiveStatus = old.effectiveStatus
  receiptId : r.receiptId = old.receiptId
  receiptExpiresAtMs : r.receiptExpiresAtMs = old.receiptExpiresAtMs
  termsId : r.termsId = old.termsId
  termsVersion : r.termsVersion = old.termsVersion

/-- An offset below zero counts as zero. -/
structure LegacyDownloadEntry.KeptIn (e : LegacyDownloadEntry) (r : FotaDownloadRecord) : Prop where
  packageId : r.packageId = e.packageId
  packageRevision : r.packageRevision = e.packageRevision
  etag : r.etag = e.etag
  currentOffsetBytes : r.currentOffsetBytes.toNat = e.offset.toInt.toNat
  credentialExpiresAtMs : r.credentialExpiresAtMs = e.credentialExpiresAtMs
  verifyStatus : r.verifyStatus = e.verifyStatus
  stageResultId : r.stageResultId = e.stageResultId
  stageResultDigestHex : r.stageResultDigestHex = e.stageResultDigest
  ready : r.ready = e.ready

/-- The fields of the earlier execution. -/
structure LegacyExecution.KeptIn (old : LegacyExecution) (r : FotaExecutionRecord) : Prop where
  vehicleTaskId : r.vehicleTaskId = old.vehicleTaskId
  executionId : r.executionId = old.executionId
  attemptNo : r.attemptNo = old.attemptNo
  permitId : r.permitId = old.permitId
  permitToken : r.permitToken = old.permitToken
  controlRevision : r.controlRevision.toNat = revisionToUint64 old.controlRevision
  validUntilMs : r.validUntilMs = old.validUntilMs
  executionState : r.executionState = old.executionState
  installPlanVersion : r.installPlanVersion = old.installPlanVersion
  checkpointPbHex : r.checkpointPbHex = ""
  offlinePolicyPbHex : r.offlinePolicyPbHex = ""
  timeoutPolicyPbHex : r.timeoutPolicyPbHex = ""

/-- The fields of an event. -/
structure LegacyEventOutboxEntry.KeptIn (e : LegacyEventOutboxEntry) (r : FotaEventOutboxRecord) :
    Prop where
  sequenceNo : r.sequenceNo = e.sequenceNo
  eventId : r.eventId = e.eventId
  eventDigestHex : r.eventDigestHex = e.eventDigest
  stage : r.stage = e.stage
  eventStatus : r.eventStatus = e.result
  progress : r.progress = e.progressPercent
  occurredAtMs : r.occurredAtMs = e.timestampMs
  payloadSummary : r.payloadSummary = e.payloadSummary
  sendStatus : r.sendStatus = e.sendStatus
  eventPbHex : r.eventPbHex = ""

/-- The fields of a control, with its action and its mode in the words of the present contract. -/
structure LegacyControlEntry.KeptIn (e : LegacyControlEntry) (r : FotaControlRecord) : Prop where
  controlRevision : r.controlRevision.toNat = revisionToUint64 e.controlRevision
  action : r.action = mapControlAction e.commandType
  applyMode : r.applyMode = mapApplyMode e.applyMode
  expiresAtMs : r.expiresAtMs = e.expiresAtMs
  reason : r.reason = e.reason
  ackStatus : r.ackStatus = e.ackStatus
  ackSequenceNo : r.ackSequenceNo = e.ackSequenceNo
  appliedAtMs : r.appliedAtMs = e.appliedAtMs

/-- The fields of the earlier policy. -/
structure LegacyPolicy.KeptIn (old : LegacyPolicy) (r : FotaPolicyRecord) : Prop where
  basePreferenceVersion : r.basePreferenceVersion = old.basePreferenceVersion
  preferenceVersion : r.preferenceVersion = old.preferenceVersion
  conflict : r.conflict = old.conflict
  effectivePolicyPbHex : r.effectivePolicyPbHex = ""

/-- A size below zero counts as zero. -/
structure LegacyLogJobEntry.KeptIn (e : LegacyLogJobEntry) (r : FotaLogJobRecord) : Prop where
  logRequestId : r.logRequestId = e.logRequestId
  objectKey : r.objectKey = e.objectKey
  digestHex : r.digestHex = e.digestHex
  sizeBytes : r.sizeBytes.toNat = e.sizeBytes.toInt.toNat
  status : r.status = e.status
  completedAtMs : r.completedAtMs = e.completedAtMs

theorem LegacyVehicleTask.keptIn_migrate (old : LegacyVehicleTask) : old.KeptIn old.migrate :=
  ⟨rfl, revision_toNat _, rfl, rfl, rfl, rfl, rfl, rfl⟩

theorem LegacyInventory.keptIn_migrate (old : LegacyInventory) : old.KeptIn old.migrate :=
  ⟨rfl, revision_toNat _, rfl, rfl, rfl, rfl, rfl⟩

theorem LegacyConsent.keptIn_migrate (old : LegacyConsent) : old.KeptIn old.migrate :=
  ⟨rfl, rfl, rfl, rfl, rfl, rfl⟩

theorem LegacyDownloadEntry.keptIn_migrate (e : LegacyDownloadEntry) : e.KeptIn e.migrate :=
  ⟨rfl, rfl, rfl, nonNegative_toNat _, rfl, rfl, rfl, rfl, rfl⟩

theorem LegacyExecution.keptIn_migrate (old : LegacyExecution) : old.KeptIn old.migrate :=
  ⟨rfl, rfl, rfl, rfl, rfl, revision_toNat _, rfl, rfl, rfl, rfl, rfl, rfl⟩

theorem LegacyEventOutboxEntry.keptIn_migrate (e : LegacyEventOutboxEntry) : e.KeptIn e.migrate :=
  ⟨rfl, rfl, rfl, rfl, rfl, rfl, rfl, rfl, rfl, rfl⟩

theorem LegacyControlEntry.keptIn_migrate (e : LegacyControlEntry) : e.KeptIn e.migrate :=
  ⟨revision_toNat _, rfl, rfl, rfl, rfl, rfl, rfl, rfl⟩

theorem LegacyPolicy.keptIn_migrate (old : LegacyPolicy) : old.KeptIn old.migrate :=
  ⟨rfl, rfl, rfl, rfl⟩

theorem LegacyLogJobEntry.keptIn_migrate (e : LegacyLogJobEntry) : e.KeptIn e.migrate :=
  ⟨rfl, rfl, rfl, nonNegative_toNat _, rfl, rfl⟩

section Fields

variable [JsonText]

/-! ### The new store -/

/-- The value under an earlier key, if there is one, is decoded and has property `P`. -/
def IfPresent {α : Type} (d : Disk) (key : String) (decode : Bytes → Except Thrown α)
    (P : α → Prop) : Prop :=
  ∀ bytes, d key = some bytes → ∃ old, decode bytes = .ok old ∧ P old

/-- The watermarks of the outbox if present, else those of the execution, else the defaults. -/
structure Watermarks (d : Disk) (m : FotaEventOutboxMeta) : Prop where
  outbox : IfPresent d OLD_EVENT_OUTBOX decodeLegacyEventOutbox fun old =>
    m.nextSequenceNo = old.nextSequenceNo ∧ m.acceptedSequenceNo = old.acceptedSequenceNo
  execution : d OLD_EVENT_OUTBOX = none →
    IfPresent d OLD_EXECUTION decodeLegacyExecution fun old =>
      m.nextSequenceNo = old.nextSequenceNo ∧ m.acceptedSequenceNo = old.acceptedSequenceNo
  neither : d OLD_EVENT_OUTBOX = none → d OLD_EXECUTION = none →
    m.nextSequenceNo = 1 ∧ m.acceptedSequenceNo = 0

/-- The new records that stand for something. -/
inductive Entry (d : Disk) : (k : Kind) → k.Id → Prop
  | vehicleTask (there : d OLD_VEHICLE_TASK ≠ none) : Entry d .vehicleTask ()
  | inventory (there : d OLD_INVENTORY ≠ none) : Entry d .inventory ()
  | consent (there : d OLD_CONSENT ≠ none) : Entry d .consent ()
  | download {bytes : Bytes} {old : LegacyDownloads} {e : LegacyDownloadEntry}
    (there : d OLD_DOWNLOADS = some bytes) (decoded : decodeLegacyDownloads bytes = .ok old)
    (member : e ∈ old.entries) : Entry d .download e.packageId
  | execution (there : d OLD_EXECUTION ≠ none) : Entry d .execution ()
  | outboxMeta : Entry d .eventOutboxMeta ()
  | event {bytes : Bytes} {old : LegacyEventOutbox} {e : LegacyEventOutboxEntry}
    (there : d OLD_EVENT_OUTBOX = some bytes) (decoded : decodeLegacyEventOutbox bytes = .ok old)
    (member : e ∈ old.entries) : Entry d .event e.sequenceNo
  | control {bytes : Bytes} {old : LegacyControls} {e : LegacyControlEntry}
    (there : d OLD_CONTROLS = some bytes) (decoded : decodeLegacyControls bytes = .ok old)
    (member : e ∈ old.entries) : Entry d .control (revision e.controlRevision)
  | policy (there : d OLD_POLICY ≠ none) : Entry d .policy ()
  | logJob {bytes : Bytes} {old : LegacyLogJobs} {e : LegacyLogJobEntry}
    (there : d OLD_LOG_JOBS = some bytes) (decoded : decodeLegacyLogJobs bytes = .ok old)
    (member : e ∈ old.entries) : Entry d .logJob e.logRequestId

/-- What was in `d₀` is found in `d`. -/
structure Preserved (d₀ d : Disk) : Prop where
  vehicleTask : IfPresent d₀ OLD_VEHICLE_TASK decodeLegacyVehicleTask fun old =>
    ∃ r, loadVehicleTask d = .ok (some r) ∧ old.KeptIn r
  inventory : IfPresent d₀ OLD_INVENTORY decodeLegacyInventory fun old =>
    ∃ r, loadInventory d = .ok (some r) ∧ old.KeptIn r
  consent : IfPresent d₀ OLD_CONSENT decodeLegacyConsent fun old =>
    ∃ r, loadConsent d = .ok (some r) ∧ old.KeptIn r
  downloads : IfPresent d₀ OLD_DOWNLOADS decodeLegacyDownloads fun old => ∀ e ∈ old.entries,
    ∃ r, loadDownload e.packageId d = .ok (some r) ∧ e.KeptIn r
  execution : IfPresent d₀ OLD_EXECUTION decodeLegacyExecution fun old =>
    ∃ r, FotaCloudStateStore.loadExecution d = .ok (some r) ∧ old.KeptIn r
  events : IfPresent d₀ OLD_EVENT_OUTBOX decodeLegacyEventOutbox fun old => ∀ e ∈ old.entries,
    ∃ r, loadEvent e.sequenceNo d = .ok (some r) ∧ e.KeptIn r
  controls : IfPresent d₀ OLD_CONTROLS decodeLegacyControls fun old => ∀ e ∈ old.entries,
    ∃ r, loadControl (revision e.controlRevision) d = .ok (some r) ∧ e.KeptIn r
  policy : IfPresent d₀ OLD_POLICY decodeLegacyPolicy fun old =>
    ∃ r, loadPolicy d = .ok (some r) ∧ old.KeptIn r
  logJobs : IfPresent d₀ OLD_LOG_JOBS decodeLegacyLogJobs fun old => ∀ e ∈ old.entries,
    ∃ r, loadLogJob e.logRequestId d = .ok (some r) ∧ e.KeptIn r
  outboxMeta : ∃ m, loadEventOutboxMeta d = .ok (some m) ∧ Watermarks d₀ m
  nothingElse : ∀ key ≠ kMarkerKey, d key ≠ none → d₀ key ≠ none ∨
    ∃ (k : Kind) (id : k.Id), k.key id = key ∧ Entry d₀ k id

/-- What the present value is decoded to, told by the members of its JSON text. -/
theorem IfPresent.members {α : Type} {d : Disk} {key : String} {decode : Bytes → Except Thrown α}
    {P : α → Prop} {R : α → Json → Prop} (present : IfPresent d key decode P)
    (reads : ∀ {bytes old}, decode bytes = .ok old → Wraps bytes (R old)) :
    ∀ bytes, d key = some bytes → ∃ old, Wraps bytes (R old) ∧ P old := by
  intro bytes stored
  obtain ⟨old, decoded, holds⟩ := present bytes stored
  exact ⟨old, reads decoded, holds⟩

/-- What was preserved, from the members of the stored JSON text to the fields of the new record. -/
theorem Preserved.members {d₀ d : Disk} (preserved : Preserved d₀ d) :
    (∀ bytes, d₀ OLD_VEHICLE_TASK = some bytes → ∃ old : LegacyVehicleTask,
      Wraps bytes old.ReadFrom ∧ ∃ r, loadVehicleTask d = .ok (some r) ∧ old.KeptIn r) ∧
    (∀ bytes, d₀ OLD_INVENTORY = some bytes → ∃ old : LegacyInventory,
      Wraps bytes old.ReadFrom ∧ ∃ r, loadInventory d = .ok (some r) ∧ old.KeptIn r) ∧
    (∀ bytes, d₀ OLD_CONSENT = some bytes → ∃ old : LegacyConsent,
      Wraps bytes old.ReadFrom ∧ ∃ r, loadConsent d = .ok (some r) ∧ old.KeptIn r) ∧
    (∀ bytes, d₀ OLD_DOWNLOADS = some bytes → ∃ old : LegacyDownloads,
      Wraps bytes old.ReadFrom ∧ ∀ e ∈ old.entries,
        ∃ r, loadDownload e.packageId d = .ok (some r) ∧ e.KeptIn r) ∧
    (∀ bytes, d₀ OLD_EXECUTION = some bytes → ∃ old : LegacyExecution,
      Wraps bytes old.ReadFrom ∧
        ∃ r, FotaCloudStateStore.loadExecution d = .ok (some r) ∧ old.KeptIn r) ∧
    (∀ bytes, d₀ OLD_EVENT_OUTBOX = some bytes → ∃ old : LegacyEventOutbox,
      Wraps bytes old.ReadFrom ∧ ∀ e ∈ old.entries,
        ∃ r, loadEvent e.sequenceNo d = .ok (some r) ∧ e.KeptIn r) ∧
    (∀ bytes, d₀ OLD_CONTROLS = some bytes → ∃ old : LegacyControls,
      Wraps bytes old.ReadFrom ∧ ∀ e ∈ old.entries,
        ∃ r, loadControl (revision e.controlRevision) d = .ok (some r) ∧ e.KeptIn r) ∧
    (∀ bytes, d₀ OLD_POLICY = some bytes → ∃ old : LegacyPolicy,
      Wraps bytes old.ReadFrom ∧ ∃ r, loadPolicy d = .ok (some r) ∧ old.KeptIn r) ∧
    ∀ bytes, d₀ OLD_LOG_JOBS = some bytes → ∃ old : LegacyLogJobs,
      Wraps bytes old.ReadFrom ∧ ∀ e ∈ old.entries,
        ∃ r, loadLogJob e.logRequestId d = .ok (some r) ∧ e.KeptIn r :=
  ⟨preserved.vehicleTask.members decodeLegacyVehicleTask_ok,
    preserved.inventory.members decodeLegacyInventory_ok,
    preserved.consent.members decodeLegacyConsent_ok,
    preserved.downloads.members decodeLegacyDownloads_ok,
    preserved.execution.members decodeLegacyExecution_ok,
    preserved.events.members decodeLegacyEventOutbox_ok,
    preserved.controls.members decodeLegacyControls_ok,
    preserved.policy.members decodeLegacyPolicy_ok,
    preserved.logJobs.members decodeLegacyLogJobs_ok⟩

/-- No two entries have the same new key. -/
def DistinctKeys (d : Disk) : Prop := ((legacyStore d).records.map Write.key).Nodup

/-- The text of every new record is shorter than four gigabytes. -/
def AllFit (d : Disk) : Prop := ∀ r ∈ (legacyStore d).records, r.Fits

variable {d₀ d : Disk} {part : Part} {written : Nat}

/-! ### Earlier values -/

omit [JsonText] in
/-- An earlier value is one that is there and decodes. -/
theorem oldValue_eq_some {α : Type} {key : String} {decode : Bytes → Except Thrown α} {a : α} :
    oldValue key decode d = some a ↔ ∃ bytes, d key = some bytes ∧ decode bytes = .ok a := by
  unfold oldValue
  rw [Option.bind_eq_some_iff]
  constructor
  · rintro ⟨bytes, stored, read⟩
    cases result : decode bytes with
    | error x => simp [result, Except.toOption] at read
    | ok a' =>
      rw [result] at read
      cases read
      exact ⟨bytes, stored, result⟩
  · rintro ⟨bytes, stored, read⟩
    exact ⟨bytes, stored, by rw [read]; rfl⟩

omit [JsonText] in
/-- A part that was read has decoded its value. -/
theorem ifPresent_of_read {α : Type} {P : α → Prop} (part : Part) {decode : Bytes → Except Thrown α}
    {convert : α → Carried} (shape : ∀ bytes, part.carry bytes = (decode bytes).map convert)
    (read : ∃ carried, part.read d = .ok carried)
    (holds : ∀ old, oldValue part.key decode d = some old → P old) :
    IfPresent d part.key decode P := by
  intro bytes stored
  obtain ⟨carried, read⟩ := read
  unfold Part.read at read
  rw [stored] at read
  dsimp only at read
  rw [shape] at read
  cases decoded : decode bytes with
  | error x =>
    rw [decoded] at read
    cases read
  | ok old => exact ⟨old, rfl, holds old (oldValue_eq_some.mpr ⟨bytes, stored, decoded⟩)⟩

omit [JsonText] in
theorem mem_entries {α β : Type} {o : Option α} {entries : α → List β} {e : β} :
    e ∈ o.toList.flatMap entries ↔ ∃ a, o = some a ∧ e ∈ entries a := by
  simp [List.mem_flatMap, Option.mem_toList]

/-- A record that is to be written stands for an entry. -/
theorem LegacyStore.Has.entry {r : Write} (has : (legacyStore d).Has r) :
    Entry d r.kind (r.kind.idOf r.record) := by
  have present {α : Type} {key : String} {decode : Bytes → Except Thrown α} {a : α}
      (there : oldValue key decode d = some a) : d key ≠ none := by
    obtain ⟨bytes, stored, -⟩ := oldValue_eq_some.mp there
    rw [stored]
    simp
  cases has with
  -- the singletons stand for the values under their keys
  | vehicleTask there => exact .vehicleTask (present there)
  | inventory there => exact .inventory (present there)
  | consent there => exact .consent (present there)
  | download member =>
    obtain ⟨old, there, member⟩ := mem_entries.mp member
    obtain ⟨bytes, stored, decoded⟩ := oldValue_eq_some.mp there
    exact .download stored decoded member
  | execution there => exact .execution (present there)
  | event member =>
    obtain ⟨old, there, member⟩ := mem_entries.mp member
    obtain ⟨bytes, stored, decoded⟩ := oldValue_eq_some.mp there
    exact .event stored decoded member
  | outboxMeta => exact .outboxMeta
  | control member =>
    obtain ⟨old, there, member⟩ := mem_entries.mp member
    obtain ⟨bytes, stored, decoded⟩ := oldValue_eq_some.mp there
    exact .control stored decoded member
  | policy there => exact .policy (present there)
  | logJob member =>
    obtain ⟨old, there, member⟩ := mem_entries.mp member
    obtain ⟨bytes, stored, decoded⟩ := oldValue_eq_some.mp there
    exact .logJob stored decoded member

/-- The watermarks of the plan are the documented ones. -/
theorem watermarks_outboxMeta (decodes : Decodes d) : Watermarks d (legacyStore d).outboxMeta := by
  have absent {α : Type} {key : String} {decode : Bytes → Except Thrown α}
      (missing : d key = none) :
      oldValue key decode d = none := by
    unfold oldValue
    rw [missing]
    rfl
  constructor
  -- the outbox is there
  · apply ifPresent_of_read eventOutboxPart (fun _ => bind_return _ _)
      (decodes _ (by simp [firstParts]))
    intro old there
    have same : (legacyStore d).outboxMeta = old.outboxMeta := by
      unfold LegacyStore.outboxMeta legacyStore
      simp only [show oldValue OLD_EVENT_OUTBOX decodeLegacyEventOutbox d = some old from there]
    rw [same]
    exact ⟨rfl, rfl⟩
  -- it is not, and the execution is
  · intro missing
    apply ifPresent_of_read executionPart (fun _ => bind_return _ _)
      (decodes _ (by simp [firstParts]))
    intro old there
    have same : (legacyStore d).outboxMeta = old.outboxMeta := by
      unfold LegacyStore.outboxMeta legacyStore
      simp only [absent missing,
        show oldValue OLD_EXECUTION decodeLegacyExecution d = some old from there]
    rw [same]
    exact ⟨rfl, rfl⟩
  -- neither is there
  · intro missing missing'
    have same : (legacyStore d).outboxMeta = {} := by
      unfold LegacyStore.outboxMeta legacyStore
      simp only [absent missing, absent missing']
    rw [same]
    exact ⟨rfl, rfl⟩

/-! ### The new records -/

/-- What the finished migration shows under the key of a record. -/
theorem stored_of_shown (decodes : Decodes d₀) (distinct : DistinctKeys d₀) {r : Write}
    (has : (legacyStore d₀).Has r)
    (shown : changes.Shows (transferred d₀ written) d₀ r.key (d r.key)) :
    ∃ t, d r.key = some (r.kind.codec.encode t r.record) := by
  have plan := planned_of_decodes decodes
  have other : r.key ≠ kMarkerKey := r.kind.key_ne_marker _
  have last : changes.last r.key (planned d₀).1 = some (.write r) := by
    rw [plan]
    apply Changes.last_of_mem (c := Change.write r)
    · rw [List.map_map]
      exact distinct
    · exact List.mem_map.mpr ⟨r, LegacyStore.mem_records.mpr has, rfl⟩
  obtain ⟨stamp, value⟩ := shown.of_last ((last_transferred other).trans last)
  exact ⟨stamp.1, value⟩

section Lawful

variable [LawfulJsonText]

/-- What a finished migration shows is what was preserved. -/
theorem preserved_of_shown (decodes : Decodes d₀) (distinct : DistinctKeys d₀) (fits : AllFit d₀)
    (shown : ∀ key, key ∉ oldKeys → changes.Shows (transferred d₀ written) d₀ key (d key))
    (olds : ∀ key ∈ oldKeys, d key = none) : Preserved d₀ d := by
  have loaded {r : Write} (has : (legacyStore d₀).Has r) :
      load r.kind (r.kind.idOf r.record) d = .ok (some r.record) := by
    have fresh : r.key ∉ oldKeys := fun old => Kind.key_ne_oldKey old _ _ rfl
    obtain ⟨t, stored⟩ := stored_of_shown decodes distinct has (shown r.key fresh)
    exact load_stored stored ⟨has.current, fits r (LegacyStore.mem_records.mpr has)⟩
  have shape {α : Type} {x : Except Thrown α} {f : α → Carried} :
      (x >>= fun a => pure (f a)) = x.map f :=
    bind_return x f
  constructor
  -- one part after the other: its value was decoded, and its records are loaded
  · exact ifPresent_of_read vehicleTaskPart (fun _ => shape) (decodes _ (by simp [firstParts]))
      fun old there => ⟨_, loaded (.vehicleTask there), old.keptIn_migrate⟩
  · exact ifPresent_of_read inventoryPart (fun _ => shape) (decodes _ (by simp [firstParts]))
      fun old there => ⟨_, loaded (.inventory there), old.keptIn_migrate⟩
  · exact ifPresent_of_read consentPart (fun _ => shape) (decodes _ (by simp [firstParts]))
      fun old there => ⟨_, loaded (.consent there), old.keptIn_migrate⟩
  · exact ifPresent_of_read downloadsPart (fun _ => shape) (decodes _ (by simp [firstParts]))
      fun old there e member =>
        ⟨_, loaded (.download (mem_entries.mpr ⟨old, there, member⟩)), e.keptIn_migrate⟩
  · exact ifPresent_of_read executionPart (fun _ => shape) (decodes _ (by simp [firstParts]))
      fun old there => ⟨_, loaded (.execution there), old.keptIn_migrate⟩
  · exact ifPresent_of_read eventOutboxPart (fun _ => shape) (decodes _ (by simp [firstParts]))
      fun old there e member =>
        ⟨_, loaded (.event (mem_entries.mpr ⟨old, there, member⟩)), e.keptIn_migrate⟩
  · exact ifPresent_of_read controlsPart (fun _ => shape) (decodes _ (by simp [lastParts]))
      fun old there e member =>
        ⟨_, loaded (.control (mem_entries.mpr ⟨old, there, member⟩)), e.keptIn_migrate⟩
  · exact ifPresent_of_read policyPart (fun _ => shape) (decodes _ (by simp [lastParts]))
      fun old there => ⟨_, loaded (.policy there), old.keptIn_migrate⟩
  · exact ifPresent_of_read logJobsPart (fun _ => shape) (decodes _ (by simp [lastParts]))
      fun old there e member =>
        ⟨_, loaded (.logJob (mem_entries.mpr ⟨old, there, member⟩)), e.keptIn_migrate⟩
  -- the watermarks are always written
  · exact ⟨_, loaded .outboxMeta, watermarks_outboxMeta decodes⟩
  -- any other key was there before, or is that of a record
  · intro key other present
    by_cases before : d₀ key = none
    · right
      have fresh : key ∉ oldKeys := fun old => present (olds key old)
      have value := shown key fresh
      cases last : changes.last key (transferred d₀ written) with
      | none => exact absurd ((value.frame last).trans before) present
      | some c =>
        rw [last_transferred other, planned_of_decodes decodes] at last
        dsimp only at last
        obtain ⟨earlier, later, whole, here, -⟩ := Changes.last_eq_some last
        have member : c ∈ (legacyStore d₀).records.map .write := by
          rw [whole]
          simp
        obtain ⟨r, has, rfl⟩ := List.mem_map.mp member
        exact ⟨r.kind, _, here, (LegacyStore.mem_records.mp has).entry⟩
    · exact .inl before

/-- A store whose records decode and fit is migrated to the end. -/
theorem script_completes (legacy : Legacy d₀) (decodes : Decodes d₀) (fits : AllFit d₀) :
    ∃ r, (script d₀).2 = .ok r := by
  have way := course d₀
  generalize (script d₀).1 = cs, (script d₀).2 = result at way
  cases way with
  | nothing => exact ⟨_, rfl⟩
  -- a legacy store has no marker
  | unreadable _ marker => rw [legacy.markerOf] at marker; cases marker
  | cleaned => exact ⟨_, rfl⟩
  | stopped _ _ plan => rw [planned_of_decodes decodes] at plan; cases plan
  -- a record that decodes and fits can be read again
  | rejected _ _ _ again =>
    have reads := (rereads_iff decodes legacy.noRecord).mpr fun r has _ =>
      fits r (LegacyStore.mem_records.mpr has)
    rw [reads] at again
    cases again
  | migrated => exact ⟨_, rfl⟩

omit [LawfulJsonText] in
/-- A script that ends without an exception has completed. -/
theorem completed_of_script {r : FotaMigrationResult} (done : (script d).2 = .ok r) :
    r.completed = true := by
  have way := course d
  generalize (script d).1 = cs, (script d).2 = result at way done
  cases way with
  | nothing => cases done; rfl
  | unreadable => cases done
  | cleaned => cases done; rfl
  | stopped => cases done
  | rejected => cases done
  | migrated => cases done; rfl

/-- A legacy store whose records decode, fit and have distinct new keys is migrated to the end
where nothing disturbs the process; and a process that comes to its end leaves every record under
its new key, field by field, and nothing else. A store without an earlier key is left alone. -/
theorem migration_preserves_fields {d₀ : Disk} (legacy : Legacy d₀) (decodes : Decodes d₀)
    (distinct : DistinctKeys d₀) (fits : AllFit d₀) :
    (∀ e, e.Calm → ∃ r w, migrateOnce e d₀ = .done (.ok r) w) ∧
      ∀ e r w, e.Intact → migrateOnce e d₀ = .done (.ok r) w →
        r.completed = true ∧ if HasOld d₀ then Preserved d₀ w.disk else w.disk = d₀ := by
  constructor
  -- undisturbed, it comes to its end
  · intro e calm
    obtain ⟨r, possible⟩ := script_completes legacy decodes fits
    obtain ⟨w, done, -⟩ := migrateOnce_calm calm d₀
    exact ⟨r, w, by rw [done, possible]⟩
  -- whatever disturbed it, at its end everything is there
  · intro e r w intact done
    obtain ⟨possible, applied⟩ := migrateOnce_ok intact done
    refine ⟨completed_of_script possible, ?_⟩
    cases (Phase.start d₀).finish legacy possible applied with
    | idle absent same =>
      rw [if_neg absent]
      exact same
    | migrated there plan again shown olds =>
      rw [if_pos there]
      exact preserved_of_shown decodes distinct fits shown olds

end Lawful

end Fields

section Example

open Json.Compact
open Inventory (undisturbed calm_undisturbed)

theorem policyAndControls_decodes :
    @Decodes compactText (@storeOf compactText policyAndControls) := by
  have whole :
      (@planned compactText (@storeOf compactText policyAndControls)).2.toOption = some 3 := by
    decide +kernel
  cases plan : (@planned compactText (@storeOf compactText policyAndControls)).2 with
  | error x =>
    rw [plan] at whole
    cases whole
  | ok written => exact @decodes_of_planned compactText _ _ plan

/-- They are preserved. -/
theorem migration_preserves_policyAndControls :
    ∃ r w, @migrateOnce compactText (@undisturbed compactText)
        (@storeOf compactText policyAndControls) = .done (.ok r) w ∧
      @Preserved compactText (@storeOf compactText policyAndControls) w.disk := by
  have legacy : Legacy (@storeOf compactText policyAndControls) :=
    @legacy_storeOf compactText policyAndControls (by decide)
  have distinct : @DistinctKeys compactText (@storeOf compactText policyAndControls) := by
    unfold DistinctKeys
    decide +kernel
  have fits : @AllFit compactText (@storeOf compactText policyAndControls) := by
    unfold AllFit Write.Fits
    decide +kernel
  have calm := @calm_undisturbed compactText
  obtain ⟨finishes, preserves⟩ :=
    @migration_preserves_fields compactText lawful_compactText _ legacy
    policyAndControls_decodes distinct fits
  obtain ⟨r, w, done⟩ := finishes _ calm
  obtain ⟨-, preserved⟩ := preserves _ r w (@Surroundings.Calm.intact compactText _ calm) done
  have there : HasOld (@storeOf compactText policyAndControls) :=
    ⟨OLD_POLICY, by decide, by simp [storeOf, policyAndControls]⟩
  rw [if_pos there] at preserved
  exact ⟨r, w, done, preserved⟩

end Example

end CgwFota.Cloud
