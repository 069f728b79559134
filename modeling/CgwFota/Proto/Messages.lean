import CgwFota.State.TaskState

/-!
# Messages of `vehicle.fota.v1`

The messages the orchestrator sends, receives and stores, with every field that one of these three
uses. A field with explicit presence is an `Option`; a field that was never set has its default
value, which is what the generated accessor returns.

## Main definitions

* The enumerations of the contract, each open: a number this build has no name for is kept as
  `unrecognized`.
* The requests, responses and reports of task detection, consent, download, installation, logs and
  policy.
* `PbHex`: the hex text under which a whole message lies in a durable record.

## Proof strategy

Messages are plain structures with decidable equality, so that "the same request once more" is an
equation. Their bytes are never looked at, and `PbHex` says what is taken of the serialisation.
-/
namespace CgwFota

/-! ### Enumerations -/

/-- Whether a task check carries the whole inventory or only its digest. -/
inductive InventoryMode where
  | unspecified | full | digest | unrecognized (value : Int)
  deriving DecidableEq, Repr, Inhabited

inductive InventoryDisposition where
  | unspecified | accepted | fullRequired | revisionConflict | digestMismatch
  | algorithmUnsupported | unrecognized (value : Int)
  deriving DecidableEq, Repr, Inhabited

inductive ConsentStatus where
  | unspecified | none | accepted | rejected | revoked | unrecognized (value : Int)
  deriving DecidableEq, Repr, Inhabited

inductive Result where
  | unspecified | succeeded | failed | partialResult | rolledBack | canceled
  | unrecognized (value : Int)
  deriving DecidableEq, Repr, Inhabited

inductive EventDisposition where
  | unspecified | accepted | duplicate | buffered | rejected | conflict
  | unrecognized (value : Int)
  deriving DecidableEq, Repr, Inhabited

inductive ControlAction where
  | unspecified | none | continue | pause | abort | rollback | resync | unrecognized (value : Int)
  deriving DecidableEq, Repr, Inhabited

inductive ControlScope where
  | unspecified | execution | planNode | ecuJob | unrecognized (value : Int)
  deriving DecidableEq, Repr, Inhabited

inductive ApplyMode where
  | unspecified | immediateIfSafe | atSafePoint | beforeNextNode | afterCurrentAtomicStep
  | unrecognized (value : Int)
  deriving DecidableEq, Repr, Inhabited

inductive ControlAckStatus where
  | unspecified | received | applied | rejected | deferred | unrecognized (value : Int)
  deriving DecidableEq, Repr, Inhabited

/-! A value without a name prints as the empty string. -/

/-- The generated `InventoryDisposition_Name`, and likewise below. -/
def inventoryDispositionName : InventoryDisposition → String
  | .unspecified => "INVENTORY_DISPOSITION_UNSPECIFIED"
  | .accepted => "INVENTORY_DISPOSITION_ACCEPTED"
  | .fullRequired => "INVENTORY_DISPOSITION_FULL_REQUIRED"
  | .revisionConflict => "INVENTORY_DISPOSITION_REVISION_CONFLICT"
  | .digestMismatch => "INVENTORY_DISPOSITION_DIGEST_MISMATCH"
  | .algorithmUnsupported => "INVENTORY_DISPOSITION_ALGORITHM_UNSUPPORTED"
  | .unrecognized _ => ""

def consentStatusName : ConsentStatus → String
  | .unspecified => "CONSENT_STATUS_UNSPECIFIED"
  | .none => "CONSENT_STATUS_NONE"
  | .accepted => "CONSENT_STATUS_ACCEPTED"
  | .rejected => "CONSENT_STATUS_REJECTED"
  | .revoked => "CONSENT_STATUS_REVOKED"
  | .unrecognized _ => ""

def controlActionName : ControlAction → String
  | .unspecified => "CONTROL_ACTION_UNSPECIFIED"
  | .none => "CONTROL_ACTION_NONE"
  | .continue => "CONTROL_ACTION_CONTINUE"
  | .pause => "CONTROL_ACTION_PAUSE"
  | .abort => "CONTROL_ACTION_ABORT"
  | .rollback => "CONTROL_ACTION_ROLLBACK"
  | .resync => "CONTROL_ACTION_RESYNC"
  | .unrecognized _ => ""

def controlScopeName : ControlScope → String
  | .unspecified => "CONTROL_SCOPE_UNSPECIFIED"
  | .execution => "CONTROL_SCOPE_EXECUTION"
  | .planNode => "CONTROL_SCOPE_PLAN_NODE"
  | .ecuJob => "CONTROL_SCOPE_ECU_JOB"
  | .unrecognized _ => ""

def applyModeName : ApplyMode → String
  | .unspecified => "APPLY_MODE_UNSPECIFIED"
  | .immediateIfSafe => "APPLY_MODE_IMMEDIATE_IF_SAFE"
  | .atSafePoint => "APPLY_MODE_AT_SAFE_POINT"
  | .beforeNextNode => "APPLY_MODE_BEFORE_NEXT_NODE"
  | .afterCurrentAtomicStep => "APPLY_MODE_AFTER_CURRENT_ATOMIC_STEP"
  | .unrecognized _ => ""

def controlAckStatusName : ControlAckStatus → String
  | .unspecified => "CONTROL_ACK_STATUS_UNSPECIFIED"
  | .received => "CONTROL_ACK_STATUS_RECEIVED"
  | .applied => "CONTROL_ACK_STATUS_APPLIED"
  | .rejected => "CONTROL_ACK_STATUS_REJECTED"
  | .deferred => "CONTROL_ACK_STATUS_DEFERRED"
  | .unrecognized _ => ""

/-! ### Shared messages -/

structure Digest where
  algorithm : String := ""
  valueHex : String := ""
  deriving DecidableEq, Repr, Inhabited

structure EcuVersion where
  ecuId : String := ""
  hardwarePartNumber : String := ""
  softwarePartNumber : String := ""
  hwVersion : String := ""
  swVersion : String := ""
  deriving DecidableEq, Repr, Inhabited

structure PackageSummary where
  packageId : String := ""
  packageRevision : String := ""
  sizeBytes : Nat := 0
  deriving DecidableEq, Repr, Inhabited

structure ConditionSnapshot where
  collectedAtMs : Int := 0
  tractionBatterySoc : Nat := 0
  ignitionState : String := ""
  gear : String := ""
  networkType : String := ""
  availableStorageBytes : Nat := 0
  deriving DecidableEq, Repr, Inhabited

structure OfflinePolicy where
  allowed : Bool := false
  maxOfflineDurationSec : Nat := 0
  heartbeatTimeoutSec : Nat := 0
  requireOnlineBeforeIrreversibleStage : Bool := false
  onDisconnectAction : String := ""
  reconnectReportDeadlineSec : Nat := 0
  deriving DecidableEq, Repr, Inhabited

structure TimeoutPolicy where
  maxExecutionDurationSec : Nat := 0
  executionDeadlineMs : Option Int := none
  timeoutAction : String := ""
  deriving DecidableEq, Repr, Inhabited

structure ControlAck where
  controlAckId : String := ""
  ackSequenceNo : Nat := 0
  controlId : String := ""
  controlRevision : Nat := 0
  status : ControlAckStatus := .unspecified
  processedAtMs : Int := 0
  reasonCode : Option String := none
  deriving DecidableEq, Repr, Inhabited

structure ControlCommand where
  controlId : String := ""
  controlRevision : Nat := 0
  action : ControlAction := .unspecified
  scope : ControlScope := .unspecified
  targetIds : List String := []
  applyMode : ApplyMode := .unspecified
  applyDeadlineMs : Option Int := none
  reasonCode : Option String := none
  issuedAtMs : Int := 0
  expiresAtMs : Int := 0
  deriving DecidableEq, Repr, Inhabited

/-! ### Task detection -/

structure TaskCheckRequest where
  baselineCode : String := ""
  fotaMasterVersion : String := ""
  localVehicleTaskId : Option String := none
  localTaskRevision : Option Nat := none
  localVehicleTaskStatus : Option VehicleTaskStatus := none
  inventoryMode : InventoryMode := .unspecified
  inventoryRevision : Nat := 0
  ecuListDigest : Digest := {}
  ecuList : List EcuVersion := []
  deriving DecidableEq, Repr, Inhabited

structure VehicleTaskSnapshot where
  activityId : String := ""
  vehicleTaskId : String := ""
  taskRevision : Nat := 0
  targetBaselineCode : String := ""
  releaseAtMs : Int := 0
  startTimeMs : Int := 0
  endTimeMs : Int := 0
  consentRequired : Bool := false
  termsVersion : Option String := none
  strategy : List UInt8 := []
  packageList : List PackageSummary := []
  installPlanVersion : String := ""
  deriving DecidableEq, Repr, Inhabited

structure TaskCheckResponse where
  inventoryDisposition : InventoryDisposition := .unspecified
  task : Option VehicleTaskSnapshot := none
  deriving DecidableEq, Repr, Inhabited

/-! ### Consent -/

structure ConsentReport where
  consentStatus : ConsentStatus := .unspecified
  termsVersion : String := ""
  termsId : String := ""
  termsDigest : Digest := {}
  consentTimeMs : Int := 0
  channel : String := ""
  deriving DecidableEq, Repr, Inhabited

structure ConsentResponse where
  accepted : Bool := false
  effectiveConsentStatus : ConsentStatus := .unspecified
  consentReceiptId : Option String := none
  receiptExpiresAtMs : Option Int := none
  deriving DecidableEq, Repr, Inhabited

/-! ### Download -/

structure DownloadGrantRequest where
  packageId : String := ""
  taskRevision : Nat := 0
  packageRevision : String := ""
  currentEtag : Option String := none
  currentOffsetBytes : Option Nat := none
  offsetScope : Option String := none
  networkType : String := ""
  deriving DecidableEq, Repr, Inhabited

structure DownloadGrantResponse where
  packageRevision : String := ""
  downloadUrl : Option String := none
  etag : Option String := none
  deriving DecidableEq, Repr, Inhabited

structure StageResultReport where
  packageId : String := ""
  stageResultId : String := ""
  stageResultDigest : Digest := {}
  verifiedAtMs : Int := 0
  verifiedPackageRevision : String := ""
  result : Result := .unspecified
  downloadedBytes : Nat := 0
  hashVerified : Bool := false
  signatureVerified : Bool := false
  decryptionSucceeded : Option Bool := none
  errorCode : Option String := none
  deriving DecidableEq, Repr, Inhabited

structure StageResultResponse where
  accepted : Bool := false
  deriving DecidableEq, Repr, Inhabited

/-! ### Installation -/

structure InstallPermitRequest where
  taskRevision : Nat := 0
  installPlanVersion : String := ""
  packageManifestDigest : Digest := {}
  consentReceiptId : Option String := none
  localReadinessDigest : Digest := {}
  localGuardPassed : Bool := false
  failedConditions : List String := []
  conditionSetVersion : String := ""
  conditionSnapshot : ConditionSnapshot := {}
  deriving DecidableEq, Repr, Inhabited

structure InstallPermitResponse where
  allowed : Bool := false
  denyReason : Option String := none
  executionId : Option String := none
  attemptNo : Option Nat := none
  permitId : Option String := none
  permitToken : Option String := none
  controlRevision : Option Nat := none
  validUntilMs : Option Int := none
  installPlanVersion : Option String := none
  offlinePolicy : Option OfflinePolicy := none
  timeoutPolicy : Option TimeoutPolicy := none
  deriving DecidableEq, Repr, Inhabited

structure ExecutionEvent where
  eventId : String := ""
  eventDigest : Option Digest := none
  controlAck : Option ControlAck := none
  attemptNo : Nat := 0
  sequenceNo : Nat := 0
  planNodeId : Option String := none
  ecuJobId : Option String := none
  packageId : Option String := none
  componentId : Option String := none
  nodeAttemptNo : Option Nat := none
  occurredAtMs : Int := 0
  stage : String := ""
  eventStatus : String := ""
  progress : Option Nat := none
  progressScope : Option String := none
  ecuId : Option String := none
  currentVersion : Option String := none
  targetVersion : Option String := none
  errorCode : Option String := none
  errorDetail : Option String := none
  deriving DecidableEq, Repr, Inhabited

structure EventResponse where
  eventDisposition : EventDisposition := .unspecified
  deriving DecidableEq, Repr, Inhabited

structure ControlAckReport where
  ack : ControlAck := {}
  deriving DecidableEq, Repr, Inhabited

structure ControlAckResponse where
  accepted : Bool := false
  deriving DecidableEq, Repr, Inhabited

structure EcuResult where
  ecuId : String := ""
  sourceVersion : String := ""
  targetVersion : String := ""
  planNodeId : String := ""
  packageId : String := ""
  actualVersion : Option String := none
  versionReadStatus : String := ""
  result : Result := .unspecified
  failureStage : Option String := none
  rollbackResult : Option Result := none
  deriving DecidableEq, Repr, Inhabited

structure FinalResultReport where
  finalSequenceNo : Nat := 0
  lastReceivedControlRevision : Nat := 0
  lastAppliedControlRevision : Nat := 0
  pendingControlIds : List String := []
  resultDigest : Digest := {}
  result : Result := .unspecified
  actualBaselineCode : Option String := none
  baselineStatus : String := ""
  ecuResults : List EcuResult := []
  startedAtMs : Int := 0
  completedAtMs : Int := 0
  rollbackOccurred : Bool := false
  deriving DecidableEq, Repr, Inhabited

structure FinalResultResponse where
  resultAccepted : Bool := false
  vehicleTaskStatus : VehicleTaskStatus := .unspecified
  deriving DecidableEq, Repr, Inhabited

/-! ### Logs and policy -/

structure LogTimeRange where
  startAtMs : Int := 0
  endAtMs : Int := 0
  deriving DecidableEq, Repr, Inhabited

structure LogGrantRequest where
  logRequestId : Option String := none
  collectionScope : List String := []
  logTimeRange : LogTimeRange := {}
  redactionProfileVersion : String := ""
  logType : String := ""
  fileName : String := ""
  mimeType : String := ""
  privacyLevel : String := ""
  deriving DecidableEq, Repr, Inhabited

structure LogGrantResponse where
  objectKey : String := ""
  deriving DecidableEq, Repr, Inhabited

structure LogUploadResult where
  objectKey : String := ""
  uploadResult : Result := .unspecified
  actualFileDigest : Option Digest := none
  uploadedAtMs : Option Int := none
  deriving DecidableEq, Repr, Inhabited

structure EffectivePolicy where
  autoDownload : Bool := false
  allowedNetworkTypes : List String := []
  installMode : String := ""
  maxRetryAttempts : Nat := 0
  deriving DecidableEq, Repr, Inhabited

structure PolicyRequest where
  localPolicyVersion : String := ""
  basePreferenceVersion : Option String := none
  updatedAtMs : Option Int := none
  deriving DecidableEq, Repr, Inhabited

structure PolicyResponse where
  effectivePolicy : EffectivePolicy := {}
  policyVersion : String := ""
  effectiveAtMs : Int := 0
  preferenceAccepted : Option Bool := none
  deriving DecidableEq, Repr, Inhabited

/-! ### Serialised messages -/

/-- Hex text of a serialised message, represented by the message it encodes. Serialisation and
the hex codec are taken to lose nothing, and the text is empty exactly for the message whose
fields all have their default. -/
structure PbHex (α : Type) where
  message : α
  deriving DecidableEq, Repr, Inhabited

def protoBinaryToHex {α : Type} (m : α) : PbHex α := ⟨m⟩

def PbHex.isEmpty {α : Type} [DecidableEq α] [Inhabited α] (h : PbHex α) : Bool :=
  h.message = default

end CgwFota
