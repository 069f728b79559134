import CgwFota.Orchestrator.World

/-!
# `FotaOrchestrator`

The phase actions in the order in which a task goes through them, `step`, `applyControl` and
`syncPolicy`, with the persistence helpers they share.

## Main definitions

* `persistVehicleTask`, `persistExecution`, `loadFromStore`: what is written and read again
* `doCheckTask`, `doConsent`, `doDownload`, `doPermit`, `doExecute`, `doFinalize`: the phases; a
  long one is split into named parts, each of which says where it stands in the source
* `step`, `applyControl`, `syncPolicy`: the entry points
-/
namespace CgwFota

structure StepOutcome where
  vehicleTaskState : VehicleTaskState := .none
  executionState : ExecutionState := .permitPersisted
  terminal : Bool := false
  action : String := ""
  error : String := ""
  transportFailed : Bool := false
  deriving DecidableEq, Repr

structure ControlOutcome where
  status : ControlAckStatus := .rejected
  reason : String := ""
  deriving DecidableEq, Repr

def makeCtx (idempotencyKey : String) : Orch CallContext := do
  let cfg ← config
  let m ← memory
  return {
    traceId := "trace-" ++ idempotencyKey
    requestId := "req-" ++ idempotencyKey
    idempotencyKey
    timeout := cfg.cloudCallTimeout
    deviceId := cfg.deviceId
    vin := cfg.vin
    vehicleTaskId := m.frozenTask.vehicleTaskId
    executionId := m.executionId }

/-! ### Persistence -/

/-- The record `persistVehicleTask` writes. -/
def vehicleTaskRecord (m : Memory) (action : String) (now : Int) : FotaVehicleTaskRecord :=
  { vehicleTaskId := m.frozenTask.vehicleTaskId
    taskRevision := m.frozenTask.taskRevision
    targetBaselineCode := m.frozenTask.targetBaselineCode
    vehicleTaskState := vehicleTaskStateToString m.vtState
    frozenAtMs := now
    taskSnapshotPbHex := protoBinaryToHex m.frozenTask
    localDispositionResult := action }

/-- Write the task with its state, under the name of the action. -/
def persistVehicleTask (action : String) : Orch Unit := do
  let now ← nowMs
  let m ← memory
  save (.vehicleTask (vehicleTaskRecord m action now))

/-- The execution record `persistExecution` writes. -/
def executionRecord (m : Memory) : FotaExecutionRecord :=
  { vehicleTaskId := m.frozenTask.vehicleTaskId
    executionId := m.executionId
    attemptNo := m.attemptNo
    permitId := m.permit.permitId.getD ""
    permitToken := m.permit.permitToken.getD ""
    controlRevision := m.permit.controlRevision.getD 0
    validUntilMs := m.permit.validUntilMs.getD 0
    executionState := executionStateToString m.exState
    installPlanVersion := m.permit.installPlanVersion.getD ""
    offlinePolicyPbHex := (m.permit.offlinePolicy.map protoBinaryToHex).getD default
    timeoutPolicyPbHex := (m.permit.timeoutPolicy.map protoBinaryToHex).getD default }

def persistExecution : Orch Unit := do
  let m ← memory
  save (.execution (executionRecord m))
  save (.eventOutboxMeta { nextSequenceNo := m.nextSeq, acceptedSequenceNo := m.acceptedSeq })

/-- The permit as far as the execution record keeps it. -/
def loadPermit (permit : InstallPermitResponse) (ex : FotaExecutionRecord) :
    InstallPermitResponse :=
  { permit with
    executionId := some ex.executionId
    attemptNo := some ex.attemptNo
    permitId := some ex.permitId
    permitToken := some ex.permitToken
    controlRevision := some ex.controlRevision
    validUntilMs := if ex.validUntilMs ≠ 0 then some ex.validUntilMs else permit.validUntilMs
    installPlanVersion :=
      if ex.installPlanVersion ≠ "" then some ex.installPlanVersion else permit.installPlanVersion
    offlinePolicy :=
      if ex.offlinePolicyPbHex.isEmpty then permit.offlinePolicy
      else some ex.offlinePolicyPbHex.message
    timeoutPolicy :=
      if ex.timeoutPolicyPbHex.isEmpty then permit.timeoutPolicy
      else some ex.timeoutPolicyPbHex.message }

/-- The execution record as it is read again. -/
def loadExecution (s : FotaCloudStateStore) (m : Memory) : Memory :=
  match s.execution with
  | none => m
  | some ex =>
    { m with
      exState := (executionStateFromString ex.executionState).getD m.exState
      executionId := ex.executionId
      attemptNo := ex.attemptNo
      permit := loadPermit m.permit ex }

/-- The watermarks as they are read again. -/
def loadOutbox (s : FotaCloudStateStore) (m : Memory) : Memory :=
  match s.eventOutboxMeta with
  | none => m
  | some outbox =>
    { m with nextSeq := outbox.nextSequenceNo, acceptedSeq := outbox.acceptedSequenceNo }

/-- `loadFromStore`. A task record without a snapshot sends the orchestrator back to detection
before the execution and the watermarks are looked at. -/
def loadFromStore (s : FotaCloudStateStore) (m : Memory) : Memory :=
  match s.vehicleTask with
  | none => loadOutbox s (loadExecution s m)
  | some vt =>
    if vt.taskSnapshotPbHex.isEmpty then
      { m with
        vtState := .none
        exState := .permitPersisted
        executionId := ""
        nextSeq := 1
        acceptedSeq := 0 }
    else
      loadOutbox s (loadExecution s
        { m with
          vtState := (vehicleTaskStateFromString vt.vehicleTaskState).getD .none
          frozenTask := vt.taskSnapshotPbHex.message })

/-! ### Task detection and consent -/

/-- The request of a check, with what is known of the inventory. -/
def taskCheckRequest (m : Memory) (inv : CollectedInventory) : TaskCheckRequest :=
  let known := m.frozenTask.vehicleTaskId ≠ ""
  { baselineCode := inv.baselineCode
    fotaMasterVersion := inv.fotaMasterVersion
    localVehicleTaskId := if known then some m.frozenTask.vehicleTaskId else none
    localTaskRevision := if known then some m.frozenTask.taskRevision else none
    localVehicleTaskStatus := if known then some (toProto m.vtState) else none
    inventoryMode := .full
    inventoryRevision := inv.inventoryRevision
    ecuListDigest := inv.ecuListDigest
    ecuList := inv.ecuList }

/-- Freeze the task snapshot and move on to consent, or straight to the download. -/
def freezeTask (task : VehicleTaskSnapshot) : Orch StepOutcome := do
  setMemory ({ · with frozenTask := task })
  setVtState .discovered
  persistVehicleTask "checkTask"
  setVtState (if task.consentRequired then .consentPending else .downloadPending)
  persistVehicleTask "consentRequired"
  let m ← memory
  return { action := "checkTask", vehicleTaskState := m.vtState }

/-- Remember that the full inventory is required. -/
def requireFull (inv : CollectedInventory) (req : TaskCheckRequest)
    (disposition : InventoryDisposition) : Orch StepOutcome := do
  let now ← nowMs
  save (.inventory
    { mode := "FULL"
      inventoryRevision := inv.inventoryRevision
      algorithm := inv.ecuListDigest.algorithm
      ecuListDigestHex := inv.ecuListDigest.valueHex
      baselineCode := inv.baselineCode
      fotaMasterVersion := inv.fotaMasterVersion
      collectedAtMs := now
      requestPbHex := protoBinaryToHex req
      fullRequired := true })
  return { action := "checkTask", error :=
    "inventory not accepted: " ++ inventoryDispositionName disposition }

def doCheckTask : Orch StepOutcome := do
  let inv : CollectedInventory ← call (.collectInventory .full)
  let m ← memory
  let req := taskCheckRequest m inv
  let ctx ← makeCtx ("checkTask-" ++ m.frozenTask.vehicleTaskId)
  let reply : CloudReply TaskCheckResponse ← call (.checkTask req ctx)
  match reply with
  | .error e => return { action := "checkTask", error := e.detail, transportFailed := true }
  | .ok resp =>
    if resp.inventoryDisposition ≠ .accepted then requireFull inv req resp.inventoryDisposition
    else
      match resp.task with
      | none => return { action := "checkTask", error := "task missing while inventory accepted" }
      | some task => freezeTask task

def consentTerms (task : VehicleTaskSnapshot) : ConsentTermsId :=
  { termsVersion := task.termsVersion.getD "v1"
    termsId := "T-1"
    termsDigestHex := repeat64 'a'
    algorithm := "sha-256" }

def consentRecord (task : VehicleTaskSnapshot) (resp : ConsentResponse) (now : Int) :
    FotaConsentRecord :=
  let terms := consentTerms task
  { vehicleTaskId := task.vehicleTaskId
    effectiveStatus := consentStatusName resp.effectiveConsentStatus
    receiptId := resp.consentReceiptId.getD ""
    receiptExpiresAtMs := resp.receiptExpiresAtMs.getD 0
    termsId := terms.termsId
    termsVersion := terms.termsVersion
    termsDigestHex := terms.termsDigestHex
    termsAlgorithm := terms.algorithm
    consentTimeMs := now
    channel := "vehicle" }

/-- The user is asked, and the answer reported and recorded. -/
def doConsent : Orch StepOutcome := do
  let m ← memory
  let terms := consentTerms m.frozenTask
  let choice : ConsentChoice ← call (.requestConsent m.frozenTask.vehicleTaskId terms)
  let now ← nowMs
  let report : ConsentReport :=
    { consentStatus := choice.userChoice
      termsVersion := terms.termsVersion
      termsId := terms.termsId
      termsDigest := { algorithm := terms.algorithm, valueHex := terms.termsDigestHex }
      consentTimeMs := now
      channel := "vehicle" }
  let ctx ← makeCtx ("consent-" ++ m.frozenTask.vehicleTaskId)
  let reply : CloudReply ConsentResponse ← call (.reportConsent report ctx)
  match reply with
  | .error e => return { action := "consent", error := e.detail, transportFailed := true }
  | .ok resp =>
    let now ← nowMs
    save (.consent (consentRecord m.frozenTask resp now))
    setVtState (if resp.effectiveConsentStatus = .accepted then .downloadPending else .ended)
    persistVehicleTask "consent"
    let m ← memory
    return { action := "consent", vehicleTaskState := m.vtState }

/-! ### Download and verification -/

/-- The record a package starts from when none is stored. -/
def newDownloadRecord (pkg : PackageSummary) : FotaDownloadRecord :=
  { packageId := pkg.packageId
    packageRevision := pkg.packageRevision
    offsetScope := "STORED_OBJECT"
    verifyStatus := "PENDING" }

def downloadGrantRequest (task : VehicleTaskSnapshot) (pkg : PackageSummary)
    (entry : FotaDownloadRecord) : DownloadGrantRequest :=
  let resume := entry.currentOffsetBytes > 0
  { packageId := pkg.packageId
    taskRevision := task.taskRevision
    packageRevision := entry.packageRevision
    currentEtag := if resume then some entry.etag else none
    currentOffsetBytes := if resume then some entry.currentOffsetBytes else none
    offsetScope :=
      if resume then some (if entry.offsetScope = "" then "STORED_OBJECT" else entry.offsetScope)
      else none
    networkType := "LTE" }

/-- The etag the grant replaces the stored one by, if it names a different object. -/
def newEtag (entry : FotaDownloadRecord) (grant : DownloadGrantResponse) : Bool :=
  match grant.etag with
  | none => false
  | some etag => etag ≠ "" && etag ≠ entry.etag

/-- RESET_OFFSET: a changed etag drops the offset and takes over the granted revision. -/
def applyGrant (entry : FotaDownloadRecord) (grant : DownloadGrantResponse) :
    FotaDownloadRecord :=
  if newEtag entry grant then
    { entry with
      currentOffsetBytes := 0
      etag := grant.etag.getD ""
      packageRevision :=
        if grant.packageRevision ≠ "" then grant.packageRevision else entry.packageRevision }
  else { entry with etag := grant.etag.getD entry.etag }

def stageReport (pkg : PackageSummary) (entry : FotaDownloadRecord) (report : StageResultReport)
    (now : Int) : StageResultReport :=
  { report with
    stageResultId :=
      if report.stageResultId = "" then
        "SR-" ++ pkg.packageId ++ "-" ++ toString entry.currentOffsetBytes
      else report.stageResultId
    verifiedPackageRevision :=
      if report.verifiedPackageRevision = "" then entry.packageRevision
      else report.verifiedPackageRevision
    verifiedAtMs := if report.verifiedAtMs = 0 then now else report.verifiedAtMs }

def markVerified (entry : FotaDownloadRecord) (report : StageResultReport) : FotaDownloadRecord :=
  { entry with
    verifyStatus := "SUCCEEDED"
    ready := true
    stageResultId := report.stageResultId
    stageResultDigestHex := report.stageResultDigest.valueHex }

def markFailed (entry : FotaDownloadRecord) : FotaDownloadRecord :=
  { entry with verifyStatus := "FAILED", ready := false }

/-- How the loop over the packages goes on after one of them: `stop` leaves `doDownload` with a
transport error, `next` tells whether `allReady` was cleared and the error to report. -/
inductive PackageResult where
  | stop (error : String)
  | next (cleared : Bool) (error : Option String)
  deriving DecidableEq, Repr

/-- The transport error paths of `doDownload`. -/
def abandonDownload (entry : FotaDownloadRecord) (e : FotaCloudException) :
    Orch PackageResult := do
  setVtState .downloading
  save (.download entry)
  return .stop e.detail

/-- The end of the loop body, after the stage result was reported or there was none. -/
def concludeDownload (entry : FotaDownloadRecord) (cleared : Bool) (outcome : DownloadOutcome) :
    Orch PackageResult := do
  if outcome.allStagesSucceeded then
    save (.download entry)
    return .next cleared none
  else
    save (.download (markFailed entry))
    return .next true (some
      (if outcome.errorDetail = "" then "download/verify failed" else outcome.errorDetail))

/-- The loop body from the moment the grant has arrived. -/
def verifyPackage (pkg : PackageSummary) (entry : FotaDownloadRecord)
    (grant : DownloadGrantResponse) : Orch PackageResult := do
  let entry := applyGrant entry grant
  let outcome : DownloadOutcome ← call (.downloadAndVerify pkg grant entry.currentOffsetBytes)
  let entry := { entry with currentOffsetBytes := outcome.finalOffsetBytes }
  if outcome.hasStageResult then
    let now ← nowMs
    let report := stageReport pkg entry outcome.stageResult now
    let ctx ← makeCtx ("sr-" ++ pkg.packageId)
    let reply : CloudReply StageResultResponse ← call (.reportStageResult report ctx)
    match reply with
    | .error e => abandonDownload entry e
    | .ok resp =>
      if resp.accepted && outcome.allStagesSucceeded then
        concludeDownload (markVerified entry report) false outcome
      else concludeDownload (markFailed entry) true outcome
  else concludeDownload entry false outcome

def downloadPackage (pkg : PackageSummary) : Orch PackageResult := do
  let s ← store
  let entry := (s.loadDownload pkg.packageId).getD (newDownloadRecord pkg)
  if entry.ready then
    note (.skipped pkg entry)
    return .next false none
  else
    let m ← memory
    let req := downloadGrantRequest m.frozenTask pkg entry
    let ctx ← makeCtx ("dl-" ++ pkg.packageId)
    let reply : CloudReply DownloadGrantResponse ← call (.requestDownload req ctx)
    match reply with
    | .error e => abandonDownload entry e
    | .ok grant => verifyPackage pkg entry grant

/-- The loop of `doDownload`, with its local `allReady` and the error text so far. -/
def downloadPackages : List PackageSummary → Bool → String → Orch (Except String (Bool × String))
  | [], allReady, error => return .ok (allReady, error)
  | pkg :: rest, allReady, error => do
    let r ← downloadPackage pkg
    match r with
    | .stop e => return .error e
    | .next cleared e => downloadPackages rest (allReady && !cleared) (e.getD error)

/-- The packages one after the other; the task is ready if all of them are. -/
def doDownload : Orch StepOutcome := do
  let m ← memory
  let r ← downloadPackages m.frozenTask.packageList true ""
  match r with
  | .error e => return { action := "download", error := e, transportFailed := true }
  | .ok (allReady, error) =>
    setVtState (if allReady then .ready else .downloading)
    persistVehicleTask "download"
    let m ← memory
    return { action := "download", error, vehicleTaskState := m.vtState }

/-! ### Install permit -/

def installPermitRequest (task : VehicleTaskSnapshot) (consent : Option FotaConsentRecord)
    (ev : ConditionEvaluation) : InstallPermitRequest :=
  { taskRevision := task.taskRevision
    installPlanVersion := task.installPlanVersion
    packageManifestDigest := { algorithm := "sha-256", valueHex := repeat64 'm' }
    consentReceiptId := some (consent.getD {}).receiptId
    localReadinessDigest := { algorithm := "sha-256", valueHex := ev.localReadinessDigest }
    localGuardPassed := ev.allGuardsPassed
    failedConditions := ev.failedConditions
    conditionSetVersion := ev.conditionSetVersion
    conditionSnapshot := ev.snapshot }

/-- The memory with the permit that was granted. -/
def takePermit (resp : InstallPermitResponse) (m : Memory) : Memory :=
  { m with
    permit := resp
    executionId := resp.executionId.getD ""
    attemptNo := resp.attemptNo.getD 0 }

def permitExpired (resp : InstallPermitResponse) (now : Int) : Bool :=
  match resp.validUntilMs with
  | none => false
  | some validUntil => now ≥ validUntil

/-- The part of `doPermit` after an `allowed` reply: persist, then recheck. -/
def acceptPermit (resp : InstallPermitResponse) : Orch StepOutcome := do
  setMemory (takePermit resp)
  setExState .permitPersisted
  setVtState .executing
  persistVehicleTask "permit"
  persistExecution
  let now ← nowMs
  if permitExpired resp now then
    return { action := "permit", error := "pre-install recheck failed (validUntil)" }
  else
    let guards : Bool ← call .allGuardsPassed
    if !guards then
      return { action := "permit", error := "pre-install recheck failed (guards)" }
    else
      let m ← memory
      return { action := "permit", vehicleTaskState := m.vtState, executionState := m.exState }

/-- The part of `doPermit` that asks for a permit. -/
def requestPermit : Orch StepOutcome := do
  let ev : ConditionEvaluation ← call .evaluateConditions
  let m ← memory
  let s ← store
  let req := installPermitRequest m.frozenTask s.consent ev
  let ctx ← makeCtx ("permit-" ++ m.frozenTask.vehicleTaskId)
  let reply : CloudReply InstallPermitResponse ← call (.requestInstall req ctx)
  match reply with
  | .error e => return { action := "permit", error := e.detail, transportFailed := true }
  | .ok resp =>
    if !resp.allowed then
      return { action := "permit", error := "install denied: " ++ resp.denyReason.getD "no reason" }
    else acceptPermit resp

def doPermit : Orch StepOutcome := do
  let m ← memory
  if m.vtState = .ready then
    setVtState .waitingWindow
    persistVehicleTask "waitingWindow"
    let m ← memory
    return { action := "waitingWindow", vehicleTaskState := m.vtState }
  else
    let t ← nowMs
    if t < m.frozenTask.startTimeMs ∨ t ≥ m.frozenTask.endTimeMs then
      return { action := "permit", error := "install window not open" }
    else
      let guards : Bool ← call .allGuardsPassed
      if !guards then return { action := "permit", error := "local guards not passed" }
      else requestPermit

/-! ### Final result and logs -/

/-- `doLogUpload`; its outcome is ignored by the caller. -/
def doLogUpload : Orch Unit := do
  let now ← nowMs
  let logId := "LOG-" ++ toString now
  let now ← nowMs
  let req : LogGrantRequest :=
    { logRequestId := some logId
      collectionScope := ["cgw-fota"]
      logTimeRange := { startAtMs := 0, endAtMs := now }
      redactionProfileVersion := "v1"
      logType := "fota"
      fileName := "fota-" ++ logId ++ ".log"
      mimeType := "text/plain"
      privacyLevel := "pii-masked" }
  let m ← memory
  let ctx ← makeCtx ("log-" ++ m.frozenTask.vehicleTaskId)
  let reply : CloudReply LogGrantResponse ← call (.requestLogUpload req ctx)
  match reply with
  | .error _ => return ()
  | .ok grant =>
    let pkg : LogPackage ← call (.collectLog
      { collectionScope := req.collectionScope
        timeRange := req.logTimeRange
        redactionProfileVersion := req.redactionProfileVersion
        logType := req.logType })
    if !pkg.generated then return ()
    else
      let algorithm := if pkg.algorithm = "" then "sha-256" else pkg.algorithm
      let now ← nowMs
      let ctx ← makeCtx ("logres-" ++ logId)
      let reply : CloudReply Unit ← call (.reportLogUpload
        { objectKey := grant.objectKey
          uploadResult := .succeeded
          actualFileDigest := some { algorithm, valueHex := pkg.digestHex }
          uploadedAtMs := some now } ctx)
      match reply with
      | .error _ => return ()
      | .ok _ =>
        let now ← nowMs
        save (.logJob
          { logRequestId := logId
            objectKey := grant.objectKey
            digestHex := pkg.digestHex
            algorithm
            sizeBytes := pkg.sizeBytes
            status := "UPLOADED"
            completedAtMs := now })

/-- The report of a finished execution, out of the memory and the executor's data. -/
def finalResultReport (m : Memory) (data : FinalResultData) (now : Int) : FinalResultReport :=
  { finalSequenceNo := m.acceptedSeq
    lastReceivedControlRevision := m.lastReceivedControlRev
    lastAppliedControlRevision := m.lastAppliedControlRev
    pendingControlIds := m.pendingControlIds
    resultDigest := { algorithm := "sha-256", valueHex := repeat64 'f' }
    result := if m.exState = .rollback then .rolledBack else .succeeded
    actualBaselineCode := some data.actualBaselineCode
    baselineStatus := data.baselineStatus
    ecuResults := data.ecuResults
    startedAtMs := 0
    completedAtMs := now
    rollbackOccurred := data.rollbackOccurred }

def closedExecutionState (report : FinalResultReport) (resp : FinalResultResponse) :
    ExecutionState :=
  if resp.vehicleTaskStatus = .retryPending then .failed
  else if report.result = .rolledBack then .rolledBack
  else .succeeded

/-- Take over the status the cloud gave; one without a counterpart completes the task. -/
def adoptStatus (status : VehicleTaskStatus) : Orch Unit := do
  setVtState (fromProtoVehicleTask status)
  let m ← memory
  if m.vtState = .none then setVtState .completed
  else return ()

/-- The part of `doFinalize` after the cloud accepted the result. -/
def closeExecution (report : FinalResultReport) (resp : FinalResultResponse) :
    Orch StepOutcome := do
  doLogUpload
  setExState (closedExecutionState report resp)
  adoptStatus resp.vehicleTaskStatus
  persistVehicleTask "finalResult"
  persistExecution
  let m ← memory
  return {
    action := "finalResult"
    vehicleTaskState := m.vtState
    executionState := m.exState
    terminal := isTerminalVehicleTaskState m.vtState }

def doFinalize : Orch StepOutcome := do
  let data : FinalResultData ← call .readFinalResult
  let m ← memory
  let now ← nowMs
  let report := finalResultReport m data now
  let ctx ← makeCtx ("final-" ++ m.executionId)
  let reply : CloudReply FinalResultResponse ← call (.reportFinalResult report ctx)
  match reply with
  | .error e => return { action := "finalResult", error := e.detail, transportFailed := true }
  | .ok resp =>
    if !resp.resultAccepted then
      return { action := "finalResult", error := "final result not accepted" }
    else closeExecution report resp

/-! ### Execution -/

/-- The locals of the send loop that outlive one event. -/
structure SendState where
  sendError : Bool := false
  error : String := ""
  transportFailed : Bool := false
  deriving DecidableEq, Repr

/-- One turn of the send loop, for an event that is stored, not acknowledged and has a payload. -/
def reportStoredEvent (e : FotaEventOutboxRecord) (st : SendState) : Orch SendState := do
  let ctx ← makeCtx ("evt-" ++ toString e.sequenceNo)
  let reply : CloudReply EventResponse ←
    call (.reportEvent { e.eventPbHex.message with sequenceNo := e.sequenceNo } ctx)
  match reply with
  | .error ex =>
    save (.event e)
    return { sendError := true, error := ex.detail, transportFailed := true }
  | .ok resp =>
    if resp.eventDisposition = .accepted then
      setMemory fun m => { m with acceptedSeq := max m.acceptedSeq e.sequenceNo }
      save (.event { e with sendStatus := "ACKED" })
      return st
    else
      save (.event e)
      return { st with sendError := true }

def sendEvent (seq : Nat) (st : SendState) : Orch SendState := do
  let s ← store
  match s.loadEvent seq with
  | none => return st
  | some e =>
    if e.sendStatus = "ACKED" then return st
    else if e.eventPbHex.isEmpty then
      save (.event { e with sendStatus := "SENT" })
      return st
    else reportStoredEvent e st

def sendEvents : List Nat → SendState → Orch SendState
  | [], st => return st
  | seq :: rest, st => do
    let st ← sendEvent seq st
    sendEvents rest st

/-- Write back the watermark if it rose above the one of the metadata read before sending. -/
def raiseAccepted (outbox : FotaEventOutboxMeta) (acceptedSeq : Nat) : Orch Unit :=
  if outbox.acceptedSequenceNo < acceptedSeq then
    save (.eventOutboxMeta { outbox with acceptedSequenceNo := acceptedSeq })
  else return ()

/-- The part of `doExecute` after the installation has been started. -/
def flushOutbox : Orch StepOutcome := do
  let s ← store
  let outbox := s.outboxMeta
  let st ← sendEvents (List.range' 1 (outbox.nextSequenceNo - 1)) {}
  let m ← memory
  raiseAccepted outbox m.acceptedSeq
  persistExecution
  if st.sendError then
    return {
      action := "execute"
      error := st.error
      transportFailed := st.transportFailed
      vehicleTaskState := m.vtState
      executionState := m.exState }
  else doFinalize

/-- The part of `doExecute` after the executor has started. -/
def recordStart : Orch StepOutcome := do
  setExState .installStarted
  persistExecution
  flushOutbox

/-- Prepare and start, or go on; then send the outbox and finish. -/
def doExecute : Orch StepOutcome := do
  let m ← memory
  if m.exState = .permitPersisted ∨ m.exState = .ready then
    let prep : PrepareResult ← call (.prepare m.frozenTask)
    if !prep.ready then
      return { action := "execute", error := "executor prepare failed: " ++ prep.reason }
    else
      let m ← memory
      let st : StartResult ← call (.start m.permit)
      if !st.started then
        return { action := "execute", error := "executor start failed: " ++ st.reason }
      else recordStart
  else flushOutbox

/-! ### Entry points -/

/-- One step of the task, by the state it is in. -/
def step : Orch StepOutcome := do
  let m ← memory
  if isTerminalVehicleTaskState m.vtState then
    return {
      vehicleTaskState := m.vtState
      executionState := m.exState
      terminal := true
      action := "terminal" }
  else
    match m.vtState with
    | .none | .discovered => doCheckTask
    | .consentPending => doConsent
    | .downloadPending | .downloading => doDownload
    | .ready | .waitingWindow | .permitPending => doPermit
    | .executing => doExecute
    | .retryPending =>
      setVtState .permitPending
      doPermit
    | .rollbackPending =>
      setExState .rollback
      setVtState .executing
      doExecute
    | .paused | .completed | .ended =>
      return { vehicleTaskState := m.vtState, executionState := m.exState, action := "noop" }

def controlRecord (cmd : ControlCommand) : FotaControlRecord :=
  { controlId := cmd.controlId
    controlRevision := cmd.controlRevision
    action := controlActionName cmd.action
    scope := controlScopeName cmd.scope
    applyMode := applyModeName cmd.applyMode
    issuedAtMs := cmd.issuedAtMs
    expiresAtMs := cmd.expiresAtMs
    reason := cmd.reasonCode.getD "" }

/-- The part of `applyControl` after the executor applied the command. -/
def acknowledgeApplied (cmd : ControlCommand) (app : ControlApplyOutcome) : Orch Unit := do
  let m ← memory
  let ackSequenceNo := m.ackSeq
  setMemory ({ · with ackSeq := ackSequenceNo + 1 })
  let now ← nowMs
  save (.control
    { controlRecord cmd with
      ackStatus := controlAckStatusName app.status
      ackSequenceNo
      appliedAtMs := now })
  setMemory fun m =>
    { m with
      lastAppliedControlRev := cmd.controlRevision
      pendingControlIds := m.pendingControlIds.filter (· ≠ cmd.controlId) }
  let now ← nowMs
  let ctx ← makeCtx ("ctrlack-" ++ toString cmd.controlRevision)
  let _reply : CloudReply ControlAckResponse ← call (.acknowledgeControl
    { ack :=
        { controlAckId := "CA-" ++ toString cmd.controlRevision
          ackSequenceNo
          controlId := cmd.controlId
          controlRevision := cmd.controlRevision
          status := app.status
          processedAtMs := now
          reasonCode := if app.reason = "" then none else some app.reason } } ctx)
  return ()

/-- A control is applied once; its record is written first. -/
def applyControl (cmd : ControlCommand) : Orch ControlOutcome := do
  let s ← store
  if (s.loadControl cmd.controlRevision).isSome then
    return { status := .received, reason := "duplicate controlRevision" }
  else
    save (.control (controlRecord cmd))
    setMemory fun m =>
      { m with
        lastReceivedControlRev := cmd.controlRevision
        pendingControlIds := m.pendingControlIds ++ [cmd.controlId] }
    let app : ControlApplyOutcome ← call (.apply cmd)
    if app.status = .applied then
      acknowledgeApplied cmd app
      return { status := app.status, reason := app.reason }
    else return { status := app.status, reason := app.reason }

def syncPolicy : Orch Bool := do
  let s ← store
  let cur := s.policy.getD {}
  let now ← nowMs
  let ctx ← makeCtx "policy-sync"
  let reply : CloudReply PolicyResponse ← call (.syncPolicy
    { localPolicyVersion := cur.preferenceVersion
      basePreferenceVersion :=
        if cur.basePreferenceVersion = "" then none else some cur.basePreferenceVersion
      updatedAtMs := some now } ctx)
  match reply with
  | .error _ => return false
  | .ok resp =>
    let conflict := !(resp.preferenceAccepted.getD false)
    save (.policy
      { localPolicyVersion := resp.policyVersion
        basePreferenceVersion := cur.preferenceVersion
        preferenceVersion := resp.policyVersion
        effectivePolicyPbHex := protoBinaryToHex resp.effectivePolicy
        conflict
        effectiveAtMs := resp.effectiveAtMs })
    return !conflict

end CgwFota
