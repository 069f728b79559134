import Mathlib.Algebra.Group.Nat.Defs
import CgwFota.Crash.Program
import CgwFota.Crash.Trace
import CgwFota.Store.Records

/-!
# What the orchestrator can see and do

The orchestrator talks to the cloud and to the ports of the vehicle by calls, and to its store by
saves. The environment decides every reply, every clock reading, which events are emitted into the
orchestrator while a call is pending, and where the process crashes.

## Main definitions

* `Call`, `Call.Reply`: every call with its arguments, and what it returns
* `Environment`: what the surroundings of a process do
* `Memory`: the data members of the orchestrator
* `World`, `Entry`: the process with its store, and the trace of what happened
* `Orch`: the actions; `effect`, `call` and `emit` are the ones that can be seen from outside
-/
namespace CgwFota

open Crash

structure FotaOrchestratorConfig where
  deviceId : String := "dev-mock"
  vin : String := "MOCKVIN0000000001"
  cloudCallTimeout : Nat := 10000
  eventOutboxMax : UInt32 := 4096
  deriving DecidableEq, Repr, Inhabited

/-- The identity of a call. -/
structure CallContext where
  traceId : String := ""
  requestId : String := ""
  idempotencyKey : String := ""
  timeout : Nat := 10000
  deviceId : String := ""
  vin : String := ""
  vehicleTaskId : String := ""
  executionId : String := ""
  deriving DecidableEq, Repr, Inhabited

/-! ### Ports -/

/-- A transport or framework failure, as thrown by the cloud proxy. -/
structure FotaCloudException where
  detail : String
  deriving DecidableEq, Repr

abbrev CloudReply (α : Type) : Type := Except FotaCloudException α

/-- What the inventory port brings. -/
structure CollectedInventory where
  inventoryRevision : Nat := 0
  ecuListDigest : Digest := {}
  ecuList : List EcuVersion := []
  baselineCode : String := ""
  fotaMasterVersion : String := ""
  deriving DecidableEq, Repr, Inhabited

structure ConsentTermsId where
  termsVersion : String := ""
  termsId : String := ""
  termsDigestHex : String := ""
  algorithm : String := ""
  deriving DecidableEq, Repr, Inhabited

structure ConsentChoice where
  userChoice : ConsentStatus := .unspecified
  deriving DecidableEq, Repr, Inhabited

/-- What a download came to, with its stages. -/
structure DownloadOutcome where
  allStagesSucceeded : Bool := false
  stageResult : StageResultReport := {}
  hasStageResult : Bool := false
  finalOffsetBytes : Nat := 0
  errorDetail : String := ""
  deriving DecidableEq, Repr, Inhabited

/-- The conditions of the vehicle. -/
structure ConditionEvaluation where
  conditionSetVersion : String := ""
  snapshot : ConditionSnapshot := {}
  localReadinessDigest : String := ""
  allGuardsPassed : Bool := false
  failedConditions : List String := []
  deriving DecidableEq, Repr, Inhabited

structure PrepareResult where
  ready : Bool := false
  reason : String := ""
  deriving DecidableEq, Repr, Inhabited

structure StartResult where
  started : Bool := false
  reason : String := ""
  deriving DecidableEq, Repr, Inhabited

structure ControlApplyOutcome where
  status : ControlAckStatus := .rejected
  reason : String := ""
  deriving DecidableEq, Repr

/-- What the executor knows of a finished execution. -/
structure FinalResultData where
  actualBaselineCode : String := ""
  baselineStatus : String := ""
  ecuResults : List EcuResult := []
  rollbackOccurred : Bool := false
  deriving DecidableEq, Repr, Inhabited

structure LogCollectScope where
  collectionScope : List String := []
  timeRange : LogTimeRange := {}
  redactionProfileVersion : String := ""
  logType : String := ""
  deriving DecidableEq, Repr, Inhabited

structure LogPackage where
  digestHex : String := ""
  algorithm : String := ""
  sizeBytes : Nat := 0
  generated : Bool := false
  errorCode : String := ""
  deriving DecidableEq, Repr, Inhabited

/-- Every call the orchestrator makes, with its arguments. -/
inductive Call where
  | collectInventory (mode : InventoryMode)
  | checkTask (req : TaskCheckRequest) (ctx : CallContext)
  | requestConsent (vehicleTaskId : String) (terms : ConsentTermsId)
  | reportConsent (req : ConsentReport) (ctx : CallContext)
  | requestDownload (req : DownloadGrantRequest) (ctx : CallContext)
  | downloadAndVerify (pkg : PackageSummary) (grant : DownloadGrantResponse) (fromOffsetBytes : Nat)
  | reportStageResult (req : StageResultReport) (ctx : CallContext)
  | allGuardsPassed
  | evaluateConditions
  | requestInstall (req : InstallPermitRequest) (ctx : CallContext)
  | prepare (task : VehicleTaskSnapshot)
  | start (permit : InstallPermitResponse)
  | apply (cmd : ControlCommand)
  | readFinalResult
  | reportEvent (req : ExecutionEvent) (ctx : CallContext)
  | acknowledgeControl (req : ControlAckReport) (ctx : CallContext)
  | reportFinalResult (req : FinalResultReport) (ctx : CallContext)
  | requestLogUpload (req : LogGrantRequest) (ctx : CallContext)
  | collectLog (scope : LogCollectScope)
  | reportLogUpload (req : LogUploadResult) (ctx : CallContext)
  | syncPolicy (req : PolicyRequest) (ctx : CallContext)
  deriving DecidableEq, Repr

/-- What a call returns. Cloud calls may throw, the vehicle ports do not. -/
@[reducible] def Call.Reply : Call → Type
  | .collectInventory _ => CollectedInventory
  | .checkTask _ _ => CloudReply TaskCheckResponse
  | .requestConsent _ _ => ConsentChoice
  | .reportConsent _ _ => CloudReply ConsentResponse
  | .requestDownload _ _ => CloudReply DownloadGrantResponse
  | .downloadAndVerify _ _ _ => DownloadOutcome
  | .reportStageResult _ _ => CloudReply StageResultResponse
  | .allGuardsPassed => Bool
  | .evaluateConditions => ConditionEvaluation
  | .requestInstall _ _ => CloudReply InstallPermitResponse
  | .prepare _ => PrepareResult
  | .start _ => StartResult
  | .apply _ => ControlApplyOutcome
  | .readFinalResult => FinalResultData
  | .reportEvent _ _ => CloudReply EventResponse
  | .acknowledgeControl _ _ => CloudReply ControlAckResponse
  | .reportFinalResult _ _ => CloudReply FinalResultResponse
  | .requestLogUpload _ _ => CloudReply LogGrantResponse
  | .collectLog _ => LogPackage
  | .reportLogUpload _ _ => CloudReply Unit
  | .syncPolicy _ _ => CloudReply PolicyResponse

/-- What the surroundings of a process do, by the number of effects that went before. -/
structure Environment where
  cfg : FotaOrchestratorConfig
  clock : Nat → Int
  reply : Nat → (c : Call) → c.Reply
  emits : Nat → Call → List ExecutionEvent
  crashes : Nat → Bool

/-! ### Memory, trace and world -/

/-- The data members of `FotaOrchestrator`. The counters, 64-bit unsigned in the source, are natural
numbers, because none of them can wrap around: `emit` refuses an event before `nextSeq` goes beyond
`eventOutboxMax`, a 32-bit number, `acceptedSeq` is a maximum of numbers under which events are
stored, `ackSeq` grows by one for each new control revision, of which there are fewer than `2 ^ 64`,
and the others are copies of what a message or a record says. -/
structure Memory where
  vtState : VehicleTaskState := .none
  exState : ExecutionState := .permitPersisted
  nextSeq : Nat := 1
  acceptedSeq : Nat := 0
  ackSeq : Nat := 1
  frozenTask : VehicleTaskSnapshot := {}
  permit : InstallPermitResponse := {}
  executionId : String := ""
  attemptNo : Nat := 0
  lastReceivedControlRev : Nat := 0
  lastAppliedControlRev : Nat := 0
  pendingControlIds : List String := []
  deriving DecidableEq, Repr

/-- What can be asked of a process from outside; a restart replaces the process. -/
inductive Operation where
  | step
  | emit (evt : ExecutionEvent)
  | applyControl (cmd : ControlCommand)
  | syncPolicy
  | restart
  deriving DecidableEq, Repr

/-- What can be observed of a run. -/
inductive Event where
  | began (op : Operation)
  | called (c : Call)
  | returned (c : Call) (r : c.Reply)
  | saved (s : Save)
  | emitted (sequenceNo : Nat) (evt : ExecutionEvent)
  | skipped (pkg : PackageSummary) (entry : FotaDownloadRecord)
  | moved
  | crashed
  | restarted

/-- One observation: what happened, with the memory and the store at that moment. A `saved`
entry shows the store before the write, a `moved` entry the memory after the assignment. -/
structure Entry where
  event : Event
  mem : Memory
  store : FotaCloudStateStore
  tick : Nat

/-- A process with its store; `tick` counts effects and `trace` lists them, newest first. -/
structure World where
  mem : Memory := {}
  store : FotaCloudStateStore := {}
  tick : Nat := 0
  trace : List Entry := []

namespace World

def note (w : World) (event : Event) : World :=
  { w with trace := ⟨event, w.mem, w.store, w.tick⟩ :: w.trace }

/-- The world after an observable effect. -/
def effect (w : World) (event : Event) : World :=
  { mem := w.mem
    store := match event with
      | .saved s => w.store.save s
      | _ => w.store
    tick := w.tick + 1
    trace := ⟨event, w.mem, w.store, w.tick⟩ :: w.trace }

def withMemory (w : World) (f : Memory → Memory) : World := { w with mem := f w.mem }

def advance (w : World) : World := { w with tick := w.tick + 1 }

section Projections

variable (w : World) (event : Event) (f : Memory → Memory)

@[simp] theorem note_mem : (w.note event).mem = w.mem := rfl
@[simp] theorem note_store : (w.note event).store = w.store := rfl
@[simp] theorem note_tick : (w.note event).tick = w.tick := rfl
@[simp] theorem note_trace :
    (w.note event).trace = ⟨event, w.mem, w.store, w.tick⟩ :: w.trace := rfl

@[simp] theorem effect_mem : (w.effect event).mem = w.mem := rfl
@[simp] theorem effect_tick : (w.effect event).tick = w.tick + 1 := rfl
@[simp] theorem effect_trace :
    (w.effect event).trace = ⟨event, w.mem, w.store, w.tick⟩ :: w.trace := rfl
@[simp] theorem effect_saved_store (s : Save) : (w.effect (.saved s)).store = w.store.save s := rfl
@[simp] theorem effect_called_store (c : Call) : (w.effect (.called c)).store = w.store := rfl
@[simp] theorem effect_returned_store (c : Call) (r : c.Reply) :
    (w.effect (.returned c r)).store = w.store := rfl

@[simp] theorem withMemory_mem : (w.withMemory f).mem = f w.mem := rfl
@[simp] theorem withMemory_store : (w.withMemory f).store = w.store := rfl
@[simp] theorem withMemory_tick : (w.withMemory f).tick = w.tick := rfl
@[simp] theorem withMemory_trace : (w.withMemory f).trace = w.trace := rfl

@[simp] theorem advance_mem : w.advance.mem = w.mem := rfl
@[simp] theorem advance_store : w.advance.store = w.store := rfl
@[simp] theorem advance_tick : w.advance.tick = w.tick + 1 := rfl
@[simp] theorem advance_trace : w.advance.trace = w.trace := rfl

end Projections

end World

/-! ### Primitive actions -/

abbrev Orch := Program Environment World

def memory : Orch Memory := fun _ w => .done w.mem w

def store : Orch FotaCloudStateStore := fun _ w => .done w.store w

def config : Orch FotaOrchestratorConfig := fun env w => .done env.cfg w

/-- Two readings of the clock may differ even when nothing happens in between. -/
def nowMs : Orch Int := fun env w => .done (env.clock w.tick) w.advance

def setMemory (f : Memory → Memory) : Orch Unit := Program.update (·.withMemory f)

def note (event : Event) : Orch Unit := Program.update (·.note event)

def setVtState (s : VehicleTaskState) : Orch Unit := do
  setMemory ({ · with vtState := s })
  note .moved

def setExState (s : ExecutionState) : Orch Unit := do
  setMemory ({ · with exState := s })
  note .moved

/-- An effect takes place as a whole; the process may be gone right after it. -/
def effect (event : Event) : Orch Unit := fun env w =>
  if env.crashes w.tick then .crashed (w.effect event) else .done () (w.effect event)

def save (s : Save) : Orch Unit := effect (.saved s)

/-- `std::string(64, c)`. -/
def repeat64 (c : Char) : String := String.ofList (List.replicate 64 c)

/-- `FotaOrchestrator::emit`. The counter is unsigned, so a stored counter of zero is full. -/
def emit (evt : ExecutionEvent) : Orch Bool := do
  let outbox := (← store).outboxMeta
  let cfg ← config
  if (outbox.nextSequenceNo + 2 ^ 64 - 1) % 2 ^ 64 ≥ cfg.eventOutboxMax.toNat then return false
  else
    let sequenceNo := outbox.nextSequenceNo
    let digest := evt.eventDigest.getD {}
    save (.event
      { sequenceNo
        eventId := if evt.eventId = "" then "EVT-" ++ toString sequenceNo else evt.eventId
        eventDigestHex := if digest.valueHex = "" then repeat64 'f' else digest.valueHex
        stage := evt.stage
        eventStatus := evt.eventStatus
        progress := evt.progress.getD 0
        occurredAtMs := evt.occurredAtMs
        payloadSummary := evt.stage
        sendStatus := "PENDING"
        eventPbHex := protoBinaryToHex evt })
    save (.eventOutboxMeta { outbox with nextSequenceNo := sequenceNo + 1 })
    setMemory ({ · with nextSeq := sequenceNo + 1 })
    note (.emitted sequenceNo evt)
    return true

/-- The other side of a pending call may emit any number of events before it answers. -/
def reentrantEmits (c : Call) : Orch Unit := fun env w =>
  Program.forEach (fun evt => do let _ ← emit evt) (env.emits w.tick c) env w

def answer (c : Call) : Orch c.Reply := fun env w => .done (env.reply w.tick c) w

def call (c : Call) : Orch c.Reply := do
  effect (.called c)
  reentrantEmits c
  let r ← answer c
  effect (.returned c r)
  return r

end CgwFota
