import CgwFota.Orchestrator.Phases
import CgwFota.Store.Migration

/-!
# Runs of the orchestrator

Operations come in any order. A crash loses the memory and keeps the store; the process that follows
is a new orchestrator after `reconcileOnStart`.

## Main definitions

* `run`: any sequence of operations over a world
* `restart`, `recover`, `boot`: how a new process begins
* `durableVtState` and its siblings: what a restart reads of the store
* `Assuming`: a property that holds if every entry so far satisfied a condition

## Main results

* `loadFromStore_with_snapshot`, `loadFromStore_without_snapshot`: the memory after a restart
* `run_invariant`: what every operation preserves holds at the end of every run
-/
namespace CgwFota

open Crash

/-- A new orchestrator after `reconcileOnStart` over the store of the old one. -/
def restart (w : World) : World :=
  { w with mem := loadFromStore w.store {} }.note .restarted

def boot (s : FotaCloudStateStore) : World := restart { store := s }

/-- What follows a crash. -/
def recover (w : World) : World := restart (w.note .crashed)

def perform : Operation → Orch Unit
  | .step => do let _ ← step
  | .emit evt => do let _ ← emit evt
  | .applyControl cmd => do let _ ← applyControl cmd
  | .syncPolicy => do let _ ← syncPolicy
  | .restart => Program.update restart

def runOperation (env : Environment) (w : World) (op : Operation) : World :=
  (perform op env (w.note (.began op))).settle recover

def run (env : Environment) (w : World) (ops : List Operation) : World :=
  ops.foldl (runOperation env) w

@[simp] theorem restart_mem (w : World) : (restart w).mem = loadFromStore w.store {} := rfl
@[simp] theorem restart_store (w : World) : (restart w).store = w.store := rfl
@[simp] theorem restart_tick (w : World) : (restart w).tick = w.tick := rfl
@[simp] theorem restart_trace (w : World) :
    (restart w).trace = ⟨.restarted, loadFromStore w.store {}, w.store, w.tick⟩ :: w.trace := rfl

/-! ### What a restart reads -/

def durableVtState (s : FotaCloudStateStore) : VehicleTaskState :=
  match s.vehicleTask with
  | none => .none
  | some vt => (vehicleTaskStateFromString vt.vehicleTaskState).getD .none

def durableTask (s : FotaCloudStateStore) : VehicleTaskSnapshot :=
  match s.vehicleTask with
  | none => {}
  | some vt => vt.taskSnapshotPbHex.message

def durableExState (s : FotaCloudStateStore) : ExecutionState :=
  match s.execution with
  | none => .permitPersisted
  | some ex => (executionStateFromString ex.executionState).getD .permitPersisted

def durablePermit (s : FotaCloudStateStore) : InstallPermitResponse :=
  match s.execution with
  | none => {}
  | some ex => loadPermit {} ex

/-- A task record without a snapshot makes a restart forget the execution. -/
def lacksSnapshot (s : FotaCloudStateStore) : Bool :=
  s.vehicleTask.any fun vt => vt.taskSnapshotPbHex.isEmpty

theorem durableTask_without_snapshot {s : FotaCloudStateStore} (lacks : lacksSnapshot s) :
    durableTask s = {} := by
  unfold lacksSnapshot at lacks
  unfold durableTask
  cases task : s.vehicleTask with
  | none => rfl
  | some vt =>
    simp only [task, Option.any_some, PbHex.isEmpty, decide_eq_true_eq] at lacks
    exact lacks

theorem FirstStore.durableTask {s : FotaCloudStateStore} (first : FirstStore s) :
    durableTask s = {} := by
  unfold CgwFota.durableTask
  cases task : s.vehicleTask with
  | none => rfl
  | some vt =>
    have lacks : vt.taskSnapshotPbHex.isEmpty := first.vehicleTask vt task
    simp only [PbHex.isEmpty, decide_eq_true_eq] at lacks
    exact lacks

theorem loadFromStore_without_snapshot {s : FotaCloudStateStore} (lacks : lacksSnapshot s) :
    loadFromStore s {} = {} := by
  unfold lacksSnapshot at lacks
  unfold loadFromStore
  cases task : s.vehicleTask with
  | none => simp [task] at lacks
  | some vt =>
    have lacks : vt.taskSnapshotPbHex.isEmpty := by simpa [task] using lacks
    simp [lacks]

/-- With a snapshot a restart has the task, the execution and the counters of the store. -/
theorem loadFromStore_with_snapshot {s : FotaCloudStateStore} (has : lacksSnapshot s = false) :
    loadFromStore s {} =
      { vtState := durableVtState s
        exState := durableExState s
        nextSeq := s.outboxMeta.nextSequenceNo
        acceptedSeq := s.outboxMeta.acceptedSequenceNo
        frozenTask := durableTask s
        permit := durablePermit s
        executionId := (s.execution.getD {}).executionId
        attemptNo := (s.execution.getD {}).attemptNo } := by
  have loaded : ∀ m : Memory, m.exState = .permitPersisted → m.permit = {} →
      m.executionId = "" → m.attemptNo = 0 → m.nextSeq = 1 → m.acceptedSeq = 0 →
      loadOutbox s (loadExecution s m) =
        { m with
          exState := durableExState s
          nextSeq := s.outboxMeta.nextSequenceNo
          acceptedSeq := s.outboxMeta.acceptedSequenceNo
          permit := durablePermit s
          executionId := (s.execution.getD {}).executionId
          attemptNo := (s.execution.getD {}).attemptNo } := by
    intro m state permit executionId attemptNo next accepted
    -- a store may lack the execution, the watermarks or both
    unfold loadOutbox loadExecution durableExState durablePermit FotaCloudStateStore.outboxMeta
    cases s.execution <;> cases s.eventOutboxMeta <;>
      simp [state, permit, executionId, attemptNo, next, accepted]
    all_goals cases m; simp_all
  unfold lacksSnapshot at has
  unfold loadFromStore durableVtState durableTask
  cases task : s.vehicleTask with
  | none => exact loaded _ rfl rfl rfl rfl rfl rfl
  | some vt =>
    have has : vt.taskSnapshotPbHex.isEmpty = false := by simpa [task] using has
    simp only [has, Bool.false_eq_true, ite_false]
    exact loaded _ rfl rfl rfl rfl rfl rfl

/-- `body` holds if every entry so far satisfied `cond`. -/
def Assuming (cond : Entry → List Entry → Prop) (body : World → Prop) (w : World) : Prop :=
  Always cond w.trace → body w

theorem Assuming.effect {cond : Entry → List Entry → Prop} {P Q : World → Prop} {w : World}
    {v : Event} (holds : Assuming cond P w)
    (step : cond ⟨v, w.mem, w.store, w.tick⟩ w.trace → P w → Q (w.effect v)) :
    Assuming cond Q (w.effect v) :=
  fun met => step met.1 (holds met.2)

/-- What every operation preserves, however it stops, holds at the end of every run. -/
theorem run_invariant (env : Environment) (J : World → Prop)
    (keeps : ∀ op w, J w →
      wp (perform op) (fun _ => J) (fun w' => J (recover w')) env (w.note (.began op)))
    (ops : List Operation) (w : World) (initial : J w) : J (run env w ops) := by
  induction ops generalizing w with
  | nil => exact initial
  | cons op ops ih => exact ih _ (settle_of_wp (keeps op w initial))

/-! ### A cooperative surrounding -/

def sampleTask : VehicleTaskSnapshot :=
  { vehicleTaskId := "VT-1"
    taskRevision := 1
    startTimeMs := 0
    endTimeMs := 100000
    consentRequired := true
    packageList := [{ packageId := "P-1", packageRevision := "1", sizeBytes := 10 }] }

def samplePermit : InstallPermitResponse :=
  { allowed := true
    executionId := some "E-1"
    attemptNo := some 1
    permitId := some "PM-1"
    permitToken := some "token" }

/-- Replies with which the sample task goes through all phases. -/
def cooperativeReply : (c : Call) → c.Reply
  | .collectInventory _ => ({} : CollectedInventory)
  | .checkTask _ _ => .ok { inventoryDisposition := .accepted, task := some sampleTask }
  | .requestConsent _ _ => ({ userChoice := .accepted } : ConsentChoice)
  | .reportConsent _ _ => .ok { accepted := true, effectiveConsentStatus := .accepted }
  | .requestDownload _ _ => .ok { packageRevision := "1", etag := some "etag-1" }
  | .downloadAndVerify _ _ _ =>
    ({ allStagesSucceeded := true, hasStageResult := true, finalOffsetBytes := 10 } :
      DownloadOutcome)
  | .reportStageResult _ _ => .ok { accepted := true }
  | .allGuardsPassed => true
  | .evaluateConditions => ({ allGuardsPassed := true } : ConditionEvaluation)
  | .requestInstall _ _ => .ok samplePermit
  | .prepare _ => ({ ready := true } : PrepareResult)
  | .start _ => ({ started := true } : StartResult)
  | .apply _ => ({ status := .applied } : ControlApplyOutcome)
  | .readFinalResult => ({ actualBaselineCode := "B-2" } : FinalResultData)
  | .reportEvent _ _ => .ok { eventDisposition := .accepted }
  | .acknowledgeControl _ _ => .ok { accepted := true }
  | .reportFinalResult _ _ => .ok { resultAccepted := true, vehicleTaskStatus := .completed }
  | .requestLogUpload _ _ => .ok {}
  | .collectLog _ => ({ generated := true } : LogPackage)
  | .reportLogUpload _ _ => .ok ()
  | .syncPolicy _ _ => .ok {}

def cooperative : Environment where
  cfg := {}
  clock n := n
  reply _ c := cooperativeReply c
  emits _ _ := []
  crashes _ := false

end CgwFota
