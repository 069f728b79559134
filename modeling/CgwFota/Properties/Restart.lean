import CgwFota.Orchestrator.Advance

/-!
# Restarts between operations

Several phases leave the memory ahead of the store, but only by states from which `step` goes on in
the same way. Whatever else a restart reads is written before an operation returns.

## Main definitions

* `phaseAction`: the action that a step takes in a state.
* `canonicalState`: states from which a step does the same are identified.
* `RestartInvisible`: a new orchestrator goes on as the old one would.
* `Restartable`: the invariant between operations.

## Main results

* `restarts_invisible`: in every run from an empty store in which tasks have ids.
* `run_keeps_named`: an invariant of such runs needs to be checked only against restarts that find a
  snapshot.

## Proof strategy

While a phase is running, memory and store may differ in the state and in the counters, and all that
is needed at a crash is that the store has a snapshot. Each phase ends by writing what it has
changed, after which both agree up to `canonicalState`.
-/
namespace CgwFota

open Crash

/-! ### The action of a step -/

/-- What a step may do. -/
inductive PhaseAction where
  | checkTask | consent | download | permit | execute | noop | terminal
  deriving DecidableEq, Repr

/-- The switch of `step`. -/
def phaseAction : VehicleTaskState → PhaseAction
  | .none | .discovered => .checkTask
  | .consentPending => .consent
  | .downloadPending | .downloading => .download
  | .ready | .waitingWindow | .permitPending | .retryPending => .permit
  | .executing | .rollbackPending => .execute
  | .paused => .noop
  | .completed | .ended => .terminal

/-- The function that is called. -/
def PhaseAction.body : PhaseAction → Orch StepOutcome
  | .checkTask => doCheckTask
  | .consent => doConsent
  | .download => doDownload
  | .permit => doPermit
  | .execute => doExecute
  | .noop => do
    let m ← memory
    return { vehicleTaskState := m.vtState, executionState := m.exState, action := "noop" }
  | .terminal => do
    let m ← memory
    return {
      vehicleTaskState := m.vtState
      executionState := m.exState
      terminal := true
      action := "terminal" }

/-- The world in which `step` performs its action: a pending retry or rollback is taken up. -/
def World.enter (w : World) : World :=
  match w.mem.vtState with
  | .retryPending => w.move .permitPending
  | .rollbackPending =>
    World.move ((w.withMemory fun m => { m with exState := .rollback }).note .moved) .executing
  | _ => w

/-- The step does this, and nothing else. -/
def Performs (action : PhaseAction) (w : World) : Prop :=
  ∀ env, step env w = action.body env w.enter

theorem noop_body (env : Environment) (w : World) :
    PhaseAction.noop.body env w = .done
      { vehicleTaskState := w.mem.vtState, executionState := w.mem.exState, action := "noop" } w :=
  rfl

theorem terminal_body (env : Environment) (w : World) :
    PhaseAction.terminal.body env w = .done
      { vehicleTaskState := w.mem.vtState
        executionState := w.mem.exState
        terminal := true
        action := "terminal" } w :=
  rfl

theorem performs_phaseAction (w : World) : Performs (phaseAction w.mem.vtState) w := by
  intro env
  show (if isTerminalVehicleTaskState w.mem.vtState then _ else _ : Orch StepOutcome) env w = _
  unfold World.enter
  cases state : w.mem.vtState with
  | paused =>
    show _ = PhaseAction.noop.body env w
    rw [noop_body, state]
    rfl
  | completed | ended =>
    show _ = PhaseAction.terminal.body env w
    rw [terminal_body, state]
    rfl
  | _ => rfl

/-- States from which `step` does the same are identified. -/
def canonicalState : VehicleTaskState → ExecutionState → VehicleTaskState × ExecutionState
  | .downloadPending, ex | .downloading, ex => (.downloading, ex)
  | .retryPending, ex | .permitPending, ex | .waitingWindow, ex => (.waitingWindow, ex)
  | .rollbackPending, _ => (.executing, .rollback)
  | vt, ex => (vt, ex)

theorem phaseAction_canonicalState (vt : VehicleTaskState) (ex : ExecutionState) :
    phaseAction (canonicalState vt ex).1 = phaseAction vt := by
  cases vt <;> rfl

/-! ### What a restart must not change -/

/-- A new orchestrator over the same store goes on as the old one would. -/
structure RestartInvisible (w : World) : Prop where
  frozenTask : (restart w).mem.frozenTask = w.mem.frozenTask
  executionId : (restart w).mem.executionId = w.mem.executionId
  attemptNo : (restart w).mem.attemptNo = w.mem.attemptNo
  nextSeq : (restart w).mem.nextSeq = w.mem.nextSeq
  acceptedSeq : (restart w).mem.acceptedSeq = w.mem.acceptedSeq
  states : canonicalState (restart w).mem.vtState (restart w).mem.exState =
    canonicalState w.mem.vtState w.mem.exState
  action : ∃ action, Performs action w ∧ Performs action (restart w)

/-- Every task to be frozen has an id. -/
def TaskNamed (a : Entry) (_past : List Entry) : Prop :=
  match a.event with
  | .returned (.checkTask _ _) (.ok resp) =>
    resp.inventoryDisposition = .accepted → ∀ task ∈ resp.task, task.vehicleTaskId ≠ ""
  | _ => True

instance (a : Entry) (past : List Entry) : Decidable (TaskNamed a past) := by
  obtain ⟨_ | _ | ⟨c, r⟩ | _, _, _, _⟩ := a
  all_goals unfold TaskNamed; try infer_instance
  rcases c with _ | _ <;> try infer_instance
  all_goals rcases r with _ | _ <;> infer_instance

/-- What a restart reads of the execution. -/
def durableExecution (s : FotaCloudStateStore) : ExecutionState × String × Nat :=
  (durableExState s, (s.execution.getD {}).executionId, (s.execution.getD {}).attemptNo)

/-- All that is needed of the store at a crash: it does not lack a snapshot. -/
def SnapshotsNamed (w : World) : Prop :=
  ∀ r ∈ w.store.vehicleTask, r.taskSnapshotPbHex.message.vehicleTaskId ≠ ""

/-- The invariant between operations. -/
structure Restartable (w : World) : Prop where
  snapshot : SnapshotsNamed w
  task : durableTask w.store = w.mem.frozenTask
  states : canonicalState (durableVtState w.store) w.mem.exState =
    canonicalState w.mem.vtState w.mem.exState
  execution : durableExecution w.store = (w.mem.exState, w.mem.executionId, w.mem.attemptNo)
  outbox : w.store.outboxMeta =
    { nextSequenceNo := w.mem.nextSeq, acceptedSequenceNo := w.mem.acceptedSeq }

/-- What holds of the task while a phase is running. -/
structure TaskStored (w : World) : Prop where
  task : durableTask w.store = w.mem.frozenTask
  named : w.mem.frozenTask.vehicleTaskId ≠ ""

section Restartable

variable {e : Environment} {w w' : World} {parts : List Part}

theorem SnapshotsNamed.lacksSnapshot (h : SnapshotsNamed w) : lacksSnapshot w.store = false := by
  unfold CgwFota.lacksSnapshot
  cases record : w.store.vehicleTask with
  | none => rfl
  | some r =>
    have named := h r record
    simp only [Option.any_some, PbHex.isEmpty, decide_eq_false_iff_not]
    intro same
    rw [same] at named
    exact named rfl

/-- Between operations a restart changes nothing that matters. -/
theorem Restartable.invisible (h : Restartable w) : RestartInvisible w := by
  have mem : (restart w).mem = _ := loadFromStore_with_snapshot h.snapshot.lacksSnapshot
  have execution := h.execution
  simp only [durableExecution, Prod.mk.injEq] at execution
  have states : canonicalState (restart w).mem.vtState (restart w).mem.exState =
      canonicalState w.mem.vtState w.mem.exState := by
    rw [mem, execution.1]
    exact h.states
  refine ⟨?_, ?_, ?_, ?_, ?_, states, _, performs_phaseAction w, ?_⟩
  · rw [mem]; exact h.task
  · rw [mem]; exact execution.2.1
  · rw [mem]; exact execution.2.2
  · rw [mem, h.outbox]
  · rw [mem, h.outbox]
  -- the states differ at most in the names of one action
  · have same := congrArg (fun states => phaseAction states.1) states
    simp only [phaseAction_canonicalState] at same
    exact same ▸ performs_phaseAction (restart w)

theorem Restartable.stored (h : Restartable w) (running : w.mem.vtState ≠ .none) :
    TaskStored w where
  task := h.task
  named := by
    rw [← h.task]
    have states := h.states
    unfold durableTask
    unfold durableVtState at states
    cases record : w.store.vehicleTask with
    -- without a record the stored state is the one of no task
    | none =>
      rw [record] at states
      exact absurd (by revert states; cases w.mem.vtState <;> simp [canonicalState]) running
    | some r => exact h.snapshot r record

theorem TaskStored.snapshot (h : TaskStored w) : SnapshotsNamed w := by
  intro r record
  have task : r.taskSnapshotPbHex.message = w.mem.frozenTask := by
    rw [← h.task, durableTask, show w.store.vehicleTask = some r from record]
  rw [task]
  exact h.named

theorem TaskStored.within (h : TaskStored w) (within : Within parts w w')
    (phase : .phase ∉ parts) (frozen : .task ∉ parts) : TaskStored w' := by
  have record := (within.same .phase phase).2
  have task : w'.mem.frozenTask = w.mem.frozenTask := within.same .task frozen
  refine ⟨?_, task ▸ h.named⟩
  unfold durableTask
  rw [record, task]
  exact h.task

/-- What touches nothing that a restart reads. -/
theorem Restartable.within (h : Restartable w) (within : Within parts w w')
    (phase : .phase ∉ parts) (frozen : .task ∉ parts) (permit : .permit ∉ parts)
    (execution : .execution ∉ parts) (outbox : .outbox ∉ parts) : Restartable w' := by
  obtain ⟨state, record⟩ := within.same .phase phase
  have task : w'.mem.frozenTask = w.mem.frozenTask := within.same .task frozen
  obtain ⟨_, executionId, attemptNo⟩ := within.same .permit permit
  obtain ⟨exState, stored⟩ := within.same .execution execution
  obtain ⟨next, accepted, outboxMeta, _⟩ := within.same .outbox outbox
  constructor
  · simpa only [SnapshotsNamed, record] using h.snapshot
  · simpa only [durableTask, record, task] using h.task
  · simpa only [durableVtState, record, state, exState] using h.states
  · simpa only [durableExecution, durableExState, stored, exState, executionId, attemptNo]
      using h.execution
  · simpa only [FotaCloudStateStore.outboxMeta, outboxMeta, next, accepted] using h.outbox

/-- Emissions keep the counters in memory equal to the stored ones. -/
theorem restartable_emit (evt : ExecutionEvent) (holds : Restartable w) :
    wp (emit evt) (fun _ => Restartable) SnapshotsNamed e w := by
  unfold emit
  simp only [wp_bind, wp_store, wp_config, wp_ite, wp_pure, wp_setMemory, wp_note]
  split
  next => exact holds
  next =>
    refine wp_save holds.snapshot (wp_save holds.snapshot ?_)
    have accepted := congrArg FotaEventOutboxMeta.acceptedSequenceNo holds.outbox
    exact { holds with outbox := by simpa [FotaCloudStateStore.outboxMeta] using accepted }

/-- Calls leave all a restart depends on as it is. -/
theorem restartable_call {c : Call} {Q : c.Reply → World → Prop} (holds : Restartable w)
    (next : ∀ r w', Restartable w' → w'.mem.vtState = w.mem.vtState →
      w'.mem.exState = w.mem.exState → Q r w') :
    wp (call c) Q SnapshotsNamed e w :=
  wp_call_emitting (I := Restartable) { holds with } (fun evt _ => restartable_emit evt)
    (fun _ h => h.snapshot) fun r _ holds within => ⟨holds.snapshot,
      next r _ { holds with } (within.same .phase (by simp)).1 (within.same .execution (by simp)).1⟩

/-- Persisting the task brings memory and store together again. -/
theorem restartable_persist (action : String) (now : Int)
    (named : w.mem.frozenTask.vehicleTaskId ≠ "")
    (execution : durableExecution w.store = (w.mem.exState, w.mem.executionId, w.mem.attemptNo))
    (outbox : w.store.outboxMeta =
      { nextSequenceNo := w.mem.nextSeq, acceptedSequenceNo := w.mem.acceptedSeq }) :
    Restartable (w.persist action now) where
  snapshot := by rintro r ⟨⟩; exact named
  task := rfl
  states := by rw [durableVtState_persist]; rfl
  execution := execution
  outbox := outbox

theorem restartable_persistExecution (stored : TaskStored w)
    (states : canonicalState (durableVtState w.store) w.mem.exState =
      canonicalState w.mem.vtState w.mem.exState) :
    wp persistExecution (fun _ w' => Restartable w' ∧ w'.mem = w.mem) SnapshotsNamed e w := by
  unfold persistExecution
  simp only [wp_bind, wp_memory]
  refine wp_save stored.snapshot (wp_save stored.snapshot ⟨?_, rfl⟩)
  refine ⟨stored.snapshot, stored.task, states, ?_, rfl⟩
  simp [durableExecution, durableExState, executionRecord]

/-! ### The phases -/

/-- The phase `consent`. -/
theorem restartable_doConsent (holds : Restartable w) (running : w.mem.vtState ≠ .none) :
    wp doConsent (fun _ => Restartable) SnapshotsNamed e w := by
  unfold doConsent
  simp only [wp_bind, wp_memory, wp_nowMs, wp_makeCtx]
  refine restartable_call holds fun choice w' holds state _ => ?_
  have waiting : Restartable w'.advance := { holds with }
  refine restartable_call waiting fun reply w'' holds state' _ => ?_
  have running : w''.mem.vtState ≠ .none := by simpa [state', state] using running
  cases reply with
  -- no answer: nothing has changed
  | error ex => exact holds
  -- answered: the consent is recorded and the task moves on
  | ok resp =>
    simp only [wp_bind, wp_nowMs, wp_setVtState, wp_memory, wp_pure]
    refine wp_save holds.snapshot ?_
    have settled := restartable_persist "consent" (w := ((w''.advance.effect (.saved (.consent
      (consentRecord w.mem.frozenTask resp (e.clock w''.tick))))).move
        (if resp.effectiveConsentStatus = .accepted then .downloadPending else .ended)).advance)
      (e.clock (w''.tick + 2)) (holds.stored running).named holds.execution holds.outbox
    exact wp_persistVehicleTask settled.snapshot settled

/-- Setting and persisting a state, as most phases end. -/
theorem restartable_moved {s : VehicleTaskState} (action : String) (holds : Restartable w)
    (running : w.mem.vtState ≠ .none) :
    wp (setVtState s >>= fun _ => persistVehicleTask action) (fun _ => Restartable)
      SnapshotsNamed e w := by
  simp only [wp_bind, wp_setVtState]
  have settled := fun now => restartable_persist (w := (w.move s).advance) action now
    (holds.stored running).named holds.execution holds.outbox
  exact wp_persistVehicleTask (settled _).snapshot (settled _)

/-- A download that is given up moves the task within the states that download. -/
theorem restartable_downloadPackages (packages : List PackageSummary) (allReady : Bool)
    (error : String) (holds : Restartable w)
    (running : phaseAction w.mem.vtState = .download) :
    wp (downloadPackages packages allReady error)
      (fun _ w' => Restartable w' ∧ phaseAction w'.mem.vtState = .download) SnapshotsNamed e w := by
  have canonical : ∀ s ex, phaseAction s = .download →
      canonicalState s ex = (.downloading, ex) := by
    intro s ex action
    cases s <;> first | rfl | cases action
  refine (proceeds_downloadPackages packages allReady error).wp
    (I := fun w => Restartable w ∧ phaseAction w.mem.vtState = .download) ?_ ?_ ?_ ?_
    (fun _ h => h.1.snapshot) ⟨holds, running⟩
  · rintro w w' within ⟨holds, running⟩
    refine ⟨holds.within within (by simp) (by simp) (by simp) (by simp) (by simp), ?_⟩
    rw [(within.same .phase (by simp)).1]
    exact running
  · rintro evt w ⟨holds, running⟩
    refine wp_mono (wp_and (restartable_emit evt holds)
      (touches_emit [.outbox] evt (by simp) w)) (fun _ w' both => ⟨both.1, ?_⟩)
      fun _ both => both.1
    rw [(both.2.same .phase (by simp)).1]
    exact running
  · rintro w s rfl ⟨holds, running⟩
    refine ⟨{ holds with states := ?_ }, rfl⟩
    exact holds.states.trans (canonical _ _ running)
  · exact fun _ _ _ never => by simp at never

theorem restartable_doDownload (holds : Restartable w)
    (running : phaseAction w.mem.vtState = .download) :
    wp doDownload (fun _ => Restartable) SnapshotsNamed e w := by
  unfold doDownload
  simp only [wp_bind, wp_memory]
  refine wp_mono (restartable_downloadPackages _ true "" holds running) (fun r w' both => ?_)
    fun _ h => h
  obtain ⟨holds, running⟩ := both
  cases r with
  | error ex => exact holds
  | ok r =>
    have moved := restartable_moved (e := e) (s := if r.1 then .ready else .downloading) "download"
      holds (by rintro none; rw [none] at running; cases running)
    simp only [wp_bind, wp_memory, wp_pure] at moved ⊢
    exact moved

/-- Task and execution written one after the other, from whatever was stored before. -/
theorem restartable_persisted (action : String) (named : w.mem.frozenTask.vehicleTaskId ≠ "") :
    wp (persistVehicleTask action) (fun _ => wp persistExecution
      (fun _ w' => Restartable w' ∧ w'.mem = w.mem) SnapshotsNamed e) SnapshotsNamed e w := by
  have stored : TaskStored (w.advance.persist action (e.clock w.tick)) := ⟨rfl, named⟩
  refine wp_persistVehicleTask stored.snapshot (restartable_persistExecution stored ?_)
  rw [durableVtState_persist]
  rfl

/-- A permit that is taken over. -/
theorem restartable_acceptPermit {resp : InstallPermitResponse} (stored : TaskStored w) :
    wp (acceptPermit resp) (fun _ => Restartable) SnapshotsNamed e w := by
  unfold acceptPermit
  simp only [wp_bind, wp_setMemory, wp_setExState, wp_setVtState, wp_nowMs, wp_ite, wp_pure,
    wp_memory]
  refine wp_mono (restartable_persisted "permit" ?_) (fun _ w₁ persisted => ?_) fun _ h => h
  · exact stored.named
  · refine wp_mono persisted (fun _ w₂ both => ?_) fun _ h => h
    have waiting : Restartable w₂.advance := { both.1 with }
    split
    -- expired
    next => exact waiting
    next =>
      refine restartable_call waiting fun guards w₃ holds _ _ => ?_
      split
      -- the guards have changed since
      next => exact holds
      next => exact holds

/-- The phase `permit`. -/
theorem restartable_doPermit (holds : Restartable w) (running : w.mem.vtState ≠ .none) :
    wp doPermit (fun _ => Restartable) SnapshotsNamed e w := by
  unfold doPermit requestPermit
  simp only [wp_bind, wp_memory, wp_store, wp_nowMs, wp_makeCtx, wp_ite, wp_pure]
  split
  -- a ready task waits for its window
  next =>
    simpa only [wp_bind] using
      restartable_moved (s := .waitingWindow) "waitingWindow" holds running
  next =>
    have asked : Restartable w.advance := { holds with }
    split
    -- outside the window
    next => exact asked
    next =>
      refine restartable_call asked fun guards w₁ holds state₁ _ => ?_
      split
      -- the guards do not hold
      next => exact holds
      next =>
        refine restartable_call holds fun ev w₂ holds state₂ _ => ?_
        refine restartable_call holds fun reply w₃ holds state₃ _ => ?_
        cases reply with
        -- no answer
        | error ex => exact holds
        | ok resp =>
          simp only [wp_ite, wp_pure]
          split
          -- denied
          next => exact holds
          -- granted
          next =>
            refine restartable_acceptPermit (holds.stored ?_)
            rw [state₃, state₂, state₁]
            exact running

theorem restartable_closeExecution {report : FinalResultReport} {resp : FinalResultResponse}
    (stored : TaskStored w) :
    wp (closeExecution report resp) (fun _ => Restartable) SnapshotsNamed e w := by
  have closes : ∀ w : World, w.mem.frozenTask.vehicleTaskId ≠ "" →
      wp (persistVehicleTask "finalResult") (fun _ => wp persistExecution
        (fun _ => Restartable) SnapshotsNamed e) SnapshotsNamed e w := fun w named =>
    wp_mono (restartable_persisted "finalResult" named)
      (fun _ _ persisted => wp_mono persisted (fun _ _ both => both.1) fun _ h => h) fun _ h => h
  unfold closeExecution
  simp only [wp_bind, wp_setExState, wp_memory, wp_pure]
  refine wp_mono (touches_doLogUpload w) (fun _ w₁ within => ?_) fun w₁ within => ?_
  · have stored := stored.within within (by simp) (by simp)
    exact wp_adoptStatus (fun _ => closes _ stored.named) fun _ => closes _ stored.named
  · exact (stored.within within (by simp) (by simp)).snapshot

/-- The final result. -/
theorem restartable_doFinalize (holds : Restartable w) (running : w.mem.vtState ≠ .none) :
    wp doFinalize (fun _ => Restartable) SnapshotsNamed e w := by
  unfold doFinalize
  simp only [wp_bind, wp_memory, wp_nowMs, wp_makeCtx]
  refine restartable_call holds fun data w₁ holds state₁ _ => ?_
  have waiting : Restartable w₁.advance := { holds with }
  refine restartable_call waiting fun reply w₂ holds state₂ _ => ?_
  cases reply with
  -- no answer
  | error ex => exact holds
  | ok resp =>
    simp only [wp_ite, wp_pure]
    split
    -- not accepted
    next => exact holds
    -- accepted: the execution is closed
    next =>
      refine restartable_closeExecution (holds.stored ?_)
      rw [state₂]
      simpa [state₁] using running

/-- While events are sent the watermarks may differ; `persistExecution` evens them out. -/
theorem restartable_flushOutbox (stored : TaskStored w) (running : w.mem.vtState ≠ .none)
    (states : canonicalState (durableVtState w.store) w.mem.exState =
      canonicalState w.mem.vtState w.mem.exState) :
    wp flushOutbox (fun _ => Restartable) SnapshotsNamed e w := by
  unfold flushOutbox
  simp only [wp_bind, wp_store, wp_memory, wp_ite, wp_pure]
  refine wp_mono (touches_sendEvents _ _ w) (fun st w₁ within => ?_) fun w₁ within =>
    (stored.within within (by simp) (by simp)).snapshot
  refine wp_mono (touches_raiseAccepted _ _ w₁) (fun _ w₂ within' => ?_) fun w₂ within' =>
    (stored.within (within.trans within') (by simp) (by simp)).snapshot
  have sent := within.trans within'
  obtain ⟨state, record⟩ := sent.same .phase (by simp)
  have exState := (sent.same .execution (by simp)).1
  have states : canonicalState (durableVtState w₂.store) w₂.mem.exState =
      canonicalState w₂.mem.vtState w₂.mem.exState := by
    simpa only [durableVtState, record, state, exState] using states
  refine wp_mono (restartable_persistExecution (stored.within sent (by simp) (by simp)) states)
    (fun _ w₃ both => ?_) fun _ h => h
  obtain ⟨holds, mem⟩ := both
  split
  -- an event was not accepted, and the rest is left for later
  next => exact holds
  -- all were: the final result
  next =>
    refine restartable_doFinalize holds ?_
    rw [mem, state]
    exact running

/-- A start is only made in a state in which the stored task is executing, too. -/
theorem restartable_doExecute (holds : Restartable w) (running : w.mem.vtState = .executing) :
    wp doExecute (fun _ => Restartable) SnapshotsNamed e w := by
  have executing : ∀ {w : World}, w.mem.vtState = .executing → w.mem.vtState ≠ .none :=
    fun state none => by simp [state] at none
  unfold doExecute recordStart
  simp only [wp_bind, wp_memory, wp_ite, wp_pure, wp_setExState]
  split
  next fresh =>
    refine restartable_call holds fun prep w₁ holds state₁ exState₁ => ?_
    split
    -- not prepared
    next => exact holds
    next =>
      refine restartable_call holds fun st w₂ holds state₂ exState₂ => ?_
      split
      -- not started
      next => exact holds
      -- started: the state of the execution is written
      next =>
        rw [← state₁, ← state₂] at running
        have durable : durableVtState w₂.store = .executing := by
          have states := holds.states
          rw [running, exState₂, exState₁] at states
          revert states
          rcases fresh with fresh | fresh <;> rw [fresh] <;>
            cases durableVtState w₂.store <;> simp [canonicalState]
        have stored := holds.stored (executing running)
        have started := stored.within (touches_setExState (e := e) [.moved, .execution]
          .installStarted (by simp) (by simp) w₂) (by simp) (by simp)
        refine wp_mono (restartable_persistExecution started ?_) (fun _ w₃ both => ?_) fun _ h => h
        · show canonicalState (durableVtState w₂.store) _ = canonicalState w₂.mem.vtState _
          rw [durable, running]
        · obtain ⟨holds, mem⟩ := both
          have running : w₃.mem.vtState = .executing := by rw [mem]; exact running
          exact restartable_flushOutbox (holds.stored (executing running)) (executing running)
            holds.states
  -- it was started before
  next =>
    exact restartable_flushOutbox (holds.stored (executing running)) (executing running)
      holds.states

/-- A rollback enters `doExecute` past the start, with the stored task still pending. -/
theorem restartable_rollback (holds : Restartable w) (pending : w.mem.vtState = .rollbackPending) :
    wp doExecute (fun _ => Restartable) SnapshotsNamed e
      (World.move ((w.withMemory fun m => { m with exState := .rollback }).note .moved)
        .executing) := by
  have stored := holds.stored (by simp [pending])
  unfold doExecute
  simp only [wp_bind, wp_memory, wp_ite]
  split
  -- past the start
  next fresh => simp at fresh
  next =>
    refine restartable_flushOutbox ⟨stored.task, stored.named⟩ (by simp) ?_
    have states := holds.states
    rw [pending] at states
    show canonicalState (durableVtState w.store) .rollback = canonicalState .executing .rollback
    revert states
    cases durableVtState w.store <;> simp [canonicalState]

theorem restartable_freezeTask {task : VehicleTaskSnapshot} (holds : Restartable w)
    (named : task.vehicleTaskId ≠ "") :
    wp (freezeTask task) (fun _ => Restartable) SnapshotsNamed e w := by
  unfold freezeTask
  simp only [wp_bind, wp_setMemory, wp_setVtState, wp_memory, wp_pure]
  have discovered := fun now => restartable_persist "checkTask" now
    (w := ((w.withMemory fun m => { m with frozenTask := task }).move .discovered).advance)
    named holds.execution holds.outbox
  refine wp_persistVehicleTask (discovered _).snapshot ?_
  have frozen := restartable_moved (e := e)
    (s := if task.consentRequired then .consentPending else .downloadPending) "consentRequired"
    (discovered (e.clock w.tick)) (by simp)
  simp only [wp_bind, wp_setVtState] at frozen
  exact frozen

/-- A reply that freezes a task names it, by assumption. -/
theorem restartable_doCheckTask (holds : Assuming TaskNamed Restartable w) :
    wp doCheckTask (fun _ => Assuming TaskNamed Restartable)
      (Assuming TaskNamed SnapshotsNamed) e w := by
  have emissions : ∀ evt w, Assuming TaskNamed Restartable w →
      wp (emit evt) (fun _ => Assuming TaskNamed Restartable)
        (Assuming TaskNamed SnapshotsNamed) e w := fun evt w holds =>
    holds.wp (touches_emit [.outbox] evt (by simp)) (restartable_emit evt)
  have event : ∀ {w : World} (event : Event), (w.effect event).store = w.store →
      Assuming TaskNamed Restartable w → Assuming TaskNamed Restartable (w.effect event) := by
    intro w event store holds cond
    have body := holds cond.2
    constructor
    · simpa only [SnapshotsNamed, store] using body.snapshot
    · rw [store]; exact body.task
    · rw [store]; exact body.states
    · rw [store]; exact body.execution
    · rw [store]; exact body.outbox
  have crash : ∀ w, Assuming TaskNamed Restartable w → Assuming TaskNamed SnapshotsNamed w :=
    fun _ holds cond => (holds cond).snapshot
  unfold doCheckTask
  simp only [wp_bind, wp_memory, wp_makeCtx]
  refine wp_call_emitting (event _ rfl holds) emissions crash fun inv w₁ holds _ => ?_
  have collected := event (.returned (.collectInventory .full) inv) rfl holds
  refine ⟨crash _ collected, ?_⟩
  refine wp_call_emitting (event _ rfl collected) emissions crash fun reply w₂ holds _ => ?_
  have answered := event (.returned (.checkTask _ _) reply) rfl holds
  refine ⟨crash _ answered, ?_⟩
  cases reply with
  -- no answer
  | error ex => exact answered
  | ok resp =>
    simp only [wp_ite]
    split
    -- an inventory that is not accepted
    next =>
      refine answered.wp (touches_requireFull [.inventory] _ _ _ (by simp))
        fun body => ?_
      exact wp_mono ((touches_requireFull [.inventory] _ _ _ (by simp)).keeps
        (fun _ _ within holds => Restartable.within holds within (by simp) (by simp) (by simp)
          (by simp) (by simp)) _ body) (fun _ _ h => h) fun _ h => h.snapshot
    next accepted =>
      cases frozen : resp.task with
      -- no task
      | none => exact answered
      -- a task is frozen, and has an id by assumption
      | some task =>
        refine Assuming.wp (P := fun w => Restartable w ∧ task.vehicleTaskId ≠ "")
          (fun cond => ⟨answered cond, ?_⟩) (proceeds_freezeTask task).touches
          fun both => restartable_freezeTask both.1 both.2
        exact cond.1 (not_not.mp accepted) task frozen

/-- A step, by the action of its state. -/
theorem restartable_step (holds : Assuming TaskNamed Restartable w) :
    wp step (fun _ => Assuming TaskNamed Restartable) (Assuming TaskNamed SnapshotsNamed) e w := by
  refine wp_step (fun _ => holds) (fun _ => restartable_doCheckTask holds)
    (fun state => ?_) (fun state => ?_) (fun state => ?_) (fun state => ?_) (fun state => ?_)
    fun state => ?_
  · exact holds.wp proceeds_doConsent.touches fun body =>
      restartable_doConsent body (by simp [state])
  · exact holds.wp proceeds_doDownload.touches fun body =>
      restartable_doDownload body (by rcases state with state | state <;> rw [state] <;> rfl)
  · exact holds.wp proceeds_doPermit.touches fun body =>
      restartable_doPermit body (by rcases state with state | state | state <;> simp [state])
  · exact holds.wp proceeds_doExecute.touches fun body => restartable_doExecute body state
  · have moved : Assuming TaskNamed Restartable (w.move .permitPending) := fun cond =>
      have body := holds cond.2
      have states := body.states
      { body with states := by rw [state] at states; exact states }
    exact moved.wp proceeds_doPermit.touches fun body => restartable_doPermit body (by simp)
  · have entered : Assuming TaskNamed (fun w' => ∃ w, Restartable w ∧
        w.mem.vtState = .rollbackPending ∧ w' = World.move
          ((w.withMemory fun m => { m with exState := .rollback }).note .moved) .executing)
        (World.move ((w.withMemory fun m => { m with exState := .rollback }).note .moved)
          .executing) := fun cond => ⟨w, holds cond.2.2, state, rfl⟩
    refine entered.wp proceeds_doExecute.touches ?_
    rintro ⟨w, body, pending, same⟩
    rw [same]
    exact restartable_rollback body pending

theorem restartable_restart (snapshot : SnapshotsNamed w) : Restartable (restart w) := by
  have mem := loadFromStore_with_snapshot snapshot.lacksSnapshot
  refine ⟨snapshot, ?_, ?_, ?_, ?_⟩ <;> rw [restart_mem, mem] <;> rfl

/-- While tasks have ids, every restart finds a snapshot. An invariant of such runs is therefore
only to be checked against restarts that do. -/
theorem run_keeps_named (J D : World → Prop) (began : ∀ op w, J w → J (w.note (.began op)))
    (quiet : ∀ w w', Within [.control, .policy] w w' → J w → J w')
    (emissions : ∀ evt w, J w → wp (emit evt) (fun _ => J) D e w)
    (steps : ∀ w, J w → wp step (fun _ => J) D e (w.note (.began .step)))
    (durable : ∀ w, J w → D w)
    (recovers : ∀ w, Assuming TaskNamed SnapshotsNamed w → D w → J (recover w))
    (restarts : ∀ w, Assuming TaskNamed SnapshotsNamed w → J w → J (restart w))
    (ops : List Operation) (restartable : Assuming TaskNamed Restartable w) (initial : J w) :
    Assuming TaskNamed Restartable (run e w ops) ∧ J (run e w ops) := by
  have noted : ∀ w event, event.part = .run → Assuming TaskNamed Restartable w →
      Assuming TaskNamed Restartable (w.note event) :=
    fun w event part holds cond => { holds cond.2 with }
  have again : ∀ w, Assuming TaskNamed SnapshotsNamed w →
      Assuming TaskNamed Restartable (restart w) :=
    fun w snapshot cond => restartable_restart (snapshot cond.2)
  have snapshot : ∀ w, Assuming TaskNamed Restartable w → Assuming TaskNamed SnapshotsNamed w :=
    fun w holds cond => (holds cond).snapshot
  refine run_keeps_emitting (fun w => Assuming TaskNamed Restartable w ∧ J w)
    (fun w => Assuming TaskNamed SnapshotsNamed w ∧ D w)
    (fun op w both => ⟨noted w _ rfl both.1, began op w both.2⟩)
    (fun w w' within both => ⟨?_, quiet w w' within both.2⟩)
    (fun evt w both => ?_) (fun w both => ?_) (fun w both => ⟨snapshot w both.1, durable w both.2⟩)
    (fun w both => ⟨again _ fun cond => both.1 cond.2, recovers w both.1 both.2⟩)
    (fun w both => ⟨again w (snapshot w both.1), restarts w (snapshot w both.1) both.2⟩)
    ops ⟨restartable, initial⟩
  · exact within.assuming both.1 fun body =>
      body.within within (by simp) (by simp) (by simp) (by simp) (by simp)
  · exact wp_and (both.1.wp (touches_emit [.outbox] evt (by simp)) (restartable_emit evt))
      (emissions evt w both.2)
  · exact wp_and (restartable_step (noted w _ rfl both.1)) (steps w both.2)

end Restartable

/-- A process that starts on an empty store. -/
theorem restartable_boot : Assuming TaskNamed Restartable (boot {}) :=
  fun _ => restartable_restart (by simp [SnapshotsNamed])

/-- Over every run from an empty store, with crashes anywhere, in which tasks have ids: whenever
no operation is running, a restart changes nothing that the next step depends on. -/
theorem restarts_invisible (env : Environment) (ops : List Operation)
    (named : Always TaskNamed (run env (boot {}) ops).trace) :
    RestartInvisible (run env (boot {}) ops) := by
  have kept := run_keeps_named (e := env) (fun _ => True) (fun _ => True) (fun _ _ _ => trivial)
    (fun _ _ _ _ => trivial) (fun _ _ _ => wp_true) (fun _ _ => wp_true) (fun _ _ => trivial)
    (fun _ _ _ => trivial) (fun _ _ _ => trivial) ops restartable_boot trivial
  exact (kept.1 named).invisible

/-- A restart in the middle of a download. -/
theorem restarts_invisible_downloading :
    let env : Environment :=
      { cooperative with
        reply := fun _ c => match c with
          | .requestDownload _ _ => .error ⟨"timeout"⟩
          | c => cooperativeReply c }
    let w := run env (boot {}) (List.replicate 3 .step)
    w.mem.vtState ≠ durableVtState w.store ∧ RestartInvisible w := by
  refine ⟨?_, @restarts_invisible _ _ ?_⟩
  · decide +kernel
  · decide +kernel

end CgwFota
