import CgwFota.Orchestrator.Advance

/-!
# Documented transitions

The phases assign states without asking the tables of documented transitions. A download that
succeeds at once skips `DOWNLOADING`, and a granted permit skips `PERMIT_PENDING`.

## Main definitions

* `TransitionsDocumented`: the states in memory and the records follow each other as documented.
* `OnCourse`: the condition under which they do.
* `Paced`: the state in memory is the stored one, but for the two places where it runs ahead.

## Main results

* `transitions_documented`: in every run from an empty or a migrated store that keeps to the
  condition.
* `download_skips_downloading`: a download that succeeds at once.

## Proof strategy

Between operations the state in memory and the stored one are paced, so one entry of the table
covers both the move and the record that is written after it. The exceptions are excluded by the
condition: a granted permit, a task frozen over a later state, and the download that succeeds at
once, for which the failures of the step are counted.
-/
namespace CgwFota

open Crash

/-- The state that a record stands for. -/
def FotaVehicleTaskRecord.state (r : FotaVehicleTaskRecord) : VehicleTaskState :=
  (vehicleTaskStateFromString r.vehicleTaskState).getD .none

/-- The states in memory follow those of the entry before. A restart is no transition, and
execution states are compared within one execution. -/
def StatesFollow (a : Entry) (past : List Entry) : Prop :=
  match a.event with
  | .restarted => True
  | _ => ∀ b ∈ past.head?, isValidVehicleTaskTransition b.mem.vtState a.mem.vtState ∧
      (b.mem.executionId = a.mem.executionId → b.mem.attemptNo = a.mem.attemptNo →
        isValidExecutionTransition b.mem.exState a.mem.exState)

/-- The state written for a task follows the one stored for the same task. -/
def RecordFollows (a : Entry) : Prop :=
  match a.event with
  | .saved (.vehicleTask r) =>
    ∀ old ∈ a.store.vehicleTask, old.vehicleTaskId = r.vehicleTaskId →
      isValidVehicleTaskTransition old.state r.state
  | _ => True

/-- Both the states and the records follow. -/
def TransitionsDocumented (a : Entry) (past : List Entry) : Prop :=
  StatesFollow a past ∧ RecordFollows a

/-- A reply that keeps a package from being ready. -/
def Event.downloadFailed : Event → Bool
  | .returned (.requestDownload _ _) (.error _) => true
  | .returned (.downloadAndVerify _ _ _) outcome => !outcome.allStagesSucceeded
  | .returned (.reportStageResult _ _) (.error _) => true
  | .returned (.reportStageResult _ _) (.ok resp) => !resp.accepted
  | _ => false

/-- Some package failed since the current operation began. -/
def downloadFailedInStep : List Entry → Bool
  | [] => false
  | a :: past =>
    match a.event with
    | .began _ => false
    | event => event.downloadFailed || downloadFailedInStep past

/-- No permit is granted, unless the process crashes on it; a task is frozen over its own record
only from a state that may be discovered again; and the download of a task that is stored as
`DOWNLOAD_PENDING` does not succeed at once. -/
def OnCourse (env : Environment) (a : Entry) (past : List Entry) : Prop :=
  match a.event with
  | .returned (.requestInstall _ _) (.ok resp) => resp.allowed → env.crashes a.tick
  | .returned (.checkTask _ _) (.ok resp) =>
    resp.inventoryDisposition = .accepted → ∀ task ∈ resp.task, ∀ old ∈ a.store.vehicleTask,
      old.vehicleTaskId = task.vehicleTaskId →
        isValidVehicleTaskTransition old.state .discovered ∨ env.crashes a.tick
  | .moved =>
    a.mem.vtState = .ready ∨ a.mem.vtState = .downloading →
      durableVtState a.store = .downloadPending → downloadFailedInStep past
  | _ => True

instance (a : Entry) (past : List Entry) : Decidable (StatesFollow a past) := by
  obtain ⟨_ | _, _, _, _⟩ := a
  all_goals unfold StatesFollow; infer_instance

instance (a : Entry) : Decidable (RecordFollows a) := by
  obtain ⟨_ | _ | _ | s | _, _, _, _⟩ := a
  all_goals unfold RecordFollows; try infer_instance
  rcases s with _ | _ <;> infer_instance

instance (a : Entry) (past : List Entry) : Decidable (TransitionsDocumented a past) :=
  inferInstanceAs (Decidable (_ ∧ _))

instance (env : Environment) (a : Entry) (past : List Entry) : Decidable (OnCourse env a past) := by
  obtain ⟨_ | _ | ⟨c, r⟩ | _, _, _, _⟩ := a
  all_goals unfold OnCourse; try infer_instance
  rcases c with _ | _ <;> try infer_instance
  all_goals rcases r with _ | _ <;> infer_instance

/-- The states that are reached without a permit. -/
def isEarly : VehicleTaskState → Bool
  | .none | .discovered | .consentPending | .downloadPending | .downloading | .ready
  | .waitingWindow | .ended => true
  | .permitPending | .executing | .retryPending | .rollbackPending | .paused | .completed => false

/-- What also holds at a crash. -/
structure OrderlyStored (w : World) : Prop where
  documented : Always TransitionsDocumented w.trace
  last : ∀ b ∈ w.trace.head?, b.mem.vtState = w.mem.vtState ∧ b.mem.exState = w.mem.exState
  early : lacksSnapshot w.store ∨ isEarly (durableVtState w.store)

/-- The state in memory is the stored one, except after a download that was given up and before
the first task of a process. -/
def Paced (live stored : VehicleTaskState) : Prop :=
  live = .none ∨ live = stored ∧ isEarly live ∨ live = .downloading ∧ stored = .downloadPending

/-- The invariant between operations. -/
structure Orderly (w : World) : Prop extends OrderlyStored w where
  paced : Paced w.mem.vtState (durableVtState w.store)

section Orderly

variable {e : Environment} {w w' : World} {parts : List Part}

theorem isValidVehicleTaskTransition_refl (s : VehicleTaskState) :
    isValidVehicleTaskTransition s s := by
  simp [isValidVehicleTaskTransition]

theorem isValidExecutionTransition_refl (s : ExecutionState) : isValidExecutionTransition s s := by
  simp [isValidExecutionTransition]

theorem statesFollow_of_same {a : Entry} {past : List Entry}
    (same : ∀ b ∈ past.head?, b.mem.vtState = a.mem.vtState ∧ b.mem.exState = a.mem.exState) :
    StatesFollow a past := by
  unfold StatesFollow
  split
  next => trivial
  next =>
    intro b head
    rw [(same b head).1, (same b head).2]
    exact ⟨isValidVehicleTaskTransition_refl _, fun _ _ => isValidExecutionTransition_refl _⟩

theorem recordFollows_of_part (a : Entry) (phase : a.event.part ≠ .phase) : RecordFollows a := by
  unfold RecordFollows
  split
  next same => exact absurd (congrArg Event.part same) phase
  next => trivial

theorem Entry.On.states {a : Entry} (on : a.On parts w) (phase : .phase ∉ parts)
    (execution : .execution ∉ parts) :
    a.mem.vtState = w.mem.vtState ∧ a.mem.exState = w.mem.exState :=
  ⟨(on.2 .phase phase).1, (on.2 .execution execution).1⟩

/-- The newest entry still shows the states in memory, after entries that left them alone. -/
theorem OrderlyStored.head (h : OrderlyStored w) {before : List Entry}
    (on : ∀ b ∈ before, b.On parts w) (phase : .phase ∉ parts) (execution : .execution ∉ parts) :
    ∀ b ∈ (before ++ w.trace).head?,
      b.mem.vtState = w.mem.vtState ∧ b.mem.exState = w.mem.exState := by
  intro b head
  cases before with
  | nil => exact h.last b head
  | cons a before =>
    obtain rfl : a = b := by simpa using head
    exact (on a (by simp)).states phase execution

/-- What touches neither of the states keeps the order. -/
theorem OrderlyStored.within (h : OrderlyStored w) (within : Within parts w w')
    (phase : .phase ∉ parts) (execution : .execution ∉ parts) : OrderlyStored w' where
  documented := within.always_on (fun a before on rest => by
    refine ⟨statesFollow_of_same fun b head => ?_, recordFollows_of_part a fun same =>
      phase (same ▸ on.1)⟩
    have same := on.states phase execution
    rw [same.1, same.2]
    exact h.head rest phase execution b head) h.documented
  last := by
    obtain ⟨new, trace, on⟩ := within.trace
    rw [trace, (within.same .phase phase).1, (within.same .execution execution).1]
    exact h.head on phase execution
  early := by
    have record := (within.same .phase phase).2
    simpa only [lacksSnapshot, durableVtState, record] using h.early

theorem Orderly.within (h : Orderly w) (within : Within parts w w') (phase : .phase ∉ parts)
    (execution : .execution ∉ parts) : Orderly w' where
  toOrderlyStored := h.toOrderlyStored.within within phase execution
  paced := by
    obtain ⟨state, record⟩ := within.same .phase phase
    simpa only [durableVtState, record, state] using h.paced

theorem OrderlyStored.move (h : OrderlyStored w) {s : VehicleTaskState}
    (valid : isValidVehicleTaskTransition w.mem.vtState s) : OrderlyStored (w.move s) where
  documented := by
    refine ⟨⟨fun b head => ?_, trivial⟩, h.documented⟩
    obtain ⟨state, exState⟩ := h.last b head
    rw [state, exState]
    exact ⟨valid, fun _ _ => isValidExecutionTransition_refl _⟩
  last := by simp
  early := h.early

/-- A record may be written if its state follows the stored one of the same task. -/
theorem OrderlyStored.persist (h : OrderlyStored w) (early : isEarly w.mem.vtState)
    (follows : ∀ old ∈ w.store.vehicleTask,
      old.vehicleTaskId = w.mem.frozenTask.vehicleTaskId →
        isValidVehicleTaskTransition old.state w.mem.vtState) (action : String) (now : Int) :
    Orderly (w.persist action now) where
  documented := by
    refine ⟨⟨statesFollow_of_same h.last, fun old stored same => ?_⟩, h.documented⟩
    simpa [vehicleTaskRecord, FotaVehicleTaskRecord.state] using follows old stored same
  last := by simp
  early := .inr (by rw [durableVtState_persist]; exact early)
  paced := .inr (.inl ⟨by rw [durableVtState_persist]; rfl, early⟩)

theorem durableVtState_of_mem {old : FotaVehicleTaskRecord} (stored : old ∈ w.store.vehicleTask) :
    durableVtState w.store = old.state := by
  rw [durableVtState, show w.store.vehicleTask = some old from stored]
  rfl

/-- The newest entry is the reply, and the process did not crash on it. -/
def Answered (e : Environment) {c : Call} (r : c.Reply) (w : World) : Prop :=
  ∃ a past, w.trace = a :: past ∧ a.event = .returned c r ∧
    a.store.vehicleTask = w.store.vehicleTask ∧ e.crashes a.tick = false

/-- A call moves nothing, and its reply is the newest entry. -/
theorem orderly_call {c : Call} {Q : c.Reply → World → Prop} (holds : Orderly w)
    (next : ∀ r w', Orderly w' → w'.mem.vtState = w.mem.vtState →
      w'.store.vehicleTask = w.store.vehicleTask → Answered e r w' → Q r w') :
    wp (call c) Q OrderlyStored e w := by
  have event : ∀ {w : World} (event : Event), event.part = c.part → Orderly w →
      Orderly (w.effect event) := fun event part holds =>
    holds.within (.effect event (by simp [part]) : Within [c.part] _ _)
      (by cases c <;> simp [Call.part]) (by cases c <;> simp [Call.part])
  have pending : ∀ {w'}, Within [.outbox] (w.effect (.called c)) w' → Orderly w' := fun within =>
    (event _ rfl holds).within within (by simp) (by simp)
  refine wp_call_unless (fun w' within => (pending within).toOrderlyStored) fun w' r within => ?_
  have returned := event (.returned c r) rfl (pending within)
  obtain ⟨state, record⟩ := within.same .phase (by simp)
  exact ⟨returned.toOrderlyStored, fun alive =>
    next r _ returned state record ⟨_, _, rfl, rfl, rfl, alive⟩⟩

/-- Setting a state and persisting it, where it follows both the live and the stored one. -/
theorem OrderlyStored.settle (h : OrderlyStored w) {s : VehicleTaskState} (early : isEarly s)
    (live : isValidVehicleTaskTransition w.mem.vtState s)
    (follows : ∀ old ∈ w.store.vehicleTask,
      old.vehicleTaskId = w.mem.frozenTask.vehicleTaskId →
        isValidVehicleTaskTransition old.state s) (action : String) (now : Int) :
    Orderly ((w.move s).advance.persist action now) :=
  ((h.move live).within .pause (by simp) (by simp)).persist early follows action now

/-- A task is frozen from a state that may be discovered again. -/
theorem orderly_freezeTask {task : VehicleTaskSnapshot} (holds : OrderlyStored w)
    (live : isValidVehicleTaskTransition w.mem.vtState .discovered)
    (follows : ∀ old ∈ w.store.vehicleTask, old.vehicleTaskId = task.vehicleTaskId →
      isValidVehicleTaskTransition old.state .discovered) :
    wp (freezeTask task) (fun _ => Orderly) OrderlyStored e w := by
  have frozen : OrderlyStored (w.withMemory fun m => { m with frozenTask := task }) :=
    ⟨holds.documented, holds.last, holds.early⟩
  have discovered := frozen.settle rfl live follows "checkTask" (e.clock w.tick)
  have next : ∀ s ∈ [VehicleTaskState.consentPending, .downloadPending], ∀ now,
      Orderly
        (((((w.withMemory fun m => { m with frozenTask := task }).move .discovered).advance.persist
        "checkTask" (e.clock w.tick)).move s).advance.persist "consentRequired" now) := by
    intro s member now
    have follows : ∀ s ∈ [VehicleTaskState.consentPending, .downloadPending],
        isEarly s ∧ isValidVehicleTaskTransition .discovered s := by decide
    refine discovered.settle (follows s member).1 (follows s member).2 (fun old stored _ => ?_) _
      now
    rw [← durableVtState_of_mem stored, durableVtState_persist]
    exact (follows s member).2
  unfold freezeTask
  rw [wp_bind, wp_setMemory, wp_bind, wp_setVtState, wp_bind]
  refine wp_persistVehicleTask discovered.toOrderlyStored ?_
  rw [wp_bind, wp_setVtState, wp_bind]
  have next := next (if task.consentRequired then .consentPending else .downloadPending)
    (by split <;> simp)
  exact wp_persistVehicleTask (next _).toOrderlyStored (next _)

/-- The check of the task. -/
theorem orderly_doCheckTask (holds : Orderly w)
    (state : w.mem.vtState = .none ∨ w.mem.vtState = .discovered) :
    wp doCheckTask (fun _ => Assuming (OnCourse e) Orderly) (Assuming (OnCourse e) OrderlyStored)
      e w := by
  have lift : ∀ {D : World → Prop} {w : World}, D w → Assuming (OnCourse e) D w :=
    fun holds _ => holds
  unfold doCheckTask
  simp only [wp_bind, wp_memory, wp_makeCtx]
  refine wp_mono (orderly_call (Q := fun _ w₁ => Orderly w₁ ∧ w₁.mem.vtState = w.mem.vtState)
    holds fun inv w₁ holds state₁ _ _ => ⟨holds, state₁⟩) (fun inv w₁ known => ?_) fun _ => lift
  obtain ⟨holds, state₁⟩ := known
  refine wp_mono (orderly_call (Q := fun reply w₂ => Orderly w₂ ∧
      w₂.mem.vtState = w₁.mem.vtState ∧ Answered e reply w₂) holds
    fun reply w₂ holds state₂ _ answered => ⟨holds, state₂, answered⟩)
    (fun reply w₂ known => ?_) fun _ => lift
  obtain ⟨holds, state₂, a, past, trace, event, record, alive⟩ := known
  cases reply with
  -- no answer
  | error ex => exact lift holds
  | ok resp =>
    simp only [wp_ite]
    split
    -- an inventory that is not accepted
    next =>
      exact wp_mono ((touches_requireFull [.inventory] _ _ _ (by simp)).keeps
        (fun _ _ within holds => Orderly.within holds within (by simp) (by simp)) _ holds)
        (fun _ _ => lift) fun _ h => lift h.toOrderlyStored
    next accepted =>
      cases frozen : resp.task with
      -- no task
      | none => exact lift holds
      -- a task, over a state that fits by assumption
      | some task =>
        refine Assuming.wp (P := fun w => Orderly w ∧ ∀ old ∈ w.store.vehicleTask,
            old.vehicleTaskId = task.vehicleTaskId →
              isValidVehicleTaskTransition old.state .discovered)
          (fun cond => ⟨holds, fun old stored same => ?_⟩) (proceeds_freezeTask task).touches
          fun both => orderly_freezeTask both.1.toOrderlyStored ?_ both.2
        · rw [trace] at cond
          have reply : OnCourse e a past := cond.1
          simp only [OnCourse, event] at reply
          exact (reply (not_not.mp accepted) task frozen old (record ▸ stored) same).resolve_right
            (by simp [alive])
        · rw [state₂, state₁]
          rcases state with state | state <;> rw [state] <;> rfl

/-- Where store and memory agree, one table entry is enough. -/
theorem orderly_moved {source : VehicleTaskState} (target : VehicleTaskState) (action : String)
    (holds : OrderlyStored w)
    (live : w.mem.vtState = source) (stored : durableVtState w.store = source)
    (early : isEarly target) (valid : isValidVehicleTaskTransition source target) :
    wp (setVtState target >>= fun _ => persistVehicleTask action) (fun _ => Orderly)
      OrderlyStored e w := by
  simp only [wp_bind, wp_setVtState]
  have settled := holds.settle early (live ▸ valid)
    (fun old found _ => by rwa [← durableVtState_of_mem found, stored]) action
  exact wp_persistVehicleTask (settled _).toOrderlyStored (settled _)

theorem Paced.stored {live stored : VehicleTaskState} (h : Paced live stored)
    (running : live ≠ .none) (settled : live ≠ .downloading) : live = stored ∧ isEarly live := by
  rcases h with none | same | ⟨downloading, -⟩
  · exact absurd none running
  · exact same
  · exact absurd downloading settled

/-- The consent, with its two ways on. -/
theorem orderly_doConsent (holds : Orderly w) (state : w.mem.vtState = .consentPending) :
    wp doConsent (fun _ => Orderly) OrderlyStored e w := by
  have stored := (holds.paced.stored (by simp [state]) (by simp [state])).1
  unfold doConsent
  simp only [wp_bind, wp_memory, wp_nowMs, wp_makeCtx]
  refine orderly_call holds fun choice w₁ holds state₁ record₁ _ => ?_
  have waiting := holds.within .pause (by simp) (by simp)
  refine orderly_call waiting fun reply w₂ holds state₂ record₂ _ => ?_
  have live : w₂.mem.vtState = .consentPending := state₂.trans (state₁.trans state)
  have record : w₂.store.vehicleTask = w.store.vehicleTask := record₂.trans record₁
  have durable : durableVtState w₂.store = .consentPending := by
    rw [durableVtState, record]
    exact (state ▸ stored).symm
  cases reply with
  -- no answer
  | error ex => exact holds
  -- accepted or refused, both documented
  | ok resp =>
    simp only [wp_bind, wp_nowMs, wp_memory, wp_pure]
    have saved : ∀ r, Orderly (w₂.advance.effect (.saved (.consent r))) := fun r =>
      (holds.within .pause (by simp) (by simp)).within
        (.effect _ (by simp [Event.part, Save.part]) : Within [.consent] _ _) (by simp) (by simp)
    refine wp_save (saved _).toOrderlyStored ?_
    have valid : ∀ s ∈ [VehicleTaskState.downloadPending, .ended],
        isEarly s ∧ isValidVehicleTaskTransition .consentPending s := by decide
    have answered := valid (if resp.effectiveConsentStatus = .accepted then .downloadPending
      else .ended) (by split <;> simp)
    have moved := fun r => orderly_moved (e := e) _ "consent" (saved r).toOrderlyStored live durable
      answered.1 answered.2
    simp only [wp_bind] at moved
    exact moved _

/-! ### Downloads -/

theorem downloadFailedInStep_cons (a : Entry) (past : List Entry) (run : a.event.part ≠ .run) :
    downloadFailedInStep (a :: past) = (a.event.downloadFailed || downloadFailedInStep past) := by
  rw [downloadFailedInStep]
  split
  next same => exact absurd (congrArg Event.part same) run
  next => rfl

theorem downloadFailed_of_part {event : Event} (download : event.part ≠ .download) :
    event.downloadFailed = false := by
  unfold Event.downloadFailed
  split <;> first | exact absurd rfl download | rfl

theorem downloadFailedInStep_within (within : Within parts w w') (run : .run ∉ parts)
    (download : .download ∉ parts) :
    downloadFailedInStep w'.trace = downloadFailedInStep w.trace :=
  within.observed fun a past member => by
    rw [downloadFailedInStep_cons a past fun same => run (same ▸ member),
      downloadFailed_of_part fun same => download (same ▸ member)]
    rfl

/-- A call adds to the failures what its reply tells. -/
theorem downloadFailed_call {c : Call} {Q : c.Reply → World → Prop} (part : c.part = .download)
    (next : ∀ r w', (downloadFailedInStep w'.trace =
      ((Event.returned c r).downloadFailed || downloadFailedInStep w.trace)) → Q r w') :
    wp (call c) Q (fun _ => True) e w := by
  refine wp_call (fun _ _ => trivial) fun w' r within => ⟨trivial, next r _ ?_⟩
  have called : downloadFailedInStep w'.trace = downloadFailedInStep w.trace := by
    rw [downloadFailedInStep_within within (by simp) (by simp), World.effect_trace,
      downloadFailedInStep_cons _ _ (by simp [Event.part, part])]
    rfl
  rw [World.effect_trace, downloadFailedInStep_cons _ _ (by simp [Event.part, part]), called]

/-- A package that goes wrong clears `allReady`, or ends the phase. -/
theorem downloadFailed_concludeDownload {entry : FotaDownloadRecord} {cleared before : Bool}
    {outcome : DownloadOutcome}
    (told : downloadFailedInStep w.trace = true →
      before = true ∨ cleared = true ∨ outcome.allStagesSucceeded = false) :
    wp (concludeDownload entry cleared outcome)
      (fun r w' => ∀ cleared error, r = .next cleared error →
        downloadFailedInStep w'.trace = true → before = true ∨ cleared = true)
      (fun _ => True) e w := by
  have saved : ∀ r : FotaDownloadRecord,
      downloadFailedInStep (w.effect (.saved (.download r))).trace =
        downloadFailedInStep w.trace := fun r => by
    rw [World.effect_trace, downloadFailedInStep_cons _ _ (by simp [Event.part, Save.part])]
    rfl
  unfold concludeDownload
  simp only [wp_ite, wp_bind, wp_pure]
  split
  next succeeded =>
    refine wp_save trivial ?_
    rintro cleared error ⟨⟩ failed
    -- it failed before, it was cleared, or a stage failed
    rcases told (saved entry ▸ failed) with first | first | first
    · exact .inl first
    · exact .inr first
    · simp [first] at succeeded
  next =>
    refine wp_save trivial ?_
    rintro cleared error ⟨⟩ _
    exact .inr rfl

/-- A package that goes on without being cleared has not failed. -/
theorem downloadFailed_downloadPackage (pkg : PackageSummary) :
    wp (downloadPackage pkg)
      (fun r w' => ∀ cleared error, r = .next cleared error →
        downloadFailedInStep w'.trace = true →
          downloadFailedInStep w.trace = true ∨ cleared = true)
      (fun _ => True) e w := by
  have stops :
      ∀ {w' : World} {before : Bool} (entry : FotaDownloadRecord) (ex : FotaCloudException),
      wp (abandonDownload entry ex)
        (fun r w' => ∀ cleared error, r = .next cleared error →
          downloadFailedInStep w'.trace = true → before = true ∨ cleared = true)
        (fun _ => True) e w' := by
    intro w' before entry ex
    unfold abandonDownload
    simp only [wp_bind, wp_setVtState, wp_pure]
    refine wp_save trivial ?_
    rintro cleared error ⟨⟩
  unfold downloadPackage
  simp only [wp_bind, wp_store, wp_ite, wp_note, wp_memory, wp_makeCtx, wp_pure]
  split
  -- ready before
  next =>
    rintro cleared error ⟨⟩ failed
    exact .inl (by simpa [downloadFailedInStep, Event.downloadFailed] using failed)
  next =>
    refine downloadFailed_call rfl fun reply w₁ granted => ?_
    cases reply with
    -- no grant
    | error ex => exact stops _ ex
    | ok grant =>
      have granted : downloadFailedInStep w₁.trace = downloadFailedInStep w.trace := by
        simpa [Event.downloadFailed] using granted
      unfold verifyPackage
      simp only [wp_bind, wp_ite, wp_nowMs, wp_makeCtx]
      refine downloadFailed_call rfl fun outcome w₂ loaded => ?_
      rw [granted] at loaded
      split
      next =>
        refine downloadFailed_call (w := w₂.advance) rfl fun reply w₃ reported => ?_
        have reported : downloadFailedInStep w₃.trace = _ :=
          reported.trans (by rw [World.advance_trace, loaded])
        cases reply with
        -- no answer to the report
        | error ex => exact stops _ ex
        | ok resp =>
          simp only [wp_ite]
          split
          -- accepted
          next accepted =>
            refine downloadFailed_concludeDownload fun failed => ?_
            simp only [Bool.and_eq_true] at accepted
            simp only [reported, Event.downloadFailed, accepted.1, accepted.2] at failed
            exact .inl (by simpa using failed)
          -- not accepted
          next => exact downloadFailed_concludeDownload fun _ => .inr (.inl rfl)
      -- a stage failed
      next =>
        refine downloadFailed_concludeDownload fun failed => ?_
        simp only [loaded, Event.downloadFailed, Bool.or_eq_true, Bool.not_eq_true'] at failed
        exact failed.elim (fun outcome => .inr (.inr outcome)) .inl

/-- All packages, by induction on the list. -/
theorem downloadFailed_downloadPackages (packages : List PackageSummary) (allReady : Bool)
    (error : String) (told : downloadFailedInStep w.trace = true → allReady = false) :
    wp (downloadPackages packages allReady error)
      (fun r w' => ∀ allReady error, r = .ok (allReady, error) →
        downloadFailedInStep w'.trace = true → allReady = false)
      (fun _ => True) e w := by
  induction packages generalizing w allReady error with
  | nil =>
    rintro allReady error ⟨⟩
    exact told
  | cons pkg rest ih =>
    unfold downloadPackages
    simp only [wp_bind]
    refine wp_mono (downloadFailed_downloadPackage pkg) (fun r w' told' => ?_) fun _ h => h
    cases r with
    -- the loop stops
    | stop ex => rintro allReady error ⟨⟩
    -- it goes on
    | next cleared ex =>
      refine ih _ _ fun failed => ?_
      rcases told' cleared ex rfl failed with before | cleared
      · simp [told before]
      · simp [cleared]

/-- The packages move the task to `DOWNLOADING` at most. -/
theorem orderly_downloadPackages (packages : List PackageSummary) (allReady : Bool)
    (error : String) (holds : Orderly w)
    (state : w.mem.vtState = .downloadPending ∨ w.mem.vtState = .downloading) :
    wp (downloadPackages packages allReady error)
      (fun _ w' => Orderly w' ∧
        (w'.mem.vtState = .downloadPending ∨ w'.mem.vtState = .downloading))
      OrderlyStored e w := by
  refine wp_mono ((proceeds_downloadPackages packages allReady error).keeps
    (I := fun w => Orderly w ∧ (w.mem.vtState = .downloadPending ∨ w.mem.vtState = .downloading))
    ?_ ?_ (fun _ _ _ never => by simp at never) w ⟨holds, state⟩) (fun _ _ h => h)
    fun _ h => h.1.toOrderlyStored
  · rintro w w' within ⟨holds, state⟩
    exact ⟨holds.within within (by simp) (by simp),
      by rwa [(within.same .phase (by simp)).1]⟩
  · rintro w s rfl ⟨holds, state⟩
    have valid : isValidVehicleTaskTransition w.mem.vtState .downloading := by
      rcases state with state | state <;> rw [state] <;> rfl
    refine ⟨{ holds.toOrderlyStored.move valid with paced := ?_ }, .inr rfl⟩
    show Paced .downloading (durableVtState w.store)
    rcases holds.paced with none | ⟨stored, -⟩ | ⟨-, stored⟩
    -- no task
    · rcases state with state | state <;> simp [state] at none
    -- the stored state
    · rw [← stored]
      rcases state with state | state <;> rw [state]
      · exact .inr (.inr ⟨rfl, rfl⟩)
      · exact .inr (.inl ⟨rfl, rfl⟩)
    -- given up before
    · exact .inr (.inr ⟨rfl, stored⟩)

/-- A task stored as `DOWNLOAD_PENDING` does not become ready, by assumption; any other step from
the two states that download is documented. -/
theorem orderly_doDownload (holds : Orderly w)
    (state : w.mem.vtState = .downloadPending ∨ w.mem.vtState = .downloading)
    (began : downloadFailedInStep w.trace = false) :
    wp doDownload (fun _ => Assuming (OnCourse e) Orderly) (Assuming (OnCourse e) OrderlyStored)
      e w := by
  unfold doDownload
  simp only [wp_bind, wp_memory]
  refine wp_mono (wp_and (orderly_downloadPackages _ true "" holds state)
    (downloadFailed_downloadPackages _ true "" (by simp [began]))) (fun r w₁ both => ?_)
    fun _ both _ => both.1
  obtain ⟨⟨holds, state⟩, told⟩ := both
  cases r with
  -- the loop stopped
  | error ex => exact fun _ => holds
  -- it came to its end
  | ok r =>
    obtain ⟨allReady, error⟩ := r
    simp only [wp_bind, wp_setVtState, wp_memory, wp_pure]
    have settled : ∀ now, Assuming (OnCourse e) Orderly ((w₁.move
        (if allReady then .ready else .downloading)).advance.persist "download" now) := by
      intro now cond
      have moved : OnCourse e ⟨.moved, _, _, _⟩ _ := cond.2.1
      simp only [OnCourse] at moved
      have stored : durableVtState w₁.store = .downloadPending → allReady = false := fun stored =>
        told allReady error rfl (moved (by split <;> simp) stored)
      have durable : durableVtState w₁.store = .downloadPending ∨
          durableVtState w₁.store = .downloading ∧ w₁.mem.vtState = .downloading := by
        rcases holds.paced with none | ⟨same, -⟩ | ⟨-, pending⟩
        -- no task
        · rcases state with state | state <;> simp [state] at none
        -- memory and store agree
        · rw [← same]
          exact state.imp id fun state => ⟨state, state⟩
        -- the download was given up before
        · exact .inl pending
      have follows : ∀ s ∈ [w₁.mem.vtState, durableVtState w₁.store],
          isValidVehicleTaskTransition s (if allReady then .ready else .downloading) := by
        intro s member
        rcases durable with pending | ⟨downloading, live⟩
        -- stored as pending, so it does not become ready
        · rw [stored pending]
          rw [pending] at member
          rcases state with state | state <;> rw [state] at member <;> revert s <;> decide
        -- downloading, from where both ways on are documented
        · rw [downloading, live] at member
          obtain rfl : s = .downloading := by simpa using member
          cases allReady <;> rfl
      refine holds.toOrderlyStored.settle (by split <;> rfl) (follows _ (by simp))
        (fun old found _ => ?_) _ _
      rw [← durableVtState_of_mem found]
      exact follows _ (by simp)
    exact wp_persistVehicleTask (fun cond => (settled _ cond).toOrderlyStored) (settled _)

/-- A permit is granted only where the process crashes on the reply. -/
theorem orderly_doPermit (holds : Orderly w) :
    wp doPermit (fun _ => Assuming (OnCourse e) Orderly) (Assuming (OnCourse e) OrderlyStored)
      e w := by
  have lift : ∀ {α : Type} {m : Orch α} {w : World}, wp m (fun _ => Orderly) OrderlyStored e w →
      wp m (fun _ => Assuming (OnCourse e) Orderly) (Assuming (OnCourse e) OrderlyStored) e w :=
    fun kept => wp_mono kept (fun _ _ h _ => h) fun _ h _ => h
  unfold doPermit requestPermit
  simp only [wp_bind, wp_memory, wp_store, wp_nowMs, wp_makeCtx, wp_ite, wp_pure]
  split
  next ready =>
    -- a ready task waits
    have stored := (holds.paced.stored (by simp [ready]) (by simp [ready])).1
    have moved := orderly_moved (e := e) .waitingWindow "waitingWindow"
      holds.toOrderlyStored ready (stored.symm.trans ready) rfl rfl
    simpa only [wp_bind] using lift moved
  next =>
    have asked := holds.within .pause (by simp) (by simp)
    split
    -- outside the window
    next => exact fun _ => asked
    next =>
      refine wp_mono (orderly_call (Q := fun _ => Orderly) asked fun _ _ holds _ _ _ => holds)
        (fun guards w₁ holds => ?_) fun _ h _ => h
      split
      -- the guards do not hold
      next => exact fun _ => holds
      next =>
        refine wp_mono (orderly_call (Q := fun _ => Orderly) holds fun _ _ holds _ _ _ => holds)
          (fun ev w₂ holds => ?_) fun _ h _ => h
        refine wp_mono (orderly_call (Q := fun reply w₃ => Orderly w₃ ∧ Answered e reply w₃) holds
          fun _ _ holds _ _ answered => ⟨holds, answered⟩) (fun reply w₃ known => ?_)
          fun _ h _ => h
        obtain ⟨holds, a, past, trace, event, -, alive⟩ := known
        cases reply with
        -- no answer
        | error ex => exact fun _ => holds
        | ok resp =>
          simp only [wp_ite, wp_pure]
          split
          -- denied
          next => exact fun _ => holds
          -- granted, which the process does not survive
          next granted =>
            refine Assuming.wp (P := fun _ => False) (fun cond => ?_)
              (proceeds_acceptPermit resp).touches False.elim
            rw [trace] at cond
            have reply : OnCourse e a past := cond.1
            simp only [OnCourse, event] at reply
            simpa [alive] using reply (by simpa using granted)

/-- A step, by the action of its state. -/
theorem orderly_step (holds : Assuming (OnCourse e) Orderly w)
    (began : downloadFailedInStep w.trace = false) :
    wp step (fun _ => Assuming (OnCourse e) Orderly) (Assuming (OnCourse e) OrderlyStored) e w := by
  have late : ∀ {s}, isEarly s = false → w.mem.vtState = s → Always (OnCourse e) w.trace →
      False := by
    rintro s late rfl cond
    rcases (holds cond).paced with none | ⟨-, early⟩ | ⟨downloading, -⟩
    -- states that need a permit are not reached
    · simp [none, isEarly] at late
    · simp [late] at early
    · simp [downloading, isEarly] at late
  refine wp_step (fun _ => holds) (fun state => ?_) (fun state => ?_) (fun state => ?_)
    (fun _ => ?_) (fun state => ?_) (fun state => ?_) fun state => ?_
  · exact holds.wp_of proceeds_doCheckTask.touches fun body => orderly_doCheckTask body state
  · exact holds.wp proceeds_doConsent.touches fun body => orderly_doConsent body state
  · exact holds.wp_of proceeds_doDownload.touches fun body => orderly_doDownload body state began
  · exact holds.wp_of proceeds_doPermit.touches orderly_doPermit
  · exact Assuming.wp (P := fun _ => False) (late rfl state) proceeds_doExecute.touches
      False.elim
  · exact Assuming.wp (P := fun _ => False) (fun cond => late rfl state cond.2)
      proceeds_doPermit.touches False.elim
  · exact Assuming.wp (P := fun _ => False) (fun cond => late rfl state cond.2.2)
      proceeds_doExecute.touches False.elim

theorem orderly_restart (holds : OrderlyStored w) : Orderly (restart w) := by
  refine ⟨⟨⟨⟨trivial, trivial⟩, holds.documented⟩, by simp, holds.early⟩, ?_⟩
  cases lacks : lacksSnapshot w.store with
  | true => exact .inl (by rw [restart_mem, loadFromStore_without_snapshot lacks])
  | false =>
    have early := holds.early.resolve_left (by simp [lacks])
    exact .inr (.inl (by rw [restart_mem, loadFromStore_with_snapshot lacks]; exact ⟨rfl, early⟩))

end Orderly

theorem FirstStore.early {s : FotaCloudStateStore} (first : FirstStore s) :
    lacksSnapshot s ∨ isEarly (durableVtState s) := by
  cases task : s.vehicleTask with
  | none => exact .inr (by simp [durableVtState, task, isEarly])
  | some r => exact .inl (by simpa [lacksSnapshot, task] using first.vehicleTask r task)

/-- Over every run from an empty or a migrated store, with crashes anywhere: as long as no permit
is granted, tasks are frozen anew only from states that may be discovered again, and downloads of
tasks stored as `DOWNLOAD_PENDING` do not succeed at once, every transition is documented. -/
theorem transitions_documented (env : Environment) (s : FotaCloudStateStore) (first : FirstStore s)
    (ops : List Operation) (onCourse : Always (OnCourse env) (run env (boot s) ops).trace) :
    Always TransitionsDocumented (run env (boot s) ops).trace := by
  let J := Assuming (OnCourse env) Orderly
  let D := Assuming (OnCourse env) OrderlyStored
  have noted : ∀ w event, event.part = .run → J w → J (w.note event) :=
    fun w event part holds cond => (holds cond.2).within (.note_run event part) (by simp) (by simp)
  have restarts : ∀ w, D w → J (restart w) := fun w holds cond => orderly_restart (holds cond.2)
  have initial : J (boot s) := restarts _ fun _ => ⟨trivial, by simp, first.early⟩
  exact (run_keeps J D (fun op w => noted w (.began op) rfl)
    (fun w w' within holds => within.assuming holds fun body =>
      body.within within (by simp) (by simp))
    (fun w holds => orderly_step (noted w _ rfl holds) rfl)
    (fun w holds cond => (holds cond).toOrderlyStored)
    (fun w holds => restarts _ fun cond =>
      (holds cond.2).within (.note_run .crashed rfl) (by simp) (by simp))
    (fun w holds => restarts _ fun cond => (holds cond).toOrderlyStored) ops initial
    onCourse).documented

/-- A failing download, a denied permit and no more. -/
theorem transitions_documented_denied :
    let env : Environment :=
      { cooperative with
        reply := fun n c => match c with
          | .downloadAndVerify _ _ _ =>
            ({ allStagesSucceeded := decide (25 < n) } : DownloadOutcome)
          | .requestInstall _ _ => .ok { allowed := false }
          | c => cooperativeReply c }
    let w := run env (boot {}) (List.replicate 7 .step)
    w.mem.vtState = .waitingWindow ∧ Always (OnCourse env) w.trace ∧
      Always TransitionsDocumented w.trace := by
  refine ⟨?_, ?_, @transitions_documented _ _ .empty _ ?_⟩
  · decide +kernel
  · decide +kernel
  · decide +kernel

/-- A download that succeeds at once takes the task from `DOWNLOAD_PENDING` to `READY`. -/
theorem download_skips_downloading :
    ¬Always TransitionsDocumented (run cooperative (boot {}) (List.replicate 3 .step)).trace := by
  decide +kernel

end CgwFota
