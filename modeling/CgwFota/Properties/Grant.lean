import CgwFota.Orchestrator.Advance

/-!
# Granted permits

A grant is written by two saves: first the task becomes `EXECUTING`, then the execution is stored. A
crash between them leaves an executing task without the permit it was granted.

## Main definitions

* `Entry.Grants`, `GrantedTo`: the reply that granted the stored execution to the task.
* `Memory.Carries`: the permit in memory is that of the stored execution.
* `StartGranted`: a start uses a permit that was granted to the task and is stored.
* `GrantStored`: the condition on crashes, that the execution in memory is the stored one.
* `GrantDurable`, `GrantSurvives`, `GrantHeld`, `GrantUsed`, `GrantIdle`: the invariant at the
  places of a run.

## Main results

* `starts_granted`: under the condition every start of a run uses a granted permit.
* `unsaved_grant_is_started`: a crash between the two saves, and an empty permit is started.

## Proof strategy

An unstarted execution of an executing task carries its grant, in memory and, separately, in the
store, because a restart replaces the one by the other. Only `acceptPermit` makes a task execute,
and only there the two disagree for a moment. Once the installation is under way nothing is claimed
of the permit any more.
-/
namespace CgwFota

open Crash

/-- The execution is still to be started. -/
def isUnstarted (s : ExecutionState) : Bool := s = .permitPersisted || s = .ready

/-- The entry is the reply that granted the stored execution to the task. -/
def Entry.Grants (task : VehicleTaskSnapshot) (ex : FotaExecutionRecord) (a : Entry) : Prop :=
  a.mem.frozenTask = task ∧
  match a.event with
  | .returned (.requestInstall _ _) (.ok resp) =>
    resp.allowed ∧ resp.executionId.getD "" = ex.executionId ∧
      resp.attemptNo.getD 0 = ex.attemptNo ∧ resp.permitId.getD "" = ex.permitId ∧
      resp.permitToken.getD "" = ex.permitToken
  | _ => False

/-- Some reply of the run has granted it. -/
def GrantedTo (task : VehicleTaskSnapshot) (ex : FotaExecutionRecord) (t : List Entry) : Prop :=
  ∃ a ∈ t, a.Grants task ex

/-- The permit in memory is the one of the stored execution. -/
def Memory.Carries (m : Memory) (ex : FotaExecutionRecord) : Prop :=
  m.attemptNo = ex.attemptNo ∧ m.permit.executionId.getD "" = ex.executionId ∧
    m.permit.permitId.getD "" = ex.permitId ∧ m.permit.permitToken.getD "" = ex.permitToken

/-- A start uses a permit that was granted to the task and that is stored. -/
def StartGranted (a : Entry) (past : List Entry) : Prop :=
  match a.event with
  | .called (.start permit) => a.mem.permit = permit ∧
      ∃ ex ∈ a.store.execution, a.mem.Carries ex ∧ GrantedTo a.mem.frozenTask ex past
  | _ => True

/-- If a crash finds an executing task and an unstarted execution in the store, or none, then the
execution in memory is the stored one. -/
def GrantStored (a : Entry) (_past : List Entry) : Prop :=
  match a.event with
  | .crashed =>
    lacksSnapshot a.store = false → durableVtState a.store = .executing →
      isUnstarted (durableExState a.store) → a.store.execution = some (executionRecord a.mem)
  | _ => True

instance (task : VehicleTaskSnapshot) (ex : FotaExecutionRecord) (a : Entry) :
    Decidable (a.Grants task ex) := by
  obtain ⟨_ | _ | ⟨c, r⟩ | _, _, _, _⟩ := a
  all_goals unfold Entry.Grants; try infer_instance
  rcases c with _ | _ <;> try infer_instance
  all_goals rcases r with _ | _ <;> infer_instance

instance (task : VehicleTaskSnapshot) (ex : FotaExecutionRecord) (t : List Entry) :
    Decidable (GrantedTo task ex t) :=
  inferInstanceAs (Decidable (∃ a ∈ t, _))

instance (m : Memory) (ex : FotaExecutionRecord) : Decidable (m.Carries ex) :=
  inferInstanceAs (Decidable (_ ∧ _))

instance (a : Entry) (past : List Entry) : Decidable (StartGranted a past) := by
  obtain ⟨_ | c | _, _, _, _⟩ := a
  all_goals unfold StartGranted; try infer_instance
  rcases c with _ | _ <;> infer_instance

instance (a : Entry) (past : List Entry) : Decidable (GrantStored a past) := by
  obtain ⟨_ | _, _, _, _⟩ := a
  all_goals unfold GrantStored; infer_instance

/-- What has to hold of the store when a process starts. -/
structure GrantDurable (w : World) : Prop where
  started : Always StartGranted w.trace
  durable : lacksSnapshot w.store = false → durableVtState w.store = .executing →
    isUnstarted (durableExState w.store) →
      ∃ ex ∈ w.store.execution, GrantedTo (durableTask w.store) ex w.trace

/-- What is left at a crash, given the condition on crashes. -/
def GrantSurvives (w : World) : Prop :=
  GrantStored ⟨.crashed, w.mem, w.store, w.tick⟩ w.trace → GrantDurable w

/-- The invariant between operations. -/
structure GrantHeld (w : World) : Prop extends GrantDurable w where
  live : w.mem.vtState = .executing → isUnstarted w.mem.exState →
    ∃ ex ∈ w.store.execution, w.mem.Carries ex ∧ GrantedTo w.mem.frozenTask ex w.trace

/-- The invariant once the execution is under way, in memory and in the store. -/
structure GrantUsed (w : World) : Prop where
  started : Always StartGranted w.trace
  live : isUnstarted w.mem.exState = false
  durable : isUnstarted (durableExState w.store) = false

section Grants

variable {e : Environment} {w w' : World} {parts : List Part} {task : VehicleTaskSnapshot}
  {ex : FotaExecutionRecord} {t : List Entry}

theorem GrantedTo.append (h : GrantedTo task ex t) (new : List Entry) :
    GrantedTo task ex (new ++ t) := by
  obtain ⟨a, member, grants⟩ := h
  exact ⟨a, List.mem_append_right _ member, grants⟩

theorem startGranted_of_part (a : Entry) (past : List Entry) (install : a.event.part ≠ .install) :
    StartGranted a past := by
  unfold StartGranted
  split
  next same => exact absurd (congrArg Event.part same) install
  next => trivial

theorem startGranted_within (within : Within parts w w') (install : .install ∉ parts)
    (started : Always StartGranted w.trace) : Always StartGranted w'.trace :=
  within.always (fun a past member => startGranted_of_part a past fun same =>
    install (same ▸ member)) started

theorem GrantDurable.survives (h : GrantDurable w) : GrantSurvives w := fun _ => h

/-- The trace grows and the stored task and execution stay. -/
theorem GrantDurable.grow (h : GrantDurable w) (new : List Entry)
    (trace : w'.trace = new ++ w.trace)
    (started : Always StartGranted w'.trace) (task : w'.store.vehicleTask = w.store.vehicleTask)
    (execution : w'.store.execution = w.store.execution) : GrantDurable w' where
  started := started
  durable := by
    have durable := h.durable
    simp only [lacksSnapshot, durableVtState, durableTask, durableExState] at durable ⊢
    rw [task, execution, trace]
    intro has executing unstarted
    obtain ⟨ex, stored, granted⟩ := durable has executing unstarted
    exact ⟨ex, stored, granted.append new⟩

theorem GrantDurable.within (h : GrantDurable w) (within : Within parts w w')
    (phase : .phase ∉ parts) (execution : .execution ∉ parts) (install : .install ∉ parts) :
    GrantDurable w' := by
  obtain ⟨new, trace, -⟩ := within.trace
  exact h.grow new trace (startGranted_within within install h.started)
    (within.same .phase phase).2 (within.same .execution execution).2

/-- They keep the invariant, if they leave the permit as well. -/
theorem GrantHeld.within (h : GrantHeld w) (within : Within parts w w') (phase : .phase ∉ parts)
    (frozen : .task ∉ parts) (permit : .permit ∉ parts) (execution : .execution ∉ parts)
    (install : .install ∉ parts) : GrantHeld w' where
  toGrantDurable := h.toGrantDurable.within within phase execution install
  live := by
    obtain ⟨new, trace, -⟩ := within.trace
    -- the state, the task and the permit are those of before
    have state := (within.same .phase phase).1
    have task : w'.mem.frozenTask = w.mem.frozenTask := within.same .task frozen
    obtain ⟨samePermit, _, attemptNo⟩ := within.same .permit permit
    obtain ⟨exState, stored⟩ := within.same .execution execution
    have live := h.live
    simp only [Memory.Carries] at live ⊢
    rw [state, exState, stored, samePermit, attemptNo, task, trace]
    intro executing unstarted
    obtain ⟨ex, found, carries, granted⟩ := live executing unstarted
    exact ⟨ex, found, carries, granted.append new⟩

theorem GrantUsed.within (h : GrantUsed w) (within : Within parts w w')
    (execution : .execution ∉ parts) (install : .install ∉ parts) : GrantUsed w' := by
  obtain ⟨exState, stored⟩ := within.same .execution execution
  refine ⟨startGranted_within within install h.started, by rw [exState]; exact h.live, ?_⟩
  simp only [durableExState] at *
  rw [stored]
  exact h.durable

theorem GrantUsed.held (h : GrantUsed w) : GrantHeld w where
  started := h.started
  durable _ _ unstarted := by simp [h.durable] at unstarted
  live _ unstarted := by simp [h.live] at unstarted

/-- As long as the task is not executing, neither is the stored one. -/
structure GrantIdle (w : World) : Prop extends GrantDurable w where
  idle : w.mem.vtState ≠ .executing

theorem GrantIdle.held (h : GrantIdle w) : GrantHeld w where
  toGrantDurable := h.toGrantDurable
  live executing := absurd executing h.idle

theorem GrantIdle.move (h : GrantIdle w) {s : VehicleTaskState} (idle : s ≠ .executing) :
    GrantIdle (w.move s) where
  toGrantDurable := h.toGrantDurable.grow [_] rfl ⟨trivial, h.started⟩ rfl rfl
  idle := idle

theorem GrantIdle.persist (h : GrantIdle w) (action : String) (now : Int) :
    GrantIdle (w.persist action now) where
  started := ⟨trivial, h.started⟩
  durable _ executing :=
    absurd ((durableVtState_persist w action now).symm.trans executing) h.idle
  idle := h.idle

/-- The phases before the permit do not execute. -/
theorem idle_proceeds {α : Type} {m : Orch α} {states : VehicleTaskState → Prop}
    {actions : List String} (h : Proceeds e parts states actions m)
    (idle : ∀ s, states s → s ≠ .executing) (phase : .phase ∉ parts)
    (execution : .execution ∉ parts) (install : .install ∉ parts) (holds : GrantIdle w) :
    wp m (fun _ => GrantHeld) GrantSurvives e w := by
  have keeps : Keeps e GrantIdle m := h.keeps
    (fun w w' within holds =>
      { holds.toGrantDurable.within within (by simp [phase]) (by simp [execution])
          (by simp [install]) with
        idle := by rw [(within.same .phase (by simp [phase])).1]; exact holds.idle })
    (fun w s allowed holds => holds.move (idle s allowed))
    (fun w action now _ holds => holds.persist action now)
  exact wp_mono (keeps w holds) (fun _ _ h => h.held) fun _ h => h.survives

theorem GrantHeld.event (h : GrantHeld w) (event : Event)
    (silent : StartGranted ⟨event, w.mem, w.store, w.tick⟩ w.trace)
    (store : (w.effect event).store = w.store) : GrantHeld (w.effect event) where
  toGrantDurable :=
    h.toGrantDurable.grow [_] rfl ⟨silent, h.started⟩ (by rw [store]) (by rw [store])
  live := by
    rw [store]
    intro executing unstarted
    obtain ⟨ex, stored, carries, granted⟩ := h.live executing unstarted
    exact ⟨ex, stored, carries, granted.append [_]⟩

/-- A call, with what the caller still knows after it. -/
theorem held_call {c : Call} {Q : c.Reply → World → Prop} (holds : GrantHeld w)
    (silent : StartGranted ⟨.called c, w.mem, w.store, w.tick⟩ w.trace)
    (next : ∀ r w', GrantHeld w' → w'.mem.vtState = w.mem.vtState →
      w'.mem.exState = w.mem.exState →
      (∃ a ∈ w'.trace, a.event = .returned c r ∧ a.mem.frozenTask = w'.mem.frozenTask) → Q r w') :
    wp (call c) Q GrantSurvives e w := by
  have pending : ∀ {w'}, Within [.outbox] (w.effect (.called c)) w' → GrantHeld w' := fun within =>
    (holds.event (.called c) silent rfl).within within (by simp) (by simp) (by simp) (by simp)
      (by simp)
  refine wp_call (fun w' within => (pending within).survives) fun w' r within => ?_
  have returned := (pending within).event (.returned c r) trivial rfl
  exact ⟨returned.survives, next r _ returned (within.same .phase (by simp)).1
    (within.same .execution (by simp)).1 ⟨_, List.mem_cons_self, rfl, rfl⟩⟩

/-! ### The grant -/

/-- The crash between the two saves is the one the condition is about. -/
theorem granted_acceptPermit {resp : InstallPermitResponse} (holds : GrantIdle w)
    (granted : ∀ ex : FotaExecutionRecord, resp.executionId.getD "" = ex.executionId →
      resp.attemptNo.getD 0 = ex.attemptNo → resp.permitId.getD "" = ex.permitId →
      resp.permitToken.getD "" = ex.permitToken → GrantedTo w.mem.frozenTask ex w.trace) :
    wp (acceptPermit resp) (fun _ => GrantHeld) GrantSurvives e w := by
  let permitted := (((w.withMemory (takePermit resp)).withMemory
    ({ · with exState := .permitPersisted })).note .moved).move .executing
  let task := permitted.advance.persist "permit" (e.clock w.tick)
  let execution := task.effect (.saved (.execution (executionRecord permitted.mem)))
  -- the reply that grants is in the trace, however it grows
  have granted : ∀ new, GrantedTo w.mem.frozenTask (executionRecord permitted.mem)
      (new ++ w.trace) := fun new => (granted _ rfl rfl rfl rfl).append new
  -- after the first save only the condition on crashes helps
  have torn : GrantSurvives task := by
    intro cond
    refine ⟨⟨trivial, trivial, trivial, holds.started⟩, fun has executing unstarted => ?_⟩
    exact ⟨_, cond has executing unstarted, granted [_, _, _]⟩
  -- after the second one the store has the grant
  have held : GrantHeld execution := by
    refine ⟨⟨⟨trivial, trivial, trivial, trivial, holds.started⟩, fun _ _ _ => ?_⟩, fun _ _ => ?_⟩
    · exact ⟨_, rfl, granted [_, _, _, _]⟩
    · exact ⟨_, rfl, ⟨rfl, rfl, rfl, rfl⟩, granted [_, _, _, _]⟩
  have stored : ∀ outbox, GrantHeld (execution.effect (.saved (.eventOutboxMeta outbox))) :=
    fun outbox => held.within (.effect _ (by simp [Event.part, Save.part]) : Within [.outbox] _ _)
      (by simp) (by simp) (by simp) (by simp) (by simp)
  unfold acceptPermit persistExecution
  simp only [wp_bind, wp_setMemory, wp_setExState, wp_setVtState, wp_nowMs, wp_ite, wp_pure,
    wp_memory]
  refine wp_persistVehicleTask torn (wp_save held.survives (wp_save (stored _).survives ?_))
  have waiting := fun outbox => (stored outbox).within .pause (by simp) (by simp)
    (by simp) (by simp) (by simp)
  -- whether or not the guards pass, the execution is stored by now
  split
  next => exact waiting _
  next =>
    refine held_call (waiting _) trivial fun guards w' holds _ _ _ => ?_
    split
    next => exact holds
    next => exact holds

/-- A permit phase keeps the invariant: it ends idle, or with a grant. -/
theorem granted_doPermit (holds : GrantIdle w) :
    wp doPermit (fun _ => GrantHeld) GrantSurvives e w := by
  unfold doPermit requestPermit
  simp only [wp_bind, wp_memory, wp_store, wp_nowMs, wp_makeCtx, wp_ite, wp_pure, wp_setVtState]
  split
  -- the window is closed: the task waits for it
  next =>
    have settled := fun now => ((holds.move (s := .waitingWindow) (by simp)).persist
      "waitingWindow" now)
    have waiting : GrantIdle (w.move .waitingWindow).advance :=
      { holds.move (s := .waitingWindow) (by simp) with }
    exact wp_persistVehicleTask (waiting.persist _ _).survives (waiting.persist _ _).held
  -- the window is open, and the guards come before the request
  next =>
    have asked : GrantHeld w.advance := holds.held.within .pause (by simp) (by simp)
      (by simp) (by simp) (by simp)
    split
    next => exact asked
    next =>
      refine held_call asked trivial fun guards w₁ holds₁ state₁ _ _ => ?_
      split
      next => exact holds₁
      next =>
        refine held_call holds₁ trivial fun ev w₂ holds₂ state₂ _ _ => ?_
        refine held_call holds₂ trivial fun reply w₃ holds₃ state₃ _ answered => ?_
        cases reply with
        | error ex => exact holds₃
        -- the reply is the grant, unless it denies the permit
        | ok resp =>
          simp only [wp_ite, wp_pure]
          split
          next => exact holds₃
          next allowed =>
            refine granted_acceptPermit { holds₃ with idle := ?_ }
              fun ex id attempt permit token => ?_
            · rw [state₃, state₂, state₁]
              exact holds.idle
            · obtain ⟨a, member, event, frozen⟩ := answered
              refine ⟨a, member, frozen, ?_⟩
              simp only [event]
              exact ⟨by simpa using allowed, id, attempt, permit, token⟩

/-! ### The execution -/

theorem GrantUsed.move (h : GrantUsed w) (s : VehicleTaskState) : GrantUsed (w.move s) :=
  ⟨⟨trivial, h.started⟩, h.live, h.durable⟩

theorem used_persistExecution (started : Always StartGranted w.trace)
    (live : isUnstarted w.mem.exState = false) :
    wp persistExecution (fun _ => GrantUsed) GrantSurvives e w := by
  have saved : GrantUsed (w.effect (.saved (.execution (executionRecord w.mem)))) :=
    ⟨⟨trivial, started⟩, live, by simpa [durableExState, executionRecord] using live⟩
  have stored : ∀ outbox, GrantUsed ((w.effect (.saved (.execution (executionRecord w.mem)))).effect
      (.saved (.eventOutboxMeta outbox))) := fun outbox =>
    saved.within (.effect _ (by simp [Event.part, Save.part]) : Within [.outbox] _ _) (by simp)
      (by simp)
  unfold persistExecution
  simp only [wp_bind, wp_memory]
  exact wp_save saved.held.survives (wp_save (stored _).held.survives (stored _))

/-- Closing the execution after the start. -/
theorem used_closeExecution {report : FinalResultReport} {resp : FinalResultResponse}
    (holds : GrantUsed w) :
    wp (closeExecution report resp) (fun _ => GrantHeld) GrantSurvives e w := by
  have closes : ∀ w, GrantUsed w → wp (persistVehicleTask "finalResult")
      (fun _ => wp persistExecution (fun _ => GrantHeld) GrantSurvives e) GrantSurvives e w := by
    intro w holds
    have persisted : ∀ now, GrantUsed (w.advance.persist "finalResult" now) := fun now =>
      ⟨⟨trivial, holds.started⟩, holds.live, holds.durable⟩
    refine wp_persistVehicleTask (persisted _).held.survives ?_
    exact wp_mono (used_persistExecution (persisted _).started (persisted _).live)
      (fun _ _ h => h.held) fun _ h => h
  -- every state it is closed in comes after the start
  have closed : isUnstarted (closedExecutionState report resp) = false := by
    unfold closedExecutionState
    split
    · rfl
    · split <;> rfl
  unfold closeExecution
  simp only [wp_bind, wp_setExState, wp_memory, wp_pure]
  refine wp_mono (touches_doLogUpload.keeps (fun _ _ within holds =>
    GrantUsed.within holds within (by simp) (by simp)) w holds) (fun _ w₁ holds => ?_)
    fun _ h => h.held.survives
  have ended : GrantUsed ((w₁.withMemory fun m =>
      { m with exState := closedExecutionState report resp }).note .moved) :=
    ⟨⟨trivial, holds.started⟩, closed, holds.durable⟩
  exact wp_adoptStatus (fun _ => closes _ (ended.move _)) fun _ => closes _ ((ended.move _).move _)

/-- From here on the stored execution is no longer waiting to be started. -/
theorem used_flushOutbox (holds : GrantDurable w) (live : isUnstarted w.mem.exState = false) :
    wp flushOutbox (fun _ => GrantHeld) GrantSurvives e w := by
  have quiet : ∀ {w w' : World}, Within [.outbox] w w' →
      GrantDurable w ∧ isUnstarted w.mem.exState = false →
      GrantDurable w' ∧ isUnstarted w'.mem.exState = false := fun within holds =>
    ⟨holds.1.within within (by simp) (by simp) (by simp),
      by rw [(within.same .execution (by simp)).1]; exact holds.2⟩
  unfold flushOutbox
  simp only [wp_bind, wp_store, wp_memory, wp_ite, wp_pure]
  refine wp_mono ((touches_sendEvents _ _).keeps (fun _ _ => quiet) w ⟨holds, live⟩)
    (fun st w₁ holds => ?_) fun _ h => h.1.survives
  refine wp_mono ((touches_raiseAccepted _ _).keeps (fun _ _ => quiet) w₁ holds)
    (fun _ w₂ holds => ?_) fun _ h => h.1.survives
  refine wp_mono (used_persistExecution holds.1.started holds.2) (fun _ w₃ holds => ?_)
    fun _ h => h
  split
  next => exact holds.held
  next =>
    exact wp_doFinalize (I := GrantUsed) (fun _ _ within holds =>
      holds.within within (by simp) (by simp)) (fun _ h => h.held.survives) (fun _ _ h => h.held)
      (fun _ _ _ holds => used_closeExecution holds) holds

/-- An execution phase starts with the permit it holds, or only sends events. -/
theorem granted_doExecute (holds : GrantHeld w) (state : w.mem.vtState = .executing) :
    wp doExecute (fun _ => GrantHeld) GrantSurvives e w := by
  unfold doExecute recordStart
  simp only [wp_bind, wp_memory, wp_ite, wp_pure, wp_setExState]
  split
  next fresh =>
    refine held_call holds trivial fun prep w₁ holds state₁ exState₁ _ => ?_
    split
    next => exact holds
    next =>
      -- the execution is unstarted, so it carries its grant
      have unstarted : isUnstarted w₁.mem.exState := by
        rw [exState₁]
        simpa [isUnstarted] using fresh
      have granted := holds.live (state₁.trans state) unstarted
      refine held_call holds ⟨rfl, granted⟩ fun st w₂ holds _ _ _ => ?_
      split
      next => exact holds
      next =>
        -- from here on it is started
        have started : GrantDurable ((w₂.withMemory fun m =>
            { m with exState := .installStarted }).note .moved) :=
          holds.toGrantDurable.grow [_] rfl ⟨trivial, holds.started⟩ rfl rfl
        refine wp_mono (used_persistExecution started.started rfl) (fun _ w₃ holds => ?_)
          fun _ h => h
        exact used_flushOutbox holds.held.toGrantDurable holds.live
  -- it was started before
  next past =>
    exact used_flushOutbox holds.toGrantDurable (by simpa [isUnstarted] using past)

/-- One step keeps the invariant, with each phase by what it may assume. -/
theorem granted_step (holds : GrantHeld w) : wp step (fun _ => GrantHeld) GrantSurvives e w := by
  -- a state other than the executing one is idle
  have idle : ∀ {s}, w.mem.vtState = s → s ≠ .executing → GrantIdle w := by
    rintro s rfl idle
    exact { holds with idle }
  refine wp_step (fun _ => holds) (fun state => ?_) (fun state => ?_) (fun state => ?_)
    (fun state => ?_) (fun state => granted_doExecute holds state) (fun state => ?_) fun state => ?_
  · refine idle_proceeds proceeds_doCheckTask (by simp) (by simp) (by simp) (by simp) ?_
    rcases state with state | state <;> exact idle state (by simp)
  · exact idle_proceeds proceeds_doConsent (by simp) (by simp) (by simp) (by simp)
      (idle state (by simp))
  · refine idle_proceeds proceeds_doDownload (by simp) (by simp) (by simp) (by simp) ?_
    rcases state with state | state <;> exact idle state (by simp)
  · refine granted_doPermit ?_
    rcases state with state | state | state <;> exact idle state (by simp)
  · exact granted_doPermit ((idle state (by simp)).move (by simp))
  · have entered : GrantDurable (World.move ((w.withMemory fun m =>
        { m with exState := .rollback }).note .moved) .executing) :=
      holds.toGrantDurable.grow [_, _] rfl ⟨trivial, trivial, holds.started⟩ rfl rfl
    exact granted_doExecute
      { entered with live := fun _ unstarted => by simp [isUnstarted] at unstarted } rfl

/-- A restart reads the permit back from the record. -/
theorem durablePermit_carries {s : FotaCloudStateStore} (stored : s.execution = some ex) :
    (durablePermit s).executionId.getD "" = ex.executionId ∧
      (durablePermit s).permitId.getD "" = ex.permitId ∧
      (durablePermit s).permitToken.getD "" = ex.permitToken := by
  unfold durablePermit
  rw [stored]
  exact ⟨rfl, rfl, rfl⟩

/-- A restart carries what is durable into memory. -/
theorem granted_restart (holds : GrantDurable w) : GrantHeld (restart w) := by
  have durable : GrantDurable (restart w) :=
    holds.grow [_] rfl ⟨trivial, holds.started⟩ rfl rfl
  cases lacks : lacksSnapshot w.store with
  -- no snapshot: the memory is that of a new vehicle
  | true =>
    have mem : (restart w).mem = {} := loadFromStore_without_snapshot lacks
    exact { durable with live := by rw [mem]; simp }
  -- a snapshot: the permit is read from the record
  | false =>
    have mem := loadFromStore_with_snapshot lacks
    refine { durable with live := ?_ }
    simp only [restart_mem, mem]
    intro executing unstarted
    obtain ⟨ex, stored, granted⟩ := durable.durable lacks executing unstarted
    have stored : w.store.execution = some ex := stored
    refine ⟨ex, stored, ⟨by simp [stored], durablePermit_carries stored⟩, granted⟩

end Grants

/-- Over every run from an empty or a migrated store: if no crash leaves an executing task whose
execution in memory is still to be stored, every start uses a permit that was granted to the
frozen task and that the execution record holds. -/
theorem starts_granted (env : Environment) (s : FotaCloudStateStore) (first : FirstStore s)
    (ops : List Operation) (stored : Always GrantStored (run env (boot s) ops).trace) :
    Always StartGranted (run env (boot s) ops).trace := by
  have noted : ∀ w event, event.part = .run → GrantHeld w → GrantHeld (w.note event) :=
    fun w event part holds => holds.within (.note_run event part)
      (by simp) (by simp) (by simp) (by simp) (by simp)
  have began : ∀ op w, Assuming GrantStored GrantHeld w →
      Assuming GrantStored GrantHeld (w.note (.began op)) :=
    fun op w holds cond => noted w (.began op) rfl (holds cond.2)
  -- a first store has no snapshot, so nothing executes
  have start : GrantDurable { store := s } := by
    refine ⟨trivial, fun has executing => ?_⟩
    have none : s.vehicleTask = none := by
      cases task : s.vehicleTask with
      | none => rfl
      | some vt => simp [lacksSnapshot, task, first.vehicleTask vt task] at has
    simp [durableVtState, none] at executing
  exact (run_keeps (Assuming GrantStored GrantHeld) (Assuming GrantStored GrantSurvives) began
    (fun w w' within holds => within.assuming holds fun holds =>
      holds.within within (by simp) (by simp) (by simp) (by simp) (by simp))
    (fun w holds => (began .step w holds).wp proceeds_step.touches granted_step)
    (fun w holds cond => (holds cond).toGrantDurable.survives)
    (fun w holds cond => granted_restart
      (((holds cond.2.2) cond.2.1).within (.note_run .crashed rfl) (by simp) (by simp) (by simp)))
    (fun w holds cond => granted_restart (holds cond.2).toGrantDurable) ops
    (fun _ => granted_restart start) stored).started

/-- The reply that is lost is asked for once more, and the start uses the second grant. -/
theorem starts_granted_after_lost_answer :
    let env : Environment := { cooperative with crashes := fun n => n = 35 }
    let w := run env (boot {}) (List.replicate 7 .step)
    FirstStore {} ∧ Always GrantStored w.trace ∧ Always StartGranted w.trace := by
  refine ⟨.empty, ?_, @starts_granted _ _ .empty _ ?_⟩
  · decide +kernel
  · decide +kernel

/-- The process dies between the two saves of a grant; the next one starts the installation with
an empty permit. -/
theorem unsaved_grant_is_started :
    let env : Environment := { cooperative with crashes := fun n => n = 37 }
    ¬Always StartGranted (run env (boot {}) (List.replicate 7 .step)).trace := by
  decide +kernel

end CgwFota
