import CgwFota.Orchestrator.Advance

/-!
# Invariants that look at the outbox

The counters in memory and the stored ones are only used together while a task is executed. An
invariant of runs may therefore ask for less before a permit is granted; the grant writes the
counters, and from then on they agree.

## Main definition

* `OutboxRules`: what is to be checked of an invariant in four forms, between operations, between a
  grant and its record, during an execution and after a crash

## Main result

* `OutboxRules.run`: the invariant holds at the end of every run, if the sending keeps it

## Proof strategy

The phases before the permit are quiet for it but for emissions. The grant turns the form between
operations into the one during an execution, and the end of the execution turns it back.
-/
namespace CgwFota

open Crash

/-- The next step of the task executes it. -/
def isUnderway (s : VehicleTaskState) : Bool := s = .executing || s = .rollbackPending

/-- What is to be checked of an invariant: `H` holds between operations, `G` between a grant and the
record of it, `L` while the task is executed, and `D` is what a crash leaves. -/
structure OutboxRules (e : Environment) (H G L D : World → Prop) : Prop where
  heldDurable : ∀ w, H w → D w
  grantedDurable : ∀ w, G w → D w
  liveHeld : ∀ w, L w → H w
  underway : ∀ w, H w → isUnderway w.mem.vtState → L w
  quietHeld : ∀ parts w w', .outbox ∉ parts → .result ∉ parts → .run ∉ parts →
    Within parts w w' → (isUnderway w'.mem.vtState → isUnderway w.mem.vtState) → H w → H w'
  quietGranted : ∀ parts w w', .outbox ∉ parts → .result ∉ parts → .run ∉ parts →
    Within parts w w' → G w → G w'
  quietLive : ∀ parts w w', .outbox ∉ parts → .result ∉ parts → .run ∉ parts →
    Within parts w w' → L w → L w'
  emitHeld : ∀ evt w, H w → wp (emit evt) (fun _ => H) D e w
  emitLive : ∀ evt w, L w → wp (emit evt) (fun _ => L) D e w
  grant : ∀ (w : World) req ctx resp, resp.allowed →
    H (w.effect (.returned (.requestInstall req ctx) (.ok resp))) →
    G (w.effect (.returned (.requestInstall req ctx) (.ok resp)))
  persistGranted : ∀ w, G w → wp persistExecution (fun _ => L) D e w
  persistLive : ∀ w, L w → wp persistExecution (fun _ => L) D e w

namespace OutboxRules

variable {e : Environment} {H G L D : World → Prop} {w : World}

theorem liveDurable (rules : OutboxRules e H G L D) (w : World) (h : L w) : D w :=
  rules.heldDurable w (rules.liveHeld w h)

theorem within_move (w : World) (s : VehicleTaskState) :
    Within [.moved, .phase] w (w.move s) := by
  refine (Within.withMemory fun p out => ?_).trans (.note .moved (by simp [Event.part]))
  cases p <;> simp [Part.Same] at out ⊢

theorem within_persist (w : World) (action : String) (now : Int) :
    Within [.phase] w (w.persist action now) :=
  .effect _ (by simp [Event.part, Save.part])

theorem within_execution (w : World) (s : ExecutionState) :
    Within [.moved, .execution] w
      ((w.withMemory fun m => { m with exState := s }).note .moved) := by
  refine (Within.withMemory fun p out => ?_).trans (.note .moved (by simp [Event.part]))
  cases p <;> simp [Part.Same] at out ⊢

theorem part_ne_run (c : Call) : c.part ≠ .run := by
  cases c <;> simp [Call.part]

/-- A call around which events may be emitted, before the execution. -/
theorem call_held (rules : OutboxRules e H G L D) {c : Call} {Q : c.Reply → World → Prop} (h : H w)
    (outbox : c.part ≠ .outbox) (result : c.part ≠ .result)
    (next : ∀ r w', H (World.effect w' (.returned c r)) → Q r (w'.effect (.returned c r))) :
    wp (call c) Q D e w := by
  have quiet : ∀ w event, event.part = c.part → H w → H (w.effect event) :=
    fun w event part h => rules.quietHeld [c.part] w _ (by simp [outbox.symm])
      (by simp [result.symm]) (by simp [(part_ne_run c).symm]) (.effect event (by simp [part])) id h
  refine wp_call_emitting (quiet w (.called c) rfl h) rules.emitHeld rules.heldDurable
    fun r w' h _ => ?_
  have returned := quiet w' (.returned c r) rfl h
  exact ⟨rules.heldDurable _ returned, next r w' returned⟩

/-- A call around which events may be emitted, during the execution. -/
theorem call_live (rules : OutboxRules e H G L D) {c : Call} {Q : c.Reply → World → Prop} (h : L w)
    (outbox : c.part ≠ .outbox) (result : c.part ≠ .result)
    (next : ∀ r w', L w' → Q r w') : wp (call c) Q D e w := by
  have quiet : ∀ w event, event.part = c.part → L w → L (w.effect event) :=
    fun w event part h => rules.quietLive [c.part] w _ (by simp [outbox.symm])
      (by simp [result.symm]) (by simp [(part_ne_run c).symm]) (.effect event (by simp [part])) h
  refine wp_call_emitting (quiet w (.called c) rfl h) rules.emitLive rules.liveDurable
    fun r w' h _ => ?_
  have returned := quiet w' (.returned c r) rfl h
  exact ⟨rules.liveDurable _ returned, next r _ returned⟩

/-! ### The phases -/

/-- The phases before the permit leave the outbox to emissions. -/
theorem before (rules : OutboxRules e H G L D) {α : Type} {m : Orch α} {parts : List Part}
    {states : VehicleTaskState → Prop} {actions : List String}
    (proceeds : Proceeds e parts states actions m) (idle : ∀ s, states s → isUnderway s = false)
    (outbox : .outbox ∉ parts) (result : .result ∉ parts) (run : .run ∉ parts)
    (phase : .phase ∉ parts) (h : H w) : wp m (fun _ => H) D e w := by
  refine proceeds.wp (fun w w' within h => ?_) rules.emitHeld (fun w s allowed h => ?_)
    (fun w action now _ h => ?_) rules.heldDurable h
  · refine rules.quietHeld parts w w' outbox result run within ?_ h
    rw [(within.same .phase phase).1]
    exact id
  · refine rules.quietHeld _ w _ (by simp) (by simp) (by simp) (within_move w s) ?_ h
    simp [idle s allowed]
  · exact rules.quietHeld _ w _ (by simp) (by simp) (by simp) (within_persist w action now) id h

/-- A grant writes the counters of the memory. -/
theorem acceptPermit (rules : OutboxRules e H G L D) {resp : InstallPermitResponse} (h : G w) :
    wp (acceptPermit resp) (fun _ => H) D e w := by
  unfold CgwFota.acceptPermit
  simp only [wp_bind, wp_setMemory, wp_setExState, wp_setVtState, wp_nowMs, wp_ite, wp_pure,
    wp_memory]
  have permitted : Within [.permit] w (w.withMemory (takePermit resp)) := by
    refine .withMemory fun p out => ?_
    cases p <;> simp [Part.Same, takePermit] at out ⊢
  -- the permit, the states and the record leave the counters as they are
  have h := rules.quietGranted _ _ _ (by simp) (by simp) (by simp) permitted h
  have h := rules.quietGranted _ _ _ (by simp) (by simp) (by simp)
    (within_execution _ .permitPersisted) h
  have h := rules.quietGranted _ _ _ (by simp) (by simp) (by simp) (within_move _ .executing) h
  have h := rules.quietGranted _ _ _ (by simp) (by simp) (by simp) (.pause) h
  have h := rules.quietGranted _ _ _ (by simp) (by simp) (by simp)
    (within_persist _ "permit" (e.clock w.tick)) h
  refine wp_persistVehicleTask (rules.grantedDurable _ h) ?_
  refine wp_mono (rules.persistGranted _ h) (fun _ w₁ h => ?_) fun _ h => h
  have h := rules.quietLive _ _ _ (by simp) (by simp) (by simp) .pause h
  split
  next => exact rules.liveHeld _ h
  next =>
    refine rules.call_live h (by simp [Call.part]) (by simp [Call.part]) fun guards w₂ h => ?_
    split
    next => exact rules.liveHeld _ h
    next => exact rules.liveHeld _ h

/-- A step of the permit phase waits, is refused, or grants. -/
theorem doPermit (rules : OutboxRules e H G L D) (h : H w) : wp doPermit (fun _ => H) D e w := by
  unfold CgwFota.doPermit requestPermit
  simp only [wp_bind, wp_memory, wp_store, wp_nowMs, wp_makeCtx, wp_ite, wp_pure, wp_setVtState]
  have asked := rules.quietHeld _ _ _ (by simp) (by simp) (by simp) .pause id h
  split
  next =>
    have h := rules.quietHeld _ _ _ (by simp) (by simp) (by simp) (within_move w .waitingWindow)
      (fun never => by cases never) h
    have h := rules.quietHeld _ _ _ (by simp) (by simp) (by simp) .pause id h
    have h := rules.quietHeld _ _ _ (by simp) (by simp) (by simp)
      (within_persist _ "waitingWindow" (e.clock w.tick)) id h
    exact wp_persistVehicleTask (rules.heldDurable _ h) h
  next =>
    split
    next => exact asked
    next =>
      refine rules.call_held asked (by simp [Call.part]) (by simp [Call.part]) fun guards w₁ h => ?_
      split
      next => exact h
      next =>
        refine rules.call_held h (by simp [Call.part]) (by simp [Call.part]) fun ev w₂ h => ?_
        refine rules.call_held h (by simp [Call.part]) (by simp [Call.part]) fun reply w₃ h => ?_
        cases reply with
        | error ex => exact h
        | ok resp =>
          simp only [wp_ite, wp_pure]
          split
          next => exact h
          -- the grant is where the counters of the memory are written
          next allowed =>
            exact rules.acceptPermit (rules.grant w₃ _ _ resp (by simpa using allowed) h)

/-- The end of an execution, from the moment the result was accepted. -/
theorem closeExecution (rules : OutboxRules e H G L D) {report : FinalResultReport}
    {resp : FinalResultResponse} (h : L w) :
    wp (closeExecution report resp) (fun _ => H) D e w := by
  have moved : ∀ {w : World} (s : VehicleTaskState), L w → L (w.move s) := fun s h =>
    rules.quietLive _ _ _ (by simp) (by simp) (by simp) (within_move _ s) h
  have closes : ∀ w, L w → wp (persistVehicleTask "finalResult")
      (fun _ => wp persistExecution (fun _ => H) D e) D e w := by
    intro w h
    have h := rules.quietLive _ _ _ (by simp) (by simp) (by simp) .pause h
    have h := rules.quietLive _ _ _ (by simp) (by simp) (by simp)
      (within_persist _ "finalResult" (e.clock w.tick)) h
    refine wp_persistVehicleTask (rules.liveDurable _ h) ?_
    exact wp_mono (rules.persistLive _ h) (fun _ w h => rules.liveHeld w h) fun _ h => h
  unfold CgwFota.closeExecution
  simp only [wp_bind, wp_setExState, wp_memory, wp_pure]
  have uploads : Proceeds e [.log] (fun _ => False) [] doLogUpload := proceeds_doLogUpload
  refine wp_mono (uploads.wp (fun w w' within h => rules.quietLive _ w w' (by simp) (by simp)
      (by simp) within h) rules.emitLive (fun _ _ never => never.elim)
    (fun _ _ _ never => by simp at never) rules.liveDurable h) (fun _ w₁ h => ?_) fun _ h => h
  have h := rules.quietLive _ _ _ (by simp) (by simp) (by simp) (within_execution w₁
    (closedExecutionState report resp)) h
  exact wp_adoptStatus (fun _ => closes _ (moved _ h)) fun _ => closes _ (moved _ (moved _ h))

/-- An execution up to the point where the outbox is flushed. -/
theorem doExecute (rules : OutboxRules e H G L D)
    (flush : ∀ w, L w → wp flushOutbox (fun _ => H) D e w) (h : L w) :
    wp doExecute (fun _ => H) D e w := by
  unfold CgwFota.doExecute recordStart
  simp only [wp_bind, wp_memory, wp_ite, wp_pure, wp_setExState]
  split
  -- the installation is prepared and started, and then recorded
  next =>
    refine rules.call_live h (by simp [Call.part]) (by simp [Call.part]) fun prep w₁ h => ?_
    split
    next => exact rules.liveHeld _ h
    next =>
      refine rules.call_live h (by simp [Call.part]) (by simp [Call.part]) fun st w₂ h => ?_
      split
      next => exact rules.liveHeld _ h
      next =>
        have h := rules.quietLive _ _ _ (by simp) (by simp) (by simp)
          (within_execution w₂ .installStarted) h
        exact wp_mono (rules.persistLive _ h) (fun _ w₃ h => flush w₃ h) fun _ h => h
  next => exact flush w h

/-- A step in any state, given what the sending of the outbox does. -/
theorem step (rules : OutboxRules e H G L D)
    (flush : ∀ w, L w → wp flushOutbox (fun _ => H) D e w) (h : H w) :
    wp step (fun _ => H) D e w := by
  have moved : ∀ {w : World} (s : VehicleTaskState),
      (isUnderway s → isUnderway w.mem.vtState) → H w → H (w.move s) := fun s same h =>
    rules.quietHeld _ _ _ (by simp) (by simp) (by simp) (within_move _ s) same h
  refine wp_step (fun _ => h) (fun _ => ?_) (fun _ => ?_) (fun _ => ?_) (fun _ => rules.doPermit h)
    (fun state => ?_) (fun _ => rules.doPermit (moved _ (fun never => by cases never) h))
    fun state => ?_
  -- the phases before the permit leave the outbox to emissions
  · exact rules.before proceeds_doCheckTask (by simp [isUnderway]) (by simp) (by simp) (by simp)
      (by simp) h
  · exact rules.before proceeds_doConsent (by simp [isUnderway]) (by simp) (by simp) (by simp)
      (by simp) h
  · exact rules.before proceeds_doDownload (by simp [isUnderway]) (by simp) (by simp) (by simp)
      (by simp) h
  -- the task is underway, so the counters agree already
  · exact rules.doExecute flush (rules.underway w h (by simp [state, isUnderway]))
  · have h := rules.underway w h (by simp [state, isUnderway])
    have h := rules.quietLive _ _ _ (by simp) (by simp) (by simp) (within_execution w .rollback) h
    exact rules.doExecute flush
      (rules.quietLive _ _ _ (by simp) (by simp) (by simp) (within_move _ .executing) h)

/-- The invariant holds at the end of every run. -/
theorem run (rules : OutboxRules e H G L D)
    (flush : ∀ w, L w → wp flushOutbox (fun _ => H) D e w)
    (began : ∀ op w, H w → H (w.note (.began op))) (recovers : ∀ w, D w → H (recover w))
    (restarts : ∀ w, H w → H (restart w)) (ops : List Operation) (initial : H w) :
    H (run e w ops) :=
  run_keeps_emitting H D began
    (fun w w' within h => rules.quietHeld _ w w' (by simp) (by simp) (by simp) within
      (by rw [(within.same .phase (by simp)).1]; exact id) h)
    rules.emitHeld (fun w h => rules.step flush (began .step w h)) rules.heldDurable recovers
    restarts ops initial

end OutboxRules

end CgwFota
