import CgwFota.Orchestrator.Advance

/-!
# The final result report

The reported result is read off the execution state in memory; what the executor says about rollback
and about the single ECUs is passed on beside it.

## Main definitions

* `Agrees`: a report says of a rollback and of success what the executor says.
* `StateTells`: the execution state in memory says the same.
* `ReportMade`: how a report comes of the memory and of what was read.
* `RollingBack`: the reasons for which the execution state is `Rollback`.

## Main results

* `reports_agree_iff`: all reports of a run agree exactly if the execution state tells at each.
* `rolledBack_explained`: a rollback that is reported was begun by a step or restored.
* `rollback_reported_as_success`: the executor rolls back on its own, and success is reported.

## Proof strategy

A report is made in one place, right after the result is read, so both laws are about the same pair
of entries. For the reasons, only two assignments make the state `Rollback`, and each entry says
which was the last.
-/
namespace CgwFota

open Crash

/-- What the executor said when its final result was last read. -/
def finalResultRead : List Entry → Option FinalResultData
  | [] => none
  | a :: past =>
    match a.event with
    | .returned .readFinalResult data => some data
    | _ => finalResultRead past

/-- `ROLLED_BACK` stands for a rollback, `SUCCEEDED` for no rollback and success on every ECU. -/
def Agrees (report : FinalResultReport) (data : FinalResultData) : Prop :=
  (report.result = .rolledBack ↔ data.rollbackOccurred) ∧
  (report.result = .succeeded →
    ¬data.rollbackOccurred ∧ ∀ ecu ∈ data.ecuResults, ecu.result = .succeeded)

/-- The execution state is `Rollback` exactly if the executor rolled back, and in any other state
every ECU succeeded. -/
def StateTells (s : ExecutionState) (data : FinalResultData) : Prop :=
  (s = .rollback ↔ data.rollbackOccurred) ∧
  (s ≠ .rollback → ∀ ecu ∈ data.ecuResults, ecu.result = .succeeded)

/-- At each report, what it says agrees with what was read. -/
def ReportAgrees (a : Entry) (past : List Entry) : Prop :=
  match a.event with
  | .called (.reportFinalResult report _) => ∃ data ∈ finalResultRead past, Agrees report data
  | _ => True

/-- At each report, the execution state tells what was read. -/
def StateTellsResult (a : Entry) (past : List Entry) : Prop :=
  match a.event with
  | .called (.reportFinalResult _ _) => ∃ data ∈ finalResultRead past, StateTells a.mem.exState data
  | _ => True

/-- A report is made from the memory at that moment and from the result read before. -/
def ReportMade (a : Entry) (past : List Entry) : Prop :=
  match a.event with
  | .called (.reportFinalResult report _) =>
    ∃ data ∈ finalResultRead past, ∃ now, report = finalResultReport a.mem data now
  | _ => True

instance (report : FinalResultReport) (data : FinalResultData) : Decidable (Agrees report data) :=
  inferInstanceAs (Decidable (_ ∧ _))

instance (s : ExecutionState) (data : FinalResultData) : Decidable (StateTells s data) :=
  inferInstanceAs (Decidable (_ ∧ _))

instance (a : Entry) (past : List Entry) : Decidable (ReportAgrees a past) := by
  obtain ⟨_ | c | _, _, _, _⟩ := a
  all_goals unfold ReportAgrees; try infer_instance
  rcases c with _ | _ <;> infer_instance

instance (a : Entry) (past : List Entry) : Decidable (StateTellsResult a past) := by
  obtain ⟨_ | c | _, _, _, _⟩ := a
  all_goals unfold StateTellsResult; try infer_instance
  rcases c with _ | _ <;> infer_instance

/-- A report that is made so agrees exactly if the state it is made in tells. -/
theorem agrees_finalResultReport (m : Memory) (data : FinalResultData) (now : Int) :
    Agrees (finalResultReport m data now) data ↔ StateTells m.exState data := by
  unfold Agrees StateTells finalResultReport
  by_cases rolledBack : m.exState = .rollback
  · simp [rolledBack]
  · simp only [rolledBack, ite_false]
    cases data.rollbackOccurred <;> simp [rolledBack]

theorem reportAgrees_iff (a : Entry) (past : List Entry) (made : ReportMade a past) :
    ReportAgrees a past ↔ StateTellsResult a past := by
  unfold ReportAgrees StateTellsResult
  unfold ReportMade at made
  split at made
  next report ctx event =>
    obtain ⟨data, read, now, rfl⟩ := made
    have read : finalResultRead past = some data := read
    simp [read, agrees_finalResultReport]
  next => rfl

section Reports

variable {e : Environment} {w w' : World} {α : Type} {m : Orch α} {parts : List Part}

theorem reportMade_of_part (a : Entry) (past : List Entry) (other : a.event.part ≠ .result) :
    ReportMade a past := by
  unfold ReportMade
  split
  next same => exact absurd (congrArg Event.part same) other
  next => trivial

theorem reportsMade_within (within : Within parts w w') (other : .result ∉ parts)
    (made : Always ReportMade w.trace) : Always ReportMade w'.trace :=
  within.always (fun a past member => reportMade_of_part a past fun same => other (same ▸ member))
    made

theorem reportsMade_touches (h : Touches e parts m) (other : .result ∉ parts) :
    Keeps e (fun w => Always ReportMade w.trace) m :=
  h.keeps fun _ _ within => reportsMade_within within other

/-- The one report is made of the memory and of the result read just before. -/
theorem reportsMade_doFinalize : Keeps e (fun w => Always ReportMade w.trace) doFinalize := by
  intro w made
  unfold doFinalize
  simp only [wp_bind, wp_memory, wp_nowMs, wp_makeCtx]
  refine wp_call (fun w' within => reportsMade_within within (by simp) ⟨trivial, made⟩)
    fun w' data within => ?_
  have read : Always ReportMade (w'.effect (.returned .readFinalResult data)).trace :=
    ⟨trivial, reportsMade_within within (by simp) ⟨trivial, made⟩⟩
  refine ⟨read, ?_⟩
  have called : ∀ report ctx now, report = finalResultReport w'.mem data now →
      Always ReportMade (((w'.effect (.returned .readFinalResult data)).advance.effect
        (.called (.reportFinalResult report ctx))).trace) := by
    rintro report ctx now rfl
    exact ⟨⟨data, rfl, now, rfl⟩, read⟩
  refine wp_call (fun w'' within => reportsMade_within within (by simp) (called _ _ _ rfl))
    fun w'' reply within => ?_
  have replied : Always ReportMade (w''.effect (.returned _ reply)).trace :=
    ⟨trivial, reportsMade_within within (by simp) (called _ _ _ rfl)⟩
  refine ⟨replied, ?_⟩
  cases reply with
  | error ex => exact replied
  | ok resp =>
    exact Keeps.ite (fun _ => .pure _)
      (fun _ => reportsMade_touches (proceeds_closeExecution _ _).touches (by simp)) _ replied

theorem reportsMade_doExecute : Keeps e (fun w => Always ReportMade w.trace) doExecute :=
  fun _ made => wp_doExecute (I := fun w => Always ReportMade w.trace)
    (fun _ _ within => reportsMade_within within (by simp)) (fun _ made => made)
    (fun _ _ made => made) reportsMade_doFinalize made

theorem reportsMade_step : Keeps e (fun w => Always ReportMade w.trace) step := fun w made =>
  wp_step (fun _ => made)
    (fun _ => reportsMade_touches proceeds_doCheckTask.touches (by simp) w made)
    (fun _ => reportsMade_touches proceeds_doConsent.touches (by simp) w made)
    (fun _ => reportsMade_touches proceeds_doDownload.touches (by simp) w made)
    (fun _ => reportsMade_touches proceeds_doPermit.touches (by simp) w made)
    (fun _ => reportsMade_doExecute w made)
    (fun _ => reportsMade_touches proceeds_doPermit.touches (by simp) _ ⟨trivial, made⟩)
    (fun _ => reportsMade_doExecute _ ⟨trivial, trivial, made⟩)

end Reports

/-- In every run every report is made from the memory and the executor's result. -/
theorem reports_made (env : Environment) (s : FotaCloudStateStore) (ops : List Operation) :
    Always ReportMade (run env (boot s) ops).trace :=
  run_keeps (fun w => Always ReportMade w.trace) (fun w => Always ReportMade w.trace)
    (fun _ _ made => ⟨trivial, made⟩)
    (fun _ _ within => within.always fun a past member => reportMade_of_part a past fun same => by
      simp [same] at member)
    (fun w made => reportsMade_step _ ⟨trivial, made⟩) (fun _ made => made)
    (fun _ made => ⟨trivial, trivial, made⟩) (fun _ made => ⟨trivial, made⟩) ops
    ⟨trivial, trivial⟩

/-! ### Where a reported rollback comes from -/

/-- The execution state at the newest entry is `Rollback`, and has been since a restart that read it
from the store or since a step that found the task in `ROLLBACK_PENDING`. -/
inductive RollingBack : List Entry → Prop
  | restored {a : Entry} {past : List Entry} (event : a.event = .restarted)
    (durable : durableExState a.store = .rollback) : RollingBack (a :: past)
  | entered {a : Entry} {past : List Entry} (event : a.event = .moved)
    (state : a.mem.vtState = .rollbackPending) : RollingBack (a :: past)
  | stays {a : Entry} {past : List Entry} (state : a.mem.exState = .rollback)
    (before : RollingBack past) : RollingBack (a :: past)

/-- Wherever the execution state is `Rollback`, there is a reason for it. -/
structure Explained (w : World) : Prop where
  entries : Always (fun a past => a.mem.exState = .rollback → RollingBack (a :: past)) w.trace
  now : w.mem.exState = .rollback → RollingBack w.trace

section Rollback

variable {e : Environment} {w w' : World} {α : Type} {m : Orch α} {parts : List Part}

theorem RollingBack.append {past : List Entry} (h : RollingBack past) {new : List Entry}
    (rolling : ∀ a ∈ new, a.mem.exState = .rollback) : RollingBack (new ++ past) := by
  induction new with
  | nil => exact h
  | cons a new ih =>
    exact .stays (rolling a (by simp)) (ih fun b member => rolling b (by simp [member]))

/-- Steps that leave the execution state keep its reason. -/
theorem Explained.within (h : Explained w) (within : Within parts w w')
    (execution : .execution ∉ parts) : Explained w' := by
  -- All entries taken meanwhile show the execution state that `w` has.
  have same : ∀ {a : Entry}, a.On parts w → a.mem.exState = w.mem.exState :=
    fun on => (on.2 .execution execution).1
  constructor
  · refine within.always_on (fun a before on all rolling => ?_) h.entries
    have rolling' : w.mem.exState = .rollback := (same on).symm.trans rolling
    exact .stays rolling ((h.now rolling').append fun b member =>
      (same (all b member)).trans rolling')
  · intro rolling
    have rolling' : w.mem.exState = .rollback :=
      (within.same .execution execution).1.symm.trans rolling
    obtain ⟨new, trace, on⟩ := within.trace
    rw [trace]
    exact (h.now rolling').append fun b member => (same (on b member)).trans rolling'

theorem explained_proceeds {states : VehicleTaskState → Prop} {actions : List String}
    (h : Proceeds e parts states actions m) (execution : .execution ∉ parts) :
    Keeps e Explained m :=
  h.touches.keeps fun _ _ within explained => explained.within within (by simpa using execution)

theorem explained_touches (h : Touches e parts m) (execution : .execution ∉ parts) :
    Keeps e Explained m :=
  h.keeps fun _ _ within explained => explained.within within execution

theorem explained_nowMs : Keeps e Explained nowMs := fun _ h => ⟨h.entries, h.now⟩

/-- No call changes the execution state, and neither do the events emitted during one. -/
theorem explained_call (c : Call) : Keeps e Explained (call c) := by
  refine explained_touches (touches_call [c.part, .outbox] (by simp) (by simp)) ?_
  cases c <;> simp [Call.part]

theorem explained_setVtState (s : VehicleTaskState) : Keeps e Explained (setVtState s) :=
  explained_touches (touches_setVtState [.moved, .phase] s (by simp) (by simp)) (by simp)

theorem explained_persistVehicleTask (action : String) :
    Keeps e Explained (persistVehicleTask action) :=
  explained_touches (touches_persistVehicleTask [.phase] action (by simp)) (by simp)

theorem explained_save (s : Save) : Keeps e Explained (save s) := by
  intro w h
  have saved : Explained (w.effect (.saved s)) :=
    ⟨⟨fun rolling => .stays rolling (h.now rolling), h.entries⟩,
      fun rolling => .stays rolling (h.now rolling)⟩
  exact wp_save saved saved

theorem explained_persistExecution : Keeps e Explained persistExecution :=
  .bind (fun _ h => h) fun _ => .bind (explained_save _) fun _ => explained_save _

theorem explained_setExState {s : ExecutionState} (other : s ≠ .rollback) :
    Keeps e Explained (setExState s) := fun _ h =>
  ⟨⟨fun rolling => absurd rolling other, h.entries⟩, fun rolling => absurd rolling other⟩

/-- A permit makes the execution a new one, which does not roll back. -/
theorem explained_acceptPermit (resp : InstallPermitResponse) :
    Keeps e Explained (acceptPermit resp) := by
  refine .bind (fun w h => ⟨h.entries, h.now⟩) fun _ => ?_
  refine .bind (explained_setExState (by simp)) fun _ => ?_
  refine .bind (explained_setVtState _) fun _ => ?_
  refine .bind (explained_persistVehicleTask _) fun _ => ?_
  refine .bind explained_persistExecution fun _ => ?_
  refine .bind explained_nowMs fun _ => .ite (fun _ => .pure _) fun _ => ?_
  exact .bind (explained_call _) fun _ => .ite (fun _ => .pure _) fun _ =>
    .bind (fun _ h => h) fun _ => .pure _

theorem explained_requestPermit : Keeps e Explained requestPermit := by
  refine .bind (explained_call _) fun ev => .bind (fun _ h => h) fun m =>
    .bind (fun _ h => h) fun s => .bind (fun _ h => h) fun ctx =>
    .bind (explained_call _) fun reply => ?_
  cases reply with
  | error ex => exact .pure _
  | ok resp => exact .ite (fun _ => .pure _) fun _ => explained_acceptPermit resp

theorem explained_doPermit : Keeps e Explained doPermit := by
  refine .bind (fun _ h => h) fun m => .ite (fun _ => ?_) fun _ => ?_
  · refine .bind (explained_setVtState _) fun _ => ?_
    exact .bind (explained_persistVehicleTask _) fun _ => .bind (fun _ h => h) fun _ => .pure _
  · refine .bind explained_nowMs fun t => .ite (fun _ => .pure _) fun _ => ?_
    exact .bind (explained_call _) fun guards =>
      .ite (fun _ => .pure _) fun _ => explained_requestPermit

theorem explained_closeExecution (report : FinalResultReport) (resp : FinalResultResponse) :
    Keeps e Explained (closeExecution report resp) := by
  refine .bind (explained_touches touches_doLogUpload (by simp)) fun _ => ?_
  refine .bind (explained_setExState ?_) fun _ => ?_
  -- what an execution is closed as is never `Rollback`
  · unfold closedExecutionState
    split
    · simp
    · split <;> simp
  · refine .bind (explained_proceeds (proceeds_adoptStatus _ : Proceeds e [] _ [] _)
      (by simp)) fun _ => ?_
    refine .bind (explained_persistVehicleTask _) fun _ => ?_
    exact .bind explained_persistExecution fun _ => .bind (fun _ h => h) fun _ => .pure _

theorem explained_doFinalize : Keeps e Explained doFinalize := by
  refine .bind (explained_call _) fun data => .bind (fun _ h => h) fun m =>
    .bind explained_nowMs fun now =>
    .bind (fun _ h => h) fun ctx => .bind (explained_call _) fun reply => ?_
  cases reply with
  | error ex => exact .pure _
  | ok resp => exact .ite (fun _ => .pure _) fun _ => explained_closeExecution _ resp

theorem explained_flushOutbox : Keeps e Explained flushOutbox := by
  refine .bind (fun _ h => h) fun s =>
    .bind (explained_touches (touches_sendEvents _ _) (by simp)) fun st =>
    .bind (fun _ h => h) fun m =>
    .bind (explained_touches (touches_raiseAccepted _ _) (by simp)) fun _ =>
    .bind explained_persistExecution fun _ => ?_
  exact .ite (fun _ => .pure _) fun _ => explained_doFinalize

/-- An execution phase keeps the reason: the states it assigns are others. -/
theorem explained_doExecute : Keeps e Explained doExecute := by
  refine .bind (fun _ h => h) fun m => .ite (fun _ => ?_) fun _ => explained_flushOutbox
  refine .bind (explained_call _) fun prep => .ite (fun _ => .pure _) fun _ =>
    .bind (fun _ h => h) fun m => .bind (explained_call _) fun st =>
    .ite (fun _ => .pure _) fun _ => ?_
  exact .bind (explained_setExState (by simp)) fun _ =>
    .bind explained_persistExecution fun _ => explained_flushOutbox

theorem explained_step (h : Explained w) :
    wp step (fun _ => Explained) Explained e (w.note (.began .step)) := by
  have began : Explained (w.note (.began .step)) := h.within (.note_run _ rfl) (by simp)
  have move : ∀ {w : World} (s : VehicleTaskState), Explained w → Explained (w.move s) :=
    fun s h => explained_setVtState (e := e) s _ h
  refine wp_step (fun _ => began)
    (fun _ => explained_proceeds proceeds_doCheckTask (by simp) _ began)
    (fun _ => explained_proceeds proceeds_doConsent (by simp) _ began)
    (fun _ => explained_proceeds proceeds_doDownload (by simp) _ began)
    (fun _ => explained_doPermit _ began) (fun _ => explained_doExecute _ began)
    (fun _ => explained_doPermit _ (move _ began)) fun state => explained_doExecute _ (move _ ?_)
  -- The one assignment of `Rollback` is made where the task is in `ROLLBACK_PENDING`.
  exact ⟨⟨fun _ => .entered rfl state, began.entries⟩, fun _ => .entered rfl state⟩

/-- A restart that reads the state from the store is the reason. -/
theorem explained_restart (h : Explained w) : Explained (restart w) := by
  have durable : (restart w).mem.exState = .rollback → durableExState w.store = .rollback := by
    rw [restart_mem]
    cases lacks : lacksSnapshot w.store with
    | true =>
      rw [loadFromStore_without_snapshot lacks]
      simp
    | false =>
      rw [loadFromStore_with_snapshot lacks]
      exact fun same => same
  exact ⟨⟨fun rolling => .restored rfl (durable rolling), h.entries⟩,
    fun rolling => .restored rfl (durable rolling)⟩

end Rollback

theorem explained_run (env : Environment) (s : FotaCloudStateStore) (ops : List Operation) :
    Explained (run env (boot s) ops) :=
  run_keeps Explained Explained (fun _ _ h => h.within (.note_run _ rfl) (by simp))
    (fun _ _ within h => h.within within (by simp)) (fun _ h => explained_step h) (fun _ h => h)
    (fun _ h => explained_restart (h.within (.note_run .crashed rfl) (by simp)))
    (fun _ h => explained_restart h) ops (explained_restart ⟨trivial, by simp⟩)

/-- A report says `ROLLED_BACK` only in an execution that a step began to roll back out of
`ROLLBACK_PENDING`, or that was restored from a record which says so. -/
theorem rolledBack_explained (env : Environment) (s : FotaCloudStateStore) (ops : List Operation) :
    Always (fun a past => ∀ report ctx, a.event = .called (.reportFinalResult report ctx) →
      report.result = .rolledBack → RollingBack past) (run env (boot s) ops).trace := by
  refine ((reports_made env s ops).and (explained_run env s ops).entries).mono ?_
  intro a past both report ctx event rolledBack
  obtain ⟨made, explained⟩ := both
  unfold ReportMade at made
  rw [event] at made
  obtain ⟨data, -, now, rfl⟩ := made
  -- the report says so because the state does
  have rolling : a.mem.exState = .rollback := by
    unfold finalResultReport at rolledBack
    by_contra other
    simp [other] at rolledBack
  cases explained rolling with
  | restored other => simp [event] at other
  | entered other => simp [event] at other
  | stays _ before => exact before

/-- Over every run, with crashes and restarts anywhere: all reports agree with the executor
exactly if at each of them the execution state tells what the executor knows. -/
theorem reports_agree_iff (env : Environment) (s : FotaCloudStateStore) (ops : List Operation) :
    Always ReportAgrees (run env (boot s) ops).trace ↔
      Always StateTellsResult (run env (boot s) ops).trace := by
  have made := reports_made env s ops
  constructor
  · exact fun agree => (made.and agree).mono fun a past both =>
      (reportAgrees_iff a past both.1).mp both.2
  · exact fun tell => (made.and tell).mono fun a past both =>
      (reportAgrees_iff a past both.1).mpr both.2

/-- The executor rolled back on its own, and the report says `SUCCEEDED`. -/
theorem rollback_reported_as_success :
    let env : Environment :=
      { cooperative with
        reply := fun _ c => match c with
          | .readFinalResult => ({ rollbackOccurred := true } : FinalResultData)
          | c => cooperativeReply c }
    ¬Always ReportAgrees (run env (boot {}) (List.replicate 7 .step)).trace := by
  decide +kernel

end CgwFota
