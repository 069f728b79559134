import CgwFota.Orchestrator.Advance

/-!
# Aborted tasks

An `ABORT` is handed to the executor and leaves the states of the orchestrator as they are. The
phases go on as before; whether the task ends is up to the ports of the vehicle.

## Main definitions

* `abortedTasks`: the tasks whose abort was applied, read off a trace.
* `AbortFinal`: no permit is requested, no installation started and no success reported for one.
* `AbortRespected`: the ports keep the phases of an aborted task from going on.
* `AbortAgrees`: the invariant, that so far the one holds exactly if the other does.

## Main result

* `abort_final_iff`: over every run an abort is final exactly if it is respected.

## Proof strategy

A reply of a port and the call that follows on it decide together, and only these pairs decide
anything. Between the two the invariant says nothing, so the three phases that have such a pair are
walked through by hand; all other steps are silent and go by what they touch.
-/
namespace CgwFota

open Crash

/-- The tasks that were in hand when the executor applied an `ABORT`. -/
def abortedTasks : List Entry → List String
  | [] => []
  | a :: past =>
    match a.event with
    | .returned (.apply cmd) app =>
      if cmd.action = .abort ∧ app.status = .applied ∧ a.mem.vtState ≠ .none then
        a.mem.frozenTask.vehicleTaskId :: abortedTasks past
      else abortedTasks past
    | _ => abortedTasks past

/-- The task in hand was aborted. -/
def Aborted (a : Entry) (past : List Entry) : Prop :=
  a.mem.frozenTask.vehicleTaskId ∈ abortedTasks past

/-- For an aborted task no permit is requested, no installation started and no success reported. -/
def AbortFinal (a : Entry) (past : List Entry) : Prop :=
  match a.event with
  | .called (.requestInstall _ _) | .called (.start _) => ¬Aborted a past
  | .called (.reportFinalResult report _) => Aborted a past → report.result ≠ .succeeded
  | _ => True

/-- For an aborted task, unless the process crashes on the reply: the install conditions do not come
to be evaluated, the executor does not get ready, and its final result is read in a rollback. -/
def AbortRespected (env : Environment) (a : Entry) (past : List Entry) : Prop :=
  match a.event with
  | .returned .evaluateConditions _ => Aborted a past → env.crashes a.tick
  | .returned (.prepare _) prep => Aborted a past → prep.ready → env.crashes a.tick
  | .returned .readFinalResult _ =>
    Aborted a past → a.mem.exState = .rollback ∨ env.crashes a.tick
  | _ => True

instance (a : Entry) (past : List Entry) : Decidable (Aborted a past) :=
  inferInstanceAs (Decidable (_ ∈ _))

instance (a : Entry) (past : List Entry) : Decidable (AbortFinal a past) := by
  obtain ⟨_ | c | _, _, _, _⟩ := a
  all_goals unfold AbortFinal; try infer_instance
  rcases c with _ | _ <;> infer_instance

/-- The invariant: an abort was final so far exactly if it was respected so far. -/
def AbortAgrees (env : Environment) (w : World) : Prop :=
  Always AbortFinal w.trace ↔ Always (AbortRespected env) w.trace

section Abort

variable {e : Environment} {w w' : World} {parts : List Part}

/-- The replies and calls that decide about an aborted task. -/
def Event.decides : Event → Bool
  | .called (.requestInstall _ _) | .called (.start _) | .called (.reportFinalResult _ _)
  | .returned .evaluateConditions _ | .returned (.prepare _) _ | .returned .readFinalResult _ =>
    true
  | _ => false

theorem abort_undecided {a : Entry} (past : List Entry) (idle : a.event.decides = false) :
    AbortFinal a past ∧ AbortRespected e a past := by
  constructor
  · unfold AbortFinal
    split <;> simp_all [Event.decides]
  · unfold AbortRespected
    split <;> simp_all [Event.decides]

theorem AbortAgrees.cons (h : AbortAgrees e w) {a : Entry} (trace : w'.trace = a :: w.trace)
    (same : AbortFinal a w.trace ↔ AbortRespected e a w.trace) : AbortAgrees e w' := by
  unfold AbortAgrees at h ⊢
  rw [trace, always_cons, always_cons, h, same]

theorem AbortAgrees.effect (h : AbortAgrees e w) (event : Event) (idle : event.decides = false) :
    AbortAgrees e (w.effect event) := by
  obtain ⟨final, respected⟩ := abort_undecided (e := e) (a := ⟨event, w.mem, w.store, w.tick⟩)
    w.trace idle
  exact h.cons rfl (iff_of_true final respected)

theorem AbortAgrees.note (h : AbortAgrees e w) (event : Event) (idle : event.decides = false) :
    AbortAgrees e (w.note event) := by
  obtain ⟨final, respected⟩ := abort_undecided (e := e) (a := ⟨event, w.mem, w.store, w.tick⟩)
    w.trace idle
  exact h.cons rfl (iff_of_true final respected)

/-- Steps that touch neither the permit nor the installation nor the result keep the agreement. -/
theorem AbortAgrees.within (h : AbortAgrees e w) (within : Within parts w w')
    (permit : .permit ∉ parts) (install : .install ∉ parts) (result : .result ∉ parts) :
    AbortAgrees e w' := by
  -- the calls that decide are all of the three parts
  have idle : ∀ event : Event, event.part ∈ parts → event.decides = false := by
    intro event member
    cases event with
    | called c => cases c <;> first | rfl | exact absurd member (by assumption)
    | returned c r => cases c <;> first | rfl | exact absurd member (by assumption)
    | _ => rfl
  -- so no event of these steps takes part in either predicate
  have same : ∀ {P : Entry → List Entry → Prop},
      (∀ a past, a.event.decides = false → P a past) →
      (Always P w'.trace ↔ Always P w.trace) := by
    intro P silent
    constructor
    · exact within.past
    · exact within.always fun a past member => silent a past (idle a.event member)
  unfold AbortAgrees at h ⊢
  rw [same fun a past idle => (abort_undecided (e := e) past idle).1,
    same fun a past idle => (abort_undecided (e := e) past idle).2]
  exact h

theorem agrees_touches {α : Type} {m : Orch α} (h : Touches e parts m) (permit : .permit ∉ parts)
    (install : .install ∉ parts) (result : .result ∉ parts) : Keeps e (AbortAgrees e) m :=
  h.keeps fun _ _ within agrees => agrees.within within permit install result

/-- A call that decides nothing. -/
theorem agrees_call {c : Call} (called : (Event.called c).decides = false)
    (returned : ∀ r, (Event.returned c r).decides = false) : Keeps e (AbortAgrees e) (call c) := by
  intro w h
  have asked := h.effect (.called c) called
  refine wp_call (fun w' within => asked.within within (by simp) (by simp) (by simp))
    fun w' r within => ?_
  have answered := (asked.within within (by simp) (by simp) (by simp)).effect (.returned c r)
    (returned r)
  exact ⟨answered, answered⟩

/-- A reply and the call that follows it decide together, unless the process crashes between. -/
theorem wp_call_deciding {c : Call} {Q : c.Reply → World → Prop} (h : AbortAgrees e w)
    (called : (Event.called c).decides = false)
    (harmless : ∀ r (w' : World), AbortFinal ⟨.returned c r, w'.mem, w'.store, w'.tick⟩ w'.trace)
    (crashing : ∀ r (w' : World), e.crashes w'.tick →
      AbortRespected e ⟨.returned c r, w'.mem, w'.store, w'.tick⟩ w'.trace)
    (next : ∀ r w', AbortAgrees e w' → e.crashes w'.tick = false →
      Q r (w'.effect (.returned c r))) :
    wp (call c) Q (AbortAgrees e) e w := by
  have asked := h.effect (.called c) called
  refine wp_call_if (fun w' within => asked.within within (by simp) (by simp) (by simp))
    fun w' r within => ⟨fun crashes => ?_, fun going => ?_⟩
  · have agrees := asked.within within (by simp) (by simp) (by simp)
    exact agrees.cons rfl (iff_of_true (harmless r w') (crashing r w' crashes))
  · exact next r w' (asked.within within (by simp) (by simp) (by simp)) going

/-- The call agrees with the reply before it. -/
theorem AbortAgrees.decided (h : AbortAgrees e w) {reply ask : Entry}
    (trace : w'.trace = ask :: reply :: w.trace) (harmless : AbortFinal reply w.trace)
    (answers : AbortRespected e ask (reply :: w.trace))
    (same : AbortFinal ask (reply :: w.trace) ↔ AbortRespected e reply w.trace) :
    AbortAgrees e w' := by
  unfold AbortAgrees at h ⊢
  simp only [trace, always_cons, h, harmless, answers, same, true_and]

theorem agrees_acceptPermit (resp : InstallPermitResponse) :
    Keeps e (AbortAgrees e) (acceptPermit resp) := by
  have quiet : ∀ {α : Type} {m : Orch α} {parts : List Part}, Touches e parts m →
      .permit ∉ parts → .install ∉ parts → .result ∉ parts → Keeps e (AbortAgrees e) m :=
    agrees_touches
  -- the states are saved, then the window is looked at and the guards are asked: nothing decides
  refine .bind (fun w h => h) fun _ => ?_
  refine .bind (quiet (touches_setExState [.moved, .execution] _ (by simp) (by simp)) (by simp)
    (by simp) (by simp)) fun _ => ?_
  refine .bind (quiet (touches_setVtState [.moved, .phase] _ (by simp) (by simp)) (by simp)
    (by simp) (by simp)) fun _ => ?_
  refine .bind (quiet (touches_persistVehicleTask [.phase] _ (by simp)) (by simp)
    (by simp) (by simp)) fun _ => ?_
  refine .bind (quiet (touches_persistExecution [.execution, .outbox] (by simp) (by simp))
    (by simp) (by simp) (by simp)) fun _ => ?_
  refine .bind (fun w h => h) fun now => .ite (fun _ => .pure _) fun _ => ?_
  refine .bind (agrees_call rfl fun _ => rfl) fun guards => .ite (fun _ => .pure _) fun _ => ?_
  exact .bind (fun w h => h) fun _ => .pure _

/-- Once the conditions are evaluated, the permit is requested. -/
theorem agrees_requestPermit : Keeps e (AbortAgrees e) requestPermit := by
  intro w h
  unfold requestPermit
  simp only [wp_bind, wp_memory, wp_store, wp_makeCtx]
  refine wp_call_deciding h rfl (fun _ _ => trivial) (fun _ _ crashes _ => crashes)
    fun ev w₁ h going => ?_
  -- with the crash ruled out, the reply asks for no abort exactly where the request has none
  have asked : ∀ req ctx, AbortAgrees e
      ((w₁.effect (.returned .evaluateConditions ev)).effect
        (.called (.requestInstall req ctx))) := by
    intro req ctx
    refine h.decided rfl trivial trivial ?_
    show ¬_ ↔ (_ → e.crashes w₁.tick)
    simp only [going, Bool.false_eq_true]
    rfl
  refine wp_call (fun w₂ within => (asked _ _).within within (by simp) (by simp) (by simp))
    fun w₂ reply within => ?_
  have answered := ((asked _ _).within within (by simp) (by simp) (by simp)).effect
    (.returned (.requestInstall _ _) reply) rfl
  refine ⟨answered, ?_⟩
  cases reply with
  | error ex => exact answered
  | ok resp =>
    exact Keeps.ite (fun _ => .pure _) (fun _ => agrees_acceptPermit resp) _ answered

theorem agrees_doPermit : Keeps e (AbortAgrees e) doPermit := by
  -- the window is closed: only the phase is saved
  refine .bind (fun w h => h) fun m => .ite (fun _ => ?_) fun _ => ?_
  · refine .bind (agrees_touches (touches_setVtState [.moved, .phase] _ (by simp) (by simp))
      (by simp) (by simp) (by simp)) fun _ => ?_
    refine .bind (agrees_touches (touches_persistVehicleTask [.phase] _ (by simp))
      (by simp) (by simp) (by simp)) fun _ => ?_
    exact .bind (fun w h => h) fun _ => .pure _
  -- the window is open: the guards come first, the request last
  · refine .bind (fun w h => h) fun t => .ite (fun _ => .pure _) fun _ => ?_
    exact .bind (agrees_call rfl fun _ => rfl) fun guards =>
      .ite (fun _ => .pure _) fun _ => agrees_requestPermit

/-- Once the final result is read, it is reported. -/
theorem agrees_doFinalize : Keeps e (AbortAgrees e) doFinalize := by
  intro w h
  unfold doFinalize
  simp only [wp_bind, wp_memory, wp_nowMs, wp_makeCtx]
  refine wp_call_deciding h rfl (fun _ _ => trivial) (fun _ _ crashes _ => .inr crashes)
    fun data w₁ h going => ?_
  have asked : ∀ now ctx, AbortAgrees e
      ((w₁.effect (.returned .readFinalResult data)).advance.effect
        (.called (.reportFinalResult (finalResultReport w₁.mem data now) ctx))) := by
    intro now ctx
    refine h.decided rfl trivial trivial ?_
    -- what is reported depends on the rollback, and so does the condition
    show (_ → (if w₁.mem.exState = .rollback then _ else _ : Result) ≠ .succeeded) ↔
      (_ → w₁.mem.exState = .rollback ∨ e.crashes w₁.tick)
    by_cases rolling : w₁.mem.exState = .rollback
    · simp [rolling]
    · simp only [rolling, going, ite_false, ne_eq, not_true_eq_false, Bool.false_eq_true, or_self]
      rfl
  refine wp_call (fun w₂ within => (asked _ _).within within (by simp) (by simp) (by simp))
    fun w₂ reply within => ?_
  have answered := ((asked _ _).within within (by simp) (by simp) (by simp)).effect
    (.returned (.reportFinalResult _ _) reply) rfl
  refine ⟨answered, ?_⟩
  cases reply with
  | error ex => exact answered
  | ok resp =>
    exact Keeps.ite (fun _ => .pure _) (fun _ => agrees_touches
      (proceeds_closeExecution _ _).touches (by simp) (by simp) (by simp)) _ answered

theorem agrees_flushOutbox : Keeps e (AbortAgrees e) flushOutbox := fun _ h =>
  wp_flushOutbox (fun _ _ within h => h.within within (by simp) (by simp) (by simp))
    (fun _ h => h) (fun _ _ h => h) agrees_doFinalize h

/-- Once the executor is ready, it is started. -/
theorem agrees_doExecute : Keeps e (AbortAgrees e) doExecute := by
  intro w h
  unfold doExecute recordStart
  simp only [wp_bind, wp_memory, wp_ite, wp_pure]
  split
  next =>
    refine wp_call_deciding h rfl (fun _ _ => trivial) (fun _ _ crashes _ _ => crashes)
      fun prep w₁ h going => ?_
    -- the executor is not ready: nothing is started, and the condition asks for nothing
    split
    next waiting =>
      refine h.cons rfl (iff_of_true trivial ?_)
      intro _ ready
      simp [ready] at waiting
    -- it is ready: the start and the reply stand or fall together
    next ready =>
      have ready : prep.ready = true := by simpa using ready
      have asked : AbortAgrees e ((w₁.effect (.returned (.prepare w.mem.frozenTask) prep)).effect
          (.called (.start w₁.mem.permit))) := by
        refine h.decided rfl trivial trivial ?_
        show ¬_ ↔ (_ → prep.ready → e.crashes w₁.tick)
        simp only [going, ready, Bool.false_eq_true, imp_false, not_true_eq_false]
        rfl
      refine wp_call (fun w₂ within => asked.within within (by simp) (by simp) (by simp))
        fun w₂ st within => ?_
      have answered := (asked.within within (by simp) (by simp) (by simp)).effect
        (.returned (.start _) st) rfl
      refine ⟨answered, ?_⟩
      split
      next => exact answered
      next =>
        rw [wp_setExState]
        have started := AbortAgrees.note (w := (w₂.effect (.returned (.start _) st)).withMemory
          fun m => { m with exState := .installStarted }) answered .moved rfl
        exact wp_mono (agrees_touches (touches_persistExecution [.execution, .outbox] (by simp)
          (by simp)) (by simp) (by simp) (by simp) _ started) (fun _ => agrees_flushOutbox) fun _
            h => h
  -- nothing is left to start
  next => exact agrees_flushOutbox _ h

end Abort

/-- Over every run, from any store and with crashes and restarts anywhere: an applied abort is final
for its task exactly if the ports of the vehicle keep the phases from going on. -/
theorem abort_final_iff (env : Environment) (s : FotaCloudStateStore) (ops : List Operation) :
    Always AbortFinal (run env (boot s) ops).trace ↔
      Always (AbortRespected env) (run env (boot s) ops).trace := by
  have noted : ∀ w event, event.part = .run → AbortAgrees env w → AbortAgrees env (w.note event) :=
    fun w event part h => h.within (.note_run event part) (by simp) (by simp) (by simp)
  have phase : ∀ {w : World} {parts : List Part} {m : Orch StepOutcome}, Touches env parts m →
      .permit ∉ parts → .install ∉ parts → .result ∉ parts → AbortAgrees env w →
      wp m (fun _ => AbortAgrees env) (AbortAgrees env) env w :=
        fun touches permit install result =>
    -- only three phases have steps that decide
    agrees_touches touches permit install result _
  refine run_keeps (AbortAgrees env) (AbortAgrees env) (fun op w => noted w (.began op) rfl)
    (fun w w' within h => h.within within (by simp) (by simp) (by simp)) (fun w h => ?_)
    (fun _ h => h) (fun w h => noted _ .restarted rfl (noted w .crashed rfl h))
    (fun w h => noted _ .restarted rfl h) ops Iff.rfl
  have h := noted w (.began .step) rfl h
  refine wp_step (fun _ => h) (fun _ => phase proceeds_doCheckTask.touches (by simp) (by simp)
    (by simp) h) (fun _ => phase proceeds_doConsent.touches (by simp) (by simp) (by simp) h)
    (fun _ => phase proceeds_doDownload.touches (by simp) (by simp) (by simp) h)
    (fun _ => agrees_doPermit _ h) (fun _ => agrees_doExecute _ h)
    (fun _ => agrees_doPermit _ (h.note .moved rfl))
    fun _ => agrees_doExecute _ ((h.note .moved rfl).note .moved rfl)

/-- The abort is applied while the window is still closed; the permit is requested all the same. -/
theorem aborted_task_goes_on :
    let ops := List.replicate 4 .step ++ .applyControl { action := .abort } ::
      List.replicate 2 .step
    ¬Always AbortFinal (run cooperative (boot {}) ops).trace := by
  decide +kernel

end CgwFota
