import CgwFota.Orchestrator.Frame

/-!
# How a task advances

Beside what it does within its own parts, a phase moves the task to other states and persists it.
The relation below keeps the two apart: an invariant of runs has to be checked against quiet
actions, against moves and against the records written.

## Main definitions

* `Advances`, `Halts`: how far an action may get, with and without a crash
* `Proceeds`: however it stops, the action only advances the task in the given ways

## Main results

* `proceeds_doCheckTask` and its siblings: each phase, the states it moves to and the actions it
  persists the task under
* `Proceeds.wp`: the rule for an invariant of an action that proceeds
* `wp_step`, `wp_doExecute`, `wp_doFinalize`: the dispatch of a step, and the way to a final result
* `run_keeps`, `run_keeps_emitting`: from steps, emissions and restarts to whole runs

## Proof strategy

Each phase is taken apart as it is written; what it does is quiet unless it calls `setVtState` or
`persistVehicleTask`. Emissions are kept as a case of their own, since a crash may fall between
their two saves.
-/
namespace CgwFota

open Crash

/-- The memory with another task state, and the note of it. -/
abbrev World.move (w : World) (s : VehicleTaskState) : World :=
  (w.withMemory fun m => { m with vtState := s }).note .moved

/-- The task record of the current memory, written at `now`. -/
abbrev World.persist (w : World) (action : String) (now : Int) : World :=
  w.effect (.saved (.vehicleTask (vehicleTaskRecord w.mem action now)))

@[simp] theorem durableVtState_persist (w : World) (action : String) (now : Int) :
    durableVtState (w.persist action now).store = w.mem.vtState := by
  simp [durableVtState, vehicleTaskRecord]

@[simp] theorem durableTask_persist (w : World) (action : String) (now : Int) :
    durableTask (w.persist action now).store = w.mem.frozenTask := rfl

/-- A whole emission into the outbox. -/
def Emitted (e : Environment) (w w' : World) : Prop :=
  ∃ evt sent, emit evt e w = .done sent w'

/-- An emission cut short by a crash. -/
def Torn (e : Environment) (w w' : World) : Prop :=
  ∃ evt, emit evt e w = .crashed w'

theorem Emitted.within {e : Environment} {w w' : World} (h : Emitted e w w') :
    Within [.outbox] w w' := by
  obtain ⟨evt, sent, run⟩ := h
  have touches := touches_emit (e := e) [.outbox] evt (by simp) w
  unfold wp at touches
  rwa [run] at touches

theorem Torn.within {e : Environment} {w w' : World} (h : Torn e w w') :
    Within [.outbox] w w' := by
  obtain ⟨evt, run⟩ := h
  have touches := touches_emit (e := e) [.outbox] evt (by simp) w
  unfold wp at touches
  rwa [run] at touches

/-- `w'` is reached from `w` by actions on the given parts, by emissions, by moves to the given
states and by task records written under the given actions. -/
inductive Advances (e : Environment) (parts : List Part) (states : VehicleTaskState → Prop)
    (actions : List String) (w : World) : World → Prop where
  | refl : Advances e parts states actions w w
  | within {w' w'' : World} (before : Advances e parts states actions w w')
      (quiet : Within parts w' w'') : Advances e parts states actions w w''
  | emission {w' w'' : World} (before : Advances e parts states actions w w')
      (emitted : Emitted e w' w'') : Advances e parts states actions w w''
  | move {w' : World} (before : Advances e parts states actions w w') (s : VehicleTaskState)
      (allowed : states s) : Advances e parts states actions w (w'.move s)
  | persist {w' : World} (before : Advances e parts states actions w w') (action : String)
      (now : Int) (listed : action ∈ actions) :
      Advances e parts states actions w (w'.persist action now)

/-- What a crash leaves on the way: only an emission can be cut in two. -/
def Halts (e : Environment) (parts : List Part) (states : VehicleTaskState → Prop)
    (actions : List String) (w w' : World) : Prop :=
  ∃ last, Advances e parts states actions w last ∧ (w' = last ∨ Torn e last w')

section Advances

variable {e : Environment} {parts parts' : List Part} {states states' : VehicleTaskState → Prop}
  {actions actions' : List String} {w w' w'' : World}

theorem Advances.trans (h : Advances e parts states actions w w')
    (h' : Advances e parts states actions w' w'') : Advances e parts states actions w w'' := by
  induction h' with
  | refl => exact h
  | within _ quiet ih => exact .within ih quiet
  | emission _ emitted ih => exact .emission ih emitted
  | move _ s allowed ih => exact .move ih s allowed
  | persist _ action now listed ih => exact .persist ih action now listed

instance : IsPreorder World (Advances e parts states actions) where
  refl _ := .refl
  trans _ _ _ := .trans

instance : Trans (Advances e parts states actions) (Halts e parts states actions)
    (Halts e parts states actions) where
  trans := fun h ⟨last, before, stop⟩ => ⟨last, h.trans before, stop⟩

theorem Advances.mono (h : Advances e parts states actions w w') (sub : ∀ p ∈ parts, p ∈ parts')
    (more : ∀ s, states s → states' s) (longer : ∀ a ∈ actions, a ∈ actions') :
    Advances e parts' states' actions' w w' := by
  induction h with
  | refl => exact .refl
  | within _ quiet ih => exact .within ih (quiet.mono sub)
  | emission _ emitted ih => exact .emission ih emitted
  | move _ s allowed ih => exact .move ih s (more s allowed)
  | persist _ action now listed ih => exact .persist ih action now (longer _ listed)

/-- All in all the task parts and the outbox are touched as well. -/
theorem Advances.touched (h : Advances e parts states actions w w') :
    Within (.outbox :: .phase :: .moved :: parts) w w' := by
  induction h with
  | refl => exact .refl _
  | within _ quiet ih => exact ih.trans (quiet.mono (by simp +contextual))
  | emission _ emitted ih => exact ih.trans (emitted.within.mono (by simp))
  | move _ s _ ih =>
    refine (ih.trans (.withMemory fun p out => ?_)).trans (.note .moved (by simp [Event.part]))
    cases p <;> simp [Part.Same] at out ⊢
  | persist _ action now _ ih => exact ih.trans (.effect _ (by simp [Event.part, Save.part]))

theorem Halts.touched (h : Halts e parts states actions w w') :
    Within (.outbox :: .phase :: .moved :: parts) w w' := by
  obtain ⟨last, before, rfl | torn⟩ := h
  · exact before.touched
  · exact before.touched.trans (torn.within.mono (by simp))

/-- The four things to check of an invariant. -/
theorem Advances.preserves {I : World → Prop} (h : Advances e parts states actions w w')
    (holds : I w) (quiet : ∀ w w', Within parts w w' → I w → I w')
    (emissions : ∀ w w', Emitted e w w' → I w → I w')
    (moves : ∀ w s, states s → I w → I (w.move s))
    (persists : ∀ w action now, action ∈ actions → I w → I (w.persist action now)) : I w' := by
  induction h with
  | refl => exact holds
  | within _ within ih => exact quiet _ _ within ih
  | emission _ emitted ih => exact emissions _ _ emitted ih
  | move _ s allowed ih => exact moves _ s allowed ih
  | persist _ action now listed ih => exact persists _ action now listed ih

end Advances

/-- However it stops, the action only advances the task in the given ways. -/
abbrev Proceeds (e : Environment) (parts : List Part) (states : VehicleTaskState → Prop)
    (actions : List String) {α : Type} (m : Orch α) : Prop :=
  Follows e (Advances e parts states actions) (Halts e parts states actions) m

section Phases

variable {e : Environment} {parts parts' : List Part} {states states' : VehicleTaskState → Prop}
  {actions actions' : List String} {α : Type} {m : Orch α}

theorem Proceeds.mono (h : Proceeds e parts states actions m) (sub : ∀ p ∈ parts, p ∈ parts')
    (more : ∀ s, states s → states' s) (longer : ∀ a ∈ actions, a ∈ actions') :
    Proceeds e parts' states' actions' m := by
  refine Follows.mono h (fun _ _ advances => advances.mono sub more longer) ?_
  rintro w w' ⟨last, before, stop⟩
  exact ⟨last, before.mono sub more longer, stop⟩

theorem Proceeds.touches (h : Proceeds e parts states actions m) :
    Touches e (.outbox :: .phase :: .moved :: parts) m :=
  Follows.mono h (fun _ _ advances => advances.touched) fun _ _ halts => halts.touched

/-- `D` is what is left of the invariant in the middle of an emission. -/
theorem Proceeds.wp {I D : World → Prop} (h : Proceeds e parts states actions m)
    (quiet : ∀ w w', Within parts w w' → I w → I w')
    (emissions : ∀ evt w, I w → wp (emit evt) (fun _ => I) D e w)
    (moves : ∀ w s, states s → I w → I (w.move s))
    (persists : ∀ w action now, action ∈ actions → I w → I (w.persist action now))
    (crash : ∀ w, I w → D w) {w : World} (holds : I w) : wp m (fun _ => I) D e w := by
  have done : ∀ w w', Emitted e w w' → I w → I w' := by
    rintro w w' ⟨evt, sent, run⟩ holds
    have emission := emissions evt w holds
    unfold Crash.wp at emission
    rwa [run] at emission
  have advanced : ∀ w', Advances e parts states actions w w' → I w' := fun w' advances =>
    advances.preserves holds quiet done moves persists
  refine wp_mono (h w) (fun _ w' advances => advanced w' advances) fun w' halts => ?_
  -- the process was lost between two effects
  obtain ⟨last, before, rfl | ⟨evt, run⟩⟩ := halts
  · exact crash _ (advanced _ before)
  -- it was lost in an emission, between the two saves
  · have emission := emissions evt last (advanced _ before)
    unfold Crash.wp at emission
    rwa [run] at emission

/-- Invariants that do not look at the outbox need not look at emissions. -/
theorem Proceeds.keeps {I : World → Prop} (h : Proceeds e parts states actions m)
    (quiet : ∀ w w', Within (.outbox :: parts) w w' → I w → I w')
    (moves : ∀ w s, states s → I w → I (w.move s))
    (persists : ∀ w action now, action ∈ actions → I w → I (w.persist action now)) :
    Keeps e I m := fun _ holds =>
  h.wp (fun w w' within => quiet w w' (within.mono (by simp +contextual)))
    (fun evt => (touches_emit _ evt (by simp)).keeps quiet) moves persists (fun _ h => h) holds

/-- Where the task is neither moved nor persisted. -/
theorem Proceeds.touches_only (h : Proceeds e parts (fun _ => False) [] m) :
    Touches e (.outbox :: parts) m := by
  have touched : ∀ w w', Advances e parts (fun _ => False) [] w w' →
      Within (.outbox :: parts) w w' := fun w w' advances =>
    advances.preserves (I := Within (.outbox :: parts) w) (.refl _)
      (fun _ _ within before => before.trans (within.mono (by simp +contextual)))
      (fun _ _ emitted before => before.trans (emitted.within.mono (by simp)))
      (fun _ _ never => never.elim) (fun _ _ _ never => by simp at never)
  refine Follows.mono h touched fun w w' halts => ?_
  obtain ⟨last, before, stop⟩ := halts
  rcases stop with rfl | torn
  · exact touched _ _ before
  · exact (touched _ _ before).trans (torn.within.mono (by simp))

theorem quietly (h : Touches e parts m) : Proceeds e parts states actions m :=
  Follows.mono h (fun _ _ within => .within .refl within)
    fun _ w' within => ⟨w', .within .refl within, .inl rfl⟩

theorem proceeds_emit (evt : ExecutionEvent) : Proceeds e parts states actions (emit evt) := by
  intro w
  unfold Crash.wp
  cases run : emit evt e w with
  | done sent w' => exact .emission .refl ⟨evt, sent, run⟩
  | crashed w' => exact ⟨w, .refl, .inr ⟨evt, run⟩⟩

theorem proceeds_call {c : Call} (member : c.part ∈ parts) :
    Proceeds e parts states actions (call c) := by
  refine .bind (quietly (touches_effect member)) fun _ => .bind (fun w => ?_) fun _ =>
    .bind (quietly fun w => Within.refl w) fun _ =>
    .bind (quietly (touches_effect member)) fun _ => .pure _
  exact Follows.forEach (fun evt => .bind (proceeds_emit evt) fun _ => .pure ())
    (e.emits w.tick c) w

/-- A call, for an invariant that survives the emissions the environment makes meanwhile. -/
theorem wp_call_while {c : Call} {I D : World → Prop} {Q : c.Reply → World → Prop} {w : World}
    (called : I (w.effect (.called c)))
    (emissions : ∀ tick, ∀ evt ∈ e.emits tick c, ∀ w, I w → wp (emit evt) (fun _ => I) D e w)
    (crash : ∀ w, I w → D w)
    (returned : ∀ r w', I w' → Within [.outbox] (w.effect (.called c)) w' →
      D (w'.effect (.returned c r)) ∧ Q r (w'.effect (.returned c r))) :
    wp (call c) Q D e w := by
  have emits : ∀ w, I w → wp (reentrantEmits c) (fun _ => I) D e w := fun w holds =>
    wp_forEach (e.emits w.tick c)
      (fun evt member w holds => by simpa using emissions _ evt member w holds) w holds
  unfold call
  simp only [wp_bind]
  refine wp_effect (crash _ called) ?_
  refine wp_mono (wp_and (emits _ called)
    (touches_reentrantEmits [.outbox] c (by simp) _)) (fun _ w' both => ?_)
    fun _ both => both.1
  exact wp_effect (returned _ w' both.1 both.2).1 (returned _ w' both.1 both.2).2

/-- A call, for an invariant that emissions preserve. -/
theorem wp_call_emitting {c : Call} {I D : World → Prop} {Q : c.Reply → World → Prop} {w : World}
    (called : I (w.effect (.called c)))
    (emissions : ∀ evt w, I w → wp (emit evt) (fun _ => I) D e w) (crash : ∀ w, I w → D w)
    (returned : ∀ r w', I w' → Within [.outbox] (w.effect (.called c)) w' →
      D (w'.effect (.returned c r)) ∧ Q r (w'.effect (.returned c r))) :
    wp (call c) Q D e w :=
  wp_call_while called (fun _ evt _ => emissions evt) crash returned

theorem proceeds_setVtState (s : VehicleTaskState) (allowed : states s) :
    Proceeds e parts states actions (setVtState s) :=
  fun _ => .move .refl s allowed

theorem wp_persistVehicleTask {Q : Unit → World → Prop} {C : World → Prop} {w : World}
    {action : String} (crash : C (w.advance.persist action (e.clock w.tick)))
    (next : Q () (w.advance.persist action (e.clock w.tick))) :
    wp (persistVehicleTask action) Q C e w :=
  wp_save crash next

theorem proceeds_persistVehicleTask (action : String) (listed : action ∈ actions) :
    Proceeds e parts states actions (persistVehicleTask action) := by
  intro w
  have saved : Advances e parts states actions w (w.advance.persist action (e.clock w.tick)) :=
    .persist (.within .refl .advance) action (e.clock w.tick) listed
  exact wp_persistVehicleTask ⟨_, saved, .inl rfl⟩ saved

/-! ### The phases -/

/-- A task that was found is persisted twice, as found and as waiting. -/
theorem proceeds_freezeTask (task : VehicleTaskSnapshot) :
    Proceeds e [.task, .inventory] (· ∈ [.discovered, .consentPending, .downloadPending])
      ["checkTask", "consentRequired"] (freezeTask task) := by
  refine .bind (quietly (touches_setMemory fun w p out => ?_)) fun _ => ?_
  · cases p <;> simp [Part.Same] at out ⊢
  · exact .bind (proceeds_setVtState _ (by simp)) fun _ =>
      .bind (proceeds_persistVehicleTask _ (by simp)) fun _ =>
      .bind (proceeds_setVtState _ (by simp)) fun _ =>
      .bind (proceeds_persistVehicleTask _ (by simp)) fun _ =>
      .bind (quietly touches_memory) fun _ => .pure _

/-- The check for a task asks for the inventory and for the task, and freezes what it finds. -/
theorem proceeds_doCheckTask :
    Proceeds e [.task, .inventory] (· ∈ [.discovered, .consentPending, .downloadPending])
      ["checkTask", "consentRequired"] doCheckTask := by
  refine .bind (proceeds_call (by simp [Call.part])) fun inv => ?_
  refine .bind (quietly touches_memory) fun m => .bind (quietly (touches_makeCtx _)) fun ctx => ?_
  refine .bind (proceeds_call (by simp [Call.part])) fun reply => ?_
  cases reply with
  | error ex => exact .pure _
  | ok resp =>
    refine .ite (fun _ => quietly (touches_requireFull _ _ _ _ (by simp))) fun _ => ?_
    cases resp.task with
    | none => exact .pure _
    | some task => exact proceeds_freezeTask task

/-- The consent is recorded, and the task goes on to the download or to its end. -/
theorem proceeds_doConsent :
    Proceeds e [.consent] (· ∈ [.downloadPending, .ended]) ["consent"] doConsent := by
  refine .bind (quietly touches_memory) fun m => ?_
  refine .bind (proceeds_call (by simp [Call.part])) fun choice => ?_
  refine .bind (quietly touches_nowMs) fun now => .bind (quietly (touches_makeCtx _)) fun ctx => ?_
  refine .bind (proceeds_call (by simp [Call.part])) fun reply => ?_
  cases reply with
  | error ex => exact .pure _
  | ok resp =>
    exact .bind (quietly touches_nowMs) fun _ =>
      .bind (quietly (touches_save (by simp [Save.part]))) fun _ =>
      .bind (proceeds_setVtState _ (by split <;> simp)) fun _ =>
      .bind (proceeds_persistVehicleTask _ (by simp)) fun _ =>
      .bind (quietly touches_memory) fun _ => .pure _

theorem proceeds_abandonDownload (entry : FotaDownloadRecord) (ex : FotaCloudException) :
    Proceeds e [.download] (· = .downloading) []
      (abandonDownload entry ex) :=
  .bind (proceeds_setVtState _ (by simp)) fun _ =>
    .bind (quietly (touches_save (by simp [Save.part]))) fun _ => .pure _

theorem proceeds_concludeDownload (entry : FotaDownloadRecord) (cleared : Bool)
    (outcome : DownloadOutcome) :
    Proceeds e [.download] (· = .downloading) []
      (concludeDownload entry cleared outcome) :=
  .ite (fun _ => .bind (quietly (touches_save (by simp [Save.part]))) fun _ => .pure _) fun _ =>
    .bind (quietly (touches_save (by simp [Save.part]))) fun _ => .pure _

/-- The verification of a package ends in one of these ways. -/
theorem proceeds_verifyPackage (pkg : PackageSummary) (entry : FotaDownloadRecord)
    (grant : DownloadGrantResponse) :
    Proceeds e [.download] (· = .downloading) []
      (verifyPackage pkg entry grant) := by
  refine .bind (proceeds_call (by simp [Call.part])) fun outcome => ?_
  refine .ite (fun _ => ?_) fun _ => proceeds_concludeDownload _ _ _
  refine .bind (quietly touches_nowMs) fun now => .bind (quietly (touches_makeCtx _)) fun ctx => ?_
  refine .bind (proceeds_call (by simp [Call.part])) fun reply => ?_
  cases reply with
  | error ex => exact proceeds_abandonDownload _ _
  | ok resp =>
    exact .ite (fun _ => proceeds_concludeDownload _ _ _) fun _ => proceeds_concludeDownload _ _ _

theorem proceeds_downloadPackage (pkg : PackageSummary) :
    Proceeds e [.download] (· = .downloading) []
      (downloadPackage pkg) := by
  refine .bind (quietly touches_store) fun s => .ite (fun _ => ?_) fun _ => ?_
  -- a record that is ready is not asked about again
  · exact .bind (quietly fun _ => Within.note _ (by simp [Event.part])) fun _ => .pure _
  · refine .bind (quietly touches_memory) fun m => .bind (quietly (touches_makeCtx _)) fun ctx => ?_
    refine .bind (proceeds_call (by simp [Call.part])) fun reply => ?_
    cases reply with
    | error ex => exact proceeds_abandonDownload _ _
    | ok grant => exact proceeds_verifyPackage _ _ _

theorem proceeds_downloadPackages (packages : List PackageSummary) (allReady : Bool)
    (error : String) :
    Proceeds e [.download] (· = .downloading) []
      (downloadPackages packages allReady error) := by
  induction packages generalizing allReady error with
  | nil => exact .pure _
  | cons pkg rest ih =>
    refine .bind (proceeds_downloadPackage pkg) fun r => ?_
    cases r with
    | stop ex => exact .pure _
    | next cleared ex => exact ih _ _

/-- The download moves the task to ready, or leaves it downloading. -/
theorem proceeds_doDownload :
    Proceeds e [.download] (· ∈ [.ready, .downloading]) ["download"] doDownload := by
  refine .bind (quietly touches_memory) fun m =>
    .bind ((proceeds_downloadPackages _ _ _).mono (by simp) (by simp) (by simp)) fun r => ?_
  cases r with
  | error ex => exact .pure _
  | ok r =>
    exact .bind (proceeds_setVtState _ (by simp)) fun _ =>
      .bind (proceeds_persistVehicleTask _ (by simp)) fun _ =>
      .bind (quietly touches_memory) fun _ => .pure _

/-- A permit is persisted before the guards are asked again. -/
theorem proceeds_acceptPermit (resp : InstallPermitResponse) :
    Proceeds e [.moved, .permit, .execution, .outbox] (· ∈ [.waitingWindow, .executing])
      ["waitingWindow", "permit"] (acceptPermit resp) := by
  refine .bind (quietly (touches_setMemory fun w p out => ?_)) fun _ => ?_
  · cases p <;> simp [Part.Same, takePermit] at out ⊢
  · refine .bind (quietly (touches_setExState _ _ (by simp) (by simp))) fun _ =>
      .bind (proceeds_setVtState _ (by simp)) fun _ =>
      .bind (proceeds_persistVehicleTask _ (by simp)) fun _ =>
      .bind (quietly (touches_persistExecution _ (by simp) (by simp))) fun _ =>
      .bind (quietly touches_nowMs) fun now => .ite (fun _ => .pure _) fun _ => ?_
    exact .bind (proceeds_call (by simp [Call.part])) fun guards =>
      .ite (fun _ => .pure _) fun _ => .bind (quietly touches_memory) fun _ => .pure _

/-- A permit is requested with the conditions, and taken where it is allowed. -/
theorem proceeds_requestPermit :
    Proceeds e [.moved, .permit, .execution, .outbox] (· ∈ [.waitingWindow, .executing])
      ["waitingWindow", "permit"] requestPermit := by
  refine .bind (proceeds_call (by simp [Call.part])) fun ev => ?_
  refine .bind (quietly touches_memory) fun m => .bind (quietly touches_store) fun s =>
    .bind (quietly (touches_makeCtx _)) fun ctx => ?_
  refine .bind (proceeds_call (by simp [Call.part])) fun reply => ?_
  cases reply with
  | error ex => exact .pure _
  | ok resp => exact .ite (fun _ => .pure _) fun _ => proceeds_acceptPermit resp

theorem proceeds_doPermit :
    Proceeds e [.moved, .permit, .execution, .outbox] (· ∈ [.waitingWindow, .executing])
      ["waitingWindow", "permit"] doPermit := by
  refine .bind (quietly touches_memory) fun m => .ite (fun _ => ?_) fun _ => ?_
  · exact .bind (proceeds_setVtState _ (by simp)) fun _ =>
      .bind (proceeds_persistVehicleTask _ (by simp)) fun _ =>
      .bind (quietly touches_memory) fun _ => .pure _
  · refine .bind (quietly touches_nowMs) fun t => .ite (fun _ => .pure _) fun _ => ?_
    exact .bind (proceeds_call (by simp [Call.part])) fun guards =>
      .ite (fun _ => .pure _) fun _ => proceeds_requestPermit

/-- The upload of logs touches nothing else of the task. -/
theorem proceeds_doLogUpload : Proceeds e [.log] states actions doLogUpload := by
  refine .bind (quietly touches_nowMs) fun _ => .bind (quietly touches_nowMs) fun _ =>
    .bind (quietly touches_memory) fun _ => .bind (quietly (touches_makeCtx _)) fun ctx => ?_
  refine .bind (proceeds_call (by simp [Call.part])) fun reply => ?_
  cases reply with
  | error ex => exact .pure _
  | ok grant =>
    refine .bind (proceeds_call (by simp [Call.part])) fun pkg => ?_
    refine .ite (fun _ => .pure _) fun _ =>
      .bind (quietly touches_nowMs) fun _ => .bind (quietly (touches_makeCtx _)) fun ctx => ?_
    refine .bind (proceeds_call (by simp [Call.part])) fun reply => ?_
    cases reply with
    | error ex => exact .pure _
    | ok _ =>
      exact .bind (quietly touches_nowMs) fun _ => quietly (touches_save (by simp [Save.part]))

theorem touches_doLogUpload : Touches e [.outbox, .log] doLogUpload :=
  proceeds_doLogUpload.touches_only

theorem proceeds_adoptStatus (status : VehicleTaskStatus) :
    Proceeds e parts (fun _ => True) actions (adoptStatus status) :=
  .bind (proceeds_setVtState _ trivial) fun _ => .bind (quietly touches_memory) fun _ =>
    .ite (fun _ => proceeds_setVtState _ trivial) fun _ => .pure _

theorem proceeds_closeExecution (report : FinalResultReport) (resp : FinalResultResponse) :
    Proceeds e [.moved, .execution, .outbox, .log] (fun _ => True) ["finalResult"]
      (closeExecution report resp) := by
  refine .bind (proceeds_doLogUpload.mono (by simp) (fun _ h => h) fun _ h => h) fun _ => ?_
  refine .bind (quietly (touches_setExState _ _ (by simp) (by simp))) fun _ => ?_
  exact .bind (proceeds_adoptStatus _) fun _ =>
    .bind (proceeds_persistVehicleTask _ (by simp)) fun _ =>
    .bind (quietly (touches_persistExecution _ (by simp) (by simp))) fun _ =>
    .bind (quietly touches_memory) fun _ => .pure _

/-- The final result is reported, and closed where it was accepted. -/
theorem proceeds_doFinalize :
    Proceeds e [.moved, .execution, .result, .outbox, .log] (fun _ => True) ["finalResult"]
      doFinalize := by
  refine .bind (proceeds_call (by simp [Call.part])) fun data => ?_
  refine .bind (quietly touches_memory) fun m => .bind (quietly touches_nowMs) fun now =>
    .bind (quietly (touches_makeCtx _)) fun ctx => ?_
  refine .bind (proceeds_call (by simp [Call.part])) fun reply => ?_
  cases reply with
  | error ex => exact .pure _
  | ok resp =>
    exact .ite (fun _ => .pure _) fun _ =>
      (proceeds_closeExecution _ resp).mono (by simp +contextual) (fun _ h => h) (fun _ h => h)

theorem proceeds_flushOutbox :
    Proceeds e [.moved, .execution, .result, .outbox, .log] (fun _ => True) ["finalResult"]
      flushOutbox := by
  have outbox : ∀ {β : Type} {n : Orch β}, Touches e [.outbox] n →
      Proceeds e [.moved, .execution, .result, .outbox, .log] (fun _ => True) ["finalResult"] n :=
    fun touches => quietly (touches.mono (by simp +contextual))
  exact .bind (quietly touches_store) fun s => .bind (outbox (touches_sendEvents _ _)) fun st =>
    .bind (quietly touches_memory) fun m => .bind (outbox (touches_raiseAccepted _ _)) fun _ =>
    .bind (quietly (touches_persistExecution _ (by simp) (by simp))) fun _ =>
    .ite (fun _ => .pure _) fun _ => proceeds_doFinalize

theorem proceeds_recordStart :
    Proceeds e [.moved, .execution, .result, .outbox, .log] (fun _ => True) ["finalResult"]
      recordStart :=
  .bind (quietly (touches_setExState _ _ (by simp) (by simp))) fun _ =>
    .bind (quietly (touches_persistExecution _ (by simp) (by simp))) fun _ => proceeds_flushOutbox

/-- The execution is prepared and started, or goes on where it was. -/
theorem proceeds_doExecute :
    Proceeds e [.moved, .install, .execution, .result, .outbox, .log] (fun _ => True)
      ["finalResult"] doExecute := by
  refine .bind (quietly touches_memory) fun m => .ite (fun _ => ?_) fun _ =>
    proceeds_flushOutbox.mono (by simp +contextual) (fun _ h => h) (fun _ h => h)
  refine .bind (proceeds_call (by simp [Call.part])) fun prep =>
    .ite (fun _ => .pure _) fun _ => .bind (quietly touches_memory) fun m => ?_
  exact .bind (proceeds_call (by simp [Call.part])) fun st =>
    .ite (fun _ => .pure _) fun _ =>
      proceeds_recordStart.mono (by simp +contextual) (fun _ h => h) (fun _ h => h)

/-- A step is one of the phases. -/
theorem proceeds_step :
    Proceeds e [.moved, .task, .inventory, .consent, .download, .permit, .install, .execution,
      .result, .outbox, .log] (fun _ => True)
      ["checkTask", "consentRequired", "consent", "download", "waitingWindow", "permit",
        "finalResult"] step := by
  refine .bind (quietly touches_memory) fun m => .ite (fun _ => .pure _) fun _ => ?_
  cases m.vtState with
  | none | discovered =>
    exact proceeds_doCheckTask.mono (by simp) (by simp) (by simp)
  | consentPending =>
    exact proceeds_doConsent.mono (by simp) (by simp) (by simp)
  | downloadPending | downloading =>
    exact proceeds_doDownload.mono (by simp) (by simp) (by simp)
  | ready | waitingWindow | permitPending =>
    exact proceeds_doPermit.mono (by simp) (by simp) (by simp)
  | executing => exact proceeds_doExecute.mono (by simp) (by simp) (by simp)
  | retryPending =>
    exact .bind (proceeds_setVtState _ trivial) fun _ =>
      proceeds_doPermit.mono (by simp) (by simp) (by simp)
  -- the execution of a rollback goes on as an execution
  | rollbackPending =>
    exact .bind (quietly (touches_setExState _ _ (by simp) (by simp))) fun _ =>
      .bind (proceeds_setVtState _ trivial) fun _ =>
      proceeds_doExecute.mono (by simp) (by simp) (by simp)
  | paused | completed | ended => exact .pure _

/-! ### Controls and policy -/

/-- An acknowledgement writes the control and tells the cloud. -/
theorem proceeds_acknowledgeApplied (cmd : ControlCommand) (app : ControlApplyOutcome) :
    Proceeds e [.control] states actions (acknowledgeApplied cmd app) := by
  refine .bind (quietly touches_memory) fun m =>
    .bind (quietly (touches_setMemory fun w p out => ?_)) fun _ => ?_
  · cases p <;> simp [Part.Same] at out ⊢
  · refine .bind (quietly touches_nowMs) fun _ =>
      .bind (quietly (touches_save (by simp [Save.part]))) fun _ => ?_
    refine .bind (quietly (touches_setMemory fun w p out => ?_)) fun _ => ?_
    · cases p <;> simp [Part.Same] at out ⊢
    · exact .bind (quietly touches_nowMs) fun _ => .bind (quietly (touches_makeCtx _)) fun _ =>
        .bind (proceeds_call (by simp [Call.part])) fun _ => .pure _

theorem proceeds_applyControl (cmd : ControlCommand) :
    Proceeds e [.control] states actions (applyControl cmd) := by
  refine .bind (quietly touches_store) fun s => .ite (fun _ => .pure _) fun _ => ?_
  refine .bind (quietly (touches_save (by simp [Save.part]))) fun _ => ?_
  refine .bind (quietly (touches_setMemory fun w p out => ?_)) fun _ => ?_
  · cases p <;> simp [Part.Same] at out ⊢
  · refine .bind (proceeds_call (by simp [Call.part])) fun app => ?_
    exact .ite (fun _ => .bind (proceeds_acknowledgeApplied cmd app) fun _ => .pure _)
      fun _ => .pure _

theorem proceeds_syncPolicy : Proceeds e [.policy] states actions syncPolicy := by
  refine .bind (quietly touches_store) fun s => .bind (quietly touches_nowMs) fun now =>
    .bind (quietly (touches_makeCtx _)) fun ctx => ?_
  refine .bind (proceeds_call (by simp [Call.part])) fun reply => ?_
  cases reply with
  | error ex => exact .pure _
  | ok resp => exact .bind (quietly (touches_save (by simp [Save.part]))) fun _ => .pure _

end Phases

/-! ### The way to the final result -/

section Finalize

variable {e : Environment} {w : World} {I C : World → Prop} {Q : StepOutcome → World → Prop}

/-- The outbox is flushed and the execution written before the final result. -/
theorem wp_flushOutbox
    (quiet : ∀ w w', Within [.execution, .outbox] w w' → I w → I w')
    (crash : ∀ w, I w → C w) (idle : ∀ out w, I w → Q out w)
    (finalize : ∀ w, I w → wp doFinalize Q C e w) (holds : I w) : wp flushOutbox Q C e w := by
  have keeps : ∀ {α : Type} {m : Orch α} {parts : List Part}, Touches e parts m →
      (∀ p ∈ parts, p ∈ [Part.execution, .outbox]) → Keeps e I m :=
    fun touches sub => touches.keeps fun w w' within => quiet w w' (within.mono sub)
  unfold flushOutbox
  simp only [wp_bind, wp_store, wp_memory, wp_ite, wp_pure]
  -- the events, the watermark and the execution, then the decision on the result
  refine wp_mono (keeps (touches_sendEvents _ _) (by simp) w holds) (fun st w holds => ?_) crash
  refine wp_mono (keeps (touches_raiseAccepted _ _) (by simp) w holds) (fun _ w holds => ?_) crash
  refine wp_mono (keeps (touches_persistExecution [.execution, .outbox] (by simp)
    (by simp)) (by simp) w holds) (fun _ w holds => ?_) crash
  split
  next => exact idle _ w holds
  next => exact finalize w holds

/-- Up to the final result `doExecute` neither moves nor persists the task. -/
theorem wp_doExecute
    (quiet : ∀ w w', Within [.moved, .install, .execution, .outbox] w w' → I w → I w')
    (crash : ∀ w, I w → C w) (idle : ∀ out w, I w → Q out w)
    (finalize : ∀ w, I w → wp doFinalize Q C e w) (holds : I w) : wp doExecute Q C e w := by
  have keeps : ∀ {α : Type} {m : Orch α} {parts : List Part}, Touches e parts m →
      (∀ p ∈ parts, p ∈ [Part.moved, .install, .execution, .outbox]) → Keeps e I m :=
    fun touches sub => touches.keeps fun w w' within => quiet w w' (within.mono sub)
  have flush : ∀ w, I w → wp flushOutbox Q C e w := fun _ =>
    wp_flushOutbox (fun w w' within => quiet w w' (within.mono (by simp +contextual))) crash idle
      -- the port prepares and starts, each within its part
      finalize
  unfold doExecute
  simp only [wp_bind, wp_memory, wp_ite, wp_pure]
  split
  next =>
    refine wp_mono (keeps (touches_call [.install, .outbox] (by simp [Call.part])
      (by simp)) (by simp) w holds) (fun prep w holds => ?_) crash
    split
    next => exact idle _ w holds
    next =>
      refine wp_mono (keeps (touches_call [.install, .outbox] (by simp [Call.part])
        (by simp)) (by simp) w holds) (fun st w holds => ?_) crash
      split
      next => exact idle _ w holds
      next =>
        unfold recordStart
        rw [wp_bind, wp_setExState, wp_bind]
        have started := touches_setExState (e := e) [.moved, .execution] .installStarted
          (by simp) (by simp)
        have holds := keeps started (by simp) w holds
        exact wp_mono (keeps (touches_persistExecution [.execution, .outbox] (by simp)
          (by simp)) (by simp) _ holds) (fun _ w holds => flush w holds) crash
  next => exact flush w holds

/-- `doFinalize` up to the moment the cloud has accepted the result. -/
theorem wp_doFinalize (quiet : ∀ w w', Within [.result, .outbox] w w' → I w → I w')
    (crash : ∀ w, I w → C w) (idle : ∀ out w, I w → Q out w)
    (close : ∀ report resp w, I w → wp (closeExecution report resp) Q C e w) (holds : I w) :
    wp doFinalize Q C e w := by
  have keeps : ∀ {c : Call}, c.part = .result → Keeps e I (call c) := fun part =>
    (touches_call _ (by simp [part]) (by simp)).keeps fun w w' within => quiet w w' within
  unfold doFinalize
  simp only [wp_bind, wp_memory, wp_nowMs, wp_makeCtx]
  refine wp_mono (keeps rfl w holds) (fun data w holds => ?_) crash
  have holds := quiet _ _ .advance holds
  refine wp_mono (keeps rfl _ holds) (fun reply w holds => ?_) crash
  cases reply with
  | error ex => exact idle _ w holds
  | ok resp =>
    simp only [wp_ite, wp_pure]
    split
    next => exact idle _ w holds
    next => exact close _ resp w holds

/-- A status with a counterpart is taken over; one without completes the task. -/
theorem wp_adoptStatus {status : VehicleTaskStatus} {Q : Unit → World → Prop}
    (known : fromProtoVehicleTask status ≠ .none → Q () (w.move (fromProtoVehicleTask status)))
    (unknown : fromProtoVehicleTask status = .none → Q () ((w.move .none).move .completed)) :
    wp (adoptStatus status) Q C e w := by
  unfold adoptStatus
  simp only [wp_bind, wp_memory, wp_ite, wp_setVtState, wp_pure]
  split
  next none =>
    have none : fromProtoVehicleTask status = .none := none
    rw [none]
    exact unknown none
  next named => exact known named

end Finalize

/-! ### Steps and runs -/

section Runs

variable {e : Environment} {w : World} {C : World → Prop}

/-- The dispatch of `step`. -/
theorem wp_step {Q : StepOutcome → World → Prop} (idle : ∀ out, Q out w)
    (check : w.mem.vtState = .none ∨ w.mem.vtState = .discovered → wp doCheckTask Q C e w)
    (consent : w.mem.vtState = .consentPending → wp doConsent Q C e w)
    (download : w.mem.vtState = .downloadPending ∨ w.mem.vtState = .downloading →
      wp doDownload Q C e w)
    (permit : w.mem.vtState = .ready ∨ w.mem.vtState = .waitingWindow ∨
      w.mem.vtState = .permitPending → wp doPermit Q C e w)
    (execute : w.mem.vtState = .executing → wp doExecute Q C e w)
    (retry : w.mem.vtState = .retryPending → wp doPermit Q C e
      (w.move .permitPending))
    (rollback : w.mem.vtState = .rollbackPending → wp doExecute Q C e
      (World.move ((w.withMemory fun m => { m with exState := .rollback }).note .moved)
        .executing)) :
    wp step Q C e w := by
  unfold step
  simp only [wp_bind, wp_memory, wp_ite]
  split
  · exact idle _
  · cases phase : w.mem.vtState with
    | none => exact check (.inl phase)
    | discovered => exact check (.inr phase)
    | consentPending => exact consent phase
    | downloadPending => exact download (.inl phase)
    | downloading => exact download (.inr phase)
    | ready => exact permit (.inl phase)
    | waitingWindow => exact permit (.inr (.inl phase))
    | permitPending => exact permit (.inr (.inr phase))
    | executing => exact execute phase
    | retryPending => exact retry phase
    | rollbackPending => exact rollback phase
    | paused | completed | ended => exact idle _

/-- Where the assumption is already broken there is nothing to show: it stays broken. -/
theorem Assuming.wp_of {cond : Entry → List Entry → Prop} {P D : World → Prop} {α : Type}
    {body : α → World → Prop} {m : Orch α} {parts : List Part} (holds : Assuming cond P w)
    (touches : Touches e parts m)
    (step : P w → wp m (fun a => Assuming cond (body a)) (Assuming cond D) e w) :
    wp m (fun a => Assuming cond (body a)) (Assuming cond D) e w := by
  by_cases met : Always cond w.trace
  · exact step (holds met)
  · have broken : ∀ {D : World → Prop} {w'}, Within parts w w' → Assuming cond D w' :=
      fun within met' => absurd (within.past met') met
    exact wp_mono (touches w) (fun _ _ => broken) fun _ => broken

theorem Assuming.wp {cond : Entry → List Entry → Prop} {P D : World → Prop} {α : Type}
    {body : α → World → Prop} {m : Orch α} {parts : List Part} (holds : Assuming cond P w)
    (touches : Touches e parts m) (step : P w → wp m body D e w) :
    wp m (fun a => Assuming cond (body a)) (Assuming cond D) e w :=
  holds.wp_of touches fun before =>
    wp_mono (step before) (fun _ _ h _ => h) fun _ h _ => h

/-- Controls and policy aside, an invariant has to be checked against emissions, steps and
restarts. `D` is what is left of it when the process crashes. -/
theorem run_keeps_emitting (J D : World → Prop) (began : ∀ op w, J w → J (w.note (.began op)))
    (quiet : ∀ w w', Within [.control, .policy] w w' → J w → J w')
    (emissions : ∀ evt w, J w → wp (emit evt) (fun _ => J) D e w)
    (steps : ∀ w, J w → wp step (fun _ => J) D e (w.note (.began .step)))
    (durable : ∀ w, J w → D w)
    (recovers : ∀ w, D w → J (recover w)) (restarts : ∀ w, J w → J (restart w))
    (ops : List Operation) (initial : J w) : J (run e w ops) := by
  have settles : ∀ {α : Type} {m : Orch α} {w : World}, wp m (fun _ => J) D e w →
      wp (m >>= fun _ => pure ()) (fun _ => J) (fun w' => J (recover w')) e w := by
    intro α m w kept
    simp only [wp_bind, wp_pure]
    exact wp_mono kept (fun _ _ h => h) recovers
  have others : ∀ {α : Type} {m : Orch α} {w : World} (parts : List Part),
      Proceeds e parts (fun _ => False) [] m → (∀ p ∈ parts, p ∈ [Part.control, .policy]) → J w →
      -- these operations neither move nor persist the task
      wp m (fun _ => J) D e w := fun parts proceeds sub holds =>
    proceeds.wp (fun w w' within => quiet w w' (within.mono sub)) emissions
      (fun _ _ never => never.elim) (fun _ _ _ never => by simp at never) durable holds
  refine run_invariant e J (fun op w holds => ?_) ops w initial
  have running := began op w holds
  -- the operations one by one
  cases op with
  | step => exact settles (steps w holds)
  | emit evt => exact settles (emissions evt _ running)
  | applyControl cmd => exact settles (others _ (proceeds_applyControl cmd) (by simp) running)
  | syncPolicy => exact settles (others _ proceeds_syncPolicy (by simp) running)
  | restart => exact restarts _ running

/-- An invariant that does not look at the outbox need not look at emissions. -/
theorem run_keeps (J D : World → Prop) (began : ∀ op w, J w → J (w.note (.began op)))
    (closed : ∀ w w', Within [.outbox, .control, .policy] w w' → J w → J w')
    (steps : ∀ w, J w → wp step (fun _ => J) D e (w.note (.began .step)))
    (durable : ∀ w, J w → D w)
    (recovers : ∀ w, D w → J (recover w)) (restarts : ∀ w, J w → J (restart w))
    (ops : List Operation) (initial : J w) : J (run e w ops) :=
  run_keeps_emitting J D began (fun w w' within => closed w w' (within.mono (by simp)))
    (fun evt w holds => wp_mono ((touches_emit [.outbox] evt (by simp)).keeps
      (fun w w' within => closed w w' (within.mono (by simp))) w holds) (fun _ _ h => h)
      fun w h => durable w h)
    steps durable recovers restarts ops initial

end Runs

end CgwFota
