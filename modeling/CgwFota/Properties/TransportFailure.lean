import CgwFota.Orchestrator.Keys
import CgwFota.Orchestrator.SendRules
import CgwFota.Properties.Download
import CgwFota.Properties.Restart

/-!
# Steps that end in a transport failure

A step may fail after it has already saved records of several packages or events. It still leaves
the task where it was: what it saved before is confirmed by replies that arrived, and the next step
performs the same phase again.

## Main definitions

* `Confirmed`: what became ready or acknowledged on the way was accepted on the way.
* `Undisturbed`: nothing of the task is lost, and nothing is taken for done that is not.
* `Memory.Rejoins`: the state from which the next step starts.

## Main result

* `transport_failure_undisturbed`: every step that ends in a transport failure, from every world.

## Proof strategy

That replies confirm what was saved is a preorder on worlds, and it is followed through all phases,
failed or not. That the task and the consent stay as they were is shown for failing phases alone,
where everything after a reply that arrived need not be looked at.
-/
namespace CgwFota

open Crash

/-! ### What a failed step leaves -/

/-- The state the next step starts from, up to the assignments before the phase. -/
def Memory.Rejoins (m m' : Memory) : Prop :=
  match m.vtState with
  | .retryPending => m'.vtState = .permitPending
  | .rollbackPending => m'.vtState = .executing ∧ m'.exState = .rollback
  | .downloadPending => m'.vtState = .downloading
  | s => m'.vtState = s

/-- An event of the given kind happened on the way from `w` to `w'`. -/
def Since (w w' : World) (happened : Event → Prop) : Prop :=
  ∃ new, w'.trace = new ++ w.trace ∧ ∃ a ∈ new, happened a.event

/-- The reply accepts the stage result of the package. -/
def StageAccepted (packageId : String) : Event → Prop
  | .returned (.reportStageResult _ ctx) (.ok resp) =>
    ctx.idempotencyKey = (CloudOperation.stageResult packageId).key ∧ resp.accepted
  | _ => False

/-- The reply accepts the event of the record. -/
def EventAccepted (r : FotaEventOutboxRecord) : Event → Prop
  | .returned (.reportEvent req _) (.ok resp) =>
    req = r.report ∧ resp.eventDisposition = .accepted
  | _ => False

/-- What became ready or acknowledged on the way was accepted on the way. -/
structure Confirmed (w w' : World) : Prop where
  grows : ∃ new, w'.trace = new ++ w.trace
  downloads : ∀ packageId, ∀ r ∈ w'.store.loadDownload packageId, r.ready →
    r ∈ w.store.loadDownload packageId ∨ Since w w' (StageAccepted packageId)
  events : ∀ sequenceNo, ∀ r ∈ w'.store.loadEvent sequenceNo, r.sendStatus = "ACKED" →
    r ∈ w.store.loadEvent sequenceNo ∨ Since w w' (EventAccepted r)

/-- Nothing of the task is lost, and nothing is taken for done that is not. -/
structure Undisturbed (w w' : World) : Prop extends Confirmed w w' where
  vehicleTask : w'.store.vehicleTask = w.store.vehicleTask
  consent : w'.store.consent = w.store.consent
  rejoins : w.mem.Rejoins w'.mem
  action : ∃ action, Performs action w ∧ Performs action w'

theorem Memory.Rejoins.action {m m' : Memory} (h : m.Rejoins m') :
    phaseAction m'.vtState = phaseAction m.vtState := by
  unfold Memory.Rejoins at h
  split at h
  next same => rw [h, same]; rfl
  next same => rw [h.1, same]; rfl
  next same => rw [h, same]; rfl
  next => rw [h]

/-! ### Confirmation -/

section Confirmations

variable {e : Environment} {w w' w'' : World} {parts : List Part} {α : Type} {m : Orch α}

theorem Since.later {happened : Event → Prop} (h : Since w w' happened)
    (grows : ∃ new, w''.trace = new ++ w'.trace) : Since w w'' happened := by
  obtain ⟨new, whole, a, member, event⟩ := h
  obtain ⟨new', whole'⟩ := grows
  exact ⟨new' ++ new, by rw [whole', whole, List.append_assoc], a, by simp [member], event⟩

theorem Since.earlier {happened : Event → Prop} (grows : ∃ new, w'.trace = new ++ w.trace)
    (h : Since w' w'' happened) : Since w w'' happened := by
  obtain ⟨new, whole⟩ := grows
  obtain ⟨new', whole', a, member, event⟩ := h
  exact ⟨new' ++ new, by rw [whole', whole, List.append_assoc], a, by simp [member], event⟩

theorem Since.now {happened : Event → Prop} {event : Event} (holds : happened event) :
    Since w (w.effect event) happened :=
  ⟨[_], rfl, _, List.mem_singleton.mpr rfl, holds⟩

instance : IsPreorder World Confirmed where
  refl w := ⟨⟨[], rfl⟩, fun _ _ stored _ => .inl stored, fun _ _ stored _ => .inl stored⟩
  trans a b c h h' := by
    refine ⟨?_, fun packageId r stored ready => ?_, fun sequenceNo r stored acked => ?_⟩
    · obtain ⟨new, whole⟩ := h.grows
      obtain ⟨new', whole'⟩ := h'.grows
      exact ⟨new' ++ new, by rw [whole', whole, List.append_assoc]⟩
    · rcases h'.downloads packageId r stored ready with before | accepted
      · exact (h.downloads packageId r before ready).imp id (·.later h'.grows)
      · exact .inr (.earlier h.grows accepted)
    · rcases h'.events sequenceNo r stored acked with before | accepted
      · exact (h.events sequenceNo r before acked).imp id (·.later h'.grows)
      · exact .inr (.earlier h.grows accepted)

theorem Confirmed.refl (w : World) : Confirmed w w := refl_of Confirmed w

theorem Confirmed.trans (h : Confirmed w w') (h' : Confirmed w' w'') : Confirmed w w'' :=
  trans_of Confirmed h h'

/-- Downloads and events stay as they are. -/
theorem Confirmed.of_same (grows : ∃ new, w'.trace = new ++ w.trace)
    (downloads : w'.store.downloads = w.store.downloads)
    (events : w'.store.events = w.store.events) : Confirmed w w' where
  grows := grows
  downloads packageId r stored _ := by
    rw [FotaCloudStateStore.loadDownload, downloads] at stored
    exact .inl stored
  events sequenceNo r stored _ := by
    rw [FotaCloudStateStore.loadEvent, events] at stored
    exact .inl stored

theorem Within.confirmed (within : Within parts w w') (download : .download ∉ parts)
    (outbox : .outbox ∉ parts) : Confirmed w w' := by
  obtain ⟨new, whole, -⟩ := within.trace
  exact .of_same ⟨new, whole⟩ (within.same .download download) (within.same .outbox outbox).2.2.2

theorem Confirmed.called (c : Call) : Confirmed w (w.effect (.called c)) :=
  .of_same ⟨[_], rfl⟩ rfl rfl

theorem Confirmed.returned (c : Call) (r : c.Reply) : Confirmed w (w.effect (.returned c r)) :=
  .of_same ⟨[_], rfl⟩ rfl rfl

/-- A record may say ready or acknowledged if that was accepted before. -/
theorem Confirmed.save_download (h : Confirmed w w') (r : FotaDownloadRecord)
    (accepted : r.ready → Since w w' (StageAccepted r.packageId)) :
    Confirmed w (w'.effect (.saved (.download r))) where
  grows := by
    obtain ⟨new, whole⟩ := h.grows
    exact ⟨_ :: new, by rw [World.effect_trace, whole, List.cons_append]⟩
  downloads packageId r' stored ready := by
    have later : ∀ happened, Since w w' happened →
        Since w (w'.effect (.saved (.download r))) happened := fun _ since =>
      since.later ⟨[_], rfl⟩
    rw [World.effect_saved_store] at stored
    rw [loadDownload_save] at stored
    split at stored
    -- the record that was saved
    next same =>
      cases stored
      exact .inr (same ▸ later _ (accepted ready))
    -- another one
    next => exact (h.downloads packageId r' stored ready).imp id (later _)
  events sequenceNo r' stored acked :=
    (h.events sequenceNo r' stored acked).imp id (·.later ⟨[_], rfl⟩)

/-- A record of an event may say acknowledged if that was accepted before. -/
theorem Confirmed.save_event (h : Confirmed w w') (r : FotaEventOutboxRecord)
    (accepted : r.sendStatus = "ACKED" → Since w w' (EventAccepted r)) :
    Confirmed w (w'.effect (.saved (.event r))) where
  grows := by
    obtain ⟨new, whole⟩ := h.grows
    exact ⟨_ :: new, by rw [World.effect_trace, whole, List.cons_append]⟩
  downloads packageId r' stored ready :=
    (h.downloads packageId r' stored ready).imp id (·.later ⟨[_], rfl⟩)
  events sequenceNo r' stored acked := by
    have later : ∀ happened, Since w w' happened →
        Since w (w'.effect (.saved (.event r))) happened := fun _ since =>
      since.later ⟨[_], rfl⟩
    have loaded : (w'.effect (.saved (.event r))).store.loadEvent sequenceNo =
        if r.sequenceNo = sequenceNo then some r else w'.store.loadEvent sequenceNo := rfl
    rw [loaded] at stored
    split at stored
    -- the record that was saved
    next =>
      cases stored
      exact .inr (later _ (accepted acked))
    -- another one
    next => exact (h.events sequenceNo r' stored acked).imp id (later _)

/-- However it stops, the action only confirms what was accepted meanwhile. -/
abbrev Confirms (e : Environment) {α : Type} (m : Orch α) : Prop :=
  Follows e Confirmed Confirmed m

theorem confirms_touching (parts : List Part) (touches : Touches e parts m)
    (download : .download ∉ parts)
    (outbox : .outbox ∉ parts) : Confirms e m :=
  Follows.mono touches (fun _ _ within => within.confirmed download outbox)
    fun _ _ within => within.confirmed download outbox

theorem confirms_memory : Confirms e memory :=
  confirms_touching [] touches_memory (by simp) (by simp)

theorem confirms_store : Confirms e store :=
  confirms_touching [] touches_store (by simp) (by simp)

theorem confirms_nowMs : Confirms e nowMs :=
  confirms_touching [] touches_nowMs (by simp) (by simp)

theorem confirms_makeCtx (key : String) : Confirms e (makeCtx key) :=
  confirms_touching [] (touches_makeCtx key) (by simp) (by simp)

theorem confirms_setVtState (s : VehicleTaskState) : Confirms e (setVtState s) :=
  confirms_touching [.moved, .phase] (touches_setVtState _ s (by simp) (by simp))
    (by simp) (by simp)

theorem confirms_setExState (s : ExecutionState) : Confirms e (setExState s) :=
  confirms_touching [.moved, .execution] (touches_setExState _ s (by simp) (by simp))
    (by simp) (by simp)

theorem confirms_persistVehicleTask (action : String) : Confirms e (persistVehicleTask action) :=
  confirms_touching [.phase] (touches_persistVehicleTask _ action (by simp))
    (by simp) (by simp)

theorem confirms_setMemory (f : Memory → Memory) : Confirms e (setMemory f) := fun _ =>
  .of_same ⟨[], rfl⟩ rfl rfl

/-- The counters of the outbox are not events. -/
theorem confirms_saveMeta (outbox : FotaEventOutboxMeta) :
    Confirms e (save (.eventOutboxMeta outbox)) := fun _ =>
  wp_save (.of_same ⟨[_], rfl⟩ rfl rfl) (.of_same ⟨[_], rfl⟩ rfl rfl)

theorem confirms_persistExecution : Confirms e persistExecution := by
  refine .bind confirms_memory fun m => .bind ?_ fun _ => confirms_saveMeta _
  exact confirms_touching [.execution] (touches_save (by simp [Save.part]))
    (by simp) (by simp)

theorem confirms_saveDownload (r : FotaDownloadRecord) (unready : r.ready = false) :
    Confirms e (save (.download r)) := fun w => by
  have saved := (Confirmed.refl w).save_download r (by simp [unready])
  exact wp_save saved saved

theorem confirms_saveEvent (r : FotaEventOutboxRecord) (unsent : r.sendStatus ≠ "ACKED") :
    Confirms e (save (.event r)) := fun w => by
  have saved := (Confirmed.refl w).save_event r fun acked => absurd acked unsent
  exact wp_save saved saved

theorem confirms_emit (evt : ExecutionEvent) : Confirms e (emit evt) := by
  intro w
  refine wp_emit (.refl w) fun _ r _ pending _ => ?_
  have stored : Confirmed w (w.effect (.saved (.event r))) :=
    (Confirmed.refl w).save_event r (by simp [pending])
  have counted : Confirmed w ((w.effect (.saved (.event r))).effect (.saved (.eventOutboxMeta
      { w.store.outboxMeta with nextSequenceNo := w.store.outboxMeta.nextSequenceNo + 1 }))) :=
    stored.trans (.of_same ⟨[_], rfl⟩ rfl rfl)
  exact ⟨stored, counted, counted.trans (.of_same ⟨[_], rfl⟩ rfl rfl)⟩

theorem confirms_call (c : Call) : Confirms e (call c) := by
  refine .bind (fun _ => wp_effect (.called c) (.called c)) fun _ => .bind (fun w => ?_) fun _ =>
    .bind (fun w => Confirmed.refl w) fun r =>
    .bind (fun _ => wp_effect (.returned c r) (.returned c r)) fun _ => .pure _
  exact Follows.forEach (fun evt => .bind (confirms_emit evt) fun _ => .pure ())
    (e.emits w.tick c) w

theorem confirms_proceeding {states : VehicleTaskState → Prop} {actions : List String}
    (proceeds : Proceeds e parts states actions m) (download : .download ∉ parts)
    (outbox : .outbox ∉ parts) : Confirms e m := fun w =>
  proceeds.wp (I := Confirmed w)
    (fun _ _ within before => before.trans (within.confirmed download outbox))
    (fun evt w' before => wp_mono (confirms_emit evt w') (fun _ _ after => before.trans after)
      fun _ after => before.trans after)
    (fun _ _ _ before => before.trans (.of_same ⟨[_], rfl⟩ rfl rfl))
    (fun _ _ _ _ before => before.trans (.of_same ⟨[_], rfl⟩ rfl rfl))
    (fun _ h => h) (.refl w)

/-- A call whose reply a later save may rely on. -/
theorem confirmed_call {c : Call} {Q : c.Reply → World → Prop} (before : Confirmed w w')
    (next : ∀ r w'', Confirmed w w'' → Q r (World.effect w'' (.returned c r))) :
    wp (call c) Q (Confirmed w) e w' := by
  refine wp_call_emitting (I := Confirmed w) (before.trans (.called c)) (fun evt w'' before => ?_)
    (fun _ h => h) fun r w'' before _ => ⟨before.trans (.returned c r), next r w'' before⟩
  exact wp_mono (confirms_emit evt w'') (fun _ _ after => before.trans after)
    fun _ after => before.trans after

/-! ### Downloads -/

theorem confirms_abandonDownload {entry : FotaDownloadRecord} (ex : FotaCloudException)
    (unready : entry.ready = false) : Confirms e (abandonDownload entry ex) :=
  .bind (confirms_setVtState _) fun _ => .bind (confirms_saveDownload _ unready) fun _ => .pure _

/-- A download that has come to its end is ready if its stage result was accepted. -/
theorem confirmed_concludeDownload {entry : FotaDownloadRecord} (cleared : Bool)
    (outcome : DownloadOutcome) (before : Confirmed w w')
    (accepted : entry.ready → Since w w' (StageAccepted entry.packageId)) :
    wp (concludeDownload entry cleared outcome) (fun _ => Confirmed w) (Confirmed w) e w' := by
  unfold concludeDownload
  simp only [wp_ite, wp_bind, wp_pure]
  split
  next =>
    have saved := before.save_download entry accepted
    exact wp_save saved saved
  next =>
    have saved := before.save_download (markFailed entry) (by simp [markFailed])
    exact wp_save saved saved

/-- A package with its grant. -/
theorem confirms_verifyPackage {pkg : PackageSummary} {entry : FotaDownloadRecord}
    (grant : DownloadGrantResponse) (id : entry.packageId = pkg.packageId)
    (unready : entry.ready = false) : Confirms e (verifyPackage pkg entry grant) := by
  have unready : (applyGrant entry grant).ready = false := (applyGrant_ready _ _).trans unready
  have id : (applyGrant entry grant).packageId = pkg.packageId :=
    (applyGrant_packageId _ _).trans id
  have concludes : ∀ (r : FotaDownloadRecord) cleared outcome, r.ready = false →
      Confirms e (concludeDownload r cleared outcome) := fun r cleared outcome unready w =>
    confirmed_concludeDownload cleared outcome (.refl w) (by simp [unready])
  refine .bind (confirms_call _) fun outcome => .ite (fun _ => ?_) fun _ => concludes _ _ _ unready
  refine .bind confirms_nowMs fun now => fun w => ?_
  rw [wp_bind, wp_makeCtx, wp_bind]
  refine confirmed_call (.refl w) fun reply w' before => ?_
  have replied := before.trans (.returned _ reply)
  cases reply with
  -- no answer: the package is given up
  | error ex =>
    refine wp_mono (confirms_abandonDownload ex ?_ _) (fun _ _ after => replied.trans after)
      fun _ after => replied.trans after
    exact unready
  -- an answer
  | ok resp =>
    simp only [wp_ite]
    split
    next both =>
      -- the reply that has just arrived accepts the stage result
      refine confirmed_concludeDownload _ outcome replied fun _ => .earlier before.grows ?_
      have accepted : resp.accepted := (Bool.and_eq_true_iff.mp both).1
      exact .now ⟨congrArg (fun id => (CloudOperation.stageResult id).key) id.symm, accepted⟩
    next => exact confirmed_concludeDownload _ outcome replied (by simp [markFailed])

theorem confirms_downloadPackage (pkg : PackageSummary) : Confirms e (downloadPackage pkg) := by
  intro w
  unfold downloadPackage
  rw [wp_bind, wp_store, wp_ite]
  split
  -- ready before
  next => exact .of_same ⟨[_], rfl⟩ rfl rfl
  -- not ready yet
  next unready =>
    have unready := Bool.eq_false_iff.mpr unready
    refine Follows.bind confirms_memory (fun m => .bind (confirms_makeCtx _) fun ctx =>
      .bind (confirms_call _) fun reply => ?_) w
    cases reply with
    | error ex => exact confirms_abandonDownload ex unready
    | ok grant => exact confirms_verifyPackage grant (getD_packageId w.store pkg) unready

theorem confirms_downloadPackages (packages : List PackageSummary) (allReady : Bool)
    (error : String) : Confirms e (downloadPackages packages allReady error) := by
  induction packages generalizing allReady error with
  | nil => exact .pure _
  | cons pkg rest ih =>
    refine .bind (confirms_downloadPackage pkg) fun result => ?_
    cases result with
    | stop ex => exact .pure _
    | next cleared ex => exact ih _ _

theorem confirms_doDownload : Confirms e doDownload := by
  refine .bind confirms_memory fun m => .bind (confirms_downloadPackages _ _ _) fun result => ?_
  cases result with
  | error ex => exact .pure _
  | ok r =>
    exact .bind (confirms_setVtState _) fun _ => .bind (confirms_persistVehicleTask _) fun _ =>
      .bind confirms_memory fun _ => .pure _

/-! ### The permit -/

/-- The permit confirms no download and no event. -/
theorem confirms_doPermit : Confirms e doPermit := by
  refine .bind confirms_memory fun m => .ite (fun _ => ?_) fun _ =>
    .bind confirms_nowMs fun now => ?_
  · exact .bind (confirms_setVtState _) fun _ => .bind (confirms_persistVehicleTask _) fun _ =>
      .bind confirms_memory fun _ => .pure _
  refine .ite (fun _ => .pure _) fun _ => .bind (confirms_call _) fun guards =>
    .ite (fun _ => .pure _) fun _ => .bind (confirms_call _) fun ev =>
      .bind confirms_memory fun m =>
    .bind confirms_store fun s => .bind (confirms_makeCtx _) fun ctx =>
    .bind (confirms_call _) fun reply => ?_
  cases reply with
  | error ex => exact .pure _
  | ok resp =>
    refine .ite (fun _ => .pure _) fun _ => .bind (confirms_setMemory _) fun _ =>
      .bind (confirms_setExState _) fun _ => .bind (confirms_setVtState _) fun _ =>
      .bind (confirms_persistVehicleTask _) fun _ => .bind confirms_persistExecution fun _ =>
      .bind confirms_nowMs fun now => ?_
    exact .ite (fun _ => .pure _) fun _ => .bind (confirms_call _) fun guards =>
      .ite (fun _ => .pure _) fun _ => .bind confirms_memory fun _ => .pure _

/-! ### The execution -/

/-- An event is acknowledged after it was accepted. -/
theorem confirms_reportStoredEvent {r : FotaEventOutboxRecord} (st : SendState)
    (unsent : r.sendStatus ≠ "ACKED") : Confirms e (reportStoredEvent r st) := by
  intro w
  unfold reportStoredEvent
  rw [wp_bind, wp_makeCtx, wp_bind]
  refine confirmed_call (.refl w) fun reply w' before => ?_
  have replied := before.trans (.returned _ reply)
  cases reply with
  -- no answer
  | error ex =>
    simp only [wp_bind, wp_pure]
    have saved := replied.save_event r fun acked => absurd acked unsent
    exact wp_save saved saved
  -- an answer
  | ok resp =>
    simp only [wp_ite, wp_bind, wp_setMemory, wp_pure]
    split
    -- accepted
    next accepted =>
      have counted : Confirmed _ (World.accept _ r) := replied.trans (.of_same ⟨[], rfl⟩ rfl rfl)
      have saved := counted.save_event { r with sendStatus := "ACKED" } fun _ =>
        .earlier before.grows ⟨[_], rfl, _, List.mem_singleton.mpr rfl, rfl, accepted⟩
      exact wp_save saved saved
    -- not accepted
    next =>
      have saved := replied.save_event r fun acked => absurd acked unsent
      exact wp_save saved saved

theorem confirms_sendEvent (seq : Nat) (st : SendState) : Confirms e (sendEvent seq st) := by
  refine .bind confirms_store fun s => ?_
  cases s.loadEvent seq with
  | none => exact .pure _
  | some r =>
    exact .ite (fun _ => .pure _) fun unsent =>
      .ite (fun _ => .bind (confirms_saveEvent _ (by simp)) fun _ => .pure _) fun _ =>
        confirms_reportStoredEvent st unsent

theorem confirms_sendEvents (seqs : List Nat) (st : SendState) :
    Confirms e (sendEvents seqs st) := by
  induction seqs generalizing st with
  | nil => exact .pure _
  | cons seq rest ih => exact .bind (confirms_sendEvent seq st) ih

/-- The final result confirms no download and no event. -/
theorem confirms_doFinalize : Confirms e doFinalize := by
  refine .bind (confirms_call _) fun data => .bind confirms_memory fun m =>
    .bind confirms_nowMs fun now => .bind (confirms_makeCtx _) fun ctx =>
    .bind (confirms_call _) fun reply => ?_
  cases reply with
  | error ex => exact .pure _
  | ok resp =>
    have uploads : Proceeds e [.log] (fun _ => False) [] doLogUpload := proceeds_doLogUpload
    refine .ite (fun _ => .pure _) fun _ =>
      .bind (confirms_proceeding uploads (by simp) (by simp)) fun _ =>
      .bind (confirms_setExState _) fun _ => .bind ?_ fun _ => .bind (confirms_persistVehicleTask _)
      fun _ => .bind confirms_persistExecution fun _ => .bind confirms_memory fun _ => .pure _
    exact .bind (confirms_setVtState _) fun _ => .bind confirms_memory fun _ =>
      .ite (fun _ => confirms_setVtState _) fun _ => .pure _

theorem confirms_flushOutbox : Confirms e flushOutbox := by
  refine .bind confirms_store fun s => .bind (confirms_sendEvents _ _) fun st =>
    .bind confirms_memory fun m => .bind ?_ fun _ => .bind confirms_persistExecution fun _ => ?_
  · exact .ite (fun _ => confirms_saveMeta _) fun _ => .pure _
  · exact .ite (fun _ => .pure _) fun _ => confirms_doFinalize

theorem confirms_doExecute : Confirms e doExecute := by
  refine .bind confirms_memory fun m => .ite (fun _ => ?_) fun _ => confirms_flushOutbox
  refine .bind (confirms_call _) fun prep => .ite (fun _ => .pure _) fun _ =>
    .bind confirms_memory fun m => .bind (confirms_call _) fun st =>
      .ite (fun _ => .pure _) fun _ => ?_
  exact .bind (confirms_setExState _) fun _ => .bind confirms_persistExecution fun _ =>
    confirms_flushOutbox

/-- No step, failed or not, takes anything for done that was not accepted. -/
theorem confirms_step : Confirms e step := by
  refine .bind confirms_memory fun m => .ite (fun _ => .pure _) fun _ => ?_
  cases m.vtState with
  | none | discovered => exact confirms_proceeding proceeds_doCheckTask (by simp) (by simp)
  | consentPending => exact confirms_proceeding proceeds_doConsent (by simp) (by simp)
  | downloadPending | downloading => exact confirms_doDownload
  | ready | waitingWindow | permitPending => exact confirms_doPermit
  | executing => exact confirms_doExecute
  | retryPending => exact .bind (confirms_setVtState _) fun _ => confirms_doPermit
  | rollbackPending =>
    exact .bind (confirms_setExState _) fun _ => .bind (confirms_setVtState _) fun _ =>
      confirms_doExecute
  | paused | completed | ended => exact .pure _

end Confirmations

/-! ### Transport failures -/

section Failures

variable {e : Environment} {w w' w₀ : World} {parts : List Part} {α β : Type}

/-- The task and the consent are as they were, in memory and in the store. -/
structure Unmoved (w w' : World) : Prop where
  phase : Part.Same .phase w w'
  consent : Part.Same .consent w w'

/-- The same for the store alone. -/
structure Unsaved (w w' : World) : Prop where
  vehicleTask : w'.store.vehicleTask = w.store.vehicleTask
  consent : w'.store.consent = w.store.consent

theorem Unmoved.refl (w : World) : Unmoved w w := ⟨.rfl _ w, .rfl _ w⟩

theorem Unmoved.unsaved (h : Unmoved w w') : Unsaved w w' := ⟨h.phase.2, h.consent⟩

theorem Unmoved.within (h : Unmoved w₀ w) (within : Within parts w w') (phase : .phase ∉ parts)
    (consent : .consent ∉ parts) : Unmoved w₀ w' :=
  ⟨h.phase.trans (within.same .phase phase), h.consent.trans (within.same .consent consent)⟩

/-- A call leaves the task and the consent alone. -/
theorem unmoved_call {c : Call} {Q : c.Reply → World → Prop} (h : Unmoved w₀ w)
    (next : ∀ r w', Unmoved w₀ w' → Q r w') : wp (call c) Q (fun _ => True) e w := by
  have called : Unmoved w₀ (w.effect (.called c)) := ⟨h.phase, h.consent⟩
  refine wp_call (fun _ _ => trivial) fun w' r within => ⟨trivial, next r _ ?_⟩
  have waited := called.within within (by simp) (by simp)
  exact ⟨waited.phase, waited.consent⟩

/-- What a program returns at its end does not depend on what it did before. -/
theorem wp_bind_any {m : Orch β} {f : β → Orch α} {Q : α → World → Prop}
    (next : ∀ b w, wp (f b) Q (fun _ => True) e w) : wp (m >>= f) Q (fun _ => True) e w := by
  rw [wp_bind]
  exact wp_mono wp_true (fun b w _ => next b w) fun _ h => h

/-- The check of the task fails only before it has a reply. -/
theorem unmoved_doCheckTask :
    wp doCheckTask (fun out w' => out.transportFailed → Unmoved w w') (fun _ => True) e w := by
  unfold doCheckTask
  simp only [wp_bind, wp_memory, wp_makeCtx]
  refine unmoved_call (.refl w) fun inv w₁ h => unmoved_call h fun reply w₂ h => ?_
  cases reply with
  -- no answer: nothing has happened
  | error ex => exact fun _ => h
  -- an answer, after which the step does not fail
  | ok resp =>
    simp only [wp_ite]
    split
    next => exact wp_bind_any fun _ _ => wp_bind_any fun _ _ failed => by cases failed
    next =>
      cases resp.task with
      | none => exact fun failed => by cases failed
      | some task =>
        exact wp_bind_any fun _ _ => wp_bind_any fun _ _ => wp_bind_any fun _ _ =>
          wp_bind_any fun _ _ => wp_bind_any fun _ _ => wp_bind_any fun _ _ failed => by
            cases failed

theorem unmoved_doConsent :
    wp doConsent (fun out w' => out.transportFailed → Unmoved w w') (fun _ => True) e w := by
  unfold doConsent
  simp only [wp_bind, wp_memory, wp_nowMs, wp_makeCtx]
  refine unmoved_call (.refl w) fun choice w₁ h =>
    unmoved_call (h.within .pause (by simp) (by simp)) fun reply w₂ h => ?_
  cases reply with
  | error ex => exact fun _ => h
  | ok resp =>
    exact wp_bind_any fun _ _ => wp_bind_any fun _ _ => wp_bind_any fun _ _ =>
      wp_bind_any fun _ _ => wp_bind_any fun _ _ failed => by cases failed

/-- The permit fails only before it has a reply. -/
theorem unmoved_doPermit :
    wp doPermit (fun out w' => out.transportFailed → Unmoved w w') (fun _ => True) e w := by
  unfold doPermit requestPermit
  simp only [wp_bind, wp_memory, wp_ite, wp_nowMs, wp_pure, wp_store, wp_makeCtx]
  split
  -- a ready task waits, which does not fail
  next => exact wp_mono wp_true (fun _ _ _ => wp_mono wp_true
      (fun _ _ _ failed => by cases failed) fun _ h => h) fun _ h => h
  next =>
    split
    -- outside the window
    next => exact fun failed => by cases failed
    next =>
      refine unmoved_call ((Unmoved.refl w).within .pause (by simp) (by simp)) fun guards w₁ h => ?_
      split
      -- the guards do not hold
      next => exact fun failed => by cases failed
      next =>
        refine unmoved_call h fun ev w₂ h => unmoved_call h fun reply w₃ h => ?_
        cases reply with
        -- no answer: nothing has happened
        | error ex => exact fun _ => h
        | ok resp =>
          simp only [wp_ite, wp_pure]
          split
          -- denied
          next => exact fun failed => by cases failed
          next =>
            unfold acceptPermit
            refine wp_bind_any fun _ _ => wp_bind_any fun _ _ => wp_bind_any fun _ _ =>
              wp_bind_any fun _ _ => wp_bind_any fun _ _ => wp_bind_any fun _ _ => ?_
            rw [wp_ite]
            split
            -- expired
            next => exact fun failed => by cases failed
            next =>
              refine wp_bind_any fun _ _ => ?_
              rw [wp_ite]
              split
              -- the guards have changed since
              next => exact fun failed => by cases failed
              -- granted
              next => exact wp_bind_any fun _ _ failed => by cases failed

/-- The execution saves its events and leaves the task. -/
theorem unmoved_doExecute :
    wp doExecute (fun out w' => out.transportFailed → Unmoved w w') (fun _ => True) e w := by
  refine wp_doExecute (I := Unmoved w)
    (fun _ _ within h => h.within within (by simp) (by simp)) (fun _ _ => trivial)
    (fun _ _ h _ => h) (fun w' h => ?_) (.refl w)
  refine wp_doFinalize (I := Unmoved w)
    (fun _ _ within h => h.within within (by simp) (by simp)) (fun _ _ => trivial)
    (fun _ _ h _ => h) (fun report resp w' _ => ?_) h
  -- an accepted result is no failure
  unfold closeExecution
  exact wp_bind_any fun _ _ => wp_bind_any fun _ _ => wp_bind_any fun _ _ => wp_bind_any fun _ _ =>
    wp_bind_any fun _ _ => wp_bind_any fun _ _ failed => by cases failed

/-- A package at which the loop stops leaves the task downloading. -/
theorem downloading_downloadPackage (pkg : PackageSummary) :
    wp (downloadPackage pkg) (fun r w' => ∀ ex, r = .stop ex → w'.mem.vtState = .downloading)
      (fun _ => True) e w := by
  have aborts : ∀ entry ex w, wp (abandonDownload entry ex)
      (fun r w' => ∀ ex, r = .stop ex → w'.mem.vtState = .downloading) (fun _ => True) e w :=
    fun entry ex w => by
      unfold abandonDownload
      simp only [wp_bind, wp_setVtState, wp_pure]
      exact wp_save trivial fun _ _ => rfl
  have concludes : ∀ entry cleared outcome w, wp (concludeDownload entry cleared outcome)
      (fun r w' => ∀ ex, r = .stop ex → w'.mem.vtState = .downloading) (fun _ => True) e w := by
    intro entry cleared outcome w
    unfold concludeDownload
    rw [wp_ite]
    split
    next => exact wp_bind_any fun _ _ _ never => by cases never
    next => exact wp_bind_any fun _ _ _ never => by cases never
  unfold downloadPackage
  refine wp_bind_any fun s w => ?_
  rw [wp_ite]
  split
  -- ready before
  next => exact wp_bind_any fun _ _ _ never => by cases never
  next =>
    refine wp_bind_any fun _ _ => wp_bind_any fun _ _ => wp_bind_any fun reply w => ?_
    cases reply with
    -- no grant
    | error ex => exact aborts _ ex w
    | ok grant =>
      refine wp_bind_any fun outcome w => ?_
      rw [wp_ite]
      split
      next =>
        refine wp_bind_any fun _ _ => wp_bind_any fun _ _ => wp_bind_any fun reply w => ?_
        cases reply with
        -- no answer to the report
        | error ex => exact aborts _ ex w
        | ok resp =>
          rw [wp_ite]
          split
          -- accepted or not
          next => exact concludes _ _ outcome w
          next => exact concludes _ _ outcome w
      -- a stage failed
      next => exact concludes _ _ outcome w

/-- A loop that stops leaves the task downloading. -/
theorem downloading_downloadPackages (packages : List PackageSummary) (allReady : Bool)
    (error : String) :
    wp (downloadPackages packages allReady error)
      (fun r w' => ∀ ex, r = .error ex → w'.mem.vtState = .downloading) (fun _ => True) e w := by
  induction packages generalizing w allReady error with
  | nil => exact fun _ never => by cases never
  | cons pkg rest ih =>
    unfold downloadPackages
    rw [wp_bind]
    refine wp_mono (downloading_downloadPackage pkg) (fun r w' stopped => ?_) fun _ h => h
    cases r with
    | stop ex => exact fun _ _ => stopped ex rfl
    | next cleared ex => exact ih _ _

/-- The packages before the one that failed may be saved, the task is not. -/
theorem unsaved_doDownload :
    wp doDownload (fun out w' => out.transportFailed → Unsaved w w' ∧
      w'.mem.vtState = .downloading) (fun _ => True) e w := by
  unfold doDownload
  simp only [wp_bind, wp_memory]
  have loop := (proceeds_downloadPackages (e := e) w.mem.frozenTask.packageList true "").keeps
    (I := Unsaved w)
    (fun _ _ within h => ⟨Eq.trans (within.same .phase (by simp)).2 h.vehicleTask,
      Eq.trans (within.same .consent (by simp)) h.consent⟩)
    (fun _ _ _ h => ⟨h.vehicleTask, h.consent⟩) (fun _ _ _ never => by simp at never) w
    (Unmoved.refl w).unsaved
  refine wp_mono (wp_and loop (downloading_downloadPackages _ true "")) (fun r w' both => ?_)
    fun _ _ => trivial
  cases r with
  -- the loop stopped
  | error ex => exact fun _ => ⟨both.1, both.2 ex rfl⟩
  -- it came to its end, which does not fail
  | ok r =>
    exact wp_bind_any fun _ _ => wp_bind_any fun _ _ => wp_bind_any fun _ _ failed => by
      cases failed

/-- A rollback stays one until its result was accepted. -/
theorem rollback_doExecute (rollback : w.mem.exState = .rollback) :
    wp doExecute (fun out w' => out.transportFailed → w'.mem.exState = .rollback)
      (fun _ => True) e w := by
  have outbox : ∀ w w', Within [.result, .outbox] w w' → w.mem.exState = .rollback →
      w'.mem.exState = .rollback := fun w w' within same =>
    Eq.trans (within.same .execution (by simp)).1 same
  have sends : ∀ {β : Type} {m : Orch β}, Touches e [.outbox] m →
      Keeps e (fun w => w.mem.exState = .rollback) m := fun touches =>
    touches.keeps fun w w' within => outbox w w' (within.mono (by simp))
  unfold doExecute
  simp only [wp_bind, wp_memory, wp_ite, rollback, reduceCtorEq, or_self, if_false]
  unfold flushOutbox
  simp only [wp_bind, wp_store, wp_memory, wp_ite, wp_pure]
  refine wp_mono (sends (touches_sendEvents _ _) w rollback) (fun st w₁ same => ?_) fun _ _ =>
    trivial
  refine wp_mono (sends (touches_raiseAccepted _ _) w₁ same) (fun _ w₂ same => ?_) fun _ _ =>
    trivial
  -- the execution is written as it is in memory
  unfold persistExecution
  simp only [wp_bind, wp_memory]
  refine wp_save trivial (wp_save trivial ?_)
  split
  -- an event was not accepted
  next => exact fun _ => same
  -- all were: the final result
  next =>
    refine wp_doFinalize (I := fun w => w.mem.exState = .rollback) outbox (fun _ _ => trivial)
      (fun _ _ same _ => same) (fun report resp w' _ => ?_) same
    unfold closeExecution
    exact wp_bind_any fun _ _ => wp_bind_any fun _ _ => wp_bind_any fun _ _ =>
      wp_bind_any fun _ _ => wp_bind_any fun _ _ => wp_bind_any fun _ _ failed => by cases failed

theorem rejoins_same {m m' : Memory} (same : m'.vtState = m.vtState)
    (plain : m.vtState ≠ .retryPending ∧ m.vtState ≠ .rollbackPending ∧
      m.vtState ≠ .downloadPending) : m.Rejoins m' := by
  unfold Memory.Rejoins
  split
  next retry => exact absurd retry plain.1
  next rollback => exact absurd rollback plain.2.1
  next download => exact absurd download plain.2.2
  next => exact same

/-- The failed step rejoins, and has saved nothing of the task. -/
theorem rejoins_step :
    wp step (fun out w' => out.transportFailed → Unsaved w w' ∧ w.mem.Rejoins w'.mem)
      (fun _ => True) e w := by
  -- a phase that moves nothing, in a state that `step` does not change
  have stays : ∀ {m : Orch StepOutcome},
      wp m (fun out w' => out.transportFailed → Unmoved w w') (fun _ => True) e w →
      w.mem.vtState ≠ .retryPending ∧ w.mem.vtState ≠ .rollbackPending ∧
        w.mem.vtState ≠ .downloadPending →
      wp m (fun out w' => out.transportFailed → Unsaved w w' ∧ w.mem.Rejoins w'.mem)
        (fun _ => True) e w := by
    intro m unmoved plain
    refine wp_mono unmoved (fun out w' unmoved failed => ?_) fun _ h => h
    exact ⟨(unmoved failed).unsaved, rejoins_same (unmoved failed).phase.1 plain⟩
  have performs : wp step (fun out w' => out.transportFailed → Unsaved w w' ∧
      w.mem.Rejoins w'.mem) (fun _ => True) e w ↔
      wp (phaseAction w.mem.vtState).body (fun out w' => out.transportFailed → Unsaved w w' ∧
        w.mem.Rejoins w'.mem) (fun _ => True) e w.enter := by
    unfold wp
    rw [performs_phaseAction w e]
  rw [performs]
  unfold World.enter
  cases state : w.mem.vtState with
  | none | discovered => exact stays unmoved_doCheckTask (by simp [state])
  | consentPending => exact stays unmoved_doConsent (by simp [state])
  | downloadPending | downloading =>
    refine wp_mono unsaved_doDownload (fun out w' both failed => ?_) fun _ h => h
    obtain ⟨unsaved, downloading⟩ := both failed
    exact ⟨unsaved, by simp [Memory.Rejoins, state, downloading]⟩
  | ready | waitingWindow | permitPending => exact stays unmoved_doPermit (by simp [state])
  | executing => exact stays unmoved_doExecute (by simp [state])
  -- a retry is taken up before the permit is asked for
  | retryPending =>
    refine wp_mono unmoved_doPermit (fun out w' unmoved failed => ?_) fun _ h => h
    have unmoved := unmoved failed
    have waiting : w'.mem.vtState = .permitPending := unmoved.phase.1
    exact ⟨⟨unmoved.phase.2, unmoved.consent⟩, by simpa only [Memory.Rejoins, state] using waiting⟩
  -- a rollback is taken up before the execution
  | rollbackPending =>
    refine wp_mono (wp_and unmoved_doExecute (rollback_doExecute rfl))
      (fun out w' both failed => ?_) fun _ _ => trivial
    have unmoved := both.1 failed
    have executing : w'.mem.vtState = .executing := unmoved.phase.1
    exact ⟨⟨unmoved.phase.2, unmoved.consent⟩, by
      simpa only [Memory.Rejoins, state] using ⟨executing, both.2 failed⟩⟩
  -- nothing is done, and nothing fails
  | paused | completed | ended => exact fun failed => by cases failed

end Failures

/-- From every world, also one no run reaches: a step that ends in a transport failure leaves the
task and the consent as they were, and the next step performs the same action. -/
theorem transport_failure_undisturbed (env : Environment) (w : World) :
    wp step (fun out w' => out.transportFailed → Undisturbed w w') (fun _ => True) env w := by
  refine wp_mono (wp_and (confirms_step w) rejoins_step) (fun out w' both failed => ?_)
    fun _ _ => trivial
  obtain ⟨unsaved, rejoins⟩ := both.2 failed
  exact { both.1 with
    vehicleTask := unsaved.vehicleTask
    consent := unsaved.consent
    rejoins
    action := ⟨phaseAction w.mem.vtState, performs_phaseAction w,
      rejoins.action ▸ performs_phaseAction w'⟩ }

end CgwFota
