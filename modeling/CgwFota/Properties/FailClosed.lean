import CgwFota.Orchestrator.Advance
import CgwFota.Orchestrator.ConservativePorts

/-!
# The production build fails closed

With the conservative ports no run reaches the vehicle: nothing is installed, verified, consented
to, applied or uploaded, whatever the cloud answers and whatever the store holds. From an empty
store a task gets as far as its window, and only if it has nothing to download.

## Main definitions

* `Harmless`: neither the vehicle nor the cloud is told that anything went on.
* `Early`, `EmptyAtWindow`: how far a task gets, and with what.
* `Short`, `StoredShort`: the invariants behind that, of memory and store.

## Main results

* `conservative_ports_harmless`: every run of the production build is harmless, from any store.
* `conservative_ports_stop_short`: from an empty store a task stops at its window.

## Proof strategy

What the ports answer is a condition on the trace, so it is known of a reply as soon as the reply is
observed. Where a port has answered otherwise there is nothing to show; where it has not, the branch
that would do harm is one that its answer rules out.
-/
namespace CgwFota

open Crash

/-! ### What is called on the way -/

section Rules

variable {e : Environment} {w w' : World} {α : Type} {m : Orch α} {body : α → World → Prop}
  {I D : World → Prop} {l : List Part}

/-- Where a port has answered otherwise there is nothing to show. -/
theorem wp_otherwise (touches : Touches e l m)
    (otherwise : ¬Always OnProductionPorts w.trace) :
    wp m (fun a => Assuming OnProductionPorts (body a)) (Assuming OnProductionPorts D) e w :=
  Assuming.wp_of (P := fun _ => False) (fun met => otherwise met) touches fun never => never.elim

/-- A call, with the answer of the port. -/
theorem wp_call_conservative {c : Call} {Q : c.Reply → World → Prop}
    (quiet : ∀ w w', Within [.outbox] w w' → I w → I w') (crash : ∀ w, I w → D w)
    (returned : ∀ r (w' : World), I w' → I (w'.effect (.returned c r)))
    (called : Assuming OnProductionPorts I (w.effect (.called c)))
    (next : ∀ r w', Assuming OnProductionPorts (fun w' => I w' ∧ Conservative c r) w' → Q r w') :
    wp (call c) Q (Assuming OnProductionPorts D) e w := by
  refine wp_call_emitting (I := Assuming OnProductionPorts I) called (fun evt w holds => ?_)
    (fun w holds met => crash w (holds met)) fun r w' holds _ => ?_
  · exact wp_mono ((touches_emit [.outbox] evt (by simp)).keeps
      (fun w w' within holds => within.assuming holds (quiet w w' within)) w holds)
      (fun _ _ h => h) fun w h met => crash w (h met)
  · exact ⟨fun met => crash _ (returned r w' (holds met.2)),
      next r _ fun met => ⟨returned r w' (holds met.2), met.1⟩⟩

end Rules

/-- Neither the vehicle nor the cloud is told that anything went on. -/
def Harmless (a : Entry) (_past : List Entry) : Prop :=
  match a.event with
  | .called (.start _) | .called (.requestInstall _ _) | .called (.reportStageResult _ _)
  | .called (.reportLogUpload _ _) | .called (.acknowledgeControl _ _) | .saved (.logJob _) => False
  | .called (.reportConsent report _) => report.consentStatus = .unspecified
  | .saved (.download entry) => entry.ready = false
  | _ => True

/-- The parts in which nothing harmful can happen. -/
def harmlessParts : List Part :=
  [.run, .phase, .moved, .task, .inventory, .execution, .result, .outbox, .policy]

abbrev Unharmed (w : World) : Prop :=
  Assuming OnProductionPorts (fun w => Always Harmless w.trace) w

section Harmless

variable {e : Environment} {w w' : World} {α : Type} {m : Orch α} {l : List Part}

theorem Always.harmless (all : Always Harmless w.trace) (within : Within l w w')
    (sub : ∀ p ∈ l, p ∈ harmlessParts) : Always Harmless w'.trace := by
  refine within.always (fun a past part => ?_) all
  have part := sub _ part
  obtain ⟨event, mem, store, tick⟩ := a
  cases event with
  | called c => cases c <;> trivial
  | saved s => cases s <;> trivial
  | _ => trivial

theorem Unharmed.within (h : Unharmed w) (within : Within l w w')
    (sub : ∀ p ∈ l, p ∈ harmlessParts) : Unharmed w' :=
  within.assuming h fun all => Always.harmless all within sub

theorem unharmed_touches (touches : Touches e l m) (sub : ∀ p ∈ l, p ∈ harmlessParts)
    (h : Unharmed w) : wp m (fun _ => Unharmed) Unharmed e w :=
  touches.keeps (fun _ _ within h => Unharmed.within h within sub) w h

/-- What a harmless call leaves behind, with the answer of the port. -/
theorem unharmed_call {c : Call} {Q : c.Reply → World → Prop} (h : Unharmed w)
    (fine : Always OnProductionPorts w.trace →
      Harmless ⟨.called c, w.mem, w.store, w.tick⟩ w.trace)
    (next : ∀ r w', Unharmed w' → (Always OnProductionPorts w'.trace → Conservative c r) →
      Q r w') :
    wp (call c) Q Unharmed e w := by
  refine wp_call_conservative (I := fun w => Always Harmless w.trace)
    (fun w w' within all => Always.harmless all within (by simp [harmlessParts])) (fun _ h => h)
    (fun r w' all => ⟨trivial, all⟩) (fun met => ⟨fine met.2, h met.2⟩) fun r w' both => ?_
  exact next r w' (fun met => (both met).1) fun met => (both met).2

/-- The consent that is reported is the one the provider gave, and that is none. -/
theorem unharmed_doConsent (h : Unharmed w) :
    wp doConsent (fun _ => Unharmed) Unharmed e w := by
  unfold doConsent
  simp only [wp_bind, wp_memory, wp_nowMs, wp_makeCtx]
  refine unharmed_call h (fun _ => trivial) fun choice w₁ h₁ answer => ?_
  refine unharmed_call (w := w₁.advance) h₁ (fun met => ?_) fun reply w₂ h₂ _ => ?_
  · show choice.userChoice = .unspecified
    rw [answer met]
    rfl
  · cases reply with
    | error ex => exact h₂
    | ok resp =>
      have saved : Unharmed (w₂.advance.effect (.saved (.consent (consentRecord w.mem.frozenTask
          resp (e.clock w₂.tick))))) := fun met => ⟨trivial, h₂ met.2⟩
      simp only [wp_bind, wp_nowMs, wp_setVtState, wp_memory, wp_pure]
      exact wp_save saved (wp_persistVehicleTask (fun met => ⟨trivial, trivial, saved met.2.2⟩)
        fun met => ⟨trivial, trivial, saved met.2.2⟩)

/-- The downloader has nothing to report, and what is saved of the package is not ready. -/
theorem unharmed_verifyPackage (pkg : PackageSummary) {entry : FotaDownloadRecord}
    (grant : DownloadGrantResponse) (pending : entry.ready = false) (h : Unharmed w) :
    wp (verifyPackage pkg entry grant) (fun _ => Unharmed) Unharmed e w := by
  unfold verifyPackage
  rw [wp_bind]
  refine unharmed_call h (fun _ => trivial) fun outcome w₁ h₁ answer => ?_
  simp only [wp_ite]
  split
  -- a stage result was handed over, which the conservative downloader never does
  next reported =>
    refine wp_otherwise (l := [.outbox, .download, .phase, .moved]) ?_ fun met => ?_
    · refine .bind touches_nowMs fun now => .bind (touches_makeCtx _) fun ctx =>
        .bind (touches_call _ (by simp [Call.part]) (by simp)) fun reply => ?_
      cases reply with
      | error ex => exact Touches.mono (proceeds_abandonDownload _ ex).touches (by simp)
      | ok resp =>
        exact .ite (fun _ => Touches.mono (proceeds_concludeDownload _ _ _).touches (by simp))
          fun _ => Touches.mono (proceeds_concludeDownload _ _ _).touches (by simp)
    · rw [answer met] at reported
      cases reported
  -- no stage result: what is saved says neither ready nor verified
  next =>
    unfold concludeDownload
    simp only [wp_ite, wp_bind, wp_pure]
    have kept : (applyGrant entry grant).ready = false := by
      unfold applyGrant
      split <;> exact pending
    split
    next =>
      exact wp_save (fun met => ⟨kept, h₁ met.2⟩) fun met => ⟨kept, h₁ met.2⟩
    next =>
      exact wp_save (fun met => ⟨rfl, h₁ met.2⟩) fun met => ⟨rfl, h₁ met.2⟩

/-- The loop over the packages, by induction on them. -/
theorem unharmed_downloadPackages (packages : List PackageSummary) (allReady : Bool)
    (error : String) (h : Unharmed w) :
    wp (downloadPackages packages allReady error) (fun _ => Unharmed) Unharmed e w := by
  induction packages generalizing allReady error w with
  | nil => exact h
  | cons pkg rest ih =>
    have package : wp (downloadPackage pkg) (fun _ => Unharmed) Unharmed e w := by
      unfold downloadPackage
      simp only [wp_bind, wp_store, wp_ite, wp_note, wp_pure, wp_memory, wp_makeCtx]
      split
      -- the record is ready already: nothing is called
      next => exact fun met => ⟨trivial, h met.2⟩
      next pending =>
        have pending := Bool.eq_false_iff.mpr pending
        refine unharmed_call h (fun _ => trivial) fun reply w₁ h₁ _ => ?_
        cases reply with
        | error ex =>
          -- the record is written back as it was read
          unfold abandonDownload
          simp only [wp_bind, wp_setVtState, wp_pure]
          exact wp_save (fun met => ⟨pending, trivial, h₁ met.2.2⟩)
            fun met => ⟨pending, trivial, h₁ met.2.2⟩
        | ok grant => exact unharmed_verifyPackage pkg grant pending h₁
    unfold downloadPackages
    rw [wp_bind]
    refine wp_mono package (fun r w₁ h₁ => ?_) fun _ h => h
    cases r with
    | stop ex => exact h₁
    | next cleared ex => exact ih _ _ h₁

theorem unharmed_doDownload (h : Unharmed w) :
    wp doDownload (fun _ => Unharmed) Unharmed e w := by
  unfold doDownload
  simp only [wp_bind, wp_memory]
  refine wp_mono (unharmed_downloadPackages _ _ _ h) (fun r w₁ h₁ => ?_) fun _ h => h
  cases r with
  | error ex => exact h₁
  | ok r =>
    simp only [wp_bind, wp_setVtState, wp_memory, wp_pure]
    exact wp_persistVehicleTask (fun met => ⟨trivial, trivial, h₁ met.2.2⟩)
      fun met => ⟨trivial, trivial, h₁ met.2.2⟩

/-- No permit is asked for, since the guards do not pass. -/
theorem unharmed_doPermit (h : Unharmed w) : wp doPermit (fun _ => Unharmed) Unharmed e w := by
  unfold doPermit
  simp only [wp_bind, wp_memory, wp_ite, wp_setVtState, wp_pure, wp_nowMs]
  split
  -- the window is closed
  next =>
    exact wp_persistVehicleTask (fun met => ⟨trivial, trivial, h met.2.2⟩)
      fun met => ⟨trivial, trivial, h met.2.2⟩
  next =>
    split
    next => exact h
    next =>
      refine unharmed_call (w := w.advance) h (fun _ => trivial) fun guards w₁ h₁ answer => ?_
      split
      next => exact h₁
      -- the guards pass, which the conservative safety port never lets them
      next passed =>
        refine wp_otherwise proceeds_requestPermit.touches fun met => ?_
        rw [answer met] at passed
        exact passed rfl

/-- No log is generated, so that none is uploaded. -/
theorem unharmed_doLogUpload (h : Unharmed w) :
    wp doLogUpload (fun _ => Unharmed) Unharmed e w := by
  unfold doLogUpload
  simp only [wp_bind, wp_nowMs, wp_memory, wp_makeCtx]
  refine unharmed_call (w := w.advance.advance) h (fun _ => trivial) fun reply w₁ h₁ _ => ?_
  cases reply with
  | error ex => exact h₁
  | ok grant =>
    simp only [wp_bind]
    refine unharmed_call h₁ (fun _ => trivial) fun pkg w₂ h₂ answer => ?_
    simp only [wp_ite, wp_pure]
    split
    next => exact h₂
    -- a log was generated, which the conservative executor never does
    next generated =>
      refine wp_otherwise (l := [.log, .outbox]) ?_ fun met => ?_
      · refine .bind touches_nowMs fun _ => .bind (touches_makeCtx _) fun ctx =>
          .bind (touches_call _ (by simp [Call.part]) (by simp)) fun reply => ?_
        cases reply with
        | error ex => exact .pure _
        | ok _ => exact .bind touches_nowMs fun _ => touches_save (by simp [Save.part])
      · rw [answer met] at generated
        exact generated rfl

/-- A final result is reported as it was read. -/
theorem unharmed_doFinalize (h : Unharmed w) :
    wp doFinalize (fun _ => Unharmed) Unharmed e w := by
  refine wp_doFinalize (I := Unharmed)
    (fun w w' within h => Unharmed.within h within (by simp [harmlessParts])) (fun _ h => h)
    (fun _ _ h => h) (fun report resp w h => ?_) h
  unfold closeExecution
  rw [wp_bind]
  refine wp_mono (unharmed_doLogUpload h) (fun _ w₁ h₁ => ?_) fun _ h => h
  refine unharmed_touches (l := [.phase, .moved, .execution, .outbox]) ?_
    (by simp [harmlessParts]) h₁
  refine .bind (touches_setExState _ _ (by simp) (by simp)) fun _ => .bind ?_ fun _ =>
    .bind (touches_persistVehicleTask _ _ (by simp)) fun _ =>
    .bind (touches_persistExecution _ (by simp) (by simp)) fun _ =>
    .bind touches_memory fun _ => .pure _
  exact .bind (touches_setVtState _ _ (by simp) (by simp)) fun _ => .bind touches_memory fun _ =>
    .ite (fun _ => touches_setVtState _ _ (by simp) (by simp)) fun _ => .pure _

theorem unharmed_flushOutbox (h : Unharmed w) :
    wp flushOutbox (fun _ => Unharmed) Unharmed e w :=
  wp_flushOutbox (I := Unharmed)
    (fun w w' within h => Unharmed.within h within (by simp [harmlessParts])) (fun _ h => h)
    (fun _ _ h => h) (fun _ h => unharmed_doFinalize h) h

/-- A task that was executing before may be finished, but nothing is started. -/
theorem unharmed_doExecute (h : Unharmed w) : wp doExecute (fun _ => Unharmed) Unharmed e w := by
  unfold doExecute
  simp only [wp_bind, wp_memory, wp_ite, wp_pure]
  split
  next =>
    refine unharmed_call h (fun _ => trivial) fun prep w₁ h₁ answer => ?_
    split
    next => exact h₁
    -- the executor is ready, which the conservative one never is
    next ready =>
      refine unharmed_call h₁ (fun met => ?_) fun st w₂ h₂ _ => ?_
      · rw [answer met] at ready
        exact absurd rfl ready
      · split
        next => exact h₂
        next =>
          unfold recordStart
          simp only [wp_bind, wp_setExState]
          have moved : Unharmed ((w₂.withMemory fun m => { m with exState := .installStarted }).note
              .moved) := fun met => ⟨trivial, h₂ met.2⟩
          refine wp_mono (unharmed_touches (touches_persistExecution [.execution, .outbox] (by simp)
            (by simp)) (by simp [harmlessParts]) moved) (fun _ w₃ h₃ => ?_) fun _ h => h
          exact unharmed_flushOutbox h₃
  -- the installation was begun before: only its events are sent
  next => exact unharmed_flushOutbox h

/-- A control is received, and not applied, so that nothing is acknowledged. -/
theorem unharmed_applyControl (cmd : ControlCommand) (h : Unharmed w) :
    wp (applyControl cmd) (fun _ => Unharmed) Unharmed e w := by
  unfold applyControl
  simp only [wp_bind, wp_store, wp_ite, wp_pure, wp_setMemory]
  split
  next => exact h
  next =>
    have saved : Unharmed (w.effect (.saved (.control (controlRecord cmd)))) :=
      fun met => ⟨trivial, h met.2⟩
    refine wp_save saved ?_
    refine unharmed_call (w := World.withMemory _ _) saved (fun _ => trivial)
      fun app w₁ h₁ answer => ?_
    split
    next applied =>
      -- it was applied, which the conservative executor never does
      have refused : ¬Always OnProductionPorts w₁.trace := fun met => by
        rw [answer met] at applied
        cases applied
      exact wp_otherwise (proceeds_acknowledgeApplied cmd app).touches_only refused
    next => exact h₁

theorem unharmed_step (h : Unharmed w) : wp step (fun _ => Unharmed) Unharmed e w := by
  have moved : ∀ s, Unharmed (w.move s) := fun s met => ⟨trivial, h met.2⟩
  refine wp_step (fun _ => h) (fun _ => ?_) (fun _ => unharmed_doConsent h)
    (fun _ => unharmed_doDownload h) (fun _ => unharmed_doPermit h) (fun _ => unharmed_doExecute h)
    (fun _ => unharmed_doPermit (moved _)) fun _ => unharmed_doExecute ?_
  · exact unharmed_touches proceeds_doCheckTask.touches (by simp [harmlessParts]) h
  · exact fun met => ⟨trivial, trivial, h met.2.2⟩

/-- A whole run does, whatever is asked of the process. -/
theorem unharmed_run (ops : List Operation) (h : Unharmed w) : Unharmed (run e w ops) := by
  have settles : ∀ {α : Type} {m : Orch α} {w : World}, wp m (fun _ => Unharmed) Unharmed e w →
      wp (m >>= fun _ => pure ()) (fun _ => Unharmed) (fun w' => Unharmed (recover w')) e w := by
    intro α m w kept
    simp only [wp_bind, wp_pure]
    exact wp_mono kept (fun _ _ h => h) fun w' h met => ⟨trivial, trivial, h met.2.2⟩
  refine run_invariant e Unharmed (fun op w h => ?_) ops w h
  -- each operation has its own steps
  have began : Unharmed (w.note (.began op)) := fun met => ⟨trivial, h met.2⟩
  cases op with
  | step => exact settles (unharmed_step began)
  | emit evt =>
    exact settles (unharmed_touches (touches_emit [.outbox] evt (by simp)) (by simp [harmlessParts])
      began)
  | applyControl cmd => exact settles (unharmed_applyControl cmd began)
  | syncPolicy =>
    exact settles (unharmed_touches (Proceeds.touches_only proceeds_syncPolicy)
      (by simp [harmlessParts]) began)
  | restart => exact fun met => ⟨trivial, began met.2⟩

end Harmless

/-- A cloud that agrees to everything, and the conservative ports. -/
def conservativeReply : (c : Call) → c.Reply
  | .requestConsent vehicleTaskId terms =>
    ConservativeConsentProvider.requestConsent vehicleTaskId terms
  | .downloadAndVerify pkg grant offset =>
    ConservativePackageDownloader.downloadAndVerify pkg grant offset
  | .allGuardsPassed => ConservativeVehicleConditionProvider.allGuardsPassed
  | .evaluateConditions => ConservativeVehicleConditionProvider.evaluateConditions 0
  | .prepare task => ConservativeInstallExecutor.prepare task
  | .start permit => ConservativeInstallExecutor.start permit
  | .apply cmd => ConservativeInstallExecutor.apply cmd
  | .readFinalResult => ConservativeInstallExecutor.readFinalResult
  | .collectLog scope => ConservativeLogCollector.collect scope
  | c => cooperativeReply c

def production : Environment := { cooperative with reply := fun _ c => conservativeReply c }

/-- Over every run of the production build from any store, whatever the cloud answers and wherever
it crashes: no installation is started, no permit asked for, no package reported or recorded as
ready, no control acknowledged, no log uploaded, and the consent reported is no consent. -/
theorem conservative_ports_harmless (env : Environment) (s : FotaCloudStateStore)
    (ops : List Operation) (ports : Always OnProductionPorts (run env (boot s) ops).trace) :
    Always Harmless (run env (boot s) ops).trace :=
  unharmed_run ops (w := boot s) (fun _ => ⟨trivial, trivial⟩) ports

/-- The store was left by another build in the middle of an installation. -/
theorem conservative_ports_harmless_executing :
    let s := (run cooperative (boot {}) (List.replicate 5 .step)).store
    durableVtState s = .executing ∧
      Always Harmless
        (run production (boot s) [.step, .applyControl {}, .emit {}, .step]).trace := by
  refine ⟨?_, @conservative_ports_harmless _ _ _ ?_⟩
  · decide +kernel
  · decide +kernel

/-! ### How far a task gets -/

/-- The states up to the window, and the one after refused consent. -/
def Early : VehicleTaskState → Prop
  | .none | .discovered | .consentPending | .downloadPending | .downloading | .ready
  | .waitingWindow | .ended => True
  | _ => False

/-- A task that waits for its window has no packages. -/
def EmptyAtWindow (state : VehicleTaskState) (task : VehicleTaskSnapshot) : Prop :=
  state = .ready ∨ state = .waitingWindow → task.packageList = []

/-- Nothing about an installation is observed. -/
def NoInstall (a : Entry) (_past : List Entry) : Prop :=
  a.event.part ∉ [.install, .execution, .result, .log] ∧
    ∀ req ctx, a.event ≠ .called (.requestInstall req ctx)

/-- What the store says of a task under the conservative ports. -/
structure StoredShort (w : World) : Prop where
  state : Early (durableVtState w.store)
  task : EmptyAtWindow (durableVtState w.store) (durableTask w.store)
  pending : ∀ id, ∀ r ∈ w.store.loadDownload id, r.ready = false
  trace : Always NoInstall w.trace

/-- The same of what is in memory. -/
structure Short (w : World) : Prop extends StoredShort w where
  memory : Early w.mem.vtState
  frozen : EmptyAtWindow w.mem.vtState w.mem.frozenTask

section Short

variable {e : Environment} {w w' : World} {l : List Part}

/-- Steps of these parts keep what the store says. -/
theorem StoredShort.within (h : StoredShort w) (within : Within l w w')
    (sub : ∀ p ∈ l, p ∈ [Part.run, .moved, .task, .inventory, .consent, .outbox, .control,
      .policy]) : StoredShort w' := by
  have record := (within.same .phase fun member => by simpa using sub _ member).2
  have downloads : w'.store.downloads = w.store.downloads :=
    within.same .download fun member => by simpa using sub _ member
  refine ⟨?_, ?_, ?_, ?_⟩
  · simpa only [durableVtState, record] using h.state
  · simpa only [durableVtState, durableTask, record] using h.task
  · simpa only [FotaCloudStateStore.loadDownload, downloads] using h.pending
  · refine within.always (fun a past part => ⟨fun bad => ?_, fun req ctx same => ?_⟩) h.trace
    -- an event of a part outside the list cannot be among them
    · have part := sub _ part
      simp only [List.mem_cons, List.not_mem_nil, or_false] at bad part
      rcases bad with bad | bad | bad | bad <;> simp [bad] at part
    · have part := sub _ part
      simp [same, Event.part, Call.part] at part

/-- States in which it does not matter what the task has to download. -/
def Plain : VehicleTaskState → Prop
  | .none | .discovered | .consentPending | .downloadPending | .downloading | .ended => True
  | _ => False

structure PlainShort (w : World) : Prop extends StoredShort w where
  plain : Plain w.mem.vtState

theorem Plain.early {s : VehicleTaskState} (plain : Plain s) : Early s := by
  cases s <;> trivial

theorem Plain.emptyAtWindow {s : VehicleTaskState} (plain : Plain s) (task : VehicleTaskSnapshot) :
    EmptyAtWindow s task := by
  rintro (rfl | rfl) <;> exact plain.elim

theorem PlainShort.short (h : PlainShort w) : Short w :=
  { h with memory := h.plain.early, frozen := h.plain.emptyAtWindow _ }

theorem PlainShort.within (h : PlainShort w) (within : Within l w w')
    (sub : ∀ p ∈ l, p ∈ [Part.run, .moved, .task, .inventory, .consent, .outbox, .control,
      .policy]) : PlainShort w' :=
  ⟨h.toStoredShort.within within sub,
    (within.same .phase fun member => by simpa using sub _ member).1 ▸ h.plain⟩

theorem StoredShort.persist (h : StoredShort w) (early : Early w.mem.vtState)
    (empty : EmptyAtWindow w.mem.vtState w.mem.frozenTask) (action : String) (now : Int) :
    StoredShort (w.persist action now) := by
  refine ⟨?_, ?_, h.pending, ⟨?_, by simp⟩, h.trace⟩
  · rw [durableVtState_persist]
    exact early
  · rw [durableVtState_persist, durableTask_persist]
    exact empty
  · simp [Event.part, Save.part]

theorem StoredShort.download (h : StoredShort w) {entry : FotaDownloadRecord}
    (pending : entry.ready = false) : StoredShort (w.effect (.saved (.download entry))) := by
  refine ⟨h.state, h.task, fun id r found => ?_, ⟨by simp [Event.part, Save.part], by simp⟩,
    h.trace⟩
  have found : (w.store.downloads.insert entry).get id = some r := found
  rw [Keyed.get_insert] at found
  split at found
  · cases found
    exact pending
  · exact h.pending id r found

/-- The check and the consent stay clear of the window. -/
theorem plain_proceeds {m : Orch StepOutcome} {states : VehicleTaskState → Prop}
    {actions : List String} (proceeds : Proceeds e l states actions m)
    (sub : ∀ p ∈ l, p ∈ [Part.task, .inventory, .consent]) (plain : ∀ s, states s → Plain s)
    (h : PlainShort w) : wp m (fun _ => PlainShort) StoredShort e w := by
  refine proceeds.wp (I := PlainShort)
    (fun w w' within h => h.within within fun p member => ?_) (fun evt w h => ?_)
    (fun w s allowed h => ?_) (fun w action now _ h => ?_) (fun w h => h.toStoredShort) h
  -- the parts of the phase are among those
  · have listed := sub p member
    simp only [List.mem_cons, List.not_mem_nil, or_false] at listed
    rcases listed with rfl | rfl | rfl <;> simp
  · exact wp_mono ((touches_emit [.outbox] evt (by simp)).keeps
      (fun w w' within h => PlainShort.within h within (by simp)) w h) (fun _ _ h => h)
      fun _ h => h.toStoredShort
  · exact ⟨{ h with trace := ⟨⟨by simp [Event.part], by simp⟩, h.trace⟩ }, plain s allowed⟩
  · exact ⟨h.toStoredShort.persist h.plain.early (h.plain.emptyAtWindow _) action now, h.plain⟩

/-- A call that is no matter of an installation, with the answer of the port. -/
theorem plain_call {c : Call} {Q : c.Reply → World → Prop}
    (h : Assuming OnProductionPorts PlainShort w)
    (silent : c.part ∉ [Part.install, .execution, .result, .log])
    (other : ∀ req ctx, c ≠ .requestInstall req ctx)
    (next : ∀ r w', Assuming OnProductionPorts (fun w' => PlainShort w' ∧ Conservative c r) w' →
      Q r w') :
    wp (call c) Q (Assuming OnProductionPorts StoredShort) e w := by
  refine wp_call_conservative (I := PlainShort)
    (fun w w' within h => h.within within (by simp)) (fun w h => h.toStoredShort)
    (fun r w' h => ⟨{ h with trace := ⟨⟨silent, by simp⟩, h.trace⟩ }, h.plain⟩) ?_ next
  intro met
  have h := h met.2
  exact ⟨{ h with trace := ⟨⟨silent, by simpa using other⟩, h.trace⟩ }, h.plain⟩

/-- The downloader hands over nothing and claims nothing, so the package is not done. -/
theorem plain_verifyPackage (pkg : PackageSummary) {entry : FotaDownloadRecord}
    (grant : DownloadGrantResponse) (h : Assuming OnProductionPorts PlainShort w) :
    wp (verifyPackage pkg entry grant)
      (fun r => Assuming OnProductionPorts fun w => PlainShort w ∧ ∀ error, r ≠ .next false error)
      (Assuming OnProductionPorts StoredShort) e w := by
  unfold verifyPackage
  rw [wp_bind]
  refine plain_call h (by simp [Call.part]) (by simp) fun outcome w₁ answer => ?_
  simp only [wp_ite]
  split
  next reported =>
    refine wp_otherwise (l := [.outbox, .download, .phase, .moved]) ?_ fun met => ?_
    · refine .bind touches_nowMs fun now => .bind (touches_makeCtx _) fun ctx =>
        .bind (touches_call _ (by simp [Call.part]) (by simp)) fun reply => ?_
      cases reply with
      | error ex => exact Touches.mono (proceeds_abandonDownload _ ex).touches (by simp)
      | ok resp =>
        exact .ite (fun _ => Touches.mono (proceeds_concludeDownload _ _ _).touches (by simp))
          fun _ => Touches.mono (proceeds_concludeDownload _ _ _).touches (by simp)
    · rw [(answer met).2] at reported
      cases reported
  next =>
    unfold concludeDownload
    simp only [wp_ite, wp_bind, wp_pure]
    split
    next all =>
      have never : ¬Always OnProductionPorts w₁.trace := fun met => by
        rw [(answer met).2] at all
        cases all
      exact wp_save (fun met => absurd met.2 never) fun met => absurd met.2 never
    next =>
      exact wp_save (fun met => (answer met.2).1.toStoredShort.download rfl)
        fun met => ⟨⟨(answer met.2).1.toStoredShort.download rfl, (answer met.2).1.plain⟩, by simp⟩

/-- No package comes out ready: none is recorded as ready, and none is verified. -/
theorem plain_downloadPackage (pkg : PackageSummary) (h : Assuming OnProductionPorts PlainShort w) :
    wp (downloadPackage pkg)
      (fun r => Assuming OnProductionPorts fun w => PlainShort w ∧ ∀ error, r ≠ .next false error)
      (Assuming OnProductionPorts StoredShort) e w := by
  refine h.wp_of (proceeds_downloadPackage pkg).touches fun plain => ?_
  have pending : ((w.store.loadDownload pkg.packageId).getD (newDownloadRecord pkg)).ready =
      false := by
    cases found : w.store.loadDownload pkg.packageId with
    | none => rfl
    | some entry => exact plain.pending _ entry found
  unfold downloadPackage
  simp only [wp_bind, wp_store, pending, Bool.false_eq_true, if_false, wp_memory, wp_makeCtx]
  refine plain_call (fun _ => plain) (by simp [Call.part]) (by simp) fun reply w₁ answer => ?_
  cases reply with
  | error ex =>
    unfold abandonDownload
    simp only [wp_bind, wp_setVtState, wp_pure]
    have moved : Assuming OnProductionPorts PlainShort (w₁.move .downloading) := fun met =>
      have h := (answer met.2).1
      ⟨{ h with trace := ⟨⟨by simp [Event.part], by simp⟩, h.trace⟩ }, trivial⟩
    exact wp_save (fun met => (moved met.2).toStoredShort.download pending)
      fun met => ⟨⟨(moved met.2).toStoredShort.download pending, (moved met.2).plain⟩, by simp⟩
  | ok grant => exact plain_verifyPackage pkg grant fun met => (answer met).1

/-- The loop ends with the flag still set only if there was nothing to download. -/
theorem plain_downloadPackages (packages : List PackageSummary) (allReady : Bool)
    (error : String) (h : Assuming OnProductionPorts PlainShort w) :
    wp (downloadPackages packages allReady error)
      (fun r => Assuming OnProductionPorts fun w => PlainShort w ∧
        ∀ error, r = .ok (true, error) → allReady = true ∧ packages = [])
      (Assuming OnProductionPorts StoredShort) e w := by
  induction packages generalizing allReady error w with
  | nil => exact fun met => ⟨h met, fun error same => by cases same; exact ⟨rfl, rfl⟩⟩
  | cons pkg rest ih =>
    unfold downloadPackages
    rw [wp_bind]
    refine wp_mono (plain_downloadPackage pkg h) (fun r w₁ h₁ => ?_) fun _ h => h
    cases r with
    | stop ex => exact fun met => ⟨(h₁ met).1, by simp⟩
    | next cleared ex =>
      have onward : Touches e _ (downloadPackages rest (allReady && !cleared) (ex.getD error)) :=
        (proceeds_downloadPackages rest _ _).touches
      refine h₁.wp_of onward fun both => ?_
      refine wp_mono (ih _ _ fun _ => both.1) (fun r w₂ h₂ met => ?_) fun _ h => h
      refine ⟨(h₂ met).1, fun error' same => ?_⟩
      -- the package at hand has cleared the flag
      have all := ((h₂ met).2 error' same).1
      cases cleared with
      | false => exact absurd rfl (both.2 ex)
      | true => simp at all

/-- A download phase comes to the window only with an empty list. -/
theorem short_doDownload (h : Assuming OnProductionPorts PlainShort w) :
    wp doDownload (fun _ => Assuming OnProductionPorts Short)
      (Assuming OnProductionPorts StoredShort) e w := by
  unfold doDownload
  simp only [wp_bind, wp_memory]
  refine wp_mono (wp_and (plain_downloadPackages w.mem.frozenTask.packageList true "" h)
    ((proceeds_downloadPackages w.mem.frozenTask.packageList true "").touches w))
    (fun r w₁ both => ?_) fun _ both => both.1
  obtain ⟨h₁, within⟩ := both
  have task : w₁.mem.frozenTask = w.mem.frozenTask := within.same .task (by simp)
  cases r with
  | error ex => exact fun met => (h₁ met).1.short
  | ok r =>
    simp only [wp_bind, wp_setVtState, wp_memory, wp_pure]
    have moved : Assuming OnProductionPorts Short
        ((w₁.move (if r.1 then .ready else .downloading)).advance) := by
      intro met
      have h₂ := (h₁ met.2).1
      refine { h₂ with
        trace := ⟨⟨by simp [Event.part], by simp⟩, h₂.trace⟩
        memory := ?_
        frozen := ?_ }
      -- both outcomes are early states
      · show Early (if r.1 then .ready else .downloading)
        split <;> trivial
      · intro window
        show w₁.mem.frozenTask.packageList = []
        rw [task]
        obtain ⟨allReady, error⟩ := r
        -- the flag is set, so that there was no package
        cases allReady with
        | true => exact ((h₁ met.2).2 error rfl).2
        | false => simp at window
    have persisted : ∀ now, Assuming OnProductionPorts StoredShort
        (World.persist ((w₁.move (if r.1 then .ready else .downloading)).advance) "download" now) :=
      fun now met => (moved met.2).toStoredShort.persist (moved met.2).memory (moved met.2).frozen
        _ now
    exact wp_persistVehicleTask (persisted _) fun met =>
      { persisted _ met with memory := (moved met.2).memory, frozen := (moved met.2).frozen }

/-- The window opens for nobody: the guards do not pass. -/
theorem short_doPermit (h : Assuming OnProductionPorts Short w) :
    wp doPermit (fun _ => Assuming OnProductionPorts Short)
      (Assuming OnProductionPorts StoredShort) e w := by
  unfold doPermit
  simp only [wp_bind, wp_memory, wp_ite, wp_setVtState, wp_pure, wp_nowMs]
  split
  -- the task is ready: it goes on to wait for its window
  next ready =>
    have moved : Assuming OnProductionPorts Short ((w.move .waitingWindow).advance) := fun met =>
      have h := h met.2
      { h with
        trace := ⟨⟨by simp [Event.part], by simp⟩, h.trace⟩
        memory := trivial
        frozen := fun _ => h.frozen (.inl ready) }
    have persisted : ∀ now, Assuming OnProductionPorts StoredShort
        (World.persist ((w.move .waitingWindow).advance) "waitingWindow" now) :=
      fun now met => (moved met.2).toStoredShort.persist (moved met.2).memory (moved met.2).frozen
        _ now
    exact wp_persistVehicleTask (persisted _)
      fun met => { persisted _ met with memory := trivial, frozen := (moved met.2).frozen }
  -- the window is asked for, and the guards do not pass
  next =>
    have asked : Assuming OnProductionPorts Short w.advance := fun met => { h met with }
    split
    next => exact asked
    next =>
      have quiet : ∀ w w', Within [.outbox] w w' → Short w → Short w' := by
        intro w w' within h
        have state := (within.same .phase (by simp)).1
        have task : w'.mem.frozenTask = w.mem.frozenTask := within.same .task (by simp)
        exact ⟨h.toStoredShort.within within (by simp), state ▸ h.memory,
          by rw [state, task]; exact h.frozen⟩
      refine wp_call_conservative quiet (fun w h => h.toStoredShort)
        (fun r w' h => { h with trace := ⟨⟨by simp [Event.part, Call.part], by simp⟩, h.trace⟩ })
        (fun met => ?_) fun guards w₁ answer => ?_
      · have h := asked met.2
        exact { h with trace := ⟨⟨by simp [Event.part, Call.part], by simp⟩, h.trace⟩ }
      · split
        next => exact fun met => (answer met).1
        -- a state after the window is not reached
        next passed =>
          refine wp_otherwise proceeds_requestPermit.touches fun met => ?_
          rw [(answer met).2] at passed
          exact passed rfl

theorem Short.within (h : Short w) (within : Within l w w')
    (sub : ∀ p ∈ l, p ∈ [Part.run, .moved, .inventory, .consent, .outbox, .control,
      .policy]) : Short w' := by
  have state := (within.same .phase fun member => by simpa using sub _ member).1
  have task : w'.mem.frozenTask = w.mem.frozenTask :=
    within.same .task fun member => by simpa using sub _ member
  refine ⟨h.toStoredShort.within within fun p member => ?_, state ▸ h.memory, ?_⟩
  · have listed := sub p member
    simp only [List.mem_cons, List.not_mem_nil, or_false] at listed ⊢
    tauto
  · rw [state, task]
    exact h.frozen

/-- One step keeps the invariant, with the later phases out of reach. -/
theorem short_step (h : Assuming OnProductionPorts Short w) :
    wp step (fun _ => Assuming OnProductionPorts Short) (Assuming OnProductionPorts StoredShort)
      e w := by
  have plainly : ∀ {m : Orch StepOutcome} {l : List Part}
      {states : VehicleTaskState → Prop} {actions : List String},
      Proceeds e l states actions m → (∀ p ∈ l, p ∈ [Part.task, .inventory, .consent]) →
      (∀ s, states s → Plain s) → Plain w.mem.vtState →
      wp m (fun _ => Assuming OnProductionPorts Short) (Assuming OnProductionPorts StoredShort)
        e w := fun proceeds sub plain state =>
    h.wp proceeds.touches fun short => wp_mono
      (plain_proceeds proceeds sub plain ⟨short.toStoredShort, state⟩)
      (fun _ _ h => h.short) fun _ h => h
  -- no task gets into the states in which a permit has been granted
  have unreached : ∀ {m : Orch StepOutcome} {w' : World} {l : List Part},
      Touches e l m → (Always OnProductionPorts w'.trace → Always OnProductionPorts w.trace) →
      ¬Early w.mem.vtState → wp m (fun _ => Assuming OnProductionPorts Short)
        (Assuming OnProductionPorts StoredShort) e w' := fun touches past late =>
    wp_otherwise touches fun met => late (h (past met)).memory
  refine wp_step (fun _ => h) (fun state => ?_) (fun state => ?_) (fun state => ?_)
    (fun _ => short_doPermit h) (fun state => ?_) (fun state => ?_) fun state => ?_
  · refine plainly proceeds_doCheckTask (by simp) ?_
      (by rcases state with s | s <;> rw [s] <;> trivial)
    intro s member
    simp only [List.mem_cons, List.not_mem_nil, or_false] at member
    rcases member with rfl | rfl | rfl <;> trivial
  · refine plainly proceeds_doConsent (by simp) ?_ (by rw [state]; trivial)
    intro s member
    simp only [List.mem_cons, List.not_mem_nil, or_false] at member
    rcases member with rfl | rfl <;> trivial
  · exact short_doDownload fun met =>
      ⟨(h met).toStoredShort, by rcases state with s | s <;> rw [s] <;> trivial⟩
  · exact unreached proceeds_doExecute.touches (fun met => met) (by simp [state, Early])
  · exact unreached proceeds_doPermit.touches (fun met => met.2) (by simp [state, Early])
  · exact unreached proceeds_doExecute.touches (fun met => met.2.2) (by simp [state, Early])

/-- A restart takes the invariant from the store to the memory. -/
theorem short_restart (h : StoredShort w) : Short (restart w) := by
  have noted : StoredShort (restart w) :=
    { h with trace := ⟨⟨by simp [Event.part], by simp⟩, h.trace⟩ }
  cases lacks : lacksSnapshot w.store with
  | true =>
    have mem : (restart w).mem = _ := loadFromStore_without_snapshot lacks
    exact ⟨noted, by rw [mem]; trivial, by rw [mem]; rintro (_ | _) <;> contradiction⟩
  | false =>
    have mem : (restart w).mem = _ := loadFromStore_with_snapshot lacks
    exact ⟨noted, by rw [mem]; exact h.state, by rw [mem]; exact h.task⟩

theorem short_run (ops : List Operation) (h : Assuming OnProductionPorts Short w) :
    Assuming OnProductionPorts Short (run e w ops) := by
  refine run_keeps (Assuming OnProductionPorts Short) (Assuming OnProductionPorts StoredShort)
    (fun op w h => ?_) (fun w w' within h => ?_) (fun w h => short_step fun met => ?_)
    (fun w h met => (h met).toStoredShort) (fun w h met => ?_) (fun w h met => ?_) ops h
  · exact fun met => (h met.2).within (.note_run _ rfl) (by simp)
  · exact within.assuming h fun short => short.within within (by simp)
  · exact (h met.2).within (.note_run _ rfl) (by simp)
  · exact short_restart ((h met.2.2).within (.note_run .crashed rfl) (by simp))
  · exact short_restart (h met.2).toStoredShort

end Short

/-- Over every run of the production build from an empty store: a task gets at most to its window,
and only if there is nothing to download; nothing is prepared, asked for, recorded or reported of
an installation. -/
theorem conservative_ports_stop_short (env : Environment) (ops : List Operation)
    (ports : Always OnProductionPorts (run env (boot {}) ops).trace) :
    Short (run env (boot {}) ops) := by
  refine short_run ops (fun _ => short_restart ?_) ports
  exact ⟨trivial, by rintro (_ | _) <;> contradiction, by simp [FotaCloudStateStore.loadDownload],
    trivial⟩

/-- The cloud takes the missing consent for one; the package of the task is never verified. -/
theorem conservative_ports_stop_short_downloading :
    let w := run production (boot {}) [.step, .step, .step, .restart, .step, .applyControl {}]
    w.mem.vtState = .downloading ∧ Short w := by
  refine ⟨?_, @conservative_ports_stop_short _ _ ?_⟩
  · decide +kernel
  · decide +kernel

end CgwFota
