import CgwFota.Orchestrator.Advance

/-!
# Consent

A task that requires consent reaches the states after it only through an accepted response. The
cloud may move a task anywhere at its end, but a task at its end has been through all of them.

## Main definitions

* `isPastConsent`: the states from which downloads and installations are requested and started.
* `Consented`: the consent the task requires was received and is stored.
* `ConsentGated`: nothing is requested or started for a task without it.
* `ConsentKept`, `ConsentHeld`, `ConsentSettled`: the invariant at a crash, within a phase past
  consent, and between operations.

## Main result

* `consent_gates`: over every run the downloads and installations of a task come after its consent.

## Proof strategy

What is durable and what is in memory are past consent only with the consent, each by itself, as a
restart puts the one in place of the other. A phase before consent may move on only by storing the
response; a phase past it proceeds under the consent it began with.
-/
namespace CgwFota

open Crash

/-- The states from which downloads and installations are requested and started. -/
def isPastConsent : VehicleTaskState → Bool
  | .downloadPending | .downloading | .ready | .waitingWindow | .permitPending | .executing
  | .retryPending | .rollbackPending => true
  | .none | .discovered | .consentPending | .paused | .completed | .ended => false

/-- The reply to a consent report for the task, with the consent in effect. -/
def Event.isConsentTo (vehicleTaskId : String) : Event → Bool
  | .returned (.reportConsent _ ctx) (.ok resp) =>
    ctx.vehicleTaskId = vehicleTaskId && resp.effectiveConsentStatus = .accepted
  | _ => false

/-- The consent the task requires was received and is stored. -/
def Consented (task : VehicleTaskSnapshot) (t : List Entry) (s : FotaCloudStateStore) : Prop :=
  task.consentRequired →
    (∃ a ∈ t, a.event.isConsentTo task.vehicleTaskId) ∧
    ∃ r ∈ s.consent, r.effectiveStatus = "CONSENT_STATUS_ACCEPTED" ∧
      r.vehicleTaskId = task.vehicleTaskId

/-- A download or an installation is requested or started only for a task that is consented to. -/
def ConsentGated (a : Entry) (past : List Entry) : Prop :=
  match a.event with
  | .called (.requestDownload _ _) | .called (.requestInstall _ _) | .called (.start _) =>
    Consented a.mem.frozenTask past a.store
  | _ => True

instance (task : VehicleTaskSnapshot) (t : List Entry) (s : FotaCloudStateStore) :
    Decidable (Consented task t s) :=
  inferInstanceAs (Decidable (_ → _ ∧ ∃ r ∈ s.consent, _))

instance (a : Entry) (past : List Entry) : Decidable (ConsentGated a past) := by
  obtain ⟨_ | c | _, _, _, _⟩ := a
  all_goals unfold ConsentGated; try infer_instance
  rcases c with _ | _ <;> infer_instance

/-- What also holds at a crash: the durable task is past consent only with the consent. -/
structure ConsentKept (w : World) : Prop where
  gated : Always ConsentGated w.trace
  durable : isPastConsent (durableVtState w.store) →
    Consented (durableTask w.store) w.trace w.store

/-- A phase past consent is running. -/
structure ConsentHeld (w : World) : Prop extends ConsentKept w where
  past : isPastConsent w.mem.vtState
  live : Consented w.mem.frozenTask w.trace w.store

/-- The invariant between operations. A new consent may be stored only while nothing durable
depends on the old one, hence `behind`. -/
structure ConsentSettled (w : World) : Prop extends ConsentKept w where
  live : isPastConsent w.mem.vtState → Consented w.mem.frozenTask w.trace w.store
  behind : isPastConsent w.mem.vtState = false → isPastConsent (durableVtState w.store) →
    (durableTask w.store).consentRequired = false

section Consent

variable {e : Environment} {w w' : World} {parts : List Part} {task : VehicleTaskSnapshot}
  {t : List Entry} {s : FotaCloudStateStore}

theorem Consented.of_not_required (free : task.consentRequired = false) : Consented task t s :=
  fun required => by simp [free] at required

theorem Consented.append (h : Consented task t s) (new : List Entry) :
    Consented task (new ++ t) s := by
  intro required
  obtain ⟨⟨a, member, consent⟩, stored⟩ := h required
  exact ⟨⟨a, List.mem_append_right _ member, consent⟩, stored⟩

theorem Consented.within (h : Consented task w.trace w.store) (within : Within parts w w')
    (consent : .consent ∉ parts) : Consented task w'.trace w'.store := by
  obtain ⟨new, trace, -⟩ := within.trace
  have stored : w'.store.consent = w.store.consent := within.same .consent consent
  simpa only [trace, Consented, stored] using h.append new

theorem consentGated_of_part (a : Entry) (past : List Entry) (download : a.event.part ≠ .download)
    (permit : a.event.part ≠ .permit) (install : a.event.part ≠ .install) :
    ConsentGated a past := by
  unfold ConsentGated
  split
  next same => exact absurd (congrArg Event.part same) download
  next same => exact absurd (congrArg Event.part same) permit
  next same => exact absurd (congrArg Event.part same) install
  next => trivial

/-- With the consent for the frozen task nothing is called too early. -/
theorem consentGated_on {a : Entry} (on : a.On parts w) (frozen : .task ∉ parts)
    (consent : .consent ∉ parts) (live : Consented w.mem.frozenTask w.trace w.store)
    (before : List Entry) : ConsentGated a (before ++ w.trace) := by
  have same : a.mem.frozenTask = w.mem.frozenTask := on.2 .task frozen
  have stored : a.store.consent = w.store.consent := on.2 .consent consent
  have held : Consented a.mem.frozenTask (before ++ w.trace) a.store := by
    simpa only [same, Consented, stored] using live.append before
  unfold ConsentGated
  split <;> first | exact held | trivial

/-- Steps that change neither the phase nor the consent keep what a crash leaves. -/
theorem ConsentKept.grow (h : ConsentKept w) (within : Within parts w w')
    (phase : .phase ∉ parts) (consent : .consent ∉ parts) (gated : Always ConsentGated w'.trace) :
    ConsentKept w' where
  gated := gated
  durable := by
    have record := (within.same .phase phase).2
    intro past
    unfold durableVtState durableTask at *
    rw [record] at past ⊢
    exact (h.durable past).within within consent

/-- Actions that request and start nothing. -/
theorem ConsentKept.within (h : ConsentKept w) (within : Within parts w w')
    (phase : .phase ∉ parts) (consent : .consent ∉ parts) (download : .download ∉ parts)
    (permit : .permit ∉ parts) (install : .install ∉ parts) : ConsentKept w' :=
  h.grow within phase consent <| within.always (fun a past member =>
    consentGated_of_part a past (fun same => download (same ▸ member))
      (fun same => permit (same ▸ member)) fun same => install (same ▸ member)) h.gated

/-- Steps of no part in question keep the invariant between operations. -/
theorem ConsentSettled.within (h : ConsentSettled w) (within : Within parts w w')
    (phase : .phase ∉ parts) (frozen : .task ∉ parts) (consent : .consent ∉ parts)
    (download : .download ∉ parts) (permit : .permit ∉ parts) (install : .install ∉ parts) :
    ConsentSettled w' where
  toConsentKept := h.toConsentKept.within within phase consent download permit install
  live := by
    rw [(within.same .phase phase).1, within.same .task frozen]
    exact fun past => (h.live past).within within consent
  behind := by
    obtain ⟨state, record⟩ := within.same .phase phase
    rw [state]
    unfold durableVtState durableTask
    rw [record]
    exact h.behind

theorem ConsentHeld.within (h : ConsentHeld w) (within : Within parts w w')
    (phase : .phase ∉ parts) (frozen : .task ∉ parts) (consent : .consent ∉ parts) :
    ConsentHeld w' where
  toConsentKept := h.toConsentKept.grow within phase consent <|
    within.always_on (fun _ before on _ => consentGated_on on frozen consent h.live before) h.gated
  past := by rw [(within.same .phase phase).1]; exact h.past
  live := by rw [within.same .task frozen]; exact h.live.within within consent

theorem ConsentHeld.settled (h : ConsentHeld w) : ConsentSettled w where
  toConsentKept := h.toConsentKept
  live _ := h.live
  behind behind := by simp [h.past] at behind

theorem ConsentKept.move (h : ConsentKept w) (s : VehicleTaskState) : ConsentKept (w.move s) where
  gated := ⟨trivial, h.gated⟩
  durable past := (h.durable past).append [_]

theorem ConsentHeld.move (h : ConsentHeld w) {s : VehicleTaskState} (past : isPastConsent s) :
    ConsentHeld (w.move s) where
  toConsentKept := h.toConsentKept.move s
  past := past
  live := h.live.append [_]

/-- Persisting the task makes store and memory agree on what they depend on. -/
theorem ConsentKept.persist (h : ConsentKept w)
    (live : isPastConsent w.mem.vtState → Consented w.mem.frozenTask w.trace w.store)
    (action : String) (now : Int) : ConsentSettled (w.persist action now) where
  gated := ⟨trivial, h.gated⟩
  durable := by
    rw [durableVtState_persist, durableTask_persist]
    exact fun past => (live past).append [_]
  live past := (live past).append [_]
  behind behind past := by
    rw [durableVtState_persist] at past
    exact absurd (past.symm.trans behind) (by simp)

theorem ConsentHeld.persist (h : ConsentHeld w) (action : String) (now : Int) :
    ConsentHeld (w.persist action now) where
  toConsentKept := (h.toConsentKept.persist (fun _ => h.live) action now).toConsentKept
  past := h.past
  live := h.live.append [_]

/-- The phases past consent stay there until the final result is accepted. -/
theorem held_proceeds {α : Type} {m : Orch α} {states : VehicleTaskState → Prop}
    {actions : List String} (h : Proceeds e parts states actions m)
    (past : ∀ s, states s → isPastConsent s) (phase : .phase ∉ parts) (frozen : .task ∉ parts)
    (consent : .consent ∉ parts) (holds : ConsentHeld w) :
    wp m (fun _ => ConsentSettled) ConsentKept e w := by
  have keeps : Keeps e ConsentHeld m := h.keeps
    (fun _ _ within holds => holds.within within (by simp [phase]) (by simp [frozen])
      (by simp [consent]))
    (fun _ s allowed holds => holds.move (past s allowed))
    (fun _ action now _ holds => holds.persist action now)
  exact wp_mono (keeps w holds) (fun _ _ held => held.settled) fun _ held => held.toConsentKept

/-! ### The phases -/

/-- A call that neither requests nor starts, with what the caller still knows after it. -/
theorem consent_call {c : Call} {Q : c.Reply → World → Prop}
    (silent : c.part ∉ [Part.download, .permit, .install]) (holds : ConsentSettled w)
    (next : ∀ r w', ConsentSettled w' → w'.mem.vtState = w.mem.vtState →
      w'.mem.frozenTask = w.mem.frozenTask → (∃ a ∈ w'.trace, a.event = .returned c r) → Q r w') :
    wp (call c) Q ConsentKept e w := by
  simp only [List.mem_cons, List.not_mem_nil, or_false, not_or] at silent
  -- an event of another part leaves store and memory alone, and is gated by saying nothing
  have event : ∀ {w : World} (event : Event), ConsentSettled w → event.part = c.part →
      (w.effect event).store = w.store → ConsentSettled (w.effect event) := by
    intro w event holds part store
    have gated : Always ConsentGated (w.effect event).trace :=
      ⟨consentGated_of_part _ _ (part ▸ silent.1) (part ▸ silent.2.1) (part ▸ silent.2.2),
        holds.gated⟩
    refine ⟨⟨gated, ?_⟩, ?_, ?_⟩
    · rw [store]; exact fun past => (holds.durable past).append [_]
    · rw [store]; exact fun past => (holds.live past).append [_]
    · rw [store]; exact holds.behind
  have called := event (.called c) holds rfl rfl
  have pending : ∀ {w'}, Within [.outbox] (w.effect (.called c)) w' → ConsentSettled w' :=
    fun within => called.within within (by simp) (by simp) (by simp) (by simp) (by simp) (by simp)
  refine wp_call (fun w' within => (pending within).toConsentKept) fun w' r within => ?_
  have returned := event (.returned c r) (pending within) rfl rfl
  exact ⟨returned.toConsentKept, next r _ returned (within.same .phase (by simp)).1
    (within.same .task (by simp)) ⟨_, List.mem_cons_self, rfl⟩⟩

/-- A frozen task begins before consent, and with it everything durable. -/
theorem consent_freezeTask (holds : ConsentKept w) :
    wp (freezeTask task) (fun _ => ConsentSettled) ConsentKept e w := by
  -- the state of the frozen task is not past consent
  have free : isPastConsent (if task.consentRequired then .consentPending else .downloadPending) →
      task.consentRequired = false := by
    cases task.consentRequired <;> simp [isPastConsent]
  have settles : ∀ {w : World} {s : VehicleTaskState} (action : String) (now : Int),
      ConsentKept w → (isPastConsent s → w.mem.frozenTask.consentRequired = false) →
      ConsentSettled ((w.move s).advance.persist action now) := fun {_ s} action now kept free =>
    ((kept.move s).within .pause (by simp) (by simp) (by simp) (by simp)
      (by simp)).persist (fun past => .of_not_required (free past)) action now
  have frozen : ConsentKept (w.withMemory fun m => { m with frozenTask := task }) :=
    ⟨holds.gated, holds.durable⟩
  have discovered := settles (s := .discovered) "checkTask" (e.clock w.tick) frozen
    (by simp [isPastConsent])
  have next := fun now => settles "consentRequired" now discovered.toConsentKept free
  unfold freezeTask
  rw [wp_bind, wp_setMemory, wp_bind, wp_setVtState, wp_bind]
  refine wp_persistVehicleTask discovered.toConsentKept ?_
  rw [wp_bind, wp_setVtState, wp_bind]
  exact wp_persistVehicleTask (next _).toConsentKept (next _)

/-- A task check keeps the invariant: at most it freezes another task. -/
theorem consent_doCheckTask (holds : ConsentSettled w) :
    wp doCheckTask (fun _ => ConsentSettled) ConsentKept e w := by
  unfold doCheckTask
  simp only [wp_bind, wp_memory, wp_makeCtx]
  refine consent_call (by simp [Call.part]) holds fun inv w holds _ _ _ => ?_
  refine consent_call (by simp [Call.part]) holds fun reply w holds _ _ _ => ?_
  cases reply with
  | error ex => exact holds
  | ok resp =>
    simp only [wp_ite]
    split
    -- the full inventory is asked for, and the task is left as it is
    next =>
      exact wp_mono ((touches_requireFull [.inventory] _ _ _ (by simp)).keeps
        (fun _ _ within holds => holds.within within (by simp) (by simp) (by simp) (by simp)
          (by simp) (by simp)) w holds) (fun _ _ h => h) fun _ h => h.toConsentKept
    next =>
      cases resp.task with
      | none => exact holds
      | some task => exact consent_freezeTask holds.toConsentKept

/-- Storing the response and moving on is one step for the invariant. -/
theorem consent_answered {resp : ConsentResponse} (now : Int) (holds : ConsentSettled w)
    (behind : isPastConsent w.mem.vtState = false)
    (answered : ∃ a ∈ w.trace, resp.effectiveConsentStatus = .accepted →
      a.event.isConsentTo w.mem.frozenTask.vehicleTaskId) :
    let stored := w.effect (.saved (.consent (consentRecord w.mem.frozenTask resp now)))
    ConsentKept stored ∧ (resp.effectiveConsentStatus = .accepted →
      Consented w.mem.frozenTask stored.trace stored.store) := by
  refine ⟨⟨⟨trivial, holds.gated⟩, fun past => ?_⟩, fun accepted _ => ?_⟩
  · exact .of_not_required (holds.behind behind past)
  · obtain ⟨a, member, consent⟩ := answered
    refine ⟨⟨a, List.mem_cons_of_mem _ member, consent accepted⟩, _, rfl, ?_, rfl⟩
    simp [consentRecord, accepted, consentStatusName]

/-- A consent phase keeps the invariant: it moves on only with the response stored. -/
theorem consent_doConsent (holds : ConsentSettled w)
    (behind : isPastConsent w.mem.vtState = false) :
    wp doConsent (fun _ => ConsentSettled) ConsentKept e w := by
  unfold doConsent
  simp only [wp_bind, wp_memory, wp_nowMs, wp_makeCtx]
  refine consent_call (by simp [Call.part]) holds fun choice w' holds state frozen _ => ?_
  have waiting := holds.within .pause (by simp) (by simp) (by simp) (by simp)
    (by simp) (by simp)
  refine consent_call (by simp [Call.part]) waiting
    fun reply w'' holds state' frozen' answered => ?_
  cases reply with
  | error ex => exact holds
  | ok resp =>
    -- the reply is the answer to this very task
    have consented : ∃ a ∈ w''.advance.trace, resp.effectiveConsentStatus = .accepted →
        a.event.isConsentTo w''.advance.mem.frozenTask.vehicleTaskId := by
      obtain ⟨a, member, event⟩ := answered
      refine ⟨a, member, fun accepted => ?_⟩
      simp [event, Event.isConsentTo, accepted, frozen']
    have behind : isPastConsent w''.advance.mem.vtState = false := by
      simpa [state', state] using behind
    have waiting := holds.within .pause (by simp) (by simp) (by simp) (by simp)
      (by simp) (by simp)
    have same : w.mem.frozenTask = w''.advance.mem.frozenTask := by simp [frozen', frozen]
    simp only [wp_bind, wp_nowMs, wp_setVtState, wp_memory, wp_pure]
    rw [same]
    obtain ⟨stored, live⟩ := consent_answered (e.clock w''.tick) waiting behind consented
    refine wp_save stored ?_
    have settled := fun now => (((stored.move
      (if resp.effectiveConsentStatus = .accepted then .downloadPending else .ended)).within .pause
        (by simp) (by simp) (by simp) (by simp) (by simp)).persist
      (fun past => (live (by_contra fun refused => by simp [refused, isPastConsent] at past)).append
        [_]) "consent" now)
    exact wp_persistVehicleTask (settled _).toConsentKept (settled _)

/-- The final result may move a task anywhere, but the task that ends has its consent. -/
theorem consent_closeExecution {report : FinalResultReport} {resp : FinalResultResponse}
    (holds : ConsentHeld w) :
    wp (closeExecution report resp) (fun _ => ConsentSettled) ConsentKept e w := by
  unfold closeExecution
  simp only [wp_bind, wp_memory, wp_pure]
  refine wp_mono (touches_doLogUpload.keeps
    (fun _ _ within holds => ConsentHeld.within holds within (by simp) (by simp) (by simp)) w holds)
    (fun _ w holds => ?_) fun _ held => held.toConsentKept
  have holds := holds.within (touches_setExState (e := e) [.moved, .execution]
    (closedExecutionState report resp) (by simp) (by simp) w) (by simp) (by simp) (by simp)
  -- the state the cloud names is adopted, with the consent that was there
  have adopted : ∀ w, ConsentKept w → Consented w.mem.frozenTask w.trace w.store →
      wp (persistVehicleTask "finalResult") (fun _ w => wp persistExecution
        (fun _ => ConsentSettled) ConsentKept e w) ConsentKept e w := by
    intro w kept live
    have settled := fun now => (kept.within .pause (by simp) (by simp) (by simp)
      (by simp) (by simp)).persist (fun _ => live) "finalResult" now
    refine wp_persistVehicleTask (settled _).toConsentKept ?_
    exact wp_mono ((touches_persistExecution [.execution, .outbox] (by simp)
      (by simp)).keeps (fun _ _ within holds => holds.within within (by simp) (by simp) (by simp)
        (by simp) (by simp) (by simp)) _ (settled _)) (fun _ _ h => h) fun _ h => h.toConsentKept
  rw [wp_setExState]
  refine wp_adoptStatus (fun _ => ?_) fun _ => ?_
  · exact adopted _ (holds.toConsentKept.move _) (holds.live.append [_])
  · exact adopted _ ((holds.toConsentKept.move _).move _) (holds.live.append [_, _])

theorem consent_doExecute (holds : ConsentHeld w) :
    wp doExecute (fun _ => ConsentSettled) ConsentKept e w := by
  refine wp_doExecute (I := ConsentHeld) (fun _ _ within holds =>
    holds.within within (by simp) (by simp) (by simp)) (fun _ h => h.toConsentKept)
    (fun _ _ h => h.settled) (fun w holds => ?_) holds
  exact wp_doFinalize (I := ConsentHeld) (fun _ _ within holds =>
    holds.within within (by simp) (by simp) (by simp)) (fun _ h => h.toConsentKept)
    (fun _ _ h => h.settled) (fun _ _ _ holds => consent_closeExecution holds) holds

/-- One step keeps the invariant, whatever the phase. -/
theorem consent_step (holds : ConsentSettled w) :
    wp step (fun _ => ConsentSettled) ConsentKept e w := by
  have held : ∀ {s}, w.mem.vtState = s → isPastConsent s → ConsentHeld w := by
    rintro s rfl past
    exact { holds with past, live := holds.live past }
  refine wp_step (fun _ => holds) (fun _ => consent_doCheckTask holds)
    (fun state => consent_doConsent holds (by simp [state, isPastConsent]))
    (fun state => ?_) (fun state => ?_) (fun state => consent_doExecute (held state rfl))
    (fun state => ?_) fun state => ?_
  -- each phase past consent holds what it needs
  · refine held_proceeds proceeds_doDownload (by simp [isPastConsent]) (by simp) (by simp)
      (by simp) ?_
    rcases state with state | state <;> exact held state rfl
  · refine held_proceeds proceeds_doPermit (by simp [isPastConsent]) (by simp) (by simp)
      (by simp) ?_
    rcases state with state | state | state <;> exact held state rfl
  · exact held_proceeds proceeds_doPermit (by simp [isPastConsent]) (by simp) (by simp)
      (by simp) ((held state rfl).move rfl)
  · refine consent_doExecute (ConsentHeld.move (ConsentHeld.within (held state rfl)
      (touches_setExState (e := e) [.moved, .execution] .rollback (by simp) (by simp) w)
      (by simp) (by simp) (by simp)) rfl)

/-- A restart takes over what is durable, or nothing at all. -/
theorem consent_restart (holds : ConsentKept w) : ConsentSettled (restart w) := by
  have kept : ConsentKept (restart w) :=
    ⟨⟨trivial, holds.gated⟩, fun past => (holds.durable past).append [_]⟩
  cases lacks : lacksSnapshot w.store with
  -- without a snapshot the memory is that of a new vehicle, and nothing in it is past consent
  | true =>
    have mem : (restart w).mem = {} := loadFromStore_without_snapshot lacks
    have task : durableTask (restart w).store = {} := durableTask_without_snapshot lacks
    refine { kept with live := fun _ => ?_, behind := fun _ _ => by rw [task] }
    exact .of_not_required (by rw [mem])
  -- with one, the state and the task are the durable ones
  | false =>
    have mem := loadFromStore_with_snapshot lacks
    have state : (restart w).mem.vtState = durableVtState (restart w).store := by
      rw [restart_mem, mem]; rfl
    have task : (restart w).mem.frozenTask = durableTask (restart w).store := by
      rw [restart_mem, mem]; rfl
    refine { kept with live := ?_, behind := fun behind past => ?_ }
    · rw [state, task]; exact kept.durable
    · exact absurd (past.symm.trans (state ▸ behind)) (by simp)

end Consent

/-- Over every run from an empty or a migrated store, with crashes anywhere, downloads and
installations of a task that requires consent come after the consent, which is still stored. -/
theorem consent_gates (env : Environment) (s : FotaCloudStateStore) (first : FirstStore s)
    (ops : List Operation) : Always ConsentGated (run env (boot s) ops).trace := by
  have noted : ∀ w event, event.part = .run → ConsentSettled w → ConsentSettled (w.note event) :=
    fun w event part holds => holds.within (.note_run event part)
      (by simp) (by simp) (by simp) (by simp) (by simp) (by simp)
  have start : ConsentKept { store := s } :=
    ⟨trivial, fun _ => .of_not_required (by rw [first.durableTask])⟩
  exact (run_keeps ConsentSettled ConsentKept (fun op w => noted w (.began op) rfl)
    (fun w w' within holds => holds.within within (by simp) (by simp) (by simp) (by simp)
      (by simp) (by simp))
    (fun w holds => consent_step (noted w _ rfl holds)) (fun _ h => h.toConsentKept)
    (fun w holds => consent_restart
      (holds.within (.note_run .crashed rfl) (by simp) (by simp) (by simp) (by simp) (by simp)))
    (fun w holds => consent_restart holds.toConsentKept) ops (consent_restart start)).gated

/-- The migrated state is past consent, and yet nothing is requested for it. -/
theorem consent_gates_after_migration :
    let s := migrateOtaToFota { vehicleTask := some { vehicleTaskState := "EXECUTING" } } {}
    FirstStore s ∧ Always ConsentGated (run cooperative (boot s) (List.replicate 7 .step)).trace :=
  ⟨.migrated _, @consent_gates _ _ (.migrated _) _⟩

end CgwFota
