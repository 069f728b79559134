import CgwFota.Properties.Restart

/-!
# A task comes to its end

The states are ranked by the number of steps that are left. A step that is neither cut short nor
hindered takes the task at least one rank down, and nothing takes it up again. A crash or a reply
that does not help costs at most the step it falls into.

## Main definitions

* `stepsLeft`: the rank of a state.
* `Helps`: a reply with which the task goes on.
* `Bears`: a reply that does not throw the task back.
* `crashes`, `hindrances`: how often a run was cut short or hindered.
* `budget`: how many steps may still be needed.

## Main result

* `hindered_task_finishes`: six steps, and one more for each crash and each hindrance, finish the
  task.

## Proof strategy

For every phase there is a lemma that says what it comes to if only help came, and one that the
stored rank does not rise in any case, not even when the process is lost. Both together give the
step; over a run the rank stays within the budget, which is used up in the end.
-/
namespace CgwFota

open Crash

/-- How many steps of a task are left at most. No step leaves the paused state, so a paused task
is out of reach. -/
def stepsLeft : VehicleTaskState → Nat
  | .none | .discovered => 6
  | .consentPending => 5
  | .downloadPending | .downloading => 4
  | .ready => 3
  | .waitingWindow | .permitPending | .retryPending => 2
  | .executing | .rollbackPending => 1
  | .completed | .ended => 0
  | .paused => 7

/-- The state that the task takes over from the cloud with its final result. -/
def adopted (status : VehicleTaskStatus) : VehicleTaskState :=
  match fromProtoVehicleTask status with
  | .none => .completed
  | state => state

section Help

variable (opens closes : Int)

/-- The task has an id and a window around the given one. -/
def Suits (task : VehicleTaskSnapshot) : Prop :=
  task.vehicleTaskId ≠ "" ∧ task.startTimeMs ≤ opens ∧ closes ≤ task.endTimeMs

instance (task : VehicleTaskSnapshot) : Decidable (Suits opens closes task) := by
  unfold Suits
  infer_instance

/-- A reply with which the task goes on. Consent may be refused, which ends the task; the log, the
controls and the policy do not matter. -/
def Helps : (c : Call) → c.Reply → Prop
  | .checkTask _ _, .ok resp => resp.inventoryDisposition = .accepted ∧ resp.task.isSome
  | .checkTask _ _, .error _ => False
  | .reportConsent _ _, .error _ => False
  | .requestDownload _ _, .error _ => False
  | .downloadAndVerify _ _ _, outcome => outcome.allStagesSucceeded
  | .reportStageResult _ _, .ok resp => resp.accepted
  | .reportStageResult _ _, .error _ => False
  | .allGuardsPassed, passed => passed
  | .requestInstall _ _, .ok resp => resp.allowed
  | .requestInstall _ _, .error _ => False
  | .prepare _, prep => prep.ready
  | .start _, st => st.started
  | .reportEvent _ _, .ok resp => resp.eventDisposition = .accepted
  | .reportEvent _ _, .error _ => False
  | .reportFinalResult _ _, .ok resp =>
    resp.resultAccepted ∧ stepsLeft (adopted resp.vehicleTaskStatus) = 0
  | .reportFinalResult _ _, .error _ => False
  | _, _ => True

instance (c : Call) (r : c.Reply) : Decidable (Helps c r) := by
  match c, r with
  | .checkTask .., .ok _ | .checkTask .., .error _ | .reportConsent .., .ok _
  | .reportConsent .., .error _ | .requestDownload .., .ok _ | .requestDownload .., .error _
  | .reportStageResult .., .ok _ | .reportStageResult .., .error _ | .requestInstall .., .ok _
  | .requestInstall .., .error _ | .reportEvent .., .ok _ | .reportEvent .., .error _
  | .reportFinalResult .., .ok _ | .reportFinalResult .., .error _ | .collectInventory _, _
  | .requestConsent .., _ | .downloadAndVerify .., _ | .allGuardsPassed, _
  | .evaluateConditions, _ | .prepare _, _ | .start _, _ | .apply _, _ | .readFinalResult, _
  | .acknowledgeControl .., _ | .requestLogUpload .., _ | .collectLog _, _
  | .reportLogUpload .., _ | .syncPolicy .., _ => dsimp only [Helps]; infer_instance

/-- A reply that does not throw the task back: a task that is offered has an id and an open window,
and the cloud does not send a task that was executed to an earlier state. -/
def Bears : (c : Call) → c.Reply → Prop
  | .checkTask _ _, .ok resp =>
    resp.inventoryDisposition = .accepted → ∀ task ∈ resp.task, Suits opens closes task
  | .reportFinalResult _ _, .ok resp =>
    resp.resultAccepted → stepsLeft (adopted resp.vehicleTaskStatus) ≤ 1
  | _, _ => True

instance (c : Call) (r : c.Reply) : Decidable (Bears opens closes c r) := by
  match c, r with
  | .checkTask .., .ok _ | .checkTask .., .error _ | .reportConsent .., .ok _
  | .reportConsent .., .error _ | .requestDownload .., .ok _ | .requestDownload .., .error _
  | .reportStageResult .., .ok _ | .reportStageResult .., .error _ | .requestInstall .., .ok _
  | .requestInstall .., .error _ | .reportEvent .., .ok _ | .reportEvent .., .error _
  | .reportFinalResult .., .ok _ | .reportFinalResult .., .error _ | .collectInventory _, _
  | .requestConsent .., _ | .downloadAndVerify .., _ | .allGuardsPassed, _
  | .evaluateConditions, _ | .prepare _, _ | .start _, _ | .apply _, _ | .readFinalResult, _
  | .acknowledgeControl .., _ | .requestLogUpload .., _ | .collectLog _, _
  | .reportLogUpload .., _ | .syncPolicy .., _ => dsimp only [Bears]; infer_instance

/-- Every reply so far. -/
def Bearable (a : Entry) (_past : List Entry) : Prop :=
  match a.event with
  | .returned c r => Bears opens closes c r
  | _ => True

instance (a : Entry) (past : List Entry) : Decidable (Bearable opens closes a past) := by
  obtain ⟨_ | _ | _ | _, _, _, _⟩ := a
  all_goals unfold Bearable; infer_instance

end Help

/-- The reply does not help. -/
def Event.hinders : Event → Bool
  | .returned c r => ¬Helps c r
  | _ => false

/-- From this length of the trace on only help came. -/
def HelpedSince (since : Nat) (a : Entry) (past : List Entry) : Prop :=
  since ≤ past.length → a.event.hinders = false

section Bounds

variable (opens closes : Int)

/-- The stored task has at most `n` steps left. -/
structure Kept (n : Nat) (s : FotaCloudStateStore) : Prop where
  state : stepsLeft (durableVtState s) ≤ n
  suits : ∀ r ∈ s.vehicleTask, Suits opens closes r.taskSnapshotPbHex.message

/-- While a phase is running, memory and store may differ. -/
structure Bounded (n : Nat) (w : World) : Prop where
  kept : Kept opens closes n w.store
  state : stepsLeft w.mem.vtState ≤ n
  suits : Suits opens closes w.mem.frozenTask

/-- What is left at a crash. -/
abbrev Survives (n : Nat) (w : World) : Prop :=
  Assuming (Bearable opens closes) (fun w => Kept opens closes n w.store) w

end Bounds

/-- A phase has ended in a state with at most `k` steps left, and has persisted it. -/
def Settled (k : Nat) (w : World) : Prop :=
  stepsLeft w.mem.vtState ≤ k ∧ durableVtState w.store = w.mem.vtState

/-- What a phase comes to if only help came. -/
abbrev Helped (since k : Nat) (w : World) : Prop := Assuming (HelpedSince since) (Settled k) w

section Progress

variable {e : Environment} {opens closes : Int} {n k since : Nat} {w w' : World} {l : List Part}

theorem Kept.of_eq {s s' : FotaCloudStateStore} (h : Kept opens closes n s)
    (same : s'.vehicleTask = s.vehicleTask) : Kept opens closes n s' := by
  refine ⟨?_, same ▸ h.suits⟩
  have state := h.state
  unfold durableVtState at state ⊢
  rw [same]
  exact state

theorem Bounded.within (h : Bounded opens closes n w) (within : Within l w w')
    (phase : .phase ∉ l) (task : .task ∉ l) : Bounded opens closes n w' := by
  obtain ⟨state, record⟩ := within.same .phase phase
  have frozen : w'.mem.frozenTask = w.mem.frozenTask := within.same .task task
  exact ⟨h.kept.of_eq record, state ▸ h.state, frozen ▸ h.suits⟩

theorem Bounded.persist (h : Bounded opens closes n w) (action : String) (now : Int) :
    Bounded opens closes n (w.persist action now) := by
  refine ⟨⟨?_, ?_⟩, h.state, h.suits⟩
  · rw [durableVtState_persist]
    exact h.state
  · rintro r ⟨⟩
    exact h.suits

theorem HelpedSince.helps {c : Call} {r : c.Reply} {m : Memory} {s : FotaCloudStateStore}
    {tick : Nat} {past : List Entry} (met : HelpedSince since ⟨.returned c r, m, s, tick⟩ past)
    (late : since ≤ past.length) : Helps c r := by
  simpa [HelpedSince, Event.hinders] using met late

theorem Within.late (within : Within l w w') (late : since ≤ w.trace.length) :
    since ≤ w'.trace.length := by
  obtain ⟨new, same, -⟩ := within.trace
  rw [same, List.length_append]
  omega

theorem wp_asked {c : Call} {Q : c.Reply → World → Prop} (late : since ≤ w.trace.length)
    (next : ∀ r (w' : World), Within [.outbox] (w.effect (.called c)) w' →
      since ≤ w'.trace.length → Q r (w'.effect (.returned c r))) :
    wp (call c) Q (fun _ => True) e w := by
  refine wp_call (fun _ _ => trivial) fun w' r within => ⟨trivial, next r w' within ?_⟩
  apply within.late
  simp only [World.effect_trace, List.length_cons]
  omega

/-- Phases after the check of the task do not replace it, and go to states further down. -/
theorem bounded_proceeds {α : Type} {m : Orch α} {states : VehicleTaskState → Prop}
    {actions : List String} (proceeds : Proceeds e l states actions m)
    (phase : .phase ∉ l) (task : .task ∉ l) (bound : ∀ s, states s → stepsLeft s ≤ n)
    (h : Bounded opens closes n w) :
    wp m (fun _ => Bounded opens closes n) (fun w => Kept opens closes n w.store) e w := by
  refine proceeds.wp (I := Bounded opens closes n)
    (fun w w' within h => h.within within phase task) (fun evt w h => ?_)
    (fun w s allowed h => ⟨h.kept, bound s allowed, h.suits⟩)
    (fun w action now _ h => h.persist action now) (fun w h => h.kept) h
  exact wp_mono ((touches_emit [.outbox] evt (by simp)).keeps
    (fun w w' within h => Bounded.within h within (by simp) (by simp)) w h)
    (fun _ _ h => h) fun _ h => h.kept

/-- What follows a reply that does not help need not be looked at. -/
theorem wp_helped {cond : Entry → List Entry → Prop} {α : Type} {m : Orch α}
    {body : α → World → Prop} (touches : Touches e l m)
    (step : Always cond w.trace → wp m (fun a => Assuming cond (body a)) (fun _ => True) e w) :
    wp m (fun a => Assuming cond (body a)) (fun _ => True) e w :=
  wp_mono (Assuming.wp_of (P := fun w => Always cond w.trace) (D := fun _ => True) (fun met => met)
    touches fun met => wp_mono (step met) (fun _ _ h => h) fun _ _ _ => trivial)
    (fun _ _ h => h) fun _ _ => trivial

/-! ### Consent and download -/

/-- Consent leads to the download or ends the task. -/
theorem settled_doConsent (late : since ≤ w.trace.length) :
    wp doConsent (fun _ => Helped since 4) (fun _ => True) e w := by
  unfold doConsent
  simp only [wp_bind, wp_memory, wp_nowMs, wp_makeCtx]
  refine wp_asked late fun choice w₁ _ late => ?_
  refine wp_asked (Nat.le_succ_of_le late) fun reply w₂ _ late => ?_
  cases reply with
  -- no answer does not help
  | error ex => exact fun met => (met.1.helps late).elim
  | ok resp =>
    simp only [wp_bind, wp_nowMs, wp_setVtState, wp_memory, wp_pure]
    refine wp_save trivial (wp_persistVehicleTask trivial fun _ => ⟨?_, durableVtState_persist ..⟩)
    -- refused consent ends the task
    show stepsLeft
      (if resp.effectiveConsentStatus = .accepted then .downloadPending else .ended) ≤ 4
    split <;> simp [stepsLeft]

/-- A package that was helped does not clear `allReady`. -/
abbrev Cleared (since : Nat) (r : PackageResult) (w : World) : Prop :=
  Assuming (HelpedSince since) (fun _ => ∃ error, r = .next false error) w

theorem helped_concludeDownload (since : Nat) (entry : FotaDownloadRecord)
    (outcome : DownloadOutcome) (all : outcome.allStagesSucceeded) :
    wp (concludeDownload entry false outcome) (Cleared since) (fun _ => True) e w := by
  unfold concludeDownload
  simp only [wp_bind, wp_pure, all, if_true]
  exact wp_save trivial fun _ => ⟨none, rfl⟩

/-- With help all stages succeed and the report is accepted. -/
theorem helped_verifyPackage (pkg : PackageSummary) (entry : FotaDownloadRecord)
    (grant : DownloadGrantResponse) (late : since ≤ w.trace.length) :
    wp (verifyPackage pkg entry grant) (Cleared since) (fun _ => True) e w := by
  unfold verifyPackage
  rw [wp_bind]
  refine wp_asked late fun outcome w₁ _ early => ?_
  simp only [wp_ite, wp_bind, wp_nowMs, wp_makeCtx]
  split
  -- the report was answered, or it was not
  next =>
    refine wp_asked (Nat.le_succ_of_le early) fun reply w₂ within late => ?_
    cases reply with
    | error ex =>
      exact wp_helped (proceeds_abandonDownload _ ex).touches fun met => (met.1.helps late).elim
    | ok resp =>
      refine wp_helped (Follows.ite (fun _ => (proceeds_concludeDownload _ _ _).touches)
        fun _ => (proceeds_concludeDownload _ _ _).touches) fun met => ?_
      have accepted : resp.accepted := met.1.helps late
      -- the outcome of the download was seen before the report
      have all : outcome.allStagesSucceeded := (within.past met.2).2.1.helps early
      simp only [accepted, all, Bool.and_self, if_true]
      exact helped_concludeDownload since _ _ all
  -- a stage that failed does not help
  next =>
    exact wp_helped (proceeds_concludeDownload _ _ _).touches fun met =>
      helped_concludeDownload since _ _ (met.1.helps early)

/-- One package: it was ready before, or is loaded and verified. -/
theorem helped_downloadPackage (pkg : PackageSummary) (late : since ≤ w.trace.length) :
    wp (downloadPackage pkg) (Cleared since) (fun _ => True) e w := by
  unfold downloadPackage
  simp only [wp_bind, wp_store, wp_ite, wp_note, wp_pure, wp_memory, wp_makeCtx]
  split
  next => exact fun _ => ⟨none, rfl⟩
  next =>
    refine wp_asked late fun reply w₁ _ late => ?_
    cases reply with
    | error ex =>
      exact wp_helped (proceeds_abandonDownload _ ex).touches fun met => (met.1.helps late).elim
    | ok grant => exact helped_verifyPackage _ _ _ (Nat.le_succ_of_le late)

/-- All packages, by induction on the list. -/
theorem helped_downloadPackages (packages : List PackageSummary) (error : String)
    (late : since ≤ w.trace.length) :
    wp (downloadPackages packages true error)
      (fun r => Assuming (HelpedSince since) fun _ => ∃ error, r = .ok (true, error))
      (fun _ => True) e w := by
  induction packages generalizing error w with
  | nil => exact fun _ => ⟨error, rfl⟩
  | cons pkg rest ih =>
    unfold downloadPackages
    rw [wp_bind]
    refine wp_mono (wp_and ((proceeds_downloadPackage pkg).touches w)
      (helped_downloadPackage pkg late)) (fun r w₁ both => ?_) fun _ _ => trivial
    obtain ⟨within, helped⟩ := both
    refine wp_helped (l := [.outbox, .phase, .moved, .download]) ?_ fun met => ?_
    · cases r with
      | stop ex => exact .pure _
      | next cleared ex => exact (proceeds_downloadPackages rest _ _).touches
    · obtain ⟨error', rfl⟩ := helped met
      exact ih _ (within.late late)

/-- The download leads to the ready task. -/
theorem settled_doDownload (late : since ≤ w.trace.length) :
    wp doDownload (fun _ => Helped since 3) (fun _ => True) e w := by
  unfold doDownload
  simp only [wp_bind, wp_memory]
  refine wp_mono (helped_downloadPackages _ "" late) (fun r w₁ helped => ?_) fun _ h => h
  cases r with
  | error ex =>
    intro met
    obtain ⟨_, never⟩ := helped met
    cases never
  | ok r =>
    simp only [wp_bind, wp_setVtState, wp_memory, wp_pure]
    refine wp_persistVehicleTask trivial fun met => ⟨?_, durableVtState_persist ..⟩
    obtain ⟨_, same⟩ := helped met.2.2
    cases same
    simp [stepsLeft]

/-! ### Install permit -/

/-- The task is executing even where the recheck fails. -/
theorem settled_acceptPermit (resp : InstallPermitResponse) :
    wp (acceptPermit resp) (fun _ => Settled 1) (fun _ => True) e w := by
  have kept : ∀ {w w' : World} {l : List Part}, Within l w w' → .phase ∉ l →
      Settled 1 w → Settled 1 w' := by
    rintro w w' l within phase ⟨state, stored⟩
    obtain ⟨same, record⟩ := within.same .phase phase
    refine ⟨same ▸ state, ?_⟩
    unfold durableVtState at stored ⊢
    rw [record, same]
    exact stored
  unfold acceptPermit
  simp only [wp_bind, wp_setMemory, wp_setExState, wp_setVtState, wp_nowMs, wp_ite, wp_pure,
    wp_memory]
  refine wp_persistVehicleTask trivial ?_
  refine wp_mono (touches_persistExecution [.execution, .outbox] (by simp) (by simp) _)
    (fun _ w₁ within => ?_) fun _ _ => trivial
  have executing : Settled 1 w₁.advance := by
    refine kept (within.trans .advance) (by simp) ⟨?_, durableVtState_persist ..⟩
    simp [stepsLeft]
  split
  next => exact executing
  next =>
    refine wp_call (fun _ _ => trivial) fun w₂ guards within => ⟨trivial, ?_⟩
    have guarded : Within [.permit, .outbox] w₁.advance
        (w₂.effect (.returned .allGuardsPassed guards)) :=
      (Within.effect (.called .allGuardsPassed) (by simp [Event.part, Call.part])).trans
        ((within.mono (by simp)).trans (.effect _ (by simp [Event.part, Call.part])))
    have executing := kept guarded (by simp) executing
    split
    next => exact executing
    next => exact executing

theorem settled_waiting (ready : w.mem.vtState = .ready) :
    wp doPermit (fun _ => Settled 2) (fun _ => True) e w := by
  unfold doPermit
  simp only [wp_bind, wp_memory, ready, if_true, wp_setVtState, wp_pure]
  exact wp_persistVehicleTask trivial ⟨by simp [stepsLeft], durableVtState_persist ..⟩

/-- Within the window a helpful cloud grants the permit. -/
theorem settled_doPermit (clock : ∀ t, opens ≤ e.clock t ∧ e.clock t < closes)
    (suits : Suits opens closes w.mem.frozenTask) (asked : w.mem.vtState ≠ .ready)
    (late : since ≤ w.trace.length) :
    wp doPermit (fun _ => Helped since 1) (fun _ => True) e w := by
  obtain ⟨named, opened, closed⟩ := suits
  -- the clock is within the window of the task
  have window : ¬(e.clock w.tick < w.mem.frozenTask.startTimeMs ∨
      e.clock w.tick ≥ w.mem.frozenTask.endTimeMs) := by
    have now := clock w.tick
    omega
  unfold doPermit requestPermit
  simp only [wp_bind, wp_memory, asked, if_false, wp_nowMs, window]
  refine wp_asked late fun guards w₁ _ late => ?_
  cases guards with
  -- the guards of the vehicle do not help
  | false => exact fun met => absurd (met.1.helps late) Bool.false_ne_true
  | true =>
    simp only [Bool.not_true, Bool.false_eq_true, if_false, wp_bind, wp_memory, wp_store,
      wp_makeCtx]
    refine wp_asked (Nat.le_succ_of_le late) fun ev w₂ _ late => ?_
    refine wp_asked (Nat.le_succ_of_le late) fun reply w₃ _ late => ?_
    cases reply with
    | error ex => exact fun met => (met.1.helps late).elim
    | ok resp =>
      simp only [wp_ite, wp_pure]
      split
      -- a denied permit does not help
      next denied =>
        intro met
        have allowed : resp.allowed := met.1.helps late
        simp [allowed] at denied
      next => exact wp_mono (settled_acceptPermit resp) (fun _ _ settled _ => settled) fun _ h => h

/-! ### Execution and final result -/

theorem Kept.survives (h : Kept opens closes n w.store) : Survives opens closes n w := fun _ => h

/-- What a phase comes to, with a task that had at most `n` steps left. -/
abbrev Comes (opens closes : Int) (since n k : Nat) (w : World) : Prop :=
  Survives opens closes n w ∧ Helped since k w

/-- A call keeps the bound, and what follows is later. -/
theorem bounded_call {c : Call} {Q : c.Reply → World → Prop} (h : Bounded opens closes n w)
    (late : since ≤ w.trace.length)
    (next : ∀ r (w' : World), since ≤ w'.trace.length →
      Bounded opens closes n (w'.effect (.returned c r)) → Q r (w'.effect (.returned c r))) :
    wp (call c) Q (Survives opens closes n) e w := by
  have called : Bounded opens closes n (w.effect (.called c)) := ⟨h.kept, h.state, h.suits⟩
  have later : ∀ {w'}, Within [.outbox] (w.effect (.called c)) w' → Bounded opens closes n w' :=
    fun within => called.within within (by simp) (by simp)
  refine wp_call (fun w' within => (later within).kept.survives) fun w' r within => ?_
  have returned : Bounded opens closes n (w'.effect (.returned c r)) :=
    ⟨(later within).kept, (later within).state, (later within).suits⟩
  have late : since ≤ w'.trace.length := by
    apply within.late
    simp only [World.effect_trace, List.length_cons]
    omega
  exact ⟨returned.kept.survives, next r w' late returned⟩

/-- The error of the loop is that of an event that was not accepted. -/
abbrev Unfailed (since : Nat) (st st' : SendState) (w : World) : Prop :=
  Assuming (HelpedSince since) (fun _ => st'.sendError = st.sendError) w

/-- An event that is sent with help leaves the error as it was. -/
theorem helped_sendEvent (seq : Nat) (st : SendState) (late : since ≤ w.trace.length) :
    wp (sendEvent seq st) (Unfailed since st) (fun _ => True) e w := by
  unfold sendEvent
  simp only [wp_bind, wp_store]
  cases w.store.loadEvent seq with
  | none => exact fun _ => rfl
  | some r =>
    simp only [wp_ite, wp_pure, wp_bind]
    split
    -- acknowledged before
    next => exact fun _ => rfl
    next =>
      split
      -- without a payload
      next => exact wp_save trivial fun _ => rfl
      next =>
        unfold reportStoredEvent
        simp only [wp_bind, wp_makeCtx]
        refine wp_asked late fun reply w₁ _ late => ?_
        cases reply with
        -- no answer does not help
        | error ex =>
          simp only [wp_bind, wp_pure]
          refine wp_save trivial ?_
          intro met
          exact (met.2.1.helps late).elim
        | ok resp =>
          simp only [wp_ite, wp_bind, wp_setMemory, wp_pure]
          split
          next => exact wp_save trivial fun _ => rfl
          -- nor does a refusal
          next refused =>
            refine wp_save trivial ?_
            intro met
            exact absurd (met.2.1.helps late) refused

theorem helped_sendEvents (seqs : List Nat) (st : SendState) (late : since ≤ w.trace.length) :
    wp (sendEvents seqs st) (Unfailed since st) (fun _ => True) e w := by
  induction seqs generalizing st w with
  | nil => exact fun _ => rfl
  | cons seq rest ih =>
    unfold sendEvents
    rw [wp_bind]
    refine wp_mono (wp_and (touches_sendEvent seq st w) (helped_sendEvent seq st late))
      (fun st' w₁ both => ?_) fun _ _ => trivial
    obtain ⟨within, helped⟩ := both
    refine wp_helped (touches_sendEvents rest st') fun met => ?_
    have same := helped met
    exact wp_mono (ih st' (within.late late)) (fun st'' _ helped met => (helped met).trans same)
      fun _ h => h

theorem adopted_of_known {status : VehicleTaskStatus}
    (known : fromProtoVehicleTask status ≠ .none) :
    adopted status = fromProtoVehicleTask status := by
  unfold adopted
  split
  next none => exact absurd none known
  next => rfl

/-- The task is moved and persisted after the logs; the execution follows. -/
theorem settled_closeExecution {report : FinalResultReport} {resp : FinalResultResponse}
    (h : Bounded opens closes n w) (near : stepsLeft (adopted resp.vehicleTaskStatus) ≤ n) :
    wp (closeExecution report resp)
      (fun _ w' => Kept opens closes n w'.store ∧
        Settled (stepsLeft (adopted resp.vehicleTaskStatus)) w')
      (fun w' => Kept opens closes n w'.store) e w := by
  unfold closeExecution
  simp only [wp_bind, wp_setExState, wp_memory, wp_pure]
  refine wp_mono (touches_doLogUpload w) (fun _ w₁ within => ?_) fun w₁ within =>
    (h.within within (by simp) (by simp)).kept
  have logged := h.within within (by simp) (by simp)
  -- From here on the state is the one that was adopted.
  have persisted : ∀ {v : World}, v.store = w₁.store → v.mem.frozenTask = w₁.mem.frozenTask →
      v.mem.vtState = adopted resp.vehicleTaskStatus →
      wp (persistVehicleTask "finalResult")
        (fun _ => wp persistExecution
          (fun _ w' => Kept opens closes n w'.store ∧
            Settled (stepsLeft (adopted resp.vehicleTaskStatus)) w')
          (fun w' => Kept opens closes n w'.store) e)
        (fun w' => Kept opens closes n w'.store) e v := by
    intro v store task state
    have moved : Bounded opens closes n v.advance :=
      ⟨store ▸ logged.kept, state ▸ near, task ▸ logged.suits⟩
    have stored := fun now => moved.persist "finalResult" now
    refine wp_persistVehicleTask (stored _).kept ?_
    refine wp_mono (touches_persistExecution [.execution, .outbox] (by simp) (by simp) _)
      (fun _ w₂ within => ⟨((stored _).within within (by simp) (by simp)).kept, ?_⟩)
      fun w₂ within => ((stored _).within within (by simp) (by simp)).kept
    obtain ⟨same, record⟩ := within.same .phase (by simp)
    refine ⟨by rw [same]; exact Nat.le_of_eq (congrArg stepsLeft state), ?_⟩
    rw [same]
    unfold durableVtState
    rw [record]
    exact durableVtState_persist ..
  refine wp_adoptStatus (fun known => ?_) fun unknown => ?_
  -- the adopted state is a known one
  · exact persisted rfl rfl (adopted_of_known known).symm
  -- or it is the completed one
  · refine persisted rfl rfl ?_
    simp [adopted, unknown]

/-- What a reply bears may be used in what follows. -/
theorem wp_borne {P : Prop} {α : Type} {m : Orch α} (touches : Touches e l m)
    (borne : Always (Bearable opens closes) w.trace → P)
    (step : P → wp m (fun _ w' => Kept opens closes n w'.store)
      (fun w' => Kept opens closes n w'.store) e w) :
    wp m (fun _ => Survives opens closes n) (Survives opens closes n) e w :=
  Assuming.wp_of (P := fun _ => P) borne touches fun holds =>
    wp_mono (step holds) (fun _ _ kept _ => kept) fun _ kept _ => kept

/-- The end of the execution finishes the task if the reply helps. -/
theorem comes_closeExecution {report : FinalResultReport} {resp : FinalResultResponse}
    (h : Bounded opens closes n w) (one : 1 ≤ n)
    (borne : Always (Bearable opens closes) w.trace →
      stepsLeft (adopted resp.vehicleTaskStatus) ≤ 1)
    (done : Always (HelpedSince since) w.trace →
      stepsLeft (adopted resp.vehicleTaskStatus) = 0) :
    wp (closeExecution report resp) (fun _ => Comes opens closes since n 0)
      (Survives opens closes n) e w := by
  have touches := (proceeds_closeExecution (e := e) report resp).touches
  have kept : wp (closeExecution report resp) (fun _ => Survives opens closes n)
      (Survives opens closes n) e w :=
    wp_borne touches borne fun near => wp_mono (settled_closeExecution h (Nat.le_trans near one))
      (fun _ _ both => both.1) fun _ kept => kept
  have helped : wp (closeExecution report resp) (fun _ => Helped since 0) (fun _ => True) e w :=
    wp_helped touches fun met => wp_mono (settled_closeExecution h (done met ▸ Nat.zero_le n))
      (fun _ _ both _ => done met ▸ both.2) fun _ _ => trivial
  exact wp_mono (wp_and kept helped) (fun _ _ both => both) fun _ both => both.1

/-- The final result finishes the task with help. -/
theorem comes_doFinalize (h : Bounded opens closes n w) (one : 1 ≤ n)
    (late : since ≤ w.trace.length) :
    wp doFinalize (fun _ => Comes opens closes since n 0) (Survives opens closes n) e w := by
  unfold doFinalize
  simp only [wp_bind, wp_memory, wp_nowMs, wp_makeCtx]
  refine bounded_call h late fun data w₁ late h₁ => ?_
  have waiting : Bounded opens closes n (w₁.effect (.returned .readFinalResult data)).advance :=
    ⟨h₁.kept, h₁.state, h₁.suits⟩
  refine bounded_call waiting (Nat.le_succ_of_le late) fun reply w₂ late h₂ => ?_
  cases reply with
  | error ex => exact ⟨h₂.kept.survives, fun met => (met.1.helps late).elim⟩
  -- an answer accepts the result, or it does not help
  | ok resp =>
    simp only [wp_ite, wp_pure]
    split
    next refused =>
      refine ⟨h₂.kept.survives, fun met => ?_⟩
      have accepted : resp.resultAccepted := (met.1.helps late).1
      simp [accepted] at refused
    next accepted =>
      have accepted : resp.resultAccepted := by simpa using accepted
      exact comes_closeExecution h₂ one (fun met => met.1 accepted) fun met => (met.1.helps late).2

/-- The send loop, and the final result after it. -/
theorem comes_flushOutbox (h : Bounded opens closes n w) (one : 1 ≤ n)
    (late : since ≤ w.trace.length) :
    wp flushOutbox (fun _ => Comes opens closes since n 0) (Survives opens closes n) e w := by
  unfold flushOutbox
  simp only [wp_bind, wp_store, wp_memory, wp_ite, wp_pure]
  refine wp_mono (wp_and (touches_sendEvents _ _ w) (helped_sendEvents _ _ late))
    (fun st w₁ both => ?_) fun w₁ both => (h.within both.1 (by simp) (by simp)).kept.survives
  obtain ⟨within, helped⟩ := both
  refine wp_mono (touches_raiseAccepted _ _ w₁) (fun _ w₂ raised => ?_) fun w₂ raised =>
    (h.within (within.trans raised) (by simp) (by simp)).kept.survives
  have h₂ := h.within (within.trans raised) (by simp) (by simp)
  refine wp_mono (touches_persistExecution [.execution, .outbox] (by simp) (by simp) w₂)
    (fun _ w₃ stored => ?_) fun w₃ stored => (h₂.within stored (by simp) (by simp)).kept.survives
  have h₃ := h₂.within stored (by simp) (by simp)
  split
  -- an event was not accepted, which does not help
  next failed =>
    refine ⟨h₃.kept.survives, fun met => ?_⟩
    have sent := helped (raised.past (stored.past met))
    rw [failed] at sent
    cases sent
  -- all events were
  next => exact comes_doFinalize h₃ one (stored.late (raised.late (within.late late)))

/-- The execution: preparation, start, and the send loop. -/
theorem comes_doExecute (h : Bounded opens closes n w) (one : 1 ≤ n)
    (late : since ≤ w.trace.length) :
    wp doExecute (fun _ => Comes opens closes since n 0) (Survives opens closes n) e w := by
  unfold doExecute recordStart
  simp only [wp_bind, wp_memory, wp_ite, wp_pure, wp_setExState]
  split
  next =>
    refine bounded_call h late fun prep w₁ late h₁ => ?_
    split
    -- an executor that is not ready does not help
    next unready =>
      refine ⟨h₁.kept.survives, fun met => ?_⟩
      have ready : prep.ready := met.1.helps late
      simp [ready] at unready
    next =>
      refine bounded_call h₁ (Nat.le_succ_of_le late) fun st w₂ late h₂ => ?_
      split
      -- nor does one that refuses to start
      next stopped =>
        refine ⟨h₂.kept.survives, fun met => ?_⟩
        have started : st.started := met.1.helps late
        simp [started] at stopped
      next =>
        have marked := touches_setExState (e := e) [.moved, .execution] .installStarted
          (by simp) (by simp) (w₂.effect (.returned _ st))
        have begun := h₂.within marked (by simp) (by simp)
        exact wp_mono (touches_persistExecution [.execution, .outbox] (by simp) (by simp) _)
          (fun _ w₃ within => comes_flushOutbox (begun.within within (by simp) (by simp)) one
            (within.late (marked.late (Nat.le_succ_of_le late))))
          fun w₃ within => (begun.within within (by simp) (by simp)).kept.survives
  -- it was started before
  next => exact comes_flushOutbox h one late

/-! ### The check of the task -/

theorem settled_freezeTask (task : VehicleTaskSnapshot) :
    wp (freezeTask task) (fun _ => Settled 5) (fun _ => True) e w := by
  unfold freezeTask
  simp only [wp_bind, wp_setMemory, wp_setVtState, wp_memory, wp_pure]
  refine wp_persistVehicleTask trivial
    (wp_persistVehicleTask trivial ⟨?_, durableVtState_persist ..⟩)
  show stepsLeft (if task.consentRequired then .consentPending else .downloadPending) ≤ 5
  split <;> simp [stepsLeft]

/-- Freezing a task that suits keeps the bound. -/
theorem kept_freezeTask {task : VehicleTaskSnapshot} (kept : Kept opens closes n w.store)
    (suits : Suits opens closes task) (far : 6 ≤ n) :
    wp (freezeTask task) (fun _ w' => Kept opens closes n w'.store)
      (fun w' => Kept opens closes n w'.store) e w := by
  unfold freezeTask
  simp only [wp_bind, wp_setMemory, wp_setVtState, wp_memory, wp_pure]
  have found : Bounded opens closes n
      (((w.withMemory fun m => { m with frozenTask := task }).move .discovered).advance) :=
    ⟨kept, far, suits⟩
  have discovered := found.persist "checkTask"
  have near : stepsLeft
      (if task.consentRequired then .consentPending else .downloadPending) ≤ n := by
    split <;> simp only [stepsLeft] <;> omega
  have frozen := fun now => Bounded.persist (n := n)
    (w := (((World.persist (((w.withMemory fun m => { m with frozenTask := task }).move
      .discovered).advance) "checkTask" (e.clock w.tick)).move
        (if task.consentRequired then .consentPending else .downloadPending)).advance))
    ⟨(discovered _).kept, near, suits⟩ "consentRequired" now
  exact wp_persistVehicleTask (discovered _).kept
    (wp_persistVehicleTask (frozen _).kept (frozen _).kept)

/-- The check of the task finds one, with help. -/
theorem comes_doCheckTask (kept : Kept opens closes n w.store) (far : 6 ≤ n)
    (late : since ≤ w.trace.length) :
    wp doCheckTask (fun _ => Comes opens closes since n 5) (Survives opens closes n) e w := by
  have calls : ∀ {w : World} {c : Call} {Q : c.Reply → World → Prop},
      Kept opens closes n w.store → since ≤ w.trace.length →
      (∀ r (w' : World), since ≤ w'.trace.length →
        Kept opens closes n (w'.effect (.returned c r)).store →
        Q r (w'.effect (.returned c r))) → wp (call c) Q (Survives opens closes n) e w := by
    intro w c Q kept late next
    have later : ∀ {w'}, Within [.outbox] (w.effect (.called c)) w' →
        Kept opens closes n w'.store := fun within => kept.of_eq (within.same .phase (by simp)).2
    refine wp_call (fun _ within => (later within).survives) fun w' r within => ?_
    have returned : Kept opens closes n (w'.effect (.returned c r)).store :=
      Kept.of_eq (later within) rfl
    have late : since ≤ w'.trace.length := by
      apply within.late
      simp only [World.effect_trace, List.length_cons]
      omega
    exact ⟨returned.survives, next r w' late returned⟩
  unfold doCheckTask
  simp only [wp_bind, wp_memory, wp_makeCtx]
  refine calls kept late fun inv w₁ late kept => ?_
  refine calls kept (Nat.le_succ_of_le late) fun reply w₂ late kept => ?_
  cases reply with
  -- no answer does not help
  | error ex => exact ⟨kept.survives, fun met => (met.1.helps late).elim⟩
  | ok resp =>
    simp only [wp_ite]
    split
    -- nor does an inventory that is not accepted
    next refused =>
      unfold requireFull
      simp only [wp_bind, wp_nowMs, wp_pure]
      have saved : ∀ {v : World}, v.store.vehicleTask = w₂.store.vehicleTask →
          Survives opens closes n v := fun same => Kept.survives (kept.of_eq same)
      refine wp_save (saved rfl) ⟨saved rfl, fun met => ?_⟩
      exact absurd (met.2.1.helps late).1 refused
    next accepted =>
      cases offered : resp.task with
      -- nor an answer without a task
      | none =>
        refine ⟨kept.survives, fun met => ?_⟩
        have some := (met.1.helps late).2
        simp [offered] at some
      | some task =>
        have touches := (proceeds_freezeTask (e := e) task).touches
        refine wp_mono (wp_and (wp_borne touches
          (fun met => met.1 (not_not.mp accepted) task offered) fun suits =>
            kept_freezeTask kept suits far) (settled_freezeTask task))
          (fun _ _ both => ⟨both.1, fun _ => both.2⟩) fun _ both => both.1

/-! ### Steps -/

theorem wp_step_enter {Q : StepOutcome → World → Prop} {C : World → Prop} :
    wp step Q C e w ↔ wp (phaseAction w.mem.vtState).body Q C e w.enter := by
  unfold wp
  rw [performs_phaseAction w e]

theorem stepsLeft_canonicalState (vt : VehicleTaskState) (ex : ExecutionState) :
    stepsLeft (canonicalState vt ex).1 = stepsLeft vt := by
  cases vt <;> rfl

/-- Between operations the memory agrees with the store. -/
theorem Restartable.stepsLeft (restartable : Restartable w) :
    stepsLeft (durableVtState w.store) = CgwFota.stepsLeft w.mem.vtState := by
  have same := congrArg (fun states => CgwFota.stepsLeft states.1) restartable.states
  simpa only [stepsLeft_canonicalState] using same

/-- Between operations a running task is bounded by what is stored. -/
theorem Restartable.bounded (restartable : Restartable w) (kept : Kept opens closes n w.store)
    (running : w.mem.vtState ≠ .none) : Bounded opens closes n w := by
  refine ⟨kept, restartable.stepsLeft ▸ kept.state, ?_⟩
  have states := restartable.states
  rw [← restartable.task]
  unfold durableTask
  unfold durableVtState at states
  cases record : w.store.vehicleTask with
  | none =>
    rw [record] at states
    exact absurd (by revert states; cases w.mem.vtState <;> simp [canonicalState]) running
  | some r => exact kept.suits r record

theorem comes_of_settled {m : Orch StepOutcome} {states : VehicleTaskState → Prop}
    {actions : List String} (h : Bounded opens closes n w)
    (proceeds : Proceeds e l states actions m) (phase : .phase ∉ l) (task : .task ∉ l)
    (bound : ∀ s, states s → stepsLeft s ≤ n)
    (settled : wp m (fun _ => Helped since k) (fun _ => True) e w) :
    wp m (fun _ => Comes opens closes since n k) (Survives opens closes n) e w :=
  wp_mono (wp_and (bounded_proceeds proceeds phase task bound h) settled)
    (fun _ _ both => ⟨both.1.kept.survives, both.2⟩) fun _ both => both.1.survives

/-- A step that is neither cut short nor hindered takes the task down by at least one. -/
theorem comes_step (clock : ∀ t, opens ≤ e.clock t ∧ e.clock t < closes) (within : n ≤ 6)
    (kept : Kept opens closes n w.store) (restartable : Restartable w)
    (late : since ≤ w.trace.length) :
    wp step (fun _ => Comes opens closes since n (n - 1)) (Survives opens closes n) e w := by
  have rank : stepsLeft w.mem.vtState ≤ n := restartable.stepsLeft ▸ kept.state
  have fewer : ∀ {k} {m : Orch StepOutcome} {w : World}, k + 1 ≤ n →
      wp m (fun _ => Comes opens closes since n k) (Survives opens closes n) e w →
      wp m (fun _ => Comes opens closes since n (n - 1)) (Survives opens closes n) e w :=
    fun less comes => wp_mono comes (fun _ _ both => ⟨both.1, fun met =>
      ⟨Nat.le_trans (both.2 met).1 (by omega), (both.2 met).2⟩⟩) fun _ h => h
  have permits : 2 ≤ n → ∀ s, s ∈ [VehicleTaskState.waitingWindow, .executing] →
      stepsLeft s ≤ n := by
    intro two s member
    simp only [List.mem_cons, List.not_mem_nil, or_false] at member
    rcases member with rfl | rfl <;> simp only [stepsLeft] <;> omega
  rw [wp_step_enter]
  unfold World.enter
  cases state : w.mem.vtState with
  -- no task yet
  | none | discovered =>
    rw [state] at rank
    exact fewer rank (comes_doCheckTask kept rank late)
  | consentPending =>
    rw [state] at rank
    have five : 5 ≤ n := rank
    refine fewer rank (comes_of_settled (restartable.bounded kept (by simp [state]))
      proceeds_doConsent (by simp) (by simp) (fun s member => ?_) (settled_doConsent late))
    simp only [List.mem_cons, List.not_mem_nil, or_false] at member
    rcases member with rfl | rfl <;> simp only [stepsLeft] <;> omega
  -- the download, in either state
  | downloadPending | downloading =>
    rw [state] at rank
    have four : 4 ≤ n := rank
    refine fewer rank (comes_of_settled (restartable.bounded kept (by simp [state]))
      proceeds_doDownload (by simp) (by simp) (fun s member => ?_) (settled_doDownload late))
    simp only [List.mem_cons, List.not_mem_nil, or_false] at member
    rcases member with rfl | rfl <;> simp only [stepsLeft] <;> omega
  -- ready: it only waits
  | ready =>
    rw [state] at rank
    exact fewer rank (comes_of_settled (restartable.bounded kept (by simp [state]))
      proceeds_doPermit (by simp) (by simp) (permits (Nat.le_of_succ_le rank))
      (wp_mono (settled_waiting state) (fun _ _ settled _ => settled) fun _ h => h))
  | waitingWindow | permitPending =>
    rw [state] at rank
    -- waiting: the permit is asked for
    have bounded := restartable.bounded kept (by simp [state])
    exact fewer rank (comes_of_settled bounded proceeds_doPermit (by simp) (by simp) (permits rank)
      (settled_doPermit clock bounded.suits (by simp [state]) late))
  | retryPending =>
    rw [state] at rank
    -- after a denial it is asked for again
    have bounded := restartable.bounded kept (by simp [state])
    have entered : Bounded opens closes n (w.move .permitPending) :=
      ⟨bounded.kept, rank, bounded.suits⟩
    exact fewer rank (comes_of_settled entered proceeds_doPermit (by simp) (by simp) (permits rank)
      (settled_doPermit clock entered.suits (by simp) (Nat.le_succ_of_le late)))
  -- executing
  | executing =>
    rw [state] at rank
    exact fewer rank (comes_doExecute (restartable.bounded kept (by simp [state])) rank late)
  | rollbackPending =>
    rw [state] at rank
    -- rolling back: the result is reported as well
    have bounded := restartable.bounded kept (by simp [state])
    exact fewer rank (comes_doExecute ⟨bounded.kept, rank, bounded.suits⟩ rank
      (Nat.le_succ_of_le (Nat.le_succ_of_le late)))
  | paused =>
    rw [state] at rank
    exact absurd (Nat.le_trans rank within) (by simp [stepsLeft])
  -- nothing is left to do
  | completed | ended =>
    have states := restartable.states
    rw [state] at states
    refine ⟨kept.survives, fun _ => ⟨by simp [state, stepsLeft], ?_⟩⟩
    rw [state]
    revert states
    cases durableVtState w.store <;> simp [canonicalState]

/-! ### Runs -/

/-- A step was begun. -/
def Event.beginsStep : Event → Bool
  | .began .step => true
  | _ => false

/-- The process was lost. -/
def Event.cutsShort : Event → Bool
  | .crashed => true
  | _ => false

/-- How many steps were begun. -/
def begunSteps (t : List Entry) : Nat := t.countP (·.event.beginsStep)

/-- How often the process was lost. -/
def crashes (t : List Entry) : Nat := t.countP (·.event.cutsShort)

/-- How many replies did not help. -/
def hindrances (t : List Entry) : Nat := t.countP (·.event.hinders)

/-- The number of steps that may still be needed: each crash and each hindrance may cost one. -/
def budget (t : List Entry) : Nat := min 6 (6 + crashes t + hindrances t - begunSteps t)

/-- What an operation adds to the trace. -/
structure Adds (begun : Nat) (w w' : World) : Prop where
  begunSteps : begunSteps w'.trace = CgwFota.begunSteps w.trace + begun
  crashes : crashes w'.trace = CgwFota.crashes w.trace
  hindrances : hindrances w.trace ≤ CgwFota.hindrances w'.trace

theorem Adds.trans {i j : Nat} {w'' : World} (h : Adds i w w') (h' : Adds j w' w'') :
    Adds (i + j) w w'' := by
  refine ⟨?_, h'.crashes.trans h.crashes, Nat.le_trans h.hindrances h'.hindrances⟩
  rw [h'.begunSteps, h.begunSteps, Nat.add_assoc]

/-- What happens within an operation begins nothing and cuts nothing short. -/
theorem Within.adds (within : Within l w w') (inside : .run ∉ l) : Adds 0 w w' := by
  have silent : ∀ a : Entry, a.event.part ∈ l →
      a.event.beginsStep = false ∧ a.event.cutsShort = false := by
    rintro ⟨event, mem, store, tick⟩ part
    cases event with
    | began op => exact absurd part inside
    | crashed => exact absurd part inside
    | _ => exact ⟨rfl, rfl⟩
  refine ⟨?_, ?_, ?_⟩
  · exact within.observed fun a past part => by simp [CgwFota.begunSteps, (silent a part).1]
  · exact within.observed fun a past part => by simp [CgwFota.crashes, (silent a part).2]
  · obtain ⟨new, same, -⟩ := within.trace
    rw [CgwFota.hindrances, CgwFota.hindrances, same, List.countP_append]
    omega

theorem adds_began (op : Operation) (w : World) :
    Adds ([op].count .step) w (w.note (.began op)) := by
  cases op <;> constructor <;> simp [begunSteps, crashes, hindrances, Event.beginsStep,
    Event.cutsShort, Event.hinders]

/-- Where no hindrance was added, only help came. -/
theorem Within.helped (within : Within l w w') (none : hindrances w'.trace = hindrances w.trace) :
    Always (HelpedSince w.trace.length) w'.trace := by
  obtain ⟨new, same, -⟩ := within.trace
  rw [hindrances, hindrances, same, List.countP_append] at none
  have fresh : ∀ a ∈ new, ¬a.event.hinders = true :=
    List.countP_eq_zero.mp (by omega)
  rw [same]
  refine Always.append ?_ fun a member before _ _ => by simpa using fresh a member
  rw [always_iff]
  intro later a past split late
  rw [split, List.length_append, List.length_cons] at late
  omega

/-- What an operation touches, apart from the beginning of runs. -/
theorem touches_perform (op : Operation) (running : op ≠ .restart) :
    Touches e [.outbox, .phase, .moved, .task, .inventory, .consent, .download, .permit, .install,
      .execution, .result, .log, .control, .policy] (perform op) := by
  cases op with
  | step =>
    exact .bind (Touches.mono proceeds_step.touches (by simp +contextual)) fun _ => .pure _
  | emit evt => exact .bind (touches_emit _ evt (by simp)) fun _ => .pure _
  | applyControl cmd =>
    exact .bind (Touches.mono (proceeds_applyControl cmd).touches_only (by simp)) fun _ => .pure _
  | syncPolicy =>
    exact .bind (Touches.mono proceeds_syncPolicy.touches_only (by simp)) fun _ => .pure _
  | restart => exact absurd rfl running

theorem begunSteps_runOperation (op : Operation) :
    begunSteps (runOperation e w op).trace = begunSteps w.trace + [op].count .step := by
  have began := (adds_began op w).begunSteps
  by_cases restarts : op = .restart
  · subst restarts
    simp [begunSteps, Event.beginsStep, runOperation, perform, Outcome.settle, Program.update]
  · refine settle_of_wp (P := fun w' : World => begunSteps w'.trace = _) ?_
    refine wp_mono (touches_perform op restarts _)
      (fun _ w' within => ?_) fun w' within => ?_
    · exact (within.adds (by simp)).begunSteps.trans began
    · simpa [recover, begunSteps, Event.beginsStep] using
        ((within.adds (by simp)).begunSteps.trans began)

theorem begunSteps_run (ops : List Operation) :
    begunSteps (run e w ops).trace = begunSteps w.trace + ops.count .step := by
  induction ops generalizing w with
  | nil => rfl
  | cons op ops ih =>
    have rest := ih (w := runOperation e w op)
    rw [begunSteps_runOperation, Nat.add_assoc, ← List.count_append] at rest
    exact rest

/-- What is shown of runs: the rank of the task stays within the budget. -/
abbrev InBudget (opens closes : Int) (w : World) : Prop :=
  Assuming (Bearable opens closes)
    (fun w => Restartable w ∧ Kept opens closes (budget w.trace) w.store) w

theorem Kept.mono {s : FotaCloudStateStore} (h : Kept opens closes n s) (le : n ≤ k) :
    Kept opens closes k s :=
  ⟨Nat.le_trans h.state le, h.suits⟩

theorem Kept.restartable (kept : Kept opens closes n w.store) : Restartable (restart w) :=
  restartable_restart fun r record => (kept.suits r record).1

theorem inBudget_recover (le : n ≤ min 6 (7 + crashes w.trace + hindrances w.trace -
      begunSteps w.trace)) (survives : Survives opens closes n w) :
    InBudget opens closes (recover w) := by
  intro met
  have kept : Kept opens closes n (w.note .crashed).store := survives met.2.2
  refine ⟨kept.restartable, Kept.mono (k := budget (recover w).trace) kept ?_⟩
  simp only [budget, recover, restart_trace, World.note_trace, crashes, hindrances, begunSteps,
    List.countP_cons, Event.cutsShort, Event.hinders, Event.beginsStep] at le ⊢
  simp only [if_true, Bool.false_eq_true, if_false]
  omega

theorem taskNamed_of_bearable {a : Entry} {past : List Entry}
    (bearable : Bearable opens closes a past) : TaskNamed a past := by
  unfold TaskNamed
  split
  next resp returned =>
    intro accepted task offered
    unfold Bearable at bearable
    rw [returned] at bearable
    exact (bearable accepted task offered).1
  next => trivial

/-- One step, hindered or not. -/
theorem inBudget_step (clock : ∀ t, opens ≤ e.clock t ∧ e.clock t < closes)
    (h : InBudget opens closes w) :
    wp (perform .step) (fun _ => InBudget opens closes)
      (fun w' => InBudget opens closes (recover w')) e (w.note (.began .step)) := by
  let begun := w.note (.began .step)
  have started : Assuming (Bearable opens closes)
      (fun v => Restartable v ∧ Kept opens closes (budget w.trace) v.store) begun :=
    fun met => ⟨{ (h met.2).1 with }, (h met.2).2⟩
  have stepped : wp (perform .step)
      (fun _ => Assuming (Bearable opens closes) fun v => Restartable v ∧
        Kept opens closes (budget w.trace) v.store ∧
          Helped begun.trace.length (budget w.trace - 1) v)
      (Survives opens closes (budget w.trace)) e begun := by
    refine started.wp_of (touches_perform .step (by simp)) ?_
    rintro ⟨restartable, kept⟩
    simp only [perform, wp_bind, wp_pure]
    refine wp_mono (wp_and (comes_step clock (Nat.min_le_left _ _) kept restartable (Nat.le_refl _))
      (restartable_step fun _ => restartable)) (fun _ v both met => ?_) fun _ both => both.1
    have named := met.mono fun a past => taskNamed_of_bearable
    exact ⟨both.2 named, both.1.1 met, both.1.2⟩
  refine wp_mono (wp_and stepped (touches_perform .step (by simp) _)) (fun _ w' both met => ?_)
    fun w' both => ?_
  · obtain ⟨restartable, kept, helped⟩ := both.1 met
    have adds := (adds_began .step w).trans (both.2.adds (by simp))
    have steps := adds.begunSteps
    have crashed := adds.crashes
    refine ⟨restartable, ?_⟩
    by_cases none : hindrances w'.trace = hindrances w.trace
    · -- no hindrance: the task is at least one rank down
      have settled := helped (both.2.helped none)
      refine ⟨?_, kept.suits⟩
      rw [settled.2]
      refine Nat.le_trans settled.1 ?_
      simp only [budget, none, crashed, steps, List.count_singleton_self]
      omega
    -- a hindrance costs this step, and the budget grows by one
    · have more := adds.hindrances
      refine kept.mono ?_
      simp only [budget, crashed, steps, List.count_singleton_self]
      omega
  -- so does a crash
  · have adds := (adds_began .step w).trans (both.2.adds (by simp))
    have more := adds.hindrances
    refine inBudget_recover ?_ both.1
    rw [adds.crashes, adds.begunSteps]
    simp only [budget, List.count_singleton_self]
    omega

theorem Adds.budget (adds : Adds 0 w w') : CgwFota.budget w.trace ≤ CgwFota.budget w'.trace := by
  have more := adds.hindrances
  unfold CgwFota.budget
  rw [adds.crashes, adds.begunSteps]
  omega

/-- Emissions, controls and the policy leave the task where it is. -/
theorem inBudget_touches {op : Operation} (touches : Touches e l (perform op))
    (run : .run ∉ l) (phase : .phase ∉ l)
    (restartable : Restartable w → wp (perform op) (fun _ => Restartable) (fun _ => True) e w)
    (h : InBudget opens closes w) :
    wp (perform op) (fun _ => InBudget opens closes)
      (fun w' => InBudget opens closes (recover w')) e w := by
  have kept : ∀ {w'}, Within l w w' → Survives opens closes (budget w.trace) w' :=
    fun within met => (h (within.past met)).2.of_eq (within.same .phase phase).2
  have again : wp (perform op) (fun _ => Assuming (Bearable opens closes) Restartable)
      (fun _ => True) e w :=
    wp_helped touches fun met =>
      wp_mono (restartable (h met).1) (fun _ _ again _ => again) fun _ h => h
  refine wp_mono (wp_and (touches w) again) (fun _ w' both met => ?_) fun w' both => ?_
  · exact ⟨both.2 met, (kept both.1 met).mono (both.1.adds run).budget⟩
  · refine inBudget_recover ?_ (kept both.1)
    have more := (both.1.adds run).budget
    unfold budget at more ⊢
    omega

/-- Controls and the policy keep memory and store in agreement. -/
theorem restartable_proceeds {α : Type} {m : Orch α} (proceeds : Proceeds e l (fun _ => False) [] m)
    (quiet : ∀ p ∈ l, p ∈ [Part.control, .policy]) (restartable : Restartable w) :
    wp m (fun _ => Restartable) (fun _ => True) e w := by
  have apart : ∀ p, p ∉ [Part.control, .policy] → p ∉ l := fun p out member => out (quiet p member)
  exact proceeds.wp (I := Restartable) (D := fun _ => True)
    (fun w w' within h => h.within within (apart _ (by simp)) (apart _ (by simp))
      (apart _ (by simp)) (apart _ (by simp)) (apart _ (by simp)))
    (fun evt w h => wp_mono (restartable_emit evt h) (fun _ _ h => h) fun _ _ => trivial)
    (fun w s never => never.elim) (fun w action now member => nomatch member)
    (fun _ _ => trivial) restartable

/-- Every run stays within the budget. -/
theorem inBudget_run (clock : ∀ t, opens ≤ e.clock t ∧ e.clock t < closes) (ops : List Operation)
    (initial : InBudget opens closes w) : InBudget opens closes (run e w ops) := by
  refine run_invariant e (InBudget opens closes) (fun op w h => ?_) ops w initial
  by_cases stepping : op = .step
  · subst stepping
    exact inBudget_step clock h
  -- any other operation: the budget is as it was
  · have noted : InBudget opens closes (w.note (.began op)) := by
      intro met
      have adds := adds_began op w
      rw [List.count_eq_zero.mpr (by simpa using Ne.symm stepping)] at adds
      exact ⟨{ (h met.2).1 with }, (h met.2).2.mono adds.budget⟩
    cases op with
    | step => exact absurd rfl stepping
    | emit evt =>
      refine inBudget_touches (l := [.outbox])
        (.bind (touches_emit _ evt (by simp)) fun _ => .pure _) (by simp) (by simp)
        (fun restartable => ?_) noted
      simp only [perform, wp_bind, wp_pure]
      exact wp_mono (restartable_emit evt restartable) (fun _ _ h => h) fun _ _ => trivial
    | applyControl cmd =>
      refine inBudget_touches (.bind (proceeds_applyControl cmd).touches_only fun _ => .pure _)
        (by simp) (by simp) (fun restartable => ?_) noted
      simp only [perform, wp_bind, wp_pure]
      exact restartable_proceeds (proceeds_applyControl cmd) (by simp) restartable
    | syncPolicy =>
      refine inBudget_touches (.bind proceeds_syncPolicy.touches_only fun _ => .pure _)
        (by simp) (by simp) (fun restartable => ?_) noted
      simp only [perform, wp_bind, wp_pure]
      exact restartable_proceeds proceeds_syncPolicy (by simp) restartable
    | restart =>
      intro met
      have kept := (noted met.2).2
      refine ⟨kept.restartable, Kept.mono (k := budget _) kept (Nat.le_of_eq ?_)⟩
      simp [budget, begunSteps, crashes, hindrances, Event.beginsStep, Event.cutsShort,
        Event.hinders]

theorem inBudget_boot : InBudget opens closes (boot {}) := by
  have initial : Kept opens closes 6 ({} : FotaCloudStateStore) :=
    ⟨by simp [durableVtState, stepsLeft], by simp⟩
  exact fun _ => ⟨Kept.restartable (w := { store := {} }) initial, initial⟩

end Progress

/-- Over every run from an empty store whose clock stays within the window of the task and in which
no reply throws the task back: once six steps have been asked for, one more for every crash and one
more for every reply that does not help, the task is completed or ended, whatever events, controls
and restarts came in between. -/
theorem hindered_task_finishes (env : Environment) (opens closes : Int) (ops : List Operation)
    (clock : ∀ t, opens ≤ env.clock t ∧ env.clock t < closes)
    (bearable : Always (Bearable opens closes) (run env (boot {}) ops).trace)
    (enough : 6 + crashes (run env (boot {}) ops).trace +
      hindrances (run env (boot {}) ops).trace ≤ ops.count .step) :
    isTerminalVehicleTaskState (run env (boot {}) ops).mem.vtState := by
  obtain ⟨restartable, kept⟩ := inBudget_run clock ops inBudget_boot bearable
  have steps := begunSteps_run (e := env) (w := boot {}) ops
  have none : begunSteps (boot {}).trace = 0 := rfl
  have left : stepsLeft (run env (boot {}) ops).mem.vtState ≤ 0 := by
    rw [← restartable.stepsLeft]
    refine Nat.le_trans kept.state ?_
    unfold budget
    omega
  revert left
  cases (run env (boot {}) ops).mem.vtState <;> simp [stepsLeft, isTerminalVehicleTaskState]

/-- A vehicle and a cloud that fail now and then. -/
def unreliable : Environment :=
  { cooperative with
    clock := fun _ => 5
    crashes := fun n => n == 24
    reply := fun n c =>
      if n % 4 ≠ 2 then cooperative.reply n c
      else
        match c with
        | .checkTask _ _ | .requestDownload _ _ | .reportFinalResult _ _ => .error ⟨"timeout"⟩
        | .requestInstall _ _ => .ok {}
        | .prepare _ => {}
        | c => cooperative.reply n c }

/-- A grant that is late, a permit that is denied, an executor that is not ready, and a crash. -/
theorem hindered_task_finishes_unreliable :
    let ops := .emit {} :: List.replicate 10 .step
    let last := run unreliable (boot {}) ops
    crashes last.trace = 1 ∧ hindrances last.trace = 3 ∧
      isTerminalVehicleTaskState last.mem.vtState := by
  refine ⟨?_, ?_, @hindered_task_finishes _ 0 10 _ ?_ ?_ ?_⟩
  · decide +kernel
  · decide +kernel
  · intro t
    show (0 : Int) ≤ 5 ∧ (5 : Int) < 10
    decide
  · decide +kernel
  · decide +kernel

end CgwFota
