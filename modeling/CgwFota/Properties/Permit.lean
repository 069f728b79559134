import CgwFota.Orchestrator.Advance

/-!
# Installation permits

Which permit an installation is started with, and how often.

## Main definitions

* `Event.granted`, `Event.started`: the permits of a trace.
* `SeparateGrants`: every grant has a key of its own, and no crash loses a successful start.
* `StartedAtMostOnce`: of each granted permit at most one start succeeded.

## Main results

* `start_at_most_once`: in every run with separate grants.
* `lost_start_is_repeated`: a crash between the start and the save that records it.

## Proof strategy

A key that is found in memory or in the store next to an execution state that allows a start was
granted, and is not used up yet. A start leaves that state, so the invariant is broken only until
the new state is saved, and a crash in between is excluded.
-/
namespace CgwFota

open Crash

/-! ### Grants and starts -/

/-- The permit of an `allowed` reply. -/
def Event.granted : Event → Option InstallPermitResponse
  | .returned (.requestInstall _ _) (.ok resp) => if resp.allowed then some resp else none
  | _ => none

/-- The permit of a start that was answered `started = true`. -/
def Event.started : Event → Option InstallPermitResponse
  | .returned (.start permit) r => if r.started then some permit else none
  | _ => none

/-- What identifies a permit. -/
def permitKey (permit : InstallPermitResponse) : String × Nat :=
  (permit.permitId.getD "", permit.attemptNo.getD 0)

/-- The keys a process may find without a grant: the one of no permit at all and the one the
store starts out with. -/
def keysBefore (s : FotaCloudStateStore) : List (String × Nat) :=
  [permitKey {}, permitKey (durablePermit s)]

/-- What was granted, latest first. -/
def grantedKeys (t : List Entry) : List (String × Nat) :=
  t.filterMap fun a => a.event.granted.map permitKey

/-- What was started, latest first. -/
def startedKeys (t : List Entry) : List (String × Nat) :=
  t.filterMap fun a => a.event.started.map permitKey

/-- The states in which the executor is started. -/
def isFresh (s : ExecutionState) : Bool := s = .permitPersisted || s = .ready

def Event.isCrash : Event → Bool
  | .crashed => true
  | _ => false

/-! ### At most one start for each permit -/

/-- Every grant has a key of its own, and no process dies between the executor's `started` and
the save that records it. -/
def SeparateGrants (before : List (String × Nat)) (a : Entry) (past : List Entry) : Prop :=
  (∀ permit ∈ a.event.granted, permitKey permit ∉ before ++ grantedKeys past) ∧
  (a.event.isCrash → (past.head?.bind fun b => b.event.started) = none)

/-- Of each granted permit at most one start succeeded. -/
def StartedAtMostOnce (t : List Entry) : Prop :=
  ∀ key ∈ grantedKeys t, (startedKeys t).count key ≤ 1

instance (before : List (String × Nat)) (a : Entry) (past : List Entry) :
    Decidable (SeparateGrants before a past) :=
  inferInstanceAs (Decidable (_ ∧ _))

instance (t : List Entry) : Decidable (StartedAtMostOnce t) :=
  inferInstanceAs (Decidable (∀ key ∈ grantedKeys t, (startedKeys t).count key ≤ 1))

section StartOnce

variable (before : List (String × Nat))

/-- A key that may be found in memory or in the store next to the execution state `s`: it was
granted, and where `s` allows a start it is not used up. -/
def Usable (t : List Entry) (key : String × Nat) (s : ExecutionState) : Prop :=
  key ∈ before ∨ key ∈ grantedKeys t ∧ (isFresh s → key ∉ startedKeys t)

structure StartsCounted (t : List Entry) : Prop where
  once : ∀ key, key ∉ before → (startedKeys t).count key ≤ 1
  granted : ∀ key ∈ startedKeys t, key ∈ before ∨ key ∈ grantedKeys t
  apart : ∀ key ∈ grantedKeys t, key ∉ before

/-- The invariant without the store. -/
structure PermitInMemory (w : World) : Prop where
  counted : StartsCounted before w.trace
  attempt : w.mem.attemptNo = w.mem.permit.attemptNo.getD 0
  usable : Usable before w.trace (permitKey w.mem.permit) w.mem.exState
  recorded : permitKey (durablePermit w.store) ∈ before ∨
    permitKey (durablePermit w.store) ∈ grantedKeys w.trace

/-- The invariant of runs. -/
structure PermitsUsedOnce (w : World) : Prop extends PermitInMemory before w where
  durable : Usable before w.trace (permitKey (durablePermit w.store)) (durableExState w.store)

variable {before} {w w' : World} {t : List Entry} {a : Entry}

theorem grantedKeys_cons (a : Entry) (t : List Entry) :
    grantedKeys (a :: t) = (a.event.granted.map permitKey).toList ++ grantedKeys t := by
  cases h : a.event.granted <;> simp [grantedKeys, h]

theorem startedKeys_cons (a : Entry) (t : List Entry) :
    startedKeys (a :: t) = (a.event.started.map permitKey).toList ++ startedKeys t := by
  cases h : a.event.started <;> simp [startedKeys, h]

theorem StartsCounted.of_keys {t t' : List Entry} (h : StartsCounted before t)
    (granted : grantedKeys t' = grantedKeys t) (started : startedKeys t' = startedKeys t) :
    StartsCounted before t' := by
  constructor
  · rw [started]; exact h.once
  · rw [started, granted]; exact h.granted
  · rw [granted]; exact h.apart

theorem granted_of_part {e : Event} (other : e.part ≠ .permit) : e.granted = none := by
  unfold Event.granted
  split
  · exact absurd rfl other
  · rfl

theorem started_of_part {e : Event} (other : e.part ≠ .install) : e.started = none := by
  unfold Event.started
  split
  · exact absurd rfl other
  · rfl

/-- The invariant depends on the permit and the execution alone. -/
theorem PermitInMemory.of_same (h : PermitInMemory before w)
    (granted : grantedKeys w'.trace = grantedKeys w.trace)
    (started : startedKeys w'.trace = startedKeys w.trace) (permit : Part.permit.Same w w')
    (execution : Part.execution.Same w w') : PermitInMemory before w' := by
  obtain ⟨permit, -, attempt⟩ := permit
  obtain ⟨state, record⟩ := execution
  constructor
  · exact h.counted.of_keys granted started
  · rw [attempt, permit]; exact h.attempt
  · unfold Usable
    rw [granted, started, permit, state]; exact h.usable
  · simp only [durablePermit, granted, record]; exact h.recorded

theorem PermitsUsedOnce.of_same (h : PermitsUsedOnce before w)
    (granted : grantedKeys w'.trace = grantedKeys w.trace)
    (started : startedKeys w'.trace = startedKeys w.trace) (permit : Part.permit.Same w w')
    (execution : Part.execution.Same w w') : PermitsUsedOnce before w' := by
  refine ⟨h.toPermitInMemory.of_same granted started permit execution, ?_⟩
  simp only [Usable, durablePermit, durableExState, granted, started, execution.2]
  exact h.durable

/-- What touches neither permits nor the execution keeps what depends on them alone. -/
theorem assuming_within {body : World → Prop} {parts : List Part}
    (of_same : ∀ w w', grantedKeys w'.trace = grantedKeys w.trace →
      startedKeys w'.trace = startedKeys w.trace → Part.permit.Same w w' →
      Part.execution.Same w w' → body w → body w')
    (h : Within parts w w') (permit : .permit ∉ parts) (install : .install ∉ parts)
    (execution : .execution ∉ parts) (holds : Assuming (SeparateGrants before) body w) :
    Assuming (SeparateGrants before) body w' := by
  intro cond
  refine of_same w w' ?_ ?_ (h.same _ permit) (h.same _ execution) (holds (h.past cond))
  · exact h.observed fun a past member => by
      rw [grantedKeys_cons, granted_of_part fun part => permit (part ▸ member)]
      rfl
  · exact h.observed fun a past member => by
      rw [startedKeys_cons, started_of_part fun part => install (part ▸ member)]
      rfl

/-! The invariant through the phases. -/

section Phases

variable {e : Environment} {α : Type} {m : Orch α} {parts : List Part}

/-- A program that touches neither permits nor the execution keeps the invariant. -/
theorem usedOnce_touches (h : Touches e parts m) (permit : .permit ∉ parts)
    (install : .install ∉ parts) (execution : .execution ∉ parts) :
    Keeps e (Assuming (SeparateGrants before) (PermitsUsedOnce before)) m :=
  h.keeps fun _ _ within => assuming_within (fun _ _ g s p x body => body.of_same g s p x)
    within permit install execution

theorem usedOnce_effect (event : Event) (granted : event.granted = none)
    (started : event.started = none) (store : (w.effect event).store = w.store)
    (holds : Assuming (SeparateGrants before) (PermitsUsedOnce before) w) :
    Assuming (SeparateGrants before) (PermitsUsedOnce before) (w.effect event) := fun cond =>
  (holds cond.2).of_same (by simp [grantedKeys_cons, granted]) (by simp [startedKeys_cons, started])
    ⟨rfl, rfl, rfl⟩ ⟨rfl, by rw [store]⟩

/-- A call that neither grants nor starts anything. -/
theorem usedOnce_call {c : Call} (granted : ∀ r, (Event.returned c r).granted = none)
    (started : ∀ r, (Event.returned c r).started = none) :
    Keeps e (Assuming (SeparateGrants before) (PermitsUsedOnce before)) (call c) := by
  intro w holds
  have called := usedOnce_effect (.called c) rfl rfl rfl holds
  have pending : ∀ w', Within [.outbox] (w.effect (.called c)) w' →
      Assuming (SeparateGrants before) (PermitsUsedOnce before) w' := fun w' within =>
    assuming_within (fun _ _ g s p x body => body.of_same g s p x) within (by simp) (by simp)
      (by simp) called
  refine wp_call pending fun w' r within => ?_
  have returned := usedOnce_effect _ (granted r) (started r) rfl (pending w' within)
  exact ⟨returned, returned⟩

/-- The execution record takes over what is in memory. -/
theorem usedOnce_persistExecution
    (holds : Assuming (SeparateGrants before) (PermitInMemory before) w) :
    wp persistExecution (fun _ => Assuming (SeparateGrants before) (PermitsUsedOnce before))
      (Assuming (SeparateGrants before) (PermitsUsedOnce before)) e w := by
  have saved : Assuming (SeparateGrants before) (PermitsUsedOnce before)
      (w.effect (.saved (.execution (executionRecord w.mem)))) := fun cond => by
    have body := holds cond.2
    have key : permitKey (durablePermit (w.store.save (.execution (executionRecord w.mem)))) =
        permitKey w.mem.permit := by
      simp [durablePermit, loadPermit, executionRecord, permitKey, body.attempt]
    have state : durableExState (w.store.save (.execution (executionRecord w.mem))) =
        w.mem.exState := by
      simp [durableExState, executionRecord]
    have same : PermitInMemory before (w.effect (.saved (.execution (executionRecord w.mem)))) := by
      refine ⟨body.counted.of_keys rfl rfl, body.attempt, body.usable, ?_⟩
      rw [World.effect_saved_store, key]
      exact body.usable.imp id And.left
    refine ⟨same, ?_⟩
    rw [World.effect_saved_store, key, state]
    exact body.usable
  unfold persistExecution
  simp only [wp_bind, wp_memory]
  refine wp_save saved ?_
  have counted : Touches e [.outbox] (save (.eventOutboxMeta
      { nextSequenceNo := w.mem.nextSeq, acceptedSequenceNo := w.mem.acceptedSeq })) :=
    touches_save (by simp [Save.part])
  exact usedOnce_touches counted (by simp) (by simp) (by simp) _ saved

theorem usedOnce_setExState {s : ExecutionState} (used : isFresh s = false) :
    Keeps e (Assuming (SeparateGrants before) (PermitsUsedOnce before)) (setExState s) := by
  intro w holds cond
  have body := holds cond.2
  refine ⟨⟨body.counted.of_keys rfl rfl, body.attempt, ?_, body.recorded⟩,
    body.durable⟩
  exact body.usable.imp id fun known => ⟨known.1, fun fresh => by simp [used] at fresh⟩

/-- The execution ends in a state that allows no start. -/
theorem usedOnce_closeExecution (report : FinalResultReport) (resp : FinalResultResponse) :
    Keeps e (Assuming (SeparateGrants before) (PermitsUsedOnce before))
      (closeExecution report resp) := by
  have state : isFresh (closedExecutionState report resp) = false := by
    unfold closedExecutionState
    split
    · rfl
    · split <;> rfl
  have phase : ∀ {β : Type} {n : Orch β}, Touches e [.outbox, .phase, .moved] n →
      Keeps e (Assuming (SeparateGrants before) (PermitsUsedOnce before)) n := fun touches =>
    usedOnce_touches touches (by simp) (by simp) (by simp)
  refine .bind (usedOnce_touches touches_doLogUpload (by simp) (by simp) (by simp)) fun _ => ?_
  refine .bind (usedOnce_setExState state) fun _ => ?_
  have adopts : Proceeds e [] (fun _ => True) [] (adoptStatus resp.vehicleTaskStatus) :=
    proceeds_adoptStatus _
  refine .bind (phase adopts.touches) fun _ => ?_
  refine .bind (phase (touches_persistVehicleTask _ _ (by simp))) fun _ => ?_
  refine .bind (fun w holds => usedOnce_persistExecution fun cond => ?_) fun _ => ?_
  · exact (holds cond).toPermitInMemory
  · exact .bind (phase touches_memory) fun _ => .pure _

theorem usedOnce_doFinalize :
    Keeps e (Assuming (SeparateGrants before) (PermitsUsedOnce before)) doFinalize := by
  have quiet : ∀ {β : Type} {n : Orch β}, Touches e [] n →
      Keeps e (Assuming (SeparateGrants before) (PermitsUsedOnce before)) n := fun touches =>
    usedOnce_touches touches (by simp) (by simp) (by simp)
  refine .bind (usedOnce_call (fun _ => rfl) fun _ => rfl) fun data => ?_
  refine .bind (quiet touches_memory) fun m => .bind (quiet touches_nowMs) fun now =>
    .bind (quiet (touches_makeCtx _)) fun ctx => ?_
  refine .bind (usedOnce_call (fun _ => rfl) fun _ => rfl) fun reply => ?_
  cases reply with
  | error ex => exact .pure _
  | ok resp => exact .ite (fun _ => .pure _) fun _ => usedOnce_closeExecution _ resp

theorem usedOnce_flushOutbox :
    Keeps e (Assuming (SeparateGrants before) (PermitsUsedOnce before)) flushOutbox := by
  have outbox : ∀ {β : Type} {n : Orch β}, Touches e [.outbox] n →
      Keeps e (Assuming (SeparateGrants before) (PermitsUsedOnce before)) n := fun touches =>
    usedOnce_touches touches (by simp) (by simp) (by simp)
  refine .bind (outbox touches_store) fun s => ?_
  refine .bind (outbox (touches_sendEvents _ _)) fun st => .bind (outbox touches_memory) fun m => ?_
  refine .bind (outbox (touches_raiseAccepted _ _)) fun _ => ?_
  refine .bind (fun w holds => usedOnce_persistExecution fun cond => ?_) fun _ => ?_
  · exact (holds cond).toPermitInMemory
  · exact .ite (fun _ => .pure _) fun _ => usedOnce_doFinalize

/-- A permit with a key that is not used up is taken over. -/
theorem usedOnce_acceptPermit (resp : InstallPermitResponse)
    (holds : Assuming (SeparateGrants before) (fun w => PermitsUsedOnce before w ∧
      permitKey resp ∈ grantedKeys w.trace ∧ permitKey resp ∉ startedKeys w.trace) w) :
    wp (acceptPermit resp) (fun _ => Assuming (SeparateGrants before) (PermitsUsedOnce before))
      (Assuming (SeparateGrants before) (PermitsUsedOnce before)) e w := by
  have phase : ∀ {β : Type} {n : Orch β}, Touches e [.outbox, .phase, .moved] n →
      Keeps e (Assuming (SeparateGrants before) (PermitsUsedOnce before)) n := fun touches =>
    usedOnce_touches touches (by simp) (by simp) (by simp)
  unfold acceptPermit
  rw [wp_bind, wp_setMemory, wp_bind, wp_setExState]
  refine Keeps.bind (phase (touches_setVtState _ _ (by simp) (by simp))) (fun _ => ?_) _ ?_
  · refine .bind (phase (touches_persistVehicleTask _ _ (by simp))) fun _ => ?_
    refine .bind (fun w holds => usedOnce_persistExecution fun cond => ?_) fun _ => ?_
    · exact (holds cond).toPermitInMemory
    refine .bind (phase touches_nowMs) fun now => .ite (fun _ => .pure _) fun _ => ?_
    refine .bind (usedOnce_call (fun _ => rfl) fun _ => rfl) fun guards => ?_
    exact .ite (fun _ => .pure _) fun _ => .bind (phase touches_memory) fun _ => .pure _
  · intro cond
    obtain ⟨body, granted, unused⟩ := holds cond.2
    exact ⟨⟨body.counted.of_keys rfl rfl, rfl, .inr ⟨granted, fun _ => unused⟩,
      body.recorded⟩, body.durable⟩

/-- A grant that keeps to `SeparateGrants` has an unused key. -/
theorem usedOnce_granted (req : InstallPermitRequest) (ctx : CallContext)
    (r : CloudReply InstallPermitResponse)
    (holds : Assuming (SeparateGrants before) (PermitsUsedOnce before) w) :
    Assuming (SeparateGrants before) (fun w' => PermitsUsedOnce before w' ∧
      ∀ permit ∈ (Event.returned (.requestInstall req ctx) r).granted,
        permitKey permit ∈ grantedKeys w'.trace ∧ permitKey permit ∉ startedKeys w'.trace)
      (w.effect (.returned (.requestInstall req ctx) r)) := by
  intro cond
  have body := holds cond.2
  have started : startedKeys (w.effect (.returned (.requestInstall req ctx) r)).trace =
      startedKeys w.trace := rfl
  have more : ∀ key ∈ grantedKeys w.trace,
      key ∈ grantedKeys (w.effect (.returned (.requestInstall req ctx) r)).trace := by
    intro key known
    simp [grantedKeys_cons, known]
  refine ⟨⟨⟨⟨body.counted.once, fun key member => ?_, fun key member => ?_⟩, body.attempt, ?_, ?_⟩,
    ?_⟩, fun permit member => ⟨?_, fun used => ?_⟩⟩
  -- a start of a key that was granted before
  · exact (body.counted.granted key member).imp id (more key)
  · rw [World.effect_trace, grantedKeys_cons] at member
    rcases List.mem_append.mp member with new | old
    -- the new grant
    · obtain ⟨permit, found, rfl⟩ : ∃ permit,
          (Event.returned (.requestInstall req ctx) r).granted = some permit ∧
            permitKey permit = key := by simpa using new
      exact fun old => cond.1.1 permit found (List.mem_append_left _ old)
    -- an old grant is apart as it was
    · exact body.counted.apart key old
  · exact body.usable.imp id (And.imp_left (more _))
  · exact body.recorded.imp id (more _)
  · exact body.durable.imp id (And.imp_left (more _))
  -- the key of the grant is granted now, and by the condition it is a new one
  · rw [World.effect_trace, grantedKeys_cons, Option.mem_def.mp member]
    simp
  · exact cond.1.1 permit member (List.mem_append.mpr (body.counted.granted _ used))

/-- The request of a permit grants at most one, with a key of its own. -/
theorem usedOnce_requestPermit :
    Keeps e (Assuming (SeparateGrants before) (PermitsUsedOnce before)) requestPermit := by
  have quiet : ∀ {β : Type} {n : Orch β}, Touches e [] n →
      Keeps e (Assuming (SeparateGrants before) (PermitsUsedOnce before)) n := fun touches =>
    usedOnce_touches touches (by simp) (by simp) (by simp)
  refine .bind (usedOnce_call (fun _ => rfl) fun _ => rfl) fun ev => ?_
  refine .bind (quiet touches_memory) fun m => .bind (quiet touches_store) fun s =>
    .bind (quiet (touches_makeCtx _)) fun ctx => ?_
  intro w holds
  have called := usedOnce_effect
    (.called (.requestInstall (installPermitRequest m.frozenTask s.consent ev) ctx))
    rfl rfl rfl holds
  have pending :
      ∀ w', Within [.outbox] _ w' → Assuming (SeparateGrants before) (PermitsUsedOnce before) w' :=
    fun w' within => assuming_within (fun _ _ g s p x body => body.of_same g s p x) within
      (by simp) (by simp) (by simp) called
  rw [wp_bind]
  refine wp_call pending fun w' reply within => ?_
  have returned := usedOnce_granted (installPermitRequest m.frozenTask s.consent ev) ctx reply
    (pending w' within)
  refine ⟨fun cond => (returned cond).1, ?_⟩
  cases reply with
  -- no answer, no grant
  | error ex => exact fun cond => (returned cond).1
  | ok resp =>
    -- a permit that is not allowed grants nothing
    by_cases allowed : resp.allowed
    · simp only [allowed, Bool.not_true, Bool.false_eq_true, ite_false]
      refine usedOnce_acceptPermit resp fun cond => ?_
      obtain ⟨body, unused⟩ := returned cond
      exact ⟨body, unused resp (by simp [Event.granted, allowed])⟩
    · simp only [allowed, Bool.not_false, ite_true]
      exact fun cond => (returned cond).1

/-- The permit phase grants at most one, with a key of its own. -/
theorem usedOnce_doPermit :
    Keeps e (Assuming (SeparateGrants before) (PermitsUsedOnce before)) doPermit := by
  have phase : ∀ {β : Type} {n : Orch β}, Touches e [.outbox, .phase, .moved] n →
      Keeps e (Assuming (SeparateGrants before) (PermitsUsedOnce before)) n := fun touches =>
    usedOnce_touches touches (by simp) (by simp) (by simp)
  refine .bind (phase touches_memory) fun m => .ite (fun _ => ?_) fun _ => ?_
  · exact .bind (phase (touches_setVtState _ _ (by simp) (by simp))) fun _ =>
      .bind (phase (touches_persistVehicleTask _ _ (by simp))) fun _ =>
      .bind (phase touches_memory) fun _ => .pure _
  · refine .bind (phase touches_nowMs) fun t => .ite (fun _ => .pure _) fun _ => ?_
    exact .bind (usedOnce_call (fun _ => rfl) fun _ => rfl) fun guards =>
      .ite (fun _ => .pure _) fun _ => usedOnce_requestPermit

theorem usedOnce_crashed (holds : Assuming (SeparateGrants before) (PermitsUsedOnce before) w) :
    Assuming (SeparateGrants before) (PermitsUsedOnce before) (w.note .crashed) := fun cond =>
  (holds cond.2).of_same rfl rfl ⟨rfl, rfl, rfl⟩ ⟨rfl, rfl⟩

/-- The start uses up the key in memory; until the execution state has moved on and is saved,
the process must not crash. -/
theorem usedOnce_started (fresh : isFresh w.mem.exState) (r : StartResult)
    (started : r.started = true)
    (holds : Assuming (SeparateGrants before) (PermitsUsedOnce before) w) :
    Assuming (SeparateGrants before) (PermitInMemory before)
      (((w.effect (.returned (.start w.mem.permit) r)).withMemory
        fun m => { m with exState := .installStarted }).note .moved) := by
  intro cond
  have body := holds cond.2.2
  have keys : startedKeys (w.effect (.returned (.start w.mem.permit) r)).trace =
      permitKey w.mem.permit :: startedKeys w.trace := by
    simp [startedKeys_cons, Event.started, started]
  refine ⟨⟨fun key named => ?_, fun key member => ?_, body.counted.apart⟩, body.attempt, ?_,
    body.recorded⟩
  · show (startedKeys (w.effect _).trace).count key ≤ 1
    rw [keys, List.count_cons]
    split
    -- this key: it was not used up, so this is its first start
    next same =>
      have same : permitKey w.mem.permit = key := by simpa using same
      rcases body.usable with none | ⟨-, unused⟩
      · exact absurd (same ▸ none) named
      · simp [← same, List.count_eq_zero_of_not_mem (unused fresh)]
    -- another key
    next => exact body.counted.once key named
  -- every started key was granted
  · change key ∈ startedKeys (w.effect _).trace at member
    rw [keys] at member
    rcases List.mem_cons.mp member with rfl | member
    · exact body.usable.imp id And.left
    · exact body.counted.granted key member
  · exact body.usable.imp id fun known => ⟨known.1, fun fresh => by simp [isFresh] at fresh⟩

/-- The execution starts only from a state that allows it. -/
theorem usedOnce_doExecute (holds : Assuming (SeparateGrants before) (PermitsUsedOnce before) w) :
    wp doExecute (fun _ => Assuming (SeparateGrants before) (PermitsUsedOnce before))
      (fun w => Assuming (SeparateGrants before) (PermitsUsedOnce before) (w.note .crashed)) e
        w := by
  have flush : ∀ w', Assuming (SeparateGrants before) (PermitsUsedOnce before) w' →
      wp flushOutbox (fun _ => Assuming (SeparateGrants before) (PermitsUsedOnce before))
        (fun w => Assuming (SeparateGrants before) (PermitsUsedOnce before) (w.note .crashed)) e
          w' :=
    fun w' holds => wp_mono (usedOnce_flushOutbox w' holds) (fun _ _ h => h)
      (fun _ h => usedOnce_crashed h)
  have pending :
      ∀ {c : Call} {w w' : World}, Assuming (SeparateGrants before) (PermitsUsedOnce before) w →
      Within [.outbox] (w.effect (.called c)) w' →
        Assuming (SeparateGrants before) (PermitsUsedOnce before) w' :=
    fun holds within => assuming_within (fun _ _ g s p x body => body.of_same g s p x) within
      (by simp) (by simp) (by simp) (usedOnce_effect _ rfl rfl rfl holds)
  unfold doExecute
  simp only [wp_bind, wp_memory, wp_ite]
  split
  next fresh =>
    refine wp_call (fun w' within => usedOnce_crashed (pending holds within))
      fun w' prep within => ?_
    have prepared :
        Assuming (SeparateGrants before) (PermitsUsedOnce before) (w'.effect (.returned _ prep)) :=
      usedOnce_effect _ rfl rfl rfl (pending holds within)
    refine ⟨usedOnce_crashed prepared, ?_⟩
    split
    · exact prepared
    · refine wp_call (fun w'' within => usedOnce_crashed (pending prepared within))
        fun w'' st within' => ?_
      have state : w''.mem.exState = w.mem.exState :=
        (within'.same .execution (by simp)).1.trans (within.same .execution (by simp)).1
      have permit : w''.mem.permit = w'.mem.permit := (within'.same .permit (by simp)).1
      have waiting := pending prepared within'
      -- the executor refused: nothing was started
      cases started : st.started with
      | false =>
        have refused : Assuming (SeparateGrants before) (PermitsUsedOnce before)
            (w''.effect (.returned (.start w'.mem.permit) st)) :=
          usedOnce_effect _ rfl (by simp [Event.started, started]) rfl waiting
        simpa [started] using ⟨usedOnce_crashed refused, refused⟩
      -- it started: the condition excludes the crash, and the new state is saved next
      | true =>
        refine ⟨fun cond => ?_, ?_⟩
        -- a crash right after the answer
        · exact absurd (cond.1.2 rfl) (by simp [Event.started, started])
        · have fresh' : isFresh w''.mem.exState := by simpa [isFresh, state] using fresh
          have moved := usedOnce_started fresh' st started waiting
          rw [permit] at moved
          simp only [Bool.not_true, Bool.false_eq_true, ite_false, recordStart, wp_bind,
            wp_setExState]
          refine wp_mono (usedOnce_persistExecution moved) (fun _ w3 h => flush w3 h)
            (fun _ h => usedOnce_crashed h)
  next => exact flush w holds

/-- A whole step. -/
theorem usedOnce_step (holds : Assuming (SeparateGrants before) (PermitsUsedOnce before) w) :
    wp step (fun _ => Assuming (SeparateGrants before) (PermitsUsedOnce before))
      (fun w => Assuming (SeparateGrants before) (PermitsUsedOnce before) (w.note .crashed)) e
        w := by
  have keeps : ∀ {m : Orch StepOutcome} {w : World},
      Keeps e (Assuming (SeparateGrants before) (PermitsUsedOnce before)) m →
      Assuming (SeparateGrants before) (PermitsUsedOnce before) w →
      wp m (fun _ => Assuming (SeparateGrants before) (PermitsUsedOnce before))
        (fun w => Assuming (SeparateGrants before) (PermitsUsedOnce before) (w.note .crashed)) e
          w :=
    fun keeps holds => wp_mono (keeps _ holds) (fun _ _ h => h) (fun _ h => usedOnce_crashed h)
  refine wp_step (fun _ => holds) (fun _ => ?_) (fun _ => ?_) (fun _ => ?_)
    (fun _ => keeps usedOnce_doPermit holds) (fun _ => usedOnce_doExecute holds) (fun _ => ?_)
    fun _ => usedOnce_doExecute fun cond => ?_
  · exact keeps (usedOnce_touches proceeds_doCheckTask.touches (by simp) (by simp) (by simp)) holds
  · exact keeps (usedOnce_touches proceeds_doConsent.touches (by simp) (by simp) (by simp)) holds
  · exact keeps (usedOnce_touches proceeds_doDownload.touches (by simp) (by simp) (by simp)) holds
  · exact keeps usedOnce_doPermit fun cond =>
      (holds cond.2).of_same rfl rfl ⟨rfl, rfl, rfl⟩ ⟨rfl, rfl⟩
  · have body := holds cond.2.2
    exact ⟨⟨body.counted.of_keys rfl rfl, body.attempt,
      body.usable.imp id fun known => ⟨known.1, fun fresh => by simp [isFresh] at fresh⟩,
      body.recorded⟩, body.durable⟩

end Phases

/-- After a restart the memory shows what the store has kept. -/
theorem usedOnce_restart (none : permitKey {} ∈ before)
    (holds : Assuming (SeparateGrants before) (PermitsUsedOnce before) w) :
    Assuming (SeparateGrants before) (PermitsUsedOnce before) (restart w) := by
  intro cond
  have body := holds cond.2
  have counted : StartsCounted before (restart w).trace := body.counted.of_keys rfl rfl
  cases lacks : lacksSnapshot w.store with
  -- without a snapshot the memory has the key of no permit
  | true =>
    have mem : (restart w).mem = {} := loadFromStore_without_snapshot lacks
    exact ⟨⟨counted, by rw [mem]; rfl, by rw [mem]; exact .inl none, body.recorded⟩,
      body.durable⟩
  -- otherwise the recorded one
  | false =>
    have mem := loadFromStore_with_snapshot lacks
    refine ⟨⟨counted, ?_, ?_, body.recorded⟩, body.durable⟩
    · rw [restart_mem, mem]
      unfold durablePermit
      cases w.store.execution <;> rfl
    · rw [restart_mem, mem]
      exact body.durable

end StartOnce

/-- Over every run, from any store, whatever the cloud and the executor answer and wherever the
process crashes: if each grant has its own key and no crash falls between a successful start and
the save that records it, no permit starts two installations. -/
theorem start_at_most_once (env : Environment) (s : FotaCloudStateStore) (ops : List Operation)
    (separate : Always (SeparateGrants (keysBefore s)) (run env (boot s) ops).trace) :
    StartedAtMostOnce (run env (boot s) ops).trace := by
  let J := Assuming (SeparateGrants (keysBefore s)) (PermitsUsedOnce (keysBefore s))
  have none : permitKey {} ∈ keysBefore s := by simp [keysBefore]
  have start : PermitsUsedOnce (keysBefore s) { store := s } :=
    ⟨⟨⟨by simp [startedKeys], by simp [startedKeys], by simp [grantedKeys]⟩, rfl,
      .inl none, .inl (by simp [keysBefore])⟩, .inl (by simp [keysBefore])⟩
  have initial : J (boot s) := usedOnce_restart none fun _ => start
  have began : ∀ op w, J w → J (w.note (.began op)) := fun op w holds cond =>
    (holds cond.2).of_same rfl rfl ⟨rfl, rfl, rfl⟩ ⟨rfl, rfl⟩
  have final : J (run env (boot s) ops) := run_keeps J (fun w => J (w.note .crashed)) began
    (fun w w' within => assuming_within (fun _ _ g s p x body => body.of_same g s p x) within
      (by simp) (by simp) (by simp))
    (fun w holds => usedOnce_step (began .step w holds)) (fun w holds => usedOnce_crashed holds)
    (fun w holds => usedOnce_restart none holds) (fun w holds => usedOnce_restart none holds) ops
    initial
  obtain ⟨⟨counted, -, -, -⟩, -⟩ := final separate
  intro key granted
  exact counted.once key (counted.apart key granted)

/-- A crash in the preparation of the executor loses no start. -/
theorem start_at_most_once_after_lost_prepare :
    let env : Environment := { cooperative with crashes := fun n => n = 44 }
    let w := run env (boot {}) (List.replicate 8 .step)
    Always (SeparateGrants (keysBefore {})) w.trace ∧ StartedAtMostOnce w.trace := by
  refine ⟨?_, @start_at_most_once _ _ _ ?_⟩
  · decide +kernel
  · decide +kernel

/-- The executor has started, the process dies before the execution record says so, and the next
process starts the same permit again. -/
theorem lost_start_is_repeated :
    let env : Environment := { cooperative with crashes := fun n => n = 46 }
    ¬StartedAtMostOnce (run env (boot {}) (List.replicate 7 .step)).trace := by
  decide +kernel

end CgwFota
