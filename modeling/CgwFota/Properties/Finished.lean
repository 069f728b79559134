import CgwFota.Properties.Restart

/-!
# A finished task rests

A completed or ended task is never taken up again: `step` returns at once, and events, controls and
the policy have parts of their own. A restart finds the task where it was, because the last thing a
phase does is to persist it.

## Main definitions

* `Entry.Bystander`: what may be observed once a task is over.
* `StoreRests`, `Rests`: the store, and the memory, keep what they have of the task.

## Main result

* `finished_task_rests`: over every run, whatever is asked of the process after the end.

## Proof strategy

The invariant compares two worlds, the one at the end of the task and the present one. It leans on
the law that a restart is invisible: only for a terminal state the durable state is the very state.
-/
namespace CgwFota

open Crash

/-- What may be observed once a task is over: operations, events that are stored but not sent,
controls and the policy. -/
def Entry.Bystander (a : Entry) : Prop :=
  match a.event with
  | .called c | .returned c _ => c.part = .control ∨ c.part = .policy
  | event => event.part ∈ [.run, .outbox, .control, .policy]

/-- What the store keeps of the task is as it was, and only bystanders were observed since. -/
structure StoreRests (w w' : World) : Prop where
  vehicleTask : w'.store.vehicleTask = w.store.vehicleTask
  inventory : w'.store.inventory = w.store.inventory
  consent : w'.store.consent = w.store.consent
  downloads : w'.store.downloads = w.store.downloads
  execution : w'.store.execution = w.store.execution
  logJobs : w'.store.logJobs = w.store.logJobs
  since : ∃ new, w'.trace = new ++ w.trace ∧ ∀ a ∈ new, a.Bystander

/-- So is what the process has of the task in memory. -/
structure Rests (w w' : World) : Prop extends StoreRests w w' where
  vtState : w'.mem.vtState = w.mem.vtState
  exState : w'.mem.exState = w.mem.exState
  frozenTask : w'.mem.frozenTask = w.mem.frozenTask
  executionId : w'.mem.executionId = w.mem.executionId
  attemptNo : w'.mem.attemptNo = w.mem.attemptNo

section Rests

variable {e : Environment} {w w' w'' : World} {parts : List Part}

theorem StoreRests.refl (w : World) : StoreRests w w :=
  ⟨rfl, rfl, rfl, rfl, rfl, rfl, [], rfl, by simp⟩

theorem Rests.refl (w : World) : Rests w w :=
  ⟨.refl w, rfl, rfl, rfl, rfl, rfl⟩

theorem since_cons {t t' : List Entry} {a : Entry} (bystander : a.Bystander)
    (since : ∃ new, t' = new ++ t ∧ ∀ b ∈ new, b.Bystander) :
    ∃ new, a :: t' = new ++ t ∧ ∀ b ∈ new, b.Bystander := by
  obtain ⟨new, rfl, all⟩ := since
  refine ⟨a :: new, rfl, fun b member => ?_⟩
  rcases List.mem_cons.mp member with rfl | member
  · exact bystander
  · exact all b member

theorem Entry.On.bystander {a : Entry} (on : a.On parts w)
    (sub : ∀ p ∈ parts, p ∈ [Part.run, .control, .policy]) : a.Bystander := by
  have part := sub _ on.1
  obtain ⟨event, mem, store, tick⟩ := a
  cases event with
  | called c => cases c <;> simp [Entry.Bystander, Event.part, Call.part] at part ⊢
  | returned c r => cases c <;> simp [Entry.Bystander, Event.part, Call.part] at part ⊢
  | _ =>
    rcases List.mem_cons.mp part with part | part
    · exact List.mem_cons.mpr (.inl part)
    · exact List.mem_cons_of_mem _ (List.mem_cons_of_mem _ part)

/-- Controls and the policy do not touch the task. -/
theorem StoreRests.within (h : StoreRests w w') (within : Within parts w' w'')
    (sub : ∀ p ∈ parts, p ∈ [Part.run, .control, .policy]) : StoreRests w w'' := by
  -- the parts of the task are not among them
  have out : ∀ p, p ∉ [Part.run, .control, .policy] → p.Same w' w'' :=
    fun p other => within.same p fun member => other (sub p member)
  have inventory : w''.store.inventory = w'.store.inventory := out .inventory (by simp)
  have consent : w''.store.consent = w'.store.consent := out .consent (by simp)
  have downloads : w''.store.downloads = w'.store.downloads := out .download (by simp)
  have logJobs : w''.store.logJobs = w'.store.logJobs := out .log (by simp)
  refine ⟨(out .phase (by simp)).2.trans h.vehicleTask, inventory.trans h.inventory,
    consent.trans h.consent, downloads.trans h.downloads,
    (out .execution (by simp)).2.trans h.execution, logJobs.trans h.logJobs, ?_⟩
  obtain ⟨new, eq, on⟩ := within.trace
  obtain ⟨old, eq', all⟩ := h.since
  refine ⟨new ++ old, by rw [eq, eq', List.append_assoc], fun a member => ?_⟩
  -- what was observed since, and what is new
  rcases List.mem_append.mp member with member | member
  · exact (on a member).bystander sub
  · exact all a member

theorem Rests.within (h : Rests w w') (within : Within parts w' w'')
    (sub : ∀ p ∈ parts, p ∈ [Part.run, .control, .policy]) : Rests w w'' := by
  have out : ∀ p, p ∉ [Part.run, .control, .policy] → p.Same w' w'' :=
    fun p other => within.same p fun member => other (sub p member)
  have task : w''.mem.frozenTask = w'.mem.frozenTask := out .task (by simp)
  have permit := out .permit (by simp)
  exact ⟨h.toStoreRests.within within sub, (out .phase (by simp)).1.trans h.vtState,
    (out .execution (by simp)).1.trans h.exState, task.trans h.frozenTask,
    permit.2.1.trans h.executionId, permit.2.2.trans h.attemptNo⟩

/-- An event emitted after the end is stored and counted; nothing is sent. -/
theorem rests_emit (evt : ExecutionEvent) (h : Rests w w') :
    wp (emit evt) (fun _ => Rests w) (StoreRests w) e w' := by
  refine wp_emit_record h fun _ r _ _ _ _ _ => ?_
  have stored := since_cons (a := ⟨.saved (.event r), w'.mem, w'.store, w'.tick⟩)
    (by simp [Entry.Bystander, Event.part, Save.part]) h.since
  have counted := since_cons (a := ⟨.saved (.eventOutboxMeta { w'.store.outboxMeta with
      nextSequenceNo := w'.store.outboxMeta.nextSequenceNo + 1 }), w'.mem,
    w'.store.save (.event r), w'.tick + 1⟩)
    (by simp [Entry.Bystander, Event.part, Save.part]) stored
  refine ⟨{ h.toStoreRests with since := stored }, { h.toStoreRests with since := counted },
    { h with since := since_cons ?_ counted }⟩
  simp [Entry.Bystander, Event.part]

/-- A step returns at once and leaves everything. -/
theorem rests_step (finished : isTerminalVehicleTaskState w.mem.vtState) (h : Rests w w') :
    wp step (fun _ => Rests w) (StoreRests w) e w' := by
  -- the state is still the terminal one
  have terminal : phaseAction w'.mem.vtState = .terminal := by
    rw [h.vtState]
    revert finished
    cases w.mem.vtState <;> simp [isTerminalVehicleTaskState, phaseAction]
  have entered : w'.enter = w' := by
    unfold World.enter
    revert terminal
    cases w'.mem.vtState <;> simp [phaseAction]
  unfold wp
  rw [performs_phaseAction w' e, terminal, entered, terminal_body]
  exact h

/-- The task is read back as it was, since the state it ended in is the stored one. -/
theorem rests_restart (durable : Restartable w)
    (finished : isTerminalVehicleTaskState w.mem.vtState) (h : StoreRests w w') :
    Rests w (restart w') := by
  -- the snapshot is still there to be read
  have lacks : lacksSnapshot w'.store = false := by
    have before := durable.snapshot.lacksSnapshot
    unfold lacksSnapshot at before ⊢
    rw [h.vehicleTask]
    exact before
  have mem : (restart w').mem = _ := loadFromStore_with_snapshot lacks
  -- of the terminal states none is identified with another
  have state : durableVtState w.store = w.mem.vtState := by
    have states := durable.states
    revert states finished
    cases w.mem.vtState <;> cases durableVtState w.store <;>
      simp [canonicalState, isTerminalVehicleTaskState]
  have execution := durable.execution
  simp only [durableExecution, durableExState, Prod.mk.injEq] at execution
  refine ⟨{ h with since := since_cons (by simp [Entry.Bystander, Event.part]) h.since },
    ?_, ?_, ?_, ?_, ?_⟩
  · rw [mem, ← state]
    simp only [durableVtState, h.vehicleTask]
  · rw [mem, ← execution.1]
    simp only [durableExState, h.execution]
  · rw [mem, ← durable.task]
    simp only [durableTask, h.vehicleTask]
  · rw [mem, ← execution.2.1, h.execution]
  · rw [mem, ← execution.2.2, h.execution]

end Rests

/-- Over every run from an empty store, with crashes anywhere, in which tasks have ids: once a
task is completed or ended, whatever is asked of the process later leaves it so, writes nothing of
it and calls neither the cloud nor the vehicle but for controls and the policy. -/
theorem finished_task_rests (env : Environment) (ops later : List Operation)
    (named : Always TaskNamed (run env (boot {}) ops).trace)
    (finished : isTerminalVehicleTaskState (run env (boot {}) ops).mem.vtState) :
    Rests (run env (boot {}) ops) (run env (run env (boot {}) ops) later) := by
  have kept := run_keeps_named (e := env) (fun _ => True) (fun _ => True) (fun _ _ _ => trivial)
    (fun _ _ _ _ => trivial) (fun _ _ _ => wp_true) (fun _ _ => wp_true) (fun _ _ => trivial)
    (fun _ _ _ => trivial) (fun _ _ _ => trivial) ops restartable_boot trivial
  have durable := kept.1 named
  -- operations are begun, crashed and restarted by events of their own part
  have noted : ∀ w' event, event.part = .run → Rests (run env (boot {}) ops) w' →
      Rests (run env (boot {}) ops) (w'.note event) := fun w' event part h =>
    h.within (.note_run event part) (by simp)
  refine run_keeps_emitting (Rests (run env (boot {}) ops)) (StoreRests (run env (boot {}) ops))
    (fun op w' => noted w' _ rfl) (fun w' w'' within h => h.within within (by simp))
    (fun evt w' => rests_emit evt) (fun w' h => rests_step finished (noted w' _ rfl h))
    (fun w' h => h.toStoreRests) (fun w' h => ?_)
    (fun w' h => rests_restart durable finished h.toStoreRests) later (.refl _)
  exact rests_restart durable finished (h.within (.note_run .crashed rfl) (by simp))

/-- The cloud accepts the result of the sample task; an event comes too late, a control is applied
and the process is replaced. -/
theorem finished_task_rests_completed :
    let w := run cooperative (boot {}) (List.replicate 6 .step)
    w.mem.vtState = .completed ∧
      Rests w (run cooperative w [.emit {}, .applyControl {}, .restart, .step]) := by
  refine ⟨?_, @finished_task_rests _ _ _ ?_ ?_⟩
  · decide +kernel
  · decide +kernel
  · decide +kernel

end CgwFota
