import CgwFota.Orchestrator.Runs

/-!
# What each action touches

Memory, store and events are divided into parts. An action within some parts leaves the memory and
the store of all others alone and adds no event of theirs to the trace, also when it is cut short.
Every invariant over other parts survives such an action.

## Main definitions

* `Part`: the parts; `Part.Same` says which fields belong to each of them
* `Within`: a world that is reached by actions on the given parts
* `Touches`: however it stops, the action stays within the given parts

## Main results

* `wp_memory`, `wp_save` and their siblings: the rules for the primitive actions
* `touches_emit`, `touches_call` and their siblings: what each part of the code touches
* `wp_call_if`, `wp_emit_record`: the rules for a call and for an emission

## Proof strategy

A call may be answered only after events were emitted by the port itself, so its rule goes through a
world within the outbox; an invariant that does not look at the outbox never notices.
-/
namespace CgwFota

open Crash

inductive Part where
  | run | phase | moved | task | inventory | consent | download | permit | install | execution
  | result | outbox | control | policy | log
  deriving DecidableEq, Repr

def Call.part : Call → Part
  | .collectInventory _ | .checkTask _ _ => .task
  | .requestConsent _ _ | .reportConsent _ _ => .consent
  | .requestDownload _ _ | .downloadAndVerify _ _ _ | .reportStageResult _ _ => .download
  | .allGuardsPassed | .evaluateConditions | .requestInstall _ _ => .permit
  | .prepare _ | .start _ => .install
  | .readFinalResult | .reportFinalResult _ _ => .result
  | .reportEvent _ _ => .outbox
  | .apply _ | .acknowledgeControl _ _ => .control
  | .requestLogUpload _ _ | .collectLog _ | .reportLogUpload _ _ => .log
  | .syncPolicy _ _ => .policy

def Save.part : Save → Part
  | .vehicleTask _ => .phase
  | .inventory _ => .inventory
  | .consent _ => .consent
  | .download _ => .download
  | .execution _ => .execution
  | .eventOutboxMeta _ | .event _ => .outbox
  | .control _ => .control
  | .policy _ => .policy
  | .logJob _ => .log

def Event.part : Event → Part
  | .began _ | .crashed | .restarted => .run
  | .called c | .returned c _ => c.part
  | .saved s => s.part
  | .emitted _ _ => .outbox
  | .skipped _ _ => .download
  | .moved => .moved

/-- The memory and the store of one part are the same in both worlds. -/
def Part.Same : Part → World → World → Prop
  | .run, _, _ | .moved, _, _ | .install, _, _ | .result, _, _ => True
  | .phase, w, w' => w'.mem.vtState = w.mem.vtState ∧ w'.store.vehicleTask = w.store.vehicleTask
  | .task, w, w' => w'.mem.frozenTask = w.mem.frozenTask
  | .inventory, w, w' => w'.store.inventory = w.store.inventory
  | .consent, w, w' => w'.store.consent = w.store.consent
  | .download, w, w' => w'.store.downloads = w.store.downloads
  | .permit, w, w' => w'.mem.permit = w.mem.permit ∧ w'.mem.executionId = w.mem.executionId ∧
      w'.mem.attemptNo = w.mem.attemptNo
  | .execution, w, w' => w'.mem.exState = w.mem.exState ∧ w'.store.execution = w.store.execution
  | .outbox, w, w' => w'.mem.nextSeq = w.mem.nextSeq ∧ w'.mem.acceptedSeq = w.mem.acceptedSeq ∧
      w'.store.eventOutboxMeta = w.store.eventOutboxMeta ∧ w'.store.events = w.store.events
  | .control, w, w' => w'.mem.ackSeq = w.mem.ackSeq ∧
      w'.mem.lastReceivedControlRev = w.mem.lastReceivedControlRev ∧
      w'.mem.lastAppliedControlRev = w.mem.lastAppliedControlRev ∧
      w'.mem.pendingControlIds = w.mem.pendingControlIds ∧ w'.store.controls = w.store.controls
  | .policy, w, w' => w'.store.policy = w.store.policy
  | .log, w, w' => w'.store.logJobs = w.store.logJobs

theorem Part.Same.rfl (p : Part) (w : World) : p.Same w w := by
  cases p <;> simp [Part.Same]

theorem Part.Same.trans {p : Part} {w w' w'' : World} (h : p.Same w w') (h' : p.Same w' w'') :
    p.Same w w'' := by
  cases p <;> simp_all [Part.Same]

/-- The world an entry was taken in, as far as parts are concerned. -/
def Entry.world (a : Entry) : World := { mem := a.mem, store := a.store, tick := a.tick }

theorem Part.Same.entry {p : Part} {w w' : World} (h : p.Same w w') (event : Event) :
    p.Same w (Entry.world ⟨event, w'.mem, w'.store, w'.tick⟩) := by
  cases p <;> exact h

/-- The entry is on one of the parts, and the others were as in `w` when it was taken. -/
def Entry.On (parts : List Part) (w : World) (a : Entry) : Prop :=
  a.event.part ∈ parts ∧ ∀ p, p ∉ parts → p.Same w a.world

theorem Entry.on_now {parts : List Part} (w : World) (event : Event)
    (member : event.part ∈ parts) :
    ∀ a ∈ [Entry.mk event w.mem w.store w.tick], a.On parts w := by
  intro a now
  obtain rfl := List.mem_singleton.mp now
  exact ⟨member, fun p _ => (Part.Same.rfl p w).entry event⟩

/-- `w'` is what became of `w` by actions on the given parts. -/
structure Within (parts : List Part) (w w' : World) : Prop where
  same : ∀ p, p ∉ parts → p.Same w w'
  tick : w.tick ≤ w'.tick
  trace : ∃ new, w'.trace = new ++ w.trace ∧ ∀ a ∈ new, a.On parts w

namespace Within

variable {parts parts' : List Part} {w w' w'' : World}

instance : IsPreorder World (Within parts) where
  refl w := ⟨fun p _ => .rfl p w, Nat.le_refl _, [], by simp⟩
  trans a b c h h' := by
    obtain ⟨new, eq, mem⟩ := h.trace
    obtain ⟨new', eq', mem'⟩ := h'.trace
    refine ⟨fun p out => (h.same p out).trans (h'.same p out), Nat.le_trans h.tick h'.tick,
      new' ++ new, by simp [eq, eq'], fun a member => ?_⟩
    rcases List.mem_append.mp member with member | member
    · exact ⟨(mem' a member).1, fun p out => (h.same p out).trans ((mem' a member).2 p out)⟩
    · exact mem a member

theorem refl (w : World) : Within parts w w := refl_of (Within parts) w

theorem trans (h : Within parts w w') (h' : Within parts w' w'') : Within parts w w'' :=
  trans_of (Within parts) h h'

theorem mono (h : Within parts w w') (sub : ∀ p ∈ parts, p ∈ parts') : Within parts' w w' := by
  obtain ⟨new, eq, mem⟩ := h.trace
  exact ⟨fun p out => h.same p fun member => out (sub p member), h.tick, new, eq,
    fun a member => ⟨sub _ (mem a member).1,
      fun p out => (mem a member).2 p fun member => out (sub p member)⟩⟩

theorem effect (event : Event) (member : event.part ∈ parts) :
    Within parts w (w.effect event) := by
  refine ⟨fun p out => ?_, by simp, [_], rfl, Entry.on_now w event member⟩
  have other : p ≠ event.part := fun same => out (same ▸ member)
  cases event with
  | saved s => cases s <;> cases p <;> first | exact absurd rfl other | simp [Part.Same]
  | _ => cases p <;> simp [Part.Same, World.effect]

theorem note (event : Event) (member : event.part ∈ parts) : Within parts w (w.note event) :=
  ⟨fun p _ => by cases p <;> simp [Part.Same], by simp, [_], rfl, Entry.on_now w event member⟩

theorem advance : Within parts w w.advance :=
  ⟨fun p _ => by cases p <;> simp [Part.Same], by simp, [], rfl, by simp⟩

/-- Reading the clock touches nothing. -/
theorem pause : Within [] w w.advance := .advance

theorem note_run (event : Event) (run : event.part = .run) : Within [.run] w (w.note event) :=
  .note event (by simp [run])

theorem withMemory {f : Memory → Memory} (same : ∀ p, p ∉ parts → p.Same w (w.withMemory f)) :
    Within parts w (w.withMemory f) :=
  ⟨same, by simp, [], rfl, by simp⟩

/-- A safety property of the trace survives if it holds of the entries taken meanwhile. -/
theorem always_on {P : Entry → List Entry → Prop} (h : Within parts w w')
    (meanwhile : ∀ a before, a.On parts w → (∀ b ∈ before, b.On parts w) →
      P a (before ++ w.trace)) (old : Always P w.trace) : Always P w'.trace := by
  obtain ⟨new, eq, mem⟩ := h.trace
  rw [eq]
  exact old.append fun a member before sub =>
    meanwhile a before (mem a member) fun b member => mem b (sub b member)

/-- A safety property of the trace survives if it says nothing about the new events. -/
theorem always {P : Entry → List Entry → Prop} (h : Within parts w w')
    (silent : ∀ a past, a.event.part ∈ parts → P a past) (old : Always P w.trace) :
    Always P w'.trace :=
  h.always_on (fun a _ on _ => silent a _ on.1) old

theorem past {P : Entry → List Entry → Prop} (h : Within parts w w') (all : Always P w'.trace) :
    Always P w.trace := by
  obtain ⟨new, eq, -⟩ := h.trace
  exact (eq ▸ all).of_append

theorem assuming {cond : Entry → List Entry → Prop} {body body' : World → Prop}
    (h : Within parts w w') (holds : Assuming cond body w) (step : body w → body' w') :
    Assuming cond body' w' :=
  fun met => step (holds (h.past met))

/-- What is computed from the trace survives if it skips the new events. -/
theorem observed {β : Type} {f : List Entry → β} (h : Within parts w w')
    (silent : ∀ a past, a.event.part ∈ parts → f (a :: past) = f past) :
    f w'.trace = f w.trace := by
  obtain ⟨new, eq, mem⟩ := h.trace
  rw [eq]
  clear eq
  induction new with
  -- no new entries, so nothing is observed
  | nil => rfl
  | cons a new ih =>
    -- the newest entry is skipped, and the others by the induction
    rw [List.cons_append, silent a _ (mem a (by simp)).1]
    exact ih fun b member => mem b (by simp [member])

end Within

/-! ### Primitive actions -/

section Primitives

variable {Q : Unit → World → Prop} {C : World → Prop} {e : Environment} {w : World}

@[simp] theorem wp_memory {Q : Memory → World → Prop} : wp memory Q C e w ↔ Q w.mem w := Iff.rfl

@[simp] theorem wp_store {Q : FotaCloudStateStore → World → Prop} :
    wp store Q C e w ↔ Q w.store w := Iff.rfl

@[simp] theorem wp_config {Q : FotaOrchestratorConfig → World → Prop} :
    wp config Q C e w ↔ Q e.cfg w := Iff.rfl

@[simp] theorem wp_nowMs {Q : Int → World → Prop} :
    wp nowMs Q C e w ↔ Q (e.clock w.tick) w.advance := Iff.rfl

@[simp] theorem wp_setMemory (f : Memory → Memory) :
    wp (setMemory f) Q C e w ↔ Q () (w.withMemory f) := Iff.rfl

@[simp] theorem wp_note (event : Event) : wp (note event) Q C e w ↔ Q () (w.note event) := Iff.rfl

@[simp] theorem wp_setVtState (s : VehicleTaskState) :
    wp (setVtState s) Q C e w ↔
      Q () ((w.withMemory fun m => { m with vtState := s }).note .moved) := Iff.rfl

@[simp] theorem wp_setExState (s : ExecutionState) :
    wp (setExState s) Q C e w ↔
      Q () ((w.withMemory fun m => { m with exState := s }).note .moved) := Iff.rfl

@[simp] theorem wp_makeCtx {Q : CallContext → World → Prop} (key : String) :
    wp (makeCtx key) Q C e w ↔ Q
      { traceId := "trace-" ++ key
        requestId := "req-" ++ key
        idempotencyKey := key
        timeout := e.cfg.cloudCallTimeout
        deviceId := e.cfg.deviceId
        vin := e.cfg.vin
        vehicleTaskId := w.mem.frozenTask.vehicleTaskId
        executionId := w.mem.executionId } w := Iff.rfl

/-- The environment tells by the tick of the effect whether the process goes on after it. -/
theorem wp_effect_if {event : Event} (crash : e.crashes w.tick = true → C (w.effect event))
    (next : e.crashes w.tick = false → Q () (w.effect event)) : wp (effect event) Q C e w := by
  unfold wp effect
  cases crashes : e.crashes w.tick with
  | false => exact next crashes
  | true => exact crash crashes

theorem wp_effect {event : Event} (crash : C (w.effect event)) (next : Q () (w.effect event)) :
    wp (effect event) Q C e w :=
  wp_effect_if (fun _ => crash) fun _ => next

theorem wp_save {s : Save} (crash : C (w.effect (.saved s))) (next : Q () (w.effect (.saved s))) :
    wp (save s) Q C e w :=
  wp_effect crash next

end Primitives

/-- The action stays within the given parts. -/
abbrev Touches (e : Environment) (parts : List Part) {α : Type} (m : Orch α) : Prop :=
  Follows e (Within parts) (Within parts) m

section Touches

variable {e : Environment} {parts parts' : List Part} {α : Type} {m : Orch α}

theorem Touches.mono (h : Touches e parts m) (sub : ∀ p ∈ parts, p ∈ parts') :
    Touches e parts' m :=
  Follows.mono h (fun _ _ within => within.mono sub) fun _ _ within => within.mono sub

theorem Touches.keeps (h : Touches e parts m) {I : World → Prop}
    (closed : ∀ w w', Within parts w w' → I w → I w') : Keeps e I m :=
  Follows.keeps h closed closed

theorem touches_memory : Touches e parts memory := fun w => Within.refl w

theorem touches_store : Touches e parts store := fun w => Within.refl w

theorem touches_config : Touches e parts config := fun w => Within.refl w

theorem touches_nowMs : Touches e parts nowMs := fun _ => Within.advance

theorem touches_makeCtx (key : String) : Touches e parts (makeCtx key) := fun w => Within.refl w

theorem touches_effect {event : Event} (member : event.part ∈ parts) :
    Touches e parts (effect event) :=
  fun _ => wp_effect (.effect event member) (.effect event member)

theorem touches_save {s : Save} (member : s.part ∈ parts) : Touches e parts (save s) :=
  fun _ => wp_save (.effect (.saved s) member) (.effect (.saved s) member)

theorem touches_setMemory {f : Memory → Memory}
    (same : ∀ w p, p ∉ parts → p.Same w (w.withMemory f)) : Touches e parts (setMemory f) :=
  fun w => Within.withMemory (same w)

theorem touches_setVtState (parts : List Part) (s : VehicleTaskState) (moved : .moved ∈ parts)
    (phase : .phase ∈ parts) : Touches e parts (setVtState s) := by
  refine .bind (touches_setMemory fun w p out => ?_) fun _ => ?_
  · cases p <;> first | exact absurd phase out | simp [Part.Same]
  · exact fun _ => Within.note .moved moved

theorem touches_setExState (parts : List Part) (s : ExecutionState) (moved : .moved ∈ parts)
    (execution : .execution ∈ parts) : Touches e parts (setExState s) := by
  refine .bind (touches_setMemory fun w p out => ?_) fun _ => ?_
  · cases p <;> first | exact absurd execution out | simp [Part.Same]
  · exact fun _ => Within.note .moved moved

theorem touches_emit (parts : List Part) (evt : ExecutionEvent) (outbox : .outbox ∈ parts) :
    Touches e parts (emit evt) := by
  refine .bind touches_store fun s => .bind touches_config fun cfg => ?_
  refine .ite (fun _ => .pure _) fun _ => ?_
  refine .bind (touches_save outbox) fun _ => .bind (touches_save outbox) fun _ => ?_
  refine .bind (touches_setMemory fun w p out => ?_) fun _ => ?_
  · cases p <;> first | exact absurd outbox out | simp [Part.Same]
  · exact .bind (fun _ => Within.note _ outbox) fun _ => .pure _

theorem touches_reentrantEmits (parts : List Part) (c : Call) (outbox : .outbox ∈ parts) :
    Touches e parts (reentrantEmits c) := fun w =>
  Follows.forEach (fun evt => .bind (touches_emit _ evt outbox) fun _ => .pure ())
    (e.emits w.tick c) w

theorem touches_call (parts : List Part) {c : Call} (member : c.part ∈ parts)
    (outbox : .outbox ∈ parts) :
    Touches e parts (call c) :=
  .bind (touches_effect member) fun _ => .bind (touches_reentrantEmits _ c outbox) fun _ =>
    .bind (fun w => Within.refl w) fun _ => .bind (touches_effect member) fun _ => .pure _

theorem touches_persistVehicleTask (parts : List Part) (action : String) (phase : .phase ∈ parts) :
    Touches e parts (persistVehicleTask action) :=
  .bind touches_nowMs fun _ => .bind touches_memory fun _ => touches_save phase

theorem touches_persistExecution (parts : List Part) (execution : .execution ∈ parts)
    (outbox : .outbox ∈ parts) :
    Touches e parts persistExecution :=
  .bind touches_memory fun _ => .bind (touches_save execution) fun _ => touches_save outbox

/-! ### What has no part in the phases -/

theorem touches_requireFull (parts : List Part) (inv : CollectedInventory) (req : TaskCheckRequest)
    (disposition : InventoryDisposition) (member : .inventory ∈ parts) :
    Touches e parts (requireFull inv req disposition) :=
  .bind touches_nowMs fun _ => .bind (touches_save member) fun _ => .pure _

/-- Sending an event touches the outbox, whatever the reply is. -/
theorem touches_reportStoredEvent (r : FotaEventOutboxRecord) (st : SendState) :
    Touches e [.outbox] (reportStoredEvent r st) := by
  refine .bind (touches_makeCtx _) fun ctx => ?_
  refine .bind (touches_call _ (by simp [Call.part]) (by simp)) fun reply => ?_
  cases reply with
  | error ex => exact .bind (touches_save (by simp [Save.part])) fun _ => .pure _
  | ok resp =>
    -- a reply that accepts the event raises the watermark, any other one does not
    refine .ite (fun _ => ?_) fun _ =>
      .bind (touches_save (by simp [Save.part])) fun _ => .pure _
    refine .bind (touches_setMemory fun w p out => ?_) fun _ =>
      .bind (touches_save (by simp [Save.part])) fun _ => .pure _
    cases p <;> simp [Part.Same] at out ⊢

/-- The step of the send loop for one number touches the outbox only. -/
theorem touches_sendEvent (seq : Nat) (st : SendState) :
    Touches e [.outbox] (sendEvent seq st) := by
  refine .bind touches_store fun s => ?_
  cases s.loadEvent seq with
  | none => exact .pure _
  | some r =>
    exact .ite (fun _ => .pure _) fun _ =>
      .ite (fun _ => .bind (touches_save (by simp [Save.part])) fun _ => .pure _) fun _ =>
        touches_reportStoredEvent r st

theorem touches_sendEvents (seqs : List Nat) (st : SendState) :
    Touches e [.outbox] (sendEvents seqs st) := by
  induction seqs generalizing st with
  | nil => exact .pure _
  | cons seq rest ih => exact .bind (touches_sendEvent seq st) ih

theorem touches_raiseAccepted (outbox : FotaEventOutboxMeta) (acceptedSeq : Nat) :
    Touches e [.outbox] (raiseAccepted outbox acceptedSeq) :=
  .ite (fun _ => touches_save (by simp [Save.part])) fun _ => .pure _

end Touches

/-! ### Calls -/

section Rules

variable {e : Environment} {w : World} {C : World → Prop}

/-- A call is made, events may be emitted into the outbox while it is pending, it returns. -/
theorem wp_call_if {c : Call} {Q : c.Reply → World → Prop}
    (crash : ∀ w', Within [.outbox] (w.effect (.called c)) w' → C w')
    (returned : ∀ w' r, Within [.outbox] (w.effect (.called c)) w' →
      (e.crashes w'.tick = true → C (w'.effect (.returned c r))) ∧
        (e.crashes w'.tick = false → Q r (w'.effect (.returned c r)))) :
    wp (call c) Q C e w := by
  unfold call
  simp only [wp_bind]
  refine wp_effect (crash _ (.refl _)) ?_
  refine wp_mono (touches_reentrantEmits [.outbox] c (by simp) _)
    (fun _ w' within => ?_) (fun w' within => crash w' within)
  exact wp_effect_if (returned w' _ within).1 (returned w' _ within).2

theorem wp_call_unless {c : Call} {Q : c.Reply → World → Prop}
    (crash : ∀ w', Within [.outbox] (w.effect (.called c)) w' → C w')
    (returned : ∀ w' r, Within [.outbox] (w.effect (.called c)) w' →
      C (w'.effect (.returned c r)) ∧
        (e.crashes w'.tick = false → Q r (w'.effect (.returned c r)))) :
    wp (call c) Q C e w :=
  wp_call_if crash fun w' r within =>
    ⟨fun _ => (returned w' r within).1, (returned w' r within).2⟩

theorem wp_call {c : Call} {Q : c.Reply → World → Prop}
    (crash : ∀ w', Within [.outbox] (w.effect (.called c)) w' → C w')
    (returned : ∀ w' r, Within [.outbox] (w.effect (.called c)) w' →
      C (w'.effect (.returned c r)) ∧ Q r (w'.effect (.returned c r))) :
    wp (call c) Q C e w :=
  wp_call_unless crash fun w' r within =>
    ⟨(returned w' r within).1, fun _ => (returned w' r within).2⟩

/-- An emission is refused, or stores a record under the next number and counts it. Between the
two saves the record is there and the counter is not yet raised. -/
theorem wp_emit_record {evt : ExecutionEvent} {Q : Bool → World → Prop} (refused : Q false w)
    (accepted : 0 < w.store.outboxMeta.nextSequenceNo → ∀ r : FotaEventOutboxRecord,
      r.sequenceNo = w.store.outboxMeta.nextSequenceNo →
      (evt.eventId ≠ "" → r.eventId = evt.eventId) →
      ((evt.eventDigest.getD {}).valueHex ≠ "" →
        r.eventDigestHex = (evt.eventDigest.getD {}).valueHex) →
      r.sendStatus = "PENDING" → r.eventPbHex = protoBinaryToHex evt →
      let stored := w.effect (.saved (.event r))
      let counted := stored.effect (.saved (.eventOutboxMeta
        { w.store.outboxMeta with nextSequenceNo := w.store.outboxMeta.nextSequenceNo + 1 }))
      C stored ∧ C counted ∧ Q true ((counted.withMemory fun m =>
        { m with nextSeq := w.store.outboxMeta.nextSequenceNo + 1 }).note
          (.emitted w.store.outboxMeta.nextSequenceNo evt))) :
    wp (emit evt) Q C e w := by
  unfold emit
  simp only [wp_bind, wp_store, wp_config, wp_ite, wp_pure, wp_setMemory, wp_note]
  split
  next => exact refused
  -- the outbox has space, so its counter is above zero
  next space =>
    have positive : 0 < w.store.outboxMeta.nextSequenceNo := by
      have bound := e.cfg.eventOutboxMax.toNat_lt
      by_contra zero
      have zero : w.store.outboxMeta.nextSequenceNo = 0 := by omega
      rw [zero] at space
      omega
    refine wp_save ?_ (wp_save ?_ ?_)
    · exact (accepted positive _ (by rfl) (by exact (if_neg ·)) (by exact (if_neg ·)) (by rfl)
        (by rfl)).1
    · exact (accepted positive _ (by rfl) (by exact (if_neg ·)) (by exact (if_neg ·)) (by rfl)
        (by rfl)).2.1
    · exact (accepted positive _ (by rfl) (by exact (if_neg ·)) (by exact (if_neg ·)) (by rfl)
        (by rfl)).2.2

/-- An emission, for an invariant that only asks where the event is stored. -/
theorem wp_emit {evt : ExecutionEvent} {Q : Bool → World → Prop} (refused : Q false w)
    (accepted : 0 < w.store.outboxMeta.nextSequenceNo → ∀ r : FotaEventOutboxRecord,
      r.sequenceNo = w.store.outboxMeta.nextSequenceNo → r.sendStatus = "PENDING" →
      r.eventPbHex = protoBinaryToHex evt →
      let stored := w.effect (.saved (.event r))
      let counted := stored.effect (.saved (.eventOutboxMeta
        { w.store.outboxMeta with nextSequenceNo := w.store.outboxMeta.nextSequenceNo + 1 }))
      C stored ∧ C counted ∧ Q true ((counted.withMemory fun m =>
        { m with nextSeq := w.store.outboxMeta.nextSequenceNo + 1 }).note
          (.emitted w.store.outboxMeta.nextSequenceNo evt))) :
    wp (emit evt) Q C e w :=
  wp_emit_record refused fun positive r number _ _ pending payload =>
    accepted positive r number pending payload

end Rules

end CgwFota
