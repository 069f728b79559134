import CgwFota.Orchestrator.Advance

/-!
# Control commands

A command is recorded before the executor gets it and again after the executor has applied it. The
record, not the memory, tells a command from its repetition.

## Main definitions

* `World.receive`, `World.recordApplied`, `World.resolve`: the worlds on the way of one command.
* `ControlsKept`, `AppliedOnce`: no control is lost, and the executor gets a revision once.
* `sinceStart`, `beforeStart`: what this process and the earlier ones have done.
* `AckSeqIncreases`, `AppliedByFirst`: the numbers of the acknowledgements, and when they increase.

## Main results

* `controls_applied_once`: over every run, and after every crash, at most once.
* `ack_numbers_increase_iff`: the numbers increase exactly if only one process applies commands.

## Proof strategy

`wp_applyControl` walks through a command once, for any invariant, and `run_controlled` reduces a
run to commands and restarts. What goes to the executor is on record and stays there, so a revision
is known whenever it comes again. The counter of the acknowledgements starts at one in each process,
and the number that a second process gives first is not above any earlier one.
-/
namespace CgwFota

open Crash

/-- The world in which the executor is about to get the command. -/
def World.receive (w : World) (cmd : ControlCommand) : World :=
  (w.effect (.saved (.control (controlRecord cmd)))).withMemory fun m =>
    { m with
      lastReceivedControlRev := cmd.controlRevision
      pendingControlIds := m.pendingControlIds ++ [cmd.controlId] }

/-- The record of an applied command. -/
def appliedRecord (cmd : ControlCommand) (ackSequenceNo : Nat) (now : Int) : FotaControlRecord :=
  { controlRecord cmd with
    ackStatus := controlAckStatusName .applied
    ackSequenceNo
    appliedAtMs := now }

/-- The counter is taken before the record is written. -/
def World.recordApplied (w : World) (cmd : ControlCommand) (now : Int) : World :=
  (w.withMemory fun m => { m with ackSeq := m.ackSeq + 1 }).advance.effect
    (.saved (.control (appliedRecord cmd w.mem.ackSeq now)))

/-- The world in which the application is about to be acknowledged. -/
def World.resolve (w : World) (cmd : ControlCommand) (now : Int) : World :=
  (w.recordApplied cmd now).withMemory fun m =>
    { m with
      lastAppliedControlRev := cmd.controlRevision
      pendingControlIds := m.pendingControlIds.filter (· ≠ cmd.controlId) }

/-- No control is lost, and one with an acknowledgement does not change. -/
def ControlsKept (s s' : FotaCloudStateStore) : Prop :=
  ∀ revision, ∀ r ∈ s.loadControl revision,
    ∃ r' ∈ s'.loadControl revision, r.ackStatus ≠ "" → r' = r

/-- A command goes to the executor after it was recorded, and only if none with its revision went
before. The controls of all earlier moments are kept. -/
def AppliedOnce (a : Entry) (past : List Entry) : Prop :=
  (∀ b ∈ past, ControlsKept b.store a.store) ∧
  match a.event with
  | .called (.apply cmd) =>
    a.store.loadControl cmd.controlRevision = some (controlRecord cmd) ∧
      ∀ b ∈ past, ∀ cmd', b.event = .called (.apply cmd') →
        cmd'.controlRevision ≠ cmd.controlRevision
  | _ => True

section Rules

variable {e : Environment} {w : World} {cmd : ControlCommand}

/-- What one command does: it is received, handed to the executor and, if that applied it,
resolved and acknowledged. -/
theorem wp_applyControl {I D : World → Prop}
    (quiet : ∀ w w', Within [.outbox] w w' → I w → I w') (durable : ∀ w, I w → D w)
    (answered : ∀ w c r, c.part = .control → I w → I (w.effect (.returned c r)))
    (acknowledged : ∀ w req ctx, I w → I (w.effect (.called (.acknowledgeControl req ctx))))
    (holds : I w)
    (received : w.store.loadControl cmd.controlRevision = none →
      D (w.effect (.saved (.control (controlRecord cmd)))) ∧
        I ((w.receive cmd).effect (.called (.apply cmd))))
    (applied : ∀ w' now, w.store.loadControl cmd.controlRevision = none → I w' →
      Part.Same .control (w.receive cmd) w' →
      D (w'.recordApplied cmd now) ∧ I (w'.resolve cmd now)) :
    wp (applyControl cmd) (fun _ => I) D e w := by
  unfold applyControl
  simp only [wp_bind, wp_store, wp_ite, wp_pure, wp_setMemory]
  split
  -- a revision on record is left alone
  next => exact holds
  next unknown =>
    have unknown : w.store.loadControl cmd.controlRevision = none := by
      simpa using unknown
    obtain ⟨saved, handed⟩ := received unknown
    refine wp_save saved (wp_call ?_ ?_)
    · intro w₁ within
      exact durable _ (quiet _ _ within handed)
    · intro w₁ app within
      have back := answered w₁ (.apply cmd) app rfl (quiet _ _ within handed)
      have same : Part.Same .control (w.receive cmd) (w₁.effect (.returned (.apply cmd) app)) :=
        within.same .control (by simp)
      refine ⟨durable _ back, ?_⟩
      -- what the executor says decides whether the command is resolved
      split
      next done =>
        have done : app.status = .applied := done
        obtain ⟨recorded, resolved⟩ := applied _ (e.clock (w₁.tick + 1)) unknown back same
        unfold acknowledgeApplied
        simp only [wp_bind, wp_memory, wp_setMemory, wp_nowMs, wp_makeCtx, wp_pure, done]
        -- The application is on record before the cloud hears of it.
        refine wp_save recorded (wp_call ?_ ?_)
        · intro w₂ within'
          exact durable _ (quiet _ _ within' (acknowledged _ _ _ (quiet _ _ .advance resolved)))
        · intro w₂ reply within'
          have told := answered w₂ _ reply rfl
            (quiet _ _ within' (acknowledged _ _ _ (quiet _ _ .advance resolved)))
          exact ⟨durable _ told, told⟩
      -- not applied: it stays as it was received
      next => exact back

/-- An invariant over the controls has to be checked against commands and restarts only. -/
theorem run_controlled {J D : World → Prop}
    (began : ∀ op w, J w → J (w.note (.began op)))
    (quiet : ∀ parts w w', .control ∉ parts → .run ∉ parts → Within parts w w' → J w → J w')
    (commands : ∀ cmd w, J w → wp (applyControl cmd) (fun _ => J) D e w)
    (durable : ∀ w, J w → D w) (recovers : ∀ w, D w → J (recover w))
    (restarts : ∀ w, J w → J (restart w)) (ops : List Operation) (initial : J w) :
    J (run e w ops) := by
  -- whatever stops in between, the recovery starts from what is durable
  have settles : ∀ {α : Type} {m : Orch α} {w : World}, wp m (fun _ => J) D e w →
      wp (m >>= fun _ => pure ()) (fun _ => J) (fun w' => J (recover w')) e w := by
    intro α m w kept
    simp only [wp_bind, wp_pure]
    exact wp_mono kept (fun _ _ h => h) recovers
  -- steps that touch no control are quiet
  have others : ∀ {α : Type} {m : Orch α} {parts : List Part} {w : World}, Touches e parts m →
      .control ∉ parts → .run ∉ parts → J w → wp m (fun _ => J) D e w := by
    intro α m parts w touches control run holds
    exact wp_mono (touches.keeps (fun w w' => quiet parts w w' control run) w holds)
      (fun _ _ h => h) durable
  refine run_invariant e J (fun op w holds => ?_) ops w initial
  have running := began op w holds
  cases op with
  | step => exact settles (others proceeds_step.touches (by simp) (by simp) running)
  | emit evt =>
    exact settles (others (touches_emit [.outbox] evt (by simp)) (by simp) (by simp) running)
  | applyControl cmd => exact settles (commands cmd _ running)
  | syncPolicy =>
    exact settles (others proceeds_syncPolicy.touches_only (by simp) (by simp) running)
  | restart => exact restarts _ running

end Rules

/-! ### At most once -/

section Once

variable {e : Environment} {s t t' : FotaCloudStateStore} {w w' : World}

theorem ControlsKept.refl (s : FotaCloudStateStore) : ControlsKept s s :=
  fun _ r found => ⟨r, found, fun _ => rfl⟩

theorem ControlsKept.trans (h : ControlsKept s t) (h' : ControlsKept t t') :
    ControlsKept s t' := by
  intro revision r found
  obtain ⟨r₁, found₁, same₁⟩ := h revision r found
  obtain ⟨r₂, found₂, same₂⟩ := h' revision r₁ found₁
  refine ⟨r₂, found₂, fun settled => ?_⟩
  obtain rfl := same₁ settled
  exact same₂ settled

theorem controlsKept_of_same (same : t.controls = s.controls) : ControlsKept s t := by
  intro revision r found
  refine ⟨r, ?_, fun _ => rfl⟩
  unfold FotaCloudStateStore.loadControl at found ⊢
  rw [same]
  exact found

/-- A record is only written over one that has no acknowledgement yet. -/
theorem controlsKept_save {r : FotaControlRecord}
    (unsettled : ∀ r' ∈ s.loadControl r.controlRevision, r'.ackStatus = "") :
    ControlsKept s (s.save (.control r)) := by
  intro revision r' found
  by_cases same : r.controlRevision = revision
  · subst same
    refine ⟨r, Keyed.get_insert_self _ _, fun settled => ?_⟩
    exact absurd (unsettled r' found) settled
  · exact ⟨r', (Keyed.get_insert_ne _ _ same).trans found, fun _ => rfl⟩

/-- The invariant: besides, whatever went to the executor is still on record. -/
structure ControlsOnce (w : World) : Prop where
  once : Always AppliedOnce w.trace
  kept : ∀ a ∈ w.trace, ControlsKept a.store w.store
  handed : ∀ a ∈ w.trace, ∀ cmd, a.event = .called (.apply cmd) →
    w.store.loadControl cmd.controlRevision ≠ none

/-- Steps that touch no control keep it. -/
theorem ControlsOnce.within {parts : List Part} (h : ControlsOnce w) (within : Within parts w w')
    (control : .control ∉ parts) : ControlsOnce w' := by
  obtain ⟨new, trace, on⟩ := within.trace
  have same : w'.store.controls = w.store.controls := (within.same .control control).2.2.2.2
  -- such a step sees and leaves the controls as they were
  have entry : ∀ a : Entry, a.On parts w → a.store.controls = w.store.controls := fun a on =>
    (on.2 .control control).2.2.2.2
  have silent : ∀ a : Entry, a.On parts w → ∀ cmd, a.event ≠ .called (.apply cmd) := by
    intro a on cmd apply
    exact control (by simpa [apply, Event.part, Call.part] using on.1)
  refine ⟨within.always_on (fun a before on all => ⟨fun b member => ?_, ?_⟩) h.once, ?_, ?_⟩
  · rcases List.mem_append.mp member with new | old
    · exact controlsKept_of_same ((entry a on).trans (entry b (all b new)).symm)
    · exact (h.kept b old).trans (controlsKept_of_same (entry a on))
  · split
    next apply => exact absurd apply (silent a on _)
    next => trivial
  · intro a member
    rw [trace] at member
    rcases List.mem_append.mp member with fresh | old
    · exact controlsKept_of_same (same.trans (entry a (on a fresh)).symm)
    · exact (h.kept a old).trans (controlsKept_of_same same)
  · intro a member cmd apply
    rw [trace] at member
    unfold FotaCloudStateStore.loadControl
    rw [same]
    rcases List.mem_append.mp member with fresh | old
    · exact absurd apply (silent a (on a fresh) cmd)
    · exact h.handed a old cmd apply

/-- An effect that neither hands a command to the executor nor loses a control. -/
theorem ControlsOnce.effect (h : ControlsOnce w) (event : Event)
    (silent : ∀ cmd, event ≠ .called (.apply cmd))
    (kept : ControlsKept w.store (w.effect event).store) : ControlsOnce (w.effect event) := by
  refine ⟨⟨⟨h.kept, ?_⟩, h.once⟩, fun a member => ?_, fun a member cmd apply => ?_⟩
  · split
    next apply => exact absurd apply (silent _)
    next => trivial
  · rcases List.mem_cons.mp member with rfl | old
    · exact kept
    · exact (h.kept a old).trans kept
  · rcases List.mem_cons.mp member with rfl | old
    · exact absurd apply (silent cmd)
    · obtain ⟨r, found⟩ := Option.ne_none_iff_exists'.mp (h.handed a old cmd apply)
      obtain ⟨r', found', -⟩ := kept _ r found
      exact Option.ne_none_iff_exists'.mpr ⟨r', found'⟩

/-- A command that is not on record may be recorded and handed over. -/
theorem ControlsOnce.receive {cmd : ControlCommand} (h : ControlsOnce w)
    (unknown : w.store.loadControl cmd.controlRevision = none) :
    ControlsOnce (w.effect (.saved (.control (controlRecord cmd)))) ∧
      ControlsOnce ((w.receive cmd).effect (.called (.apply cmd))) := by
  have saved : ControlsOnce (w.effect (.saved (.control (controlRecord cmd)))) :=
    h.effect _ (by simp) (controlsKept_save fun r found => by
      cases unknown.symm.trans found)
  have recorded : (w.receive cmd).store.loadControl cmd.controlRevision =
      some (controlRecord cmd) := Keyed.get_insert_self _ (controlRecord cmd)
  refine ⟨saved, ⟨⟨saved.kept, recorded, ?_⟩, saved.once⟩, ?_, ?_⟩
  -- the record of another revision is not touched by the save
  · -- A command that went to the executor is on record, and this one was not.
    intro b member cmd' apply same
    rcases List.mem_cons.mp member with rfl | old
    · cases apply
    · exact h.handed b old cmd' apply (same ▸ unknown)
  · intro a member
    rcases List.mem_cons.mp member with rfl | old
    · exact .refl _
    · exact saved.kept a old
  · intro a member cmd' apply
    rcases List.mem_cons.mp member with rfl | old
    · cases apply
      simp [World.effect, recorded]
    · exact saved.handed a old cmd' apply

/-- A command keeps the invariant. -/
theorem controlsOnce_applyControl (cmd : ControlCommand) (h : ControlsOnce w) :
    wp (applyControl cmd) (fun _ => ControlsOnce) ControlsOnce e w := by
  refine wp_applyControl (fun _ _ within h => h.within within (by simp)) (fun _ h => h)
    (fun w c r _ h => h.effect _ (by simp) (.refl _))
    (fun w req ctx h => h.effect _ (by simp) (.refl _)) h h.receive ?_
  intro w' now _ holds same
  -- the record is still the one of the reception
  have recorded : w'.store.loadControl cmd.controlRevision = some (controlRecord cmd) := by
    unfold FotaCloudStateStore.loadControl
    rw [same.2.2.2.2]
    exact Keyed.get_insert_self _ (controlRecord cmd)
  have counted : ControlsOnce ((w'.withMemory fun m =>
      { m with ackSeq := m.ackSeq + 1 }).advance) := ⟨holds.once, holds.kept, holds.handed⟩
  have saved := counted.effect (.saved (.control (appliedRecord cmd w'.mem.ackSeq now)))
    (by simp) (controlsKept_save fun r found => by
      cases recorded.symm.trans found
      rfl)
  exact ⟨saved, saved.once, saved.kept, saved.handed⟩

end Once

/-- Over every run, from any store and with crashes and restarts anywhere: the executor gets at
most one command with each revision, after it was recorded, and no control is lost or changed
once it is acknowledged. -/
theorem controls_applied_once (env : Environment) (s : FotaCloudStateStore)
    (ops : List Operation) :
    let w := run env (boot s) ops
    Always AppliedOnce w.trace ∧ ∀ a ∈ w.trace, ControlsKept a.store w.store := by
  have noted : ∀ w event, event.part = .run → ControlsOnce w → ControlsOnce (w.note event) :=
    fun w event part h => h.within (.note_run event part) (by simp)
  have restarts : ∀ w, ControlsOnce w → ControlsOnce (restart w) := fun w h =>
    noted (w.withMemory fun _ => loadFromStore w.store {}) .restarted rfl
      ⟨h.once, h.kept, h.handed⟩
  have initial : ControlsOnce { store := s } := ⟨trivial, by simp, by simp⟩
  have kept := run_controlled (e := env) (J := ControlsOnce) (D := ControlsOnce)
    (fun op w => noted w (.began op) rfl)
    (fun _ _ _ control _ within h => h.within within control)
    (fun cmd _ => controlsOnce_applyControl cmd) (fun _ h => h)
    (fun w h => restarts _ (noted w .crashed rfl h)) restarts ops
    (restarts _ initial)
  exact ⟨kept.once, kept.kept⟩

/-! ### Acknowledgement numbers -/

/-- The command was applied, in the words of the present or of the earlier contract. -/
def FotaControlRecord.isApplied (r : FotaControlRecord) : Bool :=
  r.ackStatus = controlAckStatusName .applied || r.ackStatus = "APPLIED"

/-- What the present process has done. -/
def sinceStart : List Entry → List Entry
  | [] => []
  | a :: past =>
    match a.event with
    | .restarted => []
    | _ => a :: sinceStart past

/-- What earlier processes have done. -/
def beforeStart : List Entry → List Entry
  | [] => []
  | a :: past =>
    match a.event with
    | .restarted => past
    | _ => beforeStart past

/-- The control records written, newest first. -/
def controlSaves : List Entry → List FotaControlRecord
  | [] => []
  | a :: past =>
    match a.event with
    | .saved (.control r) => r :: controlSaves past
    | _ => controlSaves past

/-- The records of the commands that were applied, newest first. -/
def applications (past : List Entry) : List FotaControlRecord :=
  (controlSaves past).filter (·.isApplied)

/-- A command gets a greater number than all that were applied before it, in the run or before the
run began over `s`. -/
def AckSeqIncreases (s : FotaCloudStateStore) (a : Entry) (past : List Entry) : Prop :=
  match a.event with
  | .saved (.control r) => r.isApplied →
    (∀ revision, ∀ r' ∈ s.loadControl revision, r'.isApplied →
      r'.ackSequenceNo < r.ackSequenceNo) ∧
    ∀ r' ∈ applications past, r'.ackSequenceNo < r.ackSequenceNo
  | _ => True

/-- No earlier process applied a command, and `s` has no number of an applied one. -/
def FirstToApply (s : FotaCloudStateStore) (past : List Entry) : Prop :=
  (∀ revision, ∀ r ∈ s.loadControl revision, r.isApplied → r.ackSequenceNo = 0) ∧
    applications (beforeStart past) = []

/-- Commands are applied by one process only. -/
def AppliedByFirst (s : FotaCloudStateStore) (a : Entry) (past : List Entry) : Prop :=
  match a.event with
  | .saved (.control r) => r.isApplied → FirstToApply s past
  | _ => True

/-- The invariant: the numbers of a process start at one, and those of other processes are in the
way of the first of them. -/
structure AcksNumbered (s : FotaCloudStateStore) (w : World) : Prop where
  agree : Always (AckSeqIncreases s) w.trace ↔ Always (AppliedByFirst s) w.trace
  numbered : ∀ r ∈ applications w.trace, 0 < r.ackSequenceNo
  positive : 0 < w.mem.ackSeq
  below : ∀ r ∈ applications (sinceStart w.trace), r.ackSequenceNo < w.mem.ackSeq
  first : 1 < w.mem.ackSeq → Always (AckSeqIncreases s) w.trace → FirstToApply s w.trace

/-- What a crash leaves of it. -/
structure AcksKept (s : FotaCloudStateStore) (w : World) : Prop where
  agree : Always (AckSeqIncreases s) w.trace ↔ Always (AppliedByFirst s) w.trace
  numbered : ∀ r ∈ applications w.trace, 0 < r.ackSequenceNo

section Acks

variable {e : Environment} {s : FotaCloudStateStore} {w w' : World} {parts : List Part}

theorem AcksNumbered.kept (h : AcksNumbered s w) : AcksKept s w := ⟨h.agree, h.numbered⟩

/-- The records of a run are those of this process and those of the earlier ones. -/
theorem controlSaves_split (past : List Entry) :
    controlSaves past = controlSaves (sinceStart past) ++ controlSaves (beforeStart past) := by
  induction past with
  | nil => rfl
  | cons a past ih =>
    cases event : a.event with
    | restarted => simp [controlSaves, sinceStart, beforeStart, event]
    | saved save => cases save <;> simpa [controlSaves, sinceStart, beforeStart, event] using ih
    | _ => simpa [controlSaves, sinceStart, beforeStart, event] using ih

theorem mem_applications {past : List Entry} {r : FotaControlRecord} :
    r ∈ applications past ↔
      r ∈ applications (sinceStart past) ∨ r ∈ applications (beforeStart past) := by
  unfold applications
  rw [controlSaves_split, List.filter_append, List.mem_append]

/-- The entry neither starts a process nor applies a command. -/
def Entry.AppliesNothing (a : Entry) : Prop :=
  a.event ≠ .restarted ∧ ∀ r, a.event = .saved (.control r) → r.isApplied = false

/-- An entry that applies nothing adds nothing to either. -/
theorem Entry.AppliesNothing.traces {a : Entry} (h : a.AppliesNothing) (past : List Entry) :
    sinceStart (a :: past) = a :: sinceStart past ∧
      beforeStart (a :: past) = beforeStart past ∧
      applications (a :: past) = applications past := by
  obtain ⟨running, other⟩ := h
  cases event : a.event with
  | restarted => exact absurd event running
  | saved save =>
    cases save with
    | control r => simp [sinceStart, beforeStart, applications, controlSaves, event, other r event]
    | _ => simp [sinceStart, beforeStart, applications, controlSaves, event]
  | _ => simp [sinceStart, beforeStart, applications, controlSaves, event]

theorem Entry.AppliesNothing.always {a : Entry} (h : a.AppliesNothing) (past : List Entry) :
    AckSeqIncreases s a past ∧ AppliedByFirst s a past := by
  unfold AckSeqIncreases AppliedByFirst
  constructor
  all_goals
    split
    next r event =>
      intro applied
      simp [h.2 r event] at applied
    next => trivial

/-- Such an entry keeps the numbering. -/
theorem AcksNumbered.grow (h : AcksNumbered s w) (a : Entry) (silent : a.AppliesNothing)
    (same : w'.mem.ackSeq = w.mem.ackSeq) (trace : w'.trace = a :: w.trace) :
    AcksNumbered s w' := by
  obtain ⟨since, before, records⟩ := silent.traces w.trace
  obtain ⟨increases, first⟩ := silent.always (s := s) w.trace
  -- the entry is no application, of this process or of another
  have since : applications (sinceStart w'.trace) = applications (sinceStart w.trace) := by
    rw [trace, since]
    exact (silent.traces _).2.2
  refine ⟨?_, ?_, ?_, ?_, ?_⟩
  · rw [trace, always_cons, always_cons]
    simp [increases, first, h.agree]
  · rw [trace, records]
    exact h.numbered
  · rw [same]
    exact h.positive
  · rw [since, same]
    exact h.below
  · rw [same, trace]
    intro counted met
    unfold FirstToApply
    rw [before]
    exact h.first counted met.2

/-- Steps that touch no control and start no process keep the numbering. -/
theorem AcksNumbered.within (h : AcksNumbered s w) (within : Within parts w w')
    (control : .control ∉ parts) (run : .run ∉ parts) : AcksNumbered s w' := by
  obtain ⟨new, trace, on⟩ := within.trace
  have same : w'.mem.ackSeq = w.mem.ackSeq := (within.same .control control).1
  clear within
  -- by induction on the new entries, each of which applies nothing
  induction new generalizing w' with
  | nil => exact ⟨trace ▸ h.agree, trace ▸ h.numbered, same ▸ h.positive,
      by rw [trace, same]; exact h.below, by rw [trace, same]; exact h.first⟩
  | cons a new ih =>
    have rest : AcksNumbered s { w' with trace := new ++ w.trace } :=
      ih rfl (fun b member => on b (by simp [member])) same
    refine rest.grow a ⟨?_, ?_⟩ rfl trace
    · intro restarted
      exact run (by simpa [restarted, Event.part] using (on a (by simp)).1)
    · intro r saved
      have part := (on a (by simp)).1
      rw [saved] at part
      exact absurd part control

/-- A number above those of the process is above all, unless an earlier process applied one. -/
theorem AcksNumbered.apply (h : AcksNumbered s w) {r : FotaControlRecord} (applied : r.isApplied)
    (number : r.ackSequenceNo = w.mem.ackSeq) (m : Memory) (store : FotaCloudStateStore)
    (tick : Nat) :
    let a : Entry := ⟨.saved (.control r), m, store, tick⟩
    (AckSeqIncreases s a w.trace ∧ Always (AckSeqIncreases s) w.trace ↔
      AppliedByFirst s a w.trace ∧ Always (AppliedByFirst s) w.trace) ∧
    (AckSeqIncreases s a w.trace → Always (AckSeqIncreases s) w.trace →
      FirstToApply s w.trace) := by
  intro a
  -- a number that is not the first is above one given before, and so above them all
  have first : AckSeqIncreases s a w.trace → Always (AckSeqIncreases s) w.trace →
      FirstToApply s w.trace := by
    intro increases before
    obtain ⟨initial, earlier⟩ := increases applied
    rcases Nat.lt_or_eq_of_le h.positive with counted | one
    · exact h.first counted before
    · -- The number is one, so that there can be no smaller one.
      constructor
      · intro revision r' found done
        have smaller := initial revision r' found done
        omega
      · apply List.eq_nil_iff_forall_not_mem.mpr
        intro r' member
        have member := mem_applications.mpr (.inr member)
        have smaller := earlier r' member
        have above := h.numbered r' member
        omega
  refine ⟨⟨fun both => ?_, fun both => ?_⟩, first⟩
  -- if the numbers increase, no earlier process has applied one
  · exact ⟨fun _ => first both.1 both.2, h.agree.mp both.2⟩
  -- and where this is the first process to apply, nothing is in the way
  · refine ⟨fun _ => ⟨?_, ?_⟩, h.agree.mpr both.2⟩
    · intro revision r' found done
      have none := (both.1 applied).1 revision r' found done
      have positive := h.positive
      omega
    · intro r' member
      rcases mem_applications.mp member with own | earlier
      · rw [number]
        exact h.below r' own
      · rw [(both.1 applied).2] at earlier
        cases earlier

theorem isApplied_appliedRecord (cmd : ControlCommand) (ackSequenceNo : Nat) (now : Int) :
    (appliedRecord cmd ackSequenceNo now).isApplied := by
  simp [FotaControlRecord.isApplied, appliedRecord]

theorem isApplied_controlRecord (cmd : ControlCommand) : (controlRecord cmd).isApplied = false := by
  simp [FotaControlRecord.isApplied, controlRecord, controlAckStatusName]

/-- An application takes the next number of its process. -/
theorem AcksNumbered.recordApplied (h : AcksNumbered s w) (cmd : ControlCommand) (now : Int) :
    AcksNumbered s (w.recordApplied cmd now) := by
  have applied := isApplied_appliedRecord cmd w.mem.ackSeq now
  obtain ⟨agree, first⟩ := h.apply applied rfl { w.mem with ackSeq := w.mem.ackSeq + 1 } w.store
    (w.tick + 1)
  refine ⟨agree, ?_, Nat.succ_pos _, ?_, fun _ met => first met.1 met.2⟩
  -- the numbers so far are positive, and so is this one
  · simp only [World.recordApplied, World.effect_trace, applications, controlSaves, applied,
      List.filter_cons_of_pos]
    intro r member
    rcases List.mem_cons.mp member with rfl | member
    · exact h.positive
    · exact h.numbered r member
  -- the counter goes past the number it gave
  · simp only [World.recordApplied, World.effect_trace, sinceStart, applications, controlSaves,
      applied, List.filter_cons_of_pos]
    intro r member
    rcases List.mem_cons.mp member with rfl | member
    · exact Nat.lt_succ_self _
    · exact Nat.lt_succ_of_lt (h.below r member)

/-- A command keeps the numbering. -/
theorem acksNumbered_applyControl (cmd : ControlCommand) (h : AcksNumbered s w) :
    wp (applyControl cmd) (fun _ => AcksNumbered s) (AcksKept s) e w := by
  have quiet : ∀ w event, event ≠ .restarted →
      (∀ r, event = .saved (.control r) → r.isApplied = false) → AcksNumbered s w →
      AcksNumbered s (w.effect event) := fun w event running other h =>
    h.grow ⟨event, w.mem, w.store, w.tick⟩ ⟨running, other⟩ rfl rfl
  refine wp_applyControl (fun _ _ within h => h.within within (by simp) (by simp))
    (fun _ h => h.kept) (fun w c r _ h => quiet w _ (by simp) (by simp) h)
    (fun w req ctx h => quiet w _ (by simp) (by simp) h) h (fun _ => ?_) fun w' now _ h _ => ?_
  -- the reception has no number
  · have saved := quiet w (.saved (.control (controlRecord cmd))) (by simp)
      (by rintro r ⟨⟩; exact isApplied_controlRecord cmd) h
    have received : AcksNumbered s (w.receive cmd) := { saved with }
    exact ⟨saved.kept, quiet _ _ (by simp) (by simp) received⟩
  -- the application has the one of the counter
  · have recorded := h.recordApplied cmd now
    exact ⟨recorded.kept, { recorded with }⟩

end Acks

/-- Over every run, from any store and with crashes and restarts anywhere: acknowledgement numbers
increase in the order of application exactly if all commands are applied by one process, and none
with a number was applied before the run. -/
theorem ack_numbers_increase_iff (env : Environment) (s : FotaCloudStateStore)
    (ops : List Operation) :
    Always (AckSeqIncreases s) (run env (boot s) ops).trace ↔
      Always (AppliedByFirst s) (run env (boot s) ops).trace := by
  have restarts : ∀ w, AcksKept s w → AcksNumbered s (restart w) := by
    intro w h
    -- a new process counts from one and has applied nothing
    have one : (loadFromStore w.store {}).ackSeq = 1 := by
      unfold loadFromStore loadOutbox loadExecution
      grind
    refine ⟨?_, h.numbered, ?_, ?_, ?_⟩
    · simp only [restart_trace, always_cons, h.agree]
      simp [AckSeqIncreases, AppliedByFirst]
    · rw [restart_mem, one]
      exact Nat.one_pos
    · intro r member
      cases member
    · rw [restart_mem, one]
      intro counted
      exact absurd counted (Nat.lt_irrefl 1)
  -- nothing was applied yet
  have initial : AcksKept s { store := s } := ⟨Iff.rfl, by simp [applications, controlSaves]⟩
  have noted : ∀ w event, event = .crashed ∨ (∃ op, event = .began op) → AcksKept s w →
      AcksKept s (w.note event) := by
    intro w event idle h
    constructor
    · simp only [World.note_trace, always_cons, h.agree]
      rcases idle with rfl | ⟨op, rfl⟩ <;> simp [AckSeqIncreases, AppliedByFirst]
    · rcases idle with rfl | ⟨op, rfl⟩ <;> exact h.numbered
  have kept := run_controlled (e := env) (J := AcksNumbered s) (D := AcksKept s)
    (fun op w h => h.grow ⟨.began op, w.mem, w.store, w.tick⟩ ⟨by simp, by simp⟩ rfl rfl)
    (fun _ _ _ control run within h => h.within within control run)
    (fun cmd _ => acksNumbered_applyControl cmd) (fun _ h => h.kept)
    (fun w h => restarts _ (noted w .crashed (.inl rfl) h)) (fun w h => restarts w h.kept) ops
    (restarts _ initial)
  exact kept.agree

/-- Each process counts from one again. -/
theorem ack_number_is_repeated :
    let ops := [.applyControl { controlRevision := 1 }, .restart,
      .applyControl { controlRevision := 2 }]
    ¬Always (AckSeqIncreases {}) (run cooperative (boot {}) ops).trace := by
  intro ops increases
  have repeated : ¬Always (fun a past => ∀ r ∈ applications [a], ∀ r' ∈ applications past,
      r'.ackSequenceNo < r.ackSequenceNo) (run cooperative (boot {}) ops).trace := by
    decide +kernel
  refine repeated (increases.mono fun a past holds r member r' before => ?_)
  -- only the save of an applied record can repeat a number
  cases event : a.event with
  | saved save =>
    cases save with
    | control r =>
      by_cases applied : r.isApplied
      · simp only [applications, controlSaves, event, applied, List.filter_cons_of_pos,
          List.filter_nil, List.mem_singleton] at member
        simp only [AckSeqIncreases, event] at holds
        exact member ▸ (holds applied).2 r' before
      · simp [applications, controlSaves, event, applied] at member
    | _ => simp [applications, controlSaves, event] at member
  | _ => simp [applications, controlSaves, event] at member

end CgwFota
