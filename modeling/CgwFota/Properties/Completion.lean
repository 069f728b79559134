import CgwFota.Orchestrator.Advance

/-!
# Completion

The status in the reply to the final result decides on the state of the task. The enumeration is
open on the wire, and its mapping sends every value without a counterpart to `NONE`; `doFinalize`
then falls back to `COMPLETED`. So a reply that leaves the status out, or gives one this build does
not know, ends the campaign.

## Main result

`completed_as_told_iff`: in every run completion is only what the cloud said exactly if no status
that names no state is ever taken over.

## Proof strategy

Both sides are safety properties of the trace, and they are carried through the run together. Up
to the reply neither of them can break. After an accepted reply with a named status both go on
holding, and with an unnamed one both are broken before the next effect: nothing can crash between
the assignment of the execution state and the fallback.
-/
namespace CgwFota

open Crash

/-- The reply to the final result, if the operation under way has got one. -/
def finalResponse : List Entry → Option FinalResultResponse
  | [] => none
  | a :: past =>
    match a.event with
    | .began _ => none
    | .returned (.reportFinalResult _ _) (.ok resp) => some resp
    | _ => finalResponse past

/-- The status is neither left out nor unknown to this build. -/
def VehicleTaskStatus.NamesState (status : VehicleTaskStatus) : Prop :=
  fromProtoVehicleTask status ≠ .none

/-- The cloud accepted the final result of the operation under way and said `COMPLETED`. -/
def ToldCompleted (past : List Entry) : Prop :=
  ∃ resp ∈ finalResponse past, resp.resultAccepted ∧ resp.vehicleTaskStatus = .completed

/-- The reply to the final result of the operation under way names no state of the task. -/
def RepliedUnnamed (past : List Entry) : Prop :=
  ∃ resp ∈ finalResponse past, ¬resp.vehicleTaskStatus.NamesState

/-- Completion is only what the cloud said. The task is not final when the reply arrives; it becomes
`COMPLETED`, in memory and in the store, only if the cloud said so, and a status that names no state
does not lead to a final state. -/
def CompletedAsTold (a : Entry) (past : List Entry) : Prop :=
  match a.event with
  | .returned (.reportFinalResult _ _) _ => isTerminalVehicleTaskState a.mem.vtState = false
  | .moved =>
    (a.mem.vtState = .completed → ToldCompleted past) ∧
      (RepliedUnnamed past → isTerminalVehicleTaskState a.mem.vtState = false)
  | .saved (.vehicleTask r) =>
    (r.vehicleTaskState = vehicleTaskStateToString .completed → ToldCompleted past) ∧
      (RepliedUnnamed past → r.vehicleTaskState ≠ vehicleTaskStateToString .completed ∧
        r.vehicleTaskState ≠ vehicleTaskStateToString .ended)
  | _ => True

/-- No status that names no state is taken over. An accepted reply is, unless the process dies
before it gets to it. -/
def NamedWhenTaken (a : Entry) (past : List Entry) : Prop :=
  match a.event with
  | .moved => ∀ resp ∈ finalResponse past, resp.resultAccepted → resp.vehicleTaskStatus.NamesState
  | _ => True

instance (status : VehicleTaskStatus) : Decidable status.NamesState :=
  inferInstanceAs (Decidable (_ ≠ _))

instance (past : List Entry) : Decidable (ToldCompleted past) :=
  inferInstanceAs (Decidable (∃ resp ∈ finalResponse past, _))

instance (past : List Entry) : Decidable (RepliedUnnamed past) :=
  inferInstanceAs (Decidable (∃ resp ∈ finalResponse past, _))

instance (a : Entry) (past : List Entry) : Decidable (CompletedAsTold a past) := by
  obtain ⟨_ | _ | ⟨c, _⟩ | s | _, _, _, _⟩ := a
  all_goals unfold CompletedAsTold; try infer_instance
  · rcases c with _ | _ <;> infer_instance
  · rcases s with _ | _ <;> infer_instance

/-- The invariant: completion was as told so far exactly if only named statuses were taken over so
far. -/
def CompletionAgrees (w : World) : Prop :=
  Always CompletedAsTold w.trace ↔ Always NamedWhenTaken w.trace

/-- The invariant of an operation before it has a reply to the final result. -/
structure Incomplete (w : World) : Prop where
  agrees : CompletionAgrees w
  pending : finalResponse w.trace = none
  state : w.mem.vtState ≠ .completed

section Completion

variable {e : Environment} {w w' : World} {parts : List Part}

/-- The statuses that name a state are exactly the images of the states other than `NONE`. -/
theorem namesState_iff {status : VehicleTaskStatus} :
    status.NamesState ↔ ∃ s ≠ VehicleTaskState.none, status = toProto s := by
  constructor
  · intro named
    refine ⟨fromProtoVehicleTask status, named, ?_⟩
    cases status <;> first | rfl | exact absurd rfl named
  · rintro ⟨s, something, rfl⟩
    unfold VehicleTaskStatus.NamesState
    rw [fromProto_toProto]
    exact something

/-- Once the reply is there, only its status matters. -/
theorem repliedUnnamed_iff {resp : FinalResultResponse} {past : List Entry}
    (reply : finalResponse past = some resp) :
    RepliedUnnamed past ↔ ¬resp.vehicleTaskStatus.NamesState := by
  simp [RepliedUnnamed, reply]

theorem completed_of_named {status : VehicleTaskStatus}
    (completed : fromProtoVehicleTask status = .completed) : status = .completed := by
  have named : status.NamesState := by simp [VehicleTaskStatus.NamesState, completed]
  obtain ⟨s, -, rfl⟩ := namesState_iff.mp named
  rw [fromProto_toProto] at completed
  rw [completed]
  rfl

/-! ### Entries about which neither side says anything -/

/-- Neither side speaks about anything but moves, task records and the reply. -/
theorem completion_idle {a : Entry} (past : List Entry) (phase : a.event.part ≠ .phase)
    (moved : a.event.part ≠ .moved) (result : a.event.part ≠ .result) :
    CompletedAsTold a past ∧ NamedWhenTaken a past := by
  constructor
  · unfold CompletedAsTold
    split
    next same => exact absurd (congrArg Event.part same) result
    next same => exact absurd (congrArg Event.part same) moved
    next same => exact absurd (congrArg Event.part same) phase
    next => trivial
  · unfold NamedWhenTaken
    split
    next same => exact absurd (congrArg Event.part same) moved
    next => trivial

/-- A move before there is a reply is fine with both sides, unless it completes the task. -/
theorem completion_pending {a : Entry} {past : List Entry} (pending : finalResponse past = none)
    (state : a.mem.vtState ≠ .completed) (phase : a.event.part ≠ .phase)
    (result : a.event.part ≠ .result) : CompletedAsTold a past ∧ NamedWhenTaken a past := by
  by_cases moved : a.event = .moved
  · constructor
    · simp [CompletedAsTold, moved, state, RepliedUnnamed, pending]
    · simp [NamedWhenTaken, moved, pending]
  · refine completion_idle past phase (fun same => moved ?_) result
    -- `.moved` is the only event of its part.
    cases event : a.event with
    | moved => rfl
    | called c => cases c <;> simp [event, Event.part, Call.part] at same
    | returned c r => cases c <;> simp [event, Event.part, Call.part] at same
    | saved s => cases s <;> simp [event, Event.part, Save.part] at same
    | _ => simp [event, Event.part] at same

/-- Only a reply and the beginning of an operation change what the reply under way is. -/
theorem finalResponse_cons {a : Entry} (past : List Entry) (result : a.event.part ≠ .result)
    (run : a.event.part ≠ .run) : finalResponse (a :: past) = finalResponse past := by
  cases event : a.event with
  | returned c r => cases c <;> simp_all [finalResponse, Event.part, Call.part]
  | _ => simp_all [finalResponse, Event.part]

/-- The reply under way stays the same over entries that are about neither. -/
theorem finalResponse_append {new : List Entry} (past : List Entry)
    (idle : ∀ a ∈ new, a.event.part ≠ .result ∧ a.event.part ≠ .run) :
    finalResponse (new ++ past) = finalResponse past := by
  induction new with
  | nil => rfl
  | cons a new ih =>
    obtain ⟨result, run⟩ := idle a (by simp)
    rw [List.cons_append, finalResponse_cons _ result run]
    exact ih fun b member => idle b (by simp [member])

/-! ### What keeps the two sides in step -/

theorem CompletionAgrees.cons (h : CompletionAgrees w) {a : Entry}
    (trace : w'.trace = a :: w.trace)
    (same : CompletedAsTold a w.trace ↔ NamedWhenTaken a w.trace) : CompletionAgrees w' := by
  unfold CompletionAgrees at h ⊢
  rw [trace, always_cons, always_cons, h, same]

theorem CompletionAgrees.within_on (h : CompletionAgrees w) (within : Within parts w w')
    (fresh : ∀ a before, a.On parts w → (∀ b ∈ before, b.On parts w) →
      CompletedAsTold a (before ++ w.trace) ∧ NamedWhenTaken a (before ++ w.trace)) :
    CompletionAgrees w' := by
  constructor
  · intro told
    exact within.always_on (fun a before on all => (fresh a before on all).2)
      (h.mp (within.past told))
  · intro named
    exact within.always_on (fun a before on all => (fresh a before on all).1)
      (h.mpr (within.past named))

theorem CompletionAgrees.within (h : CompletionAgrees w) (within : Within parts w w')
    (phase : .phase ∉ parts) (moved : .moved ∉ parts) (result : .result ∉ parts) :
    CompletionAgrees w' :=
  h.within_on within fun _ _ on _ => completion_idle _ (fun same => phase (same ▸ on.1))
    (fun same => moved (same ▸ on.1)) fun same => result (same ▸ on.1)

theorem CompletionAgrees.of_broken (within : Within parts w w')
    (told : ¬Always CompletedAsTold w.trace) (named : ¬Always NamedWhenTaken w.trace) :
    CompletionAgrees w' :=
  iff_of_false (fun all => told (within.past all)) fun all => named (within.past all)

theorem Incomplete.within (h : Incomplete w) (within : Within parts w w') (phase : .phase ∉ parts)
    (result : .result ∉ parts) (run : .run ∉ parts) : Incomplete w' where
  agrees := h.agrees.within_on within fun a before on all => by
    have idle : ∀ b ∈ before, b.event.part ≠ .result ∧ b.event.part ≠ .run := fun b member =>
      ⟨fun same => result (same ▸ (all b member).1), fun same => run (same ▸ (all b member).1)⟩
    refine completion_pending ?_ (fun completed => h.state ?_) (fun same => phase (same ▸ on.1))
      fun same => result (same ▸ on.1)
    · exact (finalResponse_append w.trace idle).trans h.pending
    · exact (on.2 .phase phase).1.symm.trans completed
  pending := (within.observed (fun a past member => finalResponse_cons past
    (fun same => result (same ▸ member)) fun same => run (same ▸ member))).trans h.pending
  state := by rw [(within.same .phase phase).1]; exact h.state

theorem Incomplete.move (h : Incomplete w) {s : VehicleTaskState} (going : s ≠ .completed) :
    Incomplete (w.move s) where
  agrees := by
    obtain ⟨told, named⟩ := completion_pending (a := ⟨.moved, (w.move s).mem, w.store, w.tick⟩)
      h.pending going (by simp [Event.part]) (by simp [Event.part])
    exact h.agrees.cons rfl (iff_of_true told named)
  pending := h.pending
  state := going

theorem Incomplete.persist (h : Incomplete w) (action : String) (now : Int) :
    Incomplete (w.persist action now) where
  agrees := by
    refine h.agrees.cons rfl (iff_of_true ⟨fun completed => ?_, ?_⟩ trivial)
    · exact absurd (vehicleTaskStateToString_injective completed) h.state
    · rintro ⟨resp, reply, -⟩
      simp [h.pending] at reply
  pending := h.pending
  state := h.state

/-- A phase without a final result does not complete the task. -/
theorem incomplete_phase {α : Type} {m : Orch α} {states : VehicleTaskState → Prop}
    {actions : List String} (proceeds : Proceeds e parts states actions m)
    (going : ∀ s, states s → s ≠ .completed) (phase : .phase ∉ parts) (result : .result ∉ parts)
    (run : .run ∉ parts) : Keeps e Incomplete m :=
  proceeds.keeps
    (fun _ _ within h => h.within within (by simpa using phase) (by simpa using result)
      (by simpa using run))
    (fun _ s allowed h => h.move (going s allowed)) fun _ action now _ h => h.persist action now

/-! ### The final result -/

/-- Writing the records that close the execution keeps the two sides in step: with a named status
the task record says what the cloud said, and with an unnamed one both sides are broken already. -/
theorem completion_persistClosed {resp : FinalResultResponse} (h : CompletionAgrees w)
    (reply : finalResponse w.trace = some resp) (accepted : resp.resultAccepted)
    (state : resp.vehicleTaskStatus.NamesState →
      w.mem.vtState = fromProtoVehicleTask resp.vehicleTaskStatus)
    (broken : ¬resp.vehicleTaskStatus.NamesState →
      ¬Always CompletedAsTold w.trace ∧ ¬Always NamedWhenTaken w.trace) :
    wp (persistVehicleTask "finalResult") (fun _ => wp persistExecution
      (fun _ => CompletionAgrees) CompletionAgrees e) CompletionAgrees e w := by
  have stored : CompletionAgrees (w.advance.persist "finalResult" (e.clock w.tick)) := by
    have timed : CompletionAgrees w.advance := h
    -- a named status is what the task record says
    by_cases named : resp.vehicleTaskStatus.NamesState
    · refine timed.cons rfl (iff_of_true ⟨fun completed => ?_, ?_⟩ trivial)
      · have completed := vehicleTaskStateToString_injective completed
        exact ⟨resp, reply, accepted, completed_of_named ((state named).symm.trans completed)⟩
      · exact fun unnamed => absurd named ((repliedUnnamed_iff reply).mp unnamed)
    -- after an unnamed one both sides are broken already
    · obtain ⟨told, taken⟩ := broken named
      have saved : Within [.phase] w (w.advance.persist "finalResult" (e.clock w.tick)) :=
        .trans .advance (.effect _ (by simp [Event.part, Save.part]))
      exact .of_broken saved told taken
  refine wp_persistVehicleTask stored ?_
  exact (touches_persistExecution [.execution, .outbox] (by simp) (by simp)).keeps
    (fun _ _ within h => h.within within (by simp) (by simp) (by simp)) _ stored

/-- The end of the execution takes the status over. -/
theorem completion_closeExecution {report : FinalResultReport} {resp : FinalResultResponse}
    (h : CompletionAgrees w) (reply : finalResponse w.trace = some resp)
    (accepted : resp.resultAccepted) (state : w.mem.vtState = .executing) :
    wp (closeExecution report resp) (fun _ => CompletionAgrees) CompletionAgrees e w := by
  unfold closeExecution
  simp only [wp_bind, wp_setExState, wp_memory, wp_pure]
  have quiet : ∀ w', Within [.outbox, .log] w w' → CompletionAgrees w' := fun _ within =>
    h.within within (by simp) (by simp) (by simp)
  refine wp_mono (touches_doLogUpload w) (fun _ w₁ within => ?_) fun _ within => quiet _ within
  have agrees := quiet w₁ within
  have reply : finalResponse w₁.trace = some resp := (within.observed (fun a past member =>
    finalResponse_cons past (fun same => by simp [same] at member)
      fun same => by simp [same] at member)).trans reply
  have state : w₁.mem.vtState = .executing := (within.same .phase (by simp)).1.trans state
  -- The assignment of the execution state is the first entry that tells the sides apart.
  refine wp_adoptStatus (fun named => ?_) fun unnamed => ?_
  · have taken : ∀ past, finalResponse past = some resp → ∀ resp' ∈ finalResponse past,
        resp'.resultAccepted → resp'.vehicleTaskStatus.NamesState := by
      intro past reply resp' reply' _
      obtain rfl : resp = resp' := Option.some.inj (reply.symm.trans reply')
      exact named
    have answered : ∀ past, finalResponse past = some resp → ¬RepliedUnnamed past :=
      fun past reply unnamed => (repliedUnnamed_iff reply).mp unnamed named
    have closed : CompletionAgrees ((w₁.withMemory fun m =>
        { m with exState := closedExecutionState report resp }).note .moved) := by
      refine agrees.cons rfl (iff_of_true ⟨fun completed => ?_, fun replied => ?_⟩ (taken _ reply))
      · simp [state] at completed
      · exact absurd replied (answered _ reply)
    refine completion_persistClosed (closed.cons rfl (iff_of_true
      ⟨fun completed => ⟨resp, reply, accepted, completed_of_named completed⟩, fun replied => ?_⟩
      (taken _ reply))) reply accepted (fun _ => rfl) fun unnamed => absurd named unnamed
    exact absurd replied (answered _ reply)
  -- the status names no state: the assignment of the execution state breaks both sides
  · have broken : ∀ w' : World, w'.trace = ⟨.moved, { w₁.mem with
          exState := closedExecutionState report resp
          vtState := .completed }, w₁.store, w₁.tick⟩ ::
        ⟨.moved, { w₁.mem with
          exState := closedExecutionState report resp
          vtState := .none }, w₁.store, w₁.tick⟩ ::
        ⟨.moved, { w₁.mem with exState := closedExecutionState report resp }, w₁.store, w₁.tick⟩ ::
        w₁.trace →
        ¬Always CompletedAsTold w'.trace ∧ ¬Always NamedWhenTaken w'.trace := by
      intro w' trace
      rw [trace]
      constructor
      · -- The fallback itself is a final state after an unnamed status.
        rintro ⟨⟨-, going⟩, -⟩
        cases going ((repliedUnnamed_iff reply).mpr fun named => named unnamed)
      · rintro ⟨named, -⟩
        exact named resp reply accepted unnamed
    obtain ⟨told, taken⟩ := broken (((((w₁.withMemory fun m =>
      { m with exState := closedExecutionState report resp }).note .moved).move .none).move
        .completed)) rfl
    exact completion_persistClosed (iff_of_false told taken) reply accepted
      (fun named => absurd unnamed named) fun _ => ⟨told, taken⟩

/-- The task is being executed when its final result is reported. -/
theorem completion_doFinalize (h : Incomplete w) (state : w.mem.vtState = .executing) :
    wp doFinalize (fun _ => CompletionAgrees) CompletionAgrees e w := by
  unfold doFinalize
  simp only [wp_bind, wp_memory, wp_nowMs, wp_makeCtx]
  have called : Incomplete (w.effect (.called .readFinalResult)) :=
    ⟨h.agrees.cons rfl (iff_of_true trivial trivial), h.pending, h.state⟩
  refine wp_call (fun w₁ within => (called.within within (by simp) (by simp) (by simp)).agrees)
    fun w₁ data within => ?_
  have idle := called.within within (by simp) (by simp) (by simp)
  have read : CompletionAgrees (w₁.effect (.returned .readFinalResult data)) :=
    idle.agrees.cons rfl (iff_of_true trivial trivial)
  have state : w₁.mem.vtState = .executing := (within.same .phase (by simp)).1.trans state
  refine ⟨read, ?_⟩
  have asked : ∀ report ctx, CompletionAgrees
      ((w₁.effect (.returned .readFinalResult data)).advance.effect
        (.called (.reportFinalResult report ctx))) := fun report ctx =>
    read.cons rfl (iff_of_true trivial trivial)
  refine wp_call (fun w₂ within => (asked _ _).within within (by simp) (by simp) (by simp))
    fun w₂ reply within => ?_
  have state : w₂.mem.vtState = .executing := (within.same .phase (by simp)).1.trans state
  have going : isTerminalVehicleTaskState w₂.mem.vtState = false := by
    rw [state]
    rfl
  have answered : CompletionAgrees (w₂.effect (.returned (.reportFinalResult _ _) reply)) :=
    ((asked _ _).within within (by simp) (by simp) (by simp)).cons rfl (iff_of_true going trivial)
  refine ⟨answered, ?_⟩
  cases reply with
  -- no answer
  | error ex => exact answered
  | ok resp =>
    simp only [wp_ite, wp_pure]
    split
    -- not accepted
    next => exact answered
    -- accepted: the status is taken over
    next accepted => exact completion_closeExecution answered rfl (by simpa using accepted) state

theorem completion_doExecute (h : Incomplete w) (state : w.mem.vtState = .executing) :
    wp doExecute (fun _ => CompletionAgrees) CompletionAgrees e w :=
  wp_doExecute (I := fun w => Incomplete w ∧ w.mem.vtState = .executing)
    (fun _ _ within h => ⟨h.1.within within (by simp) (by simp) (by simp),
      (within.same .phase (by simp)).1.trans h.2⟩)
    (fun _ h => h.1.agrees) (fun _ _ h => h.1.agrees) (fun _ h => completion_doFinalize h.1 h.2)
    ⟨h, state⟩

/-- A step, by the action of its state. -/
theorem completion_step (h : CompletionAgrees w) :
    wp step (fun _ => CompletionAgrees) CompletionAgrees e (w.note (.began .step)) := by
  have began : CompletionAgrees (w.note (.began .step)) :=
    h.cons rfl (iff_of_true trivial trivial)
  have started : w.mem.vtState ≠ .completed → Incomplete (w.note (.began .step)) :=
    fun going => ⟨began, rfl, going⟩
  have phase : ∀ {m : Orch StepOutcome} {w : World}, Keeps e Incomplete m → Incomplete w →
      wp m (fun _ => CompletionAgrees) CompletionAgrees e w := fun keeps h =>
    wp_mono (keeps _ h) (fun _ _ h => h.agrees) fun _ h => h.agrees
  have permit : Keeps e Incomplete doPermit :=
    incomplete_phase proceeds_doPermit (by simp) (by simp) (by simp) (by simp)
  refine wp_step (fun _ => began) (fun state => ?_) (fun state => ?_) (fun state => ?_)
    (fun state => ?_) (fun state => ?_) (fun state => ?_) fun state => ?_
  -- the check of the task
  · refine phase (incomplete_phase proceeds_doCheckTask (by simp) (by simp) (by simp) (by simp))
      (started fun completed => ?_)
    simp [completed] at state
  -- the consent
  · refine phase (incomplete_phase proceeds_doConsent (by simp) (by simp) (by simp) (by simp))
      (started fun completed => ?_)
    simp [completed] at state
  -- the download
  · refine phase (incomplete_phase proceeds_doDownload (by simp) (by simp) (by simp) (by simp))
      (started fun completed => ?_)
    simp [completed] at state
  -- the permit
  · refine phase permit (started fun completed => ?_)
    simp [completed] at state
  -- the execution
  · refine completion_doExecute (started fun completed => ?_) state
    simp [completed] at state
  -- a retry asks for the permit again
  · refine phase permit ((started fun completed => ?_).move (by simp))
    simp [completed] at state
  -- a rollback is executed first
  · have pending : Incomplete (w.note (.began .step)) := started fun completed => by
      simp [completed] at state
    have rolling : Within [.moved, .execution] (w.note (.began .step))
        (((w.note (.began .step)).withMemory fun m => { m with exState := .rollback }).note
          .moved) := touches_setExState (e := e) _ .rollback (by simp) (by simp) _
    have rolling := pending.within rolling (by simp) (by simp) (by simp)
    exact completion_doExecute (rolling.move (by simp)) rfl

end Completion

/-- Over every run, from any store and with crashes and restarts anywhere: completion is only what
the cloud said exactly if no accepted reply with a status that names no state is taken over. -/
theorem completed_as_told_iff (env : Environment) (s : FotaCloudStateStore)
    (ops : List Operation) :
    Always CompletedAsTold (run env (boot s) ops).trace ↔
      Always NamedWhenTaken (run env (boot s) ops).trace :=
  run_keeps CompletionAgrees CompletionAgrees
    (fun _ _ h => h.cons rfl (iff_of_true trivial trivial))
    (fun _ _ within h => h.within within (by simp) (by simp) (by simp))
    (fun _ h => completion_step h) (fun _ h => h)
    (fun w h => by
      have crashed : CompletionAgrees (w.note .crashed) :=
        h.cons rfl (iff_of_true trivial trivial)
      exact crashed.cons rfl (iff_of_true trivial trivial))
    (fun _ h => h.cons rfl (iff_of_true trivial trivial)) ops Iff.rfl

/-- A task that is carried out, and whose final result is accepted with the given status. -/
def reportedWith (status : VehicleTaskStatus) : World :=
  let env : Environment :=
    { cooperative with
      reply := fun _ c => match c with
        | .reportFinalResult _ _ => .ok { resultAccepted := true, vehicleTaskStatus := status }
        | c => cooperativeReply c }
  run env (boot {}) (List.replicate 6 .step)

/-- The cloud leaves the status out, or gives one this build does not know, and the campaign is
over. -/
theorem unnamed_status_completes :
    (finalResponse (reportedWith .unspecified).trace =
        some { resultAccepted := true, vehicleTaskStatus := .unspecified } ∧
      (reportedWith .unspecified).mem.vtState = .completed ∧
      durableVtState (reportedWith .unspecified).store = .completed ∧
      ¬Always CompletedAsTold (reportedWith .unspecified).trace) ∧
    finalResponse (reportedWith (.unrecognized 99)).trace =
        some { resultAccepted := true, vehicleTaskStatus := .unrecognized 99 } ∧
      (reportedWith (.unrecognized 99)).mem.vtState = .completed ∧
      durableVtState (reportedWith (.unrecognized 99)).store = .completed ∧
      ¬Always CompletedAsTold (reportedWith (.unrecognized 99)).trace := by
  decide +kernel

end CgwFota
