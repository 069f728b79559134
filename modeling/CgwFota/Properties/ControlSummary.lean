import CgwFota.Properties.Controls
import CgwFota.Properties.FinalResult

/-!
# The controls in the final result

The final result sums up the controls from three members of the orchestrator: two revisions, each
overwritten by the next one, and a list of ids. None of them is read back from the store.

## Main definitions

* `ControlSummaryAgrees`: the final result tells what the durable controls say.
* `newest`, `newestRevision`: what the process last recorded of a kind.
* `Awaited`: an id that the process received and has not applied since.
* `ControlsInOrder`: the exact condition, on the controls of the run.

## Main results

* `control_summaries_agree_iff`: over every run the summaries agree exactly if the controls are in
  order.
* `restart_forgets_controls`: after a restart the report knows of no control.

## Proof strategy

`ControlsTraced` says what the three members are in terms of the controls recorded so far, and the
condition is the agreement with those terms put in. The invariant is kept by a command in its two
writes; a restart makes the members and the terms empty together.
-/
namespace CgwFota

open Crash

/-- The greatest revision, or zero where there is none. -/
def greatest (revisions : List Nat) : Nat := revisions.foldr max 0

/-- The revisions under which controls were recorded in the run. -/
def receivedRevisions (past : List Entry) : List Nat := (controlSaves past).map (·.controlRevision)

/-- The store has the control as applied. -/
def isApplied (s : FotaCloudStateStore) (revision : Nat) : Bool :=
  (s.loadControl revision).any (·.isApplied)

/-- The final result tells the greatest received and the greatest applied revision, and the ids of
all controls that are not applied. -/
def ControlSummaryAgrees (a : Entry) (past : List Entry) : Prop :=
  match a.event with
  | .called (.reportFinalResult report _) =>
    report.lastReceivedControlRevision = greatest (receivedRevisions past) ∧
    report.lastAppliedControlRevision =
      greatest ((receivedRevisions past).filter (isApplied a.store)) ∧
    ∀ id, id ∈ report.pendingControlIds ↔ ∃ revision ∈ receivedRevisions past,
      ∃ r ∈ a.store.loadControl revision, r.controlId = id ∧ r.isApplied = false
  | _ => True

/-- What the process last recorded among the controls that satisfy `p`. -/
def newest (p : FotaControlRecord → Bool) (past : List Entry) : Option FotaControlRecord :=
  (controlSaves (sinceStart past)).find? p

def newestRevision (p : FotaControlRecord → Bool) (past : List Entry) : Nat :=
  ((newest p past).map (·.controlRevision)).getD 0

/-- The process received a control with this id and has not applied one with it since. -/
def Awaited (past : List Entry) (id : String) : Prop :=
  ∃ r ∈ newest (·.controlId = id) past, r.isApplied = false

/-- Whenever a final result is reported, no received control has a greater revision than the last
one the process received, no applied control a greater one than the last it applied, and the
process awaits the id of every control that is not applied. -/
def ControlsInOrder (a : Entry) (past : List Entry) : Prop :=
  match a.event with
  | .called (.reportFinalResult _ _) =>
    (∀ revision ∈ receivedRevisions past, revision ≤ newestRevision (!·.isApplied) past) ∧
    (∀ revision ∈ receivedRevisions past, isApplied a.store revision →
      revision ≤ newestRevision (·.isApplied) past) ∧
    ∀ revision ∈ receivedRevisions past, ∀ r ∈ a.store.loadControl revision,
      r.isApplied = false → Awaited past r.controlId
  | _ => True

/-- A revision of the list is the greatest one exactly if none is above it. -/
theorem greatest_eq_iff {revisions : List Nat} {n : Nat} (member : n ∈ revisions ∨ n = 0) :
    n = greatest revisions ↔ ∀ revision ∈ revisions, revision ≤ n := by
  have above : ∀ revision ∈ revisions, revision ≤ greatest revisions := by
    clear member
    induction revisions with
    | nil => simp
    | cons m rest ih =>
      intro revision member
      rcases List.mem_cons.mp member with rfl | member
      · exact Nat.le_max_left _ _
      · exact Nat.le_trans (ih revision member) (Nat.le_max_right _ _)
  have least : ∀ bound, (∀ revision ∈ revisions, revision ≤ bound) →
      greatest revisions ≤ bound := by
    clear member above
    -- the greatest one is among them, or there are none and it is zero
    intro bound below
    induction revisions with
    | nil => exact Nat.zero_le _
    | cons m rest ih =>
      exact Nat.max_le.mpr
        ⟨below m (by simp), ih fun revision member => below revision (by simp [member])⟩
  constructor
  · intro same
    rw [same]
    exact above
  · intro below
    apply Nat.le_antisymm
    · rcases member with member | rfl
      · exact above n member
      · exact Nat.zero_le _
    · exact least n below

/-- How the memory and the store follow from the controls recorded so far. -/
structure ControlsTraced (m : Memory) (s : FotaCloudStateStore) (past : List Entry) : Prop where
  stored : ∀ r ∈ controlSaves past, ∃ r' ∈ s.loadControl r.controlRevision,
    r'.controlId = r.controlId ∧ (r.isApplied → r'.isApplied)
  received : m.lastReceivedControlRev = newestRevision (!·.isApplied) past
  applied : m.lastAppliedControlRev = newestRevision (·.isApplied) past
  pending : ∀ id, id ∈ m.pendingControlIds ↔ Awaited past id
  awaited : ∀ id, ∀ r ∈ newest (·.controlId = id) past, r.isApplied = false →
    s.loadControl r.controlRevision = some r

section Traced

variable {m : Memory} {s : FotaCloudStateStore} {past : List Entry}

theorem mem_of_newest {p : FotaControlRecord → Bool} {r : FotaControlRecord}
    (found : newest p past = some r) : r ∈ controlSaves past ∧ p r := by
  constructor
  · rw [controlSaves_split]
    exact List.mem_append_left _ (List.mem_of_find?_eq_some found)
  · exact List.find?_some found

theorem newestRevision_mem (p : FotaControlRecord → Bool) (past : List Entry) :
    (∃ r ∈ controlSaves past, p r ∧ newestRevision p past = r.controlRevision) ∨
      newestRevision p past = 0 := by
  unfold newestRevision
  cases found : newest p past with
  | none => exact .inr rfl
  | some r =>
    obtain ⟨member, holds⟩ := mem_of_newest found
    exact .inl ⟨r, member, holds, rfl⟩

/-- Where the members follow from the controls, the summary agrees exactly if the controls are in
order. -/
theorem ControlsTraced.agrees (h : ControlsTraced m s past) {report : FinalResultReport}
    {data : FinalResultData} {now : Int} {ctx : CallContext} {tick : Nat}
    (made : report = finalResultReport m data now) :
    let a : Entry := ⟨.called (.reportFinalResult report ctx), m, s, tick⟩
    ControlSummaryAgrees a past ↔ ControlsInOrder a past := by
  subst made
  refine and_congr ?_ (and_congr ?_ ?_)
  -- the last received revision against all received ones
  · show m.lastReceivedControlRev = _ ↔ _
    rw [h.received]
    refine greatest_eq_iff ?_
    rcases newestRevision_mem (!·.isApplied) past with ⟨r, member, -, same⟩ | none
    · exact .inl (same ▸ List.mem_map_of_mem member)
    · exact .inr none
  -- the last applied revision against all applied ones
  · show m.lastAppliedControlRev = _ ↔ _
    rw [h.applied, greatest_eq_iff]
    · constructor
      · exact fun below revision member done => below revision (by simp [member, done])
      · intro below revision member
        obtain ⟨member, done⟩ := List.mem_filter.mp member
        exact below revision member done
    · rcases newestRevision_mem (·.isApplied) past with ⟨r, member, done, same⟩ | none
      · left
        obtain ⟨r', found, -, applied⟩ := h.stored r member
        rw [same]
        refine List.mem_filter.mpr ⟨List.mem_map_of_mem member, ?_⟩
        unfold isApplied
        rw [show s.loadControl r.controlRevision = some r' from found]
        exact applied done
      · exact .inr none
  -- the pending ids against the controls that are not applied
  · show (∀ id, id ∈ m.pendingControlIds ↔ _) ↔ _
    simp only [h.pending]
    constructor
    · intro agree revision member r found waiting
      exact (agree r.controlId).mpr ⟨revision, member, r, found, rfl, waiting⟩
    · intro covered id
      constructor
      · rintro ⟨r, newest, waiting⟩
        obtain ⟨member, same⟩ := mem_of_newest newest
        exact ⟨r.controlRevision, List.mem_map_of_mem member, r, h.awaited id r newest waiting,
          by simpa using same, waiting⟩
      · rintro ⟨revision, member, r, found, rfl, waiting⟩
        exact covered revision member r found waiting

/-! ### The invariant -/

/-- Nothing changes while the controls and the three members stay. -/
theorem ControlsTraced.of_same {m' : Memory} {s' : FotaCloudStateStore} {past' : List Entry}
    (h : ControlsTraced m s past) (saves : controlSaves past' = controlSaves past)
    (own : controlSaves (sinceStart past') = controlSaves (sinceStart past))
    (controls : s'.controls = s.controls)
    (received : m'.lastReceivedControlRev = m.lastReceivedControlRev)
    (applied : m'.lastAppliedControlRev = m.lastAppliedControlRev)
    (pending : m'.pendingControlIds = m.pendingControlIds) : ControlsTraced m' s' past' := by
  have same : ∀ p, newest p past' = newest p past := fun p => by unfold newest; rw [own]
  have stored := h.stored
  have awaited := h.awaited
  constructor
  · rw [saves]
    unfold FotaCloudStateStore.loadControl at stored ⊢
    rw [controls]
    exact stored
  · rw [received, h.received, newestRevision, newestRevision, same]
  · rw [applied, h.applied, newestRevision, newestRevision, same]
  · unfold Awaited
    rw [pending]
    simp only [same]
    exact h.pending
  · simp only [same]
    unfold FotaCloudStateStore.loadControl at awaited ⊢
    rw [controls]
    exact awaited

/-- The newest record after a save is the one saved, if it is of the kind. -/
theorem newest_saved (p : FotaControlRecord → Bool) (r : FotaControlRecord) (m : Memory)
    (s : FotaCloudStateStore) (tick : Nat) (past : List Entry) :
    newest p (⟨.saved (.control r), m, s, tick⟩ :: past) =
      if p r then some r else newest p past := by
  unfold newest
  simp only [sinceStart, controlSaves, List.find?_cons]
  cases p r <;> rfl

variable {cmd : ControlCommand}

/-- A command that was not on record goes to the end of the pending ones. -/
theorem ControlsTraced.receive (h : ControlsTraced m s past) (tick : Nat)
    (unknown : s.loadControl cmd.controlRevision = none) :
    ControlsTraced
      { m with
        lastReceivedControlRev := cmd.controlRevision
        pendingControlIds := m.pendingControlIds ++ [cmd.controlId] }
      (s.save (.control (controlRecord cmd)))
      (⟨.saved (.control (controlRecord cmd)), m, s, tick⟩ :: past) := by
  have fresh := isApplied_controlRecord cmd
  -- under another revision the record is what it was
  have other : ∀ {revision r}, s.loadControl revision = some r →
      (s.save (.control (controlRecord cmd))).loadControl revision = some r := by
    intro revision r found
    refine (Keyed.get_insert_ne _ _ ?_).trans found
    rintro rfl
    cases unknown.symm.trans found
  constructor
  · intro r member
    rcases List.mem_cons.mp member with rfl | member
    -- the new record is under its revision, and the others stay
    · exact ⟨_, Keyed.get_insert_self _ _, rfl, id⟩
    · obtain ⟨r', found, same⟩ := h.stored r member
      exact ⟨r', other found, same⟩
  · simp only [newestRevision, newest_saved, fresh]
    rfl
  · simp only [newestRevision, newest_saved, fresh]
    exact h.applied
  · intro id
    simp only [List.mem_append, List.mem_singleton, h.pending, Awaited, newest_saved]
    by_cases same : (controlRecord cmd).controlId = id
    · simp only [same, decide_true, ite_true, Option.mem_def, Option.some.injEq, exists_eq_left']
      exact ⟨fun _ => fresh, fun _ => .inr same.symm⟩
    · have distinct : id ≠ cmd.controlId := fun eq => same eq.symm
      simp [same, distinct]
  · intro id r found waiting
    simp only [newest_saved] at found
    split at found
    next => cases found; exact Keyed.get_insert_self _ _
    next => exact other (h.awaited id r found waiting)

/-- An applied command is no longer pending, nor is any other with its id. -/
theorem ControlsTraced.resolve (h : ControlsTraced m s past) (ackSeq ackSequenceNo tick : Nat)
    (now : Int) (m' : Memory)
    (recorded : s.loadControl cmd.controlRevision = some (controlRecord cmd)) :
    ControlsTraced
      { m with
        ackSeq
        lastAppliedControlRev := cmd.controlRevision
        pendingControlIds := m.pendingControlIds.filter (· ≠ cmd.controlId) }
      (s.save (.control (appliedRecord cmd ackSequenceNo now)))
      (⟨.saved (.control (appliedRecord cmd ackSequenceNo now)), m', s, tick⟩ :: past) := by
  have done := isApplied_appliedRecord cmd ackSequenceNo now
  constructor
  · intro r member
    -- the record of the command is now that it was applied
    by_cases same : r.controlRevision = cmd.controlRevision
    · refine ⟨_, by rw [same]; exact Keyed.get_insert_self _ _, ?_, fun _ => done⟩
      rcases List.mem_cons.mp member with rfl | member
      · rfl
      · obtain ⟨r', found, id, -⟩ := h.stored r member
        rw [same] at found
        cases recorded.symm.trans found
        exact id
    -- the others are under other revisions
    · rcases List.mem_cons.mp member with rfl | member
      · exact absurd rfl same
      · obtain ⟨r', found, keeps⟩ := h.stored r member
        refine ⟨r', (Keyed.get_insert_ne _ _ ?_).trans found, keeps⟩
        exact fun eq => same eq.symm
  · simp only [newestRevision, newest_saved, done]
    exact h.received
  · simp only [newestRevision, newest_saved, done]
    rfl
  · intro id
    simp only [List.mem_filter, h.pending, Awaited, newest_saved]
    by_cases same : (appliedRecord cmd ackSequenceNo now).controlId = id
    -- its id is not awaited any more, as none is
    · have same' : id = cmd.controlId := same.symm
      simp [same, same', done]
    -- any other id is awaited as before
    · have distinct : id ≠ cmd.controlId := fun eq => same eq.symm
      simp [same, distinct]
  · intro id r found waiting
    simp only [newest_saved] at found
    split at found
    next => cases found; simp [done] at waiting
    next other =>
      have stored := h.awaited id r found waiting
      refine (Keyed.get_insert_ne _ _ fun eq => ?_).trans stored
      -- Under the revision of the command there is its own record, with another id.
      have eq : cmd.controlRevision = r.controlRevision := eq
      rw [← eq] at stored
      cases recorded.symm.trans stored
      exact other (mem_of_newest found).2

end Traced

/-- Whenever a final result is reported, memory and store follow from the controls. -/
def ReportTraced (a : Entry) (past : List Entry) : Prop :=
  match a.event with
  | .called (.reportFinalResult _ _) => ControlsTraced a.mem a.store past
  | _ => True

structure ControlsSummed (w : World) : Prop where
  traced : ControlsTraced w.mem w.store w.trace
  reported : Always ReportTraced w.trace

/-- What a crash leaves of the invariant. -/
structure ControlsStored (w : World) : Prop where
  stored : ∀ r ∈ controlSaves w.trace, ∃ r' ∈ w.store.loadControl r.controlRevision,
    r'.controlId = r.controlId ∧ (r.isApplied → r'.isApplied)
  reported : Always ReportTraced w.trace

section Summed

variable {e : Environment} {w w' : World} {parts : List Part}

theorem ControlsSummed.left (h : ControlsSummed w) : ControlsStored w :=
  ⟨h.traced.stored, h.reported⟩

/-- Neither a control nor a start. -/
theorem controlSaves_apart {a : Entry} (past : List Entry) (control : a.event.part ≠ .control)
    (run : a.event ≠ .restarted) :
    controlSaves (a :: past) = controlSaves past ∧
      controlSaves (sinceStart (a :: past)) = controlSaves (sinceStart past) := by
  cases event : a.event with
  | restarted => exact absurd event run
  | saved save =>
    cases save with
    | control r => simp [event, Event.part, Save.part] at control
    | _ => simp [controlSaves, sinceStart, event]
  | _ => simp [controlSaves, sinceStart, event]

/-- Steps that touch no control and start no process keep the invariant. -/
theorem ControlsSummed.within (h : ControlsSummed w) (within : Within parts w w')
    (control : .control ∉ parts) (run : .run ∉ parts) : ControlsSummed w' := by
  have apart : ∀ a : Entry, a.On parts w → a.event.part ≠ .control ∧ a.event ≠ .restarted := by
    intro a on
    constructor
    · exact fun same => control (same ▸ on.1)
    · exact fun restarted => run (by simpa [restarted, Event.part] using on.1)
  -- by induction on the new entries, none of which records or starts
  have saves : ∀ new : List Entry, (∀ a ∈ new, a.On parts w) →
      controlSaves (new ++ w.trace) = controlSaves w.trace ∧
        controlSaves (sinceStart (new ++ w.trace)) = controlSaves (sinceStart w.trace) := by
    intro new on
    induction new with
    | nil => exact ⟨rfl, rfl⟩
    | cons a new ih =>
      obtain ⟨all, own⟩ := ih fun b member => on b (by simp [member])
      obtain ⟨apart, running⟩ := apart a (on a (by simp))
      obtain ⟨all', own'⟩ := controlSaves_apart (new ++ w.trace) apart running
      exact ⟨all'.trans all, own'.trans own⟩
  constructor
  · obtain ⟨new, trace, on⟩ := within.trace
    obtain ⟨all, own⟩ := saves new on
    obtain ⟨_, received, applied, pending, controls⟩ := within.same .control control
    exact h.traced.of_same (trace ▸ all) (trace ▸ own) controls received applied pending
  · refine within.always_on (fun a before on sub => ?_) h.reported
    unfold ReportTraced
    split
    -- a report is made with memory and store as they are
    next =>
      obtain ⟨all, own⟩ := saves before sub
      obtain ⟨_, received, applied, pending, controls⟩ := on.2 .control control
      exact h.traced.of_same all own controls received applied pending
    next => trivial

/-- Calls and replies about controls leave the records alone. -/
theorem ControlsSummed.effect (h : ControlsSummed w) (event : Event) (part : event.part = .control)
    (silent : ∀ s, event ≠ .saved s) : ControlsSummed (w.effect event) := by
  have same : controlSaves (w.effect event).trace = controlSaves w.trace ∧
      controlSaves (sinceStart (w.effect event).trace) = controlSaves (sinceStart w.trace) ∧
      (w.effect event).store.controls = w.store.controls := by
    cases event with
    | saved s => exact absurd rfl (silent s)
    | restarted => cases part
    | _ => exact ⟨rfl, rfl, rfl⟩
  refine ⟨h.traced.of_same same.1 same.2.1 same.2.2 rfl rfl rfl, ?_, h.reported⟩
  unfold ReportTraced
  split
  next report => rw [show event = _ from report] at part; cases part
  next => trivial

/-- A command keeps the invariant at both of its writes. -/
theorem controlsSummed_applyControl (cmd : ControlCommand) (h : ControlsSummed w) :
    wp (applyControl cmd) (fun _ => ControlsSummed) ControlsStored e w := by
  refine wp_applyControl (fun _ _ within h => h.within within (by simp) (by simp))
    (fun _ h => h.left) (fun w c r part h => h.effect _ part (by simp))
    (fun w req ctx h => h.effect _ rfl (by simp)) h (fun unknown => ?_) fun w' now _ h same => ?_
  -- first it is received
  · have received : ControlsSummed (w.receive cmd) :=
      ⟨h.traced.receive w.tick unknown, trivial, h.reported⟩
    exact ⟨⟨received.traced.stored, received.reported⟩, received.effect _ rfl (by simp)⟩
  · have recorded : w'.store.loadControl cmd.controlRevision = some (controlRecord cmd) := by
      unfold FotaCloudStateStore.loadControl
      rw [same.2.2.2.2]
      exact Keyed.get_insert_self _ (controlRecord cmd)
    -- then it is resolved
    have resolved : ControlsSummed (w'.resolve cmd now) :=
      ⟨h.traced.resolve _ _ _ now _ recorded, trivial, h.reported⟩
    exact ⟨⟨resolved.traced.stored, resolved.reported⟩, resolved⟩

/-- After a restart the process has recorded nothing, and its members say so. -/
theorem ControlsStored.restart (h : ControlsStored w) : ControlsSummed (restart w) := by
  have forgotten : (loadFromStore w.store {}).lastReceivedControlRev = 0 ∧
      (loadFromStore w.store {}).lastAppliedControlRev = 0 ∧
      (loadFromStore w.store {}).pendingControlIds = [] := by
    unfold loadFromStore loadOutbox loadExecution
    grind
  refine ⟨⟨h.stored, forgotten.1, forgotten.2.1, fun id => ?_, fun id r found => ?_⟩,
    trivial, h.reported⟩
  · rw [restart_mem, forgotten.2.2]
    simp [Awaited, newest, sinceStart, controlSaves]
  · simp [newest, sinceStart, controlSaves] at found

theorem controls_summed (env : Environment) (s : FotaCloudStateStore) (ops : List Operation) :
    ControlsSummed (run env (boot s) ops) := by
  have initial : ControlsStored { store := s } := ⟨by simp [controlSaves], trivial⟩
  exact run_controlled (e := env) (J := ControlsSummed) (D := ControlsStored)
    (fun op w h => ⟨h.traced.of_same rfl rfl rfl rfl rfl rfl, trivial, h.reported⟩)
    (fun _ _ _ control run within h => h.within within control run)
    (fun cmd _ => controlsSummed_applyControl cmd) (fun _ h => h.left)
    (fun w h => ControlsStored.restart (w := w.note .crashed) ⟨h.stored, trivial, h.reported⟩)
    (fun _ h => h.left.restart) ops initial.restart

end Summed

/-- Over every run, from any store and with crashes and restarts anywhere: the final results agree
with the durable controls exactly if at each of them the controls are in order. -/
theorem control_summaries_agree_iff (env : Environment) (s : FotaCloudStateStore)
    (ops : List Operation) :
    Always ControlSummaryAgrees (run env (boot s) ops).trace ↔
      Always ControlsInOrder (run env (boot s) ops).trace := by
  have both := (reports_made env s ops).and (controls_summed env s ops).reported
  -- at each report the two predicates are one
  have pointwise : ∀ a past, ReportMade a past ∧ ReportTraced a past →
      (ControlSummaryAgrees a past ↔ ControlsInOrder a past) := by
    rintro ⟨event, m, store, tick⟩ past ⟨made, traced⟩
    unfold ReportMade at made
    split at made
    next report ctx same =>
      obtain ⟨data, -, now, eq⟩ := made
      cases same
      exact ControlsTraced.agrees traced eq
    next other =>
      unfold ControlSummaryAgrees ControlsInOrder
      split
      next same => exact absurd same (other _ _)
      next => rfl
  constructor
  · exact fun agree => (both.and agree).mono fun a past h => (pointwise a past h.1).mp h.2
  · exact fun order => (both.and order).mono fun a past h => (pointwise a past h.1).mpr h.2

def Event.finalReport : Event → Option FinalResultReport
  | .called (.reportFinalResult report _) => some report
  | _ => none

def ReceivedAgrees (a : Entry) (past : List Entry) : Prop :=
  ∀ report ∈ a.event.finalReport,
    report.lastReceivedControlRevision = greatest (receivedRevisions past)

instance (a : Entry) (past : List Entry) : Decidable (ReceivedAgrees a past) :=
  inferInstanceAs (Decidable (∀ report ∈ a.event.finalReport, _))

/-- Agreement of the whole implies agreement of the received revision, which can be decided. -/
theorem received_agrees {t : List Entry} (agree : Always ControlSummaryAgrees t) :
    Always ReceivedAgrees t := by
  refine agree.mono fun a past agrees report reported => ?_
  unfold ControlSummaryAgrees at agrees
  unfold Event.finalReport at reported
  split at reported
  next event =>
    cases reported
    rw [event] at agrees
    exact agrees.1
  next => cases reported

/-- After a restart the report knows of no control. -/
theorem restart_forgets_controls :
    ¬Always ControlSummaryAgrees (run cooperative (boot {})
      (.applyControl { controlId := "C-1", controlRevision := 1 } :: .restart ::
        List.replicate 7 .step)).trace :=
  mt received_agrees (by decide +kernel)

end CgwFota
