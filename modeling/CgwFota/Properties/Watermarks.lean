import CgwFota.Properties.Sequence

/-!
# Migrated watermarks

The migration writes the counters of the outbox next to a task record without a snapshot. A process
that starts on this record does not read the counters, and the grant of a permit writes its own.

## Main definitions

* `WatermarksKept`: the counters have not gone back, and the counted events are still stored.
* `GrantedWithCounters`: a permit is granted only to a process that has the counters.

## Main results

* `migrated_watermarks_kept`: in every run from a migrated store with such grants.
* `grant_resets_migrated_watermarks`: a grant without a restart before it.

## Proof strategy

A process whose task is underway, or that started on a snapshot, covers the first counters, and only
such a process writes them. The grant is where a process may come to write counters it has not read.
-/
namespace CgwFota

open Crash

/-- The counters have not gone back, and the counted events are still stored. -/
structure WatermarksHeld (first s : FotaCloudStateStore) : Prop extends OutboxGrows first s where
  accepted : first.outboxMeta.acceptedSequenceNo ≤ s.outboxMeta.acceptedSequenceNo

/-- No event is stored below the first counter, except for a stored one with another status. -/
structure WatermarksKept (first : FotaCloudStateStore) (a : Entry) : Prop
    extends WatermarksHeld first a.store where
  emitted : ∀ n evt, a.event = .emitted n evt → first.outboxMeta.nextSequenceNo ≤ n
  saved : ∀ r, a.event = .saved (.event r) → r.sequenceNo < first.outboxMeta.nextSequenceNo →
    ∃ r' ∈ a.store.loadEvent r.sequenceNo, ∃ status, r = { r' with sendStatus := status }

/-- The counters in memory are not behind the first ones. -/
def Covers (first : FotaCloudStateStore) (m : Memory) : Prop :=
  first.outboxMeta.nextSequenceNo ≤ m.nextSeq ∧ first.outboxMeta.acceptedSequenceNo ≤ m.acceptedSeq

/-- The process read the counters when it started. -/
def startedOnSnapshot : List Entry → Bool
  | [] => false
  | a :: past =>
    match a.event with
    | .restarted => !lacksSnapshot a.store
    | _ => startedOnSnapshot past

/-- A permit is only granted to a process that read the counters, or has caught up with them. -/
def GrantedWithCounters (first : FotaCloudStateStore) (a : Entry) (past : List Entry) : Prop :=
  match a.event with
  | .returned (.requestInstall _ _) (.ok resp) =>
    resp.allowed → startedOnSnapshot past ∨ Covers first a.mem
  | _ => True

instance (first : FotaCloudStateStore) (m : Memory) : Decidable (Covers first m) :=
  inferInstanceAs (Decidable (_ ∧ _))

instance (first : FotaCloudStateStore) (a : Entry) (past : List Entry) :
    Decidable (GrantedWithCounters first a past) := by
  obtain ⟨_ | _ | ⟨c, r⟩ | _, _, _, _⟩ := a
  all_goals unfold GrantedWithCounters; try infer_instance
  rcases c with _ | _ <;> try infer_instance
  all_goals rcases r with _ | _ <;> infer_instance

/-! ### The migrated counters -/

theorem foldl_save_outboxMeta (saves : List Save) (s : FotaCloudStateStore)
    (other : ∀ r, .eventOutboxMeta r ∉ saves) :
    (saves.foldl FotaCloudStateStore.save s).eventOutboxMeta = s.eventOutboxMeta := by
  induction saves generalizing s with
  | nil => rfl
  | cons save saves ih =>
    rw [List.foldl_cons, ih _ fun r member => other r (by simp [member])]
    cases save with
    | eventOutboxMeta r => exact absurd (by simp) (other r)
    | _ => rfl

/-- The migration carries over the counters of the earlier contract. -/
theorem migrateOtaToFota_outboxMeta (old : LegacyStore) :
    (migrateOtaToFota old {}).outboxMeta = old.outboxMeta := by
  unfold migrateOtaToFota FotaCloudStateStore.outboxMeta
  split
  next =>
    unfold migrationSaves
    rw [List.foldl_append, List.foldl_append, List.foldl_append]
    rw [foldl_save_outboxMeta, foldl_save_outboxMeta, foldl_save_outboxMeta, List.foldl_append]
    · rfl
    · simp
    · simp
    · simp
  next none =>
    unfold LegacyStore.anyOld at none
    unfold LegacyStore.outboxMeta
    simp only [Bool.or_eq_true, not_or, Bool.not_eq_true, Option.isSome_eq_false_iff,
      Option.isNone_iff_eq_none] at none
    obtain ⟨⟨⟨⟨⟨-, execution⟩, outbox⟩, -⟩, -⟩, -⟩ := none
    rw [outbox, execution]
    rfl

/-! ### The invariant -/

/-- What a crash leaves of the invariant. -/
structure MarksKept (first : FotaCloudStateStore) (w : World) : Prop
    extends WatermarksHeld first w.store where
  always : Always (fun a _ => WatermarksKept first a) w.trace

/-- The counters in memory may be written. -/
structure MarksLive (first : FotaCloudStateStore) (w : World) : Prop extends MarksKept first w where
  covers : Covers first w.mem

/-- The invariant between operations. -/
structure MarksHeld (first : FotaCloudStateStore) (w : World) : Prop extends MarksKept first w where
  live : isUnderway w.mem.vtState → Covers first w.mem
  started : startedOnSnapshot w.trace → Covers first w.mem

/-- The invariant of the send loop. -/
structure MarksSending (first : FotaCloudStateStore) (outbox : FotaEventOutboxMeta) (w : World) :
    Prop
    extends MarksLive first w where
  limit : first.outboxMeta.nextSequenceNo ≤ outbox.nextSequenceNo

section Marks

variable {e : Environment} {first : FotaCloudStateStore} {w w' : World} {parts : List Part}
  {outbox : FotaEventOutboxMeta}

theorem WatermarksHeld.of_same {s s' : FotaCloudStateStore} (h : WatermarksHeld first s)
    (counters : s'.eventOutboxMeta = s.eventOutboxMeta) (events : s'.events = s.events) :
    WatermarksHeld first s' := by
  refine ⟨h.toOutboxGrows.trans (.of_same counters events), ?_⟩
  unfold FotaCloudStateStore.outboxMeta
  rw [counters]
  exact h.accepted

/-- Events above the first counter may be written, and stored events with another status. -/
theorem WatermarksHeld.write {s : FotaCloudStateStore} {r : FotaEventOutboxRecord}
    (h : WatermarksHeld first s) (grows : OutboxGrows s (s.save (.event r))) :
    WatermarksHeld first (s.save (.event r)) :=
  ⟨h.toOutboxGrows.trans grows, h.accepted⟩

/-- Counters that are not behind the first ones may be written. -/
theorem WatermarksHeld.count {s : FotaCloudStateStore} (h : WatermarksHeld first s)
    (counter : first.outboxMeta.nextSequenceNo ≤ outbox.nextSequenceNo)
    (accepted : first.outboxMeta.acceptedSequenceNo ≤ outbox.acceptedSequenceNo) :
    WatermarksHeld first (s.save (.eventOutboxMeta outbox)) :=
  ⟨⟨counter, h.kept⟩, accepted⟩

/-- One more entry that is neither an emission nor a record of an event. -/
theorem MarksKept.grow (h : MarksKept first w) (a : Entry) (now : a.store = w.store)
    (trace : w'.trace = a :: w.trace) (emitted : ∀ n evt, a.event ≠ .emitted n evt)
    (saved : ∀ r, a.event ≠ .saved (.event r)) (next : WatermarksHeld first w'.store) :
    MarksKept first w' := by
  refine ⟨next, ?_⟩
  rw [trace]
  refine ⟨⟨?_, fun n evt same => ?_, fun r same => ?_⟩, h.always⟩
  · rw [now]
    exact h.toWatermarksHeld
  · exact absurd same (emitted n evt)
  · exact absurd same (saved r)

/-- What stays away from the outbox keeps the marks at a crash. -/
theorem MarksKept.within (h : MarksKept first w) (within : Within parts w w')
    (out : .outbox ∉ parts) : MarksKept first w' := by
  obtain ⟨-, -, counters, events⟩ := within.same .outbox out
  refine ⟨h.of_same counters events, within.always_on (fun a before on _ => ?_) h.always⟩
  obtain ⟨-, -, counters, events⟩ := on.2 .outbox out
  refine ⟨h.of_same counters events, fun n evt same => ?_, fun r same => ?_⟩
  · have part := on.1
    rw [same] at part
    exact absurd part out
  · have part := on.1
    rw [same] at part
    exact absurd part out

theorem covers_within (h : Covers first w.mem) (within : Within parts w w')
    (out : .outbox ∉ parts) : Covers first w'.mem := by
  obtain ⟨next, accepted, -, -⟩ := within.same .outbox out
  unfold Covers
  rw [next, accepted]
  exact h

theorem MarksLive.within (h : MarksLive first w) (within : Within parts w w')
    (out : .outbox ∉ parts) : MarksLive first w' :=
  ⟨h.toMarksKept.within within out, covers_within h.covers within out⟩

theorem startedOnSnapshot_cons {a : Entry} {past : List Entry} (other : a.event ≠ .restarted) :
    startedOnSnapshot (a :: past) = startedOnSnapshot past := by
  rw [startedOnSnapshot]
  split
  next same => exact absurd same other
  next => rfl

/-- What stays away from the outbox keeps the marks between operations. -/
theorem MarksHeld.within (h : MarksHeld first w) (within : Within parts w w')
    (out : .outbox ∉ parts) (run : .run ∉ parts)
    (underway : isUnderway w'.mem.vtState → isUnderway w.mem.vtState) : MarksHeld first w' := by
  have started : startedOnSnapshot w'.trace = startedOnSnapshot w.trace := by
    refine within.observed fun a past member => startedOnSnapshot_cons fun same => ?_
    rw [same] at member
    exact run member
  refine ⟨h.toMarksKept.within within out, fun now => ?_, fun now => ?_⟩
  · exact covers_within (h.live (underway now)) within out
  · rw [started] at now
    exact covers_within (h.started now) within out

/-- An emission raises the counter in memory above the stored one. -/
theorem marks_emit {I : World → Prop} (evt : ExecutionEvent) (h : MarksKept first w) (refused : I w)
    (accepted : ∀ w', w'.mem.vtState = w.mem.vtState →
      startedOnSnapshot w'.trace = startedOnSnapshot w.trace →
      (Covers first w.mem → Covers first w'.mem) → MarksKept first w' → I w') :
    wp (emit evt) (fun _ => I) (MarksKept first) e w := by
  refine wp_emit refused fun _ r number _ _ => ?_
  have counter := h.counter
  have fresh : w.store.outboxMeta.nextSequenceNo ≤ r.sequenceNo := Nat.le_of_eq number.symm
  have stored : MarksKept first (w.effect (.saved (.event r))) := by
    refine ⟨h.write (.append fresh), ⟨h.toWatermarksHeld, ?_, ?_⟩, h.always⟩
    · exact fun _ _ same => by cases same
    · intro r' same below
      cases same
      omega
  have counted : MarksKept first ((w.effect (.saved (.event r))).effect (.saved (.eventOutboxMeta
      { w.store.outboxMeta with nextSequenceNo := w.store.outboxMeta.nextSequenceNo + 1 }))) :=
    stored.grow _ rfl rfl (by simp) (by simp)
      (stored.toWatermarksHeld.count (Nat.le_succ_of_le counter) h.accepted)
  refine ⟨stored, counted, accepted _ rfl rfl (fun covers => ⟨?_, covers.2⟩) ?_⟩
  · exact Nat.le_succ_of_le counter
  · refine ⟨counted.toWatermarksHeld, ⟨counted.toWatermarksHeld, ?_, ?_⟩, counted.always⟩
    · intro n evt' same
      cases same
      exact counter
    · exact fun _ same => by cases same

/-- Writing the execution writes counters that cover the first ones. -/
theorem marks_persistExecution (h : MarksLive first w) :
    wp persistExecution (fun _ => MarksLive first) (MarksKept first) e w := by
  have within : Within [.execution] w (w.effect (.saved (.execution (executionRecord w.mem)))) :=
    .effect _ (by simp [Event.part, Save.part])
  have saved := h.within within (by simp)
  have counted : MarksKept first ((w.effect (.saved (.execution (executionRecord w.mem)))).effect
      (.saved (.eventOutboxMeta
        { nextSequenceNo := w.mem.nextSeq, acceptedSequenceNo := w.mem.acceptedSeq }))) :=
    saved.toMarksKept.grow _ rfl rfl (by simp) (by simp)
      (saved.toWatermarksHeld.count h.covers.1 h.covers.2)
  unfold persistExecution
  simp only [wp_bind, wp_memory]
  exact wp_save saved.toMarksKept (wp_save counted ⟨counted, h.covers⟩)

theorem MarksLive.effect (h : MarksLive first w) (event : Event)
    (same : (w.effect event).store = w.store) (emitted : ∀ n evt, event ≠ .emitted n evt)
    (saved : ∀ r, event ≠ .saved (.event r)) : MarksLive first (w.effect event) := by
  refine ⟨h.toMarksKept.grow _ rfl rfl emitted saved ?_, h.covers⟩
  rw [same]
  exact h.toWatermarksHeld

theorem MarksLive.held (h : MarksLive first w) : MarksHeld first w :=
  ⟨h.toMarksKept, fun _ => h.covers, fun _ => h.covers⟩

/-- The steps around the outbox, in terms of the marks. -/
theorem marksRules : OutboxRules e (Assuming (GrantedWithCounters first) (MarksHeld first))
    (Assuming (GrantedWithCounters first) (MarksLive first))
    (Assuming (GrantedWithCounters first) (MarksLive first))
    (Assuming (GrantedWithCounters first) (MarksKept first)) where
  heldDurable _ holds cond := (holds cond).toMarksKept
  grantedDurable _ holds cond := (holds cond).toMarksKept
  liveHeld _ holds cond := (holds cond).held
  underway _ holds underway cond := ⟨(holds cond).toMarksKept, (holds cond).live underway⟩
  quietHeld _ _ _ outbox _ run within underway holds :=
    within.assuming holds fun held => held.within within outbox run underway
  quietGranted _ _ _ outbox _ _ within holds :=
    within.assuming holds fun live => live.within within outbox
  quietLive _ _ _ outbox _ _ within holds :=
    within.assuming holds fun live => live.within within outbox
  emitHeld evt _ holds := holds.wp (touches_emit [.outbox] evt (by simp)) fun held =>
    marks_emit evt held.toMarksKept held fun w' state started covers kept => by
      refine ⟨kept, ?_, ?_⟩
      · rw [state]
        exact fun underway => covers (held.live underway)
      · rw [started]
        exact fun read => covers (held.started read)
  emitLive evt _ holds := holds.wp (touches_emit [.outbox] evt (by simp)) fun live =>
    marks_emit evt live.toMarksKept live fun _ _ _ covers kept => ⟨kept, covers live.covers⟩
  grant w req ctx resp allowed holds cond := by
    have held := holds cond
    refine ⟨held.toMarksKept, ?_⟩
    -- the process had read the counters, or had caught up
    rcases cond.1 allowed with read | covers
    · exact held.started read
    · exact covers
  persistGranted _ holds :=
    holds.wp (touches_persistExecution [.execution, .outbox] (by simp) (by simp))
      marks_persistExecution
  persistLive _ holds :=
    holds.wp (touches_persistExecution [.execution, .outbox] (by simp) (by simp))
      marks_persistExecution

/-! ### The send loop -/

theorem MarksSending.effect (h : MarksSending first outbox w) (event : Event)
    (same : (w.effect event).store = w.store) (emitted : ∀ n evt, event ≠ .emitted n evt)
    (saved : ∀ r, event ≠ .saved (.event r)) : MarksSending first outbox (w.effect event) :=
  ⟨h.toMarksLive.effect event same emitted saved, h.limit⟩

/-- Only the status of the event at hand changes, and the watermark in memory may rise. -/
theorem MarksSending.mark (h : MarksSending first outbox w) {r : FotaEventOutboxRecord}
    (hand : AtHand outbox.nextSequenceNo r w.store) (status : String) {accepted : Nat}
    (rises : w.mem.acceptedSeq ≤ accepted) :
    MarksSending first outbox ((w.withMemory ({ · with acceptedSeq := accepted })).effect
      (.saved (.event { r with sendStatus := status }))) := by
  have next : WatermarksHeld first (w.store.save (.event { r with sendStatus := status })) :=
    h.write (.mark status hand.stored)
  refine ⟨⟨⟨next, ⟨h.toWatermarksHeld, ?_, ?_⟩, h.always⟩, ?_⟩, h.limit⟩
  · exact fun _ _ same => by cases same
  · intro r' same _
    cases same
    exact ⟨r, hand.stored, status, rfl⟩
  · exact ⟨h.covers.1, Nat.le_trans h.covers.2 rises⟩

/-- The send loop, in terms of the marks. -/
theorem marksSends : SendRules e outbox.nextSequenceNo
    (Assuming (GrantedWithCounters first) (MarksSending first outbox))
    (Assuming (GrantedWithCounters first) (MarksKept first)) where
  durable _ holds cond := (holds cond).toMarksKept
  emissions _ _ _ evt _ _ holds := holds.wp (touches_emit [.outbox] evt (by simp)) fun sending =>
    marks_emit evt sending.toMarksKept sending fun _ _ _ covers kept =>
      ⟨⟨kept, covers sending.covers⟩, sending.limit⟩
  skipped _ _ holds hand _ := holds.effect fun _ sending =>
    sending.mark hand "SENT" (Nat.le_refl _)
  called _ _ _ holds _ _ := holds.effect fun _ sending =>
    sending.effect _ rfl (by simp) (by simp)
  returned _ _ _ _ holds := holds.effect fun _ sending =>
    sending.effect _ rfl (by simp) (by simp)
  failed _ r holds hand := holds.effect fun _ sending =>
    sending.mark hand r.sendStatus (Nat.le_refl _)
  acked _ _ _ _ _ holds hand cond :=
    (holds cond.2).mark hand "ACKED" (Nat.le_max_left _ _)

theorem marks_flushOutbox (h : Assuming (GrantedWithCounters first) (MarksLive first) w) :
    wp flushOutbox (fun _ => Assuming (GrantedWithCounters first) (MarksHeld first))
      (Assuming (GrantedWithCounters first) (MarksKept first)) e w := by
  refine marksRules.flushOutbox (S := fun outbox =>
    Assuming (GrantedWithCounters first) (MarksSending first outbox))
    (R := Assuming (GrantedWithCounters first) (MarksLive first))
    (fun w holds cond => ⟨holds cond, (holds cond).counter⟩)
    (fun _ => marksSends) (fun _ _ holds cond => (holds cond).toMarksLive)
    (fun outbox w holds _ => ?_) (fun _ holds cond => (holds cond).toMarksKept)
    marksRules.persistLive (fun w event part holds => ?_) h
  · refine holds.effect fun _ sending => ⟨?_, sending.covers⟩
    exact sending.toMarksKept.grow _ rfl rfl (by simp) (by simp)
      (sending.toWatermarksHeld.count sending.limit sending.covers.2)
  · have within : Within [event.part] w (w.effect event) := .effect event (by simp)
    exact within.assuming holds fun live => live.within within (by simp [part])

/-! ### Restarts -/

/-- A restart that finds a snapshot reads the counters, any other one starts from nothing. -/
theorem marks_restart (h : Assuming (GrantedWithCounters first) (MarksKept first) w) :
    Assuming (GrantedWithCounters first) (MarksHeld first) (restart w) := by
  intro cond
  have kept := h cond.2
  have again : MarksKept first (restart w) :=
    kept.grow _ rfl rfl (by simp) (by simp) kept.toWatermarksHeld
  cases lacks : lacksSnapshot w.store with
  -- without a snapshot no task is underway
  | true =>
    have forgot : (restart w).mem = {} := loadFromStore_without_snapshot lacks
    refine ⟨again, fun underway => ?_, fun started => ?_⟩
    · rw [forgot] at underway
      cases underway
    · simp [startedOnSnapshot, lacks] at started
  -- otherwise the counters are read
  | false =>
    have read : (restart w).mem = _ := loadFromStore_with_snapshot lacks
    have covers : Covers first (restart w).mem := by
      rw [read]
      exact ⟨kept.counter, kept.accepted⟩
    exact ⟨again, fun _ => covers, fun _ => covers⟩

end Marks

/-- Over every run from a migrated store in which permits are only granted to processes that read
the migrated counters, or have caught up with them: the stored counters never go back behind the
migrated ones, and no migrated event is overwritten. -/
theorem migrated_watermarks_kept (env : Environment) (old : LegacyStore) (ops : List Operation)
    (granted : Always (GrantedWithCounters (migrateOtaToFota old {}))
      (run env (boot (migrateOtaToFota old {})) ops).trace) :
    let first := migrateOtaToFota old {}
    let w := run env (boot first) ops
    first.outboxMeta = old.outboxMeta ∧ Always (fun a _ => WatermarksKept first a) w.trace ∧
      WatermarksHeld first w.store := by
  intro first w
  have held : WatermarksHeld first first := ⟨.refl first, Nat.le_refl _⟩
  have crashed : ∀ w, Assuming (GrantedWithCounters first) (MarksKept first) w →
      Assuming (GrantedWithCounters first) (MarksKept first) (w.note .crashed) :=
    fun w holds => (Within.note_run .crashed rfl).assuming holds fun kept =>
      kept.within (.note_run _ rfl) (by simp)
  have began : ∀ op w, Assuming (GrantedWithCounters first) (MarksHeld first) w →
      Assuming (GrantedWithCounters first) (MarksHeld first) (w.note (.began op)) := by
    intro op w holds
    refine (Within.note_run (.began op) rfl).assuming holds fun held => ?_
    have kept := held.toMarksKept.within (Within.note_run (.began op) rfl) (by simp)
    exact ⟨kept, held.live, held.started⟩
  have kept := marksRules.run (e := env) (fun w holds => marks_flushOutbox holds) began
    (fun w holds => marks_restart (crashed w holds))
    (fun w holds => marks_restart fun cond => (holds cond).toMarksKept) ops
    (marks_restart (w := { store := first }) fun _ => ⟨held, trivial⟩)
  have marks := (kept granted).toMarksKept
  exact ⟨migrateOtaToFota_outboxMeta old, marks.always, marks.toWatermarksHeld⟩

/-- A vehicle that had sent four events under the earlier contract. -/
def legacyWithEvents : LegacyStore :=
  { vehicleTask := some { vehicleTaskId := "VT-0", vehicleTaskState := "READY" }
    eventOutbox := some { nextSequenceNo := 5, acceptedSequenceNo := 4 } }

/-- The process is restarted once it has a task with a snapshot. -/
theorem migrated_watermarks_kept_after_restart :
    let first := migrateOtaToFota legacyWithEvents {}
    let w := run cooperative (boot first) (.step :: .restart :: List.replicate 5 .step)
    w.mem.vtState = .completed ∧ first.outboxMeta = legacyWithEvents.outboxMeta ∧
      Always (fun a _ => WatermarksKept first a) w.trace ∧ WatermarksHeld first w.store := by
  refine ⟨?_, @migrated_watermarks_kept _ _ _ ?_⟩
  · decide +kernel
  · decide +kernel

/-- Without a restart the grant writes counters that were never read. -/
theorem grant_resets_migrated_watermarks :
    let first := migrateOtaToFota legacyWithEvents {}
    ¬WatermarksHeld first (run cooperative (boot first) (List.replicate 5 .step)).store := by
  intro first held
  have reset : (run cooperative (boot first) (List.replicate 5 .step)).store.outboxMeta =
      { nextSequenceNo := 1, acceptedSequenceNo := 0 } := by decide +kernel
  have counter := held.counter
  rw [reset] at counter
  exact absurd counter (by decide +kernel)

end CgwFota
