import CgwFota.Orchestrator.SendRules
import CgwFota.Properties.Outbox
import CgwFota.Properties.Restart

/-!
# The event outbox keeps what it counted

The counter exists in memory and in the store, and the send loop works with a copy of the stored
one. As long as no event is emitted while another is reported, the three agree whenever one of them
is written.

## Main definitions

* `OutboxGrows`: counted events are still stored, and the counter has not gone back.
* `EmittedNext`: an accepted event has a number above all before.
* `ReportsStored`: what is reported is the payload of a stored record.
* `OutboxIntact`: the three together, at one moment.

## Main result

* `outbox_intact`: in every run from an empty store in which tasks have ids and only the executor
  emits while it is called.

## Proof strategy

Between operations the counter of the memory is the stored one; in the send loop it stays as it was
read. At a crash only the store counts, and a restart that finds a snapshot reads the counter back.
-/
namespace CgwFota

open Crash

/-- Every event that was counted in `s` is still stored, with at most another status, and the
counter has not gone back. -/
structure OutboxGrows (s s' : FotaCloudStateStore) : Prop where
  counter : s.outboxMeta.nextSequenceNo ≤ s'.outboxMeta.nextSequenceNo
  kept : ∀ n < s.outboxMeta.nextSequenceNo, ∀ r ∈ s.loadEvent n,
    ∃ status, s'.loadEvent n = some { r with sendStatus := status }

/-- The counter is above the watermark and above every event that was acknowledged. -/
structure OutboxCounted (s : FotaCloudStateStore) : Prop where
  accepted : s.outboxMeta.acceptedSequenceNo < s.outboxMeta.nextSequenceNo
  acked : ∀ n, ∀ r ∈ s.loadEvent n, r.sendStatus = "ACKED" → n < s.outboxMeta.nextSequenceNo

/-- `emit` returned true: the event is stored and counted, under a number above all before. -/
def EmittedNext (a : Entry) (past : List Entry) : Prop :=
  match a.event with
  | .emitted n evt =>
    n < a.store.outboxMeta.nextSequenceNo ∧
      (∃ r ∈ a.store.loadEvent n, r.eventPbHex = protoBinaryToHex evt) ∧
      ∀ b ∈ past, ∀ m evt', b.event = .emitted m evt' → m < n
  | _ => True

/-- What is reported to the cloud is the payload of a stored record, under its number. -/
def ReportsStored (a : Entry) : Prop :=
  match a.event with
  | .called (.reportEvent req _) => ∃ r ∈ a.store.loadEvent req.sequenceNo, req = r.report
  | _ => True

/-- The outbox at one moment, compared with every moment before. -/
structure OutboxIntact (a : Entry) (past : List Entry) : Prop where
  grows : ∀ b ∈ past, OutboxGrows b.store a.store
  counted : OutboxCounted a.store
  emitted : EmittedNext a past
  reported : ReportsStored a

/-- The calls during which the executor may emit events. -/
def Call.hostsEmits : Call → Bool
  | .prepare _ | .start _ | .apply _ => true
  | _ => false

/-- No event is emitted while the cloud answers. -/
def Environment.EmitsFromExecutor (e : Environment) : Prop :=
  ∀ tick c, c.hostsEmits = false → e.emits tick c = []

section Stores

variable {s s' s'' : FotaCloudStateStore} {r : FotaEventOutboxRecord}

/-- A store with the same counters and the same events has grown. -/
theorem OutboxGrows.of_same (counters : s'.eventOutboxMeta = s.eventOutboxMeta)
    (events : s'.events = s.events) : OutboxGrows s s' := by
  constructor
  · unfold FotaCloudStateStore.outboxMeta
    exact Nat.le_of_eq (by rw [counters])
  · intro n _ r found
    refine ⟨r.sendStatus, ?_⟩
    unfold FotaCloudStateStore.loadEvent at found ⊢
    rw [events]
    exact found

theorem OutboxGrows.refl (s : FotaCloudStateStore) : OutboxGrows s s := .of_same rfl rfl

theorem OutboxGrows.trans (h : OutboxGrows s s') (h' : OutboxGrows s' s'') : OutboxGrows s s'' where
  counter := Nat.le_trans h.counter h'.counter
  kept n below r found := by
    obtain ⟨status, found'⟩ := h.kept n below r found
    exact h'.kept n (Nat.lt_of_lt_of_le below h.counter) { r with sendStatus := status } found'

/-- A record that is not counted yet may be written. -/
theorem OutboxGrows.append (fresh : s.outboxMeta.nextSequenceNo ≤ r.sequenceNo) :
    OutboxGrows s (s.save (.event r)) := by
  refine ⟨Nat.le_refl _, fun n below r' found => ⟨r'.sendStatus, ?_⟩⟩
  have other : r.sequenceNo ≠ n := by omega
  exact (Keyed.get_insert_ne _ _ other).trans found

/-- A stored record may be written with another status. -/
theorem OutboxGrows.mark (status : String) (stored : s.loadEvent r.sequenceNo = some r) :
    OutboxGrows s (s.save (.event { r with sendStatus := status })) := by
  refine ⟨Nat.le_refl _, fun n below r' found => ?_⟩
  have marked := loadEvent_mark status stored n
  by_cases same : r.sequenceNo = n
  · subst same
    cases stored.symm.trans found
    exact ⟨status, marked.trans (if_pos rfl)⟩
  · exact ⟨r'.sendStatus, (marked.trans (if_neg same)).trans found⟩

theorem OutboxGrows.count {outbox : FotaEventOutboxMeta}
    (counter : s.outboxMeta.nextSequenceNo ≤ outbox.nextSequenceNo) :
    OutboxGrows s (s.save (.eventOutboxMeta outbox)) :=
  ⟨counter, fun _ _ r found => ⟨r.sendStatus, found⟩⟩

/-- Whether the outbox is counted depends on the counters and the events. -/
theorem OutboxCounted.of_same (h : OutboxCounted s)
    (counters : s'.eventOutboxMeta = s.eventOutboxMeta)
    (events : s'.events = s.events) : OutboxCounted s' := by
  have next : s'.outboxMeta = s.outboxMeta := by
    unfold FotaCloudStateStore.outboxMeta
    rw [counters]
  constructor
  · rw [next]
    exact h.accepted
  · intro n r found
    rw [next]
    refine h.acked n r ?_
    unfold FotaCloudStateStore.loadEvent at found ⊢
    rw [← events]
    exact found

/-- An event may be written, acknowledged only below the counter. -/
theorem OutboxCounted.write (h : OutboxCounted s)
    (acked : r.sendStatus = "ACKED" → r.sequenceNo < s.outboxMeta.nextSequenceNo) :
    OutboxCounted (s.save (.event r)) := by
  refine ⟨h.accepted, fun n r' found status => ?_⟩
  by_cases same : r.sequenceNo = n
  · subst same
    cases (Keyed.get_insert_self s.events r).symm.trans found
    exact acked status
  · exact h.acked n r' ((Keyed.get_insert_ne _ _ same).symm.trans found) status

theorem OutboxCounted.count (h : OutboxCounted s) {outbox : FotaEventOutboxMeta}
    (accepted : outbox.acceptedSequenceNo < outbox.nextSequenceNo)
    (counter : s.outboxMeta.nextSequenceNo ≤ outbox.nextSequenceNo) :
    OutboxCounted (s.save (.eventOutboxMeta outbox)) :=
  ⟨accepted, fun n r found status => Nat.lt_of_lt_of_le (h.acked n r found status) counter⟩

end Stores

/-- What a crash leaves of the invariant. -/
structure SequenceKept (w : World) : Prop where
  always : Always OutboxIntact w.trace
  grows : ∀ b ∈ w.trace, OutboxGrows b.store w.store
  counted : OutboxCounted w.store

/-- The invariant of the running process. -/
structure SequenceLive (w : World) : Prop extends SequenceKept w where
  next : w.mem.nextSeq = w.store.outboxMeta.nextSequenceNo
  behind : w.mem.acceptedSeq < w.mem.nextSeq

/-- In the send loop the stored counter stays as it was read. -/
structure SequenceSending (limit : Nat) (w : World) : Prop extends SequenceLive w where
  fixed : w.store.outboxMeta.nextSequenceNo = limit

section Sequence

variable {e : Environment} {w w' : World} {parts : List Part} {limit : Nat}

/-- Every event emitted so far has a number that is counted. -/
theorem SequenceKept.below (h : SequenceKept w) :
    ∀ b ∈ w.trace, ∀ n evt, b.event = .emitted n evt → n < w.store.outboxMeta.nextSequenceNo := by
  intro b member n evt same
  obtain ⟨past, intact⟩ := h.always.of_mem member
  have emitted := intact.emitted
  unfold EmittedNext at emitted
  rw [same] at emitted
  exact Nat.lt_of_lt_of_le emitted.1 (h.grows b member).counter

/-- One more entry, and the store it leads to. -/
theorem SequenceKept.grow (h : SequenceKept w) (a : Entry) (now : a.store = w.store)
    (trace : w'.trace = a :: w.trace) (emitted : EmittedNext a w.trace) (reported : ReportsStored a)
    (grows : OutboxGrows w.store w'.store) (counted : OutboxCounted w'.store) :
    SequenceKept w' := by
  refine ⟨?_, ?_, counted⟩
  · rw [trace]
    refine ⟨⟨fun b member => ?_, ?_, emitted, reported⟩, h.always⟩
    · rw [now]
      exact h.grows b member
    · rw [now]
      exact h.counted
  · rw [trace]
    intro b member
    -- the new entry, or an older one
    rcases List.mem_cons.mp member with rfl | member
    · rw [now]
      exact grows
    · exact (h.grows b member).trans grows

/-- What stays away from the outbox keeps the invariant at a crash. -/
theorem SequenceKept.within (h : SequenceKept w) (within : Within parts w w')
    (out : .outbox ∉ parts) : SequenceKept w' := by
  obtain ⟨-, -, counters, events⟩ := within.same .outbox out
  have silent : ∀ a :
      Entry, a.event.part ∈ parts → ∀ past, EmittedNext a past ∧ ReportsStored a := by
    intro a member past
    unfold EmittedNext ReportsStored
    constructor
    · split
      next same =>
        rw [same] at member
        exact absurd member out
      next => trivial
    · split
      next same =>
        rw [same] at member
        exact absurd member out
      next => trivial
  refine ⟨within.always_on (fun a before on older => ?_) h.always, fun b member => ?_,
    h.counted.of_same counters events⟩
  · obtain ⟨-, -, counters, events⟩ := on.2 .outbox out
    obtain ⟨emitted, reported⟩ := silent a on.1 (before ++ w.trace)
    refine ⟨fun b member => ?_, h.counted.of_same counters events, emitted, reported⟩
    -- while it lasted, and before it
    rcases List.mem_append.mp member with recent | member
    · obtain ⟨-, -, counters', events'⟩ := (older b recent).2 .outbox out
      exact .of_same (counters.trans counters'.symm) (events.trans events'.symm)
    · exact (h.grows b member).trans (.of_same counters events)
  · obtain ⟨new, trace, on⟩ := within.trace
    rw [trace] at member
    rcases List.mem_append.mp member with recent | member
    · obtain ⟨-, -, counters', events'⟩ := (on b recent).2 .outbox out
      exact .of_same (counters.trans counters'.symm) (events.trans events'.symm)
    · exact (h.grows b member).trans (.of_same counters events)

/-- What stays away from the outbox keeps the invariant of the running process. -/
theorem SequenceLive.within (h : SequenceLive w) (within : Within parts w w')
    (out : .outbox ∉ parts) : SequenceLive w' := by
  obtain ⟨next, accepted, counters, -⟩ := within.same .outbox out
  refine ⟨h.toSequenceKept.within within out, ?_, ?_⟩
  · rw [next, FotaCloudStateStore.outboxMeta, counters]
    exact h.next
  · rw [next, accepted]
    exact h.behind

/-- An emission writes the record, then the counter, then the memory. -/
theorem sequence_emit (evt : ExecutionEvent) (h : SequenceLive w) :
    wp (emit evt) (fun _ => SequenceLive) SequenceKept e w := by
  refine wp_emit h fun _ r number status payload => ?_
  have fresh : w.store.outboxMeta.nextSequenceNo ≤ r.sequenceNo := Nat.le_of_eq number.symm
  have stored : SequenceKept (w.effect (.saved (.event r))) := by
    refine h.toSequenceKept.grow _ rfl rfl trivial trivial (.append fresh) (h.counted.write ?_)
    simp [status]
  have counted : SequenceKept ((w.effect (.saved (.event r))).effect (.saved (.eventOutboxMeta
      { w.store.outboxMeta with nextSequenceNo := w.store.outboxMeta.nextSequenceNo + 1 }))) := by
    refine stored.grow _ rfl rfl trivial trivial (.count (Nat.le_succ _)) ?_
    exact stored.counted.count (Nat.lt_succ_of_lt h.counted.accepted) (Nat.le_succ _)
  refine ⟨stored, counted, counted.grow _ rfl rfl ?_ trivial (.refl _) counted.counted, rfl, ?_⟩
  · refine ⟨Nat.lt_succ_self _, ⟨r, ?_, payload⟩, fun b member m evt' same => ?_⟩
    · exact number ▸ Keyed.get_insert_self _ _
    · -- The two entries of the saves are not emissions.
      rcases List.mem_cons.mp member with rfl | member
      · cases same
      · rcases List.mem_cons.mp member with rfl | member
        · cases same
        · exact h.below b member m evt' same
  · have behind := h.behind
    have next := h.next
    show w.mem.acceptedSeq < w.store.outboxMeta.nextSequenceNo + 1
    omega

/-- Writing the execution writes the counter that is stored. -/
theorem sequence_persistExecution (h : SequenceLive w) :
    wp persistExecution (fun _ => SequenceLive) SequenceKept e w := by
  have within : Within [.execution] w (w.effect (.saved (.execution (executionRecord w.mem)))) :=
    .effect _ (by simp [Event.part, Save.part])
  have saved := h.within within (by simp)
  have counter : w.store.outboxMeta.nextSequenceNo ≤ w.mem.nextSeq := Nat.le_of_eq h.next.symm
  have counted : SequenceKept ((w.effect (.saved (.execution (executionRecord w.mem)))).effect
      (.saved (.eventOutboxMeta
        { nextSequenceNo := w.mem.nextSeq, acceptedSequenceNo := w.mem.acceptedSeq }))) :=
    saved.toSequenceKept.grow _ rfl rfl trivial trivial (.count counter)
      (saved.counted.count h.behind counter)
  unfold persistExecution
  simp only [wp_bind, wp_memory]
  exact wp_save saved.toSequenceKept (wp_save counted ⟨counted, rfl, h.behind⟩)

/-- The steps around the outbox, in terms of the invariant. -/
theorem sequenceRules : OutboxRules e (Assuming TaskNamed SequenceLive)
    (Assuming TaskNamed SequenceLive) (Assuming TaskNamed SequenceLive)
    (Assuming TaskNamed SequenceKept) where
  heldDurable _ holds cond := (holds cond).toSequenceKept
  grantedDurable _ holds cond := (holds cond).toSequenceKept
  liveHeld _ holds := holds
  underway _ holds _ := holds
  quietHeld _ _ _ outbox _ _ within _ holds :=
    within.assuming holds fun live => live.within within outbox
  quietGranted _ _ _ outbox _ _ within holds :=
    within.assuming holds fun live => live.within within outbox
  quietLive _ _ _ outbox _ _ within holds :=
    within.assuming holds fun live => live.within within outbox
  emitHeld evt _ holds := holds.wp (touches_emit [.outbox] evt (by simp)) (sequence_emit evt)
  emitLive evt _ holds := holds.wp (touches_emit [.outbox] evt (by simp)) (sequence_emit evt)
  grant _ _ _ _ _ holds := holds
  persistGranted _ holds :=
    holds.wp (touches_persistExecution [.execution, .outbox] (by simp) (by simp))
      sequence_persistExecution
  persistLive _ holds :=
    holds.wp (touches_persistExecution [.execution, .outbox] (by simp) (by simp))
      sequence_persistExecution

/-! ### The send loop -/

theorem SequenceSending.effect (h : SequenceSending limit w) (event : Event)
    (same : (w.effect event).store = w.store)
    (emitted : EmittedNext ⟨event, w.mem, w.store, w.tick⟩ w.trace)
    (reported : ReportsStored ⟨event, w.mem, w.store, w.tick⟩) :
    SequenceSending limit (w.effect event) := by
  have kept : SequenceKept (w.effect event) := by
    refine h.toSequenceKept.grow _ rfl rfl emitted reported ?_ ?_
    · rw [same]; exact .refl _
    · rw [same]; exact h.counted
  refine ⟨⟨kept, ?_, h.behind⟩, ?_⟩
  · rw [same]; exact h.next
  · rw [same]; exact h.fixed

/-- Only the status of the event at hand changes. -/
theorem SequenceSending.mark (h : SequenceSending limit w) {r : FotaEventOutboxRecord}
    (hand : AtHand limit r w.store) (status : String) (accepted : Nat)
    (behind : accepted < w.mem.nextSeq) :
    SequenceSending limit ((w.withMemory ({ · with acceptedSeq := accepted })).effect
      (.saved (.event { r with sendStatus := status }))) := by
  refine ⟨⟨?_, h.next, behind⟩, h.fixed⟩
  refine h.toSequenceKept.grow _ rfl rfl trivial trivial (.mark status hand.stored) ?_
  exact h.counted.write fun _ => Nat.lt_of_lt_of_le hand.below hand.counted

/-- The send loop, in terms of the invariant. -/
theorem sequenceSends (executor : e.EmitsFromExecutor) : SendRules e limit
    (Assuming TaskNamed (SequenceSending limit)) (Assuming TaskNamed SequenceKept) where
  durable _ holds cond := (holds cond).toSequenceKept
  emissions tick req ctx evt member := by
    rw [executor tick (.reportEvent req ctx) rfl] at member
    cases member
  skipped _ _ holds hand _ := holds.effect fun _ sending =>
    sending.mark hand "SENT" _ sending.behind
  called _ r ctx holds hand _ := holds.effect fun _ sending =>
    sending.effect _ rfl trivial ⟨r, hand.stored, rfl⟩
  returned _ _ _ _ holds := holds.effect fun _ sending => sending.effect _ rfl trivial trivial
  failed _ r holds hand := holds.effect fun _ sending =>
    sending.mark hand r.sendStatus _ sending.behind
  acked w r ctx resp _ holds hand cond := by
    have sending := holds cond.2
    refine sending.mark hand "ACKED" _ (Nat.max_lt.mpr ⟨sending.behind, ?_⟩)
    have next : w.mem.nextSeq = _ := sending.next
    have below := hand.below
    have counted := hand.counted
    show r.sequenceNo < w.mem.nextSeq
    omega

/-- A pass, and what comes after it. -/
theorem sequence_flushOutbox (executor : e.EmitsFromExecutor)
    (h : Assuming TaskNamed SequenceLive w) :
    wp flushOutbox (fun _ => Assuming TaskNamed SequenceLive) (Assuming TaskNamed SequenceKept)
      e w := by
  refine sequenceRules.flushOutbox (S := fun outbox =>
    Assuming TaskNamed (SequenceSending outbox.nextSequenceNo))
    (R := Assuming TaskNamed SequenceLive) (fun w holds cond => ⟨holds cond, rfl⟩)
    (fun _ => sequenceSends executor) (fun _ _ holds cond => (holds cond).toSequenceLive)
    (fun outbox w holds _ => ?_) (fun _ holds cond => (holds cond).toSequenceKept)
    sequenceRules.persistLive (fun w event part holds => ?_) h
  · refine holds.effect fun _ sending => ?_
    have fixed := sending.fixed
    have next := sending.next
    have behind := sending.behind
    have counter : w.store.outboxMeta.nextSequenceNo ≤ outbox.nextSequenceNo := by omega
    refine ⟨?_, ?_, sending.behind⟩
    · refine sending.toSequenceKept.grow _ rfl rfl trivial trivial (.count counter) ?_
      refine sending.counted.count ?_ counter
      show w.mem.acceptedSeq < outbox.nextSequenceNo
      omega
    · show w.mem.nextSeq = outbox.nextSequenceNo
      omega
  · have within : Within [event.part] w (w.effect event) := .effect event (by simp)
    exact within.assuming holds fun live => live.within within (by simp [part])

/-! ### Restarts -/

/-- A restart that finds a snapshot reads both counters back. -/
theorem sequence_restart (snapshot : Assuming TaskNamed SnapshotsNamed w)
    (h : Assuming TaskNamed SequenceKept w) : Assuming TaskNamed SequenceLive (restart w) := by
  intro cond
  have kept := h cond.2
  have read : (restart w).mem = _ := loadFromStore_with_snapshot (snapshot cond.2).lacksSnapshot
  refine ⟨kept.grow _ rfl rfl trivial trivial (.refl _) kept.counted, ?_, ?_⟩
  · rw [read]
    rfl
  · rw [read]
    exact kept.counted.accepted

end Sequence

/-- Over every run from an empty store, with crashes and restarts anywhere, in which tasks have ids
and events are emitted between operations or by the executor while it prepares, starts or applies a
control: the outbox keeps every counted event, uses every number once and reports only what it
has stored. -/
theorem outbox_intact (env : Environment) (executor : env.EmitsFromExecutor) (ops : List Operation)
    (named : Always TaskNamed (run env (boot {}) ops).trace) :
    let w := run env (boot {}) ops
    Always OutboxIntact w.trace ∧ (∀ b ∈ w.trace, OutboxGrows b.store w.store) ∧
      OutboxCounted w.store := by
  have empty : OutboxCounted {} := by
    refine ⟨Nat.zero_lt_one, fun n r found => ?_⟩
    simp [FotaCloudStateStore.loadEvent] at found
  have noted : ∀ event w, event.part = .run → Assuming TaskNamed SequenceLive w →
      Assuming TaskNamed SequenceLive (w.note event) := fun event w part holds =>
    (Within.note_run event part).assuming holds fun live => live.within (.note_run _ part) (by simp)
  have initial : Assuming TaskNamed SequenceLive (boot {}) := by
    refine sequence_restart (fun _ => by simp [SnapshotsNamed]) fun _ => ⟨trivial, ?_, empty⟩
    simp
  have kept := run_keeps_named (e := env) (Assuming TaskNamed SequenceLive)
    (Assuming TaskNamed SequenceKept) (fun op w => noted (.began op) w rfl)
    (fun w w' within holds => within.assuming holds fun live => live.within within (by simp))
    sequenceRules.emitHeld
    (fun w holds => sequenceRules.step (fun w holds => sequence_flushOutbox executor holds)
      (noted (.began .step) w rfl holds))
    (fun w holds cond => (holds cond).toSequenceKept)
    (fun w snapshot holds => sequence_restart (fun cond => snapshot cond.2) ?_)
    (fun w snapshot holds => sequence_restart snapshot fun cond => (holds cond).toSequenceKept)
    ops restartable_boot initial
  · have live := kept.2 named
    exact ⟨live.always, live.grows, live.counted⟩
  · exact (Within.note_run .crashed rfl).assuming holds fun held =>
      held.within (.note_run _ rfl) (by simp)

/-- Two events are emitted at every start, and the first process is gone before the second event is
counted. -/
def crashingInEmit : Environment :=
  { emitting [{ eventId := "EV-1" }, { eventId := "EV-2" }] [] with crashes := (· = 48) }

/-- The number of the lost event is used again, since it was never counted. -/
theorem outbox_intact_after_crash :
    let w := run crashingInEmit (boot {}) (List.replicate 7 .step)
    w.store.outboxMeta.nextSequenceNo = 4 ∧ Always OutboxIntact w.trace ∧
      (∀ b ∈ w.trace, OutboxGrows b.store w.store) ∧ OutboxCounted w.store := by
  refine ⟨?_, @outbox_intact _ ?_ _ ?_⟩
  · decide +kernel
  · intro tick c silent
    cases c <;> first | rfl | cases silent
  · decide +kernel

end CgwFota
