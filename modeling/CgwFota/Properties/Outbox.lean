import CgwFota.Orchestrator.OutboxRules

/-!
# The final result and the events before it

The send loop of `doExecute` takes its bound from metadata read before the first event is sent, and
the final result is reported in the same pass. An event emitted meanwhile is passed over.

## Main definitions

* `FinalAfterEvents`: a final result is reported after all events of its execution were
  acknowledged, and counts them.
* `EventsOrderly`: no event is emitted while the outbox is flushed.
* `Tracked`: the watermark has reached the newest event, or that event is still to be sent.

## Main results

* `final_result_after_events`: in every run that is orderly in this sense.
* `event_is_passed_over`: a run that is not, and reports a final result over an unsent event.

## Proof strategy

The invariant says that every event of the current execution is stored under its own number, and
that the watermark tracks the newest one. It has four strengths: what a crash leaves, what holds
between operations, what holds while the counters of memory and store agree, and what holds in the
send loop, where all numbers that were visited are acknowledged unless an error was noted. A pass
without an error over all numbers leaves an outbox that is flushed.
-/
namespace CgwFota

open Crash

/-- The events of the current execution: those emitted since its permit was granted. -/
def currentEvents : List Entry → List (Nat × ExecutionEvent)
  | [] => []
  | a :: past =>
    match a.event with
    | .emitted sequenceNo evt => (sequenceNo, evt) :: currentEvents past
    | .returned (.requestInstall _ _) (.ok resp) =>
      if resp.allowed then [] else currentEvents past
    | _ => currentEvents past

/-- The event is stored under its number and acknowledged. -/
def Acked (s : FotaCloudStateStore) (event : Nat × ExecutionEvent) : Prop :=
  ∃ r ∈ s.loadEvent event.1, r.sendStatus = "ACKED" ∧ r.eventPbHex.message = event.2

/-- A final result is reported after all events of the execution were acknowledged, and counts
them. -/
def FinalAfterEvents (a : Entry) (past : List Entry) : Prop :=
  match a.event with
  | .called (.reportFinalResult report _) =>
    (∀ event ∈ currentEvents past, Acked a.store event) ∧
      report.finalSequenceNo + 1 = a.store.outboxMeta.nextSequenceNo
  | _ => True

/-- The call the process is waiting for. -/
def pendingCall : List Entry → Option Call
  | [] => none
  | a :: past =>
    match a.event with
    | .called c => some c
    | .returned _ _ | .began _ | .crashed | .restarted => none
    | _ => pendingCall past

/-- The calls between the send loop's first look at the outbox and the final report. -/
def Call.flushes : Call → Bool
  | .reportEvent _ _ | .readFinalResult => true
  | _ => false

/-- The record is still to be sent, and can be. -/
def isDue (r : FotaEventOutboxRecord) : Bool :=
  r.sendStatus ≠ "ACKED" && !r.eventPbHex.isEmpty

/-- The watermark has reached the newest event, or that event is still to be sent. -/
def Tracked (m : Memory) (s : FotaCloudStateStore) : Prop :=
  m.acceptedSeq + 1 = m.nextSeq ∨
    m.acceptedSeq + 1 < m.nextSeq ∧ ∃ r ∈ s.loadEvent (m.nextSeq - 1), isDue r

/-- Events have a payload and are not emitted while the outbox is flushed, and a process starts
with a watermark that is not behind an acknowledged event. -/
def EventsOrderly (a : Entry) (past : List Entry) : Prop :=
  match a.event with
  | .emitted _ evt =>
    (protoBinaryToHex evt).isEmpty = false ∧ ∀ c ∈ pendingCall past, c.flushes = false
  | .restarted => Tracked a.mem a.store
  | _ => True

instance (s : FotaCloudStateStore) (event : Nat × ExecutionEvent) : Decidable (Acked s event) :=
  inferInstanceAs (Decidable (∃ r ∈ s.loadEvent event.1, _))

instance (a : Entry) (past : List Entry) : Decidable (FinalAfterEvents a past) := by
  obtain ⟨_ | c | _, _, _, _⟩ := a
  all_goals unfold FinalAfterEvents; try infer_instance
  rcases c with _ | _ <;> infer_instance

instance (m : Memory) (s : FotaCloudStateStore) : Decidable (Tracked m s) :=
  inferInstanceAs (Decidable (_ ∨ _))

instance (a : Entry) (past : List Entry) : Decidable (EventsOrderly a past) := by
  obtain ⟨_ | _, _, _, _⟩ := a
  all_goals unfold EventsOrderly; infer_instance

/-- The event is stored under its number, with its payload. -/
def Stored (s : FotaCloudStateStore) (event : Nat × ExecutionEvent) : Prop :=
  ∃ r ∈ s.loadEvent event.1, r.eventPbHex.message = event.2 ∧ r.eventPbHex.isEmpty = false

/-- What a crash leaves of the invariant: the next event has a number of its own. -/
structure OutboxKept (w : World) : Prop where
  reported : Always FinalAfterEvents w.trace
  stored : ∀ event ∈ currentEvents w.trace, 0 < event.1 ∧
    event.1 < w.store.outboxMeta.nextSequenceNo ∧ Stored w.store event

/-- The invariant between operations. A restart without a snapshot forgets the counters, so they
need not agree before the next grant. -/
structure OutboxHeld (w : World) : Prop extends OutboxKept w where
  tracked : Tracked w.mem w.store
  behind : w.mem.acceptedSeq ≤ w.store.outboxMeta.nextSequenceNo
  live : isUnderway w.mem.vtState → w.mem.nextSeq = w.store.outboxMeta.nextSequenceNo

/-- The invariant while the counters agree. -/
structure OutboxLive (w : World) : Prop extends OutboxKept w where
  tracked : Tracked w.mem w.store
  next : w.mem.nextSeq = w.store.outboxMeta.nextSequenceNo

section Outbox

variable {e : Environment} {w w' : World} {parts : List Part}

theorem Tracked.behind {m : Memory} {s : FotaCloudStateStore} (h : Tracked m s) :
    m.acceptedSeq + 1 ≤ m.nextSeq := by
  rcases h with reached | ⟨below, -⟩ <;> omega

theorem OutboxHeld.toLive (h : OutboxHeld w) (underway : isUnderway w.mem.vtState) :
    OutboxLive w :=
  { h with next := h.live underway }

/-- Where the counters agree, the invariant between operations holds. -/
theorem OutboxLive.held (h : OutboxLive w) : OutboxHeld w where
  toOutboxKept := h.toOutboxKept
  tracked := h.tracked
  behind := by
    have behind := h.tracked.behind
    have next := h.next
    omega
  live _ := h.next

theorem finalAfterEvents_of_part (a : Entry) (past : List Entry) (result : a.event.part ≠ .result) :
    FinalAfterEvents a past := by
  unfold FinalAfterEvents
  split
  next same => exact absurd (congrArg Event.part same) result
  next => trivial

/-- Only an emission adds an event. -/
theorem currentEvents_cons {a : Entry} {past : List Entry}
    (silent : ∀ sequenceNo evt, a.event ≠ .emitted sequenceNo evt) :
    ∀ event ∈ currentEvents (a :: past), event ∈ currentEvents past := by
  intro event member
  rw [currentEvents] at member
  split at member
  next same => exact absurd same (silent _ _)
  next =>
    split at member
    next => simp at member
    next => exact member
  next => exact member

/-- What stays away from the outbox adds no event. -/
theorem currentEvents_within (within : Within parts w w') (outbox : .outbox ∉ parts) :
    ∀ event ∈ currentEvents w'.trace, event ∈ currentEvents w.trace := by
  obtain ⟨new, trace, on⟩ := within.trace
  rw [trace]
  clear trace
  induction new with
  | nil => exact fun _ member => member
  | cons a new ih =>
    intro event member
    refine ih (fun b member => on b (by simp [member])) event (currentEvents_cons ?_ event member)
    intro sequenceNo evt same
    have part := (on a (by simp)).1
    rw [same] at part
    exact outbox part

/-- The outbox stays as it is, and no event is added. -/
theorem OutboxKept.grow (h : OutboxKept w) (same : Part.Same .outbox w w')
    (reported : Always FinalAfterEvents w'.trace)
    (fewer : ∀ event ∈ currentEvents w'.trace, event ∈ currentEvents w.trace) : OutboxKept w' where
  reported := reported
  stored event member := by
    obtain ⟨-, -, outbox, events⟩ := same
    have stored := h.stored event (fewer event member)
    simp only [FotaCloudStateStore.outboxMeta, Stored, FotaCloudStateStore.loadEvent] at stored ⊢
    rw [outbox, events]
    exact stored

theorem Tracked.of_same {m m' : Memory} {s s' : FotaCloudStateStore} (h : Tracked m s)
    (next : m'.nextSeq = m.nextSeq) (accepted : m'.acceptedSeq = m.acceptedSeq)
    (events : s'.events = s.events) : Tracked m' s' := by
  unfold Tracked FotaCloudStateStore.loadEvent at *
  rw [next, accepted, events]
  exact h

theorem OutboxHeld.grow (h : OutboxHeld w) (same : Part.Same .outbox w w')
    (reported : Always FinalAfterEvents w'.trace)
    (fewer : ∀ event ∈ currentEvents w'.trace, event ∈ currentEvents w.trace)
    (underway : isUnderway w'.mem.vtState → isUnderway w.mem.vtState) : OutboxHeld w' := by
  have kept := h.toOutboxKept.grow same reported fewer
  obtain ⟨next, accepted, outbox, events⟩ := same
  -- the counter in the store is the same one
  have counter : w'.store.outboxMeta = w.store.outboxMeta := by
    rw [FotaCloudStateStore.outboxMeta, outbox]
    rfl
  refine { kept with tracked := h.tracked.of_same next accepted events, behind := ?_, live := ?_ }
  · rw [accepted, counter]
    exact h.behind
  -- as long as the task goes on, the counters agree
  · intro now
    rw [next, counter]
    exact h.live (underway now)

theorem OutboxLive.grow (h : OutboxLive w) (same : Part.Same .outbox w w')
    (reported : Always FinalAfterEvents w'.trace)
    (fewer : ∀ event ∈ currentEvents w'.trace, event ∈ currentEvents w.trace) : OutboxLive w' := by
  have kept := h.toOutboxKept.grow same reported fewer
  obtain ⟨next, accepted, outbox, events⟩ := same
  refine { kept with tracked := h.tracked.of_same next accepted events, next := ?_ }
  rw [next, FotaCloudStateStore.outboxMeta, outbox]
  exact h.next

theorem reported_within (within : Within parts w w') (result : .result ∉ parts)
    (reported : Always FinalAfterEvents w.trace) : Always FinalAfterEvents w'.trace :=
  within.always (fun a past member => finalAfterEvents_of_part a past fun same =>
    result (same ▸ member)) reported

/-- What touches neither the outbox nor results keeps the invariant between operations. -/
theorem OutboxHeld.within (h : OutboxHeld w) (within : Within parts w w')
    (outbox : .outbox ∉ parts) (result : .result ∉ parts)
    (underway : isUnderway w'.mem.vtState → isUnderway w.mem.vtState) : OutboxHeld w' :=
  h.grow (within.same .outbox outbox) (reported_within within result h.reported)
    (currentEvents_within within outbox) underway

/-- What touches neither the outbox nor results keeps the invariant while the counters agree. -/
theorem OutboxLive.within (h : OutboxLive w) (within : Within parts w w')
    (outbox : .outbox ∉ parts) (result : .result ∉ parts) : OutboxLive w' :=
  h.grow (within.same .outbox outbox) (reported_within within result h.reported)
    (currentEvents_within within outbox)

/-! ### Emissions -/

/-- An accepted event gets the next number and is then the newest one to be sent. -/
theorem outbox_emit {I : World → Prop} {evt : ExecutionEvent} (holds : OutboxHeld w) (refused : I w)
    (accepted : ∀ w', w'.mem.vtState = w.mem.vtState → OutboxLive w' → I w') :
    wp (emit evt) (fun _ w' => Always EventsOrderly w'.trace → I w') OutboxKept e w := by
  refine wp_emit (fun _ => refused) fun positive r number status payload => ?_
  have older : ∀ event ∈ currentEvents w.trace, Stored (w.store.save (.event r)) event := by
    intro event member
    obtain ⟨-, below, stored⟩ := holds.stored event member
    have other : r.sequenceNo ≠ event.1 := by omega
    simpa [Stored, FotaCloudStateStore.loadEvent, Keyed.get_insert_ne _ _ other] using stored
  have found : (w.store.save (.event r)).loadEvent w.store.outboxMeta.nextSequenceNo = some r :=
    number ▸ Keyed.get_insert_self _ _
  refine ⟨⟨⟨trivial, holds.reported⟩, fun event member => ?_⟩,
    ⟨⟨trivial, trivial, holds.reported⟩, fun event member => ?_⟩, fun cond => ?_⟩
  -- a number that was given out is below the next one
  · obtain ⟨above, below, -⟩ := holds.stored event member
    exact ⟨above, below, older event member⟩
  · obtain ⟨above, below, -⟩ := holds.stored event member
    exact ⟨above, Nat.lt_succ_of_lt below, older event member⟩
  -- the new event is stored with its payload, and it is the newest
  · have sent : r.eventPbHex.isEmpty = false := by
      rw [payload]
      exact cond.1.1
    refine accepted _ rfl ⟨⟨⟨trivial, trivial, trivial, holds.reported⟩, ?_⟩, ?_, rfl⟩
    · intro event member
      rcases List.mem_cons.mp member with rfl | member
      · exact ⟨positive, Nat.lt_succ_self _, r, found, by rw [payload]; rfl, sent⟩
      · obtain ⟨above, below, -⟩ := holds.stored event member
        exact ⟨above, Nat.lt_succ_of_lt below, older event member⟩
    · rcases Nat.lt_or_eq_of_le holds.behind with below | reached
      · refine .inr ⟨Nat.succ_lt_succ below, r, found, ?_⟩
        simp [isDue, sent, status]
      · exact .inl (congrArg (· + 1) reached)

theorem held_emit (evt : ExecutionEvent) (w : World) (holds : Assuming EventsOrderly OutboxHeld w) :
    wp (emit evt) (fun _ => Assuming EventsOrderly OutboxHeld)
      (Assuming EventsOrderly OutboxKept) e w :=
  holds.wp_of (touches_emit [.outbox] evt (by simp)) fun held =>
    wp_mono (outbox_emit (I := OutboxHeld) held held fun _ _ live => live.held)
      (fun _ _ h => h) fun _ h _ => h

theorem live_emit (evt : ExecutionEvent) (w : World) (holds : Assuming EventsOrderly OutboxLive w) :
    wp (emit evt) (fun _ => Assuming EventsOrderly OutboxLive)
      (Assuming EventsOrderly OutboxKept) e w :=
  holds.wp_of (touches_emit [.outbox] evt (by simp)) fun live =>
    wp_mono (outbox_emit (I := OutboxLive) live.held live fun _ _ live => live)
      (fun _ _ h => h) fun _ h _ => h

/-- An effect that emits nothing keeps the invariant, if a result it reports comes after the events.
-/
theorem OutboxLive.effect (h : OutboxLive w) (event : Event)
    (reported : FinalAfterEvents ⟨event, w.mem, w.store, w.tick⟩ w.trace)
    (silent : ∀ sequenceNo evt, event ≠ .emitted sequenceNo evt)
    (same : Part.Same .outbox w (w.effect event)) : OutboxLive (w.effect event) :=
  h.grow same ⟨reported, h.reported⟩ (currentEvents_cons silent)

theorem OutboxLive.returned (h : OutboxLive w) (c : Call) (r : c.Reply) :
    OutboxLive (w.effect (.returned c r)) :=
  h.effect _ trivial (by simp) (by simp [Part.Same])

/-- An event that is emitted while the outbox is flushed breaks the assumption. -/
theorem disturbed_emit {c : Call} {evt : ExecutionEvent} (pending : pendingCall w.trace = some c)
    (flushes : c.flushes) :
    wp (emit evt) (fun _ w' => Always EventsOrderly w'.trace → w' = w) (fun _ => True) e w := by
  refine wp_emit (fun _ => rfl) fun _ r _ _ _ => ⟨trivial, trivial, fun cond => ?_⟩
  have quiet := cond.1.2 c pending
  simp [flushes] at quiet

/-- A call of the flush: nothing happens to the outbox while it is pending. -/
theorem wp_call_flushing {c : Call} {I : World → Prop} (flushes : c.flushes)
    (holds : OutboxHeld (w.effect (.called c)))
    (next : ∀ r, OutboxKept ((w.effect (.called c)).effect (.returned c r)) ∧
      I ((w.effect (.called c)).effect (.returned c r))) :
    wp (call c) (fun _ => Assuming EventsOrderly I) (Assuming EventsOrderly OutboxKept) e w := by
  have silent : ∀ evt w', (Always EventsOrderly w'.trace → w' = w.effect (.called c)) →
      wp (emit evt) (fun _ w' => Always EventsOrderly w'.trace → w' = w.effect (.called c))
        (Assuming EventsOrderly OutboxKept) e w' := by
    intro evt w' same
    -- unless the assumption is broken, nothing was emitted while the call was pending
    by_cases met : Always EventsOrderly w'.trace
    · obtain rfl := same met
      exact wp_mono (wp_and (disturbed_emit rfl flushes)
        (outbox_emit (I := fun _ => True) holds trivial fun _ _ _ => trivial))
        (fun _ _ both => both.1) fun _ both _ => both.2
    · exact wp_mono (touches_emit [.outbox] evt (by simp) w')
        (fun _ _ within cond => absurd (within.past cond) met)
        fun _ within cond => absurd (within.past cond) met
  unfold call
  simp only [wp_bind]
  refine wp_effect (fun _ => holds.toOutboxKept) ?_
  refine wp_mono (wp_forEach _ (fun evt _ w' same => by simpa using silent evt w' same) _
    fun _ => rfl) (fun _ w' same => ?_) fun _ h => h
  by_cases met : Always EventsOrderly w'.trace
  · obtain rfl := same met
    exact wp_effect (fun _ => (next _).1) fun _ => (next _).2
  · exact wp_effect (fun cond => absurd cond.2 met) fun cond => absurd cond.2 met

/-! ### The send loop -/

/-- Writing the counters of the memory keeps every event that has a number below them. -/
theorem outbox_persistExecution (kept : OutboxKept w) (tracked : Tracked w.mem w.store)
    (below : ∀ event ∈ currentEvents w.trace, event.1 < w.mem.nextSeq) :
    wp persistExecution (fun _ => OutboxLive) OutboxKept e w := by
  have saved : OutboxKept (w.effect (.saved (.execution (executionRecord w.mem)))) :=
    ⟨⟨trivial, kept.reported⟩, kept.stored⟩
  have counted : OutboxLive ((w.effect (.saved (.execution (executionRecord w.mem)))).effect
      (.saved (.eventOutboxMeta
        { nextSequenceNo := w.mem.nextSeq, acceptedSequenceNo := w.mem.acceptedSeq }))) := by
    refine ⟨⟨⟨trivial, trivial, kept.reported⟩, fun event member => ?_⟩, tracked, rfl⟩
    obtain ⟨above, -, stored⟩ := kept.stored event member
    exact ⟨above, below event member, stored⟩
  unfold persistExecution
  simp only [wp_bind, wp_memory]
  exact wp_save saved (wp_save counted.toOutboxKept counted)

theorem OutboxLive.below (h : OutboxLive w) :
    ∀ event ∈ currentEvents w.trace, event.1 < w.mem.nextSeq := by
  intro event member
  rw [h.next]
  exact (h.stored event member).2.1

/-- The record is stored as sent as it will be in this pass. -/
def Delivered (s : FotaCloudStateStore) (seq : Nat) : Prop :=
  ∀ r ∈ s.loadEvent seq, r.sendStatus = "ACKED" ∨ r.eventPbHex.isEmpty

/-- The invariant of the send loop: unless an event was not accepted, all events that are `done`
are delivered. -/
structure Sending (limit : Nat) (done : Nat → Prop) (st : SendState) (w : World) : Prop
    extends OutboxLive w where
  fixed : w.store.outboxMeta.nextSequenceNo = limit
  delivered : st.sendError = false → ∀ seq, done seq → Delivered w.store seq

section SendLoop

variable {limit seq : Nat} {done : Nat → Prop} {st : SendState} {r : FotaEventOutboxRecord}
  {status : String}

/-- Only the status of one record changes. -/
theorem loadEvent_mark {s : FotaCloudStateStore} (status : String)
    (found : s.loadEvent seq = some r) (k : Nat) :
    (s.save (.event { r with sendStatus := status })).loadEvent k =
      if seq = k then some { r with sendStatus := status } else s.loadEvent k := by
  have number : r.sequenceNo = seq := s.events.keyed seq r found
  simp [FotaCloudStateStore.loadEvent, Keyed.get_insert, number]

/-- A record without a payload may be marked as sent: it was not due. -/
theorem Tracked.skipped {m : Memory} {s : FotaCloudStateStore} (h : Tracked m s)
    (found : s.loadEvent seq = some r) (empty : r.eventPbHex.isEmpty) :
    Tracked m (s.save (.event { r with sendStatus := status })) := by
  rcases h with reached | ⟨below, newest, stored, due⟩
  · exact .inl reached
  · refine .inr ⟨below, newest, ?_, due⟩
    have other : seq ≠ m.nextSeq - 1 := by
      rintro rfl
      cases found.symm.trans stored
      simp [isDue, empty] at due
    rw [loadEvent_mark _ found, if_neg other]
    exact stored

/-- An acknowledged record raises the watermark to its number at least. -/
theorem Tracked.acked {m : Memory} {s : FotaCloudStateStore} (h : Tracked m s)
    (found : s.loadEvent seq = some r) (below : seq < m.nextSeq) :
    Tracked { m with acceptedSeq := max m.acceptedSeq seq }
      (s.save (.event { r with sendStatus := status })) := by
  unfold Tracked at *
  rcases h with reached | ⟨behind, newest, stored, due⟩
  · left
    show max m.acceptedSeq seq + 1 = m.nextSeq
    omega
  -- it is the newest one, and the watermark reaches it
  · by_cases last : seq = m.nextSeq - 1
    · left
      show max m.acceptedSeq seq + 1 = m.nextSeq
      omega
    -- the newest one is another one, and still due
    · refine .inr ⟨?_, newest, ?_, due⟩
      · show max m.acceptedSeq seq + 1 < m.nextSeq
        omega
      · rw [loadEvent_mark _ found, if_neg last]
        exact stored

/-- A turn that changes the status of one record, and the watermark with it. -/
theorem Sending.mark (h : Sending limit done st w) (status : String)
    (found : w.store.loadEvent seq = some r)
    (accepted : Nat) (delivered : status = "ACKED" ∨ r.eventPbHex.isEmpty)
    (tracked : Tracked { w.mem with acceptedSeq := accepted }
      (w.store.save (.event { r with sendStatus := status }))) :
    Sending limit (fun s => s = seq ∨ done s) st
      ((w.withMemory ({ · with acceptedSeq := accepted })).effect
        (.saved (.event { r with sendStatus := status }))) := by
  refine ⟨⟨⟨⟨trivial, h.reported⟩, fun event member => ?_⟩, tracked, h.next⟩, h.fixed,
    fun clean s among => ?_⟩
  · obtain ⟨above, below, r', stored, message, payload⟩ := h.stored event member
    refine ⟨above, below, ?_⟩
    -- the marked record is still stored with its payload
    by_cases this : seq = event.1
    · subst this
      cases found.symm.trans stored
      exact ⟨_, (loadEvent_mark _ found _).trans (if_pos rfl), message, payload⟩
    · exact ⟨r', ((loadEvent_mark _ found _).trans (if_neg this)).trans stored, message, payload⟩
  -- of the delivered records, it is the marked one or it was delivered before
  · intro r' stored
    have stored := (loadEvent_mark status found s).symm.trans stored
    split at stored
    next => cases stored; exact delivered
    next other =>
      rcases among with rfl | among
      · exact absurd rfl other
      · exact h.delivered clean s among r' stored

/-- Saving a record as it is changes nothing. -/
theorem save_event_same {s : FotaCloudStateStore} (found : s.loadEvent seq = some r) :
    (s.save (.event r)).events = s.events := by
  ext k : 1
  have marked := loadEvent_mark r.sendStatus found k
  split at marked
  next same => subst same; exact marked.trans found.symm
  next => exact marked

/-- A turn that ends without the event being accepted. -/
theorem Sending.retry (h : Sending limit done st w) (found : w.store.loadEvent seq = some r)
    (st' : SendState) (failed : st'.sendError) :
    Sending limit (fun s => s = seq ∨ done s) st' (w.effect (.saved (.event r))) := by
  have same : Part.Same .outbox w (w.effect (.saved (.event r))) :=
    ⟨rfl, rfl, rfl, save_event_same found⟩
  have live := h.toOutboxLive.grow same ⟨trivial, h.reported⟩ fun _ member => member
  exact { live with fixed := h.fixed, delivered := fun clean => by simp [failed] at clean }

theorem Sending.visit (h : Sending limit done st w) (delivered : Delivered w.store seq) :
    Sending limit (fun s => s = seq ∨ done s) st w := by
  refine { h with delivered := fun clean s among => ?_ }
  rcases among with rfl | among
  · exact delivered
  · exact h.delivered clean s among

/-- Reporting a stored event delivers it, or notes an error. -/
theorem sent_reportStoredEvent (holds : Sending limit done st w)
    (found : w.store.loadEvent seq = some r) (below : seq < limit) :
    wp (reportStoredEvent r st)
      (fun st' => Assuming EventsOrderly (Sending limit (fun s => s = seq ∨ done s) st'))
      (Assuming EventsOrderly OutboxKept) e w := by
  obtain rfl : r.sequenceNo = seq := w.store.events.keyed seq r found
  have called : ∀ c, c.part = .outbox → OutboxLive (w.effect (.called c)) := fun c part =>
    holds.toOutboxLive.effect (.called c)
      (finalAfterEvents_of_part _ _ (by simp [Event.part, part])) (by simp) (by simp [Part.Same])
  have returned : ∀ c (r' : c.Reply), c.part = .outbox →
      Sending limit done st ((w.effect (.called c)).effect (.returned c r')) := fun c r' part =>
    { (called c part).returned c r' with fixed := holds.fixed, delivered := holds.delivered }
  unfold reportStoredEvent
  simp only [wp_bind, wp_makeCtx]
  refine wp_mono (wp_call_flushing
    (I := fun w => Sending limit done st w ∧ w.store.loadEvent r.sequenceNo = some r) rfl
    ?_ fun reply => ?_) (fun reply w' holds => ?_) fun _ h => h
  · exact (called _ rfl).held
  · exact ⟨(returned _ reply rfl).toOutboxKept, returned _ reply rfl, found⟩
  · cases reply with
    -- no answer: the record stays as it is
    | error ex =>
      simp only [wp_bind, wp_pure]
      have kept := fun cond => (holds cond).1.retry (holds cond).2
        ⟨true, ex.detail, true⟩ rfl
      exact wp_save (fun cond => (kept cond.2).toOutboxKept) fun cond => kept cond.2
    -- an answer accepts the event, or it does not
    | ok resp =>
      simp only [wp_ite, wp_bind, wp_setMemory, wp_pure]
      split
      next =>
        have kept := fun cond => (holds cond).1.mark "ACKED" (holds cond).2
          (max w'.mem.acceptedSeq r.sequenceNo) (.inl rfl)
          ((holds cond).1.tracked.acked (holds cond).2
            (by rw [(holds cond).1.next, (holds cond).1.fixed]; exact below))
        exact wp_save (fun cond => (kept cond.2).toOutboxKept) fun cond => kept cond.2
      next =>
        have kept := fun cond => (holds cond).1.retry (holds cond).2
          { st with sendError := true } rfl
        exact wp_save (fun cond => (kept cond.2).toOutboxKept) fun cond => kept cond.2

/-- One turn of the send loop. -/
theorem sent_sendEvent (holds : Sending limit done st w) (below : seq < limit) :
    wp (sendEvent seq st)
      (fun st' => Assuming EventsOrderly (Sending limit (fun s => s = seq ∨ done s) st'))
      (Assuming EventsOrderly OutboxKept) e w := by
  unfold sendEvent
  simp only [wp_bind, wp_store]
  cases found : w.store.loadEvent seq with
  | none =>
    exact fun _ => holds.visit fun r stored => by simp [found] at stored
  -- no such record: nothing to deliver
  | some r =>
    simp only [wp_ite, wp_bind, wp_pure]
    -- acknowledged before, without a payload, or to be reported
    split
    next acked =>
      refine fun _ => holds.visit fun r' stored => .inl ?_
      cases found.symm.trans stored
      exact acked
    next =>
      split
      next empty =>
        have kept := holds.mark "SENT" found w.mem.acceptedSeq (.inr empty)
          (holds.tracked.skipped found empty)
        exact wp_save (fun _ => kept.toOutboxKept) fun _ => kept
      next => exact sent_reportStoredEvent holds found below

/-- A pass over these numbers, by induction on them. -/
theorem sent_sendEvents (seqs : List Nat) (below : ∀ seq ∈ seqs, seq < limit)
    (holds : Assuming EventsOrderly (Sending limit done st) w) :
    wp (sendEvents seqs st)
      (fun st' => Assuming EventsOrderly (Sending limit (fun s => s ∈ seqs ∨ done s) st'))
      (Assuming EventsOrderly OutboxKept) e w := by
  induction seqs generalizing done st w with
  | nil => exact fun cond => by simpa using holds cond
  | cons seq rest ih =>
    unfold sendEvents
    rw [wp_bind]
    refine wp_mono (Assuming.wp_of holds (touches_sendEvent seq st) fun holds =>
      sent_sendEvent holds (below seq (by simp))) (fun st' w' holds => ?_) fun _ h => h
    refine wp_mono (ih (fun s member => below s (by simp [member])) holds)
      (fun st'' w'' holds cond => ?_) fun _ h => h
    have sent := holds cond
    refine { sent with delivered := fun clean s among => sent.delivered clean s ?_ }
    simp only [List.mem_cons] at among
    tauto

/-- All events of the execution are acknowledged, and the watermark counts them. -/
structure OutboxFlushed (w : World) : Prop extends OutboxLive w where
  acked : ∀ event ∈ currentEvents w.trace, Acked w.store event
  counted : w.mem.acceptedSeq + 1 = w.store.outboxMeta.nextSequenceNo

theorem Sending.counted (h : Sending limit done st w) (outbox : FotaEventOutboxMeta)
    (same : outbox.nextSequenceNo = limit) :
    Sending limit done st (w.effect (.saved (.eventOutboxMeta outbox))) := by
  have next := h.next.trans (h.fixed.trans same.symm)
  refine ⟨⟨⟨⟨trivial, h.reported⟩, fun event member => ?_⟩, h.tracked, next⟩, same, h.delivered⟩
  obtain ⟨above, below, stored⟩ := h.stored event member
  refine ⟨above, ?_, stored⟩
  show event.1 < outbox.nextSequenceNo
  rw [same, ← h.fixed]
  exact below

theorem sent_raiseAccepted {outbox : FotaEventOutboxMeta} (same : outbox.nextSequenceNo = limit)
    (accepted : Nat) (holds : Sending limit done st w) :
    wp (raiseAccepted outbox accepted) (fun _ => Sending limit done st) OutboxKept e w := by
  unfold raiseAccepted
  simp only [wp_ite, wp_pure]
  split
  next =>
    have raised := holds.counted { outbox with acceptedSequenceNo := accepted } same
    exact wp_save raised.toOutboxKept raised
  next => exact holds

/-- Writing the state of the execution changes no event. -/
theorem sent_persistExecution (holds : Sending limit done st w) :
    wp persistExecution (fun _ => Sending limit done st) OutboxKept e w := by
  have live := holds.toOutboxLive.effect (.saved (.execution (executionRecord w.mem))) trivial
    (by simp) ⟨rfl, rfl, rfl, rfl⟩
  have saved : Sending limit done st (w.effect (.saved (.execution (executionRecord w.mem)))) :=
    { live with fixed := holds.fixed, delivered := holds.delivered }
  have counted := saved.counted
    { nextSequenceNo := w.mem.nextSeq, acceptedSequenceNo := w.mem.acceptedSeq }
    (holds.next.trans holds.fixed)
  unfold persistExecution
  simp only [wp_bind, wp_memory]
  exact wp_save saved.toOutboxKept (wp_save counted.toOutboxKept counted)

/-- A pass over all numbers without a failure has flushed the outbox. -/
theorem Sending.flushed (h : Sending limit done st w) (clean : st.sendError = false)
    (all : ∀ seq, 0 < seq → seq < limit → done seq) : OutboxFlushed w := by
  have delivered : ∀ seq, 0 < seq → seq < limit → Delivered w.store seq :=
    fun seq above below => h.delivered clean seq (all seq above below)
  refine { h with acked := fun event member => ?_, counted := ?_ }
  -- every event was visited, and has a payload
  · obtain ⟨above, below, r, stored, message, payload⟩ := h.stored event member
    rw [h.fixed] at below
    rcases delivered event.1 above below r stored with acked | empty
    · exact ⟨r, stored, acked, message⟩
    · simp [payload] at empty
  -- the newest event was visited too, so it is not due any more
  · rcases h.tracked with reached | ⟨below, r, stored, due⟩
    · exact reached.trans h.next
    · have next := h.next.trans h.fixed
      rcases delivered _ (by omega) (by omega) r stored with acked | empty
      · simp [isDue, acked] at due
      · simp [isDue, empty] at due

/-- What is known from a grant on: the execution has no events yet. -/
structure OutboxGranted (w : World) : Prop extends OutboxKept w where
  tracked : Tracked w.mem w.store
  fresh : currentEvents w.trace = []

/-- What touches neither the outbox nor results adds no event to the new execution. -/
theorem OutboxGranted.within (h : OutboxGranted w) (within : Within parts w w')
    (outbox : .outbox ∉ parts) (result : .result ∉ parts) : OutboxGranted w' where
  toOutboxKept := h.toOutboxKept.grow (within.same .outbox outbox)
    (reported_within within result h.reported) (currentEvents_within within outbox)
  tracked := by
    obtain ⟨next, accepted, -, events⟩ := within.same .outbox outbox
    exact h.tracked.of_same next accepted events
  fresh := by
    apply List.eq_nil_iff_forall_not_mem.mpr
    intro event member
    have older := currentEvents_within within outbox event member
    rw [h.fresh] at older
    cases older

/-- The steps around the outbox, in terms of the invariant. -/
theorem outboxRules : OutboxRules e (Assuming EventsOrderly OutboxHeld)
    (Assuming EventsOrderly OutboxGranted) (Assuming EventsOrderly OutboxLive)
    (Assuming EventsOrderly OutboxKept) where
  heldDurable _ holds cond := (holds cond).toOutboxKept
  grantedDurable _ holds cond := (holds cond).toOutboxKept
  liveHeld _ holds cond := (holds cond).held
  underway _ holds underway cond := (holds cond).toLive underway
  quietHeld _ _ _ outbox result _ within underway holds :=
    within.assuming holds fun holds => holds.within within outbox result underway
  quietGranted _ _ _ outbox result _ within holds :=
    within.assuming holds fun holds => holds.within within outbox result
  quietLive _ _ _ outbox result _ within holds :=
    within.assuming holds fun holds => holds.within within outbox result
  emitHeld := held_emit
  emitLive := live_emit
  grant _ _ _ resp allowed holds cond :=
    { holds cond with fresh := by simp [currentEvents, allowed] }
  persistGranted _ holds :=
    holds.wp (touches_persistExecution [.execution, .outbox] (by simp) (by simp)) fun granted =>
      outbox_persistExecution granted.toOutboxKept granted.tracked (by simp [granted.fresh])
  persistLive _ holds :=
    holds.wp (touches_persistExecution [.execution, .outbox] (by simp) (by simp)) fun live =>
      outbox_persistExecution live.toOutboxKept live.tracked live.below

/-- The final result is reported from a flushed outbox. -/
theorem outbox_doFinalize (holds : OutboxFlushed w) :
    wp doFinalize (fun _ => Assuming EventsOrderly OutboxHeld)
      (Assuming EventsOrderly OutboxKept) e w := by
  have called := holds.toOutboxLive.effect (.called .readFinalResult) trivial (by simp)
    ⟨rfl, rfl, rfl, rfl⟩
  have returned : ∀ r : Call.readFinalResult.Reply, OutboxFlushed
      ((w.effect (.called .readFinalResult)).effect (.returned .readFinalResult r)) := fun r =>
    { called.returned _ r with acked := holds.acked, counted := holds.counted }
  unfold doFinalize
  simp only [wp_bind, wp_memory, wp_nowMs, wp_makeCtx]
  refine wp_mono (wp_call_flushing (I := OutboxFlushed) rfl called.held fun r =>
    ⟨(returned r).toOutboxKept, returned r⟩) (fun data w₁ holds => ?_) fun _ h => h
  -- The report carries the watermark of the memory, which is the one the store is measured by.
  refine wp_call_emitting (I := Assuming EventsOrderly OutboxLive) (fun cond => ?_) live_emit
    (fun _ holds cond => (holds cond).toOutboxKept) fun reply w₂ holds _ => ?_
  · have flushed := holds cond.2
    exact flushed.toOutboxLive.grow ⟨rfl, rfl, rfl, rfl⟩
      ⟨⟨flushed.acked, flushed.counted⟩, flushed.reported⟩ fun _ member => member
  · have returned : Assuming EventsOrderly OutboxLive (w₂.effect (.returned _ reply)) :=
      holds.effect fun _ holds => holds.returned _ reply
    refine ⟨fun cond => (returned cond).toOutboxKept, ?_⟩
    cases reply with
    | error ex => exact fun cond => (returned cond).held
    | ok resp =>
      simp only [wp_ite, wp_pure]
      split
      next => exact fun cond => (returned cond).held
      next => exact outboxRules.closeExecution returned

/-- The send loop and, without an error, the final result. -/
theorem outbox_flushOutbox (holds : OutboxLive w) :
    wp flushOutbox (fun _ => Assuming EventsOrderly OutboxHeld)
      (Assuming EventsOrderly OutboxKept) e w := by
  let limit := w.store.outboxMeta.nextSequenceNo
  have start : Sending limit (fun _ => False) {} w :=
    { holds with fixed := rfl, delivered := fun _ _ never => never.elim }
  unfold flushOutbox
  simp only [wp_bind, wp_store, wp_memory, wp_ite, wp_pure]
  refine wp_mono (sent_sendEvents _ (fun seq member => ?_) fun _ => start)
    (fun st w₁ holds => ?_) fun _ h => h
  · have range := List.mem_range'_1.mp member
    show seq < w.store.outboxMeta.nextSequenceNo
    omega
  · refine wp_mono
      (holds.wp (touches_raiseAccepted _ _) fun holds => sent_raiseAccepted rfl _ holds)
      (fun _ w₂ holds => ?_) fun _ h => h
    refine wp_mono (holds.wp (touches_persistExecution [.execution, .outbox] (by simp)
      (by simp)) sent_persistExecution) (fun _ w₃ holds => ?_) fun _ h => h
    split
    next => exact fun cond => (holds cond).held
    next clean =>
      refine holds.wp_of proceeds_doFinalize.touches fun holds => outbox_doFinalize ?_
      refine holds.flushed (by simpa using clean) fun seq above below => .inl ?_
      exact List.mem_range'_1.mpr ⟨above, by omega⟩

end SendLoop

/-! ### Restarts -/

/-- A restart reads the counters back, unless there is no task to go on with. -/
theorem outbox_restart (holds : Assuming EventsOrderly OutboxKept w) :
    Assuming EventsOrderly OutboxHeld (restart w) := by
  intro cond
  have kept : OutboxKept (restart w) :=
    ⟨⟨trivial, (holds cond.2).reported⟩, (holds cond.2).stored⟩
  have tracked : Tracked (restart w).mem w.store := cond.1
  -- without a snapshot the process starts from nothing
  cases lacks : lacksSnapshot w.store with
  | true =>
    have mem : (restart w).mem = {} := loadFromStore_without_snapshot lacks
    exact { kept with
      tracked
      behind := by rw [mem]; simp
      live := by rw [mem]; simp [isUnderway] }
  -- otherwise with the counters of the store
  | false =>
    have mem := loadFromStore_with_snapshot lacks
    have next : (restart w).mem.nextSeq = (restart w).store.outboxMeta.nextSequenceNo := by
      rw [restart_mem, mem]
      rfl
    exact OutboxLive.held { kept with tracked, next }

end Outbox

/-- Over every run, from any store: if all events have a payload, none is emitted while the outbox
is flushed and no process starts with a watermark behind an acknowledged event, then every final
result comes after the acknowledgement of all events of its execution and counts them. -/
theorem final_result_after_events (env : Environment) (s : FotaCloudStateStore)
    (ops : List Operation) (orderly : Always EventsOrderly (run env (boot s) ops).trace) :
    Always FinalAfterEvents (run env (boot s) ops).trace := by
  have start : Assuming EventsOrderly OutboxKept { store := s } := fun _ =>
    ⟨trivial, fun _ member => by simp [currentEvents] at member⟩
  have held := outboxRules.run (e := env)
    (fun w holds => holds.wp_of proceeds_flushOutbox.touches outbox_flushOutbox)
    (fun op w holds => (Within.note_run (.began op) rfl).assuming holds fun holds =>
      holds.within (.note_run _ rfl) (by simp) (by simp) id)
    (fun w holds => outbox_restart fun cond =>
      ⟨⟨trivial, (holds cond.2).reported⟩, (holds cond.2).stored⟩)
    (fun w holds => outbox_restart fun cond => (holds cond).toOutboxKept) ops
    (outbox_restart start)
  exact (held orderly).reported

/-- An executor that emits while it is started, with a cloud side that emits while it answers. -/
def emitting (started answering : List ExecutionEvent) : Environment :=
  { cooperative with
    emits := fun _ c =>
      match c with
      | .start _ => started
      | .reportEvent _ _ => answering
      | _ => [] }

/-- The event that comes with the start is sent before the result. -/
theorem final_result_after_started_event :
    let env := emitting [{ eventId := "EV-1" }] []
    let w := run env (boot {}) (List.replicate 7 .step)
    Always EventsOrderly w.trace ∧ Always FinalAfterEvents w.trace := by
  refine ⟨?_, @final_result_after_events _ _ _ ?_⟩
  · decide +kernel
  · decide +kernel

/-- The second event arrives while the first is reported: the send loop does not look for it, and
the final result goes out. -/
theorem event_is_passed_over :
    let env := emitting [{ eventId := "EV-1" }] [{ eventId := "EV-2" }]
    ¬Always FinalAfterEvents (run env (boot {}) (List.replicate 7 .step)).trace := by
  decide +kernel

end CgwFota
