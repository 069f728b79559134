import CgwFota.Orchestrator.SendRules
import CgwFota.Properties.Outbox
import CgwFota.Properties.Restart

/-!
# One event under each number

An event may be reported many times before it is acknowledged, and its record outlives the process
that stored it. As long as no process starts on a task record without a snapshot once events were
reported, the number of a reported event is never given to another one, and no other execution is
begun before the event is acknowledged.

## Main definitions

* `ReportsSame`: whatever was reported under a number before is the same event of the same
  execution.
* `SnapshotRead`: the condition on the starts of processes.
* `EventsReported`, `ReportsCounted`: reported events are stored and below the counters.
* `ReportsIdle`, `ReportsLive`, `ReportsDurable`: the invariant without an execution, within one,
  and at a crash.
* `ReportsSending`, `TurnDone`: the invariant of the send loop and what one turn does.

## Main result

* `run_reports_same`: in every run with that condition each number is reported for one event of one
  execution.

## Proof strategy

A reported event stays in the store until it is acknowledged, with its payload, so the next report
under its number is read from the same record. A new execution begins only after a pass of the send
loop without an error, and after such a pass nothing is left to be sent.
-/
namespace CgwFota

open Crash

/-- The events reported so far, with the contexts of the calls. -/
def eventReports : List Entry → List (ExecutionEvent × CallContext)
  | [] => []
  | a :: past =>
    match a.event with
    | .called (.reportEvent req ctx) => (req, ctx) :: eventReports past
    | _ => eventReports past

/-- Whatever was reported under this number before is the same event of the same execution. -/
def ReportsSame (a : Entry) (past : List Entry) : Prop :=
  match a.event with
  | .called (.reportEvent req ctx) =>
    ∀ p ∈ eventReports past, p.1.sequenceNo = req.sequenceNo →
      p.1 = req ∧ p.2.executionId = ctx.executionId
  | _ => True

/-- No process starts on a task record without a snapshot after events were reported. -/
def SnapshotRead (a : Entry) (past : List Entry) : Prop :=
  match a.event with
  | .restarted => lacksSnapshot a.store → eventReports past = []
  | _ => True

/-- The record under the number is acknowledged. -/
def AckedAt (s : FotaCloudStateStore) (sequenceNo : Nat) : Prop :=
  ∃ r ∈ s.loadEvent sequenceNo, r.sendStatus = "ACKED"

/-- Nothing under the number is left to be sent. -/
def SentAt (s : FotaCloudStateStore) (sequenceNo : Nat) : Prop :=
  ∀ r ∈ s.loadEvent sequenceNo, r.eventPbHex.isEmpty = false → r.sendStatus = "ACKED"

/-- Reported events are stored and counted, and acknowledged unless they are of the execution
`current`. -/
structure EventsReported (current : Option String) (w : World) : Prop where
  same : Always ReportsSame w.trace
  counted : ∀ p ∈ eventReports w.trace, 0 < p.1.sequenceNo ∧
    p.1.sequenceNo < w.store.outboxMeta.nextSequenceNo
  stored : ∀ p ∈ eventReports w.trace, ∃ r ∈ w.store.loadEvent p.1.sequenceNo,
    r.report = p.1 ∧ r.eventPbHex.isEmpty = false
  due : ∀ p ∈ eventReports w.trace, AckedAt w.store p.1.sequenceNo ∨ current = some p.2.executionId

/-- The counter in memory is above them as well. -/
structure ReportsCounted (current : Option String) (w : World) : Prop
    extends EventsReported current w where
  below : ∀ p ∈ eventReports w.trace, p.1.sequenceNo < w.mem.nextSeq

/-- What a crash leaves: the store tells to which execution the events belong. -/
def ReportsDurable (w : World) : Prop :=
  ∃ current, EventsReported current w ∧ ∀ id ∈ current,
    isUnderway (durableVtState w.store) ∧ (w.store.execution.getD {}).executionId = id

/-- The invariant while no execution is under way. -/
structure ReportsIdle (w : World) : Prop extends ReportsCounted none w where
  idle : isUnderway w.mem.vtState = false

/-- The invariant while one is. -/
structure ReportsLive (id : String) (w : World) : Prop extends ReportsCounted (some id) w where
  underway : isUnderway w.mem.vtState
  executing : isUnderway (durableVtState w.store)
  current : w.mem.executionId = id
  recorded : (w.store.execution.getD {}).executionId = id
  counter : w.store.outboxMeta.nextSequenceNo ≤ w.mem.nextSeq

/-- The invariant between operations. -/
def ReportsHeld (w : World) : Prop := ReportsIdle w ∨ ∃ id, ReportsLive id w

/-- The invariant of the send loop. -/
structure ReportsSending (id : String) (limit : Nat) (w : World) : Prop
    extends ReportsLive id w where
  floor : limit ≤ w.store.outboxMeta.nextSequenceNo
  ceiling : ∀ p ∈ eventReports w.trace, p.1.sequenceNo < limit

/-- Records below the limit stay as they are. -/
def EventsFixed (limit : Nat) (s s' : FotaCloudStateStore) : Prop :=
  ∀ n < limit, s'.loadEvent n = s.loadEvent n

section Reports

variable {e : Environment} {w w' : World} {parts : List Part} {current : Option String}
  {id : String} {limit : Nat}

theorem eventReports_of_part (a : Entry) (past : List Entry) (outbox : a.event.part ≠ .outbox) :
    eventReports (a :: past) = eventReports past := by
  simp only [eventReports]
  split
  next same => exact absurd (congrArg Event.part same) outbox
  next => rfl

theorem reportsSame_of_part (a : Entry) (past : List Entry) (outbox : a.event.part ≠ .outbox) :
    ReportsSame a past := by
  unfold ReportsSame
  split
  next same => exact absurd (congrArg Event.part same) outbox
  next => trivial

/-- Records of reported events may be rewritten, but not taken back. -/
theorem EventsReported.carry (h : EventsReported current w) (same : Always ReportsSame w'.trace)
    (reports : eventReports w'.trace = eventReports w.trace)
    (counter : ∀ p ∈ eventReports w.trace,
      p.1.sequenceNo < w'.store.outboxMeta.nextSequenceNo)
    (events : ∀ p ∈ eventReports w.trace, ∀ r ∈ w.store.loadEvent p.1.sequenceNo,
      ∃ status, (r.sendStatus = "ACKED" → status = "ACKED") ∧
        w'.store.loadEvent p.1.sequenceNo = some { r with sendStatus := status }) :
    EventsReported current w' where
  -- each reported event is found again with its status or a later one
  same := same
  counted p member := by
    rw [reports] at member
    exact ⟨(h.counted p member).1, counter p member⟩
  stored p member := by
    rw [reports] at member
    obtain ⟨r, found, report, payload⟩ := h.stored p member
    obtain ⟨status, -, kept⟩ := events p member r found
    exact ⟨_, kept, report, payload⟩
  due p member := by
    rw [reports] at member
    refine (h.due p member).imp (fun acked => ?_) fun due => due
    obtain ⟨r, found, acked⟩ := acked
    obtain ⟨status, stays, kept⟩ := events p member r found
    exact ⟨_, kept, stays acked⟩

/-- Nothing happens to the events. -/
theorem EventsReported.keep (h : EventsReported current w) (same : Always ReportsSame w'.trace)
    (reports : eventReports w'.trace = eventReports w.trace)
    (counter : ∀ p ∈ eventReports w.trace,
      p.1.sequenceNo < w'.store.outboxMeta.nextSequenceNo)
    (events : ∀ p ∈ eventReports w.trace,
      w'.store.loadEvent p.1.sequenceNo = w.store.loadEvent p.1.sequenceNo) :
    EventsReported current w' :=
  h.carry same reports counter fun p member r found =>
    ⟨r.sendStatus, fun acked => acked, (events p member).trans found⟩

theorem EventsReported.within (h : EventsReported current w) (within : Within parts w w')
    (outbox : .outbox ∉ parts) : EventsReported current w' := by
  obtain ⟨-, -, counters, events⟩ := within.same .outbox outbox
  refine h.keep (within.always (fun a past member => reportsSame_of_part a past fun same =>
      outbox (same ▸ member)) h.same)
    (within.observed fun a past member => eventReports_of_part a past fun same =>
      outbox (same ▸ member)) (fun p member => ?_) fun p _ => ?_
  · rw [FotaCloudStateStore.outboxMeta, counters]
    exact (h.counted p member).2
  · rw [FotaCloudStateStore.loadEvent, events]
    rfl

theorem ReportsCounted.within (h : ReportsCounted current w) (within : Within parts w w')
    (outbox : .outbox ∉ parts) : ReportsCounted current w' where
  toEventsReported := h.toEventsReported.within within outbox
  below := by
    have reports : eventReports w'.trace = eventReports w.trace :=
      within.observed fun a past member => eventReports_of_part a past fun same =>
        outbox (same ▸ member)
    rw [reports, (within.same .outbox outbox).1]
    exact h.below

theorem ReportsIdle.within (h : ReportsIdle w) (within : Within parts w w')
    (outbox : .outbox ∉ parts) (phase : .phase ∉ parts) : ReportsIdle w' where
  toReportsCounted := h.toReportsCounted.within within outbox
  idle := by
    rw [(within.same .phase phase).1]
    exact h.idle

/-- Within an execution, with its identity left alone. -/
theorem ReportsLive.within (h : ReportsLive id w) (within : Within parts w w')
    (outbox : .outbox ∉ parts) (phase : .phase ∉ parts) (permit : .permit ∉ parts)
    (execution : .execution ∉ parts) : ReportsLive id w' where
  toReportsCounted := h.toReportsCounted.within within outbox
  underway := by
    rw [(within.same .phase phase).1]
    exact h.underway
  executing := by
    rw [durableVtState, (within.same .phase phase).2]
    exact h.executing
  current := (within.same .permit permit).2.1.trans h.current
  recorded := by
    rw [(within.same .execution execution).2]
    exact h.recorded
  counter := by
    rw [FotaCloudStateStore.outboxMeta, (within.same .outbox outbox).2.2.1,
      (within.same .outbox outbox).1]
    exact h.counter

theorem EventsReported.weaken (h : EventsReported none w) (current : Option String) :
    EventsReported current w :=
  { h with due := fun p member => .inl ((h.due p member).resolve_right (by simp)) }

theorem ReportsCounted.weaken (h : ReportsCounted none w) (current : Option String) :
    ReportsCounted current w :=
  { h.toEventsReported.weaken current with below := h.below }

theorem EventsReported.durable (h : EventsReported none w) : ReportsDurable w :=
  ⟨none, h, by simp⟩

theorem ReportsLive.durable (h : ReportsLive id w) : ReportsDurable w := by
  refine ⟨some id, h.toEventsReported, fun id' same => ?_⟩
  cases same
  exact ⟨h.executing, h.recorded⟩

theorem ReportsHeld.durable (h : ReportsHeld w) : ReportsDurable w := by
  rcases h with idle | ⟨id, live⟩
  · exact idle.toEventsReported.durable
  · exact live.durable

theorem ReportsHeld.idle (h : ReportsHeld w) (idle : isUnderway w.mem.vtState = false) :
    ReportsIdle w := by
  rcases h with h | ⟨id, live⟩
  · exact h
  · exact absurd live.underway (by simp [idle])

theorem ReportsHeld.live (h : ReportsHeld w) (underway : isUnderway w.mem.vtState) :
    ∃ id, ReportsLive id w := by
  rcases h with idle | live
  · exact absurd underway (by simp [idle.idle])
  · exact live

/-! ### Emissions -/

/-- What an emission does for a reader of the outbox. -/
theorem reported_emit (evt : ExecutionEvent) (h : ReportsCounted current w) :
    wp (emit evt) (fun _ w' => ReportsCounted current w' ∧
        (w.store.outboxMeta.nextSequenceNo ≤ w.mem.nextSeq →
          w'.store.outboxMeta.nextSequenceNo ≤ w'.mem.nextSeq) ∧
        w.store.outboxMeta.nextSequenceNo ≤ w'.store.outboxMeta.nextSequenceNo ∧
        eventReports w'.trace = eventReports w.trace ∧
        EventsFixed w.store.outboxMeta.nextSequenceNo w.store w'.store)
      (EventsReported current) e w := by
  refine wp_emit ⟨h, id, Nat.le_refl _, rfl, fun _ _ => rfl⟩ fun _ r number _ _ => ?_
  -- the new record is at or above the counter, so that those below stay
  have fixed : EventsFixed w.store.outboxMeta.nextSequenceNo w.store (w.store.save (.event r)) :=
    fun n below => Keyed.get_insert_ne _ _ (by omega)
  have written : EventsReported current (w.effect (.saved (.event r))) :=
    h.toEventsReported.keep ⟨trivial, h.same⟩ rfl (fun p member => (h.counted p member).2)
      fun p member => fixed _ (h.counted p member).2
  have counted : EventsReported current ((w.effect (.saved (.event r))).effect
      (.saved (.eventOutboxMeta
        { w.store.outboxMeta with nextSequenceNo := w.store.outboxMeta.nextSequenceNo + 1 }))) :=
    written.keep ⟨trivial, written.same⟩ rfl
      (fun p member => Nat.lt_succ_of_lt (h.counted p member).2) fun _ _ => rfl
  refine ⟨written, counted, ⟨counted.keep ⟨trivial, counted.same⟩ rfl
    (fun p member => (counted.counted p member).2) fun _ _ => rfl, fun p member => ?_⟩,
    fun _ => Nat.le_refl _, Nat.le_succ _, rfl, fixed⟩
  exact Nat.lt_succ_of_lt (h.counted p member).2

theorem reported_emit_idle (evt : ExecutionEvent) (h : ReportsIdle w) :
    wp (emit evt) (fun _ => ReportsIdle) ReportsDurable e w := by
  refine wp_mono (wp_and (reported_emit evt h.toReportsCounted)
    (touches_emit [.outbox] evt (by simp) w)) (fun _ w' both => ?_)
    fun _ both => both.1.durable
  refine { both.1.1 with idle := ?_ }
  rw [(both.2.same .phase (by simp)).1]
  exact h.idle

/-- Steps of the outbox within an execution, once the counters are known to be good. -/
theorem ReportsLive.outbox (h : ReportsLive id w) (within : Within [.outbox] w w')
    (counted : ReportsCounted (some id) w')
    (counter : w'.store.outboxMeta.nextSequenceNo ≤ w'.mem.nextSeq) : ReportsLive id w' where
  toReportsCounted := counted
  underway := by
    rw [(within.same .phase (by simp)).1]
    exact h.underway
  executing := by
    rw [durableVtState, (within.same .phase (by simp)).2]
    exact h.executing
  current := (within.same .permit (by simp)).2.1.trans h.current
  recorded := by
    rw [(within.same .execution (by simp)).2]
    exact h.recorded
  counter := counter

theorem reported_emit_live (evt : ExecutionEvent) (h : ReportsLive id w) :
    wp (emit evt) (fun _ => ReportsLive id) ReportsDurable e w := by
  refine wp_mono (wp_and (reported_emit evt h.toReportsCounted)
    (touches_emit [.outbox] evt (by simp) w)) (fun _ w' both => ?_) fun w' both => ?_
  · exact h.outbox both.2 both.1.1 (both.1.2.1 h.counter)
  · refine ⟨some id, both.1, fun id' same => ?_⟩
    cases same
    rw [durableVtState, (both.2.same .phase (by simp)).2, (both.2.same .execution (by simp)).2]
    exact ⟨h.executing, h.recorded⟩

/-- An emission during the send loop gets a number past the limit. -/
theorem reported_emit_sending (evt : ExecutionEvent) {s : FotaCloudStateStore}
    (h : ReportsSending id limit w) (fixed : EventsFixed limit s w.store) :
    wp (emit evt) (fun _ w' => ReportsSending id limit w' ∧ EventsFixed limit s w'.store)
      ReportsDurable e w := by
  refine wp_mono (wp_and (reported_emit_live evt h.toReportsLive)
    (reported_emit evt h.toReportsCounted)) (fun _ w' both => ?_) fun _ both => both.1
  obtain ⟨live, -, -, rises, reports, kept⟩ := both
  refine ⟨⟨live, Nat.le_trans h.floor rises, ?_⟩, fun n below => ?_⟩
  · rw [reports]
    exact h.ceiling
  · exact (kept n (Nat.lt_of_lt_of_le below h.floor)).trans (fixed n below)

theorem reported_emit_held (evt : ExecutionEvent) (h : ReportsHeld w) :
    wp (emit evt) (fun _ => ReportsHeld) ReportsDurable e w := by
  rcases h with idle | ⟨id, live⟩
  · exact wp_mono (reported_emit_idle evt idle) (fun _ _ h => .inl h) fun _ h => h
  · exact wp_mono (reported_emit_live evt live) (fun _ _ h => .inr ⟨id, h⟩) fun _ h => h

/-! ### The send loop -/

/-- A record below the limit gets a status that does not take an acknowledgement back. -/
theorem ReportsSending.mark (h : ReportsSending id limit w) {r : FotaEventOutboxRecord}
    (status : String) (found : w.store.loadEvent r.sequenceNo = some r)
    (stays : r.sendStatus = "ACKED" → status = "ACKED") :
    ReportsSending id limit (w.effect (.saved (.event { r with sendStatus := status }))) := by
  have marked := loadEvent_mark status found
  have reported : EventsReported (some id)
      (w.effect (.saved (.event { r with sendStatus := status }))) := by
    refine h.toEventsReported.carry ⟨trivial, h.same⟩ rfl (fun p member => (h.counted p member).2)
      fun p member r' found' => ?_
    -- the record at hand, or another one
    by_cases at_hand : r.sequenceNo = p.1.sequenceNo
    · rw [← at_hand] at found' ⊢
      cases found.symm.trans found'
      exact ⟨status, stays, (marked _).trans (if_pos rfl)⟩
    · exact ⟨r'.sendStatus, fun acked => acked, ((marked _).trans (if_neg at_hand)).trans found'⟩
  exact { reported with
    below := h.below
    underway := h.underway
    executing := h.executing
    current := h.current
    recorded := h.recorded
    counter := h.counter
    floor := h.floor
    ceiling := h.ceiling }

theorem sentAt_mark {s : FotaCloudStateStore} {r : FotaEventOutboxRecord} {status : String}
    (found : s.loadEvent r.sequenceNo = some r) (stays : r.sendStatus = "ACKED" → status = "ACKED")
    {n : Nat} (sent : SentAt s n) :
    SentAt (s.save (.event { r with sendStatus := status })) n := by
  intro r' found' payload
  rw [loadEvent_mark status found] at found'
  split at found'
  next same =>
    cases found'
    exact stays (sent r (same ▸ found) payload)
  next => exact sent r' found' payload

/-- What one turn of the loop does: nothing sent before is lost, and without an error the number it
was about is done as well. -/
structure TurnDone (id : String) (limit seq : Nat) (st : SendState) (s : FotaCloudStateStore)
    (st' : SendState) (w : World) : Prop extends ReportsSending id limit w where
  kept : ∀ n < limit, SentAt s n → SentAt w.store n
  done : st'.sendError = false → st.sendError = false ∧ SentAt w.store seq

/-- Earlier reports under the number of an unsent event are of this event and this execution. -/
theorem ReportsSending.called (h : ReportsSending id limit w) {r : FotaEventOutboxRecord}
    (hand : AtHand limit r w.store) (positive : 0 < r.sequenceNo)
    (payload : r.eventPbHex.isEmpty = false) {ctx : CallContext}
    (execution : ctx.executionId = w.mem.executionId) :
    ReportsSending id limit (w.effect (.called (.reportEvent r.report ctx))) := by
  have counted := Nat.lt_of_lt_of_le hand.below h.floor
  -- an event under this number is the one at hand, and not yet acknowledged
  have early : ∀ p ∈ eventReports w.trace, p.1.sequenceNo = r.sequenceNo →
      p.1 = r.report ∧ p.2.executionId = ctx.executionId := by
    intro p member number
    obtain ⟨r', found, report, -⟩ := h.stored p member
    rw [number] at found
    cases hand.stored.symm.trans found
    refine ⟨report.symm, ?_⟩
    rcases h.due p member with acked | due
    · obtain ⟨r', found', acked⟩ := acked
      rw [number] at found'
      cases hand.stored.symm.trans found'
      exact absurd acked hand.unsent
    · cases due
      exact h.current.symm.trans execution.symm
  -- so the report that is made now repeats it for the same execution
  have reported : EventsReported (some id) (w.effect (.called (.reportEvent r.report ctx))) := by
    refine ⟨⟨early, h.same⟩, fun p member => ?_, fun p member => ?_, fun p member => ?_⟩
    all_goals rcases List.mem_cons.mp member with rfl | member
    · exact ⟨positive, counted⟩
    · exact h.counted p member
    · exact ⟨r, hand.stored, rfl, payload⟩
    · exact h.stored p member
    · exact .inr (congrArg some (h.current.symm.trans execution.symm))
    · exact h.due p member
  refine { reported with
    below := fun p member => ?_
    underway := h.underway
    executing := h.executing
    current := h.current
    recorded := h.recorded
    counter := h.counter
    floor := h.floor
    ceiling := fun p member => ?_ }
  all_goals rcases List.mem_cons.mp member with rfl | member
  · exact Nat.lt_of_lt_of_le counted h.counter
  · exact h.below p member
  · exact hand.below
  · exact h.ceiling p member

/-- One report: acknowledged on acceptance, left as it is on anything else. -/
theorem turn_reportStoredEvent {r : FotaEventOutboxRecord} {st : SendState}
    (h : ReportsSending id limit w) (hand : AtHand limit r w.store) (positive : 0 < r.sequenceNo)
    (payload : r.eventPbHex.isEmpty = false) :
    wp (reportStoredEvent r st) (TurnDone id limit r.sequenceNo st w.store) ReportsDurable e w := by
  unfold reportStoredEvent
  simp only [wp_bind, wp_makeCtx]
  refine wp_call_while
    (I := fun w' => ReportsSending id limit w' ∧ EventsFixed limit w.store w'.store)
    ⟨h.called hand positive payload rfl, fun _ _ => rfl⟩
    (fun _ evt _ w' both => reported_emit_sending evt both.1 both.2)
    (fun w' both => both.1.durable) fun reply w₁ both _ => ?_
  obtain ⟨sending, fixed⟩ := both
  let w₂ := w₁.effect (.returned (.reportEvent r.report _) reply)
  have replied : ReportsSending id limit w₂ :=
    { sending with
      same := ⟨trivial, sending.same⟩ }
  have found : w₂.store.loadEvent r.sequenceNo = some r :=
    (fixed _ hand.below).trans hand.stored
  have before : ∀ n < limit, SentAt w.store n → SentAt w₂.store n := fun n below sent => by
    have same : w₂.store.loadEvent n = w.store.loadEvent n := fixed n below
    unfold SentAt
    rw [same]
    exact sent
  refine ⟨replied.durable, ?_⟩
  -- a failed report writes the record back as it was
  have failed : ReportsSending id limit (w₂.effect (.saved (.event r))) :=
    replied.mark r.sendStatus found fun acked => acked
  have unsent : ∀ n < limit, SentAt w.store n → SentAt (w₂.effect (.saved (.event r))).store n :=
    fun n below sent => sentAt_mark found (fun acked => acked) (before n below sent)
  cases reply with
  | error ex =>
    simp only [wp_bind, wp_pure]
    exact wp_save failed.durable { failed with kept := unsent, done := fun never => by cases never }
  | ok resp =>
    simp only [wp_ite, wp_bind, wp_setMemory, wp_pure]
    split
    -- accepted: the record is acknowledged
    next =>
      have accepted : ReportsSending id limit (w₂.accept r) := { replied with }
      have acked := accepted.mark "ACKED" found fun _ => rfl
      refine wp_save acked.durable { acked with
        kept := fun n below sent => sentAt_mark found (fun _ => rfl) (before n below sent)
        done := fun clean => ⟨clean, fun r' found' _ => ?_⟩ }
      cases ((loadEvent_mark "ACKED" found _).trans (if_pos rfl)).symm.trans found'
      rfl
    -- not accepted: an error, and the event will be sent again
    next =>
      exact wp_save failed.durable
        { failed with kept := unsent, done := fun never => by cases never }

/-- One turn of the loop, about one number. -/
theorem turn_sendEvent {seq : Nat} {st : SendState} (h : ReportsSending id limit w)
    (positive : 0 < seq) (below : seq < limit) :
    wp (sendEvent seq st) (TurnDone id limit seq st w.store) ReportsDurable e w := by
  unfold sendEvent
  simp only [wp_bind, wp_store]
  cases found : w.store.loadEvent seq with
  | none =>
    refine { h with kept := fun _ _ sent => sent, done := fun clean => ⟨clean, fun r found' => ?_⟩ }
    cases found.symm.trans found'
  | some r =>
    obtain rfl : r.sequenceNo = seq := w.store.events.keyed seq r found
    simp only [wp_ite, wp_bind, wp_pure]
    split
    -- acknowledged already
    next acked =>
      refine { h with
        kept := fun _ _ sent => sent
        done := fun clean => ⟨clean, fun r' found' _ => ?_⟩ }
      cases found.symm.trans found'
      exact acked
    next unsent =>
      split
      -- without a payload there is nothing to send
      next empty =>
        have marked := h.mark "SENT" found fun acked => absurd acked unsent
        refine wp_save marked.durable { marked with
          kept := fun n _ sent => sentAt_mark found (fun acked => absurd acked unsent) sent
          done := fun clean => ⟨clean, fun r' found' payload => ?_⟩ }
        cases ((loadEvent_mark "SENT" found _).trans (if_pos rfl)).symm.trans found'
        exact absurd (payload.symm.trans empty) (by simp)
      -- a payload: the event is reported
      next payload =>
        exact turn_reportStoredEvent h ⟨found, below, unsent, h.floor⟩ positive
          (by simpa using payload)

/-- After a whole pass without an error nothing below the limit is left to be sent. -/
theorem turn_sendEvents (seqs : List Nat) {st : SendState} (done : Nat → Prop)
    (h : ReportsSending id limit w) (range : ∀ seq ∈ seqs, 0 < seq ∧ seq < limit)
    (before : ∀ n, done n → n < limit)
    (sent : st.sendError = false → ∀ n, done n → SentAt w.store n) :
    wp (sendEvents seqs st) (fun st' w' => ReportsSending id limit w' ∧
      (st'.sendError = false → ∀ n, done n ∨ n ∈ seqs → SentAt w'.store n)) ReportsDurable e w := by
  induction seqs generalizing st w done with
  | nil => exact ⟨h, fun clean n member => sent clean n (by simpa using member)⟩
  -- one more number is done, unless there was an error
  | cons seq rest ih =>
    unfold sendEvents
    rw [wp_bind]
    have here := range seq (by simp)
    refine wp_mono (turn_sendEvent h here.1 here.2) (fun st' w' turn => ?_) fun _ h => h
    refine wp_mono (ih (fun n => done n ∨ n = seq) turn.toReportsSending
      (fun n member => range n (by simp [member])) (fun n member => ?_) fun clean n member => ?_)
      (fun st'' w'' both => ⟨both.1, fun clean n member => both.2 clean n ?_⟩) fun _ h => h
    · rcases member with member | rfl
      · exact before n member
      · exact here.2
    · obtain ⟨clean, now⟩ := turn.done clean
      rcases member with member | rfl
      · exact turn.kept n (before n member) (sent clean n member)
      · exact now
    · rw [List.mem_cons] at member
      tauto

/-! ### The phases -/

theorem ReportsCounted.event (h : ReportsCounted current w) {event : Event}
    (outbox : event.part ≠ .outbox) : ReportsCounted current (w.effect event) :=
  h.within (.effect event (List.mem_singleton.mpr rfl)) (by simpa using outbox.symm)

theorem ReportsCounted.persist (h : ReportsCounted current w) (action : String) (now : Int) :
    ReportsCounted current (w.advance.persist action now) :=
  (h.within .pause (by simp)).event (by simp [Event.part, Save.part])

/-- A counter above all reported events may be written. -/
theorem ReportsCounted.recount (h : ReportsCounted current w) (outbox : FotaEventOutboxMeta)
    (above : ∀ p ∈ eventReports w.trace, p.1.sequenceNo < outbox.nextSequenceNo) :
    ReportsCounted current (w.effect (.saved (.eventOutboxMeta outbox))) where
  toEventsReported := h.toEventsReported.keep ⟨trivial, h.same⟩ rfl above fun _ _ => rfl
  below := h.below

theorem ReportsIdle.event (h : ReportsIdle w) {event : Event} (outbox : event.part ≠ .outbox) :
    ReportsIdle (w.effect event) :=
  { h.toReportsCounted.event outbox with idle := h.idle }

theorem ReportsLive.event (h : ReportsLive id w) {event : Event} (outbox : event.part ≠ .outbox)
    (store : (w.effect event).store = w.store) : ReportsLive id (w.effect event) where
  toReportsCounted := h.toReportsCounted.event outbox
  underway := h.underway
  executing := by rw [store]; exact h.executing
  current := h.current
  recorded := by rw [store]; exact h.recorded
  counter := by rw [store]; exact h.counter

theorem ReportsLive.move (h : ReportsLive id w) {s : VehicleTaskState} (underway : isUnderway s) :
    ReportsLive id (w.move s) :=
  { h with same := ⟨trivial, h.same⟩, underway }

theorem ReportsLive.setExState (h : ReportsLive id w) (s : ExecutionState) :
    ReportsLive id ((w.withMemory fun m => { m with exState := s }).note .moved) :=
  { h with same := ⟨trivial, h.same⟩ }

theorem idle_call {c : Call} {Q : c.Reply → World → Prop} (h : ReportsIdle w)
    (outbox : c.part ≠ .outbox) (next : ∀ r w', ReportsIdle w' → Q r w') :
    wp (call c) Q ReportsDurable e w := by
  refine wp_call_emitting (I := ReportsIdle) (h.event outbox)
    (fun evt _ h => reported_emit_idle evt h) (fun _ h => h.toEventsReported.durable)
    fun r w' h _ => ?_
  have replied : ReportsIdle (w'.effect (.returned c r)) := h.event outbox
  exact ⟨replied.toEventsReported.durable, next r _ replied⟩

theorem live_call {c : Call} {Q : c.Reply → World → Prop} (h : ReportsLive id w)
    (outbox : c.part ≠ .outbox) (next : ∀ r w', ReportsLive id w' → Q r w') :
    wp (call c) Q ReportsDurable e w := by
  refine wp_call_emitting (I := ReportsLive id) (h.event outbox rfl)
    (fun evt _ h => reported_emit_live evt h) (fun _ h => h.durable) fun r w' h _ => ?_
  have replied : ReportsLive id (w'.effect (.returned c r)) := h.event outbox rfl
  exact ⟨replied.durable, next r _ replied⟩

/-- The phases before the permit. -/
theorem reported_before {α : Type} {m : Orch α} {states : VehicleTaskState → Prop}
    {actions : List String} (proceeds : Proceeds e parts states actions m)
    (idle : ∀ s, states s → isUnderway s = false) (outbox : .outbox ∉ parts)
    (phase : .phase ∉ parts) (h : ReportsIdle w) :
    wp m (fun _ => ReportsHeld) ReportsDurable e w := by
  refine wp_mono (proceeds.wp (I := ReportsIdle) (fun _ _ within h => h.within within outbox phase)
    (fun evt _ h => reported_emit_idle evt h) (fun w s allowed h => ?_) (fun w action now _ h => ?_)
    (fun _ h => h.toEventsReported.durable) h) (fun _ _ h => .inl h) fun _ h => h
  · exact { h with same := ⟨trivial, h.same⟩, idle := idle s allowed }
  · exact h.event (by simp [Event.part, Save.part])

/-- The counters in memory are written after the execution. -/
theorem reported_persistExecution {Q : Unit → World → Prop} (h : ReportsCounted current w)
    (crash : ∀ w', EventsReported current w' → w'.store.vehicleTask = w.store.vehicleTask →
      (w'.store.execution.getD {}).executionId = w.mem.executionId → ReportsDurable w')
    (next : ∀ w', ReportsCounted current w' → w'.mem = w.mem →
      w'.store.vehicleTask = w.store.vehicleTask →
      (w'.store.execution.getD {}).executionId = w.mem.executionId →
      w'.store.outboxMeta.nextSequenceNo = w.mem.nextSeq → Q () w') :
    wp persistExecution Q ReportsDurable e w := by
  unfold persistExecution
  simp only [wp_bind, wp_memory]
  have stored : ReportsCounted current (w.effect (.saved (.execution (executionRecord w.mem)))) :=
    h.event (by simp [Event.part, Save.part])
  have counted := stored.recount
    { nextSequenceNo := w.mem.nextSeq, acceptedSequenceNo := w.mem.acceptedSeq } h.below
  exact wp_save (crash _ stored.toEventsReported rfl rfl)
    (wp_save (crash _ counted.toEventsReported rfl rfl) (next _ counted rfl rfl rfl rfl))

theorem live_persistExecution {Q : Unit → World → Prop} (h : ReportsLive id w)
    (next : ∀ w', ReportsLive id w' → Q () w') : wp persistExecution Q ReportsDurable e w := by
  refine reported_persistExecution h.toReportsCounted (fun w' reported task execution => ?_)
    fun w' counted mem task execution counter => ?_
  · refine ⟨some id, reported, fun id' same => ?_⟩
    cases same
    rw [durableVtState, task, execution]
    exact ⟨h.executing, h.current⟩
  · refine next w' { counted with
      underway := by rw [mem]; exact h.underway
      executing := by rw [durableVtState, task]; exact h.executing
      current := by rw [mem]; exact h.current
      recorded := execution.trans h.current
      counter := Nat.le_of_eq (by rw [mem, counter]) }

/-- The end of a phase that persists the task and the execution while all events are acknowledged.
-/
theorem held_persistExecution {Q : Unit → World → Prop} (h : ReportsCounted none w)
    (persisted : durableVtState w.store = w.mem.vtState)
    (next : ∀ w', ReportsHeld w' → w'.mem = w.mem → Q () w') :
    wp persistExecution Q ReportsDurable e w := by
  refine reported_persistExecution h (fun _ reported _ _ => reported.durable)
    fun w' counted mem task execution counter => next w' ?_ mem
  -- no execution is underway, and there is nothing to remember
  cases underway : isUnderway w.mem.vtState with
  | false => exact .inl { counted with idle := by rw [mem]; exact underway }
  | true =>
    refine .inr ⟨w.mem.executionId, { counted.weaken _ with
      underway := by rw [mem]; exact underway
      executing := ?_
      current := by rw [mem]
      recorded := execution
      counter := Nat.le_of_eq (by rw [mem, counter]) }⟩
    rw [durableVtState, task]
    exact (congrArg (isUnderway · = true) persisted).mpr underway

/-- An accepted permit begins an execution, with every reported event acknowledged. -/
theorem reported_acceptPermit {resp : InstallPermitResponse} (h : ReportsCounted none w) :
    wp (acceptPermit resp) (fun _ => ReportsHeld) ReportsDurable e w := by
  unfold acceptPermit
  simp only [wp_bind, wp_setMemory, wp_setExState, wp_setVtState, wp_nowMs, wp_ite, wp_pure,
    wp_memory]
  have moved : ReportsCounted none (World.move (((w.withMemory (takePermit resp)).withMemory
      fun m => { m with exState := .permitPersisted }).note .moved) .executing) :=
    { h with same := ⟨trivial, trivial, h.same⟩ }
  have persisted := moved.persist "permit" (e.clock w.tick)
  refine wp_persistVehicleTask persisted.durable ?_
  refine held_persistExecution persisted (durableVtState_persist _ _ _) fun w' held mem => ?_
  -- from here on the execution is underway, in memory and in the store
  have executing : isUnderway w'.mem.vtState := by
    rw [mem]
    rfl
  obtain ⟨id, live⟩ := held.live executing
  have live : ReportsLive id w'.advance := { live with }
  split
  next => exact .inr ⟨id, live⟩
  next =>
    refine live_call live (by simp [Call.part]) fun guards w'' live => ?_
    split
    next => exact .inr ⟨id, live⟩
    next => exact .inr ⟨id, live⟩

/-- A permit phase keeps the invariant. -/
theorem reported_doPermit (h : ReportsIdle w) :
    wp doPermit (fun _ => ReportsHeld) ReportsDurable e w := by
  unfold doPermit requestPermit
  simp only [wp_bind, wp_memory, wp_store, wp_nowMs, wp_makeCtx, wp_ite, wp_pure, wp_setVtState]
  -- the window is closed: the task waits
  split
  next =>
    have moved : ReportsIdle (w.move .waitingWindow) :=
      { h with same := ⟨trivial, h.same⟩, idle := rfl }
    have persisted : ReportsIdle ((w.move .waitingWindow).advance.persist "waitingWindow"
        (e.clock w.tick)) :=
      { moved.toReportsCounted.persist _ _ with idle := rfl }
    exact wp_persistVehicleTask persisted.toEventsReported.durable (.inl persisted)
  -- the window is open: the permit is requested, and may be refused
  next =>
    have waited : ReportsIdle w.advance := { h with }
    split
    next => exact .inl waited
    next =>
      refine idle_call waited (by simp [Call.part]) fun guards w₁ h => ?_
      split
      next => exact .inl h
      next =>
        refine idle_call h (by simp [Call.part]) fun ev w₂ h => ?_
        refine idle_call h (by simp [Call.part]) fun reply w₃ h => ?_
        cases reply with
        | error ex => exact .inl h
        | ok resp =>
          simp only [wp_ite, wp_pure]
          split
          next => exact .inl h
          next => exact reported_acceptPermit h.toReportsCounted

/-- The end of an execution whose events are all acknowledged. -/
theorem reported_closeExecution {report : FinalResultReport} {resp : FinalResultResponse}
    (h : ReportsCounted none w) :
    wp (closeExecution report resp) (fun _ => ReportsHeld) ReportsDurable e w := by
  have uploads : Proceeds e [.log] (fun _ => False) [] doLogUpload := proceeds_doLogUpload
  have closes : ∀ w, ReportsCounted none w → wp (persistVehicleTask "finalResult")
      (fun _ => wp persistExecution (fun _ => ReportsHeld) ReportsDurable e) ReportsDurable e
        w := by
    intro w h
    have persisted := h.persist "finalResult" (e.clock w.tick)
    exact wp_persistVehicleTask persisted.durable
      (held_persistExecution persisted (durableVtState_persist _ _ _) fun _ held _ => held)
  unfold closeExecution
  simp only [wp_bind, wp_setExState, wp_memory, wp_pure]
  refine wp_mono (uploads.wp (I := ReportsCounted none)
    (fun _ _ within h => h.within within (by simp))
    (fun evt w h => wp_mono (reported_emit evt h) (fun _ _ h => h.1) fun _ h => h.durable)
    (fun _ _ never => never.elim) (fun _ _ _ never => by simp at never) (fun _ h => h.durable) h)
    (fun _ w₁ h => ?_) fun _ h => h
  have closed : ReportsCounted none ((w₁.withMemory fun m =>
      { m with exState := closedExecutionState report resp }).note .moved) :=
    { h with same := ⟨trivial, h.same⟩ }
  exact wp_adoptStatus (fun _ => closes _ { closed with same := ⟨trivial, closed.same⟩ })
    fun _ => closes _ { closed with same := ⟨trivial, trivial, closed.same⟩ }

/-- A final result that is refused leaves the execution; one that is accepted ends it. -/
theorem reported_doFinalize (live : ReportsLive id w) (acked : ReportsCounted none w) :
    wp doFinalize (fun _ => ReportsHeld) ReportsDurable e w := by
  have asks : ∀ {c : Call} {Q : c.Reply → World → Prop} {w : World}, c.part = .result →
      ReportsLive id w ∧ ReportsCounted none w →
      (∀ r w', ReportsLive id w' ∧ ReportsCounted none w' → Q r w') →
      wp (call c) Q ReportsDurable e w := by
    intro c Q w part both next
    have other : c.part ≠ .outbox := by simp [part]
    refine wp_call_emitting (I := fun w => ReportsLive id w ∧ ReportsCounted none w)
      ⟨both.1.event other rfl, both.2.event other⟩ (fun evt w both => ?_)
      (fun _ both => both.1.durable) fun r w' both _ => ?_
    · exact wp_mono (wp_and (reported_emit_live evt both.1) (reported_emit evt both.2))
        (fun _ _ both => ⟨both.1, both.2.1⟩) fun _ both => both.1
    · have replied : ReportsLive id (w'.effect (.returned c r)) := both.1.event other rfl
      exact ⟨replied.durable, next r _ ⟨replied, both.2.event other⟩⟩
  unfold doFinalize
  simp only [wp_bind, wp_memory, wp_nowMs, wp_makeCtx]
  refine asks rfl ⟨live, acked⟩ fun data w₁ both => ?_
  refine asks rfl ⟨{ both.1 with }, { both.2 with }⟩ fun reply w₂ both => ?_
  cases reply with
  | error ex => exact .inr ⟨id, both.1⟩
  | ok resp =>
    simp only [wp_ite, wp_pure]
    split
    next => exact .inr ⟨id, both.1⟩
    next => exact reported_closeExecution both.2

/-- A pass without an error acknowledges every event reported so far. -/
theorem reported_flushOutbox (h : ReportsLive id w) :
    wp flushOutbox (fun _ => ReportsHeld) ReportsDurable e w := by
  -- the loop goes up to the counter that was read
  have start : ReportsSending id w.store.outboxMeta.nextSequenceNo w :=
    { h with floor := Nat.le_refl _, ceiling := fun p member => (h.counted p member).2 }
  unfold flushOutbox
  simp only [wp_bind, wp_store, wp_memory, wp_ite, wp_pure]
  refine wp_mono (turn_sendEvents _ (fun _ => False) start (fun seq member => ?_)
    (fun _ never => never.elim) fun _ _ never => never.elim) (fun st w₁ both => ?_) fun _ h => h
  · have range := List.mem_range'_1.mp member
    omega
  obtain ⟨sending, sent⟩ := both
  -- without an error, every number below it is done, and that is all there are
  have acked : st.sendError = false → ReportsCounted none w₁ := by
    intro clean
    refine { sending with due := fun p member => .inl ?_ }
    obtain ⟨r, found, -, payload⟩ := sending.stored p member
    have range := (sending.counted p member).1
    have limit := sending.ceiling p member
    exact ⟨r, found, sent clean _ (.inr (List.mem_range'_1.mpr (by omega))) r found payload⟩
  have raised : ∀ {current}, ReportsCounted current w₁ → ReportsCounted current
      (w₁.effect (.saved (.eventOutboxMeta
        { w.store.outboxMeta with acceptedSequenceNo := w₁.mem.acceptedSeq }))) := fun counted =>
    counted.recount _ sending.ceiling
  have raise : wp (raiseAccepted w.store.outboxMeta w₁.mem.acceptedSeq)
      (fun _ w' => ReportsLive id w' ∧ (st.sendError = false → ReportsCounted none w'))
      ReportsDurable e w₁ := by
    unfold raiseAccepted
    simp only [wp_ite, wp_pure]
    split
    next =>
      have live : ReportsLive id (w₁.effect (.saved (.eventOutboxMeta
          { w.store.outboxMeta with acceptedSequenceNo := w₁.mem.acceptedSeq }))) :=
        { raised sending.toReportsCounted with
          underway := sending.underway
          executing := sending.executing
          current := sending.current
          recorded := sending.recorded
          counter := Nat.le_trans sending.floor sending.counter }
      exact wp_save live.durable ⟨live, fun clean => raised (acked clean)⟩
    next => exact ⟨sending.toReportsLive, acked⟩
  refine wp_mono raise (fun _ w₂ both => ?_) fun _ h => h
  -- with an error the execution stays as it is
  cases clean : st.sendError with
  | true => exact live_persistExecution both.1 fun w₃ live => .inr ⟨id, live⟩
  | false =>
    -- without one the final result is due
    have live := both.1
    refine reported_persistExecution (both.2 clean) (fun _ reported _ _ => reported.durable)
      fun w₃ counted mem task execution counter => ?_
    refine @reported_doFinalize _ _ id { counted.weaken _ with
      underway := by rw [mem]; exact live.underway
      executing := by rw [durableVtState, task]; exact live.executing
      current := by rw [mem]; exact live.current
      recorded := execution.trans live.current
      counter := Nat.le_of_eq (by rw [mem, counter]) } counted

/-- An execution phase keeps the invariant. -/
theorem reported_doExecute (h : ReportsLive id w) :
    wp doExecute (fun _ => ReportsHeld) ReportsDurable e w := by
  unfold doExecute recordStart
  simp only [wp_bind, wp_memory, wp_ite, wp_pure, wp_setExState]
  split
  next =>
    refine live_call h (by simp [Call.part]) fun prep w₁ h => ?_
    split
    next => exact .inr ⟨id, h⟩
    next =>
      refine live_call h (by simp [Call.part]) fun st w₂ h => ?_
      split
      next => exact .inr ⟨id, h⟩
      next =>
        exact live_persistExecution (h.setExState .installStarted) fun w₃ h =>
          reported_flushOutbox h
  next => exact reported_flushOutbox h

/-- One step keeps the invariant, with the phases by whether an execution is underway. -/
theorem reported_step (h : ReportsHeld w) :
    wp step (fun _ => ReportsHeld) ReportsDurable e w := by
  have idle : isUnderway w.mem.vtState = false → ReportsIdle w := h.idle
  refine wp_step (fun _ => h) (fun state => ?_) (fun state => ?_) (fun state => ?_)
    (fun state => ?_) (fun state => ?_) (fun state => ?_) fun state => ?_
  · exact reported_before proceeds_doCheckTask (by simp [isUnderway]) (by simp) (by simp)
      (idle (by rcases state with state | state <;> simp [state, isUnderway]))
  · exact reported_before proceeds_doConsent (by simp [isUnderway]) (by simp) (by simp)
      (idle (by simp [state, isUnderway]))
  · exact reported_before proceeds_doDownload (by simp [isUnderway]) (by simp) (by simp)
      (idle (by rcases state with state | state <;> simp [state, isUnderway]))
  · exact reported_doPermit
      (idle (by rcases state with state | state | state <;> simp [state, isUnderway]))
  · obtain ⟨id, live⟩ := h.live (by simp [state, isUnderway])
    exact reported_doExecute live
  · have waiting := idle (by simp [state, isUnderway])
    exact reported_doPermit { waiting with same := ⟨trivial, waiting.same⟩, idle := rfl }
  · obtain ⟨id, live⟩ := h.live (by simp [state, isUnderway])
    exact reported_doExecute ((live.setExState .rollback).move rfl)

/-- A process that finds a snapshot, or no reports before it, takes over where the last one was. -/
theorem reported_restart (h : ReportsDurable w)
    (read : lacksSnapshot w.store → eventReports w.trace = []) : ReportsHeld (restart w) := by
  obtain ⟨current, reported, executing⟩ := h
  have same : Always ReportsSame (restart w).trace := ⟨trivial, reported.same⟩
  cases lacks : lacksSnapshot w.store with
  -- no snapshot: then nothing was reported, and the counters may start anew
  | true =>
    have none : eventReports (restart w).trace = [] := read lacks
    refine .inl ⟨⟨⟨same, ?_, ?_, ?_⟩, ?_⟩, ?_⟩
    any_goals rw [none]; simp
    rw [restart_mem, loadFromStore_without_snapshot lacks]
    rfl
  -- a snapshot: state and counters are read back
  | false =>
    have mem : (restart w).mem = _ := loadFromStore_with_snapshot lacks
    have counted : ReportsCounted current (restart w) :=
      { reported with
        same
        below := fun p member => by
          rw [mem]
          exact (reported.counted p member).2 }
    have state : (restart w).mem.vtState = durableVtState w.store := by rw [mem]
    cases underway : isUnderway (durableVtState w.store) with
    -- the execution goes on under its identity
    | true =>
      refine .inr ⟨(w.store.execution.getD {}).executionId, { counted with
        due := fun p member => (counted.due p member).imp id fun due => ?_
        underway := by rw [state]; exact underway
        executing := underway
        current := by rw [mem]
        recorded := rfl
        counter := by rw [mem]; exact Nat.le_refl _ }⟩
      rw [(executing _ due).2]
    -- no execution was underway, so that nothing is left of one
    | false =>
      have none : current = none := by
        cases current with
        | none => rfl
        | some id => exact absurd (executing id rfl).1 (by simp [underway])
      subst none
      exact .inl { counted with idle := by rw [state]; exact underway }

end Reports

/-- Over every run, from any store and with emissions during any call: a number is reported for one
event of one execution, as long as no process starts without a snapshot after events were reported.
-/
theorem run_reports_same (env : Environment) (s : FotaCloudStateStore) (ops : List Operation)
    (read : Always SnapshotRead (run env (boot s) ops).trace) :
    Always ReportsSame (run env (boot s) ops).trace := by
  let J := Assuming SnapshotRead ReportsHeld
  have noted : ∀ w event, event.part = .run → J w → J (World.note w event) :=
    fun w event part holds => (Within.note_run event part).assuming holds fun held => by
      rcases held with idle | ⟨id, live⟩
      · exact .inl (idle.within (.note_run event part) (by simp) (by simp))
      · exact .inr ⟨id, live.within (.note_run event part) (by simp) (by simp) (by simp) (by simp)⟩
  have restarts : ∀ w, Assuming SnapshotRead ReportsDurable w → J (restart w) :=
    fun w holds cond => reported_restart (holds cond.2) cond.1
  have initial : J (boot s) := restarts _ fun _ =>
    EventsReported.durable ⟨trivial, by simp [eventReports], by simp [eventReports],
      by simp [eventReports]⟩
  have held := run_keeps_emitting (e := env) J (Assuming SnapshotRead ReportsDurable)
    (fun op w => noted w (.began op) rfl)
    (fun w w' within holds => within.assuming holds fun held => by
      -- a step outside the outbox and the phase
      rcases held with idle | ⟨id, live⟩
      · exact .inl (idle.within within (by simp) (by simp))
      · exact .inr ⟨id, live.within within (by simp) (by simp) (by simp) (by simp)⟩)
    (fun evt w holds => holds.wp (touches_emit [.outbox] evt (by simp)) (reported_emit_held evt))
    (fun w holds => (noted w _ rfl holds).wp proceeds_step.touches reported_step)
    (fun w holds cond => (holds cond).durable)
    (fun w holds => restarts _ fun cond => ?_)
    (fun w holds => restarts w fun cond => (holds cond).durable) ops initial
  -- the invariant gives the law in both of its cases
  · rcases held read with idle | ⟨id, live⟩
    · exact idle.same
    · exact live.same
  · obtain ⟨current, reported, executing⟩ := holds cond.2
    exact ⟨current, { reported with same := ⟨trivial, reported.same⟩ }, executing⟩

end CgwFota
