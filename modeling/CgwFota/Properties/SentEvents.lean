import CgwFota.Orchestrator.SendRules
import CgwFota.Properties.EventKeys

/-!
# Events are sent as they were recorded

`emit` writes an event twice: as fields of a record, where an empty id and an empty digest get
stand-ins, and as a payload without them. The payload is what is sent, and the send loop takes an
empty payload for an event of an older version that is not to be sent at all.

## Main definitions

* `SentAsRecorded`: a transmission is the event as its record has it, and no record is marked as
  sent before there was one.
* `SendsAll`: a pass of the send loop reports every accepted event that is not acknowledged.
* `EventsNamed`: accepted events have ids and digests of their own.

## Main results

* `sent_as_recorded`: both hold in every run whose events are named.
* `unnamed_events_not_sent_as_recorded`: an event without an id and one without any field.

## Proof strategy

Every accepted event has its record, with the payload that was emitted. A turn of the send loop
writes only the status of one record, and marks as sent only what has no payload, which no named
event is. The second half is an induction over the numbers of a pass, for which what is stored under
the numbers still to come is as it was.
-/
namespace CgwFota

open Crash

/-! ### The law -/

/-- An event that was accepted, with its number and the moment at which `emit` returned. -/
structure Emission where
  tick : Nat
  sequenceNo : Nat
  evt : ExecutionEvent
  deriving DecidableEq, Repr

/-- The accepted events, newest first. -/
def emissions : List Entry → List Emission
  | [] => []
  | a :: past =>
    match a.event with
    | .emitted sequenceNo evt => ⟨a.tick, sequenceNo, evt⟩ :: emissions past
    | _ => emissions past

/-- The event under its number. -/
def Emission.report (p : Emission) : ExecutionEvent := { p.evt with sequenceNo := p.sequenceNo }

/-- An event is reported under this number. -/
def isReport (sequenceNo : Nat) (a : Entry) : Bool :=
  match a.event with
  | .called (.reportEvent req _) => req.sequenceNo = sequenceNo
  | _ => false

/-- An event was reported under this number from this moment on. -/
def ReportedSince (tick sequenceNo : Nat) (trace : List Entry) : Prop :=
  ∃ a ∈ trace, tick ≤ a.tick ∧ isReport sequenceNo a

instance (tick sequenceNo : Nat) (trace : List Entry) :
    Decidable (ReportedSince tick sequenceNo trace) :=
  inferInstanceAs (Decidable (∃ a ∈ trace, _))

/-- What is sent has an id and a digest, and they are those of the record. -/
structure Identified (r : FotaEventOutboxRecord) (req : ExecutionEvent) : Prop where
  hasId : req.eventId ≠ ""
  id : req.eventId = r.eventId
  hasDigest : (req.eventDigest.getD {}).valueHex ≠ ""
  digest : (req.eventDigest.getD {}).valueHex = r.eventDigestHex

instance (r : FotaEventOutboxRecord) (req : ExecutionEvent) : Decidable (Identified r req) :=
  decidable_of_iff ((req.eventId ≠ "" ∧ req.eventId = r.eventId) ∧
    (req.eventDigest.getD {}).valueHex ≠ "" ∧
    (req.eventDigest.getD {}).valueHex = r.eventDigestHex)
    ⟨fun h => ⟨h.1.1, h.1.2, h.2.1, h.2.2⟩, fun h => ⟨⟨h.hasId, h.id⟩, h.hasDigest, h.digest⟩⟩

/-- Every transmission under the number of an accepted event is this event, and identified as in its
record. Its record is not marked as sent before there was a transmission. -/
def SentAsRecorded (a : Entry) (past : List Entry) : Prop :=
  match a.event with
  | .called (.reportEvent req _) => ∀ p ∈ emissions past, p.sequenceNo = req.sequenceNo →
    req = p.report ∧ ∃ r ∈ a.store.loadEvent p.sequenceNo, Identified r req
  | .saved (.event r) => r.sendStatus = "SENT" →
    ∀ p ∈ emissions past, p.sequenceNo = r.sequenceNo → ReportedSince p.tick p.sequenceNo past
  | _ => True

instance (a : Entry) (past : List Entry) : Decidable (SentAsRecorded a past) := by
  obtain ⟨_ | c | _ | s, _, _, _⟩ := a
  all_goals unfold SentAsRecorded; try infer_instance
  · rcases c with _ | _ <;> infer_instance
  · rcases s with _ | _ <;> infer_instance

/-- The part of `doExecute` before the events are sent; without an outcome they are sent next. -/
def startExecution : Orch (Option StepOutcome) := do
  let m ← memory
  if m.exState = .permitPersisted ∨ m.exState = .ready then
    let prep : PrepareResult ← call (.prepare m.frozenTask)
    if !prep.ready then
      return some { action := "execute", error := "executor prepare failed: " ++ prep.reason }
    else
      let m ← memory
      let st : StartResult ← call (.start m.permit)
      if !st.started then
        return some { action := "execute", error := "executor start failed: " ++ st.reason }
      else
        setExState .installStarted
        persistExecution
        return none
  else return none

/-- In this run the send loop begins in this world. -/
inductive SendLoop (env : Environment) (s : FotaCloudStateStore) (ops : List Operation) :
    World → Prop
  | executing {before after : List Operation} {w : World} (split : ops = before ++ .step :: after)
      (state : (run env (boot s) before).mem.vtState = .executing)
      (started : startExecution env ((run env (boot s) before).note (.began .step)) =
        .done none w) : SendLoop env s ops w
  | rollback {before after : List Operation} {w : World} (split : ops = before ++ .step :: after)
      (state : (run env (boot s) before).mem.vtState = .rollbackPending)
      (started : (do setExState .rollback; setVtState .executing; startExecution) env
        ((run env (boot s) before).note (.began .step)) = .done none w) : SendLoop env s ops w

/-- A pass of the loop reports every accepted event that was not acknowledged before. -/
def SendsAll (env : Environment) (w : World) : Prop :=
  wp (sendEvents (List.range' 1 (w.store.outboxMeta.nextSequenceNo - 1)) {})
    (fun _ w' => ∀ p ∈ emissions w.trace,
      AckedAt w.store p.sequenceNo ∨ ReportedSince w.tick p.sequenceNo w'.trace)
    (fun _ => True) env w

/-- The event has an id and a digest of its own. -/
def Named (evt : ExecutionEvent) : Prop :=
  evt.eventId ≠ "" ∧ (evt.eventDigest.getD {}).valueHex ≠ ""

instance (evt : ExecutionEvent) : Decidable (Named evt) :=
  inferInstanceAs (Decidable (_ ∧ _))

/-- Accepted events are named, and every process that starts finds a counter above their numbers. -/
def EventsNamed (a : Entry) (past : List Entry) : Prop :=
  match a.event with
  | .emitted _ evt => Named evt
  | .restarted => ∀ p ∈ emissions past, p.sequenceNo < a.mem.nextSeq
  | _ => True

instance (a : Entry) (past : List Entry) : Decidable (EventsNamed a past) := by
  obtain ⟨_ | _ | _ | _ | _ | _ | _ | _ | _, _, _, _⟩ := a
  all_goals unfold EventsNamed; infer_instance

/-! ### What is kept -/

/-- The record of an accepted event that is named. -/
structure Records (p : Emission) (r : FotaEventOutboxRecord) : Prop where
  named : Named p.evt
  id : r.eventId = p.evt.eventId
  digest : r.eventDigestHex = (p.evt.eventDigest.getD {}).valueHex
  payload : r.eventPbHex = protoBinaryToHex p.evt
  unmarked : r.sendStatus ≠ "SENT"

/-- What a crash leaves of the invariant: every accepted event has its record. -/
structure EventsKept (w : World) : Prop where
  sent : Always SentAsRecorded w.trace
  positive : ∀ p ∈ emissions w.trace, 0 < p.sequenceNo
  stored : ∀ p ∈ emissions w.trace, ∃ r ∈ w.store.loadEvent p.sequenceNo, Records p r

/-- The counter of the memory is above all accepted events. -/
structure EventsBelow (w : World) : Prop extends EventsKept w where
  below : ∀ p ∈ emissions w.trace, p.sequenceNo < w.mem.nextSeq

/-- So is the stored one. -/
structure EventsCounted (w : World) : Prop extends EventsBelow w where
  counted : ∀ p ∈ emissions w.trace, p.sequenceNo < w.store.outboxMeta.nextSequenceNo

section Kept

variable {e : Environment} {w w' : World} {parts : List Part} {p : Emission}
  {r : FotaEventOutboxRecord} {limit : Nat}

theorem Records.report_identified (records : Records p r) : Identified r p.report where
  hasId := records.named.1
  id := records.id.symm
  hasDigest := records.named.2
  digest := records.digest.symm

/-- A named event has a payload. -/
theorem Records.sendable (records : Records p r) : r.eventPbHex.isEmpty = false := by
  rw [records.payload]
  refine decide_eq_false fun empty => records.named.1 ?_
  rw [show p.evt = default from empty]
  rfl

theorem Records.mark (records : Records p r) {status : String} (unmarked : status ≠ "SENT") :
    Records p { r with sendStatus := status } :=
  { records with unmarked }

theorem emissions_of_part (a : Entry) (past : List Entry) (outbox : a.event.part ≠ .outbox) :
    emissions (a :: past) = emissions past := by
  simp only [emissions]
  split
  next same => exact absurd (congrArg Event.part same) outbox
  next => rfl

theorem sentAsRecorded_of_part (a : Entry) (past : List Entry) (outbox : a.event.part ≠ .outbox) :
    SentAsRecorded a past := by
  unfold SentAsRecorded
  split
  next same => exact absurd (congrArg Event.part same) outbox
  next same => exact absurd (congrArg Event.part same) outbox
  next => trivial

/-- What stays away from the outbox keeps the records of the accepted events. -/
theorem EventsKept.within (h : EventsKept w) (within : Within parts w w')
    (outbox : .outbox ∉ parts) : EventsKept w' := by
  have same : emissions w'.trace = emissions w.trace :=
    within.observed fun a past member => emissions_of_part a past fun same =>
      outbox (same ▸ member)
  have events : w'.store.events = w.store.events := (within.same .outbox outbox).2.2.2
  refine ⟨within.always (fun a past member => sentAsRecorded_of_part a past fun same =>
    outbox (same ▸ member)) h.sent, ?_, ?_⟩
  · rw [same]
    exact h.positive
  · unfold FotaCloudStateStore.loadEvent
    rw [same, events]
    exact h.stored

/-- What stays away from the outbox keeps the counter of the memory above them. -/
theorem EventsBelow.within (h : EventsBelow w) (within : Within parts w w')
    (outbox : .outbox ∉ parts) : EventsBelow w' where
  toEventsKept := h.toEventsKept.within within outbox
  below := by
    rw [within.observed (f := emissions) fun a past member => emissions_of_part a past fun same =>
      outbox (same ▸ member), (within.same .outbox outbox).1]
    exact h.below

/-- What stays away from the outbox keeps the stored counter above them. -/
theorem EventsCounted.within (h : EventsCounted w) (within : Within parts w w')
    (outbox : .outbox ∉ parts) : EventsCounted w' where
  toEventsBelow := h.toEventsBelow.within within outbox
  counted := by
    rw [within.observed (f := emissions) fun a past member => emissions_of_part a past fun same =>
      outbox (same ▸ member), FotaCloudStateStore.outboxMeta, (within.same .outbox outbox).2.2.1]
    exact h.counted

/-- An effect that neither emits nor writes an event. -/
theorem EventsKept.effect (h : EventsKept w) (event : Event)
    (same : emissions (w.effect event).trace = emissions w.trace)
    (events : (w.effect event).store.events = w.store.events)
    (sent : SentAsRecorded ⟨event, w.mem, w.store, w.tick⟩ w.trace) :
    EventsKept (w.effect event) where
  sent := ⟨sent, h.sent⟩
  positive := by
    rw [same]
    exact h.positive
  stored := by
    unfold FotaCloudStateStore.loadEvent
    rw [same, events]
    exact h.stored

/-! ### Emissions -/

/-- A record is stored under a number that no accepted event has. -/
theorem EventsKept.store_fresh (h : EventsKept w)
    (fresh : ∀ p ∈ emissions w.trace, p.sequenceNo ≠ r.sequenceNo) :
    EventsKept (w.effect (.saved (.event r))) where
  sent := ⟨fun _ p member same => absurd same (fresh p member), h.sent⟩
  positive := h.positive
  stored p member := by
    obtain ⟨r', found, records⟩ := h.stored p member
    exact ⟨r', (Keyed.get_insert_ne _ _ (fresh p member).symm).trans found, records⟩

/-- An event that is accepted gets a number above all others, and its record is the last one. -/
theorem events_emit (evt : ExecutionEvent) (h : Assuming EventsNamed EventsCounted w) :
    wp (emit evt) (fun _ => Assuming EventsNamed EventsCounted) (Assuming EventsNamed EventsKept)
      e w := by
  refine wp_emit_record h fun positive r number id digest pending payload => ?_
  have stored : Assuming EventsNamed EventsKept (w.effect (.saved (.event r))) := by
    intro cond
    have counted := h cond.2
    refine counted.toEventsKept.store_fresh fun p member same => ?_
    have below := counted.counted p member
    omega
  have counted := stored.effect (v := .saved (.eventOutboxMeta
    { w.store.outboxMeta with nextSequenceNo := w.store.outboxMeta.nextSequenceNo + 1 }))
    fun _ kept => kept.effect _ rfl rfl trivial
  refine ⟨stored, counted, fun cond => ?_⟩
  have named : Named evt := cond.1
  have kept := counted cond.2
  have before := h cond.2.2.2
  refine ⟨⟨⟨⟨trivial, kept.sent⟩, ?_, ?_⟩, ?_⟩, ?_⟩
  all_goals intro p member
  all_goals rcases List.mem_cons.mp member with rfl | old
  -- the numbers are positive
  · exact positive
  · exact kept.positive p old
  -- the record is the one just written
  · refine ⟨r, number ▸ Keyed.get_insert_self _ r, named, id named.1, digest named.2, payload, ?_⟩
    rw [pending]
    decide
  -- those of the older events are untouched
  · exact kept.stored p old
  -- both counters have moved past the new number
  · exact Nat.lt_succ_self _
  · exact Nat.lt_succ_of_lt (before.counted p old)
  · exact Nat.lt_succ_self _
  · exact Nat.lt_succ_of_lt (before.counted p old)

/-! ### The phases -/

theorem events_persistExecution (h : EventsBelow w) :
    wp persistExecution (fun _ => EventsCounted) EventsKept e w := by
  unfold persistExecution
  simp only [wp_bind, wp_memory]
  have recorded := h.toEventsKept.effect (.saved (.execution (executionRecord w.mem))) rfl rfl
    trivial
  have counted := recorded.effect (.saved (.eventOutboxMeta
    { nextSequenceNo := w.mem.nextSeq, acceptedSequenceNo := w.mem.acceptedSeq })) rfl rfl trivial
  exact wp_save recorded (wp_save counted ⟨⟨counted, h.below⟩, h.below⟩)

/-- The steps around the outbox, in terms of the invariant. -/
theorem eventsRules : OutboxRules e (Assuming EventsNamed EventsCounted)
    (Assuming EventsNamed EventsCounted) (Assuming EventsNamed EventsCounted)
    (Assuming EventsNamed EventsKept) where
  heldDurable _ holds cond := (holds cond).toEventsKept
  grantedDurable _ holds cond := (holds cond).toEventsKept
  liveHeld _ holds := holds
  underway _ holds _ := holds
  quietHeld _ _ _ outbox _ _ within _ holds :=
    within.assuming holds fun counted => counted.within within outbox
  quietGranted _ _ _ outbox _ _ within holds :=
    within.assuming holds fun counted => counted.within within outbox
  quietLive _ _ _ outbox _ _ within holds :=
    within.assuming holds fun counted => counted.within within outbox
  emitHeld evt _ := events_emit evt
  emitLive evt _ := events_emit evt
  grant _ _ _ _ _ holds := holds
  persistGranted _ holds :=
    holds.wp (touches_persistExecution [.execution, .outbox] (by simp) (by simp)) fun counted =>
      events_persistExecution counted.toEventsBelow
  persistLive _ holds :=
    holds.wp (touches_persistExecution [.execution, .outbox] (by simp) (by simp)) fun counted =>
      events_persistExecution counted.toEventsBelow

/-! ### The send loop -/

/-- The record of the event at hand is written with another status. Only an event that was never
accepted can be marked as sent. -/
theorem EventsCounted.mark (h : EventsCounted w) (hand : AtHand limit r w.store) (status : String)
    (marked : status = "SENT" → r.sendStatus = "SENT" ∨ r.eventPbHex.isEmpty) :
    EventsCounted (w.effect (.saved (.event { r with sendStatus := status }))) := by
  have unmarked : ∀ p ∈ emissions w.trace, p.sequenceNo = r.sequenceNo →
      Records p r ∧ status ≠ "SENT" := by
    intro p member same
    obtain ⟨r', found, records⟩ := h.stored p member
    rw [same] at found
    cases hand.stored.symm.trans found
    refine ⟨records, fun now => ?_⟩
    rcases marked now with before | empty
    -- it was marked before, so it was never accepted
    · exact records.unmarked before
    -- it has no payload
    · exact absurd empty (by simp [records.sendable])
  refine ⟨⟨⟨⟨fun now p member same => absurd now (unmarked p member same).2, h.sent⟩, h.positive,
    fun p member => ?_⟩, h.below⟩, h.counted⟩
  have others := loadEvent_mark status hand.stored p.sequenceNo
  -- the event at hand, or another one
  by_cases same : p.sequenceNo = r.sequenceNo
  · obtain ⟨records, other⟩ := unmarked p member same
    exact ⟨_, others.trans (if_pos same.symm), records.mark other⟩
  · obtain ⟨r', found, records⟩ := h.stored p member
    exact ⟨r', (others.trans (if_neg (Ne.symm same))).trans found, records⟩

/-- The event at hand goes out as its record says. -/
theorem EventsCounted.called (h : EventsCounted w) (hand : AtHand limit r w.store)
    (ctx : CallContext) : EventsCounted (w.effect (.called (.reportEvent r.report ctx))) := by
  have law : SentAsRecorded ⟨.called (.reportEvent r.report ctx), w.mem, w.store, w.tick⟩
      w.trace := by
    intro p member same
    obtain ⟨r', found, records⟩ := h.stored p member
    rw [show p.sequenceNo = r.sequenceNo from same] at found
    cases hand.stored.symm.trans found
    have report : r.report = p.report := by
      unfold FotaEventOutboxRecord.report Emission.report
      rw [records.payload, same]
      rfl
    refine ⟨report, r, same ▸ hand.stored, ?_⟩
    rw [report]
    exact records.report_identified
  exact ⟨⟨h.toEventsKept.effect _ rfl rfl law, h.below⟩, h.counted⟩

/-- The send loop, in terms of the invariant. -/
theorem eventsSends (outbox : FotaEventOutboxMeta) : SendRules e outbox.nextSequenceNo
    (Assuming EventsNamed EventsCounted) (Assuming EventsNamed EventsKept) where
  durable _ holds cond := (holds cond).toEventsKept
  emissions _ _ _ evt _ _ := events_emit evt
  skipped _ _ holds hand empty := holds.effect fun _ counted =>
    counted.mark hand "SENT" fun _ => .inr empty
  called _ _ ctx holds hand _ := holds.effect fun _ counted => counted.called hand ctx
  returned _ _ _ _ holds := holds.effect fun _ counted =>
    ⟨⟨counted.toEventsKept.effect _ rfl rfl trivial, counted.below⟩, counted.counted⟩
  failed _ r holds hand := holds.effect fun _ counted =>
    counted.mark hand r.sendStatus fun marked => .inl marked
  acked w r ctx resp _ holds hand cond := by
    have accepted : EventsCounted
        ((w.effect (.returned (.reportEvent r.report ctx) (.ok resp))).accept r) :=
      { holds cond.2 with }
    exact accepted.mark hand "ACKED" fun never => absurd never (by decide)

/-- A pass, and what comes after it. -/
theorem events_flushOutbox (h : Assuming EventsNamed EventsCounted w) :
    wp flushOutbox (fun _ => Assuming EventsNamed EventsCounted) (Assuming EventsNamed EventsKept)
      e w := by
  apply eventsRules.flushOutbox (S := fun _ => Assuming EventsNamed EventsCounted)
    (R := Assuming EventsNamed EventsBelow)
  · exact fun w holds => holds
  · exact eventsSends
  · exact fun _ w holds cond => (holds cond).toEventsBelow
  · -- The counter that was read before the loop is written back: from here on, only the counter in
    -- memory is above the events emitted meanwhile.
    exact fun _ w holds _ => holds.effect fun _ counted =>
      ⟨counted.toEventsKept.effect _ rfl rfl trivial, counted.below⟩
  · exact fun w holds cond => (holds cond).toEventsKept
  · exact fun w holds => holds.wp
      (touches_persistExecution [.execution, .outbox] (by simp) (by simp)) events_persistExecution
  · intro w event result holds
    have within : Within [event.part] w (w.effect event) := .effect event (by simp)
    exact within.assuming holds fun counted => counted.within within (by simp [result])
  · exact h

/-- A process that finds a counter above the accepted events takes over where the last one was. -/
theorem events_restart (h : Assuming EventsNamed EventsKept w) :
    Assuming EventsNamed EventsCounted (restart w) := by
  intro cond
  have kept := h cond.2
  have below : ∀ p ∈ emissions w.trace, p.sequenceNo < (restart w).mem.nextSeq := cond.1
  refine ⟨⟨⟨⟨trivial, kept.sent⟩, kept.positive, kept.stored⟩, below⟩, fun p member => ?_⟩
  have small := below p member
  -- without a snapshot the counter starts again
  cases lacks : lacksSnapshot w.store with
  | true =>
    -- The counter starts at one again, so that there are no events to speak of.
    have positive := kept.positive p member
    rw [restart_mem, loadFromStore_without_snapshot lacks] at small
    exact absurd small (Nat.not_lt.mpr positive)
  -- otherwise it is the stored one
  | false =>
    rw [restart_mem, loadFromStore_with_snapshot lacks] at small
    exact small

/-- After every run the accepted events are in their records. -/
theorem events_run (env : Environment) (s : FotaCloudStateStore) (ops : List Operation) :
    Assuming EventsNamed EventsCounted (run env (boot s) ops) := by
  have fresh : EventsKept { store := s } :=
    ⟨trivial, by simp [emissions], by simp [emissions]⟩
  have crashed : ∀ w, Assuming EventsNamed EventsKept w →
      Assuming EventsNamed EventsKept (World.note w .crashed) := fun w holds =>
    (Within.note_run .crashed rfl).assuming holds fun kept =>
      kept.within (.note_run .crashed rfl) (by simp)
  apply eventsRules.run
  · exact fun w holds => events_flushOutbox holds
  · exact fun op w holds => (Within.note_run (.began op) rfl).assuming holds fun counted =>
      counted.within (.note_run _ rfl) (by simp)
  · exact fun w holds => events_restart (crashed w holds)
  · exact fun w holds => events_restart fun cond => (holds cond).toEventsKept
  · exact events_restart fun _ => fresh

end Kept

/-! ### A pass of the send loop -/

/-- Before the pass the event was acknowledged, or it was reported meanwhile. -/
def Passed (base : World) (sequenceNo : Nat) (w : World) : Prop :=
  AckedAt base.store sequenceNo ∨ ReportedSince base.tick sequenceNo w.trace

/-- The stored event has a payload. -/
def Sendable (s : FotaCloudStateStore) (sequenceNo : Nat) : Prop :=
  ∃ r ∈ s.loadEvent sequenceNo, r.eventPbHex.isEmpty = false

section Pass

variable {e : Environment} {base w w' : World} {seqs : List Nat} {st : SendState}
  {tick limit seq : Nat} {r : FotaEventOutboxRecord}

theorem ReportedSince.grow {trace trace' : List Entry} (h : ReportedSince tick seq trace)
    (suffix : trace <:+ trace') : ReportedSince tick seq trace' := by
  obtain ⟨a, member, since, report⟩ := h
  exact ⟨a, suffix.subset member, since, report⟩

theorem Within.suffix {parts : List Part} (within : Within parts w w') : w.trace <:+ w'.trace := by
  obtain ⟨new, trace, -⟩ := within.trace
  exact ⟨new, trace.symm⟩

/-- Emissions leave what is stored below the limit as it is. -/
theorem fixed_emit {s : FotaCloudStateStore} (evt : ExecutionEvent)
    (counter : limit ≤ w.store.outboxMeta.nextSequenceNo) (fixed : EventsFixed limit s w.store) :
    wp (emit evt) (fun _ w' => limit ≤ w'.store.outboxMeta.nextSequenceNo ∧
      EventsFixed limit s w'.store) (fun _ => True) e w := by
  refine wp_emit ⟨counter, fixed⟩ fun _ r number _ _ => ⟨trivial, trivial, ?_, fun n below => ?_⟩
  · exact Nat.le_succ_of_le counter
  · exact (Keyed.get_insert_ne _ _ (by omega)).trans (fixed n below)

/-- What a turn of the loop does: other events below the limit stay as they are, and the event it is
about is reported unless it is acknowledged. -/
structure Turned (limit seq : Nat) (w w' : World) : Prop where
  counter : limit ≤ w'.store.outboxMeta.nextSequenceNo
  others : ∀ n < limit, n ≠ seq → w'.store.loadEvent n = w.store.loadEvent n
  reported : Sendable w.store seq → AckedAt w.store seq ∨ ReportedSince w.tick seq w'.trace

/-- A stored event is reported, and its status written. -/
theorem turned_reportStoredEvent (r : FotaEventOutboxRecord)
    (counter : limit ≤ w.store.outboxMeta.nextSequenceNo) :
    wp (reportStoredEvent r st) (fun _ => Turned limit r.sequenceNo w) (fun _ => True) e w := by
  -- While the call is pending, the report is in the trace and the events below the limit are fixed.
  let I : World → Prop := fun w' => (limit ≤ w'.store.outboxMeta.nextSequenceNo ∧
    EventsFixed limit w.store w'.store) ∧ ReportedSince w.tick r.sequenceNo w'.trace
  have written : ∀ (w' : World) (r' : FotaEventOutboxRecord), r'.sequenceNo = r.sequenceNo →
      I w' → Turned limit r.sequenceNo w (w'.effect (.saved (.event r'))) := by
    rintro w' r' same ⟨⟨counter, fixed⟩, reported⟩
    refine ⟨counter, fun n below other => ?_, fun _ => .inr (reported.grow (List.suffix_cons _ _))⟩
    exact (Keyed.get_insert_ne _ _ (same.trans_ne other.symm)).trans (fixed n below)
  unfold reportStoredEvent
  simp only [wp_bind, wp_makeCtx]
  refine wp_call_while (I := I) ⟨⟨counter, fun _ _ => rfl⟩, ?_⟩ (fun _ evt _ w' holds => ?_)
    (fun _ _ => trivial) fun reply w₁ holds _ => ⟨trivial, ?_⟩
  · exact ⟨_, List.mem_cons_self, Nat.le_refl _, decide_eq_true rfl⟩
  · refine wp_mono (wp_and (fixed_emit evt holds.1.1 holds.1.2) (touches_emit [.outbox] evt
      (by simp) w')) (fun _ w₂ both => ?_) fun _ _ => trivial
    exact ⟨both.1, holds.2.grow both.2.suffix⟩
  have replied : I (w₁.effect (.returned (.reportEvent r.report _) reply)) :=
    ⟨holds.1, holds.2.grow (List.suffix_cons _ _)⟩
  cases reply with
  -- no answer
  | error ex =>
    simp only [wp_bind, wp_pure]
    exact wp_save trivial (written _ r rfl replied)
  | ok resp =>
    simp only [wp_ite, wp_bind, wp_setMemory, wp_pure]
    split
    -- accepted or not
    next => exact wp_save trivial (written (World.accept _ r) _ rfl replied)
    next => exact wp_save trivial (written _ r rfl replied)

/-- One turn of the loop. -/
theorem turned_sendEvent (counter : limit ≤ w.store.outboxMeta.nextSequenceNo) :
    wp (sendEvent seq st) (fun _ => Turned limit seq w) (fun _ => True) e w := by
  unfold sendEvent
  simp only [wp_bind, wp_store]
  cases found : w.store.loadEvent seq with
  -- no such record
  | none =>
    refine ⟨counter, fun _ _ _ => rfl, fun sendable => ?_⟩
    obtain ⟨r, stored, -⟩ := sendable
    cases found.symm.trans stored
  | some r =>
    obtain rfl : r.sequenceNo = seq := w.store.events.keyed seq r found
    simp only [wp_ite, wp_bind, wp_pure]
    split
    -- acknowledged before
    next acked => exact ⟨counter, fun _ _ _ => rfl, fun _ => .inl ⟨r, found, acked⟩⟩
    next =>
      split
      next empty =>
        -- Without a payload the event is only marked.
        refine wp_save trivial ⟨counter, fun n _ other => ?_, fun sendable => ?_⟩
        · exact Keyed.get_insert_ne _ _ other.symm
        · obtain ⟨r', stored, payload⟩ := sendable
          cases found.symm.trans stored
          exact absurd empty (by simp [payload])
      -- reported
      next => exact turned_reportStoredEvent r counter

/-- The loop reports every event that it finds with a payload and not acknowledged. The induction is
on the numbers that are left, and what is stored under them is as it was. -/
theorem passed_sendEvents (distinct : seqs.Nodup)
    (below : ∀ n ∈ seqs, n < limit) (counter : limit ≤ w.store.outboxMeta.nextSequenceNo)
    (later : base.tick ≤ w.tick)
    (unread : ∀ n ∈ seqs, w.store.loadEvent n = base.store.loadEvent n) :
    wp (sendEvents seqs st) (fun _ w' => ∀ n ∈ seqs, Sendable base.store n → Passed base n w')
      (fun _ => True) e w := by
  induction seqs generalizing st w with
  | nil => exact fun n never => absurd never (by simp)
  | cons seq rest ih =>
    unfold sendEvents
    rw [wp_bind]
    refine wp_mono (wp_and (turned_sendEvent counter) (touches_sendEvent seq st w))
      (fun st' w₁ both => ?_) fun _ _ => trivial
    obtain ⟨turned, within⟩ := both
    obtain ⟨other, distinct⟩ := List.nodup_cons.mp distinct
    have first : Sendable base.store seq → Passed base seq w₁ := by
      intro sendable
      have same := unread seq (by simp)
      unfold Sendable at sendable
      rw [← same] at sendable
      refine (turned.reported sendable).imp (fun acked => ?_) fun reported => ?_
      · unfold AckedAt at acked
        rwa [same] at acked
      · obtain ⟨a, member, since, report⟩ := reported
        exact ⟨a, member, Nat.le_trans later since, report⟩
    have more := @ih w₁ st' distinct (fun n member => below n (by simp [member]))
      turned.counter (Nat.le_trans later within.tick) fun n member => ?_
    · refine wp_mono (wp_and more (touches_sendEvents rest st' w₁)) (fun _ w₂ both => ?_)
        fun _ _ => trivial
      intro n member sendable
      -- the first number, or one of the others
      rcases List.mem_cons.mp member with rfl | member
      · exact (first sendable).imp_right fun reported => reported.grow both.2.suffix
      · exact both.1 n member sendable
    · have unvisited : n ≠ seq := fun same => other (same ▸ member)
      exact (turned.others n (below n (by simp [member])) unvisited).trans
        (unread n (by simp [member]))

/-- With all accepted events in their records, a pass leaves none of them out. -/
theorem EventsCounted.sendsAll (h : EventsCounted w) : SendsAll e w := by
  have range : ∀ n, n ∈ List.range' 1 (w.store.outboxMeta.nextSequenceNo - 1) ↔
      0 < n ∧ n < w.store.outboxMeta.nextSequenceNo := by
    intro n
    rw [List.mem_range'_1]
    omega
  have pass : wp (sendEvents (List.range' 1 (w.store.outboxMeta.nextSequenceNo - 1)) {})
      (fun _ w' => ∀ n ∈ List.range' 1 (w.store.outboxMeta.nextSequenceNo - 1),
        Sendable w.store n → Passed w n w') (fun _ => True) e w :=
    passed_sendEvents List.nodup_range' (fun n member => ((range n).mp member).2)
      (Nat.le_refl _) (Nat.le_refl _) fun _ _ => rfl
  refine wp_mono pass (fun _ w' passed p member => ?_) fun _ _ => trivial
  obtain ⟨r, found, records⟩ := h.stored p member
  exact passed p.sequenceNo ((range _).mpr ⟨h.positive p member, h.counted p member⟩)
    ⟨r, found, records.sendable⟩

/-! ### Runs -/

/-- The execution is its beginning and the flush. -/
theorem doExecute_eq :
    doExecute = startExecution >>= fun out => out.elim flushOutbox pure := by
  unfold doExecute startExecution recordStart
  rw [Program.bind_bind]
  refine congrArg _ (funext fun m => ?_)
  split
  next =>
    rw [Program.bind_bind]
    refine congrArg _ (funext fun prep => ?_)
    split
    next => rfl
    next =>
      rw [Program.bind_bind]
      refine congrArg _ (funext fun m => ?_)
      rw [Program.bind_bind]
      refine congrArg _ (funext fun st => ?_)
      split
      -- not prepared, not started, or started before
      next => rfl
      next =>
        rw [Program.bind_bind]
        refine congrArg _ (funext fun _ => ?_)
        rw [Program.bind_bind]
        rfl
  next => rfl

/-- The beginning leaves every accepted event with its record. -/
theorem events_startExecution (h : Assuming EventsNamed EventsCounted w) :
    wp startExecution (fun _ => Assuming EventsNamed EventsCounted)
      (Assuming EventsNamed EventsKept)
      e w := by
  have rules : OutboxRules e _ _ _ _ := eventsRules
  unfold startExecution
  simp only [wp_bind, wp_memory, wp_ite, wp_pure, wp_setExState]
  split
  next =>
    refine rules.call_live h (by simp [Call.part]) (by simp [Call.part]) fun prep w₁ h => ?_
    split
    next => exact h
    next =>
      refine rules.call_live h (by simp [Call.part]) (by simp [Call.part]) fun st w₂ h => ?_
      split
      next => exact h
      next =>
        have h := rules.quietLive _ _ _ (by simp) (by simp) (by simp)
          (OutboxRules.within_execution w₂ .installStarted) h
        exact rules.persistLive _ h
  next => exact h

/-- Wherever the send loop begins in a run, the accepted events are in their records. -/
theorem SendLoop.counted {env : Environment} {s : FotaCloudStateStore} {ops : List Operation}
    (loop : SendLoop env s ops w) : Assuming EventsNamed EventsCounted w := by
  have rules : OutboxRules env _ _ _ _ := eventsRules
  have began : ∀ before, Assuming EventsNamed EventsCounted
      ((run env (boot s) before).note (.began .step)) := fun before =>
    (Within.note_run (.began .step) rfl).assuming (events_run env s before) fun counted =>
      counted.within (.note_run _ rfl) (by simp)
  cases loop with
  -- a step that executes
  | @executing before _ _ _ _ started =>
    have holds := events_startExecution (e := env) (began before)
    unfold wp at holds
    rwa [started] at holds
  -- a step that rolls back
  | @rollback before _ _ _ _ started =>
    have h := rules.quietLive _ _ _ (by simp) (by simp) (by simp)
      (OutboxRules.within_execution _ .rollback) (began before)
    have h := rules.quietLive _ _ _ (by simp) (by simp) (by simp)
      (OutboxRules.within_move _ .executing) h
    have holds : wp (do setExState .rollback; setVtState .executing; startExecution)
        (fun _ => Assuming EventsNamed EventsCounted) (Assuming EventsNamed EventsKept) env
        ((run env (boot s) before).note (.began .step)) :=
      events_startExecution (e := env) h
    unfold wp at holds
    rwa [started] at holds

end Pass

/-- Over every run, from any store, with emissions during any call and any crashes: as long as the
accepted events have ids and digests, and every process that starts finds a counter above them, each
transmission is the event as it was recorded, no event is marked as sent before it was, and each
pass of the send loop reports every event that is not acknowledged. -/
theorem sent_as_recorded (env : Environment) (s : FotaCloudStateStore) (ops : List Operation) :
    (Always EventsNamed (run env (boot s) ops).trace →
      Always SentAsRecorded (run env (boot s) ops).trace) ∧
    ∀ w, SendLoop env s ops w → Always EventsNamed w.trace → SendsAll env w :=
  ⟨fun named => (events_run env s ops named).sent,
    fun _ loop named => (loop.counted named).sendsAll⟩

/-- An event with an id and a digest, emitted while the executor is started. -/
def namedEvent : ExecutionEvent :=
  { eventId := "EV-1", eventDigest := some { algorithm := "SHA-256", valueHex := "ab" } }

/-- It is sent as it is. -/
theorem named_event_sent :
    let w := run (emitting [namedEvent] []) (boot {}) (List.replicate 7 .step)
    (emissions w.trace).length = 1 ∧ Always EventsNamed w.trace ∧
      Always SentAsRecorded w.trace := by
  have sent := fun env ops => (sent_as_recorded env {} ops).1
  refine ⟨?_, ?_, @sent _ _ ?_⟩
  · decide +kernel
  · decide +kernel
  · decide +kernel

/-- An event with no field set is marked as sent and never reported. Without an id, an event is
reported without one, while its record has a stand-in. -/
theorem unnamed_events_not_sent_as_recorded :
    let blank := run (emitting [{}] []) (boot {}) (List.replicate 7 .step)
    let anonymous := run (emitting [{ namedEvent with eventId := "" }] []) (boot {})
      (List.replicate 7 .step)
    ((emissions blank.trace).length = 1 ∧ (∀ a ∈ blank.trace, isReport 1 a = false) ∧
      ¬Always SentAsRecorded blank.trace) ∧
    ¬Always SentAsRecorded anonymous.trace := by
  decide +kernel

end CgwFota
