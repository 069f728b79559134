import CgwFota.Orchestrator.SendRules
import CgwFota.Properties.Outbox

/-!
# The accepted watermark

The watermark is raised to every number that is accepted. It bounds a gapless run of acknowledged
events only as long as events are accepted in order.

## Main definitions

* `AckedUpTo`: all events up to a number are acknowledged.
* `Contiguous`: the stored watermark is such a number, and below the counter.
* `AcceptedInOrder`: an event is accepted after all stored events before it.
* `ContiguousKept` and the structures after it: the invariant at the places of a run.

## Main results

* `accepted_watermark_contiguous`: in every run with acceptances in order, the watermark is
  contiguous at every moment.
* `watermark_passes_over_rejected`: without the order it is not.

## Proof strategy

Memory and store each have a watermark, and either may end up in the other, so both are bounds of
acknowledged events. Only the send loop acknowledges: there the order tells that everything before
the accepted event is acknowledged already, which is what raising the watermark needs.
-/
namespace CgwFota

open Crash

/-- All events up to the watermark are acknowledged. -/
def AckedUpTo (accepted : Nat) (s : FotaCloudStateStore) : Prop :=
  ∀ n, ∀ r ∈ s.loadEvent n, n ≤ accepted → r.sendStatus = "ACKED"

/-- The stored watermark is below the counter, and no event up to it is unacknowledged. -/
structure Contiguous (s : FotaCloudStateStore) : Prop where
  acked : AckedUpTo s.outboxMeta.acceptedSequenceNo s
  below : s.outboxMeta.acceptedSequenceNo < s.outboxMeta.nextSequenceNo

/-- An event is accepted after all stored events before it. -/
def AcceptedInOrder (a : Entry) (_past : List Entry) : Prop :=
  match a.event with
  | .returned (.reportEvent req _) (.ok resp) => resp.eventDisposition = .accepted →
    ∀ n < req.sequenceNo, ∀ r ∈ a.store.loadEvent n, r.sendStatus = "ACKED"
  | _ => True

instance (a : Entry) (past : List Entry) : Decidable (AcceptedInOrder a past) := by
  obtain ⟨_ | _ | ⟨c, r⟩ | _, _, _, _⟩ := a
  all_goals unfold AcceptedInOrder; try infer_instance
  rcases c with _ | _ <;> try infer_instance
  all_goals rcases r with _ | _ <;> infer_instance

/-- What a crash leaves of the invariant. -/
structure ContiguousKept (w : World) : Prop extends Contiguous w.store where
  always : Always (fun a _ => Contiguous a.store) w.trace

/-- The watermark in memory is as good as the stored one, and may replace it. -/
structure ContiguousKnown (w : World) : Prop extends ContiguousKept w where
  known : AckedUpTo w.mem.acceptedSeq w.store
  behind : w.mem.acceptedSeq < w.mem.nextSeq
  behindStored : w.mem.acceptedSeq < w.store.outboxMeta.nextSequenceNo

/-- The invariant between operations. -/
structure ContiguousHeld (w : World) : Prop extends ContiguousKnown w where
  live : isUnderway w.mem.vtState → w.store.outboxMeta.nextSequenceNo ≤ w.mem.nextSeq

/-- The invariant while the task is executed. -/
structure ContiguousLive (w : World) : Prop extends ContiguousKnown w where
  ahead : w.store.outboxMeta.nextSequenceNo ≤ w.mem.nextSeq

/-- The invariant of the send loop. -/
structure ContiguousSending (outbox : FotaEventOutboxMeta) (w : World) : Prop
    extends ContiguousLive w where
  bounded : outbox.nextSequenceNo ≤ w.store.outboxMeta.nextSequenceNo
  limited : w.mem.acceptedSeq < outbox.nextSequenceNo

section Contiguous

variable {e : Environment} {w w' : World} {parts : List Part} {outbox : FotaEventOutboxMeta}

/-- An event that is not acknowledged is above every watermark. -/
theorem AckedUpTo.above {accepted limit : Nat} {s : FotaCloudStateStore}
    (h : AckedUpTo accepted s) {r : FotaEventOutboxRecord} (hand : AtHand limit r s) :
    accepted < r.sequenceNo := by
  by_contra covered
  exact hand.unsent (h r.sequenceNo r hand.stored (by omega))

/-- Events above the watermark may be written. -/
theorem AckedUpTo.save {accepted : Nat} {s : FotaCloudStateStore} (h : AckedUpTo accepted s)
    (r : FotaEventOutboxRecord) (above : accepted < r.sequenceNo) :
    AckedUpTo accepted (s.save (.event r)) := by
  intro n r' found covered
  have other : r.sequenceNo ≠ n := by omega
  exact h n r' ((Keyed.get_insert_ne _ _ other).symm.trans found) covered

/-- Accepting an event after all before it raises the watermark to it. -/
theorem AckedUpTo.raise {accepted limit : Nat} {s : FotaCloudStateStore} (h : AckedUpTo accepted s)
    {r : FotaEventOutboxRecord} (hand : AtHand limit r s)
    (order : ∀ n < r.sequenceNo, ∀ r' ∈ s.loadEvent n, r'.sendStatus = "ACKED") :
    AckedUpTo (max accepted r.sequenceNo) (s.save (.event { r with sendStatus := "ACKED" })) := by
  have above := h.above hand
  intro n r' found covered
  by_cases same : r.sequenceNo = n
  · subst same
    cases (Keyed.get_insert_self s.events { r with sendStatus := "ACKED" }).symm.trans found
    rfl
  · have stored : s.loadEvent n = some r' := by
      refine (Keyed.get_insert_ne _ _ ?_).symm.trans found
      exact same
    exact order n (by omega) r' stored

theorem ContiguousKept.grow (h : ContiguousKept w) (event : Event)
    (next : Contiguous (w.effect event).store) : ContiguousKept (w.effect event) :=
  ⟨next, h.toContiguous, h.always⟩

/-- Steps outside the outbox keep what is known of the watermarks. -/
theorem ContiguousKnown.within (h : ContiguousKnown w) (within : Within parts w w')
    (out : .outbox ∉ parts) : ContiguousKnown w' := by
  -- neither the events nor the meta change, so the predicates carry over
  have carry : ∀ {s : FotaCloudStateStore}, s.eventOutboxMeta = w.store.eventOutboxMeta →
      s.events = w.store.events → s.outboxMeta = w.store.outboxMeta ∧
        ∀ {n}, AckedUpTo n w.store → AckedUpTo n s := by
    intro s counters events
    refine ⟨by unfold FotaCloudStateStore.outboxMeta; rw [counters], fun acked => ?_⟩
    unfold AckedUpTo FotaCloudStateStore.loadEvent at acked ⊢
    rw [events]
    exact acked
  have same : ∀ {s : FotaCloudStateStore}, s.eventOutboxMeta = w.store.eventOutboxMeta →
      s.events = w.store.events → Contiguous s := by
    intro s counters events
    obtain ⟨counters, acked⟩ := carry counters events
    exact ⟨by rw [counters]; exact acked h.acked, by rw [counters]; exact h.below⟩
  obtain ⟨next, accepted, counters, events⟩ := within.same .outbox out
  obtain ⟨stored', acked⟩ := carry counters events
  refine ⟨⟨same counters events, ?_⟩, ?_, ?_, ?_⟩
  · refine within.always_on (fun a before on _ => ?_) h.always
    obtain ⟨-, -, counters, events⟩ := on.2 .outbox out
    exact same counters events
  · rw [accepted]; exact acked h.known
  · rw [accepted, next]; exact h.behind
  · rw [accepted, stored']; exact h.behindStored

/-- Between operations the counter is not behind while a task is underway. -/
theorem ContiguousHeld.within (h : ContiguousHeld w) (within : Within parts w w')
    (out : .outbox ∉ parts) (underway : isUnderway w'.mem.vtState → isUnderway w.mem.vtState) :
    ContiguousHeld w' := by
  obtain ⟨next, -, counters, -⟩ := within.same .outbox out
  refine ⟨h.toContiguousKnown.within within out, fun now => ?_⟩
  rw [next, FotaCloudStateStore.outboxMeta, counters]
  exact h.live (underway now)

theorem ContiguousLive.within (h : ContiguousLive w) (within : Within parts w w')
    (out : .outbox ∉ parts) : ContiguousLive w' := by
  obtain ⟨next, -, counters, -⟩ := within.same .outbox out
  refine ⟨h.toContiguousKnown.within within out, ?_⟩
  rw [next, FotaCloudStateStore.outboxMeta, counters]
  exact h.ahead

/-- A new event gets a number above both watermarks. -/
theorem contiguous_emit {I : World → Prop} {evt : ExecutionEvent} (h : ContiguousKnown w)
    (refused : I w) (accepted : ∀ w', w'.mem.vtState = w.mem.vtState →
      w.store.outboxMeta.nextSequenceNo < w'.store.outboxMeta.nextSequenceNo →
      w'.mem.acceptedSeq = w.mem.acceptedSeq → ContiguousLive w' → I w') :
    wp (emit evt) (fun _ => I) ContiguousKept e w := by
  refine wp_emit refused fun _ r number _ _ => ?_
  -- the event is written first, then the counter: at a crash between them the number is free
  have stored : ContiguousKept (w.effect (.saved (.event r))) :=
    h.toContiguousKept.grow _ ⟨h.acked.save r (by rw [number]; exact h.below), h.below⟩
  have counted : ContiguousKept ((w.effect (.saved (.event r))).effect (.saved (.eventOutboxMeta
      { w.store.outboxMeta with nextSequenceNo := w.store.outboxMeta.nextSequenceNo + 1 }))) :=
    stored.grow _ ⟨stored.acked, Nat.lt_succ_of_lt h.below⟩
  refine ⟨stored, counted, accepted _ rfl (Nat.lt_succ_self _) rfl ⟨⟨⟨counted.toContiguous,
    counted.toContiguous, counted.always⟩, ?_, ?_, ?_⟩, Nat.le_refl _⟩⟩
  · exact h.known.save r (by rw [number]; exact h.behindStored)
  · exact Nat.lt_succ_of_lt h.behindStored
  · exact Nat.lt_succ_of_lt h.behindStored

theorem ContiguousKnown.effect (h : ContiguousKnown w) (event : Event)
    (part : event.part ≠ .outbox) : ContiguousKnown (w.effect event) := by
  have within : Within [event.part] w (w.effect event) := .effect event (by simp)
  exact h.within within (by simp [part.symm])

/-- The counters of the memory may be written once they are known to be good. -/
theorem contiguous_persistExecution (h : ContiguousKnown w) :
    wp persistExecution (fun _ => ContiguousLive) ContiguousKept e w := by
  have saved :=
    h.effect (.saved (.execution (executionRecord w.mem))) (by simp [Event.part, Save.part])
  have counted := saved.toContiguousKept.grow (.saved (.eventOutboxMeta
    { nextSequenceNo := w.mem.nextSeq, acceptedSequenceNo := w.mem.acceptedSeq }))
    ⟨h.known, h.behind⟩
  unfold persistExecution
  simp only [wp_bind, wp_memory]
  refine wp_save saved.toContiguousKept (wp_save counted ?_)
  exact ⟨⟨counted, h.known, h.behind, h.behind⟩, Nat.le_refl _⟩

/-- The rules for what goes on between the sends: events are emitted, counters saved, nothing
acknowledged. -/
theorem contiguousRules : OutboxRules e (Assuming AcceptedInOrder ContiguousHeld)
    (Assuming AcceptedInOrder ContiguousKnown) (Assuming AcceptedInOrder ContiguousLive)
    (Assuming AcceptedInOrder ContiguousKept) where
  heldDurable _ holds cond := (holds cond).toContiguousKept
  grantedDurable _ holds cond := (holds cond).toContiguousKept
  liveHeld _ holds cond :=
    { (holds cond).toContiguousKnown with live := fun _ => (holds cond).ahead }
  underway _ holds underway cond :=
    { (holds cond).toContiguousKnown with ahead := (holds cond).live underway }
  quietHeld _ _ _ outbox _ _ within underway holds :=
    within.assuming holds fun holds => holds.within within outbox underway
  quietGranted _ _ _ outbox _ _ within holds :=
    within.assuming holds fun holds => holds.within within outbox
  quietLive _ _ _ outbox _ _ within holds :=
    within.assuming holds fun holds => holds.within within outbox
  emitHeld evt _ holds := holds.wp (touches_emit [.outbox] evt (by simp)) fun held =>
    contiguous_emit held.toContiguousKnown held fun _ _ _ _ live =>
      { live.toContiguousKnown with live := fun _ => live.ahead }
  emitLive evt _ holds := holds.wp (touches_emit [.outbox] evt (by simp)) fun live =>
    contiguous_emit live.toContiguousKnown live fun _ _ _ _ live => live
  grant _ _ _ _ _ holds cond := (holds cond).toContiguousKnown
  persistGranted _ holds :=
    holds.wp (touches_persistExecution [.execution, .outbox] (by simp) (by simp))
      contiguous_persistExecution
  persistLive _ holds :=
    holds.wp (touches_persistExecution [.execution, .outbox] (by simp) (by simp)) fun live =>
      contiguous_persistExecution live.toContiguousKnown

/-! ### The send loop -/

/-- The record of the event at hand is written, with the watermark in memory at `accepted`. -/
theorem ContiguousSending.write (h : ContiguousSending outbox w) {r : FotaEventOutboxRecord}
    {accepted : Nat} (stored : AckedUpTo w.store.outboxMeta.acceptedSequenceNo
      (w.store.save (.event r))) (known : AckedUpTo accepted (w.store.save (.event r)))
    (limited : accepted < outbox.nextSequenceNo) :
    ContiguousSending outbox ((w.withMemory ({ · with acceptedSeq := accepted })).effect
      (.saved (.event r))) where
  acked := stored
  below := h.below
  always := ⟨h.toContiguous, h.always⟩
  known := known
  behind := by
    have bounded := h.bounded
    have ahead := h.ahead
    show accepted < w.mem.nextSeq
    omega
  behindStored := by
    have bounded := h.bounded
    show accepted < w.store.outboxMeta.nextSequenceNo
    omega
  ahead := h.ahead
  bounded := h.bounded
  limited := limited

/-- An event that is not accepted is above both watermarks, and may be written as it is. -/
theorem ContiguousSending.rewrite (h : ContiguousSending outbox w) {r : FotaEventOutboxRecord}
    (hand : AtHand outbox.nextSequenceNo r w.store) (status : String) :
    ContiguousSending outbox (w.effect (.saved (.event { r with sendStatus := status }))) := by
  have stored := h.acked.above hand
  have known := h.known.above hand
  exact h.write (h.acked.save _ stored) (h.known.save _ known) h.limited

/-- Effects that leave the store alone keep the loop's invariant. -/
theorem ContiguousSending.effect (h : ContiguousSending outbox w) (event : Event)
    (same : (w.effect event).store = w.store) : ContiguousSending outbox (w.effect event) := by
  have live : ContiguousLive (w.effect event) := by
    refine ⟨⟨h.toContiguousKept.grow event ?_, ?_, h.behind, ?_⟩, ?_⟩
    · rw [same]; exact h.toContiguous
    · rw [same]; exact h.known
    · rw [same]; exact h.behindStored
    · rw [same]; exact h.ahead
  refine { live with bounded := ?_, limited := h.limited }
  rw [same]
  exact h.bounded

/-- The rules of the send loop, where a reply that accepts brings the order with it. -/
theorem contiguousSends (outbox : FotaEventOutboxMeta) : SendRules e outbox.nextSequenceNo
    (Assuming AcceptedInOrder (ContiguousSending outbox))
    (Assuming AcceptedInOrder ContiguousKept) where
  durable _ holds cond := (holds cond).toContiguousKept
  emissions _ _ _ evt _ _ holds := holds.wp (touches_emit [.outbox] evt (by simp)) fun sending =>
    contiguous_emit sending.toContiguousKnown sending fun w' _ more same live =>
      { live with
        bounded := Nat.le_trans sending.bounded (Nat.le_of_lt more)
        limited := by rw [same]; exact sending.limited }
  skipped _ _ holds hand _ := holds.effect fun _ sending => sending.rewrite hand "SENT"
  called _ _ _ holds _ _ := holds.effect fun _ sending => sending.effect _ rfl
  returned _ _ _ _ holds := holds.effect fun _ sending => sending.effect _ rfl
  failed _ r holds hand := holds.effect fun _ sending => sending.rewrite hand r.sendStatus
  acked w r ctx resp accepted holds hand cond := by
    -- The entry of the reply tells that all events before this one are acknowledged.
    have order := cond.2.1 accepted
    have sending := holds cond.2
    have known := sending.known.raise hand order
    have stored := sending.acked.above hand
    refine sending.write (sending.acked.save _ stored) known ?_
    exact Nat.max_lt.mpr ⟨sending.limited, hand.below⟩

/-- A flush takes the invariant from an execution back to between operations. -/
theorem contiguous_flushOutbox (h : Assuming AcceptedInOrder ContiguousLive w) :
    wp flushOutbox (fun _ => Assuming AcceptedInOrder ContiguousHeld)
      (Assuming AcceptedInOrder ContiguousKept) e w := by
  refine contiguousRules.flushOutbox (S := fun outbox =>
    Assuming AcceptedInOrder (ContiguousSending outbox))
    (R := Assuming AcceptedInOrder ContiguousLive) (fun w holds cond => ?_) contiguousSends
    (fun _ _ holds cond => (holds cond).toContiguousLive) (fun outbox w holds _ => ?_)
    (fun _ holds cond => (holds cond).toContiguousKept) contiguousRules.persistLive
      (fun w event part holds => ?_) h
  · have live := holds cond
    exact { live with bounded := Nat.le_refl _, limited := live.behindStored }
  · -- The watermark is raised in the counters that were read before the first event was sent.
    refine holds.effect fun _ sending => ?_
    have counted := sending.toContiguousKept.grow (.saved (.eventOutboxMeta
      { outbox with acceptedSequenceNo := w.mem.acceptedSeq }))
      ⟨sending.known, sending.limited⟩
    refine ⟨⟨counted, sending.known, sending.behind, sending.limited⟩, ?_⟩
    exact Nat.le_trans sending.bounded sending.ahead
  · have within : Within [event.part] w (w.effect event) := .effect event (by simp)
    exact within.assuming holds fun live => live.within within (by simp [part])

/-! ### Restarts -/

/-- A restart reads both counters back, or forgets them together. -/
theorem contiguous_restart (h : Assuming AcceptedInOrder ContiguousKept w) :
    Assuming AcceptedInOrder ContiguousHeld (restart w) := by
  intro cond
  -- the store is what the crash left
  have kept := h cond.2
  have again : ContiguousKept (restart w) :=
    ⟨kept.toContiguous, kept.toContiguous, kept.always⟩
  -- without a snapshot both counters start anew
  cases lacks : lacksSnapshot w.store with
  | true =>
    have forgot : (restart w).mem = {} := loadFromStore_without_snapshot lacks
    refine ⟨⟨again, ?_, ?_, ?_⟩, ?_⟩
    · rw [forgot]
      intro n r found covered
      exact kept.acked n r found (Nat.le_trans covered (Nat.zero_le _))
    · rw [forgot]
      exact Nat.zero_lt_one
    · rw [forgot]
      exact Nat.zero_lt_of_lt kept.below
    · rw [forgot]
      intro never
      cases never
  -- with one they are those of the store
  | false =>
    have read : (restart w).mem = _ := loadFromStore_with_snapshot lacks
    refine ⟨⟨again, ?_, ?_, ?_⟩, ?_⟩
    · rw [read]
      exact kept.acked
    · rw [read]
      exact kept.below
    · rw [read]
      exact kept.below
    · rw [read]
      exact fun _ => Nat.le_refl _

end Contiguous

/-- Over every run from an empty store in which events are accepted in order: at every moment, all
stored events up to the stored watermark are acknowledged, and it is below the counter. -/
theorem accepted_watermark_contiguous (env : Environment) (ops : List Operation)
    (inOrder : Always AcceptedInOrder (run env (boot {}) ops).trace) :
    Always (fun a _ => Contiguous a.store) (run env (boot {}) ops).trace ∧
      Contiguous (run env (boot {}) ops).store := by
  have empty : Contiguous {} :=
    ⟨fun n r found => by simp [FotaCloudStateStore.loadEvent] at found, Nat.zero_lt_one⟩
  -- in an empty store the watermark bounds nothing
  have begins : ∀ event w, event.part = .run → Assuming AcceptedInOrder ContiguousKept w →
      Assuming AcceptedInOrder ContiguousKept (w.note event) := by
    intro event w part holds
    refine (Within.note_run event part).assuming holds fun kept => ?_
    exact ⟨kept.toContiguous, kept.toContiguous, kept.always⟩
  have held := contiguousRules.run (e := env)
    (fun w holds => contiguous_flushOutbox holds)
    (fun op w holds => (Within.note_run (.began op) rfl).assuming holds fun held =>
      held.within (.note_run _ rfl) (by simp) id)
    (fun w holds => contiguous_restart (begins .crashed w rfl holds))
    (fun w holds => contiguous_restart fun cond => (holds cond).toContiguousKept) ops
    (contiguous_restart (w := { store := {} }) fun _ => ⟨empty, trivial⟩)
  have kept := (held inOrder).toContiguousKept
  exact ⟨kept.always, kept.toContiguous⟩

/-- Two events are emitted while the executor is started, and both are accepted. -/
theorem accepted_watermark_contiguous_two_events :
    let w := run (emitting [{ eventId := "EV-1" }, { eventId := "EV-2" }] []) (boot {})
      (List.replicate 6 .step)
    w.store.outboxMeta.acceptedSequenceNo = 2 ∧ Always AcceptedInOrder w.trace ∧
      Always (fun a _ => Contiguous a.store) w.trace ∧ Contiguous w.store := by
  refine ⟨?_, ?_, @accepted_watermark_contiguous _ _ ?_⟩
  · decide +kernel
  · decide +kernel
  · decide +kernel

/-- The same events with a cloud that accepts only the second one. -/
def rejectingFirst : Environment :=
  { emitting [{ eventId := "EV-1" }, { eventId := "EV-2" }] [] with
    reply := fun _ c =>
      match c with
      | .reportEvent req _ =>
        .ok { eventDisposition := if req.sequenceNo = 1 then .rejected else .accepted }
      | c => cooperativeReply c }

/-- The watermark passes over an event that was rejected. -/
theorem watermark_passes_over_rejected :
    ¬Contiguous (run rejectingFirst (boot {}) (List.replicate 6 .step)).store := by
  intro contiguous
  let s := (run rejectingFirst (boot {}) (List.replicate 6 .step)).store
  have gap : ∃ r ∈ s.loadEvent 1, 1 ≤ s.outboxMeta.acceptedSequenceNo ∧ r.sendStatus ≠ "ACKED" := by
    decide +kernel
  obtain ⟨r, found, covered, unsent⟩ := gap
  exact unsent (contiguous.acked 1 r found covered)

end CgwFota
