import CgwFota.Orchestrator.OutboxRules

/-!
# Invariants of the send loop

The loop visits the numbers below a limit that was read before it began. While an event is reported
others may be emitted, but they get numbers from the limit on, so that the event at hand stays as it
was read.

## Main definitions

* `AtHand`: the event that is being sent
* `SendRules`: what is to be checked of an invariant of the loop, effect by effect

## Main results

* `SendRules.sendEvents`: the loop keeps the invariant
* `OutboxRules.flushOutbox`, `OutboxRules.doFinalize`: what surrounds the loop

## Proof strategy

That the event at hand is untouched is shown once, for an emission (`atHand_emit`), and carried
through the call together with the invariant.
-/
namespace CgwFota

open Crash

/-- The event at hand: stored below the limit and not acknowledged. New events are stored from the
limit on. -/
structure AtHand (limit : Nat) (r : FotaEventOutboxRecord) (s : FotaCloudStateStore) : Prop where
  stored : s.loadEvent r.sequenceNo = some r
  below : r.sequenceNo < limit
  unsent : r.sendStatus ≠ "ACKED"
  counted : limit ≤ s.outboxMeta.nextSequenceNo

/-- The event as it is reported. -/
def FotaEventOutboxRecord.report (r : FotaEventOutboxRecord) : ExecutionEvent :=
  { r.eventPbHex.message with sequenceNo := r.sequenceNo }

/-- The memory after an event was accepted. -/
def World.accept (w : World) (r : FotaEventOutboxRecord) : World :=
  w.withMemory fun m => { m with acceptedSeq := max m.acceptedSeq r.sequenceNo }

/-- What is to be checked of an invariant of the send loop. -/
structure SendRules (e : Environment) (limit : Nat) (I D : World → Prop) : Prop where
  durable : ∀ w, I w → D w
  emissions : ∀ tick req ctx, ∀ evt ∈ e.emits tick (.reportEvent req ctx), ∀ w, I w →
    wp (emit evt) (fun _ => I) D e w
  skipped : ∀ w r, I w → AtHand limit r w.store → r.eventPbHex.isEmpty →
    I (w.effect (.saved (.event { r with sendStatus := "SENT" })))
  called : ∀ w r ctx, I w → AtHand limit r w.store → r.eventPbHex.isEmpty = false →
    I (w.effect (.called (.reportEvent r.report ctx)))
  returned : ∀ w req ctx reply, I w → I (w.effect (.returned (.reportEvent req ctx) reply))
  failed : ∀ w r, I w → AtHand limit r w.store → I (w.effect (.saved (.event r)))
  acked : ∀ (w : World) r ctx resp, resp.eventDisposition = .accepted →
    I (w.effect (.returned (.reportEvent r.report ctx) (.ok resp))) →
    AtHand limit r (w.effect (.returned (.reportEvent r.report ctx) (.ok resp))).store →
    I (((w.effect (.returned (.reportEvent r.report ctx) (.ok resp))).accept r).effect
      (.saved (.event { r with sendStatus := "ACKED" })))

namespace SendRules

variable {e : Environment} {limit : Nat} {I D : World → Prop} {w : World} {st : SendState}

/-- An event that is emitted meanwhile gets another number and leaves the one at hand alone. -/
theorem atHand_emit {evt : ExecutionEvent} {r : FotaEventOutboxRecord}
    (hand : AtHand limit r w.store) :
    wp (emit evt) (fun _ w' => AtHand limit r w'.store) (fun _ => True) e w := by
  refine wp_emit hand fun _ r' number _ _ => ⟨trivial, trivial, ?_⟩
  refine ⟨?_, hand.below, hand.unsent, Nat.le_succ_of_le hand.counted⟩
  have other : r'.sequenceNo ≠ r.sequenceNo := by
    have below := hand.below
    have counted := hand.counted
    omega
  exact (Keyed.get_insert_ne _ _ other).trans hand.stored

/-- The report of an event, from the call to the save that follows its reply. -/
theorem reportStoredEvent (rules : SendRules e limit I D) {r : FotaEventOutboxRecord} (h : I w)
    (hand : AtHand limit r w.store) (payload : r.eventPbHex.isEmpty = false) :
    wp (reportStoredEvent r st) (fun _ w => I w ∧ limit ≤ w.store.outboxMeta.nextSequenceNo)
      D e w := by
  have emissions : ∀ tick ctx, ∀ evt ∈ e.emits tick (.reportEvent r.report ctx), ∀ w,
      I w ∧ AtHand limit r w.store →
      wp (emit evt) (fun _ w => I w ∧ AtHand limit r w.store) D e w := by
    rintro tick ctx evt member w ⟨h, hand⟩
    have kept := rules.emissions tick r.report ctx evt member w h
    exact wp_mono (wp_and kept (atHand_emit hand)) (fun _ _ both => both) fun _ both => both.1
  unfold CgwFota.reportStoredEvent
  simp only [wp_bind, wp_makeCtx]
  -- the event at hand is carried through the call
  refine wp_call_while (I := fun w => I w ∧ AtHand limit r w.store)
    ⟨rules.called w r _ h hand payload, hand⟩ (emissions · _) (fun _ both => rules.durable _ both.1)
    fun reply w₁ both _ => ?_
  obtain ⟨h, hand⟩ := both
  have h := rules.returned w₁ r.report _ reply h
  refine ⟨rules.durable _ h, ?_⟩
  cases reply with
  | error ex =>
    simp only [wp_bind, wp_pure]
    have kept := rules.failed _ r h hand
    exact wp_save (rules.durable _ kept) ⟨kept, hand.counted⟩
  | ok resp =>
    simp only [wp_ite, wp_bind, wp_setMemory, wp_pure]
    split
    next accepted =>
      have kept := rules.acked w₁ r _ resp accepted h hand
      exact wp_save (rules.durable _ kept) ⟨kept, hand.counted⟩
    next =>
      have kept := rules.failed _ r h hand
      exact wp_save (rules.durable _ kept) ⟨kept, hand.counted⟩

/-- One turn of the loop: skipped, saved as done, or reported. -/
theorem sendEvent (rules : SendRules e limit I D) {seq : Nat} (below : seq < limit) (h : I w)
    (counted : limit ≤ w.store.outboxMeta.nextSequenceNo) :
    wp (sendEvent seq st) (fun _ w => I w ∧ limit ≤ w.store.outboxMeta.nextSequenceNo) D e w := by
  unfold CgwFota.sendEvent
  simp only [wp_bind, wp_store]
  cases found : w.store.loadEvent seq with
  | none => exact ⟨h, counted⟩
  | some r =>
    -- the record stands under its own number
    obtain rfl : r.sequenceNo = seq := w.store.events.keyed seq r found
    simp only [wp_ite, wp_bind, wp_pure]
    split
    next => exact ⟨h, counted⟩
    next unsent =>
      have hand : AtHand limit r w.store := ⟨found, below, unsent, counted⟩
      split
      next empty =>
        have kept := rules.skipped w r h hand empty
        exact wp_save (rules.durable _ kept) ⟨kept, counted⟩
      next payload => exact rules.reportStoredEvent h hand (by simpa using payload)

theorem sendEvents (rules : SendRules e limit I D) (seqs : List Nat)
    (below : ∀ seq ∈ seqs, seq < limit) (h : I w)
    (counted : limit ≤ w.store.outboxMeta.nextSequenceNo) :
    wp (sendEvents seqs st) (fun _ => I) D e w := by
  induction seqs generalizing st w with
  | nil => exact h
  | cons seq rest ih =>
    unfold CgwFota.sendEvents
    rw [wp_bind]
    refine wp_mono (rules.sendEvent (below seq (by simp)) h counted)
      (fun st' w' both => ?_) fun _ h => h
    exact ih (fun seq member => below seq (by simp [member])) both.1 both.2

end SendRules

section Flush

variable {e : Environment} {H G L D R : World → Prop} {S : FotaEventOutboxMeta → World → Prop}
  {w : World}

/-- The final result, for an invariant that does not look at it. -/
theorem OutboxRules.doFinalize (rules : OutboxRules e H G L D)
    (results : ∀ w event, event.part = .result → L w → L (w.effect event)) (h : L w) :
    wp doFinalize (fun _ => H) D e w := by
  have asks : ∀ {c : Call} {Q : c.Reply → World → Prop} {w : World}, c.part = .result → L w →
      (∀ r w', L w' → Q r w') → wp (call c) Q D e w := by
    intro c Q w part h next
    refine wp_call_emitting (results w (.called c) part h) rules.emitLive rules.liveDurable
      fun r w' h _ => ?_
    have h := results w' (.returned c r) part h
    exact ⟨rules.liveDurable _ h, next r _ h⟩
  unfold CgwFota.doFinalize
  simp only [wp_bind, wp_memory, wp_nowMs, wp_makeCtx]
  refine asks rfl h fun data w₁ h => ?_
  refine asks rfl (rules.quietLive _ _ _ (by simp) (by simp) (by simp) .pause h)
    fun reply w₂ h => ?_
  cases reply with
  | error ex => exact rules.liveHeld _ h
  | ok resp =>
    simp only [wp_ite, wp_pure]
    split
    next => exact rules.liveHeld _ h
    next => exact rules.closeExecution h

/-- `S` holds while events are sent, `R` before the counters of the memory are written. -/
theorem OutboxRules.flushOutbox (rules : OutboxRules e H G L D)
    (start : ∀ w, L w → S w.store.outboxMeta w)
    (sends : ∀ outbox, SendRules e outbox.nextSequenceNo (S outbox) D)
    (sent : ∀ outbox w, S outbox w → R w)
    (raised : ∀ outbox w, S outbox w → outbox.acceptedSequenceNo < w.mem.acceptedSeq →
      R (w.effect (.saved (.eventOutboxMeta
        { outbox with acceptedSequenceNo := w.mem.acceptedSeq }))))
    (kept : ∀ w, R w → D w) (persist : ∀ w, R w → wp persistExecution (fun _ => L) D e w)
    (results : ∀ w event, event.part = .result → L w → L (w.effect event)) (h : L w) :
    wp flushOutbox (fun _ => H) D e w := by
  unfold CgwFota.flushOutbox
  simp only [wp_bind, wp_store, wp_memory, wp_ite, wp_pure]
  refine wp_mono ((sends w.store.outboxMeta).sendEvents _ (fun seq member => ?_) (start w h)
    (Nat.le_refl _)) (fun st w₁ h => ?_) fun _ h => h
  -- the numbers of the loop are below the limit it read
  · have range := List.mem_range'_1.mp member
    omega
  -- the watermark is written only where it rose
  · have raise : wp (raiseAccepted w.store.outboxMeta w₁.mem.acceptedSeq) (fun _ => R) D e w₁ := by
      unfold raiseAccepted
      simp only [wp_ite, wp_pure]
      split
      next above =>
        have r := raised _ w₁ h above
        exact wp_save (kept _ r) r
      next => exact sent _ w₁ h
    refine wp_mono raise (fun _ w₂ r => ?_) fun _ h => h
    refine wp_mono (persist w₂ r) (fun _ w₃ h => ?_) fun _ h => h
    split
    next => exact rules.liveHeld _ h
    next => exact rules.doFinalize results h

end Flush

end CgwFota
