import CgwFota.Orchestrator.SendRules
import CgwFota.Properties.Outbox

/-!
# Events whose reply was lost

An event that the cloud has recorded is reported again when the reply was lost. The cloud calls it a
duplicate, which the send loop takes for a failure: the event is never acknowledged, and the final
result never reported.

## Main definitions

* `CloudRecords`: a cloud that records what is reported and tells a repetition from a first report.
* `nothingLost`, `Heeding`: nothing of the present operation was lost, and what holds under that.
* `OutboxAcked`, `NothingRepeated`: the goal of the step, and its exact condition.
* `Delivering`: the invariant of the send loop before it comes to a number.

## Main results

* `converges_iff`: a step that loses nothing reaches the goal exactly if nothing is repeated.
* `lost_reply_blocks_final_result`: one lost reply, and the final result is never reported.

## Proof strategy

The loop is clean so far exactly if no event it came past had been reported before, and those events
are exactly the ones acknowledged. Events emitted meanwhile have numbers above the limit that was
read at the start, so they are kept apart in `OutboxBelow`.
-/
namespace CgwFota

open Crash

/-- The numbers under which events were reported, newest first. -/
def reportedNumbers : List Entry → List Nat
  | [] => []
  | a :: past =>
    match a.event with
    | .called (.reportEvent req _) => req.sequenceNo :: reportedNumbers past
    | _ => reportedNumbers past

/-- The cloud records every event that is reported. A reply that arrives tells whether an event
had been reported under this number before; a reply may also be lost. -/
def CloudRecords (a : Entry) (past : List Entry) : Prop :=
  match a.event with
  | .returned (.reportEvent req _) (.ok resp) =>
    resp.eventDisposition =
      if req.sequenceNo ∈ (reportedNumbers past).tail then .duplicate else .accepted
  | _ => True

/-- The operation in progress has not crashed, and no reply to an event was lost. -/
def nothingLost : List Entry → Bool
  | [] => true
  | a :: past =>
    match a.event with
    | .began _ => true
    | .returned (.reportEvent _ _) (.error _) | .crashed => false
    | _ => nothingLost past

/-- The operation in progress has called `reportFinalResult`. -/
def finalReported : List Entry → Bool
  | [] => false
  | a :: past =>
    match a.event with
    | .began _ => false
    | .called (.reportFinalResult _ _) => true
    | _ => finalReported past

/-- The next step goes straight to the send loop. -/
def installationStarted (m : Memory) : Bool :=
  m.vtState = .rollbackPending ||
    m.vtState = .executing && m.exState ≠ .permitPersisted && m.exState ≠ .ready

/-- Every event of the outbox can be sent. -/
def PayloadsStored (s : FotaCloudStateStore) : Prop :=
  ∀ n < s.outboxMeta.nextSequenceNo, ∀ r ∈ s.loadEvent n, r.eventPbHex.isEmpty = false

/-- Every event of the first outbox is acknowledged now. -/
def OutboxAcked (first s : FotaCloudStateStore) : Prop :=
  ∀ n < first.outboxMeta.nextSequenceNo, 0 < n → ∀ r ∈ first.loadEvent n,
    ∃ r' ∈ s.loadEvent n, r'.sendStatus = "ACKED"

/-- No event that is still to be acknowledged was reported before. -/
def NothingRepeated (s : FotaCloudStateStore) (reported : List Nat) : Prop :=
  ∀ n < s.outboxMeta.nextSequenceNo, 0 < n → ∀ r ∈ s.loadEvent n,
    r.sendStatus = "ACKED" ∨ n ∉ reported

instance (a : Entry) (past : List Entry) : Decidable (CloudRecords a past) := by
  obtain ⟨_ | _ | ⟨c, r⟩ | _, _, _, _⟩ := a
  all_goals unfold CloudRecords; try infer_instance
  rcases c with _ | _ <;> try infer_instance
  all_goals rcases r with _ | _ <;> infer_instance

instance (s : FotaCloudStateStore) : Decidable (PayloadsStored s) :=
  inferInstanceAs (Decidable (∀ n < s.outboxMeta.nextSequenceNo, ∀ r ∈ s.loadEvent n, _))

instance (first s : FotaCloudStateStore) : Decidable (OutboxAcked first s) :=
  inferInstanceAs (Decidable (∀ n < first.outboxMeta.nextSequenceNo, _ → ∀ r ∈ first.loadEvent n,
    ∃ r' ∈ s.loadEvent n, _))

instance (s : FotaCloudStateStore) (reported : List Nat) : Decidable (NothingRepeated s reported) :=
  inferInstanceAs (Decidable (∀ n < s.outboxMeta.nextSequenceNo, _ → ∀ r ∈ s.loadEvent n, _))

/-- `body` holds if the cloud recorded what was reported and the operation lost nothing. -/
def Heeding (body : World → Prop) (w : World) : Prop :=
  Always CloudRecords w.trace → nothingLost w.trace → body w

section Observers

variable {a : Entry} {past : List Entry}

theorem nothingLost_of_cons (run : a.event.part ≠ .run) (clean : nothingLost (a :: past)) :
    nothingLost past := by
  rw [nothingLost] at clean
  split at clean
  next same => rw [same] at run; exact absurd rfl run
  next => cases clean
  next => cases clean
  next => exact clean

theorem finalReported_cons (run : a.event.part ≠ .run) (result : a.event.part ≠ .result) :
    finalReported (a :: past) = finalReported past := by
  rw [finalReported]
  split
  next same => rw [same] at run; exact absurd rfl run
  next same => rw [same] at result; exact absurd rfl result
  next => rfl

theorem finalReported_of_cons (run : a.event.part ≠ .run) (reported : finalReported past) :
    finalReported (a :: past) := by
  rw [finalReported]
  split
  next same => rw [same] at run; exact absurd rfl run
  next => rfl
  next => exact reported

end Observers

section Convergence

variable {e : Environment} {w w' : World} {parts : List Part} {limit : Nat}
  {events : Nat → Option FotaEventOutboxRecord}

theorem nothingLost_within (within : Within parts w w') (run : .run ∉ parts)
    (clean : nothingLost w'.trace) : nothingLost w.trace := by
  obtain ⟨new, trace, on⟩ := within.trace
  rw [trace] at clean
  clear trace
  induction new with
  | nil => exact clean
  | cons a new ih =>
    have other : a.event.part ≠ .run := fun same => run (same ▸ (on a (by simp)).1)
    exact ih (nothingLost_of_cons other clean) fun b member => on b (by simp [member])

theorem finalReported_within (within : Within parts w w') (run : .run ∉ parts)
    (result : .result ∉ parts) : finalReported w'.trace = finalReported w.trace := by
  refine within.observed fun a past member => finalReported_cons ?_ ?_
  · exact fun same => run (same ▸ member)
  · exact fun same => result (same ▸ member)

theorem finalReported_kept (within : Within parts w w') (run : .run ∉ parts)
    (reported : finalReported w.trace) : finalReported w'.trace := by
  obtain ⟨new, trace, on⟩ := within.trace
  rw [trace]
  clear trace
  induction new with
  | nil => exact reported
  | cons a new ih =>
    have other : a.event.part ≠ .run := fun same => run (same ▸ (on a (by simp)).1)
    exact finalReported_of_cons other (ih fun b member => on b (by simp [member]))

/-- Where something was lost there is nothing to show: it stays lost. -/
theorem Heeding.wp {P : World → Prop} {α : Type} {body : α → World → Prop} {m : Orch α}
    (holds : Heeding P w) (touches : Touches e parts m) (run : .run ∉ parts)
    (step : P w → wp m (fun a => Heeding (body a)) (fun _ => True) e w) :
    wp m (fun a => Heeding (body a)) (fun _ => True) e w := by
  by_cases met : Always CloudRecords w.trace ∧ nothingLost w.trace
  · exact step (holds met.1 met.2)
  · refine wp_mono (touches w) (fun a w' within records clean => ?_) fun _ _ => trivial
    exact absurd ⟨within.past records, nothingLost_within within run clean⟩ met

/-! ### Events below the limit -/

/-- The events below the limit are as listed, and new events get other numbers. -/
structure OutboxBelow (limit : Nat) (events : Nat → Option FotaEventOutboxRecord) (w : World) :
    Prop where
  counted : limit ≤ w.store.outboxMeta.nextSequenceNo
  ahead : limit ≤ w.mem.nextSeq
  listed : ∀ n < limit, w.store.loadEvent n = events n

theorem OutboxBelow.within (h : OutboxBelow limit events w) (within : Within parts w w')
    (out : .outbox ∉ parts) : OutboxBelow limit events w' := by
  obtain ⟨next, -, counters, stored⟩ := within.same .outbox out
  refine ⟨?_, ?_, fun n below => ?_⟩
  · rw [FotaCloudStateStore.outboxMeta, counters]
    exact h.counted
  · rw [next]
    exact h.ahead
  · rw [FotaCloudStateStore.loadEvent, stored]
    exact h.listed n below

theorem below_emit (evt : ExecutionEvent) (h : OutboxBelow limit events w) :
    wp (emit evt) (fun _ w' => OutboxBelow limit events w' ∧
      reportedNumbers w'.trace = reportedNumbers w.trace) (fun _ => True) e w := by
  refine wp_emit ⟨h, rfl⟩ fun _ r number _ _ => ⟨trivial, trivial, ⟨?_, ?_, fun n below => ?_⟩, rfl⟩
  · exact Nat.le_succ_of_le h.counted
  · exact Nat.le_succ_of_le h.counted
  · have counted := h.counted
    have other : r.sequenceNo ≠ n := by omega
    exact (Keyed.get_insert_ne _ _ other).trans (h.listed n below)

theorem below_persistExecution (h : OutboxBelow limit events w) :
    wp persistExecution (fun _ => OutboxBelow limit events) (fun _ => True) e w := by
  unfold persistExecution
  simp only [wp_bind, wp_memory]
  exact wp_save trivial (wp_save trivial ⟨h.ahead, h.ahead, h.listed⟩)

/-- Whatever else happens, the events below the limit stay. -/
theorem belowRules : OutboxRules e (OutboxBelow limit events) (OutboxBelow limit events)
    (OutboxBelow limit events) (fun _ => True) where
  heldDurable _ _ := trivial
  grantedDurable _ _ := trivial
  liveHeld _ h := h
  underway _ h _ := h
  quietHeld _ _ _ outbox _ _ within _ h := h.within within outbox
  quietGranted _ _ _ outbox _ _ within h := h.within within outbox
  quietLive _ _ _ outbox _ _ within h := h.within within outbox
  emitHeld evt _ h := wp_mono (below_emit evt h) (fun _ _ both => both.1) fun _ h => h
  emitLive evt _ h := wp_mono (below_emit evt h) (fun _ _ both => both.1) fun _ h => h
  grant _ _ _ _ _ h := h
  persistGranted _ h := below_persistExecution h
  persistLive _ h := below_persistExecution h

/-! ### The send loop -/

/-- The invariant of the send loop before it comes to the number `seq`. -/
structure Delivering (first : FotaCloudStateStore) (reported : List Nat) (limit seq : Nat)
    (st : SendState) (w : World) : Prop where
  counted : limit ≤ w.store.outboxMeta.nextSequenceNo
  ahead : limit ≤ w.mem.nextSeq
  reports : ∀ n, seq ≤ n → (n ∈ reportedNumbers w.trace ↔ n ∈ reported)
  waiting : ∀ n < limit, seq ≤ n → w.store.loadEvent n = first.loadEvent n
  sent : ∀ n < limit, 0 < n → n < seq → ∀ r ∈ first.loadEvent n, ∃ r' ∈ w.store.loadEvent n,
    (r'.sendStatus = "ACKED" ↔ r.sendStatus = "ACKED" ∨ n ∉ reported)
  clean : st.sendError = false ↔ ∀ n < limit, 0 < n → n < seq → ∀ r ∈ first.loadEvent n,
    r.sendStatus = "ACKED" ∨ n ∉ reported
  unfinished : finalReported w.trace = false

section SendLoop

variable {first : FotaCloudStateStore} {reported : List Nat} {seq : Nat} {st st' : SendState}
  {r : FotaEventOutboxRecord}

/-- The loop has come past `seq`: what became of this number, with all others as they were. -/
theorem Delivering.pass (h : Delivering first reported limit seq st w)
    (below : OutboxBelow limit (fun n => if n = seq then w'.store.loadEvent seq
      else w.store.loadEvent n) w')
    (reports : ∀ n, seq < n → (n ∈ reportedNumbers w'.trace ↔ n ∈ reportedNumbers w.trace))
    (sent : ∀ r ∈ w.store.loadEvent seq, ∃ r' ∈ w'.store.loadEvent seq,
      (r'.sendStatus = "ACKED" ↔ r.sendStatus = "ACKED" ∨ seq ∉ reported))
    (clean : st'.sendError = false ↔ st.sendError = false ∧ ∀ r ∈ w.store.loadEvent seq,
      r.sendStatus = "ACKED" ∨ seq ∉ reported)
    (inside : seq < limit) (positive : 0 < seq) (unfinished : finalReported w'.trace = false) :
    Delivering first reported limit (seq + 1) st' w' := by
  -- the loop has not written this number yet
  have here : w.store.loadEvent seq = first.loadEvent seq := h.waiting seq inside (Nat.le_refl _)
  rw [here] at sent clean
  refine ⟨below.counted, below.ahead, fun n past => ?_, fun n bound past => ?_,
    fun n bound above visited r found => ?_, ?_, unfinished⟩
  · exact (reports n past).trans (h.reports n (Nat.le_of_succ_le past))
  · have other : n ≠ seq := by omega
    rw [below.listed n bound, if_neg other]
    exact h.waiting n bound (Nat.le_of_succ_le past)
  -- a number before this one, or this one
  · rcases Nat.lt_succ_iff_lt_or_eq.mp visited with before | rfl
    · have other : n ≠ seq := by omega
      rw [below.listed n bound, if_neg other]
      exact h.sent n bound above before r found
    · exact sent r found
  -- the loop was clean if it was before and is at this number
  · rw [clean, h.clean]
    constructor
    · rintro ⟨before, now⟩ n bound above visited
      rcases Nat.lt_succ_iff_lt_or_eq.mp visited with earlier | rfl
      · exact before n bound above earlier
      · exact now
    · intro all
      refine ⟨fun n bound above earlier => all n bound above (by omega), ?_⟩
      exact all seq inside positive (Nat.lt_succ_self _)

/-- Only the record of one number is written. -/
theorem below_write {r' : FotaEventOutboxRecord} (h : OutboxBelow limit events w)
    (number : r'.sequenceNo = seq) :
    OutboxBelow limit (fun n => if n = seq then (w.effect (.saved (.event r'))).store.loadEvent seq
      else events n) (w.effect (.saved (.event r'))) := by
  refine ⟨h.counted, h.ahead, fun n below => ?_⟩
  by_cases same : n = seq
  · rw [if_pos same, same]
  · rw [if_neg same, ← h.listed n below]
    refine Keyed.get_insert_ne _ _ ?_
    rw [number]
    exact Ne.symm same

/-- A number is passed over where nothing is to be sent. -/
theorem Delivering.skip (h : Delivering first reported limit seq st w) (inside : seq < limit)
    (positive : 0 < seq) (idle : ∀ r ∈ w.store.loadEvent seq, r.sendStatus = "ACKED") :
    Delivering first reported limit (seq + 1) st w := by
  refine h.pass ⟨h.counted, h.ahead, fun n _ => ?_⟩ (fun _ _ => Iff.rfl) (fun r found => ?_) ?_
    inside positive h.unfinished
  · split
    next same => rw [same]
    next => rfl
  · exact ⟨r, found, by simp [idle r found]⟩
  · constructor
    · exact fun clean => ⟨clean, fun r found => .inl (idle r found)⟩
    · exact fun both => both.1

theorem accepted_fresh {past : List Entry} {ctx : CallContext} {resp : EventResponse} {m : Memory}
    {s : FotaCloudStateStore} {tick : Nat} {older : List Nat}
    (reports : reportedNumbers past = r.sequenceNo :: older)
    (law : CloudRecords ⟨.returned (.reportEvent r.report ctx) (.ok resp), m, s, tick⟩ past)
    (accepted : resp.eventDisposition = .accepted) : r.sequenceNo ∉ older := by
  intro old
  have law : resp.eventDisposition =
      if r.sequenceNo ∈ (reportedNumbers past).tail then .duplicate else .accepted := law
  rw [reports, List.tail_cons, if_pos old, accepted] at law
  cases law

theorem refused_repeated {past : List Entry} {ctx : CallContext} {resp : EventResponse} {m : Memory}
    {s : FotaCloudStateStore} {tick : Nat} {older : List Nat}
    (reports : reportedNumbers past = r.sequenceNo :: older)
    (law : CloudRecords ⟨.returned (.reportEvent r.report ctx) (.ok resp), m, s, tick⟩ past)
    (refused : ¬resp.eventDisposition = .accepted) : r.sequenceNo ∈ older := by
  by_contra new
  have law : resp.eventDisposition =
      if r.sequenceNo ∈ (reportedNumbers past).tail then .duplicate else .accepted := law
  rw [reports, List.tail_cons, if_neg new] at law
  exact refused law

/-- The reply decides whether the event is acknowledged: it is unless it was reported before. -/
theorem delivering_reportStoredEvent (h : Delivering first reported limit seq st w)
    (found : w.store.loadEvent seq = some r) (unsent : r.sendStatus ≠ "ACKED")
    (inside : seq < limit) (positive : 0 < seq) :
    wp (reportStoredEvent r st)
      (fun st' => Heeding (Delivering first reported limit (seq + 1) st')) (fun _ => True) e w := by
  obtain rfl : r.sequenceNo = seq := w.store.events.keyed seq r found
  let I := fun w' => OutboxBelow limit w.store.loadEvent w' ∧
    reportedNumbers w'.trace = r.sequenceNo :: reportedNumbers w.trace
  -- what an emission writes is above the limit
  have emissions : ∀ evt w', I w' → wp (emit evt) (fun _ => I) (fun _ => True) e w' := by
    rintro evt w' ⟨below, reports⟩
    refine wp_mono (below_emit evt below) (fun _ w'' both => ⟨both.1, ?_⟩) fun _ h => h
    rw [both.2]
    exact reports
  unfold reportStoredEvent
  simp only [wp_bind, wp_makeCtx]
  refine wp_call_emitting (I := I) ⟨⟨h.counted, h.ahead, fun _ _ => rfl⟩, rfl⟩ emissions
    (fun _ _ => trivial) fun reply w₁ pending within => ⟨trivial, ?_⟩
  obtain ⟨below, reports⟩ := pending
  have unfinished : finalReported w₁.trace = false := by
    rw [finalReported_within within (by simp) (by simp)]
    exact h.unfinished
  have fresh : r.sequenceNo ∈ reportedNumbers w.trace ↔ r.sequenceNo ∈ reported :=
    h.reports _ (Nat.le_refl _)
  -- the report that was just made is the only new one
  have others : ∀ n, r.sequenceNo < n →
      (n ∈ reportedNumbers w₁.trace ↔ n ∈ reportedNumbers w.trace) := by
    intro n past
    have other : n ≠ r.sequenceNo := by omega
    rw [reports, List.mem_cons, or_iff_right other]
  have only : ∀ r' ∈ w.store.loadEvent r.sequenceNo, r' = r := by
    intro r' stored
    exact Option.some.inj (stored.symm.trans found)
  cases reply with
  | error ex =>
    -- the reply was lost: there is nothing to show
    simp only [wp_bind, wp_pure]
    exact wp_save trivial fun _ clean => by cases clean
  | ok resp =>
    simp only [wp_ite, wp_bind, wp_setMemory, wp_pure]
    split
    next accepted =>
      refine wp_save trivial fun records _ => ?_
      -- The cloud accepts what it sees for the first time.
      have new : r.sequenceNo ∉ reported := fun old =>
        accepted_fresh reports records.2.1 accepted (fresh.mpr old)
      refine h.pass (below_write ⟨below.counted, below.ahead, below.listed⟩ rfl) others
        (fun r' stored => ?_) ?_ inside positive unfinished
      · obtain rfl := only r' stored
        exact ⟨_, Keyed.get_insert_self _ { r' with sendStatus := "ACKED" }, by simp [new]⟩
      · constructor
        · exact fun clean => ⟨clean, fun _ _ => .inr new⟩
        · exact fun both => both.1
    -- any other disposition is an error of the loop, and the event stays as it was
    next refused =>
      refine wp_save trivial fun records _ => ?_
      have old : r.sequenceNo ∈ reported :=
        fresh.mp (refused_repeated reports records.2.1 refused)
      refine h.pass (below_write ⟨below.counted, below.ahead, below.listed⟩ rfl) others
        (fun r' stored => ?_) ?_ inside positive unfinished
      · obtain rfl := only r' stored
        exact ⟨_, Keyed.get_insert_self _ r', by simp [old]⟩
      · constructor
        · exact fun clean => by cases clean
        · intro both
          rcases both.2 r found with acked | new
          · exact absurd acked unsent
          · exact absurd old new

/-- One turn of the loop: the event is skipped, or its reply decides. -/
theorem delivering_sendEvent (h : Delivering first reported limit seq st w)
    (payloads : ∀ n < limit, ∀ r ∈ first.loadEvent n, r.eventPbHex.isEmpty = false)
    (inside : seq < limit) (positive : 0 < seq) :
    wp (sendEvent seq st)
      (fun st' => Heeding (Delivering first reported limit (seq + 1) st')) (fun _ => True) e w := by
  have here : w.store.loadEvent seq = first.loadEvent seq := h.waiting seq inside (Nat.le_refl _)
  unfold sendEvent
  simp only [wp_bind, wp_store]
  cases found : w.store.loadEvent seq with
  | none => exact fun _ _ => h.skip inside positive (by simp [found])
  | some r =>
    simp only [wp_ite, wp_bind, wp_pure]
    split
    -- acknowledged already
    next acked =>
      refine fun _ _ => h.skip inside positive fun r' stored => ?_
      cases found.symm.trans stored
      exact acked
    -- to be sent; it can be, as its payload is stored
    next unsent =>
      have payload := payloads seq inside r (here.symm.trans found)
      rw [if_neg (by simp [payload])]
      exact delivering_reportStoredEvent h found unsent inside positive

/-- The whole loop, by induction on the numbers that are left. -/
theorem delivering_sendEvents (count : Nat) (h : Heeding (Delivering first reported limit seq st) w)
    (payloads : ∀ n < limit, ∀ r ∈ first.loadEvent n, r.eventPbHex.isEmpty = false)
    (inside : 0 < count → seq + count ≤ limit) (positive : 0 < seq) :
    wp (sendEvents (List.range' seq count) st)
      (fun st' => Heeding (Delivering first reported limit (seq + count) st')) (fun _ => True)
      e w := by
  induction count generalizing seq st w with
  | zero => exact h
  | succ count ih =>
    have bound := inside (Nat.succ_pos _)
    rw [List.range'_succ]
    unfold sendEvents
    rw [wp_bind]
    refine wp_mono (h.wp (touches_sendEvent seq st) (by simp) fun h =>
      delivering_sendEvent h payloads (by omega) positive) (fun st' w' h => ?_) fun _ h => h
    have rest := ih h (fun _ => by omega) (Nat.succ_pos _)
    rw [show seq + 1 + count = seq + (count + 1) by omega] at rest
    exact rest

/-- After the loop: it was clean, and all events are acknowledged, where none had been reported
before. -/
structure Sent (first : FotaCloudStateStore) (reported : List Nat) (st : SendState) (w : World) :
    Prop where
  counted : first.outboxMeta.nextSequenceNo ≤ w.store.outboxMeta.nextSequenceNo
  ahead : first.outboxMeta.nextSequenceNo ≤ w.mem.nextSeq
  clean : st.sendError = false ↔ NothingRepeated first reported
  acked : OutboxAcked first w.store ↔ NothingRepeated first reported
  unfinished : finalReported w.trace = false

/-- Past the last number, the loop has sent what there was. -/
theorem Delivering.finish (h : Delivering first reported first.outboxMeta.nextSequenceNo seq st w)
    (all : first.outboxMeta.nextSequenceNo ≤ seq) : Sent first reported st w := by
  refine ⟨h.counted, h.ahead, ?_, ?_, h.unfinished⟩
  · rw [h.clean]
    constructor
    · exact fun clean n bound above r found => clean n bound above (by omega) r found
    · exact fun fresh n bound above _ r found => fresh n bound above r found
  · constructor
    -- an acknowledged event was acknowledged before or not reported before
    · intro acked n bound above r found
      obtain ⟨r', stored, status⟩ := h.sent n bound above (by omega) r found
      obtain ⟨r'', stored', acked⟩ := acked n bound above r found
      cases stored.symm.trans stored'
      exact status.mp acked
    · intro fresh n bound above r found
      obtain ⟨r', stored, status⟩ := h.sent n bound above (by omega) r found
      exact ⟨r', stored, status.mpr (fresh n bound above r found)⟩

/-- As long as the events stay, so does what is acknowledged. -/
theorem OutboxBelow.acked_iff {s : FotaCloudStateStore}
    (h : OutboxBelow first.outboxMeta.nextSequenceNo s.loadEvent w) :
    OutboxAcked first w.store ↔ OutboxAcked first s := by
  unfold OutboxAcked
  constructor
  · intro acked n bound
    rw [← h.listed n bound]
    exact acked n bound
  · intro acked n bound
    rw [h.listed n bound]
    exact acked n bound

/-- Writing the counters changes nothing about what was sent. -/
theorem heeding_counters {m : Orch Unit} (h : Heeding (Sent first reported st) w)
    (touches : Touches e [.execution, .outbox] m)
    (keeps : ∀ w, OutboxBelow first.outboxMeta.nextSequenceNo w.store.loadEvent w →
      wp m (fun _ => OutboxBelow first.outboxMeta.nextSequenceNo w.store.loadEvent)
        (fun _ => True) e w) :
    wp m (fun _ => Heeding (Sent first reported st)) (fun _ => True) e w := by
  refine h.wp touches (by simp) fun sent => ?_
  refine wp_mono (wp_and (keeps w ⟨sent.counted, sent.ahead, fun _ _ => rfl⟩) (touches w))
    (fun _ w' both _ _ => ?_) fun _ _ => trivial
  obtain ⟨below, within⟩ := both
  refine ⟨below.counted, below.ahead, sent.clean, below.acked_iff.trans sent.acked, ?_⟩
  rw [finalReported_within within (by simp) (by simp)]
  exact sent.unfinished

end SendLoop

/-! ### The end of the step -/

/-- The result is reported, and no event below the limit is touched any more. -/
theorem converges_doFinalize (h : OutboxBelow limit events w) :
    wp doFinalize (fun _ w' => OutboxBelow limit events w' ∧ finalReported w'.trace)
      (fun _ => True) e w := by
  -- the phase touches no event
  have below : wp doFinalize (fun _ => OutboxBelow limit events) (fun _ => True) e w :=
    belowRules.doFinalize (fun w event part h =>
      h.within (.effect event (List.mem_singleton_self _)) (by simp [part])) h
  -- the call is made whatever the reply
  have reported : wp doFinalize (fun _ w' => finalReported w'.trace) (fun _ => True) e w := by
    unfold doFinalize
    simp only [wp_bind, wp_memory, wp_nowMs, wp_makeCtx]
    refine wp_call (fun _ _ => trivial) fun w₁ data _ => ⟨trivial, ?_⟩
    refine wp_call (fun _ _ => trivial) fun w₂ reply within => ⟨trivial, ?_⟩
    have called : finalReported w₂.trace := finalReported_kept within (by simp) rfl
    have returned := finalReported_of_cons (a := ⟨.returned _ reply, w₂.mem, w₂.store, w₂.tick⟩)
      (by simp [Event.part, Call.part]) called
    cases reply with
    | error ex => exact returned
    | ok resp =>
      simp only [wp_ite, wp_pure]
      split
      next => exact returned
      next =>
        refine wp_mono ((proceeds_closeExecution _ resp).touches _) (fun _ w₃ within => ?_)
          fun _ _ => trivial
        exact finalReported_kept within (by simp) returned
  exact wp_mono (wp_and below reported) (fun _ _ both => both) fun _ _ => trivial

/-- `w'` has every event of the outbox of `first` acknowledged and the final result reported,
exactly if no event that `first` had still to send was reported before. -/
def Converges (first w' : World) : Prop :=
  (OutboxAcked first.store w'.store ∧ finalReported w'.trace) ↔
    NothingRepeated first.store (reportedNumbers first.trace)

/-- A flush that loses nothing converges. -/
theorem converges_flushOutbox (payloads : PayloadsStored w.store)
    (ahead : w.store.outboxMeta.nextSequenceNo ≤ w.mem.nextSeq)
    (unfinished : finalReported w.trace = false) :
    wp flushOutbox (fun _ => Heeding (Converges w)) (fun _ => True) e w := by
  let limit := w.store.outboxMeta.nextSequenceNo
  -- at the first number nothing is sent yet
  have start : Delivering w.store (reportedNumbers w.trace) limit 1 {} w := by
    refine ⟨Nat.le_refl _, ahead, fun _ _ => Iff.rfl, fun _ _ _ => rfl, fun n _ above before => ?_,
      ⟨fun _ n _ above before => ?_, fun _ => rfl⟩, unfinished⟩
    · omega
    · omega
  unfold flushOutbox
  simp only [wp_bind, wp_store, wp_memory, wp_ite, wp_pure]
  refine wp_mono (delivering_sendEvents (limit - 1) (fun _ _ => start) payloads
    (fun _ => by omega) Nat.one_pos) (fun st w₁ sent => ?_) fun _ h => h
  have sent : Heeding (Sent w.store (reportedNumbers w.trace) st) w₁ := fun records clean =>
    (sent records clean).finish (by omega)
  refine wp_mono
    (heeding_counters sent ((touches_raiseAccepted _ _).mono (by simp)) fun w' below => ?_)
    (fun _ w₂ sent => ?_) fun _ h => h
  -- the watermark is in the meta, which is no event
  · unfold raiseAccepted
    simp only [wp_ite, wp_pure]
    split
    next => exact wp_save trivial ⟨Nat.le_refl _, below.ahead, fun _ _ => rfl⟩
    next => exact below
  · refine wp_mono (heeding_counters sent (touches_persistExecution _ (by simp) (by simp))
      fun w' below => below_persistExecution below) (fun _ w₃ sent => ?_) fun _ h => h
    split
    next failed =>
      intro records clean
      -- the loop was not clean: something was repeated, and the result is not reported
      have sent := sent records clean
      constructor
      · rintro ⟨-, reported⟩
        rw [sent.unfinished] at reported
        cases reported
      · intro fresh
        rw [sent.clean.mpr fresh] at failed
        cases failed
    next clean =>
      -- the loop was clean: everything is acknowledged, and the result is reported
      have touches := proceeds_doFinalize (e := e).touches
      refine sent.wp touches (by simp) fun sent => ?_
      have fresh := sent.clean.mp (by simpa using clean)
      have below : OutboxBelow w.store.outboxMeta.nextSequenceNo w₃.store.loadEvent w₃ :=
        ⟨sent.counted, sent.ahead, fun _ _ => rfl⟩
      refine wp_mono (converges_doFinalize below) (fun _ w' both _ _ => ?_) fun _ _ => trivial
      obtain ⟨below, reported⟩ := both
      have acked := below.acked_iff.trans sent.acked
      exact ⟨fun both => acked.mp both.1, fun fresh => ⟨acked.mpr fresh, reported⟩⟩

/-! ### Runs -/

/-- While the task is executed, the counter in memory is not behind the stored one. -/
def CounterAhead (w : World) : Prop := w.store.outboxMeta.nextSequenceNo ≤ w.mem.nextSeq

theorem CounterAhead.within (h : CounterAhead w) (within : Within parts w w')
    (out : .outbox ∉ parts) : CounterAhead w' := by
  obtain ⟨next, -, counters, -⟩ := within.same .outbox out
  unfold CounterAhead
  rw [next, FotaCloudStateStore.outboxMeta, counters]
  exact h

theorem ahead_emit (evt : ExecutionEvent) (w : World) {I : World → Prop} (refused : I w)
    (accepted : ∀ w', CounterAhead w' → I w') : wp (emit evt) (fun _ => I) (fun _ => True) e w :=
  wp_emit refused fun _ _ _ _ _ => ⟨trivial, trivial, accepted _ (Nat.le_refl _)⟩

theorem ahead_persistExecution (w : World) :
    wp persistExecution (fun _ => CounterAhead) (fun _ => True) e w := by
  unfold persistExecution
  simp only [wp_bind, wp_memory]
  exact wp_save trivial (wp_save trivial (Nat.le_refl _))

/-- The rules by which the counter stays ahead while the task is executed. -/
theorem aheadRules : OutboxRules e (fun w => isUnderway w.mem.vtState → CounterAhead w)
    (fun _ => True) CounterAhead (fun _ => True) where
  heldDurable _ _ := trivial
  grantedDurable _ _ := trivial
  liveHeld _ h _ := h
  underway _ h underway := h underway
  quietHeld _ _ _ outbox _ _ within underway h := fun now => (h (underway now)).within within outbox
  quietGranted _ _ _ _ _ _ _ _ := trivial
  quietLive _ _ _ outbox _ _ within h := h.within within outbox
  emitHeld evt w h := ahead_emit evt w h fun _ ahead _ => ahead
  emitLive evt w h := ahead_emit evt w h fun _ ahead => ahead
  grant _ _ _ _ _ _ := trivial
  persistGranted w _ := ahead_persistExecution w
  persistLive w _ := ahead_persistExecution w

theorem ahead_flushOutbox (h : CounterAhead w) :
    wp flushOutbox (fun _ w => isUnderway w.mem.vtState → CounterAhead w) (fun _ => True) e w :=
  aheadRules.flushOutbox (S := fun _ _ => True) (R := fun _ => True) (fun _ _ => trivial)
    (fun _ =>
      ⟨fun _ _ => trivial, fun _ _ _ evt _ w _ => ahead_emit evt w trivial fun _ _ => trivial,
      fun _ _ _ _ _ => trivial, fun _ _ _ _ _ _ => trivial, fun _ _ _ _ _ => trivial,
      fun _ _ _ _ => trivial, fun _ _ _ _ _ _ _ => trivial⟩)
    (fun _ _ _ => trivial) (fun _ _ _ _ => trivial) (fun _ _ => trivial)
    (fun w _ => ahead_persistExecution w)
    (fun w event part h => h.within (.effect event (List.mem_singleton_self _)) (by simp [part])) h

theorem ahead_restart (w : World) :
    isUnderway (restart w).mem.vtState → CounterAhead (restart w) := by
  intro underway
  cases lacks : lacksSnapshot w.store with
  | true =>
    have forgot : (restart w).mem = {} := loadFromStore_without_snapshot lacks
    rw [forgot] at underway
    cases underway
  | false =>
    have read : (restart w).mem = _ := loadFromStore_with_snapshot lacks
    unfold CounterAhead
    rw [read]
    exact Nat.le_refl _

theorem ahead_run (s : FotaCloudStateStore) (ops : List Operation) :
    isUnderway (run e (boot s) ops).mem.vtState → CounterAhead (run e (boot s) ops) :=
  aheadRules.run (e := e) (fun _ h => ahead_flushOutbox h) (fun _ _ h => h)
    (fun w _ => ahead_restart (w.note .crashed)) (fun w _ => ahead_restart w) ops
    (ahead_restart { store := s })

/-- A step of a started installation goes to the send loop. -/
theorem converges_step (started : installationStarted w.mem) (payloads : PayloadsStored w.store)
    (ahead : CounterAhead w) (unfinished : finalReported w.trace = false) :
    wp step (fun _ => Heeding (Converges w)) (fun _ => True) e w := by
  unfold installationStarted at started
  simp only [Bool.or_eq_true, Bool.and_eq_true, decide_eq_true_eq] at started
  unfold step
  simp only [wp_bind, wp_memory, wp_ite]
  -- in a rollback, and in an execution whose installation was started
  rcases started with rollback | ⟨⟨executing, permit⟩, ready⟩
  · rw [if_neg (by simp [rollback, isTerminalVehicleTaskState]), rollback]
    simp only [wp_bind, wp_setExState, wp_setVtState]
    unfold doExecute
    simp only [wp_bind, wp_memory, wp_ite]
    rw [if_neg (by simp)]
    exact converges_flushOutbox payloads ahead unfinished
  · rw [if_neg (by simp [executing, isTerminalVehicleTaskState]), executing]
    unfold doExecute
    simp only [wp_bind, wp_memory, wp_ite]
    rw [if_neg (by simp [permit, ready])]
    exact converges_flushOutbox payloads ahead unfinished

theorem isUnderway_of_started {m : Memory} (started : installationStarted m) :
    isUnderway m.vtState := by
  unfold installationStarted at started
  simp only [Bool.or_eq_true, Bool.and_eq_true, decide_eq_true_eq] at started
  rcases started with rollback | ⟨⟨executing, -⟩, -⟩
  · simp [isUnderway, rollback]
  · simp [isUnderway, executing]

end Convergence

/-- In every state of every run with an installation started and all events sendable: if the cloud
records what is reported, a step that loses no reply acknowledges every event and reports the final
result exactly when no event that is still to be acknowledged had been reported before. -/
theorem converges_iff (env : Environment) (s : FotaCloudStateStore) (ops : List Operation)
    (started : installationStarted (run env (boot s) ops).mem)
    (payloads : PayloadsStored (run env (boot s) ops).store)
    (records : Always CloudRecords (runOperation env (run env (boot s) ops) .step).trace)
    (clean : nothingLost (runOperation env (run env (boot s) ops) .step).trace) :
    let w := run env (boot s) ops
    let w' := runOperation env w .step
    (OutboxAcked w.store w'.store ∧ finalReported w'.trace) ↔
      NothingRepeated w.store (reportedNumbers w.trace) := by
  intro w w'
  -- the counter is ahead of the stored one, as the installation is underway
  have ahead : CounterAhead w := ahead_run s ops (isUnderway_of_started started)
  have step : wp (perform .step) (fun _ => Heeding (Converges w))
      (fun w' => Heeding (Converges w) (recover w')) env (w.note (.began .step)) := by
    show wp (step >>= fun _ => pure ()) _ _ env _
    rw [wp_bind]
    have converges := converges_step (e := env) (w := w.note (.began .step)) started payloads ahead
      rfl
    exact wp_mono converges (fun _ _ h => h) fun _ _ _ lost => by cases lost
  exact settle_of_wp step records clean

/-- The final result cannot be delivered, so that the installation goes on. -/
def finalResultUndelivered : Environment :=
  { emitting [{ eventId := "EV-1" }] [] with
    reply := fun _ c =>
      match c with
      | .reportFinalResult _ _ => .error ⟨"timeout"⟩
      | c => cooperativeReply c }

/-- An event that is emitted between two steps is acknowledged by the next one. -/
theorem converges_after_emission :
    let w := run finalResultUndelivered (boot {})
      (List.replicate 6 .step ++ [.emit { eventId := "EV-2" }])
    let w' := runOperation finalResultUndelivered w .step
    NothingRepeated w.store (reportedNumbers w.trace) ∧
      OutboxAcked w.store w'.store ∧ finalReported w'.trace := by
  intro w w'
  have fresh : NothingRepeated w.store (reportedNumbers w.trace) := by decide +kernel
  refine ⟨fresh, (converges_iff finalResultUndelivered {} _ ?_ ?_ ?_ ?_).mpr fresh⟩
  · decide +kernel
  · decide +kernel
  · decide +kernel
  · decide +kernel

/-- Two events are emitted at the start. The first reply for the first one is lost. -/
def losingFirst : Environment :=
  { emitting [{ eventId := "EV-1" }, { eventId := "EV-2" }] [] with
    reply := fun tick c =>
      match c with
      | .reportEvent req _ =>
        if req.sequenceNo = 2 then .ok { eventDisposition := .accepted }
        else if tick < 60 then .error ⟨"timeout"⟩
        else .ok { eventDisposition := .duplicate }
      | c => cooperativeReply c }

/-- The event is recorded, and yet it is never acknowledged. -/
theorem lost_reply_blocks_final_result :
    let w := run losingFirst (boot {}) (List.replicate 6 .step)
    let w' := runOperation losingFirst w .step
    installationStarted w.mem ∧ PayloadsStored w.store ∧ Always CloudRecords w'.trace ∧
      nothingLost w'.trace ∧ ¬(OutboxAcked w.store w'.store ∧ finalReported w'.trace) := by
  decide +kernel

end CgwFota
