import Mathlib.Data.List.Perm.Subperm
import CgwFota.Orchestrator.SendRules

/-!
# The capacity of the outbox

`emit` refuses an event once as many numbers have been given out as the outbox may hold events. The
counter only grows with the events a device has ever had, and an acknowledgement takes nothing off
it, so an outbox whose events have all arrived may count as full.

## Main definitions

* `Emitting`: an event that is emitted in a run, by an operation or by a pending call.
* `RefusesOnlyFull`: a refused event finds as many unacknowledged events as the capacity.
* `WithinCapacity`: the store of a device that has always had this capacity.

## Main results

* `refuses_only_full_iff`: the law holds exactly where emissions come while numbers are left, or
  find the outbox full of unacknowledged events.
* `acknowledged_outbox_refuses`: an outbox whose one event has arrived refuses the next.

## Proof strategy

A single emission compares numbers, which gives the condition. For what it amounts to, an invariant
keeps all numbers within the capacity over the run, inside the send loop included: as many different
numbers as the capacity allows are then all of them.
-/
namespace CgwFota

open Crash

/-! ### Emissions in a run -/

/-- The world in which the other side of a call emits its first event. -/
def whilePending (a : Entry) (past : List Entry) : World :=
  { mem := a.mem, store := a.store, tick := a.tick + 1, trace := a :: past }

/-- Emit one event after the other. -/
def emitAll (evts : List ExecutionEvent) : Orch Unit :=
  Program.forEach (fun evt => do let _ ← emit evt) evts

theorem reentrantEmits_eq (env : Environment) (w : World) (c : Call) :
    reentrantEmits c env (w.effect (.called c)) =
      emitAll (env.emits (w.tick + 1) c) env
        (whilePending ⟨.called c, w.mem, w.store, w.tick⟩ w.trace) := rfl

/-- In this run `emit` is called with this event, in this world: as an operation of its own, or by
the other side of a call that is pending. -/
inductive Emitting (env : Environment) (s : FotaCloudStateStore) (ops : List Operation) :
    World → ExecutionEvent → Prop
  | operation {before after : List Operation} {evt : ExecutionEvent}
      (split : ops = before ++ .emit evt :: after) :
      Emitting env s ops ((run env (boot s) before).note (.began (.emit evt))) evt
  | reentrant {later past : List Entry} {a : Entry} {c : Call} {before after : List ExecutionEvent}
      {evt : ExecutionEvent} {w : World}
      (trace : (run env (boot s) ops).trace = later ++ a :: past) (called : a.event = .called c)
      (goesOn : env.crashes a.tick = false)
      (emits : env.emits (a.tick + 1) c = before ++ evt :: after)
      (reached : emitAll before env (whilePending a past) = .done () w) :
      Emitting env s ops w evt

/-! ### The law -/

/-- The record under this number is stored and not acknowledged. -/
def AwaitsAck (s : FotaCloudStateStore) (sequenceNo : Nat) : Prop :=
  ∃ r ∈ s.loadEvent sequenceNo, r.sendStatus ≠ "ACKED"

instance (s : FotaCloudStateStore) (sequenceNo : Nat) : Decidable (AwaitsAck s sequenceNo) :=
  inferInstanceAs (Decidable (∃ r ∈ s.loadEvent sequenceNo, _))

/-- At least so many stored events are not acknowledged. -/
def AwaitAck (s : FotaCloudStateStore) (count : Nat) : Prop :=
  ∃ numbers : List Nat, numbers.Nodup ∧ count ≤ numbers.length ∧
    ∀ sequenceNo ∈ numbers, AwaitsAck s sequenceNo

/-- An event that is refused leaves the store alone and finds the outbox full. -/
def RefusesOnlyFull (env : Environment) (w : World) (evt : ExecutionEvent) : Prop :=
  wp (emit evt)
    (fun accepted w' => accepted = false →
      AwaitAck w.store env.cfg.eventOutboxMax.toNat ∧ w'.store = w.store)
    (fun _ => True) env w

/-- How many numbers have been given out, in the arithmetic of the counter. -/
def numbered (s : FotaCloudStateStore) : Nat :=
  (s.outboxMeta.nextSequenceNo + 2 ^ 64 - 1) % 2 ^ 64

/-- A store of a device that has always had this capacity: the counter has not left it, and the
stored events have numbers within it. -/
structure WithinCapacity (capacity : Nat) (s : FotaCloudStateStore) : Prop where
  positive : 0 < s.outboxMeta.nextSequenceNo
  counter : s.outboxMeta.nextSequenceNo ≤ capacity + 1
  events : ∀ sequenceNo, (s.loadEvent sequenceNo).isSome → 0 < sequenceNo ∧ sequenceNo ≤ capacity

/-! ### One emission -/

section Emission

variable {e : Environment} {w : World} {Q : Bool → World → Prop} {C : World → Prop}
  {evt : ExecutionEvent}

theorem wp_emit_full (full : numbered w.store ≥ e.cfg.eventOutboxMax.toNat) :
    wp (emit evt) Q C e w ↔ Q false w := by
  unfold numbered at full
  unfold emit
  simp only [wp_bind, wp_store, wp_config, wp_ite, if_pos full, wp_pure]

theorem wp_emit_accepted (space : ¬numbered w.store ≥ e.cfg.eventOutboxMax.toNat) :
    wp (emit evt) (fun accepted _ => accepted = true) (fun _ => True) e w := by
  unfold numbered at space
  unfold emit
  simp only [wp_bind, wp_store, wp_config, wp_ite, if_neg space, wp_pure, wp_setMemory, wp_note]
  exact wp_save trivial (wp_save trivial trivial)

/-- The law holds of an emission that finds room, and of one that finds the outbox full. -/
theorem refusesOnlyFull_iff : RefusesOnlyFull e w evt ↔
    numbered w.store < e.cfg.eventOutboxMax.toNat ∨
      AwaitAck w.store e.cfg.eventOutboxMax.toNat := by
  unfold RefusesOnlyFull
  by_cases full : numbered w.store ≥ e.cfg.eventOutboxMax.toNat
  · rw [wp_emit_full full]
    constructor
    · exact fun law => Or.inr (law rfl).1
    -- a full outbox must hold as many unacknowledged events
    · rintro (space | waiting) _
      · exact absurd full (Nat.not_le.mpr space)
      · exact ⟨waiting, rfl⟩
  -- there is room, and the event is not refused
  · apply iff_of_true _ (Or.inl (Nat.not_le.mp full))
    refine wp_mono (wp_emit_accepted full) (fun accepted _ yes no => ?_) fun _ _ => trivial
    rw [yes] at no
    cases no

/-- An outbox from which nothing is to be sent must not refuse anything. -/
theorem not_refusesOnlyFull (capacity : 0 < e.cfg.eventOutboxMax.toNat)
    (full : e.cfg.eventOutboxMax.toNat ≤ numbered w.store) (none : ∀ n, ¬AwaitsAck w.store n) :
    ¬RefusesOnlyFull e w evt := by
  rw [refusesOnlyFull_iff]
  rintro (space | ⟨numbers, _, many, waiting⟩)
  · exact absurd full (Nat.not_le.mpr space)
  · cases numbers with
    | nil => exact absurd many (Nat.not_le.mpr capacity)
    | cons n rest => exact none n (waiting n (by simp))

end Emission

/-! ### Counting -/

/-- With numbers only up to the capacity, the outbox is full where none of them is missing. -/
theorem WithinCapacity.awaitAck_iff {capacity : Nat} {s : FotaCloudStateStore}
    (within : WithinCapacity capacity s) :
    AwaitAck s capacity ↔ ∀ n, 0 < n → n ≤ capacity → AwaitsAck s n := by
  constructor
  -- many different numbers within the capacity are all of them
  · rintro ⟨numbers, distinct, many, waiting⟩ n positive small
    have inside : numbers ⊆ List.range' 1 capacity := by
      intro k member
      obtain ⟨r, stored, _⟩ := waiting k member
      obtain ⟨above, below⟩ := within.events k (by rw [stored]; rfl)
      exact List.mem_range'_1.mpr ⟨above, by omega⟩
    -- as many different numbers as there are: all of them
    have all := (distinct.subperm inside).perm_of_length_le (by simpa using many)
    exact waiting n (all.mem_iff.mpr (List.mem_range'_1.mpr ⟨positive, by omega⟩))
  · intro waiting
    refine ⟨List.range' 1 capacity, List.nodup_range', by simp, fun n member => ?_⟩
    obtain ⟨above, below⟩ := List.mem_range'_1.mp member
    exact waiting n above (by omega)

/-! ### Runs -/

/-- The counter of the memory is within the capacity as well. -/
structure FitsCapacity (capacity : Nat) (m : Memory) (s : FotaCloudStateStore) : Prop
    extends WithinCapacity capacity s where
  nextPositive : 0 < m.nextSeq
  next : m.nextSeq ≤ capacity + 1

/-- At every moment so far. -/
structure KeptCapacity (capacity : Nat) (w : World) : Prop where
  now : FitsCapacity capacity w.mem w.store
  before : ∀ a ∈ w.trace, FitsCapacity capacity a.mem a.store

section Runs

variable {e : Environment} {capacity : Nat} {w w' : World} {m m' : Memory}
  {s s' : FotaCloudStateStore}

/-- Fitting the capacity depends on the counters and the events. -/
theorem FitsCapacity.of_same (fits : FitsCapacity capacity m s) (next : m'.nextSeq = m.nextSeq)
    (counter : s'.eventOutboxMeta = s.eventOutboxMeta) (events : s'.events = s.events) :
    FitsCapacity capacity m' s' := by
  have same : s'.outboxMeta = s.outboxMeta := by rw [FotaCloudStateStore.outboxMeta, counter]; rfl
  constructor
  · constructor
    · rw [same]
      exact fits.positive
    · rw [same]
      exact fits.counter
    · unfold FotaCloudStateStore.loadEvent
      rw [events]
      exact fits.events
  · rw [next]
    exact fits.nextPositive
  · rw [next]
    exact fits.next

/-- Writing the counter back, within the capacity. -/
theorem FitsCapacity.counted (fits : FitsCapacity capacity m s) {outbox : FotaEventOutboxMeta}
    (positive : 0 < outbox.nextSequenceNo) (counter : outbox.nextSequenceNo ≤ capacity + 1) :
    FitsCapacity capacity m (s.save (.eventOutboxMeta outbox)) :=
  ⟨⟨positive, counter, fits.events⟩, fits.nextPositive, fits.next⟩

/-- Storing an event under a number within the capacity. -/
theorem FitsCapacity.stored (fits : FitsCapacity capacity m s) {r : FotaEventOutboxRecord}
    (positive : 0 < r.sequenceNo) (small : r.sequenceNo ≤ capacity) :
    FitsCapacity capacity m (s.save (.event r)) := by
  refine ⟨⟨fits.positive, fits.counter, fun n found => ?_⟩, fits.nextPositive, fits.next⟩
  by_cases here : r.sequenceNo = n
  · exact here ▸ ⟨positive, small⟩
  · have kept : (s.save (.event r)).loadEvent n = s.loadEvent n := Keyed.get_insert_ne _ _ here
    rw [kept] at found
    exact fits.events n found

theorem KeptCapacity.within {parts : List Part} (kept : KeptCapacity capacity w)
    (within : Within parts w w') (outbox : .outbox ∉ parts) : KeptCapacity capacity w' := by
  have same {w' : World} (h : Part.Same .outbox w w') : FitsCapacity capacity w'.mem w'.store :=
    kept.now.of_same h.1 h.2.2.1 h.2.2.2
  refine ⟨same (within.same .outbox outbox), fun a member => ?_⟩
  obtain ⟨new, trace, on⟩ := within.trace
  rw [trace] at member
  rcases List.mem_append.mp member with fresh | old
  · exact same ((on a fresh).2 .outbox outbox)
  · exact kept.before a old

theorem KeptCapacity.effect (kept : KeptCapacity capacity w) (event : Event)
    (now : FitsCapacity capacity w.mem (w.effect event).store) :
    KeptCapacity capacity (w.effect event) := by
  refine ⟨now, fun a member => ?_⟩
  rcases List.mem_cons.mp member with rfl | old
  · exact kept.now
  · exact kept.before a old

theorem KeptCapacity.note (kept : KeptCapacity capacity w) (event : Event) :
    KeptCapacity capacity (w.note event) := by
  refine ⟨kept.now, fun a member => ?_⟩
  rcases List.mem_cons.mp member with rfl | old
  · exact kept.now
  · exact kept.before a old

/-- An event that is accepted gets a number within the capacity. -/
theorem capacity_emit (evt : ExecutionEvent) (w : World)
    (kept : KeptCapacity e.cfg.eventOutboxMax.toNat w) :
    wp (emit evt) (fun _ => KeptCapacity e.cfg.eventOutboxMax.toNat)
      (KeptCapacity e.cfg.eventOutboxMax.toNat) e w := by
  by_cases full : numbered w.store ≥ e.cfg.eventOutboxMax.toNat
  · rw [wp_emit_full full]
    exact kept
  apply wp_emit kept
  intro positive r number _ _
  have small : w.store.outboxMeta.nextSequenceNo ≤ e.cfg.eventOutboxMax.toNat := by
    have counter := kept.now.counter
    have bound := e.cfg.eventOutboxMax.toNat_lt
    unfold numbered at full
    omega
  have stored := kept.effect (.saved (.event r))
    (kept.now.stored (number ▸ positive) (number ▸ small))
  have counted := stored.effect (.saved (.eventOutboxMeta
      { w.store.outboxMeta with nextSequenceNo := w.store.outboxMeta.nextSequenceNo + 1 }))
    (stored.now.counted (Nat.succ_pos _) (Nat.succ_le_succ small))
  have moved : KeptCapacity e.cfg.eventOutboxMax.toNat
      (((w.effect (.saved (.event r))).effect (.saved (.eventOutboxMeta
        { w.store.outboxMeta with
          nextSequenceNo := w.store.outboxMeta.nextSequenceNo + 1 }))).withMemory fun m =>
        { m with nextSeq := w.store.outboxMeta.nextSequenceNo + 1 }) :=
    ⟨⟨counted.now.toWithinCapacity, Nat.succ_pos _, Nat.succ_le_succ small⟩, counted.before⟩
  exact ⟨stored, counted, moved.note _⟩

theorem capacity_persistExecution (kept : KeptCapacity capacity w) :
    wp persistExecution (fun _ => KeptCapacity capacity) (KeptCapacity capacity) e w := by
  unfold persistExecution
  simp only [wp_bind, wp_memory]
  have recorded := kept.effect (.saved (.execution (executionRecord w.mem)))
    (kept.now.of_same rfl rfl rfl)
  have counted := recorded.effect (.saved (.eventOutboxMeta
      { nextSequenceNo := w.mem.nextSeq, acceptedSequenceNo := w.mem.acceptedSeq }))
    (recorded.now.counted kept.now.nextPositive kept.now.next)
  exact wp_save recorded (wp_save counted counted)

/-- A new process reads a counter that fits, or starts from the first number. -/
theorem capacity_restart (kept : KeptCapacity capacity w) : KeptCapacity capacity (restart w) := by
  have fits : FitsCapacity capacity (loadFromStore w.store {}) w.store := by
    refine { kept.now.toWithinCapacity with nextPositive := ?_, next := ?_ }
    all_goals cases lacks : lacksSnapshot w.store
    · rw [loadFromStore_with_snapshot lacks]
      exact kept.now.positive
    · rw [loadFromStore_without_snapshot lacks]
      exact Nat.one_pos
    · rw [loadFromStore_with_snapshot lacks]
      exact kept.now.counter
    · rw [loadFromStore_without_snapshot lacks]
      exact Nat.succ_le_succ (Nat.zero_le _)
  exact KeptCapacity.note (w := { w with mem := loadFromStore w.store {} })
    ⟨fits, kept.before⟩ .restarted

/-- The invariant is the same in all phases, and a crash leaves it as it is. -/
theorem capacityRules : OutboxRules e (KeptCapacity e.cfg.eventOutboxMax.toNat)
    (KeptCapacity e.cfg.eventOutboxMax.toNat) (KeptCapacity e.cfg.eventOutboxMax.toNat)
    (KeptCapacity e.cfg.eventOutboxMax.toNat) where
  heldDurable _ kept := kept
  grantedDurable _ kept := kept
  liveHeld _ kept := kept
  underway _ kept _ := kept
  quietHeld _ _ _ outbox _ _ within _ kept := kept.within within outbox
  quietGranted _ _ _ outbox _ _ within kept := kept.within within outbox
  quietLive _ _ _ outbox _ _ within kept := kept.within within outbox
  emitHeld := capacity_emit
  emitLive := capacity_emit
  grant _ _ _ _ _ kept := kept
  persistGranted _ kept := capacity_persistExecution kept
  persistLive _ kept := capacity_persistExecution kept

/-- While events are sent, the counter that was read before is kept in mind. -/
structure SendingWithin (capacity : Nat) (outbox : FotaEventOutboxMeta) (w : World) : Prop
    extends KeptCapacity capacity w where
  readPositive : 0 < outbox.nextSequenceNo
  read : outbox.nextSequenceNo ≤ capacity + 1

/-- A record that is stored again keeps its number. -/
theorem KeptCapacity.mark (kept : KeptCapacity capacity w) {limit : Nat}
    {r r' : FotaEventOutboxRecord} (hand : AtHand limit r w.store)
    (same : r'.sequenceNo = r.sequenceNo) :
    KeptCapacity capacity (w.effect (.saved (.event r'))) := by
  obtain ⟨positive, small⟩ := kept.now.events r.sequenceNo (by rw [hand.stored]; rfl)
  exact kept.effect _ (kept.now.stored (same ▸ positive) (same ▸ small))

/-- The send loop keeps the numbers it found. -/
theorem capacitySends (outbox : FotaEventOutboxMeta) :
    SendRules e outbox.nextSequenceNo (SendingWithin e.cfg.eventOutboxMax.toNat outbox)
      (KeptCapacity e.cfg.eventOutboxMax.toNat) where
  durable _ sending := sending.toKeptCapacity
  emissions _ _ _ evt _ w sending :=
    wp_mono (capacity_emit evt w sending.toKeptCapacity)
      (fun _ _ kept => { sending with toKeptCapacity := kept }) fun _ kept => kept
  skipped w r sending hand _ :=
    { sending with toKeptCapacity := sending.toKeptCapacity.mark hand rfl }
  called w r ctx sending _ _ :=
    { sending with toKeptCapacity := sending.toKeptCapacity.effect _ sending.now }
  returned w req ctx reply sending :=
    { sending with toKeptCapacity := sending.toKeptCapacity.effect _ sending.now }
  failed w r sending hand :=
    { sending with toKeptCapacity := sending.toKeptCapacity.mark hand rfl }
  acked w r ctx resp _ sending hand := by
    have accepted : KeptCapacity e.cfg.eventOutboxMax.toNat
        ((w.effect (.returned (.reportEvent r.report ctx) (.ok resp))).accept r) :=
      ⟨sending.now.of_same rfl rfl rfl, sending.before⟩
    exact { sending with toKeptCapacity := accepted.mark hand rfl }

/-- The whole flush keeps the capacity. -/
theorem capacity_flushOutbox (kept : KeptCapacity e.cfg.eventOutboxMax.toNat w) :
    wp flushOutbox (fun _ => KeptCapacity e.cfg.eventOutboxMax.toNat)
      (KeptCapacity e.cfg.eventOutboxMax.toNat) e w := by
  apply capacityRules.flushOutbox (S := SendingWithin e.cfg.eventOutboxMax.toNat)
    (R := KeptCapacity e.cfg.eventOutboxMax.toNat)
  · exact fun w kept => { kept with readPositive := kept.now.positive, read := kept.now.counter }
  · exact capacitySends
  · exact fun _ _ sending => sending.toKeptCapacity
  · intro outbox w sending _
    exact sending.toKeptCapacity.effect _ (sending.now.counted sending.readPositive sending.read)
  · exact fun _ kept => kept
  · exact fun _ kept => capacity_persistExecution kept
  · intro w event result kept
    have within : Within [.result] w (w.effect event) := .effect event (by simp [result])
    exact kept.within within (by simp)
  · exact kept

/-- A device that started within its capacity stays there. -/
theorem capacity_run (env : Environment) {s : FotaCloudStateStore}
    (within : WithinCapacity env.cfg.eventOutboxMax.toNat s) (ops : List Operation) :
    KeptCapacity env.cfg.eventOutboxMax.toNat (run env (boot s) ops) := by
  have start : KeptCapacity env.cfg.eventOutboxMax.toNat { store := s } :=
    ⟨⟨within, Nat.one_pos, Nat.le_add_left 1 _⟩, by simp⟩
  apply capacityRules.run
  · exact fun w kept => capacity_flushOutbox kept
  · exact fun op w kept => kept.note _
  · exact fun w kept => capacity_restart (kept.note .crashed)
  · exact fun w kept => capacity_restart kept
  · exact capacity_restart start

theorem capacity_emitAll (evts : List ExecutionEvent)
    (kept : KeptCapacity e.cfg.eventOutboxMax.toNat w) :
    wp (emitAll evts) (fun _ => KeptCapacity e.cfg.eventOutboxMax.toNat)
      (KeptCapacity e.cfg.eventOutboxMax.toNat) e w := by
  apply wp_forEach evts _ w kept
  intro evt _ w kept
  rw [wp_bind]
  exact wp_mono (capacity_emit evt w kept) (fun _ _ kept => kept) fun _ kept => kept

/-- The capacity is kept in every world in which an event is emitted. -/
theorem Emitting.kept {env : Environment} {s : FotaCloudStateStore} {ops : List Operation}
    {evt : ExecutionEvent} (emitting : Emitting env s ops w evt)
    (within : WithinCapacity env.cfg.eventOutboxMax.toNat s) :
    KeptCapacity env.cfg.eventOutboxMax.toNat w := by
  cases emitting with
  -- an operation of its own: the run up to it
  | operation split => exact (capacity_run env within _).note _
  -- by a pending call: the run up to the call, and the events emitted before
  | @reentrant later past a c before after _ _ trace called goesOn emits reached =>
    have entries := (capacity_run env within ops).before
    rw [trace] at entries
    have pending : KeptCapacity env.cfg.eventOutboxMax.toNat (whilePending a past) :=
      ⟨(entries a (by simp)).of_same rfl rfl rfl, fun b member => entries b (by
        rcases List.mem_cons.mp member with rfl | old
        · simp
        · simp [old])⟩
    have emitted := capacity_emitAll before pending
    unfold wp at emitted
    rw [reached] at emitted
    exact emitted

end Runs

/-- Over every run, from any store: every event that is refused finds the outbox full exactly if
every emission comes while fewer numbers have been given out than the outbox may hold events, or
finds as many events that are not acknowledged. On a device that has always had this capacity the
latter means that none of these events was ever acknowledged. -/
theorem refuses_only_full_iff (env : Environment) (s : FotaCloudStateStore)
    (ops : List Operation) :
    ((∀ w evt, Emitting env s ops w evt → RefusesOnlyFull env w evt) ↔
      ∀ w evt, Emitting env s ops w evt → numbered w.store < env.cfg.eventOutboxMax.toNat ∨
        AwaitAck w.store env.cfg.eventOutboxMax.toNat) ∧
    (WithinCapacity env.cfg.eventOutboxMax.toNat s → ∀ w evt, Emitting env s ops w evt →
      (AwaitAck w.store env.cfg.eventOutboxMax.toNat ↔
        ∀ n, 0 < n → n ≤ env.cfg.eventOutboxMax.toNat → AwaitsAck w.store n)) := by
  constructor
  · constructor
    · exact fun law w evt emitting => refusesOnlyFull_iff.mp (law w evt emitting)
    · exact fun room w evt emitting => refusesOnlyFull_iff.mpr (room w evt emitting)
  · exact fun within w evt emitting => (emitting.kept within).now.awaitAck_iff

/-- Room for one event; the executor emits it when it is started. -/
def singleEvent : Environment :=
  { cooperative with
    cfg := { eventOutboxMax := 1 }
    emits := fun _ c =>
      match c with
      | .start _ => [{ eventId := "EV-1" }]
      | _ => [] }

/-- The event was acknowledged and the task is finished. The next one is refused. -/
theorem acknowledged_outbox_refuses :
    let ops := List.replicate 7 .step ++ [.emit { eventId := "EV-2" }]
    ∃ w, Emitting singleEvent {} ops w { eventId := "EV-2" } ∧
      (∀ n, ¬AwaitsAck w.store n) ∧ ¬RefusesOnlyFull singleEvent w { eventId := "EV-2" } := by
  intro ops
  let w := (run singleEvent (boot {}) (List.replicate 7 .step)).note
    (.began (.emit { eventId := "EV-2" }))
  have fresh : WithinCapacity singleEvent.cfg.eventOutboxMax.toNat ({} : FotaCloudStateStore) :=
    ⟨by decide, by decide, fun _ found => by cases found⟩
  have emitting : Emitting singleEvent {} ops w { eventId := "EV-2" } := .operation rfl
  -- the one event that is stored is acknowledged
  have none : ∀ n, ¬AwaitsAck w.store n := by
    intro n waiting
    obtain ⟨r, stored, unsent⟩ := waiting
    obtain ⟨positive, small⟩ := (emitting.kept fresh).now.events n (by rw [stored]; rfl)
    have one : n = 1 := Nat.le_antisymm small positive
    have acked : ¬AwaitsAck w.store 1 := by decide +kernel
    subst one
    exact acked ⟨r, stored, unsent⟩
  exact ⟨w, emitting, none, not_refusesOnlyFull (by decide) (by decide +kernel) none⟩

end CgwFota
