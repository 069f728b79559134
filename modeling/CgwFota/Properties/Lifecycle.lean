import CgwFota.Daemon.Invariants
import Mathlib.Algebra.Order.BigOperators.Group.Finset

/-!
# Start and stop

In every interleaving of the caller, the timer, the callbacks and the workers the steps of the
orchestrator come one after the other, `stop` misses no timer that is about to wait, and what has
been stopped is at rest. No thread is ever stuck, and `start` and `stop` return.

## Main definitions

* `Thread`, `Thread.acts`: what a thread does by itself.
* `FotaDaemon.helper`: the thread that the caller waits for.
* `FotaDaemon.rank`: how much there is before the caller returns.
* `AtRest`: nothing is left that could take a step.

## Main results

* `daemon_orderly`: the safety properties, and that some thread can always go on.
* `daemon_returns`: under fairness `start` and `stop` return.

## Proof strategy

The rank is lexicographic: the steps of the caller, those of the timer that was told to stop or the
messages in the queue, and the work of the workers. Every step lowers it or leaves both it and the
helper, and the helper can go on, which is what an argument by fairness needs.
-/
namespace CgwFota.Daemon

open Interleaving Transport

variable [EnvelopeWire] {cfg : SomeIpTransportConfig} {businessTrigger : Bool}
  {parse : Inventory.Bytes → Option ControlCommand} {s s' : FotaDaemon}

/-! ### Threads -/

inductive Thread where
  | caller | timer | worker (i : Nat)
  deriving DecidableEq, Repr

/-- What a thread does by itself. A call of the caller may end by an exception. -/
def Thread.acts : Thread → DaemonAction → Prop
  | .caller, .caller | .caller, .threw | .timer, .timer => True
  | .worker i, .downlink (.dequeue j) | .worker i, .downlink (.dispatch j)
  | .worker i, .downlink (.exit j) | .worker i, .lookUp j | .worker i, .handle j _ => i = j
  | _, _ => False

/-- The thread that the caller waits for. -/
def FotaDaemon.helper (s : FotaDaemon) : Thread :=
  match s.caller with
  | .passingLock => if s.timerMutex = none then .caller else .timer
  | .joiningTimer =>
    if s.timerThread = none ∨ s.timerThread = some .exited then .caller else .timer
  | .joiningWorkers =>
    match s.downlink.workers.findIdx? (· ≠ .exited) with
    | none => .caller
    | some i => .worker i
  | _ => .caller

omit [EnvelopeWire] in
/-- A timer that neither waits nor has left goes on, unless the caller has the lock. -/
theorem timer_enabled {t : Timer} (orderly : Orderly s.toControl)
    (here : s.timerThread = some t) (awake : t ≠ .waiting) (alive : t ≠ .exited)
    (apart : s.caller ∉ Caller.holds) : ∃ s', s.timerLoop = some s' := by
  -- a timer at these places needs the lock, which nobody has
  have free : t ∉ Timer.holds → s.timerMutex = none := by
    intro away
    cases mutex : s.timerMutex with
    | none => rfl
    | some owner =>
      cases owner with
      | caller => exact absurd (orderly.caller.mp mutex) apart
      | timer =>
        obtain ⟨t', holds, there⟩ := orderly.timer.mp mutex
        rw [here] at there
        cases there
        exact absurd holds away
  unfold FotaDaemon.timerLoop
  cases t with
  | waiting => exact absurd rfl awake
  | exited => exact absurd rfl alive
  | created | relocking | woken timedOut =>
    simp [here, free (by simp [Timer.holds])]
  | looping | testing | deciding =>
    simp only [here]
    split <;> exact ⟨_, rfl⟩
  | settling | unlocking | leaving | stepping => exact ⟨_, by simp only [here]; rfl⟩

omit [EnvelopeWire] in
theorem lookUp_enabled {i : Nat} {o : Offer} (hand : s.inHand i = some o)
    (fresh : s.targets i = none) : ∃ s', s.lookUp i = some s' := by
  unfold FotaDaemon.lookUp
  rw [hand, fresh]
  exact ⟨_, rfl⟩

omit [EnvelopeWire] in
theorem handle_enabled {i slot : Nat} {rest : List Nat} {o : Offer} (hand : s.inHand i = some o)
    (due : s.targets i = some (slot :: rest)) (now : Int64) :
    ∃ s', s.handle parse i now = some s' := by
  unfold FotaDaemon.handle
  rw [hand, due]
  exact ⟨_, rfl⟩

/-- A step of the transport is one of the daemon, if its message is done with. -/
theorem transport_enabled {a : DownlinkAction} {d : Downlink}
    (stepped : s.downlink.step cfg a = some d) (quiet : Quiet a)
    (done : ∀ worker, a = .dispatch worker → s.targets worker = some []) :
    ∃ s', s.transportStep cfg a = some s' := by
  unfold FotaDaemon.transportStep
  cases a with
  | receive view now | enqueue callback | dequeue worker | exit worker =>
    simp only [stepped]
    exact ⟨_, rfl⟩
  | dispatch worker =>
    simp only [stepped, done worker rfl, if_true]
    exact ⟨_, rfl⟩
  | start | refuse | drain | join | finish => exact quiet.elim

/-- A worker with a message goes on. -/
theorem busy_enabled {i : Nat} {o : Offer} (here : s.downlink.workers[i]? = some (.dispatching o)) :
    ∃ a s', (Thread.worker i).acts a ∧ s.step cfg businessTrigger parse a = some s' := by
  have hand : s.inHand i = some o := by simp [FotaDaemon.inHand, here, Worker.hand]
  -- it looks up the handlers, calls one, or is done
  cases targets : s.targets i with
  | none =>
    obtain ⟨s', moved⟩ := lookUp_enabled hand targets
    exact ⟨.lookUp i, s', rfl, moved⟩
  | some slots =>
    cases slots with
    | nil =>
      obtain ⟨d, dispatched⟩ := Downlink.dispatch_enabled here
      obtain ⟨s', moved⟩ : ∃ s', s.transportStep cfg (.dispatch i) = some s' :=
        transport_enabled dispatched trivial (by rintro worker ⟨⟩; exact targets)
      exact ⟨.downlink (.dispatch i), s', rfl, moved⟩
    | cons slot rest =>
      obtain ⟨s', moved⟩ := handle_enabled hand targets 0
      exact ⟨.handle i 0, s', rfl, moved⟩

/-- A worker that has not left takes a message, or leaves when the queue is closed. -/
theorem worker_enabled {i : Nat} {w : Worker}
    (closed : s.downlink.downlinkQueue = [] → s.downlink.queueStopping = true)
    (here : s.downlink.workers[i]? = some w) (alive : w ≠ .exited) :
    ∃ a s', (Thread.worker i).acts a ∧ s.step cfg businessTrigger parse a = some s' := by
  cases w with
  | exited => exact absurd rfl alive
  | dispatching o => exact busy_enabled here
  | waiting =>
    -- with the queue empty and closed it leaves
    by_cases queue : s.downlink.downlinkQueue = []
    · obtain ⟨d, left⟩ : ∃ d, s.downlink.exit i = some d := by
        unfold Downlink.exit
        rw [here, queue, closed queue]
        exact ⟨_, rfl⟩
      obtain ⟨s', moved⟩ : ∃ s', s.transportStep cfg (.exit i) = some s' :=
        transport_enabled left trivial (by simp)
      exact ⟨.downlink (.exit i), s', rfl, moved⟩
    -- and otherwise it takes a message
    · obtain ⟨d, taken⟩ := Downlink.dequeue_enabled here queue
      obtain ⟨s', moved⟩ : ∃ s', s.transportStep cfg (.dequeue i) = some s' :=
        transport_enabled taken trivial (by simp)
      exact ⟨.downlink (.dequeue i), s', rfl, moved⟩

omit [EnvelopeWire] in
/-- What can keep the caller from the lock is the timer. -/
theorem Orderly.timer_of_mutex (orderly : Orderly s.toControl) (apart : s.caller ∉ Caller.holds)
    (taken : s.timerMutex ≠ none) : ∃ t ∈ Timer.holds, s.timerThread = some t := by
  apply orderly.timer.mp
  cases mutex : s.timerMutex with
  | none => exact absurd mutex taken
  | some owner =>
    cases owner with
    | caller => exact absurd (orderly.caller.mp mutex) apart
    | timer => rfl

/-- The caller goes on where it does not wait. -/
theorem Kept.advance_enabled (kept : Kept cfg s) (going : s.caller ≠ .idle)
    (helps : s.helper = .caller) : ∃ s', s.advance cfg businessTrigger = some s' := by
  obtain ⟨orderly, wired, sound⟩ := kept
  have fits := orderly.fits
  have phase := wired.phase
  unfold FotaDaemon.advance
  unfold Control.Fits at fits
  unfold FotaDaemon.helper at helps
  cases place : s.caller with
  | idle => exact absurd place going
  -- these places wait for nothing
  | clearingStop | subscribing | reconciling | stepping | spawningTimer | unlockingTimer
  | settingStop | leavingLock | notifying | flushing | clearingRunning =>
    exact ⟨_, rfl⟩
  -- the transport is in the phase that its next step asks for
  | openingTransport | refusingCalls | drainingQueue | releasing =>
    simp only [place, Caller.phases, List.mem_cons, List.not_mem_nil, or_false] at phase
    simp [FotaDaemon.moveDownlink, Downlink.step, phase]
  -- `start` takes the lock before there is a timer
  | lockingTimer =>
    simp only [place] at fits
    have free : s.timerMutex = none := by
      by_contra taken
      obtain ⟨t, -, here⟩ := orderly.timer_of_mutex (by simp [place, Caller.holds]) taken
      simp [fits] at here
    simp [free]
  | replacingTimer =>
    simp only [place] at fits
    simp [fits]
  -- these places wait for the timer, and it is not waited for
  | passingLock =>
    simp only [place] at helps
    split at helps
    next free => simp [free]
    next => cases helps
  | joiningTimer =>
    simp only [place] at helps
    split at helps
    next gone => simp [gone]
    next => cases helps
  -- this one waits for the workers
  | joiningWorkers =>
    simp only [place] at helps
    split at helps
    next all =>
      rw [List.findIdx?_eq_none_iff] at all
      simp only [place, Caller.phases, List.mem_singleton] at phase
      simpa [FotaDaemon.moveDownlink, Downlink.step, phase] using all
    next => cases helps
  -- the handle that is assigned to listens to nothing
  | assigning =>
    obtain ⟨held, member, listens⟩ := wired.member
    obtain ⟨slot, returned⟩ := wired.assigned place
    have deaf : held = none := by simpa [FotaDaemon.Hears, Caller.deaf, place] using listens
    simp [Subscriptions.assign, Subscriptions.cancel, Subscriptions.move, Subscriptions.step,
      member, deaf, returned]
  | cancelling =>
    obtain ⟨held, member, -⟩ := wired.member
    simp [Subscriptions.cancel, member]

/-- The thread that the caller waits for can go on: nobody waits for ever. -/
theorem Kept.helper_enabled (kept : Kept cfg s) (going : s.caller ≠ .idle) :
    ∃ a s', s.helper.acts a ∧ s.step cfg businessTrigger parse a = some s' := by
  have fits := kept.orderly.fits
  have phase := kept.wired.phase
  unfold Control.Fits at fits
  cases helps : s.helper with
  -- the caller itself
  | caller =>
    obtain ⟨s', moved⟩ : ∃ s', s.advance cfg businessTrigger = some s' :=
      kept.advance_enabled going helps
    exact ⟨.caller, s', trivial, moved⟩
  -- the timer, which has the lock or has not left yet
  | timer =>
    have alive : s.caller ∉ Caller.holds ∧
        ∃ t, s.timerThread = some t ∧ t ≠ .waiting ∧ t ≠ .exited := by
      unfold FotaDaemon.helper at helps
      split at helps
      next place =>
        split at helps
        next => cases helps
        next taken =>
          have apart : s.caller ∉ Caller.holds := by simp [place, Caller.holds]
          obtain ⟨t, holds, here⟩ := kept.orderly.timer_of_mutex apart taken
          refine ⟨apart, t, here, ?_, ?_⟩
          all_goals
            rintro rfl
            simp [Timer.holds] at holds
      next place =>
        split at helps
        next => cases helps
        next there =>
          simp only [place] at fits
          refine ⟨by simp [place, Caller.holds], ?_⟩
          cases here : s.timerThread with
          | none => exact absurd (.inl here) there
          | some t =>
            refine ⟨t, rfl, ?_, ?_⟩
            · rintro rfl
              exact fits.2.2.2 here
            · rintro rfl
              exact there (.inr here)
      next =>
        split at helps
        next => cases helps
        next => cases helps
      next => cases helps
    obtain ⟨apart, t, here, awake, alive⟩ := alive
    obtain ⟨s', moved⟩ := timer_enabled kept.orderly here awake alive apart
    exact ⟨.timer, s', trivial, moved⟩
  -- a worker that has not left, with the queue closed
  | worker i =>
    unfold FotaDaemon.helper at helps
    split at helps
    next => split at helps <;> cases helps
    next => split at helps <;> cases helps
    next place =>
      split at helps
      next => cases helps
      next j found =>
        cases helps
        obtain ⟨bound, alive, -⟩ := List.findIdx?_eq_some_iff_getElem.mp found
        simp only [place, Caller.phases, List.mem_singleton] at phase
        exact worker_enabled (fun _ => kept.sound.manned.shut (.inl phase))
          (List.getElem?_eq_getElem bound)
          (by simpa using alive)
    next => cases helps

/-! ### What the caller waits for comes nearer -/

/-- The most steps of its own that the caller has before it. -/
def Caller.ahead : Caller → Nat
  | .idle => 0
  | .unlockingTimer | .clearingRunning => 1
  | .spawningTimer | .releasing => 2
  | .replacingTimer | .joiningWorkers => 3
  | .lockingTimer | .drainingQueue => 4
  | .stepping | .refusingCalls => 5
  | .reconciling | .cancelling => 6
  | .assigning | .flushing => 7
  | .subscribing | .joiningTimer => 8
  | .openingTransport | .notifying => 9
  | .clearingStop | .leavingLock => 10
  | .passingLock => 11
  | .settingStop => 12

/-- Where `stop` has told the timer. -/
def Caller.telling : List Caller := [.passingLock, .leavingLock, .notifying, .joiningTimer]

/-- What a worker has left to do with its message, and with itself. -/
def FotaDaemon.weight (s : FotaDaemon) (i : Nat) : Nat :=
  match s.downlink.workers[i]?, s.targets i with
  | some .waiting, _ => 1
  | some (.dispatching _), none => 4
  | some (.dispatching _), some slots => 2 + slots.length
  | some .exited, _ | none, _ => 0

def FotaDaemon.load (s : FotaDaemon) : Nat :=
  ∑ i ∈ Finset.range s.downlink.workers.length, s.weight i

/-- The steps of the caller, then those of the timer or the messages in the queue, then the work of
the workers. -/
def FotaDaemon.rank (s : FotaDaemon) : Nat × Nat × Nat :=
  (s.caller.ahead,
    if s.caller ∈ Caller.telling then (s.timerThread.map Timer.ahead).getD 0
    else if s.caller = .joiningWorkers then s.downlink.downlinkQueue.length else 0,
    if s.caller = .joiningWorkers then s.load else 0)

def Lower : Nat × Nat × Nat → Nat × Nat × Nat → Prop :=
  Prod.Lex (· < ·) (Prod.Lex (· < ·) (· < ·))

omit [EnvelopeWire] in
theorem lower_wf : WellFounded Lower :=
  Nat.lt_wfRel.wf.prod_lex (Nat.lt_wfRel.wf.prod_lex Nat.lt_wfRel.wf)

omit [EnvelopeWire] in
theorem lower_ahead (less : s'.caller.ahead < s.caller.ahead) : Lower s'.rank s.rank :=
  .left _ _ less

/-- A step of the caller leaves less before it. -/
theorem advance_ahead (moved : s.advance cfg businessTrigger = some s') :
    s'.caller.ahead < s.caller.ahead := by
  unfold FotaDaemon.advance at moved
  cases place : s.caller with
  | idle =>
    rw [place] at moved
    cases moved
  | openingTransport | refusingCalls | drainingQueue | joiningWorkers | releasing =>
    simp only [place] at moved
    obtain ⟨d, -, rfl⟩ := moveDownlink_cases moved
    simp [Caller.ahead]
  | clearingStop | subscribing | reconciling | spawningTimer | unlockingTimer
  | settingStop | leavingLock | notifying | flushing | clearingRunning =>
    simp only [place] at moved
    cases moved
    simp [Caller.ahead]
  | stepping =>
    simp only [place] at moved
    cases moved
    cases businessTrigger <;> simp [Caller.ahead]
  | lockingTimer | passingLock | replacingTimer | joiningTimer =>
    simp only [place] at moved
    obtain ⟨-, rfl⟩ := of_guarded moved
    simp [Caller.ahead]
  | assigning | cancelling =>
    simp only [place] at moved
    obtain ⟨t, -, rfl⟩ := Option.map_eq_some_iff.mp moved
    simp [Caller.ahead]

omit [EnvelopeWire] in
/-- The work of one worker becomes less. -/
theorem lower_load {i : Nat} (place : s.caller = .joiningWorkers) (same : s'.caller = s.caller)
    (queue : s'.downlink.downlinkQueue = s.downlink.downlinkQueue)
    (crew : s'.downlink.workers.length = s.downlink.workers.length)
    (others : ∀ j ≠ i, s'.weight j = s.weight j) (there : i < s.downlink.workers.length)
    (less : s'.weight i < s.weight i) : Lower s'.rank s.rank := by
  have load : s'.load < s.load := by
    unfold FotaDaemon.load
    -- one worker has less to do, the others have the same
    rw [crew]
    refine Finset.sum_lt_sum (fun j _ => ?_) ⟨i, Finset.mem_range.mpr there, less⟩
    by_cases is : j = i
    · exact is ▸ Nat.le_of_lt less
    · exact Nat.le_of_eq (others j is)
  have first : s'.rank = (s.rank.1, s.rank.2.1, s'.load) := by
    simp [FotaDaemon.rank, same, place, queue, Caller.telling]
  have third : s.rank = (s.rank.1, s.rank.2.1, s.load) := by
    simp [FotaDaemon.rank, place]
  rw [first, third]
  exact .right _ (.right _ load)

omit [EnvelopeWire] in
/-- A timer that has been told to stop comes nearer to its end. -/
theorem lower_timer {t t' : Timer} {mutex : Option Owner} (told : s.caller ∈ Caller.telling)
    (here : s.timerThread = some t) (less : t'.ahead < t.ahead) :
    Lower (FotaDaemon.rank { s with timerMutex := mutex, timerThread := some t' }) s.rank := by
  have second : s.rank = (s.caller.ahead, t.ahead, s.rank.2.2) := by
    simp [FotaDaemon.rank, told, here]
  rw [second]
  refine .right _ (?_ : Prod.Lex _ _ (_, _) _)
  simp only [told, if_true, Option.map_some, Option.getD_some]
  exact .left _ _ less

omit [EnvelopeWire] in
theorem telling_of_timer (helps : s.helper = .timer) : s.caller ∈ Caller.telling := by
  unfold FotaDaemon.helper at helps
  split at helps
  next place => simp [place, Caller.telling]
  next place => simp [place, Caller.telling]
  next => split at helps <;> cases helps
  next => cases helps

omit [EnvelopeWire] in
theorem joining_of_worker {i : Nat} (helps : s.helper = .worker i) :
    s.caller = .joiningWorkers := by
  unfold FotaDaemon.helper at helps
  split at helps
  next => split at helps <;> cases helps
  next => split at helps <;> cases helps
  next place => exact place
  next => cases helps

omit [EnvelopeWire] in
/-- Before it is told to stop, the timer does not keep the caller. -/
theorem timer_apart {thread : Option Timer} {mutex : Option Owner}
    (untold : s.caller ∉ Caller.telling) :
    FotaDaemon.rank { s with timerMutex := mutex, timerThread := thread } = s.rank ∧
      FotaDaemon.helper { s with timerMutex := mutex, timerThread := thread } = s.helper := by
  constructor
  · simp only [FotaDaemon.rank, untold, if_false]
    rfl
  · unfold FotaDaemon.helper
    cases place : s.caller <;> simp_all [Caller.telling]

omit [EnvelopeWire] in
/-- Before the caller waits for them, the workers do not keep it. -/
theorem workers_apart (place : s.caller ≠ .joiningWorkers) (same : s'.toControl = s.toControl) :
    s'.rank = s.rank ∧ s'.helper = s.helper := by
  have caller : s'.caller = s.caller := by rw [same]
  constructor
  · simp only [FotaDaemon.rank, same, place, if_false]
  · unfold FotaDaemon.helper
    rw [same]
    split <;> simp_all

omit [EnvelopeWire] in
theorem weight_eq {i : Nat} (workers : s'.downlink.workers[i]? = s.downlink.workers[i]?)
    (targets : s'.targets i = s.targets i) : s'.weight i = s.weight i := by
  simp only [FotaDaemon.weight, workers, targets]

/-- While the caller waits for the workers, everything that they do brings them nearer. -/
theorem Kept.workers_nearer (kept : Kept cfg s) (place : s.caller = .joiningWorkers)
    {a : DaemonAction} (moved : s.step cfg businessTrigger parse a = some s')
    (apart : a.OfTransport) :
    Lower s'.rank s.rank ∨ ¬s.helper.acts a ∧ s'.rank = s.rank ∧ s'.helper = s.helper := by
  have phase := kept.wired.phase
  simp only [place, Caller.phases, List.mem_singleton] at phase
  have closed := kept.sound.manned.shut (.inl phase)
  cases a with
  | start | stop | caller | threw | timer | wake => exact apart.elim
  -- one handler less to call
  | lookUp i =>
    obtain ⟨o, slots, hand, fresh, few, rfl⟩ := lookUp_cases moved
    obtain ⟨here, there⟩ := inHand_some hand
    have one := kept.wired.slots_le o.msg
    rw [← few] at one
    refine .inl (lower_load place rfl rfl rfl (fun j other => weight_eq rfl ?_) there ?_)
    · simp [other]
    · simp only [FotaDaemon.weight, here, fresh, if_true]
      omega
  -- the call is made
  | handle i now =>
    obtain ⟨o, slot, rest, hand, due, rfl⟩ := handle_cases moved
    obtain ⟨here, there⟩ := inHand_some hand
    refine .inl (lower_load place rfl rfl rfl (fun j other => weight_eq rfl ?_) there ?_)
    · simp [other]
    · simp [FotaDaemon.weight, here, due]
  | downlink a =>
    -- A callback that comes now finds the queue closed.
    have still : ∀ {d}, d.downlinkQueue = s.downlink.downlinkQueue →
        d.workers = s.downlink.workers → s' = { s with downlink := d } →
        s'.rank = s.rank ∧ s'.helper = s.helper := by
      rintro d queue crew rfl
      have load : FotaDaemon.load { s with downlink := d } = s.load := by
        unfold FotaDaemon.load
        rw [crew]
        exact Finset.sum_congr rfl fun j _ => weight_eq (by rw [crew]) rfl
      constructor
      · simp [FotaDaemon.rank, place, queue, load]
      · simp only [FotaDaemon.helper, place, crew]
    obtain ⟨quiet, d, stepped, ⟨other, rfl⟩ | ⟨i, rfl, due, rfl⟩⟩ := transportStep_cases moved
    · cases a with
      | start | refuse | drain | join | finish => exact quiet.elim
      | dispatch i => exact absurd rfl (other i)
      -- a callback that comes in now changes nothing of this
      | receive view now =>
        obtain ⟨-, rfl⟩ := of_guarded stepped
        refine .inr ⟨by cases s.helper <;> simp [Thread.acts], still ?_ ?_ rfl⟩
        all_goals
          unfold Downlink.receive
          split <;> rfl
      -- what it enqueues is too late
      | enqueue callback =>
        obtain ⟨msg, -, rfl⟩ := Option.map_eq_some_iff.mp stepped
        have late : ({ s.downlink with pending := s.downlink.pending.eraseIdx callback } :
            Downlink).enqueue cfg msg =
              { s.downlink with pending := s.downlink.pending.eraseIdx callback } := if_pos closed
        exact .inr ⟨by cases s.helper <;> simp [Thread.acts],
          still (by rw [late]) (by rw [late]) rfl⟩
      -- the queue is shorter
      | dequeue i =>
        obtain ⟨o, rest, queue, -, rfl⟩ := Downlink.dequeue_cases stepped
        left
        simp only [FotaDaemon.rank, place, queue, Caller.telling]
        exact .right _ (.left _ _ (by simp))
      -- a worker has left
      | exit i =>
        obtain ⟨-, -, here, rfl⟩ := Downlink.exit_cases stepped
        have there := (List.getElem?_eq_some_iff.mp here).1
        refine .inl (lower_load place rfl rfl (by simp) (fun j other => weight_eq ?_ rfl) there ?_)
        · exact List.getElem?_set_ne (Ne.symm other)
        · simp [FotaDaemon.weight, here, List.getElem?_set_self there]
    -- a message is dispatched
    · obtain ⟨o, here, rfl⟩ := Downlink.dispatch_cases stepped
      have there := (List.getElem?_eq_some_iff.mp here).1
      refine .inl (lower_load place rfl rfl (by simp)
        (fun j other => weight_eq ?_ ?_) there ?_)
      · exact List.getElem?_set_ne (Ne.symm other)
      · simp [other]
      · simp [FotaDaemon.weight, here, due, List.getElem?_set_self there]

/-- Every step brings the caller nearer to its end, or leaves it where it is and waiting for the
same thread. -/
theorem Kept.nearer (kept : Kept cfg s) (going : s.caller ≠ .idle) {a : DaemonAction}
    (moved : s.step cfg businessTrigger parse a = some s') :
    s'.caller = .idle ∨ Lower s'.rank s.rank ∨
      ¬s.helper.acts a ∧ s'.rank = s.rank ∧ s'.helper = s.helper := by
  have fits := kept.orderly.fits
  have told : s.caller ∈ Caller.telling → s.stopping = true := by
    unfold Control.Fits at fits
    intro telling
    simp only [Caller.telling, List.mem_cons, List.not_mem_nil, or_false] at telling
    rcases telling with place | place | place | place <;> simp only [place] at fits <;> simp [fits]
  -- what the timer does before that does not matter
  have waits : s.caller ∉ Caller.telling → ¬s.helper.acts .timer ∧
      ∀ timedOut, ¬s.helper.acts (.wake timedOut) := by
    intro untold
    cases helps : s.helper with
    | timer => exact absurd (telling_of_timer helps) untold
    | _ => simp [Thread.acts]
  -- what the workers do matters only while they are waited for
  have apart : ∀ {a : DaemonAction}, s.step cfg businessTrigger parse a = some s' →
      a.OfTransport →
      Lower s'.rank s.rank ∨ ¬s.helper.acts a ∧ s'.rank = s.rank ∧ s'.helper = s.helper := by
    intro a moved works
    by_cases place : s.caller = .joiningWorkers
    · exact kept.workers_nearer place moved works
    · refine .inr ⟨?_, workers_apart place (step_apart moved works).1⟩
      cases helps : s.helper with
      | worker i => exact absurd (joining_of_worker helps) place
      | _ => cases a <;> simp_all [Thread.acts, DaemonAction.OfTransport]
  cases a with
  | start | stop =>
    obtain ⟨idle, -⟩ := of_guarded moved
    exact absurd idle going
  | caller => exact .inr (.inl (lower_ahead (advance_ahead moved)))
  | threw =>
    obtain ⟨-, rfl⟩ := of_guarded moved
    exact .inl rfl
  | timer =>
    obtain ⟨t, t', mutex, here, rfl, nearer, -⟩ := timerLoop_cases moved
    by_cases telling : s.caller ∈ Caller.telling
    · exact .inr (.inl (lower_timer telling here (nearer (told telling)).2))
    · exact .inr (.inr ⟨(waits telling).1, timer_apart telling⟩)
  | wake timedOut =>
    obtain ⟨here, rfl⟩ := of_guarded moved
    by_cases telling : s.caller ∈ Caller.telling
    · exact .inr (.inl (lower_timer telling here (by simp [Timer.ahead])))
    · exact .inr (.inr ⟨(waits telling).2 timedOut, timer_apart telling⟩)
  | downlink a => exact .inr (apart moved trivial)
  | lookUp i => exact .inr (apart moved trivial)
  | handle i now => exact .inr (apart moved trivial)

/-! ### The daemon as a whole -/

/-- At rest: nothing is left that could take a step of the orchestrator or hand it a command. -/
structure AtRest (s : FotaDaemon) : Prop where
  timer : s.timerThread = none
  mutex : s.timerMutex = none
  workers : s.downlink.workers = []
  queue : s.downlink.downlinkQueue = []
  subscribed : s.downlink.subscribed = false
  handlers : ∀ slot, ¬s.subscriptions.Held slot

/-- At rest no thread can do anything. -/
theorem AtRest.still (rest : AtRest s) (idle : s.caller = .idle) {k : Thread} {a : DaemonAction}
    (acts : k.acts a) : s.step cfg businessTrigger parse a = none := by
  have nobody : ∀ i : Nat, s.downlink.workers[i]? = none := by simp [rest.workers]
  have idler : ∀ i : Nat, s.inHand i = none := fun i => by simp [FotaDaemon.inHand, nobody]
  -- each step is ruled out by something that is not there
  cases a with
  | start | stop | wake timedOut => cases k <;> exact acts.elim
  | caller =>
    show s.advance cfg businessTrigger = none
    simp only [FotaDaemon.advance, idle]
  | threw => exact if_neg (by simp [idle, Caller.throws])
  | timer =>
    show s.timerLoop = none
    simp only [FotaDaemon.timerLoop, rest.timer]
  | lookUp i =>
    show s.lookUp i = none
    simp only [FotaDaemon.lookUp, idler]
  | handle i now =>
    show s.handle parse i now = none
    simp only [FotaDaemon.handle, idler]
  | downlink a =>
    show s.transportStep cfg a = none
    cases a with
    | receive view now | enqueue i | start | refuse | drain | join | finish =>
      cases k <;> exact acts.elim
    | dequeue i | dispatch i | exit i =>
      simp [FotaDaemon.transportStep, Downlink.step, Downlink.dequeue, Downlink.dispatch,
        Downlink.exit, nobody]

omit [EnvelopeWire] in
/-- A daemon that was stopped, or never started, is at rest. -/
theorem Kept.atRest (some_worker : 1 ≤ cfg.downlinkWorkers) (kept : Kept cfg s)
    (place : s.caller = .idle) (down : s.running = false) : AtRest s := by
  have phase := kept.wired.phase
  have stopped := kept.wired.down place down
  have fits := kept.orderly.fits
  unfold Control.Fits at fits
  simp only [place, down, Bool.false_eq_true, if_false] at fits
  simp only [place, Caller.phases, List.mem_cons, List.not_mem_nil, or_false] at phase
  have ended : s.downlink.phase = .created ∨ s.downlink.phase = .stopped := by tauto
  have nobody := kept.sound.manned.idle (by tauto)
  obtain ⟨held, member, listens⟩ := kept.wired.member
  have deaf : held = none := by simpa [FotaDaemon.Hears, stopped] using listens
  refine ⟨fits, ?_, nobody, ?_, kept.wired.closed (by simpa using ended), ?_⟩
  · by_contra taken
    obtain ⟨t, -, here⟩ := kept.orderly.timer_of_mutex (by simp [place, Caller.holds]) taken
    simp [fits] at here
  -- no crew, so nothing is in the queue
  · rcases kept.sound.manned.crew with crew | ⟨-, nothing, -⟩
    · rw [nobody] at crew
      simp at crew
      omega
    · exact nothing
  -- no handle is left that listens
  · rintro slot ⟨⟨⟩, holds⟩
    · simp [member, deaf] at holds
    · simp [kept.wired.returned (by simp [place])] at holds

/-- In every interleaving: no step of the timer begins while `start` works on the state of the
orchestrator, `start` never waits for a timer, `stop` misses no timer that is about to wait and lets
none go for another step, and after it nothing moves. In between some thread can always go on, and
it is the one that the caller waits for. -/
theorem daemon_orderly (some_worker : 1 ≤ cfg.downlinkWorkers)
    (reach : Reach (FotaDaemon.step cfg businessTrigger parse) (fun _ _ => True) {} s) :
    (s.caller = .reconciling ∨ s.caller = .stepping → s.timerThread = none) ∧
      (s.caller = .lockingTimer → s.timerMutex = none) ∧
      (s.caller = .replacingTimer → s.timerThread = none) ∧
      (s.caller = .joiningTimer → s.timerThread ≠ some .settling ∧
        s.timerThread ≠ some .waiting ∧ s.timerThread ≠ some .unlocking) ∧
      (s.caller = .idle → s.running = false → AtRest s ∧ ∀ k : Thread, ∀ a, k.acts a →
        s.step cfg businessTrigger parse a = none) ∧
      (s.caller ≠ .idle →
        ∃ a s', s.helper.acts a ∧ s.step cfg businessTrigger parse a = some s') := by
  have kept := Kept.reach some_worker reach
  have fits := kept.orderly.fits
  unfold Control.Fits at fits
  refine ⟨?_, ?_, ?_, ?_, ?_, kept.helper_enabled⟩
  · rintro (place | place) <;> simp only [place] at fits <;> exact fits.2.2
  -- with the lock taken there would be a timer
  · intro place
    simp only [place] at fits
    by_contra taken
    obtain ⟨t, -, here⟩ := kept.orderly.timer_of_mutex (by simp [place, Caller.holds]) taken
    simp [fits] at here
  · intro place
    simp only [place] at fits
    exact fits.2.2
  · intro place
    simp only [place, Control.Warned] at fits
    exact ⟨fits.2.2.1.1, fits.2.2.2, fits.2.2.1.2⟩
  · intro place down
    have rest := kept.atRest some_worker place down
    exact ⟨rest, fun _ _ acts => rest.still place acts⟩

/-- A `start`, the first wait of the timer, and a `stop` that wakes it. -/
def startAndStop : List DaemonAction :=
  .start :: List.replicate 10 .caller ++ List.replicate 4 .timer ++
    .stop :: List.replicate 4 .caller ++ List.replicate 4 .timer ++ List.replicate 5 .caller ++
      .downlink (.exit 0) :: List.replicate 3 .caller

omit [EnvelopeWire] in
/-- The daemon that was stopped is at rest. -/
theorem daemon_orderly_stopped :
    ∃ s, Reach (@FotaDaemon.step Downlink.controlWire {} true fun _ => none) (fun _ _ => True) {}
      s ∧ s.stopping = true ∧ AtRest s := by
  have ends : ((walk (@FotaDaemon.step Downlink.controlWire {} true fun _ => none) {}
      startAndStop).any fun s =>
        s.caller = .idle ∧ s.running = false ∧ s.stopping = true) = true := by decide +kernel
  obtain ⟨s, walked, holds⟩ := (Option.any_eq_true _ _).mp ends
  obtain ⟨idle, down, stopping⟩ := of_decide_eq_true holds
  have reach : Reach (@FotaDaemon.step Downlink.controlWire {} true fun _ => none)
      (fun _ _ => True) {} s := Reach.walk .start (fun _ _ _ => trivial) walked
  have orderly := @daemon_orderly Downlink.controlWire {} true _ s (by decide) reach
  exact ⟨s, reach, stopping, (orderly.2.2.2.2.1 idle down).1⟩

/-- Where every thread that can go on does so in the end, and with it the calls that it makes,
`start` and `stop` return. -/
theorem daemon_returns (some_worker : 1 ≤ cfg.downlinkWorkers)
    (run : Run (FotaDaemon.step cfg businessTrigger parse) {})
    (fair : ∀ k : Thread, run.FairTo k.acts) (n : Nat) :
    ∃ m ≥ n, (run.state m).caller = .idle := by
  have kept : ∀ m, Kept cfg (run.state m) := fun m => Kept.reach some_worker (run.reach m)
  exact Run.reaches lower_wf (·.caller = .idle) FotaDaemon.rank Thread.acts FotaDaemon.helper fair
    (fun m going => (kept m).helper_enabled going)
    (fun m a going taken => (kept m).nearer going (run.moved m a taken)) n

omit [EnvelopeWire] in
/-- It waits for the timer once, and returns. -/
theorem daemon_returns_stopped :
    ∃ run : Run (@FotaDaemon.step Downlink.controlWire {} true fun _ => none) {},
      (∃ n, (run.state n).caller = .joiningTimer) ∧ ∀ n, ∃ m ≥ n, (run.state m).caller = .idle := by
  have ends : ((walk (@FotaDaemon.step Downlink.controlWire {} true fun _ => none) {}
      startAndStop).any fun s => s.caller = .idle ∧ s.running = false) = true := by
    decide +kernel
  obtain ⟨s, walked, holds⟩ := (Option.any_eq_true _ _).mp ends
  obtain ⟨idle, down⟩ := of_decide_eq_true holds
  have reach : Reach (@FotaDaemon.step Downlink.controlWire {} true fun _ => none)
      (fun _ _ => True) {} s := Reach.walk .start (fun _ _ _ => trivial) walked
  have kept := @Kept.reach Downlink.controlWire {} true _ s (by decide) reach
  have rest := kept.atRest (by decide) idle down
  refine ⟨Run.through startAndStop s walked, ⟨20, ?_⟩, fun n => ?_⟩
  · have waits : ((walk (@FotaDaemon.step Downlink.controlWire {} true fun _ => none) {}
        (startAndStop.take 20)).any fun s => s.caller = .joiningTimer) = true := by decide +kernel
    obtain ⟨mid, walked, place⟩ := (Option.any_eq_true _ _).mp waits
    show ((walk _ {} (startAndStop.take 20)).getD s).caller = .joiningTimer
    rw [walked]
    exact of_decide_eq_true place
  · exact @daemon_returns Downlink.controlWire {} true _ (by decide) _
      (fun k => Run.through_fair walked fun a acts =>
        @AtRest.still Downlink.controlWire {} true _ s rest idle k a acts) n

end CgwFota.Daemon
