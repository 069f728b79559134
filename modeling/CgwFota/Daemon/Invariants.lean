import CgwFota.Daemon.FotaDaemon
import CgwFota.Properties.Downlink
import CgwFota.Properties.Subscription

/-!
# What the daemon keeps

The flags, the lock, the timer, the transport and the subscription are as the place of the caller
says, in every interleaving.

## Main definitions

* `Control.Fits`: how the flags and the timer are where the caller is
* `Orderly`: the lock is with the one who is where it is held
* `Wired`: the transport and the subscription are as far as the caller is
* `Kept`: all of it, with the soundness of the queue

## Main results

* `Kept.step`, `Kept.reach`: one step keeps it, and so it holds wherever a run leads
* `Wired.slots_le`: a worker calls one handler at most for a message

## Proof strategy

The caller's steps are gone through once for the lock and once for the transport, grouped by what
they do there. A step of the timer is described by `timerLoop_cases`, and the steps of the
transport's threads by one lemma each; all of them leave the other parties' part alone.
-/
namespace CgwFota.Daemon

open Interleaving Transport

/-! ### The lock and the timer -/

/-- Where the timer has the lock. -/
def Timer.holds : List Timer := [.looping, .testing, .settling, .deciding, .unlocking, .leaving]

/-- The most steps to the end for a timer that has been told to stop. -/
def Timer.ahead : Timer → Nat
  | .exited => 0
  | .leaving => 1
  | .looping | .deciding => 2
  | .testing | .created | .relocking => 3
  | .woken _ | .stepping => 4
  | .waiting | .unlocking => 5
  | .settling => 6

/-- Where the caller has it. -/
def Caller.holds : List Caller := [.replacingTimer, .spawningTimer, .unlockingTimer, .leavingLock]

/-- The timer neither waits for a notification that has been given nor goes for another step. -/
def Control.Warned (c : Control) : Prop :=
  c.timerThread ≠ some .settling ∧ c.timerThread ≠ some .unlocking

/-- How the flags and the timer are where the caller is. -/
def Control.Fits (c : Control) : Prop :=
  match c.caller with
  | .idle => if c.running then c.stopping = false else c.timerThread = none
  | .clearingStop => c.running = true ∧ c.timerThread = none
  | .openingTransport | .subscribing | .assigning | .reconciling | .stepping | .lockingTimer
  | .replacingTimer | .spawningTimer =>
    c.running = true ∧ c.stopping = false ∧ c.timerThread = none
  | .unlockingTimer => c.running = true ∧ c.stopping = false
  | .settingStop => c.running = false ∧ c.stopping = false
  | .passingLock => c.running = false ∧ c.stopping = true
  | .leavingLock | .notifying => c.running = false ∧ c.stopping = true ∧ c.Warned
  | .joiningTimer =>
    c.running = false ∧ c.stopping = true ∧ c.Warned ∧ c.timerThread ≠ some .waiting
  | .flushing | .cancelling | .refusingCalls | .drainingQueue | .joiningWorkers | .releasing
  | .clearingRunning => c.running = false ∧ c.stopping = true ∧ c.timerThread = none

/-- The lock belongs to the one who is where it is held. -/
structure Orderly (c : Control) : Prop where
  fits : c.Fits
  caller : c.timerMutex = some .caller ↔ c.caller ∈ Caller.holds
  timer : c.timerMutex = some .timer ↔ ∃ t ∈ Timer.holds, c.timerThread = some t

variable {c c' : Control}

/-- Who neither takes the lock nor gives it back leaves it in order. -/
theorem Orderly.moved (orderly : Orderly c) (fits : c'.Fits)
    (mutex : c'.timerMutex = c.timerMutex)
    (caller : c'.caller ∈ Caller.holds ↔ c.caller ∈ Caller.holds)
    (timer : (∃ t ∈ Timer.holds, c'.timerThread = some t) ↔
      ∃ t ∈ Timer.holds, c.timerThread = some t) : Orderly c' := by
  refine ⟨fits, ?_, ?_⟩
  · rw [mutex, caller]
    exact orderly.caller
  · rw [mutex, timer]
    exact orderly.timer

/-- The lock is with the caller, and the timer is where it has not got it. -/
theorem Orderly.locked (fits : c.Fits) (mutex : c.timerMutex = some .caller)
    (caller : c.caller ∈ Caller.holds) (timer : ∀ t ∈ Timer.holds, c.timerThread ≠ some t) :
    Orderly c := by
  refine ⟨fits, ⟨fun _ => caller, fun _ => mutex⟩, ⟨fun other => ?_, ?_⟩⟩
  · rw [mutex] at other
    cases other
  · rintro ⟨t, holds, here⟩
    exact absurd here (timer t holds)

/-- Nobody has the lock. -/
theorem Orderly.unlocked (fits : c.Fits) (mutex : c.timerMutex = none)
    (caller : c.caller ∉ Caller.holds) (timer : ∀ t ∈ Timer.holds, c.timerThread ≠ some t) :
    Orderly c := by
  refine ⟨fits, ⟨fun other => ?_, fun holds => absurd holds caller⟩, ⟨fun other => ?_, ?_⟩⟩
  · rw [mutex] at other
    cases other
  · rw [mutex] at other
    cases other
  · rintro ⟨t, holds, here⟩
    exact absurd here (timer t holds)

/-- Where the timer has not got the lock. -/
theorem Orderly.away (orderly : Orderly c) (mutex : c.timerMutex ≠ some .timer) :
    ∀ t ∈ Timer.holds, c.timerThread ≠ some t :=
  fun t holds here => mutex (orderly.timer.mpr ⟨t, holds, here⟩)

/-- A step of the timer. It goes for a wait or for another step only while it has not been told to
stop. -/
theorem Control.Fits.retime {t t' : Timer} (fits : c.Fits) (here : c.timerThread = some t)
    (told : c.stopping = true → t' ≠ .settling ∧ t' ≠ .unlocking)
    (waits : t' = .waiting → t = .settling) (mutex : Option Owner) :
    Control.Fits { c with timerMutex := mutex, timerThread := some t' } := by
  unfold Control.Fits at *
  cases place : c.caller <;> simp_all [Control.Warned]

/-- The timer takes the lock that nobody has. -/
theorem Orderly.taken {t : Timer} (orderly : Orderly c) (free : c.timerMutex = none)
    (fits : Control.Fits { c with timerMutex := some .timer, timerThread := some t })
    (holds : t ∈ Timer.holds) :
    Orderly { c with timerMutex := some .timer, timerThread := some t } := by
  -- the lock was free, so the caller is not where it is held
  refine ⟨fits, ⟨fun other => (by cases other), fun held => ?_⟩,
    ⟨fun _ => ⟨t, holds, rfl⟩, fun _ => rfl⟩⟩
  have mutex := orderly.caller.mpr held
  rw [free] at mutex
  cases mutex

/-- The timer has the lock, and gives it back or keeps it. -/
theorem Orderly.timer_mutex {t : Timer} (orderly : Orderly c) (here : c.timerThread = some t)
    (holds : t ∈ Timer.holds) : c.timerMutex = some .timer ∧ c.caller ∉ Caller.holds := by
  have mutex := orderly.timer.mpr ⟨t, holds, here⟩
  refine ⟨mutex, fun held => ?_⟩
  rw [orderly.caller.mpr held] at mutex
  cases mutex

variable [EnvelopeWire] {cfg : SomeIpTransportConfig} {businessTrigger : Bool}
  {parse : Inventory.Bytes → Option ControlCommand} {s s' : FotaDaemon}

/-- A step of the transport that the caller takes moves the transport and the caller. -/
theorem moveDownlink_cases {a : DownlinkAction} {next : Caller}
    (moved : s.moveDownlink cfg a next = some s') :
    ∃ d, s.downlink.step cfg a = some d ∧ s' = { s with downlink := d, caller := next } := by
  obtain ⟨d, stepped, rfl⟩ := Option.map_eq_some_iff.mp moved
  exact ⟨d, stepped, rfl⟩

/-- A step of the caller keeps the lock and the timer in order. -/
theorem Orderly.advance (orderly : Orderly s.toControl)
    (moved : s.advance cfg businessTrigger = some s') : Orderly s'.toControl := by
  have fits := orderly.fits
  unfold Control.Fits at fits
  unfold FotaDaemon.advance at moved
  cases place : s.caller with
  | idle =>
    rw [place] at moved
    cases moved
  -- steps that touch neither the lock nor the timer
  | clearingStop | subscribing | reconciling | settingStop | flushing | clearingRunning =>
    simp only [place] at moved fits
    cases moved
    exact orderly.moved (by simp_all [Control.Fits]) rfl (by simp [place, Caller.holds]) .rfl
  | openingTransport | refusingCalls | drainingQueue | joiningWorkers | releasing =>
    simp only [place] at moved fits
    obtain ⟨d, -, rfl⟩ := moveDownlink_cases moved
    exact orderly.moved (by simp_all [Control.Fits]) rfl (by simp [place, Caller.holds]) .rfl
  | assigning | cancelling =>
    simp only [place] at moved fits
    obtain ⟨t, -, rfl⟩ := Option.map_eq_some_iff.mp moved
    exact orderly.moved (by simp_all [Control.Fits]) rfl (by simp [place, Caller.holds]) .rfl
  | stepping =>
    simp only [place] at moved fits
    cases moved
    cases businessTrigger <;>
      exact orderly.moved (by simp_all [Control.Fits]) rfl (by simp [place, Caller.holds]) .rfl
  -- the lock was free, so the timer is where it has not got it
  | lockingTimer | passingLock =>
    simp only [place] at moved fits
    obtain ⟨free, rfl⟩ := of_guarded moved
    have away := orderly.away (by simp [free])
    refine .locked ?_ rfl (by simp [Caller.holds]) away
    simp_all [Control.Fits, Control.Warned, Timer.holds]
  | replacingTimer =>
    simp only [place] at moved fits
    obtain ⟨-, rfl⟩ := of_guarded moved
    have mutex := orderly.caller.mpr (by simp [place, Caller.holds])
    exact .locked (by simp_all [Control.Fits]) mutex (by simp [Caller.holds]) (by simp)
  | spawningTimer =>
    simp only [place] at moved fits
    cases moved
    have mutex := orderly.caller.mpr (by simp [place, Caller.holds])
    exact .locked (by simp_all [Control.Fits]) mutex (by simp [Caller.holds])
      (by simp [Timer.holds])
  -- the lock is given back
  | unlockingTimer | leavingLock =>
    simp only [place] at moved fits
    cases moved
    have mutex := orderly.caller.mpr (by simp [place, Caller.holds])
    have away := orderly.away (by simp [mutex])
    exact .unlocked (by simp_all [Control.Fits, Control.Warned]) rfl (by simp [Caller.holds]) away
  -- a notification takes the timer out of its wait
  | notifying =>
    simp only [place] at moved fits
    cases moved
    refine orderly.moved ?_ rfl (by simp [place, Caller.holds]) ?_
    · obtain ⟨down, stopping, warned⟩ := fits
      by_cases waits : s.timerThread = some .waiting <;> simp_all [Control.Fits, Control.Warned]
    · by_cases waits : s.timerThread = some .waiting <;> simp [waits, Timer.holds]
  | joiningTimer =>
    simp only [place] at moved fits
    obtain ⟨gone, rfl⟩ := of_guarded moved
    refine orderly.moved (by simp_all [Control.Fits]) rfl (by simp [place, Caller.holds]) ?_
    rcases gone with gone | gone <;> simp [gone, Timer.holds]

omit [EnvelopeWire] in
/-- What a step of the timer does: it takes the lock, keeps what it has, or gives the lock back.
When it has been told to stop it comes nearer to its end. -/
theorem timerLoop_cases (moved : s.timerLoop = some s') :
    ∃ t t' mutex, s.timerThread = some t ∧
      s' = { s with timerMutex := mutex, timerThread := some t' } ∧
      (s.stopping = true → (t' ≠ .settling ∧ t' ≠ .unlocking) ∧ t'.ahead < t.ahead) ∧
      (t' = .waiting → t = .settling) ∧
      (s.timerMutex = none ∧ mutex = some .timer ∧ t' ∈ Timer.holds ∨
        mutex = s.timerMutex ∧ (t' ∈ Timer.holds ↔ t ∈ Timer.holds) ∨
        t ∈ Timer.holds ∧ mutex = none ∧ t' ∉ Timer.holds) := by
  unfold FotaDaemon.timerLoop at moved
  cases here : s.timerThread with
  | none =>
    rw [here] at moved
    cases moved
  | some t =>
    cases t with
    | waiting | exited =>
      rw [here] at moved
      cases moved
    | created | relocking =>
      simp only [here] at moved
      obtain ⟨free, rfl⟩ := of_guarded moved
      exact ⟨_, _, _, rfl, rfl, by simp [Timer.ahead], by simp, by simp [free, Timer.holds]⟩
    | woken timedOut =>
      simp only [here] at moved
      obtain ⟨free, rfl⟩ := of_guarded moved
      refine ⟨_, _, _, rfl, rfl, ?_, ?_, ?_⟩ <;>
        cases timedOut <;> simp [free, Timer.holds, Timer.ahead]
    | looping | testing | deciding =>
      simp only [here] at moved
      split at moved
      next told =>
        cases moved
        exact ⟨_, _, _, rfl, rfl, by simp [Timer.ahead], by simp, by simp [Timer.holds]⟩
      next going =>
        cases moved
        exact ⟨_, _, _, rfl, rfl, by simp [going], by simp, by simp [Timer.holds]⟩
    | settling | unlocking | leaving =>
      simp only [here] at moved
      cases moved
      exact ⟨_, _, _, rfl, rfl, by simp [Timer.ahead], by simp, by simp [Timer.holds]⟩
    | stepping =>
      simp only [here] at moved
      cases moved
      exact ⟨_, _, _, rfl, rfl, by simp [Timer.ahead], by simp, by simp [Timer.holds]⟩

omit [EnvelopeWire] in
/-- A step of the timer keeps the lock and the flags in order. -/
theorem Orderly.timerLoop (orderly : Orderly s.toControl) (moved : s.timerLoop = some s') :
    Orderly s'.toControl := by
  obtain ⟨t, t', mutex, here, rfl, told, waits, locks⟩ := timerLoop_cases moved
  have fits := orderly.fits.retime here (fun stopping => (told stopping).1) waits mutex
  -- it takes the lock, keeps what it has, or gives the lock back
  rcases locks with ⟨free, rfl, holds⟩ | ⟨rfl, same⟩ | ⟨held, rfl, away⟩
  · exact orderly.taken free fits holds
  · refine orderly.moved fits rfl .rfl ?_
    simpa [here] using same
  · obtain ⟨-, apart⟩ := orderly.timer_mutex here held
    refine .unlocked fits rfl apart fun t holds => ?_
    rintro ⟨⟩
    exact away holds

/-! ### The transport and the subscription -/

/-- How far the transport is where the caller is. -/
def Caller.phases : Caller → List Lifecycle
  | .idle | .settingStop | .passingLock | .leavingLock | .notifying | .joiningTimer | .flushing
  | .cancelling | .refusingCalls => [.created, .running, .stopped]
  | .clearingStop | .openingTransport => [.created, .stopped]
  | .subscribing | .assigning | .reconciling | .stepping | .lockingTimer | .replacingTimer
  | .spawningTimer | .unlockingTimer => [.running]
  | .drainingQueue => [.refusing]
  | .joiningWorkers => [.draining]
  | .releasing => [.joined]
  | .clearingRunning => [.stopped]

/-- On the way in and out the transport runs and the member holds no subscription. -/
def Caller.deaf : List Caller := [.subscribing, .assigning, .refusingCalls]

def FotaDaemon.Hears (s : FotaDaemon) : Prop :=
  s.downlink.phase = .running ∧ s.caller ∉ Caller.deaf

structure Wired (s : FotaDaemon) : Prop where
  phase : s.downlink.phase ∈ s.caller.phases
  down : s.caller = .idle → s.running = false → s.downlink.phase ≠ .running
  closed : s.downlink.phase ∈ [.created, .stopped] → s.downlink.subscribed = false
  member : ∃ held, s.subscriptions.handles .downlinkSub = some held ∧ (held.isSome ↔ s.Hears)
  returned : s.caller ≠ .assigning → s.subscriptions.handles .returned = none
  assigned : s.caller = .assigning → ∃ slot, s.subscriptions.handles .returned = some (some slot)
  owned : s.subscriptions.Owned

omit [EnvelopeWire] in
/-- Who leaves the subscriptions alone stays on one side of them. -/
theorem Wired.onward (wired : Wired s) (same : s'.subscriptions = s.subscriptions)
    (phase : s'.downlink.phase ∈ s'.caller.phases)
    (down : s'.caller = .idle → s'.running = false → s'.downlink.phase ≠ .running)
    (closed : s'.downlink.phase ∈ [.created, .stopped] → s'.downlink.subscribed = false)
    (hears : s'.Hears ↔ s.Hears) (before : s.caller ≠ .assigning)
    (after : s'.caller ≠ .assigning) : Wired s' := by
  refine ⟨phase, down, closed, ?_, fun _ => ?_, fun there => absurd there after, ?_⟩
  · rw [same, hears]
    exact wired.member
  · rw [same]
    exact wired.returned before
  · rw [same]
    exact wired.owned

omit [EnvelopeWire] in
theorem Wired.frame (wired : Wired s) (caller : s'.caller = s.caller)
    (running : s'.running = s.running) (same : s'.subscriptions = s.subscriptions)
    (phase : s'.downlink.phase = s.downlink.phase)
    (subscribed : s'.downlink.subscribed = s.downlink.subscribed) : Wired s' := by
  obtain ⟨opened, down, closed, member, returned, assigned, owned⟩ := wired
  constructor
  all_goals simp only [FotaDaemon.Hears, caller, running, same, phase, subscribed] at *
  all_goals assumption

omit [EnvelopeWire] in
/-- A handle without an action is assigned to at no cost, and the other one is gone. -/
theorem assign_returned {subs next : Subscriptions Handle Unit} {held : Option Nat}
    (owned : subs.Owned) (member : subs.handles .downlinkSub = some none)
    (returned : subs.handles .returned = some held)
    (moved : ((subs.assign .downlinkSub .returned).bind fun t => t.step (.destroy .returned)) =
      some next) :
    next.Owned ∧ next.handles .downlinkSub = some held ∧ next.handles .returned = none := by
  obtain ⟨mid, assigned, destroyed⟩ := Option.bind_eq_some_iff.mp moved
  have owned := Subscriptions.Owned.step owned (a := .moveAssign .downlinkSub .returned) assigned
  refine ⟨(owned.1.step destroyed).1, ?_⟩
  simp only [Subscriptions.assign, Subscriptions.cancel, Subscriptions.move, member, returned,
    reduceCtorEq, if_false, Option.map_some, Option.bind_some, Option.some.injEq] at assigned
  subst assigned
  simp only [Subscriptions.step, Subscriptions.cancel, Subscriptions.handles_setHandle, if_true,
    Option.map_some, Option.some.injEq] at destroyed
  subst destroyed
  simp

/-- A step of the caller keeps the transport and the subscription in order. -/
theorem Wired.advance (wired : Wired s) (orderly : Orderly s.toControl)
    (moved : s.advance cfg businessTrigger = some s') : Wired s' := by
  have up := orderly.fits
  have phase := wired.phase
  unfold Control.Fits at up
  unfold FotaDaemon.advance at moved
  cases place : s.caller with
  | idle =>
    rw [place] at moved
    cases moved
  | clearingStop | reconciling | settingStop | flushing | spawningTimer | unlockingTimer
  -- steps that leave the transport and the subscription alone
  | leavingLock | notifying | clearingRunning =>
    simp only [place] at moved phase up
    cases moved
    exact wired.onward rfl (by simp_all [Caller.phases]) (by simp_all [Caller.phases])
      wired.closed (by simp_all [FotaDaemon.Hears, Caller.deaf]) (by simp [place]) (by simp)
  | stepping =>
    simp only [place] at moved phase up
    cases moved
    cases businessTrigger <;>
      exact wired.onward rfl (by simp_all [Caller.phases]) (by simp_all [Caller.phases])
        wired.closed (by simp_all [FotaDaemon.Hears, Caller.deaf]) (by simp [place]) (by simp)
  | lockingTimer | passingLock | replacingTimer | joiningTimer =>
    simp only [place] at moved phase up
    obtain ⟨-, rfl⟩ := of_guarded moved
    exact wired.onward rfl (by simp_all [Caller.phases]) (by simp_all [Caller.phases])
      wired.closed (by simp_all [FotaDaemon.Hears, Caller.deaf]) (by simp [place]) (by simp)
  -- steps of the transport, on the way in or out
  | openingTransport | refusingCalls | drainingQueue | joiningWorkers | releasing =>
    simp only [place] at moved phase up
    obtain ⟨d, stepped, rfl⟩ := moveDownlink_cases moved
    obtain ⟨-, rfl⟩ := of_guarded stepped
    have apart : ¬s.Hears := by
      rintro ⟨runs, loud⟩
      simp [Caller.phases, Caller.deaf, runs, place] at phase loud
    exact wired.onward rfl (by simp [Caller.phases]) (by simp) (by simp)
      (iff_of_false (by simp [FotaDaemon.Hears, Caller.deaf]) apart) (by simp [place]) (by simp)
  -- the new subscription is in the returned handle
  | subscribing =>
    simp only [place] at moved phase
    cases moved
    obtain ⟨held, member, listens⟩ := wired.member
    have dead := wired.returned (by simp [place])
    refine ⟨by simpa [Caller.phases] using phase, by simp, wired.closed, ⟨held, ?_, ?_⟩, by simp,
      fun _ => ⟨s.subscriptions.handlers.length, by simp [Subscriptions.subscribe]⟩,
      (wired.owned.subscribe dead _ _).1⟩
    · exact member
    · simpa [FotaDaemon.Hears, Caller.deaf, place] using listens
  -- the member takes it over, and the returned handle is gone
  | assigning =>
    simp only [place] at moved phase
    obtain ⟨subs, assigned, rfl⟩ := Option.map_eq_some_iff.mp moved
    obtain ⟨held, member, listens⟩ := wired.member
    obtain ⟨slot, returned⟩ := wired.assigned place
    have deaf : held = none := by simpa [FotaDaemon.Hears, Caller.deaf, place] using listens
    obtain ⟨owned, member, returned⟩ :=
      assign_returned wired.owned (deaf ▸ member) returned assigned
    refine ⟨by simpa [Caller.phases] using phase, by simp, wired.closed, ⟨_, member, ?_⟩,
      fun _ => returned, by simp, owned⟩
    simpa [FotaDaemon.Hears, Caller.deaf, Caller.phases] using phase
  -- the member gives its subscription up
  | cancelling =>
    simp only [place] at moved phase
    obtain ⟨subs, cancelled, rfl⟩ := Option.map_eq_some_iff.mp moved
    obtain ⟨owned, -, member, others⟩ := wired.owned.cancel cancelled
    refine ⟨by simpa [Caller.phases] using phase, by simp, wired.closed, ⟨_, member, ?_⟩,
      fun _ => ?_, by simp, owned⟩
    · simp [FotaDaemon.Hears, Caller.deaf]
    · exact (others .returned (by simp)).trans (wired.returned (by simp [place]))

omit [EnvelopeWire] in
/-- One handle at most holds a subscription. -/
theorem Wired.held_unique (wired : Wired s) {slot slot' : Nat} (held : s.subscriptions.Held slot)
    (held' : s.subscriptions.Held slot') : slot = slot' := by
  obtain ⟨member, there, listens⟩ := wired.member
  by_cases place : s.caller = .assigning
  · -- The member holds none while the returned handle does.
    have deaf : member = none := by simpa [FotaDaemon.Hears, Caller.deaf, place] using listens
    obtain ⟨⟨⟩, holds⟩ := held
    · simp [there, deaf] at holds
    · obtain ⟨⟨⟩, holds'⟩ := held'
      · simp [there, deaf] at holds'
      · simpa [holds] using holds'
  · have gone := wired.returned place
    obtain ⟨⟨⟩, holds⟩ := held
    · obtain ⟨⟨⟩, holds'⟩ := held'
      · simpa [holds] using holds'
      · simp [gone] at holds'
    · simp [gone] at holds

omit [EnvelopeWire] in
/-- A worker calls one handler at most for a message. -/
theorem Wired.slots_le (wired : Wired s) (msg : VehicleMessage) :
    ((s.subscriptions.dispatchToHandlers msg).map Prod.fst).length ≤ 1 := by
  obtain ⟨once, exact⟩ := wired.owned.delivers msg
  have held : ∀ slot ∈ (s.subscriptions.dispatchToHandlers msg).map Prod.fst,
      s.subscriptions.Held slot := by
    intro slot member
    obtain ⟨⟨slot', f⟩, called, rfl⟩ := List.mem_map.mp member
    exact ((exact slot' f).mp called).elim fun e found => found.2.2.2
  match slots : (s.subscriptions.dispatchToHandlers msg).map Prod.fst with
  | [] => simp
  | [slot] => simp
  -- two handlers would be held by two handles
  | slot :: slot' :: rest =>
    rw [slots] at once held
    have same := wired.held_unique (held slot (by simp)) (held slot' (by simp))
    simp [same] at once

/-! ### The other threads -/

/-- What the transport's own threads do. -/
def Quiet : DownlinkAction → Prop
  | .receive .. | .enqueue _ | .dequeue _ | .dispatch _ | .exit _ => True
  | .start | .refuse | .drain | .join | .finish => False

/-- What the transport's threads do changes neither its phase nor its subscription. -/
theorem phase_of_quiet {d d' : Downlink} {a : DownlinkAction} (quiet : Quiet a)
    (moved : d.step cfg a = some d') : d'.phase = d.phase ∧
      d'.queueStopping = d.queueStopping ∧ d'.subscribed = d.subscribed := by
  cases a with
  | receive view now =>
    obtain ⟨-, rfl⟩ := of_guarded moved
    unfold Downlink.receive
    split <;> exact ⟨rfl, rfl, rfl⟩
  | enqueue callback =>
    obtain ⟨msg, -, rfl⟩ := Option.map_eq_some_iff.mp moved
    rcases Downlink.enqueue_cases cfg msg { d with pending := d.pending.eraseIdx callback } with
      ⟨-, same⟩ | ⟨-, -, same⟩ | ⟨-, -, same⟩
    all_goals
      rw [same]
      exact ⟨rfl, rfl, rfl⟩
  | dequeue worker =>
    obtain ⟨o, rest, -, -, rfl⟩ := Downlink.dequeue_cases moved
    exact ⟨rfl, rfl, rfl⟩
  | dispatch worker =>
    obtain ⟨o, -, rfl⟩ := Downlink.dispatch_cases moved
    exact ⟨rfl, rfl, rfl⟩
  | exit worker =>
    obtain ⟨-, -, -, rfl⟩ := Downlink.exit_cases moved
    exact ⟨rfl, rfl, rfl⟩
  | start | refuse | drain | join | finish => exact quiet.elim

/-- A step of the transport's threads is one of the queue; a message that is done with every handler
is given up. -/
theorem transportStep_cases {a : DownlinkAction} (moved : s.transportStep cfg a = some s') :
    Quiet a ∧ ∃ d, s.downlink.step cfg a = some d ∧
      ((∀ worker, a ≠ .dispatch worker) ∧ s' = { s with downlink := d } ∨
        ∃ worker, a = .dispatch worker ∧ s.targets worker = some [] ∧
          s' = { s with
            downlink := d
            targets := fun w => if w = worker then none else s.targets w }) := by
  unfold FotaDaemon.transportStep at moved
  cases a with
  | receive view now | enqueue callback | dequeue worker | exit worker =>
    obtain ⟨d, stepped, rfl⟩ := Option.map_eq_some_iff.mp moved
    exact ⟨trivial, d, stepped, .inl ⟨by simp, rfl⟩⟩
  | dispatch worker =>
    obtain ⟨done, moved⟩ := Option.ite_none_right_eq_some.mp moved
    obtain ⟨mid, moved, same⟩ := Option.map_eq_some_iff.mp moved
    obtain ⟨d, stepped, rfl⟩ := Option.map_eq_some_iff.mp moved
    exact ⟨trivial, d, stepped, .inr ⟨worker, rfl, done, same.symm⟩⟩
  | start | refuse | drain | join | finish => cases moved

omit [EnvelopeWire] in
/-- A lookup finds the slots for the message in hand; with none it goes unheard. -/
theorem lookUp_cases {worker : Nat} (moved : s.lookUp worker = some s') :
    ∃ o slots, s.inHand worker = some o ∧ s.targets worker = none ∧
      slots = (s.subscriptions.dispatchToHandlers o.msg).map Prod.fst ∧
      s' = { s with
        targets := fun w => if w = worker then some slots else s.targets w
        unheard := s.unheard ++ if slots = [] then [(o, s.caller)] else [] } := by
  unfold FotaDaemon.lookUp at moved
  split at moved
  next o hand fresh =>
    cases moved
    exact ⟨o, _, hand, fresh, rfl, rfl⟩
  next => cases moved

omit [EnvelopeWire] in
/-- A call of a handler decodes the message and takes its slot off the list. -/
theorem handle_cases {worker : Nat} {now : Int64} (moved : s.handle parse worker now = some s') :
    ∃ o slot rest, s.inHand worker = some o ∧ s.targets worker = some (slot :: rest) ∧
      s' = { s with
        targets := fun w => if w = worker then some rest else s.targets w
        handled := s.handled ++
          [(o, decodeDownlink parse payload_type.kControlCommand o.msg now)] } := by
  unfold FotaDaemon.handle at moved
  split at moved
  next o slot rest hand due =>
    cases moved
    exact ⟨o, slot, rest, hand, due, rfl⟩
  next => cases moved

def DaemonAction.OfTransport : DaemonAction → Prop
  | .downlink _ | .lookUp _ | .handle .. => True
  | _ => False

/-- The steps of the transport's threads leave the caller, the timer and the subscriptions alone. -/
theorem step_apart {a : DaemonAction} (moved : s.step cfg businessTrigger parse a = some s')
    (apart : a.OfTransport) :
    s'.toControl = s.toControl ∧ s'.subscriptions = s.subscriptions ∧
      s'.downlink.phase = s.downlink.phase ∧
      s'.downlink.queueStopping = s.downlink.queueStopping ∧
      s'.downlink.subscribed = s.downlink.subscribed := by
  cases a with
  | start | stop | caller | threw | timer | wake => exact apart.elim
  | downlink a =>
    obtain ⟨quiet, d, stepped, ⟨-, rfl⟩ | ⟨worker, -, -, rfl⟩⟩ := transportStep_cases moved
    all_goals exact ⟨rfl, rfl, phase_of_quiet quiet stepped⟩
  | lookUp worker =>
    obtain ⟨o, slots, -, -, -, rfl⟩ := lookUp_cases moved
    exact ⟨rfl, rfl, rfl, rfl, rfl⟩
  | handle worker now =>
    obtain ⟨o, slot, rest, -, -, rfl⟩ := handle_cases moved
    exact ⟨rfl, rfl, rfl, rfl, rfl⟩

omit [EnvelopeWire] in
theorem inHand_some {i : Nat} {o : Offer} (hand : s.inHand i = some o) :
    s.downlink.workers[i]? = some (.dispatching o) ∧ i < s.downlink.workers.length := by
  obtain ⟨w, here, holds⟩ := Option.bind_eq_some_iff.mp hand
  cases w with
  | waiting => cases holds
  | exited => cases holds
  | dispatching o' =>
    cases holds
    exact ⟨here, (List.getElem?_eq_some_iff.mp here).1⟩

/-! ### Every step -/

/-- What holds in every state that is reached. -/
structure Kept (cfg : SomeIpTransportConfig) (s : FotaDaemon) : Prop where
  orderly : Orderly s.toControl
  wired : Wired s
  sound : s.downlink.Sound cfg

omit [EnvelopeWire] in
theorem kept_created (cfg : SomeIpTransportConfig) : Kept cfg {} := by
  have owned : (Subscriptions.setHandle Handle.downlinkSub (some none)
      ({} : Subscriptions Handle Unit)).Owned :=
    Subscriptions.Owned.setHandle_idle ⟨by simp, by simp [Subscriptions.Held], by simp, by simp,
      by simp⟩ (by simp) (by simp)
  refine ⟨⟨rfl, ?_, ?_⟩, ⟨?_, ?_, fun _ => rfl, ⟨none, rfl, ?_⟩, fun _ => rfl, ?_, owned⟩,
    Downlink.sound_created cfg⟩
  · simp [Caller.holds]
  · simp
  · simp [Caller.phases]
  · simp
  · simp [FotaDaemon.Hears]
  · simp

/-- The caller leaves to the workers what they do with their messages. -/
theorem advance_lists (moved : s.advance cfg businessTrigger = some s') :
    s'.targets = s.targets ∧ s'.handled = s.handled ∧ s'.unheard = s.unheard := by
  unfold FotaDaemon.advance at moved
  cases place : s.caller with
  | idle =>
    rw [place] at moved
    cases moved
  | openingTransport | refusingCalls | drainingQueue | joiningWorkers | releasing =>
    simp only [place] at moved
    obtain ⟨d, -, rfl⟩ := moveDownlink_cases moved
    exact ⟨rfl, rfl, rfl⟩
  | clearingStop | subscribing | reconciling | stepping | spawningTimer | unlockingTimer
  | settingStop | leavingLock | notifying | flushing | clearingRunning =>
    simp only [place] at moved
    cases moved
    exact ⟨rfl, rfl, rfl⟩
  | lockingTimer | passingLock | replacingTimer | joiningTimer =>
    simp only [place] at moved
    obtain ⟨-, rfl⟩ := of_guarded moved
    exact ⟨rfl, rfl, rfl⟩
  | assigning | cancelling =>
    simp only [place] at moved
    obtain ⟨t, -, rfl⟩ := Option.map_eq_some_iff.mp moved
    exact ⟨rfl, rfl, rfl⟩

/-- A step of the daemon is one of the queue, or leaves the queue alone. -/
theorem downlink_of_step {a : DaemonAction} (moved : s.step cfg businessTrigger parse a = some s') :
    s'.downlink = s.downlink ∨
      ∃ b, s.downlink.step cfg b = some s'.downlink ∧ (a = .downlink b ∨ ¬Quiet b) := by
  cases a with
  | start =>
    obtain ⟨-, rfl⟩ := of_guarded moved
    unfold FotaDaemon.start
    split <;> exact .inl rfl
  | stop =>
    obtain ⟨-, rfl⟩ := of_guarded moved
    unfold FotaDaemon.stop
    split <;> exact .inl rfl
  | threw | wake timedOut =>
    obtain ⟨-, rfl⟩ := of_guarded moved
    exact .inl rfl
  | timer =>
    obtain ⟨t, t', mutex, -, rfl, -⟩ := timerLoop_cases moved
    exact .inl rfl
  | lookUp j =>
    obtain ⟨_, _, -, -, -, rfl⟩ := lookUp_cases moved
    exact .inl rfl
  | handle j now =>
    obtain ⟨_, _, _, -, -, rfl⟩ := handle_cases moved
    exact .inl rfl
  | downlink a =>
    obtain ⟨-, d, stepped, ⟨-, rfl⟩ | ⟨j, rfl, -, rfl⟩⟩ := transportStep_cases moved
    all_goals exact .inr ⟨_, stepped, .inl rfl⟩
  -- only the steps of the caller on the transport reach the queue
  | caller =>
    change s.advance cfg businessTrigger = some s' at moved
    unfold FotaDaemon.advance at moved
    cases place : s.caller with
    | idle =>
      rw [place] at moved
      cases moved
    | openingTransport | refusingCalls | drainingQueue | joiningWorkers | releasing =>
      simp only [place] at moved
      obtain ⟨d, stepped, rfl⟩ := moveDownlink_cases moved
      exact .inr ⟨_, stepped, .inr (by simp [Quiet])⟩
    | clearingStop | subscribing | reconciling | stepping | spawningTimer | unlockingTimer
    | settingStop | leavingLock | notifying | flushing | clearingRunning =>
      simp only [place] at moved
      cases moved
      exact .inl rfl
    | lockingTimer | passingLock | replacingTimer | joiningTimer =>
      simp only [place] at moved
      obtain ⟨-, rfl⟩ := of_guarded moved
      exact .inl rfl
    | assigning | cancelling =>
      simp only [place] at moved
      obtain ⟨t, -, rfl⟩ := Option.map_eq_some_iff.mp moved
      exact .inl rfl

/-- Every step of the daemon keeps what is kept. -/
theorem Kept.step (some_worker : 1 ≤ cfg.downlinkWorkers) (kept : Kept cfg s) {a : DaemonAction}
    (moved : s.step cfg businessTrigger parse a = some s') : Kept cfg s' := by
  have sound : s'.downlink.Sound cfg := by
    rcases downlink_of_step moved with same | ⟨b, stepped, -⟩
    · exact same ▸ kept.sound
    · exact kept.sound.step some_worker stepped
  obtain ⟨orderly, wired, before⟩ := kept
  have fits := orderly.fits
  have phase := wired.phase
  -- the actions one by one; those of the caller and of the timer were treated above
  cases a with
  | start =>
    obtain ⟨idle, rfl⟩ := of_guarded moved
    unfold FotaDaemon.start
    split
    next => exact ⟨orderly, wired, before⟩
    next down =>
      simp only [Control.Fits, idle, Caller.phases] at fits phase
      have stopped := wired.down idle
      refine ⟨orderly.moved ?_ rfl ?_ .rfl, wired.onward rfl ?_ ?_ wired.closed ?_ ?_ ?_, before⟩
      all_goals simp_all [Control.Fits, Caller.holds, Caller.phases, FotaDaemon.Hears, Caller.deaf]
  | stop =>
    obtain ⟨idle, rfl⟩ := of_guarded moved
    simp only [Control.Fits, idle, Caller.phases] at fits phase
    unfold FotaDaemon.stop
    split
    -- a second stop finds everything at its end
    next finished =>
      have down : s.running = false := by simpa using finished.1
      rw [down] at fits
      refine ⟨orderly.moved ?_ rfl .rfl .rfl, wired.onward rfl wired.phase ?_ wired.closed
        .rfl ?_ ?_, before⟩
      · simpa [Control.Fits, idle] using fits
      · exact fun _ _ => wired.down idle down
      · simp [idle]
      · simp [idle]
    next going =>
      have stopping : s.stopping = false := by
        cases up : s.running with
        | true => simpa [up] using fits
        | false => simpa [up] using going
      refine ⟨orderly.moved ?_ rfl ?_ .rfl, wired.onward rfl ?_ ?_ wired.closed ?_ ?_ ?_, before⟩
      all_goals simp_all [Control.Fits, Caller.holds, Caller.phases, FotaDaemon.Hears, Caller.deaf]
  | caller =>
    exact ⟨orderly.advance moved, wired.advance orderly moved, sound⟩
  | threw =>
    obtain ⟨throws, rfl⟩ := of_guarded moved
    simp only [Caller.throws, List.mem_cons, List.not_mem_nil, or_false] at throws
    rcases throws with place | place | place
    all_goals
      simp only [Control.Fits, place, Caller.phases, List.mem_cons, List.not_mem_nil,
        or_false] at fits phase
      refine ⟨orderly.moved ?_ rfl ?_ .rfl, wired.onward rfl ?_ ?_ wired.closed ?_ ?_ ?_, sound⟩
    all_goals simp_all [Control.Fits, Caller.holds, Caller.phases, FotaDaemon.Hears, Caller.deaf]
    rcases phase with phase | phase <;> simp [phase]
  | timer =>
    have ordered := orderly.timerLoop moved
    obtain ⟨t, t', mutex, -, rfl, -⟩ := timerLoop_cases moved
    exact ⟨ordered, wired.frame rfl rfl rfl rfl rfl, sound⟩
  | wake timedOut =>
    obtain ⟨waits, rfl⟩ := of_guarded moved
    refine ⟨orderly.moved (fits.retime waits (by simp) (by simp) _) rfl .rfl ?_,
      wired.frame rfl rfl rfl rfl rfl, sound⟩
    simp [waits, Timer.holds]
  | downlink a =>
    obtain ⟨same, subscriptions, phase, -, subscribed⟩ := step_apart moved trivial
    refine ⟨same ▸ orderly, wired.frame ?_ ?_ subscriptions phase subscribed, sound⟩
    · rw [same]
    · rw [same]
  | lookUp worker =>
    obtain ⟨o, slots, -, -, -, rfl⟩ := lookUp_cases moved
    exact ⟨orderly, wired.frame rfl rfl rfl rfl rfl, sound⟩
  | handle worker now =>
    obtain ⟨o, slot, rest, -, -, rfl⟩ := handle_cases moved
    exact ⟨orderly, wired.frame rfl rfl rfl rfl rfl, sound⟩

theorem Kept.reach (some_worker : 1 ≤ cfg.downlinkWorkers)
    (reach : Reach (FotaDaemon.step cfg businessTrigger parse) (fun _ _ => True) {} s) :
    Kept cfg s :=
  reach.invariant (kept_created cfg) fun _ _ _ kept _ moved => kept.step some_worker moved

end CgwFota.Daemon
