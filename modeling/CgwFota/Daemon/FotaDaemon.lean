import CgwFota.Proto.Messages
import CgwFota.Transport.Codec
import CgwFota.Transport.Downlink
import CgwFota.Transport.Subscription

/-!
# The daemon

One thread calls `start` and `stop`. `start` opens the transport, subscribes to the downlink, takes
the first step of the orchestrator and starts the timer thread; `stop` ends the timer, cancels the
subscription and closes the transport. Callbacks and workers of the transport run meanwhile. Every
step that other threads can see is one step here. An exception of the timer or of a worker ends the
process, and nothing comes after it.

## Main definitions

* `Caller`, `Timer`: where the two threads are
* `Control`: the flags, the lock of the timer, and the two places
* `FotaDaemon`: these with the transport, the subscriptions and what the workers have at hand
* `advance`, `timerLoop`, `lookUp`, `handle`, `transportStep`: the steps of the threads
* `step`: every step, by whoever takes it
-/
namespace CgwFota.Transport

open Inventory (Bytes)

def payload_type.kControlCommand : String := "vehicle.fota.v1.ControlCommand"

/-- The expected correlation is left empty. -/
def decodeDownlink {Message : Type} (parse : Bytes → Option Message) (ptype : String)
    (msg : VehicleMessage) (now : Int64) : Except FotaProtocolError Message :=
  decode parse .event ptype msg "" now

end CgwFota.Transport

namespace CgwFota.Daemon

open Inventory (Bytes)
open Transport

/-- Where the thread that calls `start` and `stop` is: outside of both, before the next step of
`start`, or before the next step of `stop`. -/
inductive Caller where
  | idle
  | clearingStop | openingTransport | subscribing | assigning | reconciling | stepping
  | lockingTimer | replacingTimer | spawningTimer | unlockingTimer
  | settingStop | passingLock | leavingLock | notifying | joiningTimer | flushing | cancelling
  | refusingCalls | drainingQueue | joiningWorkers | releasing | clearingRunning
  deriving DecidableEq, Repr

/-- The calls of `start` that can throw. An exception of `transport_->start()` is taken to come from
`requestService`, its first call, which leaves the transport as it was. Its last call, the
subscription, could throw too; the workers it has created by then would go on waiting for messages
that cannot come, until `stop` joins them. That partial start is not followed. -/
def Caller.throws : List Caller := [.openingTransport, .reconciling, .stepping]

/-- Where the timer thread is. `settling` has seen no reason to leave and still has the lock, and
`woken` has left the wait and not yet the lock back. -/
inductive Timer where
  | created | looping | testing | settling | waiting | woken (timedOut : Bool) | deciding
  | unlocking | stepping | relocking | leaving | exited
  deriving DecidableEq, Repr

inductive Owner where
  | caller | timer
  deriving DecidableEq, Repr

/-- The handles of `start`: the member, and the value that it is assigned from. -/
inductive Handle where
  | downlinkSub | returned
  deriving DecidableEq, Repr

/-- `timerThread` is empty where no thread can be joined. -/
structure Control where
  running : Bool := false
  stopping : Bool := false
  timerMutex : Option Owner := none
  caller : Caller := .idle
  timerThread : Option Timer := none
  deriving DecidableEq, Repr

/-- `targets` are the slots that a worker has still to call, once it has looked the handlers up for
its message. What the handler has made of the messages it was called for, and the messages it was
not called for with the place of the caller at that time, are kept for the account only. -/
structure FotaDaemon extends Control where
  downlink : Downlink := {}
  subscriptions : Subscriptions Handle Unit :=
    Subscriptions.setHandle .downlinkSub (some none) {}
  targets : Nat → Option (List Nat) := fun _ => none
  handled : List (Offer × Except FotaProtocolError ControlCommand) := []
  unheard : List (Offer × Caller) := []

/-- `threw` ends a `start` by an exception of the framework, of a port or of the store. `wake` ends
a wait without a notification, and `downlink` is a step of the transport's own threads. -/
inductive DaemonAction where
  | start | stop | caller | threw
  | timer | wake (timedOut : Bool)
  | downlink (a : DownlinkAction)
  | lookUp (worker : Nat) | handle (worker : Nat) (now : Int64)
  deriving DecidableEq

namespace FotaDaemon

/-! ### The caller -/

/-- Without a change of the daemon a second `start` returns. -/
def start (s : FotaDaemon) : FotaDaemon :=
  if s.running then s else { s with running := true, caller := .clearingStop }

/-- After a `stop` another one returns. The first one of all goes on, with or without a `start`. -/
def stop (s : FotaDaemon) : FotaDaemon :=
  if ¬s.running ∧ s.stopping then { s with running := false }
  else { s with running := false, caller := .settingStop }

/-- A step of the transport that `start` or `stop` takes. -/
def moveDownlink [EnvelopeWire] (cfg : SomeIpTransportConfig) (a : DownlinkAction) (next : Caller)
    (s : FotaDaemon) : Option FotaDaemon :=
  (s.downlink.step cfg a).map fun downlink => { s with downlink, caller := next }

/-- A lock, a join of the timer and a join of the workers are steps that have to wait. -/
def advance [EnvelopeWire] (cfg : SomeIpTransportConfig) (businessTrigger : Bool)
    (s : FotaDaemon) : Option FotaDaemon :=
  match s.caller with
  | .idle => none
  | .clearingStop => some { s with stopping := false, caller := .openingTransport }
  | .openingTransport => s.moveDownlink cfg .start .subscribing
  | .subscribing =>
    some
      { s with
        subscriptions := s.subscriptions.subscribe .returned payload_type.kService (some ())
        caller := .assigning }
  | .assigning =>
    -- The value that was assigned from holds no action any more when it is destroyed.
    ((s.subscriptions.assign .downlinkSub .returned).bind fun t => t.step (.destroy .returned)).map
      fun subscriptions => { s with subscriptions, caller := .reconciling }
  | .reconciling => some { s with caller := .stepping }
  | .stepping => some { s with caller := if businessTrigger then .lockingTimer else .idle }
  | .lockingTimer =>
    if s.timerMutex = none then
      some { s with timerMutex := some .caller, caller := .replacingTimer }
    else none
  | .replacingTimer =>
    if s.timerThread = none ∨ s.timerThread = some .exited then
      some { s with timerThread := none, caller := .spawningTimer }
    else none
  | .spawningTimer => some { s with timerThread := some .created, caller := .unlockingTimer }
  | .unlockingTimer => some { s with timerMutex := none, caller := .idle }
  | .settingStop => some { s with stopping := true, caller := .passingLock }
  | .passingLock =>
    if s.timerMutex = none then some { s with timerMutex := some .caller, caller := .leavingLock }
    else none
  | .leavingLock => some { s with timerMutex := none, caller := .notifying }
  | .notifying =>
    some
      { s with
        timerThread := if s.timerThread = some .waiting then some (.woken false) else s.timerThread
        caller := .joiningTimer }
  | .joiningTimer =>
    if s.timerThread = none ∨ s.timerThread = some .exited then
      some { s with timerThread := none, caller := .flushing }
    else none
  | .flushing => some { s with caller := .cancelling }
  | .cancelling =>
    (s.subscriptions.cancel .downlinkSub).map fun subscriptions =>
      { s with subscriptions, caller := .refusingCalls }
  | .refusingCalls => s.moveDownlink cfg .refuse .drainingQueue
  | .drainingQueue => s.moveDownlink cfg .drain .joiningWorkers
  | .joiningWorkers => s.moveDownlink cfg .join .releasing
  | .releasing => s.moveDownlink cfg .finish .clearingRunning
  | .clearingRunning => some { s with running := false, caller := .idle }

/-! ### The timer -/

/-- `timerLoop`, with its wait for the condition written out. -/
def timerLoop (s : FotaDaemon) : Option FotaDaemon :=
  let lock (next : Timer) : Option FotaDaemon :=
    if s.timerMutex = none then
      some { s with timerMutex := some .timer, timerThread := some next }
    else none
  let go (next : Timer) : Option FotaDaemon := some { s with timerThread := some next }
  let release (next : Timer) : Option FotaDaemon :=
    some { s with timerMutex := none, timerThread := some next }
  match s.timerThread with
  | none | some .exited | some .waiting => none
  | some .created => lock .looping
  | some .looping => if s.stopping then go .leaving else go .testing
  | some .testing => if s.stopping then go .deciding else go .settling
  | some .settling => release .waiting
  | some (.woken timedOut) => lock (if timedOut then .deciding else .testing)
  | some .deciding => if s.stopping then go .leaving else go .unlocking
  | some .unlocking => release .stepping
  | some .stepping => go .relocking
  | some .leaving => release .exited
  | some .relocking => lock .looping

/-! ### The workers -/

/-- The message in the hands of a worker. -/
def inHand (worker : Nat) (s : FotaDaemon) : Option Offer :=
  (s.downlink.workers[worker]?).bind Worker.hand

def setTargets (worker : Nat) (targets : Option (List Nat)) (s : FotaDaemon) : FotaDaemon :=
  { s with targets := fun w => if w = worker then targets else s.targets w }

/-- Under the lock of the handlers a worker looks up whom its message is for. -/
def lookUp (worker : Nat) (s : FotaDaemon) : Option FotaDaemon :=
  match s.inHand worker, s.targets worker with
  | some o, none =>
    let slots := (s.subscriptions.dispatchToHandlers o.msg).map Prod.fst
    some
      { s.setTargets worker (some slots) with
        unheard := s.unheard ++ if slots = [] then [(o, s.caller)] else [] }
  | _, _ => none

/-- The handler decodes its copy of the message and hands a command to the orchestrator. -/
def handle (parse : Bytes → Option ControlCommand) (worker : Nat) (now : Int64)
    (s : FotaDaemon) : Option FotaDaemon :=
  match s.inHand worker, s.targets worker with
  | some o, some (_ :: rest) =>
    some
      { s.setTargets worker (some rest) with
        handled := s.handled ++ [(o, decodeDownlink parse payload_type.kControlCommand o.msg now)] }
  | _, _ => none

/-- A worker is done with a message when every handler was called. -/
def transportStep [EnvelopeWire] (cfg : SomeIpTransportConfig) (a : DownlinkAction)
    (s : FotaDaemon) : Option FotaDaemon :=
  let moved := (s.downlink.step cfg a).map fun downlink => { s with downlink }
  match a with
  | .receive .. | .enqueue _ | .dequeue _ | .exit _ => moved
  | .dispatch worker =>
    if s.targets worker = some [] then moved.map (setTargets worker none) else none
  | .start | .refuse | .drain | .join | .finish => none

/-! ### Every step -/

/-- The steps of all threads. The caller begins a call only outside of both. -/
def step [EnvelopeWire] (cfg : SomeIpTransportConfig) (businessTrigger : Bool)
    (parse : Bytes → Option ControlCommand) (s : FotaDaemon) : DaemonAction → Option FotaDaemon
  | .start => if s.caller = .idle then some s.start else none
  | .stop => if s.caller = .idle then some s.stop else none
  | .caller => s.advance cfg businessTrigger
  | .threw => if s.caller ∈ Caller.throws then some { s with caller := .idle } else none
  | .timer => s.timerLoop
  | .wake timedOut =>
    if s.timerThread = some .waiting then some { s with timerThread := some (.woken timedOut) }
    else none
  | .downlink a => s.transportStep cfg a
  | .lookUp worker => s.lookUp worker
  | .handle worker now => s.handle parse worker now

/-- The commands that were handed to the orchestrator, each with its message. -/
def commands (s : FotaDaemon) : List (Offer × ControlCommand) :=
  s.handled.filterMap fun e =>
    match e.2 with
    | .ok cmd => some (e.1, cmd)
    | .error _ => none

end FotaDaemon

end CgwFota.Daemon
