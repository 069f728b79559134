import CgwFota.Concurrency.Interleaving
import CgwFota.Transport.Message

/-!
# The downlink queue

Callbacks of the framework put messages into a bounded queue, workers take them out and dispatch
them, and `start` and `stop` come in between. Every step under a lock is one step here. What is
behind the last field that the code has is kept for the account of the messages only.

## Main definitions

* `Offer`: a message that came, under its number.
* `Downlink`: the queue, the workers and the flags, and the account of what became of each offer.
* `receive`, `enqueue`: the two halves of a callback, before and after it takes the lock.
* `dequeue`, `dispatch`, `exit`: the turns of a worker.
* `step`: one step of anybody, where it can be made.

## Proof strategy

Interleavings are lists of actions, and a step that cannot be made leaves a run where it is. As the
check of a callback and its lock are two steps, a `stop` may come between them, as in the code.
-/
namespace CgwFota.Transport

open Inventory (Bytes)

/-- A message that has come to the queue, numbered in the order of coming. -/
structure Offer where
  number : Nat
  msg : VehicleMessage
  deriving DecidableEq, Repr

inductive Worker where
  | waiting | dispatching (o : Offer) | exited
  deriving DecidableEq, Repr

/-- What the worker has taken out and not dispatched yet. -/
def Worker.hand : Worker → Option Offer
  | .dispatching o => some o
  | .waiting | .exited => none

/-- How far `start` and `stop` have come. -/
inductive Lifecycle where
  | created | running | refusing | draining | joined | stopped
  deriving DecidableEq, Repr

/-- `pending` are the callbacks that have checked their message and not yet locked the queue. -/
structure Downlink where
  stopping : Bool := false
  queueStopping : Bool := false
  downlinkQueue : List Offer := []
  downlinkDropped : UInt64 := 0
  workers : List Worker := []
  subscribed : Bool := false
  phase : Lifecycle := .created
  pending : List VehicleMessage := []
  offered : List Offer := []
  enqueued : List Offer := []
  dropped : List Offer := []
  dispatched : List Offer := []

inductive DownlinkAction where
  | receive (view : Bytes) (now : Int64)
  | enqueue (callback : Nat)
  | dequeue (worker : Nat)
  | dispatch (worker : Nat)
  | exit (worker : Nat)
  | start
  | refuse
  | drain
  | join
  | finish
  deriving DecidableEq

/-- What `onDownlinkEvent` lets through to the queue. -/
def checkDownlink [EnvelopeWire] (cfg : SomeIpTransportConfig) (view : Bytes) (now : Int64) :
    Option VehicleMessage :=
  if view.isEmpty then none
  else
    match decodeWire view with
    | none => none
    | some msg =>
      if msg.envelope.messageKind ≠ .event then none
      else if validateInboundEnvelope msg.envelope msg.payload.length cfg.maxPayloadBytes now ≠
          .Accepted then none
      else some msg

namespace Downlink

def receive [EnvelopeWire] (cfg : SomeIpTransportConfig) (view : Bytes) (now : Int64)
    (s : Downlink) : Downlink :=
  if s.stopping then s
  else { s with pending := s.pending ++ (checkDownlink cfg view now).toList }

def enqueue (cfg : SomeIpTransportConfig) (msg : VehicleMessage) (s : Downlink) : Downlink :=
  if s.queueStopping then s
  else
    let o : Offer := ⟨s.offered.length, msg⟩
    if s.downlinkQueue.length ≥ cfg.downlinkQueueCapacity then
      { s with
        downlinkDropped := s.downlinkDropped + 1
        offered := s.offered ++ [o]
        dropped := s.dropped ++ [o] }
    else
      { s with
        downlinkQueue := s.downlinkQueue ++ [o]
        offered := s.offered ++ [o]
        enqueued := s.enqueued ++ [o] }

/-- The callback of the framework, where nothing comes between its check and its lock. -/
def onDownlinkEvent [EnvelopeWire] (cfg : SomeIpTransportConfig) (view : Bytes) (now : Int64)
    (s : Downlink) : Downlink :=
  if s.stopping then s
  else
    match checkDownlink cfg view now with
    | none => s
    | some msg => s.enqueue cfg msg

/-- A worker that waits takes the front of the queue. -/
def dequeue (worker : Nat) (s : Downlink) : Option Downlink :=
  match s.workers[worker]?, s.downlinkQueue with
  | some .waiting, o :: rest =>
    some { s with downlinkQueue := rest, workers := s.workers.set worker (.dispatching o) }
  | _, _ => none

def dispatch (worker : Nat) (s : Downlink) : Option Downlink :=
  match s.workers[worker]? with
  | some (.dispatching o) =>
    some { s with dispatched := s.dispatched ++ [o], workers := s.workers.set worker .waiting }
  | _ => none

/-- A worker leaves only when nothing is left to do for it. -/
def exit (worker : Nat) (s : Downlink) : Option Downlink :=
  match s.workers[worker]?, s.downlinkQueue, s.queueStopping with
  | some .waiting, [], true => some { s with workers := s.workers.set worker .exited }
  | _, _, _ => none

def step [EnvelopeWire] (cfg : SomeIpTransportConfig) (s : Downlink) :
    DownlinkAction → Option Downlink
  | .receive view now => if s.subscribed then some (s.receive cfg view now) else none
  | .enqueue callback =>
    (s.pending[callback]?).map fun msg =>
      { s with pending := s.pending.eraseIdx callback }.enqueue cfg msg
  | .dequeue worker => s.dequeue worker
  | .dispatch worker => s.dispatch worker
  | .exit worker => s.exit worker
  | .start =>
    if s.phase = .created ∨ s.phase = .stopped then
      some
        { s with
          stopping := false
          queueStopping := false
          workers := List.replicate cfg.downlinkWorkers .waiting
          subscribed := true
          phase := .running }
    else none
  | .refuse =>
    if s.phase = .created ∨ s.phase = .running ∨ s.phase = .stopped then
      some { s with stopping := true, phase := .refusing }
    else none
  | .drain =>
    if s.phase = .refusing then some { s with queueStopping := true, phase := .draining }
    else none
  | .join =>
    if s.phase = .draining ∧ ∀ w ∈ s.workers, w = .exited then
      some { s with workers := [], phase := .joined }
    else none
  | .finish =>
    if s.phase = .joined then some { s with subscribed := false, phase := .stopped } else none

/-- What the workers have taken out and not dispatched yet. -/
def hands (s : Downlink) : List Offer := s.workers.filterMap Worker.hand

end Downlink

end CgwFota.Transport
