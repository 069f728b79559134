import CgwFota.Concurrency.Interleaving
import CgwFota.Transport.Message

/-!
# Subscriptions

Handles own the action that clears a slot of the table of handlers. An action moves from handle to
handle, and runs when its owner is cancelled, assigned to or destroyed.

## Main definitions

* `Subscriptions`: the table of handlers and the live handles.
* `subscribe`, `cancel`, `move`, `assign`: what is done with a handle.
* `step`: one operation, where its handles are live.
* `dispatchToHandlers`, `deliverDownlink`: who is called for a message.
* `Held`: a slot whose action has an owner.

## Proof strategy

The slots of the table are never given out again, so a slot names a subscription for good.
-/
namespace CgwFota.Transport

/-- A handler may be empty. -/
structure SubEntry (Handler : Type) where
  service : String
  handler : Option Handler
  deriving DecidableEq, Repr

/-- A live handle holds the slot that its action clears, if it has an action. `registered` and
`unsubscribed` keep what was subscribed and which actions have run. -/
structure Subscriptions (Handle Handler : Type) where
  handlers : List (SubEntry Handler) := []
  handles : Handle → Option (Option Nat) := fun _ => none
  registered : List (SubEntry Handler) := []
  unsubscribed : List Nat := []

inductive HandleAction (Handle Handler : Type) where
  | create (h : Handle)
  | subscribe (h : Handle) (service : String) (handler : Option Handler)
  | moveConstruct (h other : Handle)
  | moveAssign (h other : Handle)
  | cancel (h : Handle)
  | destroy (h : Handle)

namespace Subscriptions

variable {Handle Handler : Type} [DecidableEq Handle]

def setHandle (h : Handle) (held : Option (Option Nat)) (s : Subscriptions Handle Handler) :
    Subscriptions Handle Handler :=
  { s with handles := fun h' => if h' = h then held else s.handles h' }

/-- The action: the slot stays and its handler goes. -/
def unsubscribe (slot : Nat) (s : Subscriptions Handle Handler) : Subscriptions Handle Handler :=
  { s with
    handlers := s.handlers.modify slot fun e => { e with handler := none }
    unsubscribed := s.unsubscribed ++ [slot] }

/-- A subscription takes a new slot at the end of the table. -/
def subscribe (h : Handle) (service : String) (handler : Option Handler)
    (s : Subscriptions Handle Handler) : Subscriptions Handle Handler :=
  let e : SubEntry Handler := { service, handler }
  let added : Subscriptions Handle Handler :=
    { s with handlers := s.handlers ++ [e], registered := s.registered ++ [e] }
  added.setHandle h (some (some s.handlers.length))

/-- Without an action there is nothing to do. -/
def cancel (h : Handle) (s : Subscriptions Handle Handler) :
    Option (Subscriptions Handle Handler) :=
  (s.handles h).map fun held =>
    match held with
    | none => s
    | some slot => (s.setHandle h (some none)).unsubscribe slot

/-- The action of `other` goes to `h`. -/
def move (h other : Handle) (s : Subscriptions Handle Handler) :
    Option (Subscriptions Handle Handler) :=
  (s.handles other).map fun held => (s.setHandle h (some held)).setHandle other (some none)

/-- Onto itself a handle is left alone; otherwise its own action runs first. -/
def assign (h other : Handle) (s : Subscriptions Handle Handler) :
    Option (Subscriptions Handle Handler) :=
  if h = other then (s.handles h).map fun _ => s
  else (s.cancel h).bind fun s => s.move h other

def step (s : Subscriptions Handle Handler) :
    HandleAction Handle Handler → Option (Subscriptions Handle Handler)
  | .create h => if s.handles h = none then some (s.setHandle h (some none)) else none
  | .subscribe h service handler =>
    if s.handles h = none then some (s.subscribe h service handler) else none
  | .moveConstruct h other => if s.handles h = none then s.move h other else none
  | .moveAssign h other => s.assign h other
  | .cancel h => s.cancel h
  | .destroy h => (s.cancel h).map fun s => s.setHandle h none

/-- The handlers that are called for a message, each with its slot. -/
def dispatchToHandlers (msg : VehicleMessage) (s : Subscriptions Handle Handler) :
    List (Nat × Handler) :=
  s.handlers.zipIdx.filterMap fun e =>
    if e.1.service = msg.envelope.service then e.1.handler.map fun f => (e.2, f) else none

/-- The transport for tests checks direction and lifetime first. -/
def deliverDownlink (msg : VehicleMessage) (now : Int64) (s : Subscriptions Handle Handler) :
    List (Nat × Handler) :=
  if msg.envelope.messageKind ≠ .event then []
  else if expired msg.envelope now then []
  else s.dispatchToHandlers msg

/-- Some live handle holds the action of the slot. -/
def Held (s : Subscriptions Handle Handler) (slot : Nat) : Prop :=
  ∃ h, s.handles h = some (some slot)

end Subscriptions

end CgwFota.Transport
