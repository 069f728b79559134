import CgwFota.Concurrency.Interleaving
import Mathlib.Data.List.Nodup

/-!
# Calls in flight

The correlation table of the transport, and the calls that reserve and release its entries in any
order and at any time.

## Main definitions

* `Inflight`: the table, under the ids of the messages.
* `reserveInflight`, `releaseInflight`, `evictExpiredInflight`: the operations on it.
* `Calls`, `CallAction`: the calls that run, and what one of them does next.

## Main results

* `reserveInflight_iff`: a reservation is made exactly where the eviction leaves room.
* `reserveInflight_entries`: what the table is afterwards.
-/
namespace CgwFota.Transport

/-! ### The table -/

structure InflightEntry where
  deadlineMs : Int64 := 0
  seq : UInt64 := 0
  deriving DecidableEq, Repr

structure Inflight where
  entries : List (String × InflightEntry) := []
  inflightSeq : UInt64 := 0
  distinct : (entries.map Prod.fst).Nodup := by exact List.nodup_nil

def Inflight.has (messageId : String) (t : Inflight) : Bool :=
  t.entries.any fun e => e.1 = messageId

def inflightCount (t : Inflight) : Nat := t.entries.length

theorem Inflight.has_iff {messageId : String} {t : Inflight} :
    t.has messageId = true ↔ messageId ∈ t.entries.map Prod.fst := by
  simp [has]

/-- The entries that pass; the numbering of the reservations goes on. -/
def Inflight.keep (p : String × InflightEntry → Bool) (t : Inflight) : Inflight where
  entries := t.entries.filter p
  inflightSeq := t.inflightSeq
  distinct := t.distinct.sublist (List.filter_sublist.map _)

def evictExpiredInflight (now : Int64) (t : Inflight) : Inflight :=
  t.keep fun e => ¬e.2.deadlineMs ≤ now

def reserveInflight (maxInFlight : Nat) (messageId : String) (deadlineMs now : Int64)
    (t : Inflight) : Bool × Inflight :=
  let t := evictExpiredInflight now t
  if taken : t.has messageId then (false, t)
  else if inflightCount t ≥ maxInFlight then (false, t)
  else
    (true,
      { entries := (messageId, ⟨deadlineMs, t.inflightSeq + 1⟩) :: t.entries
        inflightSeq := t.inflightSeq + 1
        distinct :=
          List.nodup_cons.mpr ⟨fun member => taken (Inflight.has_iff.mpr member), t.distinct⟩ })

def releaseInflight (messageId : String) (t : Inflight) : Inflight :=
  t.keep fun e => e.1 ≠ messageId

/-- The table after an eviction has room under this id. -/
structure Room (maxInFlight : Nat) (messageId : String) (now : Int64) (t : Inflight) : Prop where
  free : messageId ∉ (evictExpiredInflight now t).entries.map Prod.fst
  bound : inflightCount (evictExpiredInflight now t) < maxInFlight

/-- A reservation is made exactly where the table has room for its id once the expired entries are
gone. -/
theorem reserveInflight_iff {maxInFlight : Nat} {messageId : String} {deadlineMs now : Int64}
    {t : Inflight} :
    (reserveInflight maxInFlight messageId deadlineMs now t).1 = true ↔
      Room maxInFlight messageId now t := by
  unfold reserveInflight
  dsimp only
  split
  next taken =>
    constructor
    · intro reserved
      cases reserved
    · intro room
      exact absurd (Inflight.has_iff.mp taken) room.free
  -- the id is free, and it is left to the bound
  next free =>
    have free := mt Inflight.has_iff.mpr free
    split
    next full =>
      constructor
      · intro reserved
        cases reserved
      · intro room
        exact absurd room.bound (Nat.not_lt.mpr full)
    next bound => exact ⟨fun _ => ⟨free, Nat.lt_of_not_le bound⟩, fun _ => rfl⟩

/-- The eviction stays whether or not the reservation is made. -/
theorem reserveInflight_entries {maxInFlight : Nat} {messageId : String} {deadlineMs now : Int64}
    {t : Inflight} :
    (reserveInflight maxInFlight messageId deadlineMs now t).2.entries =
      if (reserveInflight maxInFlight messageId deadlineMs now t).1 then
        (messageId, ⟨deadlineMs, t.inflightSeq + 1⟩) :: (evictExpiredInflight now t).entries
      else (evictExpiredInflight now t).entries := by
  unfold reserveInflight
  dsimp only
  split
  next => rfl
  next =>
    split
    next => rfl
    next => rfl

/-! ### Calls -/

/-- A call between its reservation and its release. -/
structure RunningCall where
  call : Nat
  messageId : String
  deadlineMs : Int64
  deriving DecidableEq, Repr

/-- The calls are numbered, and `owner` is the one that made the reservation under an id last. -/
structure Calls where
  inflight : Inflight := {}
  running : List RunningCall := []
  owner : String → Option Nat := fun _ => none
  started : Nat := 0

/-- What a call does with the table, and the time it reads. A call releases its reservation at any
time after it was made: its wait ends with a reply or with a timeout. -/
inductive CallAction where
  | reserve (messageId : String) (deadlineMs now : Int64)
  | release (call : Nat)

namespace Calls

def step (maxInFlight : Nat) (s : Calls) : CallAction → Option Calls
  | .reserve messageId deadlineMs now =>
    match reserveInflight maxInFlight messageId deadlineMs now s.inflight with
    | (false, t) => some { s with inflight := t }
    | (true, t) =>
      some
        { inflight := t
          running := ⟨s.started, messageId, deadlineMs⟩ :: s.running
          owner := fun id => if id = messageId then some s.started else s.owner id
          started := s.started + 1 }
  | .release call =>
    (s.running.find? fun c => c.call = call).map fun c =>
      { s with
        inflight := releaseInflight c.messageId s.inflight
        running := s.running.filter fun c => c.call ≠ call }

end Calls

end CgwFota.Transport
