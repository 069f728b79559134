import CgwFota.Crash.Trace
import CgwFota.Inventory.Calm

/-!
# Sessions

Processes come and go on one store root. Each opens the store, recovers and allocates in any order;
what `recover` and `allocateSnapshotSeq` return is observed, together with the object it was called
on.

## Main definitions

* `Session`: the world, the process that is up, and what was seen
* `SessionOperation`, `runSession`: any sequence of calls, openings and ends of processes

## Main results

* `call_of_wp`, `openStore_of_wp`: the rules for a single call and for an opening
* `runSession_of_perform`: what every operation keeps holds after any number of them
-/
namespace CgwFota.Inventory

open Crash

/-- An open object: the process it lives in, and how many were opened there before it. -/
structure ObjectId where
  process : Nat
  index : Nat
  deriving DecidableEq, Repr

/-- A call that came back; `before` is the disk an allocation started from. -/
inductive Seen where
  | recovered (object : ObjectId) (result : Except StoreException RecoveryPlan)
  | allocated (object : ObjectId) (before : Disk) (result : Except SeqAllocBlocked UInt64)

/-- `seen` lists the calls that came back, newest first. -/
structure Session where
  world : StoreWorld
  process : Nat := 0
  seen : List Seen := []

/-- A first process on a store root with this content. -/
def Session.start (disk : Disk) : Session := { world := { disk } }

def Session.endProcess (s : Session) : Session :=
  { s with world := s.world.endProcess, process := s.process + 1 }

inductive SessionOperation where
  | openStore (dedupeMaxEntries : UInt32) (dedupeTtlMs : Int64)
  | recover (object : Nat)
  | allocateSnapshotSeq (object : Nat)
  | exit
  deriving DecidableEq, Repr

section Session

variable [JsonText]

/-- Call a method of an open object. -/
def Session.call {α : Type} (env : Surroundings) (s : Session) (i : Nat) (method : StoreM α)
    (observe : α → Seen) : Session :=
  match s.world.objects[i]? with
  | none => s
  | some object =>
    match method env { s.world with self := object } with
    | .done r w =>
      { s with
        world := { w with objects := s.world.objects.set i w.self }
        seen := observe r :: s.seen }
    | .crashed w => { s with world := w }.endProcess

/-- Open the store; an opening that throws leaves no object. -/
def Session.openStore (env : Surroundings) (s : Session) (dedupeMaxEntries : UInt32)
    (dedupeTtlMs : Int64) : Session :=
  match Inventory.openStore dedupeMaxEntries dedupeTtlMs env s.world with
  | .done r w => { s with world := { w with objects := s.world.objects ++ r.toOption.toList } }
  | .crashed w => { s with world := w }.endProcess

def Session.perform (env : Surroundings) (s : Session) : SessionOperation → Session
  | .openStore dedupeMaxEntries dedupeTtlMs => s.openStore env dedupeMaxEntries dedupeTtlMs
  | .recover i => s.call env i recover (.recovered ⟨s.process, i⟩)
  | .allocateSnapshotSeq i =>
    s.call env i allocateSnapshotSeq (.allocated ⟨s.process, i⟩ s.world.disk)
  | .exit => s.endProcess

def runSession (env : Surroundings) (s : Session) (ops : List SessionOperation) : Session :=
  ops.foldl (Session.perform env) s

/-! ### Rules -/

variable {env : Surroundings} {s : Session} {P : Session → Prop}

/-- A call keeps `P` if the method leads there on every object it may be called on. -/
theorem call_of_wp {α : Type} {i : Nat} {method : StoreM α} {observe : α → Seen}
    (missing : s.world.objects[i]? = none → P s)
    (calls : ∀ object, s.world.objects[i]? = some object →
      wp method
        (fun r w => P
          { s with
            world := { w with objects := s.world.objects.set i w.self }
            seen := observe r :: s.seen })
        (fun w => P { s with world := w }.endProcess) env { s.world with self := object }) :
    P (s.call env i method observe) := by
  unfold Session.call
  cases stored : s.world.objects[i]? with
  | none => exact missing stored
  | some object =>
    have reached := calls object stored
    unfold wp at reached
    dsimp only
    cases run : method env { s.world with self := object } with
    | done r w => rw [run] at reached; exact reached
    | crashed w => rw [run] at reached; exact reached

/-- An opening keeps `P` if it leads there with its object, or without one. -/
theorem openStore_of_wp {dedupeMaxEntries : UInt32} {dedupeTtlMs : Int64}
    (opens : wp (openStore dedupeMaxEntries dedupeTtlMs)
      (fun r w => P { s with world := { w with objects := s.world.objects ++ r.toOption.toList } })
      (fun w => P { s with world := w }.endProcess) env s.world) :
    P (s.openStore env dedupeMaxEntries dedupeTtlMs) := by
  unfold Session.openStore
  unfold wp at opens
  cases run : Inventory.openStore dedupeMaxEntries dedupeTtlMs env s.world with
  | done r w => rw [run] at opens; exact opens
  | crashed w => rw [run] at opens; exact opens

/-- What every operation keeps holds after any number of them. -/
theorem runSession_of_perform (start : P s)
    (step : ∀ s op, P s → P (s.perform env op)) (ops : List SessionOperation) :
    P (runSession env s ops) := by
  induction ops generalizing s with
  | nil => exact start
  | cons op ops ih => exact ih (step s op start)

end Session

end CgwFota.Inventory
