import CgwFota.Cloud.Migration
import CgwFota.Inventory.Recovery
import CgwFota.Orchestrator.SnapshotAssembler
import CgwFota.Properties.ConfigTimes

/-!
# The service on its store

Processes come and go on one store root. Each recovers the state store, migrates the earlier keys
and then assembles snapshots and files the records of the cloud store, until it ends or is killed.
The steady clock is in nanoseconds, and starts anew with each process.

## Main definitions

* `openStores`: what `main` does with the stores before it goes on
* `assembleStored`: `assembleSnapshot` with the number from the store
* `System`, `Operation`: the store root, the process that is up, and what can happen to them
* `runService`: any sequence of operations

## Main results

* `write_cases`: what a request does to a process that is up
* `assembleStored_done`: the number is all that the assembler has of the store
-/
namespace CgwFota.Service

open Crash
open Config (FotaConfig throttleInterval)
open Inventory (Bytes StoreM StoreWorld Surroundings VehicleSoftwareSnapshot)

/-! ### What the service does -/

section Programs

variable [JsonText]

/-- Whether `main` goes on once it has opened the stores. A blocked recovery does not stop it. -/
def openStores (c : FotaConfig) : StoreM Bool := do
  match ← Inventory.startUp c.dedupeMaxEntries c.dedupeTtlMs with
  | .error _ => return false
  | .ok _ =>
    match ← Cloud.migrateOtaToFota.run with
    | .error _ => return false
    | .ok _ => return true

/-- `assembleSnapshot`, with the number from the store. -/
def assembleStored (s : SnapshotAssembler) (a : Assembling) :
    StoreM (Option VehicleSoftwareSnapshot × SnapshotAssembler) := do
  if s.isThrottled a.now then return (none, s)
  else
    match SnapshotAssembler.collect a.client s.maxAttempts.toNat 0 {} with
    | none => return (none, s)
    | some snapshot =>
      if !s.validateSnapshot snapshot then return (none, s)
      else
        match ← Inventory.allocateSnapshotSeq with
        | .error _ => return (none, s)
        | .ok seq =>
          return (some { snapshot with snapshot_seq := seq },
            { s with lastReportTime := a.reported })

end Programs

/-! ### Processes -/

/-- What a process that is up has besides its stores. -/
structure Running where
  assembler : SnapshotAssembler
  clock : Int

/-- A snapshot that was assembled, and how. -/
structure Report where
  process : Nat
  interval : UInt32
  client : Nat → CollectVehicleInventory
  asked : Int
  reported : Int
  snapshot : VehicleSoftwareSnapshot

/-- A write of the cloud store: what was to be under the key then, and whether the store confirmed
it. -/
structure CloudWrite where
  key : String
  value : Option Bytes
  confirmed : Bool

/-- The logs list what happened so far, newest first. -/
structure System where
  world : StoreWorld
  process : Nat := 0
  running : Option Running := none
  reports : List Report := []
  writes : List CloudWrite := []

inductive Operation where
  | start (c : FotaConfig) (now : Int)
  /-- Times in between and of the call. -/
  | assemble (waited took : Nat) (client : Nat → CollectVehicleInventory)
  | save (r : Cloud.Write)
  | remove (k : Cloud.Kind) (item : k ≠ .eventOutboxMeta) (id : k.Id)
  | exit

/-- The process is gone, in whatever state it left the store. -/
def System.ended (s : System) (w : StoreWorld) : System :=
  { s with world := w.endProcess, process := s.process + 1, running := none }

section System

variable [JsonText] (env : Surroundings)

/-- One process at a time has the store open. -/
def System.start (s : System) (c : FotaConfig) (now : Int) : System :=
  match s.running with
  | some _ => s
  | none =>
    match openStores c env s.world with
    | .done true w =>
      let assembler := .production now (throttleInterval c) c.diagRetry.maxAttempts
      { s with world := w, running := some { assembler, clock := now } }
    | .done false w => s.ended w
    | .crashed w => s.ended w

def System.assemble (s : System) (waited took : Nat) (client : Nat → CollectVehicleInventory) :
    System :=
  match s.running with
  | none => s
  | some p =>
    let now := p.clock + waited
    let reported := now + took
    match assembleStored p.assembler { now, client, reported } env s.world with
    | .done (snapshot, assembler) w =>
      { s with
        world := w
        running := some { assembler, clock := reported }
        reports := (snapshot.toList.map fun snapshot =>
          { process := s.process
            interval := p.assembler.throttleIntervalMs
            client, asked := now, reported, snapshot }) ++ s.reports }
    | .crashed w => s.ended w

/-- A request of the cloud store. The orchestrator may go on after an exception. -/
def System.write {α : Type} (s : System) (key : String) (value : Option Bytes)
    (m : Cloud.MigrationM α) : System :=
  match s.running with
  | none => s
  | some _ =>
    let log (confirmed : Bool) : System := { s with writes := ⟨key, value, confirmed⟩ :: s.writes }
    match m.run env s.world with
    | .done (.ok _) w => { log true with world := w }
    | .done (.error _) w => { log false with world := w }
    | .crashed w => (log false).ended w

def System.perform (s : System) : Operation → System
  | .start c now => s.start env c now
  | .assemble waited took client => s.assemble env waited took client
  | .save r =>
    -- the encoder reads the clock first
    let bytes := r.kind.codec.encode (env.clock s.world.tick) r.record
    s.write env r.key (some bytes) (Cloud.saveEncoded r)
  | .remove k _ id => s.write env (k.key id) none (Cloud.Store.remove (k.key id))
  | .exit => s.ended s.world

def runService (s : System) (ops : List Operation) : System := ops.foldl (System.perform env) s

/-- What a request does to a process that is up. -/
theorem write_cases {α : Type} (s : System) (key : String) (value : Option Bytes)
    (m : Cloud.MigrationM α) :
    (s.running = none ∧ s.write env key value m = s) ∨
    (∃ r w, m.run env s.world = .done r w ∧ s.running.isSome ∧
      s.write env key value m =
        { s with world := w, writes := ⟨key, value, r.isOk⟩ :: s.writes }) ∨
    ∃ w, m.run env s.world = .crashed w ∧ s.running.isSome ∧
      s.write env key value m =
        System.ended { s with writes := ⟨key, value, false⟩ :: s.writes } w := by
  unfold System.write
  cases up : s.running with
  | none => exact .inl ⟨rfl, rfl⟩
  | some p =>
    right
    -- the process is lost in the request, or the request is answered
    dsimp only
    cases run : m.run env s.world with
    | crashed w => exact .inr ⟨w, rfl, rfl, rfl⟩
    | done r w =>
      left
      refine ⟨r, w, rfl, rfl, ?_⟩
      cases r with
      | ok a => rfl
      | error x => rfl

/-- A store root with this content, before the first process. -/
def installed (disk : Inventory.Disk) : System := { world := { disk } }

end System

/-! ### The assembler -/

section Assembler

variable [JsonText] {env : Surroundings} {s : SnapshotAssembler} {a : Assembling}

/-- The number the store gives out is all that `assembleSnapshot` has of it. -/
theorem assembleStored_done {w w' : StoreWorld}
    {r : Option VehicleSoftwareSnapshot × SnapshotAssembler} (stored : s.hasStateStore)
    (done : assembleStored s a env w = .done r w') :
    ∃ n, r = s.assembleSnapshot { a with allocateSnapshotSeq := n } := by
  unfold assembleStored at done
  unfold SnapshotAssembler.assembleSnapshot
  split at done
  next throttled =>
    cases done
    -- no number was asked for, so any will do
    exact ⟨none, by rw [if_pos throttled]⟩
  next due =>
    simp only [if_neg due]
    cases collected : SnapshotAssembler.collect a.client s.maxAttempts.toNat 0 {} with
    | none =>
      rw [collected] at done
      cases done
      exact ⟨none, rfl⟩
    | some snapshot =>
      rw [collected] at done
      dsimp only at done ⊢
      split at done
      next invalid =>
        cases done
        exact ⟨none, by rw [if_pos invalid]⟩
      next valid =>
        simp only [if_neg valid, SnapshotAssembler.nextSeq, if_pos stored]
        simp only [bind, Program.bind] at done
        cases allocated : Inventory.allocateSnapshotSeq env w with
        | crashed w'' =>
          rw [allocated] at done
          cases done
        | done number w'' =>
          rw [allocated] at done
          cases number with
          | error x =>
            cases done
            -- the store gave no number, and the snapshot is not reported
            exact ⟨none, rfl⟩
          | ok seq =>
            cases done
            exact ⟨some seq, rfl⟩

end Assembler

end CgwFota.Service
