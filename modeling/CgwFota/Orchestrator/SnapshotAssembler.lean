import CgwFota.Orchestrator.ProductionPorts

/-!
# `SnapshotAssembler`

The assembler asks the diagnosis for the inventory, checks it and numbers it. It refuses to do so
again within the throttle interval. Times are those of the steady clock, in nanoseconds.

## Main definitions

* `DiagCall`: what the diagnosis finds, and the snapshot it makes of it
* `SnapshotAssembler`: the members of the assembler
* `Assembling`: the clock, the attempts and the number that a call meets
* `assembleSnapshot`: the method, with the assembler afterwards

## Main result

* `assembleSnapshot_iff`: when a snapshot is assembled, and of which ECUs
-/
namespace CgwFota

open Inventory (EcuVersionEntry VehicleSoftwareSnapshot CollectionStatus)

/-- One attempt to fill a snapshot; where it fails, the snapshot has what was read before. -/
abbrev CollectVehicleInventory := VehicleSoftwareSnapshot → Bool × VehicleSoftwareSnapshot

/-- What `DiagInventoryClient` finds when it reads the VIN. -/
structure DiagCall where
  hasClient : Bool := true
  available : Bool := true
  response : Option String := none
  deriving DecidableEq, Repr

/-- `getVin`: whether it succeeds, and the VIN afterwards. -/
def DiagCall.getVin (c : DiagCall) (vin : String) : Bool × String :=
  if !c.hasClient then (false, vin)
  else if !c.available then (false, vin)
  else
    match c.response with
    | none => (false, vin)
    | some response =>
      if response = "" then (false, vin)
      else (response.utf8ByteSize = 17, response)

/-- `DiagInventoryClient::collectVehicleInventory`; all but the VIN is fixed. -/
def DiagCall.collectVehicleInventory (c : DiagCall) : CollectVehicleInventory := fun snapshot =>
  if !c.hasClient then (false, snapshot)
  else
    let read := c.getVin snapshot.vin
    let snapshot := { snapshot with vin := read.2 }
    if !read.1 then (false, snapshot)
    else if snapshot.vin = "" then (false, snapshot)
    else
      (true,
        { snapshot with
          baseline_id := some "BASELINE001"
          baseline_source := .FACTORY
          registry_version := "1.0.0"
          collected_at := "2026-07-21T10:00:00Z"
          overall_result := .ALL_OK
          snapshot_seq := 1
          ecu_list := [
            { ecu_id := "ECU001"
              part_number := some "PN001"
              sw_version := some "1.0.0"
              hw_version := some "HW1.0"
              source := .UDS_0x22
              status := .OK },
            { ecu_id := "ECU002"
              part_number := some "PN002"
              sw_version := some "2.0.0"
              hw_version := some "HW2.0"
              source := .SOMEIP_GET_VERSION
              status := .OK }] })

/-- The data members of the assembler. -/
structure SnapshotAssembler where
  currentSeq : UInt64 := 1
  throttleIntervalMs : UInt32 := 5000
  maxEcuCount : UInt32 := 100
  lastReportTime : Int
  hasStateStore : Bool := false
  diagRetryMaxAttempts : UInt32 := 0
  useDiagRetry : Bool := false
  deriving DecidableEq, Repr

/-- What a call of `assembleSnapshot` meets: two readings of the clock, one attempt of the diagnosis
after the other, and the number the store gives out, unless it is blocked. -/
structure Assembling where
  now : Int
  client : Nat → CollectVehicleInventory
  allocateSnapshotSeq : Option UInt64 := none
  reported : Int

namespace SnapshotAssembler

/-- A new assembler has reported an hour ago. -/
def created (now : Int) : SnapshotAssembler := { lastReportTime := now - 3600000000000 }

/-- The assembler as `main` sets it up. -/
def production (now : Int) (minReportInterval retryMaxAttempts : UInt32) : SnapshotAssembler :=
  { created now with
    throttleIntervalMs := minReportInterval
    maxEcuCount := 100
    hasStateStore := true
    diagRetryMaxAttempts := retryMaxAttempts
    useDiagRetry := true }

/-- Whether the last report is too recent. -/
def isThrottled (s : SnapshotAssembler) (now : Int) : Bool :=
  (now - s.lastReportTime).tdiv 1000000 < s.throttleIntervalMs.toNat

/-- The count is unsigned: it wraps around to no attempt at all. -/
def maxAttempts (s : SnapshotAssembler) : UInt32 :=
  if s.useDiagRetry then s.diagRetryMaxAttempts + 1 else 1

/-- The attempts from `attempt` on, up to so many more. -/
def collect (client : Nat → CollectVehicleInventory) :
    Nat → Nat → VehicleSoftwareSnapshot → Option VehicleSoftwareSnapshot
  | 0, _, _ => none
  | left + 1, attempt, snapshot =>
    let (collected, snapshot) := client attempt snapshot
    if collected then some snapshot else collect client left (attempt + 1) snapshot

/-- A snapshot needs a VIN, no more ECUs than allowed, and a name for each of them. -/
def validateSnapshot (s : SnapshotAssembler) (snapshot : VehicleSoftwareSnapshot) : Bool :=
  if snapshot.vin = "" then false
  else if snapshot.ecu_list.length > s.maxEcuCount.toNat then false
  else if snapshot.overall_result ≠ .ALL_OK ∧ snapshot.overall_result ≠ .PARTIAL ∧
      snapshot.overall_result ≠ .FAILED then false
  else true

/-- The next number, from the store or else from memory. -/
def nextSeq (s : SnapshotAssembler) (a : Assembling) : Option (UInt64 × SnapshotAssembler) :=
  if s.hasStateStore then a.allocateSnapshotSeq.map (·, s)
  else some (s.currentSeq, { s with currentSeq := s.currentSeq + 1 })

/-- The snapshot, unless there is none, and the assembler afterwards. -/
def assembleSnapshot (s : SnapshotAssembler) (a : Assembling) :
    Option VehicleSoftwareSnapshot × SnapshotAssembler :=
  if s.isThrottled a.now then (none, s)
  else
    match collect a.client s.maxAttempts.toNat 0 {} with
    | none => (none, s)
    | some snapshot =>
      if !s.validateSnapshot snapshot then (none, s)
      else
        match s.nextSeq a with
        | none => (none, s)
        | some (seq, s) =>
          (some { snapshot with snapshot_seq := seq }, { s with lastReportTime := a.reported })

/-! ### When a snapshot is assembled -/

/-- A snapshot is assembled of what the first successful attempt brings, if it comes in time, is
valid and gets a number. -/
theorem assembleSnapshot_iff {s : SnapshotAssembler} {a : Assembling}
    {ecus : List EcuVersionEntry} :
    (∃ snapshot, (s.assembleSnapshot a).1 = some snapshot ∧ snapshot.ecu_list = ecus) ↔
      s.isThrottled a.now = false ∧
      (∃ snapshot, collect a.client s.maxAttempts.toNat 0 {} = some snapshot ∧
        s.validateSnapshot snapshot ∧ snapshot.ecu_list = ecus) ∧
      (s.hasStateStore → a.allocateSnapshotSeq.isSome) := by
  unfold assembleSnapshot
  cases throttled : s.isThrottled a.now with
  | true => simp
  | false =>
    cases collected : collect a.client s.maxAttempts.toNat 0 {} with
    | none => simp
    | some snapshot =>
      cases valid : s.validateSnapshot snapshot with
      | false => simp [valid]
      | true =>
        -- the number comes from the store, which may be blocked, or from memory
        unfold nextSeq
        cases stored : s.hasStateStore with
        | false => simp [valid]
        | true => cases a.allocateSnapshotSeq <;> simp [valid]

/-- What is collected is what a successful attempt brought. -/
theorem collect_of_attempt {client : Nat → CollectVehicleInventory} {left attempt : Nat}
    {snapshot collected : VehicleSoftwareSnapshot}
    (found : collect client left attempt snapshot = some collected) :
    ∃ n before, client n before = (true, collected) := by
  induction left generalizing attempt snapshot with
  | zero => cases found
  | succ left ih =>
    unfold collect at found
    cases tried : client attempt snapshot with
    | mk success brought =>
      rw [tried] at found
      cases success with
      | true =>
        cases found
        exact ⟨attempt, snapshot, tried⟩
      | false => exact ih found

end SnapshotAssembler

end CgwFota
