import CgwFota.Orchestrator.Advance
import CgwFota.Orchestrator.SnapshotAssembler

/-!
# Full task checks and their inventory

The assembler may be missing, may throttle, fail to collect or be out of numbers; all of this comes
to `doCheckTask` as an inventory with nothing in it. It asks for a full check all the same.

## Main definitions

* `InventorySource`, `supply`: the assembler of each process, and what the port returns of it.
* `CarriesInventory`: a full request has ECUs and the digest of exactly these.
* `Assembles`, `Available`: the assembler is not throttled, collects ECUs and gets a number.
* `AskedWith`: a request is made of the inventory that was returned last.

## Main results

* `full_requests_carry_inventory_iff`: all full requests carry their inventory exactly if it was
  available at each.
* `throttled_request_without_inventory`: the second step comes too early.

## Proof strategy

Between the collection and the request nothing happens, so the request is known from the reply
before it, and the reply from the assembler. What is left is a statement about the assembler alone.
-/
namespace CgwFota

open Crash
open Inventory (EcuVersionEntry VehicleSoftwareSnapshot)

/-! ### The inventory port -/

/-- What feeds the inventory port: the assembler of each process, and what each call of it meets, by
how much has happened before. -/
structure InventorySource where
  sha256_hex : String → String
  fotaMasterVersion : String
  create : Nat → Option SnapshotAssembler
  assembling : Nat → Assembling

namespace InventorySource

/-- The assembler after what has happened so far. A new process has a new one. -/
def assembler (v : InventorySource) : List Entry → Option SnapshotAssembler
  | [] => none
  | a :: past =>
    match a.event with
    | .restarted => v.create past.length
    | .returned (.collectInventory _) _ =>
      (v.assembler past).map fun s => (s.assembleSnapshot (v.assembling past.length)).2
    | _ => v.assembler past

/-- What `collectInventory` returns at this point. -/
def supply (v : InventorySource) (past : List Entry) (mode : InventoryMode) : CollectedInventory :=
  collectInventory v.sha256_hex v.fotaMasterVersion
    ((v.assembler past).map fun s => (s.assembleSnapshot (v.assembling past.length)).1) mode

end InventorySource

/-- The inventories come from the assembler. -/
def Supplied (v : InventorySource) (a : Entry) (past : List Entry) : Prop :=
  match a.event with
  | .returned (.collectInventory mode) inv => inv = v.supply past mode
  | _ => True

instance (v : InventorySource) (a : Entry) (past : List Entry) : Decidable (Supplied v a past) := by
  obtain ⟨_ | _ | ⟨c, r⟩ | _, _, _, _⟩ := a
  all_goals unfold Supplied; try infer_instance
  rcases c with _ | _ <;> infer_instance

/-! ### The law -/

/-- What is streamed for an ECU of a request. -/
def ecuVersionText (e : EcuVersion) : String :=
  e.ecuId ++ "|" ++ e.hardwarePartNumber ++ "|" ++ e.softwarePartNumber ++ "|" ++
    e.swVersion ++ ";"

/-- The digest of a list of ECUs. -/
def listDigest (sha256_hex : String → String) (ecus : List EcuVersion) : Digest :=
  { algorithm := "sha-256"
    valueHex := sha256_hex (ecus.foldl (fun canon e => canon ++ ecuVersionText e) "") }

/-- A full request has ECUs, and the digest of exactly these. -/
def CarriesInventory (sha256_hex : String → String) (a : Entry) (_past : List Entry) : Prop :=
  match a.event with
  | .called (.checkTask req _) => req.inventoryMode = .full →
    req.ecuList ≠ [] ∧ req.ecuListDigest = listDigest sha256_hex req.ecuList
  | _ => True

instance (sha256_hex : String → String) (a : Entry) (past : List Entry) :
    Decidable (CarriesInventory sha256_hex a past) := by
  obtain ⟨_ | c | _, _, _, _⟩ := a
  all_goals unfold CarriesInventory; try infer_instance
  rcases c with _ | _ <;> infer_instance

/-- The assembler is not throttled, one of its attempts brings a valid snapshot with ECUs, and it
gets a number. -/
structure Assembles (s : SnapshotAssembler) (a : Assembling) : Prop where
  due : s.isThrottled a.now = false
  collected : ∃ snapshot, SnapshotAssembler.collect a.client s.maxAttempts.toNat 0 {} =
    some snapshot ∧ s.validateSnapshot snapshot ∧ snapshot.ecu_list ≠ []
  numbered : s.hasStateStore → a.allocateSnapshotSeq.isSome

instance (s : SnapshotAssembler) (a : Assembling) : Decidable (Assembles s a) :=
  decidable_of_iff (s.isThrottled a.now = false ∧
    (∃ snapshot ∈ SnapshotAssembler.collect a.client s.maxAttempts.toNat 0 {},
      s.validateSnapshot snapshot ∧ snapshot.ecu_list ≠ []) ∧
    (s.hasStateStore → a.allocateSnapshotSeq.isSome))
    ⟨fun h => ⟨h.1, h.2.1, h.2.2⟩, fun h => ⟨h.due, h.collected, h.numbered⟩⟩

/-- At this point there is an assembler, and it has an inventory. -/
def Available (v : InventorySource) (past : List Entry) : Prop :=
  ∃ s ∈ v.assembler past, Assembles s (v.assembling past.length)

instance (v : InventorySource) (past : List Entry) : Decidable (Available v past) :=
  inferInstanceAs (Decidable (∃ s ∈ v.assembler past, _))

/-- A request follows a collection; the inventory was available when it returned. -/
def InventoryAvailable (v : InventorySource) (a : Entry) (past : List Entry) : Prop :=
  match a.event with
  | .called (.checkTask _ _) => Available v past.tail
  | _ => True

instance (v : InventorySource) (a : Entry) (past : List Entry) :
    Decidable (InventoryAvailable v a past) := by
  obtain ⟨_ | c | _, _, _, _⟩ := a
  all_goals unfold InventoryAvailable; try infer_instance
  rcases c with _ | _ <;> infer_instance

/-! ### The inventory that is supplied -/

section Supply

variable {v : InventorySource} {past : List Entry} {e : Environment} {w w' : World}
  {parts : List Part}

/-- The text of the request is the text of the collection. -/
theorem listDigest_ecuVersion (sha256_hex : String → String) (ecus : List EcuVersionEntry) :
    listDigest sha256_hex (ecus.map ecuVersion) =
      { algorithm := "sha-256", valueHex := sha256_hex (canon ecus) } := by
  unfold listDigest canon
  rw [List.foldl_map]
  rfl

/-- An inventory is available exactly if the assembler assembles a snapshot with ECUs. -/
theorem available_iff : Available v past ↔
    ∃ s ∈ v.assembler past, ∃ snapshot,
      (s.assembleSnapshot (v.assembling past.length)).1 = some snapshot ∧
        snapshot.ecu_list ≠ [] := by
  unfold Available
  refine exists_congr fun s => and_congr_right fun _ => ?_
  constructor
  -- from the conditions to the snapshot
  · rintro ⟨due, ⟨snapshot, collected, valid, some⟩, numbered⟩
    obtain ⟨assembled, outcome, same⟩ := SnapshotAssembler.assembleSnapshot_iff.mpr
      ⟨due, ⟨snapshot, collected, valid, rfl⟩, numbered⟩
    exact ⟨assembled, outcome, same ▸ some⟩
  -- and back, by what each exit of the assembler says
  · rintro ⟨assembled, outcome, some⟩
    obtain ⟨due, ⟨snapshot, collected, valid, same⟩, numbered⟩ :=
      SnapshotAssembler.assembleSnapshot_iff.mp ⟨assembled, outcome, rfl⟩
    exact ⟨due, ⟨snapshot, collected, valid, same ▸ some⟩, numbered⟩

/-- Where nothing could be collected the list is empty, and only there. -/
theorem supply_ecus : (v.supply past .full).ecuList ≠ [] ↔ Available v past := by
  rw [available_iff]
  unfold InventorySource.supply collectInventory
  cases v.assembler past with
  | none => simp
  | some s =>
    cases outcome : (s.assembleSnapshot (v.assembling past.length)).1 with
    | none => simp [outcome]
    | some snapshot => simp [outcome]

/-- The digest is that of the list, if there was one to digest. -/
theorem supply_digest (available : Available v past) :
    (v.supply past .full).ecuListDigest =
      listDigest v.sha256_hex (v.supply past .full).ecuList := by
  obtain ⟨s, process, snapshot, outcome, -⟩ := available_iff.mp available
  unfold InventorySource.supply collectInventory
  rw [show v.assembler past = some s from process]
  simp only [Option.map_some, outcome, if_true]
  rw [listDigest_ecuVersion]

/-! ### Requests -/

/-- A request is made of the inventory that was returned last. -/
def AskedWith (a : Entry) (past : List Entry) : Prop :=
  match a.event with
  | .called (.checkTask req _) => ∃ b before inv, past = b :: before ∧
    b.event = .returned (.collectInventory .full) inv ∧ req = taskCheckRequest a.mem inv
  | _ => True

theorem askedWith_of_part (a : Entry) (past : List Entry) (other : a.event.part ≠ .task) :
    AskedWith a past := by
  unfold AskedWith
  split
  next same => exact absurd (congrArg Event.part same) other
  next => trivial

/-- The law for one request, once its inventory is known. -/
theorem carriesInventory_iff {a : Entry} (asked : AskedWith a past)
    (supplied : Always (Supplied v) past) :
    CarriesInventory v.sha256_hex a past ↔ InventoryAvailable v a past := by
  unfold CarriesInventory InventoryAvailable
  unfold AskedWith at asked
  split
  next req ctx event =>
    rw [event] at asked
    obtain ⟨b, before, inv, rfl, returned, rfl⟩ := asked
    have inventory : inv = v.supply before .full := by
      -- the reply before the request is the one the assembler gave
      have entry := supplied.1
      unfold Supplied at entry
      rwa [returned] at entry
    subst inventory
    constructor
    -- a request with ECUs had some to collect
    · exact fun law => supply_ecus.mp (law rfl).1
    · exact fun available _ => ⟨supply_ecus.mpr available, supply_digest available⟩
  next => rfl

theorem asked_within (within : Within parts w w') (other : .task ∉ parts)
    (asked : Always AskedWith w.trace) : Always AskedWith w'.trace :=
  within.always (fun a past member => askedWith_of_part a past fun same => other (same ▸ member))
    asked

theorem asked_touches {α : Type} {m : Orch α} (h : Touches e parts m) (other : .task ∉ parts) :
    Keeps e (fun w => Always AskedWith w.trace) m :=
  h.keeps fun _ _ within => asked_within within other

theorem asked_freezeTask (task : VehicleTaskSnapshot) :
    Keeps e (fun w => Always AskedWith w.trace) (freezeTask task) := by
  intro w asked
  have persists : ∀ (action : String) {Q : Unit → World → Prop} {w : World},
      Always AskedWith w.trace → (∀ w', Always AskedWith w'.trace → Q () w') →
      wp (persistVehicleTask action) Q (fun w => Always AskedWith w.trace) e w := fun action Q w
      asked next => wp_persistVehicleTask ⟨trivial, asked⟩ (next _ ⟨trivial, asked⟩)
  unfold freezeTask
  simp only [wp_bind, wp_setMemory, wp_setVtState, wp_memory, wp_pure]
  refine persists _ ⟨trivial, asked⟩ fun w₁ asked => ?_
  exact persists _ ⟨trivial, asked⟩ fun w₂ asked => asked

/-- A task check asks with what it has just collected. -/
theorem asked_doCheckTask : Keeps e (fun w => Always AskedWith w.trace) doCheckTask := by
  intro w asked
  unfold doCheckTask
  simp only [wp_bind, wp_memory, wp_makeCtx]
  refine wp_call (fun w' within => asked_within within (by simp) ⟨trivial, asked⟩)
    fun w₁ inv within => ?_
  have collected : Always AskedWith (w₁.effect (.returned (.collectInventory .full) inv)).trace :=
    ⟨trivial, asked_within within (by simp) ⟨trivial, asked⟩⟩
  -- The request is made right after the inventory was returned: nothing comes in between.
  have requested :
      ∀ ctx, Always AskedWith ((w₁.effect (.returned (.collectInventory .full) inv)).effect
      (.called (.checkTask (taskCheckRequest w₁.mem inv) ctx))).trace := fun ctx =>
    ⟨⟨_, _, inv, rfl, rfl, rfl⟩, collected⟩
  refine ⟨collected, wp_call (fun w' within => asked_within within (by simp) (requested _))
    fun w₂ reply within => ?_⟩
  have replied : Always AskedWith (w₂.effect (.returned (.checkTask _ _) reply)).trace :=
    ⟨trivial, asked_within within (by simp) (requested _)⟩
  refine ⟨replied, ?_⟩
  cases reply with
  | error ex => exact replied
  | ok resp =>
    simp only [wp_ite]
    split
    next =>
      exact asked_touches (touches_requireFull [.inventory] _ _ _ (by simp)) (by simp) _ replied
    -- whatever the cloud answers, no other request is made
    next =>
      cases resp.task with
      | none => exact replied
      | some task => exact asked_freezeTask task _ replied

theorem asked_step : Keeps e (fun w => Always AskedWith w.trace) step := fun w asked =>
  wp_step (fun _ => asked) (fun _ => asked_doCheckTask w asked)
    (fun _ => asked_touches proceeds_doConsent.touches (by simp) w asked)
    (fun _ => asked_touches proceeds_doDownload.touches (by simp) w asked)
    (fun _ => asked_touches proceeds_doPermit.touches (by simp) w asked)
    (fun _ => asked_touches proceeds_doExecute.touches (by simp) w asked)
    (fun _ => asked_touches proceeds_doPermit.touches (by simp) _ ⟨trivial, asked⟩)
    (fun _ => asked_touches proceeds_doExecute.touches (by simp) _ ⟨trivial, trivial, asked⟩)

theorem asked_run (env : Environment) (s : FotaCloudStateStore) (ops : List Operation) :
    Always AskedWith (run env (boot s) ops).trace :=
  run_keeps (fun w => Always AskedWith w.trace) (fun w => Always AskedWith w.trace)
    (fun _ _ asked => ⟨trivial, asked⟩)
    (fun _ _ within => asked_within within (by simp))
    (fun w asked => asked_step _ ⟨trivial, asked⟩) (fun _ asked => asked)
    (fun _ asked => ⟨trivial, trivial, asked⟩) (fun _ asked => ⟨trivial, asked⟩) ops
    ⟨trivial, trivial⟩

end Supply

/-- Over every run in which the inventories come from the assembler: all full requests carry their
inventory exactly if, whenever one is made, the assembler was not throttled, collected ECUs and got
a number. -/
theorem full_requests_carry_inventory_iff (env : Environment) (s : FotaCloudStateStore)
    (ops : List Operation) (v : InventorySource)
    (supplied : Always (Supplied v) (run env (boot s) ops).trace) :
    Always (CarriesInventory v.sha256_hex) (run env (boot s) ops).trace ↔
      Always (InventoryAvailable v) (run env (boot s) ops).trace := by
  have asked := asked_run env s ops
  generalize (run env (boot s) ops).trace = trace at asked supplied
  induction trace with
  | nil => exact Iff.rfl
  | cons a past ih =>
    exact and_congr (carriesInventory_iff asked.1 supplied.2) (ih asked.2 supplied.2)

/-- The assembler of the vehicle, with a diagnosis that answers at once. -/
def answeringSource : InventorySource where
  sha256_hex := id
  fotaMasterVersion := "1"
  create _ := some (SnapshotAssembler.production 0 5000 0)
  assembling n :=
    { now := n
      client := fun _ =>
        DiagCall.collectVehicleInventory { response := some "LTESTVIN000000001" }
      allocateSnapshotSeq := some 7
      reported := n }

/-- The inventory it collects. -/
def answeredInventory : CollectedInventory :=
  collectInventory id "1" (some ((SnapshotAssembler.production 0 5000 0).assembleSnapshot
    (answeringSource.assembling 0)).1) .full

/-- A cloud that does not accept the inventory, and a port that has one up to this moment. -/
def collectingUntil (tick : Nat) : Environment :=
  { cooperative with
    reply := fun now c =>
      match c with
      | .collectInventory _ =>
        if now < tick then answeredInventory else { fotaMasterVersion := "1" }
      | .checkTask _ _ => .ok { inventoryDisposition := .fullRequired }
      | c => cooperativeReply c }

/-- The first full request carries the list that was collected. -/
theorem first_request_carries_inventory :
    let w := run (collectingUntil 5) (boot {}) [.step]
    Always (Supplied answeringSource) w.trace ∧
      Always (InventoryAvailable answeringSource) w.trace ∧
      Always (CarriesInventory answeringSource.sha256_hex) w.trace := by
  refine ⟨?_, ?_, (full_requests_carry_inventory_iff _ _ _ _ ?_).mpr ?_⟩
  · decide +kernel
  · decide +kernel
  · decide +kernel
  · decide +kernel

/-- The second step comes within the throttle interval: its full request has no ECUs. -/
theorem throttled_request_without_inventory :
    let w := run (collectingUntil 5) (boot {}) [.step, .step]
    Always (Supplied answeringSource) w.trace ∧
      ¬Always (CarriesInventory answeringSource.sha256_hex) w.trace := by
  decide +kernel

end CgwFota
