import CgwFota.Cloud.Confined
import CgwFota.Crash.Trace
import CgwFota.Daemon.Service

/-!
# Snapshots of one vehicle

Whatever happens to the processes of the service, the snapshots they assemble are numbered upwards,
come from a successful collection and are valid, and those of one process are spaced.

## Main definitions

* `Report.Sound`: the snapshot is what a successful attempt brought, with a number of its own.
* `Report.Spaced`: the process has waited for its interval.
* `Numbered`: what holds of the snapshots so far, and what the running process knows of its own.

## Main result

* `snapshots_numbered_spaced`: over all processes on a store root.

## Proof strategy

Every step spends numbers: it never lowers what was spent of the sequence, and only an assembled
snapshot gets a number, above all that were spent before. The rest of the invariant is about the
clock of the process, which never falls behind its last report.
-/
namespace CgwFota.Service

open Crash
open Inventory (Allocated Leaves Spends StoreWorld Surroundings VehicleSoftwareSnapshot spent
  permits_leaves tolerates_leaves wp_allocateSnapshotSeq wp_openStore)

/-! ### The law -/

/-- What a successful attempt brought, with a number of its own. -/
structure Report.Sound (r : Report) : Prop where
  collected : ∃ n before brought, r.client n before = (true, brought) ∧
    r.snapshot = { brought with snapshot_seq := r.snapshot.snapshot_seq }
  vin : r.snapshot.vin ≠ ""
  ecus : r.snapshot.ecu_list.length ≤ 100

/-- The process has waited for the interval since each earlier one of its snapshots. -/
def Report.Spaced (r : Report) (past : List Report) : Prop :=
  ∀ p ∈ past, p.process = r.process → p.reported + r.interval.toNat * 1000000 ≤ r.asked

/-! ### What a call of the assembler does -/

section Call

variable [JsonText] [LawfulJsonText] {env : Surroundings} {s : SnapshotAssembler} {a : Assembling}

/-- What a call that assembles a snapshot has found. -/
structure Assembled (s : SnapshotAssembler) (a : Assembling) (snapshot : VehicleSoftwareSnapshot) :
    Prop where
  due : s.isThrottled a.now = false
  collected : ∃ n before brought, a.client n before = (true, brought) ∧
    snapshot = { brought with snapshot_seq := snapshot.snapshot_seq }
  valid : s.validateSnapshot snapshot = true

omit [JsonText] [LawfulJsonText] in
/-- The number plays no role in the check. -/
theorem validateSnapshot_numbered (snapshot : VehicleSoftwareSnapshot) (seq : UInt64) :
    s.validateSnapshot { snapshot with snapshot_seq := seq } = s.validateSnapshot snapshot := rfl

/-- A call leaves the assembler as it was, or assembles a snapshot with the number it allocated. -/
theorem wp_assembleStored {w : StoreWorld} :
    wp (assembleStored s a)
      (fun r w' => (r = (none, s) ∧ Spends w w') ∨
        ∃ snapshot, r = (some snapshot, { s with lastReportTime := a.reported }) ∧
          Assembled s a snapshot ∧ Allocated w (.ok snapshot.snapshot_seq) w')
      (Spends w) env w := by
  have same : Spends w w := ⟨le_refl _, rfl⟩
  unfold assembleStored
  split
  -- throttled
  next => exact .inl ⟨rfl, same⟩
  next due =>
    cases collected : SnapshotAssembler.collect a.client s.maxAttempts.toNat 0 {} with
    -- no attempt was successful
    | none => exact .inl ⟨rfl, same⟩
    | some brought =>
      dsimp only
      split
      -- the snapshot is not valid
      next => exact .inl ⟨rfl, same⟩
      next valid =>
        rw [wp_bind]
        apply wp_mono wp_allocateSnapshotSeq _ fun _ spends => spends
        rintro (x | seq) w' allocated
        -- no number could be allocated
        · exact .inl ⟨rfl, allocated.spends⟩
        -- it gets the number
        · obtain ⟨n, before, tried⟩ := SnapshotAssembler.collect_of_attempt collected
          right
          refine ⟨_, rfl, ⟨by simpa using due, ⟨n, before, brought, tried, rfl⟩, ?_⟩, allocated⟩
          rw [validateSnapshot_numbered]
          simpa using valid

omit [JsonText] [LawfulJsonText] in
theorem Assembled.vin {snapshot : VehicleSoftwareSnapshot} (assembled : Assembled s a snapshot) :
    snapshot.vin ≠ "" := by
  have valid := assembled.valid
  unfold SnapshotAssembler.validateSnapshot at valid
  split at valid
  next => cases valid
  next vin => exact vin

omit [JsonText] [LawfulJsonText] in
/-- A snapshot that was assembled has no more entries than allowed. -/
theorem Assembled.ecus {snapshot : VehicleSoftwareSnapshot} (assembled : Assembled s a snapshot) :
    snapshot.ecu_list.length ≤ s.maxEcuCount.toNat := by
  have valid := assembled.valid
  unfold SnapshotAssembler.validateSnapshot at valid
  split at valid
  next => cases valid
  next =>
    split at valid
    next => cases valid
    next few => exact Nat.le_of_not_lt few

omit [JsonText] [LawfulJsonText] in
/-- The throttle counts whole milliseconds. -/
theorem Assembled.waited {snapshot : VehicleSoftwareSnapshot} (assembled : Assembled s a snapshot)
    (later : s.lastReportTime ≤ a.now) :
    s.lastReportTime + s.throttleIntervalMs.toNat * 1000000 ≤ a.now := by
  have due := assembled.due
  unfold SnapshotAssembler.isThrottled at due
  simp only [decide_eq_false_iff_not, not_lt] at due
  rw [Int.tdiv_eq_ediv_of_nonneg (by omega)] at due
  omega

end Call

/-! ### What the other steps do -/

section Steps

variable [JsonText]

instance : IsPreorder StoreWorld Spends where
  refl _ := ⟨le_refl _, rfl⟩
  trans _ _ _ first second :=
    ⟨first.spent.trans second.spent, second.calls.trans first.calls⟩

instance : Trans Spends Spends Spends := ⟨trans_of Spends⟩

variable {env : Surroundings}

omit [JsonText] in
theorem cloudKey_ne_sequence : ¬Cloud.CloudKey Inventory.keys.SEQUENCE :=
  fun own => Cloud.cloudKey_apart own (.state (by decide))

/-- The cloud store leaves the sequence alone. -/
theorem follows_cloud {α : Type} {m : Cloud.MigrationM α}
    (leads : ∀ R : StoreWorld → StoreWorld → Prop, ∀ [IsPreorder StoreWorld R] [Trans R R R],
      Inventory.Permits env Cloud.CloudKey R → Throwing.Leads env R m) :
    Follows env Spends Spends m.run :=
  Follows.mono (leads Leaves (permits_leaves env cloudKey_ne_sequence))
    (fun _ _ left => left.spends) fun _ _ left => left.spends

theorem follows_saveEncoded (r : Cloud.Write) :
    Follows env Spends Spends (Cloud.saveEncoded r).run :=
  follows_cloud fun _ _ _ permits => Cloud.leads_saveEncoded permits r

theorem follows_remove (k : Cloud.Kind) (id : k.Id) :
    Follows env Spends Spends (Cloud.Store.remove (k.key id)).run :=
  follows_cloud fun _ _ _ permits => Cloud.leads_remove permits (.record k id)

theorem follows_setSelf (f : Inventory.FotaStateStore → Inventory.FotaStateStore) :
    Follows env Spends Spends (Inventory.setSelf f) :=
  fun _ => ⟨le_refl _, rfl⟩

theorem follows_startUp [LawfulJsonText] (dedupeMaxEntries : UInt32) (dedupeTtlMs : Int64) :
    Follows env Spends Spends (Inventory.startUp dedupeMaxEntries dedupeTtlMs) := by
  apply Follows.bind (fun w => wp_openStore (refl_of Spends w) dedupeMaxEntries dedupeTtlMs)
  rintro (_ | object)
  · exact .pure _
  · apply Follows.bind (follows_setSelf fun _ => object)
    intro _
    exact (tolerates_leaves env).recover.mono (fun _ _ left => left.spends) fun _ _ left =>
      left.spends

theorem follows_openStores [LawfulJsonText] (c : Config.FotaConfig) :
    Follows env Spends Spends (openStores c) := by
  apply (follows_startUp _ _).bind
  rintro (_ | plan)
  · exact .pure _
  apply (follows_cloud fun _ _ _ permits => Cloud.leads_migrateOtaToFota permits).bind
  rintro (_ | result)
  · exact .pure _
  · exact .pure _

end Steps

/-! ### Every run -/

/-- The numbers of the snapshots, newest first. -/
def System.numbers (s : System) : List Nat := s.reports.map (·.snapshot.snapshot_seq.toNat)

/-- The snapshots so far, and what the running process knows of its own. -/
structure Numbered [JsonText] (s : System) : Prop where
  issued : Issued (spent s.world.disk) s.numbers
  sound : ∀ r ∈ s.reports, r.Sound
  spaced : Always Report.Spaced s.reports
  past : ∀ r ∈ s.reports, r.process ≤ s.process
  idle : s.running = none → ∀ r ∈ s.reports, r.process ≠ s.process
  setUp : ∀ p, s.running = some p → p.assembler.maxEcuCount = 100
  /-- The assembler remembers the latest one of its process. -/
  latest : ∀ p, s.running = some p → p.assembler.lastReportTime ≤ p.clock ∧
    ∀ r ∈ s.reports, r.process = s.process → r.reported ≤ p.assembler.lastReportTime

section Runs

variable [JsonText] [LawfulJsonText] {env : Surroundings} {s : System}

omit [LawfulJsonText] in
theorem numbered_installed (disk : Inventory.Disk) : Numbered (installed disk) where
  issued := .nil _
  sound := nofun
  spaced := trivial
  past := nofun
  idle _ := nofun
  setUp := nofun
  latest := nofun

omit [LawfulJsonText] in
theorem Numbered.world {w : StoreWorld} (numbered : Numbered s) (spends : Spends s.world w) :
    Numbered { s with world := w } :=
  { numbered with issued := numbered.issued.grow spends.spent }

omit [LawfulJsonText] in
theorem Numbered.ended {w : StoreWorld} (numbered : Numbered s) (spends : Spends s.world w) :
    Numbered (s.ended w) where
  issued := numbered.issued.grow spends.spent
  sound := numbered.sound
  spaced := numbered.spaced
  past r member := Nat.le_succ_of_le (numbered.past r member)
  idle _ r member := Nat.ne_of_lt (Nat.lt_succ_of_le (numbered.past r member))
  setUp := nofun
  latest := nofun

/-- A start. -/
theorem Numbered.start (numbered : Numbered s) (c : Config.FotaConfig) (now : Int) :
    Numbered (s.start env c now) := by
  unfold System.start
  cases idle : s.running with
  | some p => exact numbered
  | none =>
    have opened : Follows env Spends Spends (openStores c) := follows_openStores c
    have follows := opened s.world
    unfold wp at follows
    dsimp only
    cases run : openStores c env s.world with
    -- the process is lost while it starts
    | crashed w =>
      rw [run] at follows
      exact numbered.ended follows
    | done up w =>
      rw [run] at follows
      cases up with
      -- it does not come up
      | false => exact numbered.ended follows
      -- it is up, with an assembler of its own
      | true =>
        constructor
        case issued => exact numbered.issued.grow follows.spent
        case sound => exact numbered.sound
        case spaced => exact numbered.spaced
        case past => exact numbered.past
        case idle =>
          intro none
          cases none
        case setUp =>
          intro p same
          cases same
          rfl
        case latest =>
          intro p same
          cases same
          refine ⟨?_, fun r member this => absurd this (numbered.idle idle r member)⟩
          show now - 3600000000000 ≤ now
          omega

omit [LawfulJsonText] in
/-- A snapshot that is assembled goes on top of the others. -/
theorem Numbered.report {p : Running} {w : StoreWorld} {snapshot : VehicleSoftwareSnapshot}
    {waited took : Nat} {client : Nat → CollectVehicleInventory} (numbered : Numbered s)
    (up : s.running = some p)
    (assembled : Assembled p.assembler
      { now := p.clock + waited, client, reported := p.clock + waited + took } snapshot)
    (allocated : Allocated s.world (.ok snapshot.snapshot_seq) w) :
    Numbered { s with
      world := w
      running := some
        { assembler := { p.assembler with lastReportTime := p.clock + waited + took }
          clock := p.clock + waited + took }
      reports :=
        { process := s.process
          interval := p.assembler.throttleIntervalMs
          client
          asked := p.clock + waited
          reported := p.clock + waited + took
          snapshot } :: s.reports } := by
  obtain ⟨known, latest⟩ := numbered.latest p up
  have waits := assembled.waited (show p.assembler.lastReportTime ≤ p.clock + waited by omega)
  simp only at waits
  constructor
  -- its number is above all others
  case issued =>
    exact numbered.issued.issue allocated.spends.spent (allocated.fresh _ rfl)
      (Inventory.mem_spent (allocated.durable _ rfl))
  -- it is what the attempt brought
  case sound =>
    intro r member
    rcases List.mem_cons.mp member with rfl | member
    · have ecus := assembled.ecus
      rw [numbered.setUp p up] at ecus
      exact ⟨assembled.collected, assembled.vin, ecus⟩
    · exact numbered.sound r member
  -- the last one of the same process is an interval ago
  case spaced =>
    refine ⟨fun r member same => ?_, numbered.spaced⟩
    have before := latest r member same
    simp only
    omega
  case past =>
    intro r member
    rcases List.mem_cons.mp member with rfl | member
    · exact le_refl _
    · exact numbered.past r member
  case idle =>
    intro none
    cases none
  case setUp =>
    intro p' same
    cases same
    exact numbered.setUp p up
  -- it is the latest now
  case latest =>
    intro p' same
    cases same
    refine ⟨le_refl _, fun r member this => ?_⟩
    rcases List.mem_cons.mp member with rfl | member
    · exact le_refl _
    · have before := latest r member this
      simp only
      omega

/-- Collecting a snapshot, which may come to nothing. -/
theorem Numbered.assemble (numbered : Numbered s) (waited took : Nat)
    (client : Nat → CollectVehicleInventory) : Numbered (s.assemble env waited took client) := by
  unfold System.assemble
  cases up : s.running with
  | none => exact numbered
  | some p =>
    have called : wp (assembleStored p.assembler _) _ _ env s.world := wp_assembleStored
      (a := { now := p.clock + waited, client, reported := p.clock + waited + took })
    unfold wp at called
    dsimp only
    cases run : assembleStored p.assembler
        { now := p.clock + waited, client, reported := p.clock + waited + took } env s.world with
    -- the process is lost
    | crashed w =>
      rw [run] at called
      exact numbered.ended called
    | done r w =>
      rw [run] at called
      obtain ⟨known, latest⟩ := numbered.latest p up
      rcases called with ⟨rfl, spends⟩ | ⟨snapshot, rfl, assembled, allocated⟩
      · -- no snapshot: only time has passed
        constructor
        case issued => exact numbered.issued.grow spends.spent
        case sound => exact numbered.sound
        case spaced => exact numbered.spaced
        case past => exact numbered.past
        case idle =>
          intro none
          cases none
        case setUp =>
          intro p' same
          cases same
          exact numbered.setUp p up
        case latest =>
          intro p' same
          cases same
          refine ⟨?_, latest⟩
          simp only
          omega
      · exact numbered.report up assembled allocated

omit [LawfulJsonText] in
/-- A write to the cloud store. -/
theorem Numbered.write {α : Type} {m : Cloud.MigrationM α} (numbered : Numbered s) (key : String)
    (value : Option Inventory.Bytes) (follows : Follows env Spends Spends m.run) :
    Numbered (s.write env key value m) := by
  have follows := follows s.world
  unfold wp at follows
  have logged (c : Bool) : Numbered { s with writes := ⟨key, value, c⟩ :: s.writes } :=
    ⟨numbered.issued, numbered.sound, numbered.spaced, numbered.past, numbered.idle,
      numbered.setUp, numbered.latest⟩
  -- no process is up, the request is answered, or the process is lost with it
  rcases write_cases env s key value m with ⟨-, same⟩ | ⟨r, w, run, -, same⟩ | ⟨w, run, -, same⟩
  · rw [same]
    exact numbered
  · rw [same]
    rw [run] at follows
    exact (logged _).world follows
  · rw [same]
    rw [run] at follows
    exact (logged false).ended follows

theorem Numbered.perform (numbered : Numbered s) (op : Operation) :
    Numbered (s.perform env op) := by
  cases op with
  | start c now => exact numbered.start c now
  | assemble waited took client => exact numbered.assemble waited took client
  | save r => exact numbered.write _ _ (follows_saveEncoded r)
  | remove k item id => exact numbered.write _ _ (follows_remove k id)
  | exit => exact numbered.ended (refl_of Spends _)

theorem Numbered.run (numbered : Numbered s) (ops : List Operation) :
    Numbered (runService env s ops) := by
  induction ops generalizing s with
  | nil => exact numbered
  | cons op ops ih => exact ih (numbered.perform op)

/-- Over all processes on a store root, whatever is killed, refused or damaged and whatever the
cloud store and the migration do in between: the snapshots are numbered upwards, each is what a
successful attempt brought and valid, and one process spaces its snapshots by its interval. -/
theorem snapshots_numbered_spaced (env : Surroundings) (disk : Inventory.Disk)
    (ops : List Operation) :
    let s := runService env (installed disk) ops
    (s.reports.reverse.map (·.snapshot.snapshot_seq)).Pairwise (· < ·) ∧
      (∀ r ∈ s.reports, r.Sound) ∧ Always Report.Spaced s.reports := by
  have numbered : Numbered (runService env (installed disk) ops) :=
    (numbered_installed disk).run ops
  refine ⟨?_, numbered.sound, numbered.spaced⟩
  rw [List.map_reverse, List.pairwise_reverse]
  have decreasing := numbered.issued.decreasing
  unfold System.numbers at decreasing
  rw [List.pairwise_map] at decreasing ⊢
  exact decreasing.imp fun above => UInt64.lt_iff_toNat_lt.mpr above

end Runs

section Example

open Inventory (undisturbed)

/-- Change detection with an interval of five minutes. -/
def quietConfig : Config.FotaConfig where
  changeDetectionEnabled := true
  minReportInterval := 300000
  maxPendingRequests := 32
  dedupeMaxEntries := 100
  dedupeTtlMs := 3600000
  diagCollectTimeout := 30000
  diagRetry := { maxAttempts := 2, backoff := 1000 }
  transport := {}
  genericTransport := {}
  cloud := {}
  mock := {}
  storeRoot := "/var/lib/cgw"

/-- The first process. -/
def firstStart : List Operation := [.start quietConfig 0]

/-- Two collections at once, then a third in a second process. -/
def threeCollections : List Operation :=
  let client (_ : Nat) : CollectVehicleInventory := fun s => (true, { s with vin := "VIN-1" })
  [.start quietConfig 0, .assemble 0 7 client, .assemble 0 7 client, .exit, .start quietConfig 0,
    .assemble 0 7 client]

/-- The second collection is throttled, and the second process goes on with the next number. -/
theorem snapshots_numbered_spaced_restart :
    let s := @runService compactText (@undisturbed compactText) (installed fun _ => none)
      threeCollections
    s.reports.map (fun r => (r.process, r.snapshot.snapshot_seq)) = [(1, 2), (0, 1)] ∧
      (s.reports.reverse.map (·.snapshot.snapshot_seq)).Pairwise (· < ·) ∧
      (∀ r ∈ s.reports, r.Sound) ∧ Always Report.Spaced s.reports := by
  refine ⟨by decide +kernel, ?_⟩
  exact @snapshots_numbered_spaced compactText lawful_compactText (@undisturbed compactText)
    (fun _ => none) threeCollections

end Example

end CgwFota.Service
