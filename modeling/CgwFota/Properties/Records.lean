import CgwFota.Crash.Attempts
import CgwFota.Properties.MigrationSafety
import CgwFota.Properties.Reports

/-!
# Records of the cloud store endure

Once a process has come up, nothing but the cloud store itself changes its records: not the crashes,
not the state store and not the migrations of the processes that come later.

## Main definitions

* `CloudKept`: no key of the cloud store is touched.
* `attempts`: the attempts to write a key, confirmed or not.
* `WrittenSince`: the writes since a moment account for every record.

## Main result

* `records_endure`: from a time on at which some process is up, over every run.

## Proof strategy

A process that comes up leaves no key of the earlier contract, and without one a migration is idle.
From then on a run consists of steps that leave the cloud store alone and of writes of single keys,
each of which accounts for its own key and for no other.
-/
namespace CgwFota.Service

open Crash
open Cloud (CloudKey HasOld Kind changes oldKeys removals script)
open Inventory (Bytes Disk InventoryKey Permits StoreWorld Surroundings permits_within
  wp_request_intact)

section Steps

variable [JsonText] {env : Surroundings} {w : StoreWorld} {d d' : Disk}

/-! ### Starting -/

/-- A migration that comes to its end leaves no earlier key. -/
theorem old_gone {r : Cloud.FotaMigrationResult} (ended : (script d).2 = .ok r)
    (applied : changes.Applied (script d).1 d d') : ¬HasOld d' := by
  rintro ⟨key, old, there⟩
  apply there
  have course := Cloud.course d
  rw [ended] at course
  generalize (script d).1 = cs at course applied
  cases course with
  -- there was no earlier key
  | nothing absent =>
    cases applied
    by_contra there
    exact absent ⟨key, old, there⟩
  -- the marker was there, and the last of them was removed
  | cleaned _ _ => exact Cloud.applied_all_removals applied key old
  -- all of them were migrated
  | @migrated written _ _ _ _ =>
    rw [List.append_cons] at applied
    obtain ⟨mid, -, removed⟩ := Changes.applied_append.mp applied
    exact Cloud.applied_all_removals removed key old

/-- Where there is nothing to migrate, no byte changes. -/
theorem wp_migrate_idle (intact : env.Intact) (absent : ¬HasOld w.disk) :
    wp Cloud.migrateOtaToFota.run (fun _ w' => w'.disk = w.disk) (fun w' => w'.disk = w.disk)
      env w := by
  have performs := Cloud.performs_migrateOtaToFota intact w.disk w rfl
  rw [Cloud.script_of_absent absent] at performs
  apply wp_mono performs
  · rintro (x | r) w' ended
    -- it cannot fail
    · rcases ended with ⟨impossible, -⟩ | ⟨-, part, inside, reached⟩
      · cases impossible
      · cases List.prefix_nil.mp inside
        exact reached
    -- it comes to its end with nothing done
    · exact ended.2
  · rintro w' ⟨-, part, inside, reached⟩
    -- nor is there anything it could be killed at
    cases List.prefix_nil.mp inside
    exact reached

theorem wp_migrate_done (intact : env.Intact) :
    wp Cloud.migrateOtaToFota.run (fun r w' => r.isOk → ¬HasOld w'.disk) (fun _ => True) env w := by
  apply wp_mono (Cloud.performs_migrateOtaToFota intact w.disk w rfl) _ fun _ _ => trivial
  rintro (x | r) w' ended
  · exact fun impossible => nomatch impossible
  · exact fun _ => old_gone ended.1 ended.2

/-- A process that comes up has found or made the store migrated. -/
theorem wp_openStores_up (intact : env.Intact) (c : Config.FotaConfig) :
    wp (openStores c) (fun up w' => up → ¬HasOld w'.disk) (fun _ => True) env w := by
  unfold openStores
  rw [wp_bind]
  apply wp_mono wp_true _ fun _ _ => trivial
  rintro (x | plan) w₁ -
  · exact fun impossible => nomatch impossible
  rw [wp_bind]
  apply wp_mono (wp_migrate_done intact) _ fun _ _ => trivial
  rintro (x | r) w₂ done
  · exact fun impossible => nomatch impossible
  · exact fun _ => done rfl

/-- No key of the cloud store is touched. -/
def CloudKept (w w' : StoreWorld) : Prop := ∀ key, CloudKey key → w'.disk key = w.disk key

omit [JsonText] in
theorem cloudKept_of_within {w' : StoreWorld} (within : Inventory.Within InventoryKey w w') :
    CloudKept w w' :=
  fun key own => within key (Cloud.cloudKey_apart own)

omit [JsonText] in
theorem CloudKept.absent {w' : StoreWorld} (kept : CloudKept w w') (absent : ¬HasOld w.disk) :
    ¬HasOld w'.disk := by
  rintro ⟨key, old, there⟩
  rw [kept key (.old old)] at there
  exact absent ⟨key, old, there⟩

/-- A start over a migrated store touches nothing of the cloud store. -/
theorem wp_openStores_idle (intact : env.Intact) (absent : ¬HasOld w.disk) (c : Config.FotaConfig) :
    wp (openStores c) (fun _ => CloudKept w) (CloudKept w) env w := by
  have recovered := (permits_within intact InventoryKey).startUp c.dedupeMaxEntries c.dedupeTtlMs w
  unfold openStores
  rw [wp_bind]
  apply wp_mono recovered _ fun _ within => cloudKept_of_within within
  rintro (x | plan) w₁ within
  · exact cloudKept_of_within within
  have kept := cloudKept_of_within within
  have idle (w₂ : StoreWorld) (same : w₂.disk = w₁.disk) : CloudKept w w₂ :=
    fun key own => (congrFun same key).trans (kept key own)
  rw [wp_bind]
  apply wp_mono (wp_migrate_idle intact (kept.absent absent)) _ fun w₂ same => idle w₂ same
  rintro (x | r) w₂ same
  · exact idle w₂ same
  · exact idle w₂ same

/-! ### Writing -/

/-- The write of one key: what is under the key afterwards, also where it fails. -/
structure Wrote (key : String) (value : Option Bytes) (confirmed : Bool) (w w' : StoreWorld) :
    Prop where
  own : w'.disk key = value ∨ confirmed = false ∧ w'.disk key = w.disk key
  others : ∀ other, other ≠ key → w'.disk other = w.disk other

/-- A request that writes one key. -/
theorem wpt_write {α : Type} {key : String} {value : Option Bytes} {write : Disk → Disk}
    {read : Surroundings → Disk → Except Inventory.StoreException α} (intact : env.Intact)
    (own : ∀ d, write d key = value)
    (others : ∀ d other, other ≠ key → write d other = d other) :
    wpt (Cloud.ask (Inventory.request write read)) (fun _ => Wrote key value true w)
      (fun _ => Wrote key value false w) (Wrote key value false w) env w := by
  have done (confirmed : Bool) (disk : Disk) (same : disk = write w.disk) :
      Wrote key value confirmed w { w with disk, tick := w.tick + 1 } :=
    ⟨.inl (by rw [same]; exact own _), fun other apart => by rw [same]; exact others _ other apart⟩
  apply Cloud.wpt_ask intact
  · cases read env w.disk with
    -- the answer is what the store reads, or an error
    | ok a => exact done true _ rfl
    | error x => exact done false _ rfl
  · intro _ disk either
    have cut : Wrote key value false w { w with disk, tick := w.tick + 1 } := by
      -- killed before the write or after it
      rcases either with same | same
      · exact ⟨.inr ⟨rfl, congrFun same key⟩, fun other _ => congrFun same other⟩
      · exact done false disk same
    exact ⟨fun _ => cut, cut⟩

/-- The value has the time of the clock before the request. -/
theorem wpt_saveEncoded (intact : env.Intact) (r : Cloud.Write) :
    let value := some (r.kind.codec.encode (env.clock w.tick) r.record)
    wpt (Cloud.saveEncoded r) (fun _ => Wrote r.key value true w)
      (fun _ => Wrote r.key value false w) (Wrote r.key value false w) env w := by
  intro value
  let read : StoreWorld := { w with tick := w.tick + 1 }
  have saved : wpt (Cloud.Store.save r.key (r.kind.codec.encode (env.clock w.tick) r.record))
      (fun _ => Wrote r.key value true read) (fun _ => Wrote r.key value false read)
      (Wrote r.key value false read) env read :=
    wpt_write intact (fun _ => Inventory.Disk.put_self ..) fun d _ apart =>
      Inventory.Disk.put_ne d _ apart
  unfold Cloud.saveEncoded
  rw [wpt_bind]
  show wpt (Cloud.Store.save r.key (r.kind.codec.encode (env.clock w.tick) r.record)) _ _ _ env read
  exact wpt_mono saved (fun _ _ wrote => ⟨wrote.own, wrote.others⟩)
    (fun _ _ wrote => ⟨wrote.own, wrote.others⟩) fun _ wrote => ⟨wrote.own, wrote.others⟩

theorem wpt_remove (intact : env.Intact) (key : String) :
    wpt (Cloud.Store.remove key) (fun _ => Wrote key none true w)
      (fun _ => Wrote key none false w) (Wrote key none false w) env w :=
  wpt_write intact (fun _ => if_pos rfl) fun d _ apart =>
    Inventory.Disk.remove_ne d apart

end Steps

/-! ### Every run -/

/-- The attempts to write a key. -/
def attempts (key : String) (writes : List CloudWrite) : List (Option Bytes × Bool) :=
  (writes.filter (·.key = key)).map fun w => (w.value, w.confirmed)

theorem attempts_cons_self {key : String} {value : Option Bytes} {confirmed : Bool}
    {writes : List CloudWrite} :
    attempts key (⟨key, value, confirmed⟩ :: writes) =
      (value, confirmed) :: attempts key writes := by
  simp [attempts]

theorem attempts_cons_ne {key other : String} {value : Option Bytes} {confirmed : Bool}
    {writes : List CloudWrite} (apart : other ≠ key) :
    attempts other (⟨key, value, confirmed⟩ :: writes) = attempts other writes := by
  simp [attempts, Ne.symm apart]

/-- Since the store was migrated, in `d`, the writes account for every record. -/
structure Accounted (d : Disk) (earlier : List CloudWrite) (s : System) : Prop where
  migrated : ¬HasOld s.world.disk
  holds : ∃ since, s.writes = since ++ earlier ∧ ∀ (k : Kind) (id : k.Id),
    MayHold (d (k.key id)) (attempts (k.key id) since) (s.world.disk (k.key id))

section Runs

variable [JsonText] {env : Surroundings} {s : System} {d : Disk} {earlier : List CloudWrite}

omit [JsonText] in
theorem Accounted.kept {s' : System} (accounted : Accounted d earlier s)
    (kept : CloudKept s.world s'.world) (writes : s'.writes = s.writes) :
    Accounted d earlier s' := by
  obtain ⟨since, split, holds⟩ := accounted.holds
  refine ⟨kept.absent accounted.migrated, since, writes.trans split, fun k id => ?_⟩
  rw [kept _ (.record k id)]
  exact holds k id

theorem Accounted.start (accounted : Accounted d earlier s) (intact : env.Intact)
    (c : Config.FotaConfig) (now : Int) : Accounted d earlier (s.start env c now) := by
  unfold System.start
  cases s.running with
  | some p => exact accounted
  | none =>
    have started := wp_openStores_idle intact accounted.migrated c
    unfold wp at started
    dsimp only
    cases run : openStores c env s.world with
    -- the process is lost while it starts
    | crashed w =>
      rw [run] at started
      exact accounted.kept started rfl
    | done up w =>
      rw [run] at started
      cases up with
      -- it does not come up
      | false => exact accounted.kept started rfl
      -- it is up
      | true => exact accounted.kept started rfl

/-- Assembling a snapshot is confined to the inventory. -/
theorem follows_assembleStored (intact : env.Intact) (assembler : SnapshotAssembler)
    (a : Assembling) :
    Follows env (Inventory.Within InventoryKey) (Inventory.Within InventoryKey)
      (assembleStored assembler a) := by
  unfold assembleStored
  apply Follows.ite (fun _ => .pure _)
  intro _
  cases SnapshotAssembler.collect a.client assembler.maxAttempts.toNat 0 {} with
  | none => exact .pure _
  | some snapshot =>
    dsimp only
    apply Follows.ite (fun _ => .pure _)
    intro _
    apply (permits_within intact InventoryKey).allocateSnapshotSeq.bind
    rintro (_ | _)
    · exact .pure _
    · exact .pure _

/-- Collecting a snapshot. -/
theorem Accounted.assemble (accounted : Accounted d earlier s) (intact : env.Intact)
    (waited took : Nat) (client : Nat → CollectVehicleInventory) :
    Accounted d earlier (s.assemble env waited took client) := by
  unfold System.assemble
  cases s.running with
  | none => exact accounted
  | some p =>
    have called := follows_assembleStored intact p.assembler
      { now := p.clock + waited, client, reported := p.clock + waited + took } s.world
    unfold wp at called
    dsimp only
    cases run : assembleStored p.assembler
        { now := p.clock + waited, client, reported := p.clock + waited + took } env s.world with
    | crashed w =>
      rw [run] at called
      exact accounted.kept (cloudKept_of_within called) rfl
    | done r w =>
      rw [run] at called
      exact accounted.kept (cloudKept_of_within called) rfl

omit [JsonText] in
/-- A write accounts for its own key, and for no other. -/
theorem Accounted.wrote {s' : System} {key : String} {value : Option Bytes} {confirmed : Bool}
    (accounted : Accounted d earlier s) (record : ∃ (k : Kind) (id : k.Id), key = k.key id)
    (wrote : Wrote key value confirmed s.world s'.world)
    (logged : s'.writes = ⟨key, value, confirmed⟩ :: s.writes) : Accounted d earlier s' := by
  obtain ⟨since, split, holds⟩ := accounted.holds
  constructor
  case migrated =>
    rintro ⟨old, member, there⟩
    obtain ⟨k, id, rfl⟩ := record
    rw [wrote.others old (Ne.symm (Cloud.Kind.key_ne_oldKey member k id))] at there
    exact accounted.migrated ⟨old, member, there⟩
  case holds =>
    refine ⟨⟨key, value, confirmed⟩ :: since, by rw [logged, split]; rfl, fun k id => ?_⟩
    by_cases same : k.key id = key
    -- the key that was written
    · subst same
      rw [attempts_cons_self]
      exact (holds k id).attempt wrote.own
    -- another one
    · rw [attempts_cons_ne same, wrote.others _ same]
      exact holds k id

/-- A write, whether it was confirmed or not. -/
theorem Accounted.write {α : Type} {m : Cloud.MigrationM α} {key : String}
    {value : Option Bytes} (accounted : Accounted d earlier s)
    (record : ∃ (k : Kind) (id : k.Id), key = k.key id)
    (writes : wpt m (fun _ => Wrote key value true s.world)
      (fun _ => Wrote key value false s.world) (Wrote key value false s.world) env s.world) :
    Accounted d earlier (s.write env key value m) := by
  unfold wpt wp at writes
  -- no process is up, the request is answered, or the process is lost with it
  rcases write_cases env s key value m with ⟨-, same⟩ | ⟨r, w, run, -, same⟩ | ⟨w, run, -, same⟩
  · rw [same]
    exact accounted
  · rw [same]
    rw [run] at writes
    cases r with
    | ok a => exact accounted.wrote record writes rfl
    | error x => exact accounted.wrote record writes rfl
  · rw [same]
    rw [run] at writes
    have writes : Wrote key value false s.world w := writes
    exact accounted.wrote record ⟨writes.own, writes.others⟩ rfl

theorem Accounted.perform (accounted : Accounted d earlier s) (intact : env.Intact)
    (op : Operation) : Accounted d earlier (s.perform env op) := by
  cases op with
  | start c now => exact accounted.start intact c now
  | assemble waited took client => exact accounted.assemble intact waited took client
  | save r => exact accounted.write ⟨r.kind, r.kind.idOf r.record, rfl⟩ (wpt_saveEncoded intact r)
  | remove k item id => exact accounted.write ⟨k, id, rfl⟩ (wpt_remove intact (k.key id))
  | exit => exact accounted.kept (fun _ _ => rfl) rfl

theorem Accounted.run (accounted : Accounted d earlier s) (intact : env.Intact)
    (ops : List Operation) : Accounted d earlier (runService env s ops) := by
  induction ops generalizing s with
  | nil => exact accounted
  | cons op ops ih => exact ih (accounted.perform intact op)

omit [JsonText] in
theorem Accounted.begin (migrated : ¬HasOld s.world.disk) :
    Accounted s.world.disk s.writes s :=
  ⟨migrated, [], rfl, fun _ _ => rfl⟩

/-- Only a process that is migrated is up. -/
theorem migrated_of_start (intact : env.Intact) {c : Config.FotaConfig} {now : Int}
    (idle : s.running = none) (up : (s.start env c now).running.isSome) :
    ¬HasOld (s.start env c now).world.disk := by
  have opened := wp_openStores_up (w := s.world) intact c
  unfold wp at opened
  unfold System.start at up ⊢
  rw [idle] at up ⊢
  dsimp only at up ⊢
  cases run : openStores c env s.world with
  | crashed w =>
    rw [run] at up
    cases up
  | done started w =>
    rw [run] at up opened
    cases started with
    | false => cases up
    | true => exact opened rfl

/-- Only a process over a migrated store is up after an operation. -/
theorem migrated_perform (intact : env.Intact) (op : Operation)
    (migrated : s.running.isSome → ¬HasOld s.world.disk)
    (up : (s.perform env op).running.isSome) : ¬HasOld (s.perform env op).world.disk := by
  cases idle : s.running with
  | some p =>
    have accounted := Accounted.begin (migrated (by rw [idle]; rfl))
    exact (accounted.perform intact op).migrated
  | none =>
    -- nothing but a start makes a process that is up
    cases op with
    | start c now => exact migrated_of_start intact idle up
    | assemble waited took client =>
      simp only [System.perform, System.assemble, idle] at up
      cases up
    | save r =>
      simp only [System.perform, System.write, idle] at up
      cases up
    | remove k item id =>
      simp only [System.perform, System.write, idle] at up
      cases up
    | exit => cases up

theorem migrated_run (intact : env.Intact) (ops : List Operation)
    (migrated : s.running.isSome → ¬HasOld s.world.disk) :
    (runService env s ops).running.isSome → ¬HasOld (runService env s ops).world.disk := by
  induction ops generalizing s with
  | nil => exact migrated
  | cons op ops ih => exact ih (migrated_perform intact op migrated)

/-- The writes since `s₀` say what each record of `s` is. Where the newest of them was confirmed,
the record it saved is the one that is loaded. -/
structure WrittenSince (s₀ s : System) (since : List CloudWrite) : Prop where
  split : s.writes = since ++ s₀.writes
  holds : ∀ (k : Kind) (id : k.Id),
    MayHold (s₀.world.disk (k.key id)) (attempts (k.key id) since) (s.world.disk (k.key id))
  loads : ∀ (k : Kind) (id : k.Id) (writtenAt : Int64) (r : k.Record) (older : List _),
    attempts (k.key id) since = (some (k.codec.encode writtenAt r), true) :: older →
    k.codec.Storable r → Cloud.FotaCloudStateStore.load k id s.world.disk = .ok (some r)

/-- Where no stored value is damaged, and from a time on at which some process is up: whatever
crashes, restarts, migrations and snapshots there are afterwards, each key of a record holds what
the writes of the cloud store to this key left there, up to those that were not confirmed. -/
theorem records_endure [LawfulJsonText] (intact : env.Intact) (disk : Disk)
    (before after : List Operation) (up : (runService env (installed disk) before).running.isSome) :
    let s₀ := runService env (installed disk) before
    ∃ since, WrittenSince s₀ (runService env s₀ after) since := by
  have migrated := migrated_run (s := installed disk) intact before (nomatch ·) up
  obtain ⟨-, since, split, holds⟩ := (Accounted.begin migrated).run intact after
  refine ⟨since, split, holds, fun k id writtenAt r older newest storable => ?_⟩
  have held := holds k id
  rw [newest] at held
  exact Cloud.FotaCloudStateStore.load_stored held.of_confirmed storable

end Runs

section Example

open Inventory (calm_undisturbed undisturbed)

/-- A policy is saved, and another process starts. -/
def saveAndRestart : List Operation :=
  [.save ⟨.policy, { preferenceVersion := "pref-1" }⟩, .exit, .start quietConfig 0]

/-- The other process finds the policy. -/
theorem records_endure_restart :
    let s₀ :=
      @runService compactText (@undisturbed compactText) (installed fun _ => none) firstStart
    s₀.running.isSome ∧ ∃ since, @WrittenSince compactText s₀
      (@runService compactText (@undisturbed compactText) s₀ saveAndRestart) since :=
  have up : (@runService compactText (@undisturbed compactText) (installed fun _ => none)
      firstStart).running.isSome := by decide +kernel
  ⟨up, @records_endure compactText _ lawful_compactText
    (@Surroundings.Calm.intact compactText _ (@calm_undisturbed compactText)) (fun _ => none)
    firstStart saveAndRestart up⟩

end Example

end CgwFota.Service
