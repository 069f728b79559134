import CgwFota.Cloud.Contents
import CgwFota.Properties.MigratedFields
import Mathlib.Data.Set.Card

/-!
# Consistency across keys

The migration checks that the new records can be read, one by one. Whether they agree with each
other it does not check: it ends with a consistent store where the earlier records were consistent.

## Main definitions

* `LegacyStore.Consistent`: the earlier records agree with each other.
* `CrossKey`: the new ones do, and there are as many as there were entries.
* `CrossKeyChecked`: the migration ends with such records, or throws and keeps every earlier key.
* `Readable`: the earlier records decode, and what is read again can be.

## Main results

* `migration_consistent_iff`: the migration checks it exactly where readable records are consistent.
* `migration_consistent_campaign`: it does for the records of a whole campaign.
* `acceptedAhead_migrated`: an accepted number above all numbers is migrated as it is.

## Proof strategy

What a finished migration shows under a key is the last change to it, and a key of a record is taken
exactly where some entry has it. The relations between new records are then those between the
entries, and the count is whether two entries share a key.
-/
namespace CgwFota.Cloud

open Crash
open Inventory (Thrown Disk StoreWorld Surroundings undisturbed calm_undisturbed)
open CgwFota.Cloud.FotaCloudStateStore

/-! ### Earlier records -/

namespace LegacyStore

/-- One new record for each entry. The watermarks are not an entry. -/
def entries (old : LegacyStore) : List Write := old.firstRecords ++ old.lastRecords

/-- What the earlier records would have to agree on. -/
structure Consistent (old : LegacyStore) : Prop where
  watermarks : old.outboxMeta.acceptedSequenceNo < old.outboxMeta.nextSequenceNo
  events : ∀ e ∈ old.eventEntries,
    1 ≤ e.sequenceNo ∧ e.sequenceNo < old.outboxMeta.nextSequenceNo
  distinct : (old.entries.map Write.key).Nodup
  consent : ∀ t c, old.vehicleTask = some t → old.consent = some c →
    c.vehicleTaskId = t.vehicleTaskId
  execution : ∀ t x, old.vehicleTask = some t → old.execution = some x →
    x.vehicleTaskId = t.vehicleTaskId

variable {old : LegacyStore}

/-- The entries are the records without the watermarks. -/
theorem mem_entries_iff {r : Write} : r ∈ old.entries ↔ old.Has r ∧ r.kind ≠ .eventOutboxMeta := by
  have whole : r ∈ old.records ↔ r ∈ old.entries ∨ r = ⟨.eventOutboxMeta, old.outboxMeta⟩ := by
    simp only [records, entries, List.mem_append, List.mem_cons]
    tauto
  rw [← mem_records, whole]
  constructor
  -- the records before and after the watermarks are of other kinds
  · intro member
    refine ⟨.inl member, ?_⟩
    have kinds : ∀ r ∈ old.entries, r.kind ≠ .eventOutboxMeta := by
      simp [entries, firstRecords, lastRecords, or_imp, forall_and]
    exact kinds r member
  · rintro ⟨member | rfl, other⟩
    · exact member
    · exact absurd rfl other

/-- Events are the only records with the key of an event. -/
theorem Has.of_event {r : Write} (has : old.Has r) {seq : UInt64}
    (same : (⟨r.kind, r.kind.idOf r.record⟩ : (k : Kind) × k.Id) = ⟨.event, seq⟩) :
    ∃ e ∈ old.eventEntries, e.sequenceNo = seq := by
  cases has with
  | event member =>
    cases same
    exact ⟨_, member, rfl⟩
  | _ => cases same

end LegacyStore

section CrossKey

variable [JsonText]

/-! ### New records -/

/-- The keys of the new records, apart from the watermarks. -/
def recordKeys (d : Disk) : Set String :=
  {key | d key ≠ none ∧ ∃ (k : Kind) (id : k.Id), k ≠ .eventOutboxMeta ∧ k.key id = key}

/-- The records in `d` agree with each other, and there are as many as there were entries in
`d₀`. -/
structure CrossKey (d₀ d : Disk) : Prop where
  watermarks : ∃ m, loadEventOutboxMeta d = .ok (some m) ∧
    m.acceptedSequenceNo < m.nextSequenceNo ∧
    ∀ seq, d (keys.eventKey seq) ≠ none → 1 ≤ seq ∧ seq < m.nextSequenceNo
  count : (recordKeys d).ncard = (legacyStore d₀).entries.length
  consent : ∀ t c, loadVehicleTask d = .ok (some t) → loadConsent d = .ok (some c) →
    c.vehicleTaskId = t.vehicleTaskId
  execution : ∀ t x, loadVehicleTask d = .ok (some t) →
    FotaCloudStateStore.loadExecution d = .ok (some x) → x.vehicleTaskId = t.vehicleTaskId

/-- A migration that comes to its end leaves consistent records; one that throws keeps every
earlier key, unless the store failed while they were being removed. -/
def CrossKeyChecked (e : Surroundings) (d₀ : Disk) : Prop :=
  match migrateOnce e d₀ with
  | .done (.ok _) w => HasOld d₀ → CrossKey d₀ w.disk
  | .done (.error _) w => e.Calm → ∀ key ∈ oldKeys, w.disk key = d₀ key
  | .crashed _ => True

/-- The records decode, and those that are read again can be read again. -/
structure Readable (d : Disk) : Prop where
  there : HasOld d
  decodes : Decodes d
  fits : ∀ r, (legacyStore d).Has r → ⟨r.kind, r.kind.idOf r.record⟩ ∈ rechecked → r.Fits

variable {e : Surroundings} {d₀ d : Disk} {written : Nat}

/-! ### What the new store shows -/

/-- The last change to a key is the write of a record that has it. -/
theorem last_planned_eq {key : String} {c : Change} (decodes : Decodes d₀)
    (last : changes.last key (planned d₀).1 = some c) :
    ∃ r, (legacyStore d₀).Has r ∧ c = .write r ∧ r.key = key := by
  rw [planned_of_decodes decodes] at last
  dsimp only at last
  obtain ⟨before, after, whole, here, -⟩ := Changes.last_eq_some last
  have member : c ∈ (legacyStore d₀).records.map .write := by
    rw [whole]
    simp
  obtain ⟨r, has, rfl⟩ := List.mem_map.mp member
  exact ⟨r, LegacyStore.mem_records.mp has, rfl, here⟩

theorem last_planned_of_has (decodes : Decodes d₀) {r : Write} (has : (legacyStore d₀).Has r) :
    ∃ c, changes.last r.key (planned d₀).1 = some c := by
  cases last : changes.last r.key (planned d₀).1 with
  | some c => exact ⟨c, rfl⟩
  | none =>
    have member : Change.write r ∈ (planned d₀).1 := by
      rw [planned_of_decodes decodes]
      exact List.mem_map.mpr ⟨r, LegacyStore.mem_records.mpr has, rfl⟩
    exact absurd rfl (Changes.last_eq_none.mp last _ member)

section Shown

variable (legacy : Legacy d₀) (decodes : Decodes d₀)
  (shown : ∀ key, key ∉ oldKeys → changes.Shows (transferred d₀ written) d₀ key (d key))

include legacy decodes shown

/-- A key of a record is taken where some entry has it. -/
theorem taken_iff (k : Kind) (id : k.Id) :
    d (k.key id) ≠ none ↔ ∃ r, (legacyStore d₀).Has r ∧ r.key = k.key id := by
  have fresh : k.key id ∉ oldKeys := fun old => Kind.key_ne_oldKey old k id rfl
  have value := shown _ fresh
  have same :
      changes.last (k.key id) (transferred d₀ written) = changes.last (k.key id) (planned d₀).1 :=
    last_transferred (k.key_ne_marker id)
  constructor
  -- nothing was written under the key, where there was nothing to begin with
  · intro taken
    cases last : changes.last (k.key id) (planned d₀).1 with
    | none =>
      rw [last] at same
      exact absurd ((value.frame same).trans (legacy.noRecord k id)) taken
    | some c =>
      obtain ⟨r, has, -, here⟩ := last_planned_eq decodes last
      exact ⟨r, has, here⟩
  -- the record of an entry was written, and nothing removes it
  · rintro ⟨r, has, here⟩
    obtain ⟨c, last⟩ := last_planned_of_has decodes has
    obtain ⟨r', -, rfl, -⟩ := last_planned_eq decodes last
    rw [here] at last
    obtain ⟨stamp, stored⟩ := value.of_last (same.trans last)
    rw [stored]
    simp [changes, Change.value]

/-- The keys that are taken are those of the entries. -/
theorem recordKeys_shown :
    recordKeys d = {key | key ∈ (legacyStore d₀).entries.map Write.key} := by
  ext key
  simp only [recordKeys, Set.mem_ofPred_eq, List.mem_map]
  constructor
  -- from a taken key to the entry behind it
  · rintro ⟨taken, k, id, other, rfl⟩
    obtain ⟨r, has, here⟩ := (taken_iff legacy decodes shown k id).mp taken
    have kinds : r.kind = k := congrArg Sigma.fst (Kind.key_injective here)
    refine ⟨r, LegacyStore.mem_entries_iff.mpr ⟨has, ?_⟩, here⟩
    rw [kinds]
    exact other
  -- and back
  · rintro ⟨r, member, rfl⟩
    obtain ⟨has, other⟩ := LegacyStore.mem_entries_iff.mp member
    exact ⟨(taken_iff legacy decodes shown _ _).mpr ⟨r, has, rfl⟩, _, _, other, rfl⟩

variable [LawfulJsonText]

omit legacy in
/-- What is loaded of a kind that is read again is what its only entry became. -/
theorem load_single {r : Write} (has : (legacyStore d₀).Has r)
    (again : ⟨r.kind, r.kind.idOf r.record⟩ ∈ rechecked) (fits : r.Fits) :
    load r.kind (r.kind.idOf r.record) d = .ok (some r.record) := by
  have fresh : r.key ∉ oldKeys := fun old => Kind.key_ne_oldKey old _ _ rfl
  obtain ⟨c, last⟩ := last_planned_of_has decodes has
  obtain ⟨r', has', rfl, here⟩ := last_planned_eq decodes last
  have kinds : r.kind = r'.kind := congrArg Sigma.fst (Write.eq_of_key here.symm)
  have same : r = r' := has.unique has' kinds again
  subst same
  obtain ⟨stamp, stored⟩ :=
    (shown r.key fresh).of_last ((last_transferred (r.kind.key_ne_marker _)).trans last)
  exact load_stored stored ⟨has.current, fits⟩

/-- What is loaded of a kind that is read again comes from an entry. -/
theorem has_of_load {k : Kind} {id : k.Id} {x : k.Record} (again : ⟨k, id⟩ ∈ rechecked)
    (readable : Readable d₀) (loaded : load k id d = .ok (some x)) :
    ∃ r : Write, (legacyStore d₀).Has r ∧ r = ⟨k, x⟩ := by
  have taken : d (k.key id) ≠ none := by
    intro absent
    rw [load_absent absent] at loaded
    cases loaded
  obtain ⟨r, has, here⟩ := (taken_iff legacy decodes shown k id).mp taken
  have target : (⟨r.kind, r.kind.idOf r.record⟩ : (k : Kind) × k.Id) = ⟨k, id⟩ :=
    Kind.key_injective here
  obtain ⟨k', x'⟩ := r
  -- a key tells the kind and the id
  cases target
  have stored := load_single decodes shown has again (readable.fits _ has again)
  rw [loaded] at stored
  cases stored
  exact ⟨_, has, rfl⟩

/-- Consistent records come from consistent entries only. -/
theorem crossKey_iff (readable : Readable d₀) : CrossKey d₀ d ↔ (legacyStore d₀).Consistent := by
  have single {r : Write} (has : (legacyStore d₀).Has r)
      (again : ⟨r.kind, r.kind.idOf r.record⟩ ∈ rechecked) :
      load r.kind (r.kind.idOf r.record) d = .ok (some r.record) :=
    load_single decodes shown has again (readable.fits r has again)
  -- the watermarks are read back as they were written
  have watermarks : loadEventOutboxMeta d = .ok (some (legacyStore d₀).outboxMeta) :=
    single .outboxMeta (by simp [rechecked, Kind.idOf])
  have taken := taken_iff legacy decodes shown .event
  -- there are as many keys as entries exactly if no two entries share one
  have count : (recordKeys d).ncard = (legacyStore d₀).entries.length ↔
      ((legacyStore d₀).entries.map Write.key).Nodup := by
    rw [recordKeys_shown legacy decodes shown, ← List.coe_toFinset, Set.ncard_coe_finset]
    constructor
    · intro same
      rw [← List.length_map (f := Write.key)] at same
      exact Multiset.toFinset_card_eq_card_iff_nodup.mp same
    · intro distinct
      rw [List.toFinset_card_of_nodup distinct, List.length_map]
  constructor
  -- consistent new records: each relation is read back from them
  · intro cross
    obtain ⟨m, loaded, below, inside⟩ := cross.watermarks
    rw [watermarks] at loaded
    cases loaded
    refine ⟨below, ?_, count.mp cross.count, ?_, ?_⟩
    · intro e member
      exact inside _ ((taken _).mpr ⟨_, .event member, rfl⟩)
    · intro t c isTask isConsent
      exact cross.consent _ _ (single (.vehicleTask isTask) (by simp [rechecked, Kind.idOf]))
        (single (.consent isConsent) (by simp [rechecked, Kind.idOf]))
    · intro t x isTask isExecution
      exact cross.execution _ _ (single (.vehicleTask isTask) (by simp [rechecked, Kind.idOf]))
        (single (.execution isExecution) (by simp [rechecked, Kind.idOf]))
  -- consistent entries: what is loaded comes from an entry
  · intro consistent
    have origin (k : Kind) (id : k.Id) {x : k.Record} (again : ⟨k, id⟩ ∈ rechecked)
        (loaded : load k id d = .ok (some x)) :
        ∃ r : Write, (legacyStore d₀).Has r ∧ r = ⟨k, x⟩ :=
      has_of_load legacy decodes shown again readable loaded
    have isTask {t : FotaVehicleTaskRecord} (loaded : loadVehicleTask d = .ok (some t)) :
        ∃ old, (legacyStore d₀).vehicleTask = some old ∧ t.vehicleTaskId = old.vehicleTaskId := by
      obtain ⟨r, has, rfl⟩ := origin .vehicleTask () (by simp [rechecked]) loaded
      cases has with
      | vehicleTask there => exact ⟨_, there, rfl⟩
    refine ⟨⟨_, watermarks, consistent.watermarks, ?_⟩, count.mpr consistent.distinct, ?_, ?_⟩
    · intro seq present
      obtain ⟨r, has, here⟩ := (taken seq).mp present
      obtain ⟨e, member, rfl⟩ := has.of_event (Kind.key_injective here)
      exact consistent.events e member
    · intro t c task loaded
      obtain ⟨old, there, same⟩ := isTask task
      obtain ⟨r, has, rfl⟩ := origin .consent () (by simp [rechecked]) loaded
      cases has with
      | consent there' =>
        rw [same]
        exact consistent.consent _ _ there there'
    · intro t x task loaded
      obtain ⟨old, there, same⟩ := isTask task
      obtain ⟨r, has, rfl⟩ := origin .execution () (by simp [rechecked]) loaded
      cases has with
      | execution there' =>
        rw [same]
        exact consistent.execution _ _ there there'

end Shown

/-! ### Runs -/

section Lawful

variable [LawfulJsonText]

theorem rereads_of_readable (legacy : Legacy d₀) (readable : Readable d₀) : rereads d₀ = .ok () :=
  (rereads_iff readable.decodes legacy.noRecord).mpr readable.fits

omit [LawfulJsonText] in
/-- A migration that throws undisturbed has removed nothing. -/
theorem olds_of_thrown {x : Aborted} (thrown : (script d₀).2 = .error x)
    (applied : changes.Applied (script d₀).1 d₀ d) : ∀ key ∈ oldKeys, d key = d₀ key := by
  have writes := writesOnly_planned d₀
  -- every way that throws comes before the removals
  have way := course d₀
  generalize (script d₀).1 = cs, (script d₀).2 = result at thrown applied way
  intro key old
  cases way with
  | nothing => cases thrown
  | unreadable => rw [applied]
  | cleaned => cases thrown
  | stopped => exact applied.frame (writes.last (List.mem_cons_of_mem _ old))
  | rejected => exact applied.frame (writes.last (List.mem_cons_of_mem _ old))
  | migrated => cases thrown

/-- The migration ends with consistent records, or throws and keeps every earlier key, exactly
where the earlier records cannot all be read or are consistent. -/
theorem migration_consistent_iff {d₀ : Disk} (legacy : Legacy d₀) :
    (∀ e : Surroundings, e.Intact → CrossKeyChecked e d₀) ↔
      (Readable d₀ → (legacyStore d₀).Consistent) := by
  constructor
  -- an undisturbed run to the end
  · intro checked readable
    have calm := calm_undisturbed
    obtain ⟨w, done, applied⟩ := migrateOnce_calm calm d₀
    have ends := checked _ calm.intact
    unfold CrossKeyChecked at ends
    rw [done] at ends
    have way := course d₀
    have finish (r : FotaMigrationResult) (completed : (script d₀).2 = .ok r) :=
      (Phase.start d₀).finish legacy completed applied
    generalize (script d₀).1 = cs, (script d₀).2 = result at applied ends way finish
    cases result with
    -- with readable records it does not throw
    | error x =>
      cases way with
      | unreadable _ marker => rw [legacy.markerOf] at marker; cases marker
      | stopped _ _ plan => rw [planned_of_decodes readable.decodes] at plan; cases plan
      | rejected _ _ _ again => rw [rereads_of_readable legacy readable] at again; cases again
    -- so it ends with consistent ones
    | ok r =>
      cases finish r rfl with
      | idle absent => exact absurd readable.there absent
      | migrated _ _ _ shown =>
        exact (crossKey_iff legacy readable.decodes shown readable).mp (ends readable.there)
  · intro consistent e intact
    unfold CrossKeyChecked
    cases run : migrateOnce e d₀ with
    | crashed w => trivial
    | done r w =>
      -- it threw: nothing was removed, unless the store failed in the removals
      cases r with
      | error x =>
        intro calm
        obtain ⟨w', done, applied⟩ := migrateOnce_calm calm d₀
        rw [run] at done
        injection done with thrown same
        rw [same]
        exact olds_of_thrown thrown.symm applied
      -- it came to its end, which it does with readable records only
      | ok r =>
        intro there
        obtain ⟨done, applied⟩ := migrateOnce_ok intact run
        cases (Phase.start d₀).finish legacy done applied with
        | idle absent => exact absurd there absent
        | migrated _ plan again shown =>
          have decodes := decodes_of_planned plan
          have readable : Readable d₀ :=
            ⟨there, decodes, (rereads_iff decodes legacy.noRecord).mp again⟩
          exact (crossKey_iff legacy decodes shown readable).mpr (consistent readable)

end Lawful

/-- The migration came to its end with no number left above the accepted one. -/
def endsAhead (o : Outcome StoreWorld (Except Aborted FotaMigrationResult)) : Bool :=
  match o with
  | .done (.ok _) w => (loadEventOutboxMeta w.disk).toOption.join.any fun m =>
    m.nextSequenceNo ≤ m.acceptedSequenceNo
  | _ => false

/-- A migration that ends so has not checked anything. -/
theorem not_checked_of_ahead (ahead : endsAhead (migrateOnce e d) = true) (there : HasOld d) :
    ¬CrossKeyChecked e d := by
  unfold CrossKeyChecked
  cases run : migrateOnce e d with
  | crashed w =>
    rw [run] at ahead
    cases ahead
  | done r w =>
    rw [run] at ahead
    cases r with
    | error x => cases ahead
    | ok r =>
      intro checked
      obtain ⟨m, loaded, below, -⟩ := (checked there).watermarks
      unfold endsAhead at ahead
      dsimp only at ahead
      rw [loaded] at ahead
      have least : m.nextSequenceNo ≤ m.acceptedSequenceNo := of_decide_eq_true ahead
      exact absurd below (UInt64.not_lt.mpr least)

end CrossKey

section Example

open Json.Compact

/-- A task with its consent, its execution, its outbox of two events and a control. -/
def campaign : List (String × Json) :=
  [ (OLD_VEHICLE_TASK, .ofMembers
      [ ("vehicleTaskId", .string "VT-1"), ("taskRevision", .string "3"),
        ("targetBaselineId", .string "B-2"), ("vehicleTaskState", .string "EXECUTING"),
        ("frozenAtMs", .integer 1000) ]),
    (OLD_CONSENT, .ofMembers
      [ ("vehicleTaskId", .string "VT-1"), ("effectiveStatus", .string "ACCEPTED"),
        ("receiptId", .string "R-1"), ("receiptExpiresAtMs", .integer 9000) ]),
    (OLD_EXECUTION, .ofMembers
      [ ("vehicleTaskId", .string "VT-1"), ("executionId", .string "E-1"),
        ("attemptNo", .integer 1), ("permitId", .string "P-1"), ("permitToken", .string "token"),
        ("controlRevision", .string "9"), ("validUntilMs", .integer 9000),
        ("executionState", .string "INSTALL_STARTED"), ("acceptedSequenceNo", .integer 0),
        ("nextSequenceNo", .integer 1) ]),
    (OLD_EVENT_OUTBOX, .ofMembers
      [ ("nextSequenceNo", .integer 3), ("acceptedSequenceNo", .integer 1),
        ("entries", .array [event 1 "ACKED", event 2 "PENDING"]) ]),
    (OLD_CONTROLS, .ofMembers
      [ ("entries", .array
          [ .ofMembers
              [ ("controlRevision", .string "9"), ("commandType", .string "RESUME"),
                ("applyMode", .string "IMMEDIATE"), ("expiresAtMs", .integer 9000),
                ("reason", .string "user"), ("ackStatus", .string "APPLIED"),
                ("ackSequenceNo", .integer 1), ("appliedAtMs", .integer 9500) ] ]) ]) ]
where
  event (sequenceNo : Int) (sendStatus : String) : Json := .ofMembers
    [ ("sequenceNo", .integer sequenceNo), ("eventId", .string "EVT"), ("eventDigest", .string "f"),
      ("stage", .string "INSTALL"), ("result", .string "RUNNING"), ("timestampMs", .integer 2000),
      ("payloadSummary", .string ""), ("sendStatus", .string sendStatus),
      ("eventPbHex", .string "") ]

theorem campaign_task :
    (@legacyStore compactText (@storeOf compactText campaign)).vehicleTask.map (·.vehicleTaskId) =
        some "VT-1" ∧
      (@legacyStore compactText (@storeOf compactText campaign)).consent.map (·.vehicleTaskId) =
        some "VT-1" ∧
      (@legacyStore compactText (@storeOf compactText campaign)).execution.map (·.vehicleTaskId) =
        some "VT-1" := by
  decide +kernel

/-- Every relation holds in the campaign. -/
theorem consistent_campaign :
    (@legacyStore compactText (@storeOf compactText campaign)).Consistent where
  watermarks := by decide +kernel
  events := by decide +kernel
  distinct := by decide +kernel
  consent t c isTask isConsent := by
    have task := campaign_task.1
    have consent := campaign_task.2.1
    rw [isTask] at task
    rw [isConsent] at consent
    exact Option.some.inj (consent.trans task.symm)
  execution t x isTask isExecution := by
    have task := campaign_task.1
    have execution := campaign_task.2.2
    rw [isTask] at task
    rw [isExecution] at execution
    exact Option.some.inj (execution.trans task.symm)

/-- The records of the campaign are all there, they agree with each other, and so do those that come
of them. -/
theorem migration_consistent_campaign :
    let d := @storeOf compactText campaign
    ((@legacyStore compactText d).vehicleTask.isSome ∧ (@legacyStore compactText d).consent.isSome ∧
      (@legacyStore compactText d).execution.isSome ∧
      (@legacyStore compactText d).eventEntries.length = 2) ∧
    ∀ e : @Surroundings compactText, @Surroundings.Intact compactText e →
      @CrossKeyChecked compactText e d := by
  refine ⟨by decide +kernel, ?_⟩
  have legacy := @legacy_storeOf compactText campaign (by decide)
  exact (@migration_consistent_iff compactText lawful_compactText _ legacy).mpr
    fun _ => consistent_campaign

/-- More events are said to be accepted than were ever numbered. -/
def acceptedAhead : List (String × Json) :=
  [ (OLD_EVENT_OUTBOX, .ofMembers
      [ ("nextSequenceNo", .integer 1), ("acceptedSequenceNo", .integer 7),
        ("entries", .array []) ]) ]

/-- The accepted number is migrated as it is, and every earlier key is removed. -/
theorem acceptedAhead_migrated :
    Legacy (@storeOf compactText acceptedAhead) ∧
      ¬@CrossKeyChecked compactText (@undisturbed compactText)
        (@storeOf compactText acceptedAhead) := by
  refine ⟨@legacy_storeOf compactText acceptedAhead (by decide), ?_⟩
  apply @not_checked_of_ahead compactText
  · decide +kernel
  · exact ⟨OLD_EVENT_OUTBOX, by decide, by simp [storeOf, acceptedAhead]⟩

end Example

end CgwFota.Cloud
