import Mathlib.Data.List.Forall2
import CgwFota.Inventory.RoundTrip

/-!
# What a decoder accepts

A decoded state carries over every value of the stored text that its layout still has, also through
the steps of a migration, and satisfies what its encoder's round trip asks for.

## Main definitions

* `Carries`: if the object has a key, its value is as described
* `CarriesSequence`, `CarriesLastSuccess`, `CarriesDedupe`, `CarriesActiveJob`: every member of the
  four states
* `Kept`, `Step`, `DedupeKept`: what a step of a migration leaves in the object

## Main results

* `sequenceFields_ok`, `lastSuccessFields_ok`, `dedupeFields_ok`, `activeJobFields_ok`: what was
  read is in the object, and the state is valid
* `migrateDedupe_first`, `migrateDedupe_second` and their siblings: the steps of the migrations
* `Format.decode_ok`: a decoded state was read, through the steps, from the stored object

## Proof strategy

A decoder is a chain of reads; each read that succeeds says what its member is. A step of a
migration only adds members, renames one or drops one, so a member that is asked for afterwards was
there before. The chain of steps prints and parses in between, which changes nothing of a canonical
value.
-/
namespace CgwFota.Inventory

open JsonText (parse dump)

/-! ### Carried values -/

/-- If the object has this key, its value is as described. -/
def Carries (j : Json) (key : String) (is : Json → Prop) : Prop := ∀ v ∈ j.member? key, is v

/-- An integer of this range stands for itself. -/
def Stands (low high : Int) (x : Int) (v : Json) : Prop :=
  ∀ n, v = .integer n → low ≤ n → n < high → x = n

abbrev StandsUInt64 (x : UInt64) : Json → Prop := Stands 0 (2 ^ 64) x.toNat

abbrev StandsUInt32 (x : UInt32) : Json → Prop := Stands 0 (2 ^ 32) x.toNat

abbrev StandsInt64 (x : Int64) : Json → Prop := Stands (-2 ^ 63) (2 ^ 63) x.toInt

/-- The fingerprints, each in the member of its own name. -/
structure CarriesFingerprints (fp : PersistedFingerprints) (j : Json) : Prop where
  algorithm : Carries j "algorithm" (· = .string fp.algorithm)
  canonicalization : Carries j "canonicalization" (· = .string fp.canonicalization)
  versionFingerprintHex : Carries j "versionFingerprintHex" (· = .string fp.versionFingerprintHex)
  snapshotFingerprintHex :
    Carries j "snapshotFingerprintHex" (· = .string fp.snapshotFingerprintHex)
  dedupeKeyHex : Carries j "dedupeKeyHex" (· = .string fp.dedupeKeyHex)

/-- The entry of an ECU. -/
structure CarriesEcuEntry (j : Json) (e : EcuVersionEntry) : Prop where
  ecu_id : Carries j "ecu_id" (· = .string e.ecu_id)
  source : Carries j "source" (· = .string (versionSourceToString e.source))
  status : Carries j "status" (· = .string (ecuStatusToString e.status))
  part_number : Carries j "part_number" (∃ s ∈ e.part_number, · = .string s)
  sw_version : Carries j "sw_version" (∃ s ∈ e.sw_version, · = .string s)
  hw_version : Carries j "hw_version" (∃ s ∈ e.hw_version, · = .string s)
  error_code : Carries j "error_code" (∃ s ∈ e.error_code, · = .string s)

/-- The fields of a snapshot, and its ECUs in their order. -/
structure CarriesSnapshot (s : VehicleSoftwareSnapshot) (j : Json) : Prop where
  vin : Carries j "vin" (· = .string s.vin)
  vin_source : Carries j "vin_source" (· = .string (vinSourceToString s.vin_source))
  baseline_id : Carries j "baseline_id" (∃ id ∈ s.baseline_id, · = .string id)
  baseline_source :
    Carries j "baseline_source" (· = .string (baselineSourceToString s.baseline_source))
  registry_version : Carries j "registry_version" (· = .string s.registry_version)
  collected_at : Carries j "collected_at" (· = .string s.collected_at)
  overall_result :
    Carries j "overall_result" (· = .string (collectionStatusToString s.overall_result))
  snapshot_seq : Carries j "snapshot_seq" (StandsUInt64 s.snapshot_seq)
  ecu_list : Carries j "ecu_list" fun v => List.Forall₂ CarriesEcuEntry v.items s.ecu_list

/-- An entry of the window of reports. -/
structure CarriesDedupeEntry (j : Json) (e : DedupeEntry) : Prop where
  requestId : Carries j "requestId" (· = .string e.requestId)
  reportId : Carries j "reportId" (· = .string e.reportId)
  snapshotSeq : Carries j "snapshotSeq" (StandsUInt64 e.snapshotSeq)
  fingerprints : Carries j "fingerprints" (CarriesFingerprints e.fingerprints)
  overallResult : Carries j "overallResult" (· = .string e.overallResult)
  completedAt : Carries j "completedAt" (StandsInt64 e.completedAt)
  expiresAt : Carries j "expiresAt" (StandsInt64 e.expiresAt)

/-- The sequence. -/
structure CarriesSequence (j : Json) (s : SequenceState) : Prop where
  highestAllocated : Carries j "highestAllocated" (StandsUInt64 s.highestAllocated)
  updatedAt : Carries j "updatedAt" (StandsInt64 s.updatedAt)

/-- The last success, with its snapshot. -/
structure CarriesLastSuccess (j : Json) (s : LastSuccessState) : Prop where
  reportId : Carries j "reportId" (· = .string s.reportId)
  snapshotSeq : Carries j "snapshotSeq" (StandsUInt64 s.snapshotSeq)
  completedAt : Carries j "completedAt" (StandsInt64 s.completedAt)
  registryVersion : Carries j "registryVersion" (· = .string s.registryVersion)
  overallResult :
    Carries j "overallResult" (· = .string (collectionStatusToString s.overallResult))
  fingerprints : Carries j "fingerprints" (CarriesFingerprints s.fingerprints)
  snapshot : Carries j "snapshot" (CarriesSnapshot s.snapshot)

/-- Before version 1 the bound of the window was called `maxSize`. -/
structure CarriesDedupe (version : UInt32) (j : Json) (s : DedupeState) : Prop where
  entries : Carries j "entries" fun v => List.Forall₂ CarriesDedupeEntry v.items s.entries
  maxEntries : Carries j "maxEntries" (StandsUInt32 s.maxEntries)
  maxSize : version = 0 → j.member? "maxEntries" = none →
    Carries j "maxSize" (StandsUInt32 s.maxEntries)
  ttlMs : Carries j "ttlMs" (StandsInt64 s.ttlMs)

/-- The active job. -/
structure CarriesActiveJob (j : Json) (s : ActiveJobState) : Prop where
  requestId : Carries j "requestId" (· = .string s.requestId)
  reportId : Carries j "reportId" (· = .string s.reportId)
  snapshotSeq : Carries j "snapshotSeq" (StandsUInt64 s.snapshotSeq)
  reason : Carries j "reason" (· = .string (triggerReasonToString s.reason))
  phase : Carries j "phase" (· = .string (jobPhaseToString s.phase))
  attempt : Carries j "attempt" (StandsUInt32 s.attempt)
  nextRetryAt : Carries j "nextRetryAt" (StandsInt64 s.nextRetryAt)
  lastErrorCode : Carries j "lastErrorCode" (· = .string s.lastErrorCode)
  idempotencyKey : Carries j "idempotencyKey" (· = .string s.idempotencyKey)
  fingerprints : Carries j "fingerprints" (CarriesFingerprints s.fingerprints)

/-! ### Reading one value -/

theorem liftM_ok_iff {α : Type} {x : Except JsonException α} {a : α} :
    (liftM x : Except Thrown α) = .ok a ↔ x = .ok a := by
  show x.mapError Thrown.json = .ok a ↔ _
  exact mapError_ok_iff

theorem getString_ok {v : Json} {x : String} (h : v.getString = .ok x) : v = .string x := by
  cases v with
  | string s => cases h; rfl
  | _ => cases h

theorem getUInt64_ok {v : Json} {x : UInt64} (h : v.getUInt64 = .ok x) : StandsUInt64 x v := by
  rintro n rfl low high
  cases h
  show ((UInt64.ofInt n).toNat : Int) = n
  simp only [UInt64.ofInt, UInt64.toNat_ofNat']
  omega

/-- An integer of the value stands for the number that was read, where it fits. -/
theorem getUInt32_ok {v : Json} {x : UInt32} (h : v.getUInt32 = .ok x) : StandsUInt32 x v := by
  rintro n rfl low high
  cases h
  show ((UInt32.ofInt n).toNat : Int) = n
  simp only [UInt32.ofInt, UInt32.toNat_ofNat']
  omega

theorem getInt64_ok {v : Json} {x : Int64} (h : v.getInt64 = .ok x) : StandsInt64 x v := by
  rintro n rfl low high
  cases h
  exact Int64.toInt_ofInt_of_le low high

section Carries

variable {j : Json} {key : String} {v : Json} {is : Json → Prop}

theorem Carries.of_atKey (found : j.atKey key = .ok v) (h : is v) : Carries j key is := by
  intro v' stored
  rw [Json.atKey_ok found] at stored
  cases stored
  exact h

/-- A member that was read with a default is as described where it is there. -/
theorem Carries.of_value {α : Type} {get : Json → Except JsonException α} {default a : α}
    (found : j.value get key default = .ok a) (h : ∀ v, get v = .ok a → is v) :
    Carries j key is := by
  intro v stored
  rcases Json.value_ok found with ⟨v', stored', got⟩ | ⟨absent, _⟩
  · rw [stored'] at stored
    cases stored
    exact h v got
  -- the member is absent, so there is nothing to describe
  · rw [absent] at stored
    cases stored

/-- An optional string is the value of its member where it is there. -/
theorem carries_optionalString {field : Option String} (read : optionalString j key = .ok field) :
    Carries j key (∃ s ∈ field, · = .string s) := by
  intro v stored
  unfold optionalString Json.contains at read
  rw [stored] at read
  simp only [Option.isSome_some, if_true, bind_ok_iff] at read
  obtain ⟨v', found, s, got, same⟩ := read
  cases same
  have same := Json.atKey_ok found
  rw [stored] at same
  cases same
  exact ⟨s, rfl, getString_ok got⟩

end Carries

/-- The items of a list are read one by one. -/
theorem forall₂_of_mapM_ok {ε α β : Type} {f : α → Except ε β} {R : α → β → Prop}
    {xs : List α} {ys : List β} (read : xs.mapM f = .ok ys) (each : ∀ x y, f x = .ok y → R x y) :
    List.Forall₂ R xs ys := by
  induction xs generalizing ys with
  | nil => cases read; exact .nil
  | cons x xs ih =>
    simp only [List.mapM_cons, bind_ok_iff] at read
    obtain ⟨y, head, ys', tail, same⟩ := read
    cases same
    exact .cons (each x y head) (ih tail)

/-- What holds of every item that can be read holds of the items that were read. -/
theorem forall_of_mapM_ok {ε α β : Type} {f : α → Except ε β} {p : β → Prop} {xs : List α}
    {ys : List β} (read : xs.mapM f = .ok ys) (each : ∀ x y, f x = .ok y → p y) :
    ∀ y ∈ ys, p y := by
  have all : List.Forall₂ (fun _ y => p y) xs ys := forall₂_of_mapM_ok read each
  clear read
  induction all with
  | nil => simp
  | cons head _ ih =>
    intro y member
    rcases List.mem_cons.mp member with rfl | member
    · exact head
    · exact ih y member

/-! ### Reading the parts -/

theorem versionSourceFromString_ok {s : String} {x : VersionSource}
    (h : versionSourceFromString s = .ok x) : s = versionSourceToString x := by
  unfold versionSourceFromString at h
  split at h
  all_goals first | (cases h; rfl) | cases h

theorem ecuStatusFromString_ok {s : String} {x : EcuStatus}
    (h : ecuStatusFromString s = .ok x) : s = ecuStatusToString x := by
  unfold ecuStatusFromString at h
  split at h
  all_goals first | (cases h; rfl) | cases h

theorem vinSourceFromString_ok {s : String} {x : VinSource}
    (h : vinSourceFromString s = .ok x) : s = vinSourceToString x := by
  unfold vinSourceFromString at h
  split at h
  all_goals first | (cases h; rfl) | cases h

theorem baselineSourceFromString_ok {s : String} {x : BaselineSource}
    (h : baselineSourceFromString s = .ok x) : s = baselineSourceToString x := by
  unfold baselineSourceFromString at h
  split at h
  all_goals first | (cases h; rfl) | cases h

theorem collectionStatusFromString_ok {complaint s : String} {x : CollectionStatus}
    (h : collectionStatusFromString complaint s = .ok x) : s = collectionStatusToString x := by
  unfold collectionStatusFromString at h
  split at h
  all_goals first | (cases h; rfl) | cases h

theorem triggerReasonFromString_some {s : String} {x : TriggerReason}
    (h : triggerReasonFromString s = some x) : s = triggerReasonToString x := by
  unfold triggerReasonFromString at h
  split at h
  all_goals first | (cases h; rfl) | cases h

theorem jobPhaseFromString_some {s : String} {x : JobPhase}
    (h : jobPhaseFromString s = some x) : s = jobPhaseToString x := by
  unfold jobPhaseFromString at h
  split at h
  all_goals first | (cases h; rfl) | cases h

/-- The fingerprints are read from their object, each of them optional. -/
theorem carriesFingerprints {j : Json} {fp : PersistedFingerprints}
    (read : persistedFingerprintsFromJson j = .ok fp) : CarriesFingerprints fp j := by
  simp only [persistedFingerprintsFromJson, bind_ok_iff] at read
  obtain ⟨_, algorithm, _, canonicalization, _, version, _, snapshot, _, dedupe, same⟩ := read
  cases same
  exact ⟨.of_value algorithm fun _ => getString_ok,
    .of_value canonicalization fun _ => getString_ok,
    .of_value version fun _ => getString_ok, .of_value snapshot fun _ => getString_ok,
    .of_value dedupe fun _ => getString_ok⟩

/-- The fingerprints of a record are valid, and those of its object. -/
theorem fingerprintsOf_ok {j : Json} {stage : String} {fp : PersistedFingerprints}
    (read : fingerprintsOf j stage = .ok fp) :
    ValidFingerprints fp ∧ Carries j "fingerprints" (CarriesFingerprints fp) := by
  simp only [fingerprintsOf, bind_ok_iff, liftM_ok_iff] at read
  obtain ⟨v, found, fp', inner, _, valid, same⟩ := read
  cases same
  refine ⟨validatePersistedFingerprints_ok_iff.mp valid, .of_value found ?_⟩
  intro v' same
  cases same
  exact carriesFingerprints inner

/-- The entry of an ECU is read from its object. -/
theorem carriesEcuEntry {j : Json} {e : EcuVersionEntry} (read : ecuEntryFromJson j = .ok e) :
    CarriesEcuEntry j e := by
  simp only [ecuEntryFromJson, bind_ok_iff, liftM_ok_iff] at read
  obtain ⟨_, atId, _, ecu_id, _, atSource, _, sourceName, _, source, _, atStatus, _, statusName, _,
    status, _, part, _, sw, _, hw, _, error, same⟩ := read
  cases same
  constructor
  · exact .of_atKey atId (getString_ok ecu_id)
  · rw [← versionSourceFromString_ok source]
    exact .of_atKey atSource (getString_ok sourceName)
  · rw [← ecuStatusFromString_ok status]
    exact .of_atKey atStatus (getString_ok statusName)
  · exact carries_optionalString part
  · exact carries_optionalString sw
  · exact carries_optionalString hw
  · exact carries_optionalString error

/-- A snapshot is read from its object. -/
theorem carriesSnapshot {j : Json} {s : VehicleSoftwareSnapshot}
    (read : snapshotFromJson j = .ok s) : CarriesSnapshot s j := by
  simp only [snapshotFromJson, bind_ok_iff, liftM_ok_iff] at read
  obtain ⟨_, atVin, _, vin, _, vinName, _, vin_source, _, baseline_id, _, atBaseline, _,
    baselineName, _, baseline_source, _, atRegistry, _, registry, _, atCollected, _, collected, _,
    atResult, _, resultName, _, overall_result, _, atSeq, _, seq, _, atList, _, ecu_list, same⟩ :=
    read
  cases same
  constructor
  · exact .of_atKey atVin (getString_ok vin)
  · rw [← vinSourceFromString_ok vin_source]
    exact .of_value vinName fun _ => getString_ok
  · exact carries_optionalString baseline_id
  · rw [← baselineSourceFromString_ok baseline_source]
    exact .of_atKey atBaseline (getString_ok baselineName)
  · exact .of_atKey atRegistry (getString_ok registry)
  · exact .of_atKey atCollected (getString_ok collected)
  · rw [← collectionStatusFromString_ok overall_result]
    exact .of_atKey atResult (getString_ok resultName)
  · exact .of_atKey atSeq (getUInt64_ok seq)
  · exact .of_atKey atList (forall₂_of_mapM_ok ecu_list fun _ _ => carriesEcuEntry)

/-- An entry of the window is valid and read from its object. -/
theorem carriesDedupeEntry {j : Json} {e : DedupeEntry} (read : dedupeEntryFromJson j = .ok e) :
    ValidFingerprints e.fingerprints ∧ CarriesDedupeEntry j e := by
  simp only [dedupeEntryFromJson, bind_ok_iff, liftM_ok_iff] at read
  obtain ⟨_, atRequest, _, request, _, atReport, _, report, _, atSeq, _, seq, _, fingerprints, _,
    atResult, _, result, _, atCompleted, _, completed, _, atExpires, _, expires, same⟩ := read
  cases same
  obtain ⟨valid, fingerprints⟩ := fingerprintsOf_ok fingerprints
  refine ⟨valid, ?_⟩
  constructor
  · exact .of_atKey atRequest (getString_ok request)
  · exact .of_atKey atReport (getString_ok report)
  · exact .of_atKey atSeq (getUInt64_ok seq)
  · exact fingerprints
  · exact .of_atKey atResult (getString_ok result)
  · exact .of_atKey atCompleted (getInt64_ok completed)
  · exact .of_atKey atExpires (getInt64_ok expires)

/-! ### Reading the states -/

theorem sequenceFields_ok {v : UInt32} {j : Json} {s : SequenceState}
    (read : sequenceFields v j = .ok s) : s.schemaVersion = v ∧ CarriesSequence j s := by
  simp only [sequenceFields, bind_ok_iff, liftM_ok_iff] at read
  obtain ⟨_, atHighest, _, highest, _, updated, same⟩ := read
  cases same
  exact ⟨rfl, .of_atKey atHighest (getUInt64_ok highest), .of_value updated fun _ => getInt64_ok⟩

/-- A last success is valid and read from its object. -/
theorem lastSuccessFields_ok {v : UInt32} {j : Json} {s : LastSuccessState}
    (read : lastSuccessFields v j = .ok s) :
    s.schemaVersion = v ∧ s.Valid ∧ CarriesLastSuccess j s := by
  simp only [lastSuccessFields, bind_ok_iff, liftM_ok_iff, overallResultFromString,
    check_then_ok_iff, not_not] at read
  obtain ⟨_, atReport, _, report, _, atSeq, _, seq, _, atCompleted, _, completed, _, atRegistry, _,
    registry, _, atResult, _, resultName, _, result, _, fingerprints, _, atSnapshot, _, snapshot,
    agree, same⟩ := read
  cases same
  obtain ⟨valid, fingerprints⟩ := fingerprintsOf_ok fingerprints
  refine ⟨rfl, ⟨valid, agree⟩, ?_⟩
  constructor
  · exact .of_atKey atReport (getString_ok report)
  · exact .of_atKey atSeq (getUInt64_ok seq)
  · exact .of_atKey atCompleted (getInt64_ok completed)
  · exact .of_atKey atRegistry (getString_ok registry)
  · rw [← collectionStatusFromString_ok result]
    exact .of_atKey atResult (getString_ok resultName)
  · exact fingerprints
  · exact .of_atKey atSnapshot (carriesSnapshot snapshot)

theorem dedupeFields_ok {v : UInt32} {j : Json} {s : DedupeState}
    (read : dedupeFields v j = .ok s) :
    s.schemaVersion = v ∧ s.Valid ∧
      Carries j "entries" (fun v => List.Forall₂ CarriesDedupeEntry v.items s.entries) ∧
      Carries j "maxEntries" (StandsUInt32 s.maxEntries) ∧
      Carries j "ttlMs" (StandsInt64 s.ttlMs) := by
  simp only [dedupeFields, bind_ok_iff, liftM_ok_iff] at read
  obtain ⟨list, atEntries, entries, read, _, maxEntries, _, ttl, same⟩ := read
  cases same
  refine ⟨rfl, ?_, .of_atKey atEntries ?_, .of_value maxEntries fun _ => getUInt32_ok,
    .of_value ttl fun _ => getInt64_ok⟩
  · exact forall_of_mapM_ok read fun _ _ entry => (carriesDedupeEntry entry).1
  · exact forall₂_of_mapM_ok read fun _ _ entry => (carriesDedupeEntry entry).2

/-- An active job is valid and read from its object. -/
theorem activeJobFields_ok {v : UInt32} {j : Json} {s : ActiveJobState}
    (read : activeJobFields v j = .ok s) :
    s.schemaVersion = v ∧ s.Valid ∧ CarriesActiveJob j s := by
  simp only [activeJobFields, bind_ok_iff, liftM_ok_iff] at read
  obtain ⟨_, atRequest, _, request, _, atReport, _, report, _, atSeq, _, seq, _, atReason,
    reasonName, reasonRead, read⟩ := read
  cases reason : triggerReasonFromString reasonName with
  -- an unknown reason is refused
  | none => simp [reason, bad, bind, Except.bind] at read
  | some r =>
  simp only [reason, pure_bind, bind_ok_iff, liftM_ok_iff] at read
  obtain ⟨_, atPhase, phaseName, phaseRead, read⟩ := read
  cases phase : jobPhaseFromString phaseName with
  -- an unknown phase is refused
  | none => simp [phase, bad, bind, Except.bind] at read
  | some p =>
  simp only [phase, bind_ok_iff, liftM_ok_iff] at read
  obtain ⟨_, atAttempt, _, attempt, _, atRetry, _, retry, _, atError, _, error, _, key, _,
    fingerprints, same⟩ := read
  cases same
  obtain ⟨valid, fingerprints⟩ := fingerprintsOf_ok fingerprints
  refine ⟨rfl, valid, ?_⟩
  constructor
  · exact .of_atKey atRequest (getString_ok request)
  · exact .of_atKey atReport (getString_ok report)
  · exact .of_atKey atSeq (getUInt64_ok seq)
  · rw [← triggerReasonFromString_some reason]
    exact .of_atKey atReason (getString_ok reasonRead)
  · rw [← jobPhaseFromString_some phase]
    exact .of_atKey atPhase (getString_ok phaseRead)
  · exact .of_atKey atAttempt (getUInt32_ok attempt)
  · exact .of_atKey atRetry (getInt64_ok retry)
  · exact .of_atKey atError (getString_ok error)
  · exact .of_value key fun _ => getString_ok
  · exact fingerprints

/-! ### Steps of migration -/

/-- Every member is still there, these keys apart. -/
def Kept (dropped : List String) (j j' : Json) : Prop :=
  ∀ k v, k ∉ dropped → j.member? k = some v → j'.member? k = some v

theorem Kept.refl (dropped : List String) (j : Json) : Kept dropped j j := fun _ _ _ h => h

theorem Kept.trans {dropped : List String} {j j' j'' : Json} (first : Kept dropped j j')
    (second : Kept dropped j' j'') : Kept dropped j j'' :=
  fun k v kept stored => second k v kept (first k v kept stored)

theorem Kept.carries {dropped : List String} {j j' : Json} (kept : Kept dropped j j') {key : String}
    {is : Json → Prop} (here : key ∉ dropped) (carried : Carries j' key is) : Carries j key is :=
  fun v stored => carried v (kept key v here stored)

section Steps

variable {dropped : List String} {j j' v : Json} {key : String}

/-- The value may only be one that a parser returns; `dropped` are the keys a step may change. -/
structure Step (dropped : List String) (j j' : Json) : Prop where
  canonical : j'.Canonical
  kept : Kept dropped j j'

theorem Step.trans {j'' : Json} (first : Step dropped j j') (second : Step dropped j' j'') :
    Step dropped j j'' :=
  ⟨second.canonical, first.kept.trans second.kept⟩

theorem step_set (canonical : j.Canonical) (value : v.Canonical) (here : key ∈ dropped)
    (done : j.set key v = .ok j') : Step dropped j j' := by
  refine ⟨Json.canonical_set canonical value done, fun k u kept stored => ?_⟩
  have other : k ≠ key := fun h => kept (h ▸ here)
  rw [Json.member?_set canonical done, if_neg other, stored]

theorem step_erase (canonical : j.Canonical) (here : key ∈ dropped)
    (done : j.erase key = .ok j') : Step dropped j j' := by
  refine ⟨Json.canonical_erase canonical done, fun k u kept stored => ?_⟩
  have other : k ≠ key := fun h => kept (h ▸ here)
  rw [Json.member?_erase done, if_neg other, stored]

theorem step_setIfMissing (canonical : j.Canonical) (value : v.Canonical)
    (done : setIfMissing j key v = .ok j') : Step dropped j j' := by
  unfold setIfMissing at done
  by_cases present : j.contains key
  · rw [if_pos present] at done
    cases done
    exact ⟨canonical, .refl _ _⟩
  · rw [if_neg present] at done
    refine ⟨Json.canonical_set canonical value done, fun k u _ stored => ?_⟩
    have other : k ≠ key := by
      rintro rfl
      simp [Json.contains, stored] at present
    rw [Json.member?_set canonical done, if_neg other, stored]

end Steps

theorem migrateSequence_step {v : UInt32} {j j' : Json} (canonical : j.Canonical)
    (done : migrateSequence j v = .ok j') : Step [] j j' := by
  simp only [migrateSequence, bind_ok_iff] at done
  obtain ⟨j₁, first, second⟩ := done
  have step₁ : Step [] j j₁ := step_setIfMissing canonical (canonical_versionNumber _) first
  exact step₁.trans (step_setIfMissing step₁.canonical (.integer (by decide) (by decide)) second)

theorem canonical_unknownFingerprints : unknownFingerprints.Canonical :=
  canonical_persistedFingerprintsToJson {}

theorem migrateLastSuccess_step {v : UInt32} {j j' : Json} (canonical : j.Canonical)
    (done : migrateLastSuccess j v = .ok j') : Step ["schemaVersion", "fingerprint"] j j' := by
  unfold migrateLastSuccess at done
  split at done
  · simp only [bind_ok_iff] at done
    obtain ⟨j₁, first, second⟩ := done
    have step₁ : Step ["schemaVersion", "fingerprint"] j j₁ :=
      step_setIfMissing canonical (canonical_versionNumber _) first
    exact step₁.trans (step_setIfMissing step₁.canonical (.string _) second)
  split at done
  · simp only [bind_ok_iff] at done
    obtain ⟨j₁, first, j₂, second, third⟩ := done
    have step₁ : Step ["schemaVersion", "fingerprint"] j j₁ :=
      step_erase canonical (by simp) first
    have step₂ := step₁.trans
      (step_setIfMissing step₁.canonical canonical_unknownFingerprints second)
    exact step₂.trans (step_set step₂.canonical (canonical_versionNumber _) (by simp) third)
  · cases done
    exact ⟨canonical, .refl _ _⟩

/-- The migration of a job keeps its members. -/
theorem migrateActiveJob_step {v : UInt32} {j j' : Json} (canonical : j.Canonical)
    (done : migrateActiveJob j v = .ok j') : Step ["schemaVersion"] j j' := by
  unfold migrateActiveJob at done
  split at done
  -- version 0 knew neither its version nor the key of the window
  · simp only [bind_ok_iff] at done
    obtain ⟨j₁, first, second⟩ := done
    have step₁ : Step ["schemaVersion"] j j₁ :=
      step_setIfMissing canonical (canonical_versionNumber _) first
    exact step₁.trans (step_setIfMissing step₁.canonical (.string _) second)
  split at done
  -- version 1 had no fingerprints
  · simp only [bind_ok_iff] at done
    obtain ⟨j₁, first, j₂, second, third⟩ := done
    have step₁ : Step ["schemaVersion"] j j₁ :=
      step_setIfMissing canonical (canonical_versionNumber _) first
    have step₂ := step₁.trans
      (step_setIfMissing step₁.canonical canonical_unknownFingerprints second)
    exact step₂.trans (step_set step₂.canonical (canonical_versionNumber _) (by simp) third)
  · cases done
    exact ⟨canonical, .refl _ _⟩

theorem migrateDedupeEntry_step {j j' : Json} (canonical : j.Canonical)
    (done : migrateDedupeEntry j = .ok j') : Step ["fingerprint"] j j' := by
  simp only [migrateDedupeEntry, bind_ok_iff] at done
  obtain ⟨j₁, first, second⟩ := done
  have step₁ : Step ["fingerprint"] j j₁ := step_erase canonical (by simp) first
  exact step₁.trans (step_setIfMissing step₁.canonical canonical_unknownFingerprints second)

/-! ### The window of a dedupe record -/

/-- Entries lose an old fingerprint at most, and an old bound is kept under its new name. -/
structure DedupeKept (version : UInt32) (j j' : Json) : Prop where
  kept : Kept ["schemaVersion", "entries", "maxSize"] j j'
  entries : ∀ v, j.member? "entries" = some v →
    ∃ v', j'.member? "entries" = some v' ∧ List.Forall₂ (Kept ["fingerprint"]) v.items v'.items
  maxSize : version = 0 → j.member? "maxEntries" = none →
    ∀ v, j.member? "maxSize" = some v → j'.member? "maxEntries" = some v

theorem forall₂_kept_refl (dropped : List String) (items : List Json) :
    List.Forall₂ (Kept dropped) items items :=
  List.forall₂_same.mpr fun j _ => Kept.refl dropped j

theorem forall₂_kept_trans {dropped : List String} {xs ys zs : List Json}
    (first : List.Forall₂ (Kept dropped) xs ys) (second : List.Forall₂ (Kept dropped) ys zs) :
    List.Forall₂ (Kept dropped) xs zs := by
  induction first generalizing zs with
  | nil => exact second
  | cons head _ ih =>
    cases second with
    | cons head' tail' => exact .cons (head.trans head') (ih tail')

/-- What no step of an object touches in its window is kept by it. -/
theorem DedupeKept.of_step {v : UInt32} {j j' : Json}
    (step : Step ["schemaVersion", "maxSize"] j j') (later : v ≠ 0) : DedupeKept v j j' where
  kept k u other stored := step.kept k u (by simp_all) stored
  entries u stored := ⟨u, step.kept _ u (by simp) stored, forall₂_kept_refl _ _⟩
  maxSize first := absurd first later

theorem DedupeKept.trans {v v' : UInt32} {j j' j'' : Json} (first : DedupeKept v j j')
    (second : DedupeKept v' j' j'') : DedupeKept v j j'' where
  kept := first.kept.trans second.kept
  entries u stored := by
    obtain ⟨u', stored', items⟩ := first.entries u stored
    obtain ⟨u'', stored'', items'⟩ := second.entries u' stored'
    exact ⟨u'', stored'', forall₂_kept_trans items items'⟩
  maxSize zero absent u stored := by
    have renamed := first.maxSize zero absent u stored
    exact second.kept _ u (by simp) renamed

theorem DedupeKept.refl_of_pos {v : UInt32} (later : v ≠ 0) {j : Json} : DedupeKept v j j where
  kept := .refl _ j
  entries u stored := ⟨u, stored, forall₂_kept_refl _ _⟩
  maxSize first := absurd first later

theorem canonical_items {j : Json} (canonical : j.Canonical) {items : List Json}
    (array : j = .array items) : ∀ item ∈ items, item.Canonical := by
  subst array
  cases canonical with
  | array each => exact each

/-- The first step renames the bound of the window. -/
theorem migrateDedupe_first {j j' : Json} (canonical : j.Canonical)
    (done : migrateDedupe j 0 = .ok j') : j'.Canonical ∧ DedupeKept 0 j j' := by
  simp only [migrateDedupe, if_true, bind_ok_iff] at done
  obtain ⟨j₁, first, rest⟩ := done
  have step₁ : Step ["schemaVersion", "maxSize"] j j₁ :=
    step_setIfMissing canonical (canonical_versionNumber _) first
  have same (k : String) (other : k ≠ "schemaVersion") : j₁.member? k = j.member? k := by
    unfold setIfMissing at first
    split at first
    · cases first
      rfl
    · rw [Json.member?_set canonical first, if_neg other]
  obtain ⟨j₂, step₂, bound, last⟩ : ∃ j₂, Step ["schemaVersion", "maxSize"] j j₂ ∧
      (j.member? "maxEntries" = none →
        ∀ v, j.member? "maxSize" = some v → j₂.member? "maxEntries" = some v) ∧
      setIfMissing j₂ "ttlMs" (.integer 0) = .ok j' := by
    rw [← same "maxEntries" (by simp), ← same "maxSize" (by simp)]
    cases old : j₁.member? "maxSize" with
    -- no old bound, so nothing is renamed
    | none =>
      simp only [old, pure_bind] at rest
      exact ⟨j₁, step₁, by simp, rest⟩
    | some size =>
      simp only [old] at rest
      -- the new bound is there already, and stays
      by_cases present : j₁.contains "maxEntries"
      · simp only [present, if_true, pure_bind] at rest
        refine ⟨j₁, step₁, fun absent => ?_, rest⟩
        simp [Json.contains, absent] at present
      rw [if_neg present] at rest
      simp only [bind_ok_iff] at rest
      obtain ⟨j₂, set, j₃, erased, last⟩ := rest
      have value : size.Canonical := Json.canonical_member? step₁.canonical old
      have canonical₂ := Json.canonical_set step₁.canonical value set
      refine ⟨j₃, ⟨Json.canonical_erase canonical₂ erased, fun k v other stored => ?_⟩,
        fun _ v stored => ?_, last⟩
      -- the old bound takes the new name, and then its own goes
      · simp only [List.mem_cons, List.not_mem_nil, or_false, not_or] at other
        have apart : k ≠ "maxEntries" := by
          rintro rfl
          simp [Json.contains, same "maxEntries" (by simp), stored] at present
        rw [Json.member?_erase erased, if_neg other.2, Json.member?_set step₁.canonical set,
          if_neg apart, same k other.1, stored]
      · cases stored
        rw [Json.member?_erase erased, if_neg (by simp), Json.member?_set step₁.canonical set,
          if_pos rfl]
  have step₃ : Step ["schemaVersion", "maxSize"] j₂ j' :=
    step_setIfMissing step₂.canonical (.integer (by decide) (by decide)) last
  have whole := step₂.trans step₃
  refine ⟨whole.canonical, ?_, ?_, ?_⟩
  · exact fun k u other stored => whole.kept k u (by simp_all) stored
  · exact fun u stored => ⟨u, whole.kept _ u (by simp) stored, forall₂_kept_refl _ _⟩
  · exact fun _ absent v stored => step₃.kept _ v (by simp) (bound absent v stored)

/-- The entries of an array, each taken one step up. -/
theorem migrateEntries_kept {items items' : List Json} (each : ∀ item ∈ items, item.Canonical)
    (done : items.mapM migrateDedupeEntry = .ok items') :
    (Json.array items').Canonical ∧ List.Forall₂ (Kept ["fingerprint"]) items items' := by
  induction items generalizing items' with
  | nil =>
    cases done
    exact ⟨.array (by simp), .nil⟩
  | cons item items ih =>
    simp only [List.mapM_cons, bind_ok_iff] at done
    obtain ⟨item', head, rest, tail, same⟩ := done
    cases same
    have step := migrateDedupeEntry_step (each item (by simp)) head
    obtain ⟨canonical, kept⟩ := ih (fun i member => each i (by simp [member])) tail
    refine ⟨.array fun i member => ?_, .cons step.kept kept⟩
    rcases List.mem_cons.mp member with rfl | member
    · exact step.canonical
    · exact canonical_items canonical rfl i member

/-- The second step takes the old fingerprint out of every entry. -/
theorem migrateDedupe_second {j j' : Json} (canonical : j.Canonical)
    (done : migrateDedupe j 1 = .ok j') : j'.Canonical ∧ DedupeKept 1 j j' := by
  have second : (1 : UInt32) ≠ 0 := by decide
  simp only [migrateDedupe, if_neg second, if_true, bind_ok_iff] at done
  obtain ⟨j₁, first, rest⟩ := done
  have step₁ : Step ["schemaVersion", "maxSize"] j j₁ :=
    step_setIfMissing canonical (canonical_versionNumber _) first
  obtain ⟨j₂, canonical₂, kept₂, last⟩ : ∃ j₂, j₂.Canonical ∧ DedupeKept 1 j₁ j₂ ∧
      j₂.set "schemaVersion" (versionNumber schema.DEDUPE_VERSION) = .ok j' := by
    split at rest
    -- a list of entries is migrated entry by entry
    next entries stored =>
      simp only [bind_ok_iff] at rest
      obtain ⟨entries', migrated, j₂, set, last⟩ := rest
      have each := canonical_items (Json.canonical_member? step₁.canonical stored) rfl
      obtain ⟨value, items⟩ := migrateEntries_kept each migrated
      refine ⟨j₂, Json.canonical_set step₁.canonical value set, ⟨?_, ?_, ?_⟩, last⟩
      · intro k u other kept
        have apart : k ≠ "entries" := by
          rintro rfl
          simp at other
        rw [Json.member?_set step₁.canonical set, if_neg apart, kept]
      · intro u found
        rw [stored] at found
        cases found
        refine ⟨.array entries', ?_, items⟩
        rw [Json.member?_set step₁.canonical set, if_pos rfl]
      · exact fun first => absurd first second
    -- anything else under the key is left as it is
    next =>
      rw [pure_bind] at rest
      exact ⟨j₁, step₁.canonical, .refl_of_pos second, rest⟩
  have step₃ : Step ["schemaVersion", "maxSize"] j₂ j' :=
    step_set canonical₂ (canonical_versionNumber _) (by simp) last
  have kept₁ : DedupeKept 1 j j₁ := .of_step step₁ second
  exact ⟨step₃.canonical, (kept₁.trans kept₂).trans (.of_step (v := 1) step₃ second)⟩

/-! ### Entries that were kept -/

/-- An entry that lost its old fingerprint carries what it carried. -/
theorem CarriesDedupeEntry.of_kept {j j' : Json} {e : DedupeEntry}
    (kept : Kept ["fingerprint"] j j')
    (carried : CarriesDedupeEntry j' e) : CarriesDedupeEntry j e where
  requestId := kept.carries (by simp) carried.requestId
  reportId := kept.carries (by simp) carried.reportId
  snapshotSeq := kept.carries (by simp) carried.snapshotSeq
  fingerprints := kept.carries (by simp) carried.fingerprints
  overallResult := kept.carries (by simp) carried.overallResult
  completedAt := kept.carries (by simp) carried.completedAt
  expiresAt := kept.carries (by simp) carried.expiresAt

theorem carriesEntries_of_kept {items items' : List Json} {entries : List DedupeEntry}
    (kept : List.Forall₂ (Kept ["fingerprint"]) items items')
    (carried : List.Forall₂ CarriesDedupeEntry items' entries) :
    List.Forall₂ CarriesDedupeEntry items entries := by
  induction kept generalizing entries with
  | nil => exact carried
  | cons head _ ih =>
    cases carried with
    | cons head' tail' => exact .cons (.of_kept head head') (ih tail')

/-! ### Whole records -/

section Records

variable [JsonText]

/-- The bytes are an envelope of this version around the text of this value. -/
def Holds (bytes : Bytes) (version : UInt32) (j : Json) : Prop :=
  ∃ h, parseEnvelopeHeader bytes = .ok h ∧ h.schemaVersion = version ∧
    parse (extractPayload bytes h) = .ok j

variable {σ : Type} {format : Format σ}

/-- The stages of a decoder that comes through. -/
theorem Format.decode_ok_iff {bytes : Bytes} {s : σ} :
    format.decode bytes = .ok s ↔
      ∃ h, parseEnvelopeHeader bytes = .ok h ∧ h.schemaVersion ≤ format.version ∧
        ∃ payload j, format.migrateChain (format.version - h.schemaVersion).toNat h.schemaVersion
            (extractPayload bytes h) = .ok payload ∧
          parse payload = .ok j ∧
          j.value Json.getUInt32 "schemaVersion" format.version = .ok format.version ∧
          format.fields format.version j = .ok s := by
  constructor
  · intro decoded
    unfold Format.decode at decoded
    obtain ⟨h, header, decoded⟩ := bind_ok_iff.mp decoded
    by_cases newer : h.schemaVersion > format.version
    -- a newer version is refused
    · rw [if_pos newer] at decoded
      cases decoded
    rw [if_neg newer] at decoded
    have read := mapError_ok_iff.mp decoded
    simp only [Format.read, bind_ok_iff, liftM_ok_iff, check_then_ok_iff, not_not] at read
    obtain ⟨payload, chain, j, parsed, v, tagged, current, fields⟩ := read
    subst current
    exact ⟨h, header, UInt32.not_lt.mp newer, payload, j, chain, parsed, tagged, fields⟩
  · rintro ⟨h, header, known, payload, j, chain, parsed, tagged, fields⟩
    have notNewer : ¬h.schemaVersion > format.version := UInt32.not_lt.mpr known
    unfold Format.decode
    refine bind_ok_iff.mpr ⟨h, header, ?_⟩
    rw [if_neg notNewer, mapError_ok_iff]
    simp only [Format.read, bind_ok_iff, liftM_ok_iff, check_then_ok_iff, not_not]
    exact ⟨payload, chain, j, parsed, format.version, tagged, rfl, fields⟩

/-- What a decoder accepts is a valid state of the current version. -/
def Format.Sound (format : Format σ) (Valid : σ → Prop) : Prop :=
  ∀ bytes s, format.decode bytes = .ok s → format.schemaVersion s = format.version ∧ Valid s

theorem Format.sound_of_fields {Valid : σ → Prop}
    (fields_ok : ∀ v j s, format.fields v j = .ok s → format.schemaVersion s = v ∧ Valid s) :
    format.Sound Valid := by
  intro bytes s decoded
  obtain ⟨_, _, _, _, j, _, _, _, fields⟩ := Format.decode_ok_iff.mp decoded
  exact fields_ok format.version j s fields

theorem sound_sequence : sequenceFormat.Sound SequenceState.Valid :=
  Format.sound_of_fields fun _ _ _ fields => ⟨(sequenceFields_ok fields).1, trivial⟩

theorem sound_lastSuccess : lastSuccessFormat.Sound LastSuccessState.Valid :=
  Format.sound_of_fields fun _ _ _ fields =>
    ⟨(lastSuccessFields_ok fields).1, (lastSuccessFields_ok fields).2.1⟩

theorem sound_dedupe : dedupeFormat.Sound DedupeState.Valid :=
  Format.sound_of_fields fun _ _ _ fields =>
    ⟨(dedupeFields_ok fields).1, (dedupeFields_ok fields).2.1⟩

theorem sound_activeJob : activeJobFormat.Sound ActiveJobState.Valid :=
  Format.sound_of_fields fun _ _ _ fields =>
    ⟨(activeJobFields_ok fields).1, (activeJobFields_ok fields).2.1⟩

variable [StrictJsonText] {R : UInt32 → Json → Json → Prop}

/-- Each step up the chain prints what it made and the next one reads it again. -/
theorem Format.migrateChain_ok (stay : ∀ j, R format.version j j)
    (climb : ∀ v < format.version, ∀ j j', j.Canonical → format.migrate j v = .ok j' →
      j'.Canonical ∧ ∀ j'', R (v + 1) j' j'' → R v j j'')
    {steps : Nat} {v : UInt32} {payload payload' : Bytes} {j' : Json}
    (height : v.toNat + steps = format.version.toNat)
    (chain : format.migrateChain steps v payload = .ok payload')
    (parsed : parse payload' = .ok j') :
    ∃ j, parse payload = .ok j ∧ R v j j' := by
  induction steps generalizing v payload with
  | zero =>
    cases chain
    have top : v = format.version := UInt32.toNat_inj.mp height
    exact ⟨j', parsed, top ▸ stay j'⟩
  | succ steps ih =>
    have below : v < format.version := by
      rw [UInt32.lt_iff_toNat_lt]
      omega
    have next : (v + 1).toNat = v.toNat + 1 := by
      have inside := format.version.toNat_lt
      rw [UInt32.toNat_add, UInt32.toNat_one]
      omega
    simp only [Format.migrateChain, Format.migratePayload, ge_iff_le, UInt32.not_le.mpr below,
      if_false, bind_ok_iff] at chain
    obtain ⟨middle, ⟨j, here, j₁, migrated, printed⟩, rest⟩ := chain
    -- the step printed a canonical value, so parsing it gives this value again
    cases printed
    obtain ⟨canonical, lift⟩ := climb v below j j₁ (StrictJsonText.canonical_parse here) migrated
    obtain ⟨j₂, reread, kept⟩ := ih (by omega) rest
    rw [LawfulJsonText.parse_dump canonical] at reread
    cases reread
    exact ⟨j, here, lift j' kept⟩

/-- A decoded state was read from the stored object by way of the steps in between. -/
theorem Format.decode_ok (stay : ∀ j, R format.version j j)
    (climb : ∀ v < format.version, ∀ j j', j.Canonical → format.migrate j v = .ok j' →
      j'.Canonical ∧ ∀ j'', R (v + 1) j' j'' → R v j j'')
    {bytes : Bytes} {s : σ} (decoded : format.decode bytes = .ok s) :
    ∃ v j j', Holds bytes v j ∧ R v j j' ∧ format.fields format.version j' = .ok s := by
  obtain ⟨h, header, known, payload, j', chain, parsed, _, fields⟩ :=
    Format.decode_ok_iff.mp decoded
  have height : h.schemaVersion.toNat + (format.version - h.schemaVersion).toNat
      = format.version.toNat := by
    have below := UInt32.le_iff_toNat_le.mp known
    rw [UInt32.toNat_sub_of_le _ _ known]
    omega
  obtain ⟨j, here, kept⟩ := Format.migrateChain_ok stay climb height chain parsed
  exact ⟨h.schemaVersion, j, j', ⟨h, header, rfl, here⟩, kept, fields⟩

end Records

end CgwFota.Inventory
