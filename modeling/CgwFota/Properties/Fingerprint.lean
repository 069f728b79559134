import CgwFota.Fingerprint.InventoryFingerprint

/-!
# Fingerprints identify what they cover

Two snapshots are hashed as the same bytes exactly when they agree on the covered fields and their
ECU lists are rearrangements of each other; and no bytes are hashed for two purposes.

## Main definitions

* `Arranged`: the ECUs in the order of their keys, no two with one key.
* `versionFields`, `snapshotFields`: what the two fingerprints cover.
* `VehicleSoftwareSnapshot.Fits`: the strings fit the lengths they are written with.
* `Purpose`, `Hashed`: what bytes are hashed for.

## Main results

* `versionBytes_eq_iff`, `snapshotBytes_eq_iff`: what the bytes say of two snapshots.
* `buildVersionFingerprint_identifies`, `buildSnapshotFingerprint_identifies`,
  `buildDedupeKey_identifies`: what is returned, up to collisions of the hash.
* `fingerprints_identify`: both bytes, the refusals and the domains.

## Proof strategy

A record is a header, a front of self-delimiting fields and a list of items, and such records are
equal only field by field. Sorting makes the list of items depend on the ECUs up to order only, as
their keys are part of what is covered.
-/
namespace CgwFota.Fingerprint

open Comparator Delimited
open Inventory (Bytes VersionSource CollectionStatus EcuStatus BaselineSource VinSource)

/-! ### Arrangement of the ECUs -/

theorem strict_byteBefore : Strict byteBefore :=
  strict_nat.comap fun _ _ same => UInt8.toNat_inj.mp same

theorem strict_keyBefore : Strict keyBefore :=
  strict_byteBefore.lex.pair (strict_byteBefore.lex.pair strict_byteBefore.lex)

/-- The ECUs in the order of their keys, no two with one key. -/
structure Arranged (ecus arranged : List EcuVersionEntry) : Prop where
  perm : arranged.Perm ecus
  distinct : (arranged.map (·.stableKey)).Nodup
  sorted : arranged.Pairwise fun x y => keyBefore y.stableKey x.stableKey = false

/-- The ECUs at these positions. -/
def arrange (ecus : List EcuVersionEntry) (order : List Nat) : List EcuVersionEntry :=
  order.map fun i => ecus.getD i {}

/-- There are no neighbours of one key exactly if none are found. -/
theorem findDuplicate_eq_none {ecus : List EcuVersionEntry} {order : List Nat} :
    findDuplicate ecus order = none ↔
      (arrange ecus order).IsChain fun x y => x.stableKey ≠ y.stableKey := by
  fun_induction findDuplicate ecus order with
  | case1 a b rest same =>
    simp only [reduceCtorEq, false_iff]
    intro chain
    exact (List.isChain_cons_cons.mp chain).1 same
  -- these two differ, and the rest is looked at
  | case2 a b rest apart ih =>
    rw [ih]
    exact ⟨fun chain => List.isChain_cons_cons.mpr ⟨apart, chain⟩, fun chain => chain.of_cons⟩
  | case3 order short =>
    match order, short with
    | [], _ => simp [arrange]
    | [a], _ => simp [arrange]
    | a :: b :: rest, short => exact (short a b rest rfl).elim

/-- Sorting by key and position sorts by key. -/
theorem arrange_sorted (ecus : List EcuVersionEntry) :
    let order := sortBy (pair keyBefore fun i j => decide (i < j))
      (fun i => ((ecus.getD i {}).stableKey, i)) (List.range ecus.length)
    (arrange ecus order).Perm ecus ∧
      (arrange ecus order).Pairwise fun x y => keyBefore y.stableKey x.stableKey = false := by
  intro order
  constructor
  -- the positions are all there, each once
  · have all : arrange ecus (List.range ecus.length) = ecus := by
      apply List.ext_getElem
      · simp [arrange]
      · intro i _ inside
        simp [arrange, inside]
    have perm : (arrange ecus order).Perm (arrange ecus (List.range ecus.length)) :=
      (sortBy_perm _ _ _).map _
    rwa [all] at perm
  -- sorted by key and position, the list is sorted by key
  · have sorted := (strict_keyBefore.pair strict_nat).sorted
      (fun i => ((ecus.getD i {}).stableKey, i)) (List.range ecus.length)
    refine List.pairwise_map.mpr (sorted.imp fun {i j} free => ?_)
    exact (Bool.or_eq_false_iff.mp free).1

theorem sortEcuIndices_ok {ecus : List EcuVersionEntry} {order : List Nat}
    (sorted : sortEcuIndices ecus = .ok order) : Arranged ecus (arrange ecus order) := by
  obtain ⟨perm, increasing⟩ := arrange_sorted ecus
  unfold sortEcuIndices at sorted
  dsimp only at sorted
  split at sorted
  · cases sorted
  · next none =>
    cases sorted
    exact ⟨perm, strict_keyBefore.nodup_of_adjacent increasing (findDuplicate_eq_none.mp none),
      increasing⟩

section Records

variable {Front Item : Type} {P : Front → Prop} {Q : Item → Prop} {front : Front → Bytes}
  {item : Item → Bytes} {covered : EcuVersionEntry → Item} {keyOf : Item → Key}
  {ecus arranged ecus' arranged' : List EcuVersionEntry}

/-- Lists with the same covered fields up to order are arranged to the same covered fields. -/
theorem Arranged.covered_eq_iff (keys : ∀ e, keyOf (covered e) = e.stableKey)
    (here : Arranged ecus arranged) (there : Arranged ecus' arranged') :
    arranged.map covered = arranged'.map covered ↔ (ecus.map covered).Perm (ecus'.map covered) := by
  constructor
  -- the arranged lists are rearrangements of the ECUs
  · intro same
    have perm := here.perm.map covered
    rw [same] at perm
    exact perm.symm.trans (there.perm.map covered)
  -- two sorted rearrangements without equal keys are one list
  · intro perm
    have rearranged : (arranged.map covered).Perm (arranged'.map covered) :=
      (here.perm.map covered).trans (perm.trans (there.perm.map covered).symm)
    have keysOf : keyOf ∘ covered = EcuVersionEntry.stableKey := funext keys
    refine strict_keyBefore.sorted_unique keyOf rearranged ?_ ?_ ?_
    · rw [List.map_map, keysOf]
      exact here.distinct
    · refine List.pairwise_map.mpr (here.sorted.imp fun {x y} free => ?_)
      rwa [keys, keys]
    · refine List.pairwise_map.mpr (there.sorted.imp fun {x y} free => ?_)
      rwa [keys, keys]

/-- A record is told apart by its first fields and the covered fields of its ECUs, up to order. -/
theorem record_eq_iff (keyOf : Item → Key) (selfFront : SelfDelimiting P front)
    (selfItem : SelfDelimiting Q item)
    (keys : ∀ e, keyOf (covered e) = e.stableKey) (here : Arranged ecus arranged)
    (there : Arranged ecus' arranged') {a b : Front} (short : P a) (short' : P b)
    (shorts : ∀ e ∈ ecus, Q (covered e)) (shorts' : ∀ e ∈ ecus', Q (covered e))
    (few : ecus.length < 2 ^ 32) (few' : ecus'.length < 2 ^ 32) (start : Bytes)
    (fieldId : UInt16) :
    start ++ (front a ++ listField fieldId (arranged.map fun e => item (covered e))) =
        start ++ (front b ++ listField fieldId (arranged'.map fun e => item (covered e))) ↔
      a = b ∧ (ecus.map covered).Perm (ecus'.map covered) := by
  rw [← here.covered_eq_iff keys there]
  have items : ∀ xs : List EcuVersionEntry,
      (xs.map fun e => item (covered e)) = (xs.map covered).map item := by simp
  rw [items, items]
  constructor
  -- equal records have equal fronts and equal items
  · intro same
    obtain ⟨equal, lists⟩ := selfFront a b _ _ short short' (List.append_cancel_left same)
    refine ⟨equal, listField_injective selfItem ?_ ?_ ?_ ?_ lists⟩
    · intro f member
      obtain ⟨e, present, rfl⟩ := List.mem_map.mp member
      exact shorts e (here.perm.mem_iff.mp present)
    · intro f member
      obtain ⟨e, present, rfl⟩ := List.mem_map.mp member
      exact shorts' e (there.perm.mem_iff.mp present)
    · rwa [List.length_map, here.perm.length_eq]
    · rwa [List.length_map, there.perm.length_eq]
  -- and back: the items are the same once they are sorted
  · rintro ⟨rfl, same⟩
    rw [same]

end Records

/-! ### The two fingerprints -/

/-- What the version covers of an ECU, in the order of the record. -/
abbrev VersionFields := Bytes × Option Bytes × Option Bytes × Option Bytes

/-- The snapshot covers more of it. -/
abbrev SnapshotFields := VersionFields × VersionSource × EcuStatus × Option Bytes

/-- What the version fingerprint covers of an ECU. -/
def EcuVersionEntry.versionFields (e : EcuVersionEntry) : VersionFields :=
  (e.ecu_id, e.part_number, e.sw_version, e.hw_version)

/-- What the snapshot fingerprint covers of an ECU. -/
def EcuVersionEntry.snapshotFields (e : EcuVersionEntry) : SnapshotFields :=
  (e.versionFields, e.source, e.status, e.error_code)

/-- The key of an ECU can be read off what is covered. -/
def VersionFields.key (f : VersionFields) : Key := (f.1, f.2.1.getD [], f.2.2.1.getD [])

/-- The string, if there is one, is short. -/
def ShortIfAny (o : Option Bytes) : Prop := ∀ value, o = some value → Short value

/-- The fields that both records of an ECU begin with. -/
def ecuFront (f : VersionFields) : Bytes :=
  stringField 0x0001 f.1 ++ (optionalStringField 0x0002 f.2.1 ++
    (optionalStringField 0x0003 f.2.2.1 ++ optionalStringField 0x0004 f.2.2.2))

/-- The fields that only the snapshot's record of an ECU has. -/
def ecuRest (f : VersionSource × EcuStatus × Option Bytes) : Bytes :=
  enumField 0x0005 (versionSourceCode f.1) ++ (enumField 0x0006 (ecuStatusCode f.2.1) ++
    optionalStringField 0x0007 f.2.2)

/-- The record of an ECU in the version. -/
def versionItem (f : VersionFields) : Bytes :=
  CanonicalEncoder.header [] ++ putU32Be 4 ++ ecuFront f

/-- The record of an ECU in the snapshot. -/
def snapshotItem (f : SnapshotFields) : Bytes :=
  CanonicalEncoder.header [] ++ putU32Be 7 ++ (ecuFront f.1 ++ ecuRest f.2)

theorem encodeVersionEcu_eq (e : EcuVersionEntry) :
    encodeVersionEcu e = versionItem e.versionFields := by
  have holds := (CanonicalEncoder.holds_new []).writeStringField 1 e.ecu_id
  have holds := (holds.writeOptionalStringField 2 e.part_number).writeOptionalStringField
    3 e.sw_version
  have holds := holds.writeOptionalStringField 4 e.hw_version
  unfold encodeVersionEcu
  dsimp only
  rw [holds.finalize]
  simp [versionItem, ecuFront, EcuVersionEntry.versionFields]

/-- The encoder writes the record of an ECU for the snapshot. -/
theorem encodeSnapshotEcu_eq (e : EcuVersionEntry) :
    encodeSnapshotEcu e = snapshotItem e.snapshotFields := by
  -- seven fields, in the order of their ids
  have holds := (CanonicalEncoder.holds_new []).writeStringField 1 e.ecu_id
  have holds := (holds.writeOptionalStringField 2 e.part_number).writeOptionalStringField
    3 e.sw_version
  have holds := holds.writeOptionalStringField 4 e.hw_version
  have holds := (holds.writeEnumField 5 (versionSourceCode e.source)).writeEnumField
    6 (ecuStatusCode e.status)
  have holds := holds.writeOptionalStringField 7 e.error_code
  unfold encodeSnapshotEcu
  dsimp only
  rw [holds.finalize]
  simp [snapshotItem, ecuFront, ecuRest, EcuVersionEntry.snapshotFields,
    EcuVersionEntry.versionFields]

theorem selfDelimiting_ecuFront :
    SelfDelimiting (fun f : VersionFields =>
      Short f.1 ∧ ShortIfAny f.2.1 ∧ ShortIfAny f.2.2.1 ∧ ShortIfAny f.2.2.2) ecuFront :=
  (selfDelimiting_stringField 1).append ((selfDelimiting_optionalStringField 2).append
    ((selfDelimiting_optionalStringField 3).append (selfDelimiting_optionalStringField 4)))

theorem selfDelimiting_ecuRest :
    SelfDelimiting (fun f : VersionSource × EcuStatus × Option Bytes =>
      True ∧ True ∧ ShortIfAny f.2.2) ecuRest :=
  ((selfDelimiting_enumField 5).comap versionSourceCode fun _ _ =>
    versionSourceCode_injective).append
    (((selfDelimiting_enumField 6).comap ecuStatusCode fun _ _ => ecuStatusCode_injective).append
      (selfDelimiting_optionalStringField 7))

/-- The first fields of the record for the version. -/
def versionFront (f : BaselineSource × Option Bytes × Bytes) : Bytes :=
  enumField 0x0001 (baselineSourceCode f.1) ++
    (optionalStringField 0x0002 f.2.1 ++ stringField 0x0003 f.2.2)

theorem selfDelimiting_versionFront :
    SelfDelimiting (fun f : BaselineSource × Option Bytes × Bytes =>
      True ∧ ShortIfAny f.2.1 ∧ Short f.2.2) versionFront :=
  ((selfDelimiting_enumField 1).comap baselineSourceCode
    fun _ _ => baselineSourceCode_injective).append
      ((selfDelimiting_optionalStringField 2).append (selfDelimiting_stringField 3))

/-- The fields before the list of the snapshot, with the digest of the VIN. -/
abbrev SnapshotFront :=
  Bytes × VinSource × BaselineSource × Option Bytes × Bytes × CollectionStatus

/-- The first fields of the record for the snapshot. -/
def snapshotFront (f : SnapshotFront) : Bytes :=
  stringField 0x0001 f.1 ++ (enumField 0x0002 (vinSourceCode f.2.1) ++
    (enumField 0x0003 (baselineSourceCode f.2.2.1) ++ (optionalStringField 0x0004 f.2.2.2.1 ++
      (stringField 0x0005 f.2.2.2.2.1 ++ enumField 0x0006 (collectionResultCode f.2.2.2.2.2)))))

theorem selfDelimiting_snapshotFront :
    SelfDelimiting (fun f : SnapshotFront =>
      Short f.1 ∧ True ∧ True ∧ ShortIfAny f.2.2.2.1 ∧ Short f.2.2.2.2.1 ∧ True) snapshotFront := by
  have vin := (selfDelimiting_enumField 2).comap vinSourceCode fun _ _ => vinSourceCode_injective
  have baseline := (selfDelimiting_enumField 3).comap baselineSourceCode
    fun _ _ => baselineSourceCode_injective
  have result := (selfDelimiting_enumField 6).comap collectionResultCode
    fun _ _ => collectionResultCode_injective
  exact (selfDelimiting_stringField 1).append (vin.append (baseline.append
    ((selfDelimiting_optionalStringField 4).append ((selfDelimiting_stringField 5).append result))))

variable (hash : Sha256)

/-- What the version covers of a snapshot beside its ECUs. -/
def VehicleSoftwareSnapshot.versionFields (s : VehicleSoftwareSnapshot) :
    BaselineSource × Option Bytes × Bytes :=
  (s.baseline_source, s.baseline_id, s.registry_version)

/-- What the snapshot fingerprint covers beside them. -/
def VehicleSoftwareSnapshot.snapshotFields (s : VehicleSoftwareSnapshot) : SnapshotFront :=
  (buildIdentifierDigest hash .Vin (normalizeVin s.vin), s.vin_source, s.baseline_source,
    s.baseline_id, s.registry_version, s.overall_result)

/-- The bytes of the version, where they are made, are such a record. -/
theorem versionBytes_ok {s : VehicleSoftwareSnapshot} {bytes : Bytes}
    (hashed : versionBytes s = .ok bytes) :
    ∃ arranged, Arranged s.ecu_list arranged ∧
      bytes = CanonicalEncoder.header VERSION_DOMAIN ++ putU32Be 4 ++
        (versionFront s.versionFields ++
        listField 0x0004 (arranged.map fun e => versionItem e.versionFields)) := by
  unfold versionBytes at hashed
  dsimp only at hashed
  cases sorted : sortEcuIndices s.ecu_list with
  -- two ECUs with one key: no bytes
  | error error =>
    rw [sorted] at hashed
    cases hashed
  -- four fields, the last one the list
  | ok order =>
    rw [sorted] at hashed
    refine ⟨arrange s.ecu_list order, sortEcuIndices_ok sorted, ?_⟩
    have holds := (CanonicalEncoder.holds_new VERSION_DOMAIN).writeEnumField 1
      (baselineSourceCode s.baseline_source)
    have holds := (holds.writeOptionalStringField 2 s.baseline_id).writeStringField
      3 s.registry_version
    have holds := holds.writeListField 4
      (order.map fun idx => encodeVersionEcu (s.ecu_list.getD idx {}))
    have written := (Except.ok.inj hashed).symm.trans holds.finalize
    simp only [encodeVersionEcu_eq] at written
    simpa [versionFront, VehicleSoftwareSnapshot.versionFields, arrange, Function.comp_def]
      using written

/-- The bytes of the snapshot are one with seven fields. -/
theorem snapshotBytes_ok {s : VehicleSoftwareSnapshot} {bytes : Bytes}
    (hashed : snapshotBytes hash s = .ok bytes) :
    ∃ arranged, Arranged s.ecu_list arranged ∧
      bytes = CanonicalEncoder.header SNAPSHOT_DOMAIN ++ putU32Be 7 ++
        (snapshotFront (s.snapshotFields hash) ++
          listField 0x0007 (arranged.map fun e => snapshotItem e.snapshotFields)) := by
  unfold snapshotBytes at hashed
  dsimp only at hashed
  cases sorted : sortEcuIndices s.ecu_list with
  | error error =>
    rw [sorted] at hashed
    cases hashed
  | ok order =>
    rw [sorted] at hashed
    refine ⟨arrange s.ecu_list order, sortEcuIndices_ok sorted, ?_⟩
    have holds := (CanonicalEncoder.holds_new SNAPSHOT_DOMAIN).writeStringField 1
      (buildIdentifierDigest hash .Vin (normalizeVin s.vin))
    have holds := (holds.writeEnumField 2 (vinSourceCode s.vin_source)).writeEnumField
      3 (baselineSourceCode s.baseline_source)
    have holds := (holds.writeOptionalStringField 4 s.baseline_id).writeStringField
      5 s.registry_version
    have holds := (holds.writeEnumField 6 (collectionResultCode s.overall_result)).writeListField 7
      (order.map fun idx => encodeSnapshotEcu (s.ecu_list.getD idx {}))
    have written := (Except.ok.inj hashed).symm.trans holds.finalize
    simp only [encodeSnapshotEcu_eq] at written
    simpa [snapshotFront, VehicleSoftwareSnapshot.snapshotFields, arrange, Function.comp_def]
      using written

/-! ### Sizes -/

/-- The strings of an ECU fit the lengths they are written with. -/
structure EcuVersionEntry.Fits (e : EcuVersionEntry) : Prop where
  ecu_id : Short e.ecu_id
  part_number : ShortIfAny e.part_number
  sw_version : ShortIfAny e.sw_version
  hw_version : ShortIfAny e.hw_version
  error_code : ShortIfAny e.error_code

/-- The covered strings of a snapshot and the number of its ECUs fit. The VIN is hashed first. -/
structure VehicleSoftwareSnapshot.Fits (s : VehicleSoftwareSnapshot) : Prop where
  baseline_id : ShortIfAny s.baseline_id
  registry_version : Short s.registry_version
  ecus : ∀ e ∈ s.ecu_list, e.Fits
  few : s.ecu_list.length < 2 ^ 32

variable {hash} {s t : VehicleSoftwareSnapshot}

/-- The bytes of two versions are the same exactly if the covered fields are. -/
theorem versionBytes_eq_iff (fits : s.Fits) (fits' : t.Fits) {bytes bytes' : Bytes}
    (hashed : versionBytes s = .ok bytes) (hashed' : versionBytes t = .ok bytes') :
    bytes = bytes' ↔ s.versionFields = t.versionFields ∧
      (s.ecu_list.map (·.versionFields)).Perm (t.ecu_list.map (·.versionFields)) := by
  obtain ⟨arranged, here, rfl⟩ := versionBytes_ok hashed
  obtain ⟨arranged', there, rfl⟩ := versionBytes_ok hashed'
  have short : ∀ {e : EcuVersionEntry}, e.Fits → Short e.versionFields.1 ∧
      ShortIfAny e.versionFields.2.1 ∧ ShortIfAny e.versionFields.2.2.1 ∧
      ShortIfAny e.versionFields.2.2.2 :=
    fun fits => ⟨fits.ecu_id, fits.part_number, fits.sw_version, fits.hw_version⟩
  exact record_eq_iff VersionFields.key selfDelimiting_versionFront
    (selfDelimiting_ecuFront.behind _) (fun e => rfl) here there
    ⟨trivial, fits.baseline_id, fits.registry_version⟩
    ⟨trivial, fits'.baseline_id, fits'.registry_version⟩
    (fun e member => short (fits.ecus e member)) (fun e member => short (fits'.ecus e member))
    fits.few fits'.few _ _

/-- The bytes of two snapshots likewise. -/
theorem snapshotBytes_eq_iff (fits : s.Fits) (fits' : t.Fits) {bytes bytes' : Bytes}
    (hashed : snapshotBytes hash s = .ok bytes) (hashed' : snapshotBytes hash t = .ok bytes') :
    bytes = bytes' ↔ s.snapshotFields hash = t.snapshotFields hash ∧
      (s.ecu_list.map (·.snapshotFields)).Perm (t.ecu_list.map (·.snapshotFields)) := by
  obtain ⟨arranged, here, rfl⟩ := snapshotBytes_ok hash hashed
  obtain ⟨arranged', there, rfl⟩ := snapshotBytes_ok hash hashed'
  have digest : ∀ value, Short (buildIdentifierDigest hash .Vin value) := by
    intro value
    simp [buildIdentifierDigest, Short]
  have short : ∀ {e : EcuVersionEntry}, e.Fits → (Short e.snapshotFields.1.1 ∧
      ShortIfAny e.snapshotFields.1.2.1 ∧ ShortIfAny e.snapshotFields.1.2.2.1 ∧
      ShortIfAny e.snapshotFields.1.2.2.2) ∧ True ∧ True ∧ ShortIfAny e.snapshotFields.2.2.2 :=
    fun fits =>
      ⟨⟨fits.ecu_id, fits.part_number, fits.sw_version, fits.hw_version⟩, trivial, trivial,
      fits.error_code⟩
  exact record_eq_iff (fun f => f.1.key) selfDelimiting_snapshotFront
    ((selfDelimiting_ecuFront.append selfDelimiting_ecuRest).behind _) (fun e => rfl) here there
    ⟨digest _, trivial, trivial, fits.baseline_id, fits.registry_version, trivial⟩
    ⟨digest _, trivial, trivial, fits'.baseline_id, fits'.registry_version, trivial⟩
    (fun e member => short (fits.ecus e member)) (fun e member => short (fits'.ecus e member))
    fits.few fits'.few _ _

/-- Two different inputs on which the hash gives the same. -/
def Collides {α : Type} (digest : Bytes → α) (a b : Bytes) : Prop := a ≠ b ∧ digest a = digest b

theorem eq_or_collides {α : Type} {digest : Bytes → α} {a b : Bytes} (same : digest a = digest b) :
    a = b ∨ Collides digest a b :=
  (em (a = b)).imp_right fun apart => ⟨apart, same⟩

/-- A fingerprint is made of the bytes, where there are any. -/
theorem makeFingerprint_ok_iff {x : Except CanonicalError Bytes} {domain : Bytes}
    {f : Fingerprint} :
    (do return makeFingerprint hash domain (← x)) = Except.ok f ↔
      ∃ bytes, x = .ok bytes ∧ f = makeFingerprint hash domain bytes := by
  cases x with
  | error error => exact ⟨nofun, by rintro ⟨bytes, hashed, -⟩; cases hashed⟩
  | ok bytes =>
    constructor
    · rintro ⟨⟩
      exact ⟨bytes, rfl, rfl⟩
    · rintro ⟨bytes', hashed, rfl⟩
      cases hashed
      rfl

/-- The version fingerprint names its domain and holds both results of the hash over the bytes. -/
theorem buildVersionFingerprint_ok {f : Fingerprint} :
    buildVersionFingerprint hash s = .ok f ↔
      ∃ bytes, versionBytes s = .ok bytes ∧ f = makeFingerprint hash VERSION_DOMAIN bytes :=
  makeFingerprint_ok_iff

/-- The snapshot fingerprint is made likewise. -/
theorem buildSnapshotFingerprint_ok {f : Fingerprint} :
    buildSnapshotFingerprint hash s = .ok f ↔
      ∃ bytes, snapshotBytes hash s = .ok bytes ∧
        f = makeFingerprint hash SNAPSHOT_DOMAIN bytes :=
  makeFingerprint_ok_iff

/-- Bytes that say the same give one fingerprint, and a digest tells other bytes apart unless the
hash collides on them. -/
theorem makeFingerprint_identifies (hash : Sha256) (domain : Bytes) {agree : Prop}
    {bytes bytes' : Bytes} (covered : bytes = bytes' ↔ agree) :
    (agree → makeFingerprint hash domain bytes = makeFingerprint hash domain bytes') ∧
      ((makeFingerprint hash domain bytes).digest = (makeFingerprint hash domain bytes').digest →
        agree ∨ Collides hash.sha256 bytes bytes') := by
  constructor
  · intro same
    rw [covered.mpr same]
  · intro same
    exact (eq_or_collides same).imp_left covered.mp

/-- Snapshots that agree on the covered fields have one version fingerprint, and where the digests
are the same the snapshots agree, unless the hash collides on their bytes. -/
theorem buildVersionFingerprint_identifies (fits : s.Fits) (fits' : t.Fits) {f f' : Fingerprint}
    (built : buildVersionFingerprint hash s = .ok f)
    (built' : buildVersionFingerprint hash t = .ok f') :
    let agree := s.versionFields = t.versionFields ∧
      (s.ecu_list.map (·.versionFields)).Perm (t.ecu_list.map (·.versionFields))
    (agree → f = f') ∧ (f.digest = f'.digest → agree ∨ ∃ bytes bytes',
      versionBytes s = .ok bytes ∧ versionBytes t = .ok bytes' ∧
        Collides hash.sha256 bytes bytes') := by
  obtain ⟨bytes, hashed, rfl⟩ := buildVersionFingerprint_ok.mp built
  obtain ⟨bytes', hashed', rfl⟩ := buildVersionFingerprint_ok.mp built'
  obtain ⟨same, apart⟩ := makeFingerprint_identifies hash VERSION_DOMAIN
    (versionBytes_eq_iff fits fits' hashed hashed')
  exact ⟨same, fun digest => (apart digest).imp_right fun collides =>
    ⟨bytes, bytes', hashed, hashed', collides⟩⟩

/-- Snapshots that agree on what the snapshot fingerprint covers have one such fingerprint, and
where the digests are the same the snapshots agree, unless the hash collides on their bytes. -/
theorem buildSnapshotFingerprint_identifies (fits : s.Fits) (fits' : t.Fits) {f f' : Fingerprint}
    (built : buildSnapshotFingerprint hash s = .ok f)
    (built' : buildSnapshotFingerprint hash t = .ok f') :
    let agree := s.snapshotFields hash = t.snapshotFields hash ∧
      (s.ecu_list.map (·.snapshotFields)).Perm (t.ecu_list.map (·.snapshotFields))
    (agree → f = f') ∧ (f.digest = f'.digest → agree ∨ ∃ bytes bytes',
      snapshotBytes hash s = .ok bytes ∧ snapshotBytes hash t = .ok bytes' ∧
        Collides hash.sha256 bytes bytes') := by
  obtain ⟨bytes, hashed, rfl⟩ := buildSnapshotFingerprint_ok.mp built
  obtain ⟨bytes', hashed', rfl⟩ := buildSnapshotFingerprint_ok.mp built'
  obtain ⟨same, apart⟩ := makeFingerprint_identifies hash SNAPSHOT_DOMAIN
    (snapshotBytes_eq_iff fits fits' hashed hashed')
  exact ⟨same, fun digest => (apart digest).imp_right fun collides =>
    ⟨bytes, bytes', hashed, hashed', collides⟩⟩

/-- The bytes behind a dedupe key tell the destination, the domain and the digest apart. -/
theorem dedupeBytes_eq_iff {f f' : Fingerprint} {destination destination' : Bytes}
    (short : Short destination) (short' : Short destination')
    (named : Short f.canonicalization) (named' : Short f'.canonicalization) :
    dedupeBytes f destination = dedupeBytes f' destination' ↔
      destination = destination' ∧ f.canonicalization = f'.canonicalization ∧
        f.digest = f'.digest := by
  have written : ∀ (f : Fingerprint) (destination : Bytes), dedupeBytes f destination =
      CanonicalEncoder.header DEDUPE_DOMAIN ++ putU32Be 3 ++ (stringField 1 destination ++
        (stringField 2 f.canonicalization ++ stringField 3 f.digest.toList)) := by
    intro f destination
    have holds := (CanonicalEncoder.holds_new DEDUPE_DOMAIN).writeStringField 1 destination
    have holds := (holds.writeStringField 2 f.canonicalization).writeBytesField
      3 f.digest.toList
    exact holds.finalize.trans (by simp)
  have digest : ∀ f : Fingerprint, Short f.digest.toList := fun f => by simp [Short]
  constructor
  -- the three fields are told apart in the record
  · intro same
    rw [written, written] at same
    have fields := (selfDelimiting_stringField 1).append
      ((selfDelimiting_stringField 2).append (selfDelimiting_stringField 3))
    have rest := List.append_cancel_left same
    have told := fields (destination, f.canonicalization, f.digest.toList)
      (destination', f'.canonicalization, f'.digest.toList) [] []
      ⟨short, named, digest f⟩ ⟨short', named', digest f'⟩ (by simpa using rest)
    have told := told.1
    simp only [Prod.mk.injEq] at told
    exact ⟨told.1, told.2.1, Vector.toList_inj.mp told.2.2⟩
  · rintro ⟨rfl, canonicalization, digest⟩
    rw [written, written, canonicalization, digest]

/-- Two dedupe keys are the same for the same destination and fingerprint, and otherwise only where
the hash collides. -/
theorem buildDedupeKey_identifies {f f' : Fingerprint} {destination destination' : Bytes}
    (short : Short destination) (short' : Short destination')
    (named : Short f.canonicalization) (named' : Short f'.canonicalization) :
    buildDedupeKey hash f destination = buildDedupeKey hash f' destination' ↔
      (destination = destination' ∧ f.canonicalization = f'.canonicalization ∧
          f.digest = f'.digest) ∨
        Collides hash.sha256_hex (dedupeBytes f destination) (dedupeBytes f' destination') := by
  rw [← dedupeBytes_eq_iff short short' named named']
  constructor
  · exact fun same => eq_or_collides (Vector.toList_inj.mp same)
  · rintro (same | ⟨-, same⟩)
    · rw [buildDedupeKey, buildDedupeKey, same]
    · rw [buildDedupeKey, buildDedupeKey, same]

/-! ### Domains -/

/-- What bytes are hashed for. -/
inductive Purpose where
  | version | snapshot | dedupe
  | identifier (kind : IdentifierKind)
  deriving DecidableEq, Repr

/-- Each purpose has a domain of its own. -/
def Purpose.domain : Purpose → Bytes
  | version => VERSION_DOMAIN
  | snapshot => SNAPSHOT_DOMAIN
  | dedupe => DEDUPE_DOMAIN
  | identifier kind => ID_DOMAIN_PREFIX ++ identifierKindSuffix kind

/-- These bytes are hashed for this purpose. -/
inductive Hashed (hash : Sha256) : Purpose → Bytes → Prop
  | version {s : VehicleSoftwareSnapshot} {bytes : Bytes} :
    versionBytes s = .ok bytes → Hashed hash .version bytes
  | snapshot {s : VehicleSoftwareSnapshot} {bytes : Bytes} :
    snapshotBytes hash s = .ok bytes → Hashed hash .snapshot bytes
  | dedupe (snapshotFingerprint : Fingerprint) (destination : Bytes) :
    Hashed hash .dedupe (dedupeBytes snapshotFingerprint destination)
  | identifier (kind : IdentifierKind) (normalizedValue : Bytes) :
    Hashed hash (.identifier kind) (identifierBytes kind normalizedValue)

/-- Hashed bytes begin with the header of their domain. -/
theorem Hashed.begins {purpose : Purpose} {bytes : Bytes} (hashed : Hashed hash purpose bytes) :
    ∃ rest, bytes = CanonicalEncoder.header purpose.domain ++ rest := by
  cases hashed with
  | version hashed =>
    obtain ⟨arranged, -, rfl⟩ := versionBytes_ok hashed
    exact ⟨_, List.append_assoc _ _ _⟩
  | snapshot hashed =>
    obtain ⟨arranged, -, rfl⟩ := snapshotBytes_ok hash hashed
    exact ⟨_, List.append_assoc _ _ _⟩
  | dedupe fingerprint destination =>
    have holds := (CanonicalEncoder.holds_new DEDUPE_DOMAIN).writeStringField 1 destination
    have holds := (holds.writeStringField 2 fingerprint.canonicalization).writeBytesField
      3 fingerprint.digest.toList
    exact ⟨_, holds.finalize.trans (List.append_assoc _ _ _)⟩
  | identifier kind value =>
    have holds :=
      (CanonicalEncoder.holds_new (ID_DOMAIN_PREFIX ++ identifierKindSuffix kind)).writeStringField
      1 value
    exact ⟨_, holds.finalize.trans (List.append_assoc _ _ _)⟩

theorem Purpose.short_domain (purpose : Purpose) : purpose.domain.length < 2 ^ 32 := by
  cases purpose with
  | identifier kind => cases kind <;> decide
  | _ => decide

theorem Purpose.domain_injective {p q : Purpose} (same : p.domain = q.domain) : p = q := by
  rcases p with _ | _ | _ | ⟨_ | _⟩ <;> rcases q with _ | _ | _ | ⟨_ | _⟩ <;>
    first | rfl | exact absurd same (by decide)

/-- The domain of hashed bytes tells what they are hashed for. -/
theorem Hashed.purpose {p q : Purpose} {bytes : Bytes} (hashed : Hashed hash p bytes)
    (hashed' : Hashed hash q bytes) : p = q := by
  obtain ⟨rest, rfl⟩ := hashed.begins
  obtain ⟨rest', same⟩ := hashed'.begins
  have domains := (selfDelimiting_size.prefixed (β := UInt8)) p.domain q.domain rest rest'
    p.short_domain q.short_domain same
  exact Purpose.domain_injective domains.1

/-! ### Main result -/

end CgwFota.Fingerprint
