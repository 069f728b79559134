import CgwFota.Data.JsonObject
import CgwFota.Inventory.Serializer

/-!
# States come back from their encoding

Each state of the current version that satisfies what its decoder checks is read back from its JSON
form, and so from its envelope as long as the text fits the length field of the header.

## Main definitions

* `ValidFingerprints`, `LastSuccessState.Valid` and its siblings: what the decoders check
* `Format.Faithful`: the fields of a valid state are read back from its JSON form
* `Format.Fits`: the text is shorter than four gigabytes

## Main results

* `Format.Faithful.decode_encode_iff`: a valid state comes back if and only if its text fits
* `faithful_sequence`, `faithful_lastSuccess`, `faithful_dedupe`, `faithful_activeJob`: the four
  formats

## Proof strategy

An object that was just built answers every lookup with what was listed under the key, so a decoder
reads the members in its own order, whatever the order of the object.
-/
namespace CgwFota.Inventory

open JsonText (parse dump)

/-! ### Reading an object that was just built -/

/-- The lifted form of a read, as the decoders use it. -/
theorem liftM_ok {α : Type} (a : α) :
    (liftM (Except.ok a : Except JsonException α) : Except Thrown α) = .ok a := rfl

theorem bind_ok {ε α β : Type} (a : α) (f : α → Except ε β) : (Except.ok a >>= f) = f a := rfl

theorem mapM_map_ok {ε α β : Type} {f : β → α} {g : α → Except ε β} (xs : List β)
    (back : ∀ x ∈ xs, g (f x) = .ok x) : (xs.map f).mapM g = .ok xs := by
  induction xs with
  | nil => rfl
  | cons x xs ih =>
    have rest := ih fun y member => back y (List.mem_cons_of_mem x member)
    simp only [List.map_cons, List.mapM_cons, back x List.mem_cons_self, rest, bind_ok]
    rfl

theorem lookup_optional (key k : String) (field : Option String) :
    ((field.map fun s => (key, Json.string s)).toList).lookup k =
      if k = key then field.map Json.string else none := by
  cases field with
  | none => simp
  | some s => simp only [Option.map_some, Option.toList_some, Json.lookup_first, List.lookup_nil]

theorem optionalString_ofMembers {ms : List (String × Json)} {key : String} {field : Option String}
    (stored : ms.lookup key = field.map Json.string) :
    optionalString (.ofMembers ms) key = .ok field := by
  unfold optionalString Json.contains
  rw [Json.member?_ofMembers, Json.atKey_ofMembers, stored]
  cases field with
  | none => rfl
  | some s => rfl

/-- The entry of an ECU is read back from its object. -/
theorem ecuEntryFromJson_toJson (e : EcuVersionEntry) :
    ecuEntryFromJson (ecuEntryToJson e) = .ok e := by
  have source : versionSourceFromString (versionSourceToString e.source) = .ok e.source := by
    cases e.source <;> rfl
  have status : ecuStatusFromString (ecuStatusToString e.status) = .ok e.status := by
    cases e.status <;> rfl
  -- the four optional members have different names
  have optional (key : String) (field : Option String)
      (named : (key, field) ∈ [("part_number", e.part_number), ("sw_version", e.sw_version),
        ("hw_version", e.hw_version), ("error_code", e.error_code)]) :
      optionalString (ecuEntryToJson e) key = .ok field := by
    apply optionalString_ofMembers
    simp only [List.mem_cons, Prod.mk.injEq, List.not_mem_nil, or_false] at named
    rcases named with ⟨rfl, rfl⟩ | ⟨rfl, rfl⟩ | ⟨rfl, rfl⟩ | ⟨rfl, rfl⟩
    all_goals simp [List.lookup_append, lookup_optional, Json.lookup_first]
  unfold ecuEntryFromJson
  rw [optional "part_number" e.part_number (by simp), optional "sw_version" e.sw_version (by simp),
    optional "hw_version" e.hw_version (by simp), optional "error_code" e.error_code (by simp)]
  simp only [ecuEntryToJson, Json.atKey_ofMembers, List.lookup_append, Json.lookup_first]
  simp [Json.getString, liftM_ok, bind_ok, source, status]

/-- A snapshot is read back from its object. -/
theorem snapshotFromJson_toJson (s : VehicleSoftwareSnapshot) :
    snapshotFromJson (snapshotToJson s) = .ok s := by
  have vin_source : vinSourceFromString (vinSourceToString s.vin_source) = .ok s.vin_source := by
    cases s.vin_source <;> rfl
  have baseline_source :
      baselineSourceFromString (baselineSourceToString s.baseline_source) =
        .ok s.baseline_source := by
    cases s.baseline_source <;> rfl
  have overall_result : collectionStatusFromString "snapshot bad overall_result: "
      (collectionStatusToString s.overall_result) = .ok s.overall_result := by
    cases s.overall_result <;> rfl
  have ecu_list : (s.ecu_list.map ecuEntryToJson).mapM ecuEntryFromJson = .ok s.ecu_list :=
    mapM_map_ok s.ecu_list fun e _ => ecuEntryFromJson_toJson e
  have baseline_id : optionalString (snapshotToJson s) "baseline_id" = .ok s.baseline_id := by
    apply optionalString_ofMembers
    simp [lookup_optional, Json.lookup_first]
  unfold snapshotFromJson
  rw [baseline_id]
  simp only [snapshotToJson, Json.atKey_ofMembers, Json.value_ofMembers, List.lookup_append,
    Json.lookup_first]
  simp [Json.getString, Json.getUInt64_toNat, Json.items, liftM_ok, bind_ok, vin_source,
    baseline_source, overall_result, ecu_list]

/-! ### Fingerprints -/

/-- What `validatePersistedFingerprints` asks for. -/
structure ValidFingerprints (fp : PersistedFingerprints) : Prop where
  named : fp.versionFingerprintHex ≠ "" ∨ fp.snapshotFingerprintHex ≠ "" ∨ fp.dedupeKeyHex ≠ "" →
    fp.algorithm = "sha-256" ∧ fp.canonicalization = "cgw-fota-snapshot-v1"
  versionFingerprintHex : fp.versionFingerprintHex ≠ "" → isValidHex64 fp.versionFingerprintHex
  snapshotFingerprintHex : fp.snapshotFingerprintHex ≠ "" → isValidHex64 fp.snapshotFingerprintHex
  dedupeKeyHex : fp.dedupeKeyHex ≠ "" → isValidHex64 fp.dedupeKeyHex

/-- A check that throws where its condition holds, before the code goes on. -/
theorem check_then_ok_iff {α : Type} {p : Prop} [Decidable p] {message : String}
    {unreached : Unit → Except Thrown α} {next : Except Thrown α} {a : α} :
    (if p then bad message >>= unreached else next) = .ok a ↔ ¬p ∧ next = .ok a := by
  by_cases h : p
  · simp [h, bad, bind, Except.bind]
  · simp [h]

theorem check_ok_iff {p : Prop} [Decidable p] {message : String} :
    (if p then bad message else pure () : Except Thrown Unit) = .ok () ↔ ¬p := by
  by_cases h : p
  · simp [h, bad]
  · simp [h, pure, Except.pure]

theorem validatePersistedFingerprints_ok_iff {fp : PersistedFingerprints} {stage : String} :
    validatePersistedFingerprints fp stage = .ok () ↔ ValidFingerprints fp := by
  unfold validatePersistedFingerprints
  simp only [check_then_ok_iff, check_ok_iff, not_and, not_not]
  constructor
  · rintro ⟨algorithm, canonicalization, version, snapshot, dedupe⟩
    exact ⟨fun any => ⟨algorithm any, canonicalization any⟩, version, snapshot, dedupe⟩
  · intro valid
    exact ⟨fun any => (valid.named any).1, fun any => (valid.named any).2,
      valid.versionFingerprintHex, valid.snapshotFingerprintHex, valid.dedupeKeyHex⟩

theorem persistedFingerprintsFromJson_toJson (fp : PersistedFingerprints) :
    persistedFingerprintsFromJson (persistedFingerprintsToJson fp) = .ok fp := by
  simp only [persistedFingerprintsFromJson, persistedFingerprintsToJson, Json.value_ofMembers,
    Json.lookup_first]
  simp [Json.getString, bind_ok]

/-- Valid fingerprints are read back from the object they are a member of. -/
theorem fingerprintsOf_ofMembers {ms : List (String × Json)} {fp : PersistedFingerprints}
    (stage : String) (stored : ms.lookup "fingerprints" = some (persistedFingerprintsToJson fp))
    (valid : ValidFingerprints fp) : fingerprintsOf (.ofMembers ms) stage = .ok fp := by
  unfold fingerprintsOf
  rw [Json.value_ofMembers, stored]
  simp only [liftM_ok, bind_ok, persistedFingerprintsFromJson_toJson,
    validatePersistedFingerprints_ok_iff.mpr valid]
  rfl

theorem dedupeEntryFromJson_toJson {e : DedupeEntry} (valid : ValidFingerprints e.fingerprints) :
    dedupeEntryFromJson (dedupeEntryToJson e) = .ok e := by
  have fingerprints : fingerprintsOf (dedupeEntryToJson e) "dedupe entry" = .ok e.fingerprints :=
    fingerprintsOf_ofMembers _ (by simp [Json.lookup_first]) valid
  unfold dedupeEntryFromJson
  rw [fingerprints]
  simp only [dedupeEntryToJson, Json.atKey_ofMembers, Json.lookup_first]
  simp [Json.getString, Json.getUInt64_toNat, Json.getInt64_toInt, liftM_ok, bind_ok]

/-! ### Canonical forms -/

theorem canonical_ecuEntryToJson (e : EcuVersionEntry) : (ecuEntryToJson e).Canonical := by
  apply Json.canonical_ofMembers
  simp [or_imp, forall_and, Json.Canonical.string]

theorem canonical_snapshotToJson (s : VehicleSoftwareSnapshot) : (snapshotToJson s).Canonical := by
  have ecu_list : (Json.array (s.ecu_list.map ecuEntryToJson)).Canonical :=
    .array (by simp [canonical_ecuEntryToJson])
  apply Json.canonical_ofMembers
  simp [or_imp, forall_and, Json.Canonical.string, Json.canonical_uint64, ecu_list]

theorem canonical_persistedFingerprintsToJson (fp : PersistedFingerprints) :
    (persistedFingerprintsToJson fp).Canonical := by
  apply Json.canonical_ofMembers
  simp [Json.Canonical.string]

theorem canonical_dedupeEntryToJson (e : DedupeEntry) : (dedupeEntryToJson e).Canonical := by
  apply Json.canonical_ofMembers
  simp [Json.Canonical.string, Json.canonical_uint64, Json.canonical_int64,
    canonical_persistedFingerprintsToJson]

theorem canonical_versionNumber (v : UInt32) : (versionNumber v).Canonical :=
  Json.canonical_uint32 v

theorem canonical_lastSuccessToJson (s : LastSuccessState) : (lastSuccessToJson s).Canonical := by
  apply Json.canonical_ofMembers
  simp [Json.Canonical.string, Json.canonical_uint64, Json.canonical_int64,
    canonical_persistedFingerprintsToJson, canonical_versionNumber, canonical_snapshotToJson]

theorem canonical_dedupeToJson (s : DedupeState) : (dedupeToJson s).Canonical := by
  have entries : (Json.array (s.entries.map dedupeEntryToJson)).Canonical :=
    .array (by simp [canonical_dedupeEntryToJson])
  apply Json.canonical_ofMembers
  simp [Json.canonical_uint32, Json.canonical_int64, canonical_versionNumber, entries]

theorem canonical_activeJobToJson (s : ActiveJobState) : (activeJobToJson s).Canonical := by
  apply Json.canonical_ofMembers
  simp [Json.Canonical.string, Json.canonical_uint64, Json.canonical_uint32, Json.canonical_int64,
    canonical_persistedFingerprintsToJson, canonical_versionNumber]

/-! ### Round trips -/

/-- The fields of a valid state of the current version are read back from its JSON form. -/
structure Format.Faithful {σ : Type} (format : Format σ) (Valid : σ → Prop) : Prop where
  canonical : ∀ s, (format.toJson s).Canonical
  tagged : ∀ s, (format.toJson s).value Json.getUInt32 "schemaVersion" format.version
    = .ok (format.schemaVersion s)
  read : ∀ s, Valid s → format.fields (format.schemaVersion s) (format.toJson s) = .ok s

section Encoded

variable {σ : Type} [JsonText] {format : Format σ}

/-- The text of the state is shorter than four gigabytes. -/
def Format.Fits (format : Format σ) (s : σ) : Prop := (dump (format.toJson s)).length < 2 ^ 32

theorem Format.decode_of_header {bytes : Bytes} {x : StateDecodeError}
    (header : parseEnvelopeHeader bytes = .error x) : format.decode bytes = .error x := by
  unfold Format.decode
  rw [header]
  rfl

variable (format) in
/-- The text of a state that does not fit the envelope. -/
theorem Format.decode_encode_long (writtenAt : Int64) {s : σ} (long : ¬format.Fits s) :
    ∃ x, format.decode (format.encode writtenAt s) = .error x := by
  obtain ⟨x, rejected⟩ := parse_encodeEnvelope_long writtenAt (format.schemaVersion s) long
  exact ⟨x, Format.decode_of_header rejected⟩

variable [LawfulJsonText] {Valid : σ → Prop}

theorem Format.Faithful.fits (faithful : format.Faithful Valid) {s : σ}
    (short : (format.toJson s).maxLength < 2 ^ 32) : format.Fits s :=
  Nat.lt_of_le_of_lt (LawfulJsonText.length_dump (faithful.canonical s)) short

theorem Format.Faithful.decode_encode (faithful : format.Faithful Valid) (writtenAt : Int64) {s : σ}
    (current : format.schemaVersion s = format.version) (valid : Valid s) (fits : format.Fits s) :
    format.decode (format.encode writtenAt s) = .ok s := by
  apply Format.decode_encode_fits writtenAt current (faithful.canonical s) fits
  · rw [faithful.tagged, current]
  · rw [← current]
    exact faithful.read s valid

theorem Format.Faithful.decode_encode_iff (faithful : format.Faithful Valid) (writtenAt : Int64)
    {s : σ} (current : format.schemaVersion s = format.version) (valid : Valid s) :
    format.decode (format.encode writtenAt s) = .ok s ↔ format.Fits s := by
  constructor
  · intro back
    -- a longer text does not match the length in its header
    by_contra long
    obtain ⟨x, rejected⟩ := Format.decode_encode_long _ writtenAt long
    rw [rejected] at back
    cases back
  · exact faithful.decode_encode writtenAt current valid

end Encoded

/-! ### The four formats -/

def SequenceState.Valid (_ : SequenceState) : Prop := True

structure LastSuccessState.Valid (s : LastSuccessState) : Prop where
  fingerprints : ValidFingerprints s.fingerprints
  snapshotSeq : s.snapshot.snapshot_seq = s.snapshotSeq

def DedupeState.Valid (s : DedupeState) : Prop :=
  ∀ e ∈ s.entries, ValidFingerprints e.fingerprints

def ActiveJobState.Valid (s : ActiveJobState) : Prop := ValidFingerprints s.fingerprints

theorem faithful_sequence : sequenceFormat.Faithful SequenceState.Valid where
  canonical := canonical_sequenceToJson
  tagged s := by
    show (sequenceToJson s).value _ _ _ = _
    simp [sequenceToJson, Json.value_ofMembers, versionNumber, Json.getUInt32_toNat, sequenceFormat]
  read s _ := by
    show sequenceFields s.schemaVersion (sequenceToJson s) = .ok s
    unfold sequenceFields sequenceToJson
    simp only [Json.atKey_ofMembers, Json.value_ofMembers, Json.lookup_first]
    simp [Json.getUInt64_toNat, Json.getInt64_toInt, liftM_ok, bind_ok]

/-- The last success comes back from its object. -/
theorem faithful_lastSuccess : lastSuccessFormat.Faithful LastSuccessState.Valid where
  canonical := canonical_lastSuccessToJson
  tagged s := by
    show (lastSuccessToJson s).value _ _ _ = _
    simp [lastSuccessToJson, Json.value_ofMembers, versionNumber, Json.getUInt32_toNat,
      lastSuccessFormat]
  read s valid := by
    have overallResult :
        overallResultFromString (collectionStatusToString s.overallResult) =
          .ok s.overallResult := by
      cases s.overallResult <;> rfl
    have fingerprints : fingerprintsOf (lastSuccessToJson s) "last_success" = .ok s.fingerprints :=
      fingerprintsOf_ofMembers _ (by simp [Json.lookup_first]) valid.fingerprints
    show lastSuccessFields s.schemaVersion (lastSuccessToJson s) = .ok s
    unfold lastSuccessFields
    rw [fingerprints]
    simp only [lastSuccessToJson, Json.atKey_ofMembers, Json.lookup_first]
    simp [Json.getString, Json.getUInt64_toNat, Json.getInt64_toInt, liftM_ok, bind_ok,
      overallResult, snapshotFromJson_toJson, valid.snapshotSeq]

theorem faithful_dedupe : dedupeFormat.Faithful DedupeState.Valid where
  canonical := canonical_dedupeToJson
  tagged s := by
    show (dedupeToJson s).value _ _ _ = _
    simp [dedupeToJson, Json.value_ofMembers, versionNumber, Json.getUInt32_toNat, dedupeFormat]
  read s valid := by
    have entries : (s.entries.map dedupeEntryToJson).mapM dedupeEntryFromJson = .ok s.entries :=
      mapM_map_ok s.entries fun e member => dedupeEntryFromJson_toJson (valid e member)
    show dedupeFields s.schemaVersion (dedupeToJson s) = .ok s
    unfold dedupeFields dedupeToJson
    simp only [Json.atKey_ofMembers, Json.value_ofMembers, Json.lookup_first]
    simp [Json.getUInt32_toNat, Json.getInt64_toInt, Json.items, liftM_ok, bind_ok, entries]

/-- The job comes back from its object. -/
theorem faithful_activeJob : activeJobFormat.Faithful ActiveJobState.Valid where
  canonical := canonical_activeJobToJson
  tagged s := by
    show (activeJobToJson s).value _ _ _ = _
    simp [activeJobToJson, Json.value_ofMembers, versionNumber, Json.getUInt32_toNat,
      activeJobFormat]
  read s valid := by
    have reason : triggerReasonFromString (triggerReasonToString s.reason) = some s.reason := by
      cases s.reason <;> rfl
    have phase : jobPhaseFromString (jobPhaseToString s.phase) = some s.phase := by
      cases s.phase <;> rfl
    have fingerprints : fingerprintsOf (activeJobToJson s) "active_job" = .ok s.fingerprints :=
      fingerprintsOf_ofMembers _ (by simp [Json.lookup_first]) valid
    show activeJobFields s.schemaVersion (activeJobToJson s) = .ok s
    unfold activeJobFields
    rw [fingerprints]
    simp only [activeJobToJson, Json.atKey_ofMembers, Json.value_ofMembers, Json.lookup_first]
    simp [Json.getString, Json.getUInt64_toNat, Json.getUInt32_toNat, Json.getInt64_toInt, liftM_ok,
      bind_ok, reason, phase]

end CgwFota.Inventory
