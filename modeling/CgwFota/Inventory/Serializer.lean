import CgwFota.Data.Json
import CgwFota.Inventory.State

/-!
# Encoding, migration and decoding of the states

A decoder first walks the payload up the chain of schema versions, one text at a time, and then
reads the fields. It fails with a `StateDecodeError` whatever goes wrong on the way.

## Main definitions

* `ecuEntryToJson`, `ecuEntryFromJson` and their siblings: the parts of the states
* `validatePersistedFingerprints`: what is checked of the fingerprints of a record
* `migrateSequence` and its siblings: one step of migration each
* `Format`: what the four serializers differ in, with `encode`, `migrateChain` and `decode`

## Main results

* `Format.decode_current`: a decoded state is of the current version
* `Format.decode_encode_fits`: a state is decoded from its own encoding
* `decode_encodeSequence`: the sequence always is, since its text is short
-/
namespace CgwFota.Inventory

open JsonText (parse dump)

/-- What the code inside a decoder may throw. -/
inductive Thrown where
  | state (e : StateDecodeError)
  | json (e : JsonException)
  deriving DecidableEq, Repr

instance : MonadLift (Except JsonException) (Except Thrown) where
  monadLift x := x.mapError .json

def bad {α : Type} (message : String) : Except Thrown α := .error (.state ⟨message⟩)

/-! ### Parts of the states -/

def ecuEntryToJson (e : EcuVersionEntry) : Json :=
  let optional (key : String) (field : Option String) : List (String × Json) :=
    (field.map fun s => (key, Json.string s)).toList
  .ofMembers
    ([ ("ecu_id", .string e.ecu_id),
       ("source", .string (versionSourceToString e.source)),
       ("status", .string (ecuStatusToString e.status)) ]
      ++ optional "part_number" e.part_number
      ++ optional "sw_version" e.sw_version
      ++ optional "hw_version" e.hw_version
      ++ optional "error_code" e.error_code)

def versionSourceFromString : String → Except Thrown VersionSource
  | "UDS_0x22" => pure .UDS_0x22
  | "SOMEIP_GET_VERSION" => pure .SOMEIP_GET_VERSION
  | s => bad ("EcuVersionEntry bad source: " ++ s)

def ecuStatusFromString : String → Except Thrown EcuStatus
  | "OK" => pure .OK
  | "MISSING" => pure .MISSING
  | "NRC" => pure .NRC
  | "TIMEOUT" => pure .TIMEOUT
  | "UNREACHABLE" => pure .UNREACHABLE
  | "PARSE_ERROR" => pure .PARSE_ERROR
  | s => bad ("EcuVersionEntry bad status: " ++ s)

def optionalString (j : Json) (key : String) : Except JsonException (Option String) :=
  if j.contains key then do return some (← (← j.atKey key).getString) else return none

def ecuEntryFromJson (j : Json) : Except Thrown EcuVersionEntry := do
  let ecu_id ← (← j.atKey "ecu_id").getString
  let source ← versionSourceFromString (← (← j.atKey "source").getString)
  let status ← ecuStatusFromString (← (← j.atKey "status").getString)
  let part_number ← optionalString j "part_number"
  let sw_version ← optionalString j "sw_version"
  let hw_version ← optionalString j "hw_version"
  let error_code ← optionalString j "error_code"
  return { ecu_id, part_number, sw_version, hw_version, source, status, error_code }

def snapshotToJson (s : VehicleSoftwareSnapshot) : Json :=
  .ofMembers
    ([ ("vin", .string s.vin),
       ("vin_source", .string (vinSourceToString s.vin_source)),
       ("baseline_source", .string (baselineSourceToString s.baseline_source)),
       ("registry_version", .string s.registry_version),
       ("collected_at", .string s.collected_at),
       ("overall_result", .string (collectionStatusToString s.overall_result)),
       ("snapshot_seq", .integer s.snapshot_seq.toNat),
       ("ecu_list", .array (s.ecu_list.map ecuEntryToJson)) ]
      ++ (s.baseline_id.map fun id => ("baseline_id", Json.string id)).toList)

def vinSourceFromString : String → Except Thrown VinSource
  | "PROVISIONED" => pure .PROVISIONED
  | "UNKNOWN" => pure .UNKNOWN
  | v => bad ("snapshot bad vin_source: " ++ v)

def baselineSourceFromString : String → Except Thrown BaselineSource
  | "FACTORY" => pure .FACTORY
  | "LAST_OTA" => pure .LAST_OTA
  | "UNKNOWN" => pure .UNKNOWN
  | b => bad ("snapshot bad baseline_source: " ++ b)

def collectionStatusFromString (complaint : String) : String → Except Thrown CollectionStatus
  | "ALL_OK" => pure .ALL_OK
  | "PARTIAL" => pure .PARTIAL
  | "FAILED" => pure .FAILED
  | r => bad (complaint ++ r)

def snapshotFromJson (j : Json) : Except Thrown VehicleSoftwareSnapshot := do
  let vin ← (← j.atKey "vin").getString
  let vin_source ← vinSourceFromString (← j.value Json.getString "vin_source" "UNKNOWN")
  let baseline_id ← optionalString j "baseline_id"
  let baseline_source ← baselineSourceFromString (← (← j.atKey "baseline_source").getString)
  let registry_version ← (← j.atKey "registry_version").getString
  let collected_at ← (← j.atKey "collected_at").getString
  let overall_result ← collectionStatusFromString "snapshot bad overall_result: "
    (← (← j.atKey "overall_result").getString)
  let snapshot_seq ← (← j.atKey "snapshot_seq").getUInt64
  let ecu_list ← (← j.atKey "ecu_list").items.mapM ecuEntryFromJson
  return {
    vin, vin_source, baseline_id, baseline_source, registry_version, collected_at, overall_result,
    snapshot_seq, ecu_list }

def overallResultFromString : String → Except Thrown CollectionStatus :=
  collectionStatusFromString "bad overallResult: "

def persistedFingerprintsToJson (fp : PersistedFingerprints) : Json :=
  .ofMembers
    [ ("algorithm", .string fp.algorithm),
      ("canonicalization", .string fp.canonicalization),
      ("versionFingerprintHex", .string fp.versionFingerprintHex),
      ("snapshotFingerprintHex", .string fp.snapshotFingerprintHex),
      ("dedupeKeyHex", .string fp.dedupeKeyHex) ]

def persistedFingerprintsFromJson (j : Json) : Except JsonException PersistedFingerprints := do
  let algorithm ← j.value Json.getString "algorithm" ""
  let canonicalization ← j.value Json.getString "canonicalization" ""
  let versionFingerprintHex ← j.value Json.getString "versionFingerprintHex" ""
  let snapshotFingerprintHex ← j.value Json.getString "snapshotFingerprintHex" ""
  let dedupeKeyHex ← j.value Json.getString "dedupeKeyHex" ""
  return {
    algorithm, canonicalization, versionFingerprintHex, snapshotFingerprintHex, dedupeKeyHex }

def isValidHex64 (h : String) : Bool :=
  h.utf8ByteSize = 64 && h.toList.all fun c => ('0' ≤ c && c ≤ '9') || ('a' ≤ c && c ≤ 'f')

/-- Empty fingerprints stand for an unknown or legacy record and are allowed. -/
def validatePersistedFingerprints (fp : PersistedFingerprints) (stage : String) :
    Except Thrown Unit := do
  let anyHex := fp.versionFingerprintHex ≠ "" ∨ fp.snapshotFingerprintHex ≠ "" ∨
    fp.dedupeKeyHex ≠ ""
  if anyHex ∧ fp.algorithm ≠ "sha-256" then
    bad (stage ++ " bad fingerprint algorithm: " ++ fp.algorithm)
  if anyHex ∧ fp.canonicalization ≠ "cgw-fota-snapshot-v1" then
    bad (stage ++ " bad fingerprint canonicalization: " ++ fp.canonicalization)
  if fp.versionFingerprintHex ≠ "" ∧ ¬isValidHex64 fp.versionFingerprintHex then
    bad (stage ++ " bad versionFingerprintHex")
  if fp.snapshotFingerprintHex ≠ "" ∧ ¬isValidHex64 fp.snapshotFingerprintHex then
    bad (stage ++ " bad snapshotFingerprintHex")
  if fp.dedupeKeyHex ≠ "" ∧ ¬isValidHex64 fp.dedupeKeyHex then
    bad (stage ++ " bad dedupeKeyHex")

/-- The fingerprints of a record, read and checked. -/
def fingerprintsOf (j : Json) (stage : String) : Except Thrown PersistedFingerprints := do
  let fingerprints ← persistedFingerprintsFromJson
    (← j.value (fun v => .ok v) "fingerprints" (.object []))
  validatePersistedFingerprints fingerprints stage
  return fingerprints

def dedupeEntryToJson (e : DedupeEntry) : Json :=
  .ofMembers
    [ ("requestId", .string e.requestId),
      ("reportId", .string e.reportId),
      ("snapshotSeq", .integer e.snapshotSeq.toNat),
      ("fingerprints", persistedFingerprintsToJson e.fingerprints),
      ("overallResult", .string e.overallResult),
      ("completedAt", .integer e.completedAt.toInt),
      ("expiresAt", .integer e.expiresAt.toInt) ]

def dedupeEntryFromJson (j : Json) : Except Thrown DedupeEntry := do
  let requestId ← (← j.atKey "requestId").getString
  let reportId ← (← j.atKey "reportId").getString
  let snapshotSeq ← (← j.atKey "snapshotSeq").getUInt64
  let fingerprints ← fingerprintsOf j "dedupe entry"
  let overallResult ← (← j.atKey "overallResult").getString
  let completedAt ← (← j.atKey "completedAt").getInt64
  let expiresAt ← (← j.atKey "expiresAt").getInt64
  return { requestId, reportId, snapshotSeq, fingerprints, overallResult, completedAt, expiresAt }

/-! ### One step of migration -/

def setIfMissing (j : Json) (key : String) (v : Json) : Except JsonException Json :=
  if j.contains key then .ok j else j.set key v

/-- Fingerprints of a record from before they were recorded. -/
def unknownFingerprints : Json := persistedFingerprintsToJson {}

def versionNumber (v : UInt32) : Json := .integer v.toNat

def migrateSequence (j : Json) (_fromVersion : UInt32) : Except JsonException Json := do
  let j ← setIfMissing j "schemaVersion" (versionNumber schema.SEQUENCE_VERSION)
  setIfMissing j "updatedAt" (.integer 0)

def migrateLastSuccess (j : Json) (fromVersion : UInt32) : Except JsonException Json :=
  if fromVersion = 0 then do
    let j ← setIfMissing j "schemaVersion" (versionNumber 1)
    setIfMissing j "fingerprint" (.string "")
  else if fromVersion = 1 then do
    let j ← j.erase "fingerprint"
    let j ← setIfMissing j "fingerprints" unknownFingerprints
    j.set "schemaVersion" (versionNumber schema.LAST_SUCCESS_VERSION)
  else return j

def migrateDedupeEntry (ej : Json) : Except JsonException Json := do
  let ej ← ej.erase "fingerprint"
  setIfMissing ej "fingerprints" unknownFingerprints

def migrateDedupe (j : Json) (fromVersion : UInt32) : Except JsonException Json :=
  if fromVersion = 0 then do
    let j ← setIfMissing j "schemaVersion" (versionNumber 1)
    let j ← match j.member? "maxSize" with
      | some maxSize =>
        if j.contains "maxEntries" then pure j
        else do (← j.set "maxEntries" maxSize).erase "maxSize"
      | none => pure j
    setIfMissing j "ttlMs" (.integer 0)
  else if fromVersion = 1 then do
    let j ← setIfMissing j "schemaVersion" (versionNumber schema.DEDUPE_VERSION)
    let j ← match j.member? "entries" with
      | some (.array entries) => do
        j.set "entries" (.array (← entries.mapM migrateDedupeEntry))
      | _ => pure j
    j.set "schemaVersion" (versionNumber schema.DEDUPE_VERSION)
  else return j

def migrateActiveJob (j : Json) (fromVersion : UInt32) : Except JsonException Json :=
  if fromVersion = 0 then do
    let j ← setIfMissing j "schemaVersion" (versionNumber 1)
    setIfMissing j "idempotencyKey" (.string "")
  else if fromVersion = 1 then do
    let j ← setIfMissing j "schemaVersion" (versionNumber schema.ACTIVE_JOB_VERSION)
    let j ← setIfMissing j "fingerprints" unknownFingerprints
    j.set "schemaVersion" (versionNumber schema.ACTIVE_JOB_VERSION)
  else return j

/-! ### Fields of the states -/

def sequenceToJson (s : SequenceState) : Json :=
  .ofMembers
    [ ("schemaVersion", versionNumber s.schemaVersion),
      ("highestAllocated", .integer s.highestAllocated.toNat),
      ("updatedAt", .integer s.updatedAt.toInt) ]

def sequenceFields (schemaVersion : UInt32) (j : Json) : Except Thrown SequenceState := do
  let highestAllocated ← (← j.atKey "highestAllocated").getUInt64
  let updatedAt ← j.value Json.getInt64 "updatedAt" 0
  return { schemaVersion, highestAllocated, updatedAt }

def lastSuccessToJson (s : LastSuccessState) : Json :=
  .ofMembers
    [ ("schemaVersion", versionNumber s.schemaVersion),
      ("reportId", .string s.reportId),
      ("snapshotSeq", .integer s.snapshotSeq.toNat),
      ("completedAt", .integer s.completedAt.toInt),
      ("registryVersion", .string s.registryVersion),
      ("overallResult", .string (collectionStatusToString s.overallResult)),
      ("fingerprints", persistedFingerprintsToJson s.fingerprints),
      ("snapshot", snapshotToJson s.snapshot) ]

def lastSuccessFields (schemaVersion : UInt32) (j : Json) : Except Thrown LastSuccessState := do
  let reportId ← (← j.atKey "reportId").getString
  let snapshotSeq ← (← j.atKey "snapshotSeq").getUInt64
  let completedAt ← (← j.atKey "completedAt").getInt64
  let registryVersion ← (← j.atKey "registryVersion").getString
  let overallResult ← overallResultFromString (← (← j.atKey "overallResult").getString)
  let fingerprints ← fingerprintsOf j "last_success"
  let snapshot ← snapshotFromJson (← j.atKey "snapshot")
  if snapshot.snapshot_seq ≠ snapshotSeq then
    bad "last_success snapshotSeq mismatch"
  return {
    schemaVersion, reportId, snapshotSeq, completedAt, registryVersion, overallResult,
    fingerprints, snapshot }

def dedupeToJson (s : DedupeState) : Json :=
  .ofMembers
    [ ("schemaVersion", versionNumber s.schemaVersion),
      ("entries", .array (s.entries.map dedupeEntryToJson)),
      ("maxEntries", .integer s.maxEntries.toNat),
      ("ttlMs", .integer s.ttlMs.toInt) ]

def dedupeFields (schemaVersion : UInt32) (j : Json) : Except Thrown DedupeState := do
  let entries ← (← j.atKey "entries").items.mapM dedupeEntryFromJson
  let maxEntries ← j.value Json.getUInt32 "maxEntries" 0
  let ttlMs ← j.value Json.getInt64 "ttlMs" 0
  return { schemaVersion, entries, maxEntries, ttlMs }

def activeJobToJson (s : ActiveJobState) : Json :=
  .ofMembers
    [ ("schemaVersion", versionNumber s.schemaVersion),
      ("requestId", .string s.requestId),
      ("reportId", .string s.reportId),
      ("snapshotSeq", .integer s.snapshotSeq.toNat),
      ("reason", .string (triggerReasonToString s.reason)),
      ("phase", .string (jobPhaseToString s.phase)),
      ("attempt", .integer s.attempt.toNat),
      ("nextRetryAt", .integer s.nextRetryAt.toInt),
      ("lastErrorCode", .string s.lastErrorCode),
      ("idempotencyKey", .string s.idempotencyKey),
      ("fingerprints", persistedFingerprintsToJson s.fingerprints) ]

def activeJobFields (schemaVersion : UInt32) (j : Json) : Except Thrown ActiveJobState := do
  let requestId ← (← j.atKey "requestId").getString
  let reportId ← (← j.atKey "reportId").getString
  let snapshotSeq ← (← j.atKey "snapshotSeq").getUInt64
  let r ← (← j.atKey "reason").getString
  let reason ← match triggerReasonFromString r with
    | some reason => pure reason
    | none => bad ("active_job bad reason: " ++ r)
  let p ← (← j.atKey "phase").getString
  let phase ← match jobPhaseFromString p with
    | some phase => pure phase
    | none => bad ("active_job bad phase: " ++ p)
  let attempt ← (← j.atKey "attempt").getUInt32
  let nextRetryAt ← (← j.atKey "nextRetryAt").getInt64
  let lastErrorCode ← (← j.atKey "lastErrorCode").getString
  let idempotencyKey ← j.value Json.getString "idempotencyKey" ""
  let fingerprints ← fingerprintsOf j "active_job"
  return {
    schemaVersion, requestId, reportId, snapshotSeq, reason, phase, attempt, nextRetryAt,
    lastErrorCode, idempotencyKey, fingerprints }

/-! ### Encoders and decoders -/

/-- What the four serializers differ in. -/
structure Format (σ : Type) where
  name : String
  version : UInt32
  schemaVersion : σ → UInt32
  toJson : σ → Json
  migrate : Json → UInt32 → Except JsonException Json
  fields : UInt32 → Json → Except Thrown σ

section Text

variable {σ : Type} [JsonText]

def Format.encode (format : Format σ) (writtenAt : Int64) (s : σ) : Bytes :=
  encodeEnvelope writtenAt (format.schemaVersion s) (dump (format.toJson s))

/-- One step up the chain, from text to text; the current version is returned as it is. -/
def Format.migratePayload (format : Format σ) (payloadJson : Bytes) (fromVersion : UInt32) :
    Except JsonException Bytes :=
  if fromVersion ≥ format.version then return payloadJson
  else do
    let j ← parse payloadJson
    return dump (← format.migrate j fromVersion)

/-- The loop of the decoder: `steps` versions up from `v`. -/
def Format.migrateChain (format : Format σ) : Nat → UInt32 → Bytes → Except JsonException Bytes
  | 0, _, payload => return payload
  | steps + 1, v, payload => do
    let payload ← format.migratePayload payload v
    format.migrateChain steps (v + 1) payload

def Format.read (format : Format σ) (fromVersion : UInt32) (payload : Bytes) :
    Except Thrown σ := do
  let payload ← format.migrateChain (format.version - fromVersion).toNat fromVersion payload
  let j ← parse payload
  let schemaVersion ← j.value Json.getUInt32 "schemaVersion" format.version
  if schemaVersion ≠ format.version then
    bad (format.name ++ " schemaVersion mismatch after migration")
  format.fields schemaVersion j

def Format.decode (format : Format σ) (bytes : Bytes) : Except StateDecodeError σ := do
  let h ← parseEnvelopeHeader bytes
  if h.schemaVersion > format.version then
    .error ⟨format.name ++ " unknown newer schemaVersion: " ++ toString h.schemaVersion⟩
  else
    (format.read h.schemaVersion (extractPayload bytes h)).mapError fun
      | .state e => e
      | .json e => ⟨format.name ++ " decode failed: " ++ e.what⟩

def sequenceFormat : Format SequenceState where
  name := "sequence"
  version := schema.SEQUENCE_VERSION
  schemaVersion := (·.schemaVersion)
  toJson := sequenceToJson
  migrate := migrateSequence
  fields := sequenceFields

def lastSuccessFormat : Format LastSuccessState where
  name := "last_success"
  version := schema.LAST_SUCCESS_VERSION
  schemaVersion := (·.schemaVersion)
  toJson := lastSuccessToJson
  migrate := migrateLastSuccess
  fields := lastSuccessFields

def dedupeFormat : Format DedupeState where
  name := "dedupe"
  version := schema.DEDUPE_VERSION
  schemaVersion := (·.schemaVersion)
  toJson := dedupeToJson
  migrate := migrateDedupe
  fields := dedupeFields

def activeJobFormat : Format ActiveJobState where
  name := "active_job"
  version := schema.ACTIVE_JOB_VERSION
  schemaVersion := (·.schemaVersion)
  toJson := activeJobToJson
  migrate := migrateActiveJob
  fields := activeJobFields

def encodeSequence : Int64 → SequenceState → Bytes := sequenceFormat.encode

def decodeSequence : Bytes → Except StateDecodeError SequenceState := sequenceFormat.decode

def migrateSequencePayload : Bytes → UInt32 → Except JsonException Bytes :=
  sequenceFormat.migratePayload

def encodeLastSuccess : Int64 → LastSuccessState → Bytes := lastSuccessFormat.encode

def decodeLastSuccess : Bytes → Except StateDecodeError LastSuccessState := lastSuccessFormat.decode

def migrateLastSuccessPayload : Bytes → UInt32 → Except JsonException Bytes :=
  lastSuccessFormat.migratePayload

def encodeDedupe : Int64 → DedupeState → Bytes := dedupeFormat.encode

def decodeDedupe : Bytes → Except StateDecodeError DedupeState := dedupeFormat.decode

def migrateDedupePayload : Bytes → UInt32 → Except JsonException Bytes :=
  dedupeFormat.migratePayload

def encodeActiveJob : Int64 → ActiveJobState → Bytes := activeJobFormat.encode

def decodeActiveJob : Bytes → Except StateDecodeError ActiveJobState := activeJobFormat.decode

def migrateActiveJobPayload : Bytes → UInt32 → Except JsonException Bytes :=
  activeJobFormat.migratePayload

end Text

/-! ### What a decoder accepts -/

theorem bind_ok_iff {ε α β : Type} {x : Except ε α} {f : α → Except ε β} {b : β} :
    x >>= f = .ok b ↔ ∃ a, x = .ok a ∧ f a = .ok b := by
  cases x with
  | error e => simp [bind, Except.bind]
  | ok a => simp [bind, Except.bind]

theorem mapError_ok_iff {ε ε' α : Type} {x : Except ε α} {f : ε → ε'} {a : α} :
    x.mapError f = .ok a ↔ x = .ok a := by
  cases x with
  | error e => simp [Except.mapError]
  | ok a => simp [Except.mapError]

/-- Whatever its version on disk, a decoded state is of the current version. -/
theorem Format.decode_current {σ : Type} [JsonText] {format : Format σ} {bytes : Bytes} {s : σ}
    (tags : ∀ v j s, format.fields v j = .ok s → format.schemaVersion s = v)
    (decoded : format.decode bytes = .ok s) : format.schemaVersion s = format.version := by
  unfold Format.decode at decoded
  obtain ⟨h, _, decoded⟩ := bind_ok_iff.mp decoded
  by_cases newer : h.schemaVersion > format.version
  -- a newer version is refused
  · rw [if_pos newer] at decoded
    cases decoded
  rw [if_neg newer] at decoded
  have read := mapError_ok_iff.mp decoded
  unfold Format.read at read
  obtain ⟨payload, _, read⟩ := bind_ok_iff.mp read
  obtain ⟨j, _, read⟩ := bind_ok_iff.mp read
  obtain ⟨v, _, read⟩ := bind_ok_iff.mp read
  by_cases current : v = format.version
  · have fields : format.fields v j = .ok s := by simpa [current] using read
    rw [tags v j s fields, current]
  · simp [current, bad, bind, Except.bind] at read

theorem decodeSequence_current [JsonText] {bytes : Bytes} {s : SequenceState}
    (decoded : decodeSequence bytes = .ok s) : s.schemaVersion = schema.SEQUENCE_VERSION := by
  apply Format.decode_current _ decoded
  intro v j s fields
  obtain ⟨_, _, fields⟩ := bind_ok_iff.mp fields
  obtain ⟨_, _, fields⟩ := bind_ok_iff.mp fields
  obtain ⟨_, _, fields⟩ := bind_ok_iff.mp fields
  cases fields
  rfl

/-! ### Round trips -/

theorem sequenceToJson_eq (s : SequenceState) :
    sequenceToJson s = .object
      [ ("highestAllocated", .integer s.highestAllocated.toNat),
        ("schemaVersion", versionNumber s.schemaVersion),
        ("updatedAt", .integer s.updatedAt.toInt) ] := by
  simp [sequenceToJson, Json.ofMembers, Json.emplace, Json.keyBefore, Json.keyBefore.go]

theorem canonical_sequenceToJson (s : SequenceState) : (sequenceToJson s).Canonical := by
  rw [sequenceToJson_eq]
  apply Json.Canonical.object
  · simp [Json.SortedKeys, Json.keyBefore, Json.keyBefore.go]
  · intro m member
    simp only [List.mem_cons, List.not_mem_nil, or_false] at member
    rcases member with rfl | rfl | rfl
    · exact Json.canonical_uint64 s.highestAllocated
    · exact Json.canonical_uint32 s.schemaVersion
    · exact Json.canonical_int64 s.updatedAt

section RoundTrip

variable {σ : Type} [JsonText] [LawfulJsonText] {format : Format σ} {s : σ}

/-- A state of the current version is decoded from its own encoding if its JSON form is printed
as it stands, fits the envelope, and is read back field by field. -/
theorem Format.decode_encode_fits (writtenAt : Int64)
    (current : format.schemaVersion s = format.version)
    (canonical : (format.toJson s).Canonical)
    (fits : (dump (format.toJson s)).length < 2 ^ 32)
    (tagged : (format.toJson s).value Json.getUInt32 "schemaVersion" format.version
      = .ok format.version)
    (read : format.fields format.version (format.toJson s) = .ok s) :
    format.decode (format.encode writtenAt s) = .ok s := by
  obtain ⟨h, parsed, version, payload⟩ :=
    parse_encodeEnvelope writtenAt (format.schemaVersion s) fits
  have loaded : format.read h.schemaVersion (dump (format.toJson s)) = .ok s := by
    rw [version, current]
    -- no step of migration is left
    simp only [Format.read, UInt32.sub_self, UInt32.toNat_zero, Format.migrateChain]
    simp [LawfulJsonText.parse_dump canonical, tagged, read, liftM, monadLift, MonadLift.monadLift,
      Except.mapError, bind, Except.bind, pure, Except.pure]
  unfold Format.decode Format.encode
  rw [parsed]
  simp only [bind, Except.bind, payload, loaded]
  simp [version, current, Except.mapError]

theorem Format.decode_encode (writtenAt : Int64)
    (current : format.schemaVersion s = format.version)
    (canonical : (format.toJson s).Canonical)
    (short : (format.toJson s).maxLength < 2 ^ 32)
    (tagged : (format.toJson s).value Json.getUInt32 "schemaVersion" format.version
      = .ok format.version)
    (read : format.fields format.version (format.toJson s) = .ok s) :
    format.decode (format.encode writtenAt s) = .ok s :=
  have fits := Nat.lt_of_le_of_lt (LawfulJsonText.length_dump canonical) short
  Format.decode_encode_fits writtenAt current canonical fits tagged read

/-- A sequence of the current version is decoded from its own encoding. -/
theorem decode_encodeSequence (writtenAt : Int64) {s : SequenceState}
    (current : s.schemaVersion = schema.SEQUENCE_VERSION) :
    decodeSequence (encodeSequence writtenAt s) = .ok s := by
  apply Format.decode_encode writtenAt current
  · exact canonical_sequenceToJson s
  -- the text has four members of bounded length
  · show (sequenceToJson s).maxLength < 2 ^ 32
    rw [sequenceToJson_eq]
    simp only [versionNumber, Json.maxLength, Json.maxLengthMembers]
    decide
  · show (sequenceToJson s).value Json.getUInt32 "schemaVersion" _ = _
    rw [sequenceToJson_eq]
    simp [Json.value, List.lookup_cons, versionNumber, Json.getUInt32_toNat, current,
      sequenceFormat]
  · show sequenceFields schema.SEQUENCE_VERSION (sequenceToJson s) = .ok s
    rw [sequenceToJson_eq, ← current]
    simp [sequenceFields, Json.atKey, Json.value, List.lookup_cons, Json.getUInt64_toNat,
      Json.getInt64_toInt, liftM, monadLift, MonadLift.monadLift, Except.mapError, bind,
      Except.bind, pure, Except.pure]

end RoundTrip

end CgwFota.Inventory
