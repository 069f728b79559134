import CgwFota.Data.Comparator
import CgwFota.Fingerprint.CanonicalEncoder
import CgwFota.Inventory.State

/-!
# Fingerprints of the inventory

The four digests of a software snapshot, each over a canonical record under a domain of its own. The
strings of a snapshot are bytes here: nothing makes them well-formed text before they are hashed.
SHA-256 is any function with its two results.

## Main definitions

* `VehicleSoftwareSnapshot`, `EcuVersionEntry`: what was collected
* `sortEcuIndices`: the order in which ECUs are hashed, or the error where two have one key
* `versionBytes`, `snapshotBytes`, `identifierBytes`, `dedupeBytes`: what is hashed
* `buildVersionFingerprint`, `buildSnapshotFingerprint`, `buildIdentifierDigest`, `buildDedupeKey`:
  the digests themselves

## Main results

* `baselineSourceCode_injective` and its siblings: no two values of an enumeration share a code
-/
namespace CgwFota.Fingerprint

open Comparator (pair lex sortBy)
open Inventory (Bytes VersionSource CollectionStatus EcuStatus BaselineSource VinSource)

/-- The bytes of a string literal. -/
def text (s : String) : Bytes := s.toUTF8.data.toList

structure CanonicalError where
  errorCode : Bytes
  message : Bytes
  deriving DecidableEq, Repr

structure Sha256 where
  sha256 : Bytes → Vector UInt8 32
  sha256_hex : Bytes → Vector UInt8 64

set_option linter.dupNamespace false in
structure Fingerprint where
  algorithm : Bytes := text "sha-256"
  canonicalization : Bytes
  digest : Vector UInt8 32
  hexStr : Vector UInt8 64

inductive IdentifierKind where
  | Vin | DeviceSn
  deriving DecidableEq, Repr

def VERSION_DOMAIN : Bytes := text "cgw-fota-version-v1"
def SNAPSHOT_DOMAIN : Bytes := text "cgw-fota-snapshot-v1"
def DEDUPE_DOMAIN : Bytes := text "cgw-fota-dedupe-v1"
def ID_DOMAIN_PREFIX : Bytes := text "cgw-fota-id-v1/"

structure EcuVersionEntry where
  ecu_id : Bytes := []
  part_number : Option Bytes := none
  sw_version : Option Bytes := none
  hw_version : Option Bytes := none
  source : VersionSource := .UDS_0x22
  status : EcuStatus := .OK
  error_code : Option Bytes := none
  deriving DecidableEq, Repr, Inhabited

structure VehicleSoftwareSnapshot where
  vin : Bytes := []
  vin_source : VinSource := .UNKNOWN
  baseline_id : Option Bytes := none
  baseline_source : BaselineSource := .UNKNOWN
  registry_version : Bytes := []
  collected_at : Bytes := []
  overall_result : CollectionStatus := .ALL_OK
  snapshot_seq : UInt64 := 0
  ecu_list : List EcuVersionEntry := []
  deriving DecidableEq, Repr, Inhabited

/-! ### Codes -/

def baselineSourceCode : BaselineSource → UInt32
  | .FACTORY => 1
  | .LAST_OTA => 2
  | .UNKNOWN => 3

def versionSourceCode : VersionSource → UInt32
  | .UDS_0x22 => 1
  | .SOMEIP_GET_VERSION => 2

def ecuStatusCode : EcuStatus → UInt32
  | .OK => 1
  | .MISSING => 2
  | .NRC => 3
  | .TIMEOUT => 4
  | .UNREACHABLE => 5
  | .PARSE_ERROR => 6

def collectionResultCode : CollectionStatus → UInt32
  | .ALL_OK => 1
  | .PARTIAL => 2
  | .FAILED => 3

def vinSourceCode : VinSource → UInt32
  | .PROVISIONED => 1
  | .UNKNOWN => 2

theorem baselineSourceCode_injective {a b : BaselineSource}
    (same : baselineSourceCode a = baselineSourceCode b) : a = b := by
  cases a <;> cases b <;> first | rfl | exact absurd same (by decide)

theorem versionSourceCode_injective {a b : VersionSource}
    (same : versionSourceCode a = versionSourceCode b) : a = b := by
  cases a <;> cases b <;> first | rfl | exact absurd same (by decide)

theorem ecuStatusCode_injective {a b : EcuStatus} (same : ecuStatusCode a = ecuStatusCode b) :
    a = b := by
  cases a <;> cases b <;> first | rfl | exact absurd same (by decide)

theorem collectionResultCode_injective {a b : CollectionStatus}
    (same : collectionResultCode a = collectionResultCode b) : a = b := by
  cases a <;> cases b <;> first | rfl | exact absurd same (by decide)

theorem vinSourceCode_injective {a b : VinSource} (same : vinSourceCode a = vinSourceCode b) :
    a = b := by
  cases a <;> cases b <;> first | rfl | exact absurd same (by decide)

/-- Upper case for the ASCII letters; no other byte changes. -/
def normalizeVin (vin : Bytes) : Bytes :=
  vin.map fun c => if 'a'.toUInt8 ≤ c ∧ c ≤ 'z'.toUInt8 then c - 'a'.toUInt8 + 'A'.toUInt8 else c

def identifierKindSuffix : IdentifierKind → Bytes
  | .Vin => text "vin"
  | .DeviceSn => text "device_sn"

/-! ### Order of the ECUs -/

abbrev Key := Bytes × Bytes × Bytes

def EcuVersionEntry.stableKey (e : EcuVersionEntry) : Key :=
  (e.ecu_id, e.part_number.getD [], e.sw_version.getD [])

def byteBefore (a b : UInt8) : Bool := decide (a.toNat < b.toNat)

/-- The order of tuples of strings. -/
def keyBefore : Key → Key → Bool := pair (lex byteBefore) (pair (lex byteBefore) (lex byteBefore))

/-- The second of the first two neighbours with one key. -/
def findDuplicate (ecus : List EcuVersionEntry) : List Nat → Option EcuVersionEntry
  | a :: b :: rest =>
    if (ecus.getD a {}).stableKey = (ecus.getD b {}).stableKey then some (ecus.getD b {})
    else findDuplicate ecus (b :: rest)
  | _ => none

def sortEcuIndices (ecus : List EcuVersionEntry) : Except CanonicalError (List Nat) :=
  let order := sortBy (pair keyBefore fun i j => decide (i < j))
    (fun i => ((ecus.getD i {}).stableKey, i)) (List.range ecus.length)
  match findDuplicate ecus order with
  | some e => .error
    { errorCode := text "CGW-FOTA-2001"
      message := text "duplicate ECU stable key: ecuId=" ++ e.ecu_id }
  | none => .ok order

/-! ### Records -/

open CanonicalEncoder

def encodeVersionEcu (e : EcuVersionEntry) : Bytes :=
  let sub := CanonicalEncoder.new []
  let sub := sub.writeStringField 0x0001 e.ecu_id
  let sub := sub.writeOptionalStringField 0x0002 e.part_number
  let sub := sub.writeOptionalStringField 0x0003 e.sw_version
  let sub := sub.writeOptionalStringField 0x0004 e.hw_version
  sub.finalize

def encodeSnapshotEcu (e : EcuVersionEntry) : Bytes :=
  let sub := CanonicalEncoder.new []
  let sub := sub.writeStringField 0x0001 e.ecu_id
  let sub := sub.writeOptionalStringField 0x0002 e.part_number
  let sub := sub.writeOptionalStringField 0x0003 e.sw_version
  let sub := sub.writeOptionalStringField 0x0004 e.hw_version
  let sub := sub.writeEnumField 0x0005 (versionSourceCode e.source)
  let sub := sub.writeEnumField 0x0006 (ecuStatusCode e.status)
  let sub := sub.writeOptionalStringField 0x0007 e.error_code
  sub.finalize

variable (hash : Sha256)

def makeFingerprint (canonicalization bytes : Bytes) : Fingerprint :=
  { algorithm := text "sha-256"
    canonicalization
    digest := hash.sha256 bytes
    hexStr := hash.sha256_hex bytes }

/-- What the version fingerprint is the digest of. -/
def versionBytes (snapshot : VehicleSoftwareSnapshot) : Except CanonicalError Bytes := do
  let enc := CanonicalEncoder.new VERSION_DOMAIN
  let enc := enc.writeEnumField 0x0001 (baselineSourceCode snapshot.baseline_source)
  let enc := enc.writeOptionalStringField 0x0002 snapshot.baseline_id
  let enc := enc.writeStringField 0x0003 snapshot.registry_version
  let order ← sortEcuIndices snapshot.ecu_list
  let ecuBytes := order.map fun idx => encodeVersionEcu (snapshot.ecu_list.getD idx {})
  let enc := enc.writeListField 0x0004 ecuBytes
  return enc.finalize

def buildVersionFingerprint (snapshot : VehicleSoftwareSnapshot) :
    Except CanonicalError Fingerprint := do
  return makeFingerprint hash VERSION_DOMAIN (← versionBytes snapshot)

def identifierBytes (kind : IdentifierKind) (normalizedValue : Bytes) : Bytes :=
  let domain := ID_DOMAIN_PREFIX ++ identifierKindSuffix kind
  let enc := CanonicalEncoder.new domain
  let enc := enc.writeStringField 0x0001 normalizedValue
  enc.finalize

def buildIdentifierDigest (kind : IdentifierKind) (normalizedValue : Bytes) : Bytes :=
  (hash.sha256_hex (identifierBytes kind normalizedValue)).toList

/-- What the snapshot fingerprint is the digest of. -/
def snapshotBytes (snapshot : VehicleSoftwareSnapshot) : Except CanonicalError Bytes := do
  let vinDigest := buildIdentifierDigest hash .Vin (normalizeVin snapshot.vin)
  let enc := CanonicalEncoder.new SNAPSHOT_DOMAIN
  let enc := enc.writeStringField 0x0001 vinDigest
  let enc := enc.writeEnumField 0x0002 (vinSourceCode snapshot.vin_source)
  let enc := enc.writeEnumField 0x0003 (baselineSourceCode snapshot.baseline_source)
  let enc := enc.writeOptionalStringField 0x0004 snapshot.baseline_id
  let enc := enc.writeStringField 0x0005 snapshot.registry_version
  let enc := enc.writeEnumField 0x0006 (collectionResultCode snapshot.overall_result)
  let order ← sortEcuIndices snapshot.ecu_list
  let ecuBytes := order.map fun idx => encodeSnapshotEcu (snapshot.ecu_list.getD idx {})
  let enc := enc.writeListField 0x0007 ecuBytes
  return enc.finalize

def buildSnapshotFingerprint (snapshot : VehicleSoftwareSnapshot) :
    Except CanonicalError Fingerprint := do
  return makeFingerprint hash SNAPSHOT_DOMAIN (← snapshotBytes hash snapshot)

def dedupeBytes (snapshotFingerprint : Fingerprint) (destination : Bytes) : Bytes :=
  let enc := CanonicalEncoder.new DEDUPE_DOMAIN
  let enc := enc.writeStringField 0x0001 destination
  let enc := enc.writeStringField 0x0002 snapshotFingerprint.canonicalization
  let enc := enc.writeBytesField 0x0003 snapshotFingerprint.digest.toList
  enc.finalize

def buildDedupeKey (snapshotFingerprint : Fingerprint) (destination : Bytes) : Bytes :=
  (hash.sha256_hex (dedupeBytes snapshotFingerprint destination)).toList

end CgwFota.Fingerprint
