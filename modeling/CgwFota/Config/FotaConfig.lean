import CgwFota.Inventory.Serializer
import CgwFota.Transport.Message

/-!
# `FotaConfig`

The configuration is read key by key from a snapshot. A key that is missing has a default, one that
is unknown or out of its range is refused. Times are in milliseconds.

## Main definitions

* `ConfigSnapshot`: what the framework offers; a value of another type makes it throw
* `inventoryFrom` and its siblings: the sections
* `FotaConfig.fromSnapshot`: `FotaConfig::from`

## Main result

* `timesAccepted_of_fromSnapshot`: the times of an accepted configuration are in their ranges
-/
namespace CgwFota.Config

open Inventory (bind_ok_iff)
open Transport (SomeIpTransportConfig)

/-! ### Snapshots -/

/-- `ConfigException` of the framework, or `FotaConfigException`. -/
inductive ConfigError where
  | config (message : String)
  | fotaConfig (message : String)
  deriving DecidableEq, Repr

abbrev Result (α : Type) : Type := Except ConfigError α

/-- A snapshot of the framework: a value of another type makes `getOr` throw. -/
structure ConfigSnapshot where
  has : String → Bool
  keys : String → List String
  bool : String → Except String (Option Bool)
  int64 : String → Except String (Option Int64)
  string : String → Except String (Option String)

def getOr {α : Type} (get : String → Except String (Option α)) (key : String) (fallback : α) :
    Result α :=
  match get key with
  | .error message => .error (.config message)
  | .ok value => .ok (value.getD fallback)

def throwRange (key : String) (value lo hi : Int64) : Result Unit :=
  .error (.fotaConfig ("config range violation: " ++ key ++ " (" ++ toString value ++
    ") not in [" ++ toString lo ++ "," ++ toString hi ++ "]"))

def requireRange (key : String) (value lo hi : Int64) : Result Unit :=
  if value < lo ∨ value > hi then throwRange key value lo hi else .ok ()

def rejectUnknown (s : ConfigSnapshot) (sect : String) (allowed : List String) : Result Unit :=
  match (s.keys sect).find? (· ∉ allowed) with
  | some k => .error (.fotaConfig ("unknown config key: " ++ sect ++ "." ++ k))
  | none => .ok ()

/-- A number that has to be in a range. -/
def getInRange (s : ConfigSnapshot) (key : String) (fallback lo hi : Int64) : Result Int64 := do
  let value ← getOr s.int64 key fallback
  requireRange key value lo hi
  return value

def kMaxPendingLo : Int64 := 1
def kMaxPendingHi : Int64 := 1024
def kRetryAttemptsHi : Int64 := 10

/-! ### Sections -/

structure InventoryConfig where
  changeDetectionEnabled : Bool
  minReportInterval : Int64
  maxPendingRequests : UInt32
  dedupeMaxEntries : UInt32
  dedupeTtlMs : Int64

def inventoryFrom (s : ConfigSnapshot) : Result InventoryConfig := do
  rejectUnknown s "fota.inventory" ["change_detection_enabled", "min_report_interval_ms",
    "max_pending_requests", "dedupe_max_entries", "dedupe_ttl_ms"]
  let changeDetectionEnabled ← getOr s.bool "fota.inventory.change_detection_enabled" true
  let minInterval ← getInRange s "fota.inventory.min_report_interval_ms" 300000 0 Int64.maxValue
  let maxPending ←
    getInRange s "fota.inventory.max_pending_requests" 32 kMaxPendingLo kMaxPendingHi
  let dedupeMaxEntries ← getInRange s "fota.inventory.dedupe_max_entries" 100 1 kMaxPendingHi
  let dedupeTtl ← getInRange s "fota.inventory.dedupe_ttl_ms" 3600000 0 Int64.maxValue
  return {
    changeDetectionEnabled
    minReportInterval := minInterval
    maxPendingRequests := maxPending.toUInt64.toUInt32
    dedupeMaxEntries := dedupeMaxEntries.toUInt64.toUInt32
    dedupeTtlMs := dedupeTtl }

structure RetryConfig where
  maxAttempts : UInt32
  backoff : Int64

structure DiagConfig where
  diagCollectTimeout : Int64
  diagRetry : RetryConfig

def diagFrom (s : ConfigSnapshot) : Result DiagConfig := do
  rejectUnknown s "fota.diag" ["collect_timeout_ms", "retry_max_attempts", "retry_backoff_ms"]
  let diagTimeout ← getInRange s "fota.diag.collect_timeout_ms" 30000 1 Int64.maxValue
  let diagAttempts ← getInRange s "fota.diag.retry_max_attempts" 2 0 kRetryAttemptsHi
  let diagBackoff ← getInRange s "fota.diag.retry_backoff_ms" 1000 0 Int64.maxValue
  return {
    diagCollectTimeout := diagTimeout
    diagRetry := { maxAttempts := diagAttempts.toUInt64.toUInt32, backoff := diagBackoff } }

/-- The settings of the transport, with those that only its lifecycle uses. -/
structure TransportConfig extends SomeIpTransportConfig where
  inFlightTtl : Int64 := 30000
  availabilityWait : Int64 := 5000

def transportFrom (s : ConfigSnapshot) : Result TransportConfig := do
  rejectUnknown s "fota.someip.transport" ["exchange_timeout_ms", "max_envelope_bytes",
    "max_payload_bytes", "max_in_flight", "downlink_queue_capacity", "downlink_workers",
    "in_flight_ttl_ms", "availability_wait_ms"]
  let exchangeTimeout ←
    getInRange s "fota.someip.transport.exchange_timeout_ms" 10000 1 Int64.maxValue
  let maxEnvelopeBytes ←
    getInRange s "fota.someip.transport.max_envelope_bytes" 262144 64 Int64.maxValue
  let maxPayloadBytes ←
    getInRange s "fota.someip.transport.max_payload_bytes" 262144 1 Int64.maxValue
  let maxInFlight ← getInRange s "fota.someip.transport.max_in_flight" 64 1 1024
  let downlinkQueueCapacity ←
    getInRange s "fota.someip.transport.downlink_queue_capacity" 256 1 1048576
  let downlinkWorkers ← getInRange s "fota.someip.transport.downlink_workers" 1 1 64
  let inFlightTtl ← getInRange s "fota.someip.transport.in_flight_ttl_ms" 30000 1 Int64.maxValue
  let availabilityWait ←
    getInRange s "fota.someip.transport.availability_wait_ms" 5000 1 Int64.maxValue
  return {
    exchangeTimeout
    maxEnvelopeBytes := maxEnvelopeBytes.toUInt64.toNat
    maxPayloadBytes := maxPayloadBytes.toUInt64.toNat
    maxInFlight := maxInFlight.toUInt64.toNat
    downlinkQueueCapacity := downlinkQueueCapacity.toUInt64.toNat
    downlinkWorkers := downlinkWorkers.toUInt64.toNat
    inFlightTtl
    availabilityWait }

structure GenericTransportSpec where
  methodId : UInt16 := 0
  eventId : UInt16 := 0
  eventgroupId : UInt16 := 0
  interfaceMajor : UInt32 := 1

/-- The ids are allocated all together or not at all. -/
def genericTransportFrom (s : ConfigSnapshot) : Result GenericTransportSpec := do
  rejectUnknown s "fota.someip.generic_transport" ["method_id", "event_id", "eventgroup_id",
    "interface_major"]
  let m ← getOr s.int64 "fota.someip.generic_transport.method_id" 0
  let e ← getOr s.int64 "fota.someip.generic_transport.event_id" 0
  let g ← getOr s.int64 "fota.someip.generic_transport.eventgroup_id" 0
  let iv ← getOr s.int64 "fota.someip.generic_transport.interface_major" 1
  if m ≠ 0 ∨ e ≠ 0 ∨ g ≠ 0 then
    if m = 0 ∨ e = 0 ∨ g = 0 then
      throw (.fotaConfig ("fota.someip.generic_transport: partial Registry allocation " ++
        "(method_id/event_id/eventgroup_id must all be non-zero)"))
    else
      requireRange "fota.someip.generic_transport.method_id" m 1 0x7FFF
      requireRange "fota.someip.generic_transport.event_id" e 0x8000 0xFFFE
      requireRange "fota.someip.generic_transport.eventgroup_id" g 1 0xFFFE
      requireRange "fota.someip.generic_transport.interface_major" iv 1 0xFF
      return {
        methodId := m.toUInt64.toUInt16
        eventId := e.toUInt64.toUInt16
        eventgroupId := g.toUInt64.toUInt16
        interfaceMajor := iv.toUInt64.toUInt32 }
  else return {}

structure CloudConfig where
  enabled : Bool := true
  protocolVersion : String := "fota-v1"
  taskCheckInterval : Int64 := 60000
  reconcileOnStart : Bool := true
  eventOutboxMax : UInt32 := 4096
  eventBatchMax : UInt32 := 64
  controlAckTimeout : Int64 := 5000
  cloudCallTimeout : Int64 := 10000

def rejectLegacy (s : ConfigSnapshot) : Result Unit :=
  if s.has "fota.ota" then
    .error (.fotaConfig "fota.ota.* is legacy; use fota.cloud.* (CGW-FOTA-DSN-CR-011)")
  else .ok ()

def cloudFrom (s : ConfigSnapshot) : Result CloudConfig := do
  rejectUnknown s "fota.cloud" ["enabled", "protocol_version", "task_check_interval_ms",
    "reconcile_on_start", "event_outbox_max", "event_batch_max", "control_ack_timeout_ms",
    "cloud_call_timeout_ms"]
  let enabled ← getOr s.bool "fota.cloud.enabled" true
  let protocolVersion ← getOr s.string "fota.cloud.protocol_version" "fota-v1"
  let taskCheck ← getInRange s "fota.cloud.task_check_interval_ms" 60000 1 Int64.maxValue
  let reconcileOnStart ← getOr s.bool "fota.cloud.reconcile_on_start" true
  let outboxMax ← getInRange s "fota.cloud.event_outbox_max" 4096 1 1048576
  let batchMax ← getInRange s "fota.cloud.event_batch_max" 64 1 65535
  let ctrlAck ← getInRange s "fota.cloud.control_ack_timeout_ms" 5000 1 Int64.maxValue
  let cloudCall ← getInRange s "fota.cloud.cloud_call_timeout_ms" 10000 1 Int64.maxValue
  return {
    enabled
    protocolVersion
    taskCheckInterval := taskCheck
    reconcileOnStart
    eventOutboxMax := outboxMax.toUInt64.toUInt32
    eventBatchMax := batchMax.toUInt64.toUInt32
    controlAckTimeout := ctrlAck
    cloudCallTimeout := cloudCall }

structure MockConfig where
  enabled : Bool := false
  scenarioPath : String := ""
  virtualClock : Bool := false

/-- A production build has no mocks. -/
def mockFrom (s : ConfigSnapshot) : Result MockConfig := do
  rejectUnknown s "fota.mock" ["enabled", "scenario_path", "virtual_clock"]
  let enabled ← getOr s.bool "fota.mock.enabled" false
  let scenarioPath ← getOr s.string "fota.mock.scenario_path" ""
  let virtualClock ← getOr s.bool "fota.mock.virtual_clock" false
  if enabled then
    throw (.fotaConfig ("fota.mock.enabled=true rejected in production build " ++
      "(FOTA_ENABLE_TEST_DOUBLES not defined)"))
  else return { enabled, scenarioPath, virtualClock }

/-! ### The configuration -/

structure FotaConfig extends InventoryConfig, DiagConfig where
  transport : TransportConfig
  genericTransport : GenericTransportSpec
  cloud : CloudConfig
  mock : MockConfig
  storeRoot : String

/-- `FotaConfig::from`. -/
def FotaConfig.fromSnapshot (s : ConfigSnapshot) : Result FotaConfig := do
  rejectUnknown s "fota" ["inventory", "diag", "someip", "log", "cloud", "mock"]
  let inventory ← inventoryFrom s
  let storeRoot ← getOr s.string "common.store.root" "/var/lib/cgw"
  let diag ← diagFrom s
  rejectUnknown s "fota.someip" ["transport", "generic_transport"]
  let transport ← transportFrom s
  let genericTransport ← genericTransportFrom s
  rejectLegacy s
  let cloud ← cloudFrom s
  let mock ← mockFrom s
  return {
    toInventoryConfig := inventory
    toDiagConfig := diag
    transport
    genericTransport
    cloud
    mock
    storeRoot }

/-! ### What is accepted -/

section Accepted

variable {s : ConfigSnapshot} {key : String} {fallback lo hi value : Int64}

theorem getInRange_bounds (read : getInRange s key fallback lo hi = .ok value) :
    lo ≤ value ∧ value ≤ hi := by
  unfold getInRange requireRange throwRange at read
  simp only [bind_ok_iff] at read
  obtain ⟨found, -, _, checked, same⟩ := read
  cases same
  split at checked
  next => cases checked
  next inside =>
    rw [not_or] at inside
    exact ⟨Int64.not_lt.mp inside.1, Int64.not_lt.mp inside.2⟩

theorem getInRange_lo (read : getInRange s key fallback lo hi = .ok value) : lo ≤ value :=
  (getInRange_bounds read).1

/-- The times of an accepted configuration are not negative, and those that are waited for not
zero. -/
structure TimesAccepted (c : FotaConfig) : Prop where
  minReportInterval : 0 ≤ c.minReportInterval
  dedupeTtlMs : 0 ≤ c.dedupeTtlMs
  backoff : 0 ≤ c.diagRetry.backoff
  exchangeTimeout : 1 ≤ c.transport.exchangeTimeout
  availabilityWait : 1 ≤ c.transport.availabilityWait
  cloudCallTimeout : 1 ≤ c.cloud.cloudCallTimeout

/-- The times that the components are given come from numbers in their ranges. -/
theorem timesAccepted_of_fromSnapshot {c : FotaConfig} (read : FotaConfig.fromSnapshot s = .ok c) :
    TimesAccepted c := by
  unfold FotaConfig.fromSnapshot at read
  simp only [bind_ok_iff] at read
  obtain ⟨_, -, inventory, inventoryRead, root, -, diag, diagRead, _, -, transport, transportRead,
    spec, -, _, -, cloud, cloudRead, mock, -, same⟩ := read
  cases same
  -- the sections one after the other, each for the time it reads
  unfold inventoryFrom at inventoryRead
  simp only [bind_ok_iff] at inventoryRead
  obtain ⟨_, -, changes, -, minInterval, minIntervalRead, maxPending, -, maxEntries, -, ttl,
    ttlRead, same⟩ := inventoryRead
  cases same
  unfold diagFrom at diagRead
  simp only [bind_ok_iff] at diagRead
  obtain ⟨_, -, timeout, -, attempts, -, backoff, backoffRead, same⟩ := diagRead
  cases same
  unfold transportFrom at transportRead
  simp only [bind_ok_iff] at transportRead
  obtain ⟨_, -, exchange, exchangeRead, envelope, -, payload, -, inFlight, -, capacity, -,
    workers, -, inFlightTtl, -, wait, waitRead, same⟩ := transportRead
  cases same
  unfold cloudFrom at cloudRead
  simp only [bind_ok_iff] at cloudRead
  obtain ⟨_, -, enabled, -, version, -, taskCheck, -, reconcile, -, outboxMax, -, batchMax, -,
    ctrlAck, -, cloudCall, cloudCallRead, same⟩ := cloudRead
  cases same
  exact ⟨getInRange_lo minIntervalRead, getInRange_lo ttlRead, getInRange_lo backoffRead,
    getInRange_lo exchangeRead, getInRange_lo waitRead, getInRange_lo cloudCallRead⟩

end Accepted

end CgwFota.Config
