import CgwFota.Config.FotaConfig
import CgwFota.Data.Verdict

/-!
# The checks of the configuration

The table of what is asked of a snapshot, and the configuration that is written in it. `from` goes
through the table, and stops at the first check that fails.

## Main definitions

* `Number`: a key with its default and its range; all of them are listed
* `FotaConfig.Written`: each field of a configuration is what the snapshot says
* `Check.Passes`, `Check.Fails`: what a check asks, and with which error it fails
* `checks`: all checks, in the order in which `from` comes to them
-/
namespace CgwFota.Config

/-! ### What is written -/

section Written

variable {α : Type} (s : ConfigSnapshot)

/-- A key that is missing reads as its default. -/
def valueOf (get : String → Except String (Option α)) (key : String) (fallback : α) : α :=
  match get key with
  | .error _ => fallback
  | .ok value => value.getD fallback

/-- A key that may be missing, but not have a value of another type. -/
def Readable (get : String → Except String (Option α)) (key : String) : Prop :=
  ∃ value, get key = .ok value

/-- A number of the configuration. -/
structure Number where
  key : String
  fallback : Int64
  lo : Int64
  hi : Int64

def Number.value (n : Number) : Int64 := valueOf s.int64 n.key n.fallback

end Written

namespace Number

def minReportInterval : Number :=
  ⟨"fota.inventory.min_report_interval_ms", 300000, 0, Int64.maxValue⟩
def maxPendingRequests : Number := ⟨"fota.inventory.max_pending_requests", 32, 1, 1024⟩
def dedupeMaxEntries : Number := ⟨"fota.inventory.dedupe_max_entries", 100, 1, 1024⟩
def dedupeTtl : Number := ⟨"fota.inventory.dedupe_ttl_ms", 3600000, 0, Int64.maxValue⟩
def collectTimeout : Number := ⟨"fota.diag.collect_timeout_ms", 30000, 1, Int64.maxValue⟩
def retryMaxAttempts : Number := ⟨"fota.diag.retry_max_attempts", 2, 0, 10⟩
def retryBackoff : Number := ⟨"fota.diag.retry_backoff_ms", 1000, 0, Int64.maxValue⟩
def exchangeTimeout : Number :=
  ⟨"fota.someip.transport.exchange_timeout_ms", 10000, 1, Int64.maxValue⟩
def maxEnvelopeBytes : Number :=
  ⟨"fota.someip.transport.max_envelope_bytes", 262144, 64, Int64.maxValue⟩
def maxPayloadBytes : Number :=
  ⟨"fota.someip.transport.max_payload_bytes", 262144, 1, Int64.maxValue⟩
def maxInFlight : Number := ⟨"fota.someip.transport.max_in_flight", 64, 1, 1024⟩
def downlinkQueueCapacity : Number :=
  ⟨"fota.someip.transport.downlink_queue_capacity", 256, 1, 1048576⟩
def downlinkWorkers : Number := ⟨"fota.someip.transport.downlink_workers", 1, 1, 64⟩
def inFlightTtl : Number := ⟨"fota.someip.transport.in_flight_ttl_ms", 30000, 1, Int64.maxValue⟩
def availabilityWait : Number :=
  ⟨"fota.someip.transport.availability_wait_ms", 5000, 1, Int64.maxValue⟩
def taskCheckInterval : Number := ⟨"fota.cloud.task_check_interval_ms", 60000, 1, Int64.maxValue⟩
def eventOutboxMax : Number := ⟨"fota.cloud.event_outbox_max", 4096, 1, 1048576⟩
def eventBatchMax : Number := ⟨"fota.cloud.event_batch_max", 64, 1, 65535⟩
def controlAckTimeout : Number := ⟨"fota.cloud.control_ack_timeout_ms", 5000, 1, Int64.maxValue⟩
def cloudCallTimeout : Number := ⟨"fota.cloud.cloud_call_timeout_ms", 10000, 1, Int64.maxValue⟩

-- those of the generic transport: their ranges hold only where one of the ids is declared
def methodId : Number := ⟨"fota.someip.generic_transport.method_id", 0, 1, 0x7FFF⟩
def eventId : Number := ⟨"fota.someip.generic_transport.event_id", 0, 0x8000, 0xFFFE⟩
def eventgroupId : Number := ⟨"fota.someip.generic_transport.eventgroup_id", 0, 1, 0xFFFE⟩
def interfaceMajor : Number := ⟨"fota.someip.generic_transport.interface_major", 1, 1, 0xFF⟩

end Number

section Written

variable (s : ConfigSnapshot)

/-- Whether an id of the generic transport is written. -/
def Declared : Prop :=
  Number.methodId.value s ≠ 0 ∨ Number.eventId.value s ≠ 0 ∨ Number.eventgroupId.value s ≠ 0

instance : Decidable (Declared s) := inferInstanceAs (Decidable (_ ∨ _ ∨ _))

/-- What the section of the inventory says. -/
structure InventoryConfig.Written (c : InventoryConfig) : Prop where
  changeDetectionEnabled :
    c.changeDetectionEnabled = valueOf s.bool "fota.inventory.change_detection_enabled" true
  minReportInterval : c.minReportInterval = Number.minReportInterval.value s
  maxPendingRequests :
    (c.maxPendingRequests.toNat : Int) = (Number.maxPendingRequests.value s).toInt
  dedupeMaxEntries : (c.dedupeMaxEntries.toNat : Int) = (Number.dedupeMaxEntries.value s).toInt
  dedupeTtlMs : c.dedupeTtlMs = Number.dedupeTtl.value s

/-- What the section of the diagnosis says. -/
structure DiagConfig.Written (c : DiagConfig) : Prop where
  diagCollectTimeout : c.diagCollectTimeout = Number.collectTimeout.value s
  maxAttempts : (c.diagRetry.maxAttempts.toNat : Int) = (Number.retryMaxAttempts.value s).toInt
  backoff : c.diagRetry.backoff = Number.retryBackoff.value s

/-- What the section of the transport says; its sizes are numbers without a width. -/
structure TransportConfig.Written (c : TransportConfig) : Prop where
  exchangeTimeout : c.exchangeTimeout = Number.exchangeTimeout.value s
  maxEnvelopeBytes : (c.maxEnvelopeBytes : Int) = (Number.maxEnvelopeBytes.value s).toInt
  maxPayloadBytes : (c.maxPayloadBytes : Int) = (Number.maxPayloadBytes.value s).toInt
  maxInFlight : (c.maxInFlight : Int) = (Number.maxInFlight.value s).toInt
  downlinkQueueCapacity :
    (c.downlinkQueueCapacity : Int) = (Number.downlinkQueueCapacity.value s).toInt
  downlinkWorkers : (c.downlinkWorkers : Int) = (Number.downlinkWorkers.value s).toInt
  inFlightTtl : c.inFlightTtl = Number.inFlightTtl.value s
  availabilityWait : c.availabilityWait = Number.availabilityWait.value s

/-- A version that is written where no id is has no effect. -/
structure GenericTransportSpec.Written (c : GenericTransportSpec) : Prop where
  methodId : (c.methodId.toNat : Int) = (Number.methodId.value s).toInt
  eventId : (c.eventId.toNat : Int) = (Number.eventId.value s).toInt
  eventgroupId : (c.eventgroupId.toNat : Int) = (Number.eventgroupId.value s).toInt
  interfaceMajor : (c.interfaceMajor.toNat : Int) =
    if Declared s then (Number.interfaceMajor.value s).toInt else 1

/-- What the section of the cloud says. -/
structure CloudConfig.Written (c : CloudConfig) : Prop where
  enabled : c.enabled = valueOf s.bool "fota.cloud.enabled" true
  protocolVersion : c.protocolVersion = valueOf s.string "fota.cloud.protocol_version" "fota-v1"
  taskCheckInterval : c.taskCheckInterval = Number.taskCheckInterval.value s
  reconcileOnStart : c.reconcileOnStart = valueOf s.bool "fota.cloud.reconcile_on_start" true
  eventOutboxMax : (c.eventOutboxMax.toNat : Int) = (Number.eventOutboxMax.value s).toInt
  eventBatchMax : (c.eventBatchMax.toNat : Int) = (Number.eventBatchMax.value s).toInt
  controlAckTimeout : c.controlAckTimeout = Number.controlAckTimeout.value s
  cloudCallTimeout : c.cloudCallTimeout = Number.cloudCallTimeout.value s

/-- What the section of the mocks says; they cannot be switched on. -/
structure MockConfig.Written (c : MockConfig) : Prop where
  enabled : c.enabled = false
  scenarioPath : c.scenarioPath = valueOf s.string "fota.mock.scenario_path" ""
  virtualClock : c.virtualClock = valueOf s.bool "fota.mock.virtual_clock" false

/-- Each field is what is written, as a number, or its default: nothing is cut off. -/
structure FotaConfig.Written (c : FotaConfig) : Prop where
  inventory : c.toInventoryConfig.Written s
  diag : c.toDiagConfig.Written s
  transport : c.transport.Written s
  genericTransport : c.genericTransport.Written s
  cloud : c.cloud.Written s
  mock : c.mock.Written s
  storeRoot : c.storeRoot = valueOf s.string "common.store.root" "/var/lib/cgw"

end Written

/-! ### What is asked -/

/-- One check. -/
inductive Check where
  | sect (name : String) (allowed : List String)
  | number (n : Number)
  | whole (n : Number)
  | flag (key : String)
  | text (key : String)
  | allocation
  | allocated (n : Number)
  | legacy
  | mock

def partialAllocation : String :=
  "fota.someip.generic_transport: partial Registry allocation " ++
    "(method_id/event_id/eventgroup_id must all be non-zero)"

section Checks

variable (s : ConfigSnapshot)

/-- The value is within its range. -/
def Number.Within (n : Number) : Prop := n.lo ≤ n.value s ∧ n.value s ≤ n.hi

/-- What a check asks of the snapshot. -/
def Check.Passes : Check → Prop
  | .sect name allowed => ∀ k ∈ s.keys name, k ∈ allowed
  | .number n => Readable s.int64 n.key ∧ n.Within s
  | .whole n => Readable s.int64 n.key
  | .flag key => Readable s.bool key
  | .text key => Readable s.string key
  | .allocation => Declared s → Number.methodId.value s ≠ 0 ∧ Number.eventId.value s ≠ 0 ∧
      Number.eventgroupId.value s ≠ 0
  | .allocated n => Declared s → n.Within s
  | .legacy => s.has "fota.ota" = false
  | .mock => valueOf s.bool "fota.mock.enabled" false = false

/-- The text names the key, the value and the range. -/
def Number.outside (n : Number) : ConfigError :=
  .fotaConfig ("config range violation: " ++ n.key ++ " (" ++ toString (n.value s) ++
    ") not in [" ++ toString n.lo ++ "," ++ toString n.hi ++ "]")

/-- Each error says what is wrong. -/
inductive Check.Fails : Check → ConfigError → Prop
  | unknown {name : String} {allowed before after : List String} {k : String}
      (found : s.keys name = before ++ k :: after) (known : ∀ b ∈ before, b ∈ allowed)
      (unknown : k ∉ allowed) :
      Fails (.sect name allowed) (.fotaConfig ("unknown config key: " ++ name ++ "." ++ k))
  | notNumber {n : Number} {message : String} (read : s.int64 n.key = .error message) :
      Fails (.number n) (.config message)
  | range {n : Number} (read : Readable s.int64 n.key) (outside : ¬n.Within s) :
      Fails (.number n) (n.outside s)
  | notWhole {n : Number} {message : String} (read : s.int64 n.key = .error message) :
      Fails (.whole n) (.config message)
  | notFlag {key message : String} (read : s.bool key = .error message) :
      Fails (.flag key) (.config message)
  | notText {key message : String} (read : s.string key = .error message) :
      Fails (.text key) (.config message)
  | incomplete (declared : Declared s) (absent : Number.methodId.value s = 0 ∨
      Number.eventId.value s = 0 ∨ Number.eventgroupId.value s = 0) :
      Fails .allocation (.fotaConfig partialAllocation)
  | idRange {n : Number} (declared : Declared s) (outside : ¬n.Within s) :
      Fails (.allocated n) (n.outside s)
  | legacy (present : s.has "fota.ota" = true) :
      Fails .legacy (.fotaConfig "fota.ota.* is legacy; use fota.cloud.* (CGW-FOTA-DSN-CR-011)")
  | mock (enabled : valueOf s.bool "fota.mock.enabled" false = true) :
      Fails .mock (.fotaConfig ("fota.mock.enabled=true rejected in production build " ++
        "(FOTA_ENABLE_TEST_DOUBLES not defined)"))

end Checks

/-! ### The table -/

def inventoryChecks : List Check :=
  [.sect "fota.inventory" ["change_detection_enabled", "min_report_interval_ms",
    "max_pending_requests", "dedupe_max_entries", "dedupe_ttl_ms"],
   .flag "fota.inventory.change_detection_enabled", .number .minReportInterval,
   .number .maxPendingRequests, .number .dedupeMaxEntries, .number .dedupeTtl]

def diagChecks : List Check :=
  [.sect "fota.diag" ["collect_timeout_ms", "retry_max_attempts", "retry_backoff_ms"],
   .number .collectTimeout, .number .retryMaxAttempts, .number .retryBackoff]

def transportChecks : List Check :=
  [.sect "fota.someip.transport" ["exchange_timeout_ms", "max_envelope_bytes",
    "max_payload_bytes", "max_in_flight", "downlink_queue_capacity", "downlink_workers",
    "in_flight_ttl_ms", "availability_wait_ms"],
   .number .exchangeTimeout, .number .maxEnvelopeBytes, .number .maxPayloadBytes,
   .number .maxInFlight, .number .downlinkQueueCapacity, .number .downlinkWorkers,
   .number .inFlightTtl, .number .availabilityWait]

def genericTransportChecks : List Check :=
  [.sect "fota.someip.generic_transport" ["method_id", "event_id", "eventgroup_id",
    "interface_major"],
   .whole .methodId, .whole .eventId, .whole .eventgroupId, .whole .interfaceMajor,
   .allocation, .allocated .methodId, .allocated .eventId, .allocated .eventgroupId,
   .allocated .interfaceMajor]

def cloudChecks : List Check :=
  [.sect "fota.cloud" ["enabled", "protocol_version", "task_check_interval_ms",
    "reconcile_on_start", "event_outbox_max", "event_batch_max", "control_ack_timeout_ms",
    "cloud_call_timeout_ms"],
   .flag "fota.cloud.enabled", .text "fota.cloud.protocol_version", .number .taskCheckInterval,
   .flag "fota.cloud.reconcile_on_start", .number .eventOutboxMax, .number .eventBatchMax,
   .number .controlAckTimeout, .number .cloudCallTimeout]

def mockChecks : List Check :=
  [.sect "fota.mock" ["enabled", "scenario_path", "virtual_clock"], .flag "fota.mock.enabled",
   .text "fota.mock.scenario_path", .flag "fota.mock.virtual_clock", .mock]

/-- In the order in which `from` comes to them. -/
def checks : List Check :=
  [.sect "fota" ["inventory", "diag", "someip", "log", "cloud", "mock"]] ++ inventoryChecks ++
    [.text "common.store.root"] ++ diagChecks ++
    [.sect "fota.someip" ["transport", "generic_transport"]] ++ transportChecks ++
    genericTransportChecks ++ [.legacy] ++ cloudChecks ++ mockChecks

end CgwFota.Config
