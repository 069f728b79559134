import CgwFota.Inventory.Envelope

/-!
# Messages of the generic transport

The envelope that all messages between vehicle and cloud share, its wire form, and the checks that
both directions make. The payload is not looked into.

## Main definitions

* `VehicleMessage`, `VehicleMessageEnvelope`: a message and its envelope.
* `EnvelopeWire`: serialization and parsing of envelopes, a parameter.
* `validateOutboundEnvelope`, `validateInboundEnvelope`: the checks, in the order in which they
  speak.
* `Valid`: what both of them ask for.

## Main results

* `validateInboundEnvelope_iff`, `validateOutboundEnvelope_iff`: an envelope is accepted exactly
  where it is valid, and, going out, has a kind and an id.
-/
namespace CgwFota.Transport

open Inventory (Bytes)

/-! ### Envelope -/

inductive MessageKind where
  | unspecified | request | response | event | unrecognized (value : Int)
  deriving DecidableEq, Repr, Inhabited

structure TraceContext where
  traceId : String := ""
  parentSpanId : Option String := none
  traceFlags : Option String := none
  deriving DecidableEq, Repr, Inhabited

structure VehicleMessageEnvelope where
  requestId : String := ""
  timestampMs : Int64 := 0
  protocolVersion : String := ""
  deviceId : String := ""
  vin : String := ""
  vehicleTaskId : Option String := none
  executionId : Option String := none
  idempotencyKey : Option String := none
  payloadType : String := ""
  payload : Bytes := []
  messageId : String := ""
  correlationId : Option String := none
  messageKind : MessageKind := .unspecified
  service : String := ""
  expireAtMs : Option Int64 := none
  traceContext : Option TraceContext := none
  deriving DecidableEq, Repr, Inhabited

structure VehicleMessage where
  envelope : VehicleMessageEnvelope := {}
  payload : Bytes := []
  deriving DecidableEq, Repr, Inhabited

inductive TransportOutcome where
  | Accepted | Rejected | Timeout | Unknown | Unavailable | VersionMismatch | PayloadTooLarge
  | ProtocolError | Stopping
  deriving DecidableEq, Repr

namespace payload_type

def kService : String := "vehicle.fota"
def kProtocolVersion : String := "fota-v1"

end payload_type

structure SomeIpTransportConfig where
  exchangeTimeout : Int64 := 10000
  maxEnvelopeBytes : Nat := 262144
  maxPayloadBytes : Nat := 262144
  maxInFlight : Nat := 64
  downlinkQueueCapacity : Nat := 256
  downlinkWorkers : Nat := 1
  deriving DecidableEq, Repr

/-! ### Wire form -/

/-- Serialization and parsing of envelopes, as the generated code does it. -/
class EnvelopeWire where
  serialize : VehicleMessageEnvelope → Bytes
  parse : Bytes → Option VehicleMessageEnvelope

section Wire

variable [EnvelopeWire]

def encodeWire (msg : VehicleMessage) : Bytes :=
  EnvelopeWire.serialize
    (if msg.payload.isEmpty then msg.envelope else { msg.envelope with payload := msg.payload })

def decodeWire (bytes : Bytes) : Option VehicleMessage :=
  if bytes.isEmpty then none
  else (EnvelopeWire.parse bytes).map fun env => { envelope := env, payload := env.payload }

end Wire

/-! ### Checks -/

def expired (env : VehicleMessageEnvelope) (now : Int64) : Bool :=
  env.expireAtMs.getD 0 > 0 && env.expireAtMs.getD 0 < now

def validateOutboundEnvelope (env : VehicleMessageEnvelope) (payloadSize maxPayloadBytes : Nat)
    (now : Int64) : TransportOutcome :=
  if env.messageKind ≠ .request ∧ env.messageKind ≠ .event then .ProtocolError
  else if env.service ≠ payload_type.kService then .Rejected
  else if env.protocolVersion ≠ payload_type.kProtocolVersion then .VersionMismatch
  else if env.messageId.isEmpty then .Rejected
  else if expired env now then .Rejected
  else if payloadSize > maxPayloadBytes then .PayloadTooLarge
  else .Accepted

def validateInboundEnvelope (env : VehicleMessageEnvelope) (payloadSize maxPayloadBytes : Nat)
    (now : Int64) : TransportOutcome :=
  if env.service ≠ payload_type.kService then .Rejected
  else if env.protocolVersion ≠ payload_type.kProtocolVersion then .VersionMismatch
  else if expired env now then .Rejected
  else if payloadSize > maxPayloadBytes then .PayloadTooLarge
  else .Accepted

/-- An envelope of this service that is valid at a time. -/
structure Valid (env : VehicleMessageEnvelope) (payloadSize maxPayloadBytes : Nat) (now : Int64) :
    Prop where
  service : env.service = payload_type.kService
  protocolVersion : env.protocolVersion = payload_type.kProtocolVersion
  current : expired env now = false
  fits : payloadSize ≤ maxPayloadBytes

/-- An envelope is accepted on its way in exactly where it is valid. -/
theorem validateInboundEnvelope_iff {env : VehicleMessageEnvelope} {payloadSize max : Nat}
    {now : Int64} :
    validateInboundEnvelope env payloadSize max now = .Accepted ↔
      Valid env payloadSize max now := by
  unfold validateInboundEnvelope
  constructor
  -- no check fired: each of them gives a field
  · intro accepted
    split at accepted
    next => cases accepted
    next service =>
      split at accepted
      next => cases accepted
      next version =>
        split at accepted
        next => cases accepted
        next current =>
          split at accepted
          next => cases accepted
          next fits =>
            exact ⟨not_not.mp service, not_not.mp version, Bool.eq_false_iff.mpr current,
              Nat.not_lt.mp fits⟩
  · intro valid
    rw [if_neg (not_not.mpr valid.service), if_neg (not_not.mpr valid.protocolVersion),
      if_neg (by simp [valid.current]), if_neg (Nat.not_lt.mpr valid.fits)]

/-- An envelope is accepted on its way out exactly where it is a request or an event, has an id and
is valid. -/
theorem validateOutboundEnvelope_iff {env : VehicleMessageEnvelope} {payloadSize max : Nat}
    {now : Int64} :
    validateOutboundEnvelope env payloadSize max now = .Accepted ↔
      (env.messageKind = .request ∨ env.messageKind = .event) ∧ env.messageId ≠ "" ∧
        Valid env payloadSize max now := by
  unfold validateOutboundEnvelope
  constructor
  · intro accepted
    split at accepted
    next => cases accepted
    next kind =>
      split at accepted
      next => cases accepted
      next service =>
        split at accepted
        next => cases accepted
        next version =>
          split at accepted
          next => cases accepted
          next named =>
            split at accepted
            next => cases accepted
            next current =>
              split at accepted
              next => cases accepted
              next fits =>
                refine ⟨by tauto, by simpa using named, not_not.mp service, not_not.mp version,
                  Bool.eq_false_iff.mpr current, Nat.not_lt.mp fits⟩
  · rintro ⟨kind, named, valid⟩
    rw [if_neg (by tauto), if_neg (not_not.mpr valid.service),
      if_neg (not_not.mpr valid.protocolVersion), if_neg (by simpa using named),
      if_neg (by simp [valid.current]), if_neg (Nat.not_lt.mpr valid.fits)]

end CgwFota.Transport
