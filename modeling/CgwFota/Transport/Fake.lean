import CgwFota.Transport.CloudProxy
import CgwFota.Transport.Subscription

/-!
# The transport for tests

It stands behind the same port as the transport over SOME/IP, checks messages by itself, and answers
requests by an endpoint of its own. What the endpoint does is a parameter.

## Main definitions

* `FakeVehicleMessageTransport`: the endpoint and the faults of the scenario.
* `validate`: its checks of a request, in their order.
* `exchange`, `publish`: the port.
-/
namespace CgwFota.Transport

/-- `faults` are those of the scenario. -/
structure FakeVehicleMessageTransport (Endpoint : Type) where
  faults : List String := []
  cloudTimeoutOnce : Bool := false
  publishCount : UInt64 := 0
  endpoint : Endpoint

namespace FakeVehicleMessageTransport

variable {Endpoint : Type}

/-- The checks of the request come in another order here than in the transport over SOME/IP. -/
def validate (msg : VehicleMessage) (opts : ExchangeOptions) (now : Int64) : TransportOutcome :=
  if msg.envelope.messageKind ≠ .request then .ProtocolError
  else if msg.envelope.service ≠ payload_type.kService then .Rejected
  else if msg.envelope.protocolVersion ≠ payload_type.kProtocolVersion then .VersionMismatch
  else if msg.envelope.messageId.isEmpty then .Rejected
  else if expired msg.envelope now then .Rejected
  else if opts.maxResponseBytes > 0 ∧ msg.payload.length > opts.maxResponseBytes then
    .PayloadTooLarge
  else .Accepted

/-- A request that is valid is lost once, if the scenario says so, and goes to the endpoint. -/
def exchange (dispatch : String → VehicleMessage → ExchangeOptions → Endpoint →
      TransportResult × Endpoint)
    (now : Int64) (msg : VehicleMessage) (opts : ExchangeOptions)
    (fake : FakeVehicleMessageTransport Endpoint) :
    TransportResult × FakeVehicleMessageTransport Endpoint :=
  match validate msg opts now with
  | .Accepted =>
    if fake.faults.contains "cloud_timeout" ∧ ¬fake.cloudTimeoutOnce then
      ({ outcome := .Timeout }, { fake with cloudTimeoutOnce := true })
    else
      let (result, endpoint) := dispatch msg.envelope.payloadType msg opts fake.endpoint
      (result, { fake with endpoint })
  | refused => ({ outcome := refused }, fake)

/-- Only the direction of an event is looked at. -/
def publish (msg : VehicleMessage) (fake : FakeVehicleMessageTransport Endpoint) :
    TransportOutcome × FakeVehicleMessageTransport Endpoint :=
  if msg.envelope.messageKind ≠ .event then (.Rejected, fake)
  else (.Accepted, { fake with publishCount := fake.publishCount + 1 })

end FakeVehicleMessageTransport

end CgwFota.Transport
