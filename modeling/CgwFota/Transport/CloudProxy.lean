import CgwFota.Transport.Codec
import CgwFota.Transport.Inflight

/-!
# The cloud behind the transport

A call of the cloud is encoded, exchanged and decoded. The exchange reserves its entry in the
correlation table, hands the message to the framework, waits, and checks the reply. What the
framework does, and what the clock shows whenever it is read, is a parameter.

## Main definitions

* `Framework`, `Clock`: the two parameters of an exchange.
* `mapCallResultToOutcome`: the codes of the framework as outcomes of the transport.
* `acceptReply`: the checks of a reply.
* `exchange`, `publish`: the two ways to send a message.
* `exchangeCall`: one call of the proxy, from the request to the decoded response.

## Proof strategy

A function returns the transport as it leaves it, next to its result; the correlation table is the
only part that changes. Every return of the source is one branch, in the source's order, so that
which check speaks first can be read off.
-/
namespace CgwFota.Transport

open Inventory (Bytes)

/-! ### Framework -/

/-- What the framework says about the service. -/
inductive Availability where
  | Available | Unavailable | VersionMismatch | Stopping
  deriving DecidableEq, Repr

structure CallResult where
  success : Bool
  code : String := ""
  response : Bytes := []
  deriving DecidableEq, Repr

/-- What becomes of a call within its timeout, if anything does, and what is said about the
service afterwards. -/
structure Framework where
  callAsync : Bytes → Int64 → Option CallResult
  availability : Availability

/-- The readings of the clock in the order they are taken. -/
structure Clock where
  stamped : Int64
  encoded : Int64
  sent : Int64
  reserved : Int64
  evicted : Int64
  received : Int64
  decoded : Int64
  deriving Inhabited

/-- The codes of the framework, as the transport reports them. -/
def mapCallResultToOutcome (result : CallResult) : TransportOutcome :=
  if result.success then .Accepted
  else if result.code = "CGW-FW-0305" then .Timeout
  else if result.code = "CGW-FW-0306" then .ProtocolError
  else if result.code = "CGW-FW-0307" ∨ result.code = "CGW-FW-0309" then .Rejected
  else if result.code = "CGW-FW-0308" then .Rejected
  else if result.code = "CGW-FW-0310" then .Stopping
  else if result.code = "CGW-FW-0301" ∨ result.code = "CGW-FW-0302" ∨
      result.code = "CGW-FW-0303" then .Unavailable
  else if result.code = "CGW-FW-0304" then .Unavailable
  else .Unknown

/-! ### Exchange -/

structure ExchangeOptions where
  timeout : Int64 := 10000
  maxResponseBytes : Nat := 0
  deriving DecidableEq, Repr

structure TransportResult where
  outcome : TransportOutcome
  value : VehicleMessage := {}
  deriving DecidableEq, Repr

structure SomeIpVehicleMessageTransport where
  cfg : SomeIpTransportConfig
  stopping : Bool
  inflight : Inflight

/-- The shorter one of the two timeouts, unless that is none. -/
def exchangeTimeout (opts : ExchangeOptions) (cfg : SomeIpTransportConfig) : Int64 :=
  let timeout := if cfg.exchangeTimeout < opts.timeout then cfg.exchangeTimeout else opts.timeout
  if timeout ≤ 0 then cfg.exchangeTimeout else timeout

section Exchange

variable [EnvelopeWire]

/-- The checks of a reply. -/
def acceptReply (cfg : SomeIpTransportConfig) (messageId : String) (received : Int64)
    (response : Bytes) : TransportResult :=
  match decodeWire response with
  | none => { outcome := .ProtocolError }
  | some resp =>
    if resp.envelope.correlationId.isNone ∨ resp.envelope.correlationId.getD "" ≠ messageId then
      { outcome := .ProtocolError }
    else if resp.envelope.messageKind ≠ .response then { outcome := .ProtocolError }
    else
      match validateInboundEnvelope resp.envelope resp.payload.length cfg.maxPayloadBytes
        received with
      | .Accepted => { outcome := .Accepted, value := resp }
      | refused => { outcome := refused }

/-- What the framework answered, as the outcome of an exchange. -/
def concludeExchange (cfg : SomeIpTransportConfig) (framework : Framework) (messageId : String)
    (received : Int64) : Option CallResult → TransportResult
  | none => { outcome := .Timeout }
  | some result =>
    if result.success then acceptReply cfg messageId received result.response
    else if mapCallResultToOutcome result = .Unavailable ∧
        framework.availability = .VersionMismatch then { outcome := .VersionMismatch }
    else { outcome := mapCallResultToOutcome result }

def exchange (framework : Framework) (clock : Clock) (msg : VehicleMessage)
    (opts : ExchangeOptions) (t : SomeIpVehicleMessageTransport) :
    TransportResult × SomeIpVehicleMessageTransport :=
  let messageId := msg.envelope.messageId
  if t.stopping then ({ outcome := .Stopping }, t)
  else if msg.envelope.messageKind ≠ .request then ({ outcome := .ProtocolError }, t)
  else if messageId.isEmpty then ({ outcome := .Rejected }, t)
  else
    match validateOutboundEnvelope msg.envelope msg.payload.length t.cfg.maxPayloadBytes
        clock.sent with
    | .Accepted =>
      let timeout := exchangeTimeout opts t.cfg
      let deadline := clock.reserved + timeout
      match reserveInflight t.cfg.maxInFlight messageId deadline clock.evicted t.inflight with
      | (false, table) => ({ outcome := .Rejected }, { t with inflight := table })
      | (true, table) =>
        let wire := encodeWire msg
        let released := { t with inflight := releaseInflight messageId table }
        if wire.length > t.cfg.maxEnvelopeBytes then ({ outcome := .PayloadTooLarge }, released)
        else
          (concludeExchange t.cfg framework messageId clock.received
            (framework.callAsync wire timeout), released)
    | refused => ({ outcome := refused }, t)

/-- An event expects no reply: what the framework says of the call is the outcome. -/
def publish (framework : Framework) (now : Int64) (msg : VehicleMessage) (ctx : CallContext)
    (t : SomeIpVehicleMessageTransport) : TransportOutcome :=
  if t.stopping then .Stopping
  else if msg.envelope.messageKind ≠ .event then .Rejected
  else
    match validateOutboundEnvelope msg.envelope msg.payload.length t.cfg.maxPayloadBytes now with
    | .Accepted =>
      let wire := encodeWire msg
      if wire.length > t.cfg.maxEnvelopeBytes then .PayloadTooLarge
      else
        match framework.callAsync wire (exchangeTimeout { timeout := ctx.timeout } t.cfg) with
        | none => .Timeout
        | some result =>
          if result.success then .Accepted
          else if mapCallResultToOutcome result = .Unavailable ∧
              framework.availability = .VersionMismatch then .VersionMismatch
          else mapCallResultToOutcome result
    | refused => refused

end Exchange

/-! ### The proxy -/

inductive FotaCloudException.Kind where
  | Timeout | Unavailable | Codec | Internal
  deriving DecidableEq, Repr

structure FotaCloudException where
  kind : FotaCloudException.Kind
  frameworkCauseCode : String
  detail : String
  deriving DecidableEq, Repr

def makeOptions (ctx : CallContext) (maxResponseBytes : Nat) : ExchangeOptions :=
  { timeout := ctx.timeout, maxResponseBytes }

/-- An outcome other than `Accepted`, as the exception the proxy throws. -/
def throwFor (outcome : TransportOutcome) (action : String) : FotaCloudException :=
  match outcome with
  | .Timeout => ⟨.Timeout, "CGW-FW-0305", action ++ " timeout"⟩
  | .Unavailable => ⟨.Unavailable, "CGW-FW-0304", action ++ " unavailable"⟩
  | .VersionMismatch | .PayloadTooLarge | .ProtocolError =>
    ⟨.Codec, "CGW-FW-0306", action ++ " protocol error"⟩
  | .Stopping => ⟨.Internal, "CGW-FW-0307", action ++ " stopping"⟩
  | .Accepted | .Rejected | .Unknown => ⟨.Timeout, "CGW-FW-0305", action ++ " unknown outcome"⟩

section Call

variable [EnvelopeWire] {Request Response : Type}

/-- A type of call, with the types of its messages. -/
structure CallType (Request Response : Type) where
  reqType : String
  respType : String
  serialize : Request → Option Bytes
  parse : Bytes → Option Response

/-- The message a call hands to the transport. -/
def requestMessage (call : CallType Request Response) (request : Request) (ctx : CallContext)
    (clock : Clock) : VehicleMessage :=
  encodeRequest call.serialize call.reqType request (identityFrom ctx) ctx clock.stamped
    clock.encoded

def exchangeCall (framework : Framework) (clock : Clock) (maxResponseBytes : Nat)
    (call : CallType Request Response) (request : Request) (ctx : CallContext)
    (t : SomeIpVehicleMessageTransport) :
    Except FotaCloudException Response × SomeIpVehicleMessageTransport :=
  let ids := identityFrom ctx
  let msg := requestMessage call request ctx clock
  let (result, t) := exchange framework clock msg (makeOptions ctx maxResponseBytes) t
  if result.outcome ≠ .Accepted then (.error (throwFor result.outcome call.reqType), t)
  else
    match decodeResponse call.parse call.respType result.value ids.messageId clock.decoded with
    | .error error => (.error ⟨.Codec, error.frameworkCauseCode, "codec: " ++ error.detail⟩, t)
    | .ok value => (.ok value, t)

end Call

end CgwFota.Transport
