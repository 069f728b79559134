import CgwFota.Transport.Message

/-!
# Requests and responses in envelopes

The codec puts a request into a message under the identity of its call, and takes a response out of
one. How a request is serialized and a response parsed is a parameter.

## Main definitions

* `CallContext`, `identityFrom`: what a call is made under, and the identity it gives its message.
* `encodeRequest`: the message of a request.
* `decode`: the checks of a received message, in their order.
* `Carries`: what a message is that passes them.

## Main result

* `decode_iff`: a message decodes to a value exactly where it carries the value.
-/
namespace CgwFota.Transport

open Inventory (Bytes)

structure CallContext where
  traceId : String := ""
  requestId : String := ""
  idempotencyKey : String := ""
  timeout : Int64 := 10000
  deadlineMs : Int64 := 0
  deviceId : String := ""
  vin : String := ""
  vehicleTaskId : String := ""
  executionId : String := ""
  deriving DecidableEq, Repr

/-- A deadline of zero is taken from the timeout. -/
def CallContext.resolveDeadline (ctx : CallContext) (nowMs : Int64) : Int64 :=
  if ctx.deadlineMs > 0 then ctx.deadlineMs else nowMs + ctx.timeout

structure EnvelopeIdentity where
  messageId : String
  correlationId : String
  requestId : String
  idempotencyKey : String
  vehicleTaskId : String
  executionId : String
  traceId : String
  protocolVersion : String
  deviceId : String
  vin : String
  deriving DecidableEq, Repr

inductive FotaProtocolErrorKind where
  | ServiceMismatch | PayloadTypeMismatch | VersionMismatch | MessageKindMismatch
  | CorrelationMismatch | TtlExpired | MalformedPayload | MissingField | Internal
  deriving DecidableEq, Repr

structure FotaProtocolError where
  kind : FotaProtocolErrorKind
  detail : String
  frameworkCauseCode : String
  deriving DecidableEq, Repr

/-- The proxy's codec expects the one protocol version there is. -/
def identityFrom (ctx : CallContext) : EnvelopeIdentity :=
  { messageId := ctx.requestId
    correlationId := ctx.requestId
    requestId := ctx.requestId
    idempotencyKey := ctx.idempotencyKey
    vehicleTaskId := ctx.vehicleTaskId
    executionId := ctx.executionId
    traceId := ctx.traceId
    protocolVersion := payload_type.kProtocolVersion
    deviceId := ctx.deviceId
    vin := ctx.vin }

/-- An optional field is set unless the value is empty. -/
def unlessEmpty (value : String) : Option String := if value.isEmpty then none else some value

/-- A request that cannot be serialized leaves the payload empty. The two times are readings of
the clock. -/
def encodeRequest {Request : Type} (serialize : Request → Option Bytes) (payloadType : String)
    (request : Request) (ids : EnvelopeIdentity) (ctx : CallContext) (stamped encoded : Int64) :
    VehicleMessage :=
  { envelope :=
      { requestId := ids.requestId
        messageId := ids.messageId
        correlationId := unlessEmpty ids.correlationId
        messageKind := .request
        service := payload_type.kService
        payloadType
        protocolVersion := ids.protocolVersion
        timestampMs := stamped
        expireAtMs := some (ctx.resolveDeadline encoded)
        deviceId := ids.deviceId
        vin := ids.vin
        idempotencyKey := unlessEmpty ids.idempotencyKey
        vehicleTaskId := unlessEmpty ids.vehicleTaskId
        executionId := unlessEmpty ids.executionId
        traceContext := if ids.traceId.isEmpty then none else some { traceId := ids.traceId } }
    payload := (serialize request).getD [] }

def makeError (kind : FotaProtocolErrorKind) (detail : String) : FotaProtocolError :=
  { kind, detail, frameworkCauseCode := "CGW-FW-0306" }

/-- An empty expected correlation is not compared. -/
def decode {Message : Type} (parse : Bytes → Option Message) (expectedKind : MessageKind)
    (expectedPayloadType : String) (msg : VehicleMessage) (expectedCorrelationId : String)
    (now : Int64) : Except FotaProtocolError Message :=
  let env := msg.envelope
  if env.service ≠ payload_type.kService then
    .error (makeError .ServiceMismatch "service mismatch")
  else if env.messageKind ≠ expectedKind then
    .error (makeError .MessageKindMismatch "message kind mismatch")
  else if env.payloadType ≠ expectedPayloadType then
    .error (makeError .PayloadTypeMismatch "payload_type mismatch")
  else if env.protocolVersion ≠ payload_type.kProtocolVersion then
    .error (makeError .VersionMismatch "protocol_version mismatch")
  else if ¬expectedCorrelationId.isEmpty ∧ env.correlationId.getD "" ≠ expectedCorrelationId then
    .error (makeError .CorrelationMismatch "correlation_id mismatch")
  else if expired env now then .error (makeError .TtlExpired "message expired")
  else if msg.payload.isEmpty then .error (makeError .MissingField "empty payload")
  else
    match parse msg.payload with
    | none => .error (makeError .MalformedPayload "payload parse failed")
    | some value => .ok value

def decodeResponse {Response : Type} (parse : Bytes → Option Response)
    (expectedPayloadType : String) (response : VehicleMessage) (expectedCorrelationId : String)
    (now : Int64) : Except FotaProtocolError Response :=
  decode parse .response expectedPayloadType response expectedCorrelationId now

/-- A message of the expected kind and type, with a payload that is this value. -/
structure Carries {Message : Type} (parse : Bytes → Option Message) (kind : MessageKind)
    (payloadType correlationId : String) (now : Int64) (msg : VehicleMessage) (value : Message) :
    Prop where
  service : msg.envelope.service = payload_type.kService
  kind : msg.envelope.messageKind = kind
  payloadType : msg.envelope.payloadType = payloadType
  protocolVersion : msg.envelope.protocolVersion = payload_type.kProtocolVersion
  correlation : correlationId ≠ "" → msg.envelope.correlationId.getD "" = correlationId
  current : expired msg.envelope now = false
  payload : msg.payload ≠ []
  parsed : parse msg.payload = some value

/-- A message decodes to a value exactly where it is of this service, of the expected kind, type,
version and correlation, not expired, and its payload is there and parses to the value. -/
theorem decode_iff {Message : Type} {parse : Bytes → Option Message} {kind : MessageKind}
    {payloadType correlationId : String} {now : Int64} {msg : VehicleMessage} {value : Message} :
    decode parse kind payloadType msg correlationId now = .ok value ↔
      Carries parse kind payloadType correlationId now msg value := by
  unfold decode
  dsimp only
  constructor
  -- no check fired: each of them gives a field
  · intro decoded
    split at decoded
    next => cases decoded
    next service =>
      split at decoded
      next => cases decoded
      next sameKind =>
        split at decoded
        next => cases decoded
        next sameType =>
          split at decoded
          next => cases decoded
          next version =>
            split at decoded
            next => cases decoded
            next correlated =>
              split at decoded
              next => cases decoded
              next current =>
                split at decoded
                next => cases decoded
                next present =>
                  split at decoded
                  next => cases decoded
                  next parsed =>
                    cases decoded
                    refine ⟨not_not.mp service, not_not.mp sameKind, not_not.mp sameType,
                      not_not.mp version, ?_, Bool.eq_false_iff.mpr current, by simpa using present,
                      parsed⟩
                    intro named
                    by_contra differs
                    exact correlated ⟨by simpa using named, differs⟩
  -- and each field keeps one check from firing
  · intro carries
    have correlated : ¬(¬correlationId.isEmpty = true ∧
        msg.envelope.correlationId.getD "" ≠ correlationId) := by
      rintro ⟨named, differs⟩
      exact differs (carries.correlation (by simpa using named))
    rw [if_neg (not_not.mpr carries.service), if_neg (not_not.mpr carries.kind),
      if_neg (not_not.mpr carries.payloadType), if_neg (not_not.mpr carries.protocolVersion),
      if_neg correlated, if_neg (by simp [carries.current]), if_neg (by simp [carries.payload]),
      carries.parsed]

end CgwFota.Transport
