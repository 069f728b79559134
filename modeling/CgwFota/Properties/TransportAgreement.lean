import CgwFota.Properties.Downlink
import CgwFota.Properties.Subscription
import CgwFota.Transport.Fake

/-!
# The two transports at their boundary

Both transports stand behind one port, and each has its own checks. On a request they part in the
order of two checks. On an event they part in what is checked at all, going out and coming in.

## Main definitions

* `Setting`: what both transports are given, and that their limits are kept.
* `Agrees`: both do the same when a message is exchanged, published or comes down.
* `Alike`: what they check differently does not matter for the message.

## Main results

* `transports_agree_iff`: both do the same exactly for such messages.
* `unversioned_messages_disagree`: a request without an id and an event of another version.

## Proof strategy

The outcome of each transport is described in terms of the checks alone, once for every way a
message can take. The three ways are then compared separately.
-/
namespace CgwFota.Transport

open Interleaving
open Inventory (Bytes)

/-! ### Messages on the wire -/

/-- The envelope that is serialized for a message. -/
def carried (msg : VehicleMessage) : VehicleMessageEnvelope :=
  if msg.payload.isEmpty then msg.envelope else { msg.envelope with payload := msg.payload }

/-- Parsing gives an envelope back, and only the empty one has no bytes. -/
structure RoundTrips [EnvelopeWire] (env : VehicleMessageEnvelope) : Prop where
  parse_serialize : EnvelopeWire.parse (EnvelopeWire.serialize env) = some env
  serialize_nil : EnvelopeWire.serialize env = [] → env = {}

/-- The handlers that are called for what a callback puts into the queue. -/
def delivered [EnvelopeWire] {Handle Handler : Type} (cfg : SomeIpTransportConfig) (view : Bytes)
    (now : Int64) (s : Downlink) (subs : Subscriptions Handle Handler) : List (Nat × Handler) :=
  ((s.onDownlinkEvent cfg view now).downlinkQueue.drop s.downlinkQueue.length).flatMap
    fun o => subs.dispatchToHandlers o.msg

/-! ### Agreement -/

section Agreement

variable [EnvelopeWire] {Handle Handler Endpoint : Type}

/-- Both parts of a transport run, the message keeps to the limits, it crosses the wire, and the
call that publishes it succeeds. -/
structure Setting (framework : Framework) (msg : VehicleMessage) (opts : ExchangeOptions)
    (ctx : CallContext) (t : SomeIpVehicleMessageTransport) (s : Downlink) : Prop where
  calling : t.stopping = false
  receiving : s.stopping = false
  queueing : s.queueStopping = false
  payload : msg.payload.length ≤ t.cfg.maxPayloadBytes
  carriedPayload : (carried msg).payload.length ≤ t.cfg.maxPayloadBytes
  response : opts.maxResponseBytes = 0 ∨ msg.payload.length ≤ opts.maxResponseBytes
  wire : (encodeWire msg).length ≤ t.cfg.maxEnvelopeBytes
  roundTrips : RoundTrips (carried msg)
  succeeds : ∃ result, framework.callAsync (encodeWire msg)
    (exchangeTimeout { timeout := ctx.timeout } t.cfg) = some result ∧ result.success = true

/-- One of the transports refuses a request. -/
def FailsValidation (cfg : SomeIpTransportConfig) (msg : VehicleMessage) (opts : ExchangeOptions)
    (now : Int64) : Prop :=
  validateOutboundEnvelope msg.envelope msg.payload.length cfg.maxPayloadBytes now ≠ .Accepted ∨
    FakeVehicleMessageTransport.validate msg opts now ≠ .Accepted

/-- Both transports do the same with a message: with one that is not valid when it is exchanged,
with any when it is published, and with any when it comes down. -/
structure Agrees (framework : Framework)
    (dispatch : String → VehicleMessage → ExchangeOptions → Endpoint → TransportResult × Endpoint)
    (clock : Clock) (msg : VehicleMessage) (opts : ExchangeOptions) (ctx : CallContext)
    (t : SomeIpVehicleMessageTransport) (s : Downlink) (fake : FakeVehicleMessageTransport Endpoint)
    (subs : Subscriptions Handle Handler) : Prop where
  exchange : FailsValidation t.cfg msg opts clock.sent →
    (exchange framework clock msg opts t).1.outcome =
      (fake.exchange dispatch clock.sent msg opts).1.outcome
  publish : publish framework clock.sent msg ctx t = (fake.publish msg).1
  delivery : ∀ slot f,
    (slot, f) ∈ delivered t.cfg (encodeWire msg) clock.sent s subs ↔
      (slot, f) ∈ subs.deliverDownlink msg clock.sent

/-- What the transports check differently does not matter for the message: a request of this
service without an id has the right version, and an event is valid and finds room in the queue if
someone waits for it. -/
structure Alike (cfg : SomeIpTransportConfig) (now : Int64) (msg : VehicleMessage) (s : Downlink)
    (subs : Subscriptions Handle Handler) : Prop where
  request : msg.envelope.messageKind = .request → msg.envelope.service = payload_type.kService →
    msg.envelope.messageId = "" → msg.envelope.protocolVersion = payload_type.kProtocolVersion
  event : msg.envelope.messageKind = .event → msg.envelope.service = payload_type.kService ∧
    msg.envelope.protocolVersion = payload_type.kProtocolVersion ∧
    msg.envelope.messageId ≠ "" ∧ expired msg.envelope now = false
  room : msg.envelope.messageKind = .event →
    (∃ e ∈ subs.handlers, e.service = msg.envelope.service ∧ e.handler.isSome) →
    s.downlinkQueue.length < cfg.downlinkQueueCapacity

variable {framework : Framework} {clock : Clock} {msg : VehicleMessage} {opts : ExchangeOptions}
  {ctx : CallContext} {t : SomeIpVehicleMessageTransport} {s : Downlink} {now : Int64}
  {dispatch : String → VehicleMessage → ExchangeOptions → Endpoint → TransportResult × Endpoint}
  {fake : FakeVehicleMessageTransport Endpoint} {subs : Subscriptions Handle Handler}

/-! ### Requests -/

/-- Within the limits the checks of the two transports differ by nothing but the direction. -/
theorem validate_of_request (now : Int64) (setting : Setting framework msg opts ctx t s)
    (kind : msg.envelope.messageKind = .request) :
    FakeVehicleMessageTransport.validate msg opts now =
      validateOutboundEnvelope msg.envelope msg.payload.length t.cfg.maxPayloadBytes now := by
  have fits : ¬msg.payload.length > t.cfg.maxPayloadBytes := Nat.not_lt.mpr setting.payload
  have short : ¬(opts.maxResponseBytes > 0 ∧ msg.payload.length > opts.maxResponseBytes) := by
    have response := setting.response
    omega
  have outbound : ¬(msg.envelope.messageKind ≠ .request ∧ msg.envelope.messageKind ≠ .event) :=
    fun neither => neither.1 kind
  rw [FakeVehicleMessageTransport.validate, validateOutboundEnvelope, if_neg (not_not.mpr kind),
    if_neg outbound, if_neg fits, if_neg short]

omit [EnvelopeWire] in
/-- A request that fails the checks is refused by the fake transport. -/
theorem fake_exchange_refused
    (refused : FakeVehicleMessageTransport.validate msg opts now ≠ .Accepted) :
    (fake.exchange dispatch now msg opts).1.outcome =
      FakeVehicleMessageTransport.validate msg opts now := by
  unfold FakeVehicleMessageTransport.exchange
  split
  next accepted => exact absurd accepted refused
  next => rfl

theorem exchange_of_other_kind (calling : t.stopping = false)
    (kind : msg.envelope.messageKind ≠ .request) :
    (exchange framework clock msg opts t).1.outcome = .ProtocolError := by
  rw [Transport.exchange, if_neg (by simp [calling]), if_pos kind]

theorem exchange_of_anonymous (calling : t.stopping = false)
    (kind : msg.envelope.messageKind = .request) (anonymous : msg.envelope.messageId = "") :
    (exchange framework clock msg opts t).1.outcome = .Rejected := by
  rw [Transport.exchange, if_neg (by simp [calling]), if_neg (not_not.mpr kind),
    if_pos (by simp [anonymous])]

/-- A request that fails the checks on its way out is refused. -/
theorem exchange_refused (calling : t.stopping = false)
    (kind : msg.envelope.messageKind = .request) (named : msg.envelope.messageId ≠ "")
    (refused : validateOutboundEnvelope msg.envelope msg.payload.length t.cfg.maxPayloadBytes
      clock.sent ≠ .Accepted) :
    (exchange framework clock msg opts t).1.outcome =
      validateOutboundEnvelope msg.envelope msg.payload.length t.cfg.maxPayloadBytes
        clock.sent := by
  rw [Transport.exchange, if_neg (by simp [calling]), if_neg (not_not.mpr kind),
    if_neg (by simpa using named)]
  split
  next accepted => exact absurd accepted refused
  next => rfl

omit [EnvelopeWire] in
/-- A request without an id fails for its service, its version or its id, whichever comes first. -/
theorem validate_of_anonymous (opts : ExchangeOptions) (now : Int64)
    (kind : msg.envelope.messageKind = .request) (anonymous : msg.envelope.messageId = "") :
    FakeVehicleMessageTransport.validate msg opts now =
      if msg.envelope.service = payload_type.kService ∧
          msg.envelope.protocolVersion ≠ payload_type.kProtocolVersion then .VersionMismatch
      else .Rejected := by
  rw [FakeVehicleMessageTransport.validate, if_neg (not_not.mpr kind)]
  by_cases service : msg.envelope.service = payload_type.kService
  · rw [if_neg (not_not.mpr service)]
    by_cases version : msg.envelope.protocolVersion = payload_type.kProtocolVersion
    · rw [if_neg (not_not.mpr version), if_pos (by simp [anonymous]),
        if_neg (fun both => both.2 version)]
    · rw [if_pos version, if_pos ⟨service, version⟩]
  · rw [if_pos service, if_neg (fun both => service both.1)]

/-- An exchange that fails ends alike unless both the id and the version of the request are wrong:
the transport over SOME/IP looks at the id first. -/
theorem exchange_agrees_iff (setting : Setting framework msg opts ctx t s) :
    (FailsValidation t.cfg msg opts clock.sent →
      (exchange framework clock msg opts t).1.outcome =
        (fake.exchange dispatch clock.sent msg opts).1.outcome) ↔
      (msg.envelope.messageKind = .request → msg.envelope.service = payload_type.kService →
        msg.envelope.messageId = "" →
        msg.envelope.protocolVersion = payload_type.kProtocolVersion) := by
  -- a request
  by_cases kind : msg.envelope.messageKind = .request
  · have same := validate_of_request clock.sent setting kind
    -- without an id, both fail, by whichever check comes first
    by_cases anonymous : msg.envelope.messageId = ""
    · have order := validate_of_anonymous opts clock.sent kind anonymous
      have refused : FakeVehicleMessageTransport.validate msg opts clock.sent ≠ .Accepted := by
        rw [order]
        split <;> exact nofun
      have fails : FailsValidation t.cfg msg opts clock.sent := .inr refused
      rw [exchange_of_anonymous setting.calling kind anonymous, fake_exchange_refused refused,
        order]
      constructor
      · intro agree _ service _
        by_contra version
        rw [if_pos ⟨service, version⟩] at agree
        cases agree fails
      · intro versioned _
        rw [if_neg fun both => both.2 (versioned kind both.1 anonymous)]
    -- with an id
    · refine iff_of_true (fun fails => ?_) fun _ _ empty => absurd empty anonymous
      -- both transports refuse, since their checks are the same
      have refused : FakeVehicleMessageTransport.validate msg opts clock.sent ≠ .Accepted := by
        -- it fails on its way out, or before it is handed over
        cases fails with
        | inl outbound => rwa [same]
        | inr refused => exact refused
      rw [fake_exchange_refused refused, same,
        exchange_refused setting.calling kind anonymous (same ▸ refused)]
  -- anything else is a protocol error for both
  · refine iff_of_true (fun _ => ?_) fun request => absurd request kind
    have refused : FakeVehicleMessageTransport.validate msg opts clock.sent = .ProtocolError := by
      rw [FakeVehicleMessageTransport.validate, if_pos kind]
    rw [exchange_of_other_kind setting.calling kind, fake_exchange_refused (by simp [refused]),
      refused]

/-! ### Events going out -/

theorem publish_of_accepted (setting : Setting framework msg opts ctx t s)
    (kind : msg.envelope.messageKind = .event)
    (accepted : validateOutboundEnvelope msg.envelope msg.payload.length t.cfg.maxPayloadBytes
      now = .Accepted) :
    publish framework now msg ctx t = .Accepted := by
  obtain ⟨result, answered, success⟩ := setting.succeeds
  have short : ¬(encodeWire msg).length > t.cfg.maxEnvelopeBytes := Nat.not_lt.mpr setting.wire
  rw [publish, if_neg (by simp [setting.calling]), if_neg (not_not.mpr kind), accepted]
  dsimp only
  rw [if_neg short, answered]
  exact if_pos success

theorem publish_refused (calling : t.stopping = false)
    (kind : msg.envelope.messageKind = .event)
    (refused : validateOutboundEnvelope msg.envelope msg.payload.length t.cfg.maxPayloadBytes
      now ≠ .Accepted) :
    publish framework now msg ctx t ≠ .Accepted := by
  rw [publish, if_neg (by simp [calling]), if_neg (not_not.mpr kind)]
  split
  next accepted => exact absurd accepted refused
  next => exact refused

/-- An event is published alike exactly if it is valid, which only one of the transports checks. -/
theorem publish_agrees_iff (setting : Setting framework msg opts ctx t s) :
    publish framework now msg ctx t = (fake.publish msg).1 ↔
      (msg.envelope.messageKind = .event → msg.envelope.service = payload_type.kService ∧
        msg.envelope.protocolVersion = payload_type.kProtocolVersion ∧
        msg.envelope.messageId ≠ "" ∧ expired msg.envelope now = false) := by
  -- an event
  by_cases kind : msg.envelope.messageKind = .event
  · have passed : (fake.publish msg).1 = .Accepted := by
      rw [FakeVehicleMessageTransport.publish, if_neg (not_not.mpr kind)]
    rw [passed]
    constructor
    · intro accepted _
      have outbound : validateOutboundEnvelope msg.envelope msg.payload.length
          t.cfg.maxPayloadBytes now = .Accepted := by
        by_contra refused
        exact publish_refused setting.calling kind refused accepted
      obtain ⟨-, named, valid⟩ := validateOutboundEnvelope_iff.mp outbound
      exact ⟨valid.service, valid.protocolVersion, named, valid.current⟩
    · intro checked
      obtain ⟨service, version, named, current⟩ := checked kind
      have valid : Valid msg.envelope msg.payload.length t.cfg.maxPayloadBytes now :=
        ⟨service, version, current, setting.payload⟩
      exact publish_of_accepted setting kind
        (validateOutboundEnvelope_iff.mpr ⟨.inr kind, named, valid⟩)
  -- anything else is a protocol error for both
  · refine iff_of_true ?_ fun event => absurd event kind
    rw [publish, if_neg (by simp [setting.calling]), if_pos kind,
      FakeVehicleMessageTransport.publish, if_pos kind]

/-! ### Events coming down -/

omit [EnvelopeWire] in
@[simp] theorem carried_messageKind :
    (carried msg).messageKind = msg.envelope.messageKind := by
  unfold carried
  split <;> rfl

omit [EnvelopeWire] in
@[simp] theorem carried_service : (carried msg).service = msg.envelope.service := by
  unfold carried
  split <;> rfl

omit [EnvelopeWire] in
@[simp] theorem carried_protocolVersion :
    (carried msg).protocolVersion = msg.envelope.protocolVersion := by
  unfold carried
  split <;> rfl

omit [EnvelopeWire] in
@[simp] theorem expired_carried : expired (carried msg) now = expired msg.envelope now := by
  unfold carried
  split <;> rfl

/-- The envelope comes back from the wire with its payload, if there is anything to parse. -/
theorem decodeWire_encodeWire (roundTrips : RoundTrips (carried msg))
    (something : ¬(encodeWire msg).isEmpty = true) :
    decodeWire (encodeWire msg) = some ⟨carried msg, (carried msg).payload⟩ := by
  have bytes : encodeWire msg = EnvelopeWire.serialize (carried msg) := rfl
  rw [decodeWire, if_neg something, bytes, roundTrips.parse_serialize]
  rfl

/-- What has no bytes has no direction. -/
theorem kind_of_encodeWire_nil (roundTrips : RoundTrips (carried msg))
    (nothing : (encodeWire msg).isEmpty = true) : msg.envelope.messageKind = .unspecified := by
  have empty : carried msg = {} := roundTrips.serialize_nil (List.isEmpty_iff.mp nothing)
  rw [← carried_messageKind, empty]

/-- A message passes the checks of the callback exactly if it is a valid event. -/
theorem checkDownlink_iff (setting : Setting framework msg opts ctx t s)
    {arrived : VehicleMessage} :
    checkDownlink t.cfg (encodeWire msg) now = some arrived ↔
      arrived = ⟨carried msg, (carried msg).payload⟩ ∧ msg.envelope.messageKind = .event ∧
        msg.envelope.service = payload_type.kService ∧
        msg.envelope.protocolVersion = payload_type.kProtocolVersion ∧
        expired msg.envelope now = false := by
  unfold checkDownlink
  -- there is nothing to parse
  by_cases nothing : (encodeWire msg).isEmpty = true
  · have kind := kind_of_encodeWire_nil setting.roundTrips nothing
    rw [if_pos nothing]
    exact ⟨nofun, fun valid => nomatch kind.symm.trans valid.2.1⟩
  -- the envelope comes back
  · rw [if_neg nothing, decodeWire_encodeWire setting.roundTrips nothing]
    dsimp only
    rw [carried_messageKind]
    -- it is an event, or something else
    by_cases kind : msg.envelope.messageKind = .event
    · rw [if_neg (not_not.mpr kind)]
      constructor
      · intro passed
        obtain ⟨valid, same⟩ := Option.ite_none_left_eq_some.mp passed
        have valid := validateInboundEnvelope_iff.mp (not_not.mp valid)
        cases same
        exact ⟨rfl, kind, carried_service ▸ valid.service,
          carried_protocolVersion ▸ valid.protocolVersion, expired_carried ▸ valid.current⟩
      · rintro ⟨rfl, -, service, version, current⟩
        have valid : Valid (carried msg) (carried msg).payload.length t.cfg.maxPayloadBytes now :=
          ⟨by simpa using service, by simpa using version, by simpa using current,
            setting.carriedPayload⟩
        rw [if_neg (not_not.mpr (validateInboundEnvelope_iff.mpr valid))]
    · rw [if_pos kind]
      exact ⟨nofun, fun valid => absurd valid.2.1 kind⟩

/-- The callback reaches the queue with a valid event only, and only while there is room. -/
theorem mem_delivered (setting : Setting framework msg opts ctx t s) {slot : Nat} {f : Handler} :
    (slot, f) ∈ delivered t.cfg (encodeWire msg) now s subs ↔
      msg.envelope.messageKind = .event ∧ msg.envelope.service = payload_type.kService ∧
        msg.envelope.protocolVersion = payload_type.kProtocolVersion ∧
        expired msg.envelope now = false ∧
        s.downlinkQueue.length < t.cfg.downlinkQueueCapacity ∧
        (slot, f) ∈ subs.dispatchToHandlers msg := by
  have running : ¬s.stopping = true := by simp [setting.receiving]
  have check := @checkDownlink_iff _ framework msg opts ctx t s now setting
  unfold delivered Downlink.onDownlinkEvent
  rw [if_neg running]
  -- it fails a check
  cases checked : checkDownlink t.cfg (encodeWire msg) now with
  | none =>
    rw [checked] at check
    have invalid := mt (@check ⟨carried msg, (carried msg).payload⟩).mpr nofun
    rw [List.drop_length]
    refine iff_of_false (by simp) fun valid => invalid ⟨rfl, valid.1, valid.2.1, valid.2.2.1, ?_⟩
    exact valid.2.2.2.1
  -- it passes all of them
  | some arrived =>
    obtain ⟨rfl, kind, service, version, current⟩ := check.mp checked
    dsimp only
    unfold Downlink.enqueue
    rw [if_neg (by simp [setting.queueing])]
    dsimp only
    split
    -- there is no room in the queue
    next full =>
      rw [List.drop_length]
      exact iff_of_false (by simp) fun valid => absurd valid.2.2.2.2.1 (Nat.not_lt.mpr full)
    -- there is
    next free =>
      have same : subs.dispatchToHandlers ⟨carried msg, (carried msg).payload⟩ =
          subs.dispatchToHandlers msg := by
        unfold Subscriptions.dispatchToHandlers
        dsimp only
        rw [carried_service]
      rw [List.drop_left, List.flatMap_singleton, same]
      exact ⟨fun called => ⟨kind, service, version, current, Nat.lt_of_not_le free, called⟩,
        fun valid => valid.2.2.2.2.2⟩

omit [EnvelopeWire] in
/-- The fake transport delivers every event that has not expired. -/
theorem mem_deliverDownlink {slot : Nat} {f : Handler} :
    (slot, f) ∈ subs.deliverDownlink msg now ↔
      msg.envelope.messageKind = .event ∧ expired msg.envelope now = false ∧
        (slot, f) ∈ subs.dispatchToHandlers msg := by
  unfold Subscriptions.deliverDownlink
  by_cases kind : msg.envelope.messageKind = .event
  · rw [if_neg (not_not.mpr kind)]
    cases current : expired msg.envelope now with
    | true => simp
    | false => simp [kind]
  · rw [if_pos kind]
    exact iff_of_false (by simp) fun valid => kind valid.1

omit [EnvelopeWire] in
/-- Someone waits for a message if and only if some handler is called for it. -/
theorem subscribed_iff :
    (∃ e ∈ subs.handlers, e.service = msg.envelope.service ∧ e.handler.isSome) ↔
      ∃ slot f, (slot, f) ∈ subs.dispatchToHandlers msg := by
  constructor
  · rintro ⟨e, member, service, some_handler⟩
    obtain ⟨slot, here⟩ := List.mem_iff_getElem?.mp member
    obtain ⟨f, handler⟩ := Option.isSome_iff_exists.mp some_handler
    exact ⟨slot, f, Subscriptions.mem_dispatchToHandlers.mpr ⟨e, here, service, handler⟩⟩
  · rintro ⟨slot, f, called⟩
    obtain ⟨e, here, service, handler⟩ := Subscriptions.mem_dispatchToHandlers.mp called
    exact ⟨e, List.mem_iff_getElem?.mpr ⟨slot, here⟩, service, by simp [handler]⟩

/-- An event that someone waits for comes through alike exactly if its service and version are
right and the queue has room, which only one of the transports asks for. -/
theorem delivery_agrees_iff (setting : Setting framework msg opts ctx t s) :
    (∀ slot f, (slot, f) ∈ delivered t.cfg (encodeWire msg) now s subs ↔
      (slot, f) ∈ subs.deliverDownlink msg now) ↔
      (msg.envelope.messageKind = .event → expired msg.envelope now = false →
        (∃ e ∈ subs.handlers, e.service = msg.envelope.service ∧ e.handler.isSome) →
        msg.envelope.service = payload_type.kService ∧
          msg.envelope.protocolVersion = payload_type.kProtocolVersion ∧
          s.downlinkQueue.length < t.cfg.downlinkQueueCapacity) := by
  constructor
  -- what comes through the fake transport has to come through the other one
  · intro agree kind current waiting
    obtain ⟨slot, f, called⟩ := subscribed_iff.mp waiting
    have came := (agree slot f).mpr (mem_deliverDownlink.mpr ⟨kind, current, called⟩)
    obtain ⟨-, service, version, -, room, -⟩ := (mem_delivered setting).mp came
    exact ⟨service, version, room⟩
  -- what comes through the one comes through the other
  · intro asked slot f
    rw [mem_delivered setting, mem_deliverDownlink]
    constructor
    · rintro ⟨kind, -, -, current, -, called⟩
      exact ⟨kind, current, called⟩
    · rintro ⟨kind, current, called⟩
      obtain ⟨service, version, room⟩ := asked kind current (subscribed_iff.mpr ⟨slot, f, called⟩)
      exact ⟨kind, service, version, current, room, called⟩

/-! ### Main result -/

/-- The transports agree on a message if and only if their different checks do not matter for it. -/
theorem transports_agree_iff (setting : Setting framework msg opts ctx t s) :
    Agrees framework dispatch clock msg opts ctx t s fake subs ↔
      Alike t.cfg clock.sent msg s subs := by
  constructor
  · intro agrees
    have event := (publish_agrees_iff setting).mp agrees.publish
    refine ⟨(exchange_agrees_iff setting).mp agrees.exchange, event, fun kind waiting => ?_⟩
    obtain ⟨-, -, -, current⟩ := event kind
    exact ((delivery_agrees_iff setting).mp agrees.delivery kind current waiting).2.2
  · intro alike
    refine ⟨(exchange_agrees_iff setting).mpr alike.request,
      (publish_agrees_iff setting).mpr alike.event, (delivery_agrees_iff setting).mpr ?_⟩
    intro kind _ waiting
    obtain ⟨service, version, -, -⟩ := alike.event kind
    exact ⟨service, version, alike.room kind waiting⟩

end Agreement

/-! ### Single messages -/

/-- A wire that carries one envelope. -/
@[reducible] def wireOf (env : VehicleMessageEnvelope) (bytes : Bytes) : EnvelopeWire where
  serialize other := if other = env then bytes else []
  parse view := if view = bytes then some env else none

theorem roundTrips_wireOf {env : VehicleMessageEnvelope} {bytes : Bytes} (something : bytes ≠ []) :
    @RoundTrips (wireOf env bytes) env := by
  refine @RoundTrips.mk (wireOf env bytes) _ ?_ ?_
  · show (if (if env = env then bytes else []) = bytes then some env else none) = some env
    rw [if_pos rfl, if_pos rfl]
  · intro nothing
    replace nothing : (if env = env then bytes else []) = [] := nothing
    rw [if_pos rfl] at nothing
    exact absurd nothing something

/-- Every call succeeds. -/
def answering : Framework where
  callAsync _ _ := some { success := true }
  availability := .Available

/-- A transport with its defaults. -/
def runningTransport : SomeIpVehicleMessageTransport where
  cfg := {}
  stopping := false
  inflight := {}

/-- One worker that waits. -/
def runningDownlink : Downlink where
  workers := [.waiting]
  subscribed := true
  phase := .running

/-- One subscriber of the service. -/
def oneSubscriber : Subscriptions Unit Unit :=
  Subscriptions.subscribe () payload_type.kService (some ()) {}

/-- Every endpoint accepts. -/
def echo (_ : String) (_ : VehicleMessage) (_ : ExchangeOptions) (endpoint : Unit) :
    TransportResult × Unit :=
  ({ outcome := .Accepted }, endpoint)

section Single

variable {msg : VehicleMessage} {bytes : Bytes}

/-- Both transports run with their defaults and get the message at time zero. -/
def SettingOn (msg : VehicleMessage) (bytes : Bytes) : Prop :=
  @Setting (wireOf msg.envelope bytes) answering msg {} {} runningTransport runningDownlink

/-- Both transports do the same with this message. -/
def AgreesOn (msg : VehicleMessage) (bytes : Bytes) : Prop :=
  @Agrees (wireOf msg.envelope bytes) Unit Unit Unit answering echo default msg {} {}
    runningTransport runningDownlink { endpoint := () } oneSubscriber

/-- A short message meets the setting. -/
theorem settingOn_of_short (same : msg.envelope.payload = msg.payload)
    (small : msg.payload.length ≤ 262144) (something : bytes ≠ [])
    (short : bytes.length ≤ 262144) : SettingOn msg bytes := by
  have whole : carried msg = msg.envelope := by
    unfold carried
    rw [← same, ite_self]
  have wire : @encodeWire (wireOf msg.envelope bytes) msg = bytes := by
    show (if carried msg = msg.envelope then bytes else []) = bytes
    rw [if_pos whole]
  let := wireOf msg.envelope bytes
  exact
    { calling := rfl
      receiving := rfl
      queueing := rfl
      payload := small
      carriedPayload := by rw [whole, same]; exact small
      response := .inl rfl
      wire := by rw [wire]; exact short
      roundTrips := by rw [whole]; exact roundTrips_wireOf something
      succeeds := ⟨_, rfl, rfl⟩ }

end Single

/-- An event with a payload of one byte. -/
def statusEvent : VehicleMessage where
  envelope :=
    { protocolVersion := payload_type.kProtocolVersion
      payload := [1]
      messageId := "m"
      messageKind := .event
      service := payload_type.kService }
  payload := [1]

/-- Fields 3, 10, 11, 13 and 14. -/
def statusEventBytes : Bytes :=
  [0x1a, 7] ++ payload_type.kProtocolVersion.toUTF8.toList ++
    [0x52, 1, 1, 0x5a, 1, 0x6d, 0x68, 3] ++
    [0x72, 12] ++ payload_type.kService.toUTF8.toList

/-- A valid event is published and delivered by both transports. -/
theorem status_event_agrees : AgreesOn statusEvent statusEventBytes := by
  have setting : SettingOn statusEvent statusEventBytes :=
    settingOn_of_short rfl (by decide) (by decide +kernel) (by decide +kernel)
  refine (@transports_agree_iff (wireOf statusEvent.envelope statusEventBytes) Unit Unit Unit
    answering default statusEvent {} {} runningTransport runningDownlink echo { endpoint := () }
    oneSubscriber setting).mpr ⟨nofun, fun _ => ?_, fun _ _ => ?_⟩
  · decide +kernel
  · decide +kernel

/-- A request that has neither an id nor the right version. -/
def anonymousRequest : VehicleMessage where
  envelope :=
    { protocolVersion := "fota-v2"
      payload := [1]
      messageKind := .request
      service := payload_type.kService }
  payload := [1]

/-- Fields 3, 10, 13 and 14. -/
def anonymousRequestBytes : Bytes :=
  [0x1a, 7] ++ "fota-v2".toUTF8.toList ++ [0x52, 1, 1, 0x68, 1, 0x72, 12] ++
    payload_type.kService.toUTF8.toList

/-- An event of another version. -/
def foreignEvent : VehicleMessage :=
  { statusEvent with
    envelope := { statusEvent.envelope with protocolVersion := "fota-v2" } }

/-- Fields 3, 10, 11, 13 and 14. -/
def foreignEventBytes : Bytes :=
  [0x1a, 7] ++ "fota-v2".toUTF8.toList ++ [0x52, 1, 1, 0x5a, 1, 0x6d, 0x68, 3, 0x72, 12] ++
    payload_type.kService.toUTF8.toList

/-- Of two wrong fields of a request each transport reports another one, and an event of another
version is published and delivered by one of them only. -/
theorem unversioned_messages_disagree :
    (SettingOn anonymousRequest anonymousRequestBytes ∧
      ¬AgreesOn anonymousRequest anonymousRequestBytes) ∧
    (SettingOn foreignEvent foreignEventBytes ∧ ¬AgreesOn foreignEvent foreignEventBytes) := by
  have request : SettingOn anonymousRequest anonymousRequestBytes :=
    settingOn_of_short rfl (by decide) (by decide +kernel) (by decide +kernel)
  have event : SettingOn foreignEvent foreignEventBytes :=
    settingOn_of_short rfl (by decide) (by decide +kernel) (by decide +kernel)
  refine ⟨⟨request, fun agrees => ?_⟩, event, fun agrees => ?_⟩
  · let := wireOf anonymousRequest.envelope anonymousRequestBytes
    have version := (exchange_agrees_iff request).mp agrees.exchange rfl rfl rfl
    exact absurd version (by decide)
  · let := wireOf foreignEvent.envelope foreignEventBytes
    have checked := (publish_agrees_iff event).mp agrees.publish rfl
    exact absurd checked.2.1 (by decide)

end CgwFota.Transport
