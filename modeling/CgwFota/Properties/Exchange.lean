import CgwFota.Transport.CloudProxy

/-!
# When a reply is the answer to a call

A call returns a value exactly if its message goes out, is answered in time, and the reply passes
the checks of both layers. Whatever happens, the reservation of the call is gone afterwards, and of
the other entries only expired ones are.

## Main definitions

* `Attempts`, `Sends`: what a message has to pass before and after its reservation.
* `Replies`, `Answers`: what a reply has to pass, in the transport and in the codec.
* `Accepted`: the message is sent, and an answer with this value comes in time.

## Main results

* `exchangeCall_accepted_iff`: a call returns a value exactly if it is accepted with it.
* `exchangeCall_accepts_iff`: together with what becomes of the table.
* `exchangeCall_accepts_prompt`: a call that is answered.

## Proof strategy

Each layer has a lemma in either direction: what an outcome `Accepted` tells, and what is enough for
one. The table is treated by itself, as a reservation that is released leaves the eviction only.
-/
namespace CgwFota.Transport

open Inventory (Bytes)

/-! ### Conditions -/

/-- The message passes the checks before its reservation. -/
structure Attempts (t : SomeIpVehicleMessageTransport) (msg : VehicleMessage) (clock : Clock) :
    Prop where
  running : t.stopping = false
  named : msg.envelope.messageId ≠ ""
  valid : Valid msg.envelope msg.payload.length t.cfg.maxPayloadBytes clock.sent

/-- The message gets its reservation, and its wire form is not too long. -/
structure Sends [EnvelopeWire] (t : SomeIpVehicleMessageTransport) (msg : VehicleMessage)
    (clock : Clock) : Prop extends Attempts t msg clock where
  room : Room t.cfg.maxInFlight msg.envelope.messageId clock.evicted t.inflight
  short : (encodeWire msg).length ≤ t.cfg.maxEnvelopeBytes

/-- The reply passes the checks of the transport. -/
structure Replies (cfg : SomeIpTransportConfig) (messageId : String) (received : Int64)
    (resp : VehicleMessage) : Prop where
  correlation : resp.envelope.correlationId = some messageId
  kind : resp.envelope.messageKind = .response
  valid : Valid resp.envelope resp.payload.length cfg.maxPayloadBytes received

/-- The reply is a response of the expected type with a payload that is this value. -/
structure Answers {Response : Type} (cfg : SomeIpTransportConfig) (clock : Clock)
    (messageId respType : String) (parse : Bytes → Option Response) (resp : VehicleMessage)
    (value : Response) : Prop extends Replies cfg messageId clock.received resp where
  payloadType : resp.envelope.payloadType = respType
  current : expired resp.envelope clock.decoded = false
  payload : resp.payload ≠ []
  parsed : parse resp.payload = some value

section Exchange

variable [EnvelopeWire] {framework : Framework} {clock : Clock} {msg : VehicleMessage}
  {opts : ExchangeOptions} {t : SomeIpVehicleMessageTransport}

/-! ### Replies -/

variable {cfg : SomeIpTransportConfig} {messageId : String} {received : Int64} {response : Bytes}

/-- A reply that passes the checks is accepted as it was decoded. -/
theorem acceptReply_of {resp : VehicleMessage} (decoded : decodeWire response = some resp)
    (replies : Replies cfg messageId received resp) :
    acceptReply cfg messageId received response = { outcome := .Accepted, value := resp } := by
  have correlated : ¬(resp.envelope.correlationId.isNone ∨
      resp.envelope.correlationId.getD "" ≠ messageId) := by
    simp [replies.correlation]
  simp only [acceptReply, decoded]
  rw [if_neg correlated, if_neg (not_not.mpr replies.kind),
    validateInboundEnvelope_iff.mpr replies.valid]

/-- A reply that is accepted has passed them. -/
theorem replies_of_accepted
    (accepted : (acceptReply cfg messageId received response).outcome = .Accepted) :
    ∃ resp, decodeWire response = some resp ∧ Replies cfg messageId received resp := by
  unfold acceptReply at accepted
  split at accepted
  next => cases accepted
  next resp decoded =>
    split at accepted
    next => cases accepted
    next correlated =>
      split at accepted
      next => cases accepted
      next kind =>
        split at accepted
        next valid =>
          refine ⟨resp, decoded, ?_, not_not.mp kind, validateInboundEnvelope_iff.mp valid⟩
          obtain ⟨present, same⟩ := not_or.mp correlated
          -- the id is there, and it is the one that was asked for
          cases found : resp.envelope.correlationId with
          | none => exact absurd (by simp [found]) present
          | some id =>
            rw [found] at same
            exact congrArg some (not_not.mp same)
        next refused => exact absurd accepted refused

omit [EnvelopeWire] in
theorem mapCallResultToOutcome_accepted {result : CallResult} :
    mapCallResultToOutcome result = .Accepted ↔ result.success = true := by
  unfold mapCallResultToOutcome
  constructor
  · intro accepted
    by_contra failed
    rw [if_neg failed] at accepted
    repeat' (split at accepted; next => cases accepted)
    cases accepted
  · intro success
    rw [if_pos success]

/-- Only a successful call within its timeout is accepted. -/
theorem concludeExchange_accepted {answer : Option CallResult}
    (accepted : (concludeExchange cfg framework messageId received answer).outcome = .Accepted) :
    ∃ result resp, answer = some result ∧ result.success = true ∧
      decodeWire result.response = some resp ∧ Replies cfg messageId received resp ∧
      concludeExchange cfg framework messageId received answer =
        { outcome := .Accepted, value := resp } := by
  cases answer with
  | none => cases accepted
  | some result =>
    simp only [concludeExchange] at accepted
    -- the framework reports success
    split at accepted
    next success =>
      obtain ⟨resp, decoded, replies⟩ := replies_of_accepted accepted
      refine ⟨result, resp, rfl, success, decoded, replies, ?_⟩
      rw [concludeExchange, if_pos success, acceptReply_of decoded replies]
    -- it reports an error, and none of them is mapped to acceptance
    next failed =>
      split at accepted
      next => cases accepted
      next => exact absurd (mapCallResultToOutcome_accepted.mp accepted) failed

/-! ### The table -/

/-- The exchange of a request either does not get to the table, or leaves it without the expired
entries. -/
theorem exchange_of_not_attempts (kind : msg.envelope.messageKind = .request)
    (refused : ¬Attempts t msg clock) :
    (exchange framework clock msg opts t).2 = t ∧
      (exchange framework clock msg opts t).1.outcome ≠ .Accepted := by
  unfold exchange
  dsimp only
  split
  next => exact ⟨rfl, nofun⟩
  next running =>
    rw [if_neg (not_not.mpr kind)]
    split
    next => exact ⟨rfl, nofun⟩
    next named =>
      split
      -- everything was passed, contrary to the assumption
      next valid =>
        exact absurd ⟨by simpa using running, by simpa using named,
          (validateOutboundEnvelope_iff.mp valid).2.2⟩ refused
      next invalid => exact ⟨rfl, invalid⟩

/-- A request that passes the checks before its reservation comes to the table. -/
theorem exchange_of_attempts (kind : msg.envelope.messageKind = .request)
    (attempts : Attempts t msg clock) :
    exchange framework clock msg opts t =
      match reserveInflight t.cfg.maxInFlight msg.envelope.messageId
          (clock.reserved + exchangeTimeout opts t.cfg) clock.evicted t.inflight with
      | (false, table) => ({ outcome := .Rejected }, { t with inflight := table })
      | (true, table) =>
        let released := { t with inflight := releaseInflight msg.envelope.messageId table }
        if (encodeWire msg).length > t.cfg.maxEnvelopeBytes then
          ({ outcome := .PayloadTooLarge }, released)
        else
          (concludeExchange t.cfg framework msg.envelope.messageId clock.received
            (framework.callAsync (encodeWire msg) (exchangeTimeout opts t.cfg)), released) := by
  have valid := validateOutboundEnvelope_iff.mpr ⟨.inl kind, attempts.named, attempts.valid⟩
  unfold exchange
  dsimp only
  generalize reserveInflight _ _ _ _ _ = reserved
  obtain ⟨_ | _, table⟩ := reserved
  all_goals rw [if_neg (by simp [attempts.running]), if_neg (not_not.mpr kind),
    if_neg (by simpa using attempts.named), valid]

omit [EnvelopeWire] in
/-- A reservation that is released leaves nothing but its eviction. -/
theorem releaseInflight_reserved {maxInFlight : Nat} {deadlineMs now : Int64} {table : Inflight}
    (room : Room maxInFlight messageId now table) :
    (releaseInflight messageId
      (reserveInflight maxInFlight messageId deadlineMs now table).2).entries =
      (evictExpiredInflight now table).entries := by
  show (List.filter _ (reserveInflight _ _ _ _ _).2.entries) = _
  rw [reserveInflight_entries, if_pos (reserveInflight_iff.mpr room)]
  rw [List.filter_cons_of_neg (by simp)]
  refine List.filter_eq_self.mpr fun entry member => ?_
  have apart : entry.1 ≠ messageId := by
    rintro rfl
    exact room.free (List.mem_map_of_mem member)
  simpa using apart

/-- Whether or not it gets its reservation, the table loses the expired entries only. -/
theorem exchange_entries (kind : msg.envelope.messageKind = .request)
    (attempts : Attempts t msg clock) :
    (exchange framework clock msg opts t).2.inflight.entries =
      (evictExpiredInflight clock.evicted t.inflight).entries := by
  rw [exchange_of_attempts kind attempts]
  have iff := @reserveInflight_iff t.cfg.maxInFlight msg.envelope.messageId
    (clock.reserved + exchangeTimeout opts t.cfg) clock.evicted t.inflight
  have entries := @reserveInflight_entries t.cfg.maxInFlight msg.envelope.messageId
    (clock.reserved + exchangeTimeout opts t.cfg) clock.evicted t.inflight
  have released := @releaseInflight_reserved msg.envelope.messageId t.cfg.maxInFlight
    (clock.reserved + exchangeTimeout opts t.cfg) clock.evicted t.inflight
  generalize reserveInflight _ _ _ _ _ = result at iff entries released ⊢
  obtain ⟨reserved, table⟩ := result
  cases reserved with
  | false => exact entries
  | true =>
    dsimp only
    -- reserved, and released on both ways out
    split
    next => exact released (iff.mp rfl)
    next => exact released (iff.mp rfl)

/-- An exchange that is accepted was sent and answered. -/
theorem exchange_accepted (kind : msg.envelope.messageKind = .request)
    (accepted : (exchange framework clock msg opts t).1.outcome = .Accepted) :
    Sends t msg clock ∧ ∃ result resp,
      framework.callAsync (encodeWire msg) (exchangeTimeout opts t.cfg) = some result ∧
      result.success = true ∧ decodeWire result.response = some resp ∧
      Replies t.cfg msg.envelope.messageId clock.received resp ∧
      (exchange framework clock msg opts t).1 = { outcome := .Accepted, value := resp } := by
  by_cases attempts : Attempts t msg clock
  · rw [exchange_of_attempts kind attempts] at accepted ⊢
    have iff := @reserveInflight_iff t.cfg.maxInFlight msg.envelope.messageId
      (clock.reserved + exchangeTimeout opts t.cfg) clock.evicted t.inflight
    generalize reserveInflight _ _ _ _ _ = result at iff accepted ⊢
    obtain ⟨reserved, table⟩ := result
    -- no reservation, or too long: not accepted
    cases reserved with
    | false => cases accepted
    | true =>
      dsimp only at accepted ⊢
      split at accepted
      next => cases accepted
      next short =>
        rw [if_neg short]
        exact ⟨⟨attempts, iff.mp rfl, Nat.not_lt.mp short⟩, concludeExchange_accepted accepted⟩
  · exact absurd accepted (exchange_of_not_attempts kind attempts).2

/-- A request that is sent and answered so is accepted with its reply. -/
theorem exchange_of_replies (opts : ExchangeOptions) (kind : msg.envelope.messageKind = .request)
    (sends : Sends t msg clock) {result : CallResult} {resp : VehicleMessage}
    (answered : framework.callAsync (encodeWire msg) (exchangeTimeout opts t.cfg) = some result)
    (success : result.success = true) (decoded : decodeWire result.response = some resp)
    (replies : Replies t.cfg msg.envelope.messageId clock.received resp) :
    (exchange framework clock msg opts t).1 = { outcome := .Accepted, value := resp } := by
  rw [exchange_of_attempts kind sends.toAttempts]
  have reserved :
      (reserveInflight _ _ (clock.reserved + exchangeTimeout opts t.cfg) _ _).1 = true :=
    reserveInflight_iff.mpr sends.room
  generalize reserveInflight _ _ _ _ _ = pair at reserved ⊢
  obtain ⟨flag, table⟩ := pair
  cases reserved
  dsimp only
  rw [if_neg (Nat.not_lt.mpr sends.short), answered, concludeExchange, if_pos success,
    acceptReply_of decoded replies]

end Exchange

/-! ### Main result -/

section Call

variable [EnvelopeWire] {Request Response : Type}

/-- The message of a call is sent, and the framework brings an answer with this value in time. -/
structure Accepted (framework : Framework) (clock : Clock) (maxResponseBytes : Nat)
    (call : CallType Request Response) (request : Request) (ctx : CallContext)
    (t : SomeIpVehicleMessageTransport) (value : Response) : Prop where
  sends : Sends t (requestMessage call request ctx clock) clock
  answered : ∃ result resp,
    framework.callAsync (encodeWire (requestMessage call request ctx clock))
      (exchangeTimeout (makeOptions ctx maxResponseBytes) t.cfg) = some result ∧
    result.success = true ∧ decodeWire result.response = some resp ∧
    Answers t.cfg clock ctx.requestId call.respType call.parse resp value

variable {framework : Framework} {clock : Clock} {maxResponseBytes : Nat}
  {call : CallType Request Response} {request : Request} {ctx : CallContext}
  {t : SomeIpVehicleMessageTransport} {value : Response}

theorem exchangeCall_table :
    (exchangeCall framework clock maxResponseBytes call request ctx t).2 =
      (exchange framework clock (requestMessage call request ctx clock)
        (makeOptions ctx maxResponseBytes) t).2 := by
  unfold exchangeCall
  dsimp only
  split
  next => rfl
  next => split <;> rfl

/-- A call returns what its exchange brings, where that decodes. -/
theorem exchangeCall_ok :
    (exchangeCall framework clock maxResponseBytes call request ctx t).1 = .ok value ↔
      (exchange framework clock (requestMessage call request ctx clock)
        (makeOptions ctx maxResponseBytes) t).1.outcome = .Accepted ∧
      decodeResponse call.parse call.respType
        (exchange framework clock (requestMessage call request ctx clock)
          (makeOptions ctx maxResponseBytes) t).1.value ctx.requestId clock.decoded =
            .ok value := by
  unfold exchangeCall
  dsimp only
  generalize exchange framework clock _ _ t = result
  split
  next refused => exact ⟨nofun, fun both => absurd both.1 refused⟩
  next accepted =>
    have id : (identityFrom ctx).messageId = ctx.requestId := rfl
    rw [id]
    cases decodeResponse call.parse call.respType result.1.value ctx.requestId clock.decoded with
    | error error => exact ⟨nofun, fun both => nomatch both.2⟩
    | ok other => simpa using fun _ => not_not.mp accepted

/-- A call returns a value exactly if it is accepted with it. -/
theorem exchangeCall_accepted_iff :
    (exchangeCall framework clock maxResponseBytes call request ctx t).1 = .ok value ↔
      Accepted framework clock maxResponseBytes call request ctx t value := by
  rw [exchangeCall_ok]
  constructor
  -- from the layers to the conditions
  · rintro ⟨accepted, decoded⟩
    obtain ⟨sends, result, resp, answered, success, wire, replies, whole⟩ :=
      exchange_accepted rfl accepted
    rw [whole] at decoded
    have carries := decode_iff.mp decoded
    exact ⟨sends, result, resp, answered, success, wire, replies, carries.payloadType,
      carries.current, carries.payload, carries.parsed⟩
  -- and back
  · rintro ⟨sends, result, resp, answered, success, wire, answers⟩
    have kind : (requestMessage call request ctx clock).envelope.messageKind = .request := rfl
    have whole := exchange_of_replies (makeOptions ctx maxResponseBytes) kind sends answered
      success wire answers.toReplies
    rw [whole]
    refine ⟨rfl, decode_iff.mpr ?_⟩
    exact
      { service := answers.valid.service
        kind := answers.kind
        payloadType := answers.payloadType
        protocolVersion := answers.valid.protocolVersion
        correlation := fun _ => by simp [answers.correlation]
        current := answers.current
        payload := answers.payload
        parsed := answers.parsed }

/-- A call returns a value exactly if it is accepted with it, and throws if it is accepted with
none. The table afterwards is the one before, or what is left of it after the expired entries; so
the entry of the call is not in it. -/
theorem exchangeCall_accepts_iff (framework : Framework) (clock : Clock) (maxResponseBytes : Nat)
    (call : CallType Request Response) (request : Request) (ctx : CallContext)
    (t : SomeIpVehicleMessageTransport) :
    let msg := requestMessage call request ctx clock
    let after := exchangeCall framework clock maxResponseBytes call request ctx t
    (∀ value, after.1 = .ok value ↔
      Accepted framework clock maxResponseBytes call request ctx t value) ∧
    ((∃ e, after.1 = .error e) ↔
      ∀ value, ¬Accepted framework clock maxResponseBytes call request ctx t value) ∧
    (¬Attempts t msg clock → after.2 = t) ∧
    (Attempts t msg clock →
      after.2.inflight.entries = (evictExpiredInflight clock.evicted t.inflight).entries) ∧
    (Attempts t msg clock → Room t.cfg.maxInFlight ctx.requestId clock.evicted t.inflight →
      ctx.requestId ∉ after.2.inflight.entries.map Prod.fst) := by
  intro msg after
  have table : after.2 = _ := exchangeCall_table
  refine ⟨fun value => exchangeCall_accepted_iff, ?_, ?_, ?_, ?_⟩
  -- it throws exactly if it returns nothing
  · constructor
    · rintro ⟨e, thrown⟩ value accepted
      have returned : after.1 = .ok value := exchangeCall_accepted_iff.mpr accepted
      rw [thrown] at returned
      cases returned
    · intro none
      cases result : after.1 with
      | error e => exact ⟨e, rfl⟩
      | ok value => exact absurd (exchangeCall_accepted_iff.mp result) (none value)
  -- no attempt: the table is untouched
  · intro refused
    rw [table]
    exact (exchange_of_not_attempts rfl refused).1
  -- an attempt: the table is evicted, whether or not there was room
  · intro attempts
    rw [table]
    exact exchange_entries rfl attempts
  · intro attempts room
    rw [table, exchange_entries rfl attempts]
    exact room.free

end Call

section Example

/-- A wire on which every request looks the same and one reply is understood. -/
@[reducible] def oneReplyWire : EnvelopeWire where
  serialize _ := [1]
  parse bytes :=
    if bytes = [2] then
      some
        { messageKind := .response
          service := payload_type.kService
          protocolVersion := payload_type.kProtocolVersion
          correlationId := some "req-1"
          payloadType := "Answer"
          payload := [7] }
    else none

/-- The framework answers the request in time. -/
def prompt : Framework where
  callAsync wire _ := if wire = [1] then some { success := true, response := [2] } else none
  availability := .Available

def askForByte : CallType Unit UInt8 where
  reqType := "Question"
  respType := "Answer"
  serialize _ := some [3]
  parse bytes := bytes.head?

/-- The table holds a call that has expired and one that is still under way. -/
def busy : SomeIpVehicleMessageTransport where
  cfg := {}
  stopping := false
  inflight :=
    { entries := [("late", ⟨5, 1⟩), ("other", ⟨50, 2⟩)]
      inflightSeq := 2
      distinct := by decide }

def ten : Clock := ⟨10, 10, 10, 10, 10, 10, 10⟩

theorem accepted_prompt :
    @Accepted oneReplyWire Unit UInt8 prompt ten 0 askForByte () { requestId := "req-1" } busy
      7 := by
  let := oneReplyWire
  have valid : Valid (requestMessage askForByte () { requestId := "req-1" } ten).envelope 1
      busy.cfg.maxPayloadBytes ten.sent :=
    ⟨rfl, rfl, by decide, by decide⟩
  constructor
  · exact ⟨⟨rfl, by decide, valid⟩, ⟨by decide, by decide⟩, by decide⟩
  · refine ⟨{ success := true, response := [2] }, _, rfl, rfl, rfl, ?_⟩
    exact ⟨⟨rfl, rfl, ⟨rfl, rfl, by decide, by decide⟩⟩, rfl, by decide, by decide, rfl⟩

/-- A call that is answered returns the value, and only the expired entry has left the table. -/
theorem exchangeCall_accepts_prompt :
    letI := oneReplyWire
    let after := exchangeCall prompt ten 0 askForByte () { requestId := "req-1" } busy
    after.1 = .ok 7 ∧ after.2.inflight.entries = [("other", ⟨50, 2⟩)] := by
  let := oneReplyWire
  obtain ⟨returns, -, -, evicted, -⟩ :=
    exchangeCall_accepts_iff prompt ten 0 askForByte () { requestId := "req-1" } busy
  refine ⟨(returns 7).mpr accepted_prompt, (evicted accepted_prompt.sends.toAttempts).trans ?_⟩
  decide

end Example

end CgwFota.Transport
