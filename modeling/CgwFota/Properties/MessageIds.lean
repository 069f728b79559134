import CgwFota.Orchestrator.Keys
import CgwFota.Properties.Exchange
import CgwFota.Transport.CloudCalls

/-!
# When a late response is told from the awaited one

The id of a message is the key of its operation with a fixed beginning. So two messages have two ids
exactly if they are of two operations, and every retry of an operation reuses the id of the attempt
before it.

## Main definitions

* `operationKeys`: the keys of the cloud calls of a run.
* `LateProof`: no late response completes another call.

## Main results

* `late_proof_iff`: a run is late-proof exactly if no operation is called twice.
* `retry_reuses_id`: the second attempt to check for a task has the id of the first.

## Proof strategy

Every call of a run is made under a key of the fixed form, so the list of message ids is that of the
keys with a beginning put before each, and one has repetitions where the other has.
-/
namespace CgwFota.Transport

/-- The keys of the cloud calls of a run. -/
def operationKeys (trace : List Entry) : List String :=
  trace.filterMap fun a =>
    match a.event with
    | .called c => c.context.map (·.idempotencyKey)
    | _ => none

/-- No late response completes another call. -/
structure LateProof (sent : List VehicleMessage) : Prop where
  /-- No two messages have one id. -/
  distinct : (sent.map (·.envelope.messageId)).Nodup
  /-- The messages of one operation are told to be so. -/
  stable : ∀ m ∈ sent, ∀ m' ∈ sent, m.envelope.idempotencyKey = m'.envelope.idempotencyKey →
    m.envelope.requestId = m'.envelope.requestId
  /-- A response to one message is no response to another one. -/
  late : sent.Pairwise fun m m' => ∀ cfg cfg' received received' resp,
    Replies cfg m.envelope.messageId received resp →
      ¬Replies cfg' m'.envelope.messageId received' resp

variable {pb : Protobuf} {clock : Clock} {c : Call} {trace : List Entry}

/-- The identity of a call's message is that of its context. -/
theorem cloudMessage_eq_none : cloudMessage pb clock c = none ↔ c.context = none := by
  cases c <;> simp [cloudMessage, Call.context]

theorem cloudMessage_ids {m : VehicleMessage} (sent : cloudMessage pb clock c = some m) :
    ∃ ctx, c.context = some ctx ∧ m.envelope.messageId = ctx.requestId ∧
      m.envelope.requestId = ctx.requestId ∧
      m.envelope.idempotencyKey = unlessEmpty ctx.idempotencyKey := by
  cases c <;> cases sent <;> exact ⟨_, rfl, rfl, rfl, rfl⟩

/-- The ids of the messages of a run are its keys, with a beginning. -/
theorem messageIds_eq (clocks : Nat → Clock)
    (keyed : ∀ a ∈ trace, ∀ c, a.event = .called c → c.Keyed) :
    (messages pb clocks trace).map (·.envelope.messageId) =
      (operationKeys trace).map ("req-" ++ ·) := by
  unfold messages operationKeys
  rw [List.map_filterMap, List.map_filterMap]
  refine List.filterMap_congr fun a member => ?_
  cases event : a.event with
  -- a call goes to the cloud, or to a port of the vehicle
  | called c =>
    dsimp only
    cases sent : cloudMessage pb (clocks a.tick) c with
    | none => simp [cloudMessage_eq_none.mp sent]
    | some m =>
      obtain ⟨ctx, cloud, messageId, -, -⟩ := cloudMessage_ids sent
      obtain ⟨op, -, request, key⟩ := keyed a member c event ctx cloud
      simp [cloud, messageId, request, key]
  | _ => rfl

/-- A message in a run is that of a call under a key. -/
theorem message_keyed {clocks : Nat → Clock} {m : VehicleMessage}
    (keyed : ∀ a ∈ trace, ∀ c, a.event = .called c → c.Keyed)
    (member : m ∈ messages pb clocks trace) :
    ∃ op : CloudOperation, m.envelope.requestId = "req-" ++ op.key ∧
      m.envelope.idempotencyKey = some op.key := by
  obtain ⟨a, present, sent⟩ := List.mem_filterMap.mp member
  cases event : a.event with
  | called c =>
    rw [event] at sent
    obtain ⟨ctx, cloud, -, requestId, idempotencyKey⟩ := cloudMessage_ids sent
    obtain ⟨op, -, request, key⟩ := keyed a present c event ctx cloud
    refine ⟨op, requestId.trans request, ?_⟩
    rw [idempotencyKey, key, unlessEmpty, if_neg]
    cases op <;> simp [CloudOperation.key]
  | _ =>
    rw [event] at sent
    cases sent

/-- Late responses are told apart exactly if no key occurs twice. -/
theorem lateProof_iff_nodup (clocks : Nat → Clock)
    (keyed : ∀ a ∈ trace, ∀ c, a.event = .called c → c.Keyed) :
    LateProof (messages pb clocks trace) ↔ (operationKeys trace).Nodup := by
  have appended : ∀ k k' : String, "req-" ++ k = "req-" ++ k' → k = k' := by
    intro k k' same
    have chars := congrArg String.toList same
    rw [String.toList_append, String.toList_append] at chars
    exact String.toList_inj.mp (List.append_cancel_left chars)
  have ids : ((messages pb clocks trace).map (·.envelope.messageId)).Nodup ↔
      (operationKeys trace).Nodup := by
    rw [messageIds_eq clocks keyed]
    exact List.nodup_map_iff fun k k' same => appended k k' same
  constructor
  -- two messages of one key would have one id
  · intro proof
    exact ids.mp proof.distinct
  -- two messages of two keys have two ids, and no key is the id of another
  · intro once
    refine ⟨ids.mpr once, ?_, ?_⟩
    · intro m member m' member' same
      obtain ⟨op, request, key⟩ := message_keyed keyed member
      obtain ⟨op', request', key'⟩ := message_keyed keyed member'
      rw [key, key', Option.some.injEq] at same
      rw [request, request', same]
    · have distinct := ids.mpr once
      rw [List.nodup_iff_pairwise_ne, List.pairwise_map] at distinct
      refine distinct.imp fun {m m'} apart cfg cfg' received received' resp replies replies' => ?_
      exact apart (Option.some.inj (replies.correlation.symm.trans replies'.correlation))

/-! ### Main result -/

/-- In a run no response to one message completes the call of another one, exactly if no operation
is called twice. -/
theorem late_proof_iff (pb : Protobuf) (clocks : Nat → Clock) (env : Environment)
    (s : FotaCloudStateStore) (ops : List Operation) :
    LateProof (messages pb clocks (run env (boot s) ops).trace) ↔
      (operationKeys (run env (boot s) ops).trace).Nodup :=
  lateProof_iff_nodup clocks (run_keyed env s ops)

/-- The first call of the cloud is lost. -/
def losing : Environment :=
  { cooperative with
    reply := fun _ c =>
      match c with
      | .checkTask _ _ => .error { detail := "timeout" }
      | c => cooperativeReply c }

/-- The second attempt to check for a task has the message id of the first one. -/
theorem retry_reuses_id :
    ¬∀ (pb : Protobuf) (clocks : Nat → Clock) (env : Environment) (s : FotaCloudStateStore)
      (ops : List Operation), LateProof (messages pb clocks (run env (boot s) ops).trace) := by
  intro all
  have once := (lateProof_iff_nodup _ (run_keyed losing {} [.step, .step])).mp
    (all default default losing {} [.step, .step])
  exact absurd once (by decide +kernel)

end CgwFota.Transport
