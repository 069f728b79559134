import CgwFota.Daemon.Invariants

/-!
# From the downlink to the orchestrator

Every message that a worker takes out of the queue is handed to the handler of the daemon once, and
a command in it to the orchestrator, but for what comes on the way in and out, when nobody is
subscribed.

## Main definitions

* `FotaDaemon.met`: the messages a worker has called its handlers for, and those that were for
  nobody.
* `Caller.unheard`: where the workers run and the handler is not subscribed.
* `Heard`: the invariant, an account of the messages from the queue to the handler.

## Main result

* `commands_once`: in every interleaving, each message is handed over at most once, and by `stop`
  all of them are accounted for.

## Proof strategy

Between the look-up of the handlers and the end of the dispatch a worker holds its message, so what
is met is what is dispatched and what the workers are through with. Steps of the caller and the
timer leave the hands alone and go by `Heard.frame`; the look-up, the call and the dispatch change
one worker each, and have a lemma each.
-/
namespace CgwFota.Daemon

open Interleaving Transport

/-- The messages that a worker has called its handlers for, and those that were for nobody. -/
def FotaDaemon.met (s : FotaDaemon) : List Offer :=
  s.handled.map Prod.fst ++ s.unheard.map Prod.fst

/-- Where the workers run and the handler is not subscribed. -/
def Caller.unheard : List Caller := [.subscribing, .refusingCalls, .drainingQueue, .joiningWorkers]

section

variable {parse : Inventory.Bytes → Option ControlCommand} {cfg : SomeIpTransportConfig}
  {s s' : FotaDaemon} {i j : Nat} {o : Offer}

/-! ### Hands -/

theorem hand_mem (hand : s.inHand i = some o) : o ∈ s.downlink.hands := by
  obtain ⟨w, here, holds⟩ := Option.bind_eq_some_iff.mp hand
  exact List.mem_filterMap.mpr ⟨w, List.mem_of_getElem? here, holds⟩

/-- No two workers have one message. -/
theorem hand_unique (accounted : s.downlink.Accounted cfg) (hand : s.inHand i = some o)
    (other : s.inHand j = some o) : i = j := by
  -- the hands hold no message twice, so two places in the list are one
  have once : s.downlink.hands.Nodup :=
    (List.nodup_append.mp (List.nodup_append.mp accounted.nodup).1).2.1
  have apart := List.pairwise_iff_getElem.mp (List.pairwise_filterMap.mp once)
  obtain ⟨w, here, holds⟩ := Option.bind_eq_some_iff.mp hand
  obtain ⟨w', there, holds'⟩ := Option.bind_eq_some_iff.mp other
  obtain ⟨bound, rfl⟩ := List.getElem?_eq_some_iff.mp here
  obtain ⟨bound', rfl⟩ := List.getElem?_eq_some_iff.mp there
  rcases Nat.lt_trichotomy i j with less | same | more
  · exact absurd rfl (apart i j bound bound' less o holds o holds')
  · exact same
  · exact absurd rfl (apart j i bound' bound more o holds' o holds)

theorem hand_undispatched (accounted : s.downlink.Accounted cfg) (hand : s.inHand i = some o) :
    o ∉ s.downlink.dispatched := by
  intro done
  have once := (List.nodup_append.mp accounted.nodup).1
  exact (List.nodup_append.mp once).2.2 o done o (hand_mem hand) rfl

/-! ### Subscriptions -/

theorem registered_cancel {subs next : Subscriptions Handle Unit} {h : Handle}
    (cancelled : subs.cancel h = some next) : next.registered = subs.registered := by
  obtain ⟨held, -, rfl⟩ := Option.map_eq_some_iff.mp cancelled
  cases held <;> rfl

theorem registered_assign {subs next : Subscriptions Handle Unit} {h other : Handle}
    (assigned : subs.assign h other = some next) : next.registered = subs.registered := by
  unfold Subscriptions.assign at assigned
  split at assigned
  next =>
    obtain ⟨_, -, rfl⟩ := Option.map_eq_some_iff.mp assigned
    rfl
  next =>
    obtain ⟨mid, cancelled, moved⟩ := Option.bind_eq_some_iff.mp assigned
    obtain ⟨_, -, rfl⟩ := Option.map_eq_some_iff.mp moved
    show mid.registered = subs.registered
    exact registered_cancel cancelled

/-! ### The account -/

/-- A worker has called every handler there is for its message. -/
def FotaDaemon.Through (s : FotaDaemon) (o : Offer) : Prop :=
  ∃ i, s.inHand i = some o ∧ s.targets i = some []

/-- What a worker is done with has been handed over or was for nobody, and once. -/
structure Heard (parse : Inventory.Bytes → Option ControlCommand) (cfg : SomeIpTransportConfig)
    (s : FotaDaemon) : Prop where
  busy : ∀ i, s.inHand i = none → s.targets i = none
  few : ∀ i slots, s.targets i = some slots → slots.length ≤ 1
  met : ∀ o, o ∈ s.met ↔ o ∈ s.downlink.dispatched ∨ s.Through o
  once : s.met.Nodup
  decoded : ∀ e ∈ s.handled, ∃ now,
    e.2 = decodeDownlink parse payload_type.kControlCommand e.1.msg now
  late : ∀ e ∈ s.unheard, e.2 ∈ Caller.unheard
  pending : ∀ msg ∈ s.downlink.pending, msg.envelope.service = payload_type.kService
  offered : ∀ o ∈ s.downlink.offered, o.msg.envelope.service = payload_type.kService
  registered : ∀ e ∈ s.subscriptions.registered, e = ⟨payload_type.kService, some ()⟩
  ordered : cfg.downlinkWorkers = 1 →
    (s.handled.map Prod.fst).Sublist s.downlink.dispatched ∨
      ∃ o, s.inHand 0 = some o ∧ s.targets 0 = some [] ∧
        (s.handled.map Prod.fst).Sublist (s.downlink.dispatched ++ [o])

/-- The workers that have looked the handlers up keep their messages, and nothing is handed over. -/
structure SameHands (s s' : FotaDaemon) : Prop where
  hands : ∀ i, s.targets i ≠ none → s'.inHand i = s.inHand i
  targets : s'.targets = s.targets
  handled : s'.handled = s.handled
  unheard : s'.unheard = s.unheard
  dispatched : s'.downlink.dispatched = s.downlink.dispatched

theorem Heard.frame (heard : Heard parse cfg s) (same : SameHands s s')
    (pending : ∀ msg ∈ s'.downlink.pending, msg.envelope.service = payload_type.kService)
    (offered : ∀ o ∈ s'.downlink.offered, o.msg.envelope.service = payload_type.kService)
    (registered : ∀ e ∈ s'.subscriptions.registered, e = ⟨payload_type.kService, some ()⟩) :
    Heard parse cfg s' := by
  obtain ⟨hands, targets, handled, unheard, dispatched⟩ := same
  have met : s'.met = s.met := by simp only [FotaDaemon.met, handled, unheard]
  -- a worker that looked the handlers up has the same message before and after
  have through : ∀ i o, s'.inHand i = some o ∧ s.targets i = some [] ↔
      s.inHand i = some o ∧ s.targets i = some [] := by
    intro i o
    by_cases due : s.targets i = some []
    · rw [hands i (by simp [due])]
    · simp [due]
  -- what the step left alone is carried over field by field
  constructor
  case pending | offered | registered => assumption
  case busy =>
    intro i idle
    rw [targets]
    by_contra due
    exact due (heard.busy i ((hands i due).symm.trans idle))
  case few => exact targets ▸ heard.few
  case met =>
    intro o
    simp only [FotaDaemon.Through, met, dispatched, targets, through]
    exact heard.met o
  case once => exact met ▸ heard.once
  case decoded => exact handled ▸ heard.decoded
  case late => exact unheard ▸ heard.late
  case ordered =>
    intro one
    rw [handled, dispatched, targets]
    refine (heard.ordered one).imp_right ?_
    rintro ⟨o, hand, due, before⟩
    exact ⟨o, ((through 0 o).mpr ⟨hand, due⟩).1, due, before⟩

end

section Steps

variable [EnvelopeWire] {parse : Inventory.Bytes → Option ControlCommand}
  {cfg : SomeIpTransportConfig} {businessTrigger : Bool} {s s' : FotaDaemon} {i : Nat}

/-! ### The caller and the timer -/

/-- The caller starts workers where there are none, and ends them when all have left. -/
theorem hands_lifecycle {d d' : Downlink} {a : DownlinkAction} (manned : d.Manned cfg)
    (lifecycle : ¬Quiet a) (stepped : d.step cfg a = some d') :
    (∀ i : Nat, (d'.workers[i]?).bind Worker.hand = (d.workers[i]?).bind Worker.hand) ∧
      d'.dispatched = d.dispatched ∧ d'.pending = d.pending ∧ d'.offered = d.offered := by
  cases a with
  -- the steps of callbacks and workers are not the caller's
  | receive | enqueue | dequeue | dispatch | exit => exact absurd trivial lifecycle
  | refuse | drain | finish =>
    obtain ⟨-, rfl⟩ := of_guarded stepped
    exact ⟨fun _ => rfl, rfl, rfl, rfl⟩
  -- there were no workers, and the new ones have nothing in hand
  | start =>
    obtain ⟨ended, rfl⟩ := of_guarded stepped
    refine ⟨fun i => ?_, rfl, rfl, rfl⟩
    rw [manned.idle (by tauto), List.getElem?_replicate]
    split <;> rfl
  -- the workers that go have left already
  | join =>
    obtain ⟨⟨-, all⟩, rfl⟩ := of_guarded stepped
    refine ⟨fun i => ?_, rfl, rfl, rfl⟩
    cases here : d.workers[i]? with
    | none => rfl
    | some w =>
      rw [all w (List.mem_of_getElem? here)]
      rfl

/-- A step of the caller keeps the account. -/
theorem Heard.advance (heard : Heard parse cfg s) (kept : Kept cfg s)
    (moved : s.advance cfg businessTrigger = some s') : Heard parse cfg s' := by
  unfold FotaDaemon.advance at moved
  cases place : s.caller with
  | idle =>
    rw [place] at moved
    cases moved
  -- these places work on the transport
  | openingTransport | refusingCalls | drainingQueue | joiningWorkers | releasing =>
    simp only [place] at moved
    obtain ⟨d, stepped, rfl⟩ := moveDownlink_cases moved
    obtain ⟨hands, dispatched, pending, offered⟩ :=
      hands_lifecycle kept.sound.manned (by simp [Quiet]) stepped
    exact heard.frame ⟨fun i _ => hands i, rfl, rfl, rfl, dispatched⟩ (pending ▸ heard.pending)
      (offered ▸ heard.offered) heard.registered
  -- here nothing of the account is touched
  | clearingStop | reconciling | stepping | spawningTimer | unlockingTimer
  | settingStop | leavingLock | notifying | flushing | clearingRunning =>
    simp only [place] at moved
    cases moved
    exact heard.frame ⟨fun _ _ => rfl, rfl, rfl, rfl, rfl⟩ heard.pending heard.offered
      heard.registered
  | lockingTimer | passingLock | replacingTimer | joiningTimer =>
    simp only [place] at moved
    obtain ⟨-, rfl⟩ := of_guarded moved
    exact heard.frame ⟨fun _ _ => rfl, rfl, rfl, rfl, rfl⟩ heard.pending heard.offered
      heard.registered
  -- a subscription is added, and it is that of the daemon
  | subscribing =>
    simp only [place] at moved
    cases moved
    refine heard.frame ⟨fun _ _ => rfl, rfl, rfl, rfl, rfl⟩ heard.pending heard.offered ?_
    intro e member
    rcases List.mem_append.mp member with old | new
    · exact heard.registered e old
    · exact List.mem_singleton.mp new
  -- an assignment moves the handle and destroys the one it came from
  | assigning =>
    simp only [place] at moved
    obtain ⟨subs, swapped, rfl⟩ := Option.map_eq_some_iff.mp moved
    obtain ⟨mid, assigned, destroyed⟩ := Option.bind_eq_some_iff.mp swapped
    obtain ⟨last, cancelled, rfl⟩ := Option.map_eq_some_iff.mp destroyed
    refine heard.frame ⟨fun _ _ => rfl, rfl, rfl, rfl, rfl⟩ heard.pending heard.offered ?_
    show ∀ e ∈ last.registered, _
    rw [registered_cancel cancelled, registered_assign assigned]
    exact heard.registered
  | cancelling =>
    simp only [place] at moved
    obtain ⟨subs, cancelled, rfl⟩ := Option.map_eq_some_iff.mp moved
    refine heard.frame ⟨fun _ _ => rfl, rfl, rfl, rfl, rfl⟩ heard.pending heard.offered ?_
    show ∀ e ∈ subs.registered, _
    rw [registered_cancel cancelled]
    exact heard.registered

/-! ### The transport's threads -/

/-- A message that the callback lets through is for this service. -/
theorem service_of_checkDownlink {view : Inventory.Bytes} {now : Int64} {msg : VehicleMessage}
    (checked : checkDownlink cfg view now = some msg) :
    msg.envelope.service = payload_type.kService := by
  unfold checkDownlink at checked
  split at checked
  next => cases checked
  next =>
    split at checked
    next => cases checked
    next =>
      split at checked
      next => cases checked
      next =>
        obtain ⟨valid, same⟩ := Option.ite_none_left_eq_some.mp checked
        cases same
        exact (validateInboundEnvelope_iff.mp (not_not.mp valid)).service

omit [EnvelopeWire] in
/-- A worker with a message works while the transport runs or stops. -/
theorem Kept.phase_of_hand {o : Offer} (kept : Kept cfg s) (hand : s.inHand i = some o) :
    s.downlink.phase = .running ∨ s.downlink.phase = .refusing ∨ s.downlink.phase = .draining := by
  have manned := kept.sound.manned.idle
  -- a worker has something in hand, so there are workers, and only three phases have any
  have there : s.downlink.workers ≠ [] := by
    intro nobody
    simp [FotaDaemon.inHand, nobody] at hand
  cases phase : s.downlink.phase with
  | created | joined | stopped => exact absurd (manned (by simp [phase])) there
  | running => exact .inl rfl
  | refusing => exact .inr (.inl rfl)
  | draining => exact .inr (.inr rfl)

omit [EnvelopeWire] in
/-- A message is for nobody only on the way in and out. -/
theorem Heard.unheard_at {o : Offer} (heard : Heard parse cfg s) (kept : Kept cfg s)
    (hand : s.inHand i = some o)
    (nobody : (s.subscriptions.dispatchToHandlers o.msg).map Prod.fst = []) :
    s.caller ∈ Caller.unheard := by
  -- what is in hand came through the queue, and only messages of this service do
  have accounted := kept.sound.accounted
  have service : o.msg.envelope.service = payload_type.kService := by
    apply heard.offered
    have enqueued : o ∈ s.downlink.enqueued := accounted.once.mem_iff.mpr
      (List.mem_append_left _ (List.mem_append_right _ (hand_mem hand)))
    exact accounted.split.mem_iff.mpr (List.mem_append_left _ enqueued)
  -- whoever held a slot would be called for it
  have none_held : ∀ slot, ¬s.subscriptions.Held slot := by
    intro slot held
    obtain ⟨bound, -⟩ := (kept.wired.owned.held slot).mp held
    obtain ⟨e, here⟩ : ∃ e, s.subscriptions.registered[slot]? = some e :=
      ⟨_, List.getElem?_eq_getElem bound⟩
    have same := heard.registered e (List.mem_of_getElem? here)
    have called := ((kept.wired.owned.delivers o.msg).exact slot ()).mpr
      ⟨e, here, by rw [same, service], by rw [same], held⟩
    simp [List.map_eq_nil_iff.mp nobody] at called
  have phase := kept.wired.phase
  obtain ⟨held, member, listens⟩ := kept.wired.member
  -- so nobody holds one, and the caller is at a place where that can be
  cases place : s.caller with
  | subscribing | refusingCalls | drainingQueue | joiningWorkers => simp [Caller.unheard]
  | assigning =>
    obtain ⟨slot, returned⟩ := kept.wired.assigned place
    exact absurd ⟨.returned, returned⟩ (none_held slot)
  | clearingStop | openingTransport | releasing | clearingRunning =>
    rcases kept.phase_of_hand hand with there | there | there <;>
      simp [there, place, Caller.phases] at phase
  | _ =>
    -- everywhere else the daemon would listen while its workers run
    have deaf : held = none := by
      cases held with
      | none => rfl
      | some slot => exact absurd ⟨.downlinkSub, member⟩ (none_held slot)
    rcases kept.phase_of_hand hand with there | there | there
    · have hears : s.Hears := ⟨there, by simp [place, Caller.deaf]⟩
      simp [deaf, hears] at listens
    · simp [there, place, Caller.phases] at phase
    · simp [there, place, Caller.phases] at phase

omit [EnvelopeWire] in
/-- A worker that has not looked the handlers up, or has one left to call, has not met its
message. -/
theorem Heard.unmet {o : Offer} (heard : Heard parse cfg s) (kept : Kept cfg s)
    (hand : s.inHand i = some o) (due : s.targets i ≠ some []) : o ∉ s.met := by
  intro member
  rcases (heard.met o).mp member with done | ⟨j, other, through⟩
  · exact hand_undispatched kept.sound.accounted hand done
  · rw [hand_unique kept.sound.accounted hand other] at due
    exact due through

omit [EnvelopeWire] in
/-- What one worker is through with, after its list has changed. -/
theorem through_set {o : Offer} (hand : s.inHand i = some o) (due : s.targets i ≠ some [])
    (hands : ∀ j, s'.inHand j = s.inHand j) {t : Option (List Nat)}
    (targets : ∀ j, s'.targets j = if j = i then t else s.targets j) (o' : Offer) :
    s'.Through o' ↔ s.Through o' ∨ o' = o ∧ t = some [] := by
  constructor
  · rintro ⟨j, holds, through⟩
    rw [hands] at holds
    rw [targets] at through
    split at through
    next same =>
      rw [same, hand] at holds
      exact .inr ⟨(Option.some.inj holds).symm, through⟩
    next => exact .inl ⟨j, holds, through⟩
  · rintro (⟨j, holds, through⟩ | ⟨rfl, through⟩)
    · refine ⟨j, (hands j).trans holds, ?_⟩
      rw [targets, if_neg]
      · exact through
      · rintro rfl
        exact due through
    · exact ⟨i, (hands i).trans hand, by rw [targets, if_pos rfl, through]⟩

omit [EnvelopeWire] in
/-- The only worker is the first one. -/
theorem Kept.only_hand {o : Offer} (kept : Kept cfg s) (one : cfg.downlinkWorkers = 1)
    (hand : s.inHand i = some o) : i = 0 := by
  obtain ⟨here, bound⟩ := inHand_some hand
  rw [kept.sound.manned.crew_of_worker here, one] at bound
  omega

omit [EnvelopeWire] in
/-- The look-up of the handlers keeps the account: with none to call, the message is for nobody. -/
theorem Heard.lookUp (heard : Heard parse cfg s) (kept : Kept cfg s)
    (moved : s.lookUp i = some s') : Heard parse cfg s' := by
  obtain ⟨o, slots, hand, fresh, found, rfl⟩ := lookUp_cases moved
  have new := heard.unmet kept hand (by simp [fresh])
  constructor
  case pending => exact heard.pending
  case offered => exact heard.offered
  case registered => exact heard.registered
  case decoded => exact heard.decoded
  case busy =>
    intro j idle
    show (if j = i then some slots else s.targets j) = none
    rw [if_neg]
    · exact heard.busy j idle
    · rintro rfl
      exact absurd (hand.symm.trans idle) (by simp)
  case few =>
    intro j
    show ∀ slots', (if j = i then some slots else s.targets j) = some slots' → _
    split
    next =>
      rintro _ ⟨⟩
      exact found ▸ kept.wired.slots_le o.msg
    next => exact heard.few j
  case met =>
    intro o'
    have through : FotaDaemon.Through { s with
        targets := fun w => if w = i then some slots else s.targets w
        unheard := s.unheard ++ if slots = [] then [(o, s.caller)] else [] } o' ↔
        s.Through o' ∨ o' = o ∧ some slots = some [] :=
      through_set hand (by simp [fresh]) (by intro j; rfl) (by intro j; rfl) o'
    rw [through]
    show o' ∈ s.handled.map Prod.fst ++ (s.unheard ++ _).map Prod.fst ↔
      o' ∈ s.downlink.dispatched ∨ _
    rw [List.map_append, ← List.append_assoc, List.mem_append, ← or_assoc, ← heard.met o']
    split
    next nobody => simp [FotaDaemon.met, nobody]
    next somebody => simp [FotaDaemon.met, somebody]
  case once =>
    show (s.handled.map Prod.fst ++ (s.unheard ++ _).map Prod.fst).Nodup
    rw [List.map_append, ← List.append_assoc, List.nodup_append]
    refine ⟨heard.once, by split <;> simp, ?_⟩
    split
    · rintro o₁ there o₂ here rfl
      rw [List.mem_singleton.mp here] at there
      exact new there
    · simp
  case late =>
    intro e member
    rcases List.mem_append.mp member with old | added
    · exact heard.late e old
    · split at added
      next nobody =>
        rw [List.mem_singleton.mp added]
        exact heard.unheard_at kept hand (found ▸ nobody)
      next => cases added
  case ordered =>
    intro one
    rcases heard.ordered one with before | ⟨o', -, through, -⟩
    · exact .inl before
    · -- The only worker has not looked anybody up yet.
      rw [← kept.only_hand one hand, fresh] at through
      cases through

omit [EnvelopeWire] in
/-- The call of the handler keeps the account, and the message is met with it. -/
theorem Heard.handle {now : Int64} (heard : Heard parse cfg s) (kept : Kept cfg s)
    (moved : s.handle parse i now = some s') : Heard parse cfg s' := by
  obtain ⟨o, slot, rest, hand, due, rfl⟩ := handle_cases moved
  -- there is one subscription at most, so this was the last handler
  have last : rest = [] := by
    have few := heard.few i _ due
    cases rest with
    | nil => rfl
    | cons slot' rest => simp at few
  subst last
  have new := heard.unmet kept hand (by simp [due])
  have met : FotaDaemon.met { s with
      targets := fun w => if w = i then some [] else s.targets w
      handled := s.handled ++ [(o, decodeDownlink parse payload_type.kControlCommand o.msg now)] } =
      s.handled.map Prod.fst ++ [o] ++ s.unheard.map Prod.fst := by simp [FotaDaemon.met]
  -- the new entry is the one message that was not met before
  have moved_out : List.Perm (s.handled.map Prod.fst ++ [o] ++ s.unheard.map Prod.fst)
      (o :: s.met) := by
    rw [List.append_assoc]
    exact List.perm_middle
  constructor
  case pending => exact heard.pending
  case offered => exact heard.offered
  case registered => exact heard.registered
  case late => exact heard.late
  case busy =>
    intro j idle
    show (if j = i then some [] else s.targets j) = none
    rw [if_neg]
    · exact heard.busy j idle
    · rintro rfl
      exact absurd (hand.symm.trans idle) (by simp)
  case few =>
    intro j
    show ∀ slots', (if j = i then some [] else s.targets j) = some slots' → _
    split
    next =>
      rintro _ ⟨⟩
      exact Nat.zero_le 1
    next => exact heard.few j
  case met =>
    intro o'
    have through : FotaDaemon.Through { s with
        targets := fun w => if w = i then some [] else s.targets w
        handled := s.handled ++
          [(o, decodeDownlink parse payload_type.kControlCommand o.msg now)] } o' ↔
        s.Through o' ∨ o' = o ∧ some [] = some [] :=
      through_set hand (by simp [due]) (by intro j; rfl) (by intro j; rfl) o'
    rw [met, through, moved_out.mem_iff, List.mem_cons, heard.met o']
    tauto
  case once =>
    rw [met, moved_out.nodup_iff]
    exact List.nodup_cons.mpr ⟨new, heard.once⟩
  case decoded =>
    intro e member
    rcases List.mem_append.mp member with old | added
    · exact heard.decoded e old
    · rw [List.mem_singleton.mp added]
      exact ⟨now, rfl⟩
  -- with one worker the order of the calls is that of the dispatches
  case ordered =>
    intro one
    have only := kept.only_hand one hand
    subst only
    rcases heard.ordered one with before | ⟨o', -, through, -⟩
    · refine .inr ⟨o, hand, by simp, ?_⟩
      show ((s.handled ++ _).map Prod.fst).Sublist _
      rw [List.map_append]
      exact before.append (.refl _)
    · rw [due] at through
      cases through

omit [EnvelopeWire] in
/-- A worker that is through with its message is free for the next one. -/
theorem Heard.dispatched {o : Offer} (heard : Heard parse cfg s) (kept : Kept cfg s)
    (here : s.downlink.workers[i]? = some (.dispatching o)) (due : s.targets i = some []) :
    Heard parse cfg { s with
      downlink := { s.downlink with
        dispatched := s.downlink.dispatched ++ [o]
        workers := s.downlink.workers.set i .waiting }
      targets := fun w => if w = i then none else s.targets w } := by
  have bound := (List.getElem?_eq_some_iff.mp here).1
  have hand : s.inHand i = some o := by simp [FotaDaemon.inHand, here, Worker.hand]
  have hands : ∀ j, FotaDaemon.inHand j { s with
      downlink := { s.downlink with
        dispatched := s.downlink.dispatched ++ [o]
        workers := s.downlink.workers.set i .waiting }
      targets := fun w => if w = i then none else s.targets w } =
        if j = i then none else s.inHand j := by
    intro j
    by_cases same : j = i
    · subst same
      simp [FotaDaemon.inHand, List.getElem?_set_self bound, Worker.hand]
    · simp [FotaDaemon.inHand, List.getElem?_set_ne (Ne.symm same), same]
  -- the worker has nothing in hand any more, and its message is dispatched
  constructor
  case few =>
    intro j
    show ∀ slots, (if j = i then none else s.targets j) = some slots → _
    split
    next =>
      intro slots impossible
      cases impossible
    next => exact heard.few j
  case busy =>
    intro j idle
    rw [hands] at idle
    show (if j = i then none else s.targets j) = none
    split at idle
    next same => rw [if_pos same]
    next apart => rw [if_neg apart, heard.busy j idle]
  case met =>
    intro o'
    show o' ∈ s.met ↔ o' ∈ s.downlink.dispatched ++ [o] ∨ _
    rw [heard.met o', List.mem_append, List.mem_singleton]
    unfold FotaDaemon.Through
    simp only [hands]
    constructor
    -- from the account before: done, or in some hand
    · rintro (done | ⟨j, holds, through⟩)
      · exact .inl (.inl done)
      · by_cases same : j = i
        · rw [same, hand] at holds
          exact .inl (.inr (Option.some.inj holds).symm)
        · exact .inr ⟨j, by rw [if_neg same, holds], by rw [if_neg same, through]⟩
    -- and back, where the hand of this worker is empty now
    · rintro ((done | rfl) | ⟨j, holds, through⟩)
      · exact .inl done
      · exact .inr ⟨i, hand, due⟩
      · split at holds
        next => cases holds
        next apart =>
          rw [if_neg apart] at through
          exact .inr ⟨j, holds, through⟩
  case once => exact heard.once
  case decoded => exact heard.decoded
  case late => exact heard.late
  case pending => exact heard.pending
  case offered => exact heard.offered
  case registered => exact heard.registered
  case ordered =>
    intro one
    left
    rcases heard.ordered one with before | ⟨o', first, -, before⟩
    · exact before.trans (List.sublist_append_left _ _)
    · rw [← kept.only_hand one hand, hand] at first
      cases first
      exact before

/-- A step of the transport's threads keeps the account. -/
theorem Heard.transport {a : DownlinkAction} (heard : Heard parse cfg s) (kept : Kept cfg s)
    (moved : s.transportStep cfg a = some s') : Heard parse cfg s' := by
  obtain ⟨quiet, d, stepped, ⟨other, rfl⟩ | ⟨i, rfl, due, rfl⟩⟩ := transportStep_cases moved
  -- these belong to the caller, or are treated apart
  · cases a with
    | start | refuse | drain | join | finish => exact quiet.elim
    | dispatch i => exact absurd rfl (other i)
    -- a callback: what it lets through is for this service
    | receive view now =>
      obtain ⟨-, rfl⟩ := of_guarded stepped
      unfold Downlink.receive
      split
      next => exact heard
      next =>
        refine heard.frame ⟨fun _ _ => rfl, rfl, rfl, rfl, rfl⟩ ?_ heard.offered heard.registered
        intro msg member
        rcases List.mem_append.mp member with old | new
        · exact heard.pending msg old
        · exact service_of_checkDownlink (Option.mem_toList.mp new)
    -- a message comes to the queue, or is refused, or pushes the oldest one out
    | enqueue callback =>
      obtain ⟨msg, there, rfl⟩ := Option.map_eq_some_iff.mp stepped
      have served := heard.pending msg (List.mem_of_getElem? there)
      have left : ∀ msg ∈ s.downlink.pending.eraseIdx callback,
          msg.envelope.service = payload_type.kService :=
        fun msg member => heard.pending msg (List.mem_of_mem_eraseIdx member)
      have more : ∀ n, ∀ o ∈ s.downlink.offered ++ [(⟨n, msg⟩ : Offer)],
          o.msg.envelope.service = payload_type.kService := by
        intro n o member
        rcases List.mem_append.mp member with old | new
        · exact heard.offered o old
        · rw [List.mem_singleton.mp new]
          exact served
      rcases Downlink.enqueue_cases cfg msg
        { s.downlink with pending := s.downlink.pending.eraseIdx callback } with
        ⟨-, same⟩ | ⟨-, -, same⟩ | ⟨-, -, same⟩
      · rw [same]
        exact heard.frame ⟨fun _ _ => rfl, rfl, rfl, rfl, rfl⟩ left heard.offered heard.registered
      · rw [same]
        exact heard.frame ⟨fun _ _ => rfl, rfl, rfl, rfl, rfl⟩ left (more _) heard.registered
      · rw [same]
        exact heard.frame ⟨fun _ _ => rfl, rfl, rfl, rfl, rfl⟩ left (more _) heard.registered
    -- a worker that waits has looked nobody up
    | dequeue i =>
      obtain ⟨o, rest, -, waits, rfl⟩ := Downlink.dequeue_cases stepped
      refine heard.frame ⟨fun j due => ?_, rfl, rfl, rfl, rfl⟩ heard.pending heard.offered
        heard.registered
      have apart : i ≠ j := by
        rintro rfl
        exact due (heard.busy i (by simp [FotaDaemon.inHand, waits, Worker.hand]))
      simp [FotaDaemon.inHand, List.getElem?_set_ne apart]
    | exit i =>
      obtain ⟨-, -, waits, rfl⟩ := Downlink.exit_cases stepped
      refine heard.frame ⟨fun j due => ?_, rfl, rfl, rfl, rfl⟩ heard.pending heard.offered
        heard.registered
      have apart : i ≠ j := by
        rintro rfl
        exact due (heard.busy i (by simp [FotaDaemon.inHand, waits, Worker.hand]))
      simp [FotaDaemon.inHand, List.getElem?_set_ne apart]
  -- a worker is done with its message
  · obtain ⟨o, here, rfl⟩ := Downlink.dispatch_cases stepped
    exact heard.dispatched kept here due

/-! ### Every step -/

omit [EnvelopeWire] in
theorem heard_created (parse : Inventory.Bytes → Option ControlCommand)
    (cfg : SomeIpTransportConfig) : Heard parse cfg {} := by
  constructor
  case met => simp [FotaDaemon.met, FotaDaemon.Through]
  case registered => exact fun e member => nomatch member
  all_goals simp [FotaDaemon.met]

/-- Every step keeps the account. -/
theorem Heard.step (heard : Heard parse cfg s) (kept : Kept cfg s) {a : DaemonAction}
    (moved : s.step cfg businessTrigger parse a = some s') : Heard parse cfg s' := by
  -- most steps touch neither the transport nor the subscriptions
  have still : SameHands s s' → s'.downlink = s.downlink → s'.subscriptions = s.subscriptions →
      Heard parse cfg s' := fun same downlink subscriptions =>
    heard.frame same (downlink ▸ heard.pending) (downlink ▸ heard.offered)
      (subscriptions ▸ heard.registered)
  cases a with
  | start =>
    obtain ⟨-, rfl⟩ := of_guarded moved
    unfold FotaDaemon.start at *
    split <;> exact heard.frame ⟨fun _ _ => rfl, rfl, rfl, rfl, rfl⟩ heard.pending heard.offered
      heard.registered
  | stop =>
    obtain ⟨-, rfl⟩ := of_guarded moved
    unfold FotaDaemon.stop at *
    split <;> exact heard.frame ⟨fun _ _ => rfl, rfl, rfl, rfl, rfl⟩ heard.pending heard.offered
      heard.registered
  | caller => exact heard.advance kept moved
  | threw =>
    obtain ⟨-, rfl⟩ := of_guarded moved
    exact still ⟨fun _ _ => rfl, rfl, rfl, rfl, rfl⟩ rfl rfl
  | timer =>
    obtain ⟨t, t', mutex, -, rfl, -⟩ := timerLoop_cases moved
    exact still ⟨fun _ _ => rfl, rfl, rfl, rfl, rfl⟩ rfl rfl
  | wake timedOut =>
    obtain ⟨-, rfl⟩ := of_guarded moved
    exact still ⟨fun _ _ => rfl, rfl, rfl, rfl, rfl⟩ rfl rfl
  | downlink a => exact heard.transport kept moved
  | lookUp worker => exact heard.lookUp kept moved
  | handle worker now => exact heard.handle kept moved

end Steps

/-! ### The daemon as a whole -/

variable [EnvelopeWire] {parse : Inventory.Bytes → Option ControlCommand}
  {cfg : SomeIpTransportConfig} {businessTrigger : Bool} {s : FotaDaemon}

/-- In every reachable state the account holds, and so do the invariants of the daemon. -/
theorem Heard.reach (some_worker : 1 ≤ cfg.downlinkWorkers)
    (reach : Reach (FotaDaemon.step cfg businessTrigger parse) (fun _ _ => True) {} s) :
    Kept cfg s ∧ Heard parse cfg s :=
  reach.invariant (P := fun s => Kept cfg s ∧ Heard parse cfg s)
    ⟨kept_created cfg, heard_created parse cfg⟩ fun _ _ _ both _ moved =>
      ⟨both.1.step some_worker moved, both.2.step both.1 moved⟩

/-- In every interleaving: a message that was taken into the queue is handed to the handler at most
once, and once it is dispatched it has been, unless nobody was subscribed, which is so only on the
way in and out. What the orchestrator is given are the commands in current events of this service,
with one worker in the order of coming. After `stop` every message is accounted for. -/
theorem commands_once (some_worker : 1 ≤ cfg.downlinkWorkers)
    (reach : Reach (FotaDaemon.step cfg businessTrigger parse) (fun _ _ => True) {} s) :
    s.met.Nodup ∧ (∀ o ∈ s.met, o ∈ s.downlink.enqueued) ∧
      (∀ o ∈ s.downlink.dispatched, o ∈ s.met) ∧
      (∀ e ∈ s.unheard, e.2 ∈ Caller.unheard) ∧
      (∀ e ∈ s.handled, ∃ now, ∀ cmd, e.2 = .ok cmd ↔
        Carries parse .event payload_type.kControlCommand "" now e.1.msg cmd) ∧
      (cfg.downlinkWorkers = 1 → (s.commands.map Prod.fst).Sublist s.downlink.enqueued) ∧
      (s.downlink.phase = .stopped → s.met.Perm s.downlink.enqueued) := by
  obtain ⟨kept, heard⟩ := Heard.reach some_worker reach
  have accounted := kept.sound.accounted
  -- what is met was dispatched or is in a hand, and both came through the queue
  have enqueued : ∀ o ∈ s.met, o ∈ s.downlink.enqueued := by
    intro o member
    apply accounted.once.mem_iff.mpr
    rcases (heard.met o).mp member with done | ⟨i, hand, -⟩
    · exact List.mem_append_left _ (List.mem_append_left _ done)
    · exact List.mem_append_left _ (List.mem_append_right _ (hand_mem hand))
  refine ⟨heard.once, enqueued, fun o done => (heard.met o).mpr (.inl done), heard.late, ?_, ?_, ?_⟩
  · intro e member
    obtain ⟨now, same⟩ := heard.decoded e member
    refine ⟨now, fun cmd => ?_⟩
    rw [same]
    exact decode_iff
  · intro one
    -- the commands are those entries of the account that decoded
    have commands : (s.commands.map Prod.fst).Sublist (s.handled.map Prod.fst) := by
      unfold FotaDaemon.commands
      induction s.handled with
      | nil => exact .slnil
      | cons e rest ih =>
        obtain ⟨o, error | cmd⟩ := e
        · exact ih.cons _
        · exact ih.cons_cons _
    refine commands.trans ?_
    rw [accounted.ordered one, List.append_assoc]
    -- what the one worker has met came before what it holds
    rcases heard.ordered one with before | ⟨o, hand, -, before⟩
    · exact before.trans (List.sublist_append_left _ _)
    · refine before.trans (.append (.refl _) ?_)
      exact List.singleton_sublist.mpr (List.mem_append_left _ (hand_mem hand))
  -- after `stop` no worker is left, so what is dispatched is all there was
  · intro stopped
    have nobody := kept.sound.manned.idle (.inr (.inr stopped))
    have dispatched := (kept.sound.stopped some_worker stopped).2
    have enqueued_once : s.downlink.dispatched.Nodup :=
      (List.nodup_append.mp (List.nodup_append.mp accounted.nodup).1).1
    refine .trans ((List.perm_ext_iff_of_nodup heard.once enqueued_once).mpr fun o => ?_) dispatched
    rw [heard.met o]
    refine or_iff_left ?_
    rintro ⟨i, hand, -⟩
    simp [FotaDaemon.inHand, nobody] at hand

/-! ### One command -/

def commandEvent : VehicleMessageEnvelope :=
  { Downlink.controlEvent with payloadType := payload_type.kControlCommand }

/-- The serialized event: fields 3, 9, 10, 13 and 14. -/
def commandEventBytes : Inventory.Bytes :=
  [0x1a, 7] ++ payload_type.kProtocolVersion.toUTF8.toList ++ [0x4a, 30] ++
    payload_type.kControlCommand.toUTF8.toList ++ [0x52, 1, 1, 0x68, 3, 0x72, 12] ++
      payload_type.kService.toUTF8.toList

/-- A wire that carries this event. -/
@[reducible] def commandWire : EnvelopeWire where
  serialize env := if env = commandEvent then commandEventBytes else []
  parse bytes := if bytes = commandEventBytes then some commandEvent else none

/-- A command comes, and `stop` while a worker has it in hand: it has looked the handler up before
the subscription is cancelled, and calls it after that. -/
def oneCommand : List DaemonAction :=
  .start :: List.replicate 6 .caller ++
    [.downlink (.receive commandEventBytes 0), .downlink (.enqueue 0), .downlink (.dequeue 0),
      .stop, .lookUp 0] ++ List.replicate 9 .caller ++
    [.handle 0 0, .downlink (.dispatch 0), .downlink (.exit 0)] ++ List.replicate 3 .caller

omit [EnvelopeWire] in
/-- One command is accounted for, although `stop` came while it was in hand. -/
theorem commands_once_stopped :
    ∃ s, Reach (@FotaDaemon.step commandWire {} false fun _ => some {}) (fun _ _ => True) {} s ∧
      s.commands.length = 1 ∧ s.met.Perm s.downlink.enqueued := by
  have ends : ((walk (@FotaDaemon.step commandWire {} false fun _ => some {}) {} oneCommand).any
      fun s => s.downlink.phase = .stopped ∧ s.commands.length = 1) = true := by decide +kernel
  obtain ⟨s, walked, holds⟩ := (Option.any_eq_true _ _).mp ends
  obtain ⟨stopped, one⟩ := of_decide_eq_true holds
  have reach : Reach (@FotaDaemon.step commandWire {} false fun _ => some {}) (fun _ _ => True)
      {} s := Reach.walk .start (fun _ _ _ => trivial) walked
  obtain ⟨-, -, -, -, -, -, account⟩ := @commands_once commandWire _ {} false s (by decide) reach
  exact ⟨s, reach, one, account stopped⟩

end CgwFota.Daemon
