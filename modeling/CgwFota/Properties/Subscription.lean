import CgwFota.Transport.Subscription
import Mathlib.Data.List.Nodup

/-!
# Who receives a message

However the handles are moved, assigned, cancelled and destroyed, a message reaches the handlers
whose subscription is held, each once.

## Main definitions

* `Owned`: every action that has not run is held by exactly one handle.
* `Untouched`: nothing happens to a subscription whose action does not run.
* `Delivers`: a message goes to the handlers that are held, to each of them once.

## Main result

* `subscriptions_deliver`: after any operations on handles.

## Proof strategy

The invariant ties three things together: the slots of the registry, the actions that have run and
the handles. A move passes an action on to a handle without one, so it keeps the owner unique; an
assignment cancels first.
-/
namespace CgwFota.Transport

open Interleaving

namespace Subscriptions

variable {Handle Handler : Type} [DecidableEq Handle] {s s' : Subscriptions Handle Handler}

/-- Every action that has not run is held by exactly one handle. -/
structure Owned (s : Subscriptions Handle Handler) : Prop where
  entries : ∀ slot, s.handlers[slot]? = s.registered[slot]?.map fun e =>
    if slot ∈ s.unsubscribed then { e with handler := none } else e
  held : ∀ slot, s.Held slot ↔ slot < s.registered.length ∧ slot ∉ s.unsubscribed
  unique : ∀ h h' slot, s.handles h = some (some slot) → s.handles h' = some (some slot) → h = h'
  once : s.unsubscribed.Nodup
  past : ∀ slot ∈ s.unsubscribed, slot < s.registered.length

/-- Nothing happens to a subscription whose action does not run. -/
def Untouched (s s' : Subscriptions Handle Handler) : Prop :=
  ∀ slot e, s.handlers[slot]? = some e →
    s'.handlers[slot]? = some e ∨ slot ∉ s.unsubscribed ∧ slot ∈ s'.unsubscribed

/-! ### Handles -/

@[simp] theorem handles_setHandle (h h' : Handle) (held : Option (Option Nat)) :
    (s.setHandle h held).handles h' = if h' = h then held else s.handles h' := rfl

@[simp] theorem handlers_setHandle (h : Handle) (held : Option (Option Nat)) :
    (s.setHandle h held).handlers = s.handlers := rfl

@[simp] theorem registered_setHandle (h : Handle) (held : Option (Option Nat)) :
    (s.setHandle h held).registered = s.registered := rfl

@[simp] theorem unsubscribed_setHandle (h : Handle) (held : Option (Option Nat)) :
    (s.setHandle h held).unsubscribed = s.unsubscribed := rfl

omit [DecidableEq Handle] in
theorem Owned.length (owned : Owned s) : s.handlers.length = s.registered.length := by
  apply Nat.le_antisymm
  · by_contra longer
    have there := owned.entries s.registered.length
    rw [List.getElem?_eq_none (Nat.le_refl _), List.getElem?_eq_getElem (by omega)] at there
    cases there
  · by_contra longer
    have there := owned.entries s.handlers.length
    rw [List.getElem?_eq_none (Nat.le_refl _), List.getElem?_eq_getElem (by omega)] at there
    cases there

omit [DecidableEq Handle] in
/-- Handles that hold the same actions as before, each under one handle. -/
theorem Owned.of_handles (owned : Owned s) {handles : Handle → Option (Option Nat)}
    (same : ∀ slot, (∃ h, handles h = some (some slot)) ↔ s.Held slot)
    (unique : ∀ h h' slot, handles h = some (some slot) → handles h' = some (some slot) → h = h') :
    Owned { s with handles := handles } :=
  ⟨owned.entries, fun slot => (same slot).trans (owned.held slot), unique, owned.once,
    owned.past⟩

/-- A handle without an action can be made, and destroyed. -/
theorem Owned.setHandle_idle (owned : Owned s) {h : Handle} {held : Option (Option Nat)}
    (before : ∀ slot, s.handles h ≠ some (some slot)) (after : ∀ slot, held ≠ some (some slot)) :
    Owned (s.setHandle h held) := by
  apply owned.of_handles
  · intro slot
    constructor
    -- the same ones
    · rintro ⟨h', holds⟩
      split at holds
      next => exact absurd holds (after slot)
      next => exact ⟨h', holds⟩
    · rintro ⟨h', holds⟩
      refine ⟨h', ?_⟩
      rw [if_neg]
      · exact holds
      · rintro rfl
        exact before slot holds
  -- and by whom
  · intro h₁ h₂ slot first second
    split at first
    next => exact absurd first (after slot)
    next =>
      split at second
      next => exact absurd second (after slot)
      next => exact owned.unique h₁ h₂ slot first second

/-- Running an action empties its slot and its handle. -/
theorem Owned.unsubscribe (owned : Owned s) {h : Handle} {slot : Nat}
    (holds : s.handles h = some (some slot)) :
    Owned ((s.setHandle h (some none)).unsubscribe slot) := by
  obtain ⟨bound, fresh⟩ := (owned.held slot).mp ⟨h, holds⟩
  constructor
  -- the slots: this one, and the others
  · intro slot'
    show (s.handlers.modify slot _)[slot']? = s.registered[slot']?.map _
    rw [List.getElem?_modify, owned.entries slot']
    by_cases same : slot = slot'
    · subst same
      cases s.registered[slot]? <;> simp [Subscriptions.unsubscribe, fresh]
    · have other : ¬slot' = slot := fun equal => same equal.symm
      cases s.registered[slot']? <;> simp [Subscriptions.unsubscribe, same, other]
  -- the actions that are held are those that have not run
  · intro slot'
    show (∃ h', (if h' = h then some none else s.handles h') = some (some slot')) ↔
      slot' < s.registered.length ∧ slot' ∉ s.unsubscribed ++ [slot]
    constructor
    · rintro ⟨h', holds'⟩
      split at holds'
      next => cases holds'
      next other =>
        obtain ⟨bound', fresh'⟩ := (owned.held slot').mp ⟨h', holds'⟩
        refine ⟨bound', ?_⟩
        intro member
        rcases List.mem_append.mp member with member | same
        · exact fresh' member
        · rw [List.mem_singleton.mp same] at holds'
          exact other (owned.unique h' h slot holds' holds)
    · rintro ⟨bound', fresh'⟩
      obtain ⟨h', holds'⟩ := (owned.held slot').mpr
        ⟨bound', fun member => fresh' (List.mem_append_left _ member)⟩
      refine ⟨h', ?_⟩
      rw [if_neg]
      · exact holds'
      · rintro rfl
        rw [holds] at holds'
        cases holds'
        exact fresh' (by simp)
  -- each by one handle
  · intro h₁ h₂ slot' first second
    change (if h₁ = h then some none else s.handles h₁) = _ at first
    change (if h₂ = h then some none else s.handles h₂) = _ at second
    split at first
    next => cases first
    next =>
      split at second
      next => cases second
      next => exact owned.unique h₁ h₂ slot' first second
  · show (s.unsubscribed ++ [slot]).Nodup
    rw [List.nodup_append]
    refine ⟨owned.once, by simp, ?_⟩
    intro slot₁ member slot₂ same
    rw [List.mem_singleton.mp same]
    rintro rfl
    exact fresh member
  · intro slot' member
    rcases List.mem_append.mp member with member | same
    · exact owned.past slot' member
    · rw [List.mem_singleton.mp same]
      exact bound

theorem untouched_unsubscribe {h : Handle} {slot : Nat} (fresh : slot ∉ s.unsubscribed) :
    Untouched s ((s.setHandle h (some none)).unsubscribe slot) := by
  intro slot' e here
  by_cases same : slot = slot'
  · subst same
    exact .inr ⟨fresh, by simp [Subscriptions.unsubscribe]⟩
  · left
    show (s.handlers.modify slot _)[slot']? = some e
    rw [List.getElem?_modify, here]
    simp [same]

theorem Owned.cancel (owned : Owned s) {h : Handle} (moved : s.cancel h = some s') :
    Owned s' ∧ Untouched s s' ∧ s'.handles h = some none ∧
      ∀ h' ≠ h, s'.handles h' = s.handles h' := by
  unfold Subscriptions.cancel at moved
  obtain ⟨held, holds, rfl⟩ := Option.map_eq_some_iff.mp moved
  cases held with
  | none => exact ⟨owned, fun _ _ here => .inl here, holds, fun _ _ => rfl⟩
  | some slot =>
    refine ⟨owned.unsubscribe holds, untouched_unsubscribe ((owned.held slot).mp ⟨h, holds⟩).2,
      if_pos rfl, ?_⟩
    intro h' other
    exact if_neg other

/-- An action keeps its one owner when it moves to a handle without an action. -/
theorem Owned.move (owned : Owned s) {h other : Handle} (apart : h ≠ other)
    (free : ∀ slot, s.handles h ≠ some (some slot)) (moved : s.move h other = some s') :
    Owned s' := by
  unfold Subscriptions.move at moved
  obtain ⟨held, holds, rfl⟩ := Option.map_eq_some_iff.mp moved
  -- Every handle has its owner's action as before, with `h` in the place of `other`.
  have back : ∀ h' slot,
      ((s.setHandle h (some held)).setHandle other (some none)).handles h' = some (some slot) →
        s.handles (if h' = h then other else h') = some (some slot) ∧ h' ≠ other := by
    intro h' slot here
    rw [handles_setHandle, handles_setHandle] at here
    split at here
    next => cases here
    next away =>
      refine ⟨?_, away⟩
      split at here
      next same => rw [if_pos same, holds, here]
      next away => rw [if_neg away, here]
  apply owned.of_handles
  -- which actions are held
  · intro slot
    constructor
    · rintro ⟨h', here⟩
      exact ⟨_, (back h' slot here).1⟩
    · rintro ⟨h', here⟩
      by_cases same : h' = other
      · subst same
        refine ⟨h, ?_⟩
        rw [holds] at here
        rw [if_neg apart]
        show (if h = h then some held else s.handles h) = _
        rw [if_pos rfl]
        exact here
      · refine ⟨h', ?_⟩
        rw [if_neg same]
        show (if h' = h then some held else s.handles h') = _
        rw [if_neg]
        · exact here
        · rintro rfl
          exact free slot here
  -- and by whom
  · intro h₁ h₂ slot first second
    obtain ⟨first, away₁⟩ := back h₁ slot first
    obtain ⟨second, away₂⟩ := back h₂ slot second
    have same := owned.unique _ _ slot first second
    split at same
    next is₁ =>
      split at same
      next is₂ => rw [is₁, is₂]
      next => exact absurd same.symm away₂
    next =>
      split at same
      next => exact absurd same away₁
      next => exact same

/-- A new subscription takes the next slot. -/
theorem Owned.subscribe (owned : Owned s) {h : Handle} (dead : s.handles h = none)
    (service : String) (handler : Option Handler) :
    Owned (s.subscribe h service handler) ∧ Untouched s (s.subscribe h service handler) := by
  have length := owned.length
  have late : s.registered.length ∉ s.unsubscribed := fun member =>
    Nat.lt_irrefl _ (owned.past _ member)
  have handles : ∀ h', (s.subscribe h service handler).handles h' =
      if h' = h then some (some s.registered.length) else s.handles h' := by
    intro h'
    rw [← length]
    rfl
  refine ⟨⟨?_, ?_, ?_, owned.once, ?_⟩, ?_⟩
  -- the slots: the older ones, the new one, and none beyond
  · intro slot
    show (s.handlers ++ _)[slot]? = (s.registered ++ _)[slot]?.map _
    rw [List.getElem?_append, List.getElem?_append, length]
    split
    next => exact owned.entries slot
    next beyond =>
      cases past : slot - s.registered.length with
      | zero =>
        have same : slot = s.registered.length := by omega
        subst same
        have apart : s.registered.length ∉ (s.subscribe h service handler).unsubscribed := late
        simp [apart]
      | succ n => simp
  -- the new action is held as well
  · intro slot
    show (∃ h', (s.subscribe h service handler).handles h' = some (some slot)) ↔
      slot < (s.registered ++ [_]).length ∧ slot ∉ s.unsubscribed
    rw [List.length_append, List.length_singleton]
    constructor
    · rintro ⟨h', holds⟩
      rw [handles] at holds
      split at holds
      next =>
        cases holds
        exact ⟨Nat.lt_succ_self _, late⟩
      next =>
        obtain ⟨bound, fresh⟩ := (owned.held slot).mp ⟨h', holds⟩
        exact ⟨Nat.lt_succ_of_lt bound, fresh⟩
    · rintro ⟨bound, fresh⟩
      -- an older one, or the new one
      rcases Nat.lt_succ_iff_lt_or_eq.mp bound with bound | rfl
      · obtain ⟨h', holds⟩ := (owned.held slot).mpr ⟨bound, fresh⟩
        refine ⟨h', ?_⟩
        rw [handles, if_neg]
        · exact holds
        · rintro rfl
          rw [dead] at holds
          cases holds
      · exact ⟨h, by rw [handles, if_pos rfl]⟩
  -- each by one handle
  · have new : ∀ h' slot, s.handles h' = some (some slot) → slot ≠ s.registered.length := by
      rintro h' slot holds rfl
      exact Nat.lt_irrefl _ ((owned.held _).mp ⟨h', holds⟩).1
    intro h₁ h₂ slot first second
    rw [handles] at first second
    split at first
    next is₁ =>
      cases first
      split at second
      next is₂ => rw [is₁, is₂]
      next => exact absurd rfl (new h₂ _ second)
    next =>
      split at second
      next =>
        cases second
        exact absurd rfl (new h₁ _ first)
      next => exact owned.unique h₁ h₂ slot first second
  · intro slot member
    exact Nat.lt_of_lt_of_le (owned.past slot member) (by simp [Subscriptions.subscribe])
  · intro slot e here
    left
    show (s.handlers ++ _)[slot]? = some e
    rw [List.getElem?_append_left (List.getElem?_eq_some_iff.mp here).1]
    exact here

/-! ### Steps -/

theorem handlers_move {h other : Handle} (moved : s.move h other = some s') :
    s'.handlers = s.handlers := by
  obtain ⟨_, -, rfl⟩ := Option.map_eq_some_iff.mp moved
  rfl

theorem unsubscribed_move {h other : Handle} (moved : s.move h other = some s') :
    s'.unsubscribed = s.unsubscribed := by
  obtain ⟨_, -, rfl⟩ := Option.map_eq_some_iff.mp moved
  rfl

/-- Each operation on handles. -/
theorem Owned.step (owned : Owned s) {a : HandleAction Handle Handler}
    (moved : s.step a = some s') : Owned s' ∧ Untouched s s' := by
  have still (same : s'.handlers = s.handlers) : Untouched s s' := fun slot e here =>
    .inl (by rw [same]; exact here)
  cases a with
  | create h =>
    obtain ⟨dead, rfl⟩ := of_guarded moved
    exact ⟨owned.setHandle_idle (by simp [dead]) (by simp), still rfl⟩
  | subscribe h service handler =>
    obtain ⟨dead, rfl⟩ := of_guarded moved
    exact owned.subscribe dead service handler
  | moveConstruct h other =>
    obtain ⟨dead, moved⟩ := Option.ite_none_right_eq_some.mp moved
    have kept : s'.handlers = s.handlers := handlers_move moved
    refine ⟨owned.move ?_ (by simp [dead]) moved, still kept⟩
    rintro rfl
    unfold Subscriptions.move at moved
    rw [dead] at moved
    cases moved
  | moveAssign h other =>
    change s.assign h other = some s' at moved
    unfold assign at moved
    by_cases same : h = other
    -- a handle is assigned itself
    · rw [if_pos same] at moved
      obtain ⟨_, -, rfl⟩ := Option.map_eq_some_iff.mp moved
      exact ⟨owned, still rfl⟩
    -- it loses its own action first
    · rw [if_neg same] at moved
      obtain ⟨mid, canceled, moved⟩ := Option.bind_eq_some_iff.mp moved
      obtain ⟨owned, untouched, free, -⟩ := owned.cancel canceled
      refine ⟨owned.move same (by simp [free]) moved, ?_⟩
      intro slot e here
      rw [handlers_move moved, unsubscribed_move moved]
      exact untouched slot e here
  | cancel h =>
    obtain ⟨owned, untouched, -⟩ := owned.cancel moved
    exact ⟨owned, untouched⟩
  | destroy h =>
    obtain ⟨mid, canceled, rfl⟩ := Option.map_eq_some_iff.mp moved
    obtain ⟨owned, untouched, free, -⟩ := owned.cancel canceled
    exact ⟨owned.setHandle_idle (by simp [free]) (by simp), untouched⟩

/-! ### Deliveries -/

omit [DecidableEq Handle] in
/-- A message is given to the handlers of its service. -/
theorem mem_dispatchToHandlers {msg : VehicleMessage} {slot : Nat} {f : Handler} :
    (slot, f) ∈ s.dispatchToHandlers msg ↔
      ∃ e, s.handlers[slot]? = some e ∧ e.service = msg.envelope.service ∧ e.handler = some f := by
  unfold dispatchToHandlers
  rw [List.mem_filterMap]
  constructor
  · rintro ⟨⟨e, slot'⟩, member, called⟩
    dsimp only at called
    obtain ⟨service, called⟩ := Option.ite_none_right_eq_some.mp called
    obtain ⟨f', handler, same⟩ := Option.map_eq_some_iff.mp called
    cases same
    exact ⟨e, List.mem_zipIdx_iff_getElem?.mp member, service, handler⟩
  · rintro ⟨e, here, service, handler⟩
    refine ⟨(e, slot), List.mem_zipIdx_iff_getElem?.mpr here, ?_⟩
    simp [service, handler]

omit [DecidableEq Handle] in
/-- Each slot is asked once. -/
theorem nodup_dispatchToHandlers (msg : VehicleMessage) (s : Subscriptions Handle Handler) :
    ((s.dispatchToHandlers msg).map Prod.fst).Nodup := by
  have slots : (s.dispatchToHandlers msg).map Prod.fst =
      (s.handlers.zipIdx.filter fun e =>
        e.1.service = msg.envelope.service ∧ e.1.handler.isSome).map Prod.snd := by
    unfold dispatchToHandlers
    induction s.handlers.zipIdx with
    -- no slot is left
    | nil => rfl
    -- one more slot, for this service or another, with a handler or without
    | cons e es ih =>
      rw [List.filterMap_cons, List.filter_cons]
      by_cases service : e.1.service = msg.envelope.service
      · cases handler : e.1.handler with
        | none => simpa [service, handler] using ih
        | some f => simpa [service, handler] using ih
      · simpa [service] using ih
  rw [slots]
  refine List.Nodup.sublist (List.filter_sublist.map _) ?_
  rw [List.zipIdx_map_snd]
  exact List.nodup_range'

/-- A message goes to the handlers of its service whose subscription some handle holds, to each of
them once. -/
structure Delivers (s : Subscriptions Handle Handler) (msg : VehicleMessage)
    (calls : List (Nat × Handler)) : Prop where
  once : (calls.map Prod.fst).Nodup
  exact : ∀ slot f, (slot, f) ∈ calls ↔ ∃ e, s.registered[slot]? = some e ∧
    e.service = msg.envelope.service ∧ e.handler = some f ∧ s.Held slot

omit [DecidableEq Handle] in
/-- What is dispatched is what is owned. -/
theorem Owned.delivers (owned : Owned s) (msg : VehicleMessage) :
    Delivers s msg (s.dispatchToHandlers msg) := by
  refine ⟨nodup_dispatchToHandlers msg s, fun slot f => ?_⟩
  rw [mem_dispatchToHandlers]
  constructor
  · rintro ⟨e, here, service, handler⟩
    rw [owned.entries slot] at here
    obtain ⟨e', there, same⟩ := Option.map_eq_some_iff.mp here
    split at same
    next =>
      subst same
      cases handler
    next fresh =>
      subst same
      have bound := (List.getElem?_eq_some_iff.mp there).1
      exact ⟨e', there, service, handler, (owned.held slot).mpr ⟨bound, fresh⟩⟩
  · rintro ⟨e, there, service, handler, held⟩
    refine ⟨e, ?_, service, handler⟩
    rw [owned.entries slot, there, Option.map_some, if_neg ((owned.held slot).mp held).2]

/-- After any operations on handles, a message reaches exactly the held subscriptions of its
service, each once; no action runs twice, and none touches another subscription. -/
theorem subscriptions_deliver {s : Subscriptions Handle Handler}
    (reach : Reach Subscriptions.step (fun _ _ => True) {} s) :
    (∀ msg, Delivers s msg (s.dispatchToHandlers msg)) ∧
      (∀ msg now, msg.envelope.messageKind = .event → expired msg.envelope now = false →
        Delivers s msg (s.deliverDownlink msg now)) ∧
      s.unsubscribed.Nodup ∧ ∀ a s', s.step a = some s' → Untouched s s' := by
  have owned : Owned s := by
    refine reach.invariant ?_ fun _ _ _ owned _ moved => (owned.step moved).1
    exact ⟨fun _ => rfl, by simp [Held], by simp, List.nodup_nil, by simp⟩
  refine ⟨owned.delivers, ?_, owned.once, fun a s' moved => (owned.step moved).2⟩
  intro msg now event current
  unfold deliverDownlink
  rw [if_neg (not_not.mpr event), if_neg (by simp [current])]
  exact owned.delivers msg

/-- A handle is assigned the subscription of another one and loses its own. -/
theorem subscriptions_deliver_assigned :
    ∃ s, Reach (step : Subscriptions Nat String → _) (fun _ _ => True) {} s ∧
      Delivers s { envelope := { service := "vehicle.fota" } } [(1, "second")] := by
  let actions : List (HandleAction Nat String) :=
    [.subscribe 0 "vehicle.fota" (some "first"), .subscribe 1 "vehicle.fota" (some "second"),
      .moveAssign 0 1, .moveAssign 0 0, .destroy 1]
  obtain ⟨s, walked⟩ : ∃ s, walk step {} actions = some s := ⟨_, rfl⟩
  have reach : Reach step (fun _ _ => True) {} s := Reach.walk .start (fun _ _ _ => trivial) walked
  refine ⟨s, reach, ?_⟩
  obtain ⟨delivers, -⟩ := subscriptions_deliver reach
  have calls := delivers { envelope := { service := "vehicle.fota" } }
  cases walked
  exact calls

end Subscriptions

end CgwFota.Transport
