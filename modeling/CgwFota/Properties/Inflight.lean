import CgwFota.Transport.Inflight

/-!
# The table of calls in flight

The table bounds the calls and tells them apart as long as no reservation is evicted under a call
that still waits. An evicted reservation is counted no more, and its id can be reserved again; the
late release then takes the new reservation away.

## Main definitions

* `Separated`: the calls are bounded, under different ids, and release what is theirs.
* `Timely`: no call still runs when its deadline has come for one that reserves.
* `Matched`: the reservations are those of the running calls.

## Main results

* `inflight_separated`: as long as calls are timely, they are separated.
* `inflight_overrun`: without that they are not.

## Proof strategy

As long as calls are timely nothing is evicted, so the table and the list of the running calls are
permutations of each other. Bound and separation are then those of the table.
-/
namespace CgwFota.Transport

open Interleaving

/-- At most `maxInFlight` calls run, under different ids, and no call is about to release what
another one has reserved. -/
structure Separated (maxInFlight : Nat) (s : Calls) : Prop where
  bounded : s.running.length ≤ maxInFlight
  distinct : (s.running.map RunningCall.messageId).Nodup
  own : ∀ c ∈ s.running, s.inflight.has c.messageId = true → s.owner c.messageId = some c.call

/-- No call still runs when its deadline has come for one that reserves. -/
def Timely (s : Calls) : CallAction → Prop
  | .reserve _ _ now => ∀ c ∈ s.running, now < c.deadlineMs
  | .release _ => True

/-- The reservations are those of the running calls. -/
structure Matched (maxInFlight : Nat) (s : Calls) : Prop where
  same : (s.inflight.entries.map fun e => (e.1, e.2.deadlineMs)).Perm
    (s.running.map fun c => (c.messageId, c.deadlineMs))
  bounded : s.running.length ≤ maxInFlight
  numbered : (s.running.map RunningCall.call).Nodup
  earlier : ∀ c ∈ s.running, c.call < s.started
  owned : ∀ c ∈ s.running, s.owner c.messageId = some c.call

namespace Matched

variable {maxInFlight : Nat} {s s' : Calls}

theorem ids (matched : Matched maxInFlight s) :
    (s.inflight.entries.map Prod.fst).Perm (s.running.map RunningCall.messageId) := by
  have firsts := matched.same.map Prod.fst
  rw [List.map_map, List.map_map] at firsts
  exact firsts

theorem distinct (matched : Matched maxInFlight s) :
    (s.running.map RunningCall.messageId).Nodup :=
  matched.ids.nodup_iff.mp s.inflight.distinct

theorem separated (matched : Matched maxInFlight s) : Separated maxInFlight s :=
  ⟨matched.bounded, matched.distinct, fun c member _ => matched.owned c member⟩

/-- A timely call evicts nothing. -/
theorem evict (matched : Matched maxInFlight s) {messageId : String} {deadlineMs now : Int64}
    (timely : Timely s (.reserve messageId deadlineMs now)) :
    (evictExpiredInflight now s.inflight).entries = s.inflight.entries := by
  apply List.filter_eq_self.mpr
  intro e member
  have running : (e.1, e.2.deadlineMs) ∈ s.running.map fun c => (c.messageId, c.deadlineMs) :=
    matched.same.subset (List.mem_map.mpr ⟨e, member, rfl⟩)
  obtain ⟨c, running, same⟩ := List.mem_map.mp running
  have later := timely c running
  rw [show c.deadlineMs = e.2.deadlineMs from congrArg Prod.snd same] at later
  simpa using later

/-- A timely reservation keeps the table that of the calls. -/
theorem reserve (matched : Matched maxInFlight s) {messageId : String} {deadlineMs now : Int64}
    (timely : Timely s (.reserve messageId deadlineMs now))
    (moved : s.step maxInFlight (.reserve messageId deadlineMs now) = some s') :
    Matched maxInFlight s' := by
  have kept := matched.evict timely
  have outcome := @reserveInflight_iff maxInFlight messageId deadlineMs now s.inflight
  have entries := @reserveInflight_entries maxInFlight messageId deadlineMs now s.inflight
  simp only [Calls.step] at moved
  generalize reserveInflight maxInFlight messageId deadlineMs now s.inflight = result
    at moved outcome entries
  obtain ⟨reserved, t⟩ := result
  cases reserved with
  -- refused: no call begins, and the table is as it was
  | false =>
    cases moved
    dsimp only at entries
    rw [if_neg Bool.false_ne_true, kept] at entries
    constructor
    · rw [entries]
      exact matched.same
    · exact matched.bounded
    · exact matched.numbered
    · exact matched.earlier
    · exact matched.owned
  -- made: the call and its entry come together
  | true =>
    cases moved
    dsimp only at entries outcome
    rw [if_pos rfl, kept] at entries
    have room := outcome.mp rfl
    have fresh : messageId ∉ s.running.map RunningCall.messageId := by
      intro member
      have free := room.free
      rw [kept] at free
      exact free (matched.ids.symm.subset member)
    have bound := room.bound
    unfold inflightCount at bound
    rw [kept] at bound
    have lengths := matched.same.length_eq
    rw [List.length_map, List.length_map] at lengths
    constructor
    · rw [entries]
      exact matched.same.cons _
    · show s.running.length + 1 ≤ maxInFlight
      omega
    · refine List.nodup_cons.mpr ⟨?_, matched.numbered⟩
      intro member
      obtain ⟨c, running, same⟩ := List.mem_map.mp member
      exact absurd same (Nat.ne_of_lt (matched.earlier c running))
    · intro c member
      rcases List.mem_cons.mp member with rfl | running
      · exact Nat.lt_succ_self _
      · exact Nat.lt_succ_of_lt (matched.earlier c running)
    -- the new call is the owner, and no other has its id
    · intro c member
      rcases List.mem_cons.mp member with rfl | running
      · exact if_pos rfl
      · have other : c.messageId ≠ messageId := by
          intro same
          exact fresh (List.mem_map.mpr ⟨c, running, same⟩)
        exact (if_neg other).trans (matched.owned c running)

/-- A release takes the entry of its call away, and no other. -/
theorem release (matched : Matched maxInFlight s) {call : Nat}
    (moved : s.step maxInFlight (.release call) = some s') : Matched maxInFlight s' := by
  unfold Calls.step at moved
  obtain ⟨c, found, rfl⟩ := Option.map_eq_some_iff.mp moved
  have running := List.mem_of_find?_eq_some found
  have number : c.call = call := by simpa using List.find?_some found
  -- The call is told apart from the others by its number as well as by its id.
  have alike : ∀ c' ∈ s.running, (c'.call = call ↔ c'.messageId = c.messageId) := by
    intro c' running'
    rw [← number]
    constructor
    · intro same
      exact congrArg RunningCall.messageId
        (List.inj_on_of_nodup_map matched.numbered running' running same)
    · intro same
      exact congrArg RunningCall.call
        (List.inj_on_of_nodup_map matched.distinct running' running same)
  have left : s.running.filter (fun c => c.call ≠ call) =
      s.running.filter fun c' => c'.messageId ≠ c.messageId := by
    apply List.filter_congr
    intro c' running'
    simp [alike c' running']
  have inside : (s.running.filter fun c => c.call ≠ call).Sublist s.running := List.filter_sublist
  constructor
  -- without the call, the table is without its id
  · have filtered := matched.same.filter fun p => p.1 ≠ c.messageId
    rw [List.filter_map, List.filter_map] at filtered
    dsimp only
    rw [left]
    exact filtered
  · exact Nat.le_trans inside.length_le matched.bounded
  · exact matched.numbered.sublist (inside.map _)
  · exact fun c' member => matched.earlier c' (inside.subset member)
  · exact fun c' member => matched.owned c' (inside.subset member)

end Matched

/-- As long as every reservation is made before the deadlines of the running calls, the running
calls are bounded and separated. -/
theorem inflight_separated {maxInFlight : Nat} {s : Calls}
    (reach : Reach (Calls.step maxInFlight) Timely {} s) : Separated maxInFlight s := by
  have matched : Matched maxInFlight s := by
    refine reach.invariant ?_ ?_
    · exact ⟨.nil, Nat.zero_le _, List.nodup_nil, by simp, by simp⟩
    · intro s a s' matched timely moved
      cases a with
      | reserve messageId deadlineMs now => exact matched.reserve timely moved
      | release call => exact matched.release moved
  exact matched.separated

/-- One of two calls has ended, and the other one is alone. -/
theorem inflight_two_calls :
    ∃ s, Reach (Calls.step 2) Timely {} s ∧ s.running.length = 1 ∧ Separated 2 s := by
  have first : Reach (Calls.step 2) Timely {} _ :=
    .next (a := .reserve "dev-1-task-check" 10 0) .start (by simp [Timely]) rfl
  have second : Reach (Calls.step 2) Timely {} _ :=
    .next (a := .reserve "dev-1-policy" 15 5) first (by simp [Timely]) rfl
  have third : Reach (Calls.step 2) Timely {} _ :=
    .next (a := .release 0) second trivial rfl
  exact ⟨_, third, by decide, inflight_separated third⟩

/-- The first call still waits when the second one evicts its reservation and takes its id. The
table has room for one call. -/
theorem inflight_overrun :
    ∃ s, Reach (Calls.step 1) (fun _ _ => True) {} s ∧
      1 < s.running.length ∧ ¬(s.running.map RunningCall.messageId).Nodup ∧
      ∃ c ∈ s.running, s.inflight.has c.messageId = true ∧ s.owner c.messageId ≠ some c.call := by
  let calls := [CallAction.reserve "dev-1-task-check" 10 0, .reserve "dev-1-task-check" 30 20]
  obtain ⟨s, walked⟩ : ∃ s, walk (Calls.step 1) {} calls = some s := ⟨_, rfl⟩
  refine ⟨s, Reach.walk .start (fun _ _ _ => trivial) walked, ?_⟩
  cases walked
  refine ⟨by decide, by decide, ⟨0, "dev-1-task-check", 10⟩, by decide, by decide, by decide⟩

end CgwFota.Transport
