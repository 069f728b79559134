import CgwFota.Cloud.Course
import CgwFota.Data.JsonText

/-!
# Crashes during the migration

However often the process is lost while it migrates the store, the earlier keys are complete until
the new records and the marker are. A migration that comes to its end leaves what an undisturbed one
leaves.

## Main definitions

* `Legacy`: a store that the earlier contract left behind.
* `restarts`: one process after the other migrates the store, and each may be lost.
* `Durable`: the marker and all records are there.
* `SameContent`: two stores agree, apart from the times at which they were written.

## Main result

* `migration_crash_safe`: at every point the earlier keys or the new content are complete, and all
  ways of finishing leave the same.

## Proof strategy

What a store can look like between two processes is one of three phases: nothing to migrate, some of
the records written, or records and marker written and some earlier keys removed. No process leads
out of the phases, whatever happens to it, and the end of an undisturbed process is determined by
the store the first of them started from.
-/
namespace CgwFota.Cloud

open Crash
open Inventory (Bytes Thrown Disk StoreWorld Surroundings)
open CgwFota.Cloud.FotaCloudStateStore (load)

section Safety

variable [JsonText]

/-- What the earlier contract leaves behind: no new record and no marker. -/
structure Legacy (d : Disk) : Prop where
  noRecord : ∀ (k : Kind) (id : k.Id), d (k.key id) = none
  noMarker : d kMarkerKey = none

/-- One process after the other migrates the store. -/
def restarts (es : List Surroundings) (d : Disk) : Disk := es.foldl (fun d e => leaves e d) d

/-- The marker, apart from when it was made. -/
def markerContent (d : Disk) : Except Thrown (Option MigrationMarker) :=
  match d kMarkerKey with
  | none => .ok none
  | some bytes => (decodeMarker bytes).map fun m => some { m with migratedAtMs := 0 }

/-- The same keys with the same content, apart from the times at which it was written. -/
structure SameContent (d d' : Disk) : Prop where
  present : ∀ key, (d' key).isSome = (d key).isSome
  records : ∀ (k : Kind) (id : k.Id), load k id d' = load k id d
  marker : markerContent d' = markerContent d
  others : ∀ key ≠ kMarkerKey, (∀ (k : Kind) (id : k.Id), k.key id ≠ key) → d' key = d key

/-- The marker and all records that the migration of `d₀` is to leave are in the store. -/
structure Durable (d₀ d : Disk) : Prop where
  marker : markerOf d = .ok true
  whole : ∃ written, (planned d₀).2 = .ok written
  records : ∀ r : Write, changes.last r.key (planned d₀).1 = some (.write r) →
    ∃ writtenAt, d r.key = some (r.kind.codec.encode writtenAt r.record)

variable {e : Surroundings} {d₀ d d' : Disk} {written : Nat}

/-! ### Single facts -/

theorem Legacy.markerOf (legacy : Legacy d) : markerOf d = .ok false := by
  unfold Cloud.markerOf
  rw [legacy.noMarker]

/-- The new records and the marker. -/
def transferred (d : Disk) (written : Nat) : List Change := (planned d).1 ++ [.marker written]

theorem last_transferred_marker (d : Disk) (written : Nat) :
    changes.last kMarkerKey (transferred d written) = some (.marker written) := by
  unfold transferred
  rw [Changes.last_append]
  simp [Changes.last, changes, Change.key]

theorem last_transferred {key : String} (other : key ≠ kMarkerKey) :
    changes.last key (transferred d written) = changes.last key (planned d).1 := by
  have apart : changes.key (.marker written) ≠ key := Ne.symm other
  unfold transferred
  rw [Changes.last_append]
  simp [Changes.last, apart]

theorem last_transferred_old {key : String} (old : key ∈ oldKeys) :
    changes.last key (transferred d written) = none :=
  (writesOnly_planned d).last_marker written old

/-- A marker that was written says that the migration is complete. -/
theorem markerContent_shown [LawfulJsonText]
    (shown : changes.Shows (transferred d₀ written) d₀ kMarkerKey (d kMarkerKey)) :
    markerOf d = .ok true ∧
      markerContent d =
        .ok (some { completed := true, migratedKeyCount := UInt32.ofNat written }) := by
  obtain ⟨stamp, value⟩ := shown.of_last (last_transferred_marker d₀ written)
  have stored : d kMarkerKey = some (encodeMarker stamp.1
      { completed := true, migratedKeyCount := UInt32.ofNat written, migratedAtMs := stamp.2 }) :=
    value
  constructor
  -- that it is complete
  · unfold markerOf
    rw [stored]
    dsimp only
    rw [decodeMarker_encodeMarker stamp.1 (by exact rfl)]
    rfl
  -- and its content, apart from the time
  · unfold markerContent
    rw [stored]
    dsimp only
    rw [decodeMarker_encodeMarker stamp.1 (by exact rfl)]
    rfl

/-- A removal touches nothing but the earlier keys. -/
theorem applied_removals {gone : List Change} (inside : gone <+: removals)
    (applied : changes.Applied gone d d') :
    (∀ key, key ∉ oldKeys → d' key = d key) ∧ ∀ key ∈ oldKeys, d' key = d key ∨ d' key = none := by
  have removes {c : Change} (member : c ∈ gone) : ∃ key ∈ oldKeys, .remove key = c :=
    List.mem_map.mp (inside.subset member)
  constructor
  -- another key is removed by none of them
  · intro key other
    apply applied.frame
    apply Changes.last_eq_none.mpr
    intro c member
    obtain ⟨key', old, rfl⟩ := removes member
    rintro rfl
    exact other old
  -- an earlier key is removed or it is not
  · intro key _
    cases last : changes.last key gone with
    | none => exact .inl (applied.frame last)
    | some c =>
      obtain ⟨before, after, rfl, -, -⟩ := Changes.last_eq_some last
      obtain ⟨key', -, rfl⟩ := removes (c := c) (by simp)
      obtain ⟨stamp, value⟩ := applied.of_last last
      exact .inr value

/-- When all removals have been made, no earlier key is left. -/
theorem applied_all_removals (applied : changes.Applied removals d d') :
    ∀ key ∈ oldKeys, d' key = none := by
  intro key old
  have apart : (removals.map changes.key).Nodup := by
    have same : removals.map changes.key = oldKeys := rfl
    rw [same]
    exact nodup_oldKeys
  obtain ⟨stamp, value⟩ := applied.of_last
    (Changes.last_of_mem apart (List.mem_map.mpr ⟨key, old, rfl⟩))
  exact value

/-- A beginning of the whole script stops among the records or among the removals. -/
theorem prefix_script {part : List Change}
    (inside : part <+: (planned d).1 ++ .marker written :: removals) :
    part <+: (planned d).1 ∨ ∃ gone, gone <+: removals ∧ part = transferred d written ++ gone := by
  have whole :
      (planned d).1 ++ .marker written :: removals = transferred d written ++ removals := by
    simp [transferred]
  rw [whole] at inside
  rcases List.prefix_or_prefix_of_prefix inside (List.prefix_append _ _) with early | late
  · rcases List.prefix_concat_iff.mp early with rfl | early
    · exact .inr ⟨[], List.nil_prefix, (List.append_nil _).symm⟩
    · exact .inl early
  · obtain ⟨gone, rfl⟩ := late
    exact .inr ⟨gone, (List.prefix_append_right_inj _).mp inside, rfl⟩

/-! ### Phases -/

/-- How far the migration of `d₀` has come. -/
inductive Phase (d₀ d : Disk) : Prop
  | idle (absent : ¬HasOld d₀) (same : d = d₀)
  | writing (there : HasOld d₀)
    (kept : ∀ key, changes.last key (planned d₀).1 = none → d key = d₀ key)
  | cleaning {written : Nat} (there : HasOld d₀) (plan : (planned d₀).2 = .ok written)
    (again : rereads d₀ = .ok ())
    (shown : ∀ key, key ∉ oldKeys → changes.Shows (transferred d₀ written) d₀ key (d key))
    (olds : ∀ key ∈ oldKeys, d key = d₀ key ∨ d key = none)

/-- The migration of `d₀` is over. -/
inductive Finished (d₀ d : Disk) : Prop
  | idle (absent : ¬HasOld d₀) (same : d = d₀)
  | migrated {written : Nat} (there : HasOld d₀) (plan : (planned d₀).2 = .ok written)
    (again : rereads d₀ = .ok ())
    (shown : ∀ key, key ∉ oldKeys → changes.Shows (transferred d₀ written) d₀ key (d key))
    (olds : ∀ key ∈ oldKeys, d key = none)

theorem Phase.start (d₀ : Disk) : Phase d₀ d₀ := by
  by_cases there : HasOld d₀
  · exact .writing there fun _ _ => rfl
  · exact .idle there rfl

theorem script_of_absent (absent : ¬HasOld d) : script d = ([], .ok {}) := by
  unfold script
  rw [if_neg fun any => absent (hasOld_iff.mpr any)]

/-- While the records are being written, a new process starts over. -/
theorem script_of_writing (kept : ∀ key, changes.last key (planned d₀).1 = none → d key = d₀ key) :
    script d = script d₀ := by
  have writes := writesOnly_planned d₀
  apply script_congr
  · exact fun key old => kept key (writes.last (List.mem_cons_of_mem _ old))
  · exact kept _ (writes.last List.mem_cons_self)
  · exact fun k id untouched => kept _ untouched

/-- Once the marker is there, a new process removes what is left. -/
theorem script_of_marker (left : HasOld d) (marker : markerOf d = .ok true) :
    script d = (removals, .ok (cleanedResult (leftover d))) := by
  unfold script
  rw [if_pos (hasOld_iff.mp left), marker]

/-- What a store is like after the records, the marker and some removals. -/
theorem cleaning_of_applied {gone : List Change}
    (kept : ∀ key, changes.last key (planned d₀).1 = none → d key = d₀ key)
    (inside : gone <+: removals)
    (applied : changes.Applied (transferred d₀ written ++ gone) d d') :
    (∀ key, key ∉ oldKeys → changes.Shows (transferred d₀ written) d₀ key (d' key)) ∧
      ∀ key ∈ oldKeys, d' key = d₀ key ∨ d' key = none := by
  obtain ⟨mid, wrote, removed⟩ := Changes.applied_append.mp applied
  obtain ⟨others, olds⟩ := applied_removals inside removed
  have before {key : String} (untouched : changes.last key (transferred d₀ written) = none) :
      d key = d₀ key := by
    apply kept
    unfold transferred at untouched
    exact Changes.last_prefix untouched (List.prefix_append _ _)
  constructor
  -- a new key shows what the records and the marker made of it
  · intro key other
    rw [others key other]
    exact (wrote.shows key).congr before
  -- an earlier key was touched by the removals only
  · intro key old
    have untouched : changes.last key (transferred d₀ written) = none := last_transferred_old old
    have same : mid key = d₀ key := (wrote.frame untouched).trans (before untouched)
    rw [← same]
    exact olds key old

section Lawful

variable [LawfulJsonText]

/-- No process leads out of the phases. -/
theorem Phase.leaves (legacy : Legacy d₀) (intact : e.Intact) (phase : Phase d₀ d) :
    Phase d₀ (leaves e d) := by
  obtain ⟨part, inside, applied⟩ := leaves_part intact d
  cases phase with
  -- nothing to migrate: the process does nothing
  | idle absent same =>
    subst same
    rw [script_of_absent absent, List.prefix_nil] at inside
    subst inside
    exact .idle absent applied
  -- among the records: it starts over, and comes at most to the end of all three parts
  | writing there kept =>
    have early (inside : part <+: (planned d₀).1) : Phase d₀ (Cloud.leaves e d) := by
      apply Phase.writing there
      intro key untouched
      rw [← kept key untouched]
      exact applied.frame (Changes.last_prefix untouched inside)
    rw [script_of_writing kept] at inside
    have way := course d₀
    generalize (script d₀).1 = cs, (script d₀).2 = r at inside way
    cases way with
    -- there is an earlier key, and no marker yet
    | nothing absent => exact absurd there absent
    | unreadable _ marker => rw [legacy.markerOf] at marker; cases marker
    | cleaned _ marker => rw [legacy.markerOf] at marker; cases marker
    | stopped => exact early inside
    | rejected => exact early inside
    | migrated _ _ plan again =>
      rcases prefix_script inside with inside | ⟨gone, late, rfl⟩
      · exact early inside
      · obtain ⟨shown, olds⟩ := cleaning_of_applied kept late applied
        exact .cleaning there plan again shown olds
  -- past the marker: it removes what is left
  | cleaning there plan again shown olds =>
    have marker := (markerContent_shown (shown _ (by decide))).1
    have inside : part <+: removals := by
      by_cases left : HasOld d
      · rw [script_of_marker left marker] at inside
        exact inside
      · rw [script_of_absent left] at inside
        exact inside.trans List.nil_prefix
    obtain ⟨others, gone⟩ := applied_removals inside applied
    apply Phase.cleaning there plan again
    -- no removal touches a new key
    · intro key other
      rw [others key other]
      exact shown key other
    -- an earlier key stays as it was or is removed
    · intro key old
      rcases gone key old with same | absent
      · rw [same]
        exact olds key old
      · exact .inr absent

theorem Phase.restarts (legacy : Legacy d₀) (es : List Surroundings) (intact : ∀ e ∈ es, e.Intact)
    (phase : Phase d₀ d) : Phase d₀ (restarts es d) := by
  induction es generalizing d with
  | nil => exact phase
  | cons e es ih =>
    exact ih (fun e member => intact e (List.mem_cons_of_mem _ member))
      (phase.leaves legacy (intact e List.mem_cons_self))

/-- In every phase the earlier keys are complete or the new content is. -/
theorem Phase.safe (phase : Phase d₀ d) :
    (∀ key ∈ oldKeys, d key = d₀ key) ∨ Durable d₀ d := by
  cases phase with
  -- nothing to migrate
  | idle absent same =>
    subst same
    exact .inl fun _ _ => rfl
  -- the records do not touch the earlier keys
  | writing there kept =>
    exact .inl fun key old =>
      kept key ((writesOnly_planned d₀).last (List.mem_cons_of_mem _ old))
  -- past the marker, all that was planned is there
  | cleaning there plan again shown olds =>
    right
    constructor
    · exact (markerContent_shown (shown _ (by decide))).1
    · exact ⟨_, plan⟩
    -- every planned record is shown under its key
    · intro r last
      have other : r.key ≠ kMarkerKey := r.kind.key_ne_marker _
      have fresh : r.key ∉ oldKeys := fun old => Kind.key_ne_oldKey old _ _ rfl
      obtain ⟨stamp, value⟩ := (shown r.key fresh).of_last ((last_transferred other).trans last)
      exact ⟨stamp.1, value⟩

/-- A process that comes to its end has finished the migration. -/
theorem Phase.finish (legacy : Legacy d₀) (phase : Phase d₀ d) {r : FotaMigrationResult}
    (done : (script d).2 = .ok r) (applied : changes.Applied (script d).1 d d') :
    Finished d₀ d' := by
  cases phase with
  -- nothing to migrate
  | idle absent same =>
    subst same
    rw [script_of_absent absent] at applied
    exact .idle absent applied
  -- the whole script was applied, and it is the records, the marker and all removals
  | writing there kept =>
    rw [script_of_writing kept] at done applied
    have way := course d₀
    generalize (script d₀).1 = cs, (script d₀).2 = result at applied done way
    cases way with
    | nothing absent => exact absurd there absent
    | unreadable _ marker => cases done
    | cleaned _ marker => rw [legacy.markerOf] at marker; cases marker
    | stopped => cases done
    | rejected => cases done
    | @migrated written _ _ plan again =>
      have whole : (planned d₀).1 ++ .marker written :: removals =
          transferred d₀ written ++ removals := by simp [transferred]
      rw [whole] at applied
      obtain ⟨shown, -⟩ := cleaning_of_applied kept List.prefix_rfl applied
      obtain ⟨mid, -, removed⟩ := Changes.applied_append.mp applied
      exact .migrated there plan again shown (applied_all_removals removed)
  -- the removals that were left, if any
  | cleaning there plan again shown olds =>
    have marker := (markerContent_shown (shown _ (by decide))).1
    by_cases left : HasOld d
    · rw [script_of_marker left marker] at applied
      obtain ⟨others, -⟩ := applied_removals List.prefix_rfl applied
      refine .migrated there plan again ?_ (applied_all_removals applied)
      intro key other
      rw [others key other]
      exact shown key other
    · rw [script_of_absent left] at applied
      cases applied
      refine .migrated there plan again shown ?_
      intro key old
      by_contra present
      exact left ⟨key, old, present⟩

/-- Wherever the migration can be finished from the start, it can be from every phase. -/
theorem Phase.completes (phase : Phase d₀ d) {r : FotaMigrationResult}
    (possible : (script d₀).2 = .ok r) : ∃ r', (script d).2 = .ok r' := by
  cases phase with
  | idle absent same =>
    subst same
    exact ⟨r, possible⟩
  | writing there kept => exact ⟨r, by rw [script_of_writing kept, possible]⟩
  | cleaning there plan again shown olds =>
    have marker := (markerContent_shown (shown _ (by decide))).1
    by_cases left : HasOld d
    · exact ⟨_, by rw [script_of_marker left marker]⟩
    · exact ⟨_, by rw [script_of_absent left]⟩

omit [LawfulJsonText] in
/-- What is shown under a key is there or not, whatever its time. -/
theorem isSome_shown {cs : List Change} {key : String}
    (shown : changes.Shows cs d₀ key (d key)) (shown' : changes.Shows cs d₀ key (d' key)) :
    (d' key).isSome = (d key).isSome := by
  cases last : changes.last key cs with
  | none => rw [shown.frame last, shown'.frame last]
  | some c =>
    obtain ⟨t, value⟩ := shown.of_last last
    obtain ⟨t', value'⟩ := shown'.of_last last
    rw [value, value']
    cases c with
    | write r => simp [changes, Change.value]
    | marker written => simp [changes, Change.value]
    | remove key => simp [changes, Change.value]

/-- There is one way to finish. -/
theorem Finished.same (finished : Finished d₀ d) (finished' : Finished d₀ d') :
    SameContent d d' := by
  cases finished with
  -- nothing to migrate, both times
  | idle absent same =>
    cases finished' with
    | idle _ same' =>
      subst same same'
      exact ⟨fun _ => rfl, fun _ _ => rfl, rfl, fun _ _ _ => rfl⟩
    | migrated there => exact absurd there absent
  -- the same plan, shown in both stores
  | @migrated written there plan again shown olds =>
    cases finished' with
    | idle absent => exact absurd there absent
    | @migrated written' _ plan' _ shown' olds' =>
      have same : written = written' := by
        rw [plan] at plan'
        cases plan'
        rfl
      subst same
      constructor
      -- a key is present in both or in neither
      · intro key
        by_cases old : key ∈ oldKeys
        · rw [olds key old, olds' key old]
        · exact isSome_shown (shown key old) (shown' key old)
      -- the records are the planned ones
      · intro k id
        have fresh : k.key id ∉ oldKeys := fun old => Kind.key_ne_oldKey old k id rfl
        exact load_shown (shown' _ fresh) (shown _ fresh) fun _ => rfl
      · rw [(markerContent_shown (shown _ (by decide))).2,
          (markerContent_shown (shown' _ (by decide))).2]
      -- any other key is untouched
      · intro key other apart
        by_cases old : key ∈ oldKeys
        · rw [olds key old, olds' key old]
        · have untouched : changes.last key (transferred d₀ written) = none := by
            rw [last_transferred other]
            apply Changes.last_eq_none.mpr
            intro c member
            obtain ⟨r, rfl⟩ := writesOnly_planned d₀ c member
            exact apart r.kind _
          rw [(shown key old).frame untouched, (shown' key old).frame untouched]

omit [LawfulJsonText] in
theorem Finished.no_old (finished : Finished d₀ d) : ∀ key ∈ oldKeys, d key = none := by
  cases finished with
  | idle absent same =>
    subst same
    intro key old
    by_contra present
    exact absent ⟨key, old, present⟩
  | migrated there plan again shown olds => exact olds

/-- At every point of any number of interrupted migrations, the earlier keys or the new content
and the marker are complete; and where an undisturbed migration comes to its end, so does the
next undisturbed one, and whichever comes to its end leaves the same content and no earlier key. -/
theorem migration_crash_safe {d₀ : Disk} (legacy : Legacy d₀) (es : List Surroundings)
    (intact : ∀ e ∈ es, e.Intact) :
    ((∀ key ∈ oldKeys, restarts es d₀ key = d₀ key) ∨ Durable d₀ (restarts es d₀)) ∧
      ∀ e₀ r₀ w₀, e₀.Calm → migrateOnce e₀ d₀ = .done (.ok r₀) w₀ →
        (∀ e r w, e.Intact → migrateOnce e (restarts es d₀) = .done (.ok r) w →
          SameContent w₀.disk w.disk ∧ ∀ key ∈ oldKeys, w.disk key = none) ∧
        ∀ e, e.Calm → ∃ r w, migrateOnce e (restarts es d₀) = .done (.ok r) w := by
  have phase := (Phase.start d₀).restarts legacy es intact
  refine ⟨phase.safe, fun e₀ r₀ w₀ calm₀ done₀ => ?_⟩
  obtain ⟨possible, applied₀⟩ := migrateOnce_ok calm₀.intact done₀
  have finished₀ := (Phase.start d₀).finish legacy possible applied₀
  constructor
  -- whoever comes to an end leaves the same
  · intro e r w intact done
    obtain ⟨done, applied⟩ := migrateOnce_ok intact done
    have finished := phase.finish legacy done applied
    exact ⟨finished₀.same finished, finished.no_old⟩
  -- and whoever is not disturbed comes to an end
  · intro e calm
    obtain ⟨r, completes⟩ := phase.completes possible
    obtain ⟨w, done, -⟩ := migrateOnce_calm calm (restarts es d₀)
    exact ⟨r, w, by rw [done, completes]⟩

end Lawful

end Safety

section Example

open Json.Compact
open Inventory (Answer encodeEnvelope undisturbed calm_undisturbed)

/-- A store with these values in envelopes of the first version. -/
def storeOf [JsonText] (contents : List (String × Json)) : Disk :=
  fun key => (contents.lookup key).map fun j => encodeEnvelope 0 1 (JsonText.dump j)

/-- A store with earlier keys only is one that the earlier contract left behind. -/
theorem legacy_storeOf [JsonText] {contents : List (String × Json)}
    (olds : ∀ m ∈ contents, m.1 ∈ oldKeys) : Legacy (storeOf contents) := by
  have absent {key : String} (other : key ∉ oldKeys) : storeOf contents key = none := by
    have unknown : contents.lookup key = none := by
      apply List.lookup_eq_none_iff.mpr
      intro m member
      rw [bne_iff_ne]
      rintro rfl
      exact other (olds m member)
    unfold storeOf
    rw [unknown]
    rfl
  constructor
  · exact fun k id => absent fun old => Kind.key_ne_oldKey old k id rfl
  · exact absent (by decide)

/-- A policy and the control revisions, as the earlier contract stored them. -/
def policyAndControls : List (String × Json) :=
  [ (OLD_POLICY, .ofMembers
      [ ("basePreferenceVersion", .string "pref-0"), ("preferenceVersion", .string "pref-1") ]),
    (OLD_CONTROLS, .ofMembers
      [ ("entries", .array
          [ .ofMembers
              [ ("controlRevision", .string "9"), ("commandType", .string "RESUME"),
                ("applyMode", .string "IMMEDIATE"), ("expiresAtMs", .integer 9000),
                ("reason", .string "user"), ("ackStatus", .string "APPLIED"),
                ("ackSequenceNo", .integer 1), ("appliedAtMs", .integer 9500) ] ]) ]) ]

/-- The process is lost at its `n`th effect, after the write if there is one. -/
def dyingAt [JsonText] (n : Nat) : Surroundings where
  clock _ := 0
  answer k := if k = n then Answer.killed true else .served
  damage _ := none

theorem intact_dyingAt [JsonText] (n : Nat) : (dyingAt n).Intact := fun _ => rfl

/-- Two processes are lost, at the 19th effect and at the 40th. The third comes to its end. -/
theorem migration_survives_crashes :
    ∃ r w, @migrateOnce compactText (@undisturbed compactText)
        (@restarts compactText [@dyingAt compactText 19, @dyingAt compactText 40]
          (@storeOf compactText policyAndControls)) = .done (.ok r) w ∧
      ∀ key ∈ oldKeys, w.disk key = none := by
  have possible :
      (@script compactText (@storeOf compactText policyAndControls)).2.toOption.isSome := by
    decide +kernel
  cases result : (@script compactText (@storeOf compactText policyAndControls)).2 with
  | error x =>
    rw [result] at possible
    cases possible
  | ok r₀ =>
    obtain ⟨w₀, done₀, -⟩ := @migrateOnce_calm compactText _ (@calm_undisturbed compactText)
      (@storeOf compactText policyAndControls)
    rw [result] at done₀
    have intact : ∀ e ∈ [@dyingAt compactText 19, @dyingAt compactText 40],
        @Surroundings.Intact compactText e := by
      intro e member
      simp only [List.mem_cons, List.not_mem_nil, or_false] at member
      rcases member with rfl | rfl
      · exact @intact_dyingAt compactText 19
      · exact @intact_dyingAt compactText 40
    have legacy : Legacy (@storeOf compactText policyAndControls) :=
      @legacy_storeOf compactText policyAndControls (by decide)
    obtain ⟨-, safe⟩ := @migration_crash_safe compactText lawful_compactText _ legacy _ intact
    obtain ⟨same, again⟩ := safe _ _ _ (@calm_undisturbed compactText) done₀
    obtain ⟨r, w, done⟩ := again _ (@calm_undisturbed compactText)
    exact ⟨r, w, done,
      (same _ r w (@Surroundings.Calm.intact compactText _ (@calm_undisturbed compactText)) done).2⟩

end Example

end CgwFota.Cloud
