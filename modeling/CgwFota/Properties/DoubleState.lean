import CgwFota.Cloud.Contents
import CgwFota.Properties.MigrationSafety

/-!
# Earlier and new records side by side

The contract has the migration refuse a store in which earlier and new records disagree. The code
compares them nowhere: what is there is overwritten while the marker is missing, and once it is
there the earlier keys are removed unread.

## Main definitions

* `Conflict`: a record that the migration would write is there with other content.
* `FailsClosed`: a conflict ends an incomplete migration without a change.
* `DeletesMigrated`: nothing is removed but what was migrated.
* `Undisputed`: what is left under the earlier keys is what was migrated.
* `History`: the stores there can be, with what was migrated in each.

## Main results

* `double_state_iff`: both laws hold exactly where there is no conflict and nothing is disputed.
* `History.undisputed`: stores that are only migrated forward are undisputed.
* `double_state_interrupted`: interrupted anywhere, the first migration meets its own records only.
* `double_state_resolved`: a newer policy is overwritten, and another one removed unread.

## Proof strategy

The course of a script says in which of six ways a migration goes, with what its changes are. Each
law is checked on the undisturbed run for one direction and on all ways for the other.
-/
namespace CgwFota.Cloud

open Crash
open Inventory (Bytes Thrown Disk StoreWorld Surroundings undisturbed calm_undisturbed)
open CgwFota.Cloud.FotaCloudStateStore (load)

section DoubleState

variable [JsonText]

/-! ### Conflicts -/

/-- Where `r` is to be written there is nothing, or `r` itself. -/
def Room (d : Disk) (r : Write) : Prop :=
  d r.key = none ∨ load r.kind (r.kind.idOf r.record) d = .ok (some r.record) ∨
    ∃ writtenAt, d r.key = some (r.kind.codec.encode writtenAt r.record)

/-- A record that the migration would write, and not overwrite itself, is there with other
content. -/
def Conflict (d : Disk) : Prop :=
  ∃ r : Write, changes.last r.key (planned d).1 = some (.write r) ∧ ¬Room d r

/-- A conflict in a store whose migration is not complete ends the migration without a change. -/
def FailsClosed (e : Surroundings) (d : Disk) : Prop :=
  markerOf d ≠ .ok true → HasOld d → Conflict d →
    match migrateOnce e d with
    | .done (.ok _) _ => False
    | .done (.error _) w | .crashed w => w.disk = d

/-! ### Histories -/

/-- The values that the last completed migration found, after a process led from `d` to `d'`. -/
def found (d d' : Disk) (before : String → Option Bytes) : String → Option Bytes :=
  if markerOf d = .ok false ∧ markerOf d' = .ok true then d else before

/-- A migration that comes to its end has removed nothing but what was migrated. -/
def DeletesMigrated (e : Surroundings) (d : Disk) (before : String → Option Bytes) : Prop :=
  match migrateOnce e d with
  | .done (.ok _) w => ∀ key ∈ oldKeys, ∀ bytes, d key = some bytes → w.disk key = none →
    found d w.disk before key = some bytes
  | _ => True

/-- What is left under the earlier keys once a migration is complete is what was migrated. -/
def Undisputed (d : Disk) (before : String → Option Bytes) : Prop :=
  markerOf d = .ok true → ∀ key ∈ oldKeys, d key ≠ none → before key = d key

/-- A store and what was migrated in it. Earlier software writes the earlier keys, and later
software the others, but not the marker. -/
inductive History : Disk → (String → Option Bytes) → Prop
  | start {d : Disk} (legacy : Legacy d) : History d fun _ => none
  | earlier {d d' : Disk} {before : String → Option Bytes} (history : History d before)
    (open_ : markerOf d ≠ .ok true) (others : ∀ key ∉ oldKeys, d' key = d key) : History d' before
  | later {d d' : Disk} {before : String → Option Bytes} (history : History d before)
    (olds : ∀ key ∈ oldKeys, d' key = d key) (marker : d' kMarkerKey = d kMarkerKey) :
    History d' before
  | migrated {d : Disk} {before : String → Option Bytes} {e : Surroundings} (intact : e.Intact)
    (history : History d before) : History (leaves e d) (found d (leaves e d) before)

variable {e : Surroundings} {d d' : Disk} {before : String → Option Bytes} {written : Nat}

/-! ### Single facts -/

theorem markerOf_congr (same : d' kMarkerKey = d kMarkerKey) : markerOf d' = markerOf d := by
  unfold markerOf
  rw [same]

theorem found_of_completed (marker : markerOf d = .ok true) : found d d' before = before := by
  apply if_neg
  rw [marker]
  rintro ⟨incomplete, -⟩
  cases incomplete

/-- A process that wrote nothing but records has left the marker as it was. -/
theorem found_of_writes (before : String → Option Bytes) {cs : List Change} (writes : WritesOnly cs)
    (applied : changes.Applied cs d d') :
    markerOf d' = markerOf d ∧ found d d' before = before := by
  have same : markerOf d' = markerOf d :=
    markerOf_congr (applied.frame (writes.last List.mem_cons_self))
  refine ⟨same, if_neg ?_⟩
  rintro ⟨absent, there⟩
  rw [same, absent] at there
  cases there

/-- A process that wrote the marker has migrated what it found. -/
theorem found_of_marker [LawfulJsonText] {gone : List Change} (absent : markerOf d = .ok false)
    (inside : gone <+: removals) (applied : changes.Applied (transferred d written ++ gone) d d') :
    found d d' before = d := by
  obtain ⟨shown, -⟩ := cleaning_of_applied (fun _ _ => rfl) inside applied
  exact if_pos ⟨absent, (markerContent_shown (shown _ (by decide))).1⟩

theorem script_parts (d : Disk) (written : Nat) :
    (planned d).1 ++ .marker written :: removals = transferred d written ++ removals := by
  simp [transferred]

/-- A record that was overwritten had room. -/
theorem room_of_unchanged {r : Write} (last : changes.last r.key (planned d).1 = some (.write r))
    (applied : changes.Applied (planned d).1 d d) : Room d r := by
  obtain ⟨stamp, value⟩ := applied.of_last last
  exact .inr (.inr ⟨stamp.1, value⟩)

/-! ### Runs -/

section Lawful

variable [LawfulJsonText]

omit [LawfulJsonText] in
/-- Where there is no conflict the law has nothing to refuse. -/
theorem failsClosed_of_free (intact : e.Intact)
    (free : markerOf d = .ok false → HasOld d → ¬Conflict d) : FailsClosed e d := by
  intro incomplete there conflict
  cases marker : markerOf d with
  -- the marker could be read: the migration is complete or there is no conflict
  | ok completed =>
    cases completed with
    | true => exact absurd marker incomplete
    | false => exact absurd conflict (free marker there)
  -- the marker cannot be read, and nothing is changed
  | error x =>
    have stops : script d = ([], .error (.thrown x)) := by
      unfold script
      rw [if_pos (hasOld_iff.mp there), marker]
    obtain ⟨part, inside, applied⟩ := leaves_part intact d
    rw [stops, List.prefix_nil] at inside
    subst inside
    have same : leaves e d = d := applied
    unfold leaves at same
    cases run : migrateOnce e d with
    | crashed w =>
      rw [run] at same
      exact same
    | done r w =>
      rw [run] at same
      cases r with
      | error x => exact same
      | ok r =>
        obtain ⟨done, -⟩ := migrateOnce_ok intact run
        rw [stops] at done
        cases done

/-- Where nothing is disputed, what is removed was migrated. -/
theorem deletesMigrated_of_undisputed (intact : e.Intact) (undisputed : Undisputed d before) :
    DeletesMigrated e d before := by
  unfold DeletesMigrated
  cases run : migrateOnce e d with
  | crashed w => trivial
  | done r w =>
    cases r with
    | error x => trivial
    | ok r =>
      intro key old bytes stored gone
      obtain ⟨done, applied⟩ := migrateOnce_ok intact run
      have way := course d
      generalize (script d).1 = cs, (script d).2 = result at done applied way
      cases way with
      -- nothing was there to be removed
      | nothing absent => exact absurd ⟨key, old, by simp [stored]⟩ absent
      | unreadable => cases done
      -- what is removed is what was left, and undisputed
      | cleaned _ marker =>
        rw [found_of_completed marker, undisputed marker key old (by simp [stored]), stored]
      | stopped => cases done
      | rejected => cases done
      -- what is removed was migrated just now
      | @migrated written _ marker =>
        rw [script_parts] at applied
        rw [found_of_marker marker List.prefix_rfl applied]
        exact stored

/-- Conflicts are refused, and nothing but what was migrated is removed, exactly where there is no
conflict and nothing was written under the earlier keys after they were migrated. -/
theorem double_state_iff (d : Disk) (before : String → Option Bytes) :
    (∀ e : Surroundings, e.Intact → FailsClosed e d ∧ DeletesMigrated e d before) ↔
      (markerOf d = .ok false → HasOld d → ¬Conflict d) ∧ Undisputed d before := by
  constructor
  -- from both laws: the undisturbed run tells
  · intro safe
    have calm := calm_undisturbed
    obtain ⟨closed, deletes⟩ := safe _ calm.intact
    obtain ⟨w, run, applied⟩ := migrateOnce_calm calm d
    have way := course d
    constructor
    · intro marker there conflict
      have ends := closed (by rw [marker]; simp) there conflict
      obtain ⟨r, last, full⟩ := conflict
      rw [run] at ends
      generalize (script d).1 = cs, (script d).2 = result at applied ends way
      -- a conflict that is refused leaves the store as it is, and then the record had room
      cases way with
      | nothing absent => exact absent there
      | unreadable _ unreadable => rw [marker] at unreadable; cases unreadable
      | cleaned _ completed => rw [marker] at completed; cases completed
      | stopped =>
        have same : w.disk = d := ends
        rw [same] at applied
        exact full (room_of_unchanged last applied)
      | rejected =>
        have same : w.disk = d := ends
        rw [same] at applied
        exact full (room_of_unchanged last applied)
      | migrated => exact ends
    -- what is left is removed by the run, so it was migrated
    · intro marker key old present
      have there : HasOld d := ⟨key, old, present⟩
      rw [script_of_marker there marker] at run applied
      unfold DeletesMigrated at deletes
      rw [run] at deletes
      obtain ⟨bytes, stored⟩ := Option.ne_none_iff_exists'.mp present
      have migrated := deletes key old bytes stored (applied_all_removals applied key old)
      rw [found_of_completed marker] at migrated
      rw [stored, migrated]
  -- and each condition gives its law
  · rintro ⟨free, undisputed⟩ e intact
    exact ⟨failsClosed_of_free intact free, deletesMigrated_of_undisputed intact undisputed⟩

/-! ### Stores that are only migrated forward -/

/-- However often the migration is interrupted, what it has not removed yet is what it migrated. -/
theorem History.undisputed (history : History d before) : Undisputed d before := by
  -- by induction on the history, with one case for each step of it
  induction history with
  -- at the start no migration is complete
  | start legacy =>
    intro marker
    rw [legacy.markerOf] at marker
    cases marker
  | earlier _ open_ others =>
    intro marker
    rw [markerOf_congr (others _ (by decide))] at marker
    exact absurd marker open_
  | later _ olds same ih =>
    intro marker key old present
    rw [markerOf_congr same] at marker
    rw [olds key old] at present ⊢
    exact ih marker key old present
  | @migrated d before e intact _ ih =>
    obtain ⟨part, inside, applied⟩ := leaves_part intact d
    -- before the marker nothing is claimed
    have early (writes : WritesOnly part) (marker : markerOf d = .ok false) :
        Undisputed (leaves e d) (found d (leaves e d) before) := by
      intro completed
      rw [(found_of_writes before writes applied).1, marker] at completed
      cases completed
    -- a run without changes leaves everything
    have idle (nothing : part = []) : Undisputed (leaves e d) (found d (leaves e d) before) := by
      subst nothing
      have same : leaves e d = d := applied
      have kept : found d d before = before := by
        apply if_neg
        rintro ⟨incomplete, completed⟩
        rw [incomplete] at completed
        cases completed
      rw [same, kept]
      exact ih
    have planned_part {cs : List Change} (within : cs <+: (planned d).1) : WritesOnly cs :=
      fun c member => writesOnly_planned d c (within.subset member)
    have way := course d
    generalize (script d).1 = cs, (script d).2 = result at inside way
    cases way with
    | nothing => exact idle (List.prefix_nil.mp inside)
    | unreadable => exact idle (List.prefix_nil.mp inside)
    -- the removals were interrupted: what is left is what was there
    | cleaned _ marker =>
      rw [found_of_completed marker]
      intro _ key old present
      rcases (applied_removals inside applied).2 key old with same | gone
      · rw [same] at present ⊢
        exact ih marker key old present
      · exact absurd gone present
    | stopped _ marker => exact early (planned_part inside) marker
    | rejected _ marker => exact early (planned_part inside) marker
    | migrated _ marker =>
      -- the marker is written or it is not
      rcases prefix_script inside with within | ⟨gone, late, rfl⟩
      · exact early (planned_part within) marker
      · rw [found_of_marker marker late applied]
        intro _ key old present
        obtain ⟨-, olds⟩ := cleaning_of_applied (fun _ _ => rfl) late applied
        rcases olds key old with same | gone
        · exact same.symm
        · exact absurd gone present

/-- An interrupted first migration conflicts with nothing, as long as its records have keys of their
own: whatever it wrote, the next one writes again. -/
theorem free_of_interrupted (legacy : Legacy d)
    (distinct : ((planned d).1.map changes.key).Nodup) (intact : e.Intact)
    (marker : markerOf (leaves e d) = .ok false) : ¬Conflict (leaves e d) := by
  obtain ⟨part, inside, applied⟩ := leaves_part intact d
  -- without a marker only records were written
  have early : part <+: (planned d).1 := by
    have way := course d
    generalize (script d).1 = cs, (script d).2 = result at inside way
    cases way with
    | nothing =>
      rw [List.prefix_nil.mp inside]
      exact List.nil_prefix
    | unreadable =>
      rw [List.prefix_nil.mp inside]
      exact List.nil_prefix
    | cleaned _ completed =>
      rw [legacy.markerOf] at completed
      cases completed
    | stopped => exact inside
    | rejected => exact inside
    | migrated =>
      rcases prefix_script inside with within | ⟨gone, late, rfl⟩
      · exact within
      · -- past the records the marker is there
        obtain ⟨shown, -⟩ := cleaning_of_applied (fun _ _ => rfl) late applied
        rw [(markerContent_shown (shown _ (by decide))).1] at marker
        cases marker
  -- what was written is planned again, with the same content
  have same : planned (leaves e d) = planned d :=
    planned_congr fun key old => applied.frame (Changes.last_prefix
      ((writesOnly_planned d).last (List.mem_cons_of_mem _ old)) early)
  rintro ⟨r, last, taken⟩
  rw [same] at last
  -- under this key nothing was written yet
  cases here : changes.last r.key part with
  | none => exact taken (.inl ((applied.frame here).trans (legacy.noRecord r.kind _)))
  -- the record that is there is the planned one, as no other has its key
  | some c =>
    obtain ⟨before, after, rfl, key, -⟩ := Changes.last_eq_some here
    have planned := Changes.last_of_mem distinct (early.subset (by simp : c ∈ before ++ c :: after))
    rw [key, last] at planned
    cases planned
    obtain ⟨stamp, value⟩ := applied.of_last here
    exact taken (.inr (.inr ⟨stamp.1, value⟩))

end Lawful

/-! ### Overwritten and removed unread -/

/-- The last record written under a key meets another one. -/
def meetsOther (d : Disk) (key : String) : Bool :=
  match changes.last key (planned d).1 with
  | some (.write r) =>
    match load r.kind (r.kind.idOf r.record) d with
    | .ok (some x) => x ≠ r.record ∧ r.kind.codec.schemaVersion r.record = r.kind.codec.version
    | _ => false
  | _ => false

/-- The check finds a conflict. -/
theorem conflict_of_meetsOther [LawfulJsonText] {key : String} (meets : meetsOther d key = true) :
    Conflict d := by
  unfold meetsOther at meets
  cases last : changes.last key (planned d).1 with
  | none => simp [last] at meets
  | some c =>
    obtain ⟨_, _, _, here, _⟩ := Changes.last_eq_some last
    cases c with
    | marker written => simp [last] at meets
    | remove key => simp [last] at meets
    | write r =>
      subst here
      refine ⟨r, last, ?_⟩
      rw [last] at meets
      dsimp only at meets
      cases loaded : load r.kind (r.kind.idOf r.record) d with
      | error x => simp [loaded] at meets
      | ok o =>
        cases o with
        -- nothing is there, the record itself is, or its very bytes
        | none => simp [loaded] at meets
        | some x =>
          rw [loaded] at meets
          obtain ⟨other, current⟩ := of_decide_eq_true meets
          rintro (absent | same | ⟨t, stored⟩)
          · rw [FotaCloudStateStore.load_absent absent] at loaded
            cases loaded
          · rw [loaded] at same
            cases same
            exact other rfl
          · have decoded : r.kind.codec.decode (r.kind.codec.encode t r.record) = .ok x := by
              rw [FotaCloudStateStore.load_eq, loadRecord, show d (r.kind.key _) = _ from stored]
                at loaded
              dsimp only at loaded
              cases result : r.kind.codec.decode (r.kind.codec.encode t r.record) with
              | error x =>
                rw [result] at loaded
                cases loaded
              | ok y =>
                rw [result] at loaded
                cases loaded
                rfl
            rw [FotaCloudStateStore.load_stored stored ⟨current, fits_of_decode decoded⟩] at loaded
            cases loaded
            exact other rfl

/-- The migration came to its end, with nothing left under this key. -/
def endsWithout (key : String) (o : Outcome StoreWorld (Except Aborted FotaMigrationResult)) :
    Bool :=
  match o with
  | .done (.ok _) w => (w.disk key).isNone
  | _ => false

theorem ok_of_endsWithout {key : String} (ends : endsWithout key (migrateOnce e d) = true) :
    ∃ r w, migrateOnce e d = .done (.ok r) w ∧ w.disk key = none := by
  cases run : migrateOnce e d with
  | crashed w =>
    rw [run] at ends
    cases ends
  | done r w =>
    rw [run] at ends
    cases r with
    | error x => cases ends
    | ok r => exact ⟨r, w, rfl, Option.isNone_iff_eq_none.mp ends⟩

/-- A run that ends in spite of a conflict has not failed closed. -/
theorem not_failsClosed {key : String} (ends : endsWithout key (migrateOnce e d) = true)
    (marker : (markerOf d).toOption = some false) (there : HasOld d) (conflict : Conflict d) :
    ¬FailsClosed e d := by
  intro closed
  have incomplete : markerOf d ≠ .ok true := by
    intro completed
    rw [completed] at marker
    cases marker
  have refused := closed incomplete there conflict
  obtain ⟨r, w, run, -⟩ := ok_of_endsWithout ends
  rw [run] at refused
  exact refused

/-- A run that removes what was never migrated has not kept the law. -/
theorem not_deletesMigrated {key : String} (ends : endsWithout key (migrateOnce e d) = true)
    (marker : (markerOf d).toOption = some true) (old : key ∈ oldKeys)
    (other : d key ≠ none) (unread : before key = none) : ¬DeletesMigrated e d before := by
  intro deletes
  have completed : markerOf d = .ok true := by
    -- the marker says that the migration is complete
    cases result : markerOf d with
    | error x =>
      rw [result] at marker
      cases marker
    | ok b =>
      rw [result] at marker
      cases marker
      rfl
  obtain ⟨bytes, stored⟩ := Option.ne_none_iff_exists'.mp other
  obtain ⟨r, w, run, gone⟩ := ok_of_endsWithout ends
  unfold DeletesMigrated at deletes
  rw [run] at deletes
  have migrated := deletes key old bytes stored gone
  rw [found_of_completed completed, unread] at migrated
  cases migrated

end DoubleState

section Example

open Json.Compact

/-- Wherever the first migration of this store is killed, the next one has no conflict and removes
nothing but what was migrated. At the 19th effect some new records are there and no marker, at the
40th the marker is there and an earlier key is left. -/
theorem double_state_interrupted :
    (∀ n, ∀ e : @Surroundings compactText, @Surroundings.Intact compactText e →
      let d₀ := @storeOf compactText policyAndControls
      let d := @leaves compactText (@dyingAt compactText n) d₀
      @FailsClosed compactText e d ∧
        @DeletesMigrated compactText e d (@found compactText d₀ d fun _ => none)) ∧
      (let d :=
        @leaves compactText (@dyingAt compactText 19) (@storeOf compactText policyAndControls)
      (d (keys.controlKey 9)).isSome ∧ (d kMarkerKey).isNone) ∧
      let d :=
        @leaves compactText (@dyingAt compactText 40) (@storeOf compactText policyAndControls)
      (d kMarkerKey).isSome ∧ (d OLD_POLICY).isSome := by
  refine ⟨fun n e intact => ?_, by decide +kernel, by decide +kernel⟩
  have legacy := @legacy_storeOf compactText policyAndControls (by decide)
  have dying := @intact_dyingAt compactText n
  -- no two records of this store share a key
  have distinct : ((@planned compactText (@storeOf compactText policyAndControls)).1.map
      (@changes compactText).key).Nodup := by
    decide +kernel
  have history := @History.migrated compactText _ _ _ dying (@History.start compactText _ legacy)
  refine (@double_state_iff compactText lawful_compactText _ _).mpr ⟨?_, ?_⟩ e intact
  · exact fun marker _ => @free_of_interrupted compactText _ _ lawful_compactText legacy distinct
      dying marker
  · exact @History.undisputed compactText _ _ lawful_compactText history

/-- The policy that later software has written. -/
def newPolicy : FotaPolicyRecord := { basePreferenceVersion := "pref-2", conflict := true }

/-- An earlier policy, and a newer one with other content beside it. -/
def twoPolicies [JsonText] : Disk := fun key =>
  if key = keys.POLICY then some (policyCodec.encode 0 newPolicy)
  else storeOf [ (OLD_POLICY, .ofMembers
      [ ("basePreferenceVersion", .string "pref-0"), ("preferenceVersion", .string "pref-1") ]) ]
        key

/-- Earlier software has written its policy anew after the migration was complete. -/
def downgraded [JsonText] : Disk := fun key =>
  if key = kMarkerKey then some (encodeMarker 0 { completed := true })
  else storeOf [ (OLD_POLICY, .ofMembers
      [ ("basePreferenceVersion", .string "pref-0"), ("preferenceVersion", .string "pref-3") ]) ]
        key

/-- The newer policy is overwritten with the earlier one, and the policy that was written anew is
removed with nothing having read it. -/
theorem double_state_resolved :
    ¬@FailsClosed compactText (@undisturbed compactText) (@twoPolicies compactText) ∧
      ¬@DeletesMigrated compactText (@undisturbed compactText) (@downgraded compactText)
        fun _ => none := by
  constructor
  · have conflict : @Conflict compactText (@twoPolicies compactText) :=
      @conflict_of_meetsOther compactText _ lawful_compactText keys.POLICY (by decide +kernel)
    exact @not_failsClosed compactText _ _ OLD_POLICY (by decide +kernel) (by decide +kernel)
      (by decide +kernel) conflict
  · exact @not_deletesMigrated compactText _ _ _ OLD_POLICY (by decide +kernel) (by decide +kernel)
      (by decide) (by simp [downgraded, storeOf, kMarkerKey, keys.MIGRATION_MARKER, OLD_POLICY]) rfl

end Example

end CgwFota.Cloud
