import CgwFota.Cloud.Script

/-!
# Runs of the migration

How a process that migrates a store ends, and the courses the migration can take.

## Main definitions

* `migrateOnce`, `leaves`: a process that migrates a store, and what it leaves behind
* `Course`: the courses of the script: nothing to do, an unreadable marker, only cleaning up, an
  earlier record that cannot be decoded, a record that cannot be read again, the whole migration

## Main results

* `migrateOnce_ok`, `migrateOnce_calm`: a process that ends regularly has made all changes
* `leaves_part`: whatever happens, a beginning of the script took place
* `course`: the script takes one of the courses
* `script_congr`: keys that the migration is going to write do not matter to it
-/
namespace CgwFota.Cloud

open Crash
open Inventory (Bytes Thrown Disk StoreWorld Surroundings)

section Course

variable [JsonText]

/-! ### One process -/

/-- A process that migrates a store with this content. -/
def migrateOnce (e : Surroundings) (d : Disk) :
    Outcome StoreWorld (Except Aborted FotaMigrationResult) :=
  migrateOtaToFota.run e { disk := d }

/-- What the process leaves in the store, however it ends. -/
def leaves (e : Surroundings) (d : Disk) : Disk := ((migrateOnce e d).settle id).disk

variable {e : Surroundings} {d d' : Disk}

theorem migrateOnce_wp (intact : e.Intact) (d : Disk) :
    wp migrateOtaToFota.run
      (Ending (fun r w => (script d).2 = .ok r ∧ changes.Applied (script d).1 d w.disk)
        fun x w => ((script d).2 = .error x ∧ changes.Applied (script d).1 d w.disk) ∨
          CutShort (¬e.Calm) (Reached d) (script d).1 w)
      (CutShort (¬e.Calm) (Reached d) (script d).1) e { disk := d } :=
  performs_migrateOtaToFota intact d _ rfl

/-- A process that comes to its end has done all there is to do. -/
theorem migrateOnce_ok (intact : e.Intact) {r : FotaMigrationResult} {w : StoreWorld}
    (done : migrateOnce e d = .done (.ok r) w) :
    (script d).2 = .ok r ∧ changes.Applied (script d).1 d w.disk := by
  have ends := migrateOnce_wp intact d
  unfold wp at ends
  unfold migrateOnce at done
  rw [done] at ends
  exact ends

/-- An undisturbed process ends with the result of the script. -/
theorem migrateOnce_calm (calm : e.Calm) (d : Disk) :
    ∃ w, migrateOnce e d = .done (script d).2 w ∧ changes.Applied (script d).1 d w.disk := by
  have ends := migrateOnce_wp calm.intact d
  have undisturbed {w : StoreWorld} : ¬CutShort (¬e.Calm) (Reached d) (script d).1 w :=
    fun cut => cut.1 calm
  unfold wp at ends
  unfold migrateOnce
  cases run : migrateOtaToFota.run e { disk := d } with
  | crashed w =>
    rw [run] at ends
    exact absurd ends undisturbed
  | done r w =>
    rw [run] at ends
    cases r with
    | ok r => exact ⟨w, by rw [ends.1], ends.2⟩
    | error x =>
      rcases ends with ends | cut
      · exact ⟨w, by rw [ends.1], ends.2⟩
      -- what is cut short was disturbed
      · exact absurd cut undisturbed

/-- Whatever happens, a beginning of the script is what took place. -/
theorem leaves_part (intact : e.Intact) (d : Disk) :
    ∃ part, part <+: (script d).1 ∧ changes.Applied part d (leaves e d) := by
  have ends := migrateOnce_wp intact d
  unfold wp at ends
  unfold leaves migrateOnce
  cases run : migrateOtaToFota.run e { disk := d } with
  | crashed w =>
    -- the process was lost, which leaves a beginning of the script
    rw [run] at ends
    exact ends.2
  | done r w =>
    rw [run] at ends
    cases r with
    | ok r => exact ⟨_, List.prefix_rfl, ends.2⟩
    | error x =>
      -- an exception is the one of the script, or it cut the script short
      rcases ends with ends | cut
      · exact ⟨_, List.prefix_rfl, ends.2⟩
      · exact cut.2

/-! ### Courses -/

/-- Some earlier key is there. -/
def HasOld (d : Disk) : Prop := ∃ key ∈ oldKeys, d key ≠ none

instance : Decidable (HasOld d) := inferInstanceAs (Decidable (∃ key ∈ oldKeys, d key ≠ none))

/-- What comes of reading the new records again. -/
def rereads (d : Disk) : Except Aborted Unit :=
  (loop (reread (changes.settled (0, 0) d (planned d).1)) rechecked ()).2

inductive Course (d : Disk) : List Change → Except Aborted FotaMigrationResult → Prop
  | nothing (absent : ¬HasOld d) : Course d [] (.ok {})
  | unreadable {x : Thrown} (there : HasOld d) (marker : markerOf d = .error x) :
    Course d [] (.error (.thrown x))
  | cleaned (there : HasOld d) (marker : markerOf d = .ok true) :
    Course d removals (.ok (cleanedResult (leftover d)))
  | stopped {x : Aborted} (there : HasOld d) (marker : markerOf d = .ok false)
    (plan : (planned d).2 = .error x) : Course d (planned d).1 (.error x)
  | rejected {x : Aborted} {written : Nat} (there : HasOld d) (marker : markerOf d = .ok false)
    (plan : (planned d).2 = .ok written) (again : rereads d = .error x) :
    Course d (planned d).1 (.error x)
  | migrated {written : Nat} (there : HasOld d) (marker : markerOf d = .ok false)
    (plan : (planned d).2 = .ok written) (again : rereads d = .ok ()) :
    Course d ((planned d).1 ++ .marker written :: removals)
      (.ok (migratedResult written (leftover d)))

omit [JsonText] in
theorem hasOld_iff : HasOld d ↔ (oldKeys.any fun key => (d key).isSome) = true := by
  rw [List.any_eq_true]
  simp only [HasOld, Option.isSome_iff_ne_none]

/-- The migration takes one of the courses. -/
theorem course (d : Disk) : Course d (script d).1 (script d).2 := by
  unfold script
  by_cases there : HasOld d
  · rw [if_pos (hasOld_iff.mp there)]
    cases marker : markerOf d with
    | error x => exact .unreadable there marker
    | ok completed =>
      cases completed with
      -- the marker is there: nothing but the removal is left
      | true => exact .cleaned there marker
      | false =>
        have failed := @Course.stopped _ d
        have rejected := @Course.rejected _ d
        have migrated := @Course.migrated _ d
        unfold rereads at rejected migrated
        rcases plan : planned d with ⟨writes, result⟩
        rw [plan] at failed rejected migrated
        cases result with
        | error x => exact failed there marker rfl
        | ok written =>
          dsimp only at rejected migrated ⊢
          cases again : (loop (reread (changes.settled (0, 0) d writes)) rechecked ()).2 with
          | error x => exact rejected there marker rfl again
          | ok _ => exact migrated there marker rfl again
  · rw [if_neg fun any => there (hasOld_iff.mpr any)]
    exact .nothing there

/-! ### What the course depends on -/

theorem planned_congr (olds : ∀ key ∈ oldKeys, d' key = d key) : planned d' = planned d := by
  have same :
      ∀ part ∈ firstParts ++ lastParts, ∀ p, carriedOver d' p part = carriedOver d p part := by
    intro part member p
    unfold carriedOver Part.read
    rw [olds part.key (key_mem_oldKeys member)]
  unfold planned
  rw [loop_congr fun part member => same part (List.mem_append_left _ member)]
  rcases loop (carriedOver d) firstParts {} with ⟨cs, result⟩
  cases result with
  | error x => rfl
  | ok p =>
    dsimp only
    rw [loop_congr fun part member => same part (List.mem_append_right _ member)]

/-- Keys that the migration is going to write need not be the same. -/
theorem script_congr (olds : ∀ key ∈ oldKeys, d' key = d key)
    (marker : d' kMarkerKey = d kMarkerKey)
    (kept : ∀ k id, changes.last (Kind.key k id) (planned d).1 = none →
      d' (k.key id) = d (k.key id)) : script d' = script d := by
  -- the same earlier keys are there, so the same branch is taken
  have any : (oldKeys.any fun key => (d' key).isSome) = oldKeys.any fun key => (d key).isSome := by
    rw [Bool.eq_iff_iff, List.any_eq_true, List.any_eq_true]
    constructor
    · rintro ⟨key, old, there⟩
      exact ⟨key, old, by rwa [olds key old] at there⟩
    · rintro ⟨key, old, there⟩
      exact ⟨key, old, by rwa [olds key old]⟩
  have markers : markerOf d' = markerOf d := by
    unfold markerOf
    rw [marker]
  have left : leftover d' = leftover d :=
    List.countP_congr fun key old => by rw [olds key old]
  -- a record that was written is read again as it was written; the others are the same
  have again : loop (reread (changes.settled (0, 0) d' (planned d).1)) rechecked () =
      loop (reread (changes.settled (0, 0) d (planned d).1)) rechecked () := by
    apply loop_congr
    rintro ⟨k, id⟩ _ s
    unfold reread
    rw [load_shown ((Changes.applied_settled _ _ _ _).shows _)
      ((Changes.applied_settled _ _ _ _).shows _) (kept k id)]
  unfold script
  rw [any, markers, left, planned_congr olds]
  rcases plan : planned d with ⟨writes, result⟩
  rw [plan] at again
  cases result with
  | error x => rfl
  | ok written =>
    dsimp only at again ⊢
    rw [again]

end Course

end CgwFota.Cloud
