import CgwFota.Inventory.Recovery

/-!
# What the accessors leave alone

Apart from the allocation and the opening, the methods of the store write other keys than the
sequence's and leave the flag of a blocked sequence as it is. A relation between worlds that such
effects keep is kept by these methods and by recovery.

## Main definition

* `Tolerates`: effects that have nothing to do with the sequence lead to related worlds

## Main results

* `Tolerates.saveActiveJob` and its siblings: the saves of the other states
* `Tolerates.recover`: a recovery, whatever it finds
-/
namespace CgwFota.Inventory

open Crash

section Frames

variable [JsonText]

/-- Effects that have nothing to do with the sequence lead to related worlds. -/
structure Tolerates (e : Surroundings) (R : StoreWorld → StoreWorld → Prop) : Prop where
  request : ∀ {α : Type} {write : Disk → Disk}
    {read : Surroundings → Disk → Except StoreException α},
    (∀ d, write d keys.SEQUENCE = d keys.SEQUENCE) → Follows e R R (request write read)
  nowMs : Follows e R R nowMs
  setSelf : ∀ f : FotaStateStore → FotaStateStore,
    (∀ object, (f object).sequenceBlocked = object.sequenceBlocked) → Follows e R R (setSelf f)

variable {e : Surroundings} {R : StoreWorld → StoreWorld → Prop}

namespace Tolerates

theorem save (tolerates : Tolerates e R) {key : String} (other : key ≠ keys.SEQUENCE)
    (bytes : Bytes) : Follows e R R (save key bytes) :=
  tolerates.request fun d => Disk.put_ne d bytes (Ne.symm other)

theorem remove (tolerates : Tolerates e R) {key : String} (other : key ≠ keys.SEQUENCE) :
    Follows e R R (remove key) :=
  tolerates.request fun d => Disk.remove_ne d (Ne.symm other)

theorem removeActiveJob (tolerates : Tolerates e R) : Follows e R R removeActiveJob :=
  tolerates.remove (by decide)

variable [IsPreorder StoreWorld R]

theorem self : Follows e R R self := fun w => refl_of R w

variable [Trans R R R] (tolerates : Tolerates e R)
include tolerates

theorem fetch {σ : Type} (key : String) (decodeFn : Bytes → Except StateDecodeError σ) :
    Follows e R R (fetch key decodeFn) := by
  apply (tolerates.request fun _ => rfl).bind
  rintro (_ | _ | _)
  · exact .pure _
  · exact .pure _
  · apply (tolerates.request fun _ => rfl).bind
    rintro (_ | bytes)
    · exact .pure _
    · dsimp only
      cases decodeFn bytes with
      | error _ => exact .pure _
      | ok _ => exact .pure _

/-! ### Accessors -/

theorem loadSequence : Follows e R R loadSequence := by
  apply self.bind
  intro object
  apply Follows.ite
  · exact fun _ => .pure _
  intro _
  apply (tolerates.fetch _ _).bind
  rintro (_ | _)
  · exact .pure _
  · exact .pure _

/-- Loading the last success reads, and may give the record up. -/
theorem loadLastSuccess : Follows e R R loadLastSuccess := by
  apply self.bind
  intro object
  apply Follows.ite
  · intro _
    apply (tolerates.fetch _ _).bind
    rintro (_ | _)
    · exact (tolerates.setSelf _ (by exact fun _ => rfl)).bind fun _ => .pure _
    · exact .pure _
  · exact fun _ => .pure _

/-- Loading the window reads, and may give it up. -/
theorem loadDedupe : Follows e R R loadDedupe := by
  apply self.bind
  intro object
  apply self.bind
  intro object'
  apply Follows.ite
  · intro _
    apply (tolerates.fetch _ _).bind
    rintro (_ | _ | _)
    · exact (tolerates.setSelf _ (by exact fun _ => rfl)).bind fun _ => .pure _
    · exact .pure _
    · exact .pure _
  · exact fun _ => .pure _

theorem loadActiveJob : Follows e R R loadActiveJob := by
  apply (tolerates.fetch _ _).bind
  rintro (_ | _)
  · exact (tolerates.setSelf _ (by exact fun _ => rfl)).bind fun _ => .pure _
  · exact .pure _

theorem saveLastSuccess (s : LastSuccessState) : Follows e R R (saveLastSuccess s) := by
  apply tolerates.nowMs.bind
  intro writtenAt
  apply (tolerates.save (by decide) _).bind
  rintro (_ | _)
  · exact .pure _
  · exact (tolerates.setSelf _ (by exact fun _ => rfl)).bind fun _ => .pure _

theorem saveDedupe (s : DedupeState) : Follows e R R (saveDedupe s) := by
  apply tolerates.nowMs.bind
  intro writtenAt
  apply (tolerates.save (by decide) _).bind
  rintro (_ | _)
  · exact .pure _
  · exact (tolerates.setSelf _ (by exact fun _ => rfl)).bind fun _ => .pure _

theorem saveActiveJob (s : ActiveJobState) : Follows e R R (saveActiveJob s) :=
  tolerates.nowMs.bind fun _ => tolerates.save (by decide) _

/-! ### Recovery -/

/-- Cleaning up a completed job leaves the sequence alone. -/
theorem reconcileCompleted (job : ActiveJobState) : Follows e R R (reconcileCompleted job) := by
  apply tolerates.loadLastSuccess.bind
  rintro (_ | lastSuccess)
  · exact .pure _
  apply Follows.ite
  · exact fun _ => .pure _
  intro _
  apply tolerates.loadDedupe.bind
  intro window
  -- with or without a new entry in the window, the job is removed last
  refine Follows.ite (fun _ => (Follows.pure _).bind ?_) fun _ => (tolerates.saveDedupe _).bind ?_
  all_goals
    rintro (_ | _)
    · exact .pure _
    · apply tolerates.removeActiveJob.bind
      rintro (_ | _)
      · exact .pure _
      · exact .pure _

/-- The recovery of a job leaves the sequence alone, whatever its phase. -/
theorem recoverPhase (job : ActiveJobState) : Follows e R R (recoverPhase job) := by
  unfold Inventory.recoverPhase
  -- only a completed job is written for
  cases job.phase with
  | Accepted | Collecting | SubmitUnknown | RetryWaiting => exact .pure _
  | Assembled | SubmitPrepared => exact .ite (fun _ => .pure _) fun _ => .pure _
  | CompletedPendingCleanup =>
    apply (tolerates.reconcileCompleted job).bind
    rintro (_ | _ | _)
    · exact .pure _
    · exact .pure _
    · exact .pure _

/-- A recovery reads the sequence, and writes nothing of it. -/
theorem recover : Follows e R R recover := by
  apply self.bind
  intro object
  apply Follows.ite
  · exact fun _ => .pure _
  intro _
  apply tolerates.loadSequence.bind
  intro seq
  apply tolerates.loadLastSuccess.bind
  intro lastSuccess
  apply Follows.ite
  · exact fun _ => .pure _
  intro _
  apply tolerates.loadActiveJob.bind
  rintro (_ | job)
  · exact self.bind fun _ => .ite (fun _ => .pure _) fun _ => .pure _
  · exact tolerates.recoverPhase job

end Tolerates

end Frames

end CgwFota.Inventory
