import CgwFota.Data.JsonText
import CgwFota.Inventory.Calm

/-!
# Jobs resubmitted after a restart

A recovered job that goes on under its own number should have been given that number. Only a number
of zero is checked, and only in two of the phases.

## Main definitions

* `NumberAllocated`: the number of the job was handed out.
* `ResubmitsAllocated`: what recovery comes back with keeps to allocated numbers.
* `NumberHarmless`: the number was allocated, or nobody looks at it.

## Main results

* `resubmits_allocated_iff`: the law holds exactly of harmless numbers.
* `unallocated_number_is_resubmitted`: a number that was never handed out.

## Proof strategy

Recovery has one branch for each way it can answer. In each of them the plan is read off, and what
was read of the store at the beginning is what is still stored.
-/
namespace CgwFota.Inventory

open Crash

section Resubmission

variable [JsonText]

/-- The number of the job was handed out, as far as a readable sequence record tells. -/
def NumberAllocated (object : FotaStateStore) (d : Disk) (job : ActiveJobState) : Prop :=
  ∃ s ∈ readSequence object d, 1 ≤ job.snapshotSeq ∧ job.snapshotSeq ≤ s.highestAllocated

instance {object : FotaStateStore} {d : Disk} {job : ActiveJobState} :
    Decidable (NumberAllocated object d job) :=
  inferInstanceAs (Decidable (∃ s ∈ readSequence object d, _))

/-- Recovery comes back with a plan. A plan that resubmits has a job with an allocated number, and
a job without one is collected again or blocked. -/
def ResubmitsAllocated (object : FotaStateStore) (d : Disk) :
    Except StoreException RecoveryPlan → Prop
  | .error _ => False
  | .ok plan =>
    (plan.action = .Resubmit ∨ plan.action = .Retry →
      ∃ job ∈ readActiveJob d, NumberAllocated object d job) ∧
    ∀ job ∈ readActiveJob d, ¬NumberAllocated object d job →
      plan.action = .ReCollect ∨ plan.action = .ReCollectFresh ∨ plan.action = .Blocked

instance {object : FotaStateStore} {d : Disk} :
    DecidablePred (ResubmitsAllocated object d)
  | .error _ => inferInstanceAs (Decidable False)
  | .ok _ => inferInstanceAs (Decidable (_ ∧ ∀ job ∈ readActiveJob d, _))

/-- The stored job, if there is one, has an allocated number or is not resubmitted. -/
def NumberHarmless (object : FotaStateStore) (d : Disk) : Prop :=
  Untrusted object d ∨
    ∀ job ∈ readActiveJob d, NumberAllocated object d job ∨ Recollects object d job

/-- The law holds of the plan exactly where the stored number is harmless. -/
theorem wp_recover_resubmits {e : Surroundings} (calm : e.Calm) {w : StoreWorld} :
    wp recover
      (fun r _ => ResubmitsAllocated w.self w.disk r ↔ NumberHarmless w.self w.disk)
      (fun _ => False) e w := by
  apply wp_recover_calm calm
  -- a sequence that is not trusted blocks everything
  · intro untrusted w' reason _
    refine iff_of_true ⟨by simp, ?_⟩ (Or.inl untrusted)
    exact fun _ _ _ => Or.inr (Or.inr rfl)
  -- no job: there is nothing to resubmit
  · intro _ none w' action reason idle _
    refine iff_of_true ⟨?_, by simp [none]⟩ (Or.inr (by simp [none]))
    rcases idle with rfl | rfl
    · simp
    · simp
  intro trusted job stored w' read
  have harmless : NumberHarmless w.self w.disk ↔
      NumberAllocated w.self w.disk job ∨ Recollects w.self w.disk job := by
    simp [NumberHarmless, trusted, stored]
  have law (plan : RecoveryPlan) : ResubmitsAllocated w.self w.disk (.ok plan) ↔
      (plan.action = .Resubmit ∨ plan.action = .Retry → NumberAllocated w.self w.disk job) ∧
      (¬NumberAllocated w.self w.disk job →
        plan.action = .ReCollect ∨ plan.action = .ReCollectFresh ∨ plan.action = .Blocked) := by
    simp [ResubmitsAllocated, stored]
  have reads : Recollects w'.self w'.disk job ↔ Recollects w.self w.disk job := by
    simp only [Recollects, Matches, read.disk, read.reads.lastSuccess]
  rw [harmless]
  apply wp_recoverPhase_calm calm
  -- a job that is collected again
  · intro recollects w'' reason _
    rw [law]
    refine iff_of_true ⟨by simp, ?_⟩ (Or.inr (reads.mp recollects))
    exact fun _ => Or.inl rfl
  -- a job that goes on under its number
  · intro resumes _ w'' action reason resumed _
    have kept : ¬Recollects w.self w.disk job := fun h => resumes (reads.mpr h)
    rw [law]
    rcases resumed with rfl | rfl
    · simp [kept]
    · simp [kept]
  -- a job whose result is known is completed
  · intro phase l success report number w'' writtenAt reason _ _ _
    have completed : ¬Recollects w.self w.disk job := by
      rw [read.disk, read.reads.lastSuccess] at success
      simp only [Recollects, phase, not_not]
      exact ⟨l, success, report, number⟩
    rw [law]
    simp [completed]

/-- Recovery comes back with a plan that resubmits only under an allocated number exactly if the
sequence is not trusted, or the number of the stored job was allocated, or the job is collected
again without a look at its number. -/
theorem resubmits_allocated_iff {e : Surroundings} (calm : e.Calm) (w : StoreWorld) :
    wp recover (fun r _ => ResubmitsAllocated w.self w.disk r) (fun _ => False) e w ↔
      NumberHarmless w.self w.disk := by
  constructor
  -- what was read is still stored
  · intro lawful
    apply of_wp
    apply wp_mono (wp_and lawful (wp_recover_resubmits calm))
    · rintro r w' ⟨law, same⟩
      exact same.mp law
    · exact fun _ h => h.1.elim
  · intro harmless
    apply wp_mono (wp_recover_resubmits calm)
    · exact fun _ _ same => same.mpr harmless
    · exact fun _ h => h

end Resubmission

section Example

/-- A clock that counts, and nothing else happens. -/
def quietly : @Surroundings compactText :=
  letI := compactText
  { clock := fun n => n.toInt64
    answer := fun _ => .served
    damage := fun _ => none }

theorem calm_quietly : @Surroundings.Calm compactText quietly :=
  letI := compactText
  ⟨fun _ => rfl, fun _ => rfl⟩

/-- One number was handed out, and a job of this number has been sent with unknown result. -/
def sentJob (snapshotSeq : UInt64) : StoreWorld :=
  letI := compactText
  let job : ActiveJobState :=
    { reportId := "rpt-1", snapshotSeq, phase := .SubmitUnknown, idempotencyKey := "idem-1" }
  let empty : Disk := fun _ => none
  { disk := (empty.put keys.SEQUENCE (encodeSequence 0 { highestAllocated := 1 })).put
      keys.ACTIVE_JOB (encodeActiveJob 0 job) }

theorem sentJob_allocated :
    letI := compactText
    ∀ job ∈ readActiveJob (sentJob 1).disk,
      NumberAllocated (sentJob 1).self (sentJob 1).disk job := by
  decide +kernel

theorem sentJob_harmless : @NumberHarmless compactText (sentJob 1).self (sentJob 1).disk :=
  Or.inr fun job stored => Or.inl (sentJob_allocated job stored)

/-- And it is resubmitted under its number. -/
theorem resubmits_allocated_first :
    letI := compactText
    NumberHarmless (sentJob 1).self (sentJob 1).disk ∧
    wp recover (fun r _ => ResubmitsAllocated (sentJob 1).self (sentJob 1).disk r)
      (fun _ => False) quietly (sentJob 1) := by
  refine ⟨sentJob_harmless, ?_⟩
  rw [@resubmits_allocated_iff compactText quietly calm_quietly (sentJob 1)]
  exact sentJob_harmless

/-- A number that was never handed out is submitted all the same. -/
theorem unallocated_number_is_resubmitted :
    letI := compactText
    quietly.Calm ∧
    ¬wp recover
      (fun r _ => ResubmitsAllocated (sentJob 2).self (sentJob 2).disk r)
      (fun _ => False) quietly (sentJob 2) :=
  ⟨calm_quietly, by decide +kernel⟩

end Example

end CgwFota.Inventory
