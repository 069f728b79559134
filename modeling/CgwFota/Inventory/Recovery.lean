import CgwFota.Inventory.StateStore

/-!
# Recovery after a restart

`StateRecovery` decides what to do with the job that was in flight when the last process ended. It
runs on an open store, before any service is offered.

## Main definitions

* `RecoveryPlan`: what is to be done, with which job and why
* `evict`, `DedupeState.complete`: the window of finished reports with a new entry
* `reconcileCompleted`, `recoverPhase`, `recover`: the methods of the source
* `startUp`: opening and recovering

## Main results

* `getLast_mem_evict`, `DedupeState.complete_knows`: the newest entry stays in the window
-/
namespace CgwFota.Inventory

open Crash

inductive RecoveryAction where
  | None | ReCollect | Resubmit | Retry | ReCollectFresh | Blocked
  deriving DecidableEq, Repr

structure RecoveryPlan where
  action : RecoveryAction := .None
  job : Option ActiveJobState := none
  reason : String := ""
  deriving DecidableEq, Repr

/-! ### The window of finished reports -/

/-- The loop that drops the oldest entries; a bound of zero means no bound. -/
def evict (maxEntries : Nat) : List DedupeEntry → List DedupeEntry
  | [] => []
  | e :: rest =>
    if (e :: rest).length > maxEntries ∧ maxEntries > 0 then evict maxEntries rest else e :: rest

/-- The entry that stands for a successful report. The deadline wraps around where the source's
addition would overflow. -/
def completedEntry (job : ActiveJobState) (lastSuccess : LastSuccessState) (ttlMs : Int64) :
    DedupeEntry :=
  { requestId := job.requestId
    reportId := lastSuccess.reportId
    snapshotSeq := lastSuccess.snapshotSeq
    fingerprints := lastSuccess.fingerprints
    overallResult := collectionStatusToString lastSuccess.overallResult
    completedAt := lastSuccess.completedAt
    expiresAt := if ttlMs > 0 then lastSuccess.completedAt + ttlMs else 0 }

/-- Whether the window has the report with this identifier and number. -/
def DedupeState.knows (window : DedupeState) (reportId : String) (snapshotSeq : UInt64) : Bool :=
  window.entries.any fun e => e.snapshotSeq = snapshotSeq && e.reportId = reportId

def DedupeState.complete (window : DedupeState) (job : ActiveJobState)
    (lastSuccess : LastSuccessState) : DedupeState :=
  { window with
    entries := evict window.maxEntries.toNat
      (window.entries ++ [completedEntry job lastSuccess window.ttlMs]) }

theorem evict_suffix (maxEntries : Nat) (entries : List DedupeEntry) :
    evict maxEntries entries <:+ entries := by
  induction entries with
  | nil => exact List.suffix_refl _
  | cons e rest ih =>
    unfold evict
    split
    · exact ih.trans (List.suffix_cons e rest)
    · exact List.suffix_refl _

/-- The newest entry is never dropped. -/
theorem getLast_mem_evict (maxEntries : Nat) (entries : List DedupeEntry) (e : DedupeEntry) :
    e ∈ evict maxEntries (entries ++ [e]) := by
  induction entries with
  | nil =>
    show e ∈ evict maxEntries [e]
    unfold evict
    -- a window of one entry is not full, as a bound of zero means no bound
    split
    next full =>
      obtain ⟨long, some⟩ := full
      simp only [List.length_cons, List.length_nil] at long
      omega
    next => simp
  | cons first rest ih =>
    show e ∈ evict maxEntries (first :: (rest ++ [e]))
    unfold evict
    split
    · exact ih
    · simp

theorem DedupeState.complete_knows (window : DedupeState) (job : ActiveJobState)
    (lastSuccess : LastSuccessState) :
    (window.complete job lastSuccess).knows lastSuccess.reportId lastSuccess.snapshotSeq := by
  unfold DedupeState.knows
  rw [List.any_eq_true]
  refine ⟨_, getLast_mem_evict _ _ (completedEntry job lastSuccess window.ttlMs), ?_⟩
  simp [completedEntry]

section Recovery

variable [JsonText]

/-- `StateRecovery::reconcileCompleted`. True means that the job is cleaned up. -/
def reconcileCompleted (job : ActiveJobState) : StoreM (Except StoreException Bool) := do
  match ← loadLastSuccess with
  | none => return .ok false
  | some lastSuccess =>
    if lastSuccess.reportId ≠ job.reportId ∨ lastSuccess.snapshotSeq ≠ job.snapshotSeq then
      return .ok false
    else
      let dedupe ← loadDedupe
      let saved ←
        if dedupe.knows lastSuccess.reportId lastSuccess.snapshotSeq then pure (.ok ())
        else saveDedupe (dedupe.complete job lastSuccess)
      match saved with
      | .error e => return .error e
      | .ok () =>
        match ← removeActiveJob with
        | .error e => return .error e
        | .ok () => return .ok true

/-- The stored sequence has fallen behind the last success. -/
def rolledBack : Option SequenceState → Option LastSuccessState → Bool
  | some seq, some lastSuccess => lastSuccess.snapshotSeq > seq.highestAllocated
  | _, _ => false

/-- The part of `StateRecovery::recover` that depends on the phase of the job. -/
def recoverPhase (job : ActiveJobState) : StoreM (Except StoreException RecoveryPlan) := do
  match job.phase with
  | .Accepted | .Collecting =>
    return .ok
      { action := .ReCollect, job := some job, reason := "re-collect with original reportId" }
  | .Assembled | .SubmitPrepared =>
    if job.snapshotSeq = 0 then
      return .ok
        { action := .ReCollect
          job := some job
          reason := "assembled but seq unallocated, re-collect" }
    else
      return .ok
        { action := .Resubmit, job := some job, reason := "resubmit with original idempotencyKey" }
  | .SubmitUnknown | .RetryWaiting =>
    return .ok
      { action := .Retry, job := some job, reason := "retry with original ids, result unknown" }
  | .CompletedPendingCleanup =>
    match ← reconcileCompleted job with
    | .error e => return .error e
    | .ok true => return .ok { action := .None, job := none, reason := "completed and cleaned up" }
    | .ok false =>
      return .ok
        { action := .ReCollect, job := some job, reason := "last_success mismatch, re-collect" }

/-- `StateRecovery::recover`. -/
def recover : StoreM (Except StoreException RecoveryPlan) := do
  if (← self).sequenceBlocked then
    return .ok { action := .Blocked, reason := "sequence blocked" }
  else
    let seq ← loadSequence
    let lastSuccess ← loadLastSuccess
    if rolledBack seq lastSuccess then
      return .ok { action := .Blocked, reason := "sequence rollback detected" }
    else
      match ← loadActiveJob with
      | none =>
        if (← self).activeJobCorrupted then
          return .ok { action := .ReCollectFresh, reason := "active_job corrupted" }
        else return .ok { action := .None, reason := "no active job" }
      | some job => recoverPhase job

/-- What the service does first when it starts. -/
def startUp (dedupeMaxEntries : UInt32) (dedupeTtlMs : Int64) :
    StoreM (Except StoreException RecoveryPlan) := do
  match ← openStore dedupeMaxEntries dedupeTtlMs with
  | .error e => return .error e
  | .ok object =>
    setSelf fun _ => object
    recover

end Recovery

end CgwFota.Inventory
