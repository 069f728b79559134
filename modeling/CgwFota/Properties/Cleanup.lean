import CgwFota.Data.JsonText
import CgwFota.Inventory.Interrupted
import CgwFota.Inventory.Opening

/-!
# Jobs survive recovery

A job is removed only when its success is on record, and then the window knows its report. Cut short
and started again, a recovery ends in the same states. What can go wrong is the window: it is saved
without a look at whether its text still fits the envelope.

## Main definitions

* `Due`: the stored job is complete and its success is on record.
* `Spared`, `Recorded`: what may have become of the job, and of its report.
* `Resumes`: a recovery that was cut short is made up for by the next start.
* `RecoversSafely`: all of this, for every surroundings in which nothing is damaged.
* `WindowFits`: the exact condition, on the store alone.

## Main results

* `recovers_safely_iff`: recovery is safe exactly where the window still fits.
* `crowded_window_is_lost`: a window just below the limit is overwritten by one that cannot be read.

## Proof strategy

A quiet recovery either only reads or cleans up a job that is due, and `cleanedUp` says in one term
what the disk is then. For the way there, the states between which a crash can fall are the four of
`Recovers`; from each of them the next start is walked to its end and compared with the whole
recovery.
-/
namespace CgwFota.Inventory

open Crash

/-! ### Windows -/

/-- How often the window has this report. -/
def DedupeState.occurrences (window : DedupeState) (reportId : String)
    (snapshotSeq : UInt64) : Nat :=
  window.entries.countP fun e => e.snapshotSeq = snapshotSeq && e.reportId = reportId

theorem DedupeState.knows_iff {window : DedupeState} {reportId : String} {snapshotSeq : UInt64} :
    window.knows reportId snapshotSeq ↔ 0 < window.occurrences reportId snapshotSeq := by
  unfold DedupeState.knows DedupeState.occurrences
  rw [List.any_eq_true, List.countP_pos_iff]

/-- A report that was not known occurs once after it was added. -/
theorem DedupeState.occurrences_complete {window : DedupeState} {job : ActiveJobState}
    {l : LastSuccessState} (unknown : ¬window.knows l.reportId l.snapshotSeq) :
    (window.complete job l).occurrences l.reportId l.snapshotSeq = 1 := by
  have before : window.occurrences l.reportId l.snapshotSeq = 0 := by
    have none := mt DedupeState.knows_iff.mpr unknown
    omega
  have after := DedupeState.knows_iff.mp (window.complete_knows job l)
  -- what an eviction leaves is a suffix, so nothing occurs more often than before
  have shorter := (evict_suffix window.maxEntries.toNat
    (window.entries ++ [completedEntry job l window.ttlMs])).sublist.countP_le
      (p := fun e => e.snapshotSeq = l.snapshotSeq && e.reportId = l.reportId)
  unfold DedupeState.occurrences at before after ⊢
  rw [List.countP_append, before, List.countP_singleton] at shorter
  simp only [completedEntry] at shorter
  simp only [DedupeState.complete] at after ⊢
  simp only [decide_true, Bool.and_self, if_true] at shorter
  exact Nat.le_antisymm shorter after

/-- Adding the report of a recorded success keeps a window valid. -/
theorem DedupeState.Valid.complete {window : DedupeState} {job : ActiveJobState}
    {l : LastSuccessState} (valid : window.Valid) (success : l.Valid) :
    (window.complete job l).Valid := by
  intro e member
  have inside := (evict_suffix _ _).subset member
  rcases List.mem_append.mp inside with old | new
  · exact valid e old
  · rw [List.mem_singleton] at new
    subst new
    exact success.fingerprints

section Cleanup

variable [JsonText] {object : FotaStateStore} {d d' : Disk}

/-- The window that is read is the stored one, with the configured bounds, or an empty one. -/
theorem readDedupe_cases (object : FotaStateStore) (d : Disk) :
    readDedupe object d = object.emptyDedupe ∨
      ∃ window, decoded decodeDedupe (d keys.DEDUPE) = some window ∧
        readDedupe object d =
          { window with maxEntries := object.dedupeMaxEntries, ttlMs := object.dedupeTtlMs } := by
  unfold readDedupe
  split
  next => exact Or.inl rfl
  next window stored =>
    by_cases available : object.dedupeAvailable
    · rw [if_pos available] at stored
      exact Or.inr ⟨window, stored, rfl⟩
    · simp [available] at stored

/-- The window that recovery reads is of the current version and valid. -/
theorem readDedupe_valid (object : FotaStateStore) (d : Disk) :
    (readDedupe object d).schemaVersion = schema.DEDUPE_VERSION ∧ (readDedupe object d).Valid := by
  rcases readDedupe_cases object d with same | ⟨window, stored, same⟩
  · rw [same]
    exact ⟨rfl, nofun⟩
  · rw [same]
    obtain ⟨bytes, _, read⟩ := decoded_eq_some.mp stored
    exact sound_dedupe bytes window read

/-! ### The law -/

/-- The stored job is complete and its success is on record. -/
structure Due (object : FotaStateStore) (d : Disk) (job : ActiveJobState) (l : LastSuccessState) :
    Prop where
  stored : readActiveJob d = some job
  phase : job.phase = .CompletedPendingCleanup
  lastSuccess : readLastSuccess object d = some l
  reportId : l.reportId = job.reportId
  snapshotSeq : l.snapshotSeq = job.snapshotSeq

/-- Neither the sequence nor the last success changed, and the job is what it was, or was due and
is gone. -/
structure Spared (object : FotaStateStore) (d d' : Disk) : Prop where
  sequence : d' keys.SEQUENCE = d keys.SEQUENCE
  lastSuccess : d' keys.LAST_SUCCESS = d keys.LAST_SUCCESS
  job : d' keys.ACTIVE_JOB = d keys.ACTIVE_JOB ∨
    d' keys.ACTIVE_JOB = none ∧ ∃ job l, Due object d job l

/-- If the job is gone, the stored window knows its report. -/
def Recorded (d d' : Disk) : Prop :=
  ∀ job, readActiveJob d = some job → d' keys.ACTIVE_JOB = none →
    ∃ window, decoded decodeDedupe (d' keys.DEDUPE) = some window ∧
      window.knows job.reportId job.snapshotSeq

/-- A plan came back, and it has the stored job, unless that was removed or the sequence is not
trusted. -/
def PlanKeeps (object : FotaStateStore) (d d' : Disk) (r : Except StoreException RecoveryPlan) :
    Prop :=
  ∃ plan, r = .ok plan ∧ ∀ job, readActiveJob d = some job → ¬Untrusted object d →
    d' keys.ACTIVE_JOB = d keys.ACTIVE_JOB → plan.job = some job

/-- The same values, up to the time at which the window was written. -/
structure SameStates (d d' : Disk) : Prop where
  dedupe : d' keys.DEDUPE = d keys.DEDUPE ∨ ∃ window t t',
    d keys.DEDUPE = some (encodeDedupe t window) ∧ d' keys.DEDUPE = some (encodeDedupe t' window)
  others : ∀ k, k ≠ keys.DEDUPE → d' k = d k

/-- What a start after a crash ends in: the states of a recovery that was not interrupted, and the
report of a job that was due is added at most once. -/
structure Resumed (w resumed : StoreWorld) : Prop where
  states : ∀ e : Surroundings, e.Calm →
    wp recover (fun _ whole => SameStates whole.disk resumed.disk) (fun _ => False) e w
  recorded : ∀ job l, ¬Untrusted w.self w.disk → Due w.self w.disk job l →
    resumed.disk keys.ACTIVE_JOB = none ∧
    ∃ window, decoded decodeDedupe (resumed.disk keys.DEDUPE) = some window ∧
      window.occurrences l.reportId l.snapshotSeq =
        max 1 ((readDedupe w.self w.disk).occurrences l.reportId l.snapshotSeq)

/-- A recovery that was cut short is made up for by the next start of the service. -/
def Resumes (w cut : StoreWorld) : Prop :=
  ∀ e : Surroundings, e.Calm → wp (startUp w.self.dedupeMaxEntries w.self.dedupeTtlMs)
    (fun _ resumed => Resumed w resumed) (fun _ => False) e cut

/-- Recovery neither loses nor falsely completes a job. -/
structure RecoversSafely (w : StoreWorld) : Prop where
  spares : ∀ e : Surroundings, e.Intact →
    wp recover (fun _ w' => Spared w.self w.disk w'.disk)
      (fun w' => Spared w.self w.disk w'.disk) e w
  records : ∀ e : Surroundings, e.Intact → ¬e.Refuses →
    wp recover (fun _ w' => Recorded w.disk w'.disk) (fun w' => Recorded w.disk w'.disk) e w
  plans : ∀ e : Surroundings, e.Calm →
    wp recover (fun r w' => PlanKeeps w.self w.disk w'.disk r) (fun _ => False) e w
  resumes : AllSettled w.disk w.self → ∀ e : Surroundings, e.Intact → ¬e.Refuses →
    wp recover (fun _ _ => True) (fun cut => Resumes w cut.endProcess) e w
  settles : ∀ e : Surroundings, e.Calm →
    wp recover (fun _ w' => ∀ e' : Surroundings, e'.Calm →
      wp recover (fun _ w'' => w''.disk = w'.disk) (fun _ => False) e' w') (fun _ => False) e w

/-- If a job is due and its report is not known yet, the window with its report still fits. -/
def WindowFits (object : FotaStateStore) (d : Disk) : Prop :=
  ¬Untrusted object d → ∀ job l, Due object d job l →
    ¬(readDedupe object d).knows l.reportId l.snapshotSeq →
      dedupeFormat.Fits ((readDedupe object d).complete job l)

/-! ### What is spared -/

theorem CleansUp.due {e : Surroundings} {job : ActiveJobState} {l : LastSuccessState}
    {window : DedupeState} (cleans : CleansUp e object d job l window) : Due object d job l :=
  ⟨cleans.stored, cleans.phase, cleans.lastSuccess, cleans.reportId, cleans.snapshotSeq⟩

theorem spared_of_recovers {e : Surroundings} (recovers : Recovers e object d d') :
    Spared object d d' := by
  refine ⟨recovers.frame (by decide) (by decide), recovers.frame (by decide) (by decide), ?_⟩
  cases recovers with
  | untouched => exact Or.inl rfl
  | removed cleans known => exact Or.inr ⟨if_pos rfl, _, _, cleans.due⟩
  | added cleans unknown writtenAt => exact Or.inl (Disk.put_ne _ _ (by decide))
  | addedRemoved cleans unknown writtenAt => exact Or.inr ⟨if_pos rfl, _, _, cleans.due⟩

theorem stored_of_readActiveJob {job : ActiveJobState} (stored : readActiveJob d = some job) :
    d keys.ACTIVE_JOB ≠ none := by
  intro absent
  simp [readActiveJob, absent, decoded] at stored

/-- A window that knows a report is one that is stored. -/
theorem stored_of_knows {reportId : String} {snapshotSeq : UInt64}
    (known : (readDedupe object d).knows reportId snapshotSeq) :
    ∃ window, decoded decodeDedupe (d keys.DEDUPE) = some window ∧
      window.entries = (readDedupe object d).entries := by
  rcases readDedupe_cases object d with same | ⟨window, stored, same⟩
  · rw [same] at known
    simp [FotaStateStore.emptyDedupe, DedupeState.knows] at known
  · exact ⟨window, stored, by rw [same]⟩

/-- The other direction, for a window that is trusted and reads back. -/
theorem knows_of_stored {bytes : Bytes} {window : DedupeState} {reportId : String}
    {snapshotSeq : UInt64} (available : object.dedupeAvailable)
    (stored : d keys.DEDUPE = some bytes) (read : decodeDedupe bytes = .ok window)
    (known : window.knows reportId snapshotSeq) :
    (readDedupe object d).knows reportId snapshotSeq := by
  have decodes : decoded decodeDedupe (d keys.DEDUPE) = some window :=
    decoded_eq_some.mpr ⟨bytes, stored, read⟩
  unfold readDedupe
  rw [if_pos available, decodes]
  exact known

/-- The window with the report of a job that is due is a valid one. -/
theorem Due.complete {job : ActiveJobState} {l : LastSuccessState} (due : Due object d job l) :
    ((readDedupe object d).complete job l).schemaVersion = schema.DEDUPE_VERSION ∧
      ((readDedupe object d).complete job l).Valid := by
  obtain ⟨current, valid⟩ := readDedupe_valid object d
  obtain ⟨_, stored⟩ := readLastSuccess_eq_some.mp due.lastSuccess
  obtain ⟨bytes, _, read⟩ := decoded_eq_some.mp stored
  exact ⟨current, valid.complete (sound_lastSuccess bytes l read).2⟩

/-- Two stores that tell a recovery the same about the job. -/
structure Alike (object : FotaStateStore) (d : Disk) (object' : FotaStateStore) (d' : Disk) :
    Prop where
  blocked : object'.sequenceBlocked = object.sequenceBlocked
  sequence : readSequence object' d' = readSequence object d
  lastSuccess : readLastSuccess object' d' = readLastSuccess object d
  job : readActiveJob d' = readActiveJob d

namespace Alike

variable {object' : FotaStateStore}

/-- Objects with the same flags over the same values are alike. -/
theorem of_same (blocked : object'.sequenceBlocked = object.sequenceBlocked)
    (available : object'.lastSuccessAvailable = object.lastSuccessAvailable)
    (sequence : d' keys.SEQUENCE = d keys.SEQUENCE)
    (lastSuccess : d' keys.LAST_SUCCESS = d keys.LAST_SUCCESS)
    (job : d' keys.ACTIVE_JOB = d keys.ACTIVE_JOB) : Alike object d object' d' where
  blocked := blocked
  sequence := by simp only [readSequence, blocked, sequence]
  lastSuccess := by simp only [readLastSuccess, available, lastSuccess]
  job := by simp only [readActiveJob, job]

theorem untrusted (alike : Alike object d object' d') :
    Untrusted object' d' ↔ Untrusted object d := by
  unfold Untrusted
  rw [alike.blocked, alike.sequence, alike.lastSuccess]

theorem due (alike : Alike object d object' d') {job : ActiveJobState} {l : LastSuccessState} :
    Due object' d' job l ↔ Due object d job l := by
  constructor
  · rintro ⟨stored, phase, success, report, number⟩
    exact ⟨alike.job ▸ stored, phase, alike.lastSuccess ▸ success, report, number⟩
  · rintro ⟨stored, phase, success, report, number⟩
    exact ⟨alike.job.trans stored, phase, alike.lastSuccess.trans success, report, number⟩

end Alike

/-! ### Where every request is served -/

section Calm

variable {e : Surroundings} {w : StoreWorld} {C : StoreWorld → Prop}
  {Q : Except StoreException RecoveryPlan → StoreWorld → Prop}

/-- A recovery either only reads, and its plan has the job, or it cleans up a job that is due. -/
theorem wp_recover_cases (calm : e.Calm)
    (quiet : (∀ job l, ¬Untrusted w.self w.disk → ¬Due w.self w.disk job l) →
      ∀ plan w', OnlyRead w w' →
      (∀ job, readActiveJob w.disk = some job → ¬Untrusted w.self w.disk → plan.job = some job) →
      Q (.ok plan) w')
    (cleaned : ∀ job l, ¬Untrusted w.self w.disk → Due w.self w.disk job l → ∀ plan w' writtenAt,
      ((readDedupe w.self w.disk).knows l.reportId l.snapshotSeq →
        SameReads w.disk w.self w'.self) →
      (¬(readDedupe w.self w.disk).knows l.reportId l.snapshotSeq → w'.self.dedupeAvailable) →
      w'.disk = cleanedUp w.self w.disk job l writtenAt → Q (.ok plan) w') :
    wp recover Q C e w := by
  -- the sequence is not trusted: the recovery only reads
  apply wp_recover_calm calm
  · intro untrusted w' reason read
    exact quiet (fun _ _ trusted => absurd untrusted trusted) _ _ read
      fun _ _ trusted => absurd untrusted trusted
  -- there is no job
  · intro trusted none w' action reason _ read
    refine quiet (fun job l _ due => ?_) _ _ read fun job stored => ?_
    · cases none.symm.trans due.stored
    · cases none.symm.trans stored
  -- there is a job; it is in the plan whatever the phase says
  intro trusted job stored w' read
  have keeps : ∀ job', readActiveJob w.disk = some job' → ¬Untrusted w.self w.disk →
      some job = some job' := by
    intro job' stored' _
    rw [← stored, ← stored']
  -- the phase asks for the success, and finds none of this job
  apply wp_recoverPhase_calm calm
  · intro recollects w'' reason read'
    refine quiet (fun job' l _ due => ?_) _ _ (read.trans read') keeps
    have same := stored.symm.trans due.stored
    cases same
    simp only [Recollects, due.phase, Matches, read.disk, read.reads.lastSuccess] at recollects
    exact recollects ⟨l, due.lastSuccess, due.reportId, due.snapshotSeq⟩
  -- the phase is not the last one
  · intro _ phase w'' action reason _ read'
    refine quiet (fun job' l _ due => ?_) _ _ (read.trans read') keeps
    have same := stored.symm.trans due.stored
    cases same
    exact phase due.phase
  -- the job is complete and its success on record: it is cleaned up
  · intro phase l success report number w'' writtenAt reason reads writes disk
    rw [read.disk] at success disk reads writes
    rw [read.reads.lastSuccess] at success
    rw [read.reads.dedupe] at reads writes
    apply cleaned job l trusted ⟨stored, phase, success, report, number⟩ _ _ writtenAt
    · exact fun known => read.reads.trans (reads known)
    · exact writes
    · rw [disk]
      simp only [cleanedUp, read.reads.dedupe]

/-- Once a job was cleaned up there is none. -/
theorem readActiveJob_cleanedUp {job : ActiveJobState} {l : LastSuccessState} {writtenAt : Int64} :
    readActiveJob (cleanedUp object d job l writtenAt) = none := by
  simp [readActiveJob, cleanedUp, Disk.remove, decoded]

theorem Due.unique {job job' : ActiveJobState} {l l' : LastSuccessState} (due : Due object d job l)
    (due' : Due object d job' l') : job' = job ∧ l' = l := by
  have job := due'.stored.symm.trans due.stored
  have success := due'.lastSuccess.symm.trans due.lastSuccess
  cases job
  cases success
  exact ⟨rfl, rfl⟩

/-- Every plan comes back with the stored job, unless that was removed or the sequence is not
trusted. -/
theorem wp_recover_plans (calm : e.Calm) :
    wp recover (fun r w' => PlanKeeps w.self w.disk w'.disk r) C e w := by
  apply wp_recover_cases calm
  · intro _ plan w' read keeps
    exact ⟨plan, rfl, fun job stored trusted _ => keeps job stored trusted⟩
  · intro job l _ due plan w' writtenAt _ _ disk
    refine ⟨plan, rfl, fun job' stored _ kept => ?_⟩
    rw [disk] at kept
    simp only [cleanedUp, Disk.remove, if_true] at kept
    exact absurd kept.symm (stored_of_readActiveJob stored)

/-- With nothing due, a recovery leaves the disk alone. -/
theorem wp_recover_idle (calm : e.Calm)
    (idle : ∀ job l, ¬Untrusted w.self w.disk → ¬Due w.self w.disk job l) :
    wp recover (fun _ w' => w'.disk = w.disk) C e w := by
  apply wp_recover_cases calm
  · exact fun _ _ w' read _ => read.disk
  · exact fun job l trusted due => absurd due (idle job l trusted)

/-- A recovery that follows on a recovery has nothing to do. -/
theorem wp_recover_settles (calm : e.Calm) :
    wp recover (fun _ w' => ∀ e' : Surroundings, e'.Calm →
      wp recover (fun _ w'' => w''.disk = w'.disk) (fun _ => False) e' w') C e w := by
  apply wp_recover_cases calm
  · intro idle plan w' read _ e' calm'
    have alike : Alike w.self w.disk w'.self w'.disk := by
      rw [read.disk]
      exact ⟨read.reads.blocked, read.reads.sequence, read.reads.lastSuccess, rfl⟩
    apply wp_recover_idle calm'
    intro job l trusted due
    exact idle job l (fun h => trusted (alike.untrusted.mpr h)) (alike.due.mp due)
  -- the job is gone, so nothing is due any more
  · intro job l _ _ plan w' writtenAt _ _ disk e' calm'
    apply wp_recover_idle calm'
    intro job' l' _ due
    have stored := due.stored
    rw [disk, readActiveJob_cleanedUp] at stored
    cases stored

/-- Where there is nothing for an opening to do, a start goes straight to the recovery. -/
theorem wp_startUp_settled (calm : e.Calm)
    (settled : AllSettled w.disk object)
    (next : ∀ tick, wp recover Q C e { w with self := object, tick }) :
    wp (startUp object.dedupeMaxEntries object.dedupeTtlMs) Q C e w := by
  unfold startUp
  rw [wp_bind]
  apply wp_openStore_calm calm
  intro t₀ t₁ t₂ t₃ tick
  rw [settled.opened]
  dsimp only
  rw [wp_bind, wp_setSelf]
  exact next tick

/-- Two recoveries leave the same states, whatever the time at which they wrote the window. -/
theorem sameStates_cleanedUp {job : ActiveJobState} {l : LastSuccessState} (t t' : Int64) :
    SameStates (cleanedUp object d job l t) (cleanedUp object d job l t') := by
  unfold cleanedUp
  by_cases known : (readDedupe object d).knows l.reportId l.snapshotSeq
  · simp only [if_pos known]
    exact ⟨Or.inl rfl, fun _ _ => rfl⟩
  · simp only [if_neg known]
    constructor
    · refine Or.inr ⟨(readDedupe object d).complete job l, t, t', ?_, ?_⟩
      · rw [Disk.remove_ne _ (by decide), Disk.put_self]
      · rw [Disk.remove_ne _ (by decide), Disk.put_self]
    · intro k other
      by_cases here : k = keys.ACTIVE_JOB
      · simp [Disk.remove, here]
      · rw [Disk.remove_ne _ here, Disk.remove_ne _ here, Disk.put_ne _ _ other,
          Disk.put_ne _ _ other]

/-- Where nothing was due, any end with the same disk will do. -/
theorem resumed_of_idle {resumed : StoreWorld}
    (idle : ∀ job l, ¬Untrusted w.self w.disk → ¬Due w.self w.disk job l)
    (disk : resumed.disk = w.disk) : Resumed w resumed where
  states e calm := by
    apply wp_mono (wp_recover_idle calm idle)
    · intro _ whole same
      rw [same, disk]
      exact ⟨Or.inl rfl, fun _ _ => rfl⟩
    · exact fun _ h => h
  recorded job l trusted due := absurd due (idle job l trusted)

/-- With no job left, a start changes nothing. -/
theorem wp_startUp_gone (calm : e.Calm) (settled : AllSettled w.disk object)
    (gone : w.disk keys.ACTIVE_JOB = none) :
    wp (startUp object.dedupeMaxEntries object.dedupeTtlMs) (fun _ w' => w'.disk = w.disk) C e
      w := by
  apply wp_startUp_settled calm settled
  intro tick
  apply wp_recover_idle (w := { w with self := object, tick }) calm
  exact fun job l _ due => stored_of_readActiveJob due.stored gone

/-- A quiet recovery removes a job that is due, and then its report has to be in the window. -/
theorem windowFits_of_records {w : StoreWorld}
    (records : wp recover (fun _ w' => Recorded w.disk w'.disk)
      (fun w' => Recorded w.disk w'.disk) undisturbed w) : WindowFits w.self w.disk := by
  intro trusted job l due unknown
  apply of_wp
  have cleaned : wp recover
      (fun _ w' => ∃ writtenAt, w'.disk = cleanedUp w.self w.disk job l writtenAt)
      (fun _ => False) undisturbed w := by
    -- the undisturbed recovery writes the window and removes the job
    apply wp_recover_cases calm_undisturbed
    · exact fun idle => absurd due (idle job l trusted)
    · intro job' l' _ due' plan w' writtenAt _ _ disk
      obtain ⟨rfl, rfl⟩ := due.unique due'
      exact ⟨writtenAt, disk⟩
  apply wp_mono (wp_and records cleaned)
  · rintro r w' ⟨recorded, writtenAt, disk⟩
    rw [disk] at recorded
    obtain ⟨window, stored, _⟩ := recorded job due.stored (by simp [cleanedUp, Disk.remove])
    rw [cleanedUp, Disk.remove_ne _ (by decide), if_neg unknown, Disk.put_self] at stored
    -- so the window that is there has to read back, which it does only if it fits
    obtain ⟨bytes, same, read⟩ := decoded_eq_some.mp stored
    cases same
    by_contra long
    obtain ⟨x, refused⟩ := dedupeFormat.decode_encode_long writtenAt long
    exact absurd (refused.symm.trans read) (by simp)
  · exact fun w' h => h.2.elim

theorem windowFits_of_recoversSafely {w : StoreWorld} (safe : RecoversSafely w) :
    WindowFits w.self w.disk := by
  apply windowFits_of_records
  apply safe.records undisturbed calm_undisturbed.intact
  rintro ⟨n, x, written, refused⟩
  cases refused

end Calm

/-! ### After a crash -/

section Lawful

variable [LawfulJsonText] {job : ActiveJobState} {l : LastSuccessState}

/-- The window with a new report reads back exactly if it fits. -/
theorem decode_complete_iff (due : Due object d job l) (writtenAt : Int64) :
    decodeDedupe (encodeDedupe writtenAt ((readDedupe object d).complete job l)) =
        .ok ((readDedupe object d).complete job l) ↔
      dedupeFormat.Fits ((readDedupe object d).complete job l) := by
  obtain ⟨current, valid⟩ := due.complete
  exact faithful_dedupe.decode_encode_iff writtenAt current valid

/-- Where the window fits, a job that is gone has its report in the stored window, at whatever point
the recovery was cut. -/
theorem recorded_of_recovers {e : Surroundings} (served : ¬e.Refuses) (fits : WindowFits object d)
    (recovers : Recovers e object d d') : Recorded d d' := by
  intro job stored gone
  cases recovers with
  | untouched => exact absurd gone (stored_of_readActiveJob stored)
  | added cleans unknown writtenAt =>
    rw [Disk.put_ne _ _ (by decide)] at gone
    exact absurd gone (stored_of_readActiveJob stored)
  -- the report was known before: the stored window has it
  | removed cleans known =>
    have window := cleans.window.resolve_right fun h => served h.1
    rw [window, cleans.reportId, cleans.snapshotSeq] at known
    obtain ⟨window, read, entries⟩ := stored_of_knows known
    have same := stored.symm.trans cleans.stored
    cases same
    refine ⟨window, by rwa [Disk.remove_ne _ (by decide)], ?_⟩
    unfold DedupeState.knows at known ⊢
    rwa [entries]
  -- the report was added: the new window fits, so it reads back
  | addedRemoved cleans unknown writtenAt =>
    have trusted := cleans.trusted.resolve_right served
    have window := cleans.window.resolve_right fun h => served h.1
    have same := stored.symm.trans cleans.stored
    cases same
    rw [window] at unknown ⊢
    have back := (decode_complete_iff cleans.due writtenAt).mpr
      (fits trusted _ _ cleans.due unknown)
    refine ⟨_, decoded_eq_some.mpr ⟨_, ?_, back⟩, ?_⟩
    · rw [Disk.remove_ne _ (by decide), Disk.put_self]
    · rw [← cleans.reportId, ← cleans.snapshotSeq]
      exact DedupeState.complete_knows _ _ _

/-- The report of a job that was cleaned up is in the stored window, and was added at most once. -/
theorem occurrences_cleanedUp (fits : WindowFits object d) (trusted : ¬Untrusted object d)
    (due : Due object d job l) (writtenAt : Int64) :
    ∃ window, decoded decodeDedupe (cleanedUp object d job l writtenAt keys.DEDUPE) = some window ∧
      window.occurrences l.reportId l.snapshotSeq =
        max 1 ((readDedupe object d).occurrences l.reportId l.snapshotSeq) := by
  unfold cleanedUp
  rw [Disk.remove_ne _ (by decide)]
  -- known before: nothing was added
  by_cases known : (readDedupe object d).knows l.reportId l.snapshotSeq
  · obtain ⟨window, stored, entries⟩ := stored_of_knows known
    have some := DedupeState.knows_iff.mp known
    refine ⟨window, by rw [if_pos known, stored], ?_⟩
    unfold DedupeState.occurrences at some ⊢
    rw [entries]
    omega
  -- added: it was not there before, so it occurs once
  · have none := mt DedupeState.knows_iff.mpr known
    have back := (decode_complete_iff due writtenAt).mpr (fits trusted job l due known)
    refine ⟨(readDedupe object d).complete job l, ?_, ?_⟩
    · rw [if_neg known, Disk.put_self]
      exact decoded_eq_some.mpr ⟨_, rfl, back⟩
    · rw [DedupeState.occurrences_complete known]
      omega

section Resumed

variable {w cut : StoreWorld}

/-- An end in which the job was cleaned up is that of the whole recovery. -/
theorem resumed_of_cleanedUp {resumed : StoreWorld} (writtenAt : Int64)
    (fits : WindowFits w.self w.disk) (trusted : ¬Untrusted w.self w.disk)
    (due : Due w.self w.disk job l)
    (disk : resumed.disk = cleanedUp w.self w.disk job l writtenAt) : Resumed w resumed where
  states e calm := by
    rw [disk]
    apply wp_recover_cases calm
    · exact fun idle => absurd due (idle job l trusted)
    · intro job' l' _ due' plan whole t _ _ same
      obtain ⟨rfl, rfl⟩ := due.unique due'
      rw [same]
      exact sameStates_cleanedUp t writtenAt
  recorded job' l' _ due' := by
    obtain ⟨rfl, rfl⟩ := due.unique due'
    rw [disk]
    exact ⟨by simp [cleanedUp, Disk.remove], occurrences_cleanedUp fits trusted due writtenAt⟩

/-- From each point where a recovery can be cut, the next start makes up for the rest. -/
theorem resumes_of_recovers {e : Surroundings} (settled : AllSettled w.disk w.self)
    (served : ¬e.Refuses) (fits : WindowFits w.self w.disk)
    (recovers : Recovers e w.self w.disk cut.disk) : Resumes w cut := by
  intro e' calm
  generalize reached : cut.disk = d at recovers
  cases recovers with
  -- nothing was written yet: the start does it all
  | untouched =>
    apply wp_startUp_settled calm (reached ▸ settled)
    intro tick
    apply wp_recover_cases calm
    · intro idle plan resumed read _
      rw [reached] at idle
      exact resumed_of_idle idle (read.disk.trans reached)
    · intro job l trusted due plan resumed writtenAt _ _ disk
      rw [reached] at trusted due disk
      exact resumed_of_cleanedUp _ fits trusted due disk
  -- the job was removed under a known report: nothing is left to do
  | removed cleans known =>
    have trusted := cleans.trusted.resolve_right served
    have window := cleans.window.resolve_right fun h => served h.1
    rw [window] at known
    have settled' := settled.removeActiveJob
    rw [← reached] at settled'
    apply wp_mono
      (wp_startUp_gone (C := fun _ => False) calm settled' (by simp [reached, Disk.remove]))
    · intro _ resumed disk
      apply resumed_of_cleanedUp 0 fits trusted cleans.due
      rw [disk, reached, cleanedUp, if_pos known]
    · exact fun _ h => h
  -- the window was written and the job is still there: the start finds the report known
  | added cleans unknown writtenAt =>
    have trusted := cleans.trusted.resolve_right served
    have window := cleans.window.resolve_right fun h => served h.1
    rw [window] at unknown reached
    obtain ⟨current, valid⟩ := cleans.due.complete
    have fit := fits trusted _ _ cleans.due unknown
    have settled' := settled.saveDedupe current valid fit writtenAt
    rw [← reached] at settled'
    apply wp_startUp_settled calm settled'
    intro tick
    have alike : Alike w.self w.disk { w.self with dedupeAvailable := true } cut.disk := by
      rw [reached]
      exact .of_same rfl rfl (Disk.put_ne _ _ (by decide)) (Disk.put_ne _ _ (by decide))
        (Disk.put_ne _ _ (by decide))
    apply wp_recover_cases calm
    · intro idle
      exact absurd (alike.due.mpr cleans.due)
        (idle _ _ fun h => trusted (alike.untrusted.mp h))
    · intro job' l' _ due' plan resumed t _ _ disk
      obtain ⟨rfl, rfl⟩ := cleans.due.unique (alike.due.mp due')
      apply resumed_of_cleanedUp writtenAt fits trusted cleans.due
      have back := (decode_complete_iff cleans.due writtenAt).mpr fit
      have known : (readDedupe { w.self with dedupeAvailable := true } cut.disk).knows _ _ :=
        knows_of_stored rfl (by rw [reached, Disk.put_self]) back (DedupeState.complete_knows _ _ _)
      rw [disk, cleanedUp, cleanedUp, if_pos known, if_neg unknown]
      simp only [reached]
  -- both were written: nothing is left to do
  | addedRemoved cleans unknown writtenAt =>
    have trusted := cleans.trusted.resolve_right served
    have window := cleans.window.resolve_right fun h => served h.1
    rw [window] at unknown reached
    obtain ⟨current, valid⟩ := cleans.due.complete
    have fit := fits trusted _ _ cleans.due unknown
    have settled' := (settled.saveDedupe current valid fit writtenAt).removeActiveJob
    rw [← reached] at settled'
    apply wp_mono
      (wp_startUp_gone (C := fun _ => False) calm settled' (by simp [reached, Disk.remove]))
    · intro _ resumed disk
      apply resumed_of_cleanedUp writtenAt fits trusted cleans.due
      rw [disk, reached, cleanedUp, if_neg unknown]
    · exact fun _ h => h

end Resumed

/-! ### The exact condition -/

/-- Recovery neither loses nor falsely completes a job exactly where the window with the report of
a job that is due still fits its envelope. -/
theorem recovers_safely_iff (w : StoreWorld) :
    RecoversSafely w ↔ WindowFits w.self w.disk := by
  constructor
  · exact windowFits_of_recoversSafely
  -- each part for every surroundings that lose nothing
  · intro fits
    constructor
    · intro e intact
      apply wp_recover_intact intact
      · exact fun _ w' recovers _ => spared_of_recovers recovers
      · exact fun w' recovers => spared_of_recovers recovers
    · intro e intact served
      apply wp_recover_intact intact
      · exact fun _ w' recovers _ => recorded_of_recovers served fits recovers
      · exact fun w' recovers => recorded_of_recovers served fits recovers
    · exact fun e calm => wp_recover_plans calm
    · intro settled e intact served
      apply wp_recover_intact intact
      · exact fun _ _ _ _ => trivial
      · exact fun cut recovers => resumes_of_recovers settled served fits recovers
    · exact fun e calm => wp_recover_settles calm

end Lawful

end Cleanup

section Example

open Json.Compact

/-- A job that was completed, and its success. -/
def completedJob : ActiveJobState :=
  { requestId := "req-1", reportId := "rpt-1", snapshotSeq := 1, phase := .CompletedPendingCleanup }

def completedSuccess : LastSuccessState :=
  { reportId := "rpt-1", snapshotSeq := 1, snapshot := { snapshot_seq := 1 } }

section Completed

variable [JsonText]

/-- The report was completed, and the window is this one. -/
def completedWorld (window : DedupeState) : StoreWorld :=
  let empty : Disk := fun _ => none
  { disk := ((empty.put keys.DEDUPE (encodeDedupe 0 window)).put keys.LAST_SUCCESS
      (encodeLastSuccess 0 completedSuccess)).put keys.ACTIVE_JOB (encodeActiveJob 0 completedJob)
    self := { dedupeMaxEntries := 100, dedupeTtlMs := 3600000 } }

theorem completed_trusted (window : DedupeState) :
    ¬Untrusted (completedWorld window).self (completedWorld window).disk := by
  have absent : (completedWorld window).disk keys.SEQUENCE = none := by
    unfold completedWorld
    dsimp only
    rw [Disk.put_ne _ _ (by decide), Disk.put_ne _ _ (by decide), Disk.put_ne _ _ (by decide)]
  have none : readSequence (completedWorld window).self (completedWorld window).disk = none := by
    unfold readSequence
    rw [absent, if_neg (by simp [completedWorld])]
    rfl
  rintro (blocked | fallen)
  · cases blocked
  · rw [none] at fallen
    cases fallen

theorem completed_due [LawfulJsonText] (window : DedupeState) :
    Due (completedWorld window).self (completedWorld window).disk completedJob
      completedSuccess := by
  have unknown : ValidFingerprints {} := ⟨by simp, by simp, by simp, by simp⟩
  have job : decodeActiveJob (encodeActiveJob 0 completedJob) = .ok completedJob :=
    faithful_activeJob.decode_encode 0 rfl unknown (faithful_activeJob.fits (by decide +kernel))
  have success : decodeLastSuccess (encodeLastSuccess 0 completedSuccess) = .ok completedSuccess :=
    faithful_lastSuccess.decode_encode 0 rfl ⟨unknown, rfl⟩
      (faithful_lastSuccess.fits (by decide +kernel))
  constructor
  · exact decoded_eq_some.mpr ⟨_, rfl, job⟩
  · rfl
  · exact decoded_eq_some.mpr ⟨_, rfl, success⟩
  · rfl
  · rfl

/-- The window that recovery reads is the stored one. -/
theorem completed_window [LawfulJsonText] (window : DedupeState)
    (current : window.schemaVersion = schema.DEDUPE_VERSION) (valid : window.Valid)
    (fits : dedupeFormat.Fits window) (bounds : window.maxEntries = 100 ∧ window.ttlMs = 3600000) :
    readDedupe (completedWorld window).self (completedWorld window).disk = window := by
  have stored : decoded decodeDedupe ((completedWorld window).disk keys.DEDUPE) = some window :=
    decoded_eq_some.mpr ⟨_, rfl, faithful_dedupe.decode_encode 0 current valid fits⟩
  have available : (completedWorld window).self.dedupeAvailable := rfl
  unfold readDedupe
  rw [if_pos available, stored]
  show { window with maxEntries := 100, ttlMs := 3600000 } = window
  rw [← bounds.1, ← bounds.2]

def emptyWindow : DedupeState := { maxEntries := 100, ttlMs := 3600000 }

/-- A job that is due and a window with room. -/
theorem completed_fits [LawfulJsonText]
    (room : dedupeFormat.Fits (emptyWindow.complete completedJob completedSuccess)) :
    WindowFits (completedWorld emptyWindow).self (completedWorld emptyWindow).disk := by
  have window := completed_window emptyWindow rfl nofun
    (faithful_dedupe.fits (by decide +kernel)) ⟨rfl, rfl⟩
  intro _ job l due _
  obtain ⟨rfl, rfl⟩ := (completed_due emptyWindow).unique due
  rw [window]
  exact room

end Completed

theorem emptyWindow_room :
    (text (dedupeToJson (emptyWindow.complete completedJob completedSuccess))).length < 2 ^ 32 := by
  decide +kernel

/-- Such a job survives recovery. -/
theorem recovers_safely_completed :
    letI := compactText
    WindowFits (completedWorld emptyWindow).self (completedWorld emptyWindow).disk ∧
    RecoversSafely (completedWorld emptyWindow) := by
  have fits := @completed_fits compactText lawful_compactText emptyWindow_room
  refine ⟨fits, ?_⟩
  rw [@recovers_safely_iff compactText lawful_compactText]
  exact fits

/-- A window with one report. -/
def crowdedWindow (requestId : String) : DedupeState :=
  { entries := [{ requestId }], maxEntries := 100, ttlMs := 3600000 }

theorem crowdedWindow_valid (requestId : String) : (crowdedWindow requestId).Valid := by
  have unknown : ValidFingerprints {} := ⟨by simp, by simp, by simp, by simp⟩
  intro e member
  rw [crowdedWindow, List.mem_singleton] at member
  subst member
  exact unknown

theorem dedupeToJson_eq (s : DedupeState) :
    dedupeToJson s = .object
      [ ("entries", .array (s.entries.map dedupeEntryToJson)),
        ("maxEntries", .integer s.maxEntries.toNat),
        ("schemaVersion", versionNumber s.schemaVersion),
        ("ttlMs", .integer s.ttlMs.toInt) ] := by
  simp [dedupeToJson, Json.ofMembers, Json.emplace, Json.keyBefore, Json.keyBefore.go]

theorem dedupeEntryToJson_eq (e : DedupeEntry) :
    dedupeEntryToJson e = .object
      [ ("completedAt", .integer e.completedAt.toInt),
        ("expiresAt", .integer e.expiresAt.toInt),
        ("fingerprints", persistedFingerprintsToJson e.fingerprints),
        ("overallResult", .string e.overallResult),
        ("reportId", .string e.reportId),
        ("requestId", .string e.requestId),
        ("snapshotSeq", .integer e.snapshotSeq.toNat) ] := by
  simp [dedupeEntryToJson, Json.ofMembers, Json.emplace, Json.keyBefore, Json.keyBefore.go]

/-- The window after the completed job was added. -/
def fullWindow (requestId : String) : DedupeState :=
  { entries := [{ requestId }, completedEntry completedJob completedSuccess 3600000]
    maxEntries := 100
    ttlMs := 3600000 }

theorem complete_crowdedWindow (requestId : String) :
    (crowdedWindow requestId).complete completedJob completedSuccess = fullWindow requestId :=
  rfl

/-- The length of an entry is that with an empty request, and the request. -/
theorem length_entry (requestId : String) :
    (text (dedupeEntryToJson { requestId })).length + 2 =
      (text (dedupeEntryToJson { requestId := "" })).length + (quoted requestId).length := by
  have short : (quoted "").length = 2 := by decide +kernel
  simp only [dedupeEntryToJson_eq, text, textMembers, List.isEmpty_cons, Bool.false_eq_true,
    if_false, List.length_append, List.length_cons, short]
  omega

/-- The lengths of both windows are those with an empty request, and the request. -/
theorem length_windows (requestId : String) :
    (text (dedupeToJson (crowdedWindow requestId))).length = 285 + (quoted requestId).length ∧
    (text (dedupeToJson (fullWindow requestId))).length = 530 + (quoted requestId).length := by
  have before : (text (dedupeToJson (crowdedWindow ""))).length = 287 := by decide +kernel
  have after : (text (dedupeToJson (fullWindow ""))).length = 532 := by decide +kernel
  have entry := length_entry requestId
  simp only [dedupeToJson_eq, crowdedWindow, fullWindow, List.map_cons, List.map_nil, text,
    textItems, textMembers, List.isEmpty_cons, List.isEmpty_nil, Bool.false_eq_true, if_false,
    if_true, List.length_append, List.length_cons, List.length_nil] at before after ⊢
  omega

/-- A request of a suitable length lets the stored window fit and the new one not. -/
theorem crowded_unsafe {n : Nat} (before : 287 + n < 2 ^ 32) (after : 2 ^ 32 ≤ 532 + n) :
    letI := compactText
    ¬RecoversSafely (completedWorld (crowdedWindow (repeated n))) := by
  intro safe
  obtain ⟨stored, completed⟩ := length_windows (repeated n)
  have size := length_quoted_repeated n
  have short : (text (dedupeToJson (crowdedWindow (repeated n)))).length < 2 ^ 32 := by omega
  have window := @completed_window compactText lawful_compactText (crowdedWindow (repeated n)) rfl
    (crowdedWindow_valid _) short ⟨rfl, rfl⟩
  have fits := @windowFits_of_recoversSafely compactText _ safe
    (@completed_trusted compactText (crowdedWindow (repeated n))) _ _
    (@completed_due compactText lawful_compactText (crowdedWindow (repeated n)))
  rw [window, complete_crowdedWindow] at fits
  have long : (text (dedupeToJson (fullWindow (repeated n)))).length < 2 ^ 32 :=
    fits (by simp [DedupeState.knows, crowdedWindow, completedSuccess])
  omega

/-- A window just below the limit is overwritten by one that cannot be read, and the job is gone. -/
theorem crowded_window_is_lost :
    letI := compactText
    ¬RecoversSafely (completedWorld (crowdedWindow (repeated (2 ^ 32 - 400)))) :=
  crowded_unsafe (by decide) (by decide)

end Example

end CgwFota.Inventory
