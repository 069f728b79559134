import CgwFota.Inventory.Calm

/-!
# Recovery that may be interrupted

Where no stored value is damaged, a recovery writes nothing but the window of finished reports, and
then removes nothing but the completed job, however its requests are answered.

## Main definitions

* `ReadsLess`, `Looked`: the object and the world after reads that may have failed
* `CleansUp`: when a recovery would clean up a job
* `Recovers`: how far a recovery may get: nothing, the window, the window and the removal

## Main results

* `wp_recover_intact`: whatever is refused or killed, a recovery gets no further than its writes

## Proof strategy

A read that fails is taken for an absent value, so the object may know less than the disk says; it
never knows more. Every request is treated as served, refused with or without its write, or killed
with or without it.
-/
namespace CgwFota.Inventory

open Crash

/-! ### Reads -/

/-- An object that reads no more than another one: it may have given up on the last success. -/
structure ReadsLess (object object' : FotaStateStore) : Prop where
  blocked : object'.sequenceBlocked = object.sequenceBlocked
  lastSuccess : object'.lastSuccessAvailable → object.lastSuccessAvailable
  dedupe : object'.dedupeAvailable = object.dedupeAvailable
  empty : object'.emptyDedupe = object.emptyDedupe

theorem ReadsLess.refl {object : FotaStateStore} : ReadsLess object object := ⟨rfl, id, rfl, rfl⟩

theorem ReadsLess.trans {a b c : FotaStateStore} (first : ReadsLess a b) (second : ReadsLess b c) :
    ReadsLess a c :=
  ⟨second.blocked.trans first.blocked, fun h => first.lastSuccess (second.lastSuccess h),
    second.dedupe.trans first.dedupe, second.empty.trans first.empty⟩

/-- The world after reading, where some of the reads may have failed. -/
structure Looked (w w' : StoreWorld) : Prop where
  disk : w'.disk = w.disk
  less : ReadsLess w.self w'.self

theorem Looked.refl {w : StoreWorld} : Looked w w := ⟨rfl, .refl⟩

theorem Looked.trans {a b c : StoreWorld} (first : Looked a b) (second : Looked b c) : Looked a c :=
  ⟨second.disk.trans first.disk, first.less.trans second.less⟩

theorem Looked.later {w : StoreWorld} (tick : Nat) : Looked w { w with tick } := ⟨rfl, .refl⟩

section Interrupted

variable [JsonText]

theorem ReadsLess.readDedupe {d : Disk} {object object' : FotaStateStore}
    (less : ReadsLess object object') : readDedupe object' d = readDedupe object d := by
  have empty := less.empty
  have bounds : object'.dedupeMaxEntries = object.dedupeMaxEntries ∧
      object'.dedupeTtlMs = object.dedupeTtlMs := by
    simpa [FotaStateStore.emptyDedupe] using empty
  simp only [Inventory.readDedupe, less.dedupe, empty, bounds]

/-- What the lesser object reads of the last success is on the disk. -/
theorem ReadsLess.readLastSuccess {d : Disk} {object object' : FotaStateStore}
    (less : ReadsLess object object') {l : LastSuccessState}
    (stored : readLastSuccess object' d = some l) : readLastSuccess object d = some l := by
  unfold Inventory.readLastSuccess at stored ⊢
  by_cases available : object'.lastSuccessAvailable
  · rw [if_pos available] at stored
    rw [if_pos (less.lastSuccess available), stored]
  · rw [if_neg available] at stored
    cases stored

variable {e : Surroundings} {w : StoreWorld} {C : StoreWorld → Prop}

/-- A fetch finds the value of its key, or its request fails. -/
theorem wp_fetch_intact {σ : Type} {decodeFn : Bytes → Except StateDecodeError σ}
    (intact : e.Intact) {key : String} {Q : Except Failure (Option σ) → StoreWorld → Prop}
    (served : ∀ tick, Q (fetched decodeFn (w.disk key)) { w with tick })
    (refused : e.Refuses → ∀ x tick, Q (.error x) { w with tick })
    (killed : ∀ tick, C { w with tick }) :
    wp (fetch key decodeFn) Q C e w := by
  unfold fetch has load
  rw [wp_bind]
  apply wp_request_intact intact
  · dsimp only [id]
    cases stored : w.disk key with
    | none =>
      rw [stored] at served
      exact served _
    | some bytes =>
      dsimp only [Option.isSome_some]
      rw [wp_bind]
      apply wp_request_intact intact
      · simp only [id, Disk.read, stored]
        simp only [stored, fetched] at served
        cases result : decodeFn bytes with
        | error x =>
          rw [result] at served
          exact served _
        | ok s =>
          rw [result] at served
          exact served _
      -- the load was refused or killed, which changes nothing
      · rintro refuses x disk (rfl | rfl)
        · exact refused refuses _ _
        · exact refused refuses _ _
      · rintro disk (rfl | rfl)
        · exact killed _
        · exact killed _
  · rintro refuses x disk (rfl | rfl)
    · exact refused refuses _ _
    · exact refused refuses _ _
  · rintro disk (rfl | rfl)
    · exact killed _
    · exact killed _

/-- The sequence is loaded as the disk has it, or it is not seen. -/
theorem wp_loadSequence_intact (intact : e.Intact)
    {Q : Option SequenceState → StoreWorld → Prop}
    (next : ∀ r tick, r = readSequence w.self w.disk ∨ r = none ∧ e.Refuses → Q r { w with tick })
    (killed : ∀ tick, C { w with tick }) :
    wp loadSequence Q C e w := by
  unfold loadSequence
  rw [wp_bind, wp_self]
  by_cases blocked : w.self.sequenceBlocked
  · simp only [readSequence, if_pos blocked] at next
    rw [if_pos blocked]
    exact next _ w.tick (Or.inl rfl)
  simp only [readSequence, if_neg blocked] at next
  rw [if_neg blocked, wp_bind]
  apply wp_fetch_intact intact
  · intro tick
    cases result : fetched decodeSequence (w.disk keys.SEQUENCE) with
    | error x => exact next _ tick (Or.inl (fetched_error result).symm)
    | ok stored => exact next _ tick (Or.inl (fetched_ok result).symm)
  · exact fun refuses x tick => next _ tick (Or.inr ⟨rfl, refuses⟩)
  · exact killed

/-- The last success is loaded as the disk has it, or it is not seen and given up. -/
theorem wp_loadLastSuccess_intact (intact : e.Intact)
    {Q : Option LastSuccessState → StoreWorld → Prop}
    (next : ∀ r w', Looked w w' → r = readLastSuccess w.self w.disk ∨ r = none ∧ e.Refuses → Q r w')
    (killed : ∀ w', Looked w w' → C w') :
    wp loadLastSuccess Q C e w := by
  -- giving up the record changes the object, and nothing else
  have gaveUp (tick : Nat) :
      Looked w { w with tick, self := { w.self with lastSuccessAvailable := false } } :=
    ⟨rfl, rfl, nofun, rfl, rfl⟩
  unfold loadLastSuccess
  rw [wp_bind, wp_self]
  by_cases available : w.self.lastSuccessAvailable
  · simp only [readLastSuccess, if_pos available] at next
    rw [if_pos available, wp_bind]
    apply wp_fetch_intact intact
    · intro tick
      cases result : fetched decodeLastSuccess (w.disk keys.LAST_SUCCESS) with
      | error x => exact next _ _ (gaveUp tick) (Or.inl (fetched_error result).symm)
      | ok stored => exact next _ _ (.later tick) (Or.inl (fetched_ok result).symm)
    · exact fun refuses x tick => next _ _ (gaveUp tick) (Or.inr ⟨rfl, refuses⟩)
    · exact fun tick => killed _ (.later tick)
  · simp only [readLastSuccess, if_neg available] at next
    rw [if_neg available]
    exact next _ _ .refl (Or.inl rfl)

/-- The active job is loaded as the disk has it, or it is not seen and noted as damaged. -/
theorem wp_loadActiveJob_intact (intact : e.Intact)
    {Q : Option ActiveJobState → StoreWorld → Prop}
    (next : ∀ r w', Looked w w' → r = readActiveJob w.disk ∨ r = none ∧ e.Refuses → Q r w')
    (killed : ∀ w', Looked w w' → C w') :
    wp loadActiveJob Q C e w := by
  have damaged (tick : Nat) :
      Looked w { w with tick, self := { w.self with activeJobCorrupted := true } } :=
    ⟨rfl, rfl, id, rfl, rfl⟩
  unfold loadActiveJob
  rw [wp_bind]
  apply wp_fetch_intact intact
  · intro tick
    cases result : fetched decodeActiveJob (w.disk keys.ACTIVE_JOB) with
    | error x => exact next _ _ (damaged tick) (Or.inl (fetched_error result).symm)
    | ok stored => exact next _ _ (.later tick) (Or.inl (fetched_ok result).symm)
  · exact fun refuses x tick => next _ _ (damaged tick) (Or.inr ⟨rfl, refuses⟩)
  · exact fun tick => killed _ (.later tick)

/-- The object may have given up on the window as well. -/
theorem wp_loadDedupe_intact (intact : e.Intact) {Q : DedupeState → StoreWorld → Prop}
    (next : ∀ window w', w'.disk = w.disk → w'.self.emptyDedupe = w.self.emptyDedupe →
      window = readDedupe w.self w.disk ∨ e.Refuses ∧ window = w.self.emptyDedupe → Q window w')
    (killed : ∀ w', w'.disk = w.disk → C w') :
    wp loadDedupe Q C e w := by
  unfold loadDedupe
  rw [wp_bind, wp_self, wp_bind, wp_self]
  by_cases available : w.self.dedupeAvailable
  · simp only [readDedupe, if_pos available] at next
    rw [if_pos available, wp_bind]
    apply wp_fetch_intact intact
    · intro tick
      cases result : fetched decodeDedupe (w.disk keys.DEDUPE) with
      | error x => exact next _ _ rfl rfl (Or.inl (by rw [fetched_error result]))
      | ok stored =>
        rw [fetched_ok result] at next
        cases stored with
        | none => exact next _ _ rfl rfl (Or.inl rfl)
        | some window => exact next _ _ rfl rfl (Or.inl rfl)
    · exact fun refuses x tick => next _ _ rfl rfl (Or.inr ⟨refuses, rfl⟩)
    · exact fun tick => killed _ rfl
  · simp only [readDedupe, if_neg available] at next
    rw [if_neg available]
    exact next _ _ rfl rfl (Or.inl rfl)

/-! ### Cleaning up -/

/-- Recovery would clean up this job after this success, starting from this window. Where requests
are refused, it may take the window for empty or not see that the sequence fell behind. -/
structure CleansUp (e : Surroundings) (object : FotaStateStore) (d : Disk) (job : ActiveJobState)
    (l : LastSuccessState) (window : DedupeState) : Prop where
  trusted : ¬Untrusted object d ∨ e.Refuses
  stored : readActiveJob d = some job
  phase : job.phase = .CompletedPendingCleanup
  lastSuccess : readLastSuccess object d = some l
  reportId : l.reportId = job.reportId
  snapshotSeq : l.snapshotSeq = job.snapshotSeq
  window : window = readDedupe object d ∨ e.Refuses ∧ window = object.emptyDedupe

/-- How far a recovery may get. -/
inductive Recovers (e : Surroundings) (object : FotaStateStore) (d : Disk) : Disk → Prop
  | untouched : Recovers e object d d
  | removed {job : ActiveJobState} {l : LastSuccessState} {window : DedupeState}
      (cleans : CleansUp e object d job l window)
      (known : window.knows l.reportId l.snapshotSeq) :
      Recovers e object d (d.remove keys.ACTIVE_JOB)
  | added {job : ActiveJobState} {l : LastSuccessState} {window : DedupeState}
      (cleans : CleansUp e object d job l window)
      (unknown : ¬window.knows l.reportId l.snapshotSeq) (writtenAt : Int64) :
      Recovers e object d (d.put keys.DEDUPE (encodeDedupe writtenAt (window.complete job l)))
  | addedRemoved {job : ActiveJobState} {l : LastSuccessState} {window : DedupeState}
      (cleans : CleansUp e object d job l window)
      (unknown : ¬window.knows l.reportId l.snapshotSeq) (writtenAt : Int64) :
      Recovers e object d
        ((d.put keys.DEDUPE (encodeDedupe writtenAt (window.complete job l))).remove
        keys.ACTIVE_JOB)

/-- The other keys are left alone. -/
theorem Recovers.frame {e : Surroundings} {object : FotaStateStore} {d d' : Disk}
    (recovers : Recovers e object d d') {k : String} (window : k ≠ keys.DEDUPE)
    (job : k ≠ keys.ACTIVE_JOB) : d' k = d k := by
  cases recovers with
  | untouched => rfl
  | removed cleans known => exact Disk.remove_ne _ job
  | added cleans unknown writtenAt => exact Disk.put_ne _ _ window
  | addedRemoved cleans unknown writtenAt => rw [Disk.remove_ne _ job, Disk.put_ne _ _ window]

section Run

variable {object : FotaStateStore} {d : Disk} {job : ActiveJobState}

/-- Cleaning up a job gets as far as its writes. -/
theorem wp_reconcileCompleted_intact (intact : e.Intact) (trusted : ¬Untrusted object d ∨ e.Refuses)
    (stored : readActiveJob d = some job) (phase : job.phase = .CompletedPendingCleanup)
    (disk : w.disk = d) (less : ReadsLess object w.self)
    {Q : Except StoreException Bool → StoreWorld → Prop}
    (next : ∀ r w', Recovers e object d w'.disk → w'.self.emptyDedupe = object.emptyDedupe → Q r w')
    (killed : ∀ w', Recovers e object d w'.disk → C w') :
    wp (reconcileCompleted job) Q C e w := by
  have nothing (w' : StoreWorld) (same : w'.disk = w.disk) : Recovers e object d w'.disk := by
    rw [same, disk]
    exact .untouched
  unfold reconcileCompleted
  rw [wp_bind]
  apply wp_loadLastSuccess_intact intact _ fun w' looked => killed w' (nothing w' looked.disk)
  rintro (_ | l) w₁ looked read
  · exact next _ _ (nothing w₁ looked.disk) (less.trans looked.less).empty
  have success : readLastSuccess object d = some l := by
    rcases read with same | ⟨none, _⟩
    · rw [disk] at same
      exact less.readLastSuccess same.symm
    · cases none
  dsimp only
  by_cases other : l.reportId ≠ job.reportId ∨ l.snapshotSeq ≠ job.snapshotSeq
  -- another report was the last to succeed, so nothing is written
  · rw [if_pos other]
    exact next _ _ (nothing w₁ looked.disk) (less.trans looked.less).empty
  obtain ⟨report, number⟩ : l.reportId = job.reportId ∧ l.snapshotSeq = job.snapshotSeq := by
    simpa only [not_or, not_not] using other
  rw [if_neg other, wp_bind]
  have less := less.trans looked.less
  apply wp_loadDedupe_intact intact _ fun w' same => killed w' (nothing w' (same.trans looked.disk))
  intro window w₂ same bounds window_eq
  have bounds := bounds.trans less.empty
  have same : w₂.disk = d := same.trans (looked.disk.trans disk)
  -- the window that was read is the one on the disk, or an empty one where requests are refused
  have cleans : CleansUp e object d job l window := by
    refine ⟨trusted, stored, phase, success, report, number, ?_⟩
    rwa [looked.disk, disk, less.readDedupe, less.empty] at window_eq
  have untouched (w' : StoreWorld) (h : w'.disk = w₂.disk) : Recovers e object d w'.disk := by
    rw [h, same]
    exact .untouched
  by_cases known : window.knows l.reportId l.snapshotSeq
  -- the window knows the report, and the job is removed
  · rw [if_pos known, wp_bind, wp_pure]
    dsimp only
    have gone : Recovers e object d (w₂.disk.remove keys.ACTIVE_JOB) := by
      rw [same]
      exact .removed cleans known
    rw [wp_bind, removeActiveJob, remove]
    apply wp_request_intact intact
    · exact next _ _ gone bounds
    · rintro _ x disk (rfl | rfl)
      · exact next _ _ (untouched _ rfl) bounds
      · exact next _ _ gone bounds
    · rintro disk (rfl | rfl)
      · exact killed _ (untouched _ rfl)
      · exact killed _ gone
  rw [if_neg known, wp_bind]
  unfold saveDedupe save
  rw [wp_bind, wp_nowMs, wp_bind]
  generalize e.clock w₂.tick = writtenAt
  have added : Recovers e object d
      (w₂.disk.put keys.DEDUPE (encodeDedupe writtenAt (window.complete job l))) := by
    rw [same]
    exact .added cleans known writtenAt
  have gone : Recovers e object d ((w₂.disk.put keys.DEDUPE
      (encodeDedupe writtenAt (window.complete job l))).remove keys.ACTIVE_JOB) := by
    rw [same]
    exact .addedRemoved cleans known writtenAt
  -- the window was served, refused or killed; only then the job is removed
  apply wp_request_intact intact
  · dsimp only
    rw [wp_bind, wp_setSelf, wp_pure]
    dsimp only
    rw [wp_bind, removeActiveJob, remove]
    apply wp_request_intact intact
    · exact next _ _ gone bounds
    · rintro _ x disk (rfl | rfl)
      · exact next _ _ added bounds
      · exact next _ _ gone bounds
    · rintro disk (rfl | rfl)
      · exact killed _ added
      · exact killed _ gone
  · rintro _ x disk (rfl | rfl)
    · exact next _ _ (untouched _ rfl) bounds
    · exact next _ _ added bounds
  · rintro disk (rfl | rfl)
    · exact killed _ (untouched _ rfl)
    · exact killed _ added

/-- The recovery of a job gets as far as its writes. -/
theorem wp_recoverPhase_intact (intact : e.Intact) (trusted : ¬Untrusted object d ∨ e.Refuses)
    (stored : readActiveJob d = some job) (disk : w.disk = d) (less : ReadsLess object w.self)
    {Q : Except StoreException RecoveryPlan → StoreWorld → Prop}
    (next : ∀ r w', Recovers e object d w'.disk → w'.self.emptyDedupe = object.emptyDedupe → Q r w')
    (killed : ∀ w', Recovers e object d w'.disk → C w') :
    wp (recoverPhase job) Q C e w := by
  have unchanged : Recovers e object d w.disk := disk ▸ .untouched
  unfold recoverPhase
  cases phase : job.phase with
  | Accepted | Collecting | SubmitUnknown | RetryWaiting => exact next _ _ unchanged less.empty
  | Assembled | SubmitPrepared =>
    -- these phases only decide what the plan says
    dsimp only
    split
    · exact next _ _ unchanged less.empty
    · exact next _ _ unchanged less.empty
  | CompletedPendingCleanup =>
    dsimp only
    rw [wp_bind]
    apply wp_reconcileCompleted_intact intact trusted stored phase disk less _ killed
    rintro (x | _ | _) w' reached bounds
    · exact next _ _ reached bounds
    · exact next _ _ reached bounds
    · exact next _ _ reached bounds

/-- Whatever is refused or killed, a recovery gets no further than its writes. -/
theorem wp_recover_intact (intact : e.Intact)
    {Q : Except StoreException RecoveryPlan → StoreWorld → Prop}
    (next : ∀ r w', Recovers e w.self w.disk w'.disk → w'.self.emptyDedupe = w.self.emptyDedupe →
      Q r w')
    (killed : ∀ w', Recovers e w.self w.disk w'.disk → C w') :
    wp recover Q C e w := by
  have untouched (w' : StoreWorld) (looked : Looked w w') : Recovers e w.self w.disk w'.disk := by
    rw [looked.disk]
    exact .untouched
  unfold recover
  rw [wp_bind, wp_self]
  by_cases blocked : w.self.sequenceBlocked
  · rw [if_pos blocked]
    exact next _ _ (untouched w .refl) rfl
  rw [if_neg blocked, wp_bind]
  apply wp_loadSequence_intact intact _ fun tick => killed _ (untouched _ (.later tick))
  intro seq tick readSeq
  rw [wp_bind]
  apply wp_loadLastSuccess_intact intact _ fun w' looked =>
    killed w' (untouched w' ((Looked.later tick).trans looked))
  intro l w₂ looked₂ readLast
  have looked₂ := (Looked.later tick).trans looked₂
  by_cases fallen : rolledBack seq l
  · rw [if_pos fallen]
    exact next _ _ (untouched w₂ looked₂) looked₂.less.empty
  rw [if_neg fallen, wp_bind]
  -- a sequence or a last success that was not seen cannot show that the number fell behind
  have trusted : ¬Untrusted w.self w.disk ∨ e.Refuses := by
    rcases readSeq with rfl | ⟨_, refuses⟩
    · rcases readLast with rfl | ⟨_, refuses⟩
      · exact Or.inl (not_or.mpr ⟨blocked, fallen⟩)
      · exact Or.inr refuses
    · exact Or.inr refuses
  apply wp_loadActiveJob_intact intact _ fun w' looked =>
    killed w' (untouched w' (looked₂.trans looked))
  intro job w₃ looked₃ readJob
  have looked₃ := looked₂.trans looked₃
  cases job with
  | none =>
    dsimp only
    rw [wp_bind, wp_self]
    split
    · exact next _ _ (untouched w₃ looked₃) looked₃.less.empty
    · exact next _ _ (untouched w₃ looked₃) looked₃.less.empty
  | some job =>
    have stored : readActiveJob w.disk = some job := by
      rcases readJob with same | ⟨none, _⟩
      · rw [looked₂.disk] at same
        exact same.symm
      · cases none
    exact wp_recoverPhase_intact intact trusted stored looked₃.disk looked₃.less next killed

end Run

end Interrupted

end CgwFota.Inventory
