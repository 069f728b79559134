import CgwFota.Inventory.Recovery

/-!
# Requests that are served

Where no stored value is damaged, a request changes the disk by its own write or not at all. Where
moreover every request is served, the accessors of the store read what the disk says.

## Main definitions

* `Surroundings.Intact`, `Surroundings.Calm`: nothing is damaged, and every request is served
* `readSequence`, `readLastSuccess`, `readActiveJob`, `readDedupe`: what a disk says to an object
* `OnlyRead`: the world after nothing but reading
* `cleanedUp`: the disk after a completed job was cleaned up

## Main results

* `wp_request_intact`: a request that is not served fails, with or without its write
* `wp_loadSequence_calm` and its siblings: an accessor returns what the disk says
* `wp_recover_calm`, `wp_recoverPhase_calm`: what a recovery comes to, phase by phase

## Proof strategy

The postconditions are written as the cases an accessor can end in, each with the world it leads to.
A recovery is then a composition of accessors, and its branches are the ones of the source.
-/
namespace CgwFota.Inventory

open Crash

/-! ### Values -/

section Values

variable {σ : Type} (decodeFn : Bytes → Except StateDecodeError σ)

/-- What a value stands for. -/
def decoded (value : Option Bytes) : Option σ := value.bind fun bytes => (decodeFn bytes).toOption

/-- What a fetch that is served returns. -/
def fetched : Option Bytes → Except Failure (Option σ)
  | none => .ok none
  | some bytes =>
    match decodeFn bytes with
    | .error e => .error (.decode e)
    | .ok s => .ok (some s)

variable {decodeFn}

theorem decoded_eq_some {value : Option Bytes} {s : σ} :
    decoded decodeFn value = some s ↔ ∃ bytes, value = some bytes ∧ decodeFn bytes = .ok s := by
  unfold decoded
  rw [Option.bind_eq_some_iff]
  constructor
  · rintro ⟨bytes, stored, read⟩
    cases result : decodeFn bytes with
    | error x => simp [result, Except.toOption] at read
    | ok s' =>
      rw [result] at read
      cases read
      exact ⟨bytes, stored, result⟩
  · rintro ⟨bytes, stored, read⟩
    exact ⟨bytes, stored, by rw [read]; rfl⟩

theorem fetched_ok {value : Option Bytes} {s : Option σ} (h : fetched decodeFn value = .ok s) :
    decoded decodeFn value = s := by
  cases value with
  | none => cases h; rfl
  | some bytes =>
    simp only [fetched] at h
    cases result : decodeFn bytes with
    | error x => simp [result] at h
    | ok s' =>
      rw [result] at h
      cases h
      simp [decoded, result, Except.toOption]

theorem fetched_error {value : Option Bytes} {x : Failure}
    (h : fetched decodeFn value = .error x) : decoded decodeFn value = none := by
  cases value with
  | none => rfl
  | some bytes =>
    simp only [fetched] at h
    cases result : decodeFn bytes with
    | error x => simp [decoded, result, Except.toOption]
    | ok s => simp [result] at h

end Values

section Calm

variable [JsonText]

/-- No stored value is damaged. -/
def Surroundings.Intact (e : Surroundings) : Prop := ∀ n, e.damage n = none

/-- Some request may be answered with an exception. -/
def Surroundings.Refuses (e : Surroundings) : Prop := ∃ n x written, e.answer n = .refused x written

/-- Nothing is damaged and every request is served. -/
structure Surroundings.Calm (e : Surroundings) : Prop where
  intact : e.Intact
  served : ∀ n, e.answer n = .served

/-- Where nothing is damaged and every request is served. -/
def undisturbed : Surroundings where
  clock _ := 0
  answer _ := .served
  damage _ := none

theorem calm_undisturbed : undisturbed.Calm := ⟨fun _ => rfl, fun _ => rfl⟩

variable {e : Surroundings} {w : StoreWorld} {C : StoreWorld → Prop}

/-! ### Single requests -/

section Request

variable {α : Type} {write : Disk → Disk} {read : Surroundings → Disk → Except StoreException α}
  {Q : Except StoreException α → StoreWorld → Prop}

theorem wp_request_served (intact : e.Intact) (served : e.answer w.tick = .served) :
    wp (request write read) Q C e w ↔
      Q (read e w.disk) { w with disk := write w.disk, tick := w.tick + 1 } := by
  unfold wp request
  simp only [intact w.tick, Disk.suffer, served, if_true]

/-- A request that is not served fails, and its write may have taken place. -/
theorem wp_request_intact (intact : e.Intact)
    (served : Q (read e w.disk) { w with disk := write w.disk, tick := w.tick + 1 })
    (refused : e.Refuses → ∀ x disk, disk = w.disk ∨ disk = write w.disk →
      Q (.error x) { w with disk, tick := w.tick + 1 })
    (killed : ∀ disk, disk = w.disk ∨ disk = write w.disk → C { w with disk, tick := w.tick + 1 }) :
    wp (request write read) Q C e w := by
  -- a request that is not served may still have been written
  have either (written : Bool) :
      (if written then write w.disk else w.disk) = w.disk ∨
        (if written then write w.disk else w.disk) = write w.disk := by
    cases written
    · exact Or.inl rfl
    · exact Or.inr rfl
  unfold wp request
  rw [intact w.tick, Disk.suffer]
  cases answer : e.answer w.tick with
  | served => exact served
  | refused x written => exact refused ⟨w.tick, x, written, answer⟩ x _ (either written)
  | killed written => exact killed _ (either written)

end Request

/-! ### Reading a key -/

section Fetch

variable {σ : Type} {decodeFn : Bytes → Except StateDecodeError σ}

/-- Where requests are served from now on, a key is fetched as the disk has it. -/
theorem wp_fetch_served (intact : e.Intact) {key : String}
    (served : ∀ n, w.tick ≤ n → e.answer n = .served)
    {Q : Except Failure (Option σ) → StoreWorld → Prop}
    (next : ∀ tick, w.tick ≤ tick → Q (fetched decodeFn (w.disk key)) { w with tick }) :
    wp (fetch key decodeFn) Q C e w := by
  unfold fetch has load
  rw [wp_bind, wp_request_served intact (served _ (Nat.le_refl _))]
  cases stored : w.disk key with
  -- the key is absent, so nothing is loaded
  | none =>
    rw [stored] at next
    exact next _ (Nat.le_succ _)
  | some bytes =>
    simp only [id, Option.isSome_some]
    rw [wp_bind, wp_request_served intact (by exact served _ (Nat.le_succ _))]
    simp only [id, Disk.read, stored]
    simp only [stored, fetched] at next
    have later : w.tick ≤ w.tick + 1 + 1 := by omega
    cases result : decodeFn bytes with
    | error x =>
      rw [result] at next
      exact next _ later
    | ok s =>
      rw [result] at next
      exact next _ later

theorem wp_fetch_calm (calm : e.Calm) {key : String}
    {Q : Except Failure (Option σ) → StoreWorld → Prop}
    (next : ∀ tick, Q (fetched decodeFn (w.disk key)) { w with tick }) :
    wp (fetch key decodeFn) Q C e w :=
  wp_fetch_served calm.intact (fun n _ => calm.served n) fun tick _ => next tick

end Fetch

/-! ### The accessors -/

def readSequence (object : FotaStateStore) (d : Disk) : Option SequenceState :=
  if object.sequenceBlocked then none else decoded decodeSequence (d keys.SEQUENCE)

def readLastSuccess (object : FotaStateStore) (d : Disk) : Option LastSuccessState :=
  if object.lastSuccessAvailable then decoded decodeLastSuccess (d keys.LAST_SUCCESS) else none

/-- A last success is read if the object reads the record and the record decodes. -/
theorem readLastSuccess_eq_some {object : FotaStateStore} {d : Disk} {l : LastSuccessState} :
    readLastSuccess object d = some l ↔
      object.lastSuccessAvailable ∧ decoded decodeLastSuccess (d keys.LAST_SUCCESS) = some l := by
  unfold readLastSuccess
  by_cases available : object.lastSuccessAvailable
  · simp [available]
  · simp [available]

def readActiveJob (d : Disk) : Option ActiveJobState :=
  decoded decodeActiveJob (d keys.ACTIVE_JOB)

def readDedupe (object : FotaStateStore) (d : Disk) : DedupeState :=
  match if object.dedupeAvailable then decoded decodeDedupe (d keys.DEDUPE) else none with
  | none => object.emptyDedupe
  | some window =>
    { window with maxEntries := object.dedupeMaxEntries, ttlMs := object.dedupeTtlMs }

/-- Two objects that read the same from a disk. The flag of a damaged job may differ. -/
structure SameReads (d : Disk) (object object' : FotaStateStore) : Prop where
  blocked : object'.sequenceBlocked = object.sequenceBlocked
  lastSuccess : readLastSuccess object' d = readLastSuccess object d
  dedupe : readDedupe object' d = readDedupe object d

theorem SameReads.refl {d : Disk} {object : FotaStateStore} : SameReads d object object :=
  ⟨rfl, rfl, rfl⟩

theorem SameReads.trans {d : Disk} {a b c : FotaStateStore} (first : SameReads d a b)
    (second : SameReads d b c) : SameReads d a c :=
  ⟨second.blocked.trans first.blocked, second.lastSuccess.trans first.lastSuccess,
    second.dedupe.trans first.dedupe⟩

theorem SameReads.sequence {d : Disk} {object object' : FotaStateStore}
    (same : SameReads d object object') : readSequence object' d = readSequence object d := by
  simp only [readSequence, same.blocked]

/-- The world after nothing but reading. -/
structure OnlyRead (w w' : StoreWorld) : Prop where
  disk : w'.disk = w.disk
  reads : SameReads w.disk w.self w'.self
  calls : w'.calls = w.calls
  objects : w'.objects = w.objects

theorem OnlyRead.refl {w : StoreWorld} : OnlyRead w w := ⟨rfl, .refl, rfl, rfl⟩

theorem OnlyRead.trans {a b c : StoreWorld} (first : OnlyRead a b) (second : OnlyRead b c) :
    OnlyRead a c :=
  ⟨second.disk.trans first.disk, first.reads.trans (first.disk ▸ second.reads),
    second.calls.trans first.calls, second.objects.trans first.objects⟩

theorem OnlyRead.later {w : StoreWorld} (tick : Nat) : OnlyRead w { w with tick } :=
  ⟨rfl, .refl, rfl, rfl⟩

/-- The sequence is loaded as the disk has it, unless the object is blocked. -/
theorem wp_loadSequence_calm (calm : e.Calm) {Q : Option SequenceState → StoreWorld → Prop}
    (next : ∀ w', OnlyRead w w' → Q (readSequence w.self w.disk) w') :
    wp loadSequence Q C e w := by
  unfold loadSequence
  rw [wp_bind, wp_self]
  -- a blocked object does not read at all
  by_cases blocked : w.self.sequenceBlocked
  · simp only [readSequence, if_pos blocked] at next
    rw [if_pos blocked]
    exact next w .refl
  simp only [readSequence, if_neg blocked] at next
  rw [if_neg blocked, wp_bind]
  apply wp_fetch_calm calm
  intro tick
  cases result : fetched decodeSequence (w.disk keys.SEQUENCE) with
  | error x =>
    rw [fetched_error result] at next
    exact next _ (.later tick)
  | ok stored =>
    rw [fetched_ok result] at next
    exact next _ (.later tick)

/-- The last success is loaded as the disk has it, unless the object has given it up. -/
theorem wp_loadLastSuccess_calm (calm : e.Calm) {Q : Option LastSuccessState → StoreWorld → Prop}
    (next : ∀ w', OnlyRead w w' → Q (readLastSuccess w.self w.disk) w') :
    wp loadLastSuccess Q C e w := by
  unfold loadLastSuccess
  rw [wp_bind, wp_self]
  by_cases available : w.self.lastSuccessAvailable
  · simp only [readLastSuccess, if_pos available] at next
    rw [if_pos available, wp_bind]
    apply wp_fetch_calm calm
    intro tick
    cases result : fetched decodeLastSuccess (w.disk keys.LAST_SUCCESS) with
    | error x =>
      rw [fetched_error result] at next
      -- the object stops reading a record that does not decode
      refine next _ ⟨rfl, ⟨rfl, ?_, rfl⟩, rfl, rfl⟩
      simp only [readLastSuccess, available, fetched_error result, ite_self]
    | ok stored =>
      rw [fetched_ok result] at next
      exact next _ (.later tick)
  · simp only [readLastSuccess, if_neg available] at next
    rw [if_neg available]
    exact next w .refl

/-- The window of reports is loaded as the disk has it, or is empty. -/
theorem wp_loadDedupe_calm (calm : e.Calm) {Q : DedupeState → StoreWorld → Prop}
    (next : ∀ w', OnlyRead w w' → Q (readDedupe w.self w.disk) w') :
    wp loadDedupe Q C e w := by
  unfold loadDedupe
  rw [wp_bind, wp_self, wp_bind, wp_self]
  by_cases available : w.self.dedupeAvailable
  · simp only [readDedupe, if_pos available] at next
    rw [if_pos available, wp_bind]
    apply wp_fetch_calm calm
    intro tick
    cases result : fetched decodeDedupe (w.disk keys.DEDUPE) with
    | error x =>
      rw [fetched_error result] at next
      -- the object stops reading the window, and an empty one takes its place
      refine next _ ⟨rfl, ⟨rfl, rfl, ?_⟩, rfl, rfl⟩
      simp only [readDedupe, available, fetched_error result, ite_self, FotaStateStore.emptyDedupe]
    | ok stored =>
      rw [fetched_ok result] at next
      cases stored with
      | none => exact next _ (.later tick)
      | some window => exact next _ (.later tick)
  · simp only [readDedupe, if_neg available] at next
    rw [if_neg available]
    exact next w .refl

/-- The active job is loaded as the disk has it; a damaged one is noted. -/
theorem wp_loadActiveJob_calm (calm : e.Calm) {Q : Option ActiveJobState → StoreWorld → Prop}
    (next : ∀ w', OnlyRead w w' → Q (readActiveJob w.disk) w') :
    wp loadActiveJob Q C e w := by
  unfold loadActiveJob
  rw [wp_bind]
  apply wp_fetch_calm calm
  intro tick
  unfold readActiveJob at next
  cases result : fetched decodeActiveJob (w.disk keys.ACTIVE_JOB) with
  | error x =>
    rw [fetched_error result] at next
    exact next _ ⟨rfl, ⟨rfl, rfl, rfl⟩, rfl, rfl⟩
  | ok stored =>
    rw [fetched_ok result] at next
    exact next _ (.later tick)

/-! ### Recovery -/

/-- The sequence cannot be trusted. -/
def Untrusted (object : FotaStateStore) (d : Disk) : Prop :=
  object.sequenceBlocked ∨ rolledBack (readSequence object d) (readLastSuccess object d)

instance {object : FotaStateStore} {d : Disk} : Decidable (Untrusted object d) :=
  inferInstanceAs (Decidable (_ ∨ _))

/-- The last success on record is the report of this job. -/
def Matches (object : FotaStateStore) (d : Disk) (job : ActiveJobState) : Prop :=
  ∃ l, readLastSuccess object d = some l ∧ l.reportId = job.reportId ∧
    l.snapshotSeq = job.snapshotSeq

/-- The disk after a completed job was cleaned up. -/
def cleanedUp (object : FotaStateStore) (d : Disk) (job : ActiveJobState) (l : LastSuccessState)
    (writtenAt : Int64) : Disk :=
  let window := readDedupe object d
  let d := if window.knows l.reportId l.snapshotSeq then d
    else d.put keys.DEDUPE (encodeDedupe writtenAt (window.complete job l))
  d.remove keys.ACTIVE_JOB

/-- A completed job is cleaned up if the last success on record is its report. -/
theorem wp_reconcileCompleted_calm (calm : e.Calm) {job : ActiveJobState}
    {Q : Except StoreException Bool → StoreWorld → Prop}
    (unmatched : ¬Matches w.self w.disk job → ∀ w', OnlyRead w w' → Q (.ok false) w')
    (matched : ∀ l, readLastSuccess w.self w.disk = some l → l.reportId = job.reportId →
      l.snapshotSeq = job.snapshotSeq → ∀ w' writtenAt,
      ((readDedupe w.self w.disk).knows l.reportId l.snapshotSeq →
        SameReads w.disk w.self w'.self) →
      (¬(readDedupe w.self w.disk).knows l.reportId l.snapshotSeq → w'.self.dedupeAvailable) →
      w'.disk = cleanedUp w.self w.disk job l writtenAt → Q (.ok true) w') :
    wp (reconcileCompleted job) Q C e w := by
  unfold reconcileCompleted
  rw [wp_bind]
  apply wp_loadLastSuccess_calm calm
  intro w₁ read₁
  unfold Matches at unmatched
  cases stored : readLastSuccess w.self w.disk with
  | none =>
    rw [stored] at unmatched
    exact unmatched (by simp) w₁ read₁
  | some l =>
    rw [stored] at unmatched
    dsimp only
    -- the last success is another report, so the job is not known to be done
    by_cases other : l.reportId ≠ job.reportId ∨ l.snapshotSeq ≠ job.snapshotSeq
    · rw [if_pos other]
      refine unmatched ?_ w₁ read₁
      rintro ⟨l', same, report, number⟩
      cases same
      exact other.elim (fun h => h report) fun h => h number
    have same : l.reportId = job.reportId ∧ l.snapshotSeq = job.snapshotSeq := by
      simpa only [not_or, not_not] using other
    rw [if_neg other, wp_bind]
    apply wp_loadDedupe_calm calm
    intro w₂ read₂
    have cleaned := matched l stored same.1 same.2
    simp only [cleanedUp] at cleaned
    have read₂ := read₁.trans read₂
    rw [read₁.disk, read₁.reads.dedupe]
    -- the report is in the window already, so only the job is removed
    by_cases known : (readDedupe w.self w.disk).knows l.reportId l.snapshotSeq
    · simp only [if_pos known] at cleaned ⊢
      rw [wp_bind, wp_pure]
      dsimp only
      rw [wp_bind, removeActiveJob, remove, wp_request_served calm.intact (calm.served _)]
      exact cleaned _ 0 (fun _ => read₂.reads) (absurd known) (by simp only [read₂.disk])
    -- the report goes into the window first
    · simp only [if_neg known] at cleaned ⊢
      rw [wp_bind]
      unfold saveDedupe save
      rw [wp_bind, wp_nowMs, wp_bind, wp_request_served calm.intact (calm.served _)]
      dsimp only
      rw [wp_bind, wp_setSelf, wp_pure]
      dsimp only
      rw [wp_bind, removeActiveJob, remove, wp_request_served calm.intact (calm.served _)]
      exact cleaned _ (e.clock w₂.tick) (fun known' => absurd known' known) (fun _ => rfl)
        (by simp only [read₂.disk])

/-- The job is to be collected again under its own identifier. -/
def Recollects (object : FotaStateStore) (d : Disk) (job : ActiveJobState) : Prop :=
  match job.phase with
  | .Accepted | .Collecting => True
  | .Assembled | .SubmitPrepared => job.snapshotSeq = 0
  | .SubmitUnknown | .RetryWaiting => False
  | .CompletedPendingCleanup => ¬Matches object d job

/-- What a recovery makes of a job, phase by phase. -/
theorem wp_recoverPhase_calm (calm : e.Calm) {job : ActiveJobState}
    {Q : Except StoreException RecoveryPlan → StoreWorld → Prop}
    (recollect : Recollects w.self w.disk job → ∀ w' reason, OnlyRead w w' →
      Q (.ok { action := .ReCollect, job := some job, reason }) w')
    (resume : ¬Recollects w.self w.disk job → job.phase ≠ .CompletedPendingCleanup →
      ∀ w' action reason, action = .Resubmit ∨ action = .Retry → OnlyRead w w' →
      Q (.ok { action, job := some job, reason }) w')
    (cleaned : job.phase = .CompletedPendingCleanup → ∀ l,
      readLastSuccess w.self w.disk = some l → l.reportId = job.reportId →
      l.snapshotSeq = job.snapshotSeq → ∀ w' writtenAt reason,
      ((readDedupe w.self w.disk).knows l.reportId l.snapshotSeq →
        SameReads w.disk w.self w'.self) →
      (¬(readDedupe w.self w.disk).knows l.reportId l.snapshotSeq → w'.self.dedupeAvailable) →
      w'.disk = cleanedUp w.self w.disk job l writtenAt →
      Q (.ok { action := .None, job := none, reason }) w') :
    wp (recoverPhase job) Q C e w := by
  unfold Recollects at recollect resume
  unfold recoverPhase
  cases phase : job.phase with
  | Accepted | Collecting =>
    rw [phase] at recollect
    exact recollect trivial w _ .refl
  -- the recovery looks at nothing of the number but whether it is zero
  | Assembled | SubmitPrepared =>
    simp only [phase] at recollect resume
    by_cases zero : job.snapshotSeq = 0
    · simp only [if_pos zero]
      exact recollect zero w _ .refl
    · simp only [if_neg zero]
      exact resume zero nofun w _ _ (Or.inl rfl) .refl
  | SubmitUnknown | RetryWaiting =>
    simp only [phase] at resume
    exact resume id nofun w _ _ (Or.inr rfl) .refl
  | CompletedPendingCleanup =>
    simp only [phase] at recollect
    rw [wp_bind]
    apply wp_reconcileCompleted_calm calm
    · intro unmatched w' read
      exact recollect unmatched w' _ read
    · intro l stored report number w' writtenAt reads writes disk
      exact cleaned phase l stored report number w' writtenAt _ reads writes disk

/-- What `recover` comes to. -/
theorem wp_recover_calm (calm : e.Calm) {Q : Except StoreException RecoveryPlan → StoreWorld → Prop}
    (untrusted : Untrusted w.self w.disk → ∀ w' reason, OnlyRead w w' →
      Q (.ok { action := .Blocked, reason }) w')
    (idle : ¬Untrusted w.self w.disk → readActiveJob w.disk = none →
      ∀ w' action reason, action = .None ∨ action = .ReCollectFresh → OnlyRead w w' →
      Q (.ok { action, reason }) w')
    (busy : ¬Untrusted w.self w.disk → ∀ job, readActiveJob w.disk = some job →
      ∀ w', OnlyRead w w' → wp (recoverPhase job) Q C e w') :
    wp recover Q C e w := by
  unfold recover
  rw [wp_bind, wp_self]
  -- a blocked object is not recovered
  by_cases blocked : w.self.sequenceBlocked
  · rw [if_pos blocked]
    exact untrusted (Or.inl blocked) w _ .refl
  rw [if_neg blocked, wp_bind]
  apply wp_loadSequence_calm calm
  intro w₁ read₁
  rw [wp_bind]
  apply wp_loadLastSuccess_calm calm
  intro w₂ read₂
  rw [read₁.disk, read₁.reads.lastSuccess]
  have read₂ := read₁.trans read₂
  -- the number on record is lower than the one last reported
  by_cases fallen : rolledBack (readSequence w.self w.disk) (readLastSuccess w.self w.disk)
  · rw [if_pos fallen]
    exact untrusted (Or.inr fallen) w₂ _ read₂
  have trusted : ¬Untrusted w.self w.disk := not_or.mpr ⟨blocked, fallen⟩
  rw [if_neg fallen, wp_bind]
  apply wp_loadActiveJob_calm calm
  intro w₃ read₃
  have read₃ := read₂.trans read₃
  rw [read₂.disk]
  cases stored : readActiveJob w.disk with
  | some job => exact busy trusted job stored w₃ read₃
  | none =>
    dsimp only
    rw [wp_bind, wp_self]
    split
    · exact idle trusted stored w₃ _ _ (Or.inr rfl) read₃
    · exact idle trusted stored w₃ _ _ (Or.inl rfl) read₃

end Calm

end CgwFota.Inventory
