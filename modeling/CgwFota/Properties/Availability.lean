import Mathlib.Data.List.Induction
import CgwFota.Data.JsonText
import CgwFota.Inventory.Opening

/-!
# The availability flags

A store whose requests are all served is opened and used, and may be opened again. Its flags are
compared with what is stored: a flag is right if it says of the stored value whether it decodes.
`saveLastSuccess` and `saveDedupe` set their flags anew, `saveActiveJob` and `removeActiveJob` do
not.

## Main definitions

* `Undecodable`: there is a value and it does not decode.
* `Truthful`: the flags say what is stored, and the loads come back empty-handed only where nothing
  is stored that decodes.
* `StoreUse`, `afterUses`: what is done with a store, and the world afterwards.
* `FlagHolds`: the exact condition on one step.

## Main results

* `availability_truthful_iff`: the flags tell the truth all along exactly if each step meets its
  condition.
* `corrupted_after_replacement`: a damaged job is replaced, or removed, and still counts as damaged.

## Proof strategy

The loads follow from the flags, so `FlagsFit` is the invariant. The opening establishes it whatever
the disk, and each method keeps it exactly under its condition; the history follows by induction.
-/
namespace CgwFota.Inventory

open Crash

/-! ### Values -/

section Values

variable {σ : Type} {decodeFn : Bytes → Except StateDecodeError σ} {value : Option Bytes}

variable (decodeFn) in
/-- There is a value and it does not decode. -/
def Undecodable (value : Option Bytes) : Prop :=
  ∃ bytes, value = some bytes ∧ rejects decodeFn bytes

theorem decoded_of_undecodable (undecodable : Undecodable decodeFn value) :
    decoded decodeFn value = none := by
  obtain ⟨bytes, rfl, rejected⟩ := undecodable
  unfold rejects at rejected
  cases result : decodeFn bytes with
  | error x => simp [decoded, result, Except.toOption]
  | ok s => simp [result] at rejected

/-- A fetch that is served fails on such values only. -/
theorem undecodable_of_fetched {x : Failure} (failed : fetched decodeFn value = .error x) :
    Undecodable decodeFn value := by
  cases value with
  | none => cases failed
  | some bytes =>
    simp only [fetched] at failed
    cases result : decodeFn bytes with
    | error y => exact ⟨bytes, rfl, by simp [rejects, result]⟩
    | ok s => simp [result] at failed

theorem undecodable_some {bytes : Bytes} :
    Undecodable decodeFn (some bytes) ↔ rejects decodeFn bytes := by
  constructor
  · rintro ⟨bytes', same, rejected⟩
    cases same
    exact rejected
  · exact fun rejected => ⟨bytes, rfl, rejected⟩

theorem not_undecodable_none : ¬Undecodable decodeFn none := by
  rintro ⟨bytes, absent, _⟩
  cases absent

end Values

section Availability

variable [JsonText]

/-! ### The contract -/

/-- The flags of the current object say what is stored, and its loads come back empty-handed only
where nothing is stored that decodes. -/
structure Truthful (e : Surroundings) (w : StoreWorld) : Prop where
  activeJobCorrupted :
    w.self.activeJobCorrupted ↔ Undecodable decodeActiveJob (w.disk keys.ACTIVE_JOB)
  lastSuccessAvailable :
    ¬w.self.lastSuccessAvailable → Undecodable decodeLastSuccess (w.disk keys.LAST_SUCCESS)
  dedupeAvailable : ¬w.self.dedupeAvailable → Undecodable decodeDedupe (w.disk keys.DEDUPE)
  loadSequence :
    wp loadSequence (fun r _ => r = none → decoded decodeSequence (w.disk keys.SEQUENCE) = none)
      (fun _ => False) e w
  loadLastSuccess :
    wp loadLastSuccess
      (fun r _ => r = none → decoded decodeLastSuccess (w.disk keys.LAST_SUCCESS) = none)
      (fun _ => False) e w
  /-- What is stored comes back, with the configured bounds. -/
  loadDedupe :
    wp loadDedupe
      (fun r _ => ∀ window, decoded decodeDedupe (w.disk keys.DEDUPE) = some window →
        r = { window with maxEntries := w.self.dedupeMaxEntries, ttlMs := w.self.dedupeTtlMs })
      (fun _ => False) e w
  loadActiveJob :
    wp loadActiveJob
      (fun r _ => r = none → decoded decodeActiveJob (w.disk keys.ACTIVE_JOB) = none)
      (fun _ => False) e w

/-! ### Histories of one store -/

/-- What is done with a store; opening it again replaces the object. -/
inductive StoreUse where
  | openStore (dedupeMaxEntries : UInt32) (dedupeTtlMs : Int64)
  | call (method : Method)
  deriving DecidableEq, Repr

def performUse : StoreUse → StoreM Unit
  | .openStore dedupeMaxEntries dedupeTtlMs => do
    match ← openStore dedupeMaxEntries dedupeTtlMs with
    | .error _ => return ()
    | .ok object => setSelf fun _ => object
  | .call method => runMethod method

/-- The world after some uses of the store. -/
def afterUses (e : Surroundings) (w : StoreWorld) (uses : List StoreUse) : StoreWorld :=
  uses.foldl (fun w use => (performUse use e w).settle StoreWorld.endProcess) w

/-- The job's flag is what it has to be after the step, and no number is asked for when the last
one has been given. -/
def FlagHolds (e : Surroundings) (w : StoreWorld) : StoreUse → Prop
  | .call (.saveActiveJob s) =>
    w.self.activeJobCorrupted = rejects decodeActiveJob (encodeActiveJob (e.clock w.tick) s)
  | .call .removeActiveJob => ¬w.self.activeJobCorrupted
  | .call .allocateSnapshotSeq =>
    ∀ s, decoded decodeSequence (w.disk keys.SEQUENCE) = some s →
      s.highestAllocated < SNAPSHOT_SEQ_MAX
  | _ => True

/-! ### Flags -/

/-- What the flags have to say of the disk. -/
structure FlagsFit (object : FotaStateStore) (d : Disk) : Prop where
  activeJob : object.activeJobCorrupted ↔ Undecodable decodeActiveJob (d keys.ACTIVE_JOB)
  lastSuccess :
    ¬object.lastSuccessAvailable → Undecodable decodeLastSuccess (d keys.LAST_SUCCESS)
  dedupe : ¬object.dedupeAvailable → Undecodable decodeDedupe (d keys.DEDUPE)
  sequence : object.sequenceBlocked → decoded decodeSequence (d keys.SEQUENCE) = none

variable {e : Surroundings} {w : StoreWorld}

/-- Where the flags fit, so do the loads. -/
theorem truthful_iff (calm : e.Calm) : Truthful e w ↔ FlagsFit w.self w.disk := by
  constructor
  · intro truthful
    refine ⟨truthful.activeJobCorrupted, truthful.lastSuccessAvailable,
      truthful.dedupeAvailable, ?_⟩
    -- a sequence that is blocked is not loaded, so nothing may be there that decodes
    intro blocked
    have loaded := truthful.loadSequence
    unfold loadSequence at loaded
    rw [wp_bind, wp_self, if_pos blocked] at loaded
    exact loaded rfl
  -- each load returns what its flag lets through
  · intro fit
    refine ⟨fit.activeJob, fit.lastSuccess, fit.dedupe, ?_, ?_, ?_, ?_⟩
    · apply wp_loadSequence_calm calm
      intro w' _ empty
      unfold readSequence at empty
      by_cases blocked : w.self.sequenceBlocked
      · exact fit.sequence blocked
      · rwa [if_neg blocked] at empty
    · apply wp_loadLastSuccess_calm calm
      intro w' _ empty
      unfold readLastSuccess at empty
      by_cases available : w.self.lastSuccessAvailable
      · rwa [if_pos available] at empty
      · exact decoded_of_undecodable (fit.lastSuccess available)
    · apply wp_loadDedupe_calm calm
      intro w' _ window stored
      unfold readDedupe
      by_cases available : w.self.dedupeAvailable
      · rw [if_pos available, stored]
      · rw [decoded_of_undecodable (fit.dedupe available)] at stored
        cases stored
    · apply wp_loadActiveJob_calm calm
      intro w' _ empty
      exact empty

/-! ### Opening -/

/-- A value of a newer version does not decode. -/
theorem Format.rejects_newer {σ : Type} {format : Format σ} {bytes : Bytes} {h : EnvelopeHeader}
    (header : parseEnvelopeHeader bytes = .ok h) (newer : h.schemaVersion > format.version) :
    rejects format.decode bytes := by
  unfold rejects Format.decode
  rw [header]
  simp only [bind, Except.bind, if_pos newer]

/-- After the phase for a key its flag says whether the value that is there decodes. -/
theorem Format.settle_flag {σ : Type} {format : Format σ} {key : String}
    (own : ∀ v, key ≠ backupKey key v) (writtenAt : Int64) (d : Disk) :
    (format.settle key writtenAt d).2 ↔
      Undecodable format.decode ((format.settle key writtenAt d).1 key) := by
  unfold Format.settle
  cases stored : d key with
  -- nothing is stored, and nothing has to be done
  | none =>
    dsimp only
    rw [stored]
    simp [not_undecodable_none]
  | some old =>
  dsimp only
  cases header : parseEnvelopeHeader old with
  -- no header can be read: the value stays, and no decoder takes it
  | error x =>
    dsimp only
    rw [stored, undecodable_some]
    simp [rejects, Format.decode_of_header header]
  | ok h =>
  dsimp only
  -- a newer version is left alone
  by_cases newer : h.schemaVersion > format.version
  · simp only [if_pos newer, stored, undecodable_some, Format.rejects_newer header newer]
  rw [if_neg newer]
  -- the current one is only tried
  by_cases current : h.schemaVersion = format.version
  · simp only [if_pos current, stored, undecodable_some]
  rw [if_neg current]
  -- an older one is backed up first and then written anew
  cases result : format.decode old with
  | error x =>
    dsimp only
    rw [Disk.put_ne _ _ (own _), stored, undecodable_some]
    simp [rejects, result]
  | ok s =>
    dsimp only
    rw [Disk.put_self, undecodable_some]

/-- After an opening the flags fit, whatever was on the disk before. -/
theorem flagsFit_opened (dedupeMaxEntries : UInt32) (dedupeTtlMs : Int64) (t₀ t₁ t₂ t₃ : Int64)
    (d : Disk) :
    FlagsFit (opened dedupeMaxEntries dedupeTtlMs t₀ t₁ t₂ t₃ d).1
      (opened dedupeMaxEntries dedupeTtlMs t₀ t₁ t₂ t₃ d).2 := by
  -- the backups lie under other keys than the values
  have own (key : String) (member : key ∈ inventoryKeys) := inventoryKey_ne_backup member
  obtain ⟨seq, last, window⟩ := spares_of_phases (Format.settle_leads t₁ _)
    (Format.settle_leads t₂ _) (Format.settle_leads t₃ _)
  unfold opened
  constructor
  · exact Format.settle_flag (own _ (by decide)) t₃ _
  · dsimp only
    rw [last.value, Bool.not_eq_true, Bool.not_eq_false']
    exact (Format.settle_flag (own _ (by decide)) t₁ _).mp
  · dsimp only
    rw [window.value, Bool.not_eq_true, Bool.not_eq_false']
    exact (Format.settle_flag (own _ (by decide)) t₂ _).mp
  · intro blocked
    dsimp only at blocked ⊢
    rw [seq.value]
    exact decoded_of_undecodable ((Format.settle_flag (own _ (by decide)) t₀ _).mp blocked)

/-! ### One step -/

/-- A save of the last success sets its flag and no other. -/
theorem FlagsFit.saveLastSuccess {object : FotaStateStore} {d : Disk} (fit : FlagsFit object d)
    (bytes : Bytes) :
    FlagsFit { object with lastSuccessAvailable := true } (d.put keys.LAST_SUCCESS bytes) := by
  constructor
  · rw [Disk.put_ne _ _ (by decide)]
    exact fit.activeJob
  · exact fun unavailable => absurd rfl unavailable
  · rw [Disk.put_ne _ _ (by decide)]
    exact fit.dedupe
  · rw [Disk.put_ne _ _ (by decide)]
    exact fit.sequence

theorem FlagsFit.saveDedupe {object : FotaStateStore} {d : Disk} (fit : FlagsFit object d)
    (bytes : Bytes) :
    FlagsFit { object with dedupeAvailable := true } (d.put keys.DEDUPE bytes) := by
  constructor
  · rw [Disk.put_ne _ _ (by decide)]
    exact fit.activeJob
  · rw [Disk.put_ne _ _ (by decide)]
    exact fit.lastSuccess
  · exact fun unavailable => absurd rfl unavailable
  · rw [Disk.put_ne _ _ (by decide)]
    exact fit.sequence

/-- The flag of the job is not touched by a save, so it has to be right already. -/
theorem FlagsFit.saveActiveJob {object : FotaStateStore} {d : Disk} (fit : FlagsFit object d)
    (bytes : Bytes) :
    FlagsFit object (d.put keys.ACTIVE_JOB bytes) ↔
      object.activeJobCorrupted = rejects decodeActiveJob bytes := by
  constructor
  -- the flag that was there speaks of the new value
  · intro after
    have flag := after.activeJob
    rw [Disk.put_self, undecodable_some] at flag
    exact Bool.eq_iff_iff.mpr flag
  · intro right
    constructor
    · rw [Disk.put_self, undecodable_some, right]
    · rw [Disk.put_ne _ _ (by decide)]
      exact fit.lastSuccess
    · rw [Disk.put_ne _ _ (by decide)]
      exact fit.dedupe
    · rw [Disk.put_ne _ _ (by decide)]
      exact fit.sequence

/-- After a removal of the job the flags fit exactly if the job is not flagged as corrupted. -/
theorem FlagsFit.removeActiveJob {object : FotaStateStore} {d : Disk} (fit : FlagsFit object d) :
    FlagsFit object (d.remove keys.ACTIVE_JOB) ↔ ¬object.activeJobCorrupted := by
  have gone : d.remove keys.ACTIVE_JOB keys.ACTIVE_JOB = none := if_pos rfl
  constructor
  · intro after flag
    have undecodable := after.activeJob.mp flag
    rw [gone] at undecodable
    exact not_undecodable_none undecodable
  · intro clear
    -- the other flags are about values under other keys
    constructor
    · rw [gone]
      exact iff_of_false clear not_undecodable_none
    · rw [Disk.remove_ne _ (by decide)]
      exact fit.lastSuccess
    · rw [Disk.remove_ne _ (by decide)]
      exact fit.dedupe
    · rw [Disk.remove_ne _ (by decide)]
      exact fit.sequence

/-- An allocation writes the sequence only, and only where it is not blocked. -/
theorem FlagsFit.allocated {object : FotaStateStore} {d : Disk} (fit : FlagsFit object d)
    (free : ¬object.sequenceBlocked) (bytes : Bytes) :
    FlagsFit object (d.put keys.SEQUENCE bytes) := by
  constructor
  · rw [Disk.put_ne _ _ (by decide)]
    exact fit.activeJob
  · rw [Disk.put_ne _ _ (by decide)]
    exact fit.lastSuccess
  · rw [Disk.put_ne _ _ (by decide)]
    exact fit.dedupe
  · exact fun blocked => absurd blocked free

/-- What loading may do to the world: a flag falls where the value does not decode. -/
structure Loaded (w w' : StoreWorld) : Prop where
  disk : w'.disk = w.disk
  fit : FlagsFit w.self w.disk → FlagsFit w'.self w.disk

/-- A load of the sequence changes neither the disk nor a flag. -/
theorem wp_loadSequence_fit (calm : e.Calm) :
    wp loadSequence (fun _ => Loaded w) (fun _ => False) e w := by
  unfold loadSequence
  rw [wp_bind, wp_self]
  by_cases blocked : w.self.sequenceBlocked
  · rw [if_pos blocked]
    exact ⟨rfl, id⟩
  rw [if_neg blocked, wp_bind]
  apply wp_fetch_calm calm
  intro tick
  cases fetched decodeSequence (w.disk keys.SEQUENCE) with
  | error x => exact ⟨rfl, id⟩
  | ok stored => exact ⟨rfl, id⟩

/-- A load of the last success clears its flag where the value is damaged. -/
theorem wp_loadLastSuccess_fit (calm : e.Calm) :
    wp loadLastSuccess (fun _ => Loaded w) (fun _ => False) e w := by
  unfold loadLastSuccess
  rw [wp_bind, wp_self]
  by_cases available : w.self.lastSuccessAvailable
  · rw [if_pos available, wp_bind]
    apply wp_fetch_calm calm
    intro tick
    cases result : fetched decodeLastSuccess (w.disk keys.LAST_SUCCESS) with
    -- the value is damaged, and the flag says so from now on
    | error x =>
      have undecodable := undecodable_of_fetched result
      exact ⟨rfl, fun fit => ⟨fit.activeJob, fun _ => undecodable, fit.dedupe, fit.sequence⟩⟩
    | ok stored => exact ⟨rfl, id⟩
  · rw [if_neg available]
    exact ⟨rfl, id⟩

/-- A load of the window clears its flag where the value is damaged. -/
theorem wp_loadDedupe_fit (calm : e.Calm) :
    wp loadDedupe (fun _ => Loaded w) (fun _ => False) e w := by
  unfold loadDedupe
  rw [wp_bind, wp_self, wp_bind, wp_self]
  by_cases available : w.self.dedupeAvailable
  · rw [if_pos available, wp_bind]
    apply wp_fetch_calm calm
    intro tick
    cases result : fetched decodeDedupe (w.disk keys.DEDUPE) with
    | error x =>
      have undecodable := undecodable_of_fetched result
      exact ⟨rfl, fun fit => ⟨fit.activeJob, fit.lastSuccess, fun _ => undecodable, fit.sequence⟩⟩
    | ok stored =>
      cases stored with
      | none => exact ⟨rfl, id⟩
      | some window => exact ⟨rfl, id⟩
  · rw [if_neg available]
    exact ⟨rfl, id⟩

/-- A load of the job raises its flag where the value is damaged. -/
theorem wp_loadActiveJob_fit (calm : e.Calm) :
    wp loadActiveJob (fun _ => Loaded w) (fun _ => False) e w := by
  unfold loadActiveJob
  rw [wp_bind]
  apply wp_fetch_calm calm
  intro tick
  cases result : fetched decodeActiveJob (w.disk keys.ACTIVE_JOB) with
  | error x =>
    have undecodable := undecodable_of_fetched result
    refine ⟨rfl, fun fit => ⟨?_, fit.lastSuccess, fit.dedupe, fit.sequence⟩⟩
    exact ⟨fun _ => undecodable, fun _ => rfl⟩
  | ok stored => exact ⟨rfl, id⟩

/-- An allocation blocks what it cannot read, and what it can once the last number is given. -/
theorem wp_allocateSnapshotSeq_fit (calm : e.Calm) (fit : FlagsFit w.self w.disk) :
    wp allocateSnapshotSeq
      (fun _ w' => FlagsFit w'.self w'.disk ↔ FlagHolds e w (.call .allocateSnapshotSeq))
      (fun _ => False) e w := by
  unfold allocateSnapshotSeq
  rw [wp_bind, wp_self]
  -- blocked: nothing is read, and the stored sequence does not decode
  by_cases blocked : w.self.sequenceBlocked
  · rw [if_pos blocked]
    apply iff_of_true fit
    intro s stored
    rw [fit.sequence blocked] at stored
    cases stored
  rw [if_neg blocked, wp_bind]
  apply wp_fetch_calm calm
  intro tick
  cases result : fetched decodeSequence (w.disk keys.SEQUENCE) with
  | error failure =>
    have unread := fetched_error result
    -- the value cannot be read, so the condition has nothing to ask for
    have nothing : FlagHolds e w (.call .allocateSnapshotSeq) := by
      intro s stored
      rw [unread] at stored
      cases stored
    cases failure with
    | store x =>
      exact iff_of_true ⟨fit.activeJob, fit.lastSuccess, fit.dedupe, fun _ => unread⟩ nothing
    | decode x =>
      exact iff_of_true ⟨fit.activeJob, fit.lastSuccess, fit.dedupe, fun _ => unread⟩ nothing
  | ok stored =>
    have read := fetched_ok result
    dsimp only
    by_cases full : (stored.getD { highestAllocated := 0, updatedAt := 0 }).highestAllocated ≥
        SNAPSHOT_SEQ_MAX
    -- the last number is given: the flag goes up over a sequence that decodes
    · rw [if_pos full]
      cases stored with
      | none => exact absurd full (by decide)
      | some s =>
        apply iff_of_false
        · intro after
          have lost := after.sequence rfl
          rw [read] at lost
          cases lost
        · intro room
          exact UInt64.not_lt.mpr full (room s read)
    -- there is a number left, and the sequence is saved with it
    · rw [if_neg full, wp_bind, wp_nowMs, wp_bind, wp_nowMs, wp_bind]
      unfold save
      rw [wp_request_served calm.intact (calm.served _)]
      apply iff_of_true (fit.allocated blocked _)
      intro s found
      rw [read] at found
      cases found
      exact UInt64.not_le.mp full

/-- Opening does not ask how the flags were. -/
theorem wp_openUse_fit (calm : e.Calm) (dedupeMaxEntries : UInt32) (dedupeTtlMs : Int64) :
    wp (performUse (.openStore dedupeMaxEntries dedupeTtlMs))
      (fun _ w' => FlagsFit w'.self w'.disk) (fun _ => False) e w := by
  unfold performUse
  dsimp only
  rw [wp_bind]
  apply wp_openStore_calm calm
  intro t₀ t₁ t₂ t₃ tick
  exact flagsFit_opened dedupeMaxEntries dedupeTtlMs t₀ t₁ t₂ t₃ w.disk

/-- One step from where the flags fit. -/
theorem wp_performUse_fit (calm : e.Calm) (use : StoreUse) (fit : FlagsFit w.self w.disk) :
    wp (performUse use) (fun _ w' => FlagsFit w'.self w'.disk ↔ FlagHolds e w use)
      (fun _ => False) e w := by
  -- a method that reads may only lower a flag where that is right
  have loads {α : Type} {load : StoreM α}
      (read : wp load (fun _ => Loaded w) (fun _ => False) e w) :
      wp (load >>= fun _ => pure ()) (fun _ w' => FlagsFit w'.self w'.disk ↔ True) (fun _ => False)
        e w := by
    rw [wp_bind]
    exact wp_mono read (fun _ _ loaded => iff_true_intro (loaded.disk ▸ loaded.fit fit)) fun _ => id
  cases use with
  | openStore dedupeMaxEntries dedupeTtlMs =>
    exact wp_mono (wp_openUse_fit calm dedupeMaxEntries dedupeTtlMs)
      (fun _ _ => iff_true_intro) fun _ => id
  | call method =>
    show wp (runMethod method) _ _ e w
    cases method with
    | allocateSnapshotSeq =>
      unfold runMethod
      dsimp only
      rw [wp_bind, wp_world, wp_bind]
      exact wp_mono (wp_allocateSnapshotSeq_fit calm fit) (fun _ _ fits => fits) fun _ => id
    | loadSequence => exact loads (wp_loadSequence_fit calm)
    | loadLastSuccess => exact loads (wp_loadLastSuccess_fit calm)
    | saveLastSuccess s =>
      unfold runMethod saveLastSuccess save
      dsimp only
      rw [wp_bind, wp_bind, wp_nowMs, wp_bind, wp_request_served calm.intact (calm.served _)]
      exact iff_true_intro (fit.saveLastSuccess _)
    | loadDedupe => exact loads (wp_loadDedupe_fit calm)
    | saveDedupe s =>
      unfold runMethod saveDedupe save
      dsimp only
      rw [wp_bind, wp_bind, wp_nowMs, wp_bind, wp_request_served calm.intact (calm.served _)]
      exact iff_true_intro (fit.saveDedupe _)
    | loadActiveJob => exact loads (wp_loadActiveJob_fit calm)
    | saveActiveJob s =>
      unfold runMethod saveActiveJob save
      dsimp only
      rw [wp_bind, wp_bind, wp_nowMs, wp_request_served calm.intact (calm.served _)]
      exact fit.saveActiveJob _
    | removeActiveJob =>
      unfold runMethod removeActiveJob remove
      dsimp only
      rw [wp_bind, wp_request_served calm.intact (calm.served _)]
      exact fit.removeActiveJob

/-! ### Whole histories -/

theorem afterUses_append (uses uses' : List StoreUse) :
    afterUses e w (uses ++ uses') = afterUses e (afterUses e w uses) uses' :=
  List.foldl_append

/-- The flags fit after a step if and only if its condition holds. -/
theorem fit_afterUse (calm : e.Calm) (use : StoreUse) (fit : FlagsFit w.self w.disk) :
    FlagsFit (afterUses e w [use]).self (afterUses e w [use]).disk ↔ FlagHolds e w use :=
  settle_of_wp (P := fun w' => FlagsFit w'.self w'.disk ↔ FlagHolds e w use)
    (wp_mono (wp_performUse_fit calm use fit) (fun _ _ => id) fun _ => False.elim)

/-- A store on any disk is opened and used. The flags and the loads tell the truth after every
step if and only if each step finds the flag of the job as it leaves it, and the numbers have not
run out. -/
theorem availability_truthful_iff (calm : e.Calm) (d : Disk) (dedupeMaxEntries : UInt32)
    (dedupeTtlMs : Int64) (uses : List StoreUse) :
    let opened := afterUses e { disk := d } [.openStore dedupeMaxEntries dedupeTtlMs]
    (∀ past, past <+: uses → Truthful e (afterUses e opened past)) ↔
      ∀ past use, past ++ [use] <+: uses → FlagHolds e (afterUses e opened past) use := by
  intro opened
  -- the opening does not ask how the disk was
  have start : FlagsFit opened.self opened.disk :=
    settle_of_wp (P := fun w' => FlagsFit w'.self w'.disk)
      (wp_mono (wp_openUse_fit calm dedupeMaxEntries dedupeTtlMs) (fun _ _ => id)
        fun _ => False.elim)
  constructor
  · intro truthful past use inside
    have before := (truthful_iff calm).mp (truthful past ((List.prefix_append _ _).trans inside))
    have after := (truthful_iff calm).mp (truthful _ inside)
    rw [afterUses_append] at after
    exact (fit_afterUse calm use before).mp after
  · intro holds past
    rw [truthful_iff calm]
    -- by induction on what was done so far
    induction past using List.reverseRecOn with
    | nil => exact fun _ => start
    | append_singleton past use ih =>
      intro inside
      have before := ih ((List.prefix_append _ _).trans inside)
      rw [afterUses_append]
      exact (fit_afterUse calm use before).mpr (holds past use inside)

end Availability

/-! ### A stale flag -/

section Example

/-- Nothing but a job that is no envelope. -/
def damagedJob : Disk := fun key => if key = keys.ACTIVE_JOB then some [] else none

/-- The condition and the truth agree on a damaged job that is replaced. -/
theorem availability_truthful_damagedJob :
    letI := compactText
    let opened := afterUses undisturbed { disk := damagedJob } [.openStore 100 3600000]
    undisturbed.Calm ∧
      ((∀ past, past <+: [.call .loadActiveJob, .call (.saveActiveJob {})] →
        Truthful undisturbed (afterUses undisturbed opened past)) ↔
      ∀ past use, past ++ [use] <+: [.call .loadActiveJob, .call (.saveActiveJob {})] →
        FlagHolds undisturbed (afterUses undisturbed opened past) use) :=
  letI := compactText
  ⟨calm_undisturbed, availability_truthful_iff calm_undisturbed damagedJob 100 3600000 _⟩

/-- The job is replaced by one that decodes, or removed, and still counts as damaged. -/
theorem corrupted_after_replacement :
    letI := compactText
    let opened := afterUses undisturbed { disk := damagedJob } [.openStore 100 3600000]
    undisturbed.Calm ∧
      ¬Truthful undisturbed (afterUses undisturbed opened [.call (.saveActiveJob {})]) ∧
      ¬Truthful undisturbed (afterUses undisturbed opened [.call .removeActiveJob]) := by
  let := compactText
  intro opened
  refine ⟨calm_undisturbed, ?_, ?_⟩
  · intro truthful
    have flag : (afterUses undisturbed opened
        [.call (.saveActiveJob {})]).self.activeJobCorrupted := by decide +kernel
    have stored : decoded decodeActiveJob ((afterUses undisturbed opened
        -- the flag of the damaged job is still up and the new one decodes
        [.call (.saveActiveJob {})]).disk keys.ACTIVE_JOB) = some {} := by decide +kernel
    rw [decoded_of_undecodable (truthful.activeJobCorrupted.mp flag)] at stored
    cases stored
  · intro truthful
    have flag : (afterUses undisturbed opened
        [.call .removeActiveJob]).self.activeJobCorrupted := by decide +kernel
    have stored : (afterUses undisturbed opened
        [.call .removeActiveJob]).disk keys.ACTIVE_JOB = none := by decide +kernel
    have undecodable := truthful.activeJobCorrupted.mp flag
    -- it is still up where nothing is stored at all
    rw [stored] at undecodable
    exact not_undecodable_none undecodable

end Example

end CgwFota.Inventory
