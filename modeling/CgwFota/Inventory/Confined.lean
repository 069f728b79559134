import CgwFota.Crash.Frames
import CgwFota.Inventory.Calm
import CgwFota.Inventory.Frames
import CgwFota.Properties.SnapshotSeq

/-!
# Keys of one's own

Each part of the service writes under keys of its own. A relation between worlds that permits writes
there holds from where the part begins to where it ends.

## Main definitions

* `Permits`: effects that write nowhere but under keys in `D` lead to related worlds
* `Within`: nothing is different outside of `D`
* `InventoryKey`: the keys of the state store

## Main results

* `permits_within`, `permits_leaves`: the two relations this is used for
* `Permits.startUp`, `Permits.allocateSnapshotSeq`: the state store leads along any such relation

## Proof strategy

Each method is taken apart as the source writes it. Every branch ends in a value, or in a request
under a key of the store; the relation is transitive, so the branches compose.
-/
namespace CgwFota.Inventory

open Crash

section Confined

variable [JsonText] {e : Surroundings} {D : String → Prop} {R : StoreWorld → StoreWorld → Prop}

/-- Effects that write nowhere but under keys in `D` lead to related worlds. -/
structure Permits (e : Surroundings) (D : String → Prop) (R : StoreWorld → StoreWorld → Prop) :
    Prop where
  request : ∀ {α : Type} {write : Disk → Disk}
    {read : Surroundings → Disk → Except StoreException α},
    (∀ d key, ¬D key → write d key = d key) → Follows e R R (request write read)
  nowMs : Follows e R R nowMs
  setSelf : ∀ f : FotaStateStore → FotaStateStore, Follows e R R (setSelf f)

/-! ### Two relations -/

/-- Nothing is different outside of `D`. -/
def Within (D : String → Prop) (w w' : StoreWorld) : Prop :=
  ∀ key, ¬D key → w'.disk key = w.disk key

omit [JsonText] in
theorem Within.trans {w w' w'' : StoreWorld} (first : Within D w w') (second : Within D w' w'') :
    Within D w w'' :=
  fun key outside => (second key outside).trans (first key outside)

instance : IsPreorder StoreWorld (Within D) where
  refl _ _ _ := rfl
  trans _ _ _ first second := first.trans second

instance : Trans (Within D) (Within D) (Within D) := ⟨Within.trans⟩

/-- Where no stored value is damaged. -/
theorem permits_within (intact : e.Intact) (D : String → Prop) : Permits e D (Within D) where
  request frame w := by
    apply wp_request_intact intact
    · exact fun key outside => frame w.disk key outside
    -- refused or killed, the write took place or it did not
    all_goals
      intros
      rename_i either
      intro key outside
      rcases either with same | same
      · exact congrFun same key
      · exact (congrFun same key).trans (frame w.disk key outside)
  nowMs _ _ _ := rfl
  setSelf _ _ _ _ := rfl

/-- Who leaves the sequence alone only wears it. -/
theorem permits_leaves (e : Surroundings) (apart : ¬D keys.SEQUENCE) : Permits e D Leaves where
  request frame := (tolerates_leaves e).request fun d => frame d _ apart
  nowMs := (tolerates_leaves e).nowMs
  setSelf _ _ := ⟨.refl, rfl⟩

namespace Permits

theorem save (permits : Permits e D R) {key : String} (own : D key) (bytes : Bytes) :
    Follows e R R (Inventory.save key bytes) :=
  permits.request fun d other outside => Disk.put_ne d bytes (by rintro rfl; exact outside own)

theorem remove (permits : Permits e D R) {key : String} (own : D key) :
    Follows e R R (Inventory.remove key) :=
  permits.request fun d other outside => Disk.remove_ne d (by rintro rfl; exact outside own)

theorem has (permits : Permits e D R) (key : String) : Follows e R R (Inventory.has key) :=
  permits.request fun _ _ _ => rfl

theorem load (permits : Permits e D R) (key : String) : Follows e R R (Inventory.load key) :=
  permits.request fun _ _ _ => rfl

end Permits

/-! ### The keys of the state store -/

/-- The four states and the backups of their earlier forms. -/
def InventoryKey (key : String) : Prop :=
  key ∈ [keys.SEQUENCE, keys.LAST_SUCCESS, keys.DEDUPE, keys.ACTIVE_JOB] ∨
    ∃ state version, key = backupKey state version

omit [JsonText] in
/-- They begin with one of two letters. -/
theorem InventoryKey.head {key : String} (own : InventoryKey key) :
    key.toList.head? = some 'i' ∨ key.toList.head? = some 'm' := by
  rcases own with state | ⟨state, version, rfl⟩
  · left
    revert key
    decide
  · right
    unfold backupKey
    rw [String.append_assoc, String.append_assoc, String.toList_append, List.head?_append,
      show ("migration.backup." : String).toList.head? = some 'm' from by decide]
    rfl

omit [JsonText] in
theorem InventoryKey.state {key : String}
    (state : key ∈ [keys.SEQUENCE, keys.LAST_SUCCESS, keys.DEDUPE, keys.ACTIVE_JOB]) :
    InventoryKey key :=
  .inl state

namespace Permits

theorem openFramework (permits : Permits e InventoryKey R) : Follows e R R openFramework :=
  permits.request fun _ _ _ => rfl

variable [IsPreorder StoreWorld R]

theorem self : Follows e R R Inventory.self := fun w => refl_of R w

variable [Trans R R R] (permits : Permits e InventoryKey R)
include permits

theorem fetch {σ : Type} (key : String) (decodeFn : Bytes → Except StateDecodeError σ) :
    Follows e R R (fetch key decodeFn) := by
  apply (permits.has key).bind
  rintro (_ | _ | _)
  · exact .pure _
  · exact .pure _
  · apply (permits.load key).bind
    rintro (_ | bytes)
    · exact .pure _
    · dsimp only
      cases decodeFn bytes with
      | error _ => exact .pure _
      | ok _ => exact .pure _

/-! ### Opening -/

section Migration

variable {σ : Type} {key : String} (own : InventoryKey key)
  (decodeFn : Bytes → Except StateDecodeError σ) (encodeFn : Int64 → σ → Bytes)
include own

/-- The migration of a state writes its backup and its new form. -/
theorem migrate (env : Bytes) (version : UInt32) :
    Follows e R R (migrate key decodeFn encodeFn env version) := by
  -- the earlier form is kept under a key of its own first
  apply (permits.save (.inr ⟨key, version, rfl⟩) env).bind
  rintro (_ | _)
  · exact .pure _
  dsimp only
  cases decodeFn env with
  | error _ => exact .pure _
  | ok s =>
    apply permits.nowMs.bind
    intro writtenAt
    apply (permits.save own _).bind
    rintro (_ | _)
    · exact .pure _
    apply (permits.load key).bind
    rintro (_ | _)
    · exact .pure _
    · exact .pure _

/-- The check of a stored state migrates it where it is of an earlier version. -/
theorem migrateAndValidate (currentVersion : UInt32) :
    Follows e R R (migrateAndValidate key decodeFn encodeFn currentVersion) := by
  apply (permits.has key).bind
  rintro (_ | _ | _)
  · exact .pure _
  · exact .pure _
  apply (permits.load key).bind
  rintro (_ | env)
  · exact .pure _
  dsimp only
  cases parseEnvelopeHeader env with
  | error _ => exact .pure _
  | ok h =>
    apply Follows.ite (fun _ => .pure _)
    intro _
    apply Follows.ite (fun _ => .pure _)
    exact fun _ => permits.migrate own decodeFn encodeFn env h.schemaVersion

end Migration

/-- Opening the store checks the four states one after the other. -/
theorem openStore (dedupeMaxEntries : UInt32) (dedupeTtlMs : Int64) :
    Follows e R R (openStore dedupeMaxEntries dedupeTtlMs) := by
  apply permits.openFramework.bind
  rintro (_ | _)
  · exact .pure _
  apply (permits.migrateAndValidate (.state (by decide)) _ _ _).bind
  intro seqCorrupted
  apply (permits.migrateAndValidate (.state (by decide)) _ _ _).bind
  intro lastSuccessCorrupted
  apply (permits.migrateAndValidate (.state (by decide)) _ _ _).bind
  intro dedupeCorrupted
  apply (permits.migrateAndValidate (.state (by decide)) _ _ _).bind
  exact fun activeJobCorrupted => .pure _

/-! ### Accessors -/

theorem block {α : Type} (exception : SeqAllocBlocked) :
    Follows e R R (block exception : StoreM (Except SeqAllocBlocked α)) :=
  (permits.setSelf _).bind fun _ => .pure _

/-- An allocation saves the sequence, or blocks the object. -/
theorem allocateSnapshotSeq : Follows e R R allocateSnapshotSeq := by
  apply self.bind
  intro object
  apply Follows.ite (fun _ => .pure _)
  intro _
  apply (permits.fetch _ _).bind
  rintro ((_ | _) | stored)
  · exact permits.block _
  · exact permits.block _
  apply Follows.ite (fun _ => permits.block _)
  intro _
  apply permits.nowMs.bind
  intro updatedAt
  apply permits.nowMs.bind
  intro writtenAt
  apply (permits.save (.state (by decide)) _).bind
  rintro (_ | _)
  · exact permits.block _
  · exact .pure _

theorem loadSequence : Follows e R R loadSequence := by
  apply self.bind
  intro object
  apply Follows.ite (fun _ => .pure _)
  intro _
  apply (permits.fetch _ _).bind
  rintro (_ | _)
  · exact .pure _
  · exact .pure _

theorem loadLastSuccess : Follows e R R loadLastSuccess := by
  apply self.bind
  intro object
  refine Follows.ite (fun _ => ?_) fun _ => .pure _
  apply (permits.fetch _ _).bind
  rintro (_ | _)
  · exact (permits.setSelf _).bind fun _ => .pure _
  · exact .pure _

theorem loadDedupe : Follows e R R loadDedupe := by
  apply self.bind
  intro object
  apply self.bind
  intro object'
  refine Follows.ite (fun _ => ?_) fun _ => .pure _
  apply (permits.fetch _ _).bind
  rintro (_ | _ | _)
  · exact (permits.setSelf _).bind fun _ => .pure _
  · exact .pure _
  · exact .pure _

theorem loadActiveJob : Follows e R R loadActiveJob := by
  apply (permits.fetch _ _).bind
  rintro (_ | _)
  · exact (permits.setSelf _).bind fun _ => .pure _
  · exact .pure _

theorem saveDedupe (s : DedupeState) : Follows e R R (saveDedupe s) := by
  apply permits.nowMs.bind
  intro writtenAt
  apply (permits.save (.state (by decide)) _).bind
  rintro (_ | _)
  · exact .pure _
  · exact (permits.setSelf _).bind fun _ => .pure _

/-! ### Recovery -/

/-- Cleaning up a completed job saves the window and removes the job. -/
theorem reconcileCompleted (job : ActiveJobState) : Follows e R R (reconcileCompleted job) := by
  apply permits.loadLastSuccess.bind
  rintro (_ | lastSuccess)
  · exact .pure _
  apply Follows.ite (fun _ => .pure _)
  intro _
  apply permits.loadDedupe.bind
  intro window
  -- with or without a new entry in the window, the job is removed last
  refine Follows.ite (fun _ => (Follows.pure _).bind ?_) fun _ => (permits.saveDedupe _).bind ?_
  all_goals
    rintro (_ | _)
    · exact .pure _
    · apply (permits.remove (.state (by decide))).bind
      rintro (_ | _)
      · exact .pure _
      · exact .pure _

/-- A recovery of a job cleans it up, or changes nothing. -/
theorem recoverPhase (job : ActiveJobState) : Follows e R R (recoverPhase job) := by
  unfold Inventory.recoverPhase
  cases job.phase with
  | Accepted | Collecting | SubmitUnknown | RetryWaiting => exact .pure _
  | Assembled | SubmitPrepared => exact .ite (fun _ => .pure _) fun _ => .pure _
  | CompletedPendingCleanup =>
    apply (permits.reconcileCompleted job).bind
    rintro (_ | _ | _)
    · exact .pure _
    · exact .pure _
    · exact .pure _

/-- A recovery reads the states and goes on with the job, if there is one. -/
theorem recover : Follows e R R recover := by
  apply self.bind
  intro object
  apply Follows.ite (fun _ => .pure _)
  intro _
  apply permits.loadSequence.bind
  intro seq
  apply permits.loadLastSuccess.bind
  intro lastSuccess
  apply Follows.ite (fun _ => .pure _)
  intro _
  apply permits.loadActiveJob.bind
  rintro (_ | job)
  · exact self.bind fun _ => .ite (fun _ => .pure _) fun _ => .pure _
  · exact permits.recoverPhase job

theorem startUp (dedupeMaxEntries : UInt32) (dedupeTtlMs : Int64) :
    Follows e R R (startUp dedupeMaxEntries dedupeTtlMs) := by
  apply (permits.openStore dedupeMaxEntries dedupeTtlMs).bind
  rintro (_ | object)
  · exact .pure _
  · exact (permits.setSelf _).bind fun _ => permits.recover

end Permits

end Confined

end CgwFota.Inventory
