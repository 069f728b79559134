import CgwFota.Cloud.Store
import CgwFota.Data.JsonText

/-!
# The cloud store as typed maps

Seen from outside, the store is one map for each kind of record: a load returns the record that was
saved last under its kind and identifier, whatever happened to the others.

## Main definitions

* `Operation`, `Reply`: loads, saves and removals, and what comes back.
* `TypedMaps`: for each kind, the records by their identifiers.
* `Represents`: every load finds what the maps say.

## Main result

* `store_refines_maps`: the store answers every sequence of operations as the maps do.

## Proof strategy

Keys are injective in kind and identifier, so an operation leaves the loads of other records alone
whatever the store holds. Its own record is found by the round trip of its codec. Both together are
one step of the simulation.
-/
namespace CgwFota.Cloud

open Inventory (Thrown Disk)
open CgwFota.Cloud.FotaCloudStateStore (load save remove load_absent load_stored load_congr)

/-- What can be asked of the store. -/
inductive Operation where
  | load (k : Kind) (id : k.Id)
  | save (k : Kind) (r : k.Record)
  | remove (k : Kind) (item : k ≠ .eventOutboxMeta) (id : k.Id)

/-- The record an operation is about. -/
def Operation.target : Operation → (k : Kind) × k.Id
  | load k id => ⟨k, id⟩
  | save k r => ⟨k, k.idOf r⟩
  | remove k _ id => ⟨k, id⟩

/-- What the caller gets back. -/
inductive Reply where
  | loaded (k : Kind) (result : Except Thrown (Option k.Record))
  | done

/-! ### The maps -/

/-- For each kind, the records by their identifiers. -/
abbrev TypedMaps : Type := (k : Kind) → k.Id → Option k.Record

namespace TypedMaps

/-- No record of any kind. -/
def empty : TypedMaps := fun _ _ => none

/-- One record is there now, or is not any more. -/
def assign (m : TypedMaps) (k : Kind) (id : k.Id) (r : Option k.Record) : TypedMaps :=
  Function.update m k (Function.update (m k) id r)

theorem assign_self (m : TypedMaps) (k : Kind) (id : k.Id) (r : Option k.Record) :
    m.assign k id r k id = r := by
  rw [assign, Function.update_self, Function.update_self]

theorem assign_other (m : TypedMaps) {k k' : Kind} {id : k.Id} {id' : k'.Id} (r : Option k.Record)
    (other : (⟨k', id'⟩ : (k : Kind) × k.Id) ≠ ⟨k, id⟩) : m.assign k id r k' id' = m k' id' := by
  unfold assign
  by_cases same : k' = k
  · subst same
    rw [Function.update_self, Function.update_of_ne]
    rintro rfl
    exact other rfl
  · rw [Function.update_of_ne same]

/-- An operation on the maps. -/
def perform : Operation → TypedMaps → Reply × TypedMaps
  | .load k id, m => (.loaded k (.ok (m k id)), m)
  | .save k r, m => (.done, m.assign k (k.idOf r) (some r))
  | .remove k _ id, m => (.done, m.assign k id none)

/-- The replies to a sequence of operations. -/
def replies : List Operation → TypedMaps → List Reply
  | [], _ => []
  | op :: ops, m => (perform op m).1 :: replies ops (perform op m).2

end TypedMaps

/-! ### The store -/

section Store

variable [JsonText]

/-- The same operation on the bytes. -/
def perform (writtenAt : Int64) : Operation → Disk → Reply × Disk
  | .load k id, d => (.loaded k (load k id d), d)
  | .save k r, d => (.done, save k r writtenAt d)
  | .remove k item id, d => (.done, remove k item id d)

/-- The replies to operations that take place at these times. -/
def replies : List (Int64 × Operation) → Disk → List Reply
  | [], _ => []
  | (t, op) :: ops, d => (perform t op d).1 :: replies ops (perform t op d).2

/-- What is asked of the records that are saved. -/
def Operation.Storable : Operation → Prop
  | load _ _ => True
  | save k r => k.codec.Storable r
  | remove _ _ _ => True

/-- Every load finds what the maps say. -/
def Represents (d : Disk) (m : TypedMaps) : Prop := ∀ k id, load k id d = .ok (m k id)

variable {d : Disk} {m : TypedMaps} {op : Operation} {t : Int64}

/-- An operation leaves the other records alone, whatever the store holds. -/
theorem load_perform_other {k : Kind} {id : k.Id} (other : ⟨k, id⟩ ≠ op.target) :
    load k id (perform t op d).2 = load k id d := by
  have apart {k' : Kind} {id' : k'.Id} (different : (⟨k, id⟩ : (k : Kind) × k.Id) ≠ ⟨k', id'⟩) :
      k.key id ≠ k'.key id' := fun same => different (Kind.key_injective same)
  cases op with
  | load k' id' => rfl
  | save k' r =>
    apply load_congr
    show save k' r t d (k.key id) = _
    rw [FotaCloudStateStore.save_eq]
    exact Disk.put_ne _ _ (apart other)
  | remove k' item id' =>
    apply load_congr
    show remove k' item id' d (k.key id) = _
    rw [FotaCloudStateStore.remove_eq]
    exact Disk.remove_ne _ (apart other)

variable [LawfulJsonText]

/-- The operation's own record is found as the maps say. -/
theorem load_perform_self (storable : op.Storable) (represents : Represents d m) :
    load op.target.1 op.target.2 (perform t op d).2 =
      .ok ((TypedMaps.perform op m).2 op.target.1 op.target.2) := by
  cases op with
  | load k id => exact represents k id
  | save k r =>
    show load k (k.idOf r) (save k r t d) = .ok (m.assign k (k.idOf r) (some r) k (k.idOf r))
    rw [TypedMaps.assign_self]
    apply load_stored _ storable
    · exact t
    · rw [FotaCloudStateStore.save_eq]
      exact Disk.put_self _ _ _
  -- a record that is removed
  | remove k item id =>
    show load k id (remove k item id d) = .ok (m.assign k id none k id)
    rw [TypedMaps.assign_self]
    apply load_absent
    rw [FotaCloudStateStore.remove_eq]
    exact if_pos rfl

/-- One operation on the store is one operation on the maps. -/
theorem perform_represents (storable : op.Storable) (represents : Represents d m) :
    (perform t op d).1 = (TypedMaps.perform op m).1 ∧
      Represents (perform t op d).2 (TypedMaps.perform op m).2 := by
  constructor
  · cases op with
    | load k id => exact congrArg (Reply.loaded k) (represents k id)
    | save k r => rfl
    | remove k item id => rfl
  · intro k id
    -- the operation's own record, or another one
    by_cases here : (⟨k, id⟩ : (k : Kind) × k.Id) = op.target
    · have own := load_perform_self (t := t) storable represents
      rw [← here] at own
      exact own
    · rw [load_perform_other here, represents k id]
      cases op with
      | load k' id' => rfl
      | save k' r => exact congrArg _ (m.assign_other _ here).symm
      | remove k' item id' => exact congrArg _ (m.assign_other _ here).symm

theorem replies_represents (ops : List (Int64 × Operation)) (storable : ∀ op ∈ ops, op.2.Storable)
    (represents : Represents d m) : replies ops d = TypedMaps.replies (ops.map Prod.snd) m := by
  induction ops generalizing d m with
  | nil => rfl
  | cons first ops ih =>
    obtain ⟨t, op⟩ := first
    obtain ⟨same, after⟩ := perform_represents (t := t) (storable (t, op) (by simp)) represents
    have rest := ih (fun op member => storable op (List.mem_cons_of_mem _ member)) after
    show _ :: _ = _ :: _
    rw [same, rest]

/-- Started where none of its records is stored, the store answers every sequence of operations as
the typed maps do; and on any store content an operation leaves the loads of other records as they
were. -/
theorem store_refines_maps :
    (∀ (d : Disk) (ops : List (Int64 × Operation)),
      (∀ (k : Kind) (id : k.Id), d (k.key id) = none) →
      (∀ op ∈ ops, op.2.Storable) →
      replies ops d = TypedMaps.replies (ops.map Prod.snd) .empty) ∧
    ∀ (d : Disk) (t : Int64) (op : Operation) (k : Kind) (id : k.Id), ⟨k, id⟩ ≠ op.target →
      load k id (perform t op d).2 = load k id d :=
  ⟨fun _ ops fresh storable =>
    replies_represents ops storable fun k id => load_absent (fresh k id),
  fun _ _ _ _ _ other => load_perform_other other⟩

end Store

section Example

open Json.Compact

/-- The last event there can be, next to a package with a name from outside ASCII. -/
def lastEventAndPackage : List (Int64 × Operation) :=
  [ (1, .save .event { sequenceNo := 0xFFFFFFFFFFFFFFFF, eventId := "evt", occurredAtMs := -1 }),
    (2, .save .download { packageId := "包:1", currentOffsetBytes := 0x8000000000000000 }),
    (3, .load .event (0xFFFFFFFFFFFFFFFF : UInt64)),
    (4, .remove .event (by decide) (0xFFFFFFFFFFFFFFFF : UInt64)),
    (5, .load .event (0xFFFFFFFFFFFFFFFF : UInt64)),
    (6, .load .download "包:1") ]

theorem lastEventAndPackage_storable [JsonText] [LawfulJsonText] :
    ∀ op ∈ lastEventAndPackage, op.2.Storable := by
  have event : Kind.event.codec.Storable
      { sequenceNo := 0xFFFFFFFFFFFFFFFF, eventId := "evt", occurredAtMs := -1 } :=
    Kind.event.faithful.storable rfl (by decide +kernel)
  have package : Kind.download.codec.Storable
      { packageId := "包:1", currentOffsetBytes := 0x8000000000000000 } :=
    Kind.download.faithful.storable rfl (by decide +kernel)
  simp [lastEventAndPackage, Operation.Storable, event, package]

/-- The last event comes back, and another kind is not touched. -/
theorem store_keeps_last_event :
    @replies compactText lastEventAndPackage (fun _ => none) =
      TypedMaps.replies (lastEventAndPackage.map Prod.snd) .empty ∧
    @load compactText .policy ()
      (@perform compactText 7 (.save .event { sequenceNo := 3 }) (fun _ => none)).2 =
      @load compactText .policy () (fun _ => none) :=
  ⟨(@store_refines_maps compactText lawful_compactText).1 _ _ (fun _ _ => rfl)
      (@lastEventAndPackage_storable compactText lawful_compactText),
    (@store_refines_maps compactText lawful_compactText).2 _ _ _ _ _ (by decide)⟩

end Example

end CgwFota.Cloud
