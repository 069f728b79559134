import CgwFota.Cloud.Script
import CgwFota.Inventory.Confined

/-!
# The keys of the cloud store

The migration and the cloud store write under keys of contract B only, so that neither touches what
the other store keeps.

## Main definition

* `CloudKey`: the keys of the records, of the marker and of the earlier records

## Main results

* `cloudKey_apart`: no key of the cloud store is one of the inventory store
* `leads_migrateOtaToFota`: the migration leads from one state to another with nothing but its own
  keys changed, wherever it stops

## Proof strategy

The relation `R` is any one that changes under these keys lead along. The migration is taken apart
as it is written; only the effects at its leaves touch the disk, and each of them has a lemma.
-/
namespace CgwFota.Cloud

open Crash
open Crash.Throwing (Leads)
open Inventory (Disk StoreException StoreWorld Surroundings Permits InventoryKey request)

/-- The records, the marker of the migration and the earlier keys. -/
def CloudKey (key : String) : Prop :=
  (∃ (k : Kind) (id : k.Id), key = k.key id) ∨ key = kMarkerKey ∨ key ∈ oldKeys

theorem CloudKey.record (k : Kind) (id : k.Id) : CloudKey (k.key id) := .inl ⟨k, id, rfl⟩

theorem CloudKey.marker : CloudKey kMarkerKey := .inr (.inl rfl)

theorem CloudKey.old {key : String} (old : key ∈ oldKeys) : CloudKey key := .inr (.inr old)

/-- They begin with one of two letters, which no key of the other store begins with. -/
theorem CloudKey.head {key : String} (own : CloudKey key) :
    key.toList.head? = some 'f' ∨ key.toList.head? = some 'o' := by
  -- records, marker and earlier records begin with their names
  rcases own with ⟨k, id, rfl⟩ | rfl | old
  · left
    obtain ⟨rest, whole⟩ := k.stem_prefix_key id
    rw [← whole, List.head?_append]
    cases k <;> rfl
  · left
    decide
  · right
    revert key
    decide

theorem cloudKey_apart {key : String} (own : CloudKey key) : ¬InventoryKey key := by
  intro other
  rcases own.head with first | first <;> rcases other.head with first' | first' <;>
    · rw [first] at first'
      cases first'

section Leads

variable [JsonText] {e : Surroundings} {R : StoreWorld → StoreWorld → Prop}
  [IsPreorder StoreWorld R] [Trans R R R] (permits : Permits e CloudKey R)
include permits

theorem leads_ask {α : Type} {write : Disk → Disk}
    {read : Surroundings → Disk → Except StoreException α}
    (frame : ∀ d key, ¬CloudKey key → write d key = d key) :
    Leads e R (ask (request write read)) :=
  (permits.request frame).bind fun _ => .pure _

theorem leads_has (key : String) : Leads e R (Store.has key) :=
  leads_ask permits fun _ _ _ => rfl

theorem leads_load (key : String) : Leads e R (Store.load key) :=
  leads_ask permits fun _ _ _ => rfl

theorem leads_save {key : String} (own : CloudKey key) (bytes : Inventory.Bytes) :
    Leads e R (Store.save key bytes) :=
  leads_ask permits fun d _ outside =>
    Inventory.Disk.put_ne d bytes (by rintro rfl; exact outside own)

theorem leads_remove {key : String} (own : CloudKey key) : Leads e R (Store.remove key) :=
  leads_ask permits fun d _ outside =>
    Inventory.Disk.remove_ne d (by rintro rfl; exact outside own)

theorem leads_nowMs : Leads e R nowMs := permits.nowMs.bind fun _ => .pure _

omit permits [Trans R R R] in
theorem leads_decoding {α : Type} (r : Except Inventory.Thrown α) : Leads e R (decoding r) := by
  cases r with
  | ok a => exact .pure a
  | error x => exact .throw _

theorem leads_saveEncoded (r : Write) : Leads e R (saveEncoded r) :=
  (leads_nowMs permits).bind fun _ =>
    leads_save permits (.record r.kind (r.kind.idOf r.record)) _

/-! ### The migration -/

theorem leads_anyOld (olds : List String) : Leads e R (anyOld olds) := by
  induction olds with
  | nil => exact .pure _
  | cons key olds ih =>
    exact (leads_has permits key).bind fun _ => .ite (fun _ => .pure _) fun _ => ih

theorem leads_markerDone : Leads e R markerDone := by
  apply (leads_has permits _).bind
  intro there
  refine .ite (fun _ => ?_) fun _ => .pure _
  apply (leads_load permits _).bind
  intro bytes
  exact (leads_decoding _).bind fun _ => .pure _

theorem leads_saveCounted (written : Nat) (r : Write) : Leads e R (saveCounted written r) :=
  (leads_saveEncoded permits r).bind fun _ => .pure _

theorem leads_carryOver (p : Progress) (part : Part) : Leads e R (carryOver p part) := by
  apply (leads_has permits _).bind
  intro there
  refine .ite (fun _ => ?_) fun _ => .pure _
  apply (leads_load permits _).bind
  intro bytes
  apply (leads_decoding _).bind
  intro carried
  -- the records of the part are saved one after the other
  apply (Leads.fold (fun r _ written => leads_saveCounted permits written r) _).bind
  exact fun _ => .pure _

theorem leads_writeNew : Leads e R writeNew := by
  apply (Leads.fold (fun part _ p => leads_carryOver permits p part) _).bind
  intro p
  apply (leads_saveCounted permits _ _).bind
  intro written
  apply (Leads.fold (fun part _ p => leads_carryOver permits p part) _).bind
  exact fun _ => .pure _

theorem leads_recheck (r : (k : Kind) × k.Id) : Leads e R (recheck () r) := by
  apply (leads_has permits _).bind
  intro there
  refine .ite (fun _ => ?_) fun _ => .pure _
  apply (leads_load permits _).bind
  intro bytes
  exact (leads_decoding _).bind fun _ => .pure _

theorem leads_saveMarker (written : Nat) : Leads e R (saveMarker written) :=
  (leads_nowMs permits).bind fun _ => (leads_nowMs permits).bind fun _ =>
    leads_save permits .marker _

theorem leads_cleanUp : Leads e R cleanUp := by
  apply Leads.fold
  intro key old cleaned
  apply (leads_remove permits (.old old)).bind
  exact fun _ => .ite (fun _ => .pure _) fun _ => .pure _

/-- The migration changes keys of the cloud store only, wherever it stops. -/
theorem leads_migrateOtaToFota : Leads e R migrateOtaToFota := by
  apply (leads_anyOld permits _).bind
  intro there
  refine .ite (fun _ => ?_) fun _ => .pure _
  apply (leads_markerDone permits).bind
  intro marked
  apply Leads.ite
  -- a marker is there: only the rest of the earlier records is removed
  · exact fun _ => (leads_cleanUp permits).bind fun _ => .pure _
  · intro _
    -- the new records, the second reading, the marker and the removal follow one another
    apply (leads_writeNew permits).bind
    intro written
    apply (Leads.fold (fun r _ _ => leads_recheck permits r) _).bind
    intro _
    apply (leads_saveMarker permits _).bind
    intro _
    exact (leads_cleanUp permits).bind fun _ => .pure _

end Leads

end CgwFota.Cloud
