import CgwFota.Cloud.Migration
import CgwFota.Crash.Changes
import CgwFota.Inventory.Calm

/-!
# What the migration does

On a store that answers every request, the migration makes a list of changes that is fixed by the
content it finds; only the times that go into the encoded values are open. On a store that refuses
requests or loses its process, it makes a beginning of that list.

## Main definitions

* `Change`: one change of the store, without the times that are written with it
* `script`: the changes and the result of the migration, as a function of what it finds
* `planned`, `reread`, `removals`: its stages

## Main result

* `performs_migrateOtaToFota`: the migration performs its script, or a beginning of it where it is
  disturbed

## Proof strategy

Every stage gets one lemma that says which changes it performs after the changes made so far, and
what it returns. A stage that reads needs to know that what it reads has not been changed: as long
as nothing but new records was written, the marker and the earlier keys are as they were found
(`WritesOnly.last`). The whole is put together as the stages follow one another.
-/
namespace CgwFota.Cloud

open Crash
open Inventory (Bytes Thrown Timestamp Disk StoreException StoreM StoreWorld Surroundings
  encodeEnvelope request wp_request_served wp_request_intact wp_nowMs)

/-! ### Changes -/

/-- One change of the store, without the times that are written with it. -/
inductive Change where
  | write (r : Write)
  | marker (written : Nat)
  | remove (key : String)

def Change.key : Change → String
  | write r => r.key
  | marker _ => kMarkerKey
  | remove key => key

/-- Nothing but records was written so far. -/
def WritesOnly (cs : List Change) : Prop := ∀ c ∈ cs, ∃ r, c = .write r

theorem WritesOnly.append {cs cs' : List Change} (writes : WritesOnly cs) (more : WritesOnly cs') :
    WritesOnly (cs ++ cs') := by
  intro c member
  rcases List.mem_append.mp member with member | member
  · exact writes c member
  · exact more c member

theorem writesOnly_map (rs : List Write) : WritesOnly (rs.map .write) := by
  intro c member
  obtain ⟨r, -, rfl⟩ := List.mem_map.mp member
  exact ⟨r, rfl⟩

/-! ### Keys of different kinds -/

theorem stem_not_prefix (k : Kind) :
    ∀ key ∈ kMarkerKey :: oldKeys, ¬k.stem.toList <+: key.toList := by
  cases k <;> decide

theorem Kind.key_ne_oldKey {key : String} (old : key ∈ oldKeys) (k : Kind) (id : k.Id) :
    k.key id ≠ key := by
  rintro rfl
  exact stem_not_prefix k _ (List.mem_cons_of_mem _ old) (k.stem_prefix_key id)

theorem Kind.key_ne_marker (k : Kind) (id : k.Id) : k.key id ≠ kMarkerKey := by
  intro same
  have first := k.stem_prefix_key id
  rw [same] at first
  exact stem_not_prefix k _ List.mem_cons_self first

theorem oldKey_ne_marker : ∀ key ∈ oldKeys, key ≠ kMarkerKey := by decide

theorem nodup_oldKeys : oldKeys.Nodup := by decide

theorem key_mem_oldKeys [JsonText] {part : Part} (member : part ∈ firstParts ++ lastParts) :
    part.key ∈ oldKeys := by
  have all : (firstParts ++ lastParts).map Part.key = oldKeys := rfl
  rw [← all]
  exact List.mem_map.mpr ⟨part, member, rfl⟩

/-! ### The list of changes -/

section Script

variable [JsonText]

def Change.value (written : Int64 × Timestamp) : Change → Option Bytes
  | .write r => some (r.kind.codec.encode written.1 r.record)
  | .marker n =>
    some (encodeMarker written.1
      { completed := true, migratedKeyCount := UInt32.ofNat n, migratedAtMs := written.2 })
  | .remove _ => none

def changes : Changes Change String (Int64 × Timestamp) Bytes where
  key := Change.key
  value := Change.value

/-- The changes made so far lead from `d` to the disk. -/
def Reached (d : Disk) (cs : List Change) (w : StoreWorld) : Prop := changes.Applied cs d w.disk

/-- What the marker says. -/
def markerOf (d : Disk) : Except Thrown Bool :=
  match d kMarkerKey with
  | none => .ok false
  | some bytes => (decodeMarker bytes).map MigrationMarker.completed

/-- What a part has to carry over. -/
def Part.read (part : Part) (d : Disk) : Except Thrown Carried :=
  match d part.key with
  | none => .ok { records := [] }
  | some bytes => part.carry bytes

def carriedOver (d : Disk) (p : Progress) (part : Part) :
    List Change × Except Aborted Progress :=
  match part.read d with
  | .error x => ([], .error (.thrown x))
  | .ok carried =>
    (carried.records.map .write,
      .ok
        { outboxMeta := carried.outboxMeta.getD p.outboxMeta
          written := p.written + carried.records.length })

/-- The new records, and how many they are. -/
def planned (d : Disk) : List Change × Except Aborted Nat :=
  match loop (carriedOver d) firstParts {} with
  | (first, .error x) => (first, .error x)
  | (first, .ok p) =>
    let rest := loop (carriedOver d) lastParts { p with written := p.written + 1 }
    (first ++ .write ⟨.eventOutboxMeta, p.outboxMeta⟩ :: rest.1, rest.2.map Progress.written)

def reread (d : Disk) (_ : Unit) (r : (k : Kind) × k.Id) : List Change × Except Aborted Unit :=
  ([], ((FotaCloudStateStore.load r.1 r.2 d).map fun _ => ()).mapError .thrown)

def removals : List Change := oldKeys.map .remove

def leftover (d : Disk) : Nat := oldKeys.countP fun key => (d key).isSome

/-- The changes and the result of `migrateOtaToFota` where nothing disturbs it. -/
def script (d : Disk) : List Change × Except Aborted FotaMigrationResult :=
  if oldKeys.any fun key => (d key).isSome then
    match markerOf d with
    | .error x => ([], .error (.thrown x))
    | .ok true => (removals, .ok (cleanedResult (leftover d)))
    | .ok false =>
      match planned d with
      | (writes, .error x) => (writes, .error x)
      | (writes, .ok written) =>
        match (loop (reread (changes.settled (0, 0) d writes)) rechecked ()).2 with
        | .error x => (writes, .error x)
        | .ok () =>
          (writes ++ .marker written :: removals, .ok (migratedResult written (leftover d)))
  else ([], .ok {})

/-! ### Requests -/

section Requests

variable {e : Surroundings} {d : Disk} {before next : List Change}

/-- A request is served, or it is a disturbance and its write may have taken place. -/
theorem wpt_ask {α : Type} {write : Disk → Disk}
    {read : Surroundings → Disk → Except StoreException α} {w : StoreWorld}
    {Q : α → StoreWorld → Prop} {E : Aborted → StoreWorld → Prop} {C : StoreWorld → Prop}
    (intact : e.Intact)
    (served : Ending Q E ((read e w.disk).mapError .store)
      { w with disk := write w.disk, tick := w.tick + 1 })
    (cut : ¬e.Calm → ∀ disk, disk = w.disk ∨ disk = write w.disk →
      (∀ x, E x { w with disk, tick := w.tick + 1 }) ∧ C { w with disk, tick := w.tick + 1 }) :
    wpt (ask (request write read)) Q E C e w := by
  unfold ask
  rw [wpt_attempt, wp_bind]
  -- either the request is served, or the store is disturbed at it
  by_cases calm : e.Calm
  · rw [wp_request_served intact (calm.served w.tick)]
    exact served
  · exact wp_request_intact intact served
      (fun _ x disk either => (cut calm disk either).1 (.store x))
      (fun disk either => (cut calm disk either).2)

/-- A request that is answered alike wherever the changes lead performs its change. -/
theorem performs_request {α : Type} {write : Disk → Disk}
    {read : Surroundings → Disk → Except StoreException α} {a : α} (intact : e.Intact)
    (answer : ∀ d', changes.Applied before d d' → read e d' = .ok a)
    (change : ∀ d', changes.Applied before d d' → changes.Applied (before ++ next) d (write d')) :
    Performs e (¬e.Calm) (Reached d) before (ask (request write read)) next (.ok a) := by
  intro w reached
  apply wpt_ask intact
  · rw [answer w.disk reached]
    exact ⟨rfl, change w.disk reached⟩
  · intro disturbed disk either
    have cut :
        CutShort (¬e.Calm) (Reached d) (before ++ next) { w with disk, tick := w.tick + 1 } := by
      refine ⟨disturbed, ?_⟩
      -- the write of a disturbed request took place or it did not
      rcases either with rfl | rfl
      · exact ⟨before, List.prefix_append _ _, reached⟩
      · exact ⟨before ++ next, List.prefix_rfl, change w.disk reached⟩
    exact ⟨fun _ => .inr cut, cut⟩

/-- A request that changes nothing reads what is there after the changes. -/
theorem reads_request {α : Type} {read : Surroundings → Disk → Except StoreException α}
    {P : α → Prop} (intact : e.Intact)
    (answer : ∀ d', changes.Applied before d d' → ∃ a, read e d' = .ok a ∧ P a) :
    Reads e (¬e.Calm) (Reached d) before (ask (request id read)) P := by
  intro w reached
  apply wpt_ask intact
  · obtain ⟨a, answered, holds⟩ := answer w.disk reached
    rw [answered]
    exact ⟨holds, reached⟩
  · intro disturbed disk either
    have same : disk = w.disk := either.elim id id
    subst same
    have cut : CutShort (¬e.Calm) (Reached d) before { w with tick := w.tick + 1 } :=
      ⟨disturbed, before, List.prefix_rfl, reached⟩
    exact ⟨fun _ => cut, cut⟩

theorem reads_has {key : String} {P : Bool → Prop} (intact : e.Intact)
    (answer : ∀ d', changes.Applied before d d' → P (d' key).isSome) :
    Reads e (¬e.Calm) (Reached d) before (Store.has key) P :=
  reads_request intact fun d' applied => ⟨_, rfl, answer d' applied⟩

theorem reads_load {key : String} {P : Bytes → Prop} (intact : e.Intact)
    (answer : ∀ d', changes.Applied before d d' → ∃ bytes, d' key = some bytes ∧ P bytes) :
    Reads e (¬e.Calm) (Reached d) before (Store.load key) P := by
  apply reads_request intact
  intro d' applied
  obtain ⟨bytes, stored, holds⟩ := answer d' applied
  exact ⟨bytes, by rw [Disk.read, stored], holds⟩

theorem reads_nowMs : Reads e (¬e.Calm) (Reached d) before nowMs fun _ => True :=
  fun _ reached => ⟨trivial, reached⟩

theorem performs_decoding {α : Type} (before : List Change) (r : Except Thrown α) :
    Performs e (¬e.Calm) (Reached d) before (decoding r) [] (r.mapError .thrown) := by
  cases r with
  | ok a => exact .pure a
  | error x => exact .throw _

theorem performs_saveEncoded (intact : e.Intact) (r : Write) :
    Performs e (¬e.Calm) (Reached d) before (saveEncoded r) [.write r] (.ok ()) := by
  apply reads_nowMs.bind
  intro writtenAt _
  exact performs_request intact (fun _ _ => rfl) fun d' applied =>
    applied.snoc (.write r) (writtenAt, 0)

theorem performs_saveMarker (before : List Change) (intact : e.Intact) (written : Nat) :
    Performs e (¬e.Calm) (Reached d) before (saveMarker written) [.marker written] (.ok ()) := by
  apply reads_nowMs.bind
  intro migratedAtMs _
  apply reads_nowMs.bind
  intro writtenAt _
  exact performs_request intact (fun _ _ => rfl) fun d' applied =>
    applied.snoc (.marker written) (writtenAt, migratedAtMs)

theorem performs_remove (intact : e.Intact) {key : String}
    (untouched : changes.last key before = none) :
    Performs e (¬e.Calm) (Reached d) before (Store.remove key) [.remove key]
      (.ok (d key).isSome) := by
  apply performs_request intact
  · intro d' applied
    rw [applied.frame untouched]
  · exact fun d' applied => applied.snoc (.remove key) (0, 0)

end Requests

/-! ### Stages -/

section Stages

variable {e : Surroundings} {d : Disk} {before : List Change}

/-- The search for earlier keys performs no change and finds them. -/
theorem performs_anyOld (intact : e.Intact) (olds : List String) :
    Performs e (¬e.Calm) (Reached d) [] (anyOld olds) []
      (.ok (olds.any fun key => (d key).isSome)) := by
  induction olds with
  | nil => exact .pure false
  | cons key olds ih =>
    apply (reads_has (P := (· = (d key).isSome)) intact fun d' unchanged => by rw [unchanged]).bind
    rintro _ rfl
    -- the first key that is there ends the search
    cases stored : (d key).isSome with
    | true => simpa [stored] using Performs.pure true
    | false => simpa [stored] using ih

/-- The marker is read without a change. -/
theorem performs_markerDone (intact : e.Intact) :
    Performs e (¬e.Calm) (Reached d) [] markerDone [] ((markerOf d).mapError .thrown) := by
  apply (reads_has (P := (· = (d kMarkerKey).isSome)) intact
    fun d' unchanged => by rw [unchanged]).bind
  rintro _ rfl
  unfold markerOf
  cases stored : d kMarkerKey with
  | none => exact .pure false
  | some bytes =>
    apply (reads_load (P := (bytes = ·)) intact fun d' unchanged =>
      ⟨bytes, by rw [unchanged, stored], rfl⟩).bind
    rintro _ rfl
    have decoded := (performs_decoding (e := e) (d := d) [] (decodeMarker bytes)).returning
      MigrationMarker.completed
    dsimp only
    cases result : decodeMarker bytes with
    | error x =>
      rw [result] at decoded
      exact decoded
    | ok m =>
      rw [result] at decoded
      exact decoded

/-- As long as nothing but records was written, the other keys are untouched. -/
theorem WritesOnly.last (writes : WritesOnly before) {key : String}
    (old : key ∈ kMarkerKey :: oldKeys) :
    changes.last key before = none := by
  apply Changes.last_eq_none.mpr
  intro c member
  obtain ⟨r, rfl⟩ := writes c member
  rcases List.mem_cons.mp old with rfl | old
  · exact r.kind.key_ne_marker _
  · exact Kind.key_ne_oldKey old _ _

theorem performs_saves (intact : e.Intact) (rs : List Write) (written : Nat) :
    Performs e (¬e.Calm) (Reached d) before (Throwing.fold saveCounted rs written)
      (rs.map .write) (.ok (written + rs.length)) := by
  induction rs generalizing before written with
  | nil => exact .pure written
  | cons r rs ih =>
    have counted : Performs e (¬e.Calm) (Reached d) before (saveCounted written r) [.write r]
        (.ok (written + 1)) := (performs_saveEncoded intact r).returning _
    have rest := counted.bind (ih (written + 1))
    rw [Nat.add_assoc, Nat.add_comm 1] at rest
    exact rest

/-- A part is carried over: it is read, decoded, and its records are saved. -/
theorem performs_carryOver (intact : e.Intact) (p : Progress) {part : Part}
    (old : part.key ∈ oldKeys) (writes : WritesOnly before) :
    Performs e (¬e.Calm) (Reached d) before (carryOver p part) (carriedOver d p part).1
      (carriedOver d p part).2 := by
  have same {d' : Disk} (applied : changes.Applied before d d') : d' part.key = d part.key :=
    applied.frame (writes.last (List.mem_cons_of_mem _ old))
  apply (reads_has (P := (· = (d part.key).isSome)) intact
    fun d' applied => by rw [same applied]).bind
  rintro _ rfl
  unfold carriedOver Part.read
  cases stored : d part.key with
  | none => exact .pure p
  | some bytes =>
    apply (reads_load (P := (bytes = ·)) intact fun d' applied =>
      ⟨bytes, by rw [same applied, stored], rfl⟩).bind
    rintro _ rfl
    have decoded := performs_decoding (e := e) (d := d) before (part.carry bytes)
    dsimp only
    cases result : part.carry bytes with
    -- a value that cannot be decoded ends the migration here
    | error x =>
      rw [result] at decoded
      exact decoded.bind_error
    | ok carried =>
      rw [result] at decoded
      apply decoded.bind
      exact (performs_saves intact carried.records p.written).returning _

omit [JsonText] in
theorem writesOnly_carriedOver (p : Progress) (part : Part) :
    WritesOnly (carriedOver d p part).1 := by
  unfold carriedOver
  cases part.read d with
  | error x => exact writesOnly_map []
  | ok carried => exact writesOnly_map carried.records

omit [JsonText] in
theorem writesOnly_loop (parts : List Part) (p : Progress) :
    WritesOnly (loop (carriedOver d) parts p).1 := by
  induction parts generalizing p with
  | nil => exact writesOnly_map []
  | cons part parts ih =>
    have first := writesOnly_carriedOver (d := d) p part
    unfold loop
    rcases carried : carriedOver d p part with ⟨cs, result⟩
    rw [carried] at first
    cases result with
    | error x => exact first
    | ok p' => exact first.append (ih p')

theorem performs_parts (intact : e.Intact) (parts : List Part) (p : Progress)
    (olds : ∀ part ∈ parts, part.key ∈ oldKeys) (writes : WritesOnly before) :
    Performs e (¬e.Calm) (Reached d) before (Throwing.fold carryOver parts p)
      (loop (carriedOver d) parts p).1 (loop (carriedOver d) parts p).2 := by
  apply Performs.fold fun parts before => (∀ part ∈ parts, part.key ∈ oldKeys) ∧ WritesOnly before
  · rintro part parts p before ⟨olds, writes⟩
    exact performs_carryOver intact p (olds part List.mem_cons_self) writes
  · rintro part parts p before ⟨olds, writes⟩
    -- what the part wrote are records, so the next part still finds its key
    exact ⟨fun part member => olds part (List.mem_cons_of_mem _ member),
      writes.append (writesOnly_carriedOver p part)⟩
  · exact ⟨olds, writes⟩

/-- The new records are written as planned. -/
theorem performs_writeNew (intact : e.Intact) :
    Performs e (¬e.Calm) (Reached d) [] writeNew (planned d).1 (planned d).2 := by
  have first := performs_parts (d := d) intact firstParts {}
    (fun part member => key_mem_oldKeys (List.mem_append_left _ member)) (writesOnly_map [])
  have writes := writesOnly_loop (d := d) firstParts {}
  unfold planned
  rcases carried : loop (carriedOver d) firstParts {} with ⟨cs, result⟩
  rw [carried] at first writes
  cases result with
  | error x => exact first.bind_error
  | ok p =>
    apply first.bind
    dsimp only
    -- the watermarks are written between the first and the last parts
    have counted : Performs e (¬e.Calm) (Reached d) ([] ++ cs)
        (saveCounted p.written ⟨.eventOutboxMeta, p.outboxMeta⟩)
        [.write ⟨.eventOutboxMeta, p.outboxMeta⟩] (.ok (p.written + 1)) :=
      (performs_saveEncoded intact _).returning _
    have last := performs_parts (d := d) intact lastParts { p with written := p.written + 1 }
      (fun part member => key_mem_oldKeys (List.mem_append_right _ member))
      ((writesOnly_map []).append writes |>.append
        (writesOnly_map [⟨.eventOutboxMeta, p.outboxMeta⟩]))
    exact counted.bind (last.returning Progress.written)

theorem writesOnly_planned (d : Disk) : WritesOnly (planned d).1 := by
  have writes := writesOnly_loop (d := d) firstParts {}
  unfold planned
  rcases carried : loop (carriedOver d) firstParts {} with ⟨cs, result⟩
  rw [carried] at writes
  cases result with
  | error x => exact writes
  | ok p =>
    exact writes.append ((writesOnly_map [⟨.eventOutboxMeta, p.outboxMeta⟩]).append
      (writesOnly_loop lastParts _))

/-- Where a record was written, its time cannot be seen; elsewhere nothing has changed. -/
theorem load_shown {d₁ d₂ d₁' d₂' : Disk} {cs : List Change} {k : Kind} {id : k.Id}
    (shown₁ : changes.Shows cs d₁ (k.key id) (d₁' (k.key id)))
    (shown₂ : changes.Shows cs d₂ (k.key id) (d₂' (k.key id)))
    (same : changes.last (k.key id) cs = none → d₁ (k.key id) = d₂ (k.key id)) :
    FotaCloudStateStore.load k id d₁' = FotaCloudStateStore.load k id d₂' := by
  cases last : changes.last (k.key id) cs with
  | none =>
    apply FotaCloudStateStore.load_congr
    rw [shown₁.frame last, shown₂.frame last, same last]
  -- the last change under this key was a record, whose time is not decoded
  | some c =>
    obtain ⟨t₁, value₁⟩ := shown₁.of_last last
    obtain ⟨t₂, value₂⟩ := shown₂.of_last last
    cases c with
    | write r =>
      rw [FotaCloudStateStore.load_eq, FotaCloudStateStore.load_eq]
      unfold loadRecord
      rw [value₁, value₂]
      exact congrArg (Except.map some) (k.codec.decode_envelope _ _ _ _)
    | marker n =>
      obtain ⟨-, -, -, key, -⟩ := Changes.last_eq_some last
      exact absurd key.symm (k.key_ne_marker id)
    | remove key => exact FotaCloudStateStore.load_congr (value₁.trans value₂.symm)

theorem loadRecord_eq_none {ρ : Type} {key : String} {codec : Codec ρ} :
    loadRecord key codec d = .ok none ↔ (d key).isSome = false := by
  unfold loadRecord
  cases stored : d key with
  | none => simp
  | some bytes => cases read : codec.decode bytes <;> simp [Except.map, read]

/-- Reading a record again gives what a load gives. -/
theorem performs_recheck (intact : e.Intact) (r : (k : Kind) × k.Id) :
    Performs e (¬e.Calm) (Reached d) before (recheck () r) []
      (reread (changes.settled (0, 0) d before) () r).2 := by
  obtain ⟨k, id⟩ := r
  unfold reread
  dsimp only
  have same {d' : Disk} (applied : changes.Applied before d d') :
      loadRecord (k.key id) k.codec d' =
        FotaCloudStateStore.load k id (changes.settled (0, 0) d before) := by
    rw [← FotaCloudStateStore.load_eq]
    exact load_shown (applied.shows _) ((Changes.applied_settled _ _ _ _).shows _) fun _ => rfl
  generalize FotaCloudStateStore.load k id (changes.settled (0, 0) d before) = result at same
  apply (reads_has (P := fun there => there = false ↔ result = .ok none) intact fun d' applied => by
    rw [← same applied, loadRecord_eq_none]).bind
  intro there present
  cases there with
  | false =>
    rw [present.mp rfl]
    exact .pure ()
  | true =>
    apply (reads_load (P := fun bytes => (k.codec.decode bytes).map some = result) intact ?_).bind
    · intro bytes decodes
      have decoded := performs_decoding (e := e) (d := d) before (k.codec.decode bytes)
      rw [← decodes]
      cases read : k.codec.decode bytes with
      | error x =>
        rw [read] at decoded
        exact decoded.bind_error
      | ok r =>
        rw [read] at decoded
        exact decoded.returning fun _ => ()
    · intro d' applied
      have loaded := same applied
      cases stored : d' (k.key id) with
      | none =>
        -- the key was there, so it is there when it is loaded
        have absent : result = .ok none := by
          rw [← loaded, loadRecord_eq_none, stored]
          rfl
        exact absurd (present.mpr absent) (by decide)
      | some bytes =>
        rw [loadRecord, stored] at loaded
        exact ⟨bytes, rfl, loaded⟩

/-- The records are read again without a change. -/
theorem performs_rechecks (before : List Change) (intact : e.Intact)
    (rs : List ((k : Kind) × k.Id)) :
    Performs e (¬e.Calm) (Reached d) before (Throwing.fold recheck rs ()) []
      (loop (reread (changes.settled (0, 0) d before)) rs ()).2 := by
  -- reading again makes no change, whatever it returns
  have silent (d : Disk) (rs : List ((k : Kind) × k.Id)) : (loop (reread d) rs ()).1 = [] := by
    induction rs with
    | nil => rfl
    | cons r rs ih =>
      have first : (reread d () r).1 = [] := rfl
      unfold loop
      rcases read : reread d () r with ⟨cs, result⟩
      rw [read] at first
      cases result with
      | error x => exact first
      | ok _ => simpa [ih] using first
  have all : Performs e (¬e.Calm) (Reached d) before (Throwing.fold recheck rs ())
      (loop (reread (changes.settled (0, 0) d before)) rs ()).1
      (loop (reread (changes.settled (0, 0) d before)) rs ()).2 := by
    apply Performs.fold fun _ made => made = before
    · rintro r rs _ made rfl
      exact performs_recheck intact r
    · rintro r rs _ made rfl
      exact List.append_nil _
    · rfl
  rw [silent] at all
  exact all

/-- An earlier key is removed, and counted if it was there. -/
theorem performs_removeCounted (intact : e.Intact) (n : Nat) {key : String}
    (untouched : changes.last key before = none) :
    Performs e (¬e.Calm) (Reached d) before (removeCounted n key) [.remove key]
      (.ok (n + if (d key).isSome then 1 else 0)) := by
  have removed := performs_remove (d := d) intact untouched
  cases there : (d key).isSome with
  | false =>
    rw [there] at removed
    exact removed.bind (.pure n)
  | true =>
    rw [there] at removed
    exact removed.bind (.pure (n + 1))

/-- The earlier keys are removed one after the other and counted. -/
theorem performs_removals (intact : e.Intact) (olds : List String) (n : Nat) (apart : olds.Nodup)
    (untouched : ∀ key ∈ olds, changes.last key before = none) :
    Performs e (¬e.Calm) (Reached d) before (Throwing.fold removeCounted olds n)
      (olds.map .remove) (.ok (n + olds.countP fun key => (d key).isSome)) := by
  induction olds generalizing before n with
  | nil => exact .pure n
  | cons key olds ih =>
    obtain ⟨fresh, apart⟩ := List.nodup_cons.mp apart
    rw [List.countP_cons, Nat.add_comm (olds.countP _), ← Nat.add_assoc]
    apply (performs_removeCounted intact n (untouched key List.mem_cons_self)).bind
    apply ih _ apart
    intro other member
    -- the keys are different, so removing one leaves the others untouched
    have apart : changes.key (.remove key) ≠ other := by
      rintro rfl
      exact fresh member
    rw [Changes.last_append, untouched other (List.mem_cons_of_mem _ member)]
    simp [Changes.last, apart]

theorem performs_cleanUp (intact : e.Intact)
    (untouched : ∀ key ∈ oldKeys, changes.last key before = none) :
    Performs e (¬e.Calm) (Reached d) before cleanUp removals (.ok (leftover d)) := by
  have whole := performs_removals (d := d) intact oldKeys 0 nodup_oldKeys untouched
  rw [Nat.zero_add] at whole
  exact whole

/-- After the new records, the marker touches none of the earlier keys. -/
theorem WritesOnly.last_marker (writes : WritesOnly before) (written : Nat) {key : String}
    (old : key ∈ oldKeys) : changes.last key (before ++ [.marker written]) = none := by
  have apart : changes.key (.marker written) ≠ key := Ne.symm (oldKey_ne_marker key old)
  rw [Changes.last_append, writes.last (List.mem_cons_of_mem _ old)]
  simp [Changes.last, apart]

/-- The migration performs its script. -/
theorem performs_migrateOtaToFota (intact : e.Intact) (d : Disk) :
    Performs e (¬e.Calm) (Reached d) [] migrateOtaToFota (script d).1 (script d).2 := by
  have detected := performs_anyOld (d := d) intact oldKeys
  have marked := performs_markerDone (d := d) intact
  unfold script
  cases any : oldKeys.any fun key => (d key).isSome with
  | false =>
    rw [any] at detected
    apply detected.bind
    exact .pure _
  | true =>
    rw [any] at detected
    apply detected.bind
    simp only [if_true]
    cases marker : markerOf d with
    | error x =>
      -- a marker that cannot be decoded ends the migration
      rw [marker] at marked
      exact marked.bind_error
    | ok completed =>
      rw [marker] at marked
      cases completed with
      -- the marker says the migration is complete
      | true =>
        apply marked.bind
        exact (performs_cleanUp intact fun _ _ => rfl).returning _
      | false =>
        apply marked.bind
        have wrote := performs_writeNew (d := d) intact
        have writes := writesOnly_planned d
        simp only [if_false, Bool.false_eq_true]
        rcases plan : planned d with ⟨ws, result⟩
        rw [plan] at wrote writes
        cases result with
        | error x => exact wrote.bind_error
        | ok written =>
          rw [List.append_nil]
          have checked := performs_rechecks (d := d) ws intact rechecked
          have marks := performs_saveMarker (d := d) ws intact written
          have cleaned := performs_cleanUp (d := d) intact fun key old =>
            writes.last_marker written old
          dsimp only at wrote ⊢
          cases again : (loop (reread (changes.settled (0, 0) d ws)) rechecked ()).2 with
          -- a record that cannot be read again ends the migration before the marker
          | error x =>
            rw [again] at checked
            rw [← List.append_nil ws]
            apply wrote.bind
            exact checked.bind_error
          | ok _ =>
            rw [again] at checked
            apply wrote.bind
            apply checked.bind_silent
            exact marks.bind (cleaned.returning (migratedResult written))

end Stages

end Script

end CgwFota.Cloud
