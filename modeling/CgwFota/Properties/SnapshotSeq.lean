import CgwFota.Crash.Ledger
import CgwFota.Data.JsonText
import CgwFota.Inventory.Frames

/-!
# Snapshot sequence numbers are never reused

What the disk says about the sequence is read as the set of numbers that may have been handed out:
none without a record, all up to `highestAllocated` with one, and all of them once the record is
damaged. No effect shrinks this set, and a number is handed out only from outside it.

## Main definitions

* `spent`: the numbers that may have been handed out.
* `Leaves`: what a part does that writes no sequence.
* `Spends`: what a part does that may write one.
* `Allocated`: what an allocation does that comes back.

## Main result

* `snapshot_numbers_never_reused`: over any history of a store root, whatever crashes, refuses or is
  damaged.

## Proof strategy

The set of spent numbers is ordered by inclusion, and each of the relations above is a preorder, so
that a part is followed request by request. Damage makes the set larger, which only blocks later
allocations. Over a history the returned numbers are then increasing.
-/
namespace CgwFota.Inventory

open Crash

section Sequence

variable [JsonText]

/-! ### The stored sequence -/

/-- The sequence record, decoded. -/
def storedSequence (d : Disk) : Option (Except StateDecodeError SequenceState) :=
  (d keys.SEQUENCE).map decodeSequence

/-- The durable `highestAllocated`, where there is a record and it decodes. -/
def highestAllocated (d : Disk) : Option UInt64 :=
  match storedSequence d with
  | some (.ok s) => some s.highestAllocated
  | _ => none

/-- The numbers that may have been handed out. -/
def spent (d : Disk) : LowerSet Nat :=
  match storedSequence d with
  | none => ⊥
  | some (.error _) => ⊤
  | some (.ok s) => LowerSet.Iic s.highestAllocated.toNat

/-- The sequence record is as it was, or it was there and is now damaged. -/
def Worn (d d' : Disk) : Prop :=
  storedSequence d' = storedSequence d ∨
    (storedSequence d).isSome ∧ ∃ e, storedSequence d' = some (.error e)

theorem storedSequence_congr {d d' : Disk} (same : d' keys.SEQUENCE = d keys.SEQUENCE) :
    storedSequence d' = storedSequence d := by
  simp only [storedSequence, same]

theorem Worn.refl {d : Disk} : Worn d d := Or.inl (Eq.refl _)

theorem Worn.of_same {d d' : Disk} (same : d' keys.SEQUENCE = d keys.SEQUENCE) : Worn d d' :=
  Or.inl (storedSequence_congr same)

theorem Worn.trans {d d' d'' : Disk} (first : Worn d d') (second : Worn d' d'') : Worn d d'' := by
  rcases second with same | ⟨present, damaged⟩
  · rcases first with same' | ⟨present, e, damaged⟩
    · exact Or.inl (same.trans same')
    · exact Or.inr ⟨present, e, same.trans damaged⟩
  · rcases first with same' | ⟨present', _⟩
    · exact Or.inr ⟨same' ▸ present, damaged⟩
    · exact Or.inr ⟨present', damaged⟩

/-- A record that still decodes was never damaged, and one that is absent never existed. -/
theorem Worn.stored {d d' : Disk} (worn : Worn d d')
    (readable : ∀ e, storedSequence d' ≠ some (.error e)) :
    storedSequence d' = storedSequence d := by
  rcases worn with same | ⟨_, e, damaged⟩
  · exact same
  · exact absurd damaged (readable e)

theorem Worn.spent {d d' : Disk} (worn : Worn d d') : spent d ≤ spent d' := by
  unfold Inventory.spent
  rcases worn with same | ⟨_, e, damaged⟩
  · rw [same]
  · rw [damaged]
    exact le_top

/-- Damage wears the sequence, or another key. -/
theorem worn_suffer (d : Disk) (damage : Option Damage) : Worn d (d.suffer damage) := by
  cases damage with
  | none => exact .refl
  | some damage =>
    by_cases present : (d damage.key).isSome
    · have struck : d.suffer (some damage) = d.put damage.key damage.bytes := if_pos present
      rw [struck]
      -- the sequence itself, or another key
      by_cases here : damage.key = keys.SEQUENCE
      · -- the damaged record is one that `decodeSequence` rejects
        right
        have bytes : storedSequence (d.put damage.key damage.bytes) =
            some (decodeSequence damage.bytes) := by
          simp [storedSequence, here, Disk.put_self]
        rw [here] at present
        refine ⟨by simpa [storedSequence] using present, ?_⟩
        cases decoded : decodeSequence damage.bytes with
        | error e => exact ⟨e, by rw [bytes, decoded]⟩
        | ok s => exact absurd decoded (damage.rejected here s)
      · exact .of_same (Disk.put_ne d damage.bytes (Ne.symm here))
    -- nothing to be damaged
    · have spared : d.suffer (some damage) = d := if_neg present
      rw [spared]
      exact .refl

/-! ### Effects that only wear the record -/

/-- Nothing happened to the sequence but wear, and no allocation came back. -/
structure Leaves (w w' : StoreWorld) : Prop where
  worn : Worn w.disk w'.disk
  calls : w'.calls = w.calls

instance : IsPreorder StoreWorld Leaves where
  refl _ := ⟨.refl, rfl⟩
  trans _ _ _ first second :=
    ⟨first.worn.trans second.worn, second.calls.trans first.calls⟩

/-- What a request with no write to the sequence does, and what disk it read. -/
theorem wp_request_leaves {α : Type} {write : Disk → Disk}
    {read : Surroundings → Disk → Except StoreException α} {e : Surroundings} {w : StoreWorld}
    (frame : ∀ d, write d keys.SEQUENCE = d keys.SEQUENCE) :
    wp (request write read)
      (fun r w' => Leaves w w' ∧
        ∀ a, r = .ok a → ∃ d, Worn w.disk d ∧ w'.disk = write d ∧ read e d = .ok a)
      (Leaves w) e w := by
  apply wp_mono (wp_request (Worn w.disk) .refl
    (fun d damage worn => worn.trans (worn_suffer d damage))
    fun d worn => worn.trans (.of_same (frame d)))
  · rintro r w' ⟨⟨worn, calls⟩, answered⟩
    exact ⟨⟨worn, calls⟩, answered⟩
  · rintro w' ⟨worn, calls⟩
    exact ⟨worn, calls⟩

instance : Trans Leaves Leaves Leaves := ⟨trans_of Leaves⟩

theorem tolerates_leaves (e : Surroundings) : Tolerates e Leaves where
  request frame _ := wp_mono (wp_request_leaves frame) (fun _ _ h => h.1) fun _ h => h
  nowMs _ := ⟨.refl, rfl⟩
  setSelf _ _ _ := ⟨.refl, rfl⟩

/-- What a fetch of the sequence returns was on the disk when it began. -/
theorem wp_fetch_sequence {e : Surroundings} {w : StoreWorld} :
    wp (fetch keys.SEQUENCE decodeSequence)
      (fun r w' => Leaves w w' ∧
        ∀ stored, r = .ok stored → storedSequence w.disk = stored.map .ok)
      (Leaves w) e w := by
  unfold fetch
  rw [wp_bind]
  apply wp_mono (wp_request_leaves fun _ => rfl) _ fun _ left => left
  rintro (x | found) w' ⟨left, answered⟩
  · exact ⟨left, by simp⟩
  obtain ⟨d, worn, rfl, present⟩ := answered found rfl
  -- no record
  cases found with
  | false =>
    have absent : storedSequence w'.disk = none := by
      simpa [storedSequence] using present
    refine ⟨left, fun stored same => ?_⟩
    cases same
    rw [← left.worn.stored (by simp [absent]), absent]
    rfl
  -- a record, which decodes or does not
  | true =>
    dsimp only
    rw [wp_bind]
    apply wp_mono (wp_request_leaves fun _ => rfl) _ fun _ left' => trans_of Leaves left left'
    rintro (x | bytes) w'' ⟨left', answered⟩
    · exact ⟨trans_of Leaves left left', by simp⟩
    obtain ⟨d, worn', rfl, read⟩ := answered bytes rfl
    have left := trans_of Leaves left left'
    dsimp only
    cases decoded : decodeSequence bytes with
    | error x => exact ⟨left, by simp⟩
    | ok s =>
      have stored : storedSequence w''.disk = some (.ok s) := by
        simp only [storedSequence, Disk.eq_some_of_read read, Option.map_some, decoded]
      refine ⟨left, fun stored same => ?_⟩
      cases same
      rw [← left.worn.stored (by simp [stored]), stored]
      rfl

/-! ### Effects that may write the record -/

/-- No spent number becomes available again, and no allocation came back. -/
structure Spends (w w' : StoreWorld) : Prop where
  spent : spent w.disk ≤ spent w'.disk
  calls : w'.calls = w.calls

theorem Leaves.spends {w w' : StoreWorld} (left : Leaves w w') : Spends w w' :=
  ⟨left.worn.spent, left.calls⟩

/-- What a request does after `base`, and what disk it read. -/
theorem wp_request_spends {α : Type} {write : Disk → Disk}
    {read : Surroundings → Disk → Except StoreException α} {e : Surroundings}
    {base w : StoreWorld} (before : Spends base w)
    (writes : ∀ d, spent base.disk ≤ spent d →
      spent base.disk ≤ spent (write d)) :
    wp (request write read)
      (fun r w' => Spends base w' ∧
        ∀ a, r = .ok a → ∃ d, spent base.disk ≤ spent d ∧
          w'.disk = write d ∧ read e d = .ok a)
      (Spends base) e w := by
  apply wp_mono (wp_request (spent base.disk ≤ spent ·) before.spent
    (fun d damage kept => kept.trans (worn_suffer d damage).spent) writes)
  · rintro r w' ⟨⟨spent, calls⟩, answered⟩
    exact ⟨⟨spent, calls.trans before.calls⟩, answered⟩
  · rintro w' ⟨spent, calls⟩
    exact ⟨spent, calls.trans before.calls⟩

/-- What an allocation that comes back has done. -/
structure Allocated (w : StoreWorld) (r : Except SeqAllocBlocked UInt64) (w' : StoreWorld) :
    Prop where
  spends : Spends w w'
  fresh : ∀ n, r = .ok n → n.toNat ∉ spent w.disk
  durable : ∀ n, r = .ok n → highestAllocated w'.disk = some n
  full : highestAllocated w.disk = some SNAPSHOT_SEQ_MAX → ∃ exception, r = .error exception

theorem Allocated.blocked {w w' : StoreWorld} (spends : Spends w w') (exception : SeqAllocBlocked) :
    Allocated w (.error exception) w' :=
  ⟨spends, by simp, by simp, fun _ => ⟨exception, rfl⟩⟩

theorem wp_block_allocated {e : Surroundings} {w w' : StoreWorld} {C : StoreWorld → Prop}
    (spends : Spends w w') (exception : SeqAllocBlocked) :
    wp (block exception) (Allocated w) C e w' := by
  rw [wp_block]
  apply Allocated.blocked
  exact ⟨spends.spent, spends.calls⟩

/-- The record an allocation starts from covers what was spent. -/
theorem spent_le_current {d : Disk} {stored : Option SequenceState}
    (same : storedSequence d = stored.map .ok) :
    spent d ≤ LowerSet.Iic
      (stored.getD { highestAllocated := 0, updatedAt := 0 }).highestAllocated.toNat := by
  unfold spent
  rw [same]
  cases stored with
  | none => exact bot_le
  | some s => exact le_refl _

/-- An allocation starts from the durable number, where there is one. -/
theorem current_of_highest {d : Disk} {stored : Option SequenceState} {h : UInt64}
    (durable : highestAllocated d = some h) (same : storedSequence d = stored.map .ok) :
    (stored.getD { highestAllocated := 0, updatedAt := 0 }).highestAllocated = h := by
  unfold highestAllocated at durable
  rw [same] at durable
  cases stored with
  | none => cases durable
  | some s => exact Option.some.inj durable

theorem spent_put_ne {d : Disk} {key : String} (other : key ≠ keys.SEQUENCE) (bytes : Bytes) :
    spent (d.put key bytes) = spent d := by
  unfold spent
  rw [storedSequence_congr (Disk.put_ne d bytes (Ne.symm other))]

section Writes

variable [LawfulJsonText]

/-- The encoding of a sequence state of the current version stands for that state. -/
theorem storedSequence_put (d : Disk) (writtenAt : Int64) {s : SequenceState}
    (current : s.schemaVersion = schema.SEQUENCE_VERSION) :
    storedSequence (d.put keys.SEQUENCE (encodeSequence writtenAt s)) = some (.ok s) := by
  simp only [storedSequence, Disk.put_self, Option.map_some, decode_encodeSequence _ current]

theorem spent_put (d : Disk) (writtenAt : Int64) {s : SequenceState}
    (current : s.schemaVersion = schema.SEQUENCE_VERSION) :
    spent (d.put keys.SEQUENCE (encodeSequence writtenAt s)) =
      LowerSet.Iic s.highestAllocated.toNat := by
  simp only [spent, storedSequence_put d writtenAt current]

/-- Saving a record that covers what was spent at `base` is harmless, confirmed or not. The disk
may have been damaged since then. -/
theorem wp_save_sequence {e : Surroundings} {base w : StoreWorld} (before : Spends base w)
    (writtenAt : Int64) (s : SequenceState) (current : s.schemaVersion = schema.SEQUENCE_VERSION)
    (covers : spent base.disk ≤ LowerSet.Iic s.highestAllocated.toNat) :
    wp (save keys.SEQUENCE (encodeSequence writtenAt s))
      (fun r w' => Spends base w' ∧ (r = .ok () → storedSequence w'.disk = some (.ok s)))
      (Spends base) e w := by
  apply wp_mono
    (wp_request_spends before fun d _ => by rw [spent_put d writtenAt current]; exact covers)
  · rintro r w' ⟨spends, answered⟩
    refine ⟨spends, fun same => ?_⟩
    obtain ⟨d, _, written, _⟩ := answered () same
    rw [written, storedSequence_put d writtenAt current]
  · exact fun w' spends => spends

/-- An allocation. -/
theorem wp_allocateSnapshotSeq {e : Surroundings} {w : StoreWorld} :
    wp allocateSnapshotSeq (Allocated w) (Spends w) e w := by
  unfold allocateSnapshotSeq
  rw [wp_bind, wp_self]
  by_cases blocked : w.self.sequenceBlocked
  · rw [if_pos blocked]
    exact .blocked ⟨le_refl _, rfl⟩ _
  rw [if_neg blocked, wp_bind]
  apply wp_mono wp_fetch_sequence _ fun _ left => left.spends
  rintro (failure | stored) w' ⟨left, read⟩
  -- the record cannot be read
  · cases failure with
    | store x => exact wp_block_allocated left.spends _
    | decode x => exact wp_block_allocated left.spends _
  have same := read stored rfl
  have below := spent_le_current same
  dsimp only
  generalize current : stored.getD { highestAllocated := 0, updatedAt := 0 } = cur at below
  -- no number is left
  by_cases full : cur.highestAllocated ≥ SNAPSHOT_SEQ_MAX
  · rw [if_pos full]
    exact wp_block_allocated left.spends _
  rw [if_neg full, wp_bind, wp_nowMs, wp_bind, wp_nowMs, wp_bind]
  have next := toNat_next full
  have covers : spent w.disk ≤ LowerSet.Iic (cur.highestAllocated + 1).toNat := by
    rw [next]
    exact below.trans (LowerSet.Iic_le.mpr (by simp))
  have before : Spends w { w' with tick := w'.tick + 1 + 1 } := ⟨left.spends.spent, left.calls⟩
  let newState : SequenceState :=
    { schemaVersion := schema.SEQUENCE_VERSION
      highestAllocated := cur.highestAllocated + 1
      updatedAt := e.clock w'.tick }
  apply wp_mono (wp_save_sequence before _ newState rfl covers) _ fun _ spends => spends
  rintro (x | done) w'' ⟨spends, saved⟩
  -- not confirmed
  · exact wp_block_allocated spends _
  -- confirmed: the number was not spent before, and is durable now
  · apply Allocated.mk spends
    · intro n returned inside
      cases returned
      have := LowerSet.mem_Iic_iff.mp (below inside)
      omega
    · intro n returned
      cases returned
      simp only [highestAllocated, saved rfl, newState]
    · intro reached
      refine absurd ?_ full
      rw [← current, current_of_highest reached same]
      exact UInt64.le_refl _

end Writes

/-! ### Opening -/

section Migration

variable {σ : Type} {key : String} {decodeFn : Bytes → Except StateDecodeError σ}
  {encodeFn : Int64 → σ → Bytes} {e : Surroundings} {base w : StoreWorld}

/-- A migration keeps the backup and writes what it has decoded. -/
theorem wp_migrate {env : Bytes} (before : Spends base w) (version : UInt32)
    (rewrites : ∀ s writtenAt d, decodeFn env = .ok s → spent base.disk ≤ spent d →
      spent base.disk ≤ spent (d.put key (encodeFn writtenAt s))) :
    wp (migrate key decodeFn encodeFn env version) (fun _ => Spends base) (Spends base) e w := by
  unfold migrate
  rw [wp_bind]
  apply wp_mono (wp_request_spends before fun d kept =>
    (spent_put_ne (backupKey_ne_sequence key version) env).symm ▸ kept)
    _ fun _ spends => spends
  rintro (x | saved) w₁ ⟨spends, _⟩
  · exact spends
  dsimp only
  cases decoded : decodeFn env with
  -- not decoded: nothing is written
  | error _ => exact spends
  -- decoded: the backup, then the new value
  | ok s =>
    dsimp only
    rw [wp_bind, wp_nowMs, wp_bind]
    have before : Spends base { w₁ with tick := w₁.tick + 1 } := ⟨spends.spent, spends.calls⟩
    apply wp_mono (wp_request_spends before fun d kept => rewrites s _ d decoded kept)
      _ fun _ spends => spends
    rintro (x | saved) w₂ ⟨spends, _⟩
    · exact spends
    dsimp only
    rw [wp_bind]
    apply wp_mono (wp_request_spends spends fun _ kept => kept) _ fun _ spends => spends
    rintro (x | rewritten) w₃ ⟨spends, _⟩
    · exact spends
    · exact spends

/-- A migration is harmless if what it writes covers what it read. -/
theorem wp_migrateAndValidate {currentVersion : UInt32} (before : Spends base w)
    (rewrites : ∀ d s writtenAt d' bytes, spent base.disk ≤ spent d → d key = some bytes →
      decodeFn bytes = .ok s → spent base.disk ≤ spent d' →
      spent base.disk ≤ spent (d'.put key (encodeFn writtenAt s))) :
    wp (migrateAndValidate key decodeFn encodeFn currentVersion) (fun _ => Spends base)
      (Spends base) e w := by
  unfold migrateAndValidate
  rw [wp_bind]
  apply wp_mono (wp_request_spends before fun _ kept => kept) _ fun _ spends => spends
  rintro (x | found) w₁ ⟨spends, _⟩
  · exact spends
  -- there is no value, or one of some version
  cases found with
  | false => exact spends
  | true =>
    dsimp only
    rw [wp_bind]
    apply wp_mono (wp_request_spends spends fun _ kept => kept) _ fun _ spends => spends
    rintro (x | env) w₂ ⟨spends, answered⟩
    · exact spends
    obtain ⟨d, kept, _, read⟩ := answered env rfl
    have stored := Disk.eq_some_of_read read
    dsimp only
    cases parseEnvelopeHeader env with
    | error _ => exact spends
    | ok h =>
      dsimp only
      -- newer, current or older
      by_cases newer : h.schemaVersion > currentVersion
      · rw [if_pos newer]
        exact spends
      rw [if_neg newer]
      by_cases same : h.schemaVersion = currentVersion
      · rw [if_pos same]
        exact spends
      rw [if_neg same]
      exact wp_migrate spends h.schemaVersion fun s writtenAt d' decoded kept' =>
        rewrites d s writtenAt d' env kept stored decoded kept'

/-- The other keys have nothing to do with the sequence. -/
theorem wp_migrateAndValidate_other {currentVersion : UInt32} (before : Spends base w)
    (other : key ≠ keys.SEQUENCE) :
    wp (migrateAndValidate key decodeFn encodeFn currentVersion) (fun _ => Spends base)
      (Spends base) e w := by
  apply wp_migrateAndValidate before
  intro d s writtenAt d' bytes _ _ _ kept
  rw [spent_put_ne other]
  exact kept

end Migration

section Writes

variable [LawfulJsonText]

/-- For the sequence this is the case: it writes the state it read. -/
theorem wp_migrateAndValidate_sequence {e : Surroundings} {base w : StoreWorld}
    (before : Spends base w) :
    wp (migrateAndValidate keys.SEQUENCE decodeSequence encodeSequence schema.SEQUENCE_VERSION)
      (fun _ => Spends base) (Spends base) e w := by
  apply wp_migrateAndValidate before
  intro d s writtenAt d' bytes kept stored decoded _
  -- the migrated record stands for the same number as the old one
  rw [spent_put d' writtenAt (decodeSequence_current decoded)]
  have old : spent d = LowerSet.Iic s.highestAllocated.toNat := by
    simp only [spent, storedSequence, stored, Option.map_some, decoded]
  exact old ▸ kept

/-- Opening spends no number. -/
theorem wp_openStore {e : Surroundings} {base w : StoreWorld} (before : Spends base w)
    (dedupeMaxEntries : UInt32) (dedupeTtlMs : Int64) :
    wp (openStore dedupeMaxEntries dedupeTtlMs) (fun _ => Spends base) (Spends base) e w := by
  unfold openStore
  rw [wp_bind]
  apply wp_mono (wp_request_spends before fun _ kept => kept) _ fun _ spends => spends
  rintro (x | opened) w₁ ⟨spends, _⟩
  · exact spends
  dsimp only
  rw [wp_bind]
  apply wp_mono (wp_migrateAndValidate_sequence spends) _ fun _ spends => spends
  intro _ w₂ spends
  rw [wp_bind]
  apply wp_mono (wp_migrateAndValidate_other spends (by decide)) _ fun _ spends => spends
  intro _ w₃ spends
  rw [wp_bind]
  apply wp_mono (wp_migrateAndValidate_other spends (by decide)) _ fun _ spends => spends
  intro _ w₄ spends
  rw [wp_bind]
  exact wp_mono (wp_migrateAndValidate_other spends (by decide)) (fun _ _ spends => spends)
    fun _ spends => spends

end Writes

/-! ### Histories -/

/-- The numbers returned so far, newest first. -/
def returned (calls : List Allocation) : List UInt64 :=
  calls.filterMap fun a => a.result.toOption

/-- What holds between any two operations of a history. -/
structure Counted (w : StoreWorld) : Prop where
  issued : Issued (spent w.disk) ((returned w.calls).map UInt64.toNat)
  durable : ∀ a ∈ w.calls, ∀ n, a.result = .ok n → highestAllocated a.after = some n
  full : ∀ a ∈ w.calls, highestAllocated a.before = some SNAPSHOT_SEQ_MAX →
    ∃ exception, a.result = .error exception

theorem Spends.counted {w w' : StoreWorld} (spends : Spends w w') (counted : Counted w) :
    Counted w' := by
  constructor
  · rw [spends.calls]
    exact counted.issued.grow spends.spent
  · rw [spends.calls]
    exact counted.durable
  · rw [spends.calls]
    exact counted.full

theorem Leaves.counted {w w' : StoreWorld} (left : Leaves w w') : Counted w → Counted w' :=
  left.spends.counted

theorem mem_spent {d : Disk} {n : UInt64} (durable : highestAllocated d = some n) :
    n.toNat ∈ spent d := by
  unfold highestAllocated at durable
  unfold spent
  split at durable
  next s stored =>
    cases durable
    rw [stored]
    exact LowerSet.mem_Iic_iff.mpr (le_refl _)
  next => cases durable

/-- The record of an allocation that came back. -/
theorem Allocated.counted {w w' : StoreWorld} {r : Except SeqAllocBlocked UInt64}
    (allocated : Allocated w r w') (counted : Counted w) :
    Counted { w' with calls := ⟨w.disk, r, w'.disk⟩ :: w'.calls } := by
  have counted' := allocated.spends.counted counted
  constructor
  · cases result : r with
    -- no number
    | error x => exact counted'.issued
    -- a number, above all that were spent
    | ok n =>
      have issued := counted.issued.issue allocated.spends.spent (allocated.fresh n result)
        (mem_spent (allocated.durable n result))
      rw [← allocated.spends.calls] at issued
      exact issued
  · rintro a member n same
    -- this call, or an earlier one
    rcases List.mem_cons.mp member with rfl | member
    · exact allocated.durable n same
    · exact counted'.durable a member n same
  · rintro a member reached
    rcases List.mem_cons.mp member with rfl | member
    · exact allocated.full reached
    · exact counted'.full a member reached

theorem Leaves.keeps {α : Type} {env : Surroundings} {m : StoreM α}
    (h : Follows env Leaves Leaves m) :
    Keeps env Counted (do let _ ← m) :=
  (h.bind fun _ => .pure _).keeps (fun _ _ left => left.counted) fun _ _ left => left.counted

/-- Objects come and go without a trace on the disk. -/
theorem Counted.of_same {w w' : StoreWorld} (counted : Counted w) (disk : w'.disk = w.disk)
    (calls : w'.calls = w.calls) : Counted w' := by
  apply Spends.counted _ counted
  exact ⟨by rw [disk], calls⟩

section Runs

variable [LawfulJsonText] {env : Surroundings}

theorem counted_allocate : Keeps env Counted (runMethod .allocateSnapshotSeq) := by
  intro w counted
  show wp (Program.world >>= _) _ _ _ _
  rw [wp_bind, wp_world, wp_bind]
  apply wp_mono wp_allocateSnapshotSeq
  · exact fun r w' allocated => allocated.counted counted
  · exact fun w' spends => spends.counted counted

theorem counted_runMethod (method : Method) : Keeps env Counted (runMethod method) := by
  cases method with
  | allocateSnapshotSeq => exact counted_allocate
  | loadSequence => exact Leaves.keeps (tolerates_leaves _).loadSequence
  | loadLastSuccess => exact Leaves.keeps (tolerates_leaves _).loadLastSuccess
  | saveLastSuccess s => exact Leaves.keeps ((tolerates_leaves _).saveLastSuccess s)
  | loadDedupe => exact Leaves.keeps (tolerates_leaves _).loadDedupe
  | saveDedupe s => exact Leaves.keeps ((tolerates_leaves _).saveDedupe s)
  | loadActiveJob => exact Leaves.keeps (tolerates_leaves _).loadActiveJob
  | saveActiveJob s => exact Leaves.keeps ((tolerates_leaves _).saveActiveJob s)
  | removeActiveJob => exact Leaves.keeps (tolerates_leaves _).removeActiveJob

/-- Each operation on the store root. -/
theorem counted_performStore (op : StoreOperation) : Keeps env Counted (performStore op) := by
  intro w counted
  cases op with
  -- opening, with or without an object in the end
  | openStore dedupeMaxEntries dedupeTtlMs =>
    show wp (openStore _ _ >>= _) _ _ _ _
    rw [wp_bind]
    have before : Spends w w := ⟨le_refl _, rfl⟩
    apply wp_mono (wp_openStore before _ _) _ fun _ spends => spends.counted counted
    rintro (x | object) w' spends
    · exact spends.counted counted
    · exact (spends.counted counted).of_same rfl rfl
  -- a call of an object that exists
  | call i method =>
    show wp (Program.world >>= _) _ _ _ _
    rw [wp_bind, wp_world]
    cases w.objects[i]? with
    | none => exact counted
    | some object =>
      dsimp only
      rw [wp_bind, wp_setSelf, wp_bind]
      have start : Counted { w with self := object } := counted.of_same rfl rfl
      apply wp_mono (counted_runMethod method _ start) _ fun _ kept => kept
      exact fun _ w' kept => kept.of_same rfl rfl
  -- the process ends
  | exit => exact counted.of_same rfl rfl

theorem counted_runStoreOperation {w : StoreWorld} (counted : Counted w) (op : StoreOperation) :
    Counted (runStoreOperation env w op) := by
  apply settle_of_wp
  apply wp_mono (counted_performStore op w counted)
  · exact fun _ _ kept => kept
  · exact fun _ kept => kept.of_same rfl rfl

theorem counted_runStore {w : StoreWorld} (counted : Counted w) (ops : List StoreOperation) :
    Counted (runStore env w ops) := by
  induction ops generalizing w with
  | nil => exact counted
  | cons op ops ih => exact ih (counted_runStoreOperation counted op)

/-- Over any history of a store root, whatever crashes, refuses or is damaged, the numbers returned
are strictly increasing, each is covered by the durable record when it is returned, and no call
returns once the record has reached the maximum. -/
theorem snapshot_numbers_never_reused (env : Surroundings) (disk : Disk)
    (history : List StoreOperation) :
    let calls := (runStore env { disk } history).calls
    (returned calls).reverse.Pairwise (· < ·) ∧
    (∀ a ∈ calls, ∀ n, a.result = .ok n → ∃ h, highestAllocated a.after = some h ∧ n ≤ h) ∧
    ∀ a ∈ calls, highestAllocated a.before = some SNAPSHOT_SEQ_MAX →
      ∃ exception, a.result = .error exception := by
  have counted : Counted (runStore env { disk } history) :=
    counted_runStore ⟨.nil _, by simp, by simp⟩ history
  refine ⟨?_, fun a member n same => ⟨n, counted.durable a member n same, UInt64.le_refl n⟩,
    counted.full⟩
  rw [List.pairwise_reverse]
  exact List.pairwise_map.mp counted.issued.decreasing

end Runs

end Sequence

section Example

/-- The third save is refused although it reached the disk. -/
def unconfirmedSave : @Surroundings compactText :=
  letI := compactText
  { clock := fun n => n.toInt64
    answer := fun n => if n = 18 then .refused { code := "CGW-FW-0102" } true else .served
    damage := fun _ => none }

/-- Three allocations, an end and a new process. -/
def acrossRestart : List StoreOperation :=
  [ .openStore 100 3600000, .call 0 .allocateSnapshotSeq, .call 0 .allocateSnapshotSeq,
    .call 0 .allocateSnapshotSeq, .exit, .openStore 100 3600000, .call 0 .allocateSnapshotSeq ]

/-- The number of the refused save is a gap. -/
theorem snapshot_numbers_across_restart :
    let calls :=
      (@runStore compactText unconfirmedSave { disk := fun _ => none } acrossRestart).calls
    (returned calls).reverse = [1, 2, 4] ∧
    (returned calls).reverse.Pairwise (· < ·) ∧
    (∀ a ∈ calls, ∀ n, a.result = .ok n →
      ∃ h, @highestAllocated compactText a.after = some h ∧ n ≤ h) ∧
    ∀ a ∈ calls, @highestAllocated compactText a.before = some SNAPSHOT_SEQ_MAX →
      ∃ exception, a.result = .error exception :=
  ⟨by decide +kernel,
    @snapshot_numbers_never_reused compactText lawful_compactText unconfirmedSave
      (fun _ => none) acrossRestart⟩

end Example

end CgwFota.Inventory
