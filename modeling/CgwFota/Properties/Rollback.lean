import CgwFota.Inventory.Interrupted
import CgwFota.Inventory.Opening
import CgwFota.Inventory.Session
import CgwFota.Properties.SnapshotSeq

/-!
# A sequence that fell behind

`recover` notices that the sequence is below the last success, but the object it tells so goes on
allocating. Numbers stay above the last success exactly on the store contents where there is nothing
to notice.

## Main definitions

* `FailClosed`: an allocation returns a number above the last success, and throws on an object that
  recovery called blocked.
* `Covered`: the sequence is unreadable, or not below the last success.

## Main results

* `allocation_fails_closed_iff`: all sessions on a store root fail closed exactly if it is covered.
* `blocked_object_allocates`: an object that recovery called blocked hands out a number.

## Proof strategy

No operation lowers what was spent and none makes a success readable, so the cover is kept by
everything, and under it recovery never calls an object blocked that allocates. Conversely a session
is built in which the first opening disturbs nothing and the next allocation returns the number
after the record.
-/
namespace CgwFota.Inventory

open Crash

/-- The plan, if there is one, does not call the object blocked. -/
def GoesOn (r : Except StoreException RecoveryPlan) : Prop :=
  ∀ plan, r = .ok plan → plan.action ≠ .Blocked

theorem goesOn_error (x : StoreException) : GoesOn (.error x) := by
  rintro plan same
  cases same

theorem goesOn_ok {plan : RecoveryPlan} (other : plan.action ≠ .Blocked) : GoesOn (.ok plan) := by
  rintro plan' same
  rw [← Except.ok.inj same]
  exact other

/-- Recovery called this object blocked. -/
def Seen.callsBlocked (object : ObjectId) : Seen → Bool
  | .recovered id (.ok plan) => id = object && plan.action = .Blocked
  | _ => false

/-- Recovery calls an object blocked with a plan. -/
theorem Seen.callsBlocked_iff {object : ObjectId} {entry : Seen} :
    entry.callsBlocked object ↔
      ∃ plan, entry = .recovered object (.ok plan) ∧ plan.action = .Blocked := by
  constructor
  · intro blocked
    unfold callsBlocked at blocked
    split at blocked
    next id plan =>
      simp only [Bool.and_eq_true, decide_eq_true_eq] at blocked
      exact ⟨plan, by rw [blocked.1], blocked.2⟩
    next => cases blocked
  · rintro ⟨plan, rfl, blocked⟩
    simp [callsBlocked, blocked]

section Rollback

variable [JsonText]

/-- The number of a readable last success. -/
def Succeeded (d : Disk) (n : UInt64) : Prop :=
  ∃ l, decoded decodeLastSuccess (d keys.LAST_SUCCESS) = some l ∧ l.snapshotSeq = n

/-- An allocation returns a number above the last success, and throws on an object that recovery
called blocked. -/
def FailClosed : Seen → List Seen → Prop
  | .recovered _ _, _ => True
  | .allocated object before result, past =>
    ∀ n, result = .ok n →
      (∀ m, Succeeded before m → m < n) ∧ ∀ earlier ∈ past, ¬earlier.callsBlocked object

theorem forall_succeeded {d : Disk} {P : UInt64 → Prop} :
    (∀ m, Succeeded d m → P m) ↔
      ∀ l ∈ decoded decodeLastSuccess (d keys.LAST_SUCCESS), P l.snapshotSeq := by
  constructor
  · exact fun h l stored => h _ ⟨l, stored, rfl⟩
  · rintro h _ ⟨l, stored, rfl⟩
    exact h l stored

instance decidableFailClosed : ∀ entry past, Decidable (FailClosed entry past)
  | .recovered _ _, _ => isTrue trivial
  | .allocated _ _ (.error _), _ => isTrue fun _ same => nomatch same
  | .allocated object before (.ok n), past =>
    decidable_of_iff
      ((∀ l ∈ decoded decodeLastSuccess (before keys.LAST_SUCCESS), l.snapshotSeq < n) ∧
        ∀ earlier ∈ past, ¬earlier.callsBlocked object) <| by
      rw [← forall_succeeded (P := fun m => m < n)]
      constructor
      · rintro closed _ ⟨⟩
        exact closed
      · exact fun closed => closed n rfl

/-- The sequence covers the last success: it is unreadable, or not below it. A missing sequence
covers a last success without a number. -/
def Covered (d : Disk) : Prop := ∀ n, Succeeded d n → 0 < n → n.toNat ∈ spent d

/-! ### What keeps the cover -/

/-- What is readable afterwards was readable before. -/
def Fades (d d' : Disk) : Prop := ∀ n, Succeeded d' n → Succeeded d n

theorem Fades.of_same {d d' : Disk} (same : d' keys.LAST_SUCCESS = d keys.LAST_SUCCESS) :
    Fades d d' := by
  rintro n ⟨l, stored, number⟩
  exact ⟨l, same ▸ stored, number⟩

theorem Covered.kept {d d' : Disk} (covered : Covered d) (grows : spent d ≤ spent d')
    (fades : Fades d d') : Covered d' :=
  fun n succeeded positive => grows (covered n (fades n succeeded) positive)

/-- A number from outside the spent ones is above every success. -/
theorem Covered.below {d : Disk} (covered : Covered d) {m n : UInt64} (succeeded : Succeeded d m)
    (fresh : n.toNat ∉ spent d) (positive : 0 < n) : m < n := by
  -- a success without a number is below every number
  by_cases zero : 0 < m
  · have inside := covered m succeeded zero
    rw [UInt64.lt_iff_toNat_lt]
    by_contra high
    exact fresh ((spent d).lower (Nat.not_lt.mp high) inside)
  · have none : m = 0 := by
      rw [UInt64.lt_iff_toNat_lt] at zero
      apply UInt64.toNat_inj.mp
      have : (0 : UInt64).toNat = 0 := rfl
      omega
    exact none ▸ positive

/-- Where the sequence covers the last success, recovery does not find it behind. -/
theorem Covered.not_rolledBack {d : Disk} (covered : Covered d) (object : FotaStateStore) :
    ¬rolledBack (readSequence object d) (readLastSuccess object d) := by
  intro fallen
  unfold rolledBack at fallen
  split at fallen
  -- both records can be read, and the sequence is below
  next seq l readSeq readLast =>
    have behind : l.snapshotSeq > seq.highestAllocated := by simpa using fallen
    obtain ⟨_, success⟩ := readLastSuccess_eq_some.mp readLast
    unfold readSequence at readSeq
    split at readSeq
    · cases readSeq
    obtain ⟨bytes, stored, read⟩ := decoded_eq_some.mp readSeq
    rw [gt_iff_lt, UInt64.lt_iff_toNat_lt] at behind
    have positive : 0 < l.snapshotSeq := by
      rw [UInt64.lt_iff_toNat_lt]
      exact Nat.lt_of_le_of_lt (Nat.zero_le _) behind
    have inside := covered _ ⟨l, success, rfl⟩ positive
    unfold spent storedSequence at inside
    rw [stored] at inside
    simp only [Option.map_some, read] at inside
    have := LowerSet.mem_Iic_iff.mp inside
    omega
  -- one of them cannot be read
  next => cases fallen

/-! ### Recovery -/

variable {e : Surroundings} {w : StoreWorld}

/-- The flag of a blocked sequence is what it was. -/
def SameFlag (w w' : StoreWorld) : Prop := w'.self.sequenceBlocked = w.self.sequenceBlocked

instance : IsPreorder StoreWorld SameFlag where
  refl _ := Eq.refl _
  trans _ _ _ first second := Eq.trans second first

instance : Trans SameFlag SameFlag SameFlag := ⟨trans_of SameFlag⟩

/-- Recovery keeps the flag: it writes nothing about the object. -/
theorem tolerates_sameFlag (e : Surroundings) : Tolerates e SameFlag where
  request _ w := by
    unfold wp request
    cases e.answer w.tick with
    | served => exact Eq.refl _
    | refused x written => exact Eq.refl _
    | killed written => exact Eq.refl _
  nowMs _ := Eq.refl _
  setSelf _ same w := same w.self

/-- No phase of a job calls the object blocked. -/
theorem wp_recoverPhase_goesOn {job : ActiveJobState} :
    wp (recoverPhase job) (fun r _ => GoesOn r) (fun _ => True) e w := by
  unfold recoverPhase
  cases job.phase with
  | Accepted | Collecting | SubmitUnknown | RetryWaiting =>
    dsimp only
    rw [wp_pure]
    exact goesOn_ok nofun
  -- the number is looked at
  | Assembled | SubmitPrepared =>
    dsimp only
    split
    · rw [wp_pure]
      exact goesOn_ok nofun
    · rw [wp_pure]
      exact goesOn_ok nofun
  -- the job is completed, or it fails to be
  | CompletedPendingCleanup =>
    dsimp only
    rw [wp_bind]
    apply wp_mono wp_true _ fun _ _ => trivial
    rintro (x | _ | _) w' _
    · exact goesOn_error x
    · exact goesOn_ok nofun
    · exact goesOn_ok nofun

/-- Recovery calls an object blocked only where the sequence cannot be trusted. -/
theorem wp_recover_blocked (intact : e.Intact) :
    wp recover (fun r _ => GoesOn r ∨ Untrusted w.self w.disk) (fun _ => True) e w := by
  unfold recover
  rw [wp_bind, wp_self]
  by_cases blocked : w.self.sequenceBlocked
  · rw [if_pos blocked]
    exact Or.inr (Or.inl blocked)
  rw [if_neg blocked, wp_bind]
  apply wp_loadSequence_intact intact _ fun _ => trivial
  intro seq tick readSeq
  rw [wp_bind]
  apply wp_loadLastSuccess_intact intact _ fun _ _ => trivial
  intro l w₂ looked readLast
  -- the sequence is behind what succeeded
  by_cases fallen : rolledBack seq l
  · rw [if_pos fallen]
    right
    right
    rcases readSeq with rfl | ⟨rfl, _⟩
    · rcases readLast with rfl | ⟨rfl, _⟩
      · exact fallen
      · unfold rolledBack at fallen
        split at fallen
        next none => cases none
        next => cases fallen
    · cases fallen
  rw [if_neg fallen, wp_bind]
  apply wp_mono wp_true _ fun _ _ => trivial
  rintro (_ | job) w₃ _
  · dsimp only
    rw [wp_bind, wp_self]
    split
    · exact Or.inl (goesOn_ok nofun)
    · exact Or.inl (goesOn_ok nofun)
  · exact wp_mono wp_recoverPhase_goesOn (fun _ _ goesOn => Or.inl goesOn) fun _ h => h

/-! ### Allocation -/

/-- What an allocation leaves behind, apart from the sequence. -/
structure Allocates (w : StoreWorld) (r : Except SeqAllocBlocked UInt64) (w' : StoreWorld) :
    Prop where
  lastSuccess : w'.disk keys.LAST_SUCCESS = w.disk keys.LAST_SUCCESS
  positive : ∀ n, r = .ok n → 0 < n
  blocked : w.self.sequenceBlocked → w'.self.sequenceBlocked ∧ ∀ n, r ≠ .ok n

theorem wp_block_allocates {w' : StoreWorld} {C : StoreWorld → Prop}
    (same : w'.disk keys.LAST_SUCCESS = w.disk keys.LAST_SUCCESS) (exception : SeqAllocBlocked) :
    wp (block exception) (Allocates w) C e w' := by
  rw [wp_block]
  exact ⟨same, by simp, fun _ => ⟨rfl, by simp⟩⟩

/-- An allocation touches no success, and a blocked object stays blocked. -/
theorem wp_allocateSnapshotSeq_intact (intact : e.Intact) :
    wp allocateSnapshotSeq (Allocates w)
      (fun w' => w'.disk keys.LAST_SUCCESS = w.disk keys.LAST_SUCCESS) e w := by
  have spared (bytes : Bytes) :
      w.disk.put keys.SEQUENCE bytes keys.LAST_SUCCESS = w.disk keys.LAST_SUCCESS :=
    Disk.put_ne w.disk bytes (by decide)
  unfold allocateSnapshotSeq
  rw [wp_bind, wp_self]
  by_cases blocked : w.self.sequenceBlocked
  · rw [if_pos blocked]
    exact ⟨rfl, by simp, fun _ => ⟨blocked, by simp⟩⟩
  rw [if_neg blocked, wp_bind]
  apply wp_fetch_intact intact
  · intro tick
    cases fetched decodeSequence (w.disk keys.SEQUENCE) with
    -- the record cannot be read
    | error failure =>
      cases failure with
      | store x => exact wp_block_allocates (by rfl) _
      | decode x => exact wp_block_allocates (by rfl) _
    -- it can, and a number is left or not
    | ok stored =>
      dsimp only
      generalize stored.getD { highestAllocated := 0, updatedAt := 0 } = cur
      by_cases full : cur.highestAllocated ≥ SNAPSHOT_SEQ_MAX
      · rw [if_pos full]
        exact wp_block_allocates (by rfl) _
      rw [if_neg full, wp_bind, wp_nowMs, wp_bind, wp_nowMs, wp_bind]
      unfold save
      generalize encodeSequence _ _ = bytes
      apply wp_request_intact intact
      -- saved and confirmed
      · refine ⟨spared bytes, ?_, fun same => absurd same blocked⟩
        rintro n returned
        rw [← Except.ok.inj returned, UInt64.lt_iff_toNat_lt, toNat_next full]
        exact Nat.succ_pos _
      -- not confirmed, whether it was saved or not
      · rintro _ x disk (rfl | rfl)
        · exact wp_block_allocates (by rfl) _
        · exact wp_block_allocates (by exact spared bytes) _
      -- killed before the save or after it
      · rintro disk (rfl | rfl)
        · rfl
        · exact spared bytes
  -- the key could not be asked for
  · rintro _ (x | x) tick
    · exact wp_block_allocates (by rfl) _
    · exact wp_block_allocates (by rfl) _
  · exact fun _ => rfl

/-! ### Opening -/

/-- An opening makes no success readable that was not. -/
theorem Opens.fades [LawfulJsonText] {d d' : Disk} (opens : Opens d d') : Fades d d' := by
  obtain ⟨d₁, first, d₂, second, d₃, third, fourth⟩ := opens
  have before : d₁ keys.LAST_SUCCESS = d keys.LAST_SUCCESS :=
    (spared_by_phases first second third).1.value
  have after : d' keys.LAST_SUCCESS = d₂ keys.LAST_SUCCESS :=
    (spares_of_phases second third fourth).2.1.value
  cases second with
  -- the last success is not among the keys of this opening
  | stays => exact .of_same (after.trans before)
  | backed stored older =>
    rw [Disk.put_ne _ _ (inventoryKey_ne_backup (by decide) _)] at after
    exact .of_same (after.trans before)
  -- it was rewritten
  | @raised old v s stored older read writtenAt =>
    rw [Disk.put_self] at after
    rintro n ⟨l, found, number⟩
    rw [after] at found
    obtain ⟨bytes, same, again⟩ := decoded_eq_some.mp found
    cases same
    -- a rewritten record reads back as what it was, or not at all
    have kept : l = s := by
      rcases faithful_lastSuccess.rewritten sound_lastSuccess read writtenAt with
        ⟨_, back, _⟩ | ⟨_, x, broken⟩
      · exact Except.ok.inj (again.symm.trans back)
      · cases again.symm.trans (Format.decode_of_header broken)
    exact ⟨s, decoded_eq_some.mpr ⟨old, before ▸ stored, read⟩, kept ▸ number⟩

/-! ### Sessions -/

/-- What holds between any two operations. -/
structure Guards (s : Session) : Prop where
  covered : Covered s.world.disk
  closed : Always FailClosed s.seen
  flagged : ∀ i plan, .recovered ⟨s.process, i⟩ (.ok plan) ∈ s.seen → plan.action = .Blocked →
    ∃ object, s.world.objects[i]? = some object ∧ object.sequenceBlocked
  past : ∀ object r, .recovered object r ∈ s.seen → object.process ≤ s.process

theorem Guards.endProcess {s : Session} (guards : Guards s) {w : StoreWorld}
    (covered : Covered w.disk) : Guards { s with world := w }.endProcess where
  covered := covered
  closed := guards.closed
  flagged _ _ member _ := absurd (guards.past _ _ member) (Nat.not_succ_le_self _)
  past object r member := (guards.past object r member).trans (Nat.le_succ _)

/-- A call that came back on the object at `i`, with what it says about that object. -/
theorem Guards.observe {s : Session} (guards : Guards s) {w : StoreWorld} {i : Nat}
    {object : FotaStateStore} (stored : s.world.objects[i]? = some object)
    (covered : Covered w.disk) (flag : object.sequenceBlocked → w.self.sequenceBlocked)
    {entry : Seen} (closed : FailClosed entry s.seen)
    (own : ∀ id r, entry = .recovered id r →
      id = ⟨s.process, i⟩ ∧ (GoesOn r ∨ w.self.sequenceBlocked)) :
    Guards
      { s with
        world := { w with objects := s.world.objects.set i w.self }
        seen := entry :: s.seen } where
  covered := covered
  closed := ⟨closed, guards.closed⟩
  flagged j plan member blocked := by
    obtain ⟨within, _⟩ := List.getElem?_eq_some_iff.mp stored
    have here : (s.world.objects.set i w.self)[i]? = some w.self := by
      rw [List.getElem?_set_self within]
    rcases List.mem_cons.mp member with new | old
    · obtain ⟨same, goesOn | flagged⟩ := own _ _ new.symm
      · exact absurd blocked (goesOn plan rfl)
      · cases same
        exact ⟨w.self, here, flagged⟩
    · obtain ⟨object', stored', flagged⟩ := guards.flagged j plan old blocked
      by_cases same : i = j
      · subst same
        cases stored.symm.trans stored'
        exact ⟨w.self, here, flag flagged⟩
      · refine ⟨object', ?_, flagged⟩
        show (s.world.objects.set i w.self)[j]? = some object'
        rw [List.getElem?_set_ne same, stored']
  past id r member := by
    rcases List.mem_cons.mp member with new | old
    · obtain ⟨same, _⟩ := own _ _ new.symm
      exact same ▸ Nat.le_refl _
    · exact guards.past id r old

/-- Recovery. -/
theorem guards_recover {s : Session} (intact : e.Intact) (guards : Guards s) (i : Nat) :
    Guards (s.call e i recover (.recovered ⟨s.process, i⟩)) := by
  apply call_of_wp fun _ => guards
  intro object stored
  let w : StoreWorld := { s.world with self := object }
  have kept (w' : StoreWorld) (recovers : Recovers e object s.world.disk w'.disk) :
      Covered w'.disk := by
    have sequence := recovers.frame (k := keys.SEQUENCE) (by decide) (by decide)
    have success := recovers.frame (k := keys.LAST_SUCCESS) (by decide) (by decide)
    apply guards.covered.kept _ (.of_same success)
    unfold spent
    rw [storedSequence_congr sequence]
  have runs : wp recover
      (fun r w' => Recovers e object s.world.disk w'.disk ∧
        SameFlag w w' ∧ (GoesOn r ∨ Untrusted object s.world.disk))
      (fun w' => Recovers e object s.world.disk w'.disk ∧ SameFlag w w' ∧ True) e w :=
    wp_and (wp_recover_intact intact (fun _ _ recovers _ => recovers) fun _ recovers => recovers)
      (wp_and ((tolerates_sameFlag e).recover w) (wp_recover_blocked intact))
  apply wp_mono runs
  -- it came back
  · rintro r w' ⟨recovers, same, verdict⟩
    have flag : w'.self.sequenceBlocked = object.sequenceBlocked := same
    apply guards.observe stored (kept w' recovers) (fun blocked => flag.trans blocked) (by trivial)
    rintro id r' called
    cases called
    refine ⟨rfl, verdict.imp_right ?_⟩
    rintro (blocked | fallen)
    · exact flag ▸ blocked
    · exact absurd fallen (guards.covered.not_rolledBack object)
  -- it was killed
  · rintro w' ⟨recovers, _⟩
    exact guards.endProcess (kept w' recovers)

/-! ### Where the sequence is behind -/

/-- The record an allocation starts from. -/
def current (stored : Option SequenceState) : SequenceState :=
  stored.getD { highestAllocated := 0, updatedAt := 0 }

/-- A number that was not spent is above a record that can be read, or there is no record. -/
theorem current_of_fresh {d : Disk} {n : UInt64} (fresh : n.toNat ∉ spent d) (positive : 0 < n) :
    ∃ stored, storedSequence d = stored.map .ok ∧ (current stored).highestAllocated < n := by
  unfold spent at fresh
  cases read : storedSequence d with
  -- no record: the first number is allocated
  | none => exact ⟨none, rfl, positive⟩
  | some result =>
    rw [read] at fresh
    -- a record that can be read, or not
    cases result with
    | error x => exact absurd trivial fresh
    | ok seq =>
      refine ⟨some seq, rfl, ?_⟩
      rw [UInt64.lt_iff_toNat_lt]
      exact Nat.lt_of_not_le fun low => fresh (LowerSet.mem_Iic_iff.mpr low)

/-- An allocation whose requests are served. -/
theorem wp_allocateSnapshotSeq_served (intact : e.Intact) (free : ¬w.self.sequenceBlocked)
    (served : ∀ n, w.tick ≤ n → e.answer n = .served) {stored : Option SequenceState}
    (read : storedSequence w.disk = stored.map .ok)
    (room : ¬(current stored).highestAllocated ≥ SNAPSHOT_SEQ_MAX) :
    wp allocateSnapshotSeq (fun r _ => r = .ok ((current stored).highestAllocated + 1))
      (fun _ => False) e w := by
  have found : fetched decodeSequence (w.disk keys.SEQUENCE) = .ok stored := by
    unfold storedSequence at read
    cases bytes : w.disk keys.SEQUENCE with
    -- no record
    | none =>
      rw [bytes] at read
      cases stored with
      | none => rfl
      | some seq => cases read
    -- a record that can be read
    | some bytes' =>
      rw [bytes] at read
      cases stored with
      | none => cases read
      | some seq =>
        have read : decodeSequence bytes' = .ok seq := Option.some.inj read
        simp only [fetched, read]
  unfold allocateSnapshotSeq
  rw [wp_bind, wp_self, if_neg free, wp_bind]
  apply wp_fetch_served intact served
  intro tick later
  unfold current at room ⊢
  rw [found]
  dsimp only
  rw [if_neg room, wp_bind, wp_nowMs, wp_bind, wp_nowMs, wp_bind]
  unfold save
  rw [wp_request_served intact]
  · rfl
  · exact served _ (by show w.tick ≤ tick + 1 + 1; omega)

/-! ### A session -/

/-- Every request is served but the first one for each key after the sequence, so that the first
opening brings no other key to the current version. -/
def interfering (d : Disk) : Surroundings where
  clock _ := 0
  answer n :=
    let first := 1 + sequenceFormat.duration keys.SEQUENCE d
    if first ≤ n ∧ n < first + 3 then .refused default false else .served
  damage _ := none

theorem intact_interfering (d : Disk) : (interfering d).Intact := fun _ => rfl

/-- A refused question is taken for a problem, and nothing is migrated. -/
theorem wp_migrateAndValidate_refused {σ : Type} {key : String}
    {decodeFn : Bytes → Except StateDecodeError σ} {encodeFn : Int64 → σ → Bytes} {v : UInt32}
    {x : StoreException} (intact : e.Intact) (refused : e.answer w.tick = .refused x false)
    {Q : Bool → StoreWorld → Prop} {C : StoreWorld → Prop}
    (next : Q true { w with tick := w.tick + 1 }) :
    wp (migrateAndValidate key decodeFn encodeFn v) Q C e w := by
  have asked : wp (has key) (fun r w' => r = .error x ∧ w' = { w with tick := w.tick + 1 })
      (fun _ => False) e w := by
    unfold wp has request
    rw [refused, intact w.tick]
    exact ⟨rfl, rfl⟩
  unfold migrateAndValidate
  rw [wp_bind]
  apply wp_mono asked
  · rintro r w' ⟨rfl, rfl⟩
    exact next
  · exact fun _ impossible => impossible.elim

section Runs

variable [LawfulJsonText] {s : Session}

/-- Opening an object. -/
theorem guards_openStore (intact : e.Intact) (guards : Guards s) (dedupeMaxEntries : UInt32)
    (dedupeTtlMs : Int64) : Guards (s.openStore e dedupeMaxEntries dedupeTtlMs) := by
  have opens : wp (openStore dedupeMaxEntries dedupeTtlMs)
      (fun _ w' => Spends s.world w' ∧ Opens s.world.disk w'.disk)
      (fun w' => Spends s.world w' ∧ Opens s.world.disk w'.disk) e s.world := by
    apply wp_and
    · exact wp_openStore ⟨le_refl _, rfl⟩ _ _
    · exact wp_openStore_intact intact (fun _ _ _ opens => opens) fun _ _ opens => opens
  apply openStore_of_wp
  apply wp_mono opens
  · rintro r w ⟨spends, opens⟩
    refine ⟨guards.covered.kept spends.spent opens.fades, guards.closed, ?_, guards.past⟩
    intro i plan member blocked
    obtain ⟨object, stored, flagged⟩ := guards.flagged i plan member blocked
    obtain ⟨within, _⟩ := List.getElem?_eq_some_iff.mp stored
    refine ⟨object, ?_, flagged⟩
    show (s.world.objects ++ r.toOption.toList)[i]? = some object
    rw [List.getElem?_append_left within, stored]
  · rintro w ⟨spends, opens⟩
    exact guards.endProcess (guards.covered.kept spends.spent opens.fades)

/-- Allocating on an object. -/
theorem guards_allocate (intact : e.Intact) (guards : Guards s) (i : Nat) :
    Guards (s.call e i allocateSnapshotSeq (.allocated ⟨s.process, i⟩ s.world.disk)) := by
  apply call_of_wp fun _ => guards
  intro object stored
  apply wp_mono (wp_and wp_allocateSnapshotSeq (wp_allocateSnapshotSeq_intact intact))
  · rintro r w' ⟨allocated, allocates⟩
    have covered := guards.covered.kept allocated.spends.spent (.of_same allocates.lastSuccess)
    apply guards.observe stored covered fun blocked => (allocates.blocked blocked).1
    -- a number that is returned is above every success, on an object that is not blocked
    · rintro n rfl
      constructor
      · intro m succeeded
        exact guards.covered.below succeeded (allocated.fresh n rfl) (allocates.positive n rfl)
      · intro earlier member called
        obtain ⟨plan, rfl, blocked⟩ := Seen.callsBlocked_iff.mp called
        obtain ⟨object', stored', flagged⟩ := guards.flagged i plan member blocked
        cases stored.symm.trans stored'
        exact (allocates.blocked flagged).2 n rfl
    · rintro id r' called
      cases called
  · rintro w' ⟨spends, same⟩
    exact guards.endProcess (guards.covered.kept spends.spent (.of_same same))

theorem guards_perform (intact : e.Intact) (guards : Guards s) (op : SessionOperation) :
    Guards (s.perform e op) := by
  cases op with
  | openStore dedupeMaxEntries dedupeTtlMs => exact guards_openStore intact guards _ _
  | recover i => exact guards_recover intact guards i
  | allocateSnapshotSeq i => exact guards_allocate intact guards i
  | exit => exact guards.endProcess guards.covered

/-- A sequence that can be read stays readable when its key is brought to the current version. -/
theorem settle_sequence {d : Disk} {stored : Option SequenceState}
    (read : storedSequence d = stored.map .ok) (writtenAt : Int64) :
    (sequenceFormat.settle keys.SEQUENCE writtenAt d).2 = false ∧
      storedSequence (sequenceFormat.settle keys.SEQUENCE writtenAt d).1 = stored.map .ok := by
  have before := read
  unfold storedSequence at read
  unfold Format.settle
  cases bytes : d keys.SEQUENCE with
  -- no record
  | none => exact ⟨rfl, before⟩
  | some old =>
  rw [bytes] at read
  cases stored with
  | none => cases read
  -- a record, of the current version or of an older one
  | some seq =>
  have decodes : sequenceFormat.decode old = .ok seq := Option.some.inj read
  obtain ⟨h, header, known, _⟩ := Format.decode_ok_iff.mp decodes
  have notNewer : ¬h.schemaVersion > sequenceFormat.version := UInt32.not_lt.mpr known
  simp only [header, if_neg notNewer]
  by_cases same : h.schemaVersion = sequenceFormat.version
  · simp only [if_pos same, rejects, decodes]
    exact ⟨trivial, before⟩
  · have version : seq.schemaVersion = schema.SEQUENCE_VERSION := decodeSequence_current decodes
    have again := decode_encodeSequence writtenAt version
    simp only [if_neg same, decodes, rejects]
    refine ⟨?_, storedSequence_put _ writtenAt version⟩
    have again : sequenceFormat.decode (sequenceFormat.encode writtenAt seq) = .ok seq := again
    rw [again]

/-- The opening leaves an object that allocates. -/
theorem wp_openStore_interfering {d : Disk} {stored : Option SequenceState}
    (read : storedSequence d = stored.map .ok) {dedupeMaxEntries : UInt32} {dedupeTtlMs : Int64} :
    wp (openStore dedupeMaxEntries dedupeTtlMs)
      (fun r w' => (∃ object, r = .ok object ∧ ¬object.sequenceBlocked) ∧
        storedSequence w'.disk = stored.map .ok ∧
        w'.disk keys.LAST_SUCCESS = d keys.LAST_SUCCESS ∧
        ∀ n, w'.tick ≤ n → (interfering d).answer n = .served)
      (fun _ => False) (interfering d) { disk := d } := by
  have intact := intact_interfering d
  have early (n : Nat) (before : n < 1 + sequenceFormat.duration keys.SEQUENCE d) :
      (interfering d).answer n = .served := if_neg (by omega)
  have refused (k : Nat) (within : k < 3) :
      (interfering d).answer (1 + sequenceFormat.duration keys.SEQUENCE d + k) =
        .refused default false := if_pos ⟨by omega, by omega⟩
  unfold openStore openFramework
  rw [wp_bind, wp_request_served intact (early 0 (by omega))]
  dsimp only [id]
  rw [wp_bind]
  apply wp_migrateAndValidate_served sequenceFormat intact
  · exact fun n _ before => early n before
  intro writtenAt
  obtain ⟨flag, kept⟩ := settle_sequence read writtenAt
  have leads : sequenceFormat.Leads keys.SEQUENCE d _ := Format.settle_leads writtenAt d
  have frame := leads.frame (k := keys.LAST_SUCCESS) (by decide) (ne_backupKey (by decide))
  rw [wp_bind]
  apply wp_migrateAndValidate_refused intact (refused 0 (by omega))
  rw [wp_bind]
  apply wp_migrateAndValidate_refused intact (refused 1 (by omega))
  rw [wp_bind]
  apply wp_migrateAndValidate_refused intact (refused 2 (by omega))
  refine ⟨⟨_, rfl, ?_⟩, kept, frame, ?_⟩
  · simp [flag]
  · exact fun n late => if_neg fun within => absurd within.2 (Nat.not_lt.mpr late)

/-- What such a session sees: the number after the record, whatever succeeded. -/
theorem allocates_next {d : Disk} {stored : Option SequenceState}
    (read : storedSequence d = stored.map .ok)
    (room : ¬(current stored).highestAllocated ≥ SNAPSHOT_SEQ_MAX) :
    ∃ before, before keys.LAST_SUCCESS = d keys.LAST_SUCCESS ∧
      .allocated ⟨0, 0⟩ before (.ok ((current stored).highestAllocated + 1)) ∈
        (runSession (interfering d) (.start d) [.openStore 0 0, .allocateSnapshotSeq 0]).seen := by
  let ready (s : Session) : Prop :=
    s.process = 0 ∧
    (∃ object, s.world.objects = [object] ∧ ¬object.sequenceBlocked) ∧
    storedSequence s.world.disk = stored.map .ok ∧
    s.world.disk keys.LAST_SUCCESS = d keys.LAST_SUCCESS ∧
    ∀ n, s.world.tick ≤ n → (interfering d).answer n = .served
  have opened : ready ((Session.start d).openStore (interfering d) 0 0) := by
    apply openStore_of_wp
    apply wp_mono (wp_openStore_interfering read)
    · rintro _ w' ⟨⟨object, rfl, free⟩, kept, same, served⟩
      exact ⟨rfl, ⟨object, rfl, free⟩, kept, same, served⟩
    · exact fun _ impossible => impossible.elim
  have allocated (s : Session) (prepared : ready s) :
      .allocated ⟨0, 0⟩ s.world.disk (.ok ((current stored).highestAllocated + 1)) ∈
        (s.perform (interfering d) (.allocateSnapshotSeq 0)).seen := by
    obtain ⟨process, ⟨object, objects, free⟩, kept, same, served⟩ := prepared
    let saw (s' : Session) : Prop :=
      .allocated ⟨0, 0⟩ s.world.disk (.ok ((current stored).highestAllocated + 1)) ∈ s'.seen
    show saw (s.call (interfering d) 0 allocateSnapshotSeq _)
    apply call_of_wp
    · rw [objects]
      nofun
    rintro object' here
    rw [objects] at here
    cases here
    apply wp_mono (wp_allocateSnapshotSeq_served (w := { s.world with self := object })
      (intact_interfering d) free served kept room)
    · rintro r w' rfl
      simp [saw, process]
    · exact fun _ impossible => impossible.elim
  exact ⟨_, opened.2.2.2.1, allocated _ opened⟩

/-- In every session on a store root the numbers are above the readable last success, and no object
that recovery called blocked allocates, exactly where the sequence covers the last success. -/
theorem allocation_fails_closed_iff (disk : Disk) :
    (∀ env : Surroundings, env.Intact → ∀ ops : List SessionOperation,
      Always FailClosed (runSession env (.start disk) ops).seen) ↔ Covered disk := by
  constructor
  -- a success above the record would be allocated again
  · rintro closed n ⟨l, success, number⟩ positive
    by_contra fresh
    obtain ⟨stored, read, behind⟩ := current_of_fresh fresh positive
    have room : ¬(current stored).highestAllocated ≥ SNAPSHOT_SEQ_MAX := by
      intro full
      have max : n ≤ SNAPSHOT_SEQ_MAX := UInt64.le_iff_toNat_le.mpr (Nat.le_of_lt_succ n.toNat_lt)
      exact absurd behind (UInt64.not_lt.mpr (UInt64.le_trans max full))
    obtain ⟨before, same, seen⟩ := allocates_next read room
    obtain ⟨past, failClosed⟩ := (closed _ (intact_interfering disk) _).of_mem seen
    have above := (failClosed _ rfl).1 n ⟨l, same ▸ success, number⟩
    rw [UInt64.lt_iff_toNat_lt] at above behind
    rw [toNat_next room] at above
    omega
  -- under the cover every operation keeps the guards
  · intro covered env intact ops
    have start : Guards (.start disk) := ⟨covered, trivial, by simp [Session.start],
      by simp [Session.start]⟩
    have reached : Guards (runSession env (.start disk) ops) :=
      runSession_of_perform start (fun s op guards => guards_perform intact guards op) ops
    exact reached.closed

end Runs

end Rollback

section Example

/-- The last success. -/
def secondSuccess : LastSuccessState := { snapshotSeq := 2, snapshot := { snapshot_seq := 2 } }

/-- A last success with number 2 next to a sequence with this number. -/
def afterSuccess [JsonText] (highestAllocated : UInt64) : Disk :=
  let empty : Disk := fun _ => none
  (empty.put keys.LAST_SUCCESS (encodeLastSuccess 7 secondSuccess)).put keys.SEQUENCE
    (encodeSequence 7 { highestAllocated, updatedAt := 7 })

/-- Recovery, and an allocation on the same object. -/
def recoverThenAllocate : List SessionOperation :=
  [.openStore 100 3600000, .recover 0, .allocateSnapshotSeq 0]

/-- Recovery calls the object blocked, and the same object hands out the number of the success. -/
theorem blocked_object_allocates :
    let s := @runSession compactText (@undisturbed compactText)
      (.start (@afterSuccess compactText 1)) recoverThenAllocate
    s.seen.any (Seen.callsBlocked ⟨0, 0⟩) ∧ ¬Always (@FailClosed compactText) s.seen := by
  decide +kernel

/-- A sequence with the number of the success covers it. -/
theorem afterSuccess_covered [JsonText] [LawfulJsonText] : Covered (afterSuccess 2) := by
  have unknown : ValidFingerprints {} := ⟨by simp, by simp, by simp, by simp⟩
  have success : decodeLastSuccess (encodeLastSuccess 7 secondSuccess) = .ok secondSuccess :=
    faithful_lastSuccess.decode_encode 7 rfl ⟨unknown, rfl⟩
      (faithful_lastSuccess.fits (by decide +kernel))
  rintro _ ⟨l, stored, rfl⟩ positive
  have same : l = secondSuccess := by
    unfold afterSuccess at stored
    rw [Disk.put_ne _ _ (by decide), Disk.put_self] at stored
    obtain ⟨bytes, found, read⟩ := decoded_eq_some.mp stored
    cases found
    exact Except.ok.inj (read.symm.trans success)
  unfold afterSuccess
  rw [same, spent_put _ _ rfl]
  exact LowerSet.mem_Iic_iff.mpr (Nat.le_refl 2)

/-- No session on this store allocates below the success. -/
theorem allocates_above_success :
    (∀ env : @Surroundings compactText, @Surroundings.Intact compactText env →
      ∀ ops : List SessionOperation, Always (@FailClosed compactText)
        (@runSession compactText env (.start (@afterSuccess compactText 2)) ops).seen) ∧
    @Covered compactText (@afterSuccess compactText 2) :=
  have covered := @afterSuccess_covered compactText lawful_compactText
  ⟨(@allocation_fails_closed_iff compactText lawful_compactText _).mpr covered, covered⟩

end Example

end CgwFota.Inventory
