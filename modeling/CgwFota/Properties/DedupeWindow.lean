import Mathlib.Data.List.Induction
import CgwFota.Properties.Availability
import CgwFota.Properties.Cleanup

/-!
# The bound of the deduplication window

The bound comes with every opening and is laid over whatever is stored. Recovery evicts old entries
only when it adds a new one, so a window that was filled under a larger bound stays as it is until
the next report is confirmed.

## Main definitions

* `WindowHistory`, `WindowOperation`, `runWindow`: what happens on one store root, with the reports
  that were confirmed.
* `Bounded`: after a recovery the window has no more entries than configured, the last confirmed
  ones in their order.
* `Roomy`: the exact condition on a recovery.
* `WindowInvariant`: what holds in every history whose recoveries find room.

## Main results

* `dedupe_bounded_iff`: a history is bounded if its recoveries find room, and where every request is
  served only then.
* `window_exceeds_bound`: a store that is opened again under a smaller bound.

## Proof strategy

The stored window is a suffix of the confirmed reports, whatever is refused or killed. For the other
direction the object has to see the stored window as it is, which holds where requests are served.
-/
namespace CgwFota.Inventory

open Crash

/-! ### Eviction -/

theorem length_evict_le {maxEntries : Nat} (bounded : 0 < maxEntries)
    (entries : List DedupeEntry) : (evict maxEntries entries).length ≤ maxEntries := by
  induction entries with
  | nil => exact Nat.zero_le _
  | cons e rest ih =>
    unfold evict
    split
    next => exact ih
    next fits => omega

/-- What is left after adding an entry ends in that entry, and is a suffix of all. -/
theorem evict_snoc_suffix {log window : List DedupeEntry} (suffix : window <:+ log)
    (maxEntries : Nat) (e : DedupeEntry) :
    evict maxEntries (window ++ [e]) <:+ log ++ [e] := by
  obtain ⟨older, rfl⟩ := suffix
  apply (evict_suffix maxEntries (window ++ [e])).trans
  exact ⟨older, by rw [List.append_assoc]⟩

/-- The entry that was added last is the last one of what remains. -/
theorem getLast?_evict (maxEntries : Nat) (window : List DedupeEntry) (e : DedupeEntry) :
    (evict maxEntries (window ++ [e])).getLast? = some e := by
  obtain ⟨dropped, split⟩ := evict_suffix maxEntries (window ++ [e])
  have kept : evict maxEntries (window ++ [e]) ≠ [] :=
    List.ne_nil_of_mem (getLast_mem_evict maxEntries window e)
  have last := congrArg List.getLast? split
  rw [List.getLast?_append_of_ne_nil _ kept, List.getLast?_concat] at last
  exact last

section Window

variable [JsonText]

/-! ### Histories -/

/-- The entries of the stored window, none where it is missing or does not decode. -/
def windowAt (d : Disk) : List DedupeEntry :=
  match decoded decodeDedupe (d keys.DEDUPE) with
  | none => []
  | some window => window.entries

/-- The entry by which a recovery extended the stored window. -/
def confirmation (d d' : Disk) : List DedupeEntry :=
  if d' keys.DEDUPE = d keys.DEDUPE then [] else (windowAt d').getLast?.toList

/-- A call that only reads. -/
inductive Read where
  | loadSequence | loadLastSuccess | loadDedupe | loadActiveJob
  deriving DecidableEq, Repr

def Read.method : Read → Method
  | .loadSequence => .loadSequence
  | .loadLastSuccess => .loadLastSuccess
  | .loadDedupe => .loadDedupe
  | .loadActiveJob => .loadActiveJob

/-- What happens on one store root. The rest of the service and damage may put anything in the
place of the other keys, and nothing that decodes in that of the window. -/
inductive WindowOperation where
  | openStore (dedupeMaxEntries : UInt32) (dedupeTtlMs : Int64)
  | recover
  | read (read : Read)
  | rewrite (key : String) (value : Option Bytes)
      (unreadable : key = keys.DEDUPE → decoded decodeDedupe value = none)

/-- `recovered` tells whether `recover` has returned on the open object, and `confirmed` lists the
confirmed reports, oldest first. -/
structure WindowHistory where
  world : StoreWorld
  isOpen : Bool := false
  recovered : Bool := false
  confirmed : List DedupeEntry := []

def WindowHistory.start (d : Disk) : WindowHistory :=
  { world := { disk := d }, confirmed := windowAt d }

/-- An opening that throws leaves no object, and neither does a process that is killed. -/
def WindowHistory.perform (e : Surroundings) (h : WindowHistory) : WindowOperation → WindowHistory
  | .openStore dedupeMaxEntries dedupeTtlMs =>
    match openStore dedupeMaxEntries dedupeTtlMs e h.world with
    | .done (.ok object) w =>
      { world := { w with self := object }, isOpen := true, confirmed := h.confirmed }
    | .done (.error _) w => { world := w, confirmed := h.confirmed }
    | .crashed w => { world := w, confirmed := h.confirmed }
  | .recover =>
    if h.isOpen then
      match Inventory.recover e h.world with
      | .done r w =>
        { world := w
          isOpen := true
          recovered := h.recovered || r.isOk
          confirmed := h.confirmed ++ confirmation h.world.disk w.disk }
      | .crashed w =>
        { world := w, confirmed := h.confirmed ++ confirmation h.world.disk w.disk }
    else h
  | .read read =>
    if h.isOpen then
      match runMethod read.method e h.world with
      | .done _ w => { h with world := w }
      | .crashed w => { world := w, confirmed := h.confirmed }
    else h
  | .rewrite key value _ =>
    { h with
      world := { h.world with disk := fun k => if k = key then value else h.world.disk k } }

def runWindow (e : Surroundings) (h : WindowHistory) (ops : List WindowOperation) : WindowHistory :=
  ops.foldl (WindowHistory.perform e) h

/-! ### The law -/

/-- Once `recover` has returned, the window has no more entries than configured, and they are the
ones confirmed last, in their order. -/
def Bounded (e : Surroundings) (h : WindowHistory) : Prop :=
  h.recovered → wp loadDedupe
    (fun window _ => window.entries.length ≤ h.world.self.dedupeMaxEntries.toNat ∧
      window.entries <:+ h.confirmed)
    (fun _ => True) e h.world

instance {e : Surroundings} {h : WindowHistory} : Decidable (Bounded e h) :=
  inferInstanceAs (Decidable (_ → wp loadDedupe _ _ _ _))

/-- A recovery adds an entry to the window. -/
def Adds (object : FotaStateStore) (d : Disk) : Prop :=
  ¬Untrusted object d ∧
    ∃ job l, Due object d job l ∧ ¬(readDedupe object d).knows l.reportId l.snapshotSeq

/-- The stored window is within the bound, or this recovery is one that evicts. -/
def Roomy (e : Surroundings) (h : WindowHistory) : Prop :=
  h.isOpen → (windowAt h.world.disk).length ≤ h.world.self.dedupeMaxEntries.toNat ∨
    e.Calm ∧ Adds h.world.self h.world.disk

/-! ### The stored window -/

theorem windowAt_congr {d d' : Disk} (same : d' keys.DEDUPE = d keys.DEDUPE) :
    windowAt d' = windowAt d := by
  simp only [windowAt, same]

theorem windowAt_of_unreadable {d : Disk}
    (unreadable : decoded decodeDedupe (d keys.DEDUPE) = none) : windowAt d = [] := by
  simp only [windowAt, unreadable]

theorem windowAt_of_stored {d : Disk} {bytes : Bytes} {window : DedupeState}
    (stored : d keys.DEDUPE = some bytes) (read : decodeDedupe bytes = .ok window) :
    windowAt d = window.entries := by
  have stored := decoded_eq_some.mpr ⟨bytes, stored, read⟩
  simp only [windowAt, stored]

/-- The object reads the stored window or takes it for empty. -/
theorem entries_readDedupe (object : FotaStateStore) (d : Disk) :
    (readDedupe object d).entries = if object.dedupeAvailable then windowAt d else [] := by
  unfold readDedupe windowAt
  by_cases available : object.dedupeAvailable
  · simp only [if_pos available]
    cases decoded decodeDedupe (d keys.DEDUPE) with
    | none => rfl
    | some window => rfl
  · simp only [if_neg available]
    rfl

theorem entries_readDedupe_suffix {object : FotaStateStore} {d : Disk} {log : List DedupeEntry}
    (suffix : windowAt d <:+ log) : (readDedupe object d).entries <:+ log := by
  rw [entries_readDedupe]
  split
  · exact suffix
  · exact List.nil_suffix

theorem length_readDedupe_le (object : FotaStateStore) (d : Disk) :
    (readDedupe object d).entries.length ≤ (windowAt d).length := by
  rw [entries_readDedupe]
  split
  · exact Nat.le_refl _
  · exact Nat.zero_le _

variable {d d' : Disk} {object : FotaStateStore} {e : Surroundings} {w : StoreWorld}
  {h : WindowHistory}

/-! ### What the operations do to the window -/

/-- The window a recovery starts from. -/
structure StartsFrom (object : FotaStateStore) (d : Disk) (window : DedupeState) : Prop where
  current : window.schemaVersion = schema.DEDUPE_VERSION
  valid : window.Valid
  entries : window.entries = windowAt d ∨ window.entries = []
  maxEntries : window.maxEntries = object.dedupeMaxEntries

/-- What is read is a window a recovery may start from. -/
theorem startsFrom_readDedupe (object : FotaStateStore) (d : Disk) :
    StartsFrom object d (readDedupe object d) := by
  obtain ⟨current, valid⟩ := readDedupe_valid object d
  refine ⟨current, valid, ?_, ?_⟩
  · rw [entries_readDedupe]
    split
    · exact Or.inl rfl
    · exact Or.inr rfl
  · rcases readDedupe_cases object d with same | ⟨window, _, same⟩
    · rw [same]
      rfl
    · rw [same]

theorem CleansUp.startsFrom {e : Surroundings} {job : ActiveJobState} {l : LastSuccessState}
    {window : DedupeState} (cleans : CleansUp e object d job l window) :
    StartsFrom object d window := by
  rcases cleans.window with rfl | ⟨_, rfl⟩
  · exact startsFrom_readDedupe object d
  · exact ⟨rfl, nofun, Or.inr rfl, rfl⟩

/-- A recovery leaves the stored window or completes it for a job that is due. -/
theorem Recovers.window_cases {e : Surroundings} (recovers : Recovers e object d d') :
    d' keys.DEDUPE = d keys.DEDUPE ∨ ∃ job l window writtenAt, Due object d job l ∧
      StartsFrom object d window ∧
      d' keys.DEDUPE = some (encodeDedupe writtenAt (window.complete job l)) := by
  cases recovers with
  | untouched => exact Or.inl rfl
  | removed cleans known => exact Or.inl (Disk.remove_ne _ (by decide))
  | added cleans unknown writtenAt =>
    exact Or.inr ⟨_, _, _, writtenAt, cleans.due, cleans.startsFrom, Disk.put_self _ _ _⟩
  | addedRemoved cleans unknown writtenAt =>
    refine Or.inr ⟨_, _, _, writtenAt, cleans.due, cleans.startsFrom, ?_⟩
    rw [Disk.remove_ne _ (by decide), Disk.put_self]

/-- The object that comes of an opening has the bound of the call. -/
theorem wp_openStore_limit {dedupeMaxEntries : UInt32} {dedupeTtlMs : Int64} :
    wp (openStore dedupeMaxEntries dedupeTtlMs)
      (fun r _ => ∀ object, r = .ok object → object.dedupeMaxEntries = dedupeMaxEntries)
      (fun _ => True) e w := by
  unfold openStore
  rw [wp_bind]
  apply wp_mono wp_true _ fun _ => id
  rintro (x | _) w₁ _
  · rintro object ⟨⟩
  dsimp only
  -- the flags come from the four phases, the bounds from the call
  rw [wp_bind]
  refine wp_mono wp_true (fun _ w₂ _ => ?_) fun _ => id
  rw [wp_bind]
  refine wp_mono wp_true (fun _ w₃ _ => ?_) fun _ => id
  rw [wp_bind]
  refine wp_mono wp_true (fun _ w₄ _ => ?_) fun _ => id
  rw [wp_bind]
  refine wp_mono wp_true (fun _ w₅ _ => ?_) fun _ => id
  rintro object ⟨⟩
  rfl

/-- Reading changes neither the disk nor the bounds. -/
theorem wp_read_intact (intact : e.Intact) (read : Read) :
    wp (runMethod read.method)
      (fun _ w' => w'.disk = w.disk ∧ w'.self.emptyDedupe = w.self.emptyDedupe)
      (fun w' => w'.disk = w.disk) e w := by
  cases read with
  | loadSequence =>
    show wp (loadSequence >>= fun _ => pure ()) _ _ e w
    rw [wp_bind]
    exact wp_loadSequence_intact intact (fun _ _ _ => ⟨rfl, rfl⟩) fun _ => rfl
  | loadLastSuccess =>
    show wp (loadLastSuccess >>= fun _ => pure ()) _ _ e w
    rw [wp_bind]
    exact wp_loadLastSuccess_intact intact (fun _ _ looked _ => ⟨looked.disk, looked.less.empty⟩)
      fun _ looked => looked.disk
  | loadDedupe =>
    show wp (loadDedupe >>= fun _ => pure ()) _ _ e w
    rw [wp_bind]
    exact wp_loadDedupe_intact intact (fun _ _ disk bounds _ => ⟨disk, bounds⟩) fun _ disk => disk
  | loadActiveJob =>
    show wp (loadActiveJob >>= fun _ => pure ()) _ _ e w
    rw [wp_bind]
    exact wp_loadActiveJob_intact intact (fun _ _ looked _ => ⟨looked.disk, looked.less.empty⟩)
      fun _ looked => looked.disk

/-! ### Where every request is served -/

/-- The object sees the stored window as it is. -/
def Sees (object : FotaStateStore) (d : Disk) : Prop := (readDedupe object d).entries = windowAt d

theorem sees_of_available {object : FotaStateStore} {d : Disk}
    (available : ¬object.dedupeAvailable → windowAt d = []) : Sees object d := by
  unfold Sees
  rw [entries_readDedupe]
  by_cases flag : object.dedupeAvailable
  · rw [if_pos flag]
  · rw [if_neg flag, available flag]

/-- It still does after a step that leaves the window and what is read of it. -/
theorem Sees.of_same {object object' : FotaStateStore} {d d' : Disk} (sees : Sees object d)
    (stored : d' keys.DEDUPE = d keys.DEDUPE) (reads : SameReads d object object') :
    Sees object' d' := by
  unfold Sees
  rw [entries_readDedupe, windowAt_congr stored, ← entries_readDedupe, reads.dedupe]
  exact sees

theorem wp_recover_sees (calm : e.Calm) (sees : Sees w.self w.disk) :
    wp recover (fun _ w' => Sees w'.self w'.disk) (fun _ => False) e w := by
  apply wp_recover_cases calm
  · intro _ plan w' read _
    exact sees.of_same (by rw [read.disk]) read.reads
  · intro job l _ due plan w' writtenAt reads available disk
    by_cases known : (readDedupe w.self w.disk).knows l.reportId l.snapshotSeq
    · apply sees.of_same _ (reads known)
      rw [disk, cleanedUp, if_pos known, Disk.remove_ne _ (by decide)]
    · exact sees_of_available fun lost => absurd (available known) lost

/-- A recovery that adds nothing returns and leaves the window as it is. -/
theorem wp_recover_keeps (calm : e.Calm) (adds : ¬Adds w.self w.disk) :
    wp recover
      (fun r w' => r.isOk ∧ w'.disk keys.DEDUPE = w.disk keys.DEDUPE ∧
        SameReads w.disk w.self w'.self)
      (fun _ => False) e w := by
  apply wp_recover_cases calm
  · intro _ plan w' read _
    exact ⟨rfl, by rw [read.disk], read.reads⟩
  · intro job l trusted due plan w' writtenAt reads _ disk
    by_cases known : (readDedupe w.self w.disk).knows l.reportId l.snapshotSeq
    · refine ⟨rfl, ?_, reads known⟩
      rw [disk, cleanedUp, if_pos known, Disk.remove_ne _ (by decide)]
    · exact absurd ⟨trusted, job, l, due, known⟩ adds

/-- A read that is served only reads. -/
theorem wp_read_calm (calm : e.Calm) (read : Read) :
    wp (runMethod read.method) (fun _ w' => OnlyRead w w') (fun _ => False) e w := by
  cases read with
  | loadSequence =>
    show wp (loadSequence >>= fun _ => pure ()) _ _ e w
    rw [wp_bind]
    exact wp_loadSequence_calm calm fun _ read => read
  | loadLastSuccess =>
    show wp (loadLastSuccess >>= fun _ => pure ()) _ _ e w
    rw [wp_bind]
    exact wp_loadLastSuccess_calm calm fun _ read => read
  | loadDedupe =>
    show wp (loadDedupe >>= fun _ => pure ()) _ _ e w
    rw [wp_bind]
    exact wp_loadDedupe_calm calm fun _ read => read
  | loadActiveJob =>
    show wp (loadActiveJob >>= fun _ => pure ()) _ _ e w
    rw [wp_bind]
    exact wp_loadActiveJob_calm calm fun _ read => read

/-- What the open object sees holds in every history whose requests are served. -/
theorem sees_perform (calm : e.Calm) (sees : h.isOpen → Sees h.world.self h.world.disk)
    (op : WindowOperation) :
    (h.perform e op).isOpen → Sees (h.perform e op).world.self (h.perform e op).world.disk := by
  unfold WindowHistory.perform
  cases op with
  -- an opening sets the flag by what is stored
  | openStore dedupeMaxEntries dedupeTtlMs =>
    have runs : wp (openStore dedupeMaxEntries dedupeTtlMs)
        (fun r w => ∀ object, r = .ok object → Sees object w.disk) (fun _ => False) e h.world := by
      apply wp_openStore_calm calm
      rintro t₀ t₁ t₂ t₃ tick object ⟨⟩
      apply sees_of_available
      intro unavailable
      exact windowAt_of_unreadable (decoded_of_undecodable
        ((flagsFit_opened dedupeMaxEntries dedupeTtlMs t₀ t₁ t₂ t₃ h.world.disk).dedupe
          unavailable))
    unfold wp at runs
    dsimp only
    cases run : openStore dedupeMaxEntries dedupeTtlMs e h.world with
    | crashed w => exact nofun
    | done r w =>
      rw [run] at runs
      cases r with
      | error x => exact nofun
      | ok object => exact fun _ => runs object rfl
  -- a recovery that is called without an object does nothing
  | recover =>
    dsimp only
    by_cases isOpen : h.isOpen
    swap
    · rw [if_neg isOpen]
      exact sees
    rw [if_pos isOpen]
    have runs := wp_recover_sees calm (sees isOpen)
    unfold wp at runs
    cases run : recover e h.world with
    | crashed w => exact nofun
    | done r w =>
      rw [run] at runs
      exact fun _ => runs
  -- a read leaves the window and its flag
  | read read =>
    dsimp only
    by_cases isOpen : h.isOpen
    swap
    · rw [if_neg isOpen]
      exact sees
    rw [if_pos isOpen]
    have runs := wp_read_calm (w := h.world) calm read
    unfold wp at runs
    cases run : runMethod read.method e h.world with
    | crashed w => exact nofun
    | done r w =>
      rw [run] at runs
      exact fun _ => (sees isOpen).of_same (by rw [runs.disk]) runs.reads
  -- nothing that decodes is put in the place of the window
  | rewrite key value unreadable =>
    dsimp only
    intro isOpen
    by_cases window : keys.DEDUPE = key
    · apply sees_of_available
      intro _
      apply windowAt_of_unreadable
      rw [if_pos window]
      exact unreadable window.symm
    · have sees := sees isOpen
      unfold Sees at sees ⊢
      rw [entries_readDedupe] at sees ⊢
      rw [windowAt_congr (if_neg window)]
      exact sees

/-- A recovery that finds too many entries and adds none leaves them. -/
theorem roomy_of_bounded (calm : e.Calm) (sees : h.isOpen → Sees h.world.self h.world.disk)
    (bounded : Bounded e (h.perform e .recover)) : Roomy e h := by
  intro isOpen
  by_contra crowded
  obtain ⟨long, idle⟩ := not_or.mp crowded
  -- a recovery that adds nothing returns with the window it found
  have runs := wp_recover_keeps calm fun adds => idle ⟨calm, adds⟩
  unfold WindowHistory.perform at bounded
  dsimp only at bounded
  rw [if_pos isOpen] at bounded
  unfold wp at runs
  cases run : recover e h.world with
  | crashed w =>
    rw [run] at runs
    exact runs
  | done r w =>
    rw [run] at runs bounded
    obtain ⟨returned, stored, reads⟩ := runs
    have sees := (sees isOpen).of_same stored reads
    have loads := bounded (by simp [returned])
    -- and loading it afterwards shows it as it is
    have returns : wp loadDedupe (fun window _ => window = readDedupe w.self w.disk)
        (fun _ => False) e w :=
      wp_loadDedupe_calm calm fun _ _ => rfl
    have within : (readDedupe w.self w.disk).entries.length ≤ w.self.dedupeMaxEntries.toNat := by
      apply of_wp
      apply wp_mono (wp_and loads returns)
      · rintro window w' ⟨⟨short, _⟩, rfl⟩
        exact short
      · exact fun _ none => none.2.elim
    have same : w.self.dedupeMaxEntries = h.world.self.dedupeMaxEntries := by
      rw [← (startsFrom_readDedupe w.self h.world.disk).maxEntries, reads.dedupe,
        (startsFrom_readDedupe h.world.self h.world.disk).maxEntries]
    rw [sees, windowAt_congr stored, same] at within
    exact long within


/-! ### The invariant -/

/-- What holds in every history whose recoveries find room. -/
structure WindowInvariant (h : WindowHistory) : Prop where
  suffix : windowAt h.world.disk <:+ h.confirmed
  limit : h.isOpen → 0 < h.world.self.dedupeMaxEntries
  short : h.recovered →
    h.isOpen ∧ (windowAt h.world.disk).length ≤ h.world.self.dedupeMaxEntries.toNat

omit [JsonText] in
theorem limit_of_bounds {object object' : FotaStateStore}
    (bounds : object'.emptyDedupe = object.emptyDedupe) :
    object'.dedupeMaxEntries = object.dedupeMaxEntries :=
  congrArg DedupeState.maxEntries bounds

namespace WindowInvariant

/-- A read keeps the invariant. -/
theorem read (inv : WindowInvariant h) (intact : e.Intact) (read : Read) :
    WindowInvariant (h.perform e (.read read)) := by
  unfold WindowHistory.perform
  dsimp only
  by_cases isOpen : h.isOpen
  swap
  · rw [if_neg isOpen]
    exact inv
  rw [if_pos isOpen]
  have runs := wp_read_intact (w := h.world) intact read
  unfold wp at runs
  -- a read changes neither the disk nor the bound
  cases run : runMethod read.method e h.world with
  | crashed w =>
    rw [run] at runs
    exact ⟨by rw [runs]; exact inv.suffix, nofun, nofun⟩
  | done r w =>
    rw [run] at runs
    obtain ⟨disk, bounds⟩ := runs
    have same := limit_of_bounds bounds
    constructor
    · rw [disk]
      exact inv.suffix
    · intro isOpen
      rw [same]
      exact inv.limit isOpen
    · intro recovered
      rw [disk, same]
      exact inv.short recovered

/-- Damage to other keys, or of the window, keeps the invariant. -/
theorem rewrite (inv : WindowInvariant h) (key : String) (value : Option Bytes)
    (unreadable : key = keys.DEDUPE → decoded decodeDedupe value = none) :
    WindowInvariant (h.perform e (.rewrite key value unreadable)) := by
  let disk : Disk := fun k => if k = key then value else h.world.disk k
  show WindowInvariant { h with world := { h.world with disk } }
  have kept : windowAt disk = windowAt h.world.disk ∨ windowAt disk = [] := by
    -- the window is damaged or left alone
    by_cases window : keys.DEDUPE = key
    · right
      have stored : disk keys.DEDUPE = value := if_pos window
      apply windowAt_of_unreadable
      rw [stored]
      exact unreadable window.symm
    · exact Or.inl (windowAt_congr (if_neg window))
  refine ⟨?_, inv.limit, fun recovered => ⟨(inv.short recovered).1, ?_⟩⟩
  · rcases kept with same | lost
    · exact same ▸ inv.suffix
    · exact lost ▸ List.nil_suffix
  · rcases kept with same | lost
    · exact same ▸ (inv.short recovered).2
    · exact lost ▸ Nat.zero_le _

/-- What is loaded from a short window is short, also where the load fails. -/
theorem bounded (inv : WindowInvariant h) (intact : e.Intact) : Bounded e h := by
  intro recovered
  obtain ⟨_, short⟩ := inv.short recovered
  apply wp_loadDedupe_intact intact _ fun _ _ => trivial
  rintro window w' _ _ (rfl | ⟨_, rfl⟩)
  · exact ⟨Nat.le_trans (length_readDedupe_le _ _) short, entries_readDedupe_suffix inv.suffix⟩
  · exact ⟨Nat.zero_le _, List.nil_suffix⟩

end WindowInvariant

/-! ### Saved windows -/

section Lawful

variable [LawfulJsonText]

/-- A window that is saved reads back, or its text was too long for an envelope. -/
theorem windowAt_saved {window : DedupeState} {writtenAt : Int64}
    (current : window.schemaVersion = schema.DEDUPE_VERSION) (valid : window.Valid)
    (stored : d keys.DEDUPE = some (encodeDedupe writtenAt window)) :
    windowAt d = window.entries ∨ windowAt d = [] := by
  by_cases fits : dedupeFormat.Fits window
  · exact Or.inl (windowAt_of_stored stored
      (faithful_dedupe.decode_encode writtenAt current valid fits))
  · obtain ⟨x, rejected⟩ := dedupeFormat.decode_encode_long writtenAt fits
    refine Or.inr (windowAt_of_unreadable ?_)
    have rejected : decodeDedupe (encodeDedupe writtenAt window) = .error x := rejected
    simp [decoded, stored, rejected, Except.toOption]

/-- An opening keeps the entries, unless the migrated window no longer fits. -/
theorem Opens.windowAt (opens : Opens d d') :
    windowAt d' = windowAt d ∨ windowAt d' = [] := by
  obtain ⟨d₁, first, d₂, second, d₃, third, fourth⟩ := opens
  have before := (spared_by_phases first second third).2.1
  have after := (spares_of_phases second third fourth).2.2
  rw [windowAt_congr after.value]
  have own := @inventoryKey_ne_backup keys.DEDUPE (by decide)
  cases third with
  -- the value stays as it is
  | stays => exact Or.inl (windowAt_congr before.value)
  -- a backup lies under another key
  | backed stored older =>
    left
    rw [← windowAt_congr before.value]
    exact windowAt_congr (Disk.put_ne _ _ (own _))
  -- the window is written anew, and reads back if it fits
  | raised stored older read writtenAt =>
    obtain ⟨current, valid⟩ := sound_dedupe _ _ read
    rw [before.value] at stored
    rw [windowAt_of_stored stored read]
    exact windowAt_saved current valid (Disk.put_self _ _ _)

/-- A window that was completed and saved. -/
theorem windowAt_completed {job : ActiveJobState} {l : LastSuccessState} {window : DedupeState}
    (starts : StartsFrom object d window) (due : Due object d job l) {writtenAt : Int64}
    (stored : d' keys.DEDUPE = some (encodeDedupe writtenAt (window.complete job l))) :
    windowAt d' = (window.complete job l).entries ∨ windowAt d' = [] := by
  obtain ⟨_, success⟩ := readLastSuccess_eq_some.mp due.lastSuccess
  obtain ⟨bytes, _, read⟩ := decoded_eq_some.mp success
  exact windowAt_saved starts.current
    (starts.valid.complete (sound_lastSuccess bytes l read).2) stored

theorem length_completed_le {job : ActiveJobState} {l : LastSuccessState} {window : DedupeState}
    (starts : StartsFrom object d window) (due : Due object d job l)
    (limit : 0 < object.dedupeMaxEntries) {writtenAt : Int64}
    (stored : d' keys.DEDUPE = some (encodeDedupe writtenAt (window.complete job l))) :
    (windowAt d').length ≤ object.dedupeMaxEntries.toNat := by
  rcases windowAt_completed starts due stored with saved | lost
  · rw [saved, ← starts.maxEntries]
    apply length_evict_le
    rw [starts.maxEntries]
    exact UInt32.lt_iff_toNat_lt.mp limit
  · rw [lost]
    exact Nat.zero_le _

/-- However a recovery ends, what it confirmed is at the end of the window. -/
theorem Recovers.suffix {e : Surroundings} (recovers : Recovers e object d d')
    {log : List DedupeEntry} (before : windowAt d <:+ log) :
    windowAt d' <:+ log ++ confirmation d d' := by
  unfold confirmation
  by_cases same : d' keys.DEDUPE = d keys.DEDUPE
  · rw [if_pos same, windowAt_congr same, List.append_nil]
    exact before
  rw [if_neg same]
  rcases recovers.window_cases with same' | ⟨job, l, window, writtenAt, due, starts, stored⟩
  · exact absurd same' same
  rcases windowAt_completed starts due stored with saved | lost
  -- what is completed is a suffix of the log, and the new entry goes to the end of both
  · have started : window.entries <:+ log := by
      rcases starts.entries with all | none
      · exact all ▸ before
      · exact none ▸ List.nil_suffix
    rw [saved]
    unfold DedupeState.complete
    rw [getLast?_evict]
    exact evict_snoc_suffix started _ _
  · rw [lost]
    exact List.nil_suffix

/-- A window within the bound stays there. -/
theorem Recovers.short {e : Surroundings} (recovers : Recovers e object d d')
    (limit : 0 < object.dedupeMaxEntries)
    (before : (windowAt d).length ≤ object.dedupeMaxEntries.toNat) :
    (windowAt d').length ≤ object.dedupeMaxEntries.toNat := by
  rcases recovers.window_cases with same | ⟨job, l, window, writtenAt, due, starts, stored⟩
  · rwa [windowAt_congr same]
  · exact length_completed_le starts due limit stored

/-- A recovery that adds an entry brings the window within the bound. -/
theorem wp_recover_adds {e : Surroundings} (calm : e.Calm) {w : StoreWorld}
    (limit : 0 < w.self.dedupeMaxEntries) (adds : Adds w.self w.disk) :
    wp recover (fun _ w' => (windowAt w'.disk).length ≤ w.self.dedupeMaxEntries.toNat)
      (fun _ => False) e w := by
  obtain ⟨trusted, job, l, due, unknown⟩ := adds
  apply wp_recover_cases calm
  · exact fun idle => absurd due (idle job l trusted)
  · intro job' l' _ due' plan w' writtenAt _ _ disk
    obtain ⟨rfl, rfl⟩ := due.unique due'
    apply length_completed_le (startsFrom_readDedupe w.self w.disk) due limit
    rw [disk, cleanedUp, if_neg unknown, Disk.remove_ne _ (by decide), Disk.put_self]

/-! ### Steps of a history -/

namespace WindowInvariant

/-- An opening keeps the invariant, and with it the bound of the call. -/
theorem openStore (inv : WindowInvariant h) (intact : e.Intact) {dedupeMaxEntries : UInt32}
    {dedupeTtlMs : Int64} (limit : 0 < dedupeMaxEntries) :
    WindowInvariant (h.perform e (.openStore dedupeMaxEntries dedupeTtlMs)) := by
  have kept (disk : Disk) (opens : Opens h.world.disk disk) : windowAt disk <:+ h.confirmed := by
    rcases opens.windowAt with same | lost
    · rw [same]
      exact inv.suffix
    · rw [lost]
      exact List.nil_suffix
  -- whatever the opening ends in, the stored window is a suffix of the log
  have runs : wp (Inventory.openStore dedupeMaxEntries dedupeTtlMs)
      (fun r w => windowAt w.disk <:+ h.confirmed ∧
        ∀ object, r = .ok object → object.dedupeMaxEntries = dedupeMaxEntries)
      (fun w => windowAt w.disk <:+ h.confirmed ∧ True) e h.world :=
    wp_and (wp_openStore_intact intact (fun _ disk _ opens => kept disk opens)
      fun disk _ opens => kept disk opens) wp_openStore_limit
  unfold wp at runs
  unfold WindowHistory.perform
  dsimp only
  cases run : Inventory.openStore dedupeMaxEntries dedupeTtlMs e h.world with
  | crashed w =>
    rw [run] at runs
    exact ⟨runs.1, nofun, nofun⟩
  | done r w =>
    rw [run] at runs
    obtain ⟨suffix, limits⟩ := runs
    cases r with
    | error x => exact ⟨suffix, nofun, nofun⟩
    | ok object => exact ⟨suffix, fun _ => (limits object rfl).symm ▸ limit, nofun⟩

/-- A recovery that finds room keeps the invariant. -/
theorem recover (inv : WindowInvariant h) (intact : e.Intact) (roomy : Roomy e h) :
    WindowInvariant (h.perform e .recover) := by
  unfold WindowHistory.perform
  dsimp only
  by_cases isOpen : h.isOpen
  swap
  · rw [if_neg isOpen]
    exact inv
  rw [if_pos isOpen]
  have limit := inv.limit isOpen
  have recovers : wp Inventory.recover
      (fun _ w => Recovers e h.world.self h.world.disk w.disk ∧
        w.self.emptyDedupe = h.world.self.emptyDedupe)
      (fun w => Recovers e h.world.self h.world.disk w.disk) e h.world :=
    wp_recover_intact intact (fun _ _ recovers bounds => ⟨recovers, bounds⟩) fun _ recovers =>
      recovers
  have shrinks : wp Inventory.recover
      (fun _ w => (windowAt w.disk).length ≤ h.world.self.dedupeMaxEntries.toNat)
      (fun _ => True) e h.world := by
    -- the window was short before, or this recovery evicts
    rcases roomy isOpen with before | ⟨calm, adds⟩
    · exact wp_mono recovers (fun _ _ recovers => recovers.1.short limit before) fun _ _ => trivial
    · exact wp_mono (wp_recover_adds calm limit adds) (fun _ _ => id) fun _ _ => trivial
  have runs := wp_and recovers shrinks
  unfold wp at runs
  cases run : Inventory.recover e h.world with
  | crashed w =>
    rw [run] at runs
    exact ⟨runs.1.suffix inv.suffix, nofun, nofun⟩
  | done r w =>
    rw [run] at runs
    obtain ⟨⟨recovers, bounds⟩, short⟩ := runs
    have same := limit_of_bounds bounds
    refine ⟨recovers.suffix inv.suffix, fun _ => ?_, fun _ => ⟨rfl, ?_⟩⟩
    · exact same.symm ▸ limit
    · exact same.symm ▸ short

/-- One step of a history whose recoveries find room. -/
theorem perform (inv : WindowInvariant h) (intact : e.Intact) (op : WindowOperation)
    (limits : ∀ dedupeMaxEntries dedupeTtlMs, op = .openStore dedupeMaxEntries dedupeTtlMs →
      0 < dedupeMaxEntries)
    (roomy : op = .recover → Roomy e h) : WindowInvariant (h.perform e op) := by
  cases op with
  | openStore dedupeMaxEntries dedupeTtlMs => exact inv.openStore intact (limits _ _ rfl)
  | recover => exact inv.recover intact (roomy rfl)
  | read read => exact inv.read intact read
  | rewrite key value unreadable => exact inv.rewrite key value unreadable

end WindowInvariant

/-- On any store root, whatever requests are refused or kill the process, the window respects the
bound after every recovery if each recovery finds a window within the bound or adds an entry to it.
Where every request is served, it does so only then. -/
theorem dedupe_bounded_iff (intact : e.Intact) (d : Disk) (ops : List WindowOperation)
    (limits : ∀ dedupeMaxEntries dedupeTtlMs, .openStore dedupeMaxEntries dedupeTtlMs ∈ ops →
      0 < dedupeMaxEntries) :
    let reached := runWindow e (.start d)
    ((∀ past, past ++ [.recover] <+: ops → Roomy e (reached past)) →
      ∀ past, past <+: ops → Bounded e (reached past)) ∧
    (e.Calm → (∀ past, past <+: ops → Bounded e (reached past)) →
      ∀ past, past ++ [.recover] <+: ops → Roomy e (reached past)) := by
  intro reached
  have step (past : List WindowOperation) (op : WindowOperation) :
      reached (past ++ [op]) = (reached past).perform e op := List.foldl_concat ..
  constructor
  -- by induction the invariant holds, and with it the bound
  · intro roomy past inside
    have inv : WindowInvariant (reached past) := by
      -- by induction on what happened so far
      induction past using List.reverseRecOn with
      | nil => exact ⟨List.suffix_refl _, nofun, nofun⟩
      | append_singleton past op ih =>
        rw [step]
        apply (ih ((List.prefix_append _ _).trans inside)).perform intact op
        · rintro dedupeMaxEntries dedupeTtlMs rfl
          have member : WindowOperation.openStore dedupeMaxEntries dedupeTtlMs ∈
              past ++ [.openStore dedupeMaxEntries dedupeTtlMs] := by simp
          exact limits _ _ (inside.subset member)
        · rintro rfl
          exact roomy past inside
    exact inv.bounded intact
  -- conversely each recovery that ended bounded has found room
  · intro calm bounded past inside
    have sees :
        (reached past).isOpen → Sees (reached past).world.self (reached past).world.disk := by
      clear inside
      induction past using List.reverseRecOn with
      | nil => exact nofun
      | append_singleton past op ih =>
        rw [step]
        exact sees_perform calm ih op
    have after := bounded _ inside
    rw [step] at after
    exact roomy_of_bounded calm sees after

end Lawful

end Window

/-! ### A lowered bound -/

section Example

/-- A window with two reports, saved under a bound of two. -/
def twoReports : Disk :=
  letI := compactText
  let entries : List DedupeEntry := [{ reportId := "rpt-1" }, { reportId := "rpt-2" }]
  Disk.put (fun _ => none) keys.DEDUPE (encodeDedupe 0 { entries, maxEntries := 2 })

/-- The bound of two reports is kept for one of two. -/
theorem dedupe_bounded_twoReports :
    letI := compactText
    let reached := runWindow undisturbed (.start twoReports)
    undisturbed.Calm ∧
    ((∀ past, past ++ [.recover] <+: [.openStore 2 0, .recover] →
        Roomy undisturbed (reached past)) →
      ∀ past, past <+: [.openStore 2 0, .recover] → Bounded undisturbed (reached past)) ∧
    (undisturbed.Calm →
      (∀ past, past <+: [.openStore 2 0, .recover] → Bounded undisturbed (reached past)) →
      ∀ past, past ++ [.recover] <+: [.openStore 2 0, .recover] →
        Roomy undisturbed (reached past)) := by
  let := compactText
  have := lawful_compactText
  refine ⟨calm_undisturbed, dedupe_bounded_iff calm_undisturbed.intact twoReports _ ?_⟩
  rintro dedupeMaxEntries dedupeTtlMs member
  obtain ⟨rfl, rfl⟩ : dedupeMaxEntries = 2 ∧ dedupeTtlMs = 0 := by simpa using member
  decide

/-- The store is opened again under a bound of one, and recovery leaves both reports. -/
theorem window_exceeds_bound :
    letI := compactText
    undisturbed.Calm ∧
      ¬Bounded undisturbed (runWindow undisturbed (.start twoReports) [.openStore 1 0, .recover]) :=
  letI := compactText
  ⟨calm_undisturbed, by decide +kernel⟩

end Example

end CgwFota.Inventory
