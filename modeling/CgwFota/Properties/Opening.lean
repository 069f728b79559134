import CgwFota.Data.JsonText
import CgwFota.Inventory.Opening

/-!
# Opening preserves information

Wherever an opening stops, a key is unchanged, or its old value lies beside it as a backup and the
new value stands for the same state. The one exception is a state whose migrated text no longer fits
the length field: it is written all the same, and cannot be read again.

## Main definitions

* `Preserves`: what an opening may make of each key.
* `Migratable`: every old value that decodes still fits after its migration.
* `OpensSafely`: every opening preserves what was stored, and a second one changes nothing.

## Main result

* `opens_safely_iff`: a disk is opened safely exactly if it is migratable.

## Proof strategy

An opening goes through the keys one after the other, and no phase touches a key or a backup of
another one. So it is enough to look at a single phase, which leaves its key alone, writes the
backup, or writes the backup and then the new value. Conversely a quiet opening writes everything it
can decode, so whatever it preserves had to fit.
-/
namespace CgwFota.Inventory

open Crash

section Opening

variable [JsonText] {σ : Type} {format : Format σ} {key : String}

/-- The value of a key is unchanged, or it was raised to the current version with a backup. A value
that is newer or does not decode is never overwritten. -/
structure Format.Preserves (format : Format σ) (key : String) (d d' : Disk) : Prop where
  changed : d' key = d key ∨ ∃ old v s new, d key = some old ∧ format.Older old v ∧
    format.decode old = .ok s ∧ d' (backupKey key v) = some old ∧ d' key = some new ∧
    (∃ h, parseEnvelopeHeader new = .ok h ∧ h.schemaVersion = format.version) ∧
    format.decode new = .ok s
  refused : ∀ old, d key = some old →
    (∃ h, parseEnvelopeHeader old = .ok h ∧ h.schemaVersion > format.version) ∨
      (∀ s, format.decode old ≠ .ok s) → d' key = some old

/-- If the value is of an old version and decodes, the state still fits after its migration. -/
def Format.Migratable (format : Format σ) (key : String) (d : Disk) : Prop :=
  ∀ old v s, d key = some old → format.Older old v → format.decode old = .ok s → format.Fits s

/-- The same of all four keys of the inventory. -/
structure Preserves (d d' : Disk) : Prop where
  sequence : sequenceFormat.Preserves keys.SEQUENCE d d'
  lastSuccess : lastSuccessFormat.Preserves keys.LAST_SUCCESS d d'
  dedupe : dedupeFormat.Preserves keys.DEDUPE d d'
  activeJob : activeJobFormat.Preserves keys.ACTIVE_JOB d d'

/-- The same of all four keys. -/
structure Migratable (d : Disk) : Prop where
  sequence : sequenceFormat.Migratable keys.SEQUENCE d
  lastSuccess : lastSuccessFormat.Migratable keys.LAST_SUCCESS d
  dedupe : dedupeFormat.Migratable keys.DEDUPE d
  activeJob : activeJobFormat.Migratable keys.ACTIVE_JOB d

/-- Two openings that came back with the same flags. -/
def SameFlags : Except StoreException FotaStateStore → Except StoreException FotaStateStore → Prop
  | .ok object, .ok object' =>
    object'.sequenceBlocked = object.sequenceBlocked ∧
    object'.lastSuccessAvailable = object.lastSuccessAvailable ∧
    object'.dedupeAvailable = object.dedupeAvailable ∧
    object'.activeJobCorrupted = object.activeJobCorrupted
  | _, _ => False

/-- However an opening ends, it preserved what was stored; and where requests are served, opening
again changes nothing. -/
def OpensSafely (w : StoreWorld) : Prop :=
  ∀ e : Surroundings, e.Intact → ∀ dedupeMaxEntries dedupeTtlMs,
    wp (openStore dedupeMaxEntries dedupeTtlMs) (fun _ w' => Preserves w.disk w'.disk)
      (fun w' => Preserves w.disk w'.disk) e w ∧
    (e.Calm → wp (openStore dedupeMaxEntries dedupeTtlMs)
      (fun r w' => ∀ e' : Surroundings, e'.Calm → ∀ dedupeMaxEntries dedupeTtlMs,
        wp (openStore dedupeMaxEntries dedupeTtlMs)
          (fun r' w'' => w''.disk = w'.disk ∧ SameFlags r r') (fun _ => False) e' w')
      (fun _ => False) e w)

/-! ### One key -/

theorem Format.decode_newer {bytes : Bytes} {h : EnvelopeHeader} {s : σ}
    (header : parseEnvelopeHeader bytes = .ok h) (newer : h.schemaVersion > format.version) :
    format.decode bytes ≠ .ok s := by
  intro decoded
  obtain ⟨h', header', known, _⟩ := Format.decode_ok_iff.mp decoded
  rw [header] at header'
  cases header'
  exact UInt32.not_lt.mpr known newer

section Faithful

variable [LawfulJsonText] {Valid : σ → Prop} {d d₁ d₂ d' : Disk}

/-- The phase for a key, between others that leave the key and its backups alone. -/
theorem Format.Faithful.preserves (faithful : format.Faithful Valid) (sound : format.Sound Valid)
    (own : ∀ v, key ≠ backupKey key v) (migratable : format.Migratable key d)
    (before : Spares key d d₁) (leads : format.Leads key d₁ d₂) (after : Spares key d₂ d') :
    format.Preserves key d d' := by
  obtain ⟨before, _⟩ := before
  obtain ⟨after, backups⟩ := after
  cases leads with
  -- the key is not touched
  | stays =>
    exact ⟨Or.inl (after.trans before), fun _ stored _ => after.trans (before.trans stored)⟩
  -- only the backup is written
  | @backed old v stored older =>
    have same : d' key = d key := by rw [after, Disk.put_ne _ _ (own v), before]
    exact ⟨Or.inl same, fun _ stored _ => same.trans stored⟩
  -- backup and new value
  | @raised old v s stored older decoded writtenAt =>
    rw [before] at stored
    rw [Disk.put_self] at after
    have backup : d' (backupKey key v) = some old := by
      rw [backups, Disk.put_ne _ _ (own v).symm, Disk.put_self]
    rcases faithful.rewritten sound decoded writtenAt with ⟨_, back, current⟩ | ⟨long, _⟩
    · refine ⟨Or.inr ⟨old, v, s, _, stored, older, decoded, backup, after, current, back⟩, ?_⟩
      intro old' stored' unreadable
      rw [stored] at stored'
      cases stored'
      rcases unreadable with ⟨h, header, newer⟩ | unreadable
      · exact absurd decoded (Format.decode_newer header newer)
      · exact absurd decoded (unreadable s)
    · exact absurd (migratable old v s stored older decoded) long

/-- A value that was rewritten and preserved fits. -/
theorem Format.Faithful.fits_of_preserves (faithful : format.Faithful Valid)
    (sound : format.Sound Valid) {old : Bytes} {v : UInt32} {s : σ} {writtenAt : Int64}
    (stored : d key = some old) (older : format.Older old v) (decoded : format.decode old = .ok s)
    (preserves : format.Preserves key d d')
    (rewritten : d' key = some (format.encode writtenAt s)) : format.Fits s := by
  rcases faithful.rewritten sound decoded writtenAt with ⟨fits, _⟩ | ⟨_, x, broken⟩
  · exact fits
  -- the rewritten value is no envelope, so neither case of preservation can hold
  rcases preserves.changed with same | ⟨_, _, s', new, _, _, _, _, stored', ⟨h, header, _⟩, _⟩
  · rw [stored, rewritten] at same
    cases same
    obtain ⟨h, header, _⟩ := older
    rw [broken] at header
    cases header
  · rw [rewritten] at stored'
    cases stored'
    rw [broken] at header
    cases header

end Faithful

theorem Format.settle_raised {d : Disk} {old : Bytes} {v : UInt32} {s : σ} (writtenAt : Int64)
    (stored : d key = some old) (older : format.Older old v) (decoded : format.decode old = .ok s) :
    (format.settle key writtenAt d).1 key = some (format.encode writtenAt s) := by
  obtain ⟨h, header, rfl, below⟩ := older
  have notNewer : ¬h.schemaVersion > format.version := UInt32.lt_asymm below
  have notCurrent : h.schemaVersion ≠ format.version := UInt32.ne_of_lt below
  simp only [Format.settle, stored, header, if_neg notNewer, if_neg notCurrent, decoded,
    Disk.put_self]

/-! ### All keys -/

section Lawful

variable [LawfulJsonText] {d d' : Disk}

/-- An opening preserves every key if the old values fit after their migration. -/
theorem preserves_of_opens (migratable : Migratable d) (opens : Opens d d') : Preserves d d' := by
  obtain ⟨d₁, first, d₂, second, d₃, third, fourth⟩ := opens
  obtain ⟨sequence, lastSuccess, dedupe⟩ := spares_of_phases second third fourth
  obtain ⟨lastSuccess', dedupe', activeJob'⟩ := spared_by_phases first second third
  have own (key : String) (member : key ∈ inventoryKeys) := inventoryKey_ne_backup member
  constructor
  · exact faithful_sequence.preserves sound_sequence (own _ (by decide)) migratable.sequence .refl
      first sequence
  · exact faithful_lastSuccess.preserves sound_lastSuccess (own _ (by decide))
      migratable.lastSuccess lastSuccess' second lastSuccess
  · exact faithful_dedupe.preserves sound_dedupe (own _ (by decide)) migratable.dedupe dedupe'
      third dedupe
  · exact faithful_activeJob.preserves sound_activeJob (own _ (by decide)) migratable.activeJob
      activeJob' fourth .refl

/-- A quiet opening writes whatever it can decode, so what it preserves had to fit. -/
theorem migratable_of_opened {dedupeMaxEntries : UInt32} {dedupeTtlMs t₀ t₁ t₂ t₃ : Int64}
    (preserves : Preserves d (opened dedupeMaxEntries dedupeTtlMs t₀ t₁ t₂ t₃ d).2) :
    Migratable d := by
  obtain ⟨sequence, lastSuccess, dedupe⟩ := spares_of_phases (Format.settle_leads t₁ _)
    (Format.settle_leads t₂ _) (Format.settle_leads t₃ _)
  obtain ⟨lastSuccess', dedupe', activeJob'⟩ := spared_by_phases (Format.settle_leads t₀ d)
    (Format.settle_leads t₁ _) (Format.settle_leads t₂ _)
  constructor
  · intro old v s stored older decoded
    apply faithful_sequence.fits_of_preserves sound_sequence stored older decoded preserves.sequence
    exact sequence.value.trans (Format.settle_raised t₀ stored older decoded)
  · intro old v s stored older decoded
    apply faithful_lastSuccess.fits_of_preserves sound_lastSuccess stored older decoded
      preserves.lastSuccess
    exact lastSuccess.value.trans
      (Format.settle_raised t₁ (lastSuccess'.value.trans stored) older decoded)
  · intro old v s stored older decoded
    apply faithful_dedupe.fits_of_preserves sound_dedupe stored older decoded preserves.dedupe
    exact dedupe.value.trans (Format.settle_raised t₂ (dedupe'.value.trans stored) older decoded)
  · intro old v s stored older decoded
    apply faithful_activeJob.fits_of_preserves sound_activeJob stored older decoded
      preserves.activeJob
    exact Format.settle_raised t₃ (activeJob'.value.trans stored) older decoded

/-- A quiet opening is one of those that must preserve what was stored. -/
theorem migratable_of_opensSafely {w : StoreWorld} (safe : OpensSafely w) : Migratable w.disk := by
  have preserved := (safe undisturbed calm_undisturbed.intact 0 0).1
  apply of_wp
  have after : wp (openStore 0 0)
      (fun _ w' => ∃ t₀ t₁ t₂ t₃, w'.disk = (opened 0 0 t₀ t₁ t₂ t₃ w.disk).2)
      (fun _ => False) undisturbed w :=
    wp_openStore_calm calm_undisturbed fun t₀ t₁ t₂ t₃ _ => ⟨t₀, t₁, t₂, t₃, rfl⟩
  apply wp_mono (wp_and preserved after)
  · rintro r w' ⟨preserves, t₀, t₁, t₂, t₃, disk⟩
    rw [disk] at preserves
    exact migratable_of_opened preserves
  · exact fun w' h => h.2.elim

/-- Opening preserves information on exactly those disks whose old values still fit once they are
migrated. -/
theorem opens_safely_iff (w : StoreWorld) : OpensSafely w ↔ Migratable w.disk := by
  constructor
  · exact migratable_of_opensSafely
  intro migratable e intact dedupeMaxEntries dedupeTtlMs
  constructor
  -- whatever may happen while the store is opened
  · apply wp_openStore_intact intact
    · exact fun _ disk _ opens => preserves_of_opens migratable opens
    · exact fun disk _ opens => preserves_of_opens migratable opens
  -- and undisturbed, once more
  · intro calm
    apply wp_openStore_calm calm
    intro t₀ t₁ t₂ t₃ tick e' calm' dedupeMaxEntries' dedupeTtlMs'
    apply wp_openStore_calm calm'
    intro t₀' t₁' t₂' t₃' tick'
    have settled := opened_settled dedupeMaxEntries dedupeTtlMs t₀ t₁ t₂ t₃ w.disk
    rw [settled.opened]
    exact ⟨rfl, rfl, rfl, rfl, rfl⟩

end Lawful

end Opening

section Example

open Json.Compact

/-- A job with an error code of this text. -/
def wordyJob (code : String) : ActiveJobState := { lastErrorCode := code }

/-- The same job as version 1 wrote it, before there were fingerprints. -/
def wordyRecord (code : String) : Json :=
  .object
    [ ("attempt", .integer 0),
      ("idempotencyKey", .string ""),
      ("lastErrorCode", .string code),
      ("nextRetryAt", .integer 0),
      ("phase", .string "Accepted"),
      ("reason", .string "AutoStart"),
      ("reportId", .string ""),
      ("requestId", .string ""),
      ("schemaVersion", .integer 1),
      ("snapshotSeq", .integer 0) ]

/-- The job as JSON, with the members in the order in which they are written. -/
theorem wordyJob_eq (code : String) :
    activeJobToJson (wordyJob code) = .object
      [ ("attempt", .integer 0),
        ("fingerprints", unknownFingerprints),
        ("idempotencyKey", .string ""),
        ("lastErrorCode", .string code),
        ("nextRetryAt", .integer 0),
        ("phase", .string "Accepted"),
        ("reason", .string "AutoStart"),
        ("reportId", .string ""),
        ("requestId", .string ""),
        ("schemaVersion", .integer 2),
        ("snapshotSeq", .integer 0) ] := by
  simp [activeJobToJson, wordyJob, Json.ofMembers, Json.emplace, Json.keyBefore, Json.keyBefore.go,
    unknownFingerprints, versionNumber, jobPhaseToString, triggerReasonToString,
    schema.ACTIVE_JOB_VERSION]

theorem wordyRecord_migrated (code : String) :
    migrateActiveJob (wordyRecord code) 1 = .ok (activeJobToJson (wordyJob code)) := by
  rw [wordyJob_eq]
  simp [migrateActiveJob, setIfMissing, wordyRecord, Json.contains, Json.member?, Json.set,
    Json.assign, Json.keyBefore, Json.keyBefore.go, bind, Except.bind, Json.lookup_first,
    versionNumber, schema.ACTIVE_JOB_VERSION]

theorem canonical_wordyRecord (code : String) : (wordyRecord code).Canonical := by
  apply Json.Canonical.object
  · simp [Json.SortedKeys, Json.keyBefore, Json.keyBefore.go]
  · simp [Json.Canonical.string, Json.Canonical.integer]

/-- The lengths of both texts are those of a job without an error code, and the code. -/
theorem length_wordy (code : String) :
    (text (wordyRecord code)).length = 169 + (quoted code).length ∧
    (text (activeJobToJson (wordyJob code))).length = 296 + (quoted code).length := by
  have short : (quoted "").length = 2 := by decide +kernel
  have record : (text (wordyRecord "")).length = 171 := by decide +kernel
  have job : (text (activeJobToJson (wordyJob ""))).length = 298 := by decide +kernel
  rw [wordyJob_eq] at job ⊢
  simp only [wordyRecord, text, textMembers, List.isEmpty_cons, Bool.false_eq_true, if_false,
    List.length_append, List.length_cons, short] at record job ⊢
  omega

/-- The old record decodes, as long as it is an envelope at all. -/
theorem wordyRecord_decoded [JsonText] [LawfulJsonText] (code : String)
    (fits : (JsonText.dump (wordyRecord code)).length < 2 ^ 32) :
    let old := encodeEnvelope 0 1 (JsonText.dump (wordyRecord code))
    activeJobFormat.Older old 1 ∧ activeJobFormat.decode old = .ok (wordyJob code) := by
  obtain ⟨h, header, version, payload⟩ := parse_encodeEnvelope 0 1 fits
  have valid : (wordyJob code).Valid :=
    show ValidFingerprints {} from ⟨by simp, by simp, by simp, by simp⟩
  have below : ¬(1 : UInt32) ≥ activeJobFormat.version := by decide
  have steps : (activeJobFormat.version - 1).toNat = 1 := by decide
  have reread := LawfulJsonText.parse_dump (canonical_wordyRecord code)
  have written := LawfulJsonText.parse_dump (canonical_activeJobToJson (wordyJob code))
  refine ⟨⟨h, header, version, by decide⟩, Format.decode_ok_iff.mpr ⟨h, header, ?_⟩⟩
  rw [version, payload, steps]
  refine ⟨by decide, _, _, ?_, written, faithful_activeJob.tagged (wordyJob code),
    faithful_activeJob.read (wordyJob code) valid⟩
  have migrated : activeJobFormat.migrate (wordyRecord code) 1
      = .ok (activeJobToJson (wordyJob code)) :=
    wordyRecord_migrated code
  simp only [Format.migrateChain, Format.migratePayload, if_neg below, reread, bind_ok, migrated]
  rfl

/-- The old value of a job with this error code. -/
def wordyDisk (n : Nat) : Disk :=
  let empty : Disk := fun _ => none
  empty.put keys.ACTIVE_JOB (encodeEnvelope 0 1 (text (wordyRecord (repeated n))))

theorem wordyDisk_job (n : Nat) :
    wordyDisk n keys.ACTIVE_JOB = some (encodeEnvelope 0 1 (text (wordyRecord (repeated n)))) := by
  unfold wordyDisk
  exact Disk.put_self _ _ _

theorem wordyDisk_none (n : Nat) {key : String} (other : key ≠ keys.ACTIVE_JOB) :
    wordyDisk n key = none := by
  unfold wordyDisk
  exact Disk.put_ne _ _ other

/-- The record is older and decodes to the job, read and written by the compact text. -/
theorem wordyRecord_older {n : Nat} (fits : 171 + n < 2 ^ 32) :
    letI := compactText
    activeJobFormat.Older (encodeEnvelope 0 1 (text (wordyRecord (repeated n)))) 1 ∧
      activeJobFormat.decode (encodeEnvelope 0 1 (text (wordyRecord (repeated n)))) =
        .ok (wordyJob (repeated n)) := by
  obtain ⟨record, -⟩ := length_wordy (repeated n)
  have size : (quoted (repeated n)).length = n + 2 := length_quoted_repeated n
  have fits : (text (wordyRecord (repeated n))).length < 2 ^ 32 := by omega
  exact @wordyRecord_decoded compactText lawful_compactText _ fits

/-- Below the limit the disk can be migrated: the one old value is the record, and what it decodes
to is the job. -/
theorem wordyDisk_migratable {n : Nat} (after : 298 + n < 2 ^ 32) :
    letI := compactText
    Migratable (wordyDisk n) := by
  let := compactText
  obtain ⟨-, job⟩ := length_wordy (repeated n)
  have size : (quoted (repeated n)).length = n + 2 := length_quoted_repeated n
  have decoded := (@wordyRecord_older n (by omega)).2
  constructor
  -- neither number is stored
  · intro old v s stored
    rw [wordyDisk_none n (by decide)] at stored
    cases stored
  · intro old v s stored
    rw [wordyDisk_none n (by decide)] at stored
    cases stored
  -- nor the dedupe state
  · intro old v s stored
    rw [wordyDisk_none n (by decide)] at stored
    cases stored
  -- the job decodes to the one it was written from
  · intro old v s stored _ decoded'
    rw [wordyDisk_job] at stored
    cases stored
    obtain rfl : wordyJob (repeated n) = s := Except.ok.inj (decoded.symm.trans decoded')
    show (text (activeJobToJson (wordyJob (repeated n)))).length < 2 ^ 32
    omega

/-- What a quiet opening makes of the disk: the job is written in the current version, and the old
record is kept beside it. -/
theorem wordyDisk_opened (n : Nat) (t : Int64) (fits : 171 + n < 2 ^ 32) :
    letI := compactText
    (opened 0 0 t t t t (wordyDisk n)).2 keys.ACTIVE_JOB =
        some (activeJobFormat.encode t (wordyJob (repeated n))) ∧
      (opened 0 0 t t t t (wordyDisk n)).2 (backupKey keys.ACTIVE_JOB 1) =
        some (encodeEnvelope 0 1 (text (wordyRecord (repeated n)))) := by
  let := compactText
  obtain ⟨older, decoded⟩ := wordyRecord_older fits
  have idle : ∀ {σ : Type} (format : Format σ) (key : String), key ≠ keys.ACTIVE_JOB →
      (format.settle key t (wordyDisk n)).1 = wordyDisk n := by
    intro σ format key other
    simp only [Format.settle, wordyDisk_none n other]
  have spared : (opened 0 0 t t t t (wordyDisk n)).2 =
      (activeJobFormat.settle keys.ACTIVE_JOB t (wordyDisk n)).1 := by
    simp only [opened, idle sequenceFormat keys.SEQUENCE (by decide),
      idle lastSuccessFormat keys.LAST_SUCCESS (by decide),
      idle dedupeFormat keys.DEDUPE (by decide)]
  rw [spared]
  refine ⟨Format.settle_raised t (wordyDisk_job n) older decoded, ?_⟩
  obtain ⟨h, header, version, -⟩ := older
  have notNewer : ¬(1 : UInt32) > activeJobFormat.version := by decide
  have notCurrent : (1 : UInt32) ≠ activeJobFormat.version := by decide
  have apart : keys.ACTIVE_JOB ≠ backupKey keys.ACTIVE_JOB 1 :=
    inventoryKey_ne_backup (by decide) 1
  simp only [Format.settle, wordyDisk_job, header, version, if_neg notNewer, if_neg notCurrent,
    decoded, Disk.put_ne _ _ apart.symm, Disk.put_self]

/-- A job as version 1 wrote it is opened safely, and opening does migrate it. -/
theorem opens_safely_first_version :
    letI := compactText
    OpensSafely { disk := wordyDisk 3 } ∧
      (opened 0 0 7 7 7 7 (wordyDisk 3)).2 keys.ACTIVE_JOB =
        some (activeJobFormat.encode 7 (wordyJob (repeated 3))) ∧
      (opened 0 0 7 7 7 7 (wordyDisk 3)).2 (backupKey keys.ACTIVE_JOB 1) =
        wordyDisk 3 keys.ACTIVE_JOB := by
  let := compactText
  obtain ⟨raised, backed⟩ := wordyDisk_opened 3 7 (by decide)
  refine ⟨?_, raised, backed.trans (wordyDisk_job 3).symm⟩
  exact (@opens_safely_iff compactText lawful_compactText { disk := wordyDisk 3 }).mpr
    (wordyDisk_migratable (by decide))

/-- Between the two limits the record can be read before it is migrated and not afterwards. -/
theorem wordyDisk_unsafe {n : Nat} (before : 171 + n < 2 ^ 32) (after : 2 ^ 32 ≤ 298 + n) :
    letI := compactText
    ¬OpensSafely { disk := wordyDisk n } := by
  intro safe
  have migratable := @migratable_of_opensSafely compactText lawful_compactText _ safe
  obtain ⟨record, job⟩ := length_wordy (repeated n)
  have size : (quoted (repeated n)).length = n + 2 := length_quoted_repeated n
  have fits : (text (wordyRecord (repeated n))).length < 2 ^ 32 := by omega
  obtain ⟨older, decoded⟩ := @wordyRecord_decoded compactText lawful_compactText _ fits
  have grown : (text (activeJobToJson (wordyJob (repeated n)))).length < 2 ^ 32 :=
    @Migratable.activeJob compactText _ migratable _ 1 _ (wordyDisk_job n) older decoded
  omega

/-- An old record just below the limit grows beyond it and is overwritten by what cannot be read. -/
theorem grown_record_is_lost :
    letI := compactText
    ¬OpensSafely { disk := wordyDisk (2 ^ 32 - 200) } :=
  wordyDisk_unsafe (by decide) (by decide)

end Example

end CgwFota.Inventory
