import CgwFota.Data.JsonText
import CgwFota.Inventory.Decoded

/-!
# Decoding and migrating is a retraction

A decoded state is a valid state of the current version and keeps what its bytes carried, from
whichever version they were written in. It comes back from its own encoding exactly if its text fits
the length field of the header, which is cut to 32 bits without a check.

## Main definitions

* `Format.Decoded`: what is asked of a decoded state.
* `Format.RetractsIfFits`: decoding undoes encoding exactly on the states that fit.

## Main results

* `inventory_formats_retract`: all four formats of the inventory do.
* `verbose_job_is_not_read_back`: a valid job that does not fit.

## Proof strategy

The general part is the same for all formats and uses only that a format is faithful. What is left
for each of them is that its steps of migration keep the members its fields are read from.
-/
namespace CgwFota.Inventory

open JsonText (dump)

section Retraction

variable [JsonText] {σ : Type}

/-- A decoded state is a valid state of the current version, with the values its bytes carried. -/
structure Format.Decoded (format : Format σ) (Valid : σ → Prop)
    (Carried : UInt32 → Json → σ → Prop) (bytes : Bytes) (s : σ) : Prop where
  current : format.schemaVersion s = format.version
  valid : Valid s
  carried : ∃ v j, Holds bytes v j ∧ Carried v j s

/-- Decoding undoes encoding exactly on the states that fit, the decoded ones among them. -/
structure Format.RetractsIfFits (format : Format σ) (Valid : σ → Prop)
    (Carried : UInt32 → Json → σ → Prop) : Prop where
  encoded : ∀ (writtenAt : Int64) s, format.schemaVersion s = format.version → Valid s →
    (format.decode (format.encode writtenAt s) = .ok s ↔ format.Fits s)
  decoded : ∀ bytes s, format.decode bytes = .ok s →
    format.Decoded Valid Carried bytes s ∧
      ∀ writtenAt : Int64, format.decode (format.encode writtenAt s) = .ok s ↔ format.Fits s

variable [StrictJsonText] {format : Format σ} {Valid : σ → Prop}
  {Carried : UInt32 → Json → σ → Prop}

/-- A faithful format retracts, once its decoded states are known to be valid. -/
theorem Format.Faithful.retracts (faithful : format.Faithful Valid)
    (decoded : ∀ bytes s, format.decode bytes = .ok s → format.Decoded Valid Carried bytes s) :
    format.RetractsIfFits Valid Carried where
  encoded writtenAt _ current valid := faithful.decode_encode_iff writtenAt current valid
  decoded bytes s read := by
    have whole := decoded bytes s read
    exact ⟨whole, fun writtenAt => faithful.decode_encode_iff writtenAt whole.current whole.valid⟩

/-- Where every step of migration keeps all members but these. -/
theorem Format.decode_kept {dropped : List String}
    (climb : ∀ v j j', j.Canonical → format.migrate j v = .ok j' → Step dropped j j')
    {bytes : Bytes} {s : σ} (read : format.decode bytes = .ok s) :
    ∃ v j j', Holds bytes v j ∧ Kept dropped j j' ∧ format.fields format.version j' = .ok s := by
  apply Format.decode_ok (R := fun _ => Kept dropped) (fun j => .refl dropped j) _ read
  intro v _ j j' canonical done
  have step := climb v j j' canonical done
  exact ⟨step.canonical, fun _ kept => step.kept.trans kept⟩

theorem decodeSequence_ok (bytes : Bytes) (s : SequenceState)
    (read : decodeSequence bytes = .ok s) :
    sequenceFormat.Decoded SequenceState.Valid (fun _ => CarriesSequence) bytes s := by
  obtain ⟨v, j, j', held, kept, fields⟩ :=
    Format.decode_kept (fun v _ _ => migrateSequence_step (v := v)) read
  obtain ⟨current, carried⟩ := sequenceFields_ok fields
  exact ⟨current, trivial, v, j, held,
    { highestAllocated := kept.carries (by simp) carried.highestAllocated
      updatedAt := kept.carries (by simp) carried.updatedAt }⟩

/-- A decoded last success is valid and carries its snapshot. -/
theorem decodeLastSuccess_ok (bytes : Bytes) (s : LastSuccessState)
    (read : decodeLastSuccess bytes = .ok s) :
    lastSuccessFormat.Decoded LastSuccessState.Valid (fun _ => CarriesLastSuccess) bytes s := by
  obtain ⟨v, j, j', held, kept, fields⟩ :=
    Format.decode_kept (fun _ _ _ => migrateLastSuccess_step) read
  obtain ⟨current, valid, carried⟩ := lastSuccessFields_ok fields
  exact ⟨current, valid, v, j, held,
    { reportId := kept.carries (by simp) carried.reportId
      snapshotSeq := kept.carries (by simp) carried.snapshotSeq
      completedAt := kept.carries (by simp) carried.completedAt
      registryVersion := kept.carries (by simp) carried.registryVersion
      overallResult := kept.carries (by simp) carried.overallResult
      fingerprints := kept.carries (by simp) carried.fingerprints
      snapshot := kept.carries (by simp) carried.snapshot }⟩

/-- A decoded job is valid and carries its members. -/
theorem decodeActiveJob_ok (bytes : Bytes) (s : ActiveJobState)
    (read : decodeActiveJob bytes = .ok s) :
    activeJobFormat.Decoded ActiveJobState.Valid (fun _ => CarriesActiveJob) bytes s := by
  obtain ⟨v, j, j', held, kept, fields⟩ :=
    Format.decode_kept (fun _ _ _ => migrateActiveJob_step) read
  obtain ⟨current, valid, carried⟩ := activeJobFields_ok fields
  exact ⟨current, valid, v, j, held,
    { requestId := kept.carries (by simp) carried.requestId
      reportId := kept.carries (by simp) carried.reportId
      snapshotSeq := kept.carries (by simp) carried.snapshotSeq
      reason := kept.carries (by simp) carried.reason
      phase := kept.carries (by simp) carried.phase
      attempt := kept.carries (by simp) carried.attempt
      nextRetryAt := kept.carries (by simp) carried.nextRetryAt
      lastErrorCode := kept.carries (by simp) carried.lastErrorCode
      idempotencyKey := kept.carries (by simp) carried.idempotencyKey
      fingerprints := kept.carries (by simp) carried.fingerprints }⟩

/-- A decoded dedupe state is valid and carries its entries, its bound and its window. -/
theorem decodeDedupe_ok (bytes : Bytes) (s : DedupeState) (read : decodeDedupe bytes = .ok s) :
    dedupeFormat.Decoded DedupeState.Valid CarriesDedupe bytes s := by
  obtain ⟨v, j, j', held, kept, fields⟩ := Format.decode_ok (R := DedupeKept)
    (fun j => .refl_of_pos (by decide)) (by
      intro v below j j' canonical done
      have known : v = 0 ∨ v = 1 := by
        have bound : v.toNat < 2 := UInt32.lt_iff_toNat_lt.mp below
        simp only [← UInt32.toNat_inj]
        show v.toNat = 0 ∨ v.toNat = 1
        omega
      -- the first step renames the bound, the second one replaces the fingerprints of the entries
      rcases known with rfl | rfl
      · obtain ⟨canonical', kept⟩ := migrateDedupe_first canonical done
        exact ⟨canonical', fun _ rest => kept.trans rest⟩
      · obtain ⟨canonical', kept⟩ := migrateDedupe_second canonical done
        exact ⟨canonical', fun _ rest => kept.trans rest⟩) read
  obtain ⟨current, valid, entries, maxEntries, ttlMs⟩ := dedupeFields_ok fields
  refine ⟨current, valid, v, j, held, ?_⟩
  constructor
  -- the entries, the bound under either name and the window are those that were stored
  · intro list stored
    obtain ⟨list', stored', items⟩ := kept.entries list stored
    exact carriesEntries_of_kept items (entries list' stored')
  · exact kept.kept.carries (by simp) maxEntries
  · exact fun first absent size stored => maxEntries size (kept.maxSize first absent size stored)
  · exact kept.kept.carries (by simp) ttlMs

/-- Each of the four formats retracts its bytes onto its valid states of the current version, as
long as the text of the state fits the envelope, and not otherwise. -/
theorem inventory_formats_retract :
    sequenceFormat.RetractsIfFits SequenceState.Valid (fun _ => CarriesSequence) ∧
    lastSuccessFormat.RetractsIfFits LastSuccessState.Valid (fun _ => CarriesLastSuccess) ∧
    dedupeFormat.RetractsIfFits DedupeState.Valid CarriesDedupe ∧
    activeJobFormat.RetractsIfFits ActiveJobState.Valid (fun _ => CarriesActiveJob) :=
  ⟨faithful_sequence.retracts decodeSequence_ok, faithful_lastSuccess.retracts decodeLastSuccess_ok,
    faithful_dedupe.retracts decodeDedupe_ok, faithful_activeJob.retracts decodeActiveJob_ok⟩

end Retraction

section Example

/-- With texts that are parsed strictly. -/
theorem inventory_formats_retract_strict :
    letI := strictText
    sequenceFormat.RetractsIfFits SequenceState.Valid (fun _ => CarriesSequence) ∧
    lastSuccessFormat.RetractsIfFits LastSuccessState.Valid (fun _ => CarriesLastSuccess) ∧
    dedupeFormat.RetractsIfFits DedupeState.Valid CarriesDedupe ∧
    activeJobFormat.RetractsIfFits ActiveJobState.Valid (fun _ => CarriesActiveJob) :=
  @inventory_formats_retract strictText strict_strictText

/-- A job whose error code alone fills the length field. -/
def verboseJob : ActiveJobState := { lastErrorCode := Json.Compact.repeated (2 ^ 32) }

theorem verboseJob_long : ¬@Format.Fits ActiveJobState strictText activeJobFormat verboseJob := by
  have stored : (activeJobToJson verboseJob).member? "lastErrorCode"
      = some (.string verboseJob.lastErrorCode) := by
    simp only [activeJobToJson, Json.member?_ofMembers, Json.lookup_first]
    simp
  have size := Json.Compact.length_quoted_repeated (2 ^ 32)
  have inside : (Json.Compact.quoted (Json.Compact.repeated (2 ^ 32))).length ≤ _ :=
    Json.Compact.length_text_member? stored
  rw [size] at inside
  exact Nat.not_lt.mpr (Nat.le_trans (Nat.le_add_right _ 2) inside)

/-- A valid job of the current version that does not come back from its own encoding. -/
theorem verbose_job_is_not_read_back :
    letI := strictText
    verboseJob.schemaVersion = schema.ACTIVE_JOB_VERSION ∧ verboseJob.Valid ∧
      decodeActiveJob (encodeActiveJob 0 verboseJob) ≠ .ok verboseJob := by
  have unknown : verboseJob.Valid :=
    show ValidFingerprints {} from ⟨by simp, by simp, by simp, by simp⟩
  refine ⟨rfl, unknown, fun back => verboseJob_long ?_⟩
  have law := @Format.Faithful.decode_encode_iff ActiveJobState strictText activeJobFormat
    strict_strictText.toLawfulJsonText _ faithful_activeJob 0 verboseJob rfl unknown
  exact law.mp back

end Example

end CgwFota.Inventory
