import CgwFota.Inventory.Calm
import CgwFota.Inventory.Decoded

/-!
# Opening the store

Each of the four keys is checked in turn. A value of an old version is set aside and rewritten; a
phase for one key leaves the other keys and their backups alone. Where every request is served, what
a phase does is a function of the disk, and doing it again does nothing.

## Main definitions

* `Format.Leads`: how far the phase for one key may get, confirmed or not
* `Format.settle`: the disk and the flag after the phase, where all goes well
* `Format.Settled`: the phase for this key finds nothing to do
* `Opens`, `opened`, `AllSettled`: the same for all four keys

## Main results

* `wp_openStore_intact`: whatever is refused or killed, an opening gets no further than its writes
* `wp_openStore_calm`: where all goes well, an opening comes to `opened`
* `opened_settled`: after an opening there is nothing left to do
* `AllSettled.removeActiveJob`, `AllSettled.saveDedupe`: a recovery leaves nothing to do either

## Proof strategy

The keys are kept apart by their names, once for all (`inventoryKeys_apart`). A phase is treated for
any format and key: it reads its key and its backups only, so what it found settled stays settled
through the phases for the other keys.
-/
namespace CgwFota.Inventory

open Crash

/-! ### Keys -/

/-- Neither key is the other one, nor the place of its backups. -/
structure Apart (key other : String) : Prop where
  differs : other ≠ key
  backup : ∀ v, other ≠ backupKey key v
  place : ∀ v, backupKey other v ≠ key
  backups : ∀ v v', backupKey other v ≠ backupKey key v'

theorem toList_backupKey (key : String) (v : UInt32) :
    (backupKey key v).toList =
      "migration.backup.".toList ++ (key.toList ++ (".v" ++ toString v).toList) := by
  unfold backupKey
  rw [String.append_assoc, String.append_assoc, String.toList_append, String.toList_append]

/-- A key that begins otherwise than a backup is none. -/
theorem ne_backupKey {key other : String} (first : other.toList.take 1 ≠ ['m']) (v : UInt32) :
    other ≠ backupKey key v := by
  rintro rfl
  rw [toList_backupKey, List.take_append_of_le_length (by decide)] at first
  exact first (by decide)

/-- Keys that differ at the start have different backups. -/
theorem backupKey_ne {key other : String} {n : Nat} (long : n ≤ key.toList.length)
    (long' : n ≤ other.toList.length) (differ : other.toList.take n ≠ key.toList.take n)
    (v v' : UInt32) : backupKey other v ≠ backupKey key v' := by
  intro same
  have chars := congrArg String.toList same
  rw [toList_backupKey, toList_backupKey, List.append_cancel_left_eq] at chars
  have start := congrArg (List.take n) chars
  rw [List.take_append_of_le_length long, List.take_append_of_le_length long'] at start
  exact differ start

def inventoryKeys : List String := [keys.SEQUENCE, keys.LAST_SUCCESS, keys.DEDUPE, keys.ACTIVE_JOB]

/-- The keys differ in the first letter of their names. -/
theorem inventoryKeys_apart : ∀ key ∈ inventoryKeys, ∀ other ∈ inventoryKeys, other ≠ key →
    Apart key other := by
  have names : ∀ key ∈ inventoryKeys, 11 ≤ key.toList.length ∧ key.toList.take 1 ≠ ['m'] := by
    decide
  have letters : ∀ key ∈ inventoryKeys, ∀ other ∈ inventoryKeys, other ≠ key →
      other.toList.take 11 ≠ key.toList.take 11 := by
    decide
  intro key member other member' different
  obtain ⟨long, first⟩ := names key member
  obtain ⟨long', first'⟩ := names other member'
  exact ⟨different, ne_backupKey first', fun v => (ne_backupKey first v).symm,
    backupKey_ne long long' (letters key member other member' different)⟩

theorem inventoryKey_ne_backup {key : String} (member : key ∈ inventoryKeys) (v : UInt32) :
    key ≠ backupKey key v := by
  have first : ∀ key ∈ inventoryKeys, key.toList.take 1 ≠ ['m'] := by decide
  exact ne_backupKey (first key member) v

theorem Disk.put_eq_self {d : Disk} {k : String} {bytes : Bytes} :
    d.put k bytes = d ↔ d k = some bytes := by
  constructor
  · intro same
    rw [← same, Disk.put_self]
  · intro stored
    funext k'
    by_cases here : k' = k
    · rw [here, Disk.put_self, stored]
    · rw [Disk.put_ne d bytes here]

/-- The value of the key and its backups are what they were. -/
structure Spares (key : String) (d d' : Disk) : Prop where
  value : d' key = d key
  backups : ∀ v, d' (backupKey key v) = d (backupKey key v)

theorem Spares.refl {key : String} {d : Disk} : Spares key d d := ⟨rfl, fun _ => rfl⟩

theorem Spares.trans {key : String} {a b c : Disk} (first : Spares key a b)
    (second : Spares key b c) : Spares key a c :=
  ⟨second.value.trans first.value, fun v => (second.backups v).trans (first.backups v)⟩

theorem spares_put {key other : String} (apart : Apart other key) (d : Disk) (bytes : Bytes) :
    Spares key d (d.put other bytes) :=
  ⟨Disk.put_ne d bytes apart.differs, fun v => Disk.put_ne d bytes (apart.place v)⟩

theorem spares_remove {key other : String} (apart : Apart other key) (d : Disk) :
    Spares key d (d.remove other) :=
  ⟨Disk.remove_ne d apart.differs, fun v => Disk.remove_ne d (apart.place v)⟩

section Opening

variable [JsonText] {σ : Type} {format : Format σ} {key : String}

/-! ### One key -/

/-- The bytes are an envelope of this version, older than the current one. -/
def Format.Older (format : Format σ) (old : Bytes) (v : UInt32) : Prop :=
  ∃ h, parseEnvelopeHeader old = .ok h ∧ h.schemaVersion = v ∧ v < format.version

/-- How far the phase for one key may get, confirmed or not. -/
inductive Format.Leads (format : Format σ) (key : String) (d : Disk) : Disk → Prop
  | stays : Leads format key d d
  | backed {old : Bytes} {v : UInt32} (stored : d key = some old) (older : format.Older old v) :
      Leads format key d (d.put (backupKey key v) old)
  | raised {old : Bytes} {v : UInt32} {s : σ} (stored : d key = some old)
      (older : format.Older old v) (decoded : format.decode old = .ok s) (writtenAt : Int64) :
      Leads format key d ((d.put (backupKey key v) old).put key (format.encode writtenAt s))

/-- The phase for one key leaves all keys but its own and its backups alone. -/
theorem Format.Leads.frame {d d' : Disk} (leads : format.Leads key d d') {k : String}
    (other : k ≠ key) (backup : ∀ v, k ≠ backupKey key v) : d' k = d k := by
  cases leads with
  | stays => rfl
  | backed stored older => exact Disk.put_ne _ _ (backup _)
  | raised stored older decoded writtenAt =>
    rw [Disk.put_ne _ _ other, Disk.put_ne _ _ (backup _)]

/-- Another key and its backups are left alone. -/
theorem Format.Leads.spares {d d' : Disk} (leads : format.Leads key d d') {other : String}
    (apart : Apart key other) : Spares other d d' where
  value := leads.frame apart.differs apart.backup
  backups v := leads.frame (apart.place v) (apart.backups v)

section Intact

variable {e : Surroundings} {w : StoreWorld} {Q : Bool → StoreWorld → Prop} {C : StoreWorld → Prop}

/-- The migration of an old value gets no further than to the new value with its backup. -/
theorem wp_migrate_intact (intact : e.Intact) {old : Bytes} {v : UInt32}
    (stored : w.disk key = some old) (older : format.Older old v)
    (next : ∀ flag disk tick, format.Leads key w.disk disk → Q flag { w with disk, tick })
    (crash : ∀ disk tick, format.Leads key w.disk disk → C { w with disk, tick }) :
    wp (migrate key format.decode format.encode old v) Q C e w := by
  have backup : ∀ disk, disk = w.disk ∨ disk = w.disk.put (backupKey key v) old →
      format.Leads key w.disk disk := by
    rintro disk (rfl | rfl)
    · exact .stays
    · exact .backed stored older
  unfold migrate save load
  rw [wp_bind]
  apply wp_request_intact intact
  · dsimp only
    cases decoded : format.decode old with
    | error x => exact next _ _ _ (.backed stored older)
    | ok s =>
      -- the backup is there, and the new value may be
      have rewrite : ∀ disk, disk = w.disk.put (backupKey key v) old ∨
          disk =
            (w.disk.put (backupKey key v) old).put key (format.encode (e.clock (w.tick + 1)) s) →
          format.Leads key w.disk disk := by
        rintro disk (rfl | rfl)
        · exact .backed stored older
        · exact .raised stored older decoded _
      dsimp only
      rw [wp_bind, wp_nowMs, wp_bind]
      apply wp_request_intact intact
      · dsimp only
        rw [wp_bind]
        apply wp_request_intact intact
        · cases Disk.read _ _ key with
          | error x => exact next _ _ _ (rewrite _ (Or.inr rfl))
          | ok rewritten => exact next _ _ _ (rewrite _ (Or.inr rfl))
        · rintro _ x disk (rfl | rfl)
          · exact next _ _ _ (rewrite _ (Or.inr rfl))
          · exact next _ _ _ (rewrite _ (Or.inr rfl))
        · rintro disk (rfl | rfl)
          · exact crash _ _ (rewrite _ (Or.inr rfl))
          · exact crash _ _ (rewrite _ (Or.inr rfl))
      · exact fun _ x disk either => next _ _ _ (rewrite disk either)
      · exact fun disk either => crash _ _ (rewrite disk either)
  · exact fun _ x disk either => next _ _ _ (backup disk either)
  · exact fun disk either => crash _ _ (backup disk either)

variable (format) in
/-- The phase for one key gets no further than to a rewritten value with its backup. -/
theorem wp_migrateAndValidate_intact (intact : e.Intact)
    (next : ∀ flag disk tick, format.Leads key w.disk disk → Q flag { w with disk, tick })
    (crash : ∀ disk tick, format.Leads key w.disk disk → C { w with disk, tick }) :
    wp (migrateAndValidate key format.decode format.encode format.version) Q C e w := by
  have same : ∀ disk, disk = w.disk ∨ disk = id w.disk → format.Leads key w.disk disk := by
    rintro disk (rfl | rfl)
    · exact .stays
    · exact .stays
  unfold migrateAndValidate has load
  rw [wp_bind]
  apply wp_request_intact intact
  · dsimp only [id]
    cases (w.disk key).isSome with
    | false => exact next _ _ _ .stays
    | true =>
      dsimp only
      rw [wp_bind]
      apply wp_request_intact intact
      · dsimp only [id]
        cases read : w.disk.read e.missing key with
        | error x => exact next _ _ _ .stays
        | ok old =>
          have stored := Disk.eq_some_of_read read
          dsimp only
          cases header : parseEnvelopeHeader old with
          | error x => exact next _ _ _ .stays
          | ok h =>
            dsimp only
            by_cases newer : h.schemaVersion > format.version
            · rw [if_pos newer]
              exact next _ _ _ .stays
            rw [if_neg newer]
            by_cases current : h.schemaVersion = format.version
            · rw [if_pos current]
              exact next _ _ _ .stays
            · rw [if_neg current]
              have below : h.schemaVersion < format.version :=
                UInt32.lt_of_le_of_ne (UInt32.not_lt.mp newer) current
              exact wp_migrate_intact intact stored ⟨h, header, rfl, below⟩ next crash
      · exact fun _ x disk either => next _ _ _ (same disk either)
      · exact fun disk either => crash _ _ (same disk either)
  · exact fun _ x disk either => next _ _ _ (same disk either)
  · exact fun disk either => crash _ _ (same disk either)

end Intact

/-! ### One key where all goes well -/

/-- The disk after the phase for one key, and the corruption flag. -/
def Format.settle (format : Format σ) (key : String) (writtenAt : Int64) (d : Disk) : Disk × Bool :=
  match d key with
  | none => (d, false)
  | some old =>
    match parseEnvelopeHeader old with
    | .error _ => (d, true)
    | .ok h =>
      if h.schemaVersion > format.version then (d, true)
      else if h.schemaVersion = format.version then (d, rejects format.decode old)
      else
        let d := d.put (backupKey key h.schemaVersion) old
        match format.decode old with
        | .error _ => (d, true)
        | .ok s =>
          let new := format.encode writtenAt s
          (d.put key new, rejects format.decode new)

/-- How many effects the phase for one key has where all goes well. -/
def Format.duration (format : Format σ) (key : String) (d : Disk) : Nat :=
  match d key with
  | none => 1
  | some old =>
    match parseEnvelopeHeader old with
    | .error _ => 2
    | .ok h =>
      if h.schemaVersion ≥ format.version then 2
      else
        match format.decode old with
        | .error _ => 3
        | .ok _ => 6

variable (format) in
/-- The phase for one key, with its requests served. -/
theorem wp_migrateAndValidate_served {e : Surroundings} (intact : e.Intact) {w : StoreWorld}
    (served : ∀ n, w.tick ≤ n → n < w.tick + format.duration key w.disk → e.answer n = .served)
    {Q : Bool → StoreWorld → Prop} {C : StoreWorld → Prop}
    (next : ∀ writtenAt, Q (format.settle key writtenAt w.disk).2
      { w with
        disk := (format.settle key writtenAt w.disk).1
        tick := w.tick + format.duration key w.disk }) :
    wp (migrateAndValidate key format.decode format.encode format.version) Q C e w := by
  have answered (k : Nat) (within : k < format.duration key w.disk) :
      e.answer (w.tick + k) = .served :=
    served _ (Nat.le_add_right _ _) (by omega)
  clear served
  unfold Format.settle at next
  unfold Format.duration at answered next
  unfold migrateAndValidate has load
  cases stored : w.disk key with
  | none =>
    simp only [stored] at answered next
    rw [wp_bind, wp_request_served intact (by exact answered 0 (by omega))]
    simp only [id, stored, Option.isSome_none]
    exact next 0
  | some old =>
  simp only [stored] at answered next
  cases header : parseEnvelopeHeader old with
  | error x =>
    simp only [header] at answered next
    rw [wp_bind, wp_request_served intact (by exact answered 0 (by omega))]
    simp only [id, stored, Option.isSome_some]
    rw [wp_bind, wp_request_served intact (by exact answered 1 (by omega))]
    simp only [id, Disk.read, stored, header]
    exact next 0
  | ok h =>
  simp only [header] at answered next
  have reads (k : Nat) (read : k < 2) : e.answer (w.tick + k) = .served := by
    apply answered k
    split
    -- the key and its value are read
    · exact read
    · split
      · omega
      · omega
  rw [wp_bind, wp_request_served intact (by exact reads 0 (by omega))]
  simp only [id, stored, Option.isSome_some]
  rw [wp_bind, wp_request_served intact (by exact reads 1 (by omega))]
  simp only [id, Disk.read, stored, header]
  by_cases newer : h.schemaVersion > format.version
  · have known : h.schemaVersion ≥ format.version := UInt32.le_of_lt newer
    simp only [if_pos newer, if_pos known] at next ⊢
    exact next 0
  simp only [if_neg newer] at next ⊢
  by_cases current : h.schemaVersion = format.version
  · have known : h.schemaVersion ≥ format.version := UInt32.le_of_eq current.symm
    simp only [if_pos current, if_pos known] at next ⊢
    exact next 0
  have older : ¬h.schemaVersion ≥ format.version := fun known =>
    newer (UInt32.lt_of_le_of_ne known (Ne.symm current))
  simp only [if_neg current, if_neg older] at answered next ⊢
  -- the old value is set aside, and rewritten if it can be decoded
  unfold migrate save load
  cases decoded : format.decode old with
  | error x =>
    simp only [decoded] at answered next
    rw [wp_bind, wp_request_served intact (by exact answered 2 (by omega))]
    dsimp only
    exact next 0
  | ok s =>
  simp only [decoded] at answered next
  rw [wp_bind, wp_request_served intact (by exact answered 2 (by omega))]
  dsimp only
  rw [wp_bind, wp_nowMs, wp_bind, wp_request_served intact (by exact answered 4 (by omega))]
  dsimp only
  rw [wp_bind, wp_request_served intact (by exact answered 5 (by omega))]
  simp only [id, Disk.read, Disk.put_self]
  exact next _

variable (format) in
theorem wp_migrateAndValidate_calm {e : Surroundings} (calm : e.Calm) {w : StoreWorld}
    {Q : Bool → StoreWorld → Prop} {C : StoreWorld → Prop}
    (next : ∀ writtenAt tick, Q (format.settle key writtenAt w.disk).2
      { w with disk := (format.settle key writtenAt w.disk).1, tick }) :
    wp (migrateAndValidate key format.decode format.encode format.version) Q C e w :=
  wp_migrateAndValidate_served format calm.intact (fun n _ _ => calm.served n) fun t => next t _

/-- Where all goes well, the phase gets no further than it may. -/
theorem Format.settle_leads (writtenAt : Int64) (d : Disk) :
    format.Leads key d (format.settle key writtenAt d).1 := by
  unfold Format.settle
  cases stored : d key with
  | none => exact .stays
  | some old =>
  dsimp only
  cases header : parseEnvelopeHeader old with
  | error x => exact .stays
  | ok h =>
  dsimp only
  by_cases newer : h.schemaVersion > format.version
  · rw [if_pos newer]
    exact .stays
  rw [if_neg newer]
  by_cases current : h.schemaVersion = format.version
  · rw [if_pos current]
    exact .stays
  rw [if_neg current]
  have older : format.Older old h.schemaVersion :=
    ⟨h, header, rfl, UInt32.lt_of_le_of_ne (UInt32.not_lt.mp newer) current⟩
  cases decoded : format.decode old with
  | error x => exact .backed stored older
  | ok s => exact .raised stored older decoded writtenAt

/-! ### Doing it again -/

/-- The phase for this key finds nothing to do. -/
def Format.Settled (format : Format σ) (key : String) (d : Disk) (flag : Bool) : Prop :=
  ∀ writtenAt, format.settle key writtenAt d = (d, flag)

/-- What the phase for a key reads is the key and its backups. -/
theorem Format.Settled.frame {d d' : Disk} {flag : Bool} (settled : format.Settled key d flag)
    (own : ∀ v, key ≠ backupKey key v) (spares : Spares key d d') : format.Settled key d' flag := by
  obtain ⟨same, backups⟩ := spares
  intro writtenAt
  have before := settled writtenAt
  unfold Format.settle at before ⊢
  rw [same]
  cases stored : d key with
  | none =>
    rw [stored] at before
    simp_all
  | some old =>
  rw [stored] at before
  dsimp only at before ⊢
  cases header : parseEnvelopeHeader old with
  | error x =>
    rw [header] at before
    simp_all
  | ok h =>
  rw [header] at before
  dsimp only at before ⊢
  -- a value of the current version, or of a newer one, is not rewritten
  by_cases newer : h.schemaVersion > format.version
  · simp_all
  simp only [if_neg newer] at before ⊢
  by_cases current : h.schemaVersion = format.version
  · simp_all
  simp only [if_neg current] at before ⊢
  cases decoded : format.decode old with
  -- the backup is the one of this very value, so writing it again changes nothing
  | error x =>
    simp only [decoded, Prod.mk.injEq, Disk.put_eq_self] at before ⊢
    exact ⟨(backups _).trans before.1, before.2⟩
  | ok s =>
    simp only [decoded, Prod.mk.injEq] at before ⊢
    -- the rewritten value was there already, and so was its backup
    obtain ⟨disk, flag⟩ := before
    have new := congrFun disk key
    rw [Disk.put_self] at new
    have kept := congrFun disk (backupKey key h.schemaVersion)
    rw [Disk.put_ne _ _ (Ne.symm (own _)), Disk.put_self] at kept
    rw [Disk.put_eq_self.mpr ((backups _).trans kept.symm),
      Disk.put_eq_self.mpr (same.trans new.symm)]
    exact ⟨rfl, flag⟩

section Twice

variable [LawfulJsonText] {Valid : σ → Prop}

/-- A rewritten value reads back if its text fits, and is no envelope otherwise. -/
theorem Format.Faithful.rewritten (faithful : format.Faithful Valid) (sound : format.Sound Valid)
    {old : Bytes} {s : σ} (decoded : format.decode old = .ok s) (writtenAt : Int64) :
    (format.Fits s ∧ format.decode (format.encode writtenAt s) = .ok s ∧
      ∃ h, parseEnvelopeHeader (format.encode writtenAt s) = .ok h ∧
        h.schemaVersion = format.version) ∨
    ¬format.Fits s ∧ ∃ x, parseEnvelopeHeader (format.encode writtenAt s) = .error x := by
  obtain ⟨current, valid⟩ := sound old s decoded
  by_cases fits : format.Fits s
  · obtain ⟨h, header, version, _⟩ := parse_encodeEnvelope writtenAt (format.schemaVersion s) fits
    exact Or.inl ⟨fits, faithful.decode_encode writtenAt current valid fits, h, header,
      version.trans current⟩
  · exact Or.inr ⟨fits, parse_encodeEnvelope_long writtenAt (format.schemaVersion s) fits⟩

/-- After the phase for a key there is nothing left to do, and the flag stays what it was. -/
theorem Format.Faithful.settle_settled (faithful : format.Faithful Valid)
    (sound : format.Sound Valid) (own : ∀ v, key ≠ backupKey key v) (writtenAt : Int64) (d : Disk) :
    format.Settled key (format.settle key writtenAt d).1 (format.settle key writtenAt d).2 := by
  intro later
  generalize reached : format.settle key writtenAt d = after
  unfold Format.settle at reached
  cases stored : d key with
  | none =>
    rw [stored] at reached
    subst reached
    simp only [Format.settle, stored]
  | some old =>
  rw [stored] at reached
  dsimp only at reached
  cases header : parseEnvelopeHeader old with
  | error x =>
    rw [header] at reached
    subst reached
    simp only [Format.settle, stored, header]
  | ok h =>
  rw [header] at reached
  dsimp only at reached
  by_cases newer : h.schemaVersion > format.version
  · rw [if_pos newer] at reached
    subst reached
    simp only [Format.settle, stored, header, if_pos newer]
  rw [if_neg newer] at reached
  by_cases current : h.schemaVersion = format.version
  · rw [if_pos current] at reached
    subst reached
    simp only [Format.settle, stored, header, if_neg newer, if_pos current]
  rw [if_neg current] at reached
  cases decoded : format.decode old with
  | error x =>
    rw [decoded] at reached
    -- the value stays an old one, and its backup is there now
    subst reached
    have stored' : (d.put (backupKey key h.schemaVersion) old) key = some old := by
      rw [Disk.put_ne _ _ (own _), stored]
    simp only [Format.settle, stored', header, if_neg newer, if_neg current, decoded,
      Disk.put_eq_self.mpr (Disk.put_self d _ old)]
  | ok s =>
    rw [decoded] at reached
    subst reached
    -- what was written is of the current version, or cannot be read and is corrupt
    rcases faithful.rewritten sound decoded writtenAt with
      ⟨_, back, h', header', version⟩ | ⟨_, x, header'⟩
    · have same : ¬h'.schemaVersion > format.version := by
        rw [version]
        exact UInt32.lt_irrefl _
      simp only [Format.settle, Disk.put_self, header', if_neg same, if_pos version]
    · simp only [Format.settle, Disk.put_self, header', rejects, Format.decode_of_header header']

/-- A value that reads back as a current one is left as it is. -/
theorem Format.Faithful.encoded_settled (faithful : format.Faithful Valid) {d : Disk} {s : σ}
    {writtenAt : Int64} (current : format.schemaVersion s = format.version) (valid : Valid s)
    (fits : format.Fits s) (stored : d key = some (format.encode writtenAt s)) :
    format.Settled key d false := by
  intro later
  obtain ⟨h, header, version, _⟩ := parse_encodeEnvelope writtenAt (format.schemaVersion s) fits
  have header : parseEnvelopeHeader (format.encode writtenAt s) = .ok h := header
  have version := version.trans current
  have notNewer : ¬h.schemaVersion > format.version := by
    rw [version]
    exact UInt32.lt_irrefl _
  simp only [Format.settle, stored, header, if_neg notNewer, if_pos version, rejects,
    faithful.decode_encode writtenAt current valid fits]

end Twice

end Opening

/-! ### All four keys -/

section Open

variable [JsonText]

/-- How far an opening may get. -/
def Opens (d d' : Disk) : Prop :=
  ∃ d₁, sequenceFormat.Leads keys.SEQUENCE d d₁ ∧
  ∃ d₂, lastSuccessFormat.Leads keys.LAST_SUCCESS d₁ d₂ ∧
  ∃ d₃, dedupeFormat.Leads keys.DEDUPE d₂ d₃ ∧ activeJobFormat.Leads keys.ACTIVE_JOB d₃ d'

/-- What later phases leave of the keys before them. -/
theorem spares_of_phases {d₁ d₂ d₃ d' : Disk}
    (second : lastSuccessFormat.Leads keys.LAST_SUCCESS d₁ d₂)
    (third : dedupeFormat.Leads keys.DEDUPE d₂ d₃)
    (fourth : activeJobFormat.Leads keys.ACTIVE_JOB d₃ d') :
    Spares keys.SEQUENCE d₁ d' ∧ Spares keys.LAST_SUCCESS d₂ d' ∧ Spares keys.DEDUPE d₃ d' := by
  have apart (key other : String) (member : key ∈ inventoryKeys) (member' : other ∈ inventoryKeys)
      (differs : other ≠ key) := inventoryKeys_apart key member other member' differs
  refine ⟨?_, ?_, ?_⟩
  -- the keys of the later phases are other keys
  · have spared := second.spares (apart _ keys.SEQUENCE (by decide) (by decide) (by decide))
    have spared := spared.trans (third.spares (apart _ _ (by decide) (by decide) (by decide)))
    exact spared.trans (fourth.spares (apart _ _ (by decide) (by decide) (by decide)))
  · have spared := third.spares (apart _ keys.LAST_SUCCESS (by decide) (by decide) (by decide))
    exact spared.trans (fourth.spares (apart _ _ (by decide) (by decide) (by decide)))
  · exact fourth.spares (apart _ _ (by decide) (by decide) (by decide))

/-- What the phases before it leave of a later key. -/
theorem spared_by_phases {d d₁ d₂ d₃ : Disk} (first : sequenceFormat.Leads keys.SEQUENCE d d₁)
    (second : lastSuccessFormat.Leads keys.LAST_SUCCESS d₁ d₂)
    (third : dedupeFormat.Leads keys.DEDUPE d₂ d₃) :
    Spares keys.LAST_SUCCESS d d₁ ∧ Spares keys.DEDUPE d d₂ ∧ Spares keys.ACTIVE_JOB d d₃ := by
  have apart (key other : String) (member : key ∈ inventoryKeys) (member' : other ∈ inventoryKeys)
      (differs : other ≠ key) := inventoryKeys_apart key member other member' differs
  refine ⟨?_, ?_, ?_⟩
  · exact first.spares (apart _ _ (by decide) (by decide) (by decide))
  · have spared := first.spares (apart _ keys.DEDUPE (by decide) (by decide) (by decide))
    exact spared.trans (second.spares (apart _ _ (by decide) (by decide) (by decide)))
  · have spared := first.spares (apart _ keys.ACTIVE_JOB (by decide) (by decide) (by decide))
    have spared := spared.trans (second.spares (apart _ _ (by decide) (by decide) (by decide)))
    exact spared.trans (third.spares (apart _ _ (by decide) (by decide) (by decide)))

variable {e : Surroundings} {w : StoreWorld}
  {Q : Except StoreException FotaStateStore → StoreWorld → Prop} {C : StoreWorld → Prop}

/-- An opening gets no further than its phases do, one after the other. -/
theorem wp_openStore_intact (intact : e.Intact) {dedupeMaxEntries : UInt32} {dedupeTtlMs : Int64}
    (next : ∀ r disk tick, Opens w.disk disk → Q r { w with disk, tick })
    (crash : ∀ disk tick, Opens w.disk disk → C { w with disk, tick }) :
    wp (openStore dedupeMaxEntries dedupeTtlMs) Q C e w := by
  have nothing : Opens w.disk w.disk := ⟨_, .stays, _, .stays, _, .stays, .stays⟩
  unfold openStore openFramework
  rw [wp_bind]
  apply wp_request_intact intact
  · dsimp only
    -- each phase ends the opening where its process is killed
    rw [wp_bind]
    apply wp_migrateAndValidate_intact sequenceFormat intact
    · intro seqCorrupted d₁ tick₁ leads₁
      rw [wp_bind]
      apply wp_migrateAndValidate_intact lastSuccessFormat intact
      · intro lastSuccessCorrupted d₂ tick₂ leads₂
        rw [wp_bind]
        apply wp_migrateAndValidate_intact dedupeFormat intact
        · intro dedupeCorrupted d₃ tick₃ leads₃
          rw [wp_bind]
          apply wp_migrateAndValidate_intact activeJobFormat intact
          · exact fun _ d₄ _ leads₄ => next _ _ _ ⟨d₁, leads₁, d₂, leads₂, d₃, leads₃, leads₄⟩
          · exact fun d₄ _ leads₄ => crash _ _ ⟨d₁, leads₁, d₂, leads₂, d₃, leads₃, leads₄⟩
        · exact fun d₃ _ leads₃ => crash _ _ ⟨d₁, leads₁, d₂, leads₂, d₃, leads₃, .stays⟩
      · exact fun d₂ _ leads₂ => crash _ _ ⟨d₁, leads₁, d₂, leads₂, d₂, .stays, .stays⟩
    · exact fun d₁ _ leads₁ => crash _ _ ⟨d₁, leads₁, d₁, .stays, d₁, .stays, .stays⟩
  · rintro _ x disk (rfl | rfl)
    · exact next _ _ _ nothing
    · exact next _ _ _ nothing
  · rintro disk (rfl | rfl)
    · exact crash _ _ nothing
    · exact crash _ _ nothing

/-- The object and the disk after an opening where all goes well; the clock is read once for each
value that is rewritten. -/
def opened (dedupeMaxEntries : UInt32) (dedupeTtlMs : Int64) (t₀ t₁ t₂ t₃ : Int64) (d : Disk) :
    FotaStateStore × Disk :=
  let sequence := sequenceFormat.settle keys.SEQUENCE t₀ d
  let lastSuccess := lastSuccessFormat.settle keys.LAST_SUCCESS t₁ sequence.1
  let dedupe := dedupeFormat.settle keys.DEDUPE t₂ lastSuccess.1
  let activeJob := activeJobFormat.settle keys.ACTIVE_JOB t₃ dedupe.1
  ({ dedupeMaxEntries
     dedupeTtlMs
     sequenceBlocked := sequence.2
     lastSuccessAvailable := !lastSuccess.2
     dedupeAvailable := !dedupe.2
     activeJobCorrupted := activeJob.2 }, activeJob.1)

/-- An opening that is served comes to `opened`. -/
theorem wp_openStore_calm (calm : e.Calm) {dedupeMaxEntries : UInt32} {dedupeTtlMs : Int64}
    (next : ∀ t₀ t₁ t₂ t₃ tick, Q (.ok (opened dedupeMaxEntries dedupeTtlMs t₀ t₁ t₂ t₃ w.disk).1)
      { w with disk := (opened dedupeMaxEntries dedupeTtlMs t₀ t₁ t₂ t₃ w.disk).2, tick }) :
    wp (openStore dedupeMaxEntries dedupeTtlMs) Q C e w := by
  unfold openStore openFramework
  rw [wp_bind, wp_request_served calm.intact (calm.served _)]
  dsimp only [id]
  rw [wp_bind]
  apply wp_migrateAndValidate_calm sequenceFormat calm
  intro t₀ _
  rw [wp_bind]
  apply wp_migrateAndValidate_calm lastSuccessFormat calm
  intro t₁ _
  rw [wp_bind]
  apply wp_migrateAndValidate_calm dedupeFormat calm
  intro t₂ _
  rw [wp_bind]
  apply wp_migrateAndValidate_calm activeJobFormat calm
  intro t₃ tick
  exact next t₀ t₁ t₂ t₃ tick

/-- Nothing is left to do for any of the keys, and these are the flags. -/
structure AllSettled (d : Disk) (object : FotaStateStore) : Prop where
  sequence : sequenceFormat.Settled keys.SEQUENCE d object.sequenceBlocked
  lastSuccess : lastSuccessFormat.Settled keys.LAST_SUCCESS d (!object.lastSuccessAvailable)
  dedupe : dedupeFormat.Settled keys.DEDUPE d (!object.dedupeAvailable)
  activeJob : activeJobFormat.Settled keys.ACTIVE_JOB d object.activeJobCorrupted

/-- After an opening nothing is left to do for any of the keys. -/
theorem opened_settled [LawfulJsonText] (dedupeMaxEntries : UInt32) (dedupeTtlMs : Int64)
    (t₀ t₁ t₂ t₃ : Int64) (d : Disk) :
    AllSettled (opened dedupeMaxEntries dedupeTtlMs t₀ t₁ t₂ t₃ d).2
      (opened dedupeMaxEntries dedupeTtlMs t₀ t₁ t₂ t₃ d).1 := by
  have own (key : String) (member : key ∈ inventoryKeys) := inventoryKey_ne_backup member
  obtain ⟨seq, last, window⟩ := spares_of_phases (Format.settle_leads t₁ _)
    (Format.settle_leads t₂ _) (Format.settle_leads t₃ _)
  unfold opened
  constructor
  -- each key was settled by its own phase, and spared by the later ones
  · exact (faithful_sequence.settle_settled sound_sequence (own _ (by decide)) t₀ d).frame
      (own _ (by decide)) seq
  · rw [Bool.not_not]
    exact (faithful_lastSuccess.settle_settled sound_lastSuccess (own _ (by decide)) t₁ _).frame
      (own _ (by decide)) last
  · rw [Bool.not_not]
    exact (faithful_dedupe.settle_settled sound_dedupe (own _ (by decide)) t₂ _).frame
      (own _ (by decide)) window
  · exact faithful_activeJob.settle_settled sound_activeJob (own _ (by decide)) t₃ _

theorem AllSettled.opened {d : Disk} {object : FotaStateStore} (settled : AllSettled d object)
    (dedupeMaxEntries : UInt32) (dedupeTtlMs : Int64) (t₀ t₁ t₂ t₃ : Int64) :
    opened dedupeMaxEntries dedupeTtlMs t₀ t₁ t₂ t₃ d =
      ({ object with dedupeMaxEntries, dedupeTtlMs }, d) := by
  unfold Inventory.opened
  simp only [settled.sequence _, settled.lastSuccess _, settled.dedupe _, settled.activeJob _,
    Bool.not_not]

/-! ### What an opening would find later -/

variable {d : Disk} {object : FotaStateStore}

/-- Removing the job leaves nothing to do for the other keys, nor for its own. -/
theorem AllSettled.removeActiveJob (settled : AllSettled d object) :
    AllSettled (d.remove keys.ACTIVE_JOB) { object with activeJobCorrupted := false } := by
  have apart (key : String) (member : key ∈ inventoryKeys) (other : key ≠ keys.ACTIVE_JOB) :=
    inventoryKeys_apart keys.ACTIVE_JOB (by decide) key member other
  have own (key : String) (member : key ∈ inventoryKeys) := inventoryKey_ne_backup member
  constructor
  · exact settled.sequence.frame (own _ (by decide))
      (spares_remove (apart _ (by decide) (by decide)) d)
  · exact settled.lastSuccess.frame (own _ (by decide))
      (spares_remove (apart _ (by decide) (by decide)) d)
  · exact settled.dedupe.frame (own _ (by decide))
      (spares_remove (apart _ (by decide) (by decide)) d)
  · intro writtenAt
    simp [Format.settle, Disk.remove]

/-- Saving a window that can be decoded leaves nothing to do. -/
theorem AllSettled.saveDedupe [LawfulJsonText] (settled : AllSettled d object)
    {window : DedupeState}
    (current : window.schemaVersion = schema.DEDUPE_VERSION) (valid : window.Valid)
    (fits : dedupeFormat.Fits window) (writtenAt : Int64) :
    AllSettled (d.put keys.DEDUPE (encodeDedupe writtenAt window))
      { object with dedupeAvailable := true } := by
  have apart (key : String) (member : key ∈ inventoryKeys) (other : key ≠ keys.DEDUPE) :=
    inventoryKeys_apart keys.DEDUPE (by decide) key member other
  have own (key : String) (member : key ∈ inventoryKeys) := inventoryKey_ne_backup member
  constructor
  · exact settled.sequence.frame (own _ (by decide))
      (spares_put (apart _ (by decide) (by decide)) d _)
  · exact settled.lastSuccess.frame (own _ (by decide))
      (spares_put (apart _ (by decide) (by decide)) d _)
  · exact faithful_dedupe.encoded_settled current valid fits (Disk.put_self d _ _)
  · exact settled.activeJob.frame (own _ (by decide))
      (spares_put (apart _ (by decide) (by decide)) d _)

end Open

end CgwFota.Inventory
