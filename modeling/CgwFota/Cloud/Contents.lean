import CgwFota.Cloud.Course

/-!
# What there is to migrate

The earlier records as they are decoded, the records that take over their fields, and the plan of
the migration in these terms.

## Main definitions

* `LegacyStore`: the earlier records that are there and can be decoded
* `LegacyStore.records`: the new records in the order in which they are written, and
  `LegacyStore.Has`, where each of them comes from
* `Decodes`: every earlier key that is there can be decoded

## Main results

* `planned_of_decodes`: where everything decodes, the plan is these records
* `decodes_of_planned`: where there is a plan, everything decodes
* `rereads_iff`: the second reading succeeds exactly if the records it reads fit into an envelope

## Proof strategy

A part carries over the value of its key, converted (`carried_eq`), so the loop over the parts is
the concatenation of what they carry. The watermarks are the one thing that two parts supply; the
later of them counts.
-/
namespace CgwFota.Cloud

open Crash
open Inventory (Bytes Thrown Disk bind_ok)

/-- The earlier records. -/
structure LegacyStore where
  vehicleTask : Option LegacyVehicleTask := none
  inventory : Option LegacyInventory := none
  consent : Option LegacyConsent := none
  downloads : Option LegacyDownloads := none
  execution : Option LegacyExecution := none
  eventOutbox : Option LegacyEventOutbox := none
  controls : Option LegacyControls := none
  policy : Option LegacyPolicy := none
  logJobs : Option LegacyLogJobs := none

namespace LegacyStore

variable (old : LegacyStore)

/-- The watermarks of the outbox, else those of the execution, else the defaults. -/
def outboxMeta : FotaEventOutboxMeta :=
  match old.eventOutbox, old.execution with
  | some outbox, _ => outbox.outboxMeta
  | none, some execution => execution.outboxMeta
  | none, none => {}

def downloadEntries : List LegacyDownloadEntry := old.downloads.toList.flatMap (·.entries)

def eventEntries : List LegacyEventOutboxEntry := old.eventOutbox.toList.flatMap (·.entries)

def controlEntries : List LegacyControlEntry := old.controls.toList.flatMap (·.entries)

def logJobEntries : List LegacyLogJobEntry := old.logJobs.toList.flatMap (·.entries)

/-- The new records of all entries, apart from the watermarks. -/
def firstRecords : List Write :=
  (old.vehicleTask.toList.map fun r => ⟨.vehicleTask, r.migrate⟩) ++
  (old.inventory.toList.map fun r => ⟨.inventory, r.migrate⟩) ++
  (old.consent.toList.map fun r => ⟨.consent, r.migrate⟩) ++
  (old.downloadEntries.map fun e => ⟨.download, e.migrate⟩) ++
  (old.execution.toList.map fun r => ⟨.execution, r.migrate⟩) ++
  (old.eventEntries.map fun e => ⟨.event, e.migrate⟩)

def lastRecords : List Write :=
  (old.controlEntries.map fun e => ⟨.control, e.migrate⟩) ++
  (old.policy.toList.map fun r => ⟨.policy, r.migrate⟩) ++
  (old.logJobEntries.map fun e => ⟨.logJob, e.migrate⟩)

def records : List Write :=
  old.firstRecords ++ ⟨.eventOutboxMeta, old.outboxMeta⟩ :: old.lastRecords

/-- Where a new record comes from. -/
inductive Has : Write → Prop
  | vehicleTask {r : LegacyVehicleTask} (there : old.vehicleTask = some r) :
    Has ⟨.vehicleTask, r.migrate⟩
  | inventory {r : LegacyInventory} (there : old.inventory = some r) : Has ⟨.inventory, r.migrate⟩
  | consent {r : LegacyConsent} (there : old.consent = some r) : Has ⟨.consent, r.migrate⟩
  | download {e : LegacyDownloadEntry} (member : e ∈ old.downloadEntries) :
    Has ⟨.download, e.migrate⟩
  | execution {r : LegacyExecution} (there : old.execution = some r) : Has ⟨.execution, r.migrate⟩
  | event {e : LegacyEventOutboxEntry} (member : e ∈ old.eventEntries) : Has ⟨.event, e.migrate⟩
  | outboxMeta : Has ⟨.eventOutboxMeta, old.outboxMeta⟩
  | control {e : LegacyControlEntry} (member : e ∈ old.controlEntries) : Has ⟨.control, e.migrate⟩
  | policy {r : LegacyPolicy} (there : old.policy = some r) : Has ⟨.policy, r.migrate⟩
  | logJob {e : LegacyLogJobEntry} (member : e ∈ old.logJobEntries) : Has ⟨.logJob, e.migrate⟩

variable {old}

/-- A record is among the new ones if and only if it comes from one of the earlier records. -/
theorem mem_records {r : Write} : r ∈ old.records ↔ old.Has r := by
  constructor
  · intro member
    simp only [records, firstRecords, lastRecords, List.mem_append, List.mem_cons, List.mem_map,
      Option.mem_toList] at member
    rcases member with (((((⟨a, there, rfl⟩ | ⟨a, there, rfl⟩) | ⟨a, there, rfl⟩) |
      ⟨a, there, rfl⟩) | ⟨a, there, rfl⟩) | ⟨a, there, rfl⟩) | rfl |
      (⟨a, there, rfl⟩ | ⟨a, there, rfl⟩) | ⟨a, there, rfl⟩
    · exact .vehicleTask there
    · exact .inventory there
    · exact .consent there
    · exact .download there
    · exact .execution there
    · exact .event there
    · exact .outboxMeta
    · exact .control there
    · exact .policy there
    · exact .logJob there
  · intro has
    simp only [records, firstRecords, lastRecords, List.mem_append, List.mem_cons, List.mem_map,
      Option.mem_toList]
    cases has with
    | vehicleTask there => exact .inl (.inl (.inl (.inl (.inl (.inl ⟨_, there, rfl⟩)))))
    | inventory there => exact .inl (.inl (.inl (.inl (.inl (.inr ⟨_, there, rfl⟩)))))
    | consent there => exact .inl (.inl (.inl (.inl (.inr ⟨_, there, rfl⟩))))
    | download member => exact .inl (.inl (.inl (.inr ⟨_, member, rfl⟩)))
    | execution there => exact .inl (.inl (.inr ⟨_, there, rfl⟩))
    | event member => exact .inl (.inr ⟨_, member, rfl⟩)
    | outboxMeta => exact .inr (.inl rfl)
    | control member => exact .inr (.inr (.inl (.inl ⟨_, member, rfl⟩)))
    | policy there => exact .inr (.inr (.inl (.inr ⟨_, there, rfl⟩)))
    | logJob member => exact .inr (.inr (.inr ⟨_, member, rfl⟩))

/-- Every new record is of the current version. -/
theorem Has.current {r : Write} (has : old.Has r) :
    r.kind.codec.schemaVersion r.record = r.kind.codec.version := by
  cases has with
  | outboxMeta =>
    show old.outboxMeta.schemaVersion = _
    unfold LegacyStore.outboxMeta
    split <;> rfl
  | _ => rfl

/-- There is at most one record of each kind that is read again. -/
theorem Has.unique {r r' : Write} (has : old.Has r) (has' : old.Has r') (same : r.kind = r'.kind)
    (again : ⟨r.kind, r.kind.idOf r.record⟩ ∈ rechecked) : r = r' := by
  obtain ⟨k, x⟩ := r
  obtain ⟨k', x'⟩ := r'
  dsimp only at same
  subst same
  have one {α : Type} {o : Option α} {a b : α} (there : o = some a) (there' : o = some b) : a = b :=
    Option.some.inj (there.symm.trans there')
  -- the kinds that are read again come from one earlier record each
  cases k with
  | vehicleTask =>
    cases has with
    | vehicleTask there =>
      cases has' with
      | vehicleTask there' => rw [one there there']
  | inventory =>
    cases has with
    | inventory there =>
      cases has' with
      | inventory there' => rw [one there there']
  | consent =>
    cases has with
    | consent there =>
      cases has' with
      | consent there' => rw [one there there']
  | execution =>
    cases has with
    | execution there =>
      cases has' with
      | execution there' => rw [one there there']
  | policy =>
    cases has with
    | policy there =>
      cases has' with
      | policy there' => rw [one there there']
  | eventOutboxMeta =>
    cases has
    cases has'
    rfl
  -- the other kinds are not read again
  | download | event | control | logJob => simp [rechecked] at again

end LegacyStore

section Contents

variable [JsonText]

/-- The decoded value under a key, if there is one. -/
def oldValue {α : Type} (key : String) (decode : Bytes → Except Thrown α) (d : Disk) : Option α :=
  (d key).bind fun bytes => (decode bytes).toOption

def legacyStore (d : Disk) : LegacyStore where
  vehicleTask := oldValue OLD_VEHICLE_TASK decodeLegacyVehicleTask d
  inventory := oldValue OLD_INVENTORY decodeLegacyInventory d
  consent := oldValue OLD_CONSENT decodeLegacyConsent d
  downloads := oldValue OLD_DOWNLOADS decodeLegacyDownloads d
  execution := oldValue OLD_EXECUTION decodeLegacyExecution d
  eventOutbox := oldValue OLD_EVENT_OUTBOX decodeLegacyEventOutbox d
  controls := oldValue OLD_CONTROLS decodeLegacyControls d
  policy := oldValue OLD_POLICY decodeLegacyPolicy d
  logJobs := oldValue OLD_LOG_JOBS decodeLegacyLogJobs d

/-- Every earlier key that is there can be decoded. -/
def Decodes (d : Disk) : Prop :=
  ∀ part ∈ firstParts ++ lastParts, ∃ carried, part.read d = .ok carried

/-! ### Parts -/

/-- What a part carries over where it can be decoded. -/
def Part.carried (part : Part) (d : Disk) : Carried :=
  match part.read d with
  | .ok carried => carried
  | .error _ => { records := [] }

variable {d : Disk} {part : Part}

omit [JsonText] in
/-- A part that decodes and converts carries over the converted value, if there is one. -/
theorem carried_eq {α : Type} (part : Part) {decode : Bytes → Except Thrown α}
    {convert : α → Carried} (shape : ∀ bytes, part.carry bytes = (decode bytes).map convert) :
    part.carried d = ((oldValue part.key decode d).map convert).getD { records := [] } := by
  unfold Part.carried Part.read oldValue
  cases stored : d part.key with
  | none => rfl
  | some bytes =>
    dsimp only
    rw [shape]
    cases decoded : decode bytes with
    | error x => simp [Except.map, Except.toOption, decoded]
    | ok a => simp [Except.map, Except.toOption, decoded]

omit [JsonText] in
/-- What is carried over where every part can be decoded. -/
theorem loop_carriedOver {parts : List Part}
    (read : ∀ part ∈ parts, ∃ carried, part.read d = .ok carried)
    (p : Progress) :
    loop (carriedOver d) parts p =
      ((parts.flatMap fun part => (part.carried d).records).map .write,
        .ok
          { outboxMeta :=
              parts.foldl (fun m part => (part.carried d).outboxMeta.getD m) p.outboxMeta
            written :=
              p.written + (parts.flatMap fun part => (part.carried d).records).length }) := by
  induction parts generalizing p with
  | nil => rfl
  | cons part parts ih =>
    obtain ⟨carried, here⟩ := read part List.mem_cons_self
    have rest := ih fun part member => read part (List.mem_cons_of_mem _ member)
    have first : part.carried d = carried := by
      unfold Part.carried
      rw [here]
    have step : carriedOver d p part = (carried.records.map .write, .ok
        { outboxMeta := carried.outboxMeta.getD p.outboxMeta
          written := p.written + carried.records.length }) := by
      unfold carriedOver
      rw [here]
    -- the first part carries what it carries, and the others go on from there
    unfold loop
    rw [step]
    dsimp only
    rw [rest]
    simp [first, Nat.add_assoc]

omit [JsonText] in
/-- A loop that comes to its end has decoded every part. -/
theorem read_of_loop {parts : List Part} (p : Progress) {p' : Progress}
    (done : (loop (carriedOver d) parts p).2 = .ok p') :
    ∀ part ∈ parts, ∃ carried, part.read d = .ok carried := by
  induction parts generalizing p with
  | nil => simp
  | cons part parts ih =>
    unfold loop carriedOver at done
    cases here : part.read d with
    | error x =>
      rw [here] at done
      cases done
    | ok carried =>
      rw [here] at done
      intro part' member
      rcases List.mem_cons.mp member with rfl | member
      · exact ⟨carried, here⟩
      · exact ih _ done part' member

omit [JsonText] in
theorem records_getD {α : Type} (o : Option α) (convert : α → Carried) :
    ((o.map convert).getD { records := [] }).records =
      o.toList.flatMap fun a => (convert a).records := by
  cases o <;> simp

omit [JsonText] in
theorem outboxMeta_getD {α : Type} (o : Option α) (convert : α → Carried) :
    ((o.map convert).getD { records := [] }).outboxMeta =
      o.bind fun a => (convert a).outboxMeta := by
  cases o <;> rfl

omit [JsonText] in
theorem bind_return {ε α β : Type} (x : Except ε α) (f : α → β) :
    (x >>= fun a => pure (f a)) = x.map f := by
  cases x <;> rfl

/-- The first parts carry over the first records, and the watermarks of the outbox. -/
theorem carried_firstParts (d : Disk) :
    (firstParts.flatMap fun part => (part.carried d).records) = (legacyStore d).firstRecords ∧
      firstParts.foldl (fun m part => (part.carried d).outboxMeta.getD m) {} =
        (legacyStore d).outboxMeta := by
  have vehicleTask := carried_eq (d := d) vehicleTaskPart fun bytes => bind_return _ _
  have inventory := carried_eq (d := d) inventoryPart fun bytes => bind_return _ _
  have consent := carried_eq (d := d) consentPart fun bytes => bind_return _ _
  have downloads := carried_eq (d := d) downloadsPart fun bytes => bind_return _ _
  have execution := carried_eq (d := d) executionPart fun bytes => bind_return _ _
  have eventOutbox := carried_eq (d := d) eventOutboxPart fun bytes => bind_return _ _
  constructor
  · simp only [firstParts, List.flatMap_cons, List.flatMap_nil, vehicleTask, inventory, consent,
      downloads, execution, eventOutbox, records_getD]
    simp [LegacyStore.firstRecords, legacyStore, LegacyStore.downloadEntries,
      LegacyStore.eventEntries, List.flatMap_assoc, List.map_eq_flatMap, vehicleTaskPart,
      inventoryPart, consentPart, downloadsPart, executionPart, eventOutboxPart]
  · simp only [firstParts, List.foldl_cons, List.foldl_nil, vehicleTask, inventory, consent,
      downloads, execution, eventOutbox, outboxMeta_getD]
    unfold LegacyStore.outboxMeta legacyStore
    dsimp only [executionPart, eventOutboxPart]
    -- the outbox comes after the execution, so its watermarks replace those
    cases oldValue OLD_EVENT_OUTBOX decodeLegacyEventOutbox d with
    | some outbox => rfl
    | none =>
      cases oldValue OLD_EXECUTION decodeLegacyExecution d with
      | some execution => rfl
      | none => simp

theorem carried_lastParts (d : Disk) :
    (lastParts.flatMap fun part => (part.carried d).records) = (legacyStore d).lastRecords := by
  have controls := carried_eq (d := d) controlsPart fun bytes => bind_return _ _
  have policy := carried_eq (d := d) policyPart fun bytes => bind_return _ _
  have logJobs := carried_eq (d := d) logJobsPart fun bytes => bind_return _ _
  simp only [lastParts, List.flatMap_cons, List.flatMap_nil, controls, policy, logJobs,
    records_getD]
  simp [LegacyStore.lastRecords, legacyStore, LegacyStore.controlEntries,
    LegacyStore.logJobEntries, List.flatMap_assoc, List.map_eq_flatMap, controlsPart, policyPart,
      logJobsPart]

/-! ### The plan -/

theorem planned_of_decodes (decodes : Decodes d) :
    planned d = ((legacyStore d).records.map .write, .ok (legacyStore d).records.length) := by
  obtain ⟨first, watermarks⟩ := carried_firstParts d
  unfold planned
  rw [loop_carriedOver fun part member => decodes part (List.mem_append_left _ member)]
  dsimp only
  rw [loop_carriedOver fun part member => decodes part (List.mem_append_right _ member), first,
    watermarks, carried_lastParts]
  simp [LegacyStore.records, Except.map]
  omega

/-- A plan that was made without an error has decoded every part. -/
theorem decodes_of_planned {written : Nat} (plan : (planned d).2 = .ok written) : Decodes d := by
  have first := @read_of_loop d firstParts {}
  unfold planned at plan
  rcases carried : loop (carriedOver d) firstParts {} with ⟨cs, result⟩
  rw [carried] at first plan
  cases result with
  | error x => cases plan
  | ok p =>
    have last := @read_of_loop d lastParts { p with written := p.written + 1 }
    dsimp only at plan
    rcases rest : loop (carriedOver d) lastParts
      { p with written := p.written + 1 } with ⟨cs', result⟩
    rw [rest] at last plan
    cases result with
    | error x => cases plan
    | ok p' =>
      intro part member
      rcases List.mem_append.mp member with member | member
      · exact first rfl part member
      · exact last rfl part member

/-! ### Reading the new records again -/

omit [JsonText] in
theorem Write.eq_of_key {r r' : Write} (same : r.key = r'.key) :
    (⟨r.kind, r.kind.idOf r.record⟩ : (k : Kind) × k.Id) = ⟨r'.kind, r'.kind.idOf r'.record⟩ :=
  Kind.key_injective same

/-- The text of a record is shorter than four gigabytes. -/
def Write.Fits (r : Write) : Prop :=
  (JsonText.dump (r.kind.codec.toJson r.record)).length < 2 ^ 32

/-- A second reading succeeds if and only if every record it reads can be loaded. -/
theorem loop_reread {rs : List ((k : Kind) × k.Id)} :
    (loop (reread d) rs ()).2 = .ok () ↔
      ∀ r ∈ rs, ∃ v, FotaCloudStateStore.load r.1 r.2 d = .ok v := by
  induction rs with
  | nil => simp [loop]
  | cons r rs ih =>
    rw [List.forall_mem_cons, ← ih]
    cases loaded : FotaCloudStateStore.load r.1 r.2 d with
    | error x =>
      have first : reread d () r = ([], .error (.thrown x)) := by
        unfold reread
        rw [loaded]
        rfl
      unfold loop
      rw [first]
      simp
    | ok v =>
      have first : reread d () r = ([], .ok ()) := by
        unfold reread
        rw [loaded]
        rfl
      have step : (loop (reread d) (r :: rs) ()).2 = (loop (reread d) rs ()).2 := by
        rw [loop, first]
      rw [step]
      simp

/-- A record that can be read back has its true length in its envelope. -/
theorem fits_of_decode {ρ : Type} {codec : Codec ρ} {t : Int64} {r r' : ρ}
    (decoded : codec.decode (codec.encode t r) = .ok r') :
    (JsonText.dump (codec.toJson r)).length < 2 ^ 32 := by
  unfold Codec.decode Codec.encode at decoded
  rw [decodeEnvelopeJson_encodeEnvelope] at decoded
  by_contra long
  -- a longer text would not match the length in its envelope
  have cut : (JsonText.dump (codec.toJson r)).length ≠
      (UInt32.ofNat (JsonText.dump (codec.toJson r)).length).toNat := by
    have small := (UInt32.ofNat (JsonText.dump (codec.toJson r)).length).toNat_lt
    omega
  rw [if_pos cut] at decoded
  cases decoded

/-- What is shown under the key of a record, where that record was written last. -/
theorem stored_of_last {r : Write} {d₀ : Disk} {cs : List Change}
    (shown : changes.Shows cs d₀ r.key (d r.key)) (last : changes.last r.key cs = some (.write r)) :
    ∃ t, d r.key = some (r.kind.codec.encode t r.record) := by
  obtain ⟨stamp, value⟩ := shown.of_last last
  exact ⟨stamp.1, value⟩

section Lawful

variable [LawfulJsonText]

/-- Reading again succeeds where the records that are read again fit. -/
theorem rereads_iff (decodes : Decodes d) (fresh : ∀ (k : Kind) (id : k.Id), d (k.key id) = none) :
    rereads d = .ok () ↔ ∀ r, (legacyStore d).Has r →
      ⟨r.kind, r.kind.idOf r.record⟩ ∈ rechecked → r.Fits := by
  have plan := planned_of_decodes decodes
  have shown := (changes.applied_settled (0, 0) d (planned d).1).shows
  have has_of_last {key : String} {c : Change} (last : changes.last key (planned d).1 = some c) :
      ∃ r, (legacyStore d).Has r ∧ c = .write r ∧ r.key = key := by
    obtain ⟨before, after, whole, here, -⟩ := Changes.last_eq_some last
    have member : c ∈ (legacyStore d).records.map .write := by
      rw [plan] at whole
      dsimp only at whole
      rw [whole]
      simp
    obtain ⟨r, has, rfl⟩ := List.mem_map.mp member
    exact ⟨r, LegacyStore.mem_records.mp has, rfl, here⟩
  unfold rereads
  rw [loop_reread]
  constructor
  · intro loads r has again
    -- the record was written, and a record that can be loaded fits
    obtain ⟨v, loaded⟩ := loads _ again
    cases last : changes.last r.key (planned d).1 with
    | none =>
      have member : Change.write r ∈ (planned d).1 := by
        rw [plan]
        exact List.mem_map.mpr ⟨r, LegacyStore.mem_records.mpr has, rfl⟩
      exact absurd rfl (Changes.last_eq_none.mp last _ member)
    | some c =>
      obtain ⟨r', has', rfl, here⟩ := has_of_last last
      -- only this record goes to this key, since its kind is one of those read again
      have kinds : r.kind = r'.kind := congrArg Sigma.fst (Write.eq_of_key here.symm)
      have same : r = r' := has.unique has' kinds again
      subst same
      obtain ⟨t, stored⟩ := stored_of_last (shown r.key) last
      dsimp only at loaded
      rw [FotaCloudStateStore.load_eq, loadRecord, show changes.settled _ d _ (r.kind.key _) =
        _ from stored]
        at loaded
      dsimp only at loaded
      cases decoded : r.kind.codec.decode (r.kind.codec.encode t r.record) with
      | error x =>
        rw [decoded] at loaded
        cases loaded
      | ok r' => exact fits_of_decode decoded
  · rintro fits ⟨k, id⟩ again
    cases last : changes.last (k.key id) (planned d).1 with
    -- nothing was written here, and nothing was here before
    | none =>
      exact ⟨none, FotaCloudStateStore.load_absent (((shown _).frame last).trans (fresh k id))⟩
    | some c =>
      obtain ⟨r, has, rfl, here⟩ := has_of_last last
      have target : (⟨r.kind, r.kind.idOf r.record⟩ : (k : Kind) × k.Id) = ⟨k, id⟩ :=
        Kind.key_injective here
      rw [← here] at last
      obtain ⟨t, stored⟩ := stored_of_last (shown r.key) last
      rw [← target] at again ⊢
      exact ⟨some r.record, FotaCloudStateStore.load_stored stored ⟨has.current, fits r has again⟩⟩

end Lawful

end Contents

end CgwFota.Cloud
