import CgwFota.Crash.Program
import CgwFota.Inventory.Serializer

/-!
# The inventory state store

`FotaStateStore` wraps the store of the framework. Every request to that store may be refused or may
be the last thing the process does; a write that is not confirmed may have reached the disk all the
same. Between two requests stored values may be damaged, but a damaged sequence never passes for a
valid one.

## Main definitions

* `Disk`, `StoreWorld`: what is durable, with the object whose method is running
* `Surroundings`: the clock, the answers of the framework's store, and the damage
* `request`: one request, with all the ways it can end
* `openStore`, `allocateSnapshotSeq`, `loadSequence` and their siblings: the methods of the source
* `runStore`: any sequence of calls, openings and ends of processes

## Main result

* `wp_request`: what is true of the disk before and after a request, however it ends
-/
namespace CgwFota.Inventory

open Crash

/-- Thrown by the store of the framework. -/
structure StoreException where
  code : String
  stage : String := ""
  deriving DecidableEq, Repr, Inhabited

structure SeqAllocBlocked where
  message : String
  errorCode : String := ""
  deriving DecidableEq, Repr

/-- What is durable, by key. -/
abbrev Disk := String → Option Bytes

def Disk.put (d : Disk) (key : String) (bytes : Bytes) : Disk :=
  fun k => if k = key then some bytes else d k

def Disk.remove (d : Disk) (key : String) : Disk := fun k => if k = key then none else d k

/-- The value of a key, or what is thrown where there is none. -/
def Disk.read (d : Disk) (missing : StoreException) (key : String) : Except StoreException Bytes :=
  match d key with
  | some bytes => .ok bytes
  | none => .error missing

theorem Disk.eq_some_of_read {d : Disk} {missing : StoreException} {key : String} {bytes : Bytes}
    (h : d.read missing key = .ok bytes) : d key = some bytes := by
  unfold Disk.read at h
  split at h
  next stored => cases h; exact stored
  next => cases h

theorem Disk.put_self (d : Disk) (key : String) (bytes : Bytes) :
    d.put key bytes key = some bytes :=
  if_pos rfl

theorem Disk.put_ne (d : Disk) {key k : String} (bytes : Bytes) (other : k ≠ key) :
    d.put key bytes k = d k :=
  if_neg other

theorem Disk.remove_ne (d : Disk) {key k : String} (other : k ≠ key) : d.remove key k = d k :=
  if_neg other

def backupKey (key : String) (version : UInt32) : String :=
  "migration.backup." ++ key ++ ".v" ++ toString version

/-- Backups are kept apart from the states. -/
theorem backupKey_ne_sequence (key : String) (version : UInt32) :
    backupKey key version ≠ keys.SEQUENCE := by
  unfold backupKey
  rw [String.append_assoc, String.append_assoc]
  intro same
  have chars := congrArg String.toList same
  rw [String.toList_append] at chars
  -- the two keys differ in their first character
  have first := congrArg (List.take 1) chars
  rw [List.take_append_of_le_length (by decide)] at first
  revert first
  decide

/-! ### Objects, surroundings and world -/

/-- The data members of `FotaStateStore`, apart from the framework's store and its root. -/
structure FotaStateStore where
  dedupeMaxEntries : UInt32 := 0
  dedupeTtlMs : Int64 := 0
  sequenceBlocked : Bool := false
  lastSuccessAvailable : Bool := true
  dedupeAvailable : Bool := true
  activeJobCorrupted : Bool := false
  deriving DecidableEq, Repr, Inhabited

/-- How a request to the framework's store ends; `written` tells whether the write took place. -/
inductive Answer where
  | served
  | refused (e : StoreException) (written : Bool)
  | killed (written : Bool)
  deriving DecidableEq, Repr

/-- Other bytes under a key that is present. -/
structure Damage [JsonText] where
  key : String
  bytes : Bytes
  rejected : key = keys.SEQUENCE → ∀ s, decodeSequence bytes ≠ .ok s

/-- What happens around the process, by the number of effects that went before. -/
structure Surroundings [JsonText] where
  clock : Nat → Int64
  answer : Nat → Answer
  damage : Nat → Option Damage
  /-- Thrown by a load of an absent key. -/
  missing : StoreException := default

/-- A call of `allocateSnapshotSeq` that came back, with the disk before and after it. -/
structure Allocation where
  before : Disk
  result : Except SeqAllocBlocked UInt64
  after : Disk

/-- The disk outlives every process. `self` is the object whose method is running, `calls` lists
the allocations, newest first. -/
structure StoreWorld where
  disk : Disk
  self : FotaStateStore := {}
  objects : List FotaStateStore := []
  calls : List Allocation := []
  tick : Nat := 0

/-- Damage changes a key that is there, and makes none. -/
def Disk.suffer [JsonText] (d : Disk) : Option Damage → Disk
  | none => d
  | some damage => if (d damage.key).isSome then d.put damage.key damage.bytes else d

section Store

variable [JsonText]

abbrev StoreM : Type → Type := Program Surroundings StoreWorld

def self : StoreM FotaStateStore := fun _ w => .done w.self w

def setSelf (f : FotaStateStore → FotaStateStore) : StoreM Unit :=
  Program.update fun w => { w with self := f w.self }

def nowMs : StoreM Int64 := fun env w => .done (env.clock w.tick) { w with tick := w.tick + 1 }

@[simp] theorem wp_self {Q : FotaStateStore → StoreWorld → Prop} {C : StoreWorld → Prop}
    {e : Surroundings} {w : StoreWorld} : wp self Q C e w ↔ Q w.self w := Iff.rfl

@[simp] theorem wp_setSelf {f : FotaStateStore → FotaStateStore} {Q : Unit → StoreWorld → Prop}
    {C : StoreWorld → Prop} {e : Surroundings} {w : StoreWorld} :
    wp (setSelf f) Q C e w ↔ Q () { w with self := f w.self } := Iff.rfl

@[simp] theorem wp_nowMs {Q : Int64 → StoreWorld → Prop} {C : StoreWorld → Prop}
    {e : Surroundings} {w : StoreWorld} :
    wp nowMs Q C e w ↔ Q (e.clock w.tick) { w with tick := w.tick + 1 } := Iff.rfl

/-! ### Requests to the framework's store -/

/-- A request reads and writes at once, and the answer tells how it ends. -/
def request {α : Type} (write : Disk → Disk)
    (read : Surroundings → Disk → Except StoreException α) :
    StoreM (Except StoreException α) := fun env w =>
  let before := w.disk.suffer (env.damage w.tick)
  let after (written : Bool) : StoreWorld :=
    { w with disk := if written then write before else before, tick := w.tick + 1 }
  match env.answer w.tick with
  | .served => .done (read env before) (after true)
  | .refused e written => .done (.error e) (after written)
  | .killed written => .crashed (after written)

/-- A property of the disk that survives damage and the write of a request holds afterwards,
however the request ends. A request that is served has read the disk it wrote on. -/
theorem wp_request {α : Type} {write : Disk → Disk}
    {read : Surroundings → Disk → Except StoreException α} {e : Surroundings} {w : StoreWorld}
    (P : Disk → Prop) (start : P w.disk)
    (suffers : ∀ d damage, P d → P (d.suffer damage))
    (writes : ∀ d, P d → P (write d)) :
    wp (request write read)
      (fun r w' => (P w'.disk ∧ w'.calls = w.calls) ∧
        ∀ a, r = .ok a → ∃ d, P d ∧ w'.disk = write d ∧ read e d = .ok a)
      (fun w' => P w'.disk ∧ w'.calls = w.calls) e w := by
  unfold wp request
  have suffered := suffers w.disk (e.damage w.tick) start
  generalize w.disk.suffer (e.damage w.tick) = d at suffered
  have either (written : Bool) : P (if written then write d else d) := by
    cases written
    · exact suffered
    · exact writes d suffered
  cases e.answer w.tick with
  | served => exact ⟨⟨either true, rfl⟩, fun a answered => ⟨d, suffered, rfl, answered⟩⟩
  | refused x written => exact ⟨⟨either written, rfl⟩, by simp⟩
  | killed written => exact ⟨either written, rfl⟩

/-- Whether the root of the store can be opened. -/
def openFramework : StoreM (Except StoreException Unit) := request id fun _ _ => .ok ()

def has (key : String) : StoreM (Except StoreException Bool) :=
  request id fun _ d => .ok (d key).isSome

def load (key : String) : StoreM (Except StoreException Bytes) :=
  request id fun env d => d.read env.missing key

/-- A save that is served is durable: the temporary file is renamed after it was synced. -/
def save (key : String) (bytes : Bytes) : StoreM (Except StoreException Unit) :=
  request (·.put key bytes) fun _ _ => .ok ()

def remove (key : String) : StoreM (Except StoreException Unit) :=
  request (·.remove key) fun _ _ => .ok ()

/-! ### Opening -/

section Migration

variable {σ : Type} (key : String) (decodeFn : Bytes → Except StateDecodeError σ)
  (encodeFn : Int64 → σ → Bytes)

def rejects (bytes : Bytes) : Bool :=
  match decodeFn bytes with
  | .error _ => true
  | .ok _ => false

/-- Replace a value of an old version by its migrated form; the old value is kept aside first. The
result is the corruption flag. -/
def migrate (env : Bytes) (version : UInt32) : StoreM Bool := do
  match ← save (backupKey key version) env with
  | .error _ => return true
  | .ok () =>
    match decodeFn env with
    | .error _ => return true
    | .ok s =>
      let writtenAt ← nowMs
      match ← save key (encodeFn writtenAt s) with
      | .error _ => return true
      | .ok () =>
        match ← load key with
        | .error _ => return true
        | .ok rewritten => return rejects decodeFn rewritten

/-- Check one key and bring it to the current version. -/
def migrateAndValidate (currentVersion : UInt32) : StoreM Bool := do
  match ← has key with
  | .error _ => return true
  | .ok false => return false
  | .ok true =>
    match ← load key with
    | .error _ => return true
    | .ok env =>
      match parseEnvelopeHeader env with
      | .error _ => return true
      | .ok h =>
        if h.schemaVersion > currentVersion then return true
        else if h.schemaVersion = currentVersion then return rejects decodeFn env
        else migrate key decodeFn encodeFn env h.schemaVersion

end Migration

/-- `FotaStateStore::open`. -/
def openStore (dedupeMaxEntries : UInt32) (dedupeTtlMs : Int64) :
    StoreM (Except StoreException FotaStateStore) := do
  match ← openFramework with
  | .error e => return .error e
  | .ok () =>
    let seqCorrupted ← migrateAndValidate keys.SEQUENCE decodeSequence encodeSequence
      schema.SEQUENCE_VERSION
    let lastSuccessCorrupted ← migrateAndValidate keys.LAST_SUCCESS decodeLastSuccess
        encodeLastSuccess
      schema.LAST_SUCCESS_VERSION
    let dedupeCorrupted ← migrateAndValidate keys.DEDUPE decodeDedupe encodeDedupe
      schema.DEDUPE_VERSION
    let activeJobCorrupted ← migrateAndValidate keys.ACTIVE_JOB decodeActiveJob encodeActiveJob
      schema.ACTIVE_JOB_VERSION
    return .ok
      { dedupeMaxEntries
        dedupeTtlMs
        sequenceBlocked := seqCorrupted
        lastSuccessAvailable := !lastSuccessCorrupted
        dedupeAvailable := !dedupeCorrupted
        activeJobCorrupted }

/-! ### Reading a key -/

/-- The two exceptions the accessors catch. -/
inductive Failure where
  | store (e : StoreException)
  | decode (e : StateDecodeError)

/-- The state under a key, `none` where the key is absent. -/
def fetch {σ : Type} (key : String) (decodeFn : Bytes → Except StateDecodeError σ) :
    StoreM (Except Failure (Option σ)) := do
  match ← has key with
  | .error e => return .error (.store e)
  | .ok false => return .ok none
  | .ok true =>
    match ← load key with
    | .error e => return .error (.store e)
    | .ok bytes =>
      match decodeFn bytes with
      | .error e => return .error (.decode e)
      | .ok s => return .ok (some s)

/-! ### Sequence -/

/-- Stop allocating for good, with this exception. -/
def block {α : Type} (exception : SeqAllocBlocked) : StoreM (Except SeqAllocBlocked α) := do
  setSelf ({ · with sequenceBlocked := true })
  return .error exception

@[simp] theorem wp_block {α : Type} {exception : SeqAllocBlocked}
    {Q : Except SeqAllocBlocked α → StoreWorld → Prop} {C : StoreWorld → Prop}
    {e : Surroundings} {w : StoreWorld} :
    wp (block exception) Q C e w ↔
      Q (.error exception) { w with self := { w.self with sequenceBlocked := true } } := Iff.rfl

def allocateSnapshotSeq : StoreM (Except SeqAllocBlocked UInt64) := do
  if (← self).sequenceBlocked then return .error ⟨"sequence blocked", "STATE_BLOCKED"⟩
  else
    match ← fetch keys.SEQUENCE decodeSequence with
    | .error (.store e) => block ⟨"sequence load failed", e.code⟩
    | .error (.decode _) => block ⟨"sequence corrupted", "CGW-FW-0104"⟩
    | .ok stored =>
      let cur : SequenceState := stored.getD { highestAllocated := 0, updatedAt := 0 }
      if cur.highestAllocated ≥ SNAPSHOT_SEQ_MAX then block ⟨"sequence overflow", "OVERFLOW"⟩
      else
        let next := cur.highestAllocated + 1
        let updatedAt ← nowMs
        let writtenAt ← nowMs
        match ← save keys.SEQUENCE (encodeSequence writtenAt
            { schemaVersion := schema.SEQUENCE_VERSION, highestAllocated := next, updatedAt }) with
        | .error e => block ⟨"sequence save failed", e.code⟩
        | .ok () => return .ok next

def loadSequence : StoreM (Option SequenceState) := do
  if (← self).sequenceBlocked then return none
  else
    match ← fetch keys.SEQUENCE decodeSequence with
    | .error _ => return none
    | .ok stored => return stored

/-! ### Last success, deduplication window and active job -/

/-- A record that cannot be read is given up by the object. -/
def loadLastSuccess : StoreM (Option LastSuccessState) := do
  if (← self).lastSuccessAvailable then
    match ← fetch keys.LAST_SUCCESS decodeLastSuccess with
    | .error _ =>
      setSelf ({ · with lastSuccessAvailable := false })
      return none
    | .ok stored => return stored
  else return none

def saveLastSuccess (s : LastSuccessState) : StoreM (Except StoreException Unit) := do
  let writtenAt ← nowMs
  match ← save keys.LAST_SUCCESS (encodeLastSuccess writtenAt s) with
  | .error e => return .error e
  | .ok () =>
    setSelf ({ · with lastSuccessAvailable := true })
    return .ok ()

def FotaStateStore.emptyDedupe (object : FotaStateStore) : DedupeState :=
  { maxEntries := object.dedupeMaxEntries, ttlMs := object.dedupeTtlMs }

def loadDedupe : StoreM DedupeState := do
  let empty := (← self).emptyDedupe
  if (← self).dedupeAvailable then
    match ← fetch keys.DEDUPE decodeDedupe with
    | .error _ =>
      setSelf ({ · with dedupeAvailable := false })
      return empty
    | .ok none => return empty
    | .ok (some d) =>
      -- the configured bounds replace the stored ones
      return { d with maxEntries := empty.maxEntries, ttlMs := empty.ttlMs }
  else return empty

def saveDedupe (s : DedupeState) : StoreM (Except StoreException Unit) := do
  let writtenAt ← nowMs
  match ← save keys.DEDUPE (encodeDedupe writtenAt s) with
  | .error e => return .error e
  | .ok () =>
    setSelf ({ · with dedupeAvailable := true })
    return .ok ()

/-- A job that cannot be read is noted as damaged, and the next read tries again. -/
def loadActiveJob : StoreM (Option ActiveJobState) := do
  match ← fetch keys.ACTIVE_JOB decodeActiveJob with
  | .error _ =>
    setSelf ({ · with activeJobCorrupted := true })
    return none
  | .ok stored => return stored

def saveActiveJob (s : ActiveJobState) : StoreM (Except StoreException Unit) := do
  let writtenAt ← nowMs
  save keys.ACTIVE_JOB (encodeActiveJob writtenAt s)

def removeActiveJob : StoreM (Except StoreException Unit) := remove keys.ACTIVE_JOB

/-! ### Histories -/

/-- A call on an open object. -/
inductive Method where
  | allocateSnapshotSeq
  | loadSequence
  | loadLastSuccess
  | saveLastSuccess (s : LastSuccessState)
  | loadDedupe
  | saveDedupe (s : DedupeState)
  | loadActiveJob
  | saveActiveJob (s : ActiveJobState)
  | removeActiveJob
  deriving DecidableEq, Repr

/-- What processes do with one store root; objects are numbered in the order they were opened
since the process started. -/
inductive StoreOperation where
  | openStore (dedupeMaxEntries : UInt32) (dedupeTtlMs : Int64)
  | call (object : Nat) (method : Method)
  | exit
  deriving DecidableEq, Repr

def runMethod : Method → StoreM Unit
  | .allocateSnapshotSeq => do
    let before := (← Program.world).disk
    let result ← allocateSnapshotSeq
    Program.update fun w => { w with calls := ⟨before, result, w.disk⟩ :: w.calls }
  | .loadSequence => do let _ ← loadSequence
  | .loadLastSuccess => do let _ ← loadLastSuccess
  | .saveLastSuccess s => do let _ ← saveLastSuccess s
  | .loadDedupe => do let _ ← loadDedupe
  | .saveDedupe s => do let _ ← saveDedupe s
  | .loadActiveJob => do let _ ← loadActiveJob
  | .saveActiveJob s => do let _ ← saveActiveJob s
  | .removeActiveJob => do let _ ← removeActiveJob

/-- The process is gone and its objects with it. -/
def StoreWorld.endProcess (w : StoreWorld) : StoreWorld := { w with objects := [] }

def performStore : StoreOperation → StoreM Unit
  | .openStore dedupeMaxEntries dedupeTtlMs => do
    match ← openStore dedupeMaxEntries dedupeTtlMs with
    | .error _ => return ()
    | .ok object => Program.update fun w => { w with objects := w.objects ++ [object] }
  | .call i method => do
    match (← Program.world).objects[i]? with
    | none => return ()
    | some object =>
      setSelf fun _ => object
      runMethod method
      Program.update fun w => { w with objects := w.objects.set i w.self }
  | .exit => Program.update StoreWorld.endProcess

def runStoreOperation (env : Surroundings) (w : StoreWorld) (op : StoreOperation) : StoreWorld :=
  (performStore op env w).settle StoreWorld.endProcess

def runStore (env : Surroundings) (w : StoreWorld) (ops : List StoreOperation) : StoreWorld :=
  ops.foldl (runStoreOperation env) w

end Store

end CgwFota.Inventory
