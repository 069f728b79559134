import CgwFota.Orchestrator.Frame

/-!
# The permit across restarts

The permit that was granted is written with the execution and read back by the next process. The
record has no place for a field that is absent, and the reader takes empty values for absent ones.

## Main definitions

* `SamePermit`: the fields that the execution record stands for are the same.
* `Restorable`: the required fields are there, and no other one is there with an empty value.
* `runPermit`: any sequence of writing, reading and restarts.

## Main results

* `permit_kept_iff`: the permit is kept through all sequences exactly if it is restorable and the
  task has a snapshot, or if there is nothing to be kept.
* `strictPermit_lost`: a permit whose offline policy is gone after a restart.

## Proof strategy

The record is a function of the permit, and reading it back is another one; each field is looked at
once, as a required one or as one that is restored where it is not empty. For the converse a restart
right after the grant already shows which fields come back.
-/
namespace CgwFota

open Crash

/-! ### What is compared -/

/-- The fields of a permit that the execution record stands for. -/
structure SamePermit (resp permit : InstallPermitResponse) : Prop where
  executionId : permit.executionId = resp.executionId
  attemptNo : permit.attemptNo = resp.attemptNo
  permitId : permit.permitId = resp.permitId
  permitToken : permit.permitToken = resp.permitToken
  controlRevision : permit.controlRevision = resp.controlRevision
  validUntilMs : permit.validUntilMs = resp.validUntilMs
  installPlanVersion : permit.installPlanVersion = resp.installPlanVersion
  offlinePolicy : permit.offlinePolicy = resp.offlinePolicy
  timeoutPolicy : permit.timeoutPolicy = resp.timeoutPolicy

/-- The fields that are always restored are there, and no other one is there with an empty value. -/
structure Restorable (resp : InstallPermitResponse) : Prop where
  executionId : resp.executionId.isSome
  attemptNo : resp.attemptNo.isSome
  permitId : resp.permitId.isSome
  permitToken : resp.permitToken.isSome
  controlRevision : resp.controlRevision.isSome
  validUntilMs : resp.validUntilMs ≠ some 0
  installPlanVersion : resp.installPlanVersion ≠ some ""
  offlinePolicy : resp.offlinePolicy ≠ some {}
  timeoutPolicy : resp.timeoutPolicy ≠ some {}

/-! ### Sequences of writing and reading -/

/-- What touches the permit between its grant and its use. -/
inductive PermitOperation where
  | persistExecution
  | loadFromStore
  | restart
  deriving DecidableEq, Repr

/-- As the orchestrator does it. -/
def PermitOperation.perform : PermitOperation → Orch Unit
  | .persistExecution => CgwFota.persistExecution
  | .loadFromStore => Program.update fun w => { w with mem := CgwFota.loadFromStore w.store w.mem }
  | .restart => Program.update CgwFota.restart

/-- A process that is lost while it writes is followed by another one. -/
def runPermit (env : Environment) (w : World) (ops : List PermitOperation) : World :=
  ops.foldl (fun w op => (op.perform env w).settle recover) w

/-- `acceptPermit` up to the last write. -/
def persistPermit (resp : InstallPermitResponse) : Orch Unit := do
  setMemory (takePermit resp)
  setExState .permitPersisted
  setVtState .executing
  persistVehicleTask "permit"
  persistExecution

/-- `acceptPermit` after the last write. -/
def recheckPermit (resp : InstallPermitResponse) : Orch StepOutcome := do
  let now ← nowMs
  if permitExpired resp now then
    return { action := "permit", error := "pre-install recheck failed (validUntil)" }
  else
    let guards : Bool ← call .allGuardsPassed
    if !guards then
      return { action := "permit", error := "pre-install recheck failed (guards)" }
    else
      let m ← memory
      return { action := "permit", vehicleTaskState := m.vtState, executionState := m.exState }

/-- What is recorded of the permit. -/
structure RecordOf (resp : InstallPermitResponse) (ex : FotaExecutionRecord) : Prop where
  executionId : ex.executionId = resp.executionId.getD ""
  attemptNo : ex.attemptNo = resp.attemptNo.getD 0
  permitId : ex.permitId = resp.permitId.getD ""
  permitToken : ex.permitToken = resp.permitToken.getD ""
  controlRevision : ex.controlRevision = resp.controlRevision.getD 0
  validUntilMs : ex.validUntilMs = resp.validUntilMs.getD 0
  installPlanVersion : ex.installPlanVersion = resp.installPlanVersion.getD ""
  offlinePolicy : ex.offlinePolicyPbHex.message = resp.offlinePolicy.getD {}
  timeoutPolicy : ex.timeoutPolicyPbHex.message = resp.timeoutPolicy.getD {}

/-- The permit for the task is in use and recorded. -/
structure PermitHeld (resp : InstallPermitResponse) (task : VehicleTaskSnapshot) (w : World) :
    Prop where
  permit : SamePermit resp w.mem.permit
  executionId : w.mem.executionId = resp.executionId.getD ""
  attemptNo : w.mem.attemptNo = resp.attemptNo.getD 0
  frozen : w.mem.frozenTask = task
  execution : ∃ ex, w.store.execution = some ex ∧ RecordOf resp ex
  vehicleTask : ∃ vt, w.store.vehicleTask = some vt ∧ vt.taskSnapshotPbHex.message = task

section Kept

variable {e : Environment} {resp permit : InstallPermitResponse} {task : VehicleTaskSnapshot}
  {w : World}

theorem SamePermit.refl (resp : InstallPermitResponse) : SamePermit resp resp :=
  ⟨rfl, rfl, rfl, rfl, rfl, rfl, rfl, rfl, rfl⟩

/-! ### Writing and reading back -/

/-- What is written of the permit is its record. -/
theorem recordOf_executionRecord {m : Memory} (same : SamePermit resp m.permit)
    (executionId : m.executionId = resp.executionId.getD "")
    (attemptNo : m.attemptNo = resp.attemptNo.getD 0) : RecordOf resp (executionRecord m) where
  executionId := executionId
  attemptNo := attemptNo
  permitId := by rw [← same.permitId]; rfl
  permitToken := by rw [← same.permitToken]; rfl
  controlRevision := by rw [← same.controlRevision]; rfl
  validUntilMs := by rw [← same.validUntilMs]; rfl
  installPlanVersion := by rw [← same.installPlanVersion]; rfl
  offlinePolicy := by
    simp only [executionRecord, same.offlinePolicy]
    cases resp.offlinePolicy <;> rfl
  timeoutPolicy := by
    simp only [executionRecord, same.timeoutPolicy]
    cases resp.timeoutPolicy <;> rfl

theorem restored {α : Type} {field : Option α} {empty : α} (present : field.isSome) :
    some (field.getD empty) = field := by
  cases field with
  | none => cases present
  | some x => rfl

/-- A field that is restored where its value is not empty. -/
theorem restored_if {α : Type} [DecidableEq α] {field before : Option α} {empty : α}
    (known : before = none ∨ before = field) (full : field ≠ some empty) :
    (if field.getD empty ≠ empty then some (field.getD empty) else before) = field := by
  cases field with
  | none =>
    rw [Option.getD_none, if_neg (not_not.mpr rfl)]
    exact known.elim id id
  | some x => exact if_pos fun same => full (congrArg some same)

/-- A policy that is restored where its bytes are not empty. -/
theorem restored_pbHex {α : Type} [DecidableEq α] [Inhabited α] {field before : Option α}
    {hex : PbHex α} (message : hex.message = field.getD default)
    (known : before = none ∨ before = field) (full : field ≠ some default) :
    (if hex.isEmpty then before else some hex.message) = field := by
  have kept := restored_if known full
  rw [← message] at kept
  by_cases empty : hex.message = default
  · have holds : hex.isEmpty = true := decide_eq_true empty
    rw [if_pos holds]
    rwa [if_neg (not_not.mpr empty)] at kept
  · rw [if_neg (by simpa [PbHex.isEmpty] using empty)]
    rwa [if_pos empty] at kept

/-- Reading the record restores the permit, over no permit or over the same one. -/
theorem samePermit_loadPermit (restorable : Restorable resp) {ex : FotaExecutionRecord}
    (record : RecordOf resp ex) (known : permit = {} ∨ SamePermit resp permit) :
    SamePermit resp (loadPermit permit ex) := by
  have before {α : Type} (get : InstallPermitResponse → Option α) (absent : get {} = none)
      (same : SamePermit resp permit → get permit = get resp) :
      get permit = none ∨ get permit = get resp := by
    -- a field before reading is absent, or the one of the permit
    rcases known with fresh | kept
    · exact .inl (by rw [fresh, absent])
    · exact .inr (same kept)
  unfold loadPermit
  rw [record.executionId, record.attemptNo, record.permitId, record.permitToken,
    record.controlRevision, record.validUntilMs, record.installPlanVersion]
  constructor
  -- the fields that are always restored
  · exact restored restorable.executionId
  · exact restored restorable.attemptNo
  · exact restored restorable.permitId
  · exact restored restorable.permitToken
  · exact restored restorable.controlRevision
  -- those that are restored where they are not empty
  · exact restored_if (before _ rfl (·.validUntilMs)) restorable.validUntilMs
  · exact restored_if (before _ rfl (·.installPlanVersion)) restorable.installPlanVersion
  · exact restored_pbHex record.offlinePolicy (before _ rfl (·.offlinePolicy))
      restorable.offlinePolicy
  · exact restored_pbHex record.timeoutPolicy (before _ rfl (·.timeoutPolicy))
      restorable.timeoutPolicy

/-! ### Sequences -/

/-- A process that reads the store has the permit, whether it is a new one or the one that wrote. -/
theorem PermitHeld.load (held : PermitHeld resp task w) (restorable : Restorable resp)
    (known : task ≠ {}) {m : Memory} (before : m.permit = {} ∨ SamePermit resp m.permit) :
    PermitHeld resp task { w with mem := loadFromStore w.store m } := by
  obtain ⟨ex, execution, record⟩ := held.execution
  obtain ⟨vt, vehicleTask, snapshot⟩ := held.vehicleTask
  have there : vt.taskSnapshotPbHex.isEmpty = false := by
    rw [PbHex.isEmpty, snapshot]
    exact decide_eq_false known
  have loaded : loadFromStore w.store m = loadOutbox w.store
      { m with
        vtState := (vehicleTaskStateFromString vt.vehicleTaskState).getD .none
        frozenTask := task
        exState := (executionStateFromString ex.executionState).getD m.exState
        executionId := ex.executionId
        attemptNo := ex.attemptNo
        permit := loadPermit m.permit ex } := by
    unfold loadFromStore loadExecution
    rw [vehicleTask]
    simp only [there, execution, snapshot]
    rfl
  have same : ∀ m', (loadOutbox w.store m').permit = m'.permit ∧
      (loadOutbox w.store m').executionId = m'.executionId ∧
      (loadOutbox w.store m').attemptNo = m'.attemptNo ∧
      (loadOutbox w.store m').frozenTask = m'.frozenTask := by
    intro m'
    unfold loadOutbox
    -- the counters of the outbox do not matter
    cases w.store.eventOutboxMeta with
    | none => exact ⟨rfl, rfl, rfl, rfl⟩
    | some outbox => exact ⟨rfl, rfl, rfl, rfl⟩
  rw [loaded]
  obtain ⟨permit, executionId, attemptNo, frozen⟩ := same
    { m with
      vtState := (vehicleTaskStateFromString vt.vehicleTaskState).getD .none
      frozenTask := task
      exState := (executionStateFromString ex.executionState).getD m.exState
      executionId := ex.executionId
      attemptNo := ex.attemptNo
      permit := loadPermit m.permit ex }
  exact {
    permit := by
      dsimp only
      rw [permit]
      exact samePermit_loadPermit restorable record before
    executionId := executionId.trans record.executionId
    attemptNo := attemptNo.trans record.attemptNo
    frozen
    execution := ⟨ex, execution, record⟩
    vehicleTask := ⟨vt, vehicleTask, snapshot⟩ }

theorem PermitHeld.restart (held : PermitHeld resp task w) (restorable : Restorable resp)
    (known : task ≠ {}) : PermitHeld resp task (CgwFota.restart w) :=
  { held.load restorable known (.inl rfl) with }

theorem PermitHeld.recover (held : PermitHeld resp task w) (restorable : Restorable resp)
    (known : task ≠ {}) : PermitHeld resp task (recover w) :=
  PermitHeld.restart (w := w.note .crashed) { held with } restorable known

theorem permitHeld_persistExecution (held : PermitHeld resp task w) :
    wp persistExecution (fun _ => PermitHeld resp task) (PermitHeld resp task) e w := by
  have record := recordOf_executionRecord held.permit held.executionId held.attemptNo
  have saved : PermitHeld resp task (w.effect (.saved (.execution (executionRecord w.mem)))) :=
    { held with execution := ⟨_, rfl, record⟩ }
  have counted : ∀ outbox, PermitHeld resp task
      ((w.effect (.saved (.execution (executionRecord w.mem)))).effect
        (.saved (.eventOutboxMeta outbox))) := fun _ => { saved with }
  unfold persistExecution
  simp only [wp_bind, wp_memory]
  exact wp_save saved (wp_save (counted _) (counted _))

theorem PermitOperation.held (restorable : Restorable resp) (known : task ≠ {})
    (op : PermitOperation) (held : PermitHeld resp task w) :
    wp op.perform (fun _ => PermitHeld resp task) (PermitHeld resp task) e w := by
  cases op with
  | persistExecution => exact permitHeld_persistExecution held
  | loadFromStore => exact held.load restorable known (.inr held.permit)
  | restart => exact held.restart restorable known

theorem runPermit_held (restorable : Restorable resp) (known : task ≠ {})
    (ops : List PermitOperation) (held : PermitHeld resp task w) :
    PermitHeld resp task (runPermit e w ops) := by
  induction ops generalizing w with
  | nil => exact held
  | cons op ops ih =>
    apply ih
    exact settle_of_wp (wp_mono (op.held restorable known held) (fun _ _ held => held)
      fun _ held => held.recover restorable known)

/-! ### Main result -/

/-- An accepted permit is held, in memory and in the record. -/
theorem permitHeld_persistPermit (resp : InstallPermitResponse) (w : World) :
    wp (persistPermit resp) (fun _ => PermitHeld resp w.mem.frozenTask) (fun _ => True) e w := by
  unfold persistPermit persistVehicleTask
  simp only [wp_bind, wp_setMemory, wp_setExState, wp_setVtState, wp_nowMs, wp_memory]
  apply wp_save trivial
  unfold persistExecution
  simp only [wp_bind, wp_memory]
  refine wp_save trivial (wp_save trivial ?_)
  exact {
    permit := .refl resp
    executionId := rfl
    attemptNo := rfl
    frozen := rfl
    execution := ⟨_, rfl, recordOf_executionRecord (.refl resp) rfl rfl⟩
    vehicleTask := ⟨_, rfl, rfl⟩ }

/-- A restart right after the grant shows what is kept. -/
theorem restorable_of_loadPermit {ex : FotaExecutionRecord} (record : RecordOf resp ex)
    (same : SamePermit resp (loadPermit {} ex)) : Restorable resp where
  executionId := by rw [← same.executionId]; rfl
  attemptNo := by rw [← same.attemptNo]; rfl
  permitId := by rw [← same.permitId]; rfl
  permitToken := by rw [← same.permitToken]; rfl
  controlRevision := by rw [← same.controlRevision]; rfl
  validUntilMs empty := by
    -- a field that is there with an empty value would be lost
    have kept := same.validUntilMs
    simp [loadPermit, record.validUntilMs, empty] at kept
  installPlanVersion empty := by
    have kept := same.installPlanVersion
    simp [loadPermit, record.installPlanVersion, empty] at kept
  offlinePolicy empty := by
    -- a policy without bytes as well
    have kept := same.offlinePolicy
    have gone : ex.offlinePolicyPbHex.isEmpty = true := by
      rw [PbHex.isEmpty, record.offlinePolicy, empty]
      rfl
    simp [loadPermit, gone, empty] at kept
  timeoutPolicy empty := by
    have kept := same.timeoutPolicy
    have gone : ex.timeoutPolicyPbHex.isEmpty = true := by
      rw [PbHex.isEmpty, record.timeoutPolicy, empty]
      rfl
    simp [loadPermit, gone, empty] at kept

/-- Without a snapshot nothing of the execution is read, and a process that had nothing loses
nothing. -/
structure NothingHeld (resp : InstallPermitResponse) (w : World) : Prop where
  permit : SamePermit resp w.mem.permit
  snapshot : lacksSnapshot w.store

theorem PermitHeld.lacksSnapshot (held : PermitHeld resp {} w) : lacksSnapshot w.store := by
  obtain ⟨vt, vehicleTask, snapshot⟩ := held.vehicleTask
  unfold CgwFota.lacksSnapshot
  rw [vehicleTask]
  exact decide_eq_true snapshot

theorem NothingHeld.restart (nothing : SamePermit resp {}) (snapshot : lacksSnapshot w.store) :
    NothingHeld resp (CgwFota.restart w) where
  permit := by
    rw [restart_mem, loadFromStore_without_snapshot snapshot]
    exact nothing
  snapshot := snapshot

/-- Each operation keeps it that way. -/
theorem PermitOperation.nothingHeld (nothing : SamePermit resp {}) (op : PermitOperation)
    (held : NothingHeld resp w) :
    wp op.perform (fun _ => NothingHeld resp) (NothingHeld resp) e w := by
  cases op with
  -- the snapshot is not written with the execution
  | persistExecution =>
    unfold PermitOperation.perform CgwFota.persistExecution
    simp only [wp_bind, wp_memory]
    exact wp_save { held with } (wp_save { held with } { held with })
  | restart => exact .restart nothing held.snapshot
  | loadFromStore =>
    refine ⟨?_, held.snapshot⟩
    -- without a snapshot the reader stops early
    have snapshot := held.snapshot
    show SamePermit resp (CgwFota.loadFromStore w.store w.mem).permit
    unfold CgwFota.loadFromStore
    cases task : w.store.vehicleTask with
    | none => simp [CgwFota.lacksSnapshot, task] at snapshot
    | some vt =>
      rw [CgwFota.lacksSnapshot, task, Option.any_some] at snapshot
      simp only [snapshot]
      exact held.permit

theorem runPermit_nothingHeld (nothing : SamePermit resp {}) (ops : List PermitOperation)
    (held : NothingHeld resp w) : NothingHeld resp (runPermit e w ops) := by
  induction ops generalizing w with
  | nil => exact held
  | cons op ops ih =>
    apply ih
    exact settle_of_wp (wp_mono (op.nothingHeld nothing held) (fun _ _ held => held)
      fun w held => NothingHeld.restart (w := w.note .crashed) nothing held.snapshot)

end Kept

/-- An accepted permit is persisted before anything else is done with it. -/
theorem acceptPermit_eq (resp : InstallPermitResponse) :
    acceptPermit resp = persistPermit resp >>= fun _ => recheckPermit resp := by
  simp only [persistPermit, Program.bind_bind]
  rfl

/-- Once an allowed permit has been persisted, the process has that permit after every sequence of
writing and reading, exactly if its fields can be restored and the task has a snapshot, or none of
the fields is there and the task has none. -/
theorem permit_kept_iff (resp : InstallPermitResponse) (task : VehicleTaskSnapshot) :
    (∀ env w w', w.mem.frozenTask = task → persistPermit resp env w = .done () w' →
      ∀ ops, SamePermit resp (runPermit env w' ops).mem.permit) ↔
      (Restorable resp ∧ task ≠ {}) ∨ (SamePermit resp {} ∧ task = {}) := by
  have persisted {env : Environment} {w w' : World} (frozen : w.mem.frozenTask = task)
      (done : persistPermit resp env w = .done () w') : PermitHeld resp task w' := by
    have held := permitHeld_persistPermit (e := env) resp w
    unfold wp at held
    rw [done, frozen] at held
    exact held
  constructor
  · intro kept
    -- a process that writes without being disturbed is replaced at once
    obtain ⟨w', done⟩ : ∃ w', persistPermit resp cooperative { mem := { frozenTask := task } } =
        .done () w' := ⟨_, rfl⟩
    have held := persisted rfl done
    have same : SamePermit resp (loadFromStore w'.store {}).permit := kept _ _ _ rfl done [.restart]
    -- without a snapshot nothing is read back, so there must have been nothing
    by_cases known : task = {}
    · subst known
      rw [loadFromStore_without_snapshot held.lacksSnapshot] at same
      exact .inr ⟨same, rfl⟩
    -- with a snapshot the record is read, so the fields must be restorable
    · obtain ⟨ex, execution, record⟩ := held.execution
      obtain ⟨vt, vehicleTask, snapshot⟩ := held.vehicleTask
      have there : lacksSnapshot w'.store = false := by
        rw [lacksSnapshot, vehicleTask, Option.any_some, PbHex.isEmpty, snapshot]
        exact decide_eq_false known
      rw [loadFromStore_with_snapshot there] at same
      dsimp only at same
      rw [durablePermit, execution] at same
      exact .inl ⟨restorable_of_loadPermit record same, known⟩
  -- conversely, in the two cases
  · rintro (⟨restorable, known⟩ | ⟨nothing, rfl⟩) env w w' frozen done ops
    · exact (runPermit_held restorable known ops (persisted frozen done)).permit
    · have held := persisted frozen done
      exact (runPermit_nothingHeld nothing ops ⟨held.permit, held.lacksSnapshot⟩).permit

/-- Everything is granted, with an offline policy that says no to all it can say no to. -/
def strictPermit : InstallPermitResponse :=
  { samplePermit with controlRevision := some 1, offlinePolicy := some {} }

/-- After a restart that policy is gone. -/
theorem strictPermit_lost : strictPermit.allowed ∧
    ∃ w, persistPermit strictPermit cooperative { mem := { frozenTask := sampleTask } } =
      .done () w ∧
      ¬SamePermit strictPermit (runPermit cooperative w [.restart]).mem.permit := by
  refine ⟨rfl, _, rfl, fun same => ?_⟩
  exact absurd same.offlinePolicy (by decide +kernel)

end CgwFota
