import CgwFota.Properties.Download

/-!
# Package revisions

Download records are filed under the package id alone. Whether a ready record belongs to the
revision the frozen task asks for is never checked.

## Main definitions

* `RevisionOf`: the task lists the revision, or a grant of the task gave it.
* `RevisionChecked`: a package is skipped only for a record of its revision.
* `RevisionsMaintained`: the condition on frozen tasks and grants.

## Main results

* `revisions_checked`: in every run from an empty or a migrated store that keeps to the condition.
* `stale_package_is_skipped`: a migrated record of another revision.

## Proof strategy

Between packages the ready records of the listed packages have revisions of the task. Within a
package a revision is granted, and the record that becomes ready has it. A new task is frozen only
over records that fit it, by assumption.
-/
namespace CgwFota

open Crash

/-- The revision that a reply grants for the package while `task` is frozen. -/
def Entry.grantedRevision (task : VehicleTaskSnapshot) (packageId : String) (a : Entry) :
    Option String :=
  match a.event with
  | .returned (.requestDownload req _) (.ok grant) =>
    if a.mem.frozenTask = task ∧ req.packageId = packageId then some grant.packageRevision else none
  | _ => none

/-- The task lists the revision for the package, or a grant of the task gave it. -/
def RevisionOf (task : VehicleTaskSnapshot) (t : List Entry) (packageId revision : String) : Prop :=
  (∃ pkg ∈ task.packageList, pkg.packageId = packageId ∧ pkg.packageRevision = revision) ∨
  revision ∈ t.filterMap (Entry.grantedRevision task packageId)

/-- The ready records of the packages of `task` have a revision of `task`. -/
def RevisionsFit (task : VehicleTaskSnapshot) (t : List Entry) (s : FotaCloudStateStore) : Prop :=
  ∀ pkg ∈ task.packageList, ∀ r ∈ s.loadDownload pkg.packageId, r.ready →
    RevisionOf task t pkg.packageId r.packageRevision

/-- A package is skipped only for a record of its revision, and a task becomes ready only when
its ready records have its revisions. -/
def RevisionChecked (a : Entry) (past : List Entry) : Prop :=
  match a.event with
  | .skipped pkg r => RevisionOf a.mem.frozenTask past pkg.packageId r.packageRevision
  | .saved (.vehicleTask r) =>
    r.localDispositionResult = "download" → r.vehicleTaskState = "READY" →
      RevisionsFit a.mem.frozenTask past a.store
  | _ => True

/-- A task is frozen only when the ready records of its packages fit it, and an unfinished record
of another revision is granted under its own revision or replaced by the granted object. -/
def RevisionsMaintained (a : Entry) (past : List Entry) : Prop :=
  match a.event with
  | .returned (.checkTask _ _) (.ok resp) =>
    resp.inventoryDisposition = .accepted → ∀ task ∈ resp.task, RevisionsFit task past a.store
  | .returned (.requestDownload req _) (.ok grant) =>
    RevisionOf a.mem.frozenTask past req.packageId req.packageRevision ∨
    grant.packageRevision = req.packageRevision ∨
    newEtag ((a.store.loadDownload req.packageId).getD {}) grant ∧ grant.packageRevision ≠ ""
  | _ => True

instance (task : VehicleTaskSnapshot) (t : List Entry) (packageId revision : String) :
    Decidable (RevisionOf task t packageId revision) :=
  inferInstanceAs (Decidable (_ ∨ _))

instance (task : VehicleTaskSnapshot) (t : List Entry) (s : FotaCloudStateStore) :
    Decidable (RevisionsFit task t s) :=
  inferInstanceAs (Decidable (∀ pkg ∈ task.packageList, _))

instance (a : Entry) (past : List Entry) : Decidable (RevisionChecked a past) := by
  obtain ⟨_ | _ | _ | s | _, _, _, _⟩ := a
  all_goals unfold RevisionChecked; try infer_instance
  rcases s with _ | _ <;> infer_instance

instance (a : Entry) (past : List Entry) : Decidable (RevisionsMaintained a past) := by
  obtain ⟨_ | _ | ⟨c, r⟩ | _, _, _, _⟩ := a
  all_goals unfold RevisionsMaintained; try infer_instance
  rcases c with _ | _ <;> try infer_instance
  all_goals rcases r with _ | _ <;> infer_instance

/-- The invariant of runs. -/
structure RevisionsKept (w : World) : Prop where
  checked : Always RevisionChecked w.trace
  fit : RevisionsFit w.mem.frozenTask w.trace w.store
  durable : durableTask w.store = w.mem.frozenTask

/-- The invariant while a record of the given revision is on its way to being ready. -/
structure RevisionGranted (packageId revision : String) (w : World) : Prop
    extends RevisionsKept w where
  revision : RevisionOf w.mem.frozenTask w.trace packageId revision

section Revisions

variable {e : Environment} {w w' : World} {parts : List Part} {task : VehicleTaskSnapshot}
  {packageId revision : String} {t : List Entry}

theorem RevisionOf.append (h : RevisionOf task t packageId revision) (new : List Entry) :
    RevisionOf task (new ++ t) packageId revision := by
  refine h.imp id fun granted => ?_
  rw [List.filterMap_append]
  exact List.mem_append_right _ granted

theorem RevisionOf.cons (h : RevisionOf task t packageId revision) (a : Entry) :
    RevisionOf task (a :: t) packageId revision :=
  h.append [a]

theorem RevisionsFit.append {s : FotaCloudStateStore} (h : RevisionsFit task t s)
    (new : List Entry) : RevisionsFit task (new ++ t) s :=
  fun pkg member r found ready => (h pkg member r found ready).append new

theorem revisionChecked_of_part (a : Entry) (past : List Entry) (phase : a.event.part ≠ .phase)
    (download : a.event.part ≠ .download) : RevisionChecked a past := by
  unfold RevisionChecked
  split
  next same => exact absurd (congrArg Event.part same) download
  next same => exact absurd (congrArg Event.part same) phase
  next => trivial

/-- The invariant survives where the trace grows and neither the records nor the task change. -/
theorem RevisionsKept.grow (h : RevisionsKept w) (new : List Entry)
    (trace : w'.trace = new ++ w.trace)
    (checked : Always RevisionChecked w'.trace) (downloads : w'.store.downloads = w.store.downloads)
    (task : w'.mem.frozenTask = w.mem.frozenTask)
    (durable : durableTask w'.store = w.mem.frozenTask) :
    RevisionsKept w' where
  checked := checked
  fit := by
    have fit := h.fit.append new
    simp only [RevisionsFit, FotaCloudStateStore.loadDownload, task, trace, downloads] at fit ⊢
    exact fit
  durable := by rw [durable, task]

/-- What touches neither the state nor the task nor the downloads keeps the invariant. -/
theorem RevisionsKept.within (h : RevisionsKept w) (within : Within parts w w')
    (phase : .phase ∉ parts) (frozen : .task ∉ parts) (download : .download ∉ parts) :
    RevisionsKept w' := by
  obtain ⟨new, trace, -⟩ := within.trace
  have record := (within.same .phase phase).2
  refine h.grow new trace (within.always (fun a past member => ?_) h.checked)
    (within.same .download download) (within.same .task frozen) ?_
  · exact revisionChecked_of_part a past (fun same => phase (same ▸ member))
      fun same => download (same ▸ member)
  · unfold durableTask at *
    rw [record]
    exact h.durable

theorem RevisionGranted.within (h : RevisionGranted packageId revision w)
    (within : Within [.outbox] w w') : RevisionGranted packageId revision w' where
  toRevisionsKept := h.toRevisionsKept.within within (by simp) (by simp) (by simp)
  revision := by
    obtain ⟨new, trace, -⟩ := within.trace
    rw [trace, within.same .task (by simp)]
    exact h.revision.append new

/-- Calls and their replies change nothing. -/
theorem RevisionsKept.event (h : RevisionsKept w) (event : Event)
    (silent : RevisionChecked ⟨event, w.mem, w.store, w.tick⟩ w.trace)
    (store : (w.effect event).store = w.store) : RevisionsKept (w.effect event) :=
  h.grow [_] rfl ⟨silent, h.checked⟩ (by rw [store]) rfl (by rw [store]; exact h.durable)

theorem RevisionGranted.event (h : RevisionGranted packageId revision w) (event : Event)
    (silent : RevisionChecked ⟨event, w.mem, w.store, w.tick⟩ w.trace)
    (store : (w.effect event).store = w.store) :
    RevisionGranted packageId revision (w.effect event) where
  toRevisionsKept := h.toRevisionsKept.event event silent store
  revision := h.revision.cons _

theorem RevisionsKept.move (h : RevisionsKept w) (s : VehicleTaskState) :
    RevisionsKept (w.move s) :=
  h.grow [_] rfl ⟨trivial, h.checked⟩ rfl rfl h.durable

theorem RevisionsKept.persist (h : RevisionsKept w) (action : String) (now : Int) :
    RevisionsKept (w.persist action now) :=
  h.grow [_] rfl ⟨fun _ _ => h.fit, h.checked⟩ rfl rfl rfl

/-- A record may be saved if it is not ready or has a revision of the task. -/
theorem RevisionsKept.save (h : RevisionsKept w) {r : FotaDownloadRecord}
    (fits : r.ready → RevisionOf w.mem.frozenTask w.trace r.packageId r.packageRevision) :
    RevisionsKept (w.effect (.saved (.download r))) where
  checked := ⟨trivial, h.checked⟩
  durable := h.durable
  fit := by
    intro pkg member r' found ready
    rw [World.effect_saved_store, loadDownload_save] at found
    split at found
    next same =>
      cases found
      exact (same ▸ fits ready).cons _
    next => exact (h.fit pkg member r' found ready).cons _

/-- What a grant does to a record leaves it with a revision of the task. -/
theorem revision_applyGrant {entry : FotaDownloadRecord} {grant : DownloadGrantResponse}
    (req : DownloadGrantRequest) (ctx : CallContext) (revision : entry.packageRevision =
      req.packageRevision)
    (maintained : RevisionOf w.mem.frozenTask w.trace req.packageId req.packageRevision ∨
      grant.packageRevision = req.packageRevision ∨
      newEtag entry grant ∧ grant.packageRevision ≠ "") :
    RevisionOf w.mem.frozenTask (w.effect (.returned (.requestDownload req ctx) (.ok grant))).trace
      req.packageId (applyGrant entry grant).packageRevision := by
  have granted : RevisionOf w.mem.frozenTask
      (w.effect (.returned (.requestDownload req ctx) (.ok grant))).trace req.packageId
      grant.packageRevision := by
    right
    simp [Entry.grantedRevision]
  have kept (same : (applyGrant entry grant).packageRevision = entry.packageRevision)
      (unreplaced : ¬(newEtag entry grant ∧ grant.packageRevision ≠ "")) :
      RevisionOf w.mem.frozenTask
        (w.effect (.returned (.requestDownload req ctx) (.ok grant))).trace req.packageId
        (applyGrant entry grant).packageRevision := by
    rw [same, revision]
    rcases maintained with known | renamed | replaced
    -- it was one before
    · exact known.cons _
    -- the grant is for the revision that was asked for
    · exact renamed ▸ granted
    -- the grant replaces the object
    · exact absurd replaced unreplaced
  by_cases new : newEtag entry grant
  · by_cases named : grant.packageRevision = ""
    · exact kept (by simp [applyGrant, new, named]) (by simp [named])
    · simpa [applyGrant, new, named] using granted
  · exact kept (by simp [applyGrant, new]) (by simp [new])

theorem revisions_called {c : Call}
    (holds : Assuming RevisionsMaintained RevisionsKept w)
    (within : Within [.outbox] (w.effect (.called c)) w') :
    Assuming RevisionsMaintained RevisionsKept w' :=
  within.assuming (holds.effect fun _ body => body.event (.called c) trivial rfl) fun body =>
    body.within within (by simp) (by simp) (by simp)

theorem revisions_returned {c : Call} (r : c.Reply)
    (holds : Assuming RevisionsMaintained RevisionsKept w) :
    Assuming RevisionsMaintained RevisionsKept (w.effect (.returned c r)) :=
  holds.effect fun _ body => body.event (.returned c r) trivial rfl

theorem granted_called {c : Call}
    (holds : Assuming RevisionsMaintained (RevisionGranted packageId revision) w)
    (within : Within [.outbox] (w.effect (.called c)) w') :
    Assuming RevisionsMaintained (RevisionGranted packageId revision) w' :=
  within.assuming (holds.effect fun _ body => body.event (.called c) trivial rfl) fun body =>
    body.within within

theorem granted_reported {report : StageResultReport} {ctx : CallContext}
    (reply : CloudReply StageResultResponse)
    (holds : Assuming RevisionsMaintained (RevisionGranted packageId revision) w) :
    Assuming RevisionsMaintained (RevisionGranted packageId revision)
      (w.effect (.returned (.reportStageResult report ctx) reply)) :=
  holds.effect fun _ body => body.event _ trivial rfl

/-- Whatever the grant does to the record, a granted revision of the task is what it has then. -/
theorem granted_requestDownload (pkg : PackageSummary) (grant : DownloadGrantResponse)
    (ctx : CallContext) (task : VehicleTaskSnapshot) (entry : FotaDownloadRecord)
    (loaded : entry = (w.store.loadDownload pkg.packageId).getD (newDownloadRecord pkg))
    (holds : Assuming RevisionsMaintained RevisionsKept w) :
    Assuming RevisionsMaintained
      (RevisionGranted pkg.packageId (applyGrant entry grant).packageRevision)
      (w.effect (.returned (.requestDownload (downloadGrantRequest task pkg entry) ctx)
        (.ok grant))) := by
  have etag :
      newEtag entry grant = newEtag ((w.store.loadDownload pkg.packageId).getD {}) grant := by
    rw [loaded]
    cases w.store.loadDownload pkg.packageId <;> rfl
  refine fun cond => { revisions_returned _ holds cond with revision := ?_ }
  have maintained := cond.1
  simp only [RevisionsMaintained] at maintained
  exact revision_applyGrant (downloadGrantRequest task pkg entry) ctx rfl (etag ▸ maintained)

theorem granted_advance
    (holds : Assuming RevisionsMaintained (RevisionGranted packageId revision) w) :
    Assuming RevisionsMaintained (RevisionGranted packageId revision) w.advance :=
  fun cond => (holds cond).within .advance

theorem revisions_abandonDownload {entry : FotaDownloadRecord} (ex : FotaCloudException)
    (holds : Assuming RevisionsMaintained (fun w => RevisionsKept w ∧ (entry.ready →
      RevisionOf w.mem.frozenTask w.trace entry.packageId entry.packageRevision)) w) :
    wp (abandonDownload entry ex) (fun _ => Assuming RevisionsMaintained RevisionsKept)
      (Assuming RevisionsMaintained RevisionsKept) e w := by
  unfold abandonDownload
  simp only [wp_bind, wp_setVtState, wp_pure]
  have saved : Assuming RevisionsMaintained RevisionsKept
      ((w.move .downloading).effect (.saved (.download entry))) := fun cond =>
    have body := holds cond.2.2
    (body.1.move .downloading).save fun ready => (body.2 ready).cons _
  exact wp_save saved saved

/-- One that has come to its end. -/
theorem revisions_concludeDownload {entry : FotaDownloadRecord} {cleared : Bool}
    {outcome : DownloadOutcome}
    (holds : Assuming RevisionsMaintained
      (RevisionGranted entry.packageId entry.packageRevision) w) :
    wp (concludeDownload entry cleared outcome)
      (fun _ => Assuming RevisionsMaintained RevisionsKept)
      (Assuming RevisionsMaintained RevisionsKept) e w := by
  unfold concludeDownload
  simp only [wp_ite, wp_bind, wp_pure]
  split
  -- its stages succeeded, and the record is ready
  next =>
    have saved := holds.effect (v := .saved (.download entry))
      (Q := RevisionsKept) fun _ body => body.toRevisionsKept.save fun _ => body.revision
    exact wp_save saved saved
  -- a stage failed
  next =>
    have saved := holds.effect (v := .saved (.download (markFailed entry)))
      (Q := RevisionsKept) fun _ body => body.toRevisionsKept.save (by simp [markFailed])
    exact wp_save saved saved

/-- A package with its grant. -/
theorem revisions_verifyPackage {pkg : PackageSummary} {entry : FotaDownloadRecord}
    {grant : DownloadGrantResponse} (id : entry.packageId = packageId)
    (holds : Assuming RevisionsMaintained
      (RevisionGranted packageId (applyGrant entry grant).packageRevision) w) :
    wp (verifyPackage pkg entry grant) (fun _ => Assuming RevisionsMaintained RevisionsKept)
      (Assuming RevisionsMaintained RevisionsKept) e w := by
  obtain rfl : (applyGrant entry grant).packageId = packageId := (applyGrant_packageId _ _).trans id
  have kept : ∀ {w}, Assuming RevisionsMaintained (RevisionGranted
      (applyGrant entry grant).packageId (applyGrant entry grant).packageRevision) w →
      Assuming RevisionsMaintained RevisionsKept w := fun holds cond =>
    (holds cond).toRevisionsKept
  unfold verifyPackage
  simp only [wp_bind, wp_ite, wp_nowMs, wp_makeCtx]
  refine wp_call (fun w' within => kept (granted_called holds within)) fun w' outcome within => ?_
  have answered := (granted_called holds within).effect
    (v := .returned (.downloadAndVerify pkg grant (applyGrant entry grant).currentOffsetBytes)
      outcome) fun _ body => body.event _ trivial rfl
  refine ⟨kept answered, ?_⟩
  split
  next =>
    have waiting := granted_advance answered
    refine wp_call (fun w'' within => kept (granted_called waiting within))
      fun w'' reply within => ?_
    have reported := granted_called waiting within
    refine ⟨kept (granted_reported reply reported), ?_⟩
    cases reply with
    -- no answer to the report
    | error ex =>
      exact revisions_abandonDownload ex fun cond =>
        have body := granted_reported (.error ex) reported cond
        ⟨body.toRevisionsKept, fun _ => body.revision⟩
    -- accepted or not
    | ok resp =>
      simp only [wp_ite]
      split
      next => exact revisions_concludeDownload (granted_reported (.ok resp) reported)
      next => exact revisions_concludeDownload (granted_reported (.ok resp) reported)
  -- nothing is reported
  next => exact revisions_concludeDownload answered

/-- One package. -/
theorem revisions_downloadPackage (pkg : PackageSummary)
    (holds : Assuming RevisionsMaintained (fun w => RevisionsKept w ∧
      pkg ∈ w.mem.frozenTask.packageList) w) :
    wp (downloadPackage pkg) (fun _ => Assuming RevisionsMaintained RevisionsKept)
      (Assuming RevisionsMaintained RevisionsKept) e w := by
  unfold downloadPackage
  simp only [wp_bind, wp_store, wp_ite, wp_note, wp_memory, wp_makeCtx]
  split
  -- it is ready, and its record fits
  next ready =>
    intro cond
    obtain ⟨body, listed⟩ := holds cond.2
    refine body.grow [_] rfl ⟨?_, body.checked⟩ rfl rfl body.durable
    exact body.fit pkg listed _ (loaded_of_ready pkg ready) ready
  next unready =>
    have holds : Assuming RevisionsMaintained RevisionsKept w := fun cond => (holds cond).1
    have id := getD_packageId w.store pkg
    refine wp_call (fun w' within => revisions_called holds within) fun w' reply within => ?_
    have waiting := revisions_called holds within
    have same : w'.store.downloads = w.store.downloads := within.same .download (by simp)
    cases reply with
    -- no grant
    | error ex =>
      exact ⟨revisions_returned _ waiting, revisions_abandonDownload ex fun cond =>
        ⟨revisions_returned _ waiting cond, fun ready => absurd ready unready⟩⟩
    -- a grant
    | ok grant =>
      have replied := fun ctx => granted_requestDownload pkg grant ctx w.mem.frozenTask
        ((w.store.loadDownload pkg.packageId).getD (newDownloadRecord pkg))
        (by simp [FotaCloudStateStore.loadDownload, same]) waiting
      exact ⟨fun cond => (replied _ cond).toRevisionsKept, revisions_verifyPackage id (replied _)⟩

/-- All packages, by induction on the list. -/
theorem revisions_downloadPackages (packages : List PackageSummary) (allReady : Bool)
    (error : String) (listed : ∀ pkg ∈ packages, pkg ∈ w.mem.frozenTask.packageList)
    (holds : Assuming RevisionsMaintained RevisionsKept w) :
    wp (downloadPackages packages allReady error)
      (fun _ => Assuming RevisionsMaintained RevisionsKept)
      (Assuming RevisionsMaintained RevisionsKept) e w := by
  induction packages generalizing w allReady error with
  | nil => exact holds
  | cons pkg rest ih =>
    unfold downloadPackages
    simp only [wp_bind]
    have body := revisions_downloadPackage (e := e) pkg fun cond =>
      ⟨holds cond, listed pkg (by simp)⟩
    refine wp_mono (wp_and body (proceeds_downloadPackage pkg w)) (fun r w' both => ?_)
      fun _ both => both.1
    obtain ⟨kept, advances⟩ := both
    cases r with
    | stop ex => exact kept
    | next cleared ex =>
      refine ih _ _ (fun pkg member => ?_) kept
      rw [advances.touched.same .task (by simp)]
      exact listed pkg (by simp [member])

/-- The phase: the packages, and the state after them. -/
theorem revisions_doDownload (holds : Assuming RevisionsMaintained RevisionsKept w) :
    wp doDownload (fun _ => Assuming RevisionsMaintained RevisionsKept)
      (Assuming RevisionsMaintained RevisionsKept) e w := by
  unfold doDownload
  simp only [wp_bind, wp_memory]
  refine wp_mono (revisions_downloadPackages _ true "" (fun _ member => member) holds)
    (fun r w' kept => ?_) fun _ h => h
  cases r with
  | error ex => exact kept
  | ok r =>
    simp only [persistVehicleTask, wp_bind, wp_setVtState, wp_nowMs, wp_memory, wp_pure]
    have saved : ∀ s, Assuming RevisionsMaintained RevisionsKept
        ((w'.move s).advance.persist "download" (e.clock (w'.move s).tick)) := fun s cond =>
      (((kept cond.2.2).move s).within .pause (by simp) (by simp) (by simp)).persist
        _ _
    exact wp_save (saved _) (saved _)

theorem revisions_proceeds {α : Type} {m : Orch α} {states : VehicleTaskState → Prop}
    {actions : List String} (h : Proceeds e parts states actions m) (phase : .phase ∉ parts)
    (frozen : .task ∉ parts) (download : .download ∉ parts) :
    Keeps e (Assuming RevisionsMaintained RevisionsKept) m := by
  refine h.keeps ?_ ?_ ?_
  · exact fun _ _ within holds => within.assuming holds fun body =>
      body.within within (by simp [phase]) (by simp [frozen]) (by simp [download])
  · exact fun w s _ holds cond => (holds cond.2).move s
  · exact fun w action now _ holds cond => (holds cond.2).persist action now

/-- A task is frozen over records that fit it. -/
theorem revisions_freezeTask
    (holds : Assuming RevisionsMaintained (fun w => RevisionsKept w ∧
      RevisionsFit task w.trace w.store) w) :
    wp (freezeTask task) (fun _ => Assuming RevisionsMaintained RevisionsKept)
      (Assuming RevisionsMaintained RevisionsKept) e w := by
  have rest : Proceeds e [] (fun _ => True) ["consentRequired"] (do
      setVtState (if task.consentRequired then .consentPending else .downloadPending)
      persistVehicleTask "consentRequired"
      let m ← memory
      return ({ action := "checkTask", vehicleTaskState := m.vtState } : StepOutcome)) :=
    .bind (proceeds_setVtState _ trivial) fun _ =>
      .bind (proceeds_persistVehicleTask _ (by simp)) fun _ =>
      .bind (quietly touches_memory) fun _ => .pure _
  have keeps := revisions_proceeds rest (by simp) (by simp) (by simp)
  have frozen : Assuming RevisionsMaintained RevisionsKept
      (((w.withMemory fun m => { m with frozenTask := task }).move .discovered).advance.persist
        "checkTask" (e.clock w.tick)) := by
    intro cond
    obtain ⟨body, fit⟩ := holds cond.2.2
    exact ⟨⟨fun other => by simp [vehicleTaskRecord] at other, trivial, body.checked⟩,
      fit.append [_, _], rfl⟩
  unfold freezeTask
  rw [wp_bind, wp_setMemory, wp_bind, wp_setVtState, wp_bind]
  exact wp_persistVehicleTask frozen (keeps _ frozen)

/-- The check of the task. -/
theorem revisions_doCheckTask (holds : Assuming RevisionsMaintained RevisionsKept w) :
    wp doCheckTask (fun _ => Assuming RevisionsMaintained RevisionsKept)
      (Assuming RevisionsMaintained RevisionsKept) e w := by
  unfold doCheckTask
  simp only [wp_bind, wp_memory, wp_makeCtx]
  refine wp_call (fun w' within => revisions_called holds within) fun w' inv within => ?_
  have collected := revisions_returned inv (revisions_called holds within)
  refine ⟨collected, wp_call (fun w'' within => revisions_called collected within)
    fun w'' reply within => ?_⟩
  have answered := revisions_returned reply (revisions_called collected within)
  refine ⟨answered, ?_⟩
  cases reply with
  -- no answer
  | error ex => exact answered
  | ok resp =>
    simp only [wp_ite]
    split
    -- an inventory that is not accepted
    next =>
      exact (touches_requireFull [.inventory] _ _ _ (by simp)).keeps
        (fun _ _ within holds => within.assuming holds fun body =>
          body.within within (by simp) (by simp) (by simp)) _ answered
    next accepted =>
      cases frozen : resp.task with
      -- no task
      | none => exact answered
      -- a task, over records that fit by assumption
      | some task =>
        refine revisions_freezeTask fun cond => ⟨answered cond, ?_⟩
        have fit : RevisionsFit task w''.trace w''.store :=
          cond.1 (not_not.mp accepted) task frozen
        exact fit.append [_]

/-- A step, by the action of its state. -/
theorem revisions_step (holds : Assuming RevisionsMaintained RevisionsKept w) :
    wp step (fun _ => Assuming RevisionsMaintained RevisionsKept)
      (Assuming RevisionsMaintained RevisionsKept) e w := by
  have moved : ∀ w s, Assuming RevisionsMaintained RevisionsKept w →
      Assuming RevisionsMaintained RevisionsKept (World.move w s) := fun w s holds cond =>
    (holds cond.2).move s
  refine wp_step (fun _ => holds) (fun _ => revisions_doCheckTask holds) (fun _ => ?_)
    (fun _ => revisions_doDownload holds) (fun _ => ?_) (fun _ => ?_) (fun _ => ?_) fun _ => ?_
  · exact revisions_proceeds proceeds_doConsent (by simp) (by simp) (by simp) w holds
  · exact revisions_proceeds proceeds_doPermit (by simp) (by simp) (by simp) w holds
  · exact revisions_proceeds proceeds_doExecute (by simp) (by simp) (by simp) w holds
  · exact revisions_proceeds proceeds_doPermit (by simp) (by simp) (by simp) _ (moved _ _ holds)
  · refine revisions_proceeds proceeds_doExecute (by simp) (by simp) (by simp) _ (moved _ _ ?_)
    exact fun cond =>
      have body := holds cond.2
      body.grow [_] rfl ⟨trivial, body.checked⟩ rfl rfl body.durable

/-- After a restart the task in memory is the durable one, or none. -/
theorem revisions_restart (holds : Assuming RevisionsMaintained RevisionsKept w) :
    Assuming RevisionsMaintained RevisionsKept (restart w) := by
  intro cond
  have body := holds cond.2
  have checked : Always RevisionChecked (restart w).trace := ⟨trivial, body.checked⟩
  cases lacks : lacksSnapshot w.store with
  -- without a snapshot there is no task
  | true =>
    have mem : (restart w).mem = {} := loadFromStore_without_snapshot lacks
    exact ⟨checked, by rw [mem]; simp [RevisionsFit],
      by rw [mem]; exact durableTask_without_snapshot lacks⟩
  -- otherwise the stored one
  | false =>
    have task : (restart w).mem.frozenTask = durableTask w.store := by
      rw [restart_mem, loadFromStore_with_snapshot lacks]
    refine ⟨checked, ?_, task.symm⟩
    rw [task, body.durable]
    exact body.fit.append [_]

end Revisions

/-- Over every run from an empty or a migrated store, with crashes anywhere: if tasks are frozen
only over fitting ready records, and unfinished records of other revisions are granted as such or
replaced, then packages are skipped only for records of their revision. -/
theorem revisions_checked (env : Environment) (s : FotaCloudStateStore) (first : FirstStore s)
    (ops : List Operation)
    (maintained : Always RevisionsMaintained (run env (boot s) ops).trace) :
    Always RevisionChecked (run env (boot s) ops).trace := by
  let J := Assuming RevisionsMaintained RevisionsKept
  have noted : ∀ w event, event.part = .run → J w → J (w.note event) :=
    fun w event part holds cond =>
      have body := holds cond.2
      body.grow [_] rfl ⟨revisionChecked_of_part _ _ (by simp [part]) (by simp [part]),
        body.checked⟩ rfl rfl body.durable
  have restarts : ∀ w, J w → J (restart w) := fun w => revisions_restart
  have start : RevisionsKept { store := s } := ⟨trivial, by simp [RevisionsFit], first.durableTask⟩
  have initial : J (boot s) := restarts _ fun _ => start
  exact (run_keeps J J (fun op w => noted w (.began op) rfl)
    (fun w w' within holds => within.assuming holds fun body =>
      body.within within (by simp) (by simp) (by simp))
    (fun w holds => revisions_step (noted w _ rfl holds)) (fun _ holds => holds)
    (fun w holds => restarts _ (noted w .crashed rfl holds)) restarts ops initial
    maintained).checked

/-- A legacy state with one finished download. -/
def sampleLegacy (packageRevision : String) : LegacyStore :=
  { downloads := some
      [{ packageId := "P-1", packageRevision, verifyStatus := "SUCCEEDED", ready := true }] }

/-- The record has the revision that the task asks for. -/
theorem revisions_checked_after_migration :
    let s := migrateOtaToFota (sampleLegacy "1") {}
    let w := run cooperative (boot s) (List.replicate 6 .step)
    FirstStore s ∧ Always RevisionsMaintained w.trace ∧ Always RevisionChecked w.trace := by
  refine ⟨.migrated _, ?_, @revisions_checked _ _ (.migrated _) _ ?_⟩
  · decide +kernel
  · decide +kernel

/-- A migrated record of another revision keeps the package from being downloaded. -/
theorem stale_package_is_skipped :
    let s := migrateOtaToFota (sampleLegacy "0") {}
    ¬Always RevisionChecked (run cooperative (boot s) (List.replicate 3 .step)).trace := by
  decide +kernel

end CgwFota
