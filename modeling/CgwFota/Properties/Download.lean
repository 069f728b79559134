import CgwFota.Orchestrator.Advance

/-!
# Downloads and readiness

Whether a package is done is kept twice: in its durable record, where `ready` makes later steps skip
it, and in the local `allReady` of the loop that decides about the task.

## Main definitions

* `Verified`: the package has a durable record that is ready and verified.
* `ReadyVerified`: the task is saved as ready only with all its packages verified.
* `SuccessHasResult`: the downloader claims no success without a stage result.
* `Downloading`, `Pending`: the invariants of the loop and of its body.

## Main results

* `ready_packages_verified`: under that condition, readiness means verification in every run.
* `unverified_package_is_ready`: without a stage result it does not.

## Proof strategy

The loop is walked once, with the list of packages known to be verified as it grows; the flag
`allReady` survives only if every package came onto that list. Records of packages that are verified
already are not written any more, so none of them is lost on the way.
-/
namespace CgwFota

open Crash

/-- The package has a durable record that says it is ready and verified. -/
def Verified (s : FotaCloudStateStore) (packageId : String) : Prop :=
  ∃ r ∈ s.loadDownload packageId, r.ready ∧ r.verifyStatus = "SUCCEEDED"

/-- No record is ready without being verified. -/
def RecordsVerified (s : FotaCloudStateStore) : Prop :=
  ∀ packageId, ∀ r ∈ s.loadDownload packageId, r.ready → r.verifyStatus = "SUCCEEDED"

/-- `doDownload` persists the task as ready only when all its packages are verified. -/
def ReadyVerified (a : Entry) (_past : List Entry) : Prop :=
  match a.event with
  | .saved (.vehicleTask r) =>
    r.localDispositionResult = "download" → r.vehicleTaskState = "READY" →
      ∀ pkg ∈ a.mem.frozenTask.packageList, Verified a.store pkg.packageId
  | _ => True

/-- The downloader does not claim success of all stages without handing over a stage result. -/
def SuccessHasResult (a : Entry) (_past : List Entry) : Prop :=
  match a.event with
  | .returned (.downloadAndVerify _ _ _) outcome =>
    outcome.allStagesSucceeded → outcome.hasStageResult
  | _ => True

instance (s : FotaCloudStateStore) (packageId : String) : Decidable (Verified s packageId) :=
  inferInstanceAs (Decidable (∃ r ∈ s.loadDownload packageId, _))

instance (a : Entry) (past : List Entry) : Decidable (ReadyVerified a past) := by
  obtain ⟨_ | _ | _ | s | _, _, _, _⟩ := a
  all_goals unfold ReadyVerified; try infer_instance
  rcases s with _ | _ <;> infer_instance

instance (a : Entry) (past : List Entry) : Decidable (SuccessHasResult a past) := by
  obtain ⟨_ | _ | ⟨c, r⟩ | _, _, _, _⟩ := a
  all_goals unfold SuccessHasResult; try infer_instance
  rcases c with _ | _ <;> infer_instance

section Records

variable {s : FotaCloudStateStore} {r : FotaDownloadRecord} {packageId : String}

theorem loadDownload_save (s : FotaCloudStateStore) (r : FotaDownloadRecord) (packageId : String) :
    (s.save (.download r)).loadDownload packageId =
      if r.packageId = packageId then some r else s.loadDownload packageId := rfl

theorem loadDownload_packageId (found : r ∈ s.loadDownload packageId) : r.packageId = packageId :=
  s.downloads.keyed packageId r found

theorem RecordsVerified.save (sound : RecordsVerified s)
    (verified : r.ready → r.verifyStatus = "SUCCEEDED") :
    RecordsVerified (s.save (.download r)) := by
  intro packageId r' found
  rw [loadDownload_save] at found
  split at found
  next => cases found; exact verified
  next => exact sound packageId r' found

theorem Verified.save (verified : Verified s packageId) (other : ¬Verified s r.packageId) :
    Verified (s.save (.download r)) packageId := by
  have ne : r.packageId ≠ packageId := fun same => other (same ▸ verified)
  unfold Verified
  rw [loadDownload_save, if_neg ne]
  exact verified

theorem verified_save_self (s : FotaCloudStateStore) (ready : r.ready)
    (status : r.verifyStatus = "SUCCEEDED") :
    Verified (s.save (.download r)) r.packageId :=
  ⟨r, (loadDownload_save s r r.packageId).trans (if_pos rfl), ready, status⟩

/-- The record a package starts with is not ready unless it was loaded. -/
theorem loaded_of_ready (pkg : PackageSummary)
    (ready : ((s.loadDownload pkg.packageId).getD (newDownloadRecord pkg)).ready) :
    (s.loadDownload pkg.packageId).getD (newDownloadRecord pkg) ∈
      s.loadDownload pkg.packageId := by
  cases found : s.loadDownload pkg.packageId with
  | none => simp [found, newDownloadRecord] at ready
  | some r => rfl

theorem getD_packageId (s : FotaCloudStateStore) (pkg : PackageSummary) :
    ((s.loadDownload pkg.packageId).getD (newDownloadRecord pkg)).packageId = pkg.packageId := by
  cases found : s.loadDownload pkg.packageId with
  | none => rfl
  | some r => exact loadDownload_packageId (s := s) found

theorem applyGrant_packageId (entry : FotaDownloadRecord) (grant : DownloadGrantResponse) :
    (applyGrant entry grant).packageId = entry.packageId := by
  unfold applyGrant
  split <;> rfl

theorem applyGrant_ready (entry : FotaDownloadRecord) (grant : DownloadGrantResponse) :
    (applyGrant entry grant).ready = entry.ready := by
  unfold applyGrant
  split <;> rfl

end Records

/-! ### Ready means verified -/

/-- The invariant of runs. -/
structure DownloadsVerified (w : World) : Prop where
  ready : Always ReadyVerified w.trace
  records : RecordsVerified w.store

/-- The invariant inside the loop of `doDownload` over the packages of `task`. -/
structure Downloading (task : VehicleTaskSnapshot) (done : List String) (w : World) : Prop
    extends DownloadsVerified w where
  task : w.mem.frozenTask = task
  done : ∀ packageId ∈ done, Verified w.store packageId

/-- One of the packages is being worked on and not verified yet. -/
structure Pending (task : VehicleTaskSnapshot) (done : List String) (packageId : String)
    (w : World) : Prop extends Downloading task done w where
  fresh : ¬Verified w.store packageId

section Ready

variable {e : Environment} {w w' : World} {parts : List Part} {task : VehicleTaskSnapshot}
  {done : List String}

theorem readyVerified_of_part (a : Entry) (past : List Entry) (other : a.event.part ≠ .phase) :
    ReadyVerified a past := by
  unfold ReadyVerified
  split
  next same => exact absurd (congrArg Event.part same) other
  next => trivial

/-- Steps that touch neither the task nor the downloads keep what runs keep. -/
theorem DownloadsVerified.within (h : DownloadsVerified w) (within : Within parts w w')
    (phase : .phase ∉ parts) (download : .download ∉ parts) : DownloadsVerified w' where
  ready := within.always
    (fun a past member => readyVerified_of_part a past fun same => phase (same ▸ member)) h.ready
  records := by
    have same : w'.store.downloads = w.store.downloads := within.same .download download
    simp only [RecordsVerified, FotaCloudStateStore.loadDownload, same]
    exact h.records

/-- They keep the invariant of the loop, if they leave the frozen task. -/
theorem Downloading.within (h : Downloading task done w) (within : Within parts w w')
    (phase : .phase ∉ parts) (download : .download ∉ parts) (frozen : .task ∉ parts) :
    Downloading task done w' where
  toDownloadsVerified := h.toDownloadsVerified.within within phase download
  task := Eq.trans (within.same .task frozen) h.task
  done := by
    have same : w'.store.downloads = w.store.downloads := within.same .download download
    simp only [Verified, FotaCloudStateStore.loadDownload, same]
    exact h.done

/-- Entries other than a task record change nothing. -/
theorem Downloading.event (h : Downloading task done w) {event : Event}
    (other : event.part ≠ .phase) (store : (w.effect event).store.downloads = w.store.downloads) :
    Downloading task done (w.effect event) where
  ready := ⟨readyVerified_of_part _ _ other, h.ready⟩
  records := by
    simp only [RecordsVerified, FotaCloudStateStore.loadDownload, store]
    exact h.records
  task := h.task
  done := by
    simp only [Verified, FotaCloudStateStore.loadDownload, store]
    exact h.done

/-- A record may be saved for a package that is not yet verified. -/
theorem Downloading.save (h : Downloading task done w) {r : FotaDownloadRecord}
    (fresh : ¬Verified w.store r.packageId)
    (verified : r.ready → r.verifyStatus = "SUCCEEDED") :
    Downloading task done (w.effect (.saved (.download r))) where
  ready := ⟨trivial, h.ready⟩
  records := h.records.save verified
  task := h.task
  done packageId member := (h.done packageId member).save fresh

theorem Downloading.move (h : Downloading task done w) (s : VehicleTaskState) :
    Downloading task done (w.move s) where
  ready := ⟨trivial, h.ready⟩
  records := h.records
  task := h.task
  done := h.done

theorem Pending.within {packageId : String} (h : Pending task done packageId w)
    (within : Within [.outbox] w w') : Pending task done packageId w' where
  toDownloading := h.toDownloading.within within (by simp) (by simp) (by simp)
  fresh := by
    have same : w'.store.downloads = w.store.downloads := within.same .download (by simp)
    simp only [Verified, FotaCloudStateStore.loadDownload, same]
    exact h.fresh

theorem Pending.event {packageId : String} (h : Pending task done packageId w) {event : Event}
    (other : event.part ≠ .phase) (store : (w.effect event).store = w.store) :
    Pending task done packageId (w.effect event) where
  toDownloading := h.toDownloading.event other (by rw [store])
  fresh := by rw [store]; exact h.fresh

/-- The packages known to be verified after the loop body has returned `r` for `packageId`. -/
def PackageResult.verified (r : PackageResult) (packageId : String) (done : List String) :
    List String :=
  match r with
  | .next false _ => packageId :: done
  | _ => done

/-- The end of the body: the package is ready, or the loop no longer claims that all are. -/
theorem verified_concludeDownload {entry : FotaDownloadRecord} {cleared : Bool}
    {outcome : DownloadOutcome} {packageId : String} (id : entry.packageId = packageId)
    (verified : entry.ready → entry.verifyStatus = "SUCCEEDED")
    (holds : Assuming SuccessHasResult (fun w => Pending task done packageId w ∧
      (outcome.allStagesSucceeded → cleared = false → entry.ready)) w) :
    wp (concludeDownload entry cleared outcome)
      (fun r => Assuming SuccessHasResult (Downloading task (r.verified packageId done)))
      (Assuming SuccessHasResult DownloadsVerified) e w := by
  subst id
  unfold concludeDownload
  simp only [wp_ite, wp_bind, wp_pure]
  split
  -- all stages succeeded: the record says so, unless the flag was cleared
  next all =>
    have saved : Assuming SuccessHasResult (fun w' => Downloading task done w' ∧
        (cleared = false → Verified w'.store entry.packageId))
        (w.effect (.saved (.download entry))) := holds.effect fun _ body =>
      ⟨body.1.toDownloading.save body.1.fresh verified, fun kept =>
        have ready := body.2 all kept
        verified_save_self w.store ready (verified ready)⟩
    refine wp_save (fun cond => (saved cond).1.toDownloadsVerified) fun cond => ?_
    obtain ⟨downloading, ready⟩ := saved cond
    -- the flag was cleared, and nothing is claimed
    cases cleared with
    | true => exact downloading
    | false =>
      refine { downloading with done := fun packageId member => ?_ }
      rcases List.mem_cons.mp member with rfl | member
      · exact ready rfl
      · exact downloading.done packageId member
  -- some stage did not: the flag is cleared
  next =>
    have saved : Assuming SuccessHasResult (Downloading task done)
        (w.effect (.saved (.download (markFailed entry)))) := holds.effect fun _ body =>
      body.1.toDownloading.save body.1.fresh (by simp [markFailed])
    exact wp_save (fun cond => (saved cond).toDownloadsVerified) saved

/-- An error abandons the package, and the flag is cleared. -/
theorem verified_abandonDownload {entry : FotaDownloadRecord} (ex : FotaCloudException)
    {packageId : String} (id : entry.packageId = packageId) (unready : entry.ready = false)
    (holds : Assuming SuccessHasResult (Pending task done packageId) w) :
    wp (abandonDownload entry ex)
      (fun r => Assuming SuccessHasResult (Downloading task (r.verified packageId done)))
      (Assuming SuccessHasResult DownloadsVerified) e w := by
  subst id
  unfold abandonDownload
  simp only [wp_bind, wp_setVtState, wp_pure]
  have saved : Assuming SuccessHasResult (Downloading task done)
      ((w.move .downloading).effect (.saved (.download entry))) := fun cond =>
    have pending := holds cond.2.2
    (pending.toDownloading.move .downloading).save pending.fresh (by simp [unready])
  exact wp_save (fun cond => (saved cond).toDownloadsVerified) saved

theorem pending_called {packageId : String} {c : Call} (part : c.part = .download)
    (holds : Assuming SuccessHasResult (Pending task done packageId) w)
    (within : Within [.outbox] (w.effect (.called c)) w') :
    Assuming SuccessHasResult (Pending task done packageId) w' :=
  within.assuming (holds.effect fun _ body => body.event (by simp [Event.part, part]) rfl)
    fun body => body.within within

/-- The download and its verification, from the grant to the end of the body. -/
theorem verified_verifyPackage {pkg : PackageSummary} {entry : FotaDownloadRecord}
    (grant : DownloadGrantResponse) {packageId : String} (id : entry.packageId = packageId)
    (unready : entry.ready = false)
    (holds : Assuming SuccessHasResult (Pending task done packageId) w) :
    wp (verifyPackage pkg entry grant)
      (fun r => Assuming SuccessHasResult (Downloading task (r.verified packageId done)))
      (Assuming SuccessHasResult DownloadsVerified) e w := by
  have durable : ∀ {w}, Assuming SuccessHasResult (Pending task done packageId) w →
      Assuming SuccessHasResult DownloadsVerified w := fun holds cond =>
    (holds cond).toDownloadsVerified
  have id : (applyGrant entry grant).packageId = packageId := (applyGrant_packageId _ _).trans id
  have unready : (applyGrant entry grant).ready = false := (applyGrant_ready _ _).trans unready
  unfold verifyPackage
  simp only [wp_bind, wp_ite, wp_nowMs, wp_makeCtx]
  refine wp_call (fun w' within => durable (pending_called rfl holds within))
    fun w' outcome within => ?_
  have answered : Assuming SuccessHasResult (fun w => Pending task done packageId w ∧
      (outcome.allStagesSucceeded → outcome.hasStageResult)) (w'.effect (.returned _ outcome)) :=
    (pending_called rfl holds within).effect fun cond body =>
      ⟨body.event (by simp [Event.part, Call.part]) rfl, cond⟩
  refine ⟨durable fun cond => (answered cond).1, ?_⟩
  split
  -- a stage result was handed over, and the cloud is told
  next result =>
    have waiting : Assuming SuccessHasResult (Pending task done packageId)
        (w'.effect (.returned _ outcome)).advance := fun cond => (answered cond).1.within .advance
    refine wp_call (fun w'' within => durable (pending_called rfl waiting within))
      fun w'' reply within => ?_
    have reported : Assuming SuccessHasResult (Pending task done packageId)
        (w''.effect (.returned _ reply)) := (pending_called rfl waiting within).effect
      fun _ body => body.event (by simp [Event.part, Call.part]) rfl
    refine ⟨durable reported, ?_⟩
    cases reply with
    | error ex => exact verified_abandonDownload ex id unready reported
    | ok resp =>
      simp only [wp_ite]
      split
      -- the cloud did not accept it: the package stays unready
      next =>
        exact verified_concludeDownload id (fun _ => rfl) fun cond =>
          ⟨reported cond, fun _ _ => rfl⟩
      next =>
        exact verified_concludeDownload id (by simp [markFailed]) fun cond =>
          ⟨reported cond, by simp⟩
  -- no stage result: then the condition rules out success
  next result =>
    exact verified_concludeDownload id (by simp [unready]) fun cond =>
      ⟨(answered cond).1, fun all => absurd ((answered cond).2 all) result⟩

/-- The body of the loop: a package that is ready is skipped, another one is downloaded. -/
theorem verified_downloadPackage (pkg : PackageSummary)
    (holds : Assuming SuccessHasResult (Downloading task done) w) :
    wp (downloadPackage pkg)
      (fun r => Assuming SuccessHasResult (Downloading task (r.verified pkg.packageId done)))
      (Assuming SuccessHasResult DownloadsVerified) e w := by
  unfold downloadPackage
  simp only [wp_bind, wp_store, wp_ite, wp_note, wp_memory, wp_makeCtx]
  split
  -- its record is ready, and ready records are verified
  next ready =>
    intro cond
    have downloading := holds cond.2
    have found := loaded_of_ready pkg ready
    have verified : Verified w.store pkg.packageId :=
      ⟨_, found, ready, downloading.records _ _ found ready⟩
    refine { downloading with ready := ⟨trivial, downloading.ready⟩, done := fun id member => ?_ }
    rcases List.mem_cons.mp member with rfl | member
    · exact verified
    · exact downloading.done id member
  -- it is not ready, so it is not verified either
  next unready =>
    have id := getD_packageId w.store pkg
    have unready := Bool.eq_false_iff.mpr unready
    have pending : Assuming SuccessHasResult (Pending task done pkg.packageId) w := fun cond =>
      { holds cond with
        fresh := by
          rintro ⟨r, found, ready, -⟩
          have found : w.store.loadDownload pkg.packageId = some r := found
          simp [found, ready] at unready }
    refine wp_call
      (fun w' within cond => (pending_called rfl pending within cond).toDownloadsVerified)
      fun w' reply within => ?_
    have replied : Assuming SuccessHasResult (Pending task done pkg.packageId)
        (w'.effect (.returned _ reply)) := (pending_called rfl pending within).effect
      fun _ body => body.event (by simp [Event.part, Call.part]) rfl
    refine ⟨fun cond => (replied cond).toDownloadsVerified, ?_⟩
    cases reply with
    | error ex => exact verified_abandonDownload ex id unready replied
    | ok grant => exact verified_verifyPackage grant id unready replied

/-- Only if no package was passed over does the loop end with `allReady` still set. -/
theorem verified_downloadPackages (packages : List PackageSummary) (allReady : Bool)
    (error : String) (holds : Assuming SuccessHasResult (Downloading task done) w) :
    wp (downloadPackages packages allReady error)
      (fun r => Assuming SuccessHasResult fun w' => DownloadsVerified w' ∧
        w'.mem.frozenTask = task ∧ ∀ error', r = .ok (true, error') → allReady ∧
          ∀ packageId ∈ packages.map (·.packageId) ++ done, Verified w'.store packageId)
      (Assuming SuccessHasResult DownloadsVerified) e w := by
  induction packages generalizing w allReady error done with
  -- the end of the list: the flag is what it was
  | nil =>
    intro cond
    have downloading := holds cond
    refine ⟨downloading.toDownloadsVerified, downloading.task, fun error' result => ?_⟩
    cases result
    exact ⟨rfl, downloading.done⟩
  | cons pkg rest ih =>
    unfold downloadPackages
    simp only [wp_bind]
    refine wp_mono (verified_downloadPackage pkg holds) (fun r w' body => ?_) fun _ h => h
    cases r with
    -- an exception that is not caught in the body stops the loop
    | stop ex =>
      exact fun cond => ⟨(body cond).toDownloadsVerified, (body cond).task, by simp⟩
    | next cleared ex =>
      refine wp_mono (ih (allReady && !cleared) _ body) (fun r w'' loop cond => ?_) fun _ h => h
      obtain ⟨sound, task, ready⟩ := loop cond
      refine ⟨sound, task, fun error' result => ?_⟩
      obtain ⟨both, all⟩ := ready error' result
      cases cleared with
      -- a package that clears the flag leaves nothing to show
      | true => simp at both
      | false =>
        refine ⟨by simpa using both, fun packageId member => all packageId ?_⟩
        simp only [PackageResult.verified, List.map_cons, List.cons_append, List.mem_cons,
          List.mem_append] at member ⊢
        tauto

/-- A download phase saves the task as ready only if the loop says that all packages are. -/
theorem verified_doDownload (holds : Assuming SuccessHasResult DownloadsVerified w) :
    wp doDownload (fun _ => Assuming SuccessHasResult DownloadsVerified)
      (Assuming SuccessHasResult DownloadsVerified) e w := by
  have start : Assuming SuccessHasResult (Downloading w.mem.frozenTask []) w := fun cond =>
    ⟨holds cond, rfl, by simp⟩
  unfold doDownload
  simp only [wp_bind, wp_memory]
  refine wp_mono (verified_downloadPackages _ true "" start) (fun r w' loop => ?_) fun _ h => h
  cases r with
  | error ex => exact fun cond => (loop cond).1
  | ok r =>
    obtain ⟨allReady, error⟩ := r
    simp only [persistVehicleTask, wp_bind, wp_setVtState, wp_nowMs, wp_memory, wp_pure]
    let w₁ := (w'.move (if allReady then .ready else .downloading)).advance
    have saved : ∀ now, Assuming SuccessHasResult DownloadsVerified
        (w₁.effect (.saved (.vehicleTask (vehicleTaskRecord w₁.mem "download" now)))) := by
      intro now cond
      obtain ⟨sound, task, ready⟩ := loop cond.2.2
      refine ⟨⟨fun _ state => ?_, trivial, sound.ready⟩, sound.records⟩
      have state : vehicleTaskStateToString (if allReady then .ready else .downloading) = "READY" :=
        state
      -- the flag decides about the state that is saved
      cases allReady with
      | false => exact absurd state (by decide)
      | true =>
        intro pkg member
        have task : w₁.mem.frozenTask = w.mem.frozenTask := task
        rw [task] at member
        exact (ready error rfl).2 _ (by simpa using ⟨pkg, member, rfl⟩)
    exact wp_save (saved _) (saved _)

/-- Phases that touch no download and save the task under another action. -/
theorem verified_proceeds {α : Type} {m : Orch α} {states : VehicleTaskState → Prop}
    {actions : List String} (h : Proceeds e parts states actions m) (phase : .phase ∉ parts)
    (download : .download ∉ parts) (other : "download" ∉ actions) :
    Keeps e (Assuming SuccessHasResult DownloadsVerified) m := by
  refine h.keeps ?_ ?_ ?_
  · exact fun _ _ within holds =>
      within.assuming holds fun body => body.within within (by simp [phase]) (by simp [download])
  · exact fun w s _ holds cond => ⟨⟨trivial, (holds cond.2).ready⟩, (holds cond.2).records⟩
  · intro w action now listed holds
    exact holds.effect fun _ body =>
      ⟨⟨fun same => absurd (same ▸ listed) other, body.ready⟩, body.records⟩

theorem verified_step (holds : Assuming SuccessHasResult DownloadsVerified w) :
    wp step (fun _ => Assuming SuccessHasResult DownloadsVerified)
      (Assuming SuccessHasResult DownloadsVerified) e w := by
  have moved : ∀ w s, Assuming SuccessHasResult DownloadsVerified w →
      Assuming SuccessHasResult DownloadsVerified (World.move w s) := fun w s holds cond =>
    ⟨⟨trivial, (holds cond.2).ready⟩, (holds cond.2).records⟩
  refine wp_step (fun _ => holds) (fun _ => ?_) (fun _ => ?_) (fun _ => verified_doDownload holds)
    (fun _ => ?_) (fun _ => ?_) (fun _ => ?_) fun _ => ?_
  · exact verified_proceeds proceeds_doCheckTask (by simp) (by simp) (by simp) w holds
  · exact verified_proceeds proceeds_doConsent (by simp) (by simp) (by simp) w holds
  · exact verified_proceeds proceeds_doPermit (by simp) (by simp) (by simp) w holds
  · exact verified_proceeds proceeds_doExecute (by simp) (by simp) (by simp) w holds
  · exact verified_proceeds proceeds_doPermit (by simp) (by simp) (by simp) _ (moved _ _ holds)
  · refine verified_proceeds proceeds_doExecute (by simp) (by simp) (by simp) _ (moved _ _ ?_)
    exact fun cond => ⟨⟨trivial, (holds cond.2).ready⟩, (holds cond.2).records⟩

end Ready

/-- From any store whose ready records are verified, over every run with crashes anywhere: if the
downloader never claims success without a stage result, a task is ready only with all its
packages verified. -/
theorem ready_packages_verified (env : Environment) (s : FotaCloudStateStore)
    (ops : List Operation) (records : RecordsVerified s)
    (results : Always SuccessHasResult (run env (boot s) ops).trace) :
    Always ReadyVerified (run env (boot s) ops).trace := by
  let J := Assuming SuccessHasResult DownloadsVerified
  have noted : ∀ w mem event, event.part = .run → J w → J (World.note { w with mem } event) :=
    fun w mem event part holds cond =>
      ⟨⟨readyVerified_of_part _ _ (by simp [part]), (holds cond.2).ready⟩, (holds cond.2).records⟩
  have restarts : ∀ w, J w → J (restart w) := fun w => noted w _ .restarted rfl
  have initial : J (boot s) := restarts _ fun _ => ⟨trivial, records⟩
  exact (run_keeps J J (fun op w => noted w w.mem (.began op) rfl)
    (fun w w' within holds => within.assuming holds fun body =>
      body.within within (by simp) (by simp))
    (fun w holds => verified_step (noted w w.mem _ rfl holds)) (fun _ holds => holds)
    (fun w holds => restarts _ (noted w w.mem .crashed rfl holds)) restarts ops initial
    results).ready

/-- A cloud that refuses the first stage result has the package ready in a later step. -/
theorem ready_packages_verified_after_retry :
    let env : Environment :=
      { cooperative with
        reply := fun n c => match c with
          | .downloadAndVerify _ _ _ =>
            ({ allStagesSucceeded := decide (22 < n), hasStageResult := true } : DownloadOutcome)
          | c => cooperativeReply c }
    let w := run env (boot {}) (List.replicate 6 .step)
    RecordsVerified {} ∧ Always SuccessHasResult w.trace ∧ Always ReadyVerified w.trace := by
  have records : RecordsVerified {} := fun _ _ found => by cases found
  refine ⟨records, ?_, @ready_packages_verified _ _ _ records ?_⟩
  · decide +kernel
  · decide +kernel

/-- Without a stage result the record stays unready, but `allReady` is not cleared. -/
theorem unverified_package_is_ready :
    let env : Environment :=
      { cooperative with
        reply := fun _ c => match c with
          | .downloadAndVerify _ _ _ => ({ allStagesSucceeded := true } : DownloadOutcome)
          | c => cooperativeReply c }
    ¬Always ReadyVerified (run env (boot {}) (List.replicate 3 .step)).trace := by
  decide +kernel

end CgwFota
