import CgwFota.Properties.Download

/-!
# Resumed downloads

Bytes of a package may be kept over many steps and processes, while every step brings a grant of its
own. What was fetched is computed here from the grants, the outcomes of the downloader and the
moments of saving alone, byte by byte, and compared with the offset the orchestrator passes on.

## Main definitions

* `Fetched`: what became of a package.
* `fetched`: what became of each package over a trace.
* `ResumesSame`: a download goes on only on the object its bytes came from.
* `GrantsSame`: the condition on the grants.

## Main results

* `resumes_same_iff`: a run resumes only the same objects exactly if its grants keep to the
  condition.
* `new_revision_resumes`: a new package revision alone does not reset the offset.

## Proof strategy

Between packages the stored records are those that the trace accounts for; within a package one of
them is due. Under this invariant the offset that is passed on is the recorded one or zero, as the
etags say, so at every call both sides of the equivalence are the same.
-/
namespace CgwFota

open Crash

/-- What became of one package. `offset` and `etag` are what the last recorded download left,
`origin` is the grant under which each byte was fetched, `unsaved` is the download that returned
and is not recorded yet, with its final offset. -/
structure Fetched where
  offset : Nat := 0
  etag : String := ""
  origin : Nat → Option DownloadGrantResponse := fun _ => none
  unsaved : Option (DownloadGrantResponse × Nat) := none

namespace Fetched

variable (f : Fetched) (grant : DownloadGrantResponse)

/-- The grant carries an etag, and it is not the recorded one. -/
def restarts : Bool := grant.etag.any fun etag => etag ≠ "" && etag ≠ f.etag

/-- Every byte below `offset` was fetched under a grant for the same object. -/
def Agrees (offset : Nat) : Prop :=
  ∀ i < offset, ∀ g ∈ f.origin i, g.etag = grant.etag ∧ g.packageRevision = grant.packageRevision

instance (offset : Nat) : Decidable (f.Agrees grant offset) :=
  inferInstanceAs (Decidable (∀ i < offset, ∀ g ∈ f.origin i, _))

/-- What a download has fetched comes from its grant. -/
def download (fromOffset finalOffset : Nat) : Fetched :=
  { f with
    origin := fun i => if fromOffset ≤ i ∧ i < finalOffset then some grant else f.origin i
    unsaved := some (grant, finalOffset) }

/-- A grant without an etag leaves the recorded one in place. -/
def record : Fetched :=
  match f.unsaved with
  | none => f
  | some (grant, offset) => { f with offset, etag := grant.etag.getD f.etag, unsaved := none }

/-- A crash loses what was not recorded. -/
def forget : Fetched := { f with unsaved := none }

end Fetched

/-- The packages after the events of the trace, from what there was before it. -/
def fetched (start : String → Fetched) : List Entry → String → Fetched
  | [], packageId => start packageId
  | a :: past, packageId =>
    let f := fetched start past packageId
    match a.event with
    | .returned (.downloadAndVerify pkg grant fromOffset) outcome =>
      if pkg.packageId = packageId then f.download grant fromOffset outcome.finalOffsetBytes else f
    | .saved (.download r) => if r.packageId = packageId then f.record else f
    | .crashed => f.forget
    | _ => f

/-- What a store holds of the packages, if `origin` tells where their bytes came from. -/
def storedFetches (s : FotaCloudStateStore) (origin : String → Nat → Option DownloadGrantResponse)
    (packageId : String) : Fetched :=
  { offset := ((s.loadDownload packageId).map (·.currentOffsetBytes)).getD 0
    etag := ((s.loadDownload packageId).map (·.etag)).getD ""
    origin := origin packageId }

/-- A download goes on only on the object that its bytes came from, and a request that tells an
offset tells the etag as well. -/
def ResumesSame (start : String → Fetched) (a : Entry) (past : List Entry) : Prop :=
  match a.event with
  | .called (.downloadAndVerify pkg grant fromOffset) =>
    0 < fromOffset → (fetched start past pkg.packageId).Agrees grant fromOffset
  | .called (.requestDownload req _) =>
    0 < req.currentOffsetBytes.getD 0 → req.currentEtag.getD "" ≠ ""
  | _ => True

/-- A grant for a package with recorded bytes names their object, or carries an etag other than
the recorded one; and there are no recorded bytes without a recorded etag when a grant is asked
for. -/
def GrantsSame (start : String → Fetched) (a : Entry) (past : List Entry) : Prop :=
  match a.event with
  | .called (.downloadAndVerify pkg grant _) =>
    let f := fetched start past pkg.packageId
    0 < f.offset → f.restarts grant = false → f.Agrees grant f.offset
  | .called (.requestDownload req _) =>
    let f := fetched start past req.packageId
    0 < f.offset → f.etag ≠ ""
  | _ => True

instance (start : String → Fetched) (a : Entry) (past : List Entry) :
    Decidable (ResumesSame start a past) := by
  obtain ⟨_ | c | _, _, _, _⟩ := a
  all_goals unfold ResumesSame; try infer_instance
  rcases c with _ | _ <;> infer_instance

instance (start : String → Fetched) (a : Entry) (past : List Entry) :
    Decidable (GrantsSame start a past) := by
  obtain ⟨_ | c | _, _, _, _⟩ := a
  all_goals unfold GrantsSame; try infer_instance
  rcases c with _ | _ <;> infer_instance

/-- Both speak of the entry with one voice. -/
def SameVerdict (start : String → Fetched) (a : Entry) (past : List Entry) : Prop :=
  ResumesSame start a past ↔ GrantsSame start a past

/-- What survives a crash: the store agrees with what was computed from the trace. -/
structure FetchesStored (start : String → Fetched) (w : World) : Prop where
  verdicts : Always (SameVerdict start) w.trace
  offset : ∀ packageId, (fetched start w.trace packageId).offset =
    ((w.store.loadDownload packageId).map (·.currentOffsetBytes)).getD 0
  etag : ∀ packageId, (fetched start w.trace packageId).etag =
    ((w.store.loadDownload packageId).map (·.etag)).getD ""

/-- The invariant between packages. -/
structure FetchesSaved (start : String → Fetched) (w : World) : Prop
    extends FetchesStored start w where
  saved : ∀ packageId, (fetched start w.trace packageId).unsaved = none

/-- The invariant within a package: `entry` is the record that is due. -/
structure FetchDue (start : String → Fetched) (entry : FotaDownloadRecord) (w : World) : Prop
    extends FetchesStored start w where
  others : ∀ packageId ≠ entry.packageId, (fetched start w.trace packageId).unsaved = none
  dueOffset : (fetched start w.trace entry.packageId).record.offset = entry.currentOffsetBytes
  dueEtag : (fetched start w.trace entry.packageId).record.etag = entry.etag

section Fetches

variable {e : Environment} {w w' : World} {parts : List Part} {start : String → Fetched}
  {entry : FotaDownloadRecord}

theorem Fetched.record_saved (f : Fetched) : f.record.unsaved = none := by
  unfold Fetched.record
  split
  next saved => exact saved
  next => rfl

theorem Fetched.record_of_saved {f : Fetched} (saved : f.unsaved = none) : f.record = f := by
  simp only [Fetched.record, saved]

theorem sameVerdict_of_part (a : Entry) (past : List Entry) (other : a.event.part ≠ .download) :
    SameVerdict start a past := by
  unfold SameVerdict ResumesSame GrantsSame
  split
  next same => exact absurd (congrArg Event.part same) other
  next same => exact absurd (congrArg Event.part same) other
  next => rfl

/-- Only downloads and the beginning of processes change what was fetched. -/
theorem fetched_of_part (a : Entry) (past : List Entry) (download : a.event.part ≠ .download)
    (run : a.event.part ≠ .run) : fetched start (a :: past) = fetched start past := by
  funext packageId
  simp only [fetched]
  split
  next same => exact absurd (congrArg Event.part same) download
  next same => exact absurd (congrArg Event.part same) download
  next same => exact absurd (congrArg Event.part same) run
  next => rfl

theorem fetched_within (within : Within parts w w') (download : .download ∉ parts)
    (run : .run ∉ parts) : fetched start w'.trace = fetched start w.trace :=
  within.observed fun a past member => fetched_of_part a past (fun same => download (same ▸ member))
    fun same => run (same ▸ member)

/-- What stays away from downloads keeps the invariant at a crash. -/
theorem FetchesStored.within (h : FetchesStored start w) (within : Within parts w w')
    (download : .download ∉ parts) (run : .run ∉ parts) : FetchesStored start w' := by
  have same : fetched start w'.trace = fetched start w.trace := fetched_within within download run
  have stored : w'.store.downloads = w.store.downloads := within.same .download download
  refine ⟨within.always (fun a past member => sameVerdict_of_part a past fun same =>
    download (same ▸ member)) h.verdicts, fun packageId => ?_, fun packageId => ?_⟩
  · rw [same, h.offset]
    simp only [FotaCloudStateStore.loadDownload, stored]
  · rw [same, h.etag]
    simp only [FotaCloudStateStore.loadDownload, stored]

theorem FetchesSaved.within (h : FetchesSaved start w) (within : Within parts w w')
    (download : .download ∉ parts) (run : .run ∉ parts) : FetchesSaved start w' where
  toFetchesStored := h.toFetchesStored.within within download run
  saved := by
    rw [fetched_within within download run]
    exact h.saved

/-- What stays away from downloads keeps the invariant within a package. -/
theorem FetchDue.within (h : FetchDue start entry w) (within : Within parts w w')
    (download : .download ∉ parts) (run : .run ∉ parts) : FetchDue start entry w' where
  toFetchesStored := h.toFetchesStored.within within download run
  others := by
    rw [fetched_within within download run]
    exact h.others
  dueOffset := by
    rw [fetched_within within download run]
    exact h.dueOffset
  dueEtag := by
    rw [fetched_within within download run]
    exact h.dueEtag

/-- An event that neither fetches, saves nor crashes. -/
theorem FetchDue.event (h : FetchDue start entry w) {event : Event}
    (trace : fetched start (w.effect event).trace = fetched start w.trace)
    (store : (w.effect event).store = w.store)
    (verdict : SameVerdict start ⟨event, w.mem, w.store, w.tick⟩ w.trace) :
    FetchDue start entry (w.effect event) where
  verdicts := ⟨verdict, h.verdicts⟩
  offset := by rw [trace, store]; exact h.offset
  etag := by rw [trace, store]; exact h.etag
  others := by rw [trace]; exact h.others
  dueOffset := by rw [trace]; exact h.dueOffset
  dueEtag := by rw [trace]; exact h.dueEtag

/-- The due record settles its package. -/
theorem FetchDue.save (h : FetchDue start entry w) {r : FotaDownloadRecord}
    (packageId : r.packageId = entry.packageId)
    (offset : r.currentOffsetBytes = entry.currentOffsetBytes) (etag : r.etag = entry.etag) :
    FetchesSaved start (w.effect (.saved (.download r))) := by
  have after : ∀ id, fetched start (w.effect (.saved (.download r))).trace id =
      if r.packageId = id then (fetched start w.trace id).record else fetched start w.trace id :=
    fun _ => rfl
  have stored : ∀ id, (w.effect (.saved (.download r))).store.loadDownload id =
      if r.packageId = id then some r else w.store.loadDownload id := fun _ => rfl
  refine ⟨⟨⟨Iff.rfl, h.verdicts⟩, fun id => ?_, fun id => ?_⟩, fun id => ?_⟩
  all_goals
    rw [after]
    try rw [stored]
    by_cases same : r.packageId = id
  -- the offset of this package and of another one
  · simp only [same, if_true, Option.map_some, Option.getD_some]
    rw [← same, packageId, offset]
    exact h.dueOffset
  · simp only [same, if_false]
    exact h.offset id
  -- its etag likewise
  · simp only [same, if_true, Option.map_some, Option.getD_some]
    rw [← same, packageId, etag]
    exact h.dueEtag
  · simp only [same, if_false]
    exact h.etag id
  -- nothing is unsaved
  · simp only [same, if_true]
    exact Fetched.record_saved _
  · simp only [same, if_false]
    exact h.others id fun eq => same (packageId.trans eq.symm)

/-- A download that returned makes the record with its final offset due. -/
theorem FetchDue.download (h : FetchDue start entry w)
    (saved : (fetched start w.trace entry.packageId).unsaved = none) {pkg : PackageSummary}
    (same : entry.packageId = pkg.packageId) {grant : DownloadGrantResponse} {fromOffset : Nat}
    {outcome : DownloadOutcome} {due : FotaDownloadRecord}
    (packageId : due.packageId = entry.packageId)
    (offset : due.currentOffsetBytes = outcome.finalOffsetBytes)
    (etag : due.etag = grant.etag.getD entry.etag) :
    FetchDue start due
      (w.effect (.returned (.downloadAndVerify pkg grant fromOffset) outcome)) := by
  have after : ∀ id, fetched start
      (w.effect (.returned (.downloadAndVerify pkg grant fromOffset) outcome)).trace id =
        if pkg.packageId = id then
          (fetched start w.trace id).download grant fromOffset outcome.finalOffsetBytes
        else fetched start w.trace id := fun _ => rfl
  have dueId : due.packageId = pkg.packageId := packageId.trans same
  refine ⟨⟨⟨Iff.rfl, h.verdicts⟩, fun id => ?_, fun id => ?_⟩, fun id other => ?_, ?_, ?_⟩
  · refine Eq.trans ?_ (h.offset id)
    rw [after]
    split <;> rfl
  · refine Eq.trans ?_ (h.etag id)
    rw [after]
    split <;> rfl
  · rw [after, if_neg fun eq => other (eq.symm.trans dueId.symm)]
    exact h.others id fun eq => other (eq.trans packageId.symm)
  · rw [after, dueId, if_pos rfl, offset]
    rfl
  · have recorded := h.dueEtag
    rw [Fetched.record_of_saved saved, same] at recorded
    rw [after, dueId, if_pos rfl, etag, ← recorded]
    rfl

theorem resumed_abandonDownload (ex : FotaCloudException) (holds : FetchDue start entry w) :
    wp (abandonDownload entry ex) (fun _ => FetchesSaved start) (FetchesStored start) e w := by
  unfold abandonDownload
  simp only [wp_bind, wp_setVtState, wp_pure]
  have moved : FetchDue start entry (w.move .downloading) :=
    { holds with verdicts := ⟨Iff.rfl, holds.verdicts⟩ }
  have saved := moved.save (r := entry) rfl rfl rfl
  exact wp_save saved.toFetchesStored saved

/-- A download that has come to its end records what it has. -/
theorem resumed_concludeDownload {r : FotaDownloadRecord} (cleared : Bool)
    (outcome : DownloadOutcome) (holds : FetchDue start entry w)
    (packageId : r.packageId = entry.packageId)
    (offset : r.currentOffsetBytes = entry.currentOffsetBytes) (etag : r.etag = entry.etag) :
    wp (concludeDownload r cleared outcome) (fun _ => FetchesSaved start) (FetchesStored start)
      e w := by
  unfold concludeDownload
  simp only [wp_ite, wp_bind, wp_pure]
  split
  next =>
    have saved := holds.save packageId offset etag
    exact wp_save saved.toFetchesStored saved
  next =>
    have saved := holds.save (r := markFailed r) packageId offset etag
    exact wp_save saved.toFetchesStored saved

/-- RESET_OFFSET is decided by the recorded etag alone. -/
theorem applyGrant_offset (entry : FotaDownloadRecord) (grant : DownloadGrantResponse)
    {f : Fetched} (etag : f.etag = entry.etag) (offset : f.offset = entry.currentOffsetBytes) :
    (applyGrant entry grant).currentOffsetBytes = if f.restarts grant then 0 else f.offset := by
  have same : newEtag entry grant = f.restarts grant := by
    unfold newEtag Fetched.restarts
    cases grant.etag with
    | none => rfl
    | some _ => rw [etag]; rfl
  unfold applyGrant
  rw [same, offset]
  split <;> rfl

theorem applyGrant_etag (entry : FotaDownloadRecord) (grant : DownloadGrantResponse) :
    (applyGrant entry grant).etag = grant.etag.getD entry.etag := by
  unfold applyGrant
  split
  next changed =>
    cases granted : grant.etag with
    | none => simp [newEtag, granted] at changed
    | some _ => rfl
  next => rfl

/-- The offset that is passed on is the recorded one or zero. -/
theorem sameVerdict_downloadAndVerify {pkg : PackageSummary} {grant : DownloadGrantResponse}
    {mem : Memory} {s : FotaCloudStateStore} {tick : Nat} {past : List Entry} {fromOffset : Nat}
    (passed : fromOffset = if (fetched start past pkg.packageId).restarts grant then 0
      else (fetched start past pkg.packageId).offset) :
    SameVerdict start ⟨.called (.downloadAndVerify pkg grant fromOffset), mem, s, tick⟩ past := by
  unfold SameVerdict ResumesSame GrantsSame
  simp only
  subst passed
  cases (fetched start past pkg.packageId).restarts grant <;> simp

/-- The etag of a request is the recorded one. -/
theorem sameVerdict_requestDownload {task : VehicleTaskSnapshot} {pkg : PackageSummary}
    {ctx : CallContext} {mem : Memory} {s : FotaCloudStateStore} {tick : Nat} {past : List Entry}
    (offset : (fetched start past pkg.packageId).offset = entry.currentOffsetBytes)
    (etag : (fetched start past pkg.packageId).etag = entry.etag) :
    SameVerdict start
      ⟨.called (.requestDownload (downloadGrantRequest task pkg entry) ctx), mem, s, tick⟩
        past := by
  unfold SameVerdict ResumesSame GrantsSame downloadGrantRequest
  simp only [offset, etag]
  by_cases resume : entry.currentOffsetBytes > 0
  · simp [resume]
  · simp [resume]

/-- A package with its grant, and nothing unsaved before. -/
theorem resumed_verifyPackage {pkg : PackageSummary} (grant : DownloadGrantResponse)
    (packageId : entry.packageId = pkg.packageId) (holds : FetchDue start entry w)
    (saved : (fetched start w.trace entry.packageId).unsaved = none) :
    wp (verifyPackage pkg entry grant) (fun _ => FetchesSaved start) (FetchesStored start) e w := by
  have record := Fetched.record_of_saved saved
  have offset := holds.dueOffset
  have etag := holds.dueEtag
  rw [record, packageId] at offset etag
  have passed := applyGrant_offset entry grant etag offset
  unfold verifyPackage
  simp only [wp_bind, wp_ite, wp_nowMs, wp_makeCtx]
  have called : FetchDue start entry (w.effect (.called
      (.downloadAndVerify pkg grant (applyGrant entry grant).currentOffsetBytes))) :=
    holds.event rfl rfl (sameVerdict_downloadAndVerify passed)
  refine wp_call (fun w' within => (called.within within (by simp) (by simp)).toFetchesStored)
    fun w' outcome within => ?_
  have trace : fetched start w'.trace = fetched start w.trace :=
    (fetched_within within (by simp) (by simp)).trans rfl
  let due := { applyGrant entry grant with currentOffsetBytes := outcome.finalOffsetBytes }
  let w₁ := w'.effect (.returned
    (.downloadAndVerify pkg grant (applyGrant entry grant).currentOffsetBytes) outcome)
  have downloaded : FetchDue start due w₁ :=
    (called.within within (by simp) (by simp)).download (by rw [trace]; exact saved) packageId
      (applyGrant_packageId entry grant) rfl (applyGrant_etag entry grant)
  refine ⟨downloaded.toFetchesStored, ?_⟩
  split
  next =>
    have waiting : FetchDue start due w₁.advance :=
      downloaded.within .pause (by simp) (by simp)
    have asked : ∀ report ctx, FetchDue start due
        (w₁.advance.effect (.called (.reportStageResult report ctx))) := fun _ _ =>
      waiting.event rfl rfl Iff.rfl
    refine wp_call (fun w'' within =>
      ((asked _ _).within within (by simp) (by simp)).toFetchesStored) fun w'' reply within => ?_
    have reported : FetchDue start due (w''.effect (.returned _ reply)) :=
      ((asked _ _).within within (by simp) (by simp)).event rfl rfl Iff.rfl
    refine ⟨reported.toFetchesStored, ?_⟩
    cases reply with
    -- no answer to the report
    | error ex => exact resumed_abandonDownload ex reported
    -- accepted or not
    | ok resp =>
      simp only [wp_ite]
      split
      next => exact resumed_concludeDownload _ outcome reported rfl rfl rfl
      next => exact resumed_concludeDownload _ outcome reported rfl rfl rfl
  -- a stage failed, and nothing is reported
  next => exact resumed_concludeDownload _ outcome downloaded rfl rfl rfl

/-- One package. -/
theorem resumed_downloadPackage (pkg : PackageSummary) (holds : FetchesSaved start w) :
    wp (downloadPackage pkg) (fun _ => FetchesSaved start) (FetchesStored start) e w := by
  unfold downloadPackage
  simp only [wp_bind, wp_store, wp_ite, wp_note, wp_memory, wp_makeCtx]
  split
  -- it was ready before
  next => exact { holds with verdicts := ⟨Iff.rfl, holds.verdicts⟩ }
  next =>
    have id := getD_packageId w.store pkg
    have offset := holds.offset pkg.packageId
    have etag := holds.etag pkg.packageId
    have loaded : ((w.store.loadDownload pkg.packageId).map (·.currentOffsetBytes)).getD 0 =
          ((w.store.loadDownload pkg.packageId).getD (newDownloadRecord pkg)).currentOffsetBytes ∧
        ((w.store.loadDownload pkg.packageId).map (·.etag)).getD "" =
          ((w.store.loadDownload pkg.packageId).getD (newDownloadRecord pkg)).etag := by
      cases w.store.loadDownload pkg.packageId <;> exact ⟨rfl, rfl⟩
    rw [loaded.1] at offset
    rw [loaded.2] at etag
    generalize (w.store.loadDownload pkg.packageId).getD (newDownloadRecord pkg) = entry at *
    have due : FetchDue start entry w := by
      refine { holds with others := fun id _ => holds.saved id, dueOffset := ?_, dueEtag := ?_ }
      · rw [Fetched.record_of_saved (holds.saved _), id, offset]
      · rw [Fetched.record_of_saved (holds.saved _), id, etag]
    have called : ∀ ctx, FetchDue start entry (w.effect (.called (.requestDownload
        (downloadGrantRequest w.mem.frozenTask pkg entry) ctx))) := fun ctx =>
      due.event rfl rfl (sameVerdict_requestDownload offset etag)
    refine wp_call (fun w' within => ((called _).within within (by simp) (by simp)).toFetchesStored)
      fun w' reply within => ?_
    have replied : FetchDue start entry (w'.effect (.returned _ reply)) :=
      ((called _).within within (by simp) (by simp)).event rfl rfl Iff.rfl
    refine ⟨replied.toFetchesStored, ?_⟩
    cases reply with
    -- no grant
    | error ex => exact resumed_abandonDownload ex replied
    | ok grant =>
      refine resumed_verifyPackage grant id replied ?_
      have trace : fetched start w'.trace = fetched start w.trace :=
        (fetched_within within (by simp) (by simp)).trans rfl
      show (fetched start w'.trace entry.packageId).unsaved = none
      rw [trace]
      exact holds.saved _

theorem resumed_downloadPackages (packages : List PackageSummary) (allReady : Bool)
    (error : String) (holds : FetchesSaved start w) :
    wp (downloadPackages packages allReady error) (fun _ => FetchesSaved start)
      (FetchesStored start) e w := by
  induction packages generalizing w allReady error with
  | nil => exact holds
  | cons pkg rest ih =>
    unfold downloadPackages
    simp only [wp_bind]
    refine wp_mono (resumed_downloadPackage pkg holds) (fun r w' kept => ?_) fun _ h => h
    cases r with
    | stop ex => exact kept
    | next cleared ex => exact ih _ _ kept

/-- The phase: the packages, and the state after them. -/
theorem resumed_doDownload (holds : FetchesSaved start w) :
    wp doDownload (fun _ => FetchesSaved start) (FetchesStored start) e w := by
  unfold doDownload
  simp only [wp_bind, wp_memory]
  refine wp_mono (resumed_downloadPackages _ true "" holds) (fun r w' kept => ?_) fun _ h => h
  cases r with
  | error ex => exact kept
  | ok r =>
    simp only [wp_bind, wp_setVtState, wp_memory, wp_pure]
    have moved : FetchesSaved start (w'.move (if r.1 then .ready else .downloading)) :=
      { kept with verdicts := ⟨Iff.rfl, kept.verdicts⟩ }
    have saved : ∀ now, FetchesSaved start
        ((w'.move (if r.1 then .ready else .downloading)).advance.persist "download" now) :=
      fun now =>
        have within : Within [.phase] _ _ :=
          .trans .advance (.effect _ (by simp [Event.part, Save.part]))
        moved.within within (by simp) (by simp)
    exact wp_persistVehicleTask (saved _).toFetchesStored (saved _)

theorem resumed_proceeds {α : Type} {m : Orch α} {states : VehicleTaskState → Prop}
    {actions : List String} (h : Proceeds e parts states actions m)
    (download : .download ∉ parts) (run : .run ∉ parts) (holds : FetchesSaved start w) :
    wp m (fun _ => FetchesSaved start) (FetchesStored start) e w :=
  wp_mono (h.touches.keeps (I := FetchesSaved start) (fun _ _ within holds =>
      holds.within within (by simp [download]) (by simp [run])) w holds)
    (fun _ _ h => h) fun _ h => h.toFetchesStored

theorem resumed_step (holds : FetchesSaved start w) :
    wp step (fun _ => FetchesSaved start) (FetchesStored start) e w := by
  have moved : ∀ w s, FetchesSaved start w → FetchesSaved start (World.move w s) :=
    fun w s holds => { holds with verdicts := ⟨Iff.rfl, holds.verdicts⟩ }
  refine wp_step (fun _ => holds) (fun _ => ?_) (fun _ => ?_) (fun _ => resumed_doDownload holds)
    (fun _ => ?_) (fun _ => ?_) (fun _ => ?_) fun _ => ?_
  · exact resumed_proceeds proceeds_doCheckTask (by simp) (by simp) holds
  · exact resumed_proceeds proceeds_doConsent (by simp) (by simp) holds
  · exact resumed_proceeds proceeds_doPermit (by simp) (by simp) holds
  · exact resumed_proceeds proceeds_doExecute (by simp) (by simp) holds
  · exact resumed_proceeds proceeds_doPermit (by simp) (by simp) (moved _ _ holds)
  · refine resumed_proceeds proceeds_doExecute (by simp) (by simp) (moved _ _ ?_)
    exact { holds with verdicts := ⟨Iff.rfl, holds.verdicts⟩ }

theorem FetchesSaved.recover (h : FetchesStored start w) : FetchesSaved start (recover w) where
  verdicts := ⟨Iff.rfl, Iff.rfl, h.verdicts⟩
  offset := h.offset
  etag := h.etag
  saved _ := rfl

end Fetches

/-- Over every run, from any store and wherever its bytes came from: downloads go on only on the
same object exactly if the grants name the object of the recorded bytes or a new one. -/
theorem resumes_same_iff (env : Environment) (s : FotaCloudStateStore)
    (origin : String → Nat → Option DownloadGrantResponse) (ops : List Operation) :
    Always (ResumesSame (storedFetches s origin)) (run env (boot s) ops).trace ↔
      Always (GrantsSame (storedFetches s origin)) (run env (boot s) ops).trace := by
  let start := storedFetches s origin
  have noted : ∀ w op, FetchesSaved start w → FetchesSaved start (w.note (.began op)) :=
    fun w op holds => { holds with verdicts := ⟨Iff.rfl, holds.verdicts⟩ }
  have initial : FetchesSaved start (boot s) :=
    ⟨⟨⟨Iff.rfl, trivial⟩, fun _ => rfl, fun _ => rfl⟩, fun _ => rfl⟩
  have held : FetchesSaved start (run env (boot s) ops) :=
    run_keeps (FetchesSaved start) (FetchesStored start) (fun op w => noted w op)
      (fun w w' within holds => holds.within within (by simp) (by simp))
      (fun w holds => resumed_step (noted w _ holds)) (fun _ holds => holds.toFetchesStored)
      (fun _ holds => .recover holds)
      (fun w holds => { holds with verdicts := ⟨Iff.rfl, holds.verdicts⟩ }) ops initial
  constructor
  -- the verdicts agree, so each side gives the other
  · exact fun resumes => (held.verdicts.and resumes).mono fun a past both => both.1.mp both.2
  · exact fun grants => (held.verdicts.and grants).mono fun a past both => both.1.mpr both.2

/-- The first grant stores four bytes; the second, for a new revision, leaves the etag as it is or
has none. -/
def regranting (etag : Option String) : Environment :=
  { cooperative with
    reply := fun n c => match c with
      | .requestDownload _ _ =>
        if n < 20 then .ok { packageRevision := "1", etag := some "etag-1" }
        else .ok { packageRevision := "2", etag }
      | .downloadAndVerify _ _ _ => ({ finalOffsetBytes := 4 } : DownloadOutcome)
      | c => cooperativeReply c }

/-- A new package revision alone does not reset the offset. -/
theorem new_revision_resumes :
    ¬Always (ResumesSame (storedFetches {} fun _ _ => none))
      (run (regranting (some "etag-1")) (boot {}) (List.replicate 4 .step)).trace := by
  decide +kernel

/-- A grant without an etag does not reset the offset either. -/
example :
    ¬Always (ResumesSame (storedFetches {} fun _ _ => none))
      (run (regranting none) (boot {}) (List.replicate 4 .step)).trace := by
  decide +kernel

end CgwFota
