import CgwFota.Orchestrator.Keys
import CgwFota.Properties.Download
import CgwFota.Properties.EventKeys

/-!
# The fact behind a key

A cloud that answers a repeated key with its first answer is right as long as the repetition is
about the same fact. Keys name a package, a task or a number, and these outlive what is reported
about them: another stage result of the package, another permit of the task, another choice of the
user. The condition below says of the surroundings that they offer no such second fact.

## Main definitions

* `Call.SameFact`: two calls of one kind are about one fact.
* `KeyNamesFact`: every earlier call under the key of a call is about the fact of that call.
* `FactKept`: the surroundings offer no second fact.
* `CallRepeats`: a call repeats what was reported under its key before.

## Main results

* `keyNamesFact_of_repeats`: on a trace in which calls repeat, every key names one fact.
* `keys_name_facts`: in every run with the condition, a key names one fact.
* `second_result_reuses_key`: without it, a key names two.

## Proof strategy

Of events it is known already that a number stands for one event. Of consents, stage results and
permits it follows from the reply just before the call, which the condition speaks of, so the phases
that make such calls are walked through by hand. Calls of all other kinds are about nothing but
their key.
-/
namespace CgwFota

open Crash

/-! ### Facts -/

/-- The reply that grants a permit. -/
def Event.grants : Event → Bool
  | .returned (.requestInstall _ _) (.ok resp) => resp.allowed
  | _ => false

/-- Two calls of one kind and about one fact, with what happened between them. -/
def Call.SameFact (between : List Entry) : Call → Call → Prop
  | .reportStageResult r _, .reportStageResult r' _ =>
    r.stageResultId = r'.stageResultId ∧ r.result = r'.result
  | .requestInstall _ _, .requestInstall _ _ => ∀ b ∈ between, b.event.grants = false
  | .reportConsent r _, .reportConsent r' _ => r.consentStatus = r'.consentStatus
  | .reportEvent r ctx, .reportEvent r' ctx' => r = r' ∧ ctx.executionId = ctx'.executionId
  | .requestDownload r _, .requestDownload r' _ => r.packageId = r'.packageId
  | .acknowledgeControl r _, .acknowledgeControl r' _ =>
    r.ack.controlRevision = r'.ack.controlRevision
  | .checkTask _ _, .checkTask _ _ | .reportFinalResult _ _, .reportFinalResult _ _
  | .requestLogUpload _ _, .requestLogUpload _ _ | .reportLogUpload _ _, .reportLogUpload _ _
  | .syncPolicy _ _, .syncPolicy _ _ => True
  | _, _ => False

/-- The key a call is made under, if it goes to the cloud. -/
def Call.key (c : Call) : Option String := c.context.map (·.idempotencyKey)

/-- Every call of the past under the key of `c` is about the fact `c` is about; `between` is what
has happened since. -/
def NamesFact (c : Call) (between : List Entry) : List Entry → Prop
  | [] => True
  | b :: past =>
    (match b.event with
      | .called c' => c.key.isSome → c'.key = c.key → Call.SameFact between c' c
      | _ => True) ∧ NamesFact c (b :: between) past

/-- A key names one fact. -/
def KeyNamesFact (a : Entry) (past : List Entry) : Prop :=
  match a.event with
  | .called c => NamesFact c [] past
  | _ => True

/-! ### The condition -/

/-- The calls under a key. -/
def callsUnder (key : String) : List Entry → List Call
  | [] => []
  | a :: past =>
    match a.event with
    | .called c => if c.key = some key then c :: callsUnder key past else callsUnder key past
    | _ => callsUnder key past

/-- A permit was granted after a call under the key. -/
def grantedSince (key : String) : List Entry → Bool
  | [] => false
  | a :: past => a.event.grants && !(callsUnder key past).isEmpty || grantedSince key past

/-- The choice that a call reports. -/
def Call.consentStatus : Call → Option ConsentStatus
  | .reportConsent r _ => some r.consentStatus
  | _ => none

/-- The stage result that a call reports. -/
def Call.stageResult : Call → Option (String × Result)
  | .reportStageResult r _ => some (r.stageResultId, r.result)
  | _ => none

/-- The id under which a stage result of the package is reported. -/
def reportedResultId (pkg : PackageSummary) (outcome : DownloadOutcome) : String :=
  if outcome.stageResult.stageResultId = "" then
    "SR-" ++ pkg.packageId ++ "-" ++ toString outcome.finalOffsetBytes
  else outcome.stageResult.stageResultId

/-- The user does not change a reported choice, the downloader hands over no other stage result than
the one reported, the conditions of an installation are not evaluated for a task that has asked for
a permit before the last one was granted, and no process starts without a snapshot after events were
reported. -/
def FactKept (a : Entry) (past : List Entry) : Prop :=
  match a.event with
  | .returned (.requestConsent vehicleTaskId _) choice =>
    ∀ c ∈ callsUnder (CloudOperation.consent vehicleTaskId).key past,
      c.consentStatus = some choice.userChoice
  | .returned (.downloadAndVerify pkg _ _) outcome =>
    outcome.hasStageResult → ∀ c ∈ callsUnder (CloudOperation.stageResult pkg.packageId).key past,
      c.stageResult = some (reportedResultId pkg outcome, outcome.stageResult.result)
  | .returned .evaluateConditions _ =>
    grantedSince (CloudOperation.permit a.mem.frozenTask.vehicleTaskId).key past = false
  | .restarted => lacksSnapshot a.store → eventReports past = []
  | _ => True

/-! ### Deciding them -/

instance (between : List Entry) (c c' : Call) : Decidable (Call.SameFact between c c') := by
  cases c <;> cases c' <;> unfold Call.SameFact <;> infer_instance

instance decidableNamesFact (c : Call) : ∀ between past, Decidable (NamesFact c between past)
  | _, [] => inferInstanceAs (Decidable True)
  | between, ⟨event, mem, store, tick⟩ :: past =>
    have : Decidable (NamesFact c (⟨event, mem, store, tick⟩ :: between) past) :=
      decidableNamesFact c _ past
    match event with
    | .called c' => inferInstanceAs (Decidable
        ((c.key.isSome → c'.key = c.key → Call.SameFact between c' c) ∧ NamesFact c _ past))
    | .began _ | .returned _ _ | .saved _ | .emitted _ _ | .skipped _ _ | .moved | .crashed
    | .restarted => inferInstanceAs (Decidable (True ∧ NamesFact c _ past))

instance (a : Entry) (past : List Entry) : Decidable (KeyNamesFact a past) := by
  obtain ⟨_ | c | _, _, _, _⟩ := a
  all_goals unfold KeyNamesFact; infer_instance

instance (a : Entry) (past : List Entry) : Decidable (FactKept a past) := by
  obtain ⟨_ | _ | ⟨c, r⟩ | _ | _ | _ | _ | _ | _, _, _, _⟩ := a
  all_goals unfold FactKept; try infer_instance
  rcases c with _ | _ <;> infer_instance

/-! ### Consents, stage results and permits -/

/-- The call repeats what was reported under its key before. -/
def CallRepeats (a : Entry) (past : List Entry) : Prop :=
  match a.event with
  | .called (.reportConsent req ctx) =>
    ∀ c ∈ callsUnder ctx.idempotencyKey past, c.consentStatus = some req.consentStatus
  | .called (.reportStageResult req ctx) =>
    ∀ c ∈ callsUnder ctx.idempotencyKey past,
      c.stageResult = some (req.stageResultId, req.result)
  | .called (.requestInstall _ ctx) => grantedSince ctx.idempotencyKey past = false
  | _ => True

/-- The calls of which that has to be shown. -/
def Call.repeats : Call → Bool
  | .reportConsent _ _ | .reportStageResult _ _ | .requestInstall _ _ => true
  | _ => false

/-- The invariant of runs. -/
abbrev Repeating (w : World) : Prop :=
  Assuming FactKept (fun w => Always CallRepeats w.trace) w

section Repeats

variable {e : Environment} {w w' : World} {parts : List Part} {α : Type} {m : Orch α}

theorem callRepeats_of_call (a : Entry) (past : List Entry)
    (free : ∀ c, a.event = .called c → c.repeats = false) : CallRepeats a past := by
  unfold CallRepeats
  split
  next same => exact absurd (free _ same) (by simp [Call.repeats])
  next same => exact absurd (free _ same) (by simp [Call.repeats])
  next same => exact absurd (free _ same) (by simp [Call.repeats])
  next => trivial

/-- Steps that consent to nothing, download nothing and ask for no permit. -/
theorem repeating_within (h : Repeating w) (within : Within parts w w') (consent : .consent ∉ parts)
    (download : .download ∉ parts) (permit : .permit ∉ parts) : Repeating w' := by
  refine within.assuming h fun always => within.always (fun a past member => ?_) always
  refine callRepeats_of_call a past fun c called => ?_
  rw [called] at member
  cases c <;> first | rfl | exact absurd member consent | exact absurd member download |
    exact absurd member permit

/-- Actions that make no such call. -/
theorem keeps_repeating (makes : Makes e (fun c => c.repeats = false) m) : Keeps e Repeating m := by
  have grown : ∀ w w', CallsBetween (fun c => c.repeats = false) w w' → Repeating w →
      Repeating w' := by
    rintro w w' ⟨new, whole, calls⟩ holds met
    rw [whole] at met ⊢
    exact (holds met.of_append).append fun a member before _ =>
      callRepeats_of_call a _ (calls a member)
  exact Follows.keeps makes grown grown

/-- A call that repeats what was reported before. -/
theorem repeating_call {c : Call} {Q : c.Reply → World → Prop} (h : Repeating w)
    (again : Always FactKept w.trace → CallRepeats ⟨.called c, w.mem, w.store, w.tick⟩ w.trace)
    (next : ∀ r w', Repeating (World.effect w' (.returned c r)) → Q r (w'.effect (.returned c r))) :
    wp (call c) Q Repeating e w := by
  have called : Repeating (w.effect (.called c)) := fun met => ⟨again met.2, h met.2⟩
  refine wp_call (fun w' within => ?_) fun w' r within => ?_
  · exact repeating_within called within (by simp) (by simp) (by simp)
  · have replied : Repeating (w'.effect (.returned c r)) := fun met =>
      ⟨trivial, repeating_within called within (by simp) (by simp) (by simp) met.2⟩
    exact ⟨replied, next r w' replied⟩

/-- A consent phase reports the choice that the condition speaks of. -/
theorem repeating_doConsent : Keeps e Repeating doConsent := by
  intro w h
  unfold doConsent
  simp only [wp_bind, wp_memory, wp_nowMs, wp_makeCtx]
  refine repeating_call h (fun _ => trivial) fun choice w₁ h => ?_
  -- the choice that has just been made is reported
  refine repeating_call (w := World.advance _) h (fun met => ?_) fun reply w₂ h => ?_
  · intro c member
    exact met.1 c member
  · cases reply with
    | error ex => exact h
    | ok resp =>
      refine keeps_repeating (m := do
        let now ← nowMs
        save (.consent (consentRecord w.mem.frozenTask resp now))
        setVtState (if resp.effectiveConsentStatus = .accepted then .downloadPending else .ended)
        persistVehicleTask "consent"
        let m ← memory
        return ({ action := "consent", vehicleTaskState := m.vtState } : StepOutcome)) ?_ _ h
      exact .bind makes_nowMs fun _ => .bind (makes_save _) fun _ => .bind (makes_setVtState _)
        fun _ => .bind (makes_persistVehicleTask _) fun _ => .bind makes_memory fun _ => .pure _

theorem repeating_abandonDownload (entry : FotaDownloadRecord) (ex : FotaCloudException) :
    Keeps e Repeating (abandonDownload entry ex) :=
  keeps_repeating (.bind (makes_setVtState _) fun _ => .bind (makes_save _) fun _ => .pure _)

theorem repeating_concludeDownload (entry : FotaDownloadRecord) (cleared : Bool)
    (outcome : DownloadOutcome) : Keeps e Repeating (concludeDownload entry cleared outcome) :=
  keeps_repeating (.ite (fun _ => .bind (makes_save _) fun _ => .pure _) fun _ =>
    .bind (makes_save _) fun _ => .pure _)

/-- A verification reports the stage result that was just handed over. -/
theorem repeating_verifyPackage (pkg : PackageSummary) (entry : FotaDownloadRecord)
    (grant : DownloadGrantResponse) : Keeps e Repeating (verifyPackage pkg entry grant) := by
  intro w h
  unfold verifyPackage
  simp only [wp_bind, wp_ite, wp_nowMs, wp_makeCtx]
  refine repeating_call h (fun _ => trivial) fun outcome w₁ h => ?_
  split
  next result =>
    -- the stage result that has just been handed over is reported
    refine repeating_call (w := World.advance _) h (fun met => ?_) fun reply w₂ h => ?_
    · intro c member
      exact met.1 result c member
    · cases reply with
      | error ex => exact repeating_abandonDownload _ ex _ h
      | ok resp =>
        simp only [wp_ite]
        split
        next => exact repeating_concludeDownload _ _ _ _ h
        next => exact repeating_concludeDownload _ _ _ _ h
  next => exact repeating_concludeDownload _ _ _ _ h

/-- In the body of the loop a call repeats what was reported under its key. -/
theorem repeating_downloadPackage (pkg : PackageSummary) :
    Keeps e Repeating (downloadPackage pkg) := by
  refine .bind (keeps_repeating makes_store) fun s => .ite (fun _ => ?_) fun _ => ?_
  · exact keeps_repeating (.bind (makes_note (by simp)) fun _ => .pure _)
  · refine .bind (keeps_repeating makes_memory) fun m => ?_
    refine .bind (keeps_repeating (makes_ctx _ fun ctx _ _ => .pure ctx)) fun ctx => ?_
    refine .bind (keeps_repeating (makes_call rfl)) fun reply => ?_
    cases reply with
    | error ex => exact repeating_abandonDownload _ ex
    | ok grant => exact repeating_verifyPackage _ _ _

/-- In the whole loop every call repeats what was reported under its key. -/
theorem repeating_downloadPackages (packages : List PackageSummary) (allReady : Bool)
    (error : String) : Keeps e Repeating (downloadPackages packages allReady error) := by
  induction packages generalizing allReady error with
  | nil => exact .pure _
  | cons pkg rest ih =>
    refine .bind (repeating_downloadPackage pkg) fun result => ?_
    cases result with
    | stop ex => exact .pure _
    | next cleared ex => exact ih _ _

/-- In a download phase every call repeats what was reported under its key. -/
theorem repeating_doDownload : Keeps e Repeating doDownload := by
  refine .bind (keeps_repeating makes_memory) fun m =>
    .bind (repeating_downloadPackages _ _ _) fun result => ?_
  cases result with
  | error ex => exact .pure _
  | ok r =>
    exact keeps_repeating (.bind (makes_setVtState _) fun _ => .bind (makes_persistVehicleTask _)
      fun _ => .bind makes_memory fun _ => .pure _)

theorem repeating_acceptPermit (resp : InstallPermitResponse) :
    Keeps e Repeating (acceptPermit resp) := by
  refine keeps_repeating (.bind (makes_setMemory _) fun _ => .bind (makes_setExState _) fun _ =>
    .bind (makes_setVtState _) fun _ => .bind (makes_persistVehicleTask _) fun _ =>
    .bind makes_persistExecution fun _ => .bind makes_nowMs fun now => ?_)
  exact .ite (fun _ => .pure _) fun _ => .bind (makes_call rfl) fun guards =>
    .ite (fun _ => .pure _) fun _ => .bind makes_memory fun _ => .pure _

/-- A permit is asked for under conditions that were just evaluated. -/
theorem repeating_requestPermit : Keeps e Repeating requestPermit := by
  intro w h
  unfold requestPermit
  simp only [wp_bind, wp_memory, wp_store, wp_makeCtx]
  refine repeating_call h (fun _ => trivial) fun ev w₁ h => ?_
  -- the permit is asked for as soon as the conditions have been evaluated
  refine repeating_call h (fun met => met.1) fun reply w₂ h => ?_
  cases reply with
  | error ex => exact h
  | ok resp =>
    simp only [wp_ite, wp_pure]
    split
    next => exact h
    next => exact repeating_acceptPermit resp _ h

/-- In a permit phase every call repeats what was reported under its key. -/
theorem repeating_doPermit : Keeps e Repeating doPermit := by
  refine .bind (keeps_repeating makes_memory) fun m => .ite (fun _ => ?_) fun _ => ?_
  · exact keeps_repeating (.bind (makes_setVtState _) fun _ => .bind (makes_persistVehicleTask _)
      fun _ => .bind makes_memory fun _ => .pure _)
  · refine .bind (keeps_repeating makes_nowMs) fun now => .ite (fun _ => .pure _) fun _ => ?_
    exact .bind (keeps_repeating (makes_call rfl)) fun guards =>
      .ite (fun _ => .pure _) fun _ => repeating_requestPermit

/-- The other phases report nothing of the kind. -/
theorem repeating_proceeds {states : VehicleTaskState → Prop} {actions : List String}
    (proceeds : Proceeds e parts states actions m) (consent : .consent ∉ parts)
    (download : .download ∉ parts) (permit : .permit ∉ parts) : Keeps e Repeating m :=
  proceeds.touches.keeps fun _ _ within h =>
    repeating_within h within (by simp [consent]) (by simp [download]) (by simp [permit])

theorem repeating_step : Keeps e Repeating step := by
  intro w h
  have moved : ∀ w s, Repeating w → Repeating (World.move w s) := fun w s h met =>
    ⟨trivial, h met.2⟩
  refine wp_step (fun _ => h) (fun _ => ?_) (fun _ => repeating_doConsent w h)
    (fun _ => repeating_doDownload w h) (fun _ => repeating_doPermit w h) (fun _ => ?_)
    (fun _ => repeating_doPermit _ (moved _ _ h)) fun _ => ?_
  · exact repeating_proceeds proceeds_doCheckTask (by simp) (by simp) (by simp) w h
  · exact repeating_proceeds proceeds_doExecute (by simp) (by simp) (by simp) w h
  · exact repeating_proceeds proceeds_doExecute (by simp) (by simp) (by simp) _
      (moved _ _ fun met => ⟨trivial, h met.2⟩)

end Repeats

/-- In every run the calls repeat what was reported under their keys. -/
theorem run_repeating (env : Environment) (s : FotaCloudStateStore) (ops : List Operation) :
    Repeating (run env (boot s) ops) := by
  have noted : ∀ w mem event, event.part = .run → Repeating w →
      Repeating (World.note { w with mem } event) := by
    intro w mem event part h met
    refine ⟨callRepeats_of_call _ _ fun c called => ?_, h met.2⟩
    have called : event = .called c := called
    subst called
    exact absurd part (OutboxRules.part_ne_run c)
  have restarts : ∀ w, Repeating w → Repeating (restart w) := fun w => noted w _ .restarted rfl
  exact run_keeps Repeating Repeating (fun op w => noted w w.mem (.began op) rfl)
    (fun w w' within h => repeating_within h within (by simp) (by simp) (by simp))
    (fun w h => repeating_step _ (noted w w.mem _ rfl h)) (fun _ h => h)
    (fun w h => restarts _ (noted w w.mem .crashed rfl h)) restarts ops
    (restarts _ fun _ => trivial)

/-! ### All keys -/

section Facts

variable {c c' : Call} {op : CloudOperation} {past between : List Entry} {key : String}

/-- A call of the past is listed under its key. -/
theorem mem_callsUnder {b : Entry} (member : b ∈ past) (called : b.event = .called c)
    (same : c.key = some key) : c ∈ callsUnder key past := by
  induction past with
  | nil => cases member
  | cons a past ih =>
    rcases List.mem_cons.mp member with rfl | member
    · simp [callsUnder, called, same]
    · have rest := ih member
      simp only [callsUnder]
      split
      · split
        · exact List.mem_cons_of_mem _ rest
        · exact rest
      · exact rest

/-- Calls under one key perform the operation it names. -/
theorem performs_of_key (keyed : c.Keyed) (keyed' : c'.Keyed) (has : c.key = some key)
    (has' : c'.key = some key) : ∃ op, c.Performs op ∧ c'.Performs op := by
  obtain ⟨ctx, context, rfl⟩ := Option.map_eq_some_iff.mp has
  obtain ⟨ctx', context', same⟩ := Option.map_eq_some_iff.mp has'
  obtain ⟨op, performs, -, named⟩ := keyed ctx context
  obtain ⟨op', performs', -, named'⟩ := keyed' ctx' context'
  have one : op = op' :=
    CloudOperation.key_injective (named.symm.trans (same.symm.trans named'))
  exact ⟨op, performs, one ▸ performs'⟩

/-- What has to be shown of two calls that perform one operation. -/
theorem sameFact_of_performs (performs : c.Performs op) (performs' : c'.Performs op)
    (consent : ∀ req ctx, c = .reportConsent req ctx → c'.consentStatus = some req.consentStatus)
    (result : ∀ req ctx, c = .reportStageResult req ctx →
      c'.stageResult = some (req.stageResultId, req.result))
    (install : ∀ req ctx, c = .requestInstall req ctx → ∀ b ∈ between, b.event.grants = false)
    (event : ∀ req ctx req' ctx', c = .reportEvent req ctx → c' = .reportEvent req' ctx' →
      req'.sequenceNo = req.sequenceNo → req' = req ∧ ctx'.executionId = ctx.executionId) :
    Call.SameFact between c' c := by
  cases op with
  | consent id =>
    -- a consent: the choice is the same
    cases c <;> cases performs
    cases c' <;> cases performs'
    exact Option.some.inj (consent _ _ rfl)
  | stageResult id =>
    -- a stage result: its id and its result are the same
    cases c <;> cases performs
    cases c' <;> cases performs'
    exact Prod.mk.inj (Option.some.inj (result _ _ rfl))
  | permit id =>
    -- a permit: none was granted in between
    cases c <;> cases performs
    cases c' <;> cases performs'
    exact install _ _ rfl
  | event n =>
    -- an event: the number stands for one event
    cases c <;> try exact performs.elim
    cases c' <;> try exact performs'.elim
    exact event _ _ _ _ rfl rfl (Eq.trans performs' performs.symm)
  | download id | controlAck n =>
    -- a download or an acknowledgement is determined by its key
    cases c <;> try exact performs.elim
    cases c' <;> try exact performs'.elim
    exact Eq.trans performs' performs.symm
  | checkTask id | finalResult id | logUpload id | logResult id | policySync =>
    -- the other calls carry no fact of their own
    cases c <;> cases performs
    cases c' <;> cases performs'
    trivial

theorem mem_eventReports {b : Entry} {req : ExecutionEvent} {ctx : CallContext} (member : b ∈ past)
    (called : b.event = .called (.reportEvent req ctx)) : (req, ctx) ∈ eventReports past := by
  induction past with
  | nil => cases member
  | cons a past ih =>
    rcases List.mem_cons.mp member with rfl | member
    · simp [eventReports, called]
    · have rest := ih member
      simp only [eventReports]
      split
      · exact List.mem_cons_of_mem _ rest
      · exact rest

theorem namesFact_of_forall (facts : ∀ b ∈ past, ∀ c', b.event = .called c' → c.key.isSome →
      c'.key = c.key → ∀ between, Call.SameFact between c' c) : NamesFact c between past := by
  induction past generalizing between with
  | nil => trivial
  | cons b past ih =>
    refine ⟨?_, ih fun b' member => facts b' (by simp [member])⟩
    split
    next called => exact fun has same => facts b (by simp) _ called has same between
    next => trivial

/-- Where no permit was granted since the first call under the key, none was between two of them. -/
theorem namesFact_of_grantedSince (has : c.key = some key) (since : grantedSince key past = false)
    (calm : (∀ b ∈ between, b.event.grants = false) ∨ callsUnder key past = [])
    (facts : ∀ b ∈ past, ∀ c', b.event = .called c' → c'.key = some key →
      ∀ between, (∀ b ∈ between, b.event.grants = false) → Call.SameFact between c' c) :
    NamesFact c between past := by
  induction past generalizing between with
  | nil => trivial
  | cons b past ih =>
    rw [grantedSince, Bool.or_eq_false_iff, Bool.and_eq_false_iff] at since
    constructor
    · split
      next c' called =>
        intro _ same
        -- a call under the key: no permit was granted since
        have same := same.trans has
        refine facts b (by simp) c' called same between (calm.resolve_right fun none => ?_)
        have listed : c' ∈ callsUnder key (b :: past) := mem_callsUnder (by simp) called same
        rw [none] at listed
        cases listed
      next => trivial
    · refine ih since.2 ?_ fun b' member => facts b' (by simp [member])
      cases under : callsUnder key past with
      -- the first call under the key: what came before does not matter
      | nil => exact .inr rfl
      | cons c' rest =>
        have quiet : b.event.grants = false := since.1.resolve_right (by simp [under])
        refine .inl fun b' member => ?_
        rcases List.mem_cons.mp member with rfl | member
        · exact quiet
        · refine calm.resolve_right (fun none => ?_) b' member
          simp only [callsUnder, under] at none
          split at none
          · split at none <;> cases none
          · cases none

/-- On a trace in which calls repeat what they are about, every key names one fact. -/
theorem keyNamesFact_of_repeats {t : List Entry}
    (keyed : ∀ a ∈ t, ∀ c, a.event = .called c → c.Keyed) (repeats : Always CallRepeats t)
    (events : Always ReportsSame t) : Always KeyNamesFact t := by
  induction t with
  | nil => trivial
  | cons a past ih =>
    refine ⟨?_, ih (fun b member => keyed b (by simp [member])) repeats.2 events.2⟩
    unfold KeyNamesFact
    split
    next c called =>
      cases has : c.key with
      -- a call without a key
      | none => exact namesFact_of_forall fun _ _ _ _ some => by simp [has] at some
      | some key =>
        have again := repeats.1
        have same := events.1
        unfold CallRepeats at again
        unfold ReportsSame at same
        rw [called] at again same
        -- calls under one key perform one operation
        have facts : ∀ b ∈ past, ∀ c', b.event = .called c' → c'.key = some key → ∀ between,
            (∀ req ctx, c = .requestInstall req ctx → ∀ b ∈ between, b.event.grants = false) →
            Call.SameFact between c' c := by
          intro b member c' called' has' between install
          obtain ⟨op, performs, performs'⟩ := performs_of_key (keyed a (by simp) c called)
            (keyed b (by simp [member]) c' called') has has'
          have listed := mem_callsUnder member called' has'
          refine sameFact_of_performs performs performs' ?_ ?_ install ?_
          · rintro req ctx rfl
            cases has
            exact again c' listed
          · rintro req ctx rfl
            cases has
            exact again c' listed
          · rintro req ctx req' ctx' rfl rfl number
            exact same _ (mem_eventReports member called') number
        cases install : c with
        -- a permit: the condition says that none was granted since the first request
        | requestInstall req ctx =>
          subst install
          cases has
          exact namesFact_of_grantedSince rfl again (.inl (by simp)) fun b member c' called' has'
            between
            calm => facts b member c' called' has' between fun _ _ _ => calm
        | _ =>
          rw [← install]
          refine namesFact_of_forall fun b member c' called' _ same between => ?_
          refine facts b member c' called' (same.trans has) between fun req ctx other => ?_
          cases install.symm.trans other
    next => trivial

end Facts

/-- Over every run, from any store, with retries, attempts, downloads, tasks, crashes and restarts
in any order: as long as the surroundings offer no second fact under a key, two calls under one key
are of one kind and about one fact. -/
theorem keys_name_facts (env : Environment) (s : FotaCloudStateStore) (ops : List Operation)
    (kept : Always FactKept (run env (boot s) ops).trace) :
    Always KeyNamesFact (run env (boot s) ops).trace := by
  refine keyNamesFact_of_repeats (run_keyed env s ops) (run_repeating env s ops kept)
    (run_reports_same env s ops (kept.mono fun a past kept => ?_))
  unfold SnapshotRead
  split
  next restarted =>
    unfold FactKept at kept
    rw [restarted] at kept
    exact kept
  next => trivial

/-- The first report of the choice and the first request for a permit fail, and the process is
replaced before the second ones. -/
def retrying : Environment :=
  { cooperative with
    reply := fun n c => match c with
      | .reportConsent req ctx =>
        if n < 14 then .error ⟨"timeout"⟩ else cooperativeReply (.reportConsent req ctx)
      | .requestInstall req ctx =>
        if n < 44 then .error ⟨"timeout"⟩ else cooperativeReply (.requestInstall req ctx)
      | c => cooperativeReply c }

theorem keys_name_facts_after_retries :
    let ops : List Operation :=
      [.step, .step, .restart, .step, .step, .step, .step, .restart, .step, .step]
    Always FactKept (run retrying (boot {}) ops).trace ∧
      Always KeyNamesFact (run retrying (boot {}) ops).trace := by
  refine ⟨?_, @keys_name_facts _ _ _ ?_⟩
  · decide +kernel
  · decide +kernel

/-- The first download of the package fails, and its stage result is reported. -/
def redownloading : Environment :=
  { cooperative with
    reply := fun n c => match c with
      | .downloadAndVerify _ _ _ =>
        ({ allStagesSucceeded := decide (22 < n)
           hasStageResult := true
           stageResult :=
             { stageResultId := "SR-1", result := if n < 22 then .failed else .succeeded } } :
          DownloadOutcome)
      | c => cooperativeReply c }

/-- The success of the second download is reported under the key of the failure of the first. -/
theorem second_result_reuses_key :
    ¬Always KeyNamesFact (run redownloading (boot {}) (List.replicate 4 .step)).trace := by
  decide +kernel

/-- Another attempt asks for its permit under the key of the first. -/
example :
    let env : Environment :=
      { cooperative with
        reply := fun _ c => match c with
          | .reportFinalResult _ _ =>
            .ok { resultAccepted := true, vehicleTaskStatus := .retryPending }
          | c => cooperativeReply c }
    ¬Always KeyNamesFact (run env (boot {}) (List.replicate 7 .step)).trace := by
  decide +kernel

end CgwFota
