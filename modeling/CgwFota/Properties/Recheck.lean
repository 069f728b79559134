import CgwFota.Properties.Permit

/-!
# The check before the start

The recheck of guards and validity stands at the end of `doPermit`, the start in `doExecute`. The
state between them is already durable, so the start never depends on the outcome of the recheck.

## Main definitions

* `StartChecked`: a start comes after a guard check of its own step and before its permit expires.
* `NotPrepared`: the executor does not answer that the preparation is done.

## Main results

* `starts_checked_iff`: in a run that is not cut short, every start was checked exactly if there was
  none.
* `failed_recheck_is_bypassed`: the guards are violated, and the next step starts the installation.

## Proof strategy

A step that starts an installation checks no guards before, so both sides of the equivalence become
false at the same start. Until then both hold, and no other step is about either.
-/
namespace CgwFota

open Crash

/-- The guards were found to pass since the current operation began. -/
def guardsPassedInStep : List Entry → Bool
  | [] => false
  | a :: past =>
    match a.event with
    | .began _ => false
    | .returned .allGuardsPassed passed => passed || guardsPassedInStep past
    | _ => guardsPassedInStep past

/-- A start comes after a successful guard check of its own step and before its permit expires. -/
def StartChecked (env : Environment) (a : Entry) (past : List Entry) : Prop :=
  match a.event with
  | .called (.start permit) =>
    guardsPassedInStep past ∧ ∀ validUntil ∈ permit.validUntilMs, env.clock a.tick < validUntil
  | _ => True

/-- The executor does not answer that the preparation is done. -/
def NotPrepared (a : Entry) (_past : List Entry) : Prop :=
  match a.event with
  | .returned (.prepare _) r => r.ready = false
  | _ => True

/-- No operation was cut short. -/
def Uninterrupted (a : Entry) (_past : List Entry) : Prop := a.event.isCrash = false

instance (env : Environment) (a : Entry) (past : List Entry) :
    Decidable (StartChecked env a past) := by
  obtain ⟨_ | c | _, _, _, _⟩ := a
  all_goals unfold StartChecked; try infer_instance
  rcases c with _ | _ <;> infer_instance

instance (a : Entry) (past : List Entry) : Decidable (NotPrepared a past) := by
  obtain ⟨_ | _ | ⟨c, r⟩ | _, _, _, _⟩ := a
  all_goals unfold NotPrepared; try infer_instance
  rcases c with _ | _ <;> infer_instance

instance (a : Entry) (past : List Entry) : Decidable (Uninterrupted a past) :=
  inferInstanceAs (Decidable (_ = _))

/-- The starts were checked as long as there was none. -/
def CheckedIffNone (env : Environment) (w : World) : Prop :=
  Always (StartChecked env) w.trace ↔ Always NotPrepared w.trace

section Recheck

variable {env : Environment} {w w' : World} {parts : List Part}

theorem startChecked_of_part (a : Entry) (past : List Entry) (other : a.event.part ≠ .install) :
    StartChecked env a past := by
  unfold StartChecked
  split
  next same => exact absurd (congrArg Event.part same) other
  next => trivial

theorem notPrepared_of_part (a : Entry) (past : List Entry) (other : a.event.part ≠ .install) :
    NotPrepared a past := by
  unfold NotPrepared
  split
  next same => exact absurd (congrArg Event.part same) other
  next => trivial

theorem CheckedIffNone.within (h : CheckedIffNone env w) (within : Within parts w w')
    (install : .install ∉ parts) : CheckedIffNone env w' := by
  have grown : ∀ {P : Entry → List Entry → Prop}, (∀ a past, a.event.part ≠ .install → P a past) →
      (Always P w'.trace ↔ Always P w.trace) := fun silent =>
    ⟨within.past, within.always fun a past member =>
      silent a past fun same => install (same ▸ member)⟩
  exact (grown startChecked_of_part).trans (h.trans (grown notPrepared_of_part).symm)

/-- Once a start has gone unchecked and a preparation has succeeded, nothing can mend it. -/
theorem CheckedIffNone.of_failed (within : Within parts w w')
    (unchecked : ¬Always (StartChecked env) w.trace) (prepared : ¬Always NotPrepared w.trace) :
    CheckedIffNone env w' :=
  iff_of_false (fun always => unchecked (within.past always))
    (fun always => prepared (within.past always))

theorem guardsPassedInStep_cons (a : Entry) (past : List Entry) (run : a.event.part ≠ .run)
    (permit : a.event.part ≠ .permit) :
    guardsPassedInStep (a :: past) = guardsPassedInStep past := by
  rw [guardsPassedInStep]
  split
  next same => exact absurd (congrArg Event.part same) run
  next same => exact absurd (congrArg Event.part same) permit
  next => rfl

theorem guardsPassedInStep_within (within : Within parts w w') (run : .run ∉ parts)
    (permit : .permit ∉ parts) : guardsPassedInStep w'.trace = guardsPassedInStep w.trace :=
  within.observed fun a past member =>
    guardsPassedInStep_cons a past (fun same => run (same ▸ member))
      (fun same => permit (same ▸ member))

/-- The start is unchecked where the step has checked no guards. -/
theorem checked_doExecute (holds : CheckedIffNone env w)
    (unguarded : guardsPassedInStep w.trace = false) :
    wp doExecute (fun _ => CheckedIffNone env) (fun _ => True) env w := by
  have flush : ∀ w', CheckedIffNone env w' →
      wp flushOutbox (fun _ => CheckedIffNone env) (fun _ => True) env w' := fun w' holds =>
    wp_mono
      (proceeds_flushOutbox.touches.keeps (fun _ _ within h => h.within within (by simp)) w' holds)
      (fun _ _ h => h) fun _ _ => trivial
  unfold doExecute
  simp only [wp_bind, wp_memory, wp_ite]
  split
  next =>
    refine wp_call (fun _ _ => trivial) fun w' prep within => ⟨trivial, ?_⟩
    have pending : CheckedIffNone env w' := by
      refine CheckedIffNone.within (w := w.effect (.called (.prepare w.mem.frozenTask))) ?_ within
        (by simp)
      simpa [CheckedIffNone, StartChecked, NotPrepared] using holds
    have unguarded' : guardsPassedInStep w'.trace = false := by
      rw [guardsPassedInStep_within within (by simp) (by simp)]
      simpa [guardsPassedInStep] using unguarded
    cases ready : prep.ready with
    -- not ready: there is no start
    | false => simpa [CheckedIffNone, StartChecked, NotPrepared, ready] using pending
    | true =>
      -- from here on both sides of the equivalence are false
      simp only [Bool.not_true, Bool.false_eq_true, ite_false]
      refine wp_call (fun _ _ => trivial) fun w'' st within' => ⟨trivial, ?_⟩
      have prepared : ¬Always NotPrepared
          (w''.effect (.returned (.start w'.mem.permit) st)).trace := fun all => by
        have prepared : NotPrepared ⟨.returned _ prep, _, _, _⟩ _ := (within'.past all.2).2.1
        simp [NotPrepared, ready] at prepared
      have unchecked : ¬Always (StartChecked env)
          (w''.effect (.returned (.start w'.mem.permit) st)).trace := fun all => by
        have checked : StartChecked env ⟨.called (.start w'.mem.permit), _, _, _⟩ _ :=
          (within'.past all.2).1
        simp [StartChecked, guardsPassedInStep, unguarded'] at checked
      have rest : ∀ {α : Type} {m : Orch α} (parts : List Part), Touches env parts m →
          wp m (fun _ => CheckedIffNone env) (fun _ => True) env
            (w''.effect (.returned (.start w'.mem.permit) st)) := fun _ touches =>
        wp_mono (touches _) (fun _ _ within => .of_failed within unchecked prepared)
          fun _ _ => trivial
      split
      -- the executor refused to start
      next => exact rest [] (.pure _)
      -- it started
      next => exact rest _ proceeds_recordStart.touches
  -- it was started before
  next => exact flush w holds

/-- A step, which begins without a guard check. -/
theorem checked_step (holds : CheckedIffNone env w)
    (unguarded : guardsPassedInStep w.trace = false) :
    wp step (fun _ => CheckedIffNone env) (fun _ => True) env w := by
  have keeps : ∀ {m : Orch StepOutcome} {parts : List Part} {w : World}, Touches env parts m →
      .install ∉ parts → CheckedIffNone env w →
      wp m (fun _ => CheckedIffNone env) (fun _ => True) env w := fun touches install holds =>
    wp_mono (touches.keeps (fun _ _ within h => h.within within install) _ holds)
      (fun _ _ h => h) fun _ _ => trivial
  refine wp_step (fun _ => holds) (fun _ => keeps proceeds_doCheckTask.touches (by simp) holds)
    (fun _ => keeps proceeds_doConsent.touches (by simp) holds)
    (fun _ => keeps proceeds_doDownload.touches (by simp) holds)
    (fun _ => keeps proceeds_doPermit.touches (by simp) holds)
    (fun _ => checked_doExecute holds unguarded)
      (fun _ => keeps proceeds_doPermit.touches (by simp) ?_)
    fun _ => checked_doExecute ?_ unguarded
  · simpa [CheckedIffNone, StartChecked, NotPrepared] using holds
  · simpa [CheckedIffNone, StartChecked, NotPrepared] using holds

end Recheck

/-- In a run whose operations are not cut short, every start was checked in its own step exactly
if there was none: no preparation succeeded. -/
theorem starts_checked_iff (env : Environment) (s : FotaCloudStateStore) (ops : List Operation)
    (uninterrupted : Always Uninterrupted (run env (boot s) ops).trace) :
    Always (StartChecked env) (run env (boot s) ops).trace ↔
      Always NotPrepared (run env (boot s) ops).trace := by
  let J := Assuming Uninterrupted (CheckedIffNone env)
  have noted : ∀ event w, event.part = .run → J w → J (w.note event) := by
    intro event w part holds cond
    refine (holds cond.2).within (.note_run event part) (by simp)
  have restarts : ∀ w, J w → J (restart w) := fun w holds cond => by
    simpa [CheckedIffNone, StartChecked, NotPrepared] using holds cond.2
  have initial : J (boot s) := restarts _ fun _ => Iff.rfl
  refine run_keeps J (fun _ => True) (fun op w => noted (.began op) w rfl)
    (fun w w' within holds cond => (holds (within.past cond)).within within (by simp))
    (fun w holds => ?_) (fun _ _ => trivial) (fun w _ cond => ?_) restarts ops initial
    uninterrupted
  · have holds : J (w.note (.began .step)) := noted _ w rfl holds
    exact wp_mono (holds.wp proceeds_step.touches fun body => checked_step body rfl)
      (fun _ _ h => h) fun _ _ => trivial
  · exact absurd cond.2.1 (by simp [Uninterrupted, Event.isCrash])

/-- An executor that is never ready. -/
theorem starts_checked_unprepared :
    let env : Environment :=
      { cooperative with
        reply := fun _ c => match c with
          | .prepare _ => ({ ready := false } : PrepareResult)
          | c => cooperativeReply c }
    let w := run env (boot {}) (List.replicate 8 .step)
    Always Uninterrupted w.trace ∧
      (Always (StartChecked env) w.trace ↔ Always NotPrepared w.trace) := by
  refine ⟨?_, @starts_checked_iff _ _ _ ?_⟩
  · decide +kernel
  · decide +kernel

/-- The recheck finds the guards violated, and the next step starts the installation. -/
theorem failed_recheck_is_bypassed :
    let env : Environment :=
      { cooperative with
        reply := fun n c => match c with
          | .allGuardsPassed => decide (n < 40)
          | c => cooperativeReply c }
    ¬Always (StartChecked env) (run env (boot {}) (List.replicate 7 .step)).trace := by
  decide +kernel

end CgwFota
