import CgwFota.Data.Delimited
import CgwFota.Orchestrator.Frame

/-!
# Keys of the calls

Every call of the cloud is made under a key, from which its identity is built. The key names the
operation and what it is about, and no two operations share one.

## Main definitions

* `CloudOperation`: what a key names, and the key as the call sites build it
* `Call.Keyed`: a call of the cloud has the identity its key gives
* `Makes`: however it stops, an action makes such calls only

## Main results

* `CloudOperation.key_injective`: a key names one operation
* `run_keyed`: every call of the cloud in a run has the identity of its key

## Proof strategy

A key is the kind of the operation, a dash and the subject, and no kind contains a dash; so the
first dash tells the two apart. That calls are keyed is shown for each phase along its code.
-/
namespace CgwFota

open Crash Delimited

/-! ### Operations -/

/-- What a key names. -/
inductive CloudOperation where
  | checkTask (vehicleTaskId : String)
  | consent (vehicleTaskId : String)
  | download (packageId : String)
  | stageResult (packageId : String)
  | permit (vehicleTaskId : String)
  | event (sequenceNo : Nat)
  | finalResult (executionId : String)
  | logUpload (vehicleTaskId : String)
  | logResult (logId : String)
  | controlAck (controlRevision : Nat)
  | policySync
  deriving DecidableEq, Repr

namespace CloudOperation

/-- The key as the call sites build it. -/
def key : CloudOperation → String
  | checkTask id => "checkTask-" ++ id
  | consent id => "consent-" ++ id
  | download id => "dl-" ++ id
  | stageResult id => "sr-" ++ id
  | permit id => "permit-" ++ id
  | event n => "evt-" ++ toString n
  | finalResult id => "final-" ++ id
  | logUpload id => "log-" ++ id
  | logResult id => "logres-" ++ id
  | controlAck n => "ctrlack-" ++ toString n
  | policySync => "policy-sync"

/-- The part of the key before its first dash. -/
def kind : CloudOperation → List Char
  | checkTask _ => ['c', 'h', 'e', 'c', 'k', 'T', 'a', 's', 'k']
  | consent _ => ['c', 'o', 'n', 's', 'e', 'n', 't']
  | download _ => ['d', 'l']
  | stageResult _ => ['s', 'r']
  | permit _ => ['p', 'e', 'r', 'm', 'i', 't']
  | event _ => ['e', 'v', 't']
  | finalResult _ => ['f', 'i', 'n', 'a', 'l']
  | logUpload _ => ['l', 'o', 'g']
  | logResult _ => ['l', 'o', 'g', 'r', 'e', 's']
  | controlAck _ => ['c', 't', 'r', 'l', 'a', 'c', 'k']
  | policySync => ['p', 'o', 'l', 'i', 'c', 'y']

/-- The part of the key behind its first dash. -/
def subject : CloudOperation → String
  | checkTask id | consent id | download id | stageResult id | permit id | finalResult id
  | logUpload id | logResult id => id
  | event n | controlAck n => toString n
  | policySync => "sync"

theorem toList_key (op : CloudOperation) :
    op.key.toList = op.kind ++ ['-'] ++ op.subject.toList := by
  cases op <;> simp [key, kind, subject]

theorem dash_not_mem_kind (op : CloudOperation) : '-' ∉ op.kind := by
  cases op <;> simp [kind]

theorem toString_injective {m n : Nat} (same : toString m = toString n) : m = n := by
  have digits : m.repr.toList = n.repr.toList := congrArg String.toList same
  rw [Nat.toList_repr, Nat.toList_repr] at digits
  rw [← Nat.ofDigitChars_ten_toDigits (n := m), digits, Nat.ofDigitChars_ten_toDigits]

theorem key_injective {op op' : CloudOperation} (same : op.key = op'.key) : op = op' := by
  have chars := congrArg String.toList same
  rw [toList_key, toList_key] at chars
  obtain ⟨kinds, subjects⟩ := selfDelimiting_terminated '-' _ _ _ _ op.dash_not_mem_kind
    op'.dash_not_mem_kind chars
  have subjects := String.toList_inj.mp subjects
  -- two kinds differ, so the operations are of one kind and their subjects are equal
  cases op <;> cases op' <;> simp only [kind, List.cons.injEq, Char.reduceEq, false_and, and_false,
    reduceCtorEq] at kinds
  all_goals first
    | rfl
    | exact congrArg _ subjects
    | exact congrArg _ (toString_injective subjects)

end CloudOperation

/-! ### Calls -/

/-- The context of a call of the cloud. -/
def Call.context : Call → Option CallContext
  | .checkTask _ ctx | .reportConsent _ ctx | .requestDownload _ ctx | .reportStageResult _ ctx
  | .requestInstall _ ctx | .reportEvent _ ctx | .acknowledgeControl _ ctx
  | .reportFinalResult _ ctx | .requestLogUpload _ ctx | .reportLogUpload _ ctx
  | .syncPolicy _ ctx => some ctx
  | _ => none

/-- The call is of the kind of the operation, and about what it names where the request tells. -/
def Call.Performs : Call → CloudOperation → Prop
  | .checkTask _ _, .checkTask _ | .reportConsent _ _, .consent _
  | .reportStageResult _ _, .stageResult _ | .requestInstall _ _, .permit _
  | .reportFinalResult _ _, .finalResult _ | .requestLogUpload _ _, .logUpload _
  | .reportLogUpload _ _, .logResult _ | .syncPolicy _ _, .policySync => True
  | .requestDownload req _, .download packageId => req.packageId = packageId
  | .reportEvent req _, .event sequenceNo => req.sequenceNo = sequenceNo
  | .acknowledgeControl req _, .controlAck controlRevision =>
    req.ack.controlRevision = controlRevision
  | _, _ => False

/-- A call of the cloud has the identity its key gives. -/
def Call.Keyed (c : Call) : Prop :=
  ∀ ctx, c.context = some ctx → ∃ op, c.Performs op ∧ ctx.requestId = "req-" ++ op.key ∧
    ctx.idempotencyKey = op.key

/-- Calls made between two worlds. -/
def CallsBetween (K : Call → Prop) (w w' : World) : Prop :=
  ∃ new, w'.trace = new ++ w.trace ∧ ∀ a ∈ new, ∀ c, a.event = .called c → K c

instance (K : Call → Prop) : IsPreorder World (CallsBetween K) where
  refl w := ⟨[], rfl, by simp⟩
  trans a b c h h' := by
    obtain ⟨new, whole, calls⟩ := h
    obtain ⟨new', whole', calls'⟩ := h'
    refine ⟨new' ++ new, by rw [whole', whole, List.append_assoc], fun entry member => ?_⟩
    rcases List.mem_append.mp member with member | member
    · exact calls' entry member
    · exact calls entry member

/-- However it stops, the action makes such calls only. -/
abbrev Makes (e : Environment) (K : Call → Prop) {α : Type} (m : Orch α) : Prop :=
  Follows e (CallsBetween K) (CallsBetween K) m

section Makes

variable {e : Environment} {K : Call → Prop} {α : Type} {w : World}

theorem calls_refl (w : World) : CallsBetween K w w := refl_of (CallsBetween K) w

theorem calls_one {event : Event} (known : ∀ c, event = .called c → K c)
    {w' : World} (whole : w'.trace = ⟨event, w.mem, w.store, w.tick⟩ :: w.trace) :
    CallsBetween K w w' := by
  refine ⟨[_], whole, fun a member c called => ?_⟩
  obtain rfl := List.mem_singleton.mp member
  exact known c called

theorem makes_memory : Makes e K memory := fun w => calls_refl w

theorem makes_store : Makes e K store := fun w => calls_refl w

theorem makes_config : Makes e K config := fun w => calls_refl w

theorem makes_nowMs : Makes e K nowMs := fun w => ⟨[], rfl, by simp⟩

theorem makes_setMemory (f : Memory → Memory) : Makes e K (setMemory f) := fun w =>
  ⟨[], rfl, by simp⟩

theorem makes_effect {event : Event} (known : ∀ c, event = .called c → K c) :
    Makes e K (effect event) := fun _ =>
  wp_effect (calls_one known rfl) (calls_one known rfl)

theorem makes_save (s : Save) : Makes e K (save s) := makes_effect (by simp)

theorem makes_note {event : Event} (known : ∀ c, event = .called c → K c) :
    Makes e K (note event) := fun _ => calls_one known rfl

theorem makes_setVtState (s : VehicleTaskState) : Makes e K (setVtState s) :=
  .bind (makes_setMemory _) fun _ => makes_note (by simp)

theorem makes_setExState (s : ExecutionState) : Makes e K (setExState s) :=
  .bind (makes_setMemory _) fun _ => makes_note (by simp)

theorem makes_emit (evt : ExecutionEvent) : Makes e K (emit evt) := by
  refine .bind makes_store fun s => .bind makes_config fun cfg => ?_
  refine .ite (fun _ => .pure _) fun _ => ?_
  exact .bind (makes_save _) fun _ => .bind (makes_save _) fun _ =>
    .bind (makes_setMemory _) fun _ => .bind (makes_note (by simp)) fun _ => .pure _

theorem makes_call {c : Call} (known : K c) : Makes e K (call c) := by
  refine .bind (makes_effect (by rintro _ ⟨⟩; exact known)) fun _ => .bind (fun w => ?_) fun _ =>
    .bind (fun w => calls_refl w) fun _ => .bind (makes_effect (by simp)) fun _ => .pure _
  exact Follows.forEach (fun evt => .bind (makes_emit evt) fun _ => .pure ()) (e.emits w.tick c) w

/-- A call under a key has the identity of the key. -/
theorem makes_ctx (key : String) {f : CallContext → Orch α}
    (next : ∀ ctx, ctx.requestId = "req-" ++ key → ctx.idempotencyKey = key → Makes e K (f ctx)) :
    Makes e K (makeCtx key >>= f) := by
  intro w
  rw [wp_bind, wp_makeCtx]
  exact next _ rfl rfl w

theorem makes_persistVehicleTask (action : String) : Makes e K (persistVehicleTask action) :=
  .bind makes_nowMs fun _ => .bind makes_memory fun _ => makes_save _

theorem makes_persistExecution : Makes e K persistExecution :=
  .bind makes_memory fun _ => .bind (makes_save _) fun _ => makes_save _

end Makes

/-! ### The phases -/

section Phases

variable {e : Environment}

theorem keyed_port {c : Call} (port : c.context = none) : c.Keyed := by
  intro ctx cloud
  rw [port] at cloud
  cases cloud

theorem keyed_cloud {c : Call} {ctx : CallContext} (op : CloudOperation)
    (cloud : c.context = some ctx) (request : ctx.requestId = "req-" ++ op.key)
    (key : ctx.idempotencyKey = op.key) (performs : c.Performs op) : c.Keyed := by
  intro other same
  rw [cloud] at same
  cases same
  exact ⟨op, performs, request, key⟩

/-- The check for a task is keyed by the task. -/
theorem keyed_doCheckTask : Makes e Call.Keyed doCheckTask := by
  refine .bind (makes_call (keyed_port rfl)) fun inv => .bind makes_memory fun m =>
    makes_ctx _ fun ctx request key => ?_
  refine .bind (makes_call (keyed_cloud (.checkTask _) rfl request key trivial)) fun reply => ?_
  cases reply with
  | error ex => exact .pure _
  | ok resp =>
    refine .ite (fun _ => .bind makes_nowMs fun _ => .bind (makes_save _) fun _ => .pure _)
      fun _ => ?_
    cases resp.task with
    | none => exact .pure _
    | some task =>
      exact .bind (makes_setMemory _) fun _ => .bind (makes_setVtState _) fun _ =>
        .bind (makes_persistVehicleTask _) fun _ => .bind (makes_setVtState _) fun _ =>
        .bind (makes_persistVehicleTask _) fun _ => .bind makes_memory fun _ => .pure _

theorem keyed_doConsent : Makes e Call.Keyed doConsent := by
  refine .bind makes_memory fun m => .bind (makes_call (keyed_port rfl)) fun choice =>
    .bind makes_nowMs fun now => makes_ctx _ fun ctx request key => ?_
  refine .bind (makes_call (keyed_cloud (.consent _) rfl request key trivial)) fun reply => ?_
  cases reply with
  | error ex => exact .pure _
  | ok resp =>
    exact .bind makes_nowMs fun _ => .bind (makes_save _) fun _ =>
      .bind (makes_setVtState _) fun _ =>
      .bind (makes_persistVehicleTask _) fun _ => .bind makes_memory fun _ => .pure _

theorem keyed_abandonDownload (entry : FotaDownloadRecord) (ex : FotaCloudException) :
    Makes e Call.Keyed (abandonDownload entry ex) :=
  .bind (makes_setVtState _) fun _ => .bind (makes_save _) fun _ => .pure _

theorem keyed_concludeDownload (entry : FotaDownloadRecord) (cleared : Bool)
    (outcome : DownloadOutcome) : Makes e Call.Keyed (concludeDownload entry cleared outcome) :=
  .ite (fun _ => .bind (makes_save _) fun _ => .pure _) fun _ =>
    .bind (makes_save _) fun _ => .pure _

/-- A grant is keyed by the package, and the result of its stages too. -/
theorem keyed_downloadPackage (pkg : PackageSummary) :
    Makes e Call.Keyed (downloadPackage pkg) := by
  refine .bind makes_store fun s => .ite (fun _ => .bind (makes_note (by simp)) fun _ => .pure _)
    fun _ => .bind makes_memory fun m => makes_ctx _ fun ctx request key => ?_
  refine .bind (makes_call (keyed_cloud (.download _) rfl request key rfl)) fun reply => ?_
  cases reply with
  | error ex => exact keyed_abandonDownload _ _
  | ok grant =>
    refine .bind (makes_call (keyed_port rfl)) fun outcome => .ite (fun _ => ?_) fun _ =>
      keyed_concludeDownload _ _ _
    refine .bind makes_nowMs fun now => makes_ctx _ fun ctx request key => ?_
    refine .bind (makes_call (keyed_cloud (.stageResult _) rfl request key trivial)) fun reply => ?_
    cases reply with
    | error ex => exact keyed_abandonDownload _ _
    | ok resp =>
      exact .ite (fun _ => keyed_concludeDownload _ _ _) fun _ => keyed_concludeDownload _ _ _

theorem keyed_downloadPackages (packages : List PackageSummary) (allReady : Bool)
    (error : String) : Makes e Call.Keyed (downloadPackages packages allReady error) := by
  induction packages generalizing allReady error with
  | nil => exact .pure _
  | cons pkg rest ih =>
    refine .bind (keyed_downloadPackage pkg) fun result => ?_
    cases result with
    | stop e => exact .pure _
    | next cleared e => exact ih _ _

theorem keyed_doDownload : Makes e Call.Keyed doDownload := by
  refine .bind makes_memory fun m => .bind (keyed_downloadPackages _ _ _) fun result => ?_
  cases result with
  | error ex => exact .pure _
  | ok r =>
    exact .bind (makes_setVtState _) fun _ => .bind (makes_persistVehicleTask _) fun _ =>
      .bind makes_memory fun _ => .pure _

theorem keyed_acceptPermit (resp : InstallPermitResponse) :
    Makes e Call.Keyed (acceptPermit resp) := by
  refine .bind (makes_setMemory _) fun _ => .bind (makes_setExState _) fun _ =>
    .bind (makes_setVtState _) fun _ => .bind (makes_persistVehicleTask _) fun _ =>
    .bind makes_persistExecution fun _ => .bind makes_nowMs fun now => ?_
  exact .ite (fun _ => .pure _) fun _ => .bind (makes_call (keyed_port rfl)) fun guards =>
    .ite (fun _ => .pure _) fun _ => .bind makes_memory fun _ => .pure _

theorem keyed_requestPermit : Makes e Call.Keyed requestPermit := by
  refine .bind (makes_call (keyed_port rfl)) fun ev => .bind makes_memory fun m =>
    .bind makes_store fun s => makes_ctx _ fun ctx request key => ?_
  refine .bind (makes_call (keyed_cloud (.permit _) rfl request key trivial)) fun reply => ?_
  cases reply with
  | error ex => exact .pure _
  | ok resp => exact .ite (fun _ => .pure _) fun _ => keyed_acceptPermit resp

theorem keyed_doPermit : Makes e Call.Keyed doPermit := by
  refine .bind makes_memory fun m => .ite (fun _ => ?_) fun _ => .bind makes_nowMs fun now => ?_
  · exact .bind (makes_setVtState _) fun _ => .bind (makes_persistVehicleTask _) fun _ =>
      .bind makes_memory fun _ => .pure _
  · exact .ite (fun _ => .pure _) fun _ => .bind (makes_call (keyed_port rfl)) fun guards =>
      .ite (fun _ => .pure _) fun _ => keyed_requestPermit

theorem keyed_doLogUpload : Makes e Call.Keyed doLogUpload := by
  refine .bind makes_nowMs fun now => .bind makes_nowMs fun later => .bind makes_memory fun m =>
    makes_ctx _ fun ctx request key => ?_
  refine .bind (makes_call (keyed_cloud (.logUpload _) rfl request key trivial)) fun reply => ?_
  cases reply with
  | error ex => exact .pure _
  | ok grant =>
    refine .bind (makes_call (keyed_port rfl)) fun pkg => .ite (fun _ => .pure _) fun _ =>
      .bind makes_nowMs fun uploaded => makes_ctx _ fun ctx request key => ?_
    refine .bind (makes_call
      (keyed_cloud (.logResult ("LOG-" ++ toString now)) rfl request key trivial)) fun reply => ?_
    cases reply with
    | error ex => exact .pure _
    | ok done => exact .bind makes_nowMs fun _ => makes_save _

theorem keyed_doFinalize : Makes e Call.Keyed doFinalize := by
  refine .bind (makes_call (keyed_port rfl)) fun data => .bind makes_memory fun m =>
    .bind makes_nowMs fun now => makes_ctx _ fun ctx request key => ?_
  refine .bind (makes_call (keyed_cloud (.finalResult _) rfl request key trivial)) fun reply => ?_
  cases reply with
  | error ex => exact .pure _
  | ok resp =>
    refine .ite (fun _ => .pure _) fun _ => .bind keyed_doLogUpload fun _ =>
      .bind (makes_setExState _) fun _ => .bind ?_ fun _ => .bind (makes_persistVehicleTask _)
      fun _ => .bind makes_persistExecution fun _ => .bind makes_memory fun _ => .pure _
    exact .bind (makes_setVtState _) fun _ => .bind makes_memory fun _ =>
      .ite (fun _ => makes_setVtState _) fun _ => .pure _

theorem keyed_sendEvent (seq : Nat) (st : SendState) : Makes e Call.Keyed (sendEvent seq st) := by
  refine .bind makes_store fun s => ?_
  cases s.loadEvent seq with
  | none => exact .pure _
  | some r =>
    refine .ite (fun _ => .pure _) fun _ =>
      .ite (fun _ => .bind (makes_save _) fun _ => .pure _) fun _ =>
      makes_ctx _ fun ctx request key => ?_
    refine .bind (makes_call (keyed_cloud (.event r.sequenceNo) rfl request key rfl))
      fun reply => ?_
    cases reply with
    | error ex => exact .bind (makes_save _) fun _ => .pure _
    | ok resp =>
      exact .ite (fun _ => .bind (makes_setMemory _) fun _ => .bind (makes_save _) fun _ => .pure _)
        fun _ => .bind (makes_save _) fun _ => .pure _

theorem keyed_sendEvents (seqs : List Nat) (st : SendState) :
    Makes e Call.Keyed (sendEvents seqs st) := by
  induction seqs generalizing st with
  | nil => exact .pure _
  | cons seq rest ih => exact .bind (keyed_sendEvent seq st) ih

theorem keyed_flushOutbox : Makes e Call.Keyed flushOutbox := by
  refine .bind makes_store fun s => .bind (keyed_sendEvents _ _) fun st =>
    .bind makes_memory fun m => .bind ?_ fun _ => .bind makes_persistExecution fun _ => ?_
  · exact .ite (fun _ => makes_save _) fun _ => .pure _
  · exact .ite (fun _ => .pure _) fun _ => keyed_doFinalize

theorem keyed_doExecute : Makes e Call.Keyed doExecute := by
  refine .bind makes_memory fun m => .ite (fun _ => ?_) fun _ => keyed_flushOutbox
  refine .bind (makes_call (keyed_port rfl)) fun prep => .ite (fun _ => .pure _) fun _ =>
    .bind makes_memory fun m => .bind (makes_call (keyed_port rfl)) fun st =>
    .ite (fun _ => .pure _) fun _ => ?_
  exact .bind (makes_setExState _) fun _ => .bind makes_persistExecution fun _ => keyed_flushOutbox

/-- The calls of a step are keyed, whatever its phase. -/
theorem keyed_step : Makes e Call.Keyed step := by
  refine .bind makes_memory fun m => .ite (fun _ => .pure _) fun _ => ?_
  -- the phases one by one
  cases m.vtState with
  | none | discovered => exact keyed_doCheckTask
  | consentPending => exact keyed_doConsent
  | downloadPending | downloading => exact keyed_doDownload
  | ready | waitingWindow | permitPending => exact keyed_doPermit
  | executing => exact keyed_doExecute
  | retryPending => exact .bind (makes_setVtState _) fun _ => keyed_doPermit
  | rollbackPending =>
    exact .bind (makes_setExState _) fun _ => .bind (makes_setVtState _) fun _ => keyed_doExecute
  | paused | completed | ended => exact .pure _

theorem keyed_applyControl (cmd : ControlCommand) : Makes e Call.Keyed (applyControl cmd) := by
  refine .bind makes_store fun s => .ite (fun _ => .pure _) fun _ => .bind (makes_save _) fun _ =>
    .bind (makes_setMemory _) fun _ => .bind (makes_call (keyed_port rfl)) fun app =>
    .ite (fun _ => .bind ?_ fun _ => .pure _) fun _ => .pure _
  refine .bind makes_memory fun m => .bind (makes_setMemory _) fun _ => .bind makes_nowMs fun now =>
    .bind (makes_save _) fun _ => .bind (makes_setMemory _) fun _ => .bind makes_nowMs fun later =>
    makes_ctx _ fun ctx request key => ?_
  exact .bind (makes_call (keyed_cloud (.controlAck _) rfl request key rfl)) fun reply => .pure _

theorem keyed_syncPolicy : Makes e Call.Keyed syncPolicy := by
  refine .bind makes_store fun s => .bind makes_nowMs fun now =>
    makes_ctx _ fun ctx request key => ?_
  refine .bind (makes_call (keyed_cloud .policySync rfl request key trivial)) fun reply => ?_
  cases reply with
  | error ex => exact .pure _
  | ok resp => exact .bind (makes_save _) fun _ => .pure _

/-- No call of an operation lacks the identity of its key. -/
theorem keyed_perform (op : Operation) (w : World) :
    wp (perform op) (fun _ w' => CallsBetween Call.Keyed w w')
      (fun w' => CallsBetween Call.Keyed w w') e w := by
  cases op with
  | step => exact (Follows.bind keyed_step fun _ => .pure ()) w
  | emit evt => exact (Follows.bind (makes_emit evt) fun _ => .pure ()) w
  | applyControl cmd => exact (Follows.bind (keyed_applyControl cmd) fun _ => .pure ()) w
  | syncPolicy => exact (Follows.bind keyed_syncPolicy fun _ => .pure ()) w
  | restart =>
    refine ⟨[_], rfl, fun a member c called => ?_⟩
    obtain rfl := List.mem_singleton.mp member
    cases called

end Phases

/-- Every call of the cloud in a run has the identity its key gives. -/
theorem run_keyed (env : Environment) (s : FotaCloudStateStore) (ops : List Operation) :
    ∀ a ∈ (run env (boot s) ops).trace, ∀ c, a.event = .called c → c.Keyed := by
  refine run_invariant env (fun w => ∀ a ∈ w.trace, ∀ c, a.event = .called c → c.Keyed) ?_ ops _ ?_
  · intro op w holds
    have after : ∀ w', CallsBetween Call.Keyed (w.note (.began op)) w' →
        ∀ a ∈ w'.trace, ∀ c, a.event = .called c → c.Keyed := by
      rintro w' ⟨new, whole, calls⟩ a member c called
      rw [whole] at member
      rcases List.mem_append.mp member with member | member
      · exact calls a member c called
      · rcases List.mem_cons.mp member with rfl | member
        · cases called
        · exact holds a member c called
    refine wp_mono (keyed_perform op _) (fun _ w' between => after w' between) fun w' between => ?_
    intro a member c called
    -- the entries of the crash and of the start are no calls
    rcases List.mem_cons.mp member with rfl | member
    · cases called
    · rcases List.mem_cons.mp member with rfl | member
      · cases called
      · exact after w' between a member c called
  · intro a member c called
    obtain rfl := List.mem_singleton.mp member
    cases called

end CgwFota
