import Mathlib.Tactic.Common

/-!
# Vehicle task and execution states

The two state machines of a task, their documented transitions, the names under which their states
are stored and the mapping to the wire enumerations.

## Main definitions

* `VehicleTaskState`, `ExecutionState`: the states.
* `isValidVehicleTaskTransition`, `isValidExecutionTransition`: the documented transitions. A state
  may be assigned to itself, and a terminal one goes nowhere else.
* `vehicleTaskStateToString`, `executionStateToString` and their converses: the stored names.
* `toProto`, `fromProtoVehicleTask`: the wire values.

## Main results

* `vehicleTaskState_roundtrip`, `executionState_roundtrip`: a stored name reads back as its state.
* `fromProto_toProto`: so does a wire value. The converse fails, as every value without a state
  reads as `none`.
-/
namespace CgwFota

inductive VehicleTaskState where
  | none | discovered | consentPending | downloadPending | downloading | ready | waitingWindow
  | permitPending | executing | retryPending | rollbackPending | paused | completed | ended
  deriving DecidableEq, Repr, Inhabited

inductive ExecutionState where
  | permitPersisted | ready | installStarted | install | reboot | postCheck | rollback
  | resultPending | succeeded | failed | rolledBack | canceled
  deriving DecidableEq, Repr, Inhabited

/-! ### Documented transitions -/

def isTerminalVehicleTaskState (s : VehicleTaskState) : Bool :=
  s = .completed || s = .ended

/-- The table of the vehicle task, one row for each source. -/
def documentedTransition (source target : VehicleTaskState) : Bool :=
  match source with
  | .none => target = .discovered
  | .discovered => target = .consentPending || target = .downloadPending || target = .paused
  | .consentPending => target = .downloadPending || target = .ended
  | .downloadPending => target = .downloading
  | .downloading => target = .ready
  | .ready => target = .waitingWindow || target = .paused
  | .waitingWindow => target = .permitPending
  | .permitPending => target = .executing
  | .executing => target = .retryPending || target = .rollbackPending || target = .completed ||
      target = .paused
  | .retryPending => target = .permitPending
  | .rollbackPending => target = .executing
  | .paused => target = .discovered || target = .ended
  | .completed | .ended => false

def isValidVehicleTaskTransition (source target : VehicleTaskState) : Bool :=
  if source = target then true
  else if isTerminalVehicleTaskState source then false
  else if target = .ended then true
  else documentedTransition source target

def isTerminalExecutionState (s : ExecutionState) : Bool :=
  s = .succeeded || s = .failed || s = .rolledBack || s = .canceled

/-- The execution has its table in the same shape. -/
def isValidExecutionTransition (source target : ExecutionState) : Bool :=
  if source = target then true
  else if isTerminalExecutionState source then false
  else if target = .canceled then true
  else match source with
    | .permitPersisted => target = .ready
    | .ready => target = .installStarted
    | .installStarted => target = .install
    | .install => target = .reboot || target = .rollback || target = .resultPending
    | .reboot => target = .postCheck
    | .postCheck => target = .resultPending || target = .rollback
    | .rollback => target = .resultPending
    | .resultPending => target = .succeeded || target = .failed || target = .rolledBack
    | .succeeded | .failed | .rolledBack | .canceled => false

/-! ### Stored names -/

def vehicleTaskStateToString : VehicleTaskState → String
  | .none => "NONE"
  | .discovered => "DISCOVERED"
  | .consentPending => "CONSENT_PENDING"
  | .downloadPending => "DOWNLOAD_PENDING"
  | .downloading => "DOWNLOADING"
  | .ready => "READY"
  | .waitingWindow => "WAITING_WINDOW"
  | .permitPending => "PERMIT_PENDING"
  | .executing => "EXECUTING"
  | .retryPending => "RETRY_PENDING"
  | .rollbackPending => "ROLLBACK_PENDING"
  | .paused => "PAUSED"
  | .completed => "COMPLETED"
  | .ended => "ENDED"

/-- What `c_str` hands to `strcmp`: the text up to its first NUL. -/
def cString (s : String) : String := String.ofList (s.toList.takeWhile (· ≠ Char.ofNat 0))

/-- `none` stands for the result `false`, which leaves the output parameter alone. -/
def vehicleTaskStateFromString (s : String) : Option VehicleTaskState :=
  match cString s with
  | "NONE" => some .none
  | "DISCOVERED" => some .discovered
  | "CONSENT_PENDING" => some .consentPending
  | "DOWNLOAD_PENDING" => some .downloadPending
  | "DOWNLOADING" => some .downloading
  | "READY" => some .ready
  | "WAITING_WINDOW" => some .waitingWindow
  | "PERMIT_PENDING" => some .permitPending
  | "EXECUTING" => some .executing
  | "RETRY_PENDING" => some .retryPending
  | "ROLLBACK_PENDING" => some .rollbackPending
  | "PAUSED" => some .paused
  | "COMPLETED" => some .completed
  | "ENDED" => some .ended
  | _ => Option.none

@[simp] theorem vehicleTaskState_roundtrip (s : VehicleTaskState) :
    vehicleTaskStateFromString (vehicleTaskStateToString s) = some s := by
  cases s <;> rfl

theorem vehicleTaskStateToString_injective {s t : VehicleTaskState}
    (h : vehicleTaskStateToString s = vehicleTaskStateToString t) : s = t := by
  have := congrArg vehicleTaskStateFromString h
  simpa using this

def executionStateToString : ExecutionState → String
  | .permitPersisted => "PERMIT_PERSISTED"
  | .ready => "READY"
  | .installStarted => "INSTALL_STARTED"
  | .install => "INSTALL"
  | .reboot => "REBOOT"
  | .postCheck => "POST_CHECK"
  | .rollback => "ROLLBACK"
  | .resultPending => "RESULT_PENDING"
  | .succeeded => "SUCCEEDED"
  | .failed => "FAILED"
  | .rolledBack => "ROLLED_BACK"
  | .canceled => "CANCELED"

def executionStateFromString (s : String) : Option ExecutionState :=
  match cString s with
  | "PERMIT_PERSISTED" => some .permitPersisted
  | "READY" => some .ready
  | "INSTALL_STARTED" => some .installStarted
  | "INSTALL" => some .install
  | "REBOOT" => some .reboot
  | "POST_CHECK" => some .postCheck
  | "ROLLBACK" => some .rollback
  | "RESULT_PENDING" => some .resultPending
  | "SUCCEEDED" => some .succeeded
  | "FAILED" => some .failed
  | "ROLLED_BACK" => some .rolledBack
  | "CANCELED" => some .canceled
  | _ => none

@[simp] theorem executionState_roundtrip (s : ExecutionState) :
    executionStateFromString (executionStateToString s) = some s := by
  cases s <;> rfl

/-! ### Wire enumerations -/

/-- Enumerations are open on the wire: a value this build does not know is kept as a number. -/
inductive VehicleTaskStatus where
  | unspecified | discovered | consentPending | downloadPending | downloading | ready
  | waitingWindow | permitPending | executing | paused | retryPending | rollbackPending
  | completed | ended
  | unrecognized (value : Int)
  deriving DecidableEq, Repr, Inhabited

def toProto : VehicleTaskState → VehicleTaskStatus
  | .none => .unspecified
  | .discovered => .discovered
  | .consentPending => .consentPending
  | .downloadPending => .downloadPending
  | .downloading => .downloading
  | .ready => .ready
  | .waitingWindow => .waitingWindow
  | .permitPending => .permitPending
  | .executing => .executing
  | .retryPending => .retryPending
  | .rollbackPending => .rollbackPending
  | .paused => .paused
  | .completed => .completed
  | .ended => .ended

def fromProtoVehicleTask : VehicleTaskStatus → VehicleTaskState
  | .unspecified => .none
  | .discovered => .discovered
  | .consentPending => .consentPending
  | .downloadPending => .downloadPending
  | .downloading => .downloading
  | .ready => .ready
  | .waitingWindow => .waitingWindow
  | .permitPending => .permitPending
  | .executing => .executing
  | .retryPending => .retryPending
  | .rollbackPending => .rollbackPending
  | .paused => .paused
  | .completed => .completed
  | .ended => .ended
  | .unrecognized _ => .none

theorem fromProto_toProto (s : VehicleTaskState) : fromProtoVehicleTask (toProto s) = s := by
  cases s <;> rfl

end CgwFota
