import CgwFota.Orchestrator.World

/-!
# The ports of the production build

But for the inventory, the vehicle has no ports of its own yet. In their place stand conservative
ones, which answer every question in the way that leads to nothing.

## Main definitions

* `ConservativeConsentProvider.requestConsent` and its siblings: the answers of the ports
* `Conservative`: a reply is the one of the conservative port
* `OnProductionPorts`: every reply of a run is
-/
namespace CgwFota

def ConservativeConsentProvider.requestConsent (_vehicleTaskId : String) (_terms : ConsentTermsId) :
    ConsentChoice :=
  { userChoice := .unspecified }

def ConservativePackageDownloader.downloadAndVerify (_pkg : PackageSummary)
    (_grant : DownloadGrantResponse) (_fromOffsetBytes : Nat) : DownloadOutcome :=
  { allStagesSucceeded := false
    errorDetail := "object store downloader not provisioned (conservative)" }

def ConservativeVehicleConditionProvider.evaluateConditions (now : Int) : ConditionEvaluation :=
  { conditionSetVersion := "cond-v1"
    localReadinessDigest := repeat64 '0'
    allGuardsPassed := false
    failedConditions := ["guards_not_evaluated"]
    snapshot := { collectedAtMs := now } }

def ConservativeVehicleConditionProvider.allGuardsPassed : Bool := false

def ConservativeInstallExecutor.prepare (_task : VehicleTaskSnapshot) : PrepareResult :=
  { ready := false, reason := "install executor not provisioned (conservative)" }

def ConservativeInstallExecutor.start (_permit : InstallPermitResponse) : StartResult :=
  { started := false, reason := "install executor not provisioned (conservative)" }

def ConservativeInstallExecutor.apply (_cmd : ControlCommand) : ControlApplyOutcome :=
  { status := .rejected, reason := "control executor not provisioned (conservative)" }

def ConservativeInstallExecutor.readFinalResult : FinalResultData := {}

def ConservativeLogCollector.collect (_scope : LogCollectScope) : LogPackage :=
  { generated := false, errorCode := "FOTA-LOG-COLLECT" }

/-- The reply is the one of the conservative port. The cloud and the inventory are not bound. -/
def Conservative : (c : Call) → c.Reply → Prop
  | .requestConsent vehicleTaskId terms, choice =>
    choice = ConservativeConsentProvider.requestConsent vehicleTaskId terms
  | .downloadAndVerify pkg grant offset, outcome =>
    outcome = ConservativePackageDownloader.downloadAndVerify pkg grant offset
  | .allGuardsPassed, passed => passed = ConservativeVehicleConditionProvider.allGuardsPassed
  | .evaluateConditions, ev =>
    ev = ConservativeVehicleConditionProvider.evaluateConditions ev.snapshot.collectedAtMs
  | .prepare task, prep => prep = ConservativeInstallExecutor.prepare task
  | .start permit, st => st = ConservativeInstallExecutor.start permit
  | .apply cmd, app => app = ConservativeInstallExecutor.apply cmd
  | .readFinalResult, data => data = ConservativeInstallExecutor.readFinalResult
  | .collectLog scope, pkg => pkg = ConservativeLogCollector.collect scope
  | _, _ => True

instance (c : Call) (r : c.Reply) : Decidable (Conservative c r) := by
  match c, r with
  | .collectInventory _, _ | .checkTask .., _ | .requestConsent .., _ | .reportConsent .., _
  | .requestDownload .., _ | .downloadAndVerify .., _ | .reportStageResult .., _
  | .allGuardsPassed, _ | .evaluateConditions, _ | .requestInstall .., _ | .prepare _, _
  | .start _, _ | .apply _, _ | .readFinalResult, _ | .reportEvent .., _
  | .acknowledgeControl .., _ | .reportFinalResult .., _ | .requestLogUpload .., _
  | .collectLog _, _ | .reportLogUpload .., _ | .syncPolicy .., _ =>
    dsimp only [Conservative]; infer_instance

def OnProductionPorts (a : Entry) (_past : List Entry) : Prop :=
  match a.event with
  | .returned c r => Conservative c r
  | _ => True

instance (a : Entry) (past : List Entry) : Decidable (OnProductionPorts a past) := by
  obtain ⟨_ | _ | _ | _, _, _, _⟩ := a
  all_goals unfold OnProductionPorts; infer_instance

end CgwFota
