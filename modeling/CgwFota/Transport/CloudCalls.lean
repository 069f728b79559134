import CgwFota.Orchestrator.World
import CgwFota.Transport.CloudProxy

/-!
# The messages of the orchestrator's calls

Each method of the proxy exchanges one message, under the type of its request. What the
orchestrator's model calls a call and its context is here turned into the bytes that go out.

## Main definitions

* `Protobuf`: how the requests are serialised, a parameter.
* `transportContext`: the context as the orchestrator fills it in.
* `cloudMessage`: the message of a call, where the call goes to the cloud at all.
* `messages`: the messages of a whole run, read off its trace.
-/
namespace CgwFota.Transport

open Inventory (Bytes)

namespace payload_type

/-- The payload types by which the cloud tells the requests apart. -/
def kTaskCheckRequest : String := "vehicle.fota.v1.TaskCheckRequest"
def kConsentReport : String := "vehicle.fota.v1.ConsentReport"
def kDownloadGrantRequest : String := "vehicle.fota.v1.DownloadGrantRequest"
def kStageResultReport : String := "vehicle.fota.v1.StageResultReport"
def kInstallPermitRequest : String := "vehicle.fota.v1.InstallPermitRequest"
def kExecutionEvent : String := "vehicle.fota.v1.ExecutionEvent"
def kControlAckReport : String := "vehicle.fota.v1.ControlAckReport"
def kFinalResultReport : String := "vehicle.fota.v1.FinalResultReport"
def kLogGrantRequest : String := "vehicle.fota.v1.LogGrantRequest"
def kLogUploadResult : String := "vehicle.fota.v1.LogUploadResult"
def kPolicyRequest : String := "vehicle.fota.v1.PolicyRequest"

end payload_type

/-- `SerializeToString` of the requests. -/
structure Protobuf where
  taskCheckRequest : TaskCheckRequest → Option Bytes
  consentReport : ConsentReport → Option Bytes
  downloadGrantRequest : DownloadGrantRequest → Option Bytes
  stageResultReport : StageResultReport → Option Bytes
  installPermitRequest : InstallPermitRequest → Option Bytes
  executionEvent : ExecutionEvent → Option Bytes
  controlAckReport : ControlAckReport → Option Bytes
  finalResultReport : FinalResultReport → Option Bytes
  logGrantRequest : LogGrantRequest → Option Bytes
  logUploadResult : LogUploadResult → Option Bytes
  policyRequest : PolicyRequest → Option Bytes
  deriving Inhabited

/-- The context as the orchestrator fills it in; it sets no deadline. -/
def transportContext (ctx : CgwFota.CallContext) : CallContext :=
  { traceId := ctx.traceId
    requestId := ctx.requestId
    idempotencyKey := ctx.idempotencyKey
    timeout := Int64.ofNat ctx.timeout
    deviceId := ctx.deviceId
    vin := ctx.vin
    vehicleTaskId := ctx.vehicleTaskId
    executionId := ctx.executionId }

/-- The message a call of the cloud hands to the transport. -/
def cloudMessage (pb : Protobuf) (clock : Clock) (c : Call) : Option VehicleMessage :=
  let encode {Request : Type} (serialize : Request → Option Bytes) (payloadType : String)
      (request : Request) (ctx : CgwFota.CallContext) : Option VehicleMessage :=
    some (encodeRequest serialize payloadType request (identityFrom (transportContext ctx))
      (transportContext ctx) clock.stamped clock.encoded)
  match c with
  | .checkTask req ctx => encode pb.taskCheckRequest payload_type.kTaskCheckRequest req ctx
  | .reportConsent req ctx => encode pb.consentReport payload_type.kConsentReport req ctx
  | .requestDownload req ctx =>
    encode pb.downloadGrantRequest payload_type.kDownloadGrantRequest req ctx
  | .reportStageResult req ctx =>
    encode pb.stageResultReport payload_type.kStageResultReport req ctx
  | .requestInstall req ctx =>
    encode pb.installPermitRequest payload_type.kInstallPermitRequest req ctx
  | .reportEvent req ctx => encode pb.executionEvent payload_type.kExecutionEvent req ctx
  | .acknowledgeControl req ctx => encode pb.controlAckReport payload_type.kControlAckReport req ctx
  | .reportFinalResult req ctx =>
    encode pb.finalResultReport payload_type.kFinalResultReport req ctx
  | .requestLogUpload req ctx => encode pb.logGrantRequest payload_type.kLogGrantRequest req ctx
  | .reportLogUpload req ctx => encode pb.logUploadResult payload_type.kLogUploadResult req ctx
  | .syncPolicy req ctx => encode pb.policyRequest payload_type.kPolicyRequest req ctx
  -- calls of the vehicle's own ports do not go over the transport
  | _ => none

/-- The messages handed to the transport in a run, each under the readings of its own clock. -/
def messages (pb : Protobuf) (clocks : Nat → Clock) (trace : List Entry) : List VehicleMessage :=
  trace.filterMap fun a =>
    match a.event with
    | .called c => cloudMessage pb (clocks a.tick) c
    | _ => none

end CgwFota.Transport
