import CgwFota.Config.FotaConfig

/-!
# The address of the generic transport

The ids of the method, the event and the event group are allocated by the registry and come from the
configuration. Where they are not allocated, or not fit for use, no address comes of them. The
checks that `from` makes of the same ids are partly repeated here, and two are made only here: that
the method is not one of contract A and that the interface is of the version that is spoken.

## Main definitions

* `TboxGenericTransportAddress`: what the transport is opened with.
* `resolveTboxGenericTransport`: the address, no address, or the check that fails.
* `Refusal`, `contractBAddress`: what `from` and the resolver come to together.
-/
namespace CgwFota.Config

def DEFAULT_TBOX_SERVICE_ID : UInt16 := 0x6101
def DEFAULT_TBOX_INSTANCE_ID : UInt16 := 0x0001
def TBOX_METHOD_REPORT_SOFTWARE_INVENTORY : UInt16 := 0x0001

def GenericTransportSpec.anyDeclared (spec : GenericTransportSpec) : Bool :=
  spec.methodId ≠ 0 ∨ spec.eventId ≠ 0 ∨ spec.eventgroupId ≠ 0

structure InterfaceVersion where
  major : UInt8
  minor : UInt32
  deriving DecidableEq, Repr

structure TboxGenericTransportAddress where
  service : UInt16 := DEFAULT_TBOX_SERVICE_ID
  instanceId : UInt16 := DEFAULT_TBOX_INSTANCE_ID
  method : UInt16 := 0
  event : UInt16 := 0
  eventgroup : UInt16 := 0
  interfaceVersion : InterfaceVersion := ⟨1, 0⟩
  deriving DecidableEq, Repr

def TboxGenericTransportAddress.fullyAllocated (a : TboxGenericTransportAddress) : Bool :=
  a.method ≠ 0 ∧ a.event ≠ 0 ∧ a.eventgroup ≠ 0

/-- Contract A has one method, and its id is not to be used again. -/
def conflictsWithLocalAllocations (spec : GenericTransportSpec) : Bool :=
  spec.methodId = TBOX_METHOD_REPORT_SOFTWARE_INVENTORY

/-- `.ok none` stands for the result `false`: nothing is declared. The last check can never fire,
as the ones before it leave no id at zero. -/
def resolveTboxGenericTransport (spec : GenericTransportSpec) :
    Result (Option TboxGenericTransportAddress) :=
  let refuse (message : String) : Result (Option TboxGenericTransportAddress) :=
    .error (.fotaConfig message)
  if ¬spec.anyDeclared then .ok none
  else if spec.methodId = 0 ∨ spec.eventId = 0 ∨ spec.eventgroupId = 0 then
    refuse ("fota.someip.generic_transport: partial Registry allocation " ++
      "(method_id/event_id/eventgroup_id must all be non-zero)")
  else if spec.methodId = 0x0000 ∨ spec.methodId = 0xFFFF ∨ spec.methodId > 0x7FFF then
    refuse "fota.someip.generic_transport.method_id out of range"
  else if spec.eventId < 0x8000 ∨ spec.eventId = 0xFFFF then
    refuse "fota.someip.generic_transport.event_id out of SOME/IP event range"
  else if spec.eventgroupId = 0x0000 ∨ spec.eventgroupId = 0xFFFF then
    refuse "fota.someip.generic_transport.eventgroup_id reserved value"
  else if conflictsWithLocalAllocations spec then
    refuse ("fota.someip.generic_transport.method_id conflicts with local " ++
      "Registry allocation (TBOX_METHOD_REPORT_SOFTWARE_INVENTORY, contract A)")
  else if spec.interfaceMajor ≠ 1 then
    refuse "fota.someip.generic_transport.interface_major mismatch: expected 1"
  else
    let out : TboxGenericTransportAddress :=
      { method := spec.methodId
        event := spec.eventId
        eventgroup := spec.eventgroupId
        interfaceVersion := ⟨spec.interfaceMajor.toUInt8, 0⟩ }
    if ¬out.fullyAllocated then refuse "fota.someip.generic_transport: unresolved address"
    else return some out

/-- Why no address comes of a configuration that may ask for one: `from` refuses it, the resolver
refuses its ids, or there are no ids. -/
inductive Refusal where
  | config (error : ConfigError)
  | registry (error : ConfigError)
  | unallocated
  deriving DecidableEq, Repr

/-- What `from` and `resolveTboxGenericTransport` decide together about the address of contract B;
`.ok none` stands for a configuration that does not ask for one. `main` has further exits before it
comes to the resolver and after it (the log configuration, the logger, the stores, the runtime, the
daemon); they are no part of this. -/
def contractBAddress (s : ConfigSnapshot) : Except Refusal (Option TboxGenericTransportAddress) :=
  match FotaConfig.fromSnapshot s with
  | .error e => .error (.config e)
  | .ok c =>
    if c.cloud.enabled then
      match resolveTboxGenericTransport c.genericTransport with
      | .error e => .error (.registry e)
      | .ok none => .error .unallocated
      | .ok (some address) => .ok (some address)
    else .ok none

end CgwFota.Config
