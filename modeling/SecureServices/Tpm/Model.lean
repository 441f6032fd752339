import SecureServices.Ffa.DirectMessage
import Mathlib.Logic.Function.Basic

namespace SecureServices
namespace Tpm

open Library Ffa

/-!
# The TPM service

`ec-service-lib/src/services/tpm.rs`, with the register block and the backend
interface of `tpm_sst.rs`, built without `test-bypass-locality-check`.

The service keeps which localities are open, which one is active, and the
state of the command machine.  Each locality has a block of registers in
memory that the host writes between requests.  The backend drives the real
TPM.  It is a parameter here: any functions on any state of its own, so that
its answers are arbitrary.  Every call to it that concerns a locality is
recorded together with what the service knew at that moment; the record is
read by no definition of the service.
-/

/-! ## Registers -/

abbrev numLocalities : Nat := 5
abbrev crbDataBufferSize : Nat := 0xF80

abbrev Locality := Fin numLocalities

/-- `struct PtpCrbRegisters`. -/
structure PtpCrbRegisters where
  localityState : U32
  reserved1 : Fin 4 -> U8
  localityControl : U32
  localityStatus : U32
  reserved2 : Fin 0x20 -> U8
  interfaceId : U32
  vid : U16
  did : U16
  crbControlExtension : U64
  crbControlRequest : U32
  crbControlStatus : U32
  crbControlCancel : U32
  crbControlStart : U32
  crbInterruptEnable : U32
  crbInterruptStatus : U32
  crbControlCommandSize : U32
  crbControlCommandAddressLow : U32
  crbControlCommandAddressHigh : U32
  crbControlResponseSize : U32
  crbControlResponseAddress : U64
  reserved4 : Fin 0x10 -> U8
  crbDataBuffer : Fin crbDataBufferSize -> U8

def ptpCrbControlAreaStatusTpmIdle : U32 := 1 <<< 1
def ptpCrbControlAreaRequestGoIdle : U32 := 1 <<< 1
def ptpCrbControlAreaRequestCommandReady : U32 := 1 <<< 0
def ptpCrbControlStart : U32 := 1 <<< 0
def ptpCrbLocalityStateTpmRegValidStatus : U32 := 1 <<< 7
def ptpCrbLocalityStateLocalityAssigned : U32 := 1 <<< 1
def ptpCrbLocalityControlRelinquish : U32 := 1 <<< 1
def ptpCrbLocalityControlRequestAccess : U32 := 1 <<< 0
def ptpCrbLocalityStatusGranted : U32 := 1 <<< 0

/-- `PTP_CRB_LOCALITY_STATE_ACTIVE_LOCALITY_0` to `_4`. -/
def ptpCrbLocalityStateActiveLocality (locality : Locality) : U32 :=
  match locality with
  | 0 => 0
  | 1 => 1 <<< 2
  | 2 => 1 <<< 3
  | 3 => (1 <<< 2) ||| (1 <<< 3)
  | 4 => 1 <<< 4

/-- All bytes zero. -/
def PtpCrbRegisters.zero : PtpCrbRegisters :=
  ⟨0, fun _ => 0, 0, 0, fun _ => 0, 0, 0, 0, 0, 0, 0, 0, 0, 0, 0, 0, 0, 0, 0, 0, fun _ => 0, fun _ => 0⟩

/-- The setters of `PtpCrbInterfaceIdentifier`: replace the bits of a mask at
an offset. -/
def setInterfaceBits (identifier mask : U32) (offset : Nat) (value : U32) : U32 :=
  (identifier &&& ~~~(mask <<< offset)) ||| ((value &&& mask) <<< offset)

/-- The interface identifier that `init` builds. -/
def defaultInterfaceId : U32 :=
  let typed := setInterfaceBits 0 0xF 0 1
  let versioned := setInterfaceBits typed 0xF 4 1
  let localities := setInterfaceBits versioned 1 8 1
  setInterfaceBits localities 1 14 1

/-- The bits that one of the register tests finds set. -/
def hasBits (register mask : U32) : Bool := register &&& mask != 0

/-! ## State -/

/-- `enum TpmState`. -/
inductive TpmState where
  | idle | ready | complete
deriving DecidableEq, Repr

/-- `enum TpmLocalityState`. -/
inductive TpmLocalityState where
  | closed | opened
deriving DecidableEq, Repr

/-- `struct TpmService` without its backend.  No active locality stands for
`NO_ACTIVE_LOCALITY`. -/
structure TpmService where
  currentState : TpmState
  activeLocality : Option Locality
  interfaceIdDefault : U32
  localityStates : Locality -> TpmLocalityState
  tpmInternalCrbAddress : U64
  notificationRegistered : Bool

/-- `trait TpmSstOps`.  `start` gets a pointer to the registers of the
locality and may rewrite them. -/
structure TpmSstOps (Sst : Type) where
  goIdle : Sst -> Locality -> ErrorCode × Sst
  cmdReady : Sst -> Locality -> ErrorCode × Sst
  start : Sst -> Locality -> PtpCrbRegisters -> ErrorCode × PtpCrbRegisters × Sst
  localityRequest : Sst -> Locality -> ErrorCode × Sst
  localityRelinquish : Sst -> Locality -> ErrorCode × Sst
  isIdleBypassSupported : Sst -> Bool
  init : Sst -> Sst

/-- The backend operations that concern a locality. -/
inductive Operation where
  | goIdle | cmdReady | start | localityRequest | localityRelinquish
deriving DecidableEq, Repr

/-- One call to the backend, with the result and what held at that moment. -/
structure Call where
  operation : Operation
  locality : Locality
  result : ErrorCode
  activeLocality : Option Locality
  localityStates : Locality -> TpmLocalityState

/-- The service, its backend, the register blocks, and the calls so far. -/
structure Machine (Sst : Type) where
  service : TpmService
  sst : Sst
  crbs : Locality -> PtpCrbRegisters
  calls : List Call

variable {Sst : Type}

namespace Machine

def setCrb (machine : Machine Sst) (locality : Locality) (crb : PtpCrbRegisters) : Machine Sst :=
  { machine with crbs := Function.update machine.crbs locality crb }

def setState (machine : Machine Sst) (state : TpmState) : Machine Sst :=
  { machine with service := { machine.service with currentState := state } }

def setActive (machine : Machine Sst) (active : Option Locality) : Machine Sst :=
  { machine with service := { machine.service with activeLocality := active } }

def setLocality (machine : Machine Sst) (locality : Locality) (state : TpmLocalityState) : Machine Sst :=
  { machine with
    service :=
      { machine.service with
        localityStates := Function.update machine.service.localityStates locality state } }

def setRegistered (machine : Machine Sst) (registered : Bool) : Machine Sst :=
  { machine with service := { machine.service with notificationRegistered := registered } }

/-- Zero the data buffer of a locality. -/
def clearBuffer (machine : Machine Sst) (locality : Locality) : Machine Sst :=
  machine.setCrb locality { machine.crbs locality with crbDataBuffer := fun _ => 0 }

/-- The backend returned from an operation, with its state after it. -/
def returned (machine : Machine Sst) (operation : Operation) (locality : Locality) (result : ErrorCode)
    (sst : Sst) : Machine Sst :=
  { machine with
    sst
    calls := machine.calls ++ [⟨operation, locality, result, machine.service.activeLocality,
      machine.service.localityStates⟩] }

end Machine

/-! ## The register blocks -/

/-- The address of the data buffer of a locality, from `crb_ptr`. -/
def bufferAddress (service : TpmService) (locality : Locality) : U64 :=
  service.tpmInternalCrbAddress + BitVec.ofNat 64 (locality.val * 0x1000) + 0x80

/-- The command and response buffer registers, which two functions set. -/
def setBufferRegisters (service : TpmService) (locality : Locality) (crb : PtpCrbRegisters) :
    PtpCrbRegisters :=
  let address := bufferAddress service locality
  { crb with
    crbControlCommandAddressHigh := (address >>> 32).setWidth 32
    crbControlCommandAddressLow := address.setWidth 32
    crbControlCommandSize := BitVec.ofNat 32 crbDataBufferSize
    crbControlResponseAddress := address
    crbControlResponseSize := BitVec.ofNat 32 crbDataBufferSize }

/-- `init_internal_crb`. -/
def initInternalCrb (machine : Machine Sst) (locality : Locality) : Machine Sst :=
  machine.setCrb locality (setBufferRegisters machine.service locality
    { PtpCrbRegisters.zero with
      interfaceId := machine.service.interfaceIdDefault
      crbControlStatus := ptpCrbControlAreaStatusTpmIdle })

/-- `clean_internal_crb`. -/
def cleanInternalCrb (machine : Machine Sst) : Machine Sst :=
  match machine.service.activeLocality with
  | none => machine
  | some locality =>
      let crb := machine.crbs locality
      machine.setCrb locality (setBufferRegisters machine.service locality
        { crb with
          localityState := crb.localityState ||| ptpCrbLocalityStateActiveLocality locality |||
            ptpCrbLocalityStateTpmRegValidStatus ||| ptpCrbLocalityStateLocalityAssigned
          localityStatus := crb.localityStatus ||| ptpCrbLocalityStatusGranted
          localityControl := 0
          interfaceId := machine.service.interfaceIdDefault
          crbControlExtension := 0
          crbControlRequest := 0
          crbControlCancel := 0
          crbControlStart := 0
          crbInterruptEnable := 0
          crbInterruptStatus := 0
          crbControlStatus :=
            if machine.service.currentState = .idle then ptpCrbControlAreaStatusTpmIdle else 0 })

/-! ## Commands and localities -/

/-- `enum TpmStatus`. -/
inductive TpmStatus where
  | ok | okResultsReturned | noFunc | notSup | invArg | invCrbCtrlData | already | denied | noMem
deriving DecidableEq, Repr

def TpmStatus.toU64 : TpmStatus -> U64
  | ok => 0x05000001
  | okResultsReturned => 0x05000002
  | noFunc => 0x8e000001
  | notSup => 0x8e000002
  | invArg => 0x8e000005
  | invCrbCtrlData => 0x8e000006
  | already => 0x8e000009
  | denied => 0x8e00000a
  | noMem => 0x8e00000b

/-- `convert_error_to_status`. -/
def convertErrorToStatus : ErrorCode -> TpmStatus
  | .ok => .ok
  | .denied => .denied
  | .noMemory => .noMem
  | _ => .denied

section Handlers

variable (ops : TpmSstOps Sst)

/-- `self.sst.go_idle`, and the record of it. -/
def callGoIdle (machine : Machine Sst) (locality : Locality) : ErrorCode × Machine Sst :=
  let (status, sst) := ops.goIdle machine.sst locality
  (status, machine.returned .goIdle locality status sst)

def callCmdReady (machine : Machine Sst) (locality : Locality) : ErrorCode × Machine Sst :=
  let (status, sst) := ops.cmdReady machine.sst locality
  (status, machine.returned .cmdReady locality status sst)

def callStart (machine : Machine Sst) (locality : Locality) : ErrorCode × Machine Sst :=
  let (status, crb, sst) := ops.start machine.sst locality (machine.crbs locality)
  (status, (machine.returned .start locality status sst).setCrb locality crb)

/-- Apply a change of state when the backend reported success. -/
def onOk (answer : ErrorCode × Machine Sst) (change : Machine Sst -> Machine Sst) :
    ErrorCode × Machine Sst :=
  if answer.1 = .ok then (answer.1, change answer.2) else answer

/-- The match on the state in `handle_command`. -/
def runCommand (machine : Machine Sst) (locality : Locality) : ErrorCode × Machine Sst :=
  let crb := machine.crbs locality
  match machine.service.currentState with
  | .idle =>
      if hasBits crb.crbControlRequest ptpCrbControlAreaRequestCommandReady then
        onOk (callCmdReady ops machine locality) (fun after => after.setState .ready)
      else (.denied, machine)
  | .ready =>
      if hasBits crb.crbControlRequest ptpCrbControlAreaRequestGoIdle then
        onOk (callGoIdle ops machine locality) (fun after => after.setState .idle)
      else if hasBits crb.crbControlRequest ptpCrbControlAreaRequestCommandReady then
        callCmdReady ops machine locality
      else if hasBits crb.crbControlStart ptpCrbControlStart then
        onOk (callStart ops machine locality) (fun after => after.setState .complete)
      else (.denied, machine)
  | .complete =>
      if hasBits crb.crbControlRequest ptpCrbControlAreaRequestGoIdle then
        onOk (callGoIdle ops machine locality) (fun after => (after.setState .idle).clearBuffer locality)
      else if hasBits crb.crbControlRequest ptpCrbControlAreaRequestCommandReady then
        if ops.isIdleBypassSupported machine.sst then
          onOk (callCmdReady ops machine locality)
            (fun after => (after.setState .ready).clearBuffer locality)
        else (.denied, machine)
      else if hasBits crb.crbControlStart ptpCrbControlStart then
        if ops.isIdleBypassSupported machine.sst then callStart ops machine locality
        else (.denied, machine)
      else (.denied, machine)

/-- `handle_command`, for the active locality. -/
def handleCommand (machine : Machine Sst) (locality : Locality) : TpmStatus × Machine Sst :=
  let crb := machine.crbs locality
  if crb.crbControlRequest = 0 ∧ crb.crbControlStart = 0 then (.invCrbCtrlData, machine)
  else
    let (status, after) := runCommand ops machine locality
    (convertErrorToStatus status, after)

/-- The end of `handle_locality_request`, once the backend has answered. -/
def concludeLocality (locality : Locality) (newActive : Option Locality)
    (answer : ErrorCode × Machine Sst) : TpmStatus × Machine Sst :=
  let (status, after) := answer
  (convertErrorToStatus status,
    if status = .ok then (initInternalCrb after locality).setActive newActive else after)

/-- `handle_locality_request`. -/
def handleLocalityRequest (machine : Machine Sst) (locality : Locality) : TpmStatus × Machine Sst :=
  let control := (machine.crbs locality).localityControl
  let active := machine.service.activeLocality
  if hasBits control ptpCrbLocalityControlRelinquish then
    if active ≠ some locality then (.denied, machine)
    else
      let (status, sst) := ops.localityRelinquish machine.sst locality
      concludeLocality locality none
        (status, machine.returned .localityRelinquish locality status sst)
  else if hasBits control ptpCrbLocalityControlRequestAccess then
    if active ≠ none ∧ active ≠ some locality then (.denied, machine)
    else
      let (status, sst) := ops.localityRequest machine.sst locality
      concludeLocality locality (some locality)
        (status, machine.returned .localityRequest locality status sst)
  else (.invCrbCtrlData, machine)

/-! ## Requests -/

/-- `struct TpmRequest`. -/
structure TpmRequest where
  opcode : U64
  function : U64
  locality : U64

def TpmRequest.ofMessage (message : MsgSendDirectReq2) : TpmRequest :=
  ⟨message.payload.registerAt 0, message.payload.registerAt 1, message.payload.registerAt 2⟩

/-- `request.locality as u8`, if it is below `NUM_LOCALITIES`. -/
def TpmRequest.checkedLocality (request : TpmRequest) : Option Locality :=
  let locality : U8 := request.locality.setWidth 8
  if inRange : locality.toNat < numLocalities then some ⟨locality.toNat, inRange⟩ else none

/-- `request.function as u16`. -/
def TpmRequest.qualifier (request : TpmRequest) : U16 := request.function.setWidth 16

/-- `enum TpmFunction`. -/
inductive TpmFunction where
  | getInterfaceVersion | getFeatureInfo | start | registerForNotification
  | unregisterForNotification | finishNotified | manageLocality
deriving DecidableEq, Repr

def TpmFunction.toU64 : TpmFunction -> U64
  | getInterfaceVersion => 0x0f000001
  | getFeatureInfo => 0x0f000101
  | start => 0x0f000201
  | registerForNotification => 0x0f000301
  | unregisterForNotification => 0x0f000401
  | finishNotified => 0x0f000501
  | manageLocality => 0x1f000001

/-- The function that the match on the opcode selects. -/
def TpmFunction.ofOpcode (opcode : U64) : Option TpmFunction :=
  [getInterfaceVersion, getFeatureInfo, start, registerForNotification, unregisterForNotification,
    finishNotified, manageLocality].find? (fun function => opcode == function.toU64)

def tpm2FfaStartFuncQualifierCommand : U16 := 0
def tpm2FfaStartFuncQualifierLocality : U16 := 1
def tpm2FfaManageLocalityOpen : U16 := 0
def tpm2FfaManageLocalityClose : U16 := 1

/-- `start_handler` before the registers are cleaned. -/
def startOperation (machine : Machine Sst) (request : TpmRequest) : TpmStatus × Machine Sst :=
  match request.checkedLocality with
  | none => (.invArg, machine)
  | some locality =>
      if machine.service.localityStates locality = .closed then (.denied, machine)
      else if request.qualifier = tpm2FfaStartFuncQualifierCommand then
        if machine.service.activeLocality = some locality then handleCommand ops machine locality
        else (.invArg, machine)
      else if request.qualifier = tpm2FfaStartFuncQualifierLocality then
        handleLocalityRequest ops machine locality
      else (.invArg, machine)

/-- `start_handler`. -/
def startHandler (machine : Machine Sst) (request : TpmRequest) : TpmStatus × Machine Sst :=
  let (status, after) := startOperation ops machine request
  (status, cleanInternalCrb after)

/-- `manage_locality_handler`. -/
def manageLocalityHandler (machine : Machine Sst) (request : TpmRequest) : TpmStatus × Machine Sst :=
  match request.checkedLocality with
  | none => (.invArg, machine)
  | some locality =>
      if request.qualifier = tpm2FfaManageLocalityOpen then (.ok, machine.setLocality locality .opened)
      else if request.qualifier = tpm2FfaManageLocalityClose then
        (.ok, machine.setLocality locality .closed)
      else (.invArg, machine)

/-- A logical secure partition owned by the firmware. -/
def mayManageLocality (sourceId : U16) : Bool := sourceId &&& 0xFF00 == 0xFF00

/-- The status, the payload register and the machine after a request. -/
def dispatch (machine : Machine Sst) (sourceId : U16) (request : TpmRequest) :
    TpmStatus × U64 × Machine Sst :=
  match TpmFunction.ofOpcode request.opcode with
  | some .getInterfaceVersion => (.okResultsReturned, (1 <<< 16) ||| 0, machine)
  | some .getFeatureInfo =>
      if request.function = TpmFunction.registerForNotification.toU64 then
        (.okResultsReturned, 1 <<< 0, machine)
      else (.notSup, 0, machine)
  | some .start =>
      let (status, after) := startHandler ops machine request
      (status, 0, after)
  | some .registerForNotification =>
      if machine.service.notificationRegistered then (.already, 0, machine)
      else (.ok, 0, machine.setRegistered true)
  | some .unregisterForNotification =>
      if ¬ machine.service.notificationRegistered then (.denied, 0, machine)
      else (.ok, 0, machine.setRegistered false)
  | some .finishNotified =>
      if ¬ machine.service.notificationRegistered then (.denied, 0, machine) else (.ok, 0, machine)
  | some .manageLocality =>
      if mayManageLocality sourceId then
        let (status, after) := manageLocalityHandler machine request
        (status, 0, after)
      else (.denied, 0, machine)
  | none => (.noFunc, 0, machine)

/-- `From<TpmResponse> for DirectMessagePayload`. -/
def intoPayload (status : TpmStatus) (payload : U64) : DirectMessagePayload :=
  DirectMessagePayload.ofRegisters [status.toU64, payload] (by simp)

/-- `Service::ffa_msg_send_direct_req2`, which always answers. -/
def ffaMsgSendDirectReq2 (machine : Machine Sst) (message : MsgSendDirectReq2) :
    MsgSendDirectResp2 × Machine Sst :=
  let (status, payload, after) := dispatch ops machine message.sourceId (TpmRequest.ofMessage message)
  (.fromReqWithPayload message (intoPayload status payload), after)

/-! ## Life cycle -/

/-- `reset_runtime_state`. -/
def resetRuntimeState (machine : Machine Sst) : Machine Sst :=
  ((machine.setState .idle).setActive none).setRegistered false

/-- `init`. -/
def init (machine : Machine Sst) : Machine Sst :=
  let identified : Machine Sst :=
    { machine with service := { machine.service with interfaceIdDefault := defaultInterfaceId } }
  let blocks := (List.finRange numLocalities).foldl initInternalCrb identified
  let states : Locality -> TpmLocalityState
    | 0 | 1 => .opened
    | 2 | 3 | 4 => .closed
  resetRuntimeState
    { blocks with service := { blocks.service with localityStates := states }, sst := ops.init blocks.sst }

/-- `deinit`. -/
def deinit (machine : Machine Sst) : Machine Sst :=
  let reset := resetRuntimeState machine
  { reset with service := { reset.service with localityStates := fun _ => .closed } }

end Handlers

end Tpm
end SecureServices
