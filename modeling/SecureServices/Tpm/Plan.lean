import SecureServices.Tpm.Effects

namespace SecureServices
namespace Tpm

open Library Ffa

/-!
# Deciding and acting

The handlers decide what to do and do it in one pass.  Here the two are taken
apart.  `plan` is the decision: it sees the service, the register blocks and
whether the backend can skip idle, and names at most one call to the backend.
`perform` carries a plan out.  A request is its plan, performed.

The decision is where the many branches are, and it reads nothing of the data
buffers.  What a plan does is said once, so a property of all requests is
proved with one case for each kind of plan.
-/

variable {Sst : Type} (ops : TpmSstOps Sst)

/-- What a request is going to do. -/
inductive Plan where
  | answer (status : TpmStatus)
  | refuse (status : TpmStatus)
  | call (operation : Operation) (locality : Locality)
  | manage (locality : Locality) (state : TpmLocalityState)
  | register (registered : Bool)
deriving DecidableEq, Repr

/-! ## The command machine -/

/-- The operation that the control registers ask for, if the command machine
can make it now.  Going idle has priority over getting ready, and that over a
start. -/
def requestedOperation (state : TpmState) (crb : PtpCrbRegisters) (bypass : Bool) : Option Operation :=
  let idle := hasBits crb.crbControlRequest ptpCrbControlAreaRequestGoIdle
  let ready := hasBits crb.crbControlRequest ptpCrbControlAreaRequestCommandReady
  let start := hasBits crb.crbControlStart ptpCrbControlStart
  match state with
  | .idle => if ready then some .cmdReady else none
  | .ready =>
      if idle then some .goIdle else if ready then some .cmdReady else if start then some .start else none
  | .complete =>
      if idle then some .goIdle
      else if ready then if bypass then some .cmdReady else none
      else if start then if bypass then some .start else none
      else none

/-- The operations that the command machine makes in each state. -/
def TpmState.Allows (state : TpmState) (bypass : Bool) (operation : Operation) : Prop :=
  match state, operation with
  | .idle, .cmdReady => True
  | .ready, .goIdle | .ready, .cmdReady | .ready, .start => True
  | .complete, .goIdle => True
  | .complete, .cmdReady | .complete, .start => bypass = true
  | _, _ => False

theorem requestedOperation_allowed {state : TpmState} {crb : PtpCrbRegisters} {bypass : Bool}
    {operation : Operation} (requested : requestedOperation state crb bypass = some operation) :
    state.Allows bypass operation := by
  unfold requestedOperation at requested
  cases state with
  | idle =>
      dsimp only at requested
      split_ifs at requested
      cases requested
      trivial
  | ready =>
      dsimp only at requested
      split_ifs at requested <;> cases requested <;> trivial
  | complete =>
      dsimp only at requested
      split_ifs at requested with _ _ skips _ skips
      · cases requested
        trivial
      · cases requested
        exact skips
      · cases requested
        exact skips

/-- The call of a backend operation, and the record of it. -/
def invoke (machine : Machine Sst) (operation : Operation) (locality : Locality) :
    ErrorCode × Machine Sst :=
  match operation with
  | .goIdle => callGoIdle ops machine locality
  | .cmdReady => callCmdReady ops machine locality
  | .start => callStart ops machine locality
  | .localityRequest =>
      let (status, sst) := ops.localityRequest machine.sst locality
      (status, machine.returned .localityRequest locality status sst)
  | .localityRelinquish =>
      let (status, sst) := ops.localityRelinquish machine.sst locality
      (status, machine.returned .localityRelinquish locality status sst)

/-- A finished response is wiped when the command machine moves on. -/
def Machine.wipe (machine : Machine Sst) (locality : Locality) : Machine Sst :=
  if machine.service.currentState = .complete then machine.clearBuffer locality else machine

/-- What the service does when an operation has succeeded. -/
def Machine.succeeded (machine : Machine Sst) (operation : Operation) (locality : Locality) :
    Machine Sst :=
  match operation with
  | .goIdle => (machine.wipe locality).setState .idle
  | .cmdReady => (machine.wipe locality).setState .ready
  | .start => machine.setState .complete
  | .localityRequest => (initInternalCrb machine locality).setActive (some locality)
  | .localityRelinquish => (initInternalCrb machine locality).setActive none

/-- An operation, and what the service does after it. -/
def attempt (machine : Machine Sst) (operation : Operation) (locality : Locality) :
    ErrorCode × Machine Sst :=
  onOk (invoke ops machine operation locality) (fun after => after.succeeded operation locality)

theorem onOk_congr {answer : ErrorCode × Machine Sst} {change other : Machine Sst -> Machine Sst}
    (same : change answer.2 = other answer.2) : onOk answer change = onOk answer other := by
  rw [onOk, onOk, same]

theorem onOk_id {answer : ErrorCode × Machine Sst} {change : Machine Sst -> Machine Sst}
    (same : change answer.2 = answer.2) : onOk answer change = answer := by
  rw [onOk, same]
  exact ite_self answer

theorem Machine.wipe_of_complete {machine : Machine Sst}
    (complete : machine.service.currentState = .complete) (locality : Locality) :
    machine.wipe locality = machine.clearBuffer locality := if_pos complete

theorem Machine.wipe_of_ne {machine : Machine Sst} (moving : machine.service.currentState ≠ .complete)
    (locality : Locality) : machine.wipe locality = machine := if_neg moving

theorem Machine.setState_of_eq {machine : Machine Sst} {state : TpmState}
    (same : machine.service.currentState = state) : machine.setState state = machine := by
  rw [← same]
  rfl

/-- The backend does not touch the service. -/
@[simp] theorem invoke_service (machine : Machine Sst) (operation : Operation) (locality : Locality) :
    (invoke ops machine operation locality).2.service = machine.service := by
  cases operation <;> rfl

/-- A command is the operation that the registers ask for, or is denied. -/
theorem runCommand_eq (machine : Machine Sst) (locality : Locality) :
    runCommand ops machine locality =
      match requestedOperation machine.service.currentState (machine.crbs locality)
        (ops.isIdleBypassSupported machine.sst) with
      | none => (.denied, machine)
      | some operation => attempt ops machine operation locality := by
  have during : forall operation, (invoke ops machine operation locality).2.service.currentState =
      machine.service.currentState := by
    intro operation
    rw [invoke_service]
  unfold runCommand requestedOperation
  cases state : machine.service.currentState with
  | idle =>
      have unfinished : machine.service.currentState ≠ .complete := by rw [state]; decide
      dsimp only
      split_ifs
      · apply onOk_congr
        have unwiped := Machine.wipe_of_ne ((during .cmdReady).trans_ne unfinished) locality
        exact congrArg (Machine.setState · .ready) unwiped.symm
      · rfl
  | ready =>
      have unfinished : machine.service.currentState ≠ .complete := by rw [state]; decide
      dsimp only
      split_ifs
      · apply onOk_congr
        have unwiped := Machine.wipe_of_ne ((during .goIdle).trans_ne unfinished) locality
        exact congrArg (Machine.setState · .idle) unwiped.symm
      · apply Eq.symm
        apply onOk_id
        rw [Machine.succeeded, Machine.wipe_of_ne ((during .cmdReady).trans_ne unfinished),
          Machine.setState_of_eq ((during .cmdReady).trans state)]
      · rfl
      · rfl
  | complete =>
      dsimp only
      split_ifs
      · apply onOk_congr
        have wiped := Machine.wipe_of_complete ((during .goIdle).trans state) locality
        exact congrArg (Machine.setState · .idle) wiped.symm
      · apply onOk_congr
        have wiped := Machine.wipe_of_complete ((during .cmdReady).trans state) locality
        exact congrArg (Machine.setState · .ready) wiped.symm
      · rfl
      · apply Eq.symm
        apply onOk_id
        exact Machine.setState_of_eq ((during .start).trans state)
      · rfl
      · rfl

/-! ## Attempts -/

theorem attempt_fst (machine : Machine Sst) (operation : Operation) (locality : Locality) :
    (attempt ops machine operation locality).1 = (invoke ops machine operation locality).1 := by
  unfold attempt onOk
  split <;> rfl

/-- An attempt that succeeded is the call, followed by what the service does. -/
theorem attempt_of_ok {machine : Machine Sst} {operation : Operation} {locality : Locality}
    (success : (attempt ops machine operation locality).1 = .ok) :
    (attempt ops machine operation locality).2 =
      (invoke ops machine operation locality).2.succeeded operation locality := by
  rw [attempt_fst] at success
  rw [attempt, onOk, if_pos success]

/-- An attempt that failed is the call alone. -/
theorem attempt_of_ne {machine : Machine Sst} {operation : Operation} {locality : Locality}
    (failure : (attempt ops machine operation locality).1 ≠ .ok) :
    (attempt ops machine operation locality).2 = (invoke ops machine operation locality).2 := by
  rw [attempt_fst] at failure
  rw [attempt, onOk, if_neg failure]

@[simp] theorem Machine.wipe_service (machine : Machine Sst) (locality : Locality) :
    (machine.wipe locality).service = machine.service := by
  unfold Machine.wipe
  split <;> rfl

@[simp] theorem Machine.wipe_calls (machine : Machine Sst) (locality : Locality) :
    (machine.wipe locality).calls = machine.calls := by
  unfold Machine.wipe
  split <;> rfl

@[simp] theorem Machine.succeeded_calls (machine : Machine Sst) (operation : Operation)
    (locality : Locality) : (machine.succeeded operation locality).calls = machine.calls := by
  cases operation with
  | goIdle => exact Machine.wipe_calls machine locality
  | cmdReady => exact Machine.wipe_calls machine locality
  | start => rfl
  | localityRequest => rfl
  | localityRelinquish => rfl

/-- The state of the command machine after a success. -/
def Operation.target (operation : Operation) (state : TpmState) : TpmState :=
  match operation with
  | .goIdle => .idle
  | .cmdReady => .ready
  | .start => .complete
  | .localityRequest | .localityRelinquish => state

/-- The active locality after a success. -/
def Operation.owner (operation : Operation) (locality : Locality) (active : Option Locality) :
    Option Locality :=
  match operation with
  | .goIdle | .cmdReady | .start => active
  | .localityRequest => some locality
  | .localityRelinquish => none

/-- A success changes the command state and the active locality, and nothing
else of the service. -/
theorem Machine.succeeded_service (machine : Machine Sst) (operation : Operation) (locality : Locality) :
    (machine.succeeded operation locality).service =
      { machine.service with
        currentState := operation.target machine.service.currentState
        activeLocality := operation.owner locality machine.service.activeLocality } := by
  cases operation with
  | goIdle =>
      rw [Machine.succeeded, Machine.setState, Machine.wipe_service]
      rfl
  | cmdReady =>
      rw [Machine.succeeded, Machine.setState, Machine.wipe_service]
      rfl
  | start => rfl
  | localityRequest => rfl
  | localityRelinquish => rfl

/-- An attempt records its call. -/
theorem attempt_calls (machine : Machine Sst) (operation : Operation) (locality : Locality) :
    (attempt ops machine operation locality).2.calls =
      machine.calls ++ [machine.call operation locality (attempt ops machine operation locality).1] := by
  have recorded : (invoke ops machine operation locality).2.calls =
      machine.calls ++ [machine.call operation locality (invoke ops machine operation locality).1] := by
    cases operation <;> rfl
  rw [attempt_fst, ← recorded]
  unfold attempt onOk
  split
  · rw [Machine.succeeded_calls]
  · rfl

/-- What an attempt does to the service. -/
theorem attempt_service (machine : Machine Sst) (operation : Operation) (locality : Locality) :
    (attempt ops machine operation locality).2.service =
      if (attempt ops machine operation locality).1 = .ok then
        { machine.service with
          currentState := operation.target machine.service.currentState
          activeLocality := operation.owner locality machine.service.activeLocality }
      else machine.service := by
  split
  next success => rw [attempt_of_ok ops success, Machine.succeeded_service, invoke_service]
  next failure => rw [attempt_of_ne ops failure, invoke_service]

/-! ## Requests -/

/-- The decision of `handle_command`. -/
def commandPlan (service : TpmService) (crbs : Locality -> PtpCrbRegisters) (bypass : Bool)
    (locality : Locality) : Plan :=
  if (crbs locality).crbControlRequest = 0 ∧ (crbs locality).crbControlStart = 0 then
    .refuse .invCrbCtrlData
  else
    match requestedOperation service.currentState (crbs locality) bypass with
    | none => .refuse .denied
    | some operation => .call operation locality

/-- The decision of `handle_locality_request`. -/
def localityPlan (service : TpmService) (crbs : Locality -> PtpCrbRegisters) (locality : Locality) :
    Plan :=
  if hasBits (crbs locality).localityControl ptpCrbLocalityControlRelinquish then
    if service.activeLocality ≠ some locality then .refuse .denied
    else .call .localityRelinquish locality
  else if hasBits (crbs locality).localityControl ptpCrbLocalityControlRequestAccess then
    if service.activeLocality ≠ none ∧ service.activeLocality ≠ some locality then .refuse .denied
    else .call .localityRequest locality
  else .refuse .invCrbCtrlData

/-- The decision of `start_handler`. -/
def startPlan (service : TpmService) (crbs : Locality -> PtpCrbRegisters) (bypass : Bool)
    (request : TpmRequest) : Plan :=
  match request.checkedLocality with
  | none => .refuse .invArg
  | some locality =>
      if service.localityStates locality = .closed then .refuse .denied
      else if request.qualifier = tpm2FfaStartFuncQualifierCommand then
        if service.activeLocality = some locality then commandPlan service crbs bypass locality
        else .refuse .invArg
      else if request.qualifier = tpm2FfaStartFuncQualifierLocality then
        localityPlan service crbs locality
      else .refuse .invArg

/-- The decision of `manage_locality_handler`. -/
def managePlan (request : TpmRequest) : Plan :=
  match request.checkedLocality with
  | none => .answer .invArg
  | some locality =>
      if request.qualifier = tpm2FfaManageLocalityOpen then .manage locality .opened
      else if request.qualifier = tpm2FfaManageLocalityClose then .manage locality .closed
      else .answer .invArg

/-- The decision for a request. -/
def plan (service : TpmService) (crbs : Locality -> PtpCrbRegisters) (bypass : Bool) (sourceId : U16)
    (request : TpmRequest) : Plan :=
  match TpmFunction.ofOpcode request.opcode with
  | some .getInterfaceVersion => .answer .okResultsReturned
  | some .getFeatureInfo =>
      if request.function = TpmFunction.registerForNotification.toU64 then .answer .okResultsReturned
      else .answer .notSup
  | some .start => startPlan service crbs bypass request
  | some .registerForNotification =>
      if service.notificationRegistered then .answer .already else .register true
  | some .unregisterForNotification =>
      if ¬ service.notificationRegistered then .answer .denied else .register false
  | some .finishNotified => if ¬ service.notificationRegistered then .answer .denied else .answer .ok
  | some .manageLocality => if mayManageLocality sourceId then managePlan request else .answer .denied
  | none => .answer .noFunc

/-- Carry a plan out.  The registers are cleaned after a start request, refused
or not. -/
def perform (machine : Machine Sst) : Plan -> TpmStatus × Machine Sst
  | .answer status => (status, machine)
  | .refuse status => (status, cleanInternalCrb machine)
  | .call operation locality =>
      (convertErrorToStatus (attempt ops machine operation locality).1,
        cleanInternalCrb (attempt ops machine operation locality).2)
  | .manage locality state => (.ok, machine.setLocality locality state)
  | .register registered => (.ok, machine.setRegistered registered)

/-- The plan for a message, made by a machine. -/
def Machine.planFor (machine : Machine Sst) (message : MsgSendDirectReq2) : Plan :=
  plan machine.service machine.crbs (ops.isIdleBypassSupported machine.sst) message.sourceId
    (TpmRequest.ofMessage message)

theorem handleCommand_eq (machine : Machine Sst) (locality : Locality) :
    ((handleCommand ops machine locality).1, cleanInternalCrb (handleCommand ops machine locality).2) =
      perform ops machine
        (commandPlan machine.service machine.crbs (ops.isIdleBypassSupported machine.sst) locality) := by
  unfold handleCommand commandPlan
  dsimp only
  split
  · rfl
  · rw [runCommand_eq]
    cases requestedOperation machine.service.currentState (machine.crbs locality)
      (ops.isIdleBypassSupported machine.sst) <;> rfl

theorem concludeLocality_eq (change : Machine Sst -> Machine Sst) {newActive : Option Locality}
    {answer : ErrorCode × Machine Sst} {locality : Locality}
    (same : change answer.2 = (initInternalCrb answer.2 locality).setActive newActive) :
    concludeLocality locality newActive answer =
      (convertErrorToStatus (onOk answer change).1, (onOk answer change).2) := by
  unfold concludeLocality onOk
  dsimp only
  split
  · rw [same]
  · rfl

theorem handleLocalityRequest_eq (machine : Machine Sst) (locality : Locality) :
    ((handleLocalityRequest ops machine locality).1,
        cleanInternalCrb (handleLocalityRequest ops machine locality).2) =
      perform ops machine (localityPlan machine.service machine.crbs locality) := by
  unfold handleLocalityRequest localityPlan
  dsimp only
  split_ifs
  · rfl
  · rw [concludeLocality_eq (fun after => after.succeeded .localityRelinquish locality) rfl]
    rfl
  · rfl
  · rw [concludeLocality_eq (fun after => after.succeeded .localityRequest locality) rfl]
    rfl
  · rfl

theorem startHandler_eq (machine : Machine Sst) (request : TpmRequest) :
    startHandler ops machine request = perform ops machine
      (startPlan machine.service machine.crbs (ops.isIdleBypassSupported machine.sst) request) := by
  unfold startHandler startOperation startPlan
  cases request.checkedLocality with
  | none => rfl
  | some locality =>
      dsimp only
      split_ifs
      · rfl
      · exact handleCommand_eq ops machine locality
      · rfl
      · exact handleLocalityRequest_eq ops machine locality
      · rfl

theorem manageLocalityHandler_eq (machine : Machine Sst) (request : TpmRequest) :
    manageLocalityHandler machine request = perform ops machine (managePlan request) := by
  unfold manageLocalityHandler managePlan
  cases request.checkedLocality with
  | none => rfl
  | some locality =>
      dsimp only
      split_ifs <;> rfl

/-- A request is its plan, performed. -/
theorem dispatch_eq (machine : Machine Sst) (message : MsgSendDirectReq2) :
    ((dispatch ops machine message.sourceId (TpmRequest.ofMessage message)).1,
        (dispatch ops machine message.sourceId (TpmRequest.ofMessage message)).2.2) =
      perform ops machine (machine.planFor ops message) := by
  unfold dispatch Machine.planFor plan
  cases TpmFunction.ofOpcode (TpmRequest.ofMessage message).opcode with
  | none => rfl
  | some function =>
      cases function with
      | getInterfaceVersion => rfl
      | getFeatureInfo =>
          dsimp only
          split_ifs <;> rfl
      | start => exact startHandler_eq ops machine (TpmRequest.ofMessage message)
      | registerForNotification =>
          dsimp only
          split_ifs <;> rfl
      | unregisterForNotification =>
          dsimp only
          split_ifs <;> rfl
      | finishNotified =>
          dsimp only
          split_ifs <;> rfl
      | manageLocality =>
          dsimp only
          split_ifs
          · exact manageLocalityHandler_eq ops machine (TpmRequest.ofMessage message)
          · rfl

theorem step_request (machine : Machine Sst) (message : MsgSendDirectReq2) :
    step ops machine (.request message) = (perform ops machine (machine.planFor ops message)).2 := by
  rw [← dispatch_eq]
  rfl

/-! ## What a plan has established -/

/-- The response reports success. -/
def TpmStatus.Succeeds (status : TpmStatus) : Prop := status = .ok ∨ status = .okResultsReturned

/-- What holds of the service when a call is planned, and of the status with
which a start request is refused. -/
def Plan.Sound (service : TpmService) (bypass : Bool) : Plan -> Prop
  | .refuse status => ¬ status.Succeeds
  | .call .localityRequest locality =>
      service.activeLocality = none ∨ service.activeLocality = some locality
  | .call .localityRelinquish locality => service.activeLocality = some locality
  | .call operation locality =>
      service.activeLocality = some locality ∧ service.currentState.Allows bypass operation
  | .answer _ | .manage _ _ | .register _ => True

theorem commandPlan_sound {service : TpmService} {locality : Locality}
    (owned : service.activeLocality = some locality) (crbs : Locality -> PtpCrbRegisters)
    (bypass : Bool) : (commandPlan service crbs bypass locality).Sound service bypass := by
  unfold commandPlan
  split
  · simp [Plan.Sound, TpmStatus.Succeeds]
  · cases requested : requestedOperation service.currentState (crbs locality) bypass with
    | none => simp [Plan.Sound, TpmStatus.Succeeds]
    | some operation =>
        have allowed := requestedOperation_allowed requested
        cases operation with
        | goIdle => exact ⟨owned, allowed⟩
        | cmdReady => exact ⟨owned, allowed⟩
        | start => exact ⟨owned, allowed⟩
        | localityRequest => exact Or.inr owned
        | localityRelinquish => exact owned

theorem localityPlan_sound (service : TpmService) (crbs : Locality -> PtpCrbRegisters)
    (bypass : Bool) (locality : Locality) :
    (localityPlan service crbs locality).Sound service bypass := by
  unfold localityPlan
  split_ifs with _ owned _ unowned
  · simp [Plan.Sound, TpmStatus.Succeeds]
  · exact not_not.mp owned
  · simp [Plan.Sound, TpmStatus.Succeeds]
  · by_contra neither
    exact unowned ⟨fun free => neither (Or.inl free), fun own => neither (Or.inr own)⟩
  · simp [Plan.Sound, TpmStatus.Succeeds]

theorem startPlan_sound (service : TpmService) (crbs : Locality -> PtpCrbRegisters) (bypass : Bool)
    (request : TpmRequest) : (startPlan service crbs bypass request).Sound service bypass := by
  unfold startPlan
  cases request.checkedLocality with
  | none => simp [Plan.Sound, TpmStatus.Succeeds]
  | some locality =>
      dsimp only
      split_ifs with _ _ owned
      · simp [Plan.Sound, TpmStatus.Succeeds]
      · exact commandPlan_sound owned crbs bypass
      · simp [Plan.Sound, TpmStatus.Succeeds]
      · exact localityPlan_sound service crbs bypass locality
      · simp [Plan.Sound, TpmStatus.Succeeds]

/-- Every plan is sound. -/
theorem plan_sound (service : TpmService) (crbs : Locality -> PtpCrbRegisters) (bypass : Bool)
    (sourceId : U16) (request : TpmRequest) :
    (plan service crbs bypass sourceId request).Sound service bypass := by
  unfold plan
  cases TpmFunction.ofOpcode request.opcode with
  | none => trivial
  | some function =>
      cases function with
      | start => exact startPlan_sound service crbs bypass request
      | manageLocality =>
          dsimp only
          split
          · unfold managePlan
            cases request.checkedLocality with
            | none => trivial
            | some locality =>
                dsimp only
                split_ifs <;> trivial
          · trivial
      | getInterfaceVersion => trivial
      | getFeatureInfo | registerForNotification | unregisterForNotification | finishNotified =>
          dsimp only
          split_ifs <;> trivial

theorem planFor_sound (machine : Machine Sst) (message : MsgSendDirectReq2) :
    (machine.planFor ops message).Sound machine.service (ops.isIdleBypassSupported machine.sst) :=
  plan_sound machine.service machine.crbs _ message.sourceId (TpmRequest.ofMessage message)

/-! ## Runs after `init` -/

/-- Replace the masked bits of a register. -/
def overwrite {width : Nat} (old mask value : BitVec width) : BitVec width :=
  (old &&& ~~~mask) ||| (value &&& mask)

/-- Replace the masked bits of a register block. -/
def PtpCrbRegisters.overwrite (old mask value : PtpCrbRegisters) : PtpCrbRegisters where
  localityState := Tpm.overwrite old.localityState mask.localityState value.localityState
  reserved1 := fun index => Tpm.overwrite (old.reserved1 index) (mask.reserved1 index) (value.reserved1 index)
  localityControl := Tpm.overwrite old.localityControl mask.localityControl value.localityControl
  localityStatus := Tpm.overwrite old.localityStatus mask.localityStatus value.localityStatus
  reserved2 := fun index => Tpm.overwrite (old.reserved2 index) (mask.reserved2 index) (value.reserved2 index)
  interfaceId := Tpm.overwrite old.interfaceId mask.interfaceId value.interfaceId
  vid := Tpm.overwrite old.vid mask.vid value.vid
  did := Tpm.overwrite old.did mask.did value.did
  crbControlExtension :=
    Tpm.overwrite old.crbControlExtension mask.crbControlExtension value.crbControlExtension
  crbControlRequest := Tpm.overwrite old.crbControlRequest mask.crbControlRequest value.crbControlRequest
  crbControlStatus := Tpm.overwrite old.crbControlStatus mask.crbControlStatus value.crbControlStatus
  crbControlCancel := Tpm.overwrite old.crbControlCancel mask.crbControlCancel value.crbControlCancel
  crbControlStart := Tpm.overwrite old.crbControlStart mask.crbControlStart value.crbControlStart
  crbInterruptEnable := Tpm.overwrite old.crbInterruptEnable mask.crbInterruptEnable value.crbInterruptEnable
  crbInterruptStatus := Tpm.overwrite old.crbInterruptStatus mask.crbInterruptStatus value.crbInterruptStatus
  crbControlCommandSize :=
    Tpm.overwrite old.crbControlCommandSize mask.crbControlCommandSize value.crbControlCommandSize
  crbControlCommandAddressLow := Tpm.overwrite old.crbControlCommandAddressLow
    mask.crbControlCommandAddressLow value.crbControlCommandAddressLow
  crbControlCommandAddressHigh := Tpm.overwrite old.crbControlCommandAddressHigh
    mask.crbControlCommandAddressHigh value.crbControlCommandAddressHigh
  crbControlResponseSize :=
    Tpm.overwrite old.crbControlResponseSize mask.crbControlResponseSize value.crbControlResponseSize
  crbControlResponseAddress := Tpm.overwrite old.crbControlResponseAddress
    mask.crbControlResponseAddress value.crbControlResponseAddress
  reserved4 := fun index => Tpm.overwrite (old.reserved4 index) (mask.reserved4 index) (value.reserved4 index)
  crbDataBuffer := fun index =>
    Tpm.overwrite (old.crbDataBuffer index) (mask.crbDataBuffer index) (value.crbDataBuffer index)

/-- What the host writes: the masked bits of each register block. -/
structure HostWrite where
  mask : Locality -> PtpCrbRegisters
  value : Locality -> PtpCrbRegisters

def HostWrite.apply (write : HostWrite) (crbs : Locality -> PtpCrbRegisters) :
    Locality -> PtpCrbRegisters :=
  fun locality => (crbs locality).overwrite (write.mask locality) (write.value locality)

/-- What can happen between `init` and `deinit`. -/
inductive Event where
  | request (message : MsgSendDirectReq2)
  | write (bits : HostWrite)

/-- The input of the machine that an event is, given what memory holds. -/
def Event.input (crbs : Locality -> PtpCrbRegisters) : Event -> Input
  | .request message => .request message
  | .write bits => .hostWrite (bits.apply crbs)

/-- One event, as a step of the machine. -/
def advance (machine : Machine Sst) (event : Event) : Machine Sst :=
  step ops machine (event.input machine.crbs)

theorem advance_request (machine : Machine Sst) (message : MsgSendDirectReq2) :
    advance ops machine (.request message) = (perform ops machine (machine.planFor ops message)).2 :=
  step_request ops machine message

/-- The machine after a run that begins with `init`. -/
def afterRun (sst : Sst) (address : U64) (crbs : Locality -> PtpCrbRegisters) (events : List Event) :
    Machine Sst :=
  events.foldl (advance ops) (boot ops sst address crbs)

theorem afterRun_snoc (sst : Sst) (address : U64) (crbs : Locality -> PtpCrbRegisters)
    (events : List Event) (event : Event) :
    afterRun ops sst address crbs (events ++ [event]) =
      advance ops (afterRun ops sst address crbs events) event := by
  rw [afterRun, List.foldl_append]
  rfl

end Tpm
end SecureServices
