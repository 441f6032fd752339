import SecureServices.Tpm.Model
import SecureServices.Library.Run

namespace SecureServices
namespace Tpm

open Library Ffa

/-!
# What one step does

A step is a request, a host write to the register blocks, or one of the two
life cycle functions.  `Effect` lists what a request can do to the localities
and which backend call it makes, with all that the guards have established
by then.  The properties of runs are derived from it without unfolding a
handler again.
-/

/-- What happens to the machine from outside. -/
inductive Input where
  | request (message : MsgSendDirectReq2)
  | hostWrite (crbs : Locality -> PtpCrbRegisters)
  | init
  | deinit

variable {Sst : Type} (ops : TpmSstOps Sst)

/-- One step of the machine; no input can crash it. -/
def step (machine : Machine Sst) : Input -> Machine Sst
  | .request message => (ffaMsgSendDirectReq2 ops machine message).2
  | .hostWrite crbs => { machine with crbs }
  | .init => init ops machine
  | .deinit => deinit machine

/-- `TpmService::new` followed by `init`. -/
def boot (sst : Sst) (address : U64) (crbs : Locality -> PtpCrbRegisters) : Machine Sst :=
  init ops ⟨⟨.idle, none, 0, fun _ => .closed, address, false⟩, sst, crbs, []⟩

/-- The message is a start request with this qualifier for this locality. -/
def Starts (message : MsgSendDirectReq2) (qualifier : U16) (locality : Locality) : Prop :=
  TpmFunction.ofOpcode (TpmRequest.ofMessage message).opcode = some .start ∧
    (TpmRequest.ofMessage message).checkedLocality = some locality ∧
    (TpmRequest.ofMessage message).qualifier = qualifier

/-- The message opens or closes this locality, and comes from an endpoint that
may do so. -/
def Manages (message : MsgSendDirectReq2) (locality : Locality) (state : TpmLocalityState) : Prop :=
  TpmFunction.ofOpcode (TpmRequest.ofMessage message).opcode = some .manageLocality ∧
    mayManageLocality message.sourceId = true ∧
    (TpmRequest.ofMessage message).checkedLocality = some locality ∧
    (TpmRequest.ofMessage message).qualifier =
      match state with
      | .opened => tpm2FfaManageLocalityOpen
      | .closed => tpm2FfaManageLocalityClose

instance (message : MsgSendDirectReq2) (qualifier : U16) (locality : Locality) :
    Decidable (Starts message qualifier locality) := inferInstanceAs (Decidable (_ ∧ _))

instance (message : MsgSendDirectReq2) (locality : Locality) (state : TpmLocalityState) :
    Decidable (Manages message locality state) := inferInstanceAs (Decidable (_ ∧ _))

/-- The call that the machine records for an operation with this result. -/
def Machine.call (machine : Machine Sst) (operation : Operation) (locality : Locality)
    (result : ErrorCode) : Call :=
  ⟨operation, locality, result, machine.service.activeLocality, machine.service.localityStates⟩

/-- What a request can do. -/
inductive Effect (machine : Machine Sst) (message : MsgSendDirectReq2) (after : Machine Sst) : Prop where
  | quiet
      (active : after.service.activeLocality = machine.service.activeLocality)
      (states : after.service.localityStates = machine.service.localityStates)
      (current : after.service.currentState = machine.service.currentState)
      (calls : after.calls = machine.calls)
  | command (operation : Operation) (locality : Locality) (result : ErrorCode)
      (kind : operation = .goIdle ∨ operation = .cmdReady ∨ operation = .start)
      (isOpen : machine.service.localityStates locality = .opened)
      (owned : machine.service.activeLocality = some locality)
      (active : after.service.activeLocality = machine.service.activeLocality)
      (states : after.service.localityStates = machine.service.localityStates)
      (calls : after.calls = machine.calls ++ [machine.call operation locality result])
  | relinquish (locality : Locality) (result : ErrorCode)
      (asked : Starts message tpm2FfaStartFuncQualifierLocality locality)
      (control : hasBits (machine.crbs locality).localityControl ptpCrbLocalityControlRelinquish = true)
      (answered : result = (ops.localityRelinquish machine.sst locality).1)
      (isOpen : machine.service.localityStates locality = .opened)
      (owned : machine.service.activeLocality = some locality)
      (active : after.service.activeLocality =
        if result = .ok then none else machine.service.activeLocality)
      (states : after.service.localityStates = machine.service.localityStates)
      (current : after.service.currentState = machine.service.currentState)
      (calls : after.calls = machine.calls ++ [machine.call .localityRelinquish locality result])
  | request (locality : Locality) (result : ErrorCode)
      (isOpen : machine.service.localityStates locality = .opened)
      (unowned : machine.service.activeLocality = none ∨ machine.service.activeLocality = some locality)
      (active : after.service.activeLocality =
        if result = .ok then some locality else machine.service.activeLocality)
      (states : after.service.localityStates = machine.service.localityStates)
      (current : after.service.currentState = machine.service.currentState)
      (status : result = .ok -> (after.crbs locality).crbControlStatus =
        if machine.service.currentState = .idle then ptpCrbControlAreaStatusTpmIdle else 0)
      (calls : after.calls = machine.calls ++ [machine.call .localityRequest locality result])
  | manage (locality : Locality) (state : TpmLocalityState)
      (manages : Manages message locality state)
      (active : after.service.activeLocality = machine.service.activeLocality)
      (states : after.service.localityStates =
        Function.update machine.service.localityStates locality state)
      (current : after.service.currentState = machine.service.currentState)
      (calls : after.calls = machine.calls)

/-! ## Commands -/

/-- The localities are as before, and one call was recorded. -/
structure Commanded (machine : Machine Sst) (operation : Operation) (locality : Locality)
    (after : Machine Sst) : Prop where
  active : after.service.activeLocality = machine.service.activeLocality
  states : after.service.localityStates = machine.service.localityStates
  calls : exists result, after.calls = machine.calls ++ [machine.call operation locality result]

theorem callGoIdle_commanded (machine : Machine Sst) (locality : Locality) :
    Commanded machine .goIdle locality (callGoIdle ops machine locality).2 := ⟨rfl, rfl, _, rfl⟩

theorem callCmdReady_commanded (machine : Machine Sst) (locality : Locality) :
    Commanded machine .cmdReady locality (callCmdReady ops machine locality).2 := ⟨rfl, rfl, _, rfl⟩

theorem callStart_commanded (machine : Machine Sst) (locality : Locality) :
    Commanded machine .start locality (callStart ops machine locality).2 := ⟨rfl, rfl, _, rfl⟩

/-- A change of the command state or of a buffer does not touch the localities. -/
theorem Commanded.onOk {machine : Machine Sst} {operation : Operation} {locality : Locality}
    {answer : ErrorCode × Machine Sst} (commanded : Commanded machine operation locality answer.2)
    {change : Machine Sst -> Machine Sst}
    (keeps : forall other, (change other).service.activeLocality = other.service.activeLocality ∧
      (change other).service.localityStates = other.service.localityStates ∧
      (change other).calls = other.calls) :
    Commanded machine operation locality (onOk answer change).2 := by
  unfold Tpm.onOk
  split
  · rcases keeps answer.2 with ⟨active, states, calls⟩
    rcases commanded.calls with ⟨result, recorded⟩
    exact ⟨active.trans commanded.active, states.trans commanded.states, result,
      calls.trans recorded⟩
  · exact commanded

/-- A command is denied without a call, or makes exactly one. -/
theorem runCommand_cases (machine : Machine Sst) (locality : Locality) :
    (runCommand ops machine locality).2 = machine ∨
    exists operation, (operation = .goIdle ∨ operation = .cmdReady ∨ operation = .start) ∧
      Commanded machine operation locality (runCommand ops machine locality).2 := by
  have goIdle := callGoIdle_commanded ops machine locality
  have cmdReady := callCmdReady_commanded ops machine locality
  have start := callStart_commanded ops machine locality
  unfold runCommand
  cases machine.service.currentState with
  | idle =>
      dsimp only
      split_ifs
      · exact Or.inr ⟨_, Or.inr (Or.inl rfl), cmdReady.onOk (fun _ => ⟨rfl, rfl, rfl⟩)⟩
      · exact Or.inl rfl
  | ready =>
      dsimp only
      split_ifs
      · exact Or.inr ⟨_, Or.inl rfl, goIdle.onOk (fun _ => ⟨rfl, rfl, rfl⟩)⟩
      · exact Or.inr ⟨_, Or.inr (Or.inl rfl), cmdReady⟩
      · exact Or.inr ⟨_, Or.inr (Or.inr rfl), start.onOk (fun _ => ⟨rfl, rfl, rfl⟩)⟩
      · exact Or.inl rfl
  | complete =>
      dsimp only
      split_ifs
      · exact Or.inr ⟨_, Or.inl rfl, goIdle.onOk (fun _ => ⟨rfl, rfl, rfl⟩)⟩
      · exact Or.inr ⟨_, Or.inr (Or.inl rfl), cmdReady.onOk (fun _ => ⟨rfl, rfl, rfl⟩)⟩
      · exact Or.inl rfl
      · exact Or.inr ⟨_, Or.inr (Or.inr rfl), start⟩
      · exact Or.inl rfl
      · exact Or.inl rfl

theorem handleCommand_cases (machine : Machine Sst) (locality : Locality) :
    (handleCommand ops machine locality).2 = machine ∨
    exists operation, (operation = .goIdle ∨ operation = .cmdReady ∨ operation = .start) ∧
      Commanded machine operation locality (handleCommand ops machine locality).2 := by
  unfold handleCommand
  dsimp only
  split
  · exact Or.inl rfl
  · exact runCommand_cases ops machine locality

/-! ## Cleaning the registers -/

@[simp] theorem cleanInternalCrb_service (machine : Machine Sst) :
    (cleanInternalCrb machine).service = machine.service := by
  unfold cleanInternalCrb
  split <;> rfl

@[simp] theorem cleanInternalCrb_calls (machine : Machine Sst) :
    (cleanInternalCrb machine).calls = machine.calls := by
  unfold cleanInternalCrb
  split <;> rfl

/-- The status register of the active locality shows the command state. -/
theorem cleanInternalCrb_status {machine : Machine Sst} {locality : Locality}
    (active : machine.service.activeLocality = some locality) :
    ((cleanInternalCrb machine).crbs locality).crbControlStatus =
      if machine.service.currentState = .idle then ptpCrbControlAreaStatusTpmIdle else 0 := by
  simp only [cleanInternalCrb, active, Machine.setCrb, Function.update_self, setBufferRegisters]

/-! ## Requests -/

/-- A handler that leaves the machine alone has no effect, cleaned or not. -/
theorem Effect.of_clean (machine : Machine Sst) (message : MsgSendDirectReq2) :
    Effect ops machine message (cleanInternalCrb machine) :=
  .quiet (by rw [cleanInternalCrb_service]) (by rw [cleanInternalCrb_service])
    (by rw [cleanInternalCrb_service]) (cleanInternalCrb_calls machine)

theorem handleCommand_effect {machine : Machine Sst} (message : MsgSendDirectReq2) {locality : Locality}
    (isOpen : machine.service.localityStates locality = .opened)
    (owned : machine.service.activeLocality = some locality) :
    Effect ops machine message (cleanInternalCrb (handleCommand ops machine locality).2) := by
  rcases handleCommand_cases ops machine locality with same | ⟨operation, kind, commanded⟩
  · rw [same]
    exact Effect.of_clean ops machine message
  · rcases commanded.calls with ⟨result, calls⟩
    refine .command operation locality result kind isOpen owned ?_ ?_ ?_
    · rw [cleanInternalCrb_service]
      exact commanded.active
    · rw [cleanInternalCrb_service]
      exact commanded.states
    · rw [cleanInternalCrb_calls]
      exact calls

theorem handleLocalityRequest_effect {machine : Machine Sst} {message : MsgSendDirectReq2}
    {locality : Locality} (asked : Starts message tpm2FfaStartFuncQualifierLocality locality)
    (isOpen : machine.service.localityStates locality = .opened) :
    Effect ops machine message (cleanInternalCrb (handleLocalityRequest ops machine locality).2) := by
  unfold handleLocalityRequest
  dsimp only
  split
  next control =>
    split
    · exact Effect.of_clean ops machine message
    next owned =>
      refine .relinquish locality (ops.localityRelinquish machine.sst locality).1 asked control rfl
        isOpen (not_not.mp owned) ?_ ?_ ?_ ?_
      all_goals simp only [concludeLocality, cleanInternalCrb_service, cleanInternalCrb_calls]
      all_goals split <;> rfl
  next _notRelinquish =>
    split
    next control =>
      split
      · exact Effect.of_clean ops machine message
      next unowned =>
        have free : machine.service.activeLocality = none ∨
            machine.service.activeLocality = some locality := by
          by_contra neither
          exact unowned ⟨fun none => neither (Or.inl none), fun own => neither (Or.inr own)⟩
        refine .request locality (ops.localityRequest machine.sst locality).1 isOpen free ?_ ?_ ?_ ?_ ?_
        · simp only [concludeLocality, cleanInternalCrb_service]
          split <;> rfl
        · simp only [concludeLocality, cleanInternalCrb_service]
          split <;> rfl
        · simp only [concludeLocality, cleanInternalCrb_service]
          split <;> rfl
        · intro granted
          simp only [concludeLocality, if_pos granted]
          rw [cleanInternalCrb_status rfl]
          rfl
        · simp only [concludeLocality, cleanInternalCrb_calls]
          split <;> rfl
    · exact Effect.of_clean ops machine message

theorem startHandler_effect (machine : Machine Sst) (message : MsgSendDirectReq2)
    (selected : TpmFunction.ofOpcode (TpmRequest.ofMessage message).opcode = some .start) :
    Effect ops machine message (startHandler ops machine (TpmRequest.ofMessage message)).2 := by
  unfold startHandler startOperation
  cases checked : (TpmRequest.ofMessage message).checkedLocality with
  | none => exact Effect.of_clean ops machine message
  | some locality =>
      dsimp only
      split
      · exact Effect.of_clean ops machine message
      next notClosed =>
        have isOpen : machine.service.localityStates locality = .opened := by
          cases state : machine.service.localityStates locality with
          | opened => rfl
          | closed => exact absurd state notClosed
        split
        · split
          next owned => exact handleCommand_effect ops message isOpen owned
          · exact Effect.of_clean ops machine message
        · split
          next qualifier => exact handleLocalityRequest_effect ops ⟨selected, checked, qualifier⟩ isOpen
          · exact Effect.of_clean ops machine message

theorem manageLocalityHandler_effect (machine : Machine Sst) (message : MsgSendDirectReq2)
    (selected : TpmFunction.ofOpcode (TpmRequest.ofMessage message).opcode = some .manageLocality)
    (allowed : mayManageLocality message.sourceId = true) :
    Effect ops machine message (manageLocalityHandler machine (TpmRequest.ofMessage message)).2 := by
  unfold manageLocalityHandler
  cases checked : (TpmRequest.ofMessage message).checkedLocality with
  | none => exact .quiet rfl rfl rfl rfl
  | some locality =>
      dsimp only
      split
      next qualifier =>
        exact .manage locality .opened ⟨selected, allowed, checked, qualifier⟩ rfl rfl rfl rfl
      · split
        next qualifier =>
          exact .manage locality .closed ⟨selected, allowed, checked, qualifier⟩ rfl rfl rfl rfl
        · exact .quiet rfl rfl rfl rfl

/-- Every request has one of the listed effects. -/
theorem request_effect (machine : Machine Sst) (message : MsgSendDirectReq2) :
    Effect ops machine message (step ops machine (.request message)) := by
  unfold step ffaMsgSendDirectReq2 dispatch
  dsimp only
  cases selected : TpmFunction.ofOpcode (TpmRequest.ofMessage message).opcode with
  | none => exact .quiet rfl rfl rfl rfl
  | some function =>
      cases function with
      | getInterfaceVersion => exact .quiet rfl rfl rfl rfl
      | getFeatureInfo =>
          dsimp only
          split <;> exact .quiet rfl rfl rfl rfl
      | start => exact startHandler_effect ops machine message selected
      | registerForNotification =>
          dsimp only
          split <;> exact .quiet rfl rfl rfl rfl
      | unregisterForNotification =>
          dsimp only
          split <;> exact .quiet rfl rfl rfl rfl
      | finishNotified =>
          dsimp only
          split <;> exact .quiet rfl rfl rfl rfl
      | manageLocality =>
          dsimp only
          split
          next allowed => exact manageLocalityHandler_effect ops machine message selected allowed
          · exact .quiet rfl rfl rfl rfl

/-- A locality is managed without regard to which one is active. -/
theorem step_manages {machine : Machine Sst} {message : MsgSendDirectReq2} {locality : Locality}
    {state : TpmLocalityState} (manages : Manages message locality state) :
    step ops machine (.request message) = machine.setLocality locality state := by
  rcases manages with ⟨selected, allowed, checked, qualifier⟩
  simp only [step, ffaMsgSendDirectReq2, dispatch, selected, allowed, if_true, manageLocalityHandler,
    checked, qualifier]
  cases state <;> simp [tpm2FfaManageLocalityOpen, tpm2FfaManageLocalityClose]

/-! ## Life cycle -/

theorem foldl_initInternalCrb_calls (localities : List Locality) (machine : Machine Sst) :
    (localities.foldl initInternalCrb machine).calls = machine.calls := by
  induction localities generalizing machine with
  | nil => rfl
  | cons locality rest inductionHypothesis => exact inductionHypothesis (initInternalCrb machine locality)

/-- After `init` no locality is active, the command machine is idle, and only
the first two localities are open.  The backend is not asked for a locality. -/
theorem init_spec (machine : Machine Sst) :
    (init ops machine).service.activeLocality = none ∧
      (init ops machine).service.currentState = .idle ∧
      (forall locality, 2 ≤ locality.val ->
        (init ops machine).service.localityStates locality = .closed) ∧
      (init ops machine).calls = machine.calls := by
  refine ⟨rfl, rfl, fun locality high => ?_, ?_⟩
  · match locality, high with
    | 2, _ => rfl
    | 3, _ => rfl
    | 4, _ => rfl
  · exact foldl_initInternalCrb_calls _ _

theorem deinit_spec (machine : Machine Sst) :
    (deinit machine).service.activeLocality = none ∧ (deinit machine).service.currentState = .idle ∧
      (forall locality, (deinit machine).service.localityStates locality = .closed) ∧
      (deinit machine).calls = machine.calls := ⟨rfl, rfl, fun _ => rfl, rfl⟩

/-! ## Wire form -/

/-- A request as an endpoint sends it. -/
def compose (sourceId : U16) (function : TpmFunction) (qualifier locality : U64) : MsgSendDirectReq2 where
  message :=
    { sourceId
      destinationId := 0
      uuid := ⟨0x17b862a418064faf86b3089a58353861⟩
      payload := DirectMessagePayload.ofRegisters [function.toU64, qualifier, locality]
        (Nat.le_add_left 3 11) }

/-- A backend that agrees to everything. -/
def agreeable : TpmSstOps Unit where
  goIdle := fun _ _ => (.ok, ())
  cmdReady := fun _ _ => (.ok, ())
  start := fun _ _ crb => (.ok, crb, ())
  localityRequest := fun _ _ => (.ok, ())
  localityRelinquish := fun _ _ => (.ok, ())
  isIdleBypassSupported := fun _ => false
  init := id

/-- The host sets the locality control register of every block. -/
def writeControl (control : U32) : Input :=
  .hostWrite (fun _ => { PtpCrbRegisters.zero with localityControl := control })

/-- The host sets the control request register of every block. -/
def writeRequest (request : U32) : Input :=
  .hostWrite (fun _ => { PtpCrbRegisters.zero with crbControlRequest := request })

end Tpm
end SecureServices
