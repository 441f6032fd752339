import SecureServices.Tpm.Confinement

namespace SecureServices
namespace Tpm

open Library Ffa

/-!
# What cleaning leaves of the old registers

After every start request the registers of the active locality are put into a
known state, whatever the host has written to them.  All but two of them are
overwritten.  The locality state and the locality status get the bits that
belong to an active locality, and keep the bits that they had, so that they are
in the known state only if the host has set no other bit there, or if the block
has just been zeroed because the locality was granted.
-/

variable {Sst : Type}

/-! ## The known state -/

/-- The registers of a block have the values that belong to an active locality.
They are determined by the locality, the state of the command machine, the
interface identifier and the address of the blocks. -/
structure Known (locality : Locality) (currentState : TpmState) (interfaceIdDefault : U32)
    (tpmInternalCrbAddress : U64) (crb : PtpCrbRegisters) : Prop where
  localityState : crb.localityState = assignedState locality
  localityStatus : crb.localityStatus = ptpCrbLocalityStatusGranted
  localityControl : crb.localityControl = 0
  interfaceId : crb.interfaceId = interfaceIdDefault
  crbControlExtension : crb.crbControlExtension = 0
  crbControlRequest : crb.crbControlRequest = 0
  crbControlStatus : crb.crbControlStatus = shownStatus currentState
  crbControlCancel : crb.crbControlCancel = 0
  crbControlStart : crb.crbControlStart = 0
  crbInterruptEnable : crb.crbInterruptEnable = 0
  crbInterruptStatus : crb.crbInterruptStatus = 0
  crbControlCommandSize : crb.crbControlCommandSize = 0xF80
  crbControlCommandAddress : crb.crbControlCommandAddressHigh ++ crb.crbControlCommandAddressLow =
    tpmInternalCrbAddress + BitVec.ofNat 64 (locality.val * 0x1000) + 0x80
  crbControlResponseSize : crb.crbControlResponseSize = 0xF80
  crbControlResponseAddress : crb.crbControlResponseAddress =
    tpmInternalCrbAddress + BitVec.ofNat 64 (locality.val * 0x1000) + 0x80

/-- The block of a locality is in the known state. -/
def Machine.KnownAt (machine : Machine Sst) (locality : Locality) : Prop :=
  Known locality machine.service.currentState machine.service.interfaceIdDefault
    machine.service.tpmInternalCrbAddress (machine.crbs locality)

/-- No bit is set in the two registers that an active locality does not set. -/
structure Unstained (locality : Locality) (crb : PtpCrbRegisters) : Prop where
  state : crb.localityState &&& ~~~assignedState locality = 0
  status : crb.localityStatus &&& ~~~ptpCrbLocalityStatusGranted = 0

theorem Unstained.of_same {locality : Locality} {left right : PtpCrbRegisters}
    (same : left.SameRegisters right) : Unstained locality left <-> Unstained locality right := by
  have state := same.read PtpCrbRegisters.localityState (fun _ _ => rfl)
  have status := same.read PtpCrbRegisters.localityStatus (fun _ _ => rfl)
  constructor
  · rintro ⟨first, second⟩
    exact ⟨state ▸ first, status ▸ second⟩
  · rintro ⟨first, second⟩
    exact ⟨state ▸ first, status ▸ second⟩

/-- Adding bits gives exactly these bits if there were no others. -/
theorem or_eq_right_iff (bits added : U32) : bits ||| added = added <-> bits &&& ~~~added = 0 := by
  change _ <-> bits &&& ~~~added = 0#32
  constructor
  · intro same
    calc bits &&& ~~~added = bits &&& ~~~(bits ||| added) := by rw [same]
      _ = 0#32 &&& ~~~added := by rw [BitVec.not_or, ← BitVec.and_assoc, BitVec.and_not_self]; rfl
      _ = 0#32 := BitVec.zero_and
  · intro none
    apply BitVec.eq_of_getLsbD_eq
    intro index inside
    have bit := congrArg (BitVec.getLsbD · index) none
    simp only [BitVec.getLsbD_and, BitVec.getLsbD_not, inside, decide_true, Bool.true_and,
      BitVec.getLsbD_zero] at bit
    rw [BitVec.getLsbD_or]
    cases set : added.getLsbD index with
    | true => rw [Bool.or_true]
    | false =>
        rw [set, Bool.not_false, Bool.and_true] at bit
        rw [bit, Bool.or_false]

/-- The two halves of an address, one after the other. -/
theorem halves_append (address : U64) :
    (address >>> 32).setWidth 32 ++ address.setWidth 32 = address := by
  apply BitVec.eq_of_getLsbD_eq
  intro index inside
  rw [BitVec.getLsbD_append, BitVec.getLsbD_setWidth, BitVec.getLsbD_setWidth, BitVec.getLsbD_ushiftRight]
  by_cases low : index < 32
  · rw [if_pos low, decide_eq_true low, Bool.true_and]
  · have upper : index - 32 < 32 := by omega
    rw [if_neg low, decide_eq_true upper, Bool.true_and, Nat.add_sub_cancel' (Nat.le_of_not_lt low)]

/-! ## Cleaning -/

/-- Cleaning leaves the block of the active locality in the known state exactly
if it was unstained. -/
theorem cleanInternalCrb_known_iff {machine : Machine Sst} {locality : Locality}
    (active : machine.service.activeLocality = some locality) :
    (cleanInternalCrb machine).KnownAt locality <-> Unstained locality (machine.crbs locality) := by
  unfold Machine.KnownAt
  rw [cleanInternalCrb_service]
  have added : forall bits : U32, bits ||| ptpCrbLocalityStateActiveLocality locality |||
      ptpCrbLocalityStateTpmRegValidStatus ||| ptpCrbLocalityStateLocalityAssigned =
        bits ||| assignedState locality := by
    intro bits
    rw [assignedState, BitVec.or_assoc, BitVec.or_assoc, BitVec.or_assoc]
  simp only [cleanInternalCrb, active, Machine.setCrb, Function.update_self, setBufferRegisters, added]
  constructor
  · intro known
    exact ⟨(or_eq_right_iff _ _).mp known.localityState, (or_eq_right_iff _ _).mp known.localityStatus⟩
  · rintro ⟨state, status⟩
    exact
      { localityState := (or_eq_right_iff _ _).mpr state
        localityStatus := (or_eq_right_iff _ _).mpr status
        localityControl := rfl
        interfaceId := rfl
        crbControlExtension := rfl
        crbControlRequest := rfl
        crbControlStatus := rfl
        crbControlCancel := rfl
        crbControlStart := rfl
        crbInterruptEnable := rfl
        crbInterruptStatus := rfl
        crbControlCommandSize := rfl
        crbControlCommandAddress := halves_append _
        crbControlResponseSize := rfl
        crbControlResponseAddress := rfl }

/-- A block that was zeroed is unstained. -/
theorem initInternalCrb_unstained (machine : Machine Sst) (locality : Locality) :
    Unstained locality ((initInternalCrb machine locality).crbs locality) := by
  have shows := initInternalCrb_shows machine locality
  constructor
  · rw [shows.unassigned]
    exact BitVec.zero_and
  · rw [shows.ungranted]
    exact BitVec.zero_and

/-! ## Which start requests call the backend -/

variable (ops : TpmSstOps Sst)

/-- The request asks for the locality, and the backend grants it. -/
structure Grants (machine : Machine Sst) (message : MsgSendDirectReq2) (locality : Locality) : Prop where
  asked : Starts message tpm2FfaStartFuncQualifierLocality locality
  isOpen : machine.service.localityStates locality = .opened
  keeps : hasBits (machine.crbs locality).localityControl ptpCrbLocalityControlRelinquish = false
  requests : hasBits (machine.crbs locality).localityControl ptpCrbLocalityControlRequestAccess = true
  unowned : machine.service.activeLocality = none ∨ machine.service.activeLocality = some locality
  granted : (ops.localityRequest machine.sst locality).1 = .ok

/-- The request executes the command in the block of the active locality. -/
def Executes (machine : Machine Sst) (message : MsgSendDirectReq2) (locality : Locality) : Prop :=
  Starts message tpm2FfaStartFuncQualifierCommand locality ∧
    machine.service.localityStates locality = .opened ∧
    machine.service.activeLocality = some locality ∧
    requestedOperation machine.service.currentState (machine.crbs locality)
      (ops.isIdleBypassSupported machine.sst) = some .start

instance (machine : Machine Sst) (message : MsgSendDirectReq2) (locality : Locality) :
    Decidable (Executes ops machine message locality) := inferInstanceAs (Decidable (_ ∧ _ ∧ _ ∧ _))

/-- The block of a locality before it is cleaned: what the host has left there,
or what the backend has made of it when it executes the command. -/
def Machine.handedBack (machine : Machine Sst) (message : MsgSendDirectReq2) (locality : Locality) :
    PtpCrbRegisters :=
  if Executes ops machine message locality then
    (ops.start machine.sst locality (machine.crbs locality)).2.1
  else machine.crbs locality

theorem requestedOperation_eq_none {state : TpmState} {crb : PtpCrbRegisters} {bypass : Bool}
    (request : crb.crbControlRequest = 0) (start : crb.crbControlStart = 0) :
    requestedOperation state crb bypass = none := by
  have unset : forall mask, hasBits 0 mask = false := by
    intro mask
    rw [hasBits, show (0 : U32) &&& mask = 0 from BitVec.zero_and]
    rfl
  unfold requestedOperation
  simp only [request, start, unset]
  cases state <;> rfl

theorem Plan.call_eq_call {operation planned : Operation} {locality other : Locality} :
    Plan.call planned locality = .call operation other <-> other = locality ∧ operation = planned := by
  constructor
  · intro same
    cases same
    exact ⟨rfl, rfl⟩
  · rintro ⟨rfl, rfl⟩
    rfl

/-- What a command calls is what the registers ask for. -/
theorem commandPlan_eq_call {service : TpmService} {crbs : Locality -> PtpCrbRegisters} {bypass : Bool}
    {locality other : Locality} {operation : Operation} :
    commandPlan service crbs bypass locality = .call operation other <->
      other = locality ∧
        requestedOperation service.currentState (crbs locality) bypass = some operation := by
  unfold commandPlan
  split
  next zero => simp [requestedOperation_eq_none zero.1 zero.2]
  next =>
    cases requestedOperation service.currentState (crbs locality) bypass with
    | none => simp
    | some requested =>
        dsimp only
        exact Plan.call_eq_call.trans (and_congr_right' (eq_comm.trans Option.some_inj.symm))

/-- A locality request calls for the locality as its control register says. -/
theorem localityPlan_eq_call {service : TpmService} {crbs : Locality -> PtpCrbRegisters}
    {locality other : Locality} {operation : Operation} :
    localityPlan service crbs locality = .call operation other <->
      other = locality ∧
      ((operation = .localityRelinquish ∧
          hasBits (crbs locality).localityControl ptpCrbLocalityControlRelinquish = true ∧
          service.activeLocality = some locality) ∨
        (operation = .localityRequest ∧
          hasBits (crbs locality).localityControl ptpCrbLocalityControlRelinquish = false ∧
          hasBits (crbs locality).localityControl ptpCrbLocalityControlRequestAccess = true ∧
          (service.activeLocality = none ∨ service.activeLocality = some locality))) := by
  unfold localityPlan
  split_ifs with relinquish foreign access owned
  · simp [relinquish, foreign]
  · rw [Plan.call_eq_call]
    simp [relinquish, not_not.mp foreign]
  · simp [relinquish, owned.1, owned.2]
  · have unowned : service.activeLocality = none ∨ service.activeLocality = some locality := by
      by_contra neither
      exact owned (not_or.mp neither)
    rw [Plan.call_eq_call]
    simp [relinquish, access, unowned]
  · simp [relinquish, access]

/-- A start request calls the backend for an open locality only. -/
theorem startPlan_eq_call {service : TpmService} {crbs : Locality -> PtpCrbRegisters} {bypass : Bool}
    {request : TpmRequest} {locality : Locality} {operation : Operation} :
    startPlan service crbs bypass request = .call operation locality <->
      request.checkedLocality = some locality ∧ service.localityStates locality = .opened ∧
        ((request.qualifier = tpm2FfaStartFuncQualifierCommand ∧
            service.activeLocality = some locality ∧
            commandPlan service crbs bypass locality = .call operation locality) ∨
          (request.qualifier = tpm2FfaStartFuncQualifierLocality ∧
            localityPlan service crbs locality = .call operation locality)) := by
  unfold startPlan
  cases request.checkedLocality with
  | none => simp
  | some checked =>
      simp only [Option.some.injEq]
      split_ifs with isClosed command owned request
      · refine iff_of_false (by simp) ?_
        rintro ⟨rfl, isOpen, _⟩
        rw [isClosed] at isOpen
        cases isOpen
      all_goals
        have isOpen : service.localityStates checked = .opened := by
          cases state : service.localityStates checked with
          | opened => rfl
          | closed => exact absurd state isClosed
      · constructor
        · intro planned
          cases (commandPlan_eq_call.mp planned).1
          exact ⟨rfl, isOpen, .inl ⟨command, owned, planned⟩⟩
        · rintro ⟨rfl, _, ⟨_, _, planned⟩ | ⟨qualifier, _⟩⟩
          · exact planned
          · rw [command] at qualifier
            exact absurd qualifier (by decide)
      · refine iff_of_false (by simp) ?_
        rintro ⟨rfl, _, ⟨_, active, _⟩ | ⟨qualifier, _⟩⟩
        · exact owned active
        · rw [command] at qualifier
          exact absurd qualifier (by decide)
      · constructor
        · intro planned
          cases (localityPlan_eq_call.mp planned).1
          exact ⟨rfl, isOpen, .inr ⟨request, planned⟩⟩
        · rintro ⟨rfl, _, ⟨qualifier, _⟩ | ⟨_, planned⟩⟩
          · exact absurd qualifier command
          · exact planned
      · refine iff_of_false (by simp) ?_
        rintro ⟨_, _, ⟨qualifier, _⟩ | ⟨qualifier, _⟩⟩
        · exact command qualifier
        · exact request qualifier

/-- A start request is refused, or calls the backend. -/
theorem startPlan_cases (service : TpmService) (crbs : Locality -> PtpCrbRegisters) (bypass : Bool)
    (request : TpmRequest) :
    (exists status, startPlan service crbs bypass request = .refuse status) ∨
      exists operation locality, startPlan service crbs bypass request = .call operation locality := by
  unfold startPlan commandPlan localityPlan
  cases request.checkedLocality with
  | none => exact .inl ⟨_, rfl⟩
  | some locality =>
      dsimp only
      cases requestedOperation service.currentState (crbs locality) bypass with
      | none => split_ifs <;> simp
      | some operation => split_ifs <;> simp

section

variable {machine : Machine Sst} {message : MsgSendDirectReq2} {locality : Locality}

theorem planFor_start
    (start : TpmFunction.ofOpcode (TpmRequest.ofMessage message).opcode = some .start) :
    machine.planFor ops message = startPlan machine.service machine.crbs
      (ops.isIdleBypassSupported machine.sst) (TpmRequest.ofMessage message) := by
  rw [Machine.planFor, plan, start]

theorem executes_iff
    (start : TpmFunction.ofOpcode (TpmRequest.ofMessage message).opcode = some .start) :
    Executes ops machine message locality <-> machine.planFor ops message = .call .start locality := by
  rw [planFor_start ops start, startPlan_eq_call]
  constructor
  · rintro ⟨⟨_, checked, qualifier⟩, isOpen, active, requested⟩
    exact ⟨checked, isOpen, .inl ⟨qualifier, active, commandPlan_eq_call.mpr ⟨rfl, requested⟩⟩⟩
  · rintro ⟨checked, isOpen, ⟨qualifier, active, planned⟩ | ⟨_, planned⟩⟩
    · exact ⟨⟨start, checked, qualifier⟩, isOpen, active, (commandPlan_eq_call.mp planned).2⟩
    · rcases (localityPlan_eq_call.mp planned).2 with ⟨impossible, _⟩ | ⟨impossible, _⟩
      · cases impossible
      · cases impossible

theorem grants_iff
    (start : TpmFunction.ofOpcode (TpmRequest.ofMessage message).opcode = some .start) :
    Grants ops machine message locality <->
      machine.planFor ops message = .call .localityRequest locality ∧
        (ops.localityRequest machine.sst locality).1 = .ok := by
  rw [planFor_start ops start, startPlan_eq_call]
  constructor
  · rintro ⟨⟨_, checked, qualifier⟩, isOpen, keeps, requests, unowned, granted⟩
    have planned := localityPlan_eq_call.mpr ⟨rfl, .inr ⟨rfl, keeps, requests, unowned⟩⟩
    exact ⟨⟨checked, isOpen, .inr ⟨qualifier, planned⟩⟩, granted⟩
  · rintro ⟨⟨checked, isOpen, ⟨_, _, planned⟩ | ⟨qualifier, planned⟩⟩, granted⟩
    · have allowed := requestedOperation_allowed (commandPlan_eq_call.mp planned).2
      cases state : machine.service.currentState <;> rw [state] at allowed <;> exact absurd allowed id
    · rcases (localityPlan_eq_call.mp planned).2 with ⟨impossible, _⟩ | ⟨_, keeps, requests, unowned⟩
      · cases impossible
      · exact ⟨⟨start, checked, qualifier⟩, isOpen, keeps, requests, unowned, granted⟩

/-- A backend call leaves in every block what it hands back. -/
theorem invoke_handedBack
    (start : TpmFunction.ofOpcode (TpmRequest.ofMessage message).opcode = some .start)
    {operation : Operation} {other : Locality}
    (planned : machine.planFor ops message = .call operation other) :
    (invoke ops machine operation other).2.crbs locality = machine.handedBack ops message locality := by
  have executes : Executes ops machine message locality <-> locality = other ∧ .start = operation := by
    rw [executes_iff ops start, planned, Plan.call_eq_call]
  unfold Machine.handedBack
  cases operation with
  | start =>
      by_cases same : locality = other
      · subst same
        rw [if_pos (executes.mpr ⟨rfl, rfl⟩)]
        exact Function.update_self ..
      · rw [if_neg (fun executed => same (executes.mp executed).1)]
        exact Function.update_of_ne same ..
  | goIdle | cmdReady | localityRequest | localityRelinquish =>
      rw [if_neg (fun executed => absurd (executes.mp executed).2 (by decide))]
      rfl

/-- Unless a locality is granted, what the service does after the call changes
no register of the active locality. -/
theorem attempt_handedBack
    (start : TpmFunction.ofOpcode (TpmRequest.ofMessage message).opcode = some .start)
    {operation : Operation} {other : Locality}
    (planned : machine.planFor ops message = .call operation other)
    (active : (attempt ops machine operation other).2.service.activeLocality = some locality)
    (ungranted : ¬ Grants ops machine message locality) :
    ((attempt ops machine operation other).2.crbs locality).SameRegisters
      (machine.handedBack ops message locality) := by
  rw [← invoke_handedBack ops start planned]
  by_cases success : (attempt ops machine operation other).1 = .ok
  · rw [attempt_of_ok ops success] at active ⊢
    have wiped := (invoke ops machine operation other).2.wipe_registers other locality
    cases operation with
    | goIdle => exact wiped
    | cmdReady => exact wiped
    | start => exact .refl _
    | localityRequest =>
        cases active
        rw [attempt_fst] at success
        exact absurd ((grants_iff ops start).mpr ⟨planned, success⟩) ungranted
    | localityRelinquish => cases active
  · rw [attempt_of_ne ops success]
    exact .refl _

/-- What a backend that writes only data buffers hands back has the registers
that the host has left there. -/
theorem handedBack_registers (only : ops.WritesOnlyBuffer) (machine : Machine Sst)
    (message : MsgSendDirectReq2) (locality : Locality) :
    (machine.handedBack ops message locality).SameRegisters (machine.crbs locality) := by
  unfold Machine.handedBack
  split
  · exact only machine.sst locality (machine.crbs locality)
  · exact .refl _

end

/-- After a start request, the registers of the active locality are in the
known state exactly if the locality was granted by the request, or no bit was
set in its block that an active locality does not set. -/
theorem start_known_iff (machine : Machine Sst) (message : MsgSendDirectReq2) (locality : Locality)
    (start : TpmFunction.ofOpcode (TpmRequest.ofMessage message).opcode = some .start)
    (active : (step ops machine (.request message)).service.activeLocality = some locality) :
    (step ops machine (.request message)).KnownAt locality <->
      Grants ops machine message locality ∨
        Unstained locality (machine.handedBack ops message locality) := by
  have planned : machine.planFor ops message = _ := planFor_start ops start
  rw [step_request] at active ⊢
  rcases startPlan_cases machine.service machine.crbs (ops.isIdleBypassSupported machine.sst)
    (TpmRequest.ofMessage message) with ⟨status, refused⟩ | ⟨operation, other, called⟩
  · rw [refused] at planned
    rw [planned, perform, cleanInternalCrb_service] at active
    have ungranted : ¬ Grants ops machine message locality := by
      rw [grants_iff ops start, planned]
      simp
    have kept : machine.handedBack ops message locality = machine.crbs locality := by
      apply if_neg
      rw [executes_iff ops start, planned]
      simp
    rw [planned, perform, cleanInternalCrb_known_iff active, kept]
    exact (or_iff_right ungranted).symm
  · rw [called] at planned
    rw [planned, perform, cleanInternalCrb_service] at active
    rw [planned, perform, cleanInternalCrb_known_iff active]
    by_cases granted : Grants ops machine message locality
    · have asked := (grants_iff ops start).mp granted
      rw [planned, Plan.call_eq_call] at asked
      rcases asked with ⟨⟨rfl, rfl⟩, success⟩
      have succeeded : (attempt ops machine .localityRequest locality).1 = .ok := by
        rw [attempt_fst]
        exact success
      rw [attempt_of_ok ops succeeded]
      exact iff_of_true (initInternalCrb_unstained _ locality) (.inl granted)
    · rw [Unstained.of_same (attempt_handedBack ops start planned active granted)]
      exact (or_iff_right granted).symm

/-- The host writes to the locality state register of one block. -/
def HostWrite.localityState (locality : Locality) (bits : U32) : HostWrite where
  mask := fun other =>
    if other = locality then { PtpCrbRegisters.zero with localityState := BitVec.allOnes 32 } else .zero
  value := fun other =>
    if other = locality then { PtpCrbRegisters.zero with localityState := bits } else .zero

/-- Locality 1 is active, and the host has written to the locality state of a locality. -/
def stained (locality : Locality) (bits : U32) : Machine Unit :=
  advance agreeable (afterRun agreeable () 0 (fun _ => .zero) (execution.take 2))
    (.write (.localityState locality bits))

theorem unstained_known :
    (stained 1 0).service.activeLocality = some 1 ∧
      (step agreeable (stained 1 0) (.request (compose 1 .start 0 1))).KnownAt 1 := by
  have active : (step agreeable (stained 1 0)
      (.request (compose 1 .start 0 1))).service.activeLocality = some 1 := by decide +kernel
  have unstained : Unstained 1 ((stained 1 0).crbs 1) := ⟨by decide +kernel, by decide +kernel⟩
  have handedBack := handedBack_registers agreeable (fun _ _ _ => rfl) (stained 1 0) (compose 1 .start 0 1) 1
  refine ⟨by decide +kernel, (start_known_iff agreeable (stained 1 0) (compose 1 .start 0 1) 1
    (by decide +kernel) active).mpr (.inr ?_)⟩
  exact (Unstained.of_same handedBack).mpr unstained

/-- Two contents of the block of locality 1, with the same response and the same
state after a request, and different registers. -/
theorem content_survives_cleaning :
    ¬ forall (first second : Machine Unit) (message : MsgSendDirectReq2) (locality : Locality),
      TpmFunction.ofOpcode (TpmRequest.ofMessage message).opcode = some .start ->
      first.service = second.service ->
      (forall other, other ≠ locality -> first.crbs other = second.crbs other) ->
      (ffaMsgSendDirectReq2 agreeable first message).1 = (ffaMsgSendDirectReq2 agreeable second message).1 ->
      (step agreeable first (.request message)).service.currentState =
        (step agreeable second (.request message)).service.currentState ->
      (step agreeable first (.request message)).service.activeLocality = some locality ->
      (step agreeable second (.request message)).service.activeLocality = some locality ->
      ((step agreeable first (.request message)).crbs locality).localityState =
        ((step agreeable second (.request message)).crbs locality).localityState := by
  intro always
  have untouched : forall other, other ≠ 1 ->
      (stained 1 0).crbs other = (stained 1 0xFFFFFFFF).crbs other := by
    intro other different
    have unwritten : forall bits, (HostWrite.localityState 1 bits).value other = .zero :=
      fun _ => if_neg different
    change PtpCrbRegisters.overwrite _ _ ((HostWrite.localityState 1 0).value other) =
      PtpCrbRegisters.overwrite _ _ ((HostWrite.localityState 1 0xFFFFFFFF).value other)
    rw [unwritten, unwritten]
    rfl
  have same := always (stained 1 0) (stained 1 0xFFFFFFFF) (compose 1 .start 0 1) 1 (by decide +kernel) rfl
    untouched (by decide +kernel) (by decide +kernel) (by decide +kernel) (by decide +kernel)
  exact absurd same (by decide +kernel)

end Tpm
end SecureServices
