import SecureServices.Tpm.Confinement
import SecureServices.Tpm.Backend

namespace SecureServices
namespace Tpm

open Library Ffa

/-!
# Which arguments are refused

A start request and a request to manage a locality carry two arguments in
registers of 64 bits, and the handlers refuse numbers that they do not know.
They look at the low byte of one register and at the low half word of the
other.  A number that is too large is refused if what is left of it is unknown,
and otherwise taken for the number that is left.
-/

variable {Sst : Type} (ops : TpmSstOps Sst)

/-! ## The arguments -/

/-- A request whose handler checks both arguments. -/
def ChecksArguments (message : MsgSendDirectReq2) : Prop :=
  TpmFunction.ofOpcode (TpmRequest.ofMessage message).opcode = some .start ∨
    TpmFunction.ofOpcode (TpmRequest.ofMessage message).opcode = some .manageLocality ∧
      mayManageLocality message.sourceId = true

/-- There is no such locality, or it is one whose function is looked at, and
there is no such function. -/
def Invalid (machine : Machine Sst) (message : MsgSendDirectReq2) : Prop :=
  numLocalities ≤ (TpmRequest.ofMessage message).locality.toNat ∨
    (exists locality : Locality, locality.val = (TpmRequest.ofMessage message).locality.toNat ∧
      (TpmFunction.ofOpcode (TpmRequest.ofMessage message).opcode = some .start ->
        machine.service.localityStates locality = .opened)) ∧
    (TpmRequest.ofMessage message).function ≠ 0 ∧ (TpmRequest.ofMessage message).function ≠ 1

/-- The request is refused for its arguments, and nothing has been done. -/
structure Rejected (machine : Machine Sst) (message : MsgSendDirectReq2) : Prop where
  status : responseStatus (ffaMsgSendDirectReq2 ops machine message).1 = TpmStatus.invArg.toU64
  backend : (ffaMsgSendDirectReq2 ops machine message).2.sst = machine.sst
  calls : (ffaMsgSendDirectReq2 ops machine message).2.calls = machine.calls
  current : (ffaMsgSendDirectReq2 ops machine message).2.service.currentState = machine.service.currentState
  active : (ffaMsgSendDirectReq2 ops machine message).2.service.activeLocality =
    machine.service.activeLocality
  states : (ffaMsgSendDirectReq2 ops machine message).2.service.localityStates =
    machine.service.localityStates

/-- One of the registers holds more than the handlers tell apart. -/
def TpmRequest.Wide (request : TpmRequest) : Prop :=
  numLocalities ≤ request.locality.toNat ∨ request.function ≠ 0 ∧ request.function ≠ 1

/-- What is left of the arguments is taken for valid ones. -/
inductive Misread (machine : Machine Sst) (message : MsgSendDirectReq2) : Prop where
  | closed (locality : Locality)
      (start : TpmFunction.ofOpcode (TpmRequest.ofMessage message).opcode = some .start)
      (checked : (TpmRequest.ofMessage message).checkedLocality = some locality)
      (large : numLocalities ≤ (TpmRequest.ofMessage message).locality.toNat)
      (isClosed : machine.service.localityStates locality = .closed)
  | command (locality : Locality)
      (start : TpmFunction.ofOpcode (TpmRequest.ofMessage message).opcode = some .start)
      (checked : (TpmRequest.ofMessage message).checkedLocality = some locality)
      (wide : (TpmRequest.ofMessage message).Wide)
      (isOpen : machine.service.localityStates locality = .opened)
      (qualifier : (TpmRequest.ofMessage message).qualifier = tpm2FfaStartFuncQualifierCommand)
      (owned : machine.service.activeLocality = some locality)
  | locality (locality : Locality)
      (start : TpmFunction.ofOpcode (TpmRequest.ofMessage message).opcode = some .start)
      (checked : (TpmRequest.ofMessage message).checkedLocality = some locality)
      (wide : (TpmRequest.ofMessage message).Wide)
      (isOpen : machine.service.localityStates locality = .opened)
      (qualifier : (TpmRequest.ofMessage message).qualifier = tpm2FfaStartFuncQualifierLocality)
  | manage (locality : Locality) (state : TpmLocalityState)
      (manages : Manages message locality state)
      (wide : (TpmRequest.ofMessage message).Wide)

/-- A small number is left as it is. -/
theorem TpmRequest.checkedLocality_of_lt {request : TpmRequest}
    (small : request.locality.toNat < numLocalities) :
    request.checkedLocality = some ⟨request.locality.toNat, small⟩ := by
  have left : (request.locality.setWidth 8).toNat = request.locality.toNat := by
    rw [BitVec.toNat_setWidth]
    apply Nat.mod_eq_of_lt
    exact small.trans (by decide)
  unfold TpmRequest.checkedLocality
  dsimp only
  rw [dif_pos (by rw [left]; exact small)]
  simp only [left]

/-- Arguments with a large register are invalid, unless they are a large
function for a closed locality. -/
theorem Invalid.of_wide {machine : Machine Sst} {message : MsgSendDirectReq2} {locality : Locality}
    (checked : (TpmRequest.ofMessage message).checkedLocality = some locality)
    (isOpen : TpmFunction.ofOpcode (TpmRequest.ofMessage message).opcode = some .start ->
      machine.service.localityStates locality = .opened)
    (wide : (TpmRequest.ofMessage message).Wide) : Invalid machine message := by
  rcases wide with large | unknown
  · exact .inl large
  · by_cases small : (TpmRequest.ofMessage message).locality.toNat < numLocalities
    · rw [TpmRequest.checkedLocality_of_lt small] at checked
      cases checked
      exact .inr ⟨⟨_, rfl, isOpen⟩, unknown⟩
    · exact .inl (Nat.le_of_not_lt small)

/-! ## Which plans refuse arguments -/

/-- The plan is to refuse the arguments. -/
def Plan.RefusesArguments (plan : Plan) : Prop := plan = .answer .invArg ∨ plan = .refuse .invArg

theorem TpmStatus.toU64_eq_invArg {status : TpmStatus} :
    status.toU64 = TpmStatus.invArg.toU64 <-> status = .invArg := by
  constructor
  · intro same
    cases status with
    | invArg => rfl
    | _ => exact absurd same (by decide)
  · rintro rfl
    rfl

theorem convertErrorToStatus_ne_invArg (error : ErrorCode) : convertErrorToStatus error ≠ .invArg := by
  cases error <;> decide

/-- No other plan reports that the arguments are invalid. -/
theorem refusesArguments_of_status {machine : Machine Sst} {plan : Plan}
    (status : (perform ops machine plan).1 = .invArg) : plan.RefusesArguments := by
  cases plan with
  | answer answered => exact .inl (congrArg Plan.answer status)
  | refuse refused => exact .inr (congrArg Plan.refuse status)
  | call operation locality => exact absurd status (convertErrorToStatus_ne_invArg _)
  | manage locality state => exact absurd status (by simp [perform])
  | register registered => exact absurd status (by simp [perform])

/-- A request is rejected exactly if the plan for it is to refuse the arguments. -/
theorem rejected_iff_plan (machine : Machine Sst) (message : MsgSendDirectReq2) :
    Rejected ops machine message <-> (machine.planFor ops message).RefusesArguments := by
  have after := step_request ops machine message
  rw [step] at after
  constructor
  · intro rejected
    have status := rejected.status
    rw [responseStatus_eq, TpmStatus.toU64_eq_invArg] at status
    exact refusesArguments_of_status ops status
  · intro refuses
    have status := @responseStatus_eq Sst ops machine message
    rcases refuses with planned | planned
    · rw [planned] at after status
      exact ⟨status, by rw [after]; rfl, by rw [after]; rfl, by rw [after]; rfl, by rw [after]; rfl,
        by rw [after]; rfl⟩
    · rw [planned] at after status
      refine ⟨status, ?_, ?_, ?_, ?_, ?_⟩
      all_goals rw [after, perform]
      · exact cleanInternalCrb_sst machine
      · exact cleanInternalCrb_calls machine
      · rw [cleanInternalCrb_service]
      · rw [cleanInternalCrb_service]
      · rw [cleanInternalCrb_service]

theorem commandPlan_accepts (service : TpmService) (crbs : Locality -> PtpCrbRegisters) (bypass : Bool)
    (locality : Locality) : ¬ (commandPlan service crbs bypass locality).RefusesArguments := by
  unfold commandPlan
  split
  · simp [Plan.RefusesArguments]
  · split <;> simp [Plan.RefusesArguments]

theorem localityPlan_accepts (service : TpmService) (crbs : Locality -> PtpCrbRegisters)
    (locality : Locality) : ¬ (localityPlan service crbs locality).RefusesArguments := by
  unfold localityPlan
  split_ifs <;> simp [Plan.RefusesArguments]

/-- A start request is refused for its arguments unless they are taken for a
closed locality, a command of the active locality, or a locality request. -/
theorem startPlan_refusesArguments {service : TpmService} {crbs : Locality -> PtpCrbRegisters}
    {bypass : Bool} {request : TpmRequest} :
    (startPlan service crbs bypass request).RefusesArguments <->
      forall locality, request.checkedLocality = some locality ->
        service.localityStates locality ≠ .closed ∧
        (request.qualifier = tpm2FfaStartFuncQualifierCommand -> service.activeLocality ≠ some locality) ∧
        request.qualifier ≠ tpm2FfaStartFuncQualifierLocality := by
  unfold startPlan
  cases request.checkedLocality with
  | none => simp [Plan.RefusesArguments]
  | some locality =>
      simp only [Option.some.injEq, forall_eq']
      split_ifs with isClosed command owned other
      · simp [Plan.RefusesArguments, isClosed]
      · refine iff_of_false (commandPlan_accepts service crbs bypass locality) ?_
        exact fun refused => refused.2.1 command owned
      · have different : request.qualifier ≠ tpm2FfaStartFuncQualifierLocality := by
          rw [command]
          decide
        exact iff_of_true (.inr rfl) ⟨isClosed, fun _ => owned, different⟩
      · refine iff_of_false (localityPlan_accepts service crbs locality) ?_
        exact fun refused => refused.2.2 other
      · exact iff_of_true (.inr rfl) ⟨isClosed, fun same => absurd same command, other⟩

/-- A request to manage a locality is refused for its arguments unless they are
taken for opening or closing one. -/
theorem managePlan_refusesArguments {request : TpmRequest} :
    (managePlan request).RefusesArguments <->
      forall locality, request.checkedLocality = some locality ->
        request.qualifier ≠ tpm2FfaManageLocalityOpen ∧ request.qualifier ≠ tpm2FfaManageLocalityClose := by
  unfold managePlan
  cases request.checkedLocality with
  | none => simp [Plan.RefusesArguments]
  | some locality =>
      simp only [Option.some.injEq, forall_eq']
      split_ifs with opens closes
      · simp [Plan.RefusesArguments, opens]
      · simp [Plan.RefusesArguments, closes]
      · simp [Plan.RefusesArguments, opens, closes]

/-! ## Invalid arguments -/

theorem Invalid.wide {machine : Machine Sst} {message : MsgSendDirectReq2}
    (invalid : Invalid machine message) : (TpmRequest.ofMessage message).Wide :=
  invalid.imp id And.right

/-- A closed locality is only reached with a large number. -/
theorem Invalid.large_of_closed {machine : Machine Sst} {message : MsgSendDirectReq2}
    (invalid : Invalid machine message) {locality : Locality}
    (start : TpmFunction.ofOpcode (TpmRequest.ofMessage message).opcode = some .start)
    (checked : (TpmRequest.ofMessage message).checkedLocality = some locality)
    (isClosed : machine.service.localityStates locality = .closed) :
    numLocalities ≤ (TpmRequest.ofMessage message).locality.toNat := by
  rcases invalid with large | ⟨⟨other, same, isOpen⟩, _⟩
  · exact large
  · have small : (TpmRequest.ofMessage message).locality.toNat < numLocalities := same ▸ other.isLt
    rw [TpmRequest.checkedLocality_of_lt small] at checked
    cases checked
    have opened := isOpen start
    rw [show other = ⟨_, small⟩ from Fin.ext same, isClosed] at opened
    cases opened

/-- Invalid arguments are refused, and nothing is done, unless what is left of
them is taken for valid ones. -/
theorem invalid_rejected_iff (machine : Machine Sst) (message : MsgSendDirectReq2)
    (checks : ChecksArguments message) :
    (Invalid machine message -> Rejected ops machine message) <-> ¬ Misread machine message := by
  rw [rejected_iff_plan]
  unfold Machine.planFor plan
  rcases checks with start | ⟨manage, allowed⟩
  · rw [start]
    dsimp only
    rw [startPlan_refusesArguments]
    constructor
    · intro rejected misread
      cases misread with
      | closed locality _ checked large isClosed =>
          exact (rejected (.inl large) locality checked).1 isClosed
      | command locality _ checked wide isOpen qualifier owned =>
          exact (rejected (.of_wide checked (fun _ => isOpen) wide) locality checked).2.1 qualifier owned
      | locality locality _ checked wide isOpen qualifier =>
          exact (rejected (.of_wide checked (fun _ => isOpen) wide) locality checked).2.2 qualifier
      | manage locality state manages wide => exact absurd (start.symm.trans manages.1) (by decide)
    · intro correct invalid locality checked
      have notClosed : machine.service.localityStates locality ≠ .closed := fun isClosed =>
        correct (.closed locality start checked (invalid.large_of_closed start checked isClosed) isClosed)
      have isOpen : machine.service.localityStates locality = .opened := by
        cases state : machine.service.localityStates locality with
        | opened => rfl
        | closed => exact absurd state notClosed
      refine ⟨notClosed, ?_, ?_⟩
      · intro qualifier owned
        exact correct (.command locality start checked invalid.wide isOpen qualifier owned)
      · intro qualifier
        exact correct (.locality locality start checked invalid.wide isOpen qualifier)
  · rw [manage]
    dsimp only
    rw [if_pos allowed, managePlan_refusesArguments]
    constructor
    · intro rejected misread
      cases misread with
      | closed _ start => exact absurd (manage.symm.trans start) (by decide)
      | command _ start => exact absurd (manage.symm.trans start) (by decide)
      | locality _ start => exact absurd (manage.symm.trans start) (by decide)
      | manage locality state manages wide =>
          rcases manages with ⟨_, _, checked, qualifier⟩
          have invalid : Invalid machine message :=
            .of_wide checked (fun start => absurd (manage.symm.trans start) (by decide)) wide
          have refused := rejected invalid locality checked
          cases state with
          | opened => exact refused.1 qualifier
          | closed => exact refused.2 qualifier
    · intro correct invalid locality checked
      refine ⟨?_, ?_⟩
      · intro qualifier
        exact correct (.manage locality .opened ⟨manage, allowed, checked, qualifier⟩ invalid.wide)
      · intro qualifier
        exact correct (.manage locality .closed ⟨manage, allowed, checked, qualifier⟩ invalid.wide)

/-- A command for a locality that does not exist, with a number that stays
unknown when only its low byte is looked at. -/
def unknownLocality : MsgSendDirectReq2 := compose 1 .start 0 0x10

theorem unknownLocality_rejected :
    Invalid (boot agreeable () 0 (fun _ => .zero)) unknownLocality ∧
      Rejected agreeable (boot agreeable () 0 (fun _ => .zero)) unknownLocality := by
  have invalid : Invalid (boot agreeable () 0 (fun _ => .zero)) unknownLocality :=
    .inl (by decide +kernel)
  have unchecked : (TpmRequest.ofMessage unknownLocality).checkedLocality = none := by decide +kernel
  refine ⟨invalid, (invalid_rejected_iff agreeable _ unknownLocality (.inl (by decide +kernel))).mpr ?_ invalid⟩
  intro misread
  cases misread with
  | closed _ _ checked => exact absurd (unchecked.symm.trans checked) (by simp)
  | command _ _ checked => exact absurd (unchecked.symm.trans checked) (by simp)
  | locality _ _ checked => exact absurd (unchecked.symm.trans checked) (by simp)
  | manage _ _ manages => exact absurd (unchecked.symm.trans manages.2.2.1) (by simp)

/-- A request to manage locality 256, with function 65537. -/
def largeArguments : MsgSendDirectReq2 := compose 0xFF01 .manageLocality 0x10001 0x100

theorem not_always_rejected :
    ¬ forall (events : List Event) (message : MsgSendDirectReq2), ChecksArguments message ->
      Invalid (afterRun agreeable () 0 (fun _ => .zero) events) message ->
        Rejected agreeable (afterRun agreeable () 0 (fun _ => .zero) events) message := by
  intro always
  have rejected := always [] largeArguments (.inr (by decide +kernel)) (.inl (by decide +kernel))
  have answered : responseStatus (ffaMsgSendDirectReq2 agreeable
      (afterRun agreeable () 0 (fun _ => .zero) []) largeArguments).1 = TpmStatus.ok.toU64 := by
    decide +kernel
  exact absurd (answered.symm.trans rejected.status) (by decide)

end Tpm
end SecureServices
