import SecureServices.Tpm.Registers

namespace SecureServices
namespace Tpm

open Library Ffa

/-!
# Responses stay in their session

The response to a command is the only secret that the service handles, and it
lies in memory that the host reads.  Two runs that differ in nothing but the
responses tell where a response can be seen: in the data buffer of the active
locality, while the command machine has completed and not moved on.

The decision what to do does not read a data buffer, so that both runs make the
same calls.  What remains is to say which buffers each operation makes equal
again.

The other side of the same analysis is that a request that fails changes
nothing that matters: it is decided before anything is written.
-/

variable {Sst : Type} {ops : TpmSstOps Sst}

/-- `start` writes a data buffer only when it reports success. -/
def TpmSstOps.AnswersOnSuccess (ops : TpmSstOps Sst) : Prop :=
  forall sst locality crb, (ops.start sst locality crb).1 ≠ .ok ->
    (ops.start sst locality crb).2.1.crbDataBuffer = crb.crbDataBuffer

/-! ## Data buffers -/

theorem cleanInternalCrb_buffer (machine : Machine Sst) (locality : Locality) :
    ((cleanInternalCrb machine).crbs locality).crbDataBuffer = (machine.crbs locality).crbDataBuffer := by
  unfold cleanInternalCrb
  split
  · rfl
  next owner _ =>
    by_cases same : locality = owner
    · subst same
      simp only [Machine.setCrb, Function.update_self, setBufferRegisters]
    · simp only [Machine.setCrb, Function.update_of_ne same]

/-- A backend call that fails leaves every buffer alone. -/
theorem invoke_buffer_of_ne (answers : ops.AnswersOnSuccess) {machine : Machine Sst}
    {operation : Operation} {locality : Locality}
    (failure : (invoke ops machine operation locality).1 ≠ .ok) (other : Locality) :
    ((invoke ops machine operation locality).2.crbs other).crbDataBuffer =
      (machine.crbs other).crbDataBuffer := by
  cases operation with
  | start =>
      by_cases same : other = locality
      · subst same
        have written : (invoke ops machine .start other).2.crbs other =
            (ops.start machine.sst other (machine.crbs other)).2.1 := Function.update_self ..
        rw [written]
        exact answers machine.sst other (machine.crbs other) failure
      · exact congrArg PtpCrbRegisters.crbDataBuffer (Function.update_of_ne same ..)
  | goIdle => rfl
  | cmdReady => rfl
  | localityRequest => rfl
  | localityRelinquish => rfl

/-! ## Failed requests -/

/-- The status register of a response, which is the first payload register. -/
def responseStatus (response : MsgSendDirectResp2) : U64 := response.payload.registerAt 0

theorem responseStatus_eq (machine : Machine Sst) (message : MsgSendDirectReq2) :
    responseStatus (ffaMsgSendDirectReq2 ops machine message).1 =
      (perform ops machine (machine.planFor ops message)).1.toU64 := by
  rw [← dispatch_eq]
  have read := DirectMessagePayload.registerAt_ofRegisters
    [(dispatch ops machine message.sourceId (TpmRequest.ofMessage message)).1.toU64,
      (dispatch ops machine message.sourceId (TpmRequest.ofMessage message)).2.1]
    (by simp) 0 (Nat.zero_lt_succ 1)
  exact read

/-- The service and the data buffers are as before. -/
def Untouched (machine after : Machine Sst) : Prop :=
  after.service.currentState = machine.service.currentState ∧
    after.service.activeLocality = machine.service.activeLocality ∧
    after.service.localityStates = machine.service.localityStates ∧
    after.service.notificationRegistered = machine.service.notificationRegistered ∧
    forall locality, (after.crbs locality).crbDataBuffer = (machine.crbs locality).crbDataBuffer

theorem Untouched.of_service {machine after : Machine Sst} (service : after.service = machine.service)
    (buffers : forall locality,
      (after.crbs locality).crbDataBuffer = (machine.crbs locality).crbDataBuffer) :
    Untouched machine after := by
  unfold Untouched
  rw [service]
  exact ⟨rfl, rfl, rfl, rfl, buffers⟩

/-- A request whose status is not a success leaves the service and all data
buffers as they were. -/
theorem failed_request_untouched (answers : ops.AnswersOnSuccess) (machine : Machine Sst)
    (message : MsgSendDirectReq2)
    (failed : responseStatus (ffaMsgSendDirectReq2 ops machine message).1 ≠ TpmStatus.ok.toU64 ∧
      responseStatus (ffaMsgSendDirectReq2 ops machine message).1 ≠ TpmStatus.okResultsReturned.toU64) :
    Untouched machine (ffaMsgSendDirectReq2 ops machine message).2 := by
  have notOk := failed.1
  rw [responseStatus_eq] at notOk
  have after := step_request ops machine message
  rw [step] at after
  rw [after]
  cases planned : machine.planFor ops message with
  | answer status => exact .of_service rfl (fun _ => rfl)
  | refuse status => exact .of_service (cleanInternalCrb_service machine) (cleanInternalCrb_buffer machine)
  | call operation locality =>
      have failure : (attempt ops machine operation locality).1 ≠ .ok := by
        intro success
        rw [planned, perform, success] at notOk
        exact notOk rfl
      rw [perform, attempt_of_ne ops failure]
      rw [attempt_fst] at failure
      apply Untouched.of_service
      · rw [cleanInternalCrb_service, invoke_service]
      · intro other
        rw [cleanInternalCrb_buffer, invoke_buffer_of_ne answers failure]
  | manage locality state =>
      rw [planned] at notOk
      exact absurd rfl notOk
  | register registered =>
      rw [planned] at notOk
      exact absurd rfl notOk

/-- A backend that cannot execute any command. -/
def refusing : TpmSstOps Unit := { agreeable with start := fun _ _ crb => (.noMemory, crb, ()) }

theorem refused_start_untouched :
    let machine := afterRun refusing () 0 (fun _ => .zero) (execution.take 5)
    machine.calls.length = 2 ∧
      responseStatus (ffaMsgSendDirectReq2 refusing machine (compose 1 .start 0 1)).1 =
        TpmStatus.noMem.toU64 ∧
      Untouched machine (ffaMsgSendDirectReq2 refusing machine (compose 1 .start 0 1)).2 := by
  refine ⟨by decide +kernel, by decide +kernel, ?_⟩
  exact failed_request_untouched (fun _ _ _ _ => rfl) _ _ (by decide +kernel)

/-! ## Two runs -/

section TwoRuns

variable {First Second : Type} {ops₁ : TpmSstOps First} {ops₂ : TpmSstOps Second}
  {left : Machine First} {right : Machine Second}

/-- The machines differ at most in some of the data buffers. -/
structure AlikeExcept (Kept : Locality -> Prop) (left : Machine First) (right : Machine Second) :
    Prop where
  service : left.service = right.service
  registers : forall locality, (left.crbs locality).SameRegisters (right.crbs locality)
  buffers : forall locality, ¬ Kept locality ->
    (left.crbs locality).crbDataBuffer = (right.crbs locality).crbDataBuffer

/-- The locality whose data buffer can hold a response. -/
def KeepsResponse (service : TpmService) (locality : Locality) : Prop :=
  service.activeLocality = some locality ∧ service.currentState = .complete

/-- The machines differ at most in a response. -/
def Alike (left : Machine First) (right : Machine Second) : Prop :=
  AlikeExcept (KeepsResponse left.service) left right

namespace AlikeExcept

variable {Kept : Locality -> Prop}

theorem mono (alike : AlikeExcept Kept left right) {More : Locality -> Prop}
    (more : forall locality, Kept locality -> More locality) : AlikeExcept More left right := by
  refine ⟨alike.service, alike.registers, fun locality unkept => alike.buffers locality ?_⟩
  intro kept
  exact unkept (more locality kept)

theorem crbs_eq (alike : AlikeExcept (fun _ => False) left right) : left.crbs = right.crbs := by
  funext locality
  exact (alike.registers locality).eq_of_buffer (alike.buffers locality not_false)

/-- The decision does not read a data buffer. -/
theorem planFor_eq (alike : AlikeExcept Kept left right)
    (bypass : ops₁.isIdleBypassSupported left.sst = ops₂.isIdleBypassSupported right.sst)
    (message : MsgSendDirectReq2) : left.planFor ops₁ message = right.planFor ops₂ message := by
  have blocks : left.crbs = fun locality =>
      { right.crbs locality with crbDataBuffer := (left.crbs locality).crbDataBuffer } :=
    funext alike.registers
  rw [Machine.planFor, Machine.planFor, alike.service, bypass, blocks]
  rfl

/-- Cleaning the registers does not read a data buffer either. -/
theorem clean (alike : AlikeExcept Kept left right) :
    AlikeExcept Kept (cleanInternalCrb left) (cleanInternalCrb right) := by
  constructor
  · rw [cleanInternalCrb_service, cleanInternalCrb_service, alike.service]
  · intro locality
    by_cases owned : left.service.activeLocality = some locality
    · have same := alike.registers locality
      have ownedRight := owned
      rw [alike.service] at ownedRight
      unfold PtpCrbRegisters.SameRegisters at same
      simp only [cleanInternalCrb, owned, ownedRight, Machine.setCrb, Function.update_self]
      rw [same, alike.service]
      rfl
    · rw [cleanInternalCrb_of_ne owned]
      rw [alike.service] at owned
      rw [cleanInternalCrb_of_ne owned]
      exact alike.registers locality
  · intro locality unkept
    rw [cleanInternalCrb_buffer, cleanInternalCrb_buffer]
    exact alike.buffers locality unkept

/-- Setting one block, to blocks with the same registers. -/
theorem setCrb (alike : AlikeExcept Kept left right) {locality : Locality} {crb other : PtpCrbRegisters}
    (same : crb.SameRegisters other) {Now : Locality -> Prop}
    (here : ¬ Now locality -> crb.crbDataBuffer = other.crbDataBuffer)
    (elsewhere : forall away, away ≠ locality -> Kept away -> Now away) :
    AlikeExcept Now (left.setCrb locality crb) (right.setCrb locality other) := by
  refine ⟨alike.service, fun away => ?_, fun away unkept => ?_⟩
  · by_cases at_ : away = locality
    · subst at_
      simp only [Machine.setCrb, Function.update_self]
      exact same
    · simp only [Machine.setCrb, Function.update_of_ne at_]
      exact alike.registers away
  · by_cases at_ : away = locality
    · subst at_
      simp only [Machine.setCrb, Function.update_self]
      exact here unkept
    · simp only [Machine.setCrb, Function.update_of_ne at_]
      exact alike.buffers away (fun kept => unkept (elsewhere away at_ kept))

/-- A response that has been read is wiped in both runs. -/
theorem wipe (alike : AlikeExcept Kept left right) {locality : Locality}
    (only : forall other, Kept other -> other = locality ∧ left.service.currentState = .complete) :
    AlikeExcept (fun _ => False) (left.wipe locality) (right.wipe locality) := by
  unfold Machine.wipe
  rw [← alike.service]
  split
  · refine alike.setCrb ?_ (fun _ => rfl) (fun away different kept => different (only away kept).1)
    have same := alike.registers locality
    unfold PtpCrbRegisters.SameRegisters at same ⊢
    rw [same]
  next unfinished =>
    exact alike.mono (fun other kept => unfinished (only other kept).2)

/-- A zeroed block is the same in both runs. -/
theorem init (alike : AlikeExcept Kept left right) {locality : Locality}
    (only : forall other, Kept other -> other = locality) :
    AlikeExcept (fun _ => False) (initInternalCrb left locality) (initInternalCrb right locality) := by
  unfold initInternalCrb
  rw [alike.service]
  exact alike.setCrb (.refl _) (fun _ => rfl) (fun away different kept => different (only away kept))

theorem setState (alike : AlikeExcept Kept left right) (state : TpmState) :
    AlikeExcept Kept (left.setState state) (right.setState state) :=
  ⟨congrArg (fun service => { service with currentState := state }) alike.service, alike.registers,
    alike.buffers⟩

theorem setActive (alike : AlikeExcept Kept left right) (active : Option Locality) :
    AlikeExcept Kept (left.setActive active) (right.setActive active) :=
  ⟨congrArg (fun service => { service with activeLocality := active }) alike.service, alike.registers,
    alike.buffers⟩

/-- A call other than a start writes to no block. -/
theorem invoke_of_ne (alike : AlikeExcept Kept left right) {operation : Operation}
    (different : operation ≠ .start) (locality : Locality) :
    AlikeExcept Kept (invoke ops₁ left operation locality).2 (invoke ops₂ right operation locality).2 := by
  cases operation with
  | start => exact absurd rfl different
  | goIdle => exact ⟨alike.service, alike.registers, alike.buffers⟩
  | cmdReady => exact ⟨alike.service, alike.registers, alike.buffers⟩
  | localityRequest => exact ⟨alike.service, alike.registers, alike.buffers⟩
  | localityRelinquish => exact ⟨alike.service, alike.registers, alike.buffers⟩

end AlikeExcept

theorem Alike.clean (alike : Alike left right) :
    Alike (cleanInternalCrb left) (cleanInternalCrb right) := by
  unfold Alike
  rw [cleanInternalCrb_service]
  exact AlikeExcept.clean alike

/-- A successful operation other than a start leaves no response behind. -/
theorem Alike.attempt_identical (alike : Alike left right) {operation : Operation}
    (different : operation ≠ .start) {locality : Locality} {bypass : Bool}
    (sound : (Plan.call operation locality).Sound left.service bypass)
    (success : (attempt ops₁ left operation locality).1 = .ok)
    (successRight : (attempt ops₂ right operation locality).1 = .ok) :
    AlikeExcept (fun _ => False) (attempt ops₁ left operation locality).2
      (attempt ops₂ right operation locality).2 := by
  have invoked : AlikeExcept (KeepsResponse left.service) (invoke ops₁ left operation locality).2
      (invoke ops₂ right operation locality).2 := AlikeExcept.invoke_of_ne alike different locality
  have service := invoke_service ops₁ left operation locality
  rw [attempt_of_ok ops₁ success, attempt_of_ok ops₂ successRight]
  have wiped : left.service.activeLocality = some locality ->
      AlikeExcept (fun _ => False) ((invoke ops₁ left operation locality).2.wipe locality)
        ((invoke ops₂ right operation locality).2.wipe locality) := by
    intro owned
    apply invoked.wipe
    rintro other ⟨named, complete⟩
    rw [service]
    exact ⟨(Option.some.inj (owned.symm.trans named)).symm, complete⟩
  have zeroed : left.service.activeLocality = none ∨ left.service.activeLocality = some locality ->
      AlikeExcept (fun _ => False) (initInternalCrb (invoke ops₁ left operation locality).2 locality)
        (initInternalCrb (invoke ops₂ right operation locality).2 locality) := by
    intro unowned
    apply invoked.init
    rintro other ⟨named, _⟩
    rcases unowned with free | owned
    · rw [free] at named
      cases named
    · exact (Option.some.inj (owned.symm.trans named)).symm
  cases operation with
  | start => exact absurd rfl different
  | goIdle => exact (wiped sound.1).setState .idle
  | cmdReady => exact (wiped sound.1).setState .ready
  | localityRequest => exact (zeroed sound).setActive (some locality)
  | localityRelinquish => exact (zeroed (Or.inr sound)).setActive none

/-- The backend writes a response, and nothing else, on success. -/
structure TpmSstOps.Responds (ops : TpmSstOps Sst) : Prop where
  only : ops.WritesOnlyBuffer
  answers : ops.AnswersOnSuccess

/-- A successful start leaves a response in the block of its locality. -/
theorem Alike.attempt_start (alike : Alike left right) (responds₁ : ops₁.Responds)
    (responds₂ : ops₂.Responds) {locality : Locality} {bypass : Bool}
    (sound : (Plan.call .start locality).Sound left.service bypass)
    (success : (attempt ops₁ left .start locality).1 = .ok)
    (successRight : (attempt ops₂ right .start locality).1 = .ok) :
    Alike (attempt ops₁ left .start locality).2 (attempt ops₂ right .start locality).2 := by
  have written : (ops₁.start left.sst locality (left.crbs locality)).2.1.SameRegisters
      (ops₂.start right.sst locality (right.crbs locality)).2.1 :=
    (responds₁.only left.sst locality _).trans
      ((alike.registers locality).trans (responds₂.only right.sst locality _).symm)
  have invoked : AlikeExcept (fun other => other = locality) (invoke ops₁ left .start locality).2
      (invoke ops₂ right .start locality).2 := by
    have called : AlikeExcept (KeepsResponse left.service)
        (left.returned .start locality (ops₁.start left.sst locality (left.crbs locality)).1
          (ops₁.start left.sst locality (left.crbs locality)).2.2)
        (right.returned .start locality (ops₂.start right.sst locality (right.crbs locality)).1
          (ops₂.start right.sst locality (right.crbs locality)).2.2) :=
      ⟨alike.service, alike.registers, alike.buffers⟩
    refine called.setCrb written (fun unkept => absurd rfl unkept) (fun away _ kept => ?_)
    exact (Option.some.inj (sound.1.symm.trans kept.1)).symm
  rw [attempt_of_ok ops₁ success, attempt_of_ok ops₂ successRight]
  apply (invoked.setState .complete).mono
  rintro other rfl
  exact ⟨sound.1, rfl⟩

/-- An attempt with the same result in both runs keeps them alike. -/
theorem Alike.attempt (alike : Alike left right) (responds₁ : ops₁.Responds) (responds₂ : ops₂.Responds)
    {operation : Operation} {locality : Locality} {bypass : Bool}
    (sound : (Plan.call operation locality).Sound left.service bypass)
    (results : (attempt ops₁ left operation locality).1 = (attempt ops₂ right operation locality).1) :
    Alike (attempt ops₁ left operation locality).2 (attempt ops₂ right operation locality).2 := by
  by_cases success : (Tpm.attempt ops₁ left operation locality).1 = .ok
  · have successRight := results.symm.trans success
    by_cases starts : operation = .start
    · subst starts
      exact alike.attempt_start responds₁ responds₂ sound success successRight
    · exact (alike.attempt_identical starts sound success successRight).mono (fun _ => False.elim)
  · have failureRight : (Tpm.attempt ops₂ right operation locality).1 ≠ .ok :=
      fun succeeded => success (results.trans succeeded)
    unfold Alike
    rw [attempt_of_ne ops₁ success, attempt_of_ne ops₂ failureRight, invoke_service]
    rw [attempt_fst] at success failureRight
    refine ⟨?_, fun other => ?_, fun other unkept => ?_⟩
    · rw [invoke_service, invoke_service, alike.service]
    · exact (invoke_registers responds₁.only left operation locality other).trans
        ((alike.registers other).trans
          (invoke_registers responds₂.only right operation locality other).symm)
    · rw [invoke_buffer_of_ne responds₁.answers success, invoke_buffer_of_ne responds₂.answers failureRight]
      exact alike.buffers other unkept

/-- Both runs got the same answers so far, and are told the same about idle. -/
def SameAnswers (ops₁ : TpmSstOps First) (ops₂ : TpmSstOps Second) (left : Machine First)
    (right : Machine Second) : Prop :=
  left.calls.map Call.result = right.calls.map Call.result ∧
    ops₁.isIdleBypassSupported left.sst = ops₂.isIdleBypassSupported right.sst

/-- The last answers were the same. -/
theorem attempt_results {operation : Operation} {locality : Locality}
    (answers : (attempt ops₁ left operation locality).2.calls.map Call.result =
      (attempt ops₂ right operation locality).2.calls.map Call.result) :
    (attempt ops₁ left operation locality).1 = (attempt ops₂ right operation locality).1 := by
  rw [attempt_calls, attempt_calls, List.map_append, List.map_append] at answers
  exact List.singleton_inj.mp (List.append_inj' answers rfl).2

/-- One event keeps the runs alike. -/
theorem advance_alike (responds₁ : ops₁.Responds) (responds₂ : ops₂.Responds) (alike : Alike left right)
    (event : Event) (before : SameAnswers ops₁ ops₂ left right)
    (after : SameAnswers ops₁ ops₂ (advance ops₁ left event) (advance ops₂ right event)) :
    Alike (advance ops₁ left event) (advance ops₂ right event) := by
  cases event with
  | write bits =>
      refine ⟨alike.service, fun locality => ?_, fun locality unkept => ?_⟩
      · have same := alike.registers locality
        unfold PtpCrbRegisters.SameRegisters at same
        change (PtpCrbRegisters.overwrite (left.crbs locality) _ _).SameRegisters
          (PtpCrbRegisters.overwrite (right.crbs locality) _ _)
        rw [same]
        rfl
      · have same := alike.buffers locality unkept
        change (PtpCrbRegisters.overwrite (left.crbs locality) _ _).crbDataBuffer =
          (PtpCrbRegisters.overwrite (right.crbs locality) _ _).crbDataBuffer
        rw [PtpCrbRegisters.overwrite, PtpCrbRegisters.overwrite, same]
  | request message =>
      have sound := planFor_sound ops₁ left message
      have plans := alike.planFor_eq before.2 message
      rw [advance_request, advance_request, ← plans] at after ⊢
      cases planned : left.planFor ops₁ message with
      | answer status => exact alike
      | refuse status => exact alike.clean
      | call operation locality =>
          rw [planned] at sound after
          have results := after.1
          rw [perform, perform, cleanInternalCrb_calls, cleanInternalCrb_calls] at results
          exact (alike.attempt responds₁ responds₂ sound (attempt_results results)).clean
      | manage locality state =>
          refine ⟨?_, alike.registers, alike.buffers⟩
          rw [perform, perform, Machine.setLocality, Machine.setLocality, alike.service]
      | register registered =>
          refine ⟨?_, alike.registers, alike.buffers⟩
          rw [perform, perform, Machine.setRegistered, Machine.setRegistered, alike.service]

/-- The event made one call, which succeeded and was no start. -/
def MovesOn (before after : Machine First) : Prop :=
  exists call, after.calls = before.calls ++ [call] ∧ call.result = .ok ∧ call.operation ≠ .start

theorem not_movesOn {before after : Machine First} (same : after.calls = before.calls) :
    ¬ MovesOn before after := by
  rintro ⟨call, grown, _⟩
  rw [same] at grown
  cases List.self_eq_append_right.mp grown

/-- After a call that moves on, the runs are identical. -/
theorem advance_identical (alike : Alike left right) (event : Event)
    (before : SameAnswers ops₁ ops₂ left right)
    (after : SameAnswers ops₁ ops₂ (advance ops₁ left event) (advance ops₂ right event))
    (moves : MovesOn left (advance ops₁ left event)) :
    (advance ops₁ left event).crbs = (advance ops₂ right event).crbs := by
  cases event with
  | write bits => exact absurd moves (not_movesOn rfl)
  | request message =>
      have sound := planFor_sound ops₁ left message
      have plans := alike.planFor_eq before.2 message
      rw [advance_request] at moves
      rw [advance_request, advance_request, ← plans] at after ⊢
      cases planned : left.planFor ops₁ message with
      | answer status =>
          rw [planned] at moves
          exact absurd moves (not_movesOn rfl)
      | refuse status =>
          rw [planned] at moves
          exact absurd moves (not_movesOn (cleanInternalCrb_calls left))
      | call operation locality =>
          rw [planned] at sound after moves
          have results := after.1
          rw [perform, perform, cleanInternalCrb_calls, cleanInternalCrb_calls] at results
          rcases moves with ⟨call, grown, succeeded, different⟩
          rw [perform, cleanInternalCrb_calls, attempt_calls] at grown
          cases List.singleton_inj.mp (List.append_inj' grown rfl).2
          have success : (attempt ops₁ left operation locality).1 = .ok := succeeded
          have identical := alike.attempt_identical different sound success
            ((attempt_results results).symm.trans success)
          exact identical.clean.crbs_eq
      | manage locality state =>
          rw [planned] at moves
          exact absurd moves (not_movesOn rfl)
      | register registered =>
          rw [planned] at moves
          exact absurd moves (not_movesOn rfl)

/-! ## Runs -/

theorem foldl_initInternalCrb_identical (localities : List Locality)
    (identical : AlikeExcept (fun _ => False) left right) :
    AlikeExcept (fun _ => False) (localities.foldl initInternalCrb left)
      (localities.foldl initInternalCrb right) := by
  induction localities generalizing left right with
  | nil => exact identical
  | cons locality rest inductionHypothesis =>
      exact inductionHypothesis (identical.init (fun _ => False.elim))

theorem boot_alike (ops₁ : TpmSstOps First) (ops₂ : TpmSstOps Second) (sst₁ : First) (sst₂ : Second)
    (address : U64) (crbs : Locality -> PtpCrbRegisters) :
    Alike (boot ops₁ sst₁ address crbs) (boot ops₂ sst₂ address crbs) := by
  have fresh : AlikeExcept (fun _ => False)
      (⟨⟨.idle, none, defaultInterfaceId, fun _ => .closed, address, false⟩, sst₁, crbs, []⟩ : Machine First)
      (⟨⟨.idle, none, defaultInterfaceId, fun _ => .closed, address, false⟩, sst₂, crbs, []⟩ :
        Machine Second) :=
    ⟨rfl, fun _ => .refl _, fun _ _ => rfl⟩
  have blocks := foldl_initInternalCrb_identical (List.finRange numLocalities) fresh
  exact ⟨rfl, blocks.registers, fun locality _ => blocks.buffers locality not_false⟩

end TwoRuns

/-- Take two runs with the same requests, the same host writes and the same
answers of the backend, which may write different responses.  At every point
the register blocks differ at most in the data buffer of the active locality,
after a command has completed; and they are identical after every successful
operation other than a start. -/
theorem responses_confined {First Second : Type} {ops₁ : TpmSstOps First} {ops₂ : TpmSstOps Second}
    (responds₁ : ops₁.Responds) (responds₂ : ops₂.Responds) (sst₁ : First) (sst₂ : Second)
    (address : U64) (crbs : Locality -> PtpCrbRegisters) (events : List Event)
    (answers : forall before after, events = before ++ after ->
      SameAnswers ops₁ ops₂ (afterRun ops₁ sst₁ address crbs before)
        (afterRun ops₂ sst₂ address crbs before)) :
    (forall before after, events = before ++ after ->
      Alike (afterRun ops₁ sst₁ address crbs before) (afterRun ops₂ sst₂ address crbs before)) ∧
    (forall before event after, events = before ++ event :: after ->
      MovesOn (afterRun ops₁ sst₁ address crbs before)
        (afterRun ops₁ sst₁ address crbs (before ++ [event])) ->
      (afterRun ops₁ sst₁ address crbs (before ++ [event])).crbs =
        (afterRun ops₂ sst₂ address crbs (before ++ [event])).crbs) := by
  have next : forall before event after, events = before ++ event :: after ->
      events = (before ++ [event]) ++ after := by
    intro before event after split
    rw [split, List.append_assoc, List.singleton_append]
  have alike : forall before after, events = before ++ after ->
      Alike (afterRun ops₁ sst₁ address crbs before) (afterRun ops₂ sst₂ address crbs before) := by
    intro before
    induction before using List.reverseRecOn with
    | nil => exact fun _ _ => boot_alike ops₁ ops₂ sst₁ sst₂ address crbs
    | append_singleton done event inductionHypothesis =>
        intro after split
        have here := answers (done ++ [event]) after split
        rw [List.append_assoc, List.singleton_append] at split
        rw [afterRun_snoc, afterRun_snoc] at here ⊢
        exact advance_alike responds₁ responds₂ (inductionHypothesis _ split) event
          (answers done _ split) here
  refine ⟨alike, fun before event after split moves => ?_⟩
  have here := answers (before ++ [event]) after (next before event after split)
  rw [afterRun_snoc, afterRun_snoc] at here ⊢
  rw [afterRun_snoc] at moves
  exact advance_identical (alike before _ split) event (answers before _ split) here moves

theorem responding_responds (response : U8) : (responding response).Responds where
  only := responding_writesOnlyBuffer response
  answers := fun _ _ _ failure => absurd rfl failure

/-- A command is executed, and the TPM goes idle. -/
def session : List Event :=
  execution ++ [.write (.controls 0 2 0), .request (compose 1 .start 0 1)]

instance {First Second : Type} (ops₁ : TpmSstOps First) (ops₂ : TpmSstOps Second) (left : Machine First)
    (right : Machine Second) : Decidable (SameAnswers ops₁ ops₂ left right) :=
  inferInstanceAs (Decidable (_ ∧ _))

/-- The two runs see different responses, and end with the same blocks. -/
theorem session_confined :
    ((afterRun (responding 1) () 0 (fun _ => .zero) execution).crbs 1).crbDataBuffer 0 = 1 ∧
      ((afterRun (responding 2) () 0 (fun _ => .zero) execution).crbs 1).crbDataBuffer 0 = 2 ∧
      Alike (afterRun (responding 1) () 0 (fun _ => .zero) execution)
        (afterRun (responding 2) () 0 (fun _ => .zero) execution) ∧
      (afterRun (responding 1) () 0 (fun _ => .zero) session).crbs =
        (afterRun (responding 2) () 0 (fun _ => .zero) session).crbs := by
  have confined := responses_confined (responding_responds 1) (responding_responds 2) () () 0
    (fun _ => .zero) session (forall_prefix_of_forall_take (by decide +kernel))
  refine ⟨by decide +kernel, by decide +kernel, confined.1 execution _ rfl, ?_⟩
  refine confined.2 (session.take 7) (.request (compose 1 .start 0 1)) [] rfl ?_
  exact ⟨⟨.goIdle, 1, .ok, some 1, _⟩, rfl, rfl, by decide⟩

end Tpm
end SecureServices
