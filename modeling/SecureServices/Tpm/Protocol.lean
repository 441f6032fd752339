import SecureServices.Tpm.Undisturbed
import SecureServices.Tpm.Backend

namespace SecureServices
namespace Tpm

open Library Ffa

/-!
# The service and the TPM

The service knows which locality is active and whether a command may be sent.
The TPM knows the same in its own registers.  Neither asks the other: the
service concludes it from the codes that the library has returned.

What the library relies on is a protocol of the TPM, stated with its registers
and its clock.  With a TPM that keeps to it the two never disagree about the
owner, and they disagree about the idle state only if a locality was given up
in the middle of a command.
-/

/-- A TPM that completes every request that the owner of a locality can make,
before the clock gives up. -/
structure TpmProtocol {Device : Type} (tpm : ExternalTpm Device) (isCrbInterface : Bool) where
  /-- The locality that has the TPM, and whether the TPM is idle. -/
  Held : Option Locality -> Bool -> Device -> Prop
  /-- The TPM waits for the first byte of a command. -/
  Fresh : Locality -> Device -> Prop
  calm : forall locality idle, Undisturbed tpm locality (Held (some locality) idle)
  localityRequest : forall owner idle locality device, owner = none ∨ owner = some locality ->
    Held owner idle device ->
    Completes tpm locality isCrbInterface (Operation.localityRequest.handshake isCrbInterface)
      (Held (some locality) idle) device
  /-- A TPM that is given up in the middle of a command may go idle. -/
  localityRelinquish : forall idle locality device, Held (some locality) idle device ->
    Completes tpm locality isCrbInterface (Operation.localityRelinquish.handshake isCrbInterface)
      (fun after => exists rests, (idle = true -> rests = true) ∧ Held none rests after) device
  goIdle : forall idle locality device, Held (some locality) idle device ->
    Completes tpm locality isCrbInterface (Operation.goIdle.handshake isCrbInterface)
      (Held (some locality) true) device
  cmdReady : forall idle locality device, Held (some locality) idle device ->
    Completes tpm locality isCrbInterface (Operation.cmdReady.handshake isCrbInterface)
      (fun after => Held (some locality) false after ∧ Fresh locality after) device

/-! ## A TPM -/

/-- Who has the TPM, and whether it is idle. -/
structure Chip where
  owner : Option Locality
  idle : Bool
deriving DecidableEq

/-- A TPM with a CRB interface that does everything at once. -/
def chipTpm : ExternalTpm Chip where
  read := fun chip locality port =>
    match port with
    | .interfaceId => (1, chip)
    | .localityStatus => (if chip.owner = some locality then ptpCrbLocalityStatusGranted else 0, chip)
    | .crbControlStatus => (if chip.idle then ptpCrbControlAreaStatusTpmIdle else 0, chip)
    | .crbDataBuffer index => ((sampleResponse.getD index 0).setWidth 32, chip)
    | _ => (0, chip)
  write := fun chip locality port value =>
    match port with
    | .localityControl =>
        if value = ptpCrbLocalityControlRequestAccess then
          { chip with owner := chip.owner.or (some locality) }
        else if chip.owner = some locality then { chip with owner := none }
        else chip
    | .crbControlRequest => { chip with idle := value == ptpCrbControlAreaRequestGoIdle }
    | _ => chip
  startTimeout := fun chip _ => (2, chip)
  yield := fun chip => (true, chip)

/-- A value that is shown at once. -/
theorem Answers.at_once {Device : Type} {tpm : ExternalTpm Device} {locality : Locality} {isCrbInterface : Bool}
    {awaited : Awaited} {Done : Device -> Prop} {device : Device}
    (met : awaited.isMet isCrbInterface (tpm.read device locality awaited.port).1 = true)
    (done : Done (tpm.read device locality awaited.port).2) (polls : Nat) :
    Answers tpm locality isCrbInterface awaited Done polls device := by
  cases polls with
  | zero => exact ⟨met, done⟩
  | succ polls =>
      unfold Answers
      dsimp only
      rw [if_pos met]
      exact done

def chipProtocol : TpmProtocol chipTpm true where
  Held := fun owner idle chip => chip = ⟨owner, idle⟩
  Fresh := fun _ _ => True
  calm := by
    intro locality idle
    constructor
    · rintro _ port _ rfl
      cases port <;> rfl
    · rintro _ port value written rfl
      cases port <;> first | rfl | cases written
    · rintro _ _ rfl
      rfl
    · rintro _ rfl
      exact ⟨rfl, rfl⟩
  localityRequest := by
    rintro owner idle locality _ free rfl
    have taken : owner.or (some locality) = some locality := by
      rcases free with rfl | rfl <;> rfl
    have granted : (⟨.localityStatus, ptpCrbLocalityStatusGranted, 0, ptpTimeoutA⟩ : Awaited).isMet true
        (if owner.or (some locality) = some locality then ptpCrbLocalityStatusGranted else 0) = true := by
      rw [if_pos taken]
      decide
    apply Answers.at_once
    · exact granted
    · exact congrArg (fun owner => Chip.mk owner idle) taken
  localityRelinquish := by
    rintro idle locality _ rfl
    have given : chipTpm.write ⟨some locality, idle⟩ locality .localityControl ptpCrbLocalityControlRelinquish =
        ⟨none, idle⟩ := if_pos rfl
    have free : (⟨.localityStatus, 0, ptpCrbLocalityStatusGranted, ptpTimeoutA⟩ : Awaited).isMet true 0 = true := by
      decide
    unfold Completes
    change AnswersAll chipTpm locality true _ _ (chipTpm.write _ locality .localityControl
      ptpCrbLocalityControlRelinquish)
    rw [given]
    apply Answers.at_once
    · exact free
    · exact ⟨idle, id, rfl⟩
  goIdle := by
    rintro idle locality _ rfl
    have accepted : (⟨.crbControlRequest, 0, ptpCrbControlAreaRequestGoIdle, ptpTimeoutC⟩ : Awaited).isMet true 0 =
        true := by decide
    have resting : (⟨.crbControlStatus, ptpCrbControlAreaStatusTpmIdle, 0, ptpTimeoutC⟩ : Awaited).isMet true
        ptpCrbControlAreaStatusTpmIdle = true := by decide
    apply Answers.at_once
    · exact accepted
    · apply Answers.at_once
      · exact resting
      · rfl
  cmdReady := by
    rintro idle locality _ rfl
    have accepted : (⟨.crbControlRequest, 0, ptpCrbControlAreaRequestCommandReady, ptpTimeoutC⟩ : Awaited).isMet
        true 0 = true := by decide
    have ready : (⟨.crbControlStatus, 0, ptpCrbControlAreaStatusTpmIdle, ptpTimeoutC⟩ : Awaited).isMet true 0 =
        true := by decide
    apply Answers.at_once
    · exact accepted
    · apply Answers.at_once
      · exact ready
      · exact ⟨rfl, trivial⟩

section Tracking

variable {Device : Type} {tpm : ExternalTpm Device} {isCrbInterface : Bool}

/-! ## The library on such a TPM -/

theorem Driver.request_completes {driver : Driver Device} (interface : driver.isCrbInterface = isCrbInterface)
    {locality : Locality} {operation : Operation} {Done : Device -> Prop}
    (completes : Completes tpm locality isCrbInterface (operation.handshake isCrbInterface) Done driver.device) :
    exists device, Done device ∧
      driver.request (routineOf tpm locality driver.isCrbInterface operation) = (.ok, { driver with device }) := by
  subst interface
  have bench : Completes tpm locality driver.isCrbInterface (operation.handshake driver.isCrbInterface) Done
      (Bench.initial PtpCrbRegisters.zero driver.device).device := completes
  rcases (routineOf_completes bench).returns with ⟨_, after, outcome, rfl, done⟩
  refine ⟨after.device, done, ?_⟩
  rw [request, run, outcome]

/-- Only a fault ends `start` without a code. -/
theorem start_faults (host : Host) (locality : Locality) (bench : Bench Device) :
    (start host tpm locality isCrbInterface).Ensures (fun _ _ => True)
      (fun reason _ => exists fault, reason = .fault fault) bench := by
  rw [start, ensures_returning]
  apply Action.Ensures.always.mono
  · exact fun _ _ holds => holds
  · rintro (code | fault) _ _
    · exact trivial
    · exact ⟨fault, rfl⟩

/-- `start` returns some code, and does not disturb the TPM. -/
theorem Driver.start_undisturbed {driver : Driver Device} {locality : Locality} {Good : Device -> Prop}
    (calm : Undisturbed tpm locality Good) (good : Good driver.device) (crb : PtpCrbRegisters) :
    exists code written device, Good device ∧
      driver.run crb (start .quiet tpm locality driver.isCrbInterface) = (code, written, { driver with device }) := by
  have keeps := start_keeps calm .quiet driver.isCrbInterface (.initial crb driver.device) good
  have safe := start_safe .quiet tpm locality driver.isCrbInterface crb driver.device
  dsimp only at safe
  rcases (start .quiet tpm locality driver.isCrbInterface).outcome_cases (.initial crb driver.device) with
    ⟨code, after, outcome⟩ | ⟨reason, after, outcome⟩
  · refine ⟨code, after.crb, after.device, keeps.1 code after outcome, ?_⟩
    rw [run, outcome]
  · rw [outcome] at safe
    rcases (start_faults .quiet locality _).2 reason after outcome with ⟨fault, rfl⟩
    cases fault with
    | outOfBounds => exact absurd rfl safe.inside
    | yieldRefused => exact absurd rfl (keeps.2 _ after outcome).1

/-! ## The service on such a library -/

/-- What an operation makes of the idle state of the TPM. -/
def Operation.Leaves (operation : Operation) (idle rests : Bool) : Prop :=
  match operation with
  | .goIdle => rests = true
  | .cmdReady => rests = false
  | .start | .localityRequest => rests = idle
  | .localityRelinquish => idle = true -> rests = true

variable (protocol : TpmProtocol tpm isCrbInterface)

/-- The service and the TPM agree about the owner. -/
structure TpmProtocol.Tracks (machine : Machine (Driver Device)) (idle : Bool) : Prop where
  running : machine.sst.panicked = false
  interface : machine.sst.isCrbInterface = isCrbInterface
  held : protocol.Held machine.service.activeLocality idle machine.sst.device

theorem invoke_control (machine : Machine (Driver Device)) {operation : Operation}
    (control : operation ≠ .start) (locality : Locality) :
    invoke (Driver.ops tpm) machine operation locality =
      let (code, sst) := machine.sst.request (routineOf tpm locality machine.sst.isCrbInterface operation)
      (code, machine.returned operation locality code sst) := by
  cases operation with
  | start => exact absurd rfl control
  | goIdle | cmdReady | localityRequest | localityRelinquish => rfl

/-- A request that the TPM completes, as the service sees it. -/
theorem TpmProtocol.Tracks.completed {machine : Machine (Driver Device)} {idle : Bool}
    (tracks : protocol.Tracks machine idle) {operation : Operation} (control : operation ≠ .start)
    {locality : Locality} {Done : Device -> Prop}
    (completes : Completes tpm locality isCrbInterface (operation.handshake isCrbInterface) Done
      machine.sst.device) :
    exists device, Done device ∧ invoke (Driver.ops tpm) machine operation locality =
      (.ok, machine.returned operation locality .ok { machine.sst with device }) := by
  rcases Driver.request_completes tracks.interface completes with ⟨device, done, outcome⟩
  refine ⟨device, done, ?_⟩
  rw [invoke_control machine control, outcome]

/-- A call that is not a transaction succeeds, and the TPM does its part. -/
theorem TpmProtocol.Tracks.control {machine : Machine (Driver Device)} {idle : Bool}
    (tracks : protocol.Tracks machine idle) {operation : Operation} (control : operation ≠ .start)
    {locality : Locality} {bypass : Bool} (sound : (Plan.call operation locality).Sound machine.service bypass) :
    exists device rests, protocol.Held (operation.owner locality machine.service.activeLocality) rests device ∧
      operation.Leaves idle rests ∧ invoke (Driver.ops tpm) machine operation locality =
        (.ok, machine.returned operation locality .ok { machine.sst with device }) := by
  have held := tracks.held
  cases operation with
  | goIdle =>
      rw [sound.1] at held
      rcases tracks.completed protocol control (protocol.goIdle idle locality _ held) with ⟨device, done, outcome⟩
      rw [Operation.owner, sound.1]
      exact ⟨device, true, done, rfl, outcome⟩
  | cmdReady =>
      rw [sound.1] at held
      rcases tracks.completed protocol control (protocol.cmdReady idle locality _ held) with
        ⟨device, done, outcome⟩
      rw [Operation.owner, sound.1]
      exact ⟨device, false, done.1, rfl, outcome⟩
  | start => exact absurd rfl control
  | localityRequest =>
      rcases tracks.completed protocol control (protocol.localityRequest _ idle locality _ sound held) with
        ⟨device, done, outcome⟩
      exact ⟨device, idle, done, rfl, outcome⟩
  | localityRelinquish =>
      change machine.service.activeLocality = some locality at sound
      rw [sound] at held
      rcases tracks.completed protocol control (protocol.localityRelinquish idle locality _ held) with
        ⟨device, ⟨rests, still, done⟩, outcome⟩
      exact ⟨device, rests, done, still, outcome⟩

/-- A transaction leaves the owner and the idle state alone, whatever its
result. -/
theorem TpmProtocol.Tracks.transact {machine : Machine (Driver Device)} {idle : Bool}
    (tracks : protocol.Tracks machine idle) {locality : Locality}
    (owned : machine.service.activeLocality = some locality) :
    exists code written device, protocol.Held (some locality) idle device ∧
      (machine.sst.run (machine.crbs locality) (start .quiet tpm locality machine.sst.isCrbInterface) =
        (code, written, { machine.sst with device })) ∧
      invoke (Driver.ops tpm) machine .start locality =
        (code, (machine.returned .start locality code { machine.sst with device }).setCrb locality written) := by
  have held := tracks.held
  rw [owned] at held
  rcases Driver.start_undisturbed (protocol.calm locality idle) held (machine.crbs locality) with
    ⟨code, written, device, still, outcome⟩
  have called : (Driver.ops tpm).start machine.sst locality (machine.crbs locality) =
      (code, written, { machine.sst with device }) := outcome
  refine ⟨code, written, device, still, outcome, ?_⟩
  rw [invoke, callStart, called]

@[simp] theorem Machine.succeeded_sst {Sst : Type} (machine : Machine Sst) (operation : Operation)
    (locality : Locality) : (machine.succeeded operation locality).sst = machine.sst := by
  have wiped : (machine.wipe locality).sst = machine.sst := by
    unfold Machine.wipe
    split <;> rfl
  cases operation with
  | goIdle | cmdReady => exact wiped
  | start | localityRequest | localityRelinquish => rfl

theorem attempt_sst {Sst : Type} (ops : TpmSstOps Sst) (machine : Machine Sst) (operation : Operation)
    (locality : Locality) :
    (attempt ops machine operation locality).2.sst = (invoke ops machine operation locality).2.sst := by
  unfold attempt onOk
  split
  · exact Machine.succeeded_sst _ operation locality
  · rfl

/-- What an attempt does to the service, the library and the TPM. -/
theorem TpmProtocol.Tracks.attempted {machine : Machine (Driver Device)} {idle : Bool}
    (tracks : protocol.Tracks machine idle) {operation : Operation} {locality : Locality} {bypass : Bool}
    (sound : (Plan.call operation locality).Sound machine.service bypass) :
    exists rests, protocol.Tracks (attempt (Driver.ops tpm) machine operation locality).2 rests ∧
      operation.Leaves idle rests ∧
      (operation ≠ .start -> (attempt (Driver.ops tpm) machine operation locality).1 = .ok) := by
  have service := attempt_service (Driver.ops tpm) machine operation locality
  have sst := attempt_sst (Driver.ops tpm) machine operation locality
  have status := attempt_fst (Driver.ops tpm) machine operation locality
  by_cases transaction : operation = .start
  · subst transaction
    rcases tracks.transact protocol sound.1 with ⟨code, written, device, still, _, outcome⟩
    rw [outcome] at sst
    refine ⟨idle, ⟨?_, ?_, ?_⟩, rfl, fun other => absurd rfl other⟩
    · rw [sst]
      exact tracks.running
    · rw [sst]
      exact tracks.interface
    · rw [sst, service]
      split
      · exact sound.1.symm ▸ still
      · exact sound.1.symm ▸ still
  · rcases tracks.control protocol transaction sound with ⟨device, rests, done, leaves, outcome⟩
    rw [outcome] at sst status
    rw [status, if_pos rfl] at service
    refine ⟨rests, ⟨?_, ?_, ?_⟩, leaves, fun _ => status⟩
    · rw [sst]
      exact tracks.running
    · rw [sst]
      exact tracks.interface
    · rw [sst, service]
      exact done

/-- The active locality is only given up while the command machine is idle. -/
def GivesUpIdle {Sst : Type} (ops : TpmSstOps Sst) (machine : Machine Sst) : Event -> Prop
  | .request message => forall locality, machine.planFor ops message = .call .localityRelinquish locality ->
      machine.service.currentState = .idle
  | .write _ => True

/-- The service has followed the TPM so far. -/
structure TpmProtocol.Follows (machine : Machine (Driver Device)) (idle : Bool) : Prop where
  tracks : protocol.Tracks machine idle
  rests : machine.service.currentState = .idle -> idle = true
  granted : forall call, call ∈ machine.calls -> call.operation ≠ .start -> call.result = .ok

/-- Cleaning the registers changes nothing of it. -/
theorem TpmProtocol.Follows.clean {machine : Machine (Driver Device)} {idle : Bool}
    (follows : protocol.Follows machine idle) : protocol.Follows (cleanInternalCrb machine) idle := by
  have tracks := follows.tracks
  refine ⟨⟨?_, ?_, ?_⟩, ?_, ?_⟩
  all_goals simp only [cleanInternalCrb_sst, cleanInternalCrb_service, cleanInternalCrb_calls]
  · exact tracks.running
  · exact tracks.interface
  · exact tracks.held
  · exact follows.rests
  · exact follows.granted

theorem Operation.Leaves.rests {operation : Operation} {idle rests bypass : Bool} {service : TpmService}
    {locality : Locality} (leaves : operation.Leaves idle rests)
    (sound : (Plan.call operation locality).Sound service bypass)
    (agrees : service.currentState = .idle -> idle = true) {success : Prop} [Decidable success]
    (control : operation ≠ .start -> success)
    (now : (if success then operation.target service.currentState else service.currentState) = .idle) :
    rests = true := by
  cases operation with
  | goIdle => exact leaves
  | cmdReady =>
      rw [if_pos (control (by decide))] at now
      cases now
  | start =>
      have moving : service.currentState ≠ .idle := by
        intro still
        have allowed := sound.2
        rw [still] at allowed
        exact allowed
      split at now
      · cases now
      · exact absurd now moving
  | localityRequest =>
      rw [if_pos (control (by decide))] at now
      exact leaves.trans (agrees now)
  | localityRelinquish =>
      rw [if_pos (control (by decide))] at now
      exact leaves (agrees now)

theorem Operation.Leaves.idle {operation : Operation} {idle rests bypass : Bool} {service : TpmService}
    {locality : Locality} (leaves : operation.Leaves idle rests)
    (sound : (Plan.call operation locality).Sound service bypass)
    (agrees : idle = true -> service.currentState = .idle) {success : Prop} [Decidable success]
    (control : operation ≠ .start -> success)
    (allowed : operation = .localityRelinquish -> service.currentState = .idle) (resting : rests = true) :
    (if success then operation.target service.currentState else service.currentState) = .idle := by
  cases operation with
  | goIdle =>
      rw [if_pos (control (by decide))]
      rfl
  | cmdReady =>
      cases leaves
      cases resting
  | start =>
      have still := agrees (leaves.symm.trans resting)
      have refused := sound.2
      rw [still] at refused
      exact refused.elim
  | localityRequest =>
      rw [if_pos (control (by decide))]
      exact agrees (leaves.symm.trans resting)
  | localityRelinquish =>
      rw [if_pos (control (by decide))]
      exact allowed rfl

/-- One event. -/
theorem TpmProtocol.Follows.advanced {machine : Machine (Driver Device)} {idle : Bool}
    (follows : protocol.Follows machine idle) (event : Event) :
    exists rests, protocol.Follows (advance (Driver.ops tpm) machine event) rests ∧
      ((idle = true -> machine.service.currentState = .idle) -> GivesUpIdle (Driver.ops tpm) machine event ->
        rests = true -> (advance (Driver.ops tpm) machine event).service.currentState = .idle) := by
  cases event with
  | write bits =>
      have tracks := follows.tracks
      exact ⟨idle, ⟨⟨tracks.running, tracks.interface, tracks.held⟩, follows.rests, follows.granted⟩,
        fun agrees _ resting => agrees resting⟩
  | request message =>
      rw [advance_request]
      have sound := planFor_sound (Driver.ops tpm) machine message
      cases planned : machine.planFor (Driver.ops tpm) message with
      | answer status => exact ⟨idle, follows, fun agrees _ resting => agrees resting⟩
      | refuse status =>
          refine ⟨idle, follows.clean protocol, fun agrees _ resting => ?_⟩
          rw [perform, cleanInternalCrb_service]
          exact agrees resting
      | manage locality state =>
          have tracks := follows.tracks
          exact ⟨idle, ⟨⟨tracks.running, tracks.interface, tracks.held⟩, follows.rests, follows.granted⟩,
            fun agrees _ resting => agrees resting⟩
      | register registered =>
          have tracks := follows.tracks
          exact ⟨idle, ⟨⟨tracks.running, tracks.interface, tracks.held⟩, follows.rests, follows.granted⟩,
            fun agrees _ resting => agrees resting⟩
      | call operation locality =>
          rw [planned] at sound
          rcases follows.tracks.attempted protocol sound with ⟨rests, tracks, leaves, control⟩
          have state : (attempt (Driver.ops tpm) machine operation locality).2.service.currentState =
              if (attempt (Driver.ops tpm) machine operation locality).1 = .ok then
                operation.target machine.service.currentState else machine.service.currentState := by
            rw [attempt_service]
            split <;> rfl
          refine ⟨rests, TpmProtocol.Follows.clean protocol ⟨tracks, ?_, ?_⟩, ?_⟩
          · intro now
            rw [state] at now
            exact leaves.rests sound follows.rests control now
          · rw [attempt_calls]
            intro call member different
            rcases List.mem_append.mp member with earlier | last
            · exact follows.granted call earlier different
            · rw [List.mem_singleton.mp last] at different ⊢
              exact control different
          · intro agrees allowed resting
            rw [perform, cleanInternalCrb_service, state]
            refine leaves.idle sound agrees control ?_ resting
            rintro rfl
            exact allowed locality planned

/-- A run. -/
theorem TpmProtocol.Follows.ran {machine : Machine (Driver Device)} {idle : Bool}
    (follows : protocol.Follows machine idle) (events : List Event) :
    exists rests, protocol.Follows (events.foldl (advance (Driver.ops tpm)) machine) rests ∧
      ((idle = true -> machine.service.currentState = .idle) ->
        Along (total (advance (Driver.ops tpm))) (GivesUpIdle (Driver.ops tpm)) machine events ->
        rests = true -> (events.foldl (advance (Driver.ops tpm)) machine).service.currentState = .idle) := by
  induction events generalizing machine idle with
  | nil => exact ⟨idle, follows, fun agrees _ resting => agrees resting⟩
  | cons event rest inductionHypothesis =>
      rcases follows.advanced protocol event with ⟨middle, next, agreed⟩
      rcases inductionHypothesis next with ⟨rests, last, agreed'⟩
      exact ⟨rests, last, fun agrees along => agreed' (agreed agrees along.1) (along.2 _ rfl)⟩

theorem boot_sst {Sst : Type} (ops : TpmSstOps Sst) (sst : Sst) (address : U64)
    (crbs : Locality -> PtpCrbRegisters) : (boot ops sst address crbs).sst = ops.init sst := by
  have same : forall (localities : List Locality) (machine : Machine Sst),
      (localities.foldl initInternalCrb machine).sst = machine.sst := by
    intro localities
    induction localities with
    | nil => exact fun _ => rfl
    | cons locality rest inductionHypothesis => exact fun machine => inductionHypothesis _
  exact congrArg ops.init (same _ _)

/-- What the library finds when it is initialized: the kind of TPM that the
protocol is for, which nobody has and which is idle. -/
structure TpmProtocol.Begins (driver : Driver Device) : Prop where
  running : driver.panicked = false
  identified : ((tpm.read driver.device 0 .interfaceId).1 &&& interfaceTypeMask == 1) = isCrbInterface
  resting : protocol.Held none true (tpm.read driver.device 0 .interfaceId).2

theorem TpmProtocol.Begins.booted {driver : Driver Device} (begins : protocol.Begins driver) (address : U64)
    (crbs : Locality -> PtpCrbRegisters) :
    protocol.Follows (boot (Driver.ops tpm) driver address crbs) true := by
  have sst := boot_sst (Driver.ops tpm) driver address crbs
  have calls : (boot (Driver.ops tpm) driver address crbs).calls = [] := (init_spec _ _).2.2.2
  refine ⟨⟨?_, ?_, ?_⟩, fun _ => rfl, ?_⟩
  · rw [sst]
    exact begins.running
  · rw [sst]
    exact begins.identified
  · rw [sst]
    exact begins.resting
  · rw [calls]
    exact fun _ impossible => absurd impossible List.not_mem_nil

/-- A library that has not been initialized. -/
def chipDriver : Driver Chip := ⟨false, false, ⟨none, true⟩, false⟩

theorem chip_begins : chipProtocol.Begins chipDriver := ⟨rfl, rfl, rfl⟩

end Tracking

end Tpm
end SecureServices
