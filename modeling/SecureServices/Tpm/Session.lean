import SecureServices.Tpm.Protocol

namespace SecureServices
namespace Tpm

open Library Ffa

/-!
# A command from a host to the TPM and back

A host takes a locality, makes the TPM ready, has it execute a command, and
leaves the TPM as it was.  Each of these is a write to the registers and a
request to the service, which calls the library, which drives the TPM.  With a
TPM that keeps to its protocol such a host is served, and so is the next one.
-/


/-- What the host has left in the registers, and the request that it then
sends. -/
structure Submission where
  crbs : Locality -> PtpCrbRegisters
  message : MsgSendDirectReq2

/-- A host that takes a locality, has one command executed, and leaves the TPM
as it was.  It may write whatever it likes to the other registers. -/
structure Session where
  locality : Locality
  request : Submission
  requests : Starts request.message tpm2FfaStartFuncQualifierLocality locality
  keeps : hasBits (request.crbs locality).localityControl ptpCrbLocalityControlRelinquish = false
  takes : hasBits (request.crbs locality).localityControl ptpCrbLocalityControlRequestAccess = true
  ready : Submission
  readies : Starts ready.message tpm2FfaStartFuncQualifierCommand locality
  prepares : hasBits (ready.crbs locality).crbControlRequest ptpCrbControlAreaRequestCommandReady = true
  start : Submission
  starts : Starts start.message tpm2FfaStartFuncQualifierCommand locality
  stays : hasBits (start.crbs locality).crbControlRequest ptpCrbControlAreaRequestGoIdle = false
  prepared : hasBits (start.crbs locality).crbControlRequest ptpCrbControlAreaRequestCommandReady = false
  executes : hasBits (start.crbs locality).crbControlStart ptpCrbControlStart = true
  accepted : Accepted .quiet (start.crbs locality)
  room : (start.crbs locality).crbControlResponseSize.toNat = crbDataBufferSize
  idle : Submission
  idles : Starts idle.message tpm2FfaStartFuncQualifierCommand locality
  rests : hasBits (idle.crbs locality).crbControlRequest ptpCrbControlAreaRequestGoIdle = true
  relinquish : Submission
  relinquishes : Starts relinquish.message tpm2FfaStartFuncQualifierLocality locality
  leaves : hasBits (relinquish.crbs locality).localityControl ptpCrbLocalityControlRelinquish = true

section Sessions

/-- The machine when the host has written. -/
def Machine.withCrbs {Sst : Type} (machine : Machine Sst) (crbs : Locality -> PtpCrbRegisters) : Machine Sst :=
  { machine with crbs }

def submit {Sst : Type} (ops : TpmSstOps Sst) (machine : Machine Sst) (submission : Submission) :
    MsgSendDirectResp2 × Machine Sst :=
  ffaMsgSendDirectReq2 ops (machine.withCrbs submission.crbs) submission.message

/-- The statuses that the host gets, and what it finds in the data buffer when
the command has been executed. -/
def attend {Sst : Type} (ops : TpmSstOps Sst) (machine : Machine Sst) (session : Session) :
    (List U64 × List U8) × Machine Sst :=
  let (requested, machine) := submit ops machine session.request
  let (readied, machine) := submit ops machine session.ready
  let (started, executed) := submit ops machine session.start
  let (idled, machine) := submit ops executed session.idle
  let (relinquished, machine) := submit ops machine session.relinquish
  (([requested, readied, started, idled, relinquished].map responseStatus,
    (executed.crbs session.locality).bytes), machine)

/-- One session after the other. -/
def attendAll {Sst : Type} (ops : TpmSstOps Sst) : Machine Sst -> List Session -> List (List U64 × List U8)
  | _, [] => []
  | machine, session :: rest =>
      let (found, after) := attend ops machine session
      found :: attendAll ops after rest

/-- What the host should get from a TPM with these responses. -/
def Session.served (respond : List U8 -> List U8) (session : Session) : List U64 × List U8 :=
  let crb := session.start.crbs session.locality
  (List.replicate 5 TpmStatus.ok.toU64, (crb.withResponse (respond crb.command)).bytes)

/-- The TPM executes every command, and responds with a packet. -/
structure TpmProtocol.Executes {Device : Type} {tpm : ExternalTpm Device} {isCrbInterface : Bool}
    (protocol : TpmProtocol tpm isCrbInterface) (respond : List U8 -> List U8) : Prop where
  packets : forall command, IsPacket command -> IsPacket (respond command)
  executes : forall locality command, IsPacket command -> exists conduct : Conduct Device,
    conduct.Kept tpm locality command isCrbInterface ∧ conduct.Answers (respond command) ∧
      forall device, protocol.Fresh locality device -> conduct.Ready 0 device

/-! ### Plans -/

section Plans

variable {Sst : Type} {ops : TpmSstOps Sst} {machine : Machine Sst} {message : MsgSendDirectReq2}
  {locality : Locality}

theorem planFor_locality (starts : Starts message tpm2FfaStartFuncQualifierLocality locality)
    (isOpen : machine.service.localityStates locality = .opened) :
    machine.planFor ops message = localityPlan machine.service machine.crbs locality := by
  rcases starts with ⟨selected, checked, qualifier⟩
  simp only [Machine.planFor, plan, selected, startPlan, checked, isOpen, qualifier]
  rw [if_neg (by decide), if_neg (by decide), if_pos trivial]

theorem planFor_command (starts : Starts message tpm2FfaStartFuncQualifierCommand locality)
    (isOpen : machine.service.localityStates locality = .opened)
    (owned : machine.service.activeLocality = some locality) :
    machine.planFor ops message =
      commandPlan machine.service machine.crbs (ops.isIdleBypassSupported machine.sst) locality := by
  rcases starts with ⟨selected, checked, qualifier⟩
  simp only [Machine.planFor, plan, selected, startPlan, checked, isOpen, qualifier]
  rw [if_neg (by decide), if_pos trivial, if_pos owned]

theorem localityPlan_request {service : TpmService} {crbs : Locality -> PtpCrbRegisters}
    (free : service.activeLocality = none)
    (keeps : hasBits (crbs locality).localityControl ptpCrbLocalityControlRelinquish = false)
    (takes : hasBits (crbs locality).localityControl ptpCrbLocalityControlRequestAccess = true) :
    localityPlan service crbs locality = .call .localityRequest locality := by
  rw [localityPlan, keeps, takes, if_neg (by decide), if_pos rfl, if_neg]
  exact fun other => other.1 free

theorem localityPlan_relinquish {service : TpmService} {crbs : Locality -> PtpCrbRegisters}
    (owned : service.activeLocality = some locality)
    (leaves : hasBits (crbs locality).localityControl ptpCrbLocalityControlRelinquish = true) :
    localityPlan service crbs locality = .call .localityRelinquish locality := by
  rw [localityPlan, if_pos leaves, if_neg]
  exact fun other => other owned

theorem hasBits_zero (mask : U32) : hasBits 0 mask = false := by
  simp [hasBits]

/-- A command with a bit set is looked at. -/
theorem commandPlan_of_requested {operation : Operation} {bypass : Bool}
    (requested : requestedOperation machine.service.currentState (machine.crbs locality) bypass = some operation) :
    commandPlan machine.service machine.crbs bypass locality = .call operation locality := by
  rw [commandPlan, requested, if_neg]
  rintro ⟨request, start⟩
  unfold requestedOperation at requested
  rw [request, start] at requested
  simp only [hasBits_zero] at requested
  cases state : machine.service.currentState <;> rw [state] at requested <;> cases requested

/-- A request that is planned as a call. -/
theorem submit_call {submission : Submission} {operation : Operation}
    (planned : (machine.withCrbs submission.crbs).planFor ops submission.message = .call operation locality) :
    responseStatus (submit ops machine submission).1 =
        (convertErrorToStatus (attempt ops (machine.withCrbs submission.crbs) operation locality).1).toU64 ∧
      (submit ops machine submission).2 =
        cleanInternalCrb (attempt ops (machine.withCrbs submission.crbs) operation locality).2 := by
  constructor
  · rw [submit, responseStatus_eq, planned]
    rfl
  · have stepped := step_request ops (machine.withCrbs submission.crbs) submission.message
    rw [planned] at stepped
    exact stepped

end Plans

/-! ### The five requests -/

section Requests

variable {Device : Type} {tpm : ExternalTpm Device} {isCrbInterface : Bool}
  (protocol : TpmProtocol tpm isCrbInterface) {machine : Machine (Driver Device)} {idle : Bool}
  {submission : Submission} {locality : Locality}

/-- A request that is planned as a call, and completed by the TPM. -/
theorem TpmProtocol.Tracks.submitted (tracks : protocol.Tracks machine idle) {operation : Operation}
    (control : operation ≠ .start) {Done : Device -> Prop}
    (planned : (machine.withCrbs submission.crbs).planFor (Driver.ops tpm) submission.message =
      .call operation locality)
    (completes : Completes tpm locality isCrbInterface (operation.handshake isCrbInterface) Done
      machine.sst.device) :
    exists device, Done device ∧
      responseStatus (submit (Driver.ops tpm) machine submission).1 = TpmStatus.ok.toU64 ∧
      (submit (Driver.ops tpm) machine submission).2.sst = { machine.sst with device } ∧
      (submit (Driver.ops tpm) machine submission).2.service =
        { machine.service with
          currentState := operation.target machine.service.currentState
          activeLocality := operation.owner locality machine.service.activeLocality } := by
  have written : protocol.Tracks (machine.withCrbs submission.crbs) idle :=
    ⟨tracks.running, tracks.interface, tracks.held⟩
  rcases written.completed protocol control completes with ⟨device, done, outcome⟩
  rcases submit_call planned with ⟨status, after⟩
  have succeeded : (attempt (Driver.ops tpm) (machine.withCrbs submission.crbs) operation locality).1 = .ok := by
    rw [attempt_fst, outcome]
  refine ⟨device, done, ?_, ?_, ?_⟩
  · rw [status, succeeded]
    rfl
  · rw [after, cleanInternalCrb_sst, attempt_sst, outcome]
    rfl
  · rw [after, cleanInternalCrb_service, attempt_service, if_pos succeeded]
    rfl

/-- A transaction that the TPM executes. -/
theorem TpmProtocol.Tracks.executed {respond : List U8 -> List U8} (executes : protocol.Executes respond)
    (tracks : protocol.Tracks machine idle) (owned : machine.service.activeLocality = some locality)
    (fresh : protocol.Fresh locality machine.sst.device)
    (planned : (machine.withCrbs submission.crbs).planFor (Driver.ops tpm) submission.message =
      .call .start locality)
    (accepted : Accepted .quiet (submission.crbs locality))
    (room : (submission.crbs locality).crbControlResponseSize.toNat = crbDataBufferSize) :
    exists device, protocol.Held (some locality) idle device ∧
      responseStatus (submit (Driver.ops tpm) machine submission).1 = TpmStatus.ok.toU64 ∧
      ((submit (Driver.ops tpm) machine submission).2.crbs locality).bytes =
        ((submission.crbs locality).withResponse (respond (submission.crbs locality).command)).bytes ∧
      (submit (Driver.ops tpm) machine submission).2.sst = { machine.sst with device } ∧
      (submit (Driver.ops tpm) machine submission).2.service =
        { machine.service with currentState := .complete } := by
  have isPacket : IsPacket (submission.crbs locality).command := commandRead_quiet accepted ▸ accepted.isPacket
  have packet := executes.packets _ isPacket
  have declared : declaredLength (respond (submission.crbs locality).command) =
      (respond (submission.crbs locality).command).length := packet.2
  have fits : declaresLength (respond (submission.crbs locality).command)
      (responseSizeRead .quiet (submission.crbs locality)) = true := by
    rw [declaresLength_iff, declared]
    exact ⟨packet.header, (isPacketSize_iff.mp packet.1).2.trans room.ge⟩
  rcases executes.executes locality _ isPacket with ⟨conduct, kept, answers, ready⟩
  rw [← tracks.interface] at kept
  have translates := start_translates kept answers (ready _ fresh)
  have written : protocol.Tracks (machine.withCrbs submission.crbs) idle :=
    ⟨tracks.running, tracks.interface, tracks.held⟩
  rcases written.transact protocol owned with ⟨code, crb, device, still, ran, outcome⟩
  rcases translates.returns with ⟨code', after, started, translated, _⟩
  have same : (machine.sst.run (submission.crbs locality)
      (start .quiet tpm locality machine.sst.isCrbInterface)) =
      (code', after.crb, { machine.sst with device := after.device }) := by
    rw [Driver.run, started]
  have both := same.symm.trans ran
  simp only [Prod.mk.injEq] at both
  rw [translate_of_accepted accepted, if_pos fits, declared, List.take_length] at translated
  simp only [Prod.mk.injEq] at translated
  have success : code = .ok := both.1.symm.trans translated.1.symm
  have response : crb = (submission.crbs locality).withResponse (respond (submission.crbs locality).command) :=
    both.2.1.symm.trans translated.2.2.symm
  rcases submit_call planned with ⟨status, after⟩
  have succeeded : (attempt (Driver.ops tpm) (machine.withCrbs submission.crbs) .start locality).1 = .ok := by
    rw [attempt_fst, outcome, success]
  refine ⟨device, still, ?_, ?_, ?_, ?_⟩
  · rw [status, succeeded]
    rfl
  · rw [after, PtpCrbRegisters.bytes, cleanInternalCrb_buffer, attempt_of_ok _ succeeded, outcome, response]
    have here := Function.update_self (f := (machine.withCrbs submission.crbs).crbs) locality
    exact congrArg (fun block : PtpCrbRegisters => List.ofFn block.crbDataBuffer) (here _)
  · rw [after, cleanInternalCrb_sst, attempt_sst, outcome]
    rfl
  · rw [after, cleanInternalCrb_service, attempt_service, if_pos succeeded]
    rfl

/-- Where the service and the TPM stand between two requests of a session. -/
structure TpmProtocol.Stands (machine : Machine (Driver Device)) (owner : Option Locality) (state : TpmState)
    (idle : Bool) (states : Locality -> TpmLocalityState) : Prop where
  tracks : protocol.Tracks machine idle
  active : machine.service.activeLocality = owner
  current : machine.service.currentState = state
  states : machine.service.localityStates = states

theorem TpmProtocol.Stands.held {owner : Option Locality} {state : TpmState}
    {states : Locality -> TpmLocalityState} (stands : protocol.Stands machine owner state idle states) :
    protocol.Held owner idle machine.sst.device := stands.active ▸ stands.tracks.held

theorem TpmProtocol.Stands.submitted {owner : Option Locality} {state : TpmState} {rests : Bool}
    {states : Locality -> TpmLocalityState} (stands : protocol.Stands machine owner state idle states)
    {operation : Operation} (control : operation ≠ .start) {Done : Device -> Prop}
    (planned : (machine.withCrbs submission.crbs).planFor (Driver.ops tpm) submission.message =
      .call operation locality)
    (completes : Completes tpm locality isCrbInterface (operation.handshake isCrbInterface) Done
      machine.sst.device)
    (held : forall device, Done device -> protocol.Held (operation.owner locality owner) rests device) :
    responseStatus (submit (Driver.ops tpm) machine submission).1 = TpmStatus.ok.toU64 ∧
      protocol.Stands (submit (Driver.ops tpm) machine submission).2 (operation.owner locality owner)
        (operation.target state) rests states ∧
      Done (submit (Driver.ops tpm) machine submission).2.sst.device := by
  rcases stands.tracks.submitted protocol control planned completes with ⟨device, done, status, sst, service⟩
  have owner' : (submit (Driver.ops tpm) machine submission).2.service.activeLocality =
      operation.owner locality owner := by
    rw [service, stands.active]
  refine ⟨status, ⟨⟨?_, ?_, ?_⟩, owner', ?_, ?_⟩, ?_⟩
  · rw [sst]
    exact stands.tracks.running
  · rw [sst]
    exact stands.tracks.interface
  · rw [owner', sst]
    exact held device done
  · rw [service, stands.current]
  · rw [service]
    exact stands.states
  · rw [sst]
    exact done

section Steps

variable {session : Session} {states : Locality -> TpmLocalityState}
  (isOpen : states session.locality = .opened)

include isOpen

theorem TpmProtocol.Stands.opened {owner : Option Locality} {state : TpmState}
    (stands : protocol.Stands machine owner state idle states) :
    (machine.withCrbs submission.crbs).service.localityStates session.locality = .opened := by
  have same : (machine.withCrbs submission.crbs).service.localityStates = states := stands.states
  rw [same, isOpen]

theorem TpmProtocol.Stands.requested (stands : protocol.Stands machine none .idle true states) :
    responseStatus (submit (Driver.ops tpm) machine session.request).1 = TpmStatus.ok.toU64 ∧
      protocol.Stands (submit (Driver.ops tpm) machine session.request).2 (some session.locality) .idle true
        states := by
  have planned : (machine.withCrbs session.request.crbs).planFor (Driver.ops tpm) session.request.message =
      .call .localityRequest session.locality := by
    have free : (machine.withCrbs session.request.crbs).service.activeLocality = none := stands.active
    rw [planFor_locality session.requests (stands.opened protocol isOpen)]
    exact localityPlan_request free session.keeps session.takes
  have done := stands.submitted protocol (by decide) planned
    (protocol.localityRequest none true session.locality _ (.inl rfl) stands.held) (fun _ held => held)
  exact ⟨done.1, done.2.1⟩

/-- The plan of a command request of the owner. -/
theorem TpmProtocol.Stands.planned {state : TpmState} {operation : Operation}
    (stands : protocol.Stands machine (some session.locality) state idle states)
    (starts : Starts submission.message tpm2FfaStartFuncQualifierCommand session.locality)
    (requested : requestedOperation state (submission.crbs session.locality)
      ((Driver.ops tpm).isIdleBypassSupported machine.sst) = some operation) :
    (machine.withCrbs submission.crbs).planFor (Driver.ops tpm) submission.message =
      .call operation session.locality := by
  have owned : (machine.withCrbs submission.crbs).service.activeLocality = some session.locality := stands.active
  rw [planFor_command starts (stands.opened protocol isOpen) owned]
  apply commandPlan_of_requested
  have current : (machine.withCrbs submission.crbs).service.currentState = state := stands.current
  rw [current]
  exact requested

theorem TpmProtocol.Stands.readied
    (stands : protocol.Stands machine (some session.locality) .idle true states) :
    responseStatus (submit (Driver.ops tpm) machine session.ready).1 = TpmStatus.ok.toU64 ∧
      protocol.Stands (submit (Driver.ops tpm) machine session.ready).2 (some session.locality) .ready false
        states ∧
      protocol.Fresh session.locality (submit (Driver.ops tpm) machine session.ready).2.sst.device := by
  have planned := stands.planned protocol isOpen session.readies (if_pos session.prepares)
  have done := stands.submitted protocol (by decide) planned
    (protocol.cmdReady true session.locality _ stands.held) (fun _ held => held.1)
  exact ⟨done.1, done.2.1, done.2.2.2⟩

theorem TpmProtocol.Stands.executed {respond : List U8 -> List U8} (executes : protocol.Executes respond)
    (stands : protocol.Stands machine (some session.locality) .ready false states)
    (fresh : protocol.Fresh session.locality machine.sst.device) :
    responseStatus (submit (Driver.ops tpm) machine session.start).1 = TpmStatus.ok.toU64 ∧
      ((submit (Driver.ops tpm) machine session.start).2.crbs session.locality).bytes =
        (session.served respond).2 ∧
      protocol.Stands (submit (Driver.ops tpm) machine session.start).2 (some session.locality) .complete false
        states := by
  have requested : requestedOperation .ready (session.start.crbs session.locality)
      ((Driver.ops tpm).isIdleBypassSupported machine.sst) = some .start := by
    simp only [requestedOperation, session.stays, session.prepared, session.executes]
    rfl
  have planned := stands.planned protocol isOpen session.starts requested
  rcases stands.tracks.executed protocol executes stands.active fresh planned session.accepted session.room with
    ⟨device, held, status, bytes, sst, service⟩
  have active : (submit (Driver.ops tpm) machine session.start).2.service.activeLocality =
      some session.locality := by
    rw [service]
    exact stands.active
  refine ⟨status, ?_, ⟨?_, ?_, ?_⟩, active, ?_, ?_⟩
  · rw [bytes, Session.served]
  · rw [sst]
    exact stands.tracks.running
  · rw [sst]
    exact stands.tracks.interface
  · rw [active, sst]
    exact held
  · rw [service]
  · rw [service]
    exact stands.states

theorem TpmProtocol.Stands.idled
    (stands : protocol.Stands machine (some session.locality) .complete false states) :
    responseStatus (submit (Driver.ops tpm) machine session.idle).1 = TpmStatus.ok.toU64 ∧
      protocol.Stands (submit (Driver.ops tpm) machine session.idle).2 (some session.locality) .idle true
        states := by
  have planned := stands.planned protocol isOpen session.idles (if_pos session.rests)
  have done := stands.submitted protocol (by decide) planned
    (protocol.goIdle false session.locality _ stands.held) (fun _ held => held)
  exact ⟨done.1, done.2.1⟩

theorem TpmProtocol.Stands.relinquished
    (stands : protocol.Stands machine (some session.locality) .idle true states) :
    responseStatus (submit (Driver.ops tpm) machine session.relinquish).1 = TpmStatus.ok.toU64 ∧
      protocol.Stands (submit (Driver.ops tpm) machine session.relinquish).2 none .idle true states := by
  have planned : (machine.withCrbs session.relinquish.crbs).planFor (Driver.ops tpm) session.relinquish.message =
      .call .localityRelinquish session.locality := by
    have owned : (machine.withCrbs session.relinquish.crbs).service.activeLocality = some session.locality :=
      stands.active
    rw [planFor_locality session.relinquishes (stands.opened protocol isOpen)]
    exact localityPlan_relinquish owned session.leaves
  have done := stands.submitted protocol (by decide) planned
    (protocol.localityRelinquish true session.locality _ stands.held) (by
      rintro device ⟨rests, still, held⟩
      exact still rfl ▸ held)
  exact ⟨done.1, done.2.1⟩

/-- One session. -/
theorem TpmProtocol.Stands.attended {respond : List U8 -> List U8} (executes : protocol.Executes respond)
    (stands : protocol.Stands machine none .idle true states) :
    (attend (Driver.ops tpm) machine session).1 = session.served respond ∧
      protocol.Stands (attend (Driver.ops tpm) machine session).2 none .idle true states := by
  have request := stands.requested protocol isOpen
  have ready := request.2.readied protocol isOpen
  have start := ready.2.1.executed protocol isOpen executes ready.2.2
  have idle := start.2.2.idled protocol isOpen
  have relinquish := idle.2.relinquished protocol isOpen
  have statuses : (session.served respond).1 = [TpmStatus.ok.toU64, TpmStatus.ok.toU64, TpmStatus.ok.toU64,
      TpmStatus.ok.toU64, TpmStatus.ok.toU64] := rfl
  refine ⟨?_, relinquish.2⟩
  unfold attend
  dsimp only
  rw [start.2.1, List.map_cons, List.map_cons, List.map_cons, List.map_cons, List.map_cons, List.map_nil, request.1,
    ready.1, start.1, idle.1, relinquish.1, ← statuses]

end Steps

/-- With a TPM that keeps to the protocol, from every state that the service can
reach with nobody owning it and no command under way: every host that takes an
open locality, sends a command and leaves again gets a success for each of its
requests, and finds the response of the TPM to its command; and so does the next
one. -/
theorem sessions_served {respond : List U8 -> List U8} (executes : protocol.Executes respond)
    {driver : Driver Device} (begins : protocol.Begins driver) (address : U64)
    (crbs : Locality -> PtpCrbRegisters) (history : List Event)
    (unowned : (afterRun (Driver.ops tpm) driver address crbs history).service.activeLocality = none)
    (idle : (afterRun (Driver.ops tpm) driver address crbs history).service.currentState = .idle)
    {sessions : List Session} (isOpen : forall session, session ∈ sessions ->
      (afterRun (Driver.ops tpm) driver address crbs history).service.localityStates session.locality = .opened) :
    attendAll (Driver.ops tpm) (afterRun (Driver.ops tpm) driver address crbs history) sessions =
      sessions.map (Session.served respond) := by
  rcases (begins.booted protocol address crbs).ran protocol history with ⟨rests, follows, _⟩
  have resting : rests = true := follows.rests idle
  subst resting
  have stands : protocol.Stands (afterRun (Driver.ops tpm) driver address crbs history) none .idle true
      (afterRun (Driver.ops tpm) driver address crbs history).service.localityStates :=
    ⟨follows.tracks, unowned, idle, rfl⟩
  generalize (afterRun (Driver.ops tpm) driver address crbs history).service.localityStates = states
    at stands isOpen
  generalize afterRun (Driver.ops tpm) driver address crbs history = machine at stands
  induction sessions generalizing machine with
  | nil => rfl
  | cons session rest inductionHypothesis =>
      have first := stands.attended protocol (isOpen session List.mem_cons_self) executes
      rw [attendAll, List.map_cons]
      dsimp only
      rw [first.1, inductionHypothesis (fun other member => isOpen other (List.mem_cons_of_mem session member)) _
        first.2]

end Requests

/-! ### One session -/

def chipWindow (locality : Locality) (command : List U8) :
    CrbProtocol chipTpm locality command sampleResponse where
  Ready := fun _ _ => True
  Started := fun _ => True
  Responding := fun _ => True
  data := fun _ _ _ _ _ => trivial
  starts := fun _ _ => trivial
  satisfied := fun _ _ => (Action.ensures_of_ok rfl).mpr ⟨rfl, trivial⟩
  answers := by
    intro _ index inside _
    refine ⟨?_, trivial⟩
    change ((sampleResponse.getD index 0).setWidth 32).setWidth 8 = _
    rw [truncate_extend, List.getD_eq_getElem?_getD, List.getElem?_eq_getElem inside]
    rfl

theorem chip_executes : chipProtocol.Executes (fun _ => sampleResponse) where
  packets := fun _ _ => ⟨by decide, by decide⟩
  executes := fun locality command _ =>
    ⟨(chipWindow locality command).conduct, (chipWindow locality command).kept (by decide) (by decide),
      (chipWindow locality command).answers_response, fun _ _ => trivial⟩

/-- The registers of every locality, with a request and the sample command. -/
def submitted (control request start : U32) (qualifier : U64) : Submission where
  crbs := fun _ => { sampleCrb with localityControl := control, crbControlRequest := request, crbControlStart := start }
  message := compose 1 .start qualifier 0

theorem one_locality : 0 < numLocalities := by decide

def sampleSession : Session where
  locality := ⟨0, one_locality⟩
  request := submitted 1 0 0 1
  requests := by decide
  keeps := by decide
  takes := by decide
  ready := submitted 0 1 0 0
  readies := by decide
  prepares := by decide
  start := submitted 0 0 1 0
  starts := by decide
  stays := by decide
  prepared := by decide
  executes := by decide
  accepted := (accepted_quiet_iff _).mpr ⟨by decide, by decide, by decide +kernel⟩
  room := by decide
  idle := submitted 0 2 0 0
  idles := by decide
  rests := by decide
  relinquish := submitted 2 0 0 1
  relinquishes := by decide
  leaves := by decide

/-- Two hosts in turn find the response at the start of the data buffer. -/
theorem sample_sessions_served :
    ((sampleSession.served (fun _ => sampleResponse)).2.take 12 = sampleResponse) ∧
      attendAll (Driver.ops chipTpm) (afterRun (Driver.ops chipTpm) chipDriver 0 (fun _ => .zero) [])
          [sampleSession, sampleSession] =
        [sampleSession, sampleSession].map (Session.served (fun _ => sampleResponse)) := by
  refine ⟨by decide +kernel, ?_⟩
  exact sessions_served chipProtocol chip_executes chip_begins 0 (fun _ => .zero) [] rfl rfl
    (fun session member => by
      rcases List.mem_pair.mp member with rfl | rfl <;> rfl)

end Sessions

end Tpm
end SecureServices
