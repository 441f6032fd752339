import SecureServices.Ffa.Calls
import SecureServices.Partition.Dispatch
import SecureServices.Partition.Independence

namespace SecureServices
namespace Partition

open Library Ffa

/-!
# The traffic with the monitor

What the monitor sees of a partition, from the first wait on.  Each message is
followed by one messaging call, a response or another wait, and between the two
come the calls that the service makes for the request: FwMgmt sets a
notification for the sender or retrieves a buffer, the TPM yields, and no other
service calls the monitor.

The traffic is stated in typed calls, without the loop, the chain and the
registers.  The log lines are left out, as everywhere.
-/

/-! ## What services ask of the monitor -/

/-- The calls that FwMgmt makes for a request. -/
def FwMgmt.requested (request : MsgSendDirectReq2) : List FfaCall :=
  match (request.payload.u8At 0).toNat with
  | 0x4 => [.notificationSet ⟨request.destinationId, request.sourceId, 0b10, 0b10⟩]
  | 0x5 => [.memRetrieveReq .new]
  | _ => []

/-- `YIELD_TIMEOUT_HINT_NS` is the argument of every yield. -/
def yieldCall : FfaCall := .msgYield (.new Tpm.yieldTimeoutHintNs)

namespace Shipped

def uuid : Shipped -> Uuid
  | .battery => Ec.Battery.uuid
  | .thermal => Ec.Thermal.uuid
  | .timeAlarm => Ec.TimeAlarm.uuid
  | .fwMgmt => FwMgmt.uuid
  | .ucsi => Ucsi.uuid
  | .tpmStub => TpmServiceStub.uuid
  | .qemuBattery => QemuBattery.uuid
  | .notify => ⟨0xe474d87e57314044a727cb3e8cf3c8df⟩
  | .tpm _ _ => TpmServiceStub.uuid

/-- The calls that the service may make for the request. -/
def Asks (request : MsgSendDirectReq2) (calls : List FfaCall) : Shipped -> Prop
  | .fwMgmt => calls = FwMgmt.requested request
  | .tpm _ _ => exists count, calls = List.replicate count yieldCall
  | _ => calls = []

end Shipped

/-- The service for the request: the one with its UUID that was appended last. -/
def addressee (services : List Shipped) (request : MsgSendDirectReq2) : Option Shipped :=
  services.reverse.find? (fun service => service.uuid = request.uuid)

/-- What is asked for the request, by the service for it or by nobody. -/
def Asked (addressee : Option Shipped) (request : MsgSendDirectReq2) (calls : List FfaCall) : Prop :=
  addressee.elim (calls = []) (Shipped.Asks request calls)

/-! ## Traffic -/

/-- What may follow a message, up to the call that takes the next one. -/
inductive Round (services : List Shipped) (message : SmcResult) : List FfaCall -> Prop
  | passed (other : requestOf message = none) : Round services message [.msgWait ⟨⟩]
  | replied {request : MsgSendDirectReq2} {calls : List FfaCall} {response : MsgSendDirectResp2}
      (received : requestOf message = some request) (asked : Asked (addressee services request) request calls)
      (answers : response.Answers request) : Round services message (calls ++ [.msgSendDirectResp2 response])
  | failed {request : MsgSendDirectReq2} {calls : List FfaCall} (received : requestOf message = some request)
      (asked : Asked (addressee services request) request calls) :
      Round services message (calls ++ [.msgWait ⟨⟩])

/-- The first wait, and a round for each of the messages so far. -/
inductive Traffic (services : List Shipped) (messages : Nat -> SmcResult) : Nat -> List FfaCall -> Prop
  | start : Traffic services messages 0 [.msgWait ⟨⟩]
  | round {served : Nat} {calls next : List FfaCall} (earlier : Traffic services messages served calls)
      (round : Round services (messages served) next) : Traffic services messages (served + 1) (calls ++ next)

/-! ## Calls and their registers -/

/-- Between the two worlds these calls were issued. -/
def Issues (before : SmcWorld) (calls : List FfaCall) (after : SmcWorld) : Prop :=
  exists registers, List.Forall₂ (fun call encoded => call.encode = .ok encoded) calls registers ∧
    after.calls = before.calls ++ registers

namespace Issues

theorem nothing (world : SmcWorld) : Issues world [] world := ⟨[], .nil, (List.append_nil _).symm⟩

theorem issue {call : FfaCall} {registers : SmcCall} (encoded : call.encode = .ok registers) (world : SmcWorld) :
    Issues world [call] (world.issue registers) :=
  ⟨[registers], .cons encoded .nil, rfl⟩

theorem waits (world : SmcWorld) : Issues world [.msgWait ⟨⟩] (world.issue waitCall) := issue rfl world

theorem trans {first second third : SmcWorld} {calls later : List FfaCall} (early : Issues first calls second)
    (late : Issues second later third) : Issues first (calls ++ later) third := by
  rcases early with ⟨registers, encoded, issued⟩
  rcases late with ⟨more, encodedToo, issuedToo⟩
  refine ⟨registers ++ more, List.rel_append encoded encodedToo, ?_⟩
  rw [issuedToo, issued, List.append_assoc]

/-- Executing a function issues its call, whatever the monitor answers. -/
theorem execSimple {F T : Type} [FfaFunction F] {function : F} {call : FfaCall} {params : SmcParams}
    (registers : FfaFunction.tryIntoParams function = .ok params)
    (encoded : call.encode = .ok ⟨FfaFunction.functionId F, params⟩) (onSuccess : SmcCall -> Except Error T)
    (world : SmcWorld) : Issues world [call] (Ffa.execSimple function onSuccess world).2 := by
  rw [execSimple_of_params registers]
  exact issue encoded world

end Issues

theorem FwMgmt.issues_requested (request : MsgSendDirectReq2) (world : SmcWorld) :
    Issues world (FwMgmt.requested request) (FwMgmt.ffaMsgSendDirectReq2 request world).2 := by
  change Issues world _ (FwMgmt.command request world).2
  unfold FwMgmt.requested FwMgmt.command
  dsimp only
  split
  · rename_i command
    rw [command]
    exact .execSimple rfl rfl (fun _ => .ok ()) world
  · rename_i command
    rw [command]
    exact .execSimple rfl rfl .ok world
  · rename_i notify retrieve
    split
    · exact .nothing world
    · exact .nothing world
    · exact .nothing world
    · exact .nothing world
    · exact absurd ‹_› notify
    · exact absurd ‹_› retrieve
    · exact .nothing world

/-! ## Yields -/

/-- Since the given world nothing was issued but yields. -/
def Yielded {Sst : Type} (start : SmcWorld) (wired : Tpm.Wired Sst) : Prop :=
  exists count, Issues start (List.replicate count yieldCall) wired.smc

section

variable {Sst : Type} {start : SmcWorld} {wired : Tpm.Wired Sst}

theorem Yielded.yield (yielded : Yielded start wired) : Yielded start wired.yield := by
  rcases yielded with ⟨count, issued⟩
  have next : Issues wired.smc [yieldCall] wired.yield.smc :=
    Issues.execSimple (F := Yield) rfl rfl (fun _ => .ok ()) wired.smc
  refine ⟨count + 1, ?_⟩
  rw [List.replicate_succ']
  exact issued.trans next

theorem Yielded.wait (yielded : Yielded start wired) (count : Nat) : Yielded start (wired.wait count) := by
  induction count generalizing wired with
  | zero => exact yielded
  | succ count inductionHypothesis =>
      rw [Tpm.Wired.wait]
      split
      · exact yielded
      · exact inductionHypothesis yielded.yield

/-- A backend in its world issues nothing but yields. -/
theorem wire_keeps_yielded (backend : Tpm.TpmSst Sst) (start : SmcWorld) : backend.wire.Keeps (Yielded start) where
  goIdle := fun _ _ yielded => yielded.wait _
  cmdReady := fun _ _ yielded => yielded.wait _
  start := fun _ _ _ yielded => yielded.wait _
  localityRequest := fun _ _ yielded => yielded.wait _
  localityRelinquish := fun _ _ yielded => yielded.wait _

end

/-! ## One request -/

variable {R : Type} [Ec.Relay R]

theorem Shipped.uuid_node (service : Shipped) : (service.node : HandlerNode R).service.uuid = service.uuid := by
  cases service <;> rfl

/-- A service issues what it may ask, in whatever state it is. -/
theorem Shipped.issues (service : Shipped) {state after : (service.node : HandlerNode R).service.State}
    {request : MsgSendDirectReq2} {env later : Env R} {result : Except Error MsgSendDirectResp2}
    (served : (service.node : HandlerNode R).service.ffaMsgSendDirectReq2 state request env =
      some (result, after, later)) :
    exists calls, service.Asks request calls ∧ Issues env.smc calls later.smc := by
  cases service with
  | battery | thermal | timeAlarm | ucsi | tpmStub | qemuBattery =>
      cases served
      exact ⟨[], rfl, .nothing env.smc⟩
  | fwMgmt =>
      cases served
      exact ⟨_, rfl, FwMgmt.issues_requested request env.smc⟩
  | notify =>
      rcases Option.map_eq_some_iff.mp served with ⟨_, _, same⟩
      cases same
      exact ⟨[], rfl, .nothing env.smc⟩
  | tpm backend start =>
      have yielded : Yielded env.smc
          (Tpm.ffaMsgSendDirectReq2 backend.wire (TpmState.arrive state env.smc) request).2.sst :=
        Tpm.request_keeps (wire_keeps_yielded backend env.smc) request ⟨0, .nothing env.smc⟩
      simp only [Shipped.node, Partition.tpm] at served
      split at served
      · cases served
      · cases served
        rcases yielded with ⟨count, issued⟩
        exact ⟨_, ⟨count, rfl⟩, issued⟩

/-- The services of the nodes, whatever their states. -/
abbrev Aligned (handler : MessageHandler R) (services : List Shipped) : Prop :=
  List.Forall₂ (fun node service => node.service = (Shipped.node service : HandlerNode R).service) handler services

theorem assemble_aligned (services : List Shipped) : Aligned (assemble services : MessageHandler R) services.reverse := by
  have nodes : (assemble services : MessageHandler R) = services.reverse.map Shipped.node := by
    rw [List.map_reverse, ← chain_eq_reverse, chain, List.foldl_map]
    rfl
  rw [nodes, Aligned, List.forall₂_map_left_iff, List.forall₂_same]
  exact fun _ _ => rfl

/-- A handled request makes the calls of the first service with its UUID. -/
theorem Aligned.handle {handler after : MessageHandler R} {services : List Shipped} (aligned : Aligned handler services)
    {request : MsgSendDirectReq2} {env later : Env R} {result : Except Error MsgSendDirectResp2}
    (handled : handler.handle request env = some (result, after, later)) :
    Aligned after services ∧
      exists calls, Asked (services.find? (fun service => service.uuid = request.uuid)) request calls ∧
        Issues env.smc calls later.smc := by
  induction aligned generalizing after with
  | nil =>
      cases handled
      exact ⟨.nil, [], rfl, .nothing env.smc⟩
  | @cons node service rest others same aligned inductionHypothesis =>
      rcases node with ⟨own, state⟩
      subst same
      rw [MessageHandler.handle, service.uuid_node] at handled
      split at handled
      · rename_i addressed
        rcases Option.map_eq_some_iff.mp handled with ⟨_, served, same⟩
        cases same
        rw [List.find?_cons_of_pos (by simp [addressed])]
        exact ⟨.cons rfl aligned, service.issues served⟩
      · rename_i other
        rcases Option.map_eq_some_iff.mp handled with ⟨_, served, same⟩
        cases same
        rcases inductionHypothesis served with ⟨kept, asked⟩
        rw [List.find?_cons_of_neg (by simp [other])]
        exact ⟨.cons rfl kept, asked⟩

/-! ## One iteration -/

/-- An iteration is a round for the message at its head. -/
theorem Iteration.round {services : List Shipped} {state : LoopState R} {after : MessageHandler R} {later : Env R}
    {call : SmcCall} {message : SmcResult} (sound : state.handler.Sound)
    (aligned : Aligned state.handler services.reverse) (received : receive message = .ok state.msg)
    (iteration : Iteration state after later call) :
    Aligned after services.reverse ∧
      exists calls, Round services message calls ∧ Issues state.env.smc calls (later.smc.issue call) := by
  have current := requestOf_of_receive received
  cases iteration with
  | skipped other =>
      rw [MsgSendDirectReq2.tryFromSmcCall, if_neg other] at current
      exact ⟨aligned, _, .passed current, .waits _⟩
  | @replied request response _ _ params requested handled encoded =>
      rw [requested] at current
      rcases aligned.handle handled with ⟨kept, calls, asked, issued⟩
      have answers := (handle_answers sound handled).2.2 response rfl
      have responds : FfaCall.encode (.msgSendDirectResp2 response) = .ok ⟨.msgSendDirectResp2, params⟩ :=
        encodeCall_eq_ok.mpr ⟨encoded, rfl⟩
      exact ⟨kept, _, .replied current asked answers, issued.trans (.issue responds _)⟩
  | failed requested handled =>
      rw [requested] at current
      rcases aligned.handle handled with ⟨kept, calls, asked, issued⟩
      exact ⟨kept, _, .failed current asked, issued.trans (.waits _)⟩

/-! ## Whole runs -/

/-- The traffic between the two worlds, with the messages of the first one. -/
def Seen (services : List Shipped) (start : SmcWorld) (served : Nat) (smc : SmcWorld) : Prop :=
  exists calls, Traffic services (fun index => start.messages (start.messageCount + index)) served calls ∧
    Issues start calls smc

/-- The loop at the head of an iteration, with what the monitor has seen so far. -/
structure Carries (services : List Shipped) (env : Env R) (count : Nat) (state : LoopState R) : Prop where
  here : AtMessage env.smc (env.smc.messageCount + count) state
  aligned : Aligned state.handler services.reverse
  seen : Seen services env.smc count state.env.smc

theorem Carries.iterate {services : List Shipped} {env later : Env R} {count : Nat} {state : LoopState R}
    {after : MessageHandler R} {call : SmcCall} (carries : Carries services env count state)
    (iteration : Iteration state after later call) :
    Aligned after services.reverse ∧ Seen services env.smc (count + 1) (later.smc.issue call) := by
  rcases carries with ⟨here, aligned, calls, traffic, issued⟩
  rcases iteration.round here.sound aligned here.current with ⟨kept, next, round, issuedNext⟩
  exact ⟨kept, _, .round traffic round, issued.trans issuedNext⟩

theorem carries_of_running {services : List Shipped} {env : Env R} {count : Nat} {state : LoopState R}
    (reached : runMessageLoop (assemble services) env count = .running state) : Carries services env count state := by
  refine running_induction (Carries services env) ?_ ?_ reached
  · intro first proceeded
    have here : AtMessage env.smc (env.smc.messageCount + 0) first :=
      atMessage_of_proceed rfl (assemble_sound services) rfl rfl rfl proceeded
    rcases proceed_eq_running.mp proceeded with ⟨message, _, rfl⟩
    exact ⟨here, assemble_aligned services, _, .start, .waits env.smc⟩
  · intro count state next after later call carries iteration proceeded
    rcases carries.iterate iteration with ⟨aligned, seen⟩
    have here := carries.here.iterate iteration proceeded
    rcases proceed_eq_running.mp proceeded with ⟨message, _, rfl⟩
    exact ⟨here, aligned, seen⟩

theorem seen_of_arrived {services : List Shipped} {env : Env R} {count : Nat} {later : SmcWorld}
    (arrived : (runMessageLoop (assemble services) env count).world = some later) :
    exists served, served ≤ count ∧
      (forall state, runMessageLoop (assemble services) env count = .running state -> served = count) ∧
      Seen services env.smc served later := by
  induction count generalizing later with
  | zero =>
      have waited : later = env.smc.issue waitCall := by
        rw [runMessageLoop, msgWait_exec] at arrived
        exact (Option.some.inj ((world_proceed _ env waitCall).symm.trans arrived)).symm
      subst waited
      exact ⟨0, le_refl 0, fun _ _ => rfl, _, .start, .waits env.smc⟩
  | succ count inductionHypothesis =>
      rw [runMessageLoop] at arrived ⊢
      cases progress : runMessageLoop (assemble services) env count with
      | running state =>
          rw [progress] at arrived
          dsimp only at arrived ⊢
          refine ⟨count + 1, le_refl _, fun _ _ => rfl, ?_⟩
          rcases msgLoopBody_cases state with ⟨_, _, _, panicked⟩ | ⟨after, before, call, iteration, proceeded⟩
          · rw [panicked] at arrived
            cases arrived
          · rw [proceeded, world_proceed] at arrived
            cases arrived
            exact ((carries_of_running progress).iterate iteration).2
      | returned reason final =>
          rw [progress] at arrived inductionHypothesis
          rcases inductionHypothesis arrived with ⟨served, early, _, seen⟩
          refine ⟨served, Nat.le_succ_of_le early, fun state impossible => ?_, seen⟩
          cases impossible
      | panicked =>
          rw [progress] at arrived
          cases arrived

/-! ## Who is notified -/

/-- The notification that the call sets, if it sets one. -/
def noticeOf : FfaCall -> Option NotificationSet
  | .notificationSet function => some function
  | _ => none

/-- The notification that is due for a request: to its sender, if it asks FwMgmt for one. -/
def dueNotice (services : List Shipped) (request : MsgSendDirectReq2) : Option NotificationSet :=
  match addressee services request with
  | some .fwMgmt =>
      if (request.payload.u8At 0).toNat = 0x4 then some ⟨request.destinationId, request.sourceId, 0b10, 0b10⟩
      else none
  | _ => none

theorem FwMgmt.notices_requested (request : MsgSendDirectReq2) :
    (FwMgmt.requested request).filterMap noticeOf =
      (if (request.payload.u8At 0).toNat = 0x4 then
        some (NotificationSet.mk request.destinationId request.sourceId 0b10 0b10) else none).toList := by
  unfold FwMgmt.requested
  split
  · rename_i command
    rw [if_pos command]
    rfl
  · rename_i command
    rw [if_neg (by rw [command]; decide)]
    rfl
  · rename_i other _
    rw [if_neg other]
    rfl

section

variable {services : List Shipped}

theorem Asked.notices {request : MsgSendDirectReq2} {calls : List FfaCall}
    (asked : Asked (addressee services request) request calls) :
    calls.filterMap noticeOf = (dueNotice services request).toList := by
  unfold dueNotice
  cases owner : addressee services request with
  | none =>
      rw [owner] at asked
      cases asked
      rfl
  | some service =>
      rw [owner] at asked
      cases service with
      | battery | thermal | timeAlarm | ucsi | tpmStub | qemuBattery | notify =>
          cases asked
          rfl
      | fwMgmt =>
          cases asked
          exact FwMgmt.notices_requested request
      | tpm backend state =>
          rcases asked with ⟨count, rfl⟩
          exact List.filterMap_replicate_of_none rfl

theorem Round.notices {message : SmcResult} {calls : List FfaCall} (round : Round services message calls) :
    calls.filterMap noticeOf = (requestOf message).toList.filterMap (dueNotice services) := by
  cases round with
  | passed other =>
      rw [other]
      rfl
  | replied received asked _ =>
      rw [received, List.filterMap_append, asked.notices]
      cases due : dueNotice services _ <;> simp [due, noticeOf]
  | failed received asked =>
      rw [received, List.filterMap_append, asked.notices]
      cases due : dueNotice services _ <;> simp [due, noticeOf]

/-- The notifications in the traffic are those that are due, in their order. -/
theorem Traffic.notices {start : SmcWorld} {served : Nat} {calls : List FfaCall}
    (traffic : Traffic services (fun index => start.messages (start.messageCount + index)) served calls) :
    calls.filterMap noticeOf = (directRequests start served).filterMap (dueNotice services) := by
  induction traffic with
  | start => rfl
  | round _ round inductionHypothesis =>
      rw [directRequests_succ, List.filterMap_append, List.filterMap_append, inductionHypothesis, round.notices]

end

/-- What is read from the registers is what was issued. -/
theorem notices_of_registers {calls : List FfaCall} {registers : List SmcCall}
    (encoded : List.Forall₂ (fun call encoded => FfaCall.encode call = .ok encoded) calls registers) :
    registers.filterMap (fun call => (FfaCall.decode call).bind noticeOf) = calls.filterMap noticeOf := by
  induction encoded with
  | nil => rfl
  | cons same _ inductionHypothesis =>
      rw [List.filterMap_cons, List.filterMap_cons, FfaCall.decode_encode same, inductionHypothesis]
      rfl

/-- Every call of a partition is accounted for.  Whatever the services, the
messages and the answers of the monitor: what the monitor has seen when the loop
is running or has returned is the traffic for the messages it handed over.  The
notifications that it reads from the registers are, one for one and in their
order, those that senders have asked FwMgmt for. -/
theorem calls_accounted {services : List Shipped} {env : Env R} {count : Nat} {later : SmcWorld}
    (arrived : (runMessageLoop (assemble services) env count).world = some later) :
    exists served, served ≤ count ∧
      (forall state, runMessageLoop (assemble services) env count = .running state -> served = count) ∧
      Seen services env.smc served later ∧
      (later.calls.drop env.smc.calls.length).filterMap (fun call => (FfaCall.decode call).bind noticeOf) =
        (directRequests env.smc served).filterMap (dueNotice services) := by
  rcases seen_of_arrived arrived with ⟨served, early, exactly, calls, traffic, registers, encoded, issued⟩
  refine ⟨served, early, exactly, ⟨calls, traffic, registers, encoded, issued⟩, ?_⟩
  rw [issued, List.drop_left, notices_of_registers encoded, traffic.notices]

/-- A message that asks FwMgmt for a notification, from 0x0001 to 0x8001. -/
def askNotice : SmcResult := fun index =>
  match index.val with
  | 0 => FunctionId.msgSendDirectReq2.toU64
  | 1 => 0x00018001
  | 2 => 0x5747e5fd73120c33
  | 3 => 0x02750339655b1998
  | 4 => 0x4
  | _ => 0

def askingEnv : Env (Ec.EcRelay Ec.SerialMedium.mctp (Ec.MctpSerialTransport Ec.Uart)) :=
  ⟨fresh (fun _ => askNotice) (fun _ _ => bare .success32), silentRelay⟩

theorem notice_accounted :
    exists later, (runMessageLoop (assemble qemuServices) askingEnv 1).world = some later ∧
      Seen qemuServices askingEnv.smc 1 later ∧
      later.calls.filterMap (fun call => (FfaCall.decode call).bind noticeOf) = [⟨0x8001, 0x0001, 0b10, 0b10⟩] := by
  have reached : exists state, runMessageLoop (assemble qemuServices) askingEnv 1 = .running state := ⟨_, rfl⟩
  rcases reached with ⟨state, running⟩
  have arrived : (runMessageLoop (assemble qemuServices) askingEnv 1).world = some state.env.smc := by rw [running]; rfl
  rcases calls_accounted arrived with ⟨served, _, exactly, seen, notices⟩
  cases exactly state running
  exact ⟨_, arrived, seen, notices.trans (by decide)⟩

end Partition
end SecureServices
