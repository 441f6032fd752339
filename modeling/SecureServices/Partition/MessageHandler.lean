import SecureServices.Partition.Services
import SecureServices.Ec.Shims
import SecureServices.Notify.Progress
import SecureServices.Tpm.Backend

namespace SecureServices
namespace Partition

open Library Ffa

/-!
# The chain of services

From `ec-service-lib/src/message_handler.rs`.  A message handler is a list of
services, the one that was appended last in front, and gives a request to the
first service whose UUID it carries.  A service is packed together with the
type of its state.  All services share the secure monitor and the relay to
the embedded controller.

`Dependable` is what the message loop may expect of a service: that it answers
to the sender, and keeps off the messaging calls.  Every service of the
repository is shown to meet it.
-/

/-- What the services share. -/
structure Env (R : Type) where
  smc : SmcWorld
  relay : R

/-- `trait Service`.  There is no result if the handler panics. -/
structure Service (R : Type) where
  State : Type
  uuid : Uuid
  ffaMsgSendDirectReq2 : State -> MsgSendDirectReq2 -> Env R ->
    Option (Except Error MsgSendDirectResp2 × State × Env R)

/-- `struct HandlerNodeInner`, without the rest of the list. -/
structure HandlerNode (R : Type) where
  service : Service R
  state : service.State

/-- `struct MessageHandler`; the terminal node is the end of the list. -/
abbrev MessageHandler (R : Type) := List (HandlerNode R)

namespace MessageHandler

variable {R : Type}

/-- `MessageHandler::new`. -/
def new : MessageHandler R := []

/-- `append`, which puts the service in front. -/
def append (handler : MessageHandler R) (node : HandlerNode R) : MessageHandler R := node :: handler

/-- `HandlerNode::handle`, for the terminal node and for an inner one. -/
def handle : MessageHandler R -> MsgSendDirectReq2 -> Env R ->
    Option (Except Error MsgSendDirectResp2 × MessageHandler R × Env R)
  | [], _, env => some (.error (.other "Unknown UUID"), [], env)
  | node :: next, message, env =>
      if node.service.uuid = message.uuid then
        (node.service.ffaMsgSendDirectReq2 node.state message env).map
          (fun (result, state, env) => (result, ⟨node.service, state⟩ :: next, env))
      else
        (handle next message env).map (fun (result, next, env) => (result, node :: next, env))

end MessageHandler

/-! ## Dependable services -/

section Dependable

variable {R : Type}

/-- Every yield is answered with a success. -/
def YieldsSucceed (smc : SmcWorld) : Prop :=
  forall index, isAccepted (smc.others .msgYield index) = true

/-- In the states of the invariant the service returns as long as yields
succeed; and when it returns it has made no messaging call, and a response is
for the sender of the request. -/
structure Service.Dependable (service : Service R) (Invariant : service.State -> Prop) : Prop where
  returns : forall state message env, Invariant state -> YieldsSucceed env.smc ->
    (service.ffaMsgSendDirectReq2 state message env).isSome = true
  answers : forall state message env result after later, Invariant state ->
    service.ffaMsgSendDirectReq2 state message env = some (result, after, later) ->
    Invariant after ∧ env.smc.Quiet later.smc ∧
      forall response, result = .ok response -> response.Answers message

/-- The service of the node is dependable from its state on. -/
def HandlerNode.Sound (node : HandlerNode R) : Prop :=
  exists Invariant, node.service.Dependable Invariant ∧ Invariant node.state

/-- All nodes are sound. -/
def MessageHandler.Sound (handler : MessageHandler R) : Prop := forall node, node ∈ handler -> node.Sound

theorem handle_returns {handler : MessageHandler R} (sound : handler.Sound) (message : MsgSendDirectReq2)
    {env : Env R} (succeed : YieldsSucceed env.smc) : (handler.handle message env).isSome = true := by
  induction handler with
  | nil => rfl
  | cons node next inductionHypothesis =>
      rw [MessageHandler.handle]
      split
      · rcases sound node List.mem_cons_self with ⟨Invariant, dependable, holds⟩
        rw [Option.isSome_map]
        exact dependable.returns node.state message env holds succeed
      · rw [Option.isSome_map]
        exact inductionHypothesis (fun other member => sound other (List.mem_cons_of_mem node member))

/-- What a service is relied on for, a chain of services is relied on for. -/
theorem handle_answers {handler after : MessageHandler R} (sound : handler.Sound)
    {message : MsgSendDirectReq2} {env later : Env R} {result : Except Error MsgSendDirectResp2}
    (handled : handler.handle message env = some (result, after, later)) :
    after.Sound ∧ env.smc.Quiet later.smc ∧
      forall response, result = .ok response -> response.Answers message := by
  induction handler generalizing after with
  | nil =>
      cases handled
      exact ⟨sound, .refl env.smc, fun _ impossible => nomatch impossible⟩
  | cons node next inductionHypothesis =>
      have rest : MessageHandler.Sound next :=
        fun other member => sound other (List.mem_cons_of_mem node member)
      rw [MessageHandler.handle] at handled
      split at handled
      · rcases Option.map_eq_some_iff.mp handled with ⟨⟨_, state, _⟩, returned, same⟩
        cases same
        rcases sound node List.mem_cons_self with ⟨Invariant, dependable, holds⟩
        rcases dependable.answers _ _ _ _ _ _ holds returned with ⟨kept, quiet, answers⟩
        refine ⟨fun other member => ?_, quiet, answers⟩
        rcases List.mem_cons.mp member with rfl | further
        · exact ⟨Invariant, dependable, kept⟩
        · exact rest other further
      · rcases Option.map_eq_some_iff.mp handled with ⟨⟨_, remaining, _⟩, returned, same⟩
        cases same
        rcases inductionHypothesis rest returned with ⟨kept, quiet, answers⟩
        refine ⟨fun other member => ?_, quiet, answers⟩
        rcases List.mem_cons.mp member with rfl | further
        · exact sound other List.mem_cons_self
        · exact kept other further

end Dependable

/-! ## The services of the repository -/

section Shipped

variable {R : Type}

/-- A service that neither keeps a state nor makes calls. -/
def stateless (uuid : Uuid) (handler : MsgSendDirectReq2 -> Except Error MsgSendDirectResp2) : Service R where
  State := Unit
  uuid
  ffaMsgSendDirectReq2 := fun _ message env => some (handler message, (), env)

/-- A service that works through the relay. -/
def relayed (uuid : Uuid) (handler : R -> MsgSendDirectReq2 -> Except Error MsgSendDirectResp2 × R) :
    Service R where
  State := Unit
  uuid
  ffaMsgSendDirectReq2 := fun _ message env =>
    let (result, relay) := handler env.relay message
    some (result, (), { env with relay })

def fwMgmt : Service R where
  State := Unit
  uuid := FwMgmt.uuid
  ffaMsgSendDirectReq2 := fun _ message env =>
    let (result, smc) := FwMgmt.ffaMsgSendDirectReq2 message env.smc
    some (result, (), { env with smc })

def notify : Service R where
  State := Notify.Table
  uuid := ⟨0xe474d87e57314044a727cb3e8cf3c8df⟩
  ffaMsgSendDirectReq2 := fun table message env =>
    (Notify.ffaMsgSendDirectReq2 table message).map (fun (result, after) => (result, after, env))

/-- The TPM service, and what the host will have written to the register
blocks by the time of each request. -/
structure TpmState (Sst : Type) where
  machine : Tpm.Machine Sst
  hostWrites : Nat -> Tpm.Locality -> Tpm.PtpCrbRegisters
  requests : Nat

/-- The machine as the next request finds it. -/
def TpmState.arrive {Sst : Type} (state : TpmState Sst) (smc : SmcWorld) : Tpm.Machine (Tpm.Wired Sst) where
  service := state.machine.service
  sst := ⟨state.machine.sst, smc, false⟩
  crbs := state.hostWrites state.requests
  calls := state.machine.calls

def tpm {Sst : Type} (backend : Tpm.TpmSst Sst) : Service R where
  State := TpmState Sst
  uuid := TpmServiceStub.uuid
  ffaMsgSendDirectReq2 := fun state message env =>
    let (response, after) := Tpm.ffaMsgSendDirectReq2 backend.wire (state.arrive env.smc) message
    if after.sst.panicked then none
    else
      let machine := ⟨after.service, after.sst.sst, after.crbs, after.calls⟩
      some (.ok response, { state with machine, requests := state.requests + 1 },
        { env with smc := after.sst.smc })

/-- The services of the repository, with the states they may start in. -/
inductive Shipped : Type 1 where
  | battery | thermal | timeAlarm | fwMgmt | ucsi | tpmStub | qemuBattery | notify
  | tpm {Sst : Type} (backend : Tpm.TpmSst Sst) (state : TpmState Sst)

/-- The node that appending the service creates. -/
def Shipped.node [Ec.Relay R] : Shipped -> HandlerNode R
  | .battery => ⟨relayed Ec.Battery.uuid Ec.Battery.ffaMsgSendDirectReq2, ()⟩
  | .thermal => ⟨relayed Ec.Thermal.uuid Ec.Thermal.ffaMsgSendDirectReq2, ()⟩
  | .timeAlarm => ⟨relayed Ec.TimeAlarm.uuid Ec.TimeAlarm.ffaMsgSendDirectReq2, ()⟩
  | .fwMgmt => ⟨Partition.fwMgmt, ()⟩
  | .ucsi => ⟨stateless Ucsi.uuid Ucsi.ffaMsgSendDirectReq2, ()⟩
  | .tpmStub => ⟨stateless TpmServiceStub.uuid (fun message => .ok (TpmServiceStub.ffaMsgSendDirectReq2 message)), ()⟩
  | .qemuBattery => ⟨stateless QemuBattery.uuid QemuBattery.ffaMsgSendDirectReq2, ()⟩
  | .notify => ⟨Partition.notify, Notify.Table.new⟩
  | .tpm backend state => ⟨Partition.tpm backend, state⟩

/-- The handler that results from appending services one by one. -/
def assemble [Ec.Relay R] (services : List Shipped) : MessageHandler R :=
  services.foldl (fun handler service => handler.append service.node) MessageHandler.new

theorem stateless_dependable {uuid : Uuid} {handler : MsgSendDirectReq2 -> Except Error MsgSendDirectResp2}
    (answers : forall message response, handler message = .ok response -> response.Answers message) :
    (stateless uuid handler : Service R).Dependable (fun _ => True) where
  returns := fun _ _ _ _ _ => rfl
  answers := by
    intro state message env result after later _ handled
    cases handled
    exact ⟨trivial, .refl env.smc, answers message⟩

theorem relayed_dependable {uuid : Uuid}
    {handler : R -> MsgSendDirectReq2 -> Except Error MsgSendDirectResp2 × R}
    (answers : forall relay message response, (handler relay message).1 = .ok response ->
      response.Answers message) :
    (relayed uuid handler).Dependable (fun _ => True) where
  returns := fun _ _ _ _ _ => rfl
  answers := by
    intro state message env result after later _ handled
    cases handled
    exact ⟨trivial, .refl env.smc, answers env.relay message⟩

theorem fwMgmt_dependable : (fwMgmt : Service R).Dependable (fun _ => True) where
  returns := fun _ _ _ _ _ => rfl
  answers := by
    intro state message env result after later _ handled
    cases handled
    exact ⟨trivial, FwMgmt.command_quiet message env.smc, fun _ returned => FwMgmt.answers returned⟩

theorem notify_dependable : (notify : Service R).Dependable Notify.Bounded where
  returns := by
    intro table message env bounded _
    rcases Notify.ffaMsgSendDirectReq2_progress bounded message with ⟨result, after, handled, _⟩
    simp only [notify, handled, Option.map_some, Option.isSome_some]
  answers := by
    intro table message env result after later bounded handled
    obtain ⟨response, next, progressed, kept, answers⟩ :=
      Notify.ffaMsgSendDirectReq2_progress bounded message
    simp only [notify, progressed, Option.map_some] at handled
    cases handled
    exact ⟨kept, .refl env.smc, answers⟩

theorem tpm_dependable {Sst : Type} (backend : Tpm.TpmSst Sst) :
    (tpm backend : Service R).Dependable (fun _ => True) := by
  have calm : forall (state : TpmState Sst) message (smc : SmcWorld), Tpm.Calm smc
      (Tpm.ffaMsgSendDirectReq2 backend.wire (state.arrive smc) message).2.sst := by
    intro state message smc
    exact Tpm.request_keeps (backend.wire_keeps smc) message ⟨.refl smc, fun _ => rfl⟩
  constructor
  · intro state message env _ succeed
    have running := (calm state message env.smc).2 succeed
    simp only [tpm, running, Bool.false_eq_true, if_false, Option.isSome_some]
  · intro state message env result after later _ handled
    simp only [tpm] at handled
    split at handled
    · cases handled
    · cases handled
      refine ⟨trivial, (calm state message env.smc).1, fun response same => ?_⟩
      cases same
      exact MsgSendDirectResp2.fromReqWithPayload_answers message _

variable [Ec.Relay R]

theorem Shipped.node_sound (service : Shipped) : (service.node : HandlerNode R).Sound := by
  cases service with
  | battery => exact ⟨_, relayed_dependable (fun relay _ _ => Ec.Battery.answers relay), trivial⟩
  | thermal => exact ⟨_, relayed_dependable (fun relay _ _ => Ec.Thermal.answers relay), trivial⟩
  | timeAlarm => exact ⟨_, relayed_dependable (fun relay _ _ => Ec.TimeAlarm.answers relay), trivial⟩
  | fwMgmt => exact ⟨_, fwMgmt_dependable, trivial⟩
  | ucsi => exact ⟨_, stateless_dependable (fun _ _ => Ucsi.answers), trivial⟩
  | tpmStub =>
      refine ⟨_, stateless_dependable (fun message response same => ?_), trivial⟩
      cases same
      exact MsgSendDirectResp2.fromReqWithPayload_answers message _
  | qemuBattery => exact ⟨_, stateless_dependable (fun _ _ => QemuBattery.answers), trivial⟩
  | notify => exact ⟨_, notify_dependable, Notify.Bounded.new⟩
  | tpm backend state => exact ⟨_, tpm_dependable backend, trivial⟩

/-- However the services of the repository are put together, the chain is sound. -/
theorem assemble_sound (services : List Shipped) : (assemble services : MessageHandler R).Sound := by
  suffices rule : forall handler : MessageHandler R, handler.Sound ->
      MessageHandler.Sound (services.foldl (fun handler service => handler.append service.node) handler) from
    rule MessageHandler.new (fun _ member => nomatch member)
  induction services with
  | nil => exact fun handler sound => sound
  | cons service rest inductionHypothesis =>
      intro handler sound
      refine inductionHypothesis (handler.append service.node) (fun node member => ?_)
      rcases List.mem_cons.mp member with rfl | earlier
      · exact service.node_sound
      · exact sound node earlier

end Shipped

end Partition
end SecureServices
