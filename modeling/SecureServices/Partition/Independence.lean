import SecureServices.Library.Family
import SecureServices.Partition.Platform

namespace SecureServices
namespace Partition

open Library Ffa

/-!
# Services that do not disturb each other

The services of `qemu-sp` share a chain, a monitor and a relay.  Thermal is the
only one that uses the relay, FwMgmt the only one that makes calls, and Notify
the only one with a table.  So the partition is five machines side by side:
whatever is sent to the others, each of them is in the state that it would have
reached by itself on its own requests, and answers as it would by itself.

The calls of the loop are not seen by FwMgmt, since the monitor answers
messages from another stream.
-/

variable {R : Type}

/-! ## The monitor without messages -/

/-- The monitor as it would be if no messaging call had been made. -/
def aside (smc : SmcWorld) : SmcWorld :=
  { smc with calls := smc.calls.filter (fun call => !call.id.isMessaging) }

theorem aside_issue_messaging {call : SmcCall} (messaging : call.id.isMessaging = true) (smc : SmcWorld) :
    aside (smc.issue call) = aside smc := by
  rw [aside, SmcWorld.issue, List.filter_append, List.filter_cons_of_neg (by simp [messaging]),
    List.filter_nil, List.append_nil]
  rfl

theorem aside_issue {call : SmcCall} (other : call.id.isMessaging = false) (smc : SmcWorld) :
    aside (smc.issue call) = (aside smc).issue call := by
  rw [aside, SmcWorld.issue, List.filter_append, List.filter_cons_of_pos (by simp [other]), List.filter_nil]
  rfl

/-- The answer to a call that is not a messaging call does not depend on those. -/
theorem answer_aside {id : FunctionId} (other : id.isMessaging = false) (smc : SmcWorld) :
    (aside smc).answer id = smc.answer id := by
  have counted : (aside smc).calls.countP (fun call => call.id == id) =
      smc.calls.countP (fun call => call.id == id) := by
    rw [aside, List.countP_filter]
    refine List.countP_congr (fun call _ => ?_)
    rw [Bool.and_eq_true, and_iff_left_iff_imp, beq_iff_eq]
    rintro rfl
    rw [other]
    rfl
  rw [SmcWorld.answer, SmcWorld.answer, other, counted]
  rfl

/-- A function that is not a messaging call does the same without these. -/
theorem execSimple_aside {F T : Type} [FfaFunction F] (function : F) (onSuccess : SmcCall -> Except Error T)
    (other : (FfaFunction.functionId F).isMessaging = false) (smc : SmcWorld) :
    execSimple function onSuccess (aside smc) =
      ((execSimple function onSuccess smc).1, aside (execSimple function onSuccess smc).2) := by
  cases encoded : FfaFunction.tryIntoParams function with
  | error reason => simp only [execSimple, ffaSmc, encoded]
  | ok params =>
      rw [execSimple_of_params encoded, execSimple_of_params encoded, answer_aside other, aside_issue other]

theorem fwMgmt_aside (message : MsgSendDirectReq2) (smc : SmcWorld) :
    FwMgmt.ffaMsgSendDirectReq2 message (aside smc) =
      ((FwMgmt.ffaMsgSendDirectReq2 message smc).1, aside (FwMgmt.ffaMsgSendDirectReq2 message smc).2) := by
  have commanded : FwMgmt.command message (aside smc) =
      ((FwMgmt.command message smc).1, aside (FwMgmt.command message smc).2) := by
    unfold FwMgmt.command
    dsimp only
    split
    · rfl
    · rfl
    · rfl
    · rfl
    · have set := execSimple_aside (NotificationSet.mk message.destinationId message.sourceId 0b10 0b10)
        (fun _ => Except.ok ()) rfl smc
      simp only [FwMgmt.testNotify, NotificationSet.exec, set, FwMgmt.reportDone]
    · have retrieved := execSimple_aside MemRetrieveReq.new Except.ok rfl smc
      simp only [FwMgmt.mapShare, MemRetrieveReq.exec, retrieved, FwMgmt.reportDone]
    · rfl
  simp only [FwMgmt.ffaMsgSendDirectReq2, commanded]

/-! ## One node of a chain -/

section Chain

variable {node : HandlerNode R} {next after : MessageHandler R} {message : MsgSendDirectReq2} {env later : Env R}
  {result : Except Error MsgSendDirectResp2}

/-- A request for a later node. -/
theorem handle_of_ne (other : node.service.uuid ≠ message.uuid)
    (handled : next.handle message env = some (result, after, later)) :
    MessageHandler.handle (node :: next) message env = some (result, node :: after, later) := by
  rw [MessageHandler.handle, if_neg other, handled]
  rfl

/-- A request for the first node. -/
theorem handle_of_eq (own : node.service.uuid = message.uuid) {state : node.service.State}
    (served : node.service.ffaMsgSendDirectReq2 node.state message env = some (result, state, later)) :
    MessageHandler.handle (node :: next) message env = some (result, ⟨node.service, state⟩ :: next, later) := by
  rw [MessageHandler.handle, if_pos own, served]
  rfl

end Chain

/-! ## The services by themselves -/

/-- The services of `qemu-sp`, the one that was appended last in front. -/
inductive QemuService where
  | battery | notify | fwMgmt | ucsi | thermal
deriving DecidableEq, Repr

namespace QemuService

def all : List QemuService := [battery, notify, fwMgmt, ucsi, thermal]

def uuid : QemuService -> Uuid
  | battery => QemuBattery.uuid
  | notify => ⟨0xe474d87e57314044a727cb3e8cf3c8df⟩
  | fwMgmt => FwMgmt.uuid
  | ucsi => Ucsi.uuid
  | thermal => Ec.Thermal.uuid

/-- What the service works on. -/
abbrev State (R : Type) : QemuService -> Type
  | battery => Unit
  | notify => Notify.Table
  | fwMgmt => SmcWorld
  | ucsi => Unit
  | thermal => R

/-- A request to the service by itself. -/
def respond {R : Type} [Ec.Relay R] : (service : QemuService) -> State R service -> MsgSendDirectReq2 ->
    Option (Except Error MsgSendDirectResp2 × State R service)
  | battery, _, message => some (QemuBattery.ffaMsgSendDirectReq2 message, ())
  | notify, table, message => Notify.ffaMsgSendDirectReq2 table message
  | fwMgmt, smc, message => some (FwMgmt.ffaMsgSendDirectReq2 message smc)
  | ucsi, _, message => some (Ucsi.ffaMsgSendDirectReq2 message, ())
  | thermal, (relay : R), message => some (Ec.Thermal.ffaMsgSendDirectReq2 relay message)

end QemuService

/-- The services side by side, addressed by the UUID of a request. -/
def qemu (R : Type) [Ec.Relay R] :
    Family QemuService MsgSendDirectReq2 (Except Error MsgSendDirectResp2) where
  State := QemuService.State R
  respond := QemuService.respond
  address := fun message => QemuService.all.find? (fun service => service.uuid = message.uuid)
  unaddressed := .error (.other "Unknown UUID")

section

variable [Ec.Relay R]

theorem qemu_address (message : MsgSendDirectReq2) :
    (qemu R).address message =
      if QemuService.battery.uuid = message.uuid then some .battery
      else if QemuService.notify.uuid = message.uuid then some .notify
      else if QemuService.fwMgmt.uuid = message.uuid then some .fwMgmt
      else if QemuService.ucsi.uuid = message.uuid then some .ucsi
      else if QemuService.thermal.uuid = message.uuid then some .thermal
      else none := by
  change QemuService.all.find? (fun service => decide (service.uuid = message.uuid)) = _
  simp only [QemuService.all, List.find?_cons, List.find?_nil]
  split_ifs <;> simp [*]

/-! ## The chain is the family -/

/-- The chain of `qemu-sp` with this table. -/
def qemuChain (table : Notify.Table) : MessageHandler R :=
  [⟨stateless QemuBattery.uuid QemuBattery.ffaMsgSendDirectReq2, ()⟩, ⟨notify, table⟩, ⟨fwMgmt, ()⟩,
    ⟨stateless Ucsi.uuid Ucsi.ffaMsgSendDirectReq2, ()⟩,
    ⟨relayed Ec.Thermal.uuid Ec.Thermal.ffaMsgSendDirectReq2, ()⟩]

/-- The chain and what it shares are in these states. -/
structure Represents (states : (qemu R).States) (handler : MessageHandler R) (env : Env R) : Prop where
  handler : handler = qemuChain (states .notify)
  smc : aside env.smc = states .fwMgmt
  relay : env.relay = states .thermal

/-- A messaging call of the loop is seen by no service. -/
theorem Represents.issue {states : (qemu R).States} {handler : MessageHandler R} {env : Env R}
    (represents : Represents states handler env) {call : SmcCall} (messaging : call.id.isMessaging = true) :
    Represents states handler { env with smc := env.smc.issue call } :=
  ⟨represents.handler, (aside_issue_messaging messaging env.smc).trans represents.smc, represents.relay⟩

/-- Handling a request in the chain is responding to it in the family. -/
theorem Represents.handle {states : (qemu R).States} {handler : MessageHandler R} {env : Env R}
    (represents : Represents states handler env) (message : MsgSendDirectReq2) :
    Option.Rel (fun handled responded => handled.1 = responded.1 ∧
        Represents responded.2 handled.2.1 handled.2.2)
      (handler.handle message env) ((qemu R).respondAll states message) := by
  rcases represents with ⟨rfl, smc, relay⟩
  unfold Family.respondAll
  rw [qemu_address]
  by_cases battery : QemuService.battery.uuid = message.uuid
  · have handled : (qemuChain (states .notify)).handle message env =
        some (QemuBattery.ffaMsgSendDirectReq2 message, qemuChain (states .notify), env) :=
      handle_of_eq battery rfl
    rw [if_pos battery, handled]
    exact .some ⟨rfl, rfl, smc, relay⟩
  rw [if_neg battery]
  by_cases notify : QemuService.notify.uuid = message.uuid
  · rw [if_pos notify]
    cases outcome : Notify.ffaMsgSendDirectReq2 (states .notify) message with
    | none =>
        have served : (Partition.notify : Service R).ffaMsgSendDirectReq2 (states .notify) message env = none :=
          congrArg (Option.map _) outcome
        have crashed : (qemuChain (states .notify)).handle message env = none :=
          (if_neg battery).trans (congrArg (Option.map _) ((if_pos notify).trans (congrArg (Option.map _) served)))
        have alone : (qemu R).respond .notify (states .notify) message = none := outcome
        rw [crashed]
        dsimp only
        rw [alone]
        exact .none
    | some answer =>
        have handled : (qemuChain (states .notify)).handle message env =
            some (answer.1, qemuChain answer.2, env) :=
          handle_of_ne battery (handle_of_eq notify (congrArg (Option.map _) outcome))
        have alone : (qemu R).respond .notify (states .notify) message = some answer := outcome
        rw [handled]
        dsimp only
        rw [alone]
        exact .some ⟨rfl, rfl, smc, relay⟩
  rw [if_neg notify]
  by_cases fwMgmt : QemuService.fwMgmt.uuid = message.uuid
  · have handled : (qemuChain (states .notify)).handle message env =
        some ((FwMgmt.ffaMsgSendDirectReq2 message env.smc).1, qemuChain (states .notify),
          { env with smc := (FwMgmt.ffaMsgSendDirectReq2 message env.smc).2 }) :=
      handle_of_ne battery (handle_of_ne notify (handle_of_eq fwMgmt rfl))
    have alone : (qemu R).respond .fwMgmt (states .fwMgmt) message =
        some (FwMgmt.ffaMsgSendDirectReq2 message (aside env.smc)) :=
      congrArg (fun monitor => some (FwMgmt.ffaMsgSendDirectReq2 message monitor)) smc.symm
    rw [if_pos fwMgmt, handled]
    dsimp only
    rw [alone, fwMgmt_aside]
    exact .some ⟨rfl, rfl, rfl, relay⟩
  rw [if_neg fwMgmt]
  by_cases ucsi : QemuService.ucsi.uuid = message.uuid
  · have handled : (qemuChain (states .notify)).handle message env =
        some (Ucsi.ffaMsgSendDirectReq2 message, qemuChain (states .notify), env) :=
      handle_of_ne battery (handle_of_ne notify (handle_of_ne fwMgmt (handle_of_eq ucsi rfl)))
    rw [if_pos ucsi, handled]
    exact .some ⟨rfl, rfl, smc, relay⟩
  rw [if_neg ucsi]
  by_cases thermal : QemuService.thermal.uuid = message.uuid
  · have handled : (qemuChain (states .notify)).handle message env =
        some ((Ec.Thermal.ffaMsgSendDirectReq2 env.relay message).1, qemuChain (states .notify),
          { env with relay := (Ec.Thermal.ffaMsgSendDirectReq2 env.relay message).2 }) :=
      handle_of_ne battery (handle_of_ne notify (handle_of_ne fwMgmt (handle_of_ne ucsi
        (handle_of_eq thermal rfl))))
    have alone : (qemu R).respond .thermal (states .thermal) message =
        some (Ec.Thermal.ffaMsgSendDirectReq2 env.relay message) :=
      congrArg (fun relay : R => some (Ec.Thermal.ffaMsgSendDirectReq2 relay message)) relay.symm
    rw [if_pos thermal, handled]
    dsimp only
    rw [alone]
    exact .some ⟨rfl, rfl, smc, rfl⟩
  · have handled : (qemuChain (states .notify)).handle message env =
        some (.error (.other "Unknown UUID"), qemuChain (states .notify), env) :=
      handle_of_ne battery (handle_of_ne notify (handle_of_ne fwMgmt (handle_of_ne ucsi
        (handle_of_ne thermal rfl))))
    rw [if_neg thermal, handled]
    exact .some ⟨rfl, rfl, smc, relay⟩

end

/-! ## Whole runs -/

section Loop

variable {handler : MessageHandler R} {env : Env R}

/-- What the first wait establishes and every iteration preserves holds at the
head of every iteration. -/
theorem running_induction (Holds : Nat -> LoopState R -> Prop)
    (start : forall state, proceed handler env waitCall = .running state -> Holds 0 state)
    (iterate : forall count state next after later call, Holds count state ->
      Iteration state after later call -> proceed after later call = .running next -> Holds (count + 1) next)
    {count : Nat} {state : LoopState R} (reached : runMessageLoop handler env count = .running state) :
    Holds count state := by
  induction count generalizing state with
  | zero =>
      rw [runMessageLoop, msgWait_exec] at reached
      exact start state reached
  | succ count inductionHypothesis =>
      rw [runMessageLoop] at reached
      split at reached
      · rename_i before running
        rcases msgLoopBody_cases before with ⟨_, _, _, panicked⟩ | ⟨_, _, _, iteration, proceeded⟩
        · rw [panicked] at reached
          cases reached
        · rw [proceeded] at reached
          exact iterate count before state _ _ _ (inductionHypothesis running) iteration reached
      · rename_i stopped
        exact absurd reached (stopped state)

end Loop

/-- The direct request that the monitor hands over with a message. -/
def requestOf (message : SmcResult) : Option MsgSendDirectReq2 :=
  match receive message with
  | .error _ => none
  | .ok call => (MsgSendDirectReq2.tryFromSmcCall call).toOption

theorem requestOf_of_receive {message : SmcResult} {call : SmcCall} (received : receive message = .ok call) :
    requestOf message = (MsgSendDirectReq2.tryFromSmcCall call).toOption := by
  rw [requestOf, received]

/-- The direct requests among the first messages of a world. -/
def directRequests (smc : SmcWorld) (count : Nat) : List MsgSendDirectReq2 :=
  (List.range count).filterMap (fun index => requestOf (smc.messages (smc.messageCount + index)))

theorem directRequests_succ (smc : SmcWorld) (count : Nat) :
    directRequests smc (count + 1) =
      directRequests smc count ++ (requestOf (smc.messages (smc.messageCount + count))).toList := by
  rw [directRequests, List.range_succ, List.filterMap_append]
  cases found : requestOf (smc.messages (smc.messageCount + count)) <;> simp [directRequests, found]

section

variable [Ec.Relay R]

/-- The states in which the services find themselves when `main` starts. -/
def qemuStart (env : Env R) : (qemu R).States
  | .battery => ()
  | .notify => Notify.Table.new
  | .fwMgmt => aside env.smc
  | .ucsi => ()
  | .thermal => env.relay

/-- At the head of an iteration the loop is where the services side by side
are after the requests so far. -/
structure Mirrors (env : Env R) (count : Nat) (state : LoopState R) : Prop where
  here : AtMessage env.smc (env.smc.messageCount + count) state
  represented : exists states : (qemu R).States,
    run (qemu R).stepAll (qemuStart env) (directRequests env.smc count) = some states ∧
      Represents states state.handler state.env

/-- The replies are the same. -/
theorem Represents.reply {states : (qemu R).States} {handler : MessageHandler R} {env : Env R}
    (represents : Represents states handler env) (message : MsgSendDirectReq2) :
    (handler.handle message env).map Prod.fst = ((qemu R).respondAll states message).map Prod.fst := by
  have related := represents.handle message
  revert related
  generalize handler.handle message env = handled
  generalize (qemu R).respondAll states message = responded
  intro related
  cases related with
  | none => rfl
  | some both => exact congrArg some both.1

/-- A handled request is a step of the services side by side. -/
theorem Represents.step {states : (qemu R).States} {handler after : MessageHandler R} {env later : Env R}
    (represents : Represents states handler env) {request : MsgSendDirectReq2}
    {result : Except Error MsgSendDirectResp2}
    (handled : handler.handle request env = some (result, after, later)) :
    exists next, (qemu R).stepAll states request = some next ∧ Represents next after later := by
  have related := represents.handle request
  rw [handled] at related
  unfold Family.stepAll
  cases responded : (qemu R).respondAll states request with
  | none =>
      rw [responded] at related
      cases related
  | some outcome =>
      rw [responded] at related
      cases related with
      | some both => exact ⟨outcome.2, rfl, both.2⟩

theorem Mirrors.iterate {env later : Env R} {count : Nat} {state next : LoopState R}
    {after : MessageHandler R} {call : SmcCall} (mirrors : Mirrors env count state)
    (iteration : Iteration state after later call) (proceeded : proceed after later call = .running next) :
    Mirrors env (count + 1) next := by
  rcases mirrors with ⟨here, states, ran, represents⟩
  refine ⟨here.iterate iteration proceeded, ?_⟩
  rcases proceed_eq_running.mp proceeded with ⟨message, _, rfl⟩
  have current := requestOf_of_receive here.current
  rw [directRequests_succ, current]
  cases iteration with
  | skipped other =>
      refine ⟨states, ?_, represents.issue rfl⟩
      rw [MsgSendDirectReq2.tryFromSmcCall, if_neg other]
      exact (congrArg _ (List.append_nil _)).trans ran
  | replied received handled encoded =>
      rcases represents.step handled with ⟨reached, stepped, kept⟩
      refine ⟨reached, ?_, kept.issue rfl⟩
      rw [received]
      exact run_snoc ran stepped
  | failed received handled =>
      rcases represents.step handled with ⟨reached, stepped, kept⟩
      refine ⟨reached, ?_, kept.issue rfl⟩
      rw [received]
      exact run_snoc ran stepped

end

end Partition
end SecureServices
