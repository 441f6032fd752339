import SecureServices.Partition.MessageHandler
import SecureServices.Ec.SerialMedium
import SecureServices.Ec.SerialPort

namespace SecureServices
namespace Partition

open Library Ffa

/-!
# The message loop

`msg_loop` from `ec-service-lib/src/lib.rs`.  The loop waits for a message,
gives a direct request to the handler, sends the response or, if there is
none, waits again; every message that it receives is the result of one of
these two calls.  It returns when such a call fails, and it has no result when
a handler panics.

One lemma says what an iteration can do.  With it the invariant of the loop
is carried along: each iteration issues exactly one messaging call and takes
exactly one message off the stream.
-/

variable {R : Type}

/-- The variables of the loop at the head of an iteration. -/
structure LoopState (R : Type) where
  handler : MessageHandler R
  env : Env R
  msg : SmcCall

/-- Where the loop stands. -/
inductive Progress (R : Type) where
  | running (state : LoopState R)
  | returned (reason : Error) (env : Env R)
  | panicked

/-- The world the loop has arrived in, unless it panicked. -/
def Progress.world : Progress R -> Option SmcWorld
  | .running state => some state.env.smc
  | .returned _ env => some env.smc
  | .panicked => none

/-- `msg = call?`: the next message, or the end of the loop. -/
def resume (handler : MessageHandler R) (env : Env R) (answer : Except Error SmcCall × SmcWorld) :
    Progress R :=
  match answer with
  | (.ok msg, smc) => .running ⟨handler, { env with smc }, msg⟩
  | (.error reason, smc) => .returned reason { env with smc }

/-- The body of the loop. -/
def msgLoopBody (beforeHandleMessage : MsgSendDirectReq2 -> Except Error Unit) (state : LoopState R) :
    Progress R :=
  match MsgSendDirectReq2.tryFromSmcCall state.msg with
  | .error _ => resume state.handler state.env ((MsgWait.mk).exec state.env.smc)
  | .ok request =>
      match beforeHandleMessage request with
      | .error reason => .returned reason state.env
      | .ok _ =>
          match state.handler.handle request state.env with
          | none => .panicked
          | some (.ok response, handler, env) => resume handler env (response.exec env.smc)
          | some (.error _, handler, env) => resume handler env ((MsgWait.mk).exec env.smc)

/-- `run_message_loop` after a number of iterations. -/
def runMessageLoop (handler : MessageHandler R) (env : Env R) : Nat -> Progress R
  | 0 => resume handler env ((MsgWait.mk).exec env.smc)
  | count + 1 =>
      match runMessageLoop handler env count with
      | .running state => msgLoopBody (fun _ => .ok ()) state
      | stopped => stopped

/-! ## One iteration -/

/-- The call of `MsgWait`. -/
def waitCall : SmcCall := ⟨.msgWait, {}⟩

/-- The ways in which an iteration comes to its messaging call, with the
handler and the environment at that moment. -/
inductive Iteration (state : LoopState R) : MessageHandler R -> Env R -> SmcCall -> Prop where
  | skipped (other : state.msg.id ≠ .msgSendDirectReq2) :
      Iteration state state.handler state.env waitCall
  | replied {request : MsgSendDirectReq2} {response : MsgSendDirectResp2} {handler : MessageHandler R}
      {env : Env R} {params : SmcParams}
      (received : MsgSendDirectReq2.tryFromSmcCall state.msg = .ok request)
      (handled : state.handler.handle request state.env = some (.ok response, handler, env))
      (encoded : response.message.tryIntoParams = .ok params) :
      Iteration state handler env ⟨.msgSendDirectResp2, params⟩
  | failed {request : MsgSendDirectReq2} {reason : Error} {handler : MessageHandler R} {env : Env R}
      (received : MsgSendDirectReq2.tryFromSmcCall state.msg = .ok request)
      (handled : state.handler.handle request state.env = some (.error reason, handler, env)) :
      Iteration state handler env waitCall

/-- Issue the messaging call and go on with the next message. -/
def proceed (handler : MessageHandler R) (env : Env R) (call : SmcCall) : Progress R :=
  resume handler env (receive (env.smc.messages env.smc.messageCount), env.smc.issue call)

theorem msgWait_exec (smc : SmcWorld) :
    (MsgWait.mk).exec smc = (receive (smc.messages smc.messageCount), smc.issue waitCall) :=
  execSimple_receive rfl rfl smc

theorem world_proceed (handler : MessageHandler R) (env : Env R) (call : SmcCall) :
    (proceed handler env call).world = some (env.smc.issue call) := by
  rw [proceed]
  cases receive (env.smc.messages env.smc.messageCount) <;> rfl

/-- An iteration panics in the handler, or proceeds with a messaging call. -/
theorem msgLoopBody_cases (state : LoopState R) :
    (exists request, MsgSendDirectReq2.tryFromSmcCall state.msg = .ok request ∧
      state.handler.handle request state.env = none ∧
      msgLoopBody (fun _ => .ok ()) state = .panicked) ∨
    exists handler env call, Iteration state handler env call ∧
      msgLoopBody (fun _ => .ok ()) state = proceed handler env call := by
  unfold msgLoopBody
  cases received : MsgSendDirectReq2.tryFromSmcCall state.msg with
  | error reason =>
      have other : state.msg.id ≠ .msgSendDirectReq2 := by
        intro same
        rw [MsgSendDirectReq2.tryFromSmcCall, if_pos same] at received
        cases received
      refine .inr ⟨_, _, _, .skipped other, ?_⟩
      dsimp only
      rw [msgWait_exec, proceed]
  | ok request =>
      dsimp only
      cases handled : state.handler.handle request state.env with
      | none => exact .inl ⟨request, rfl, handled, rfl⟩
      | some outcome =>
          rcases outcome with ⟨result, handler, env⟩
          cases result with
          | ok response =>
              rcases response.message.tryIntoParams_isOk with ⟨params, encoded⟩
              refine .inr ⟨handler, env, _, .replied received handled encoded, ?_⟩
              dsimp only
              rw [MsgSendDirectResp2.exec, execSimple_receive encoded rfl]
              rfl
          | error reason =>
              refine .inr ⟨handler, env, _, .failed received handled, ?_⟩
              dsimp only
              rw [msgWait_exec, proceed]

theorem Iteration.isMessaging {state : LoopState R} {handler : MessageHandler R} {env : Env R}
    {call : SmcCall} (iteration : Iteration state handler env call) : call.id.isMessaging = true := by
  cases iteration <;> rfl

/-- Before the messaging call, an iteration makes no other. -/
theorem Iteration.spec {state : LoopState R} {handler : MessageHandler R} {env : Env R} {call : SmcCall}
    (iteration : Iteration state handler env call) (sound : state.handler.Sound) :
    handler.Sound ∧ state.env.smc.Quiet env.smc := by
  cases iteration with
  | skipped _ => exact ⟨sound, .refl state.env.smc⟩
  | replied _ handled _ => exact ⟨(handle_answers sound handled).1, (handle_answers sound handled).2.1⟩
  | failed _ handled => exact ⟨(handle_answers sound handled).1, (handle_answers sound handled).2.1⟩

/-! ## The invariant of the loop -/

/-- After `count` iterations the loop is at message `count` of the stream. -/
structure AtMessage (start : SmcWorld) (count : Nat) (state : LoopState R) : Prop where
  sound : state.handler.Sound
  messages : state.env.smc.messages = start.messages
  others : state.env.smc.others = start.others
  consumed : state.env.smc.messageCount = count + 1
  current : receive (start.messages count) = .ok state.msg

/-- Proceeding is going to the next message, if it can be received. -/
theorem proceed_eq_running {handler : MessageHandler R} {env : Env R} {call : SmcCall}
    {state : LoopState R} :
    proceed handler env call = .running state <->
      exists msg, receive (env.smc.messages env.smc.messageCount) = .ok msg ∧
        state = ⟨handler, { env with smc := env.smc.issue call }, msg⟩ := by
  rw [proceed]
  cases receive (env.smc.messages env.smc.messageCount) with
  | error reason => simp [resume]
  | ok msg => simp [resume, eq_comm]

/-- A messaging call at message `count` leads to message `count`. -/
theorem atMessage_of_proceed {start : SmcWorld} {count : Nat} {handler : MessageHandler R} {env : Env R}
    {call : SmcCall} {state : LoopState R} (messaging : call.id.isMessaging = true)
    (sound : handler.Sound) (messages : env.smc.messages = start.messages)
    (others : env.smc.others = start.others) (consumed : env.smc.messageCount = count)
    (proceeded : proceed handler env call = .running state) : AtMessage start count state := by
  rcases proceed_eq_running.mp proceeded with ⟨msg, received, rfl⟩
  rw [messages, consumed] at received
  exact ⟨sound, messages, others, (messageCount_issue messaging).trans (congrArg _ consumed), received⟩

theorem AtMessage.iterate {start : SmcWorld} {count : Nat} {state next : LoopState R}
    {handler : MessageHandler R} {env : Env R} {call : SmcCall} (here : AtMessage start count state)
    (iteration : Iteration state handler env call) (proceeded : proceed handler env call = .running next) :
    AtMessage start (count + 1) next := by
  rcases iteration.spec here.sound with ⟨sound, quiet⟩
  exact atMessage_of_proceed iteration.isMessaging sound (quiet.messages.trans here.messages)
    (quiet.others.trans here.others) (quiet.messageCount.trans here.consumed) proceeded

/-- A world in which no call has been made. -/
def fresh (messages : Nat -> SmcResult) (others : FunctionId -> Nat -> SmcResult) : SmcWorld :=
  ⟨messages, others, []⟩

section Runs

variable {handler : MessageHandler R} {relay : R} {messages : Nat -> SmcResult}
  {others : FunctionId -> Nat -> SmcResult}

theorem atMessage_of_running (sound : handler.Sound) {count : Nat} {state : LoopState R}
    (reached : runMessageLoop handler ⟨fresh messages others, relay⟩ count = .running state) :
    AtMessage (fresh messages others) count state := by
  induction count generalizing state with
  | zero =>
      rw [runMessageLoop, msgWait_exec] at reached
      exact atMessage_of_proceed rfl sound rfl rfl rfl reached
  | succ count inductionHypothesis =>
      rw [runMessageLoop] at reached
      split at reached
      · rename_i before running
        have here := inductionHypothesis running
        rcases msgLoopBody_cases before with ⟨_, _, _, panicked⟩ | ⟨_, _, _, iteration, proceeded⟩
        · rw [panicked] at reached
          cases reached
        · rw [proceeded] at reached
          exact here.iterate iteration reached
      · rename_i stopped
        exact absurd reached (stopped state)

end Runs

/-! ## Answers -/

/-- The property holds at the head of every iteration. -/
def EveryIteration (handler : MessageHandler R) (env : Env R) (Property : LoopState R -> Prop) : Prop :=
  forall count state, runMessageLoop handler env count = .running state -> Property state

/-- Between the two worlds exactly one messaging call was issued, as the last call. -/
def EndsWith (before after : SmcWorld) (call : SmcCall) : Prop :=
  exists inner, after.calls = before.calls ++ inner ++ [call] ∧
    forall other, other ∈ inner -> other.id.isMessaging = false

/-- The one messaging call is a response to the sender of the request. -/
def RepliesTo (request : MsgSendDirectReq2) (before after : SmcWorld) : Prop :=
  exists response params, MsgSendDirectResp2.Answers response request ∧
    response.message.tryIntoParams = .ok params ∧ EndsWith before after ⟨.msgSendDirectResp2, params⟩

/-- A direct request is answered by the iteration that receives it. -/
def Answered (state : LoopState R) : Prop :=
  forall request, MsgSendDirectReq2.tryFromSmcCall state.msg = .ok request ->
    exists after, (msgLoopBody (fun _ => .ok ()) state).world = some after ∧
      RepliesTo request state.env.smc after

/-- What becomes of a direct request: a response of the handler is sent to the
sender, and after an error the loop waits for the next message instead.  The
handler always returns if its yields succeed. -/
structure Served (state : LoopState R) (request : MsgSendDirectReq2) : Prop where
  replied : forall response handler env,
    state.handler.handle request state.env = some (.ok response, handler, env) ->
    exists after, (msgLoopBody (fun _ => .ok ()) state).world = some after ∧
      RepliesTo request state.env.smc after
  waited : forall reason handler env,
    state.handler.handle request state.env = some (.error reason, handler, env) ->
    exists after, (msgLoopBody (fun _ => .ok ()) state).world = some after ∧
      EndsWith state.env.smc after waitCall
  returns : YieldsSucceed state.env.smc -> (state.handler.handle request state.env).isSome = true

theorem EndsWith.of_quiet {before middle : SmcWorld} (quiet : before.Quiet middle) (call : SmcCall) :
    EndsWith before (middle.issue call) call := by
  rcases quiet.calls with ⟨inner, calls, silent⟩
  exact ⟨inner, congrArg (fun earlier => earlier ++ [call]) calls, silent⟩

theorem served_of_sound {state : LoopState R} (sound : state.handler.Sound) {request : MsgSendDirectReq2}
    (received : MsgSendDirectReq2.tryFromSmcCall state.msg = .ok request) : Served state request where
  replied := by
    intro response handler env handled
    rcases handle_answers sound handled with ⟨_, quiet, answers⟩
    rcases response.message.tryIntoParams_isOk with ⟨params, encoded⟩
    refine ⟨env.smc.issue ⟨.msgSendDirectResp2, params⟩, ?_, response, params, answers response rfl,
      encoded, .of_quiet quiet _⟩
    rw [← world_proceed handler env]
    simp only [msgLoopBody, received, handled, proceed]
    rw [MsgSendDirectResp2.exec, execSimple_receive encoded rfl]
    rfl
  waited := by
    intro reason handler env handled
    rcases handle_answers sound handled with ⟨_, quiet, _⟩
    refine ⟨env.smc.issue waitCall, ?_, .of_quiet quiet _⟩
    rw [← world_proceed handler env]
    simp only [msgLoopBody, received, handled, proceed, msgWait_exec]
  returns := fun succeed => handle_returns sound request succeed

/-- In every run of every chain of the repository's services, on every stream
of messages: a direct request that is handled gets exactly one response, to
its sender and for its service, and after one that is not handled the loop
goes back to waiting. -/
theorem direct_requests_served [Ec.Relay R] (services : List Shipped) (relay : R)
    (messages : Nat -> SmcResult) (others : FunctionId -> Nat -> SmcResult) :
    EveryIteration (assemble services) ⟨fresh messages others, relay⟩ (fun state =>
      forall request, MsgSendDirectReq2.tryFromSmcCall state.msg = .ok request -> Served state request) := by
  intro count state reached request received
  exact served_of_sound (atMessage_of_running (assemble_sound services) reached).sound received

/-- A relay over a serial port that stays silent. -/
def silentRelay : Ec.EcRelay Ec.SerialMedium.mctp (Ec.MctpSerialTransport Ec.Uart) :=
  Ec.EcRelay.serialRelay Ec.SerialMedium.mctp ⟨[], .other .timedOut, 0, []⟩

/-- A result that carries nothing but its identifier. -/
def bare (id : FunctionId) : SmcResult := fun index => if index = 0 then id.toU64 else 0

theorem EndsWith.call_unique {before after : SmcWorld} {left right : SmcCall}
    (first : EndsWith before after left) (second : EndsWith before after right) : left = right := by
  rcases first with ⟨_, calls, _⟩
  rcases second with ⟨_, same, _⟩
  exact List.singleton_inj.mp (List.append_inj' (calls.symm.trans same) rfl).2

/-- The head of the first iteration of a partition without services, with a
direct request. -/
def unserved : LoopState (Ec.EcRelay Ec.SerialMedium.mctp (Ec.MctpSerialTransport Ec.Uart)) where
  handler := assemble []
  env := ⟨(fresh (fun _ => bare .msgSendDirectReq2) (fun _ _ => bare .success32)).issue waitCall, silentRelay⟩
  msg := ⟨.msgSendDirectReq2, paramsOf (bare .msgSendDirectReq2)⟩

/-- A request for a service that the partition does not have is not answered. -/
theorem not_every_request_answered :
    ¬ forall (R : Type) [Ec.Relay R] (services : List Shipped) (relay : R)
      (messages : Nat -> SmcResult) (others : FunctionId -> Nat -> SmcResult),
      EveryIteration (assemble services) ⟨fresh messages others, relay⟩ Answered := by
  intro always
  have answered := always _ [] silentRelay (fun _ => bare .msgSendDirectReq2) (fun _ _ => bare .success32)
    0 unserved rfl ⟨DirectMessage.ofParams unserved.msg.params⟩ rfl
  rcases answered with ⟨after, arrived, _, params, _, _, replied⟩
  have sound : unserved.handler.Sound := assemble_sound []
  have served : Served unserved ⟨DirectMessage.ofParams unserved.msg.params⟩ := served_of_sound sound rfl
  rcases served.waited _ _ _ rfl with ⟨_, same, waited⟩
  cases arrived.symm.trans same
  cases replied.call_unique waited

/-! ## Survival -/

/-- A message that is no direct request is skipped by waiting for the next one. -/
def Skips (state : LoopState R) : Prop :=
  state.msg.id ≠ .msgSendDirectReq2 ->
    (msgLoopBody (fun _ => .ok ()) state).world = some (state.env.smc.issue waitCall)

theorem skips (state : LoopState R) : Skips state := by
  intro other
  have unrecognised : MsgSendDirectReq2.tryFromSmcCall state.msg =
      .error (.unexpectedFunctionId state.msg.id) := if_neg other
  rw [← world_proceed state.handler state.env]
  simp only [msgLoopBody, unrecognised, proceed, msgWait_exec]

section Runs

variable {handler : MessageHandler R} {relay : R} {messages : Nat -> SmcResult}
  {others : FunctionId -> Nat -> SmcResult}

end Runs

end Partition
end SecureServices
