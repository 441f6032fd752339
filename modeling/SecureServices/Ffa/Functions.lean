import SecureServices.Ffa.DirectMessage

namespace SecureServices
namespace Ffa

open Library

/-!
# The functions the partition calls

`MsgWait`, `MsgSendDirectResp2`, `MemRetrieveReq`, `NotificationSet` and
`Yield`, from `odp-ffa/src/function`.  The first two are messaging calls, and
are answered from the stream of messages; each of them takes exactly one
message off it.  The other three leave the stream alone.
-/

/-- `struct MsgWait`. -/
structure MsgWait where
deriving DecidableEq, Repr

instance : FfaFunction MsgWait where
  functionId := .msgWait
  tryIntoParams := fun _ => .ok {}

/-- `MsgWait::exec`. -/
def MsgWait.exec (function : MsgWait) : Smc SmcCall := execSimple function .ok

/-- `MsgSendDirectResp2::exec`. -/
def MsgSendDirectResp2.exec (response : MsgSendDirectResp2) : Smc SmcCall := execSimple response .ok

/-- `struct MemRetrieveReq`. -/
structure MemRetrieveReq where
  totalLength : U64
  fragLength : U64
  txAddress : U64
  pageCount : U64
deriving DecidableEq, Repr

/-- `MemRetrieveReq::new`. -/
def MemRetrieveReq.new : MemRetrieveReq := ⟨0x40, 0x40, 0, 0⟩

instance : FfaFunction MemRetrieveReq where
  functionId := .memRetrieveReq
  tryIntoParams := fun request => .ok {
    x1 := request.totalLength
    x2 := request.fragLength
    x3 := request.txAddress
    x4 := request.pageCount }

/-- `MemRetrieveReq::exec`. -/
def MemRetrieveReq.exec (request : MemRetrieveReq) : Smc SmcCall := execSimple request .ok

/-- `struct NotificationSet`. -/
structure NotificationSet where
  senderId : U16
  receiverId : U16
  flags : U32
  notificationBitmap : U64
deriving DecidableEq, Repr

instance : FfaFunction NotificationSet where
  functionId := .notificationSet
  tryIntoParams := fun function => .ok {
    x1 := (function.senderId.setWidth 64 <<< 16) ||| function.receiverId.setWidth 64
    x2 := function.flags.setWidth 64
    x3 := function.notificationBitmap &&& 0xffffffff
    x4 := function.notificationBitmap >>> 32 }

/-- `NotificationSet::exec`. -/
def NotificationSet.exec (function : NotificationSet) : Smc Unit := execSimple function (fun _ => .ok ())

/-- `struct Yield`. -/
structure Yield where
  vcpuId : U16
  endpointId : U16
  timeout : U64
deriving DecidableEq, Repr

/-- `Yield::new`. -/
def Yield.new (timeout : U64) : Yield := ⟨0, 0, timeout⟩

instance : FfaFunction Yield where
  functionId := .msgYield
  tryIntoParams := fun function => .ok {
    x1 := (function.endpointId.setWidth 64 <<< 16) ||| function.vcpuId.setWidth 64
    x2 := (function.timeout.setWidth 32).setWidth 64
    x3 := function.timeout >>> 32 }

/-- `Yield::exec`. -/
def Yield.exec (function : Yield) : Smc Unit := execSimple function (fun _ => .ok ())

/-! ## Calls that leave the messages alone -/

/-- The later world has seen more calls, none of them a messaging call. -/
structure SmcWorld.Quiet (before after : SmcWorld) : Prop where
  messages : after.messages = before.messages
  others : after.others = before.others
  calls : exists inner, after.calls = before.calls ++ inner ∧
    forall call, call ∈ inner -> call.id.isMessaging = false

namespace SmcWorld.Quiet

theorem refl (world : SmcWorld) : Quiet world world :=
  ⟨rfl, rfl, [], (List.append_nil _).symm, fun _ member => nomatch member⟩

theorem issue (world : SmcWorld) {call : SmcCall} (other : call.id.isMessaging = false) :
    Quiet world (world.issue call) := by
  refine ⟨rfl, rfl, [call], rfl, fun issued member => ?_⟩
  rw [List.mem_singleton.mp member]
  exact other

theorem trans {first second third : SmcWorld} (early : Quiet first second) (late : Quiet second third) :
    Quiet first third := by
  rcases early.calls with ⟨inner, calls, silent⟩
  rcases late.calls with ⟨later, more, still⟩
  refine ⟨late.messages.trans early.messages, late.others.trans early.others, inner ++ later, ?_, ?_⟩
  · rw [more, calls, List.append_assoc]
  · intro call member
    rcases List.mem_append.mp member with first | second
    · exact silent call first
    · exact still call second

theorem messageCount {before after : SmcWorld} (quiet : Quiet before after) :
    after.messageCount = before.messageCount := by
  rcases quiet.calls with ⟨inner, calls, silent⟩
  have none : inner.countP (fun call => call.id.isMessaging) = 0 :=
    List.countP_eq_zero.mpr (fun call member => by simp [silent call member])
  rw [SmcWorld.messageCount, SmcWorld.messageCount, calls, List.countP_append, none, Nat.add_zero]

end SmcWorld.Quiet

/-- A function that is not a messaging call keeps quiet whatever the monitor
answers. -/
theorem execSimple_quiet {F T : Type} [FfaFunction F] (function : F)
    (onSuccess : SmcCall -> Except Error T) (world : SmcWorld)
    (other : (FfaFunction.functionId F).isMessaging = false) :
    world.Quiet (execSimple function onSuccess world).2 := by
  cases encoded : FfaFunction.tryIntoParams function with
  | error reason =>
      have unchanged : (execSimple function onSuccess world).2 = world := by
        simp only [execSimple, ffaSmc, encoded]
      rw [unchanged]
      exact .refl world
  | ok params =>
      rw [execSimple_of_params encoded]
      exact .issue world other

/-! ## Calls that take a message -/

/-- What `exec` makes of the answer to a messaging call. -/
def receive (result : SmcResult) : Except Error SmcCall :=
  match SmcCall.tryFromResult result with
  | .error reason => .error reason
  | .ok call => handleResultSimple call .ok

/-- A messaging call returns what it makes of the next message. -/
theorem execSimple_receive {F : Type} [FfaFunction F] {function : F} {params : SmcParams}
    (encoded : FfaFunction.tryIntoParams function = .ok params)
    (messaging : (FfaFunction.functionId F).isMessaging = true) (world : SmcWorld) :
    execSimple function .ok world =
      (receive (world.messages world.messageCount),
        world.issue { id := FfaFunction.functionId F, params }) := by
  rw [execSimple_of_params encoded, SmcWorld.answer, if_pos messaging]
  rfl

theorem messageCount_issue {world : SmcWorld} {call : SmcCall} (messaging : call.id.isMessaging = true) :
    (world.issue call).messageCount = world.messageCount + 1 := by
  rw [SmcWorld.messageCount, SmcWorld.issue, List.countP_append]
  simp [SmcWorld.messageCount, messaging]

/-- The identifier of a result is a success or a direct request. -/
def isAccepted (result : SmcResult) : Bool :=
  match tryParseFunctionId (result 0) with
  | .ok id => id.isAccepted
  | .error _ => false

/-- A result reaches the continuation of `exec_simple` exactly when its
identifier is accepted. -/
theorem exec_isOk {T : Type} {onSuccess : SmcCall -> Except Error T}
    (succeeds : forall call, (onSuccess call).isOk = true) (result : SmcResult) :
    Except.isOk (match SmcCall.tryFromResult result with
      | .error reason => .error reason
      | .ok call => handleResultSimple call onSuccess) = isAccepted result := by
  rw [isAccepted, SmcCall.tryFromResult_eq]
  cases parsed : tryParseFunctionId (result 0) with
  | error reason => rfl
  | ok id =>
      cases id with
      | error =>
          simp only [Except.map, handleResultSimple]
          split <;> rfl
      | success32 => exact succeeds _
      | success64 => exact succeeds _
      | msgSendDirectReq2 => exact succeeds _
      | _ => rfl

end Ffa
end SecureServices
