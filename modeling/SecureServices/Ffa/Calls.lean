import SecureServices.Ffa.Codec
import SecureServices.Ffa.Console
import SecureServices.Ffa.ErrorCodes

namespace SecureServices
namespace Ffa

open Library

/-!
# All calls of the library

The functions of `odp-ffa/src/function` that the services do not call
themselves, and then all of them together.  What the monitor sees of a call is
its identifier and seventeen registers.  From these the call can be told, for
every function and every value of its arguments.
-/

/-! ## Identifiers, interrupts and notifications -/

/-- `struct IdGet`. -/
structure IdGet where
deriving DecidableEq, Repr

instance : FfaFunction IdGet where
  functionId := .idGet
  tryIntoParams := fun _ => .ok {}

/-- `struct IdGetResult`. -/
structure IdGetResult where
  id : U16
deriving DecidableEq, Repr

/-- `IdGet::exec`. -/
def IdGet.exec (function : IdGet) : Smc IdGetResult :=
  execSimple function (fun result => .ok ⟨result.params.x2.setWidth 16⟩)

/-- `struct Interrupt`. -/
structure Interrupt where
  endpointId : U16
  vcpuId : U16
  interruptId : U32
deriving DecidableEq, Repr

instance : FfaFunction Interrupt where
  functionId := .interrupt
  tryIntoParams := fun function => .ok {
    x1 := (function.endpointId.setWidth 64 <<< 16) ||| function.vcpuId.setWidth 64
    x2 := function.interruptId.setWidth 64 }

/-- `Interrupt::exec`. -/
def Interrupt.exec (function : Interrupt) : Smc Unit := execSimple function (fun _ => .ok ())

/-- `enum NotificationBindFlags`. -/
inductive NotificationBindFlags where
  | global | perVCpu
deriving DecidableEq, Repr

def NotificationBindFlags.toU64 : NotificationBindFlags -> U64
  | .global => 0
  | .perVCpu => 1

/-- The derived `TryFromPrimitive` of the flags. -/
def NotificationBindFlags.tryFrom (value : U64) : Option NotificationBindFlags :=
  [global, perVCpu].find? (fun flags => flags.toU64 == value)

/-- `struct NotificationBind`. -/
structure NotificationBind where
  senderId : U16
  receiverId : U16
  flags : NotificationBindFlags
  notificationBitmap : U64
deriving DecidableEq, Repr

instance : FfaFunction NotificationBind where
  functionId := .notificationBind
  tryIntoParams := fun function => .ok {
    x1 := (function.senderId.setWidth 64 <<< 16) ||| function.receiverId.setWidth 64
    x2 := function.flags.toU64
    x3 := function.notificationBitmap &&& 0xffffffff
    x4 := function.notificationBitmap >>> 32 }

/-- `NotificationBind::exec`. -/
def NotificationBind.exec (function : NotificationBind) : Smc Unit := execSimple function (fun _ => .ok ())

/-- `combine_low_high_u32`. -/
def combineLowHighU32 (low high : U32) : U64 := (high.setWidth 64 <<< 32) ||| low.setWidth 64

/-- `struct Response` of `notification_get.rs`. -/
structure NotificationGetResponse where
  spNotificationsBitmap : U64
  vmNotificationsBitmap : U64
  fwNotificationsBitmap : U64
deriving DecidableEq, Repr

/-- `NotificationGet::exec`. -/
def NotificationGet.exec (function : NotificationGet) : Smc NotificationGetResponse :=
  execSimple function (fun result => .ok {
    spNotificationsBitmap := combineLowHighU32 (result.params.x2.setWidth 32) (result.params.x3.setWidth 32)
    vmNotificationsBitmap := combineLowHighU32 (result.params.x4.setWidth 32) (result.params.x5.setWidth 32)
    fwNotificationsBitmap := combineLowHighU32 (result.params.x6.setWidth 32) (result.params.x7.setWidth 32) })

/-! ## Features, buffers and messages -/

/-- `struct FeaturesResult`. -/
structure FeaturesResult where
  interfaceProperties : U64
deriving DecidableEq, Repr

/-- `Features::exec`. -/
def Features.exec (function : Features) : Smc FeaturesResult :=
  execSimple function (fun result => .ok ⟨result.params.x2⟩)

/-- `RxTxMap::exec`. -/
def RxTxMap.exec (function : RxTxMap) : Smc Unit := execSimple function (fun _ => .ok ())

/-- `MsgSend2::exec`. -/
def MsgSend2.exec (function : MsgSend2) : Smc Unit := execSimple function (fun _ => .ok ())

/-- `MsgSendDirectReq2::exec`. -/
def MsgSendDirectReq2.exec (request : MsgSendDirectReq2) : Smc SmcCall := execSimple request .ok

/-! ## Version -/

/-- `Version::new`. -/
def Version.new : Version := ⟨1, 2⟩

/-- `Version::exec`, which reads the first result register itself. -/
def Version.exec (function : Version) : Smc Version := fun world =>
  match ffaSmc function world with
  | (.error reason, after) => (.error reason, after)
  | (.ok result, after) =>
      if result 0 &&& ((1 : U64) <<< 31) = 0 then
        (.ok ⟨(result 0 >>> 16).setWidth 16, (result 0 &&& 0xffff).setWidth 16⟩, after)
      else (.error (.invalidFunctionId (result 0)), after)

/-! ## One type for all calls -/

/-- `TryFrom<SmcParams> for MsgWait`, which does not look at the registers. -/
instance : FfaDecode MsgWait where
  tryFromParams := fun _ => .ok ⟨⟩

/-- What `ffa_smc` hands to the monitor. -/
def encodeCall {F : Type} [FfaFunction F] (function : F) : Except Error SmcCall :=
  (FfaFunction.tryIntoParams function).map (fun params => ⟨FfaFunction.functionId F, params⟩)

theorem encodeCall_eq_ok {F : Type} [FfaFunction F] {function : F} {call : SmcCall} :
    encodeCall function = .ok call <->
      FfaFunction.tryIntoParams function = .ok call.params ∧ call.id = FfaFunction.functionId F := by
  unfold encodeCall
  cases FfaFunction.tryIntoParams function with
  | error reason => simp [Except.map]
  | ok params =>
      rcases call with ⟨id, registers⟩
      simp [Except.map, eq_comm, and_comm]

/-- A call of any function of the library. -/
inductive FfaCall where
  | version (function : Version)
  | features (function : Features)
  | rxTxMap (function : RxTxMap)
  | idGet (function : IdGet)
  | interrupt (function : Interrupt)
  | msgWait (function : MsgWait)
  | msgYield (function : Yield)
  | msgSend2 (function : MsgSend2)
  | memRetrieveReq (function : MemRetrieveReq)
  | notificationBind (function : NotificationBind)
  | notificationSet (function : NotificationSet)
  | notificationGet (function : NotificationGet)
  | consoleLog (function : Console)
  | msgSendDirectReq2 (function : MsgSendDirectReq2)
  | msgSendDirectResp2 (function : MsgSendDirectResp2)

namespace FfaCall

/-- The identifier and the registers of the call. -/
def encode : FfaCall -> Except Error SmcCall
  | version function => encodeCall function
  | features function => encodeCall function
  | rxTxMap function => encodeCall function
  | idGet function => encodeCall function
  | interrupt function => encodeCall function
  | msgWait function => encodeCall function
  | msgYield function => encodeCall function
  | msgSend2 function => encodeCall function
  | memRetrieveReq function => encodeCall function
  | notificationBind function => encodeCall function
  | notificationSet function => encodeCall function
  | notificationGet function => encodeCall function
  | consoleLog function => encodeCall function
  | msgSendDirectReq2 function => encodeCall function
  | msgSendDirectResp2 function => encodeCall function

/-- The call of a function that can be converted from registers. -/
def ofParams {F : Type} [FfaDecode F] (wrap : F -> FfaCall) (params : SmcParams) : Option FfaCall :=
  ((FfaDecode.tryFromParams params).map wrap).toOption

/-- How a monitor can tell which call it was given. -/
def decode (call : SmcCall) : Option FfaCall :=
  let params := call.params
  match call.id with
  | .version => ofParams version params
  | .features => ofParams features params
  | .rxTxMap => ofParams rxTxMap params
  | .idGet => some (idGet ⟨⟩)
  | .interrupt =>
      some (interrupt ⟨(params.x1 >>> 16).setWidth 16, (params.x1 &&& 0xFFFF).setWidth 16,
        params.x2.setWidth 32⟩)
  | .msgWait => ofParams msgWait params
  | .msgYield => ofParams msgYield params
  | .msgSend2 => ofParams msgSend2 params
  | .memRetrieveReq => ofParams memRetrieveReq params
  | .notificationBind =>
      (NotificationBindFlags.tryFrom params.x2).map (fun flags =>
        notificationBind ⟨(params.x1 >>> 16).setWidth 16, (params.x1 &&& 0xFFFF).setWidth 16, flags,
          (params.x4 <<< 32) ||| (params.x3 &&& 0xFFFFFFFF)⟩)
  | .notificationSet => ofParams notificationSet params
  | .notificationGet => ofParams notificationGet params
  | .consoleLog => some (consoleLog ⟨params.text.take ffaMaxCharCount, List.length_take_le _ _⟩)
  | .msgSendDirectReq2 => ofParams msgSendDirectReq2 params
  | .msgSendDirectResp2 => ofParams msgSendDirectResp2 params
  | _ => none

end FfaCall

/-! ## Every call is recognised -/

section

variable {F : Type} [FfaFunction F] [FfaDecode F] {function : F} {call : SmcCall}

/-- A function that survives the way through the registers is decoded. -/
theorem FfaCall.ofParams_of_roundTrips (trips : RoundTrips (FfaFunction.tryIntoParams (F := F)))
    (encoded : encodeCall function = .ok call) (wrap : F -> FfaCall) :
    FfaCall.ofParams wrap call.params = some (wrap function) := by
  rcases trips function with ⟨params, registers, decoded⟩
  cases registers.symm.trans (encodeCall_eq_ok.mp encoded).1
  rw [ofParams, decoded]
  rfl

end

theorem MsgSendDirectReq2.roundTrips : RoundTrips (FfaFunction.tryIntoParams (F := MsgSendDirectReq2)) :=
  roundTrips_of_wrapper MsgSendDirectReq2.mk MsgSendDirectReq2.message (fun _ => rfl) (fun _ => rfl)
    (fun _ => rfl)

theorem MsgSendDirectResp2.roundTrips : RoundTrips (FfaFunction.tryIntoParams (F := MsgSendDirectResp2)) :=
  roundTrips_of_wrapper MsgSendDirectResp2.mk MsgSendDirectResp2.message (fun _ => rfl) (fun _ => rfl)
    (fun _ => rfl)

/-- The two halves of a bitmap are put together again. -/
theorem bitmap_of_halves (bitmap : U64) :
    ((bitmap >>> 32) <<< 32) ||| ((bitmap &&& 0xFFFFFFFF) &&& 0xFFFFFFFF) = bitmap := by
  rw [BitVec.and_assoc, BitVec.and_self, and_ones_eq _ 0xFFFFFFFF word_ones]
  exact upper_or_lower 32 bitmap

/-- The text of a console call is found in its registers. -/
theorem Console.text_of_tryIntoParams {console : Console} {params : SmcParams}
    (encoded : FfaFunction.tryIntoParams console = .ok params) : params.text = console.bytes := by
  rcases console.tryIntoParams_eq with ⟨found, same, count, registers⟩
  cases same.symm.trans encoded
  rw [SmcParams.text, count, registers]
  exact List.take_left

/-- Whatever call is encoded, the monitor can tell it from the registers. -/
theorem FfaCall.decode_encode {call : FfaCall} {registers : SmcCall}
    (encoded : call.encode = .ok registers) : FfaCall.decode registers = some call := by
  rcases registers with ⟨id, params⟩
  cases call with
  | version function =>
      rcases encodeCall_eq_ok.mp encoded with ⟨_, rfl⟩
      exact ofParams_of_roundTrips Version.roundTrips encoded version
  | features function =>
      rcases encodeCall_eq_ok.mp encoded with ⟨_, rfl⟩
      exact ofParams_of_roundTrips (fun _ => ⟨_, rfl, rfl⟩) encoded features
  | rxTxMap function =>
      rcases encodeCall_eq_ok.mp encoded with ⟨_, rfl⟩
      exact ofParams_of_roundTrips RxTxMap.roundTrips encoded rxTxMap
  | idGet function =>
      rcases encodeCall_eq_ok.mp encoded with ⟨_, rfl⟩
      rfl
  | interrupt function =>
      rcases encodeCall_eq_ok.mp encoded with ⟨fields, rfl⟩
      cases fields
      change some (interrupt ⟨_, _, _⟩) = _
      simp only [ids_of_pack, flags_of_wide]
  | msgWait function =>
      rcases encodeCall_eq_ok.mp encoded with ⟨_, rfl⟩
      exact ofParams_of_roundTrips (fun _ => ⟨_, rfl, rfl⟩) encoded msgWait
  | msgYield function =>
      rcases encodeCall_eq_ok.mp encoded with ⟨_, rfl⟩
      exact ofParams_of_roundTrips Yield.roundTrips encoded msgYield
  | msgSend2 function =>
      rcases encodeCall_eq_ok.mp encoded with ⟨_, rfl⟩
      exact ofParams_of_roundTrips MsgSend2.roundTrips encoded msgSend2
  | memRetrieveReq function =>
      rcases encodeCall_eq_ok.mp encoded with ⟨_, rfl⟩
      exact ofParams_of_roundTrips (fun _ => ⟨_, rfl, rfl⟩) encoded memRetrieveReq
  | notificationBind function =>
      rcases encodeCall_eq_ok.mp encoded with ⟨fields, rfl⟩
      cases fields
      have flags : NotificationBindFlags.tryFrom function.flags.toU64 = some function.flags := by
        cases function.flags <;> rfl
      change (NotificationBindFlags.tryFrom _).map (fun flags => notificationBind ⟨_, _, flags, _⟩) = _
      simp only [ids_of_pack, flags, Option.map_some, bitmap_of_halves]
  | notificationSet function =>
      rcases encodeCall_eq_ok.mp encoded with ⟨_, rfl⟩
      exact ofParams_of_roundTrips NotificationSet.roundTrips encoded notificationSet
  | notificationGet function =>
      rcases encodeCall_eq_ok.mp encoded with ⟨_, rfl⟩
      exact ofParams_of_roundTrips NotificationGet.roundTrips encoded notificationGet
  | consoleLog function =>
      rcases encodeCall_eq_ok.mp encoded with ⟨filled, rfl⟩
      have text := Console.text_of_tryIntoParams filled
      change some (consoleLog ⟨params.text.take ffaMaxCharCount, _⟩) = _
      simp only [text, List.take_of_length_le function.length_bytes]
  | msgSendDirectReq2 function =>
      rcases encodeCall_eq_ok.mp encoded with ⟨_, rfl⟩
      exact ofParams_of_roundTrips MsgSendDirectReq2.roundTrips encoded msgSendDirectReq2
  | msgSendDirectResp2 function =>
      rcases encodeCall_eq_ok.mp encoded with ⟨_, rfl⟩
      exact ofParams_of_roundTrips MsgSendDirectResp2.roundTrips encoded msgSendDirectResp2

/-- Every call can be encoded. -/
theorem FfaCall.encode_isOk (call : FfaCall) : exists registers, call.encode = .ok registers := by
  have encodable : forall {F : Type} [FfaFunction F] (function : F) {params : SmcParams},
      FfaFunction.tryIntoParams function = .ok params ->
        exists registers, encodeCall function = .ok registers :=
    fun function params registers => ⟨⟨_, params⟩, encodeCall_eq_ok.mpr ⟨registers, rfl⟩⟩
  cases call with
  | consoleLog function =>
      rcases function.tryIntoParams_eq with ⟨_, registers, _⟩
      exact encodable function registers
  | msgSendDirectReq2 function =>
      rcases function.message.tryIntoParams_isOk with ⟨_, registers⟩
      exact encodable function registers
  | msgSendDirectResp2 function =>
      rcases function.message.tryIntoParams_isOk with ⟨_, registers⟩
      exact encodable function registers
  | _ function => exact encodable function rfl

/-- No two different calls of the library look alike to the monitor, whatever
their functions and arguments are, and every call reaches it. -/
theorem calls_unambiguous :
    (forall call : FfaCall, exists registers, call.encode = .ok registers ∧
      FfaCall.decode registers = some call) ∧
    forall (left right : FfaCall) (registers : SmcCall),
      left.encode = .ok registers -> right.encode = .ok registers -> left = right := by
  constructor
  · intro call
    rcases call.encode_isOk with ⟨registers, encoded⟩
    exact ⟨registers, encoded, FfaCall.decode_encode encoded⟩
  · intro left right registers first second
    exact Option.some.inj ((FfaCall.decode_encode first).symm.trans (FfaCall.decode_encode second))

/-! ## Negotiating the version -/

/-- The version as the 32-bit convention spells it. -/
def Version.word (version : Version) : U32 := version.major ++ version.minor

end Ffa
end SecureServices
