import SecureServices.Ec.Relay
import SecureServices.Ffa.DirectMessage

namespace SecureServices
namespace Ec

open Library Ffa

/-!
# The relay-backed services

From `ec-service-lib/src/services/{battery,thermal,time_alarm}.rs`.  Each of
the three takes its command from the first payload byte, forwards a body to
the controller and packs the reply into the payload of its response.  They
differ in what becomes of an error: Battery reports it to the message loop,
Thermal and TimeAlarm answer with a reserved value.

The relay is shared between the services and is passed from call to call.
-/

/-! ## Common parts -/

/-- `parse_ffa_request`: the bytes after the command byte, as many as the
request type has. -/
def parseFfaRequest (size : Nat) (payload : DirectMessagePayload) : Option (Bytes size) :=
  if fits : 1 + size ≤ 112 then
    some ⟨payload.slice 1 size fits, payload.length_slice fits⟩
  else none

/-- `BatteryError` and `ThermalError`; `TimeAlarmError` is the first variant. -/
inductive ShimError where
  | relay (error : EcRelayError)
  | unexpectedResponse
deriving DecidableEq, Repr

/-- `LOCAL_ERROR_SENTINEL`. -/
def localErrorSentinel : U32 := BitVec.allOnes 32

/-- `u32::from_le_bytes` of exactly four bytes. -/
def parseU32 (body : List U8) : Except EcRelayError U32 := do
  let bytes <- takeExactArray 4 body
  return ofLeBytes 32 bytes.val

/-- `parse_empty_response`. -/
def parseEmptyResponse (body : List U8) : Except EcRelayError Unit := do
  let _ <- takeExactArray 0 body
  return ()

/-- A payload of 32-bit values, one after the other. -/
def wordsPayload (words : List U32) (fits : words.length ≤ 28) : DirectMessagePayload :=
  DirectMessagePayload.fromIter (words.flatMap (fun word => leBytes 4 word)) (by
    simp only [List.length_flatMap, length_leBytes, List.map_const', List.sum_replicate_nat]
    omega)

/-- `scalar_payload`. -/
def scalarPayload (value : U32) : DirectMessagePayload := wordsPayload [value] (Nat.le_add_left 1 27)

/-- `setter_status`. -/
def setterStatus : Except ShimError Unit -> U32
  | .ok _ => 0
  | .error (.relay (.remote code)) => code.setWidth 32
  | .error _ => localErrorSentinel

section

variable {R Value : Type} [Relay R]

/-- `relay.borrow_mut().invoke_request_with_response_id(..).map_err(Relay)`, the
one way in which the services use the relay. -/
def requestWithResponseId (relay : R) (serviceId : U8) (messageId expectedResponseMessageId : U16)
    (requestBody : List U8) (parseBody : List U8 -> Except EcRelayError Value) :
    Except ShimError Value × R :=
  let (result, relay) :=
    invokeRequestWithResponseId relay serviceId messageId expectedResponseMessageId requestBody parseBody
  (result.mapError .relay, relay)

/-- The same for `invoke_request`. -/
def request (relay : R) (serviceId : U8) (messageId : U16) (requestBody : List U8)
    (parseBody : List U8 -> Except EcRelayError Value) : Except ShimError Value × R :=
  requestWithResponseId relay serviceId messageId messageId requestBody parseBody

/-- `result.unwrap_or(default)`, with the relay it leaves. -/
def unwrapOr (default : Value) (answer : Except ShimError Value × R) : Value × R :=
  (answer.1.toOption.getD default, answer.2)

/-- The status of a setter, with the relay it leaves. -/
def statusOf (answer : Except ShimError Unit × R) : U32 × R := (setterStatus answer.1, answer.2)

/-- `parse_ffa_request(..).map(send).unwrap_or(LOCAL_ERROR_SENTINEL)`. -/
def withRequest (size : Nat) (relay : R) (payload : DirectMessagePayload)
    (send : Bytes size -> U32 × R) : U32 × R :=
  match parseFfaRequest size payload with
  | some body => send body
  | none => (localErrorSentinel, relay)

/-- `Ok(from_req_with_payload(&msg, scalar_payload(value)))`. -/
def respondScalar (message : MsgSendDirectReq2) (answer : U32 × R) :
    Except Error MsgSendDirectResp2 × R :=
  (.ok (.fromReqWithPayload message (scalarPayload answer.1)), answer.2)

end

/-! ## Battery -/

namespace Battery

/-- `Battery::UUID`. -/
def uuid : Uuid := ⟨0x25cb5207ac36427daaef3aa78877d27e⟩

/-- `BATTERY_SERVICE_ID`. -/
def serviceId : U8 := 0x08

/-- `enum BatteryCommand`. -/
inductive BatteryCommand where
  | getBix | getBst | setBtp
deriving DecidableEq, Repr

def BatteryCommand.toU16 : BatteryCommand -> U16
  | .getBix => 1
  | .getBst => 2
  | .setBtp => 6

/-- `BatteryCommand::try_from`. -/
def BatteryCommand.tryFrom (value : U16) : Option BatteryCommand :=
  [getBix, getBst, setBtp].find? (fun command => command.toU16 == value)

/-- `BIX_RESPONSE_LEN`. -/
abbrev bixResponseLen : Nat := 100

/-- `struct BstReturnRaw`. -/
structure BstReturnRaw where
  batteryState : U32
  batteryPresentRate : U32
  batteryRemainingCapacity : U32
  batteryPresentVoltage : U32
deriving DecidableEq, Repr

/-- The parser of `get_bst`, which ignores what follows the fourth value. -/
def parseBst (body : List U8) : Except EcRelayError BstReturnRaw := do
  let (state, body) <- takeArray 4 body
  let (rate, body) <- takeArray 4 body
  let (capacity, body) <- takeArray 4 body
  let (voltage, _) <- takeArray 4 body
  return {
    batteryState := ofLeBytes 32 state.val
    batteryPresentRate := ofLeBytes 32 rate.val
    batteryRemainingCapacity := ofLeBytes 32 capacity.val
    batteryPresentVoltage := ofLeBytes 32 voltage.val }

variable {R : Type} [Relay R]

/-- `get_bst`. -/
def getBst (relay : R) (batteryId : U8) : Except ShimError BstReturnRaw × R :=
  request relay serviceId BatteryCommand.getBst.toU16 [batteryId] parseBst

/-- `get_bix`. -/
def getBix (relay : R) (batteryId : U8) : Except ShimError (Bytes bixResponseLen) × R :=
  request relay serviceId BatteryCommand.getBix.toU16 [batteryId] (takeExactArray bixResponseLen)

/-- `set_btp`. -/
def setBtp (relay : R) (batteryId : U8) (tripPoint : U32) : Except ShimError Unit × R :=
  request relay serviceId BatteryCommand.setBtp.toU16 (batteryId :: leBytes 4 tripPoint)
    parseEmptyResponse

/-- The payload, or the error with its text. -/
def conclude {Value : Type} (message : MsgSendDirectReq2) (text : String)
    (intoPayload : Value -> DirectMessagePayload) (answer : Except ShimError Value × R) :
    Except Error MsgSendDirectResp2 × R :=
  match answer with
  | (.ok value, relay) => (.ok (.fromReqWithPayload message (intoPayload value)), relay)
  | (.error _, relay) => (.error (.other text), relay)

/-- `Service::ffa_msg_send_direct_req2`. -/
def ffaMsgSendDirectReq2 (relay : R) (message : MsgSendDirectReq2) :
    Except Error MsgSendDirectResp2 × R :=
  let batteryId := message.payload.u8At 1
  match BatteryCommand.tryFrom ((message.payload.u8At 0).setWidth 16) with
  | none => (.error (.other "Unknown Battery Command"), relay)
  | some .getBst =>
      conclude message "Battery: GetBst round-trip failed (transport or wire decode)"
        (fun bst => wordsPayload [bst.batteryState, bst.batteryPresentRate, bst.batteryRemainingCapacity,
          bst.batteryPresentVoltage] (Nat.le_add_left 4 24))
        (getBst relay batteryId)
  | some .getBix =>
      conclude message "Battery: GetBix round-trip failed (transport or wire decode)"
        (fun bix => DirectMessagePayload.fromIter bix.val (by rw [bix.property]; decide))
        (getBix relay batteryId)
  | some .setBtp =>
      conclude message "Battery: SetBtp round-trip failed (transport or wire decode)"
        (fun _ => DirectMessagePayload.fromIter [] (Nat.zero_le 112))
        (setBtp relay batteryId (message.payload.u32At 4 (by decide)))

theorem answers (relay : R) {message : MsgSendDirectReq2} {response : MsgSendDirectResp2}
    (returned : (ffaMsgSendDirectReq2 relay message).1 = .ok response) : response.Answers message := by
  have concluded : forall {Value : Type} (text : String) (intoPayload : Value -> DirectMessagePayload)
      (answer : Except ShimError Value × R),
      (conclude message text intoPayload answer).1 = .ok response -> response.Answers message := by
    intro Value text intoPayload answer same
    rcases answer with ⟨result, relay⟩
    cases result with
    | error reason => cases same
    | ok value =>
        cases same
        exact MsgSendDirectResp2.fromReqWithPayload_answers message (intoPayload value)
  unfold ffaMsgSendDirectReq2 at returned
  dsimp only at returned
  split at returned
  · cases returned
  · exact concluded _ _ _ returned
  · exact concluded _ _ _ returned
  · exact concluded _ _ _ returned

end Battery

/-! ## Thermal -/

namespace Thermal

/-- `Thermal::UUID`. -/
def uuid : Uuid := ⟨0x31f56da7593c4d72a4b38fc7171ac073⟩

/-- `THERMAL_SERVICE_ID`. -/
def serviceId : U8 := 0x09

/-- `enum ThermalCommand`. -/
inductive ThermalCommand where
  | getTmp | setThrs | getThrs | setScp | getVar | setVar
deriving DecidableEq, Repr

def ThermalCommand.toU16 : ThermalCommand -> U16
  | .getTmp => 1
  | .setThrs => 2
  | .getThrs => 3
  | .setScp => 4
  | .getVar => 5
  | .setVar => 6

/-- `ThermalCommand::try_from`. -/
def ThermalCommand.tryFrom (value : U16) : Option ThermalCommand :=
  [getTmp, setThrs, getThrs, setScp, getVar, setVar].find? (fun command => command.toU16 == value)

/-- The sizes of the four request types, whose fields are adjacent. -/
abbrev setThresholdRequestSize : Nat := 1 + 4 + 4 + 4
abbrev setCoolingPolicyRequestSize : Nat := 1 + 4 + 4 + 4
abbrev getVariableRequestSize : Nat := 1 + 2 + 16
abbrev setVariableRequestSize : Nat := 1 + 2 + 16 + 4

/-- The `len` field of the variable requests, after the instance id. -/
def requestLen {size : Nat} (body : Bytes size) : U16 := ofLeBytes 16 ((body.val.drop 1).take 2)

/-- `INVALID_PARAMETER_STATUS`. -/
def invalidParameterStatus : U32 := 1

/-- `VARIABLE_VALUE_LEN`. -/
def variableValueLen : U16 := 4

/-- The parser of `get_threshold`. -/
def parseThreshold (body : List U8) : Except EcRelayError (U32 × U32 × U32) := do
  let (timeout, body) <- takeArray 4 body
  let (low, body) <- takeArray 4 body
  let high <- takeExactArray 4 body
  return (ofLeBytes 32 timeout.val, ofLeBytes 32 low.val, ofLeBytes 32 high.val)

/-- `threshold_payload`. -/
def thresholdPayload (timeout low high : U32) : DirectMessagePayload :=
  wordsPayload [timeout, low, high] (Nat.le_add_left 3 25)

variable {R : Type} [Relay R]

/-- `get_temperature`. -/
def getTemperature (relay : R) (instanceId : U8) : Except ShimError U32 × R :=
  request relay serviceId ThermalCommand.getTmp.toU16 [instanceId] parseU32

/-- `set_threshold`. -/
def setThreshold (relay : R) (body : Bytes setThresholdRequestSize) : Except ShimError Unit × R :=
  request relay serviceId ThermalCommand.setThrs.toU16 body.val parseEmptyResponse

/-- `get_threshold`. -/
def getThreshold (relay : R) (instanceId : U8) : Except ShimError (U32 × U32 × U32) × R :=
  request relay serviceId ThermalCommand.getThrs.toU16 [instanceId] parseThreshold

/-- `set_scp`. -/
def setScp (relay : R) (body : Bytes setCoolingPolicyRequestSize) : Except ShimError Unit × R :=
  request relay serviceId ThermalCommand.setScp.toU16 body.val parseEmptyResponse

/-- `get_var`. -/
def getVar (relay : R) (body : Bytes getVariableRequestSize) : Except ShimError U32 × R :=
  request relay serviceId ThermalCommand.getVar.toU16 body.val parseU32

/-- `set_var`. -/
def setVar (relay : R) (body : Bytes setVariableRequestSize) : Except ShimError Unit × R :=
  request relay serviceId ThermalCommand.setVar.toU16 body.val parseEmptyResponse

/-- `Service::ffa_msg_send_direct_req2`. -/
def ffaMsgSendDirectReq2 (relay : R) (message : MsgSendDirectReq2) :
    Except Error MsgSendDirectResp2 × R :=
  match ThermalCommand.tryFrom ((message.payload.u8At 0).setWidth 16) with
  | none => (.error (.other "Unknown Thermal Command"), relay)
  | some .getTmp =>
      respondScalar message (unwrapOr localErrorSentinel (getTemperature relay (message.payload.u8At 1)))
  | some .setThrs =>
      respondScalar message (withRequest setThresholdRequestSize relay message.payload
        (fun body => statusOf (setThreshold relay body)))
  | some .getThrs =>
      let ((timeout, low, high), relay) :=
        unwrapOr (localErrorSentinel, localErrorSentinel, localErrorSentinel)
          (getThreshold relay (message.payload.u8At 1))
      (.ok (.fromReqWithPayload message (thresholdPayload timeout low high)), relay)
  | some .setScp =>
      respondScalar message (withRequest setCoolingPolicyRequestSize relay message.payload
        (fun body => statusOf (setScp relay body)))
  | some .getVar =>
      respondScalar message (withRequest getVariableRequestSize relay message.payload (fun body =>
        if requestLen body = variableValueLen then unwrapOr localErrorSentinel (getVar relay body)
        else (localErrorSentinel, relay)))
  | some .setVar =>
      respondScalar message (withRequest setVariableRequestSize relay message.payload (fun body =>
        if requestLen body = variableValueLen then statusOf (setVar relay body)
        else (invalidParameterStatus, relay)))

theorem answers (relay : R) {message : MsgSendDirectReq2} {response : MsgSendDirectResp2}
    (returned : (ffaMsgSendDirectReq2 relay message).1 = .ok response) : response.Answers message := by
  unfold ffaMsgSendDirectReq2 at returned
  split at returned
  · cases returned
  all_goals
    cases returned
    exact MsgSendDirectResp2.fromReqWithPayload_answers message _

end Thermal

/-! ## TimeAlarm -/

namespace TimeAlarm

/-- `TIME_ALARM_UUID`. -/
def uuid : Uuid := ⟨0x23ea63edb59346eab0278924df88e92f⟩

/-- `TIME_ALARM_SERVICE_ID`. -/
def serviceId : U8 := 0x0B

/-- `ACPI_TIMESTAMP_LEN`. -/
abbrev acpiTimestampLen : Nat := 16

/-- `INVALID_TIMESTAMP`. -/
def invalidTimestamp : Bytes acpiTimestampLen :=
  ⟨List.replicate acpiTimestampLen 0, List.length_replicate⟩

/-- `enum TimeAlarmCommand`. -/
inductive TimeAlarmCommand where
  | getCapabilities | getRealTime | getWakeStatus | setTimerValue | getTimerValue
  | getExpiredTimerPolicy
deriving DecidableEq, Repr

def TimeAlarmCommand.toU16 : TimeAlarmCommand -> U16
  | .getCapabilities => 1
  | .getRealTime => 2
  | .getWakeStatus => 4
  | .setTimerValue => 6
  | .getTimerValue => 7
  | .getExpiredTimerPolicy => 9

/-- `TimeAlarmCommand::try_from`. -/
def TimeAlarmCommand.tryFrom (value : U16) : Option TimeAlarmCommand :=
  [getCapabilities, getRealTime, getWakeStatus, setTimerValue, getTimerValue,
    getExpiredTimerPolicy].find? (fun command => command.toU16 == value)

/-- `enum TimeAlarmResponseDiscriminant`. -/
inductive TimeAlarmResponseDiscriminant where
  | capabilities | timerStatus | wakePolicy | timerSeconds | okNoData
deriving DecidableEq, Repr

def TimeAlarmResponseDiscriminant.toU16 : TimeAlarmResponseDiscriminant -> U16
  | .capabilities => 1
  | .timerStatus => 3
  | .wakePolicy => 4
  | .timerSeconds => 5
  | .okNoData => 6

/-- The sizes of the request types: a timer id, and for the setter a value. -/
abbrev timerRequestSize : Nat := 4
abbrev setTimerValueRequestSize : Nat := 4 + 4

variable {R : Type} [Relay R]

/-- `get_real_time`, which expects its own message id. -/
def getRealTime (relay : R) : Except ShimError (Bytes acpiTimestampLen) × R :=
  request relay serviceId TimeAlarmCommand.getRealTime.toU16 [] (takeExactArray acpiTimestampLen)

/-- `get_capabilities`. -/
def getCapabilities (relay : R) : Except ShimError U32 × R :=
  requestWithResponseId relay serviceId TimeAlarmCommand.getCapabilities.toU16
    TimeAlarmResponseDiscriminant.capabilities.toU16 [] parseU32

/-- `get_wake_status`. -/
def getWakeStatus (relay : R) (body : Bytes timerRequestSize) : Except ShimError U32 × R :=
  requestWithResponseId relay serviceId TimeAlarmCommand.getWakeStatus.toU16
    TimeAlarmResponseDiscriminant.timerStatus.toU16 body.val parseU32

/-- `set_timer_value`. -/
def setTimerValue (relay : R) (body : Bytes setTimerValueRequestSize) : Except ShimError Unit × R :=
  requestWithResponseId relay serviceId TimeAlarmCommand.setTimerValue.toU16
    TimeAlarmResponseDiscriminant.okNoData.toU16 body.val parseEmptyResponse

/-- `get_timer_value`. -/
def getTimerValue (relay : R) (body : Bytes timerRequestSize) : Except ShimError U32 × R :=
  requestWithResponseId relay serviceId TimeAlarmCommand.getTimerValue.toU16
    TimeAlarmResponseDiscriminant.timerSeconds.toU16 body.val parseU32

/-- `get_expired_timer_policy`. -/
def getExpiredTimerPolicy (relay : R) (body : Bytes timerRequestSize) : Except ShimError U32 × R :=
  requestWithResponseId relay serviceId TimeAlarmCommand.getExpiredTimerPolicy.toU16
    TimeAlarmResponseDiscriminant.wakePolicy.toU16 body.val parseU32

/-- `Service::ffa_msg_send_direct_req2`. -/
def ffaMsgSendDirectReq2 (relay : R) (message : MsgSendDirectReq2) :
    Except Error MsgSendDirectResp2 × R :=
  match TimeAlarmCommand.tryFrom ((message.payload.u8At 0).setWidth 16) with
  | none => (.error (.other "Unknown TimeAlarm Command"), relay)
  | some .getCapabilities =>
      respondScalar message (unwrapOr localErrorSentinel (getCapabilities relay))
  | some .getRealTime =>
      let (timestamp, relay) := unwrapOr invalidTimestamp (getRealTime relay)
      let payload := DirectMessagePayload.fromIter timestamp.val (by rw [timestamp.property]; decide)
      (.ok (.fromReqWithPayload message payload), relay)
  | some .getWakeStatus =>
      respondScalar message (withRequest timerRequestSize relay message.payload
        (fun body => unwrapOr localErrorSentinel (getWakeStatus relay body)))
  | some .setTimerValue =>
      respondScalar message (withRequest setTimerValueRequestSize relay message.payload
        (fun body => statusOf (setTimerValue relay body)))
  | some .getTimerValue =>
      respondScalar message (withRequest timerRequestSize relay message.payload
        (fun body => unwrapOr localErrorSentinel (getTimerValue relay body)))
  | some .getExpiredTimerPolicy =>
      respondScalar message (withRequest timerRequestSize relay message.payload
        (fun body => unwrapOr localErrorSentinel (getExpiredTimerPolicy relay body)))

theorem answers (relay : R) {message : MsgSendDirectReq2} {response : MsgSendDirectResp2}
    (returned : (ffaMsgSendDirectReq2 relay message).1 = .ok response) : response.Answers message := by
  unfold ffaMsgSendDirectReq2 at returned
  split at returned
  · cases returned
  all_goals
    cases returned
    exact MsgSendDirectResp2.fromReqWithPayload_answers message _

end TimeAlarm

end Ec
end SecureServices
