import SecureServices.Ec.Controller
import SecureServices.Ec.Header
import SecureServices.Ec.Lengths

namespace SecureServices
namespace Ec

open Library Ffa

/-!
# The services as fronts

Behind the controller there is firmware that performs typed calls.  A service is
a front of it: a table that says which call a request stands for, and what is
answered for the value or the code that comes back.  Envelopes, lengths and
parsers do not occur in the table.  Over a controller that reports the results
of the firmware in the wire format, the handlers do what their tables say.
-/

/-- What is behind the controller.  A call returns a value, or is refused with a
code. -/
structure Firmware where
  State : Type
  perform : State -> (call : TypedCall) -> Except (BitVec 15) call.Value × State

/-! ## The tables -/

/-- What a service does with a request: it answers by itself, or makes a call and
answers for the result. -/
inductive Treatment where
  | answer (result : Except Error MsgSendDirectResp2)
  | ask (call : TypedCall) (conclude : Except (BitVec 15) call.Value -> Except Error MsgSendDirectResp2)

def Treatment.carryOut (firmware : Firmware) (state : firmware.State) :
    Treatment -> Except Error MsgSendDirectResp2 × firmware.State
  | .answer result => (result, state)
  | .ask call conclude => (conclude (firmware.perform state call).1, (firmware.perform state call).2)

/-- The argument of a call: the bytes after the command byte. -/
def argument (payload : DirectMessagePayload) {size : Nat} (fits : 1 + size ≤ 112) : Bytes size :=
  ⟨payload.slice 1 size fits, payload.length_slice fits⟩

section Replies

variable (message : MsgSendDirectReq2)

def scalarReply (value : U32) : Except Error MsgSendDirectResp2 :=
  .ok (.fromReqWithPayload message (scalarPayload value))

/-- The word that was read, or the error word. -/
def wordReply (result : Except (BitVec 15) U32) : Except Error MsgSendDirectResp2 :=
  scalarReply message (result.toOption.getD localErrorSentinel)

/-- Zero, or the code. -/
def statusReply : Except (BitVec 15) Unit -> Except Error MsgSendDirectResp2
  | .ok _ => scalarReply message 0
  | .error code => scalarReply message (code.setWidth 32)

end Replies

def Thermal.treatment (message : MsgSendDirectReq2) : Treatment :=
  match ThermalCommand.tryFrom ((message.payload.u8At 0).setWidth 16) with
  | none => .answer (.error (.other "Unknown Thermal Command"))
  | some .getTmp => .ask (.getTemperature (message.payload.u8At 1)) (wordReply message)
  | some .setThrs => .ask (.setThreshold (argument message.payload (by decide))) (statusReply message)
  | some .getThrs =>
      .ask (.getThreshold (message.payload.u8At 1)) (fun result =>
        let threshold := result.toOption.getD (localErrorSentinel, localErrorSentinel, localErrorSentinel)
        .ok (.fromReqWithPayload message (thresholdPayload threshold.1 threshold.2.1 threshold.2.2)))
  | some .setScp => .ask (.setScp (argument message.payload (by decide))) (statusReply message)
  | some .getVar =>
      if lenField message.payload = 4 then
        .ask (.getVar (argument message.payload (by decide))) (wordReply message)
      else .answer (scalarReply message localErrorSentinel)
  | some .setVar =>
      if lenField message.payload = 4 then
        .ask (.setVar (argument message.payload (by decide))) (statusReply message)
      else .answer (scalarReply message invalidParameterStatus)

def TimeAlarm.treatment (message : MsgSendDirectReq2) : Treatment :=
  match TimeAlarmCommand.tryFrom ((message.payload.u8At 0).setWidth 16) with
  | none => .answer (.error (.other "Unknown TimeAlarm Command"))
  | some .getCapabilities => .ask .getCapabilities (wordReply message)
  | some .getRealTime =>
      .ask .getRealTime (fun result =>
        let timestamp := result.toOption.getD invalidTimestamp
        .ok (.fromReqWithPayload message
          (DirectMessagePayload.fromIter timestamp.val (by rw [timestamp.property]; decide))))
  | some .getWakeStatus => .ask (.getWakeStatus (argument message.payload (by decide))) (wordReply message)
  | some .setTimerValue => .ask (.setTimerValue (argument message.payload (by decide))) (statusReply message)
  | some .getTimerValue => .ask (.getTimerValue (argument message.payload (by decide))) (wordReply message)
  | some .getExpiredTimerPolicy =>
      .ask (.getExpiredTimerPolicy (argument message.payload (by decide))) (wordReply message)

/-- The response with the value, or an error with this text. -/
def Battery.reply {Value : Type} (message : MsgSendDirectReq2) (text : String)
    (intoPayload : Value -> DirectMessagePayload) :
    Except (BitVec 15) Value -> Except Error MsgSendDirectResp2
  | .ok value => .ok (.fromReqWithPayload message (intoPayload value))
  | .error _ => .error (.other text)

theorem Battery.state_fits : 4 ≤ 28 := by decide

theorem Battery.tripPoint_inside : 4 + 4 ≤ 112 := by decide

theorem Battery.nothing_fits : ([] : List U8).length ≤ 112 := Nat.zero_le 112

def Battery.treatment (message : MsgSendDirectReq2) : Treatment :=
  let batteryId := message.payload.u8At 1
  match BatteryCommand.tryFrom ((message.payload.u8At 0).setWidth 16) with
  | none => .answer (.error (.other "Unknown Battery Command"))
  | some .getBst =>
      .ask (.getBst batteryId) (reply message "Battery: GetBst round-trip failed (transport or wire decode)"
        (fun bst => wordsPayload [bst.batteryState, bst.batteryPresentRate, bst.batteryRemainingCapacity,
          bst.batteryPresentVoltage] state_fits))
  | some .getBix =>
      .ask (.getBix batteryId) (reply message "Battery: GetBix round-trip failed (transport or wire decode)"
        (fun bix => DirectMessagePayload.fromIter bix.val (by rw [bix.property]; decide)))
  | some .setBtp =>
      .ask (.setBtp batteryId (message.payload.u32At 4 tripPoint_inside))
        (reply message "Battery: SetBtp round-trip failed (transport or wire decode)"
          (fun _ => DirectMessagePayload.fromIter [] nothing_fits))

/-! ## The wire format of a result -/

/-- The fields of a header that reports an error. -/
def errorFields : List BitField := [.bits 16 23, .bit 15, .bits 0 14]

theorem errorFields_layout : Layout 32 errorFields := by decide

def errorWord (serviceId : U8) (code : BitVec 15) : U32 :=
  pack 32 (errorFields.zip [serviceId.toNat, 1, code.toNat])

def errorHeader (serviceId : U8) (code : BitVec 15) : List U8 := (leBytes 4 (errorWord serviceId code)).reverse

theorem errorWord_fits (serviceId : U8) (code : BitVec 15) :
    Fits (errorFields.zip [serviceId.toNat, 1, code.toNat]) := by
  intro field value member
  simp only [errorFields, List.zip_cons_cons, List.zip_nil_left, List.mem_cons, Prod.mk.injEq,
    List.not_mem_nil, or_false] at member
  rcases member with ⟨rfl, rfl⟩ | ⟨rfl, rfl⟩ | ⟨rfl, rfl⟩
  · exact serviceId.isLt
  · exact Nat.one_lt_two
  · exact code.isLt

/-- The error is read back. -/
theorem parseOdpHeader_errorHeader (serviceId : U8) (code : BitVec 15) (rest : List U8) :
    parseOdpHeader (errorHeader serviceId code ++ rest) = .ok (false, serviceId, true, code.setWidth 16) := by
  have length : (errorHeader serviceId code).length = 4 := by
    rw [errorHeader, List.length_reverse, length_leBytes]
  have spelled : ofLeBytes 32 (errorHeader serviceId code).reverse = errorWord serviceId code := by
    rw [errorHeader, List.reverse_reverse]
    exact ofLeBytes_leBytes 4 (errorWord serviceId code)
  have values := map_read_pack errorFields_layout (by rfl) (errorWord_fits serviceId code)
  have stored : errorFields.map (fun field => field.read (errorWord serviceId code)) =
      [serviceId.toNat, 1, code.toNat] := values
  simp only [errorFields, List.map_cons, List.map_nil, List.cons.injEq, and_true] at stored
  rcases stored with ⟨service, flag, message⟩
  have answers : (errorWord serviceId code).getLsbD 25 = false := by
    rw [Bool.eq_false_iff]
    intro set
    rcases (getLsbD_pack_iff (errorWord_fits serviceId code) (by decide)).mp set with
      ⟨field, value, member, within, _⟩
    have outside : forall field, field ∈ errorFields -> ¬ field.Contains 25 := by decide
    exact outside field (List.of_mem_zip member).1 within
  have isError : (errorWord serviceId code).getLsbD 15 = true := BitField.read_bit_eq_toNat.mp flag
  rw [parseOdpHeader_read length, spelled, service, message, answers, isError, BitVec.ofNat_toNat,
    BitVec.ofNat_toNat, BitVec.setWidth_eq]

/-- The words one after the other. -/
def words (values : List U32) : List U8 := values.flatMap (fun word => leBytes 4 word)

namespace TypedCall

/-- The body of a response that reports a value. -/
def encode : (call : TypedCall) -> call.Value -> List U8
  | .getBst _ => fun bst =>
      words [bst.batteryState, bst.batteryPresentRate, bst.batteryRemainingCapacity, bst.batteryPresentVoltage]
  | .getBix _ => fun bix => bix.val
  | .getThreshold _ => fun (timeout, low, high) => words [timeout, low, high]
  | .getRealTime => fun timestamp => timestamp.val
  | .setBtp _ _ | .setThreshold _ | .setScp _ | .setVar _ | .setTimerValue _ => fun _ => []
  | .getTemperature _ | .getVar _ | .getCapabilities | .getWakeStatus _ | .getTimerValue _
  | .getExpiredTimerPolicy _ => fun word => words [word]

/-- The message that reports a result. -/
def report (call : TypedCall) : Except (BitVec 15) call.Value -> List U8
  | .ok value => buildOdpHeader false call.asks.serviceId call.asks.responseId ++ call.encode value
  | .error code => errorHeader call.asks.serviceId code

end TypedCall

theorem wordAt_words {values : List U32} {index : Nat} {word : U32} (found : values[index]? = some word) :
    wordAt (words values) index = word := by
  induction values generalizing index with
  | nil => cases found
  | cons first rest inductionHypothesis =>
      have front : words (first :: rest) = leBytes 4 first ++ words rest := List.flatMap_cons
      cases index with
      | zero =>
          cases found
          rw [front, wordAt, Nat.mul_zero, List.drop_zero, List.take_left' (length_leBytes 4 word)]
          exact ofLeBytes_leBytes 4 word
      | succ index =>
          rw [← wordAt_drop, front, List.drop_left' (length_leBytes 4 first)]
          exact inductionHypothesis found

theorem length_words (values : List U32) : (words values).length = 4 * values.length := by
  induction values with
  | nil => rfl
  | cons first rest inductionHypothesis =>
      have front : words (first :: rest) = leBytes 4 first ++ words rest := List.flatMap_cons
      rw [front, List.length_append, length_leBytes, inductionHypothesis, List.length_cons]
      omega

namespace TypedCall

/-- Every parser reads its value back. -/
theorem parser_encode (call : TypedCall) (value : call.Value) : call.parser (call.encode value) = .ok value := by
  have word : forall value : U32, parseU32 (words [value]) = .ok value := by
    intro value
    have first : wordAt (words [value]) 0 = value := wordAt_words rfl
    rw [parseU32_of_length (length_words [value]), first]
  cases call with
  | getBst batteryId =>
      have read := Battery.parseBst_of_le (length_words [value.batteryState, value.batteryPresentRate,
        value.batteryRemainingCapacity, value.batteryPresentVoltage]).ge
      rw [wordAt_words rfl, wordAt_words rfl, wordAt_words rfl, wordAt_words rfl] at read
      exact read
  | getBix batteryId => exact takeExactArray_of_length value.property
  | getThreshold instanceId =>
      have read := Thermal.parseThreshold_of_length (length_words [value.1, value.2.1, value.2.2])
      rw [wordAt_words rfl, wordAt_words rfl, wordAt_words rfl] at read
      exact read
  | getRealTime => exact takeExactArray_of_length value.property
  | setBtp => rfl
  | setThreshold => rfl
  | setScp => rfl
  | setVar => rfl
  | setTimerValue => rfl
  | getTemperature => exact word value
  | getVar => exact word value
  | getCapabilities => exact word value
  | getWakeStatus => exact word value
  | getTimerValue => exact word value
  | getExpiredTimerPolicy => exact word value

/-- The relay reads the result out of the message that reports it. -/
theorem opened_report (call : TypedCall) (result : Except (BitVec 15) call.Value) :
    (openMessage ⟨odpMessageType, call.report result⟩).bind
        (checkEnvelope call.asks.serviceId call.asks.responseId call.parser) =
      result.mapError (fun code => .remote (code.setWidth 16)) := by
  have long : forall header rest : List U8, header.length = 4 -> ¬ (header ++ rest).length < 4 := by
    intro header rest length short
    rw [List.length_append, length] at short
    omega
  unfold openMessage
  rw [if_neg (not_not.mpr rfl)]
  cases result with
  | ok value =>
      have small : call.asks.responseId.toNat < 2 ^ 15 := by cases call <;> exact Nat.le_of_ble_eq_true rfl
      rw [report, if_neg (long _ _ (length_buildOdpHeader _ _ _)), parseOdpHeader_buildOdpHeader _ _ small,
        List.drop_left' (length_buildOdpHeader _ _ _)]
      refine checkEnvelope_eq_ok.mpr ⟨rfl, rfl, rfl, rfl, call.parser_encode value⟩
  | error code =>
      have parsed := parseOdpHeader_errorHeader call.asks.serviceId code []
      rw [List.append_nil] at parsed
      have length : ¬ (errorHeader call.asks.serviceId code).length < 4 := by
        rw [errorHeader, List.length_reverse, length_leBytes]
        exact Nat.lt_irrefl 4
      rw [report, if_neg length, parsed]
      change checkEnvelope _ _ _ (OdpResponse.mk false call.asks.serviceId true (code.setWidth 16) _) = _
      rw [checkEnvelope, if_neg Bool.false_ne_true, if_neg (not_not.mpr rfl), if_pos rfl]
      rfl

/-- The request that stands for a call. -/
def request (call : TypedCall) : List U8 :=
  buildOdpHeader true call.asks.serviceId call.asks.messageId ++ call.asks.body

theorem run_eq_request {R : Type} [Relay R] (call : TypedCall) (relay : R) :
    call.run relay = requestWithResponseId relay call.asks.serviceId call.asks.messageId call.asks.responseId
      call.asks.body call.parser := by
  cases call <;> rfl

end TypedCall

/-! ## Controllers with firmware -/

variable {mctp : MctpRs}

/-- The controller performs every call that is requested, and reports the result. -/
structure Controller.Serves (controller : Controller mctp) (firmware : Firmware)
    (Stands : controller.State -> firmware.State -> Prop) : Prop where
  serves : forall {here there}, Stands here there -> forall call : TypedCall,
    exists reply after, controller.answer here call.request = (some reply, after) ∧
      reply.messageType = odpMessageType ∧
      reply.header ++ reply.body = call.report (firmware.perform there call).1 ∧
      Stands after (firmware.perform there call).2

/-- A code of the firmware, as a service sees it. -/
def refused (code : BitVec 15) : ShimError := .relay (.remote (code.setWidth 16))

/-! ## Answers for results -/

section Answers

variable {R S : Type} {Related : R -> S -> Prop} {there : S} (message : MsgSendDirectReq2)

/-- An answer that is made from the value, or from another one in its place. -/
theorem value_agrees {Value : Type} (default : Value) (make : Value -> Except Error MsgSendDirectResp2)
    {sent : Except ShimError Value × R} {result : Except (BitVec 15) Value}
    (agree : Agree Related sent (result.mapError refused, there)) :
    Agree Related (make (unwrapOr default sent).1, (unwrapOr default sent).2)
      (make (result.toOption.getD default), there) := by
  have answered := (RelaysAgree.unwrapOr default agree).map make
  cases result <;> exact answered

theorem word_agrees {sent : Except ShimError U32 × R} {result : Except (BitVec 15) U32}
    (agree : Agree Related sent (result.mapError refused, there)) :
    Agree Related (respondScalar message (unwrapOr localErrorSentinel sent)) (wordReply message result, there) :=
  value_agrees localErrorSentinel (scalarReply message) agree

theorem status_agrees {sent : Except ShimError Unit × R} {result : Except (BitVec 15) Unit}
    (agree : Agree Related sent (result.mapError refused, there)) :
    Agree Related (respondScalar message (statusOf sent)) (statusReply message result, there) := by
  have answered := RelaysAgree.respondScalar message (RelaysAgree.statusOf agree)
  cases result with
  | ok _ => exact answered
  | error code =>
      have same : (code.setWidth 16).setWidth 32 = code.setWidth 32 := by
        apply BitVec.eq_of_toNat_eq
        have small := code.isLt
        rw [BitVec.toNat_setWidth, BitVec.toNat_setWidth, BitVec.toNat_setWidth]
        omega
      rw [statusReply, ← same]
      exact answered

theorem battery_agrees {Value : Type} (text : String) (intoPayload : Value -> DirectMessagePayload)
    {sent : Except ShimError Value × R} {result : Except (BitVec 15) Value}
    (agree : Agree Related sent (result.mapError refused, there)) :
    Agree Related (Battery.conclude message text intoPayload sent)
      (Battery.reply message text intoPayload result, there) := by
  have answered := RelaysAgree.conclude message text intoPayload agree
  cases result <;> exact answered

end Answers

/-- A request is its bytes, if they fit into the payload. -/
theorem withRequest_argument {R : Type} (relay : R) (payload : DirectMessagePayload) {size : Nat}
    (fits : 1 + size ≤ 112) (send : Bytes size -> U32 × R) :
    withRequest size relay payload send = send (argument payload fits) := by
  rw [withRequest, parseFfaRequest, dif_pos fits]
  rfl

/-! ## The handlers follow their tables -/

namespace Controller.Serves

variable {controller : Controller mctp} {firmware : Firmware} {Stands : controller.State -> firmware.State -> Prop}

/-- The relay to the controller, and the firmware. -/
def Fronts (Stands : controller.State -> firmware.State -> Prop) (direct : Direct controller)
    (there : firmware.State) : Prop :=
  Stands direct.state there

variable {direct : Direct controller} {there : firmware.State}

/-- A call over the relay is a call to the firmware. -/
theorem run (serves : controller.Serves firmware Stands) (fronts : Fronts Stands direct there) (call : TypedCall) :
    Agree (Fronts Stands) (call.run direct)
      ((firmware.perform there call).1.mapError refused, (firmware.perform there call).2) := by
  rcases serves.serves fronts call with ⟨reply, after, answered, type, message, stands⟩
  have opened : (opened (some reply)).bind
      (checkEnvelope call.asks.serviceId call.asks.responseId call.parser) =
        (firmware.perform there call).1.mapError (fun code => .remote (code.setWidth 16)) := by
    rw [Ec.opened, type, message]
    exact call.opened_report _
  rw [call.run_eq_request]
  change Agree _ (((Ec.opened (controller.answer direct.state call.request).1).bind _).mapError _,
    Direct.mk (controller.answer direct.state call.request).2) _
  rw [answered, opened]
  refine ⟨?_, stands⟩
  cases (firmware.perform there call).1 <;> rfl

theorem thermal (serves : controller.Serves firmware Stands) (fronts : Fronts Stands direct there)
    (message : MsgSendDirectReq2) :
    Agree (Fronts Stands) (Thermal.ffaMsgSendDirectReq2 direct message)
      ((Thermal.treatment message).carryOut firmware there) := by
  unfold Thermal.ffaMsgSendDirectReq2 Thermal.treatment
  cases Thermal.ThermalCommand.tryFrom ((message.payload.u8At 0).setWidth 16) with
  | none => exact ⟨rfl, fronts⟩
  | some command =>
      cases command with
      | getTmp => exact word_agrees message (serves.run fronts (.getTemperature _))
      | setThrs =>
          dsimp only
          rw [withRequest_argument direct message.payload (by decide)]
          exact status_agrees message (serves.run fronts (.setThreshold _))
      | getThrs =>
          exact value_agrees _ (fun threshold => .ok (.fromReqWithPayload message
            (Thermal.thresholdPayload threshold.1 threshold.2.1 threshold.2.2)))
            (serves.run fronts (.getThreshold _))
      | setScp =>
          dsimp only
          rw [withRequest_argument direct message.payload (by decide)]
          exact status_agrees message (serves.run fronts (.setScp _))
      | getVar =>
          have fits : 1 + Thermal.getVariableRequestSize ≤ 112 := Nat.le_of_ble_eq_true rfl
          have fourBytes : Thermal.requestLen (argument message.payload fits) = Thermal.variableValueLen <->
              lenField message.payload = 4 := Thermal.requestLen_eq message.payload fits
          dsimp only
          rw [withRequest_argument direct message.payload fits]
          by_cases length : lenField message.payload = 4
          · rw [if_pos length, if_pos (fourBytes.mpr length)]
            exact word_agrees message (serves.run fronts (.getVar _))
          · rw [if_neg length, if_neg (length ∘ fourBytes.mp)]
            exact ⟨rfl, fronts⟩
      | setVar =>
          have fits : 1 + Thermal.setVariableRequestSize ≤ 112 := Nat.le_of_ble_eq_true rfl
          have fourBytes : Thermal.requestLen (argument message.payload fits) = Thermal.variableValueLen <->
              lenField message.payload = 4 := Thermal.requestLen_eq message.payload fits
          dsimp only
          rw [withRequest_argument direct message.payload fits]
          by_cases length : lenField message.payload = 4
          · rw [if_pos length, if_pos (fourBytes.mpr length)]
            exact status_agrees message (serves.run fronts (.setVar _))
          · rw [if_neg length, if_neg (length ∘ fourBytes.mp)]
            exact ⟨rfl, fronts⟩

theorem timeAlarm (serves : controller.Serves firmware Stands) (fronts : Fronts Stands direct there)
    (message : MsgSendDirectReq2) :
    Agree (Fronts Stands) (TimeAlarm.ffaMsgSendDirectReq2 direct message)
      ((TimeAlarm.treatment message).carryOut firmware there) := by
  unfold TimeAlarm.ffaMsgSendDirectReq2 TimeAlarm.treatment
  cases TimeAlarm.TimeAlarmCommand.tryFrom ((message.payload.u8At 0).setWidth 16) with
  | none => exact ⟨rfl, fronts⟩
  | some command =>
      cases command with
      | getCapabilities => exact word_agrees message (serves.run fronts .getCapabilities)
      | getRealTime =>
          exact value_agrees TimeAlarm.invalidTimestamp (fun timestamp => .ok (.fromReqWithPayload message
            (DirectMessagePayload.fromIter timestamp.val (by rw [timestamp.property]; decide))))
            (serves.run fronts .getRealTime)
      | getWakeStatus =>
          dsimp only
          rw [withRequest_argument direct message.payload (by decide)]
          exact word_agrees message (serves.run fronts (.getWakeStatus _))
      | setTimerValue =>
          dsimp only
          rw [withRequest_argument direct message.payload (by decide)]
          exact status_agrees message (serves.run fronts (.setTimerValue _))
      | getTimerValue =>
          dsimp only
          rw [withRequest_argument direct message.payload (by decide)]
          exact word_agrees message (serves.run fronts (.getTimerValue _))
      | getExpiredTimerPolicy =>
          dsimp only
          rw [withRequest_argument direct message.payload (by decide)]
          exact word_agrees message (serves.run fronts (.getExpiredTimerPolicy _))

theorem battery (serves : controller.Serves firmware Stands) (fronts : Fronts Stands direct there)
    (message : MsgSendDirectReq2) :
    Agree (Fronts Stands) (Battery.ffaMsgSendDirectReq2 direct message)
      ((Battery.treatment message).carryOut firmware there) := by
  unfold Battery.ffaMsgSendDirectReq2 Battery.treatment
  dsimp only
  cases Battery.BatteryCommand.tryFrom ((message.payload.u8At 0).setWidth 16) with
  | none => exact ⟨rfl, fronts⟩
  | some command =>
      cases command with
      | getBst => exact battery_agrees message _ _ (serves.run fronts (.getBst _))
      | getBix => exact battery_agrees message _ _ (serves.run fronts (.getBix _))
      | setBtp => exact battery_agrees message _ _ (serves.run fronts (.setBtp _ _))

end Controller.Serves

end Ec
end SecureServices
