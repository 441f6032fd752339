import SecureServices.Ec.Parsers

namespace SecureServices
namespace Ec

open Library Ffa

/-!
# What the services forward and answer

The three services are tables: for each command which bytes of the payload go
to the controller, under which message id, which id the reply must have, and
what becomes of the reply.  The tables are written down here as contracts, in
terms of bytes and lengths.  The handlers, which work with typed requests and
decoded values, keep the contracts for every payload and every reply.

How often the relay is used is seen by recording its calls.
-/

/-! ## Relays -/

/-- A relay that exchanges the request for a response or an error, and gives
the response to the parser.  The parser has no part in the exchange. -/
class Exchanges (R : Type) [Relay R] where
  exchange : R -> (requestHeader requestBody : List U8) -> Except EcRelayError OdpResponse × R
  invoke_eq : forall {Value : Type} (relay : R) (requestHeader requestBody : List U8)
    (parseResponse : OdpResponse -> Except EcRelayError Value),
    Relay.invoke relay requestHeader requestBody parseResponse =
      ((exchange relay requestHeader requestBody).1.bind parseResponse,
        (exchange relay requestHeader requestBody).2)

/-- The relay over a transport is such a relay. -/
instance {mctp : MctpRs} {T : Type} [OdpTransport T] : Exchanges (EcRelay mctp T) where
  exchange := fun relay requestHeader requestBody => EcRelay.invoke relay requestHeader requestBody .ok
  invoke_eq := by
    intro Value relay requestHeader requestBody parseResponse
    change EcRelay.invoke relay requestHeader requestBody parseResponse = _
    unfold EcRelay.invoke
    split
    · rfl
    · split
      · rfl
      · split
        · rfl
        · rename_i packet transport _
          dsimp only
          cases EcRelay.decodePacket mctp packet <;> rfl

/-- A relay, with the header and body of each of its calls. -/
structure Recorded (R : Type) where
  relay : R
  calls : List (List U8 × List U8)

section

variable {R Value : Type} [Relay R]

instance : Relay (Recorded R) where
  invoke := fun recorded requestHeader requestBody parseResponse =>
    let (result, relay) := Relay.invoke recorded.relay requestHeader requestBody parseResponse
    (result, ⟨relay, recorded.calls ++ [(requestHeader, requestBody)]⟩)

/-- The reply to a request, or why there is none. -/
def replyTo [Exchanges R] (recorded : Recorded R) (serviceId : U8) (messageId responseId : U16)
    (body : List U8) : Except EcRelayError (List U8) :=
  (Exchanges.exchange recorded.relay (buildOdpHeader true serviceId messageId) body).1.bind
    (checkEnvelope serviceId responseId .ok)

/-- The body of an accepted envelope goes to the parser. -/
theorem checkEnvelope_eq (serviceId : U8) (responseId : U16)
    (parseBody : List U8 -> Except EcRelayError Value) (response : OdpResponse) :
    checkEnvelope serviceId responseId parseBody response =
      (checkEnvelope serviceId responseId .ok response).bind parseBody := by
  unfold checkEnvelope
  split_ifs <;> rfl

/-- A request is one call, whose reply goes to the parser. -/
theorem requestWithResponseId_recorded [Exchanges R] (recorded : Recorded R) (serviceId : U8)
    (messageId responseId : U16) (body : List U8) (parseBody : List U8 -> Except EcRelayError Value) :
    exists relay, requestWithResponseId recorded serviceId messageId responseId body parseBody =
      (((replyTo recorded serviceId messageId responseId body).bind parseBody).mapError .relay,
        ⟨relay, recorded.calls ++ [(buildOdpHeader true serviceId messageId, body)]⟩) := by
  have invoked := Exchanges.invoke_eq recorded.relay (buildOdpHeader true serviceId messageId) body
    (checkEnvelope serviceId responseId parseBody)
  have parsed : (Exchanges.exchange recorded.relay (buildOdpHeader true serviceId messageId) body).1.bind
      (checkEnvelope serviceId responseId parseBody) =
        (replyTo recorded serviceId messageId responseId body).bind parseBody := by
    unfold replyTo
    cases (Exchanges.exchange recorded.relay (buildOdpHeader true serviceId messageId) body).1 with
    | error reason => rfl
    | ok response => exact checkEnvelope_eq serviceId responseId parseBody response
  rw [parsed] at invoked
  refine ⟨(Exchanges.exchange recorded.relay (buildOdpHeader true serviceId messageId) body).2, ?_⟩
  change (Except.mapError ShimError.relay (Relay.invoke recorded.relay _ body _).1,
    Recorded.mk (Relay.invoke recorded.relay _ body _).2 _) = _
  rw [invoked]

end

/-! ## Contracts -/

/-- What a service does with a command that it knows. -/
inductive Contract where
  | reject (bytes : List U8)
  | forward (command responseId : U16) (body : List U8)
      (answer : Except EcRelayError (List U8) -> Option (List U8))

/-- The response carries the bytes and then zeros, or there is none. -/
def Carries (result : Except Error MsgSendDirectResp2) (bytes : Option (List U8)) : Prop :=
  match result, bytes with
  | .ok response, some bytes =>
      response.payload.bytes = bytes ++ List.replicate (112 - bytes.length) 0
  | .error _, none => True
  | _, _ => False

/-- A rejected request is answered without a call.  A forwarded one makes one
call, and is answered according to the reply. -/
def Contract.Kept {R : Type} [Relay R] [Exchanges R] (contract : Contract) (serviceId : U8)
    (recorded : Recorded R) (handled : Except Error MsgSendDirectResp2 × Recorded R) : Prop :=
  match contract with
  | .reject bytes => handled.2.calls = recorded.calls ∧ Carries handled.1 (some bytes)
  | .forward command responseId body answer =>
      handled.2.calls = recorded.calls ++ [(buildOdpHeader true serviceId command, body)] ∧
        Carries handled.1 (answer (replyTo recorded serviceId command responseId body))

/-- A command that the service does not know. -/
def Unknown {R : Type} (recorded : Recorded R)
    (handled : Except Error MsgSendDirectResp2 × Recorded R) : Prop :=
  handled.2.calls = recorded.calls ∧ Carries handled.1 none

/-- A number of error words. -/
def sentinels (count : Nat) : List U8 := List.replicate (4 * count) 0xFF

/-- The whole reply, if it has the right length. -/
def exactly (count : Nat) (failed : Option (List U8)) : Except EcRelayError (List U8) -> Option (List U8)
  | .ok body => if body.length = count then some body else failed
  | .error _ => failed

/-- The front of the reply, if it is long enough. -/
def atLeast (count : Nat) : Except EcRelayError (List U8) -> Option (List U8)
  | .ok body => if count ≤ body.length then some (body.take count) else none
  | .error _ => none

/-- The status word of a setter: zero for an empty reply, the code of the
controller for an error that it reports, and the error word otherwise. -/
def status : Except EcRelayError (List U8) -> Option (List U8)
  | .ok body => some (if body = [] then leBytes 4 (0 : U32) else sentinels 1)
  | .error (.remote code) => some (leBytes 4 (code.setWidth 32))
  | .error _ => some (sentinels 1)

/-- The bytes after the command byte. -/
def afterCommand (payload : DirectMessagePayload) (count : Nat) : List U8 :=
  (payload.bytes.drop 1).take count

/-- The `len` field that the variable commands have in common. -/
def lenField (payload : DirectMessagePayload) : Nat :=
  (payload.u8At 2).toNat + 256 * (payload.u8At 3).toNat

namespace Thermal

/-- The contract of each command. -/
def contract (payload : DirectMessagePayload) (command : ThermalCommand) : Contract :=
  let forward := Contract.forward command.toU16 command.toU16
  match command with
  | .getTmp => forward (afterCommand payload 1) (exactly 4 (some (sentinels 1)))
  | .setThrs => forward (afterCommand payload 13) status
  | .getThrs => forward (afterCommand payload 1) (exactly 12 (some (sentinels 3)))
  | .setScp => forward (afterCommand payload 13) status
  | .getVar =>
      if lenField payload = 4 then forward (afterCommand payload 19) (exactly 4 (some (sentinels 1)))
      else .reject (sentinels 1)
  | .setVar =>
      if lenField payload = 4 then forward (afterCommand payload 23) status
      else .reject (leBytes 4 (1 : U32))

end Thermal

namespace TimeAlarm

/-- The message id that the reply to each command must have. -/
def responseId : TimeAlarmCommand -> U16
  | .getCapabilities => 1
  | .getRealTime => 2
  | .getWakeStatus => 3
  | .setTimerValue => 6
  | .getTimerValue => 5
  | .getExpiredTimerPolicy => 4

/-- The contract of each command.  A time that cannot be read is all zeros. -/
def contract (payload : DirectMessagePayload) (command : TimeAlarmCommand) : Contract :=
  let forward := Contract.forward command.toU16 (responseId command)
  match command with
  | .getCapabilities => forward [] (exactly 4 (some (sentinels 1)))
  | .getRealTime => forward [] (exactly 16 (some (List.replicate 16 0)))
  | .getWakeStatus => forward (afterCommand payload 4) (exactly 4 (some (sentinels 1)))
  | .setTimerValue => forward (afterCommand payload 8) status
  | .getTimerValue => forward (afterCommand payload 4) (exactly 4 (some (sentinels 1)))
  | .getExpiredTimerPolicy => forward (afterCommand payload 4) (exactly 4 (some (sentinels 1)))

end TimeAlarm

namespace Battery

/-- The contract of each command.  A failure is reported as an error. -/
def contract (payload : DirectMessagePayload) (command : BatteryCommand) : Contract :=
  let forward := Contract.forward command.toU16 command.toU16
  match command with
  | .getBst => forward (afterCommand payload 1) (atLeast 16)
  | .getBix => forward (afterCommand payload 1) (exactly 100 none)
  | .setBtp => forward (payload.u8At 1 :: (payload.bytes.drop 4).take 4) (exactly 0 none)

end Battery

/-! ## The handlers keep the contracts -/

section

variable {R : Type} [Relay R] [Exchanges R] (recorded : Recorded R) (message : MsgSendDirectReq2)
  (serviceId : U8) (messageId responseId : U16) (body : List U8)

/-- Words are carried as their bytes, one after the other. -/
theorem carries_words {words : List U32} (fits : words.length ≤ 28) {bytes : List U8}
    (same : words.flatMap (fun word => leBytes 4 word) = bytes) :
    Carries (.ok (.fromReqWithPayload message (wordsPayload words fits))) (some bytes) := by
  change words.flatMap (fun word => leBytes 4 word) ++ _ = _
  rw [same]

theorem carries_scalar (value : U32) {bytes : List U8} (same : leBytes 4 value = bytes) :
    Carries (.ok (.fromReqWithPayload message (scalarPayload value))) (some bytes) := by
  apply carries_words message
  rw [List.flatMap_singleton, same]

theorem leBytes_sentinel : leBytes 4 localErrorSentinel = sentinels 1 := by decide

/-- A getter of one word. -/
theorem scalarGetter_kept :
    (Contract.forward messageId responseId body (exactly 4 (some (sentinels 1)))).Kept serviceId recorded
      (respondScalar message (unwrapOr localErrorSentinel
        (requestWithResponseId recorded serviceId messageId responseId body parseU32))) := by
  rcases requestWithResponseId_recorded recorded serviceId messageId responseId body parseU32
    with ⟨relay, sent⟩
  rw [sent]
  refine ⟨rfl, ?_⟩
  cases replyTo recorded serviceId messageId responseId body with
  | error reason => exact carries_scalar message localErrorSentinel leBytes_sentinel
  | ok reply =>
      by_cases length : reply.length = 4
      · have word : leBytes 4 (wordAt reply 0) = reply := by
          rw [← ofLeBytes_eq_wordAt length, leBytes_ofLeBytes length]
        simp only [Except.bind, parseU32_of_length length, exactly, if_pos length]
        exact carries_scalar message _ word
      · rcases parseU32_exact.error_of_ne length with ⟨error, failed⟩
        simp only [Except.bind, failed, exactly, if_neg length]
        exact carries_scalar message localErrorSentinel leBytes_sentinel

/-- A setter. -/
theorem setter_kept :
    (Contract.forward messageId responseId body status).Kept serviceId recorded
      (respondScalar message (statusOf
        (requestWithResponseId recorded serviceId messageId responseId body parseEmptyResponse))) := by
  rcases requestWithResponseId_recorded recorded serviceId messageId responseId body parseEmptyResponse
    with ⟨relay, sent⟩
  rw [sent]
  refine ⟨rfl, ?_⟩
  cases replyTo recorded serviceId messageId responseId body with
  | error reason =>
      cases reason with
      | remote code => exact carries_scalar message _ rfl
      | _ => exact carries_scalar message localErrorSentinel leBytes_sentinel
  | ok reply =>
      cases reply with
      | nil => exact carries_scalar message 0 rfl
      | cons byte rest => exact carries_scalar message localErrorSentinel leBytes_sentinel

end

/-! ## Requests as bytes -/

/-- A request type of the given size is the bytes after the command. -/
theorem withRequest_eq {R : Type} (recorded : Recorded R) (payload : DirectMessagePayload) {size : Nat}
    (fits : 1 + size ≤ 112) (send : Bytes size -> U32 × Recorded R) :
    withRequest size recorded payload send =
      send ⟨afterCommand payload size, payload.length_slice fits⟩ := by
  rw [withRequest, parseFfaRequest, dif_pos fits]
  rfl

/-- The bytes from an offset on begin with the byte at the offset. -/
theorem drop_payload (payload : DirectMessagePayload) (offset : Fin 112) :
    payload.bytes.drop offset = payload.u8At offset :: payload.bytes.drop (offset + 1) := by
  have inside : offset.val < payload.bytes.length := by
    rw [payload.length_bytes]
    exact offset.isLt
  rw [List.drop_eq_getElem_cons inside, DirectMessagePayload.u8At,
    List.getD_eq_getElem?_getD, List.getElem?_eq_getElem inside, Option.getD_some]

theorem afterCommand_one (payload : DirectMessagePayload) :
    afterCommand payload 1 = [payload.u8At 1] := by
  have front := drop_payload payload 1
  change payload.bytes.drop 1 = _ at front
  rw [afterCommand, front, List.take_succ_cons, List.take_zero]

/-- No command has the number. -/
theorem find_command_eq_none {Command : Type} {commands : List Command} {toU16 : Command -> U16}
    {value : U16} (unknown : forall command, value ≠ toU16 command) :
    commands.find? (fun command => toU16 command == value) = none := by
  apply List.find?_eq_none.mpr
  intro command _ same
  exact unknown command (beq_iff_eq.mp same).symm

namespace Thermal

/-- Two bytes spell four in little-endian order exactly when they are these. -/
theorem ofLeBytes_eq_four (low high : U8) :
    ofLeBytes 16 [low, high] = variableValueLen <-> low.toNat + 256 * high.toNat = 4 := by
  constructor
  · intro same
    have bytes : leBytes 2 (ofLeBytes 16 [low, high]) = [low, high] := leBytes_ofLeBytes rfl
    rw [same] at bytes
    cases bytes
    decide
  · intro sum
    have lowByte : low = 4 := BitVec.eq_of_toNat_eq (by
      have small := low.isLt
      change low.toNat = 4
      omega)
    have highByte : high = 0 := BitVec.eq_of_toNat_eq (by
      change high.toNat = 0
      omega)
    rw [lowByte, highByte]
    decide

/-- The check of the `len` field is one of the two bytes after the instance. -/
theorem requestLen_eq (payload : DirectMessagePayload) {size : Nat} (fits : 1 + (size + 3) ≤ 112) :
    requestLen (⟨afterCommand payload (size + 3), payload.length_slice fits⟩ : Bytes (size + 3)) =
      variableValueLen <-> lenField payload = 4 := by
  have first := drop_payload payload 1
  have second := drop_payload payload 2
  have third := drop_payload payload 3
  change payload.bytes.drop 1 = _ at first
  change payload.bytes.drop 2 = _ at second
  change payload.bytes.drop 3 = _ at third
  have field : ((afterCommand payload (size + 3)).drop 1).take 2 = [payload.u8At 2, payload.u8At 3] := by
    rw [afterCommand, first]
    change (List.take (size + 2) (payload.bytes.drop 2)).take 2 = _
    rw [second]
    change (payload.u8At 2 :: List.take (size + 1) (payload.bytes.drop 3)).take 2 = _
    rw [third]
    rfl
  rw [requestLen, field]
  exact ofLeBytes_eq_four _ _

variable {R : Type} [Relay R] [Exchanges R] (recorded : Recorded R) (message : MsgSendDirectReq2)

/-- The three words of a threshold. -/
theorem getThrs_kept (body : List U8) :
    (Contract.forward 3 3 body (exactly 12 (some (sentinels 3)))).Kept serviceId recorded
      (let ((timeout, low, high), relay) :=
        unwrapOr (localErrorSentinel, localErrorSentinel, localErrorSentinel)
          (request recorded serviceId 3 body parseThreshold)
      (.ok (.fromReqWithPayload message (thresholdPayload timeout low high)), relay)) := by
  have failure : [localErrorSentinel, localErrorSentinel, localErrorSentinel].flatMap
      (fun word => leBytes 4 word) = sentinels 3 := by decide
  rcases requestWithResponseId_recorded recorded serviceId 3 3 body parseThreshold with ⟨relay, sent⟩
  rw [request, sent]
  refine ⟨rfl, ?_⟩
  cases replyTo recorded serviceId 3 3 body with
  | error reason => exact carries_words message _ failure
  | ok reply =>
      by_cases length : reply.length = 12
      · simp only [Except.bind, parseThreshold_of_length length, exactly, if_pos length]
        apply carries_words message
        have words := flatMap_wordAt (Nat.le_of_eq length.symm : 4 * 3 ≤ reply.length)
        rw [List.take_of_length_le (Nat.le_of_eq length)] at words
        exact words
      · rcases parseThreshold_exact.error_of_ne length with ⟨error, failed⟩
        simp only [Except.bind, failed, exactly, if_neg length]
        exact carries_words message _ failure

theorem tryFrom_toU16 (command : ThermalCommand) : ThermalCommand.tryFrom command.toU16 = some command := by
  cases command <;> rfl

/-- Every known command keeps its contract. -/
theorem handler_kept {command : ThermalCommand}
    (asked : (message.payload.u8At 0).setWidth 16 = command.toU16) :
    (contract message.payload command).Kept serviceId recorded (ffaMsgSendDirectReq2 recorded message) := by
  unfold ffaMsgSendDirectReq2
  rw [asked, tryFrom_toU16]
  cases command with
  | getTmp =>
      change (Contract.forward 1 1 (afterCommand message.payload 1) _).Kept _ _ _
      rw [afterCommand_one]
      exact scalarGetter_kept recorded message serviceId 1 1 _
  | setThrs =>
      dsimp only
      rw [withRequest_eq recorded message.payload (Nat.le_of_ble_eq_true rfl)]
      exact setter_kept recorded message serviceId 2 2 _
  | getThrs =>
      change (Contract.forward 3 3 (afterCommand message.payload 1) _).Kept _ _ _
      rw [afterCommand_one]
      exact getThrs_kept recorded message _
  | setScp =>
      dsimp only
      rw [withRequest_eq recorded message.payload (Nat.le_of_ble_eq_true rfl)]
      exact setter_kept recorded message serviceId 4 4 _
  | getVar =>
      have fits : 1 + getVariableRequestSize ≤ 112 := Nat.le_of_ble_eq_true rfl
      dsimp only
      rw [withRequest_eq recorded message.payload fits, contract]
      by_cases length : lenField message.payload = 4
      · rw [if_pos length, if_pos ((requestLen_eq message.payload fits).mpr length)]
        exact scalarGetter_kept recorded message serviceId 5 5 _
      · rw [if_neg length, if_neg (fun same => length ((requestLen_eq message.payload fits).mp same))]
        exact ⟨rfl, carries_scalar message localErrorSentinel leBytes_sentinel⟩
  | setVar =>
      have fits : 1 + setVariableRequestSize ≤ 112 := Nat.le_of_ble_eq_true rfl
      dsimp only
      rw [withRequest_eq recorded message.payload fits, contract]
      by_cases length : lenField message.payload = 4
      · rw [if_pos length, if_pos ((requestLen_eq message.payload fits).mpr length)]
        exact setter_kept recorded message serviceId 6 6 _
      · rw [if_neg length, if_neg (fun same => length ((requestLen_eq message.payload fits).mp same))]
        exact ⟨rfl, carries_scalar message invalidParameterStatus rfl⟩

theorem handler_unknown {R : Type} [Relay R] (recorded : Recorded R) (message : MsgSendDirectReq2)
    (unknown : forall command : ThermalCommand, (message.payload.u8At 0).setWidth 16 ≠ command.toU16) :
    Unknown recorded (ffaMsgSendDirectReq2 recorded message) := by
  unfold ffaMsgSendDirectReq2 ThermalCommand.tryFrom
  rw [find_command_eq_none unknown]
  exact ⟨rfl, trivial⟩

end Thermal

namespace TimeAlarm

variable {R : Type} [Relay R] [Exchanges R] (recorded : Recorded R) (message : MsgSendDirectReq2)

theorem tryFrom_toU16 (command : TimeAlarmCommand) :
    TimeAlarmCommand.tryFrom command.toU16 = some command := by
  cases command <;> rfl

/-- The time is sixteen bytes, which are zero if it cannot be read. -/
theorem getRealTime_kept :
    (Contract.forward 2 2 [] (exactly 16 (some (List.replicate 16 0)))).Kept serviceId recorded
      (let (timestamp, relay) := unwrapOr invalidTimestamp (getRealTime recorded)
      let payload := DirectMessagePayload.fromIter timestamp.val (by rw [timestamp.property]; decide)
      (.ok (.fromReqWithPayload message payload), relay)) := by
  rcases requestWithResponseId_recorded recorded serviceId 2 2 [] (takeExactArray acpiTimestampLen)
    with ⟨relay, sent⟩
  have answered : getRealTime recorded = _ := sent
  rw [answered]
  refine ⟨rfl, ?_⟩
  cases replyTo recorded serviceId 2 2 [] with
  | error reason => rfl
  | ok reply =>
      by_cases length : reply.length = 16
      · simp only [Except.bind, takeExactArray_of_length length, exactly, if_pos length]
        rfl
      · rcases (takeExactArray_exact _).error_of_ne length with ⟨error, failed⟩
        simp only [Except.bind, failed, exactly, if_neg length]
        rfl

/-- Every known command keeps its contract. -/
theorem handler_kept {command : TimeAlarmCommand}
    (asked : (message.payload.u8At 0).setWidth 16 = command.toU16) :
    (contract message.payload command).Kept serviceId recorded (ffaMsgSendDirectReq2 recorded message) := by
  unfold ffaMsgSendDirectReq2
  rw [asked, tryFrom_toU16]
  cases command with
  | getCapabilities => exact scalarGetter_kept recorded message serviceId 1 1 []
  | getRealTime => exact getRealTime_kept recorded message
  | getWakeStatus =>
      dsimp only
      rw [withRequest_eq recorded message.payload (Nat.le_of_ble_eq_true rfl)]
      exact scalarGetter_kept recorded message serviceId 4 3 _
  | setTimerValue =>
      dsimp only
      rw [withRequest_eq recorded message.payload (Nat.le_of_ble_eq_true rfl)]
      exact setter_kept recorded message serviceId 6 6 _
  | getTimerValue =>
      dsimp only
      rw [withRequest_eq recorded message.payload (Nat.le_of_ble_eq_true rfl)]
      exact scalarGetter_kept recorded message serviceId 7 5 _
  | getExpiredTimerPolicy =>
      dsimp only
      rw [withRequest_eq recorded message.payload (Nat.le_of_ble_eq_true rfl)]
      exact scalarGetter_kept recorded message serviceId 9 4 _

theorem handler_unknown {R : Type} [Relay R] (recorded : Recorded R) (message : MsgSendDirectReq2)
    (unknown : forall command : TimeAlarmCommand, (message.payload.u8At 0).setWidth 16 ≠ command.toU16) :
    Unknown recorded (ffaMsgSendDirectReq2 recorded message) := by
  unfold ffaMsgSendDirectReq2 TimeAlarmCommand.tryFrom
  rw [find_command_eq_none unknown]
  exact ⟨rfl, trivial⟩

end TimeAlarm

namespace Battery

theorem tryFrom_toU16 (command : BatteryCommand) :
    BatteryCommand.tryFrom command.toU16 = some command := by
  cases command <;> rfl

variable {R : Type} [Relay R] [Exchanges R] (recorded : Recorded R) (message : MsgSendDirectReq2)

/-- A command whose reply is decoded, or whose failure is an error. -/
theorem conclude_kept {Value : Type} (text : String) (intoPayload : Value -> DirectMessagePayload)
    (messageId : U16) (body : List U8) (parseBody : List U8 -> Except EcRelayError Value)
    {answer : Except EcRelayError (List U8) -> Option (List U8)}
    (failed : forall reason, answer (.error reason) = none)
    (decoded : forall reply, match parseBody reply with
      | .ok value => Carries (.ok (.fromReqWithPayload message (intoPayload value))) (answer (.ok reply))
      | .error _ => answer (.ok reply) = none) :
    (Contract.forward messageId messageId body answer).Kept serviceId recorded
      (conclude message text intoPayload (request recorded serviceId messageId body parseBody)) := by
  rcases requestWithResponseId_recorded recorded serviceId messageId messageId body parseBody
    with ⟨relay, sent⟩
  rw [request, sent]
  cases reply : replyTo recorded serviceId messageId messageId body with
  | error reason =>
      refine ⟨rfl, ?_⟩
      rw [reply, failed]
      trivial
  | ok bytes =>
      have answered := decoded bytes
      cases parsed : parseBody bytes with
      | error reason =>
          rw [parsed] at answered
          simp only [Except.bind, parsed]
          refine ⟨rfl, ?_⟩
          rw [reply, answered]
          trivial
      | ok value =>
          rw [parsed] at answered
          simp only [Except.bind, parsed]
          refine ⟨rfl, ?_⟩
          rw [reply]
          exact answered

/-- Every known command keeps its contract. -/
theorem handler_kept {command : BatteryCommand}
    (asked : (message.payload.u8At 0).setWidth 16 = command.toU16) :
    (contract message.payload command).Kept serviceId recorded (ffaMsgSendDirectReq2 recorded message) := by
  unfold ffaMsgSendDirectReq2
  rw [asked, tryFrom_toU16]
  cases command with
  | getBst =>
      change (Contract.forward 2 2 (afterCommand message.payload 1) _).Kept _ _ _
      rw [afterCommand_one]
      apply conclude_kept recorded message
      · exact fun _ => rfl
      · intro reply
        by_cases long : 16 ≤ reply.length
        · rw [parseBst_of_le long, atLeast, if_pos long]
          have words : (List.range 4).flatMap (fun index => leBytes 4 (wordAt reply index)) = reply.take 16 :=
            flatMap_wordAt long
          exact carries_words message _ words
        · rw [parseBst_of_lt (Nat.lt_of_not_le long), atLeast, if_neg long]
  | getBix =>
      change (Contract.forward 1 1 (afterCommand message.payload 1) _).Kept _ _ _
      rw [afterCommand_one]
      apply conclude_kept recorded message
      · exact fun _ => rfl
      · intro reply
        by_cases length : reply.length = 100
        · rw [takeExactArray_of_length length, exactly, if_pos length]
          rfl
        · rcases (takeExactArray_exact _).error_of_ne length with ⟨reason, failed⟩
          rw [failed, exactly, if_neg length]
  | setBtp =>
      have tripPoint : leBytes 4 (message.payload.u32At 4 (by decide)) =
          (message.payload.bytes.drop 4).take 4 :=
        leBytes_ofLeBytes (message.payload.length_slice (Nat.le_of_ble_eq_true rfl))
      change (Contract.forward 6 6 (_ :: (message.payload.bytes.drop 4).take 4) _).Kept _ _ _
      rw [← tripPoint]
      apply conclude_kept recorded message
      · exact fun _ => rfl
      · intro reply
        cases reply with
        | nil => rfl
        | cons byte rest => rfl

theorem handler_unknown {R : Type} [Relay R] (recorded : Recorded R) (message : MsgSendDirectReq2)
    (unknown : forall command : BatteryCommand, (message.payload.u8At 0).setWidth 16 ≠ command.toU16) :
    Unknown recorded (ffaMsgSendDirectReq2 recorded message) := by
  unfold ffaMsgSendDirectReq2 BatteryCommand.tryFrom
  rw [find_command_eq_none unknown]
  exact ⟨rfl, trivial⟩

end Battery

/-- For every payload and every reply, each of the three services forwards the
commands it knows and answers them as their contracts say, and answers any
other command with an error and without a call. -/
theorem services_forward {R : Type} [Relay R] [Exchanges R] (recorded : Recorded R)
    (message : MsgSendDirectReq2) :
    ((forall command : Thermal.ThermalCommand, (message.payload.u8At 0).setWidth 16 = command.toU16 ->
        (Thermal.contract message.payload command).Kept Thermal.serviceId recorded
          (Thermal.ffaMsgSendDirectReq2 recorded message)) ∧
      ((forall command : Thermal.ThermalCommand, (message.payload.u8At 0).setWidth 16 ≠ command.toU16) ->
        Unknown recorded (Thermal.ffaMsgSendDirectReq2 recorded message))) ∧
    ((forall command : TimeAlarm.TimeAlarmCommand, (message.payload.u8At 0).setWidth 16 = command.toU16 ->
        (TimeAlarm.contract message.payload command).Kept TimeAlarm.serviceId recorded
          (TimeAlarm.ffaMsgSendDirectReq2 recorded message)) ∧
      ((forall command : TimeAlarm.TimeAlarmCommand,
          (message.payload.u8At 0).setWidth 16 ≠ command.toU16) ->
        Unknown recorded (TimeAlarm.ffaMsgSendDirectReq2 recorded message))) ∧
    ((forall command : Battery.BatteryCommand, (message.payload.u8At 0).setWidth 16 = command.toU16 ->
        (Battery.contract message.payload command).Kept Battery.serviceId recorded
          (Battery.ffaMsgSendDirectReq2 recorded message)) ∧
      ((forall command : Battery.BatteryCommand, (message.payload.u8At 0).setWidth 16 ≠ command.toU16) ->
        Unknown recorded (Battery.ffaMsgSendDirectReq2 recorded message))) :=
  ⟨⟨fun _ => Thermal.handler_kept recorded message, Thermal.handler_unknown recorded message⟩,
    ⟨fun _ => TimeAlarm.handler_kept recorded message, TimeAlarm.handler_unknown recorded message⟩,
    ⟨fun _ => Battery.handler_kept recorded message, Battery.handler_unknown recorded message⟩⟩

end Ec
end SecureServices
