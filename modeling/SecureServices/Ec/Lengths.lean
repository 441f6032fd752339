import SecureServices.Ec.Forwarding
import SecureServices.Ec.Envelope

namespace SecureServices
namespace Ec

open Library

/-!
# The lengths of response bodies

Every typed call of the three services has one documented length of response
body, and fields that fill it.  The parsers are chains of `take_array` that end
in `take_exact_array`, and such a chain accepts exactly one length, whatever
the fields are.  The chain of `get_bst` ends in a `take_array`, so it does not
look at what follows its last field.
-/

/-! ## The typed calls -/

/-- The calls of the three services to the controller, with their arguments. -/
inductive TypedCall where
  | getBst (batteryId : U8)
  | getBix (batteryId : U8)
  | setBtp (batteryId : U8) (tripPoint : U32)
  | getTemperature (instanceId : U8)
  | setThreshold (body : Bytes Thermal.setThresholdRequestSize)
  | getThreshold (instanceId : U8)
  | setScp (body : Bytes Thermal.setCoolingPolicyRequestSize)
  | getVar (body : Bytes Thermal.getVariableRequestSize)
  | setVar (body : Bytes Thermal.setVariableRequestSize)
  | getRealTime
  | getCapabilities
  | getWakeStatus (body : Bytes TimeAlarm.timerRequestSize)
  | setTimerValue (body : Bytes TimeAlarm.setTimerValueRequestSize)
  | getTimerValue (body : Bytes TimeAlarm.timerRequestSize)
  | getExpiredTimerPolicy (body : Bytes TimeAlarm.timerRequestSize)

namespace TypedCall

/-- The type of what a call returns. -/
abbrev Value : TypedCall -> Type
  | .getBst _ => Battery.BstReturnRaw
  | .getBix _ => Bytes Battery.bixResponseLen
  | .setBtp _ _ | .setThreshold _ | .setScp _ | .setVar _ | .setTimerValue _ => Unit
  | .getThreshold _ => U32 × U32 × U32
  | .getRealTime => Bytes TimeAlarm.acpiTimestampLen
  | .getTemperature _ | .getVar _ | .getCapabilities | .getWakeStatus _ | .getTimerValue _
  | .getExpiredTimerPolicy _ => U32

/-- The call itself. -/
def run {R : Type} [Relay R] (relay : R) : (call : TypedCall) -> Except ShimError call.Value × R
  | .getBst batteryId => Battery.getBst relay batteryId
  | .getBix batteryId => Battery.getBix relay batteryId
  | .setBtp batteryId tripPoint => Battery.setBtp relay batteryId tripPoint
  | .getTemperature instanceId => Thermal.getTemperature relay instanceId
  | .setThreshold body => Thermal.setThreshold relay body
  | .getThreshold instanceId => Thermal.getThreshold relay instanceId
  | .setScp body => Thermal.setScp relay body
  | .getVar body => Thermal.getVar relay body
  | .setVar body => Thermal.setVar relay body
  | .getRealTime => TimeAlarm.getRealTime relay
  | .getCapabilities => TimeAlarm.getCapabilities relay
  | .getWakeStatus body => TimeAlarm.getWakeStatus relay body
  | .setTimerValue body => TimeAlarm.setTimerValue relay body
  | .getTimerValue body => TimeAlarm.getTimerValue relay body
  | .getExpiredTimerPolicy body => TimeAlarm.getExpiredTimerPolicy relay body

/-- The documented length of the response body. -/
def responseLen : TypedCall -> Nat
  | .getBst _ => 16
  | .getBix _ => 100
  | .setBtp _ _ => 0
  | .getTemperature _ => 4
  | .setThreshold _ => 0
  | .getThreshold _ => 12
  | .setScp _ => 0
  | .getVar _ => 4
  | .setVar _ => 0
  | .getRealTime => 16
  | .getCapabilities => 4
  | .getWakeStatus _ => 4
  | .setTimerValue _ => 0
  | .getTimerValue _ => 4
  | .getExpiredTimerPolicy _ => 4

/-- What the documentation says of a value and the body it is read from. -/
def Reads (body : List U8) : (call : TypedCall) -> call.Value -> Prop
  | .getBst _ => fun bst =>
      bst = ⟨wordAt body 0, wordAt body 1, wordAt body 2, wordAt body 3⟩
  | .getBix _ => fun bix => bix.val = body
  | .getThreshold _ => fun threshold => threshold = (wordAt body 0, wordAt body 1, wordAt body 2)
  | .getRealTime => fun timestamp => timestamp.val = body
  | .setBtp _ _ | .setThreshold _ | .setScp _ | .setVar _ | .setTimerValue _ => fun _ => True
  | .getTemperature _ | .getVar _ | .getCapabilities | .getWakeStatus _ | .getTimerValue _
  | .getExpiredTimerPolicy _ => fun word => word = wordAt body 0

/-- The documented result of a call for a response body. -/
structure Documented (call : TypedCall) (body : List U8) (result : Except ShimError call.Value) :
    Prop where
  returns : (exists value, result = .ok value) <-> body.length = call.responseLen
  reads : forall value, result = .ok value -> call.Reads body value
  short : body.length < call.responseLen -> result = .error (.relay .bodyTooShort)
  long : call.responseLen < body.length -> result = .error (.relay .bodyTooLong)

/-! ## What the calls do with a response body -/

/-- What goes to the controller, and the message id of the response to it. -/
structure Asks where
  serviceId : U8
  messageId : U16
  responseId : U16
  body : List U8

def asks : TypedCall -> Asks
  | .getBst batteryId => ⟨Battery.serviceId, 2, 2, [batteryId]⟩
  | .getBix batteryId => ⟨Battery.serviceId, 1, 1, [batteryId]⟩
  | .setBtp batteryId tripPoint => ⟨Battery.serviceId, 6, 6, batteryId :: leBytes 4 tripPoint⟩
  | .getTemperature instanceId => ⟨Thermal.serviceId, 1, 1, [instanceId]⟩
  | .setThreshold body => ⟨Thermal.serviceId, 2, 2, body.val⟩
  | .getThreshold instanceId => ⟨Thermal.serviceId, 3, 3, [instanceId]⟩
  | .setScp body => ⟨Thermal.serviceId, 4, 4, body.val⟩
  | .getVar body => ⟨Thermal.serviceId, 5, 5, body.val⟩
  | .setVar body => ⟨Thermal.serviceId, 6, 6, body.val⟩
  | .getRealTime => ⟨TimeAlarm.serviceId, 2, 2, []⟩
  | .getCapabilities => ⟨TimeAlarm.serviceId, 1, 1, []⟩
  | .getWakeStatus body => ⟨TimeAlarm.serviceId, 4, 3, body.val⟩
  | .setTimerValue body => ⟨TimeAlarm.serviceId, 6, 6, body.val⟩
  | .getTimerValue body => ⟨TimeAlarm.serviceId, 7, 5, body.val⟩
  | .getExpiredTimerPolicy body => ⟨TimeAlarm.serviceId, 9, 4, body.val⟩

/-- The controller reports success, with a response body. -/
def Succeeds {R : Type} [Relay R] [Exchanges R] (recorded : Recorded R) (call : TypedCall)
    (body : List U8) : Prop :=
  replyTo recorded call.asks.serviceId call.asks.messageId call.asks.responseId call.asks.body = .ok body

/-- The parser of each call. -/
def parser : (call : TypedCall) -> List U8 -> Except EcRelayError call.Value
  | .getBst _ => Battery.parseBst
  | .getBix _ => takeExactArray Battery.bixResponseLen
  | .getThreshold _ => Thermal.parseThreshold
  | .getRealTime => takeExactArray TimeAlarm.acpiTimestampLen
  | .setBtp _ _ | .setThreshold _ | .setScp _ | .setVar _ | .setTimerValue _ => parseEmptyResponse
  | .getTemperature _ | .getVar _ | .getCapabilities | .getWakeStatus _ | .getTimerValue _
  | .getExpiredTimerPolicy _ => parseU32

/-- A call returns what its parser makes of the response body. -/
theorem run_eq {R : Type} [Relay R] [Exchanges R] {recorded : Recorded R} {call : TypedCall}
    {body : List U8} (succeeds : call.Succeeds recorded body) :
    (call.run recorded).1 = (call.parser body).mapError .relay := by
  have sent := requestWithResponseId_recorded recorded call.asks.serviceId call.asks.messageId
    call.asks.responseId call.asks.body call.parser
  rw [succeeds] at sent
  rcases sent with ⟨relay, sent⟩
  have returned := congrArg Prod.fst sent
  cases call <;> exact returned

/-- All parsers but one are exact. -/
theorem parser_exact {call : TypedCall} (other : forall batteryId, call ≠ .getBst batteryId) :
    Exact call.responseLen call.parser (fun body => call.Reads body) := by
  cases call with
  | getBst batteryId => exact absurd rfl (other batteryId)
  | getBix batteryId => exact takeExactArray_exact Battery.bixResponseLen
  | getThreshold instanceId => exact Thermal.parseThreshold_exact
  | getRealTime => exact takeExactArray_exact TimeAlarm.acpiTimestampLen
  | setBtp => exact parseEmptyResponse_exact
  | setThreshold => exact parseEmptyResponse_exact
  | setScp => exact parseEmptyResponse_exact
  | setVar => exact parseEmptyResponse_exact
  | setTimerValue => exact parseEmptyResponse_exact
  | getTemperature => exact parseU32_exact
  | getVar => exact parseU32_exact
  | getCapabilities => exact parseU32_exact
  | getWakeStatus => exact parseU32_exact
  | getTimerValue => exact parseU32_exact
  | getExpiredTimerPolicy => exact parseU32_exact

/-- A result is as documented if the parser treats the body as an exact one does. -/
theorem documented_of_exact {call : TypedCall} {body : List U8}
    (short : body.length < call.responseLen -> call.parser body = .error .bodyTooShort)
    (long : call.responseLen < body.length -> call.parser body = .error .bodyTooLong)
    (exact : body.length = call.responseLen ->
      exists value, call.parser body = .ok value ∧ call.Reads body value) :
    call.Documented body ((call.parser body).mapError .relay) := by
  rcases Nat.lt_trichotomy body.length call.responseLen with shorter | same | longer
  · rw [short shorter]
    refine ⟨⟨?_, fun same => absurd same (Nat.ne_of_lt shorter)⟩, ?_, fun _ => rfl,
      fun longer => absurd longer (Nat.lt_asymm shorter)⟩
    · rintro ⟨value, returned⟩
      cases returned
    · intro value returned
      cases returned
  · rcases exact same with ⟨value, parsed, read⟩
    rw [parsed]
    refine ⟨⟨fun _ => same, fun _ => ⟨value, rfl⟩⟩, ?_, fun shorter => absurd same (Nat.ne_of_lt shorter),
      fun longer => absurd same (Nat.ne_of_gt longer)⟩
    intro other returned
    cases returned
    exact read
  · rw [long longer]
    refine ⟨⟨?_, fun same => absurd same (Nat.ne_of_gt longer)⟩, ?_,
      fun shorter => absurd shorter (Nat.lt_asymm longer), fun _ => rfl⟩
    · rintro ⟨value, returned⟩
      cases returned
    · intro value returned
      cases returned

end TypedCall

/-- A call gives its documented result for a response body, except that
`get_bst` accepts one with more than its sixteen bytes. -/
theorem documented_iff {R : Type} [Relay R] [Exchanges R] (recorded : Recorded R) (call : TypedCall)
    (body : List U8) (succeeds : call.Succeeds recorded body) :
    call.Documented body (call.run recorded).1 <->
      ¬ ((exists batteryId, call = .getBst batteryId) ∧ 16 < body.length) := by
  rw [TypedCall.run_eq succeeds]
  constructor
  · rintro documented ⟨⟨batteryId, rfl⟩, long⟩
    have rejected := documented.long long
    have accepted : (TypedCall.getBst batteryId).parser body = _ :=
      Battery.parseBst_of_le (Nat.le_of_lt long)
    rw [accepted] at rejected
    cases rejected
  · intro fits
    by_cases status : exists batteryId, call = .getBst batteryId
    · rcases status with ⟨batteryId, rfl⟩
      exact TypedCall.documented_of_exact Battery.parseBst_of_lt
        (fun long => absurd ⟨⟨batteryId, rfl⟩, long⟩ fits)
        (fun same => ⟨_, Battery.parseBst_of_le (Nat.le_of_eq same.symm), rfl⟩)
    · have parser := TypedCall.parser_exact (fun batteryId same => status ⟨batteryId, same⟩)
      exact TypedCall.documented_of_exact parser.short parser.long parser.exact

/-- A battery status, with a number of bytes after it. -/
def statusBody (extra : Nat) : List U8 :=
  [2, 0, 0, 0, 10, 0, 0, 0, 20, 0, 0, 0, 30, 0, 0, 0] ++ List.replicate extra 0xFF

/-- A relay at a port on which the controller answers with the status. -/
def reporting (extra : Nat) : Recorded (EcRelay SerialMedium.mctp (MctpSerialTransport Uart)) :=
  ⟨listening (buildOdpHeader false Battery.serviceId 2 ++ statusBody extra), []⟩

theorem statusBody_documented :
    (TypedCall.getBst 0).Succeeds (reporting 0) (statusBody 0) ∧
      (TypedCall.getBst 0).Documented (statusBody 0) ((TypedCall.getBst 0).run (reporting 0)).1 := by
  have succeeds : (TypedCall.getBst 0).Succeeds (reporting 0) (statusBody 0) := by
    unfold TypedCall.Succeeds
    decide +kernel
  refine ⟨succeeds, (documented_iff (reporting 0) (.getBst 0) (statusBody 0) succeeds).mpr ?_⟩
  rintro ⟨_, long⟩
  exact absurd long (by decide)

theorem not_always_documented :
    ¬ forall {R : Type} [Relay R] [Exchanges R] (recorded : Recorded R) (call : TypedCall)
      (body : List U8), call.Succeeds recorded body -> call.Documented body (call.run recorded).1 := by
  intro always
  have succeeds : (TypedCall.getBst 0).Succeeds (reporting 1) (statusBody 1) := by
    unfold TypedCall.Succeeds
    decide +kernel
  have rejected := (always (reporting 1) (.getBst 0) (statusBody 1) succeeds).long (by decide)
  have accepted : (TypedCall.getBst 0).parser (statusBody 1) = _ := Battery.parseBst_of_le (by decide)
  rw [TypedCall.run_eq succeeds, accepted] at rejected
  cases rejected

end Ec
end SecureServices
