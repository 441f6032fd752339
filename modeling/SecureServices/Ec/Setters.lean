import SecureServices.Ec.Envelope

namespace SecureServices
namespace Ec

open Library Ffa

/-!
# What the status of a setter says

The four setters answer with one status word.  It is zero for a success, and it
is the code of the controller for an error that the controller reports.  The
code is taken from the header of the reply, where zero is as possible as any
other, so a reported error can have the status of a success.
-/

/-- The commands whose answer is a status word. -/
inductive Setter where
  | setThrs | setScp | setVar | setTimerValue
deriving DecidableEq, Repr

namespace Setter

def command : Setter -> U16
  | .setThrs => Thermal.ThermalCommand.setThrs.toU16
  | .setScp => Thermal.ThermalCommand.setScp.toU16
  | .setVar => Thermal.ThermalCommand.setVar.toU16
  | .setTimerValue => TimeAlarm.TimeAlarmCommand.setTimerValue.toU16

def serviceId : Setter -> U8
  | .setTimerValue => TimeAlarm.serviceId
  | _ => Thermal.serviceId

/-- The message id of the controller's answer.  Every setter expects its own. -/
def responseId (setter : Setter) : U16 := setter.command

/-- The handler of the service that has the setter. -/
def handle {R : Type} [Relay R] (setter : Setter) (recorded : Recorded R)
    (message : MsgSendDirectReq2) : Except Error MsgSendDirectResp2 × Recorded R :=
  match setter with
  | .setTimerValue => TimeAlarm.ffaMsgSendDirectReq2 recorded message
  | _ => Thermal.ffaMsgSendDirectReq2 recorded message

/-- How many bytes after the command byte go to the controller. -/
def size : Setter -> Nat
  | .setThrs => 13
  | .setScp => 13
  | .setVar => 23
  | .setTimerValue => 8

/-- The one check before a call: a variable must have four bytes. -/
def Forwards (setter : Setter) (payload : DirectMessagePayload) : Prop :=
  setter = .setVar -> lenField payload = 4

/-- The header that goes to the controller. -/
def header (setter : Setter) : List U8 := buildOdpHeader true setter.serviceId setter.command

end Setter

/-- The status word of a response. -/
def statusWord : Except Error MsgSendDirectResp2 -> Option U32
  | .ok response => some (response.payload.u32At 0 (by decide))
  | .error _ => none

section

variable {R : Type} [Relay R] [Exchanges R]

/-- The controller was asked, and answered that it has done what it was asked. -/
def Setter.Done (setter : Setter) (recorded after : Recorded R) : Prop :=
  exists body response,
    after.calls = recorded.calls ++ [(setter.header, body)] ∧
    (Exchanges.exchange recorded.relay setter.header body).1 = .ok response ∧
    response.isRequest = false ∧ response.isError = false ∧
    response.serviceId = setter.serviceId ∧ response.messageId = setter.responseId ∧
    response.body = []

/-- The controller reports an error, with zero as its code. -/
def Setter.ReportsZero (setter : Setter) (recorded : Recorded R) (body : List U8) : Prop :=
  (Exchanges.exchange recorded.relay setter.header body).1 = .error (.remote 0) ∨
  exists response,
    (Exchanges.exchange recorded.relay setter.header body).1 = .ok response ∧
    response.isRequest = false ∧ response.serviceId = setter.serviceId ∧
    response.isError = true ∧ response.messageId = 0

/-! ## The reply to a setter -/

/-- The checks of a request end in a code exactly for an error with this code. -/
theorem checkEnvelope_eq_remote {serviceId : U8} {responseId code : U16} {response : OdpResponse} :
    checkEnvelope serviceId responseId .ok response = .error (.remote code) <->
      response.isRequest = false ∧ response.serviceId = serviceId ∧ response.isError = true ∧
        response.messageId = code := by
  unfold checkEnvelope
  split_ifs <;> simp_all

namespace Setter

theorem replyTo_eq_empty {setter : Setter} {recorded : Recorded R} {body : List U8} :
    replyTo recorded setter.serviceId setter.command setter.responseId body = .ok [] <->
      exists response, (Exchanges.exchange recorded.relay setter.header body).1 = .ok response ∧
        response.isRequest = false ∧ response.isError = false ∧
        response.serviceId = setter.serviceId ∧ response.messageId = setter.responseId ∧
        response.body = [] := by
  change (Exchanges.exchange recorded.relay setter.header body).1.bind _ = _ <-> _
  cases (Exchanges.exchange recorded.relay setter.header body).1 with
  | error reason =>
      constructor
      · intro accepted
        cases accepted
      · rintro ⟨_, exchanged, _⟩
        cases exchanged
  | ok response =>
      have checked : checkEnvelope setter.serviceId setter.responseId Except.ok response = .ok [] <-> _ :=
        checkEnvelope_eq_ok
      refine checked.trans ?_
      constructor
      · rintro ⟨answers, service, success, id, empty⟩
        exact ⟨response, rfl, answers, success, service, id, Except.ok.inj empty⟩
      · rintro ⟨_, exchanged, answers, success, service, id, empty⟩
        cases exchanged
        exact ⟨answers, service, success, id, congrArg _ empty⟩

theorem replyTo_eq_zero {setter : Setter} {recorded : Recorded R} {body : List U8} :
    replyTo recorded setter.serviceId setter.command setter.responseId body = .error (.remote 0) <->
      setter.ReportsZero recorded body := by
  change (Exchanges.exchange recorded.relay setter.header body).1.bind _ = _ <-> _
  unfold ReportsZero
  cases (Exchanges.exchange recorded.relay setter.header body).1 with
  | error reason =>
      constructor
      · intro same
        cases same
        exact .inl rfl
      · rintro (same | ⟨_, exchanged, _⟩)
        · cases same
          rfl
        · cases exchanged
  | ok response =>
      refine checkEnvelope_eq_remote.trans ?_
      constructor
      · intro reported
        exact .inr ⟨response, rfl, reported⟩
      · rintro (impossible | ⟨_, exchanged, reported⟩)
        · cases impossible
        · cases exchanged
          exact reported

end Setter

/-- After one call, the controller has done what it was asked exactly if the
reply to the call is empty. -/
theorem Setter.done_iff {setter : Setter} {recorded after : Recorded R} {body : List U8}
    (calls : after.calls = recorded.calls ++ [(setter.header, body)]) :
    setter.Done recorded after <->
      replyTo recorded setter.serviceId setter.command setter.responseId body = .ok [] := by
  rw [Setter.replyTo_eq_empty]
  constructor
  · rintro ⟨sent, response, called, exchanged, answered⟩
    rw [calls] at called
    cases List.append_cancel_left called
    exact ⟨response, exchanged, answered⟩
  · rintro ⟨response, exchanged, answered⟩
    exact ⟨body, response, calls, exchanged, answered⟩

/-- Without a call nothing has been done. -/
theorem Setter.not_done {setter : Setter} {recorded after : Recorded R}
    (calls : after.calls = recorded.calls) : ¬ setter.Done recorded after := by
  rintro ⟨body, response, called, _⟩
  rw [calls] at called
  exact absurd (congrArg List.length called) (by simp)

/-! ## The status word -/

/-- A response that carries the four bytes of a word has it as its status. -/
theorem statusWord_of_carries {result : Except Error MsgSendDirectResp2} {word : U32}
    (carries : Carries result (some (leBytes 4 word))) : statusWord result = some word := by
  cases result with
  | error reason => exact absurd carries id
  | ok response =>
      have front : response.payload.bytes.take 4 = leBytes 4 word := by
        rw [show response.payload.bytes = _ from carries, List.take_left' (length_leBytes 4 word)]
      change some (ofLeBytes 32 ((response.payload.bytes.drop 0).take 4)) = _
      rw [List.drop_zero, front]
      exact congrArg some (ofLeBytes_leBytes 4 word)

/-- The status of a setter is zero for an empty reply and for the code zero. -/
theorem status_eq_word (reply : Except EcRelayError (List U8)) :
    exists word : U32, status reply = some (leBytes 4 word) ∧
      (word = 0 <-> reply = .ok [] ∨ reply = .error (.remote 0)) := by
  have sentinel : some (sentinels 1) = some (leBytes 4 localErrorSentinel) :=
    congrArg some leBytes_sentinel.symm
  have nonzero : ¬ localErrorSentinel = 0#32 := by decide
  cases reply with
  | ok body =>
      by_cases empty : body = []
      · exact ⟨0, by rw [status, if_pos empty], by simp [empty]⟩
      · refine ⟨localErrorSentinel, by rw [status, if_neg empty, sentinel], ?_⟩
        simp [empty, nonzero]
  | error reason =>
      cases reason with
      | remote code =>
          have same : code.setWidth 32 = 0#32 <-> code = 0#16 := by
            rw [← BitVec.toNat_inj, ← BitVec.toNat_inj, BitVec.toNat_setWidth_of_le (by decide)]
            rfl
          refine ⟨code.setWidth 32, rfl, ?_⟩
          simp [same]
      | _ =>
          refine ⟨localErrorSentinel, sentinel, ?_⟩
          simp [nonzero]

namespace Setter

/-- A setter that passes its check keeps the contract of a forwarded setter. -/
theorem kept_of_forwards {setter : Setter} (recorded : Recorded R) {message : MsgSendDirectReq2}
    (asked : (message.payload.u8At 0).setWidth 16 = setter.command)
    (forwards : setter.Forwards message.payload) :
    (Contract.forward setter.command setter.responseId (afterCommand message.payload setter.size)
      status).Kept setter.serviceId recorded (setter.handle recorded message) := by
  cases setter with
  | setThrs => exact @Thermal.handler_kept R _ _ recorded message .setThrs asked
  | setScp => exact @Thermal.handler_kept R _ _ recorded message .setScp asked
  | setVar =>
      have kept := @Thermal.handler_kept R _ _ recorded message .setVar asked
      rw [Thermal.contract, if_pos (forwards rfl)] at kept
      exact kept
  | setTimerValue => exact @TimeAlarm.handler_kept R _ _ recorded message .setTimerValue asked

/-- A setter that fails its check keeps the contract of a rejected one. -/
theorem kept_of_rejects {setter : Setter} (recorded : Recorded R) {message : MsgSendDirectReq2}
    (asked : (message.payload.u8At 0).setWidth 16 = setter.command)
    (rejects : ¬ setter.Forwards message.payload) :
    (Contract.reject (leBytes 4 (1 : U32))).Kept setter.serviceId recorded
      (setter.handle recorded message) := by
  cases setter with
  | setVar =>
      have kept := @Thermal.handler_kept R _ _ recorded message .setVar asked
      rw [Thermal.contract, if_neg (fun length => rejects (fun _ => length))] at kept
      exact kept
  | setThrs => exact absurd (fun other => absurd other (by decide)) rejects
  | setScp => exact absurd (fun other => absurd other (by decide)) rejects
  | setTimerValue => exact absurd (fun other => absurd other (by decide)) rejects

end Setter

/-- The status word of a setter is zero exactly when the controller did what it
was asked to do, unless the controller is asked and reports an error with zero
as its code. -/
theorem zero_iff_done_iff (recorded : Recorded R) (setter : Setter) (message : MsgSendDirectReq2)
    (asked : (message.payload.u8At 0).setWidth 16 = setter.command) :
    (statusWord (setter.handle recorded message).1 = some 0 <->
        setter.Done recorded (setter.handle recorded message).2) <->
      ¬ (setter.Forwards message.payload ∧
        setter.ReportsZero recorded (afterCommand message.payload setter.size)) := by
  by_cases forwards : setter.Forwards message.payload
  · rcases Setter.kept_of_forwards recorded asked forwards with ⟨calls, carries⟩
    rcases status_eq_word (replyTo recorded setter.serviceId setter.command setter.responseId
      (afterCommand message.payload setter.size)) with ⟨word, answered, zero⟩
    rw [answered] at carries
    rw [statusWord_of_carries carries, Option.some_inj, zero, Setter.done_iff calls,
      ← Setter.replyTo_eq_zero]
    constructor
    · rintro same ⟨_, reported⟩
      have done := same.mp (.inr reported)
      rw [reported] at done
      cases done
    · intro other
      exact ⟨fun either => either.resolve_right (fun reported => other ⟨forwards, reported⟩), Or.inl⟩
  · rcases Setter.kept_of_rejects recorded asked forwards with ⟨calls, carries⟩
    rw [statusWord_of_carries carries]
    exact iff_of_true (iff_of_false (by decide) (Setter.not_done calls)) (fun both => forwards both.1)

end

/-- A request to set the thresholds of the first instance to zero. -/
def zeroThresholds : MsgSendDirectReq2 :=
  ⟨⟨0, 0x8002, Thermal.uuid, DirectMessagePayload.fromIter [2] (by decide)⟩⟩

/-- A relay at a port on which the controller answers with a header only. -/
def answering (header : List U8) : Recorded (EcRelay SerialMedium.mctp (MctpSerialTransport Uart)) :=
  ⟨listening header, []⟩

theorem zeroThresholds_done :
    statusWord (Setter.setThrs.handle (answering (buildOdpHeader false 9 2)) zeroThresholds).1 = some 0 <->
      Setter.setThrs.Done (answering (buildOdpHeader false 9 2))
        (Setter.setThrs.handle (answering (buildOdpHeader false 9 2)) zeroThresholds).2 := by
  refine (zero_iff_done_iff (answering (buildOdpHeader false 9 2)) .setThrs zeroThresholds (by decide)).mpr ?_
  rintro ⟨_, reported⟩
  exact absurd (Setter.replyTo_eq_zero.mpr reported) (by decide +kernel)

theorem zero_without_done :
    ¬ forall {R : Type} [Relay R] [Exchanges R] (recorded : Recorded R) (setter : Setter)
      (message : MsgSendDirectReq2), (message.payload.u8At 0).setWidth 16 = setter.command ->
        (statusWord (setter.handle recorded message).1 = some 0 <->
          setter.Done recorded (setter.handle recorded message).2) := by
  intro always
  have asked : (zeroThresholds.payload.u8At 0).setWidth 16 = Setter.setThrs.command := by decide
  have zero : statusWord (Setter.setThrs.handle (answering [0, 9, 0x80, 0]) zeroThresholds).1 = some 0 := by
    decide +kernel
  have reported : replyTo (answering [0, 9, 0x80, 0]) 9 2 2
      (afterCommand zeroThresholds.payload 13) = .error (.remote 0) := by
    decide +kernel
  have done := (always (answering [0, 9, 0x80, 0]) .setThrs zeroThresholds asked).mp zero
  rcases Setter.kept_of_forwards (answering [0, 9, 0x80, 0]) asked (fun other => absurd other (by decide))
    with ⟨calls, _⟩
  have replied := (Setter.done_iff calls).mp done
  have same := reported.symm.trans replied
  cases same

end Ec
end SecureServices
