import SecureServices.Ec.SerialPort
import SecureServices.Ec.SerialMedium
import SecureServices.Library.Run

namespace SecureServices
namespace Ec

open Library EcRelay

/-!
# Requests and their replies

The embedded controller answers every request it receives with one frame, in
order, but the bytes of a frame may arrive after the relay has stopped
waiting for them.  Between two calls the line therefore holds the reply bytes
that nobody has read, and a call reads from these before its own reply.

A call is paired when the body it parses is its own reply's.  The relay checks
only service and message of what it reads, so pairing depends on the calls:
it is lost exactly when a call is made while a packet is left over that passes
the checks of this call.
-/

/-- A reply of the controller, and the one packet it is sent in. -/
structure Reply (mctp : MctpRs) where
  header : List U8
  body : List U8
  frame : List U8
  length_header : header.length = 4
  framed : mctp.serializePacket (serialReplyContext mctp.ecEid mctp.spEid) odpMessageType header body =
    .ok [.ok frame]

/-- One call, what the controller answers to it, and when.  The arguments of
the call come first.  `invoke_request` is the call that expects its own
message id in the response. -/
structure Call (mctp : MctpRs) where
  Value : Type
  serviceId : U8
  messageId : U16
  expectedResponseMessageId : U16
  requestBody : List U8
  parseBody : List U8 -> Except EcRelayError Value
  reply : Reply mctp
  /-- How many packets of the request the port takes. -/
  accepts : Nat
  /-- How many unread bytes arrive before a read of this call fails. -/
  arriving : Nat
  failure : ReadExactError

/-- The line between two calls: reply bytes that have not been read. -/
structure Line where
  unread : List U8
deriving DecidableEq

namespace Call

variable {mctp : MctpRs}

/-- The request is written out completely, so that the controller answers it. -/
def isSent (call : Call mctp) : Bool :=
  sends mctp (buildOdpHeader true call.serviceId call.messageId) call.requestBody call.accepts

/-- The port as the call finds it. -/
def uart (call : Call mctp) (line : Line) : Uart where
  arrived := (line.unread ++ call.reply.frame).take call.arriving
  failure := call.failure
  accepts := call.accepts
  transmitted := []

/-- A parser that also returns the body it was given. -/
def traced {Value : Type} (parseBody : List U8 -> Except EcRelayError Value) (body : List U8) :
    Except EcRelayError (Value × List U8) :=
  (parseBody body).map (fun value => (value, body))

/-- The call, returning its value together with the body it was parsed from. -/
def outcome (call : Call mctp) (line : Line) :
    Except EcRelayError (call.Value × List U8) × EcRelay mctp (MctpSerialTransport Uart) :=
  invokeRequestWithResponseId (serialRelay mctp (call.uart line)) call.serviceId call.messageId
    call.expectedResponseMessageId call.requestBody (traced call.parseBody)

/-- How many bytes the call reads, whether it succeeds or not. -/
def readCount (call : Call mctp) (line : Line) : Nat :=
  (call.uart line).arrived.length - (call.outcome line).2.transport.uart.arrived.length

/-- The packet is a success response to this call, with a body that its caller
can parse. -/
def Acceptable (call : Call mctp) (packet : List U8) : Prop :=
  exists header body value, header.length = 4 ∧
    mctp.deserializePacket packet = .ok (some ⟨odpMessageType, header ++ body⟩) ∧
    parseOdpHeader header = .ok (false, call.serviceId, false, call.expectedResponseMessageId) ∧
    call.parseBody body = .ok value

end Call

variable {mctp : MctpRs}

/-- The line after a call.  A request that is not sent gets no reply. -/
def step (line : Line) (call : Call mctp) : Line :=
  if call.isSent then ⟨(line.unread ++ call.reply.frame).drop (call.readCount line)⟩ else line

/-- Nothing has been asked yet. -/
def idle : Line := ⟨[]⟩

/-- A body that the call parsed is the body of its own reply, and no byte of
an earlier reply was left to be read before it. -/
def Paired (line : Line) (call : Call mctp) : Prop :=
  forall value body, (call.outcome line).1 = .ok (value, body) ->
    line.unread = [] ∧ body = call.reply.body

/-- The body that the call parsed, if it returned a value. -/
def parsedBody (line : Line) (call : Call mctp) : Option (List U8) :=
  (call.outcome line).1.toOption.map Prod.snd

theorem Paired.parsedBody_eq {line : Line} {call : Call mctp} (paired : Paired line call) {body : List U8}
    (parsed : parsedBody line call = some body) : body = call.reply.body := by
  rw [parsedBody] at parsed
  rcases Option.map_eq_some_iff.mp parsed with ⟨⟨value, _⟩, returned, rfl⟩
  cases outcome : (call.outcome line).1 with
  | error reason =>
      rw [outcome] at returned
      cases returned
  | ok result =>
      rw [outcome] at returned
      cases returned
      exact (paired value _ outcome).2

/-- If the request is sent and a packet left over by earlier calls arrives in
time, it does not pass for a response to this call. -/
def LeftoverRejected (line : Line) (call : Call mctp) : Prop :=
  forall packet, firstFrame serialEndFlag line.unread = some packet -> call.isSent = true ->
    packet.length ≤ call.arriving -> packet.length ≤ 256 -> ¬ call.Acceptable packet

/-! ## One call -/

/-- The value of a call does not depend on the tracing. -/
theorem map_fst_outcome (line : Line) (call : Call mctp) :
    (call.outcome line).1.map Prod.fst =
      (invokeRequestWithResponseId (serialRelay mctp (call.uart line)) call.serviceId call.messageId
        call.expectedResponseMessageId call.requestBody call.parseBody).1 := by
  have plain : forall response : OdpResponse,
      (checkEnvelope call.serviceId call.expectedResponseMessageId (Call.traced call.parseBody)
        response).map Prod.fst =
      checkEnvelope call.serviceId call.expectedResponseMessageId call.parseBody response := by
    intro response
    unfold checkEnvelope Call.traced
    split_ifs <;> first | rfl | (cases call.parseBody response.body <;> rfl)
  rw [Call.outcome, invokeRequestWithResponseId, invokeRequestWithResponseId]
  change (EcRelay.invoke _ _ _ _).1.map _ = (EcRelay.invoke _ _ _ _).1
  unfold EcRelay.invoke
  cases mctp.serializePacket (serialReplyContext mctp.spEid mctp.ecEid) odpMessageType
      (buildOdpHeader true call.serviceId call.messageId) call.requestBody with
  | error reason => rfl
  | ok packets =>
      dsimp only
      cases sendPackets (serialRelay mctp (call.uart line)).transport packets with
      | mk sent transport =>
          cases sent with
          | error reason => rfl
          | ok _ =>
              dsimp only
              cases OdpTransport.recvFramedPacket transport 256 with
              | mk received transport =>
                  cases received with
                  | error reason => rfl
                  | ok packet =>
                      dsimp only
                      cases decodePacket mctp packet with
                      | error reason => rfl
                      | ok response => exact plain response

/-- After a call that was sent, the line holds what the port has not handed
out, and then what has not arrived yet. -/
theorem unread_step {line : Line} {call : Call mctp} (sent : call.isSent = true) :
    (step line call).unread =
      (call.outcome line).2.transport.uart.arrived ++
        (line.unread ++ call.reply.frame).drop call.arriving := by
  obtain ⟨count, taken⟩ : exists count,
      (call.outcome line).2.transport.uart.arrived = (call.uart line).arrived.drop count :=
    invoke_arrived _ _ _ _
  have within : call.readCount line ≤ (call.uart line).arrived.length := Nat.sub_le _ _
  have handed : (call.uart line).arrived.drop (call.readCount line) =
      (call.uart line).arrived.drop count := by
    rw [Call.readCount, taken, List.length_drop]
    rcases Nat.le_total count (call.uart line).arrived.length with short | long
    · rw [Nat.sub_sub_self short]
    · rw [Nat.sub_eq_zero_of_le long, Nat.sub_zero, List.drop_length, List.drop_eq_nil_of_le long]
  have split : line.unread ++ call.reply.frame =
      (call.uart line).arrived ++ (line.unread ++ call.reply.frame).drop call.arriving :=
    (List.take_append_drop call.arriving _).symm
  calc (step line call).unread
      = (line.unread ++ call.reply.frame).drop (call.readCount line) := by rw [step, if_pos sent]
    _ = (call.uart line).arrived.drop (call.readCount line) ++
          (line.unread ++ call.reply.frame).drop call.arriving := by
        rw [split, List.drop_append_of_le_length within, ← split]
    _ = _ := by rw [handed, ← taken]

/-- A call returns a value exactly when it is sent and the first packet that
arrives is acceptable to it. -/
theorem outcome_eq_ok {line : Line} {call : Call mctp} {value : call.Value} {body : List U8} :
    (call.outcome line).1 = .ok (value, body) <->
      call.isSent = true ∧ exists packet header,
        firstFrame serialEndFlag (line.unread ++ call.reply.frame) = some packet ∧
        packet.length ≤ call.arriving ∧ packet.length ≤ 256 ∧ header.length = 4 ∧
        mctp.deserializePacket packet = .ok (some ⟨odpMessageType, header ++ body⟩) ∧
        parseOdpHeader header = .ok (false, call.serviceId, false, call.expectedResponseMessageId) ∧
        call.parseBody body = .ok value := by
  have parsed : forall response : OdpResponse, Call.traced call.parseBody response.body = .ok (value, body) <->
      call.parseBody response.body = .ok value ∧ response.body = body := by
    intro response
    unfold Call.traced
    cases call.parseBody response.body <;> simp [Except.map]
  rw [Call.outcome, invokeRequestWithResponseId]
  refine invoke_eq_ok.trans (and_congr Iff.rfl ?_)
  simp only [Call.uart, firstFrame_take, decodePacket_eq_ok, checkEnvelope_eq_ok, parsed]
  constructor
  · rintro ⟨packet, response, ⟨cut, arrives⟩, short, ⟨header, length, recognised, found⟩,
      isRequest, service, isError, message, value, rfl⟩
    rw [isRequest, service, isError, message] at found
    exact ⟨packet, header, cut, arrives, short, length, recognised, found, value⟩
  · rintro ⟨packet, header, cut, arrives, short, length, recognised, found, value⟩
    exact ⟨packet, ⟨false, call.serviceId, false, call.expectedResponseMessageId, body⟩,
      ⟨cut, arrives⟩, short, ⟨header, length, recognised, found⟩, rfl, rfl, rfl, rfl, value, rfl⟩

/-- A packet is acceptable exactly when it passes the checks of the relay. -/
theorem acceptable_iff {call : Call mctp} {packet : List U8} :
    call.Acceptable packet <->
      ((decodePacket mctp packet).bind
        (checkEnvelope call.serviceId call.expectedResponseMessageId call.parseBody)).isOk = true := by
  constructor
  · rintro ⟨header, body, value, length, recognised, found, parsed⟩
    have decoded : decodePacket mctp packet =
        .ok ⟨false, call.serviceId, false, call.expectedResponseMessageId, body⟩ :=
      decodePacket_eq_ok.mpr ⟨header, length, recognised, found⟩
    have checked : checkEnvelope call.serviceId call.expectedResponseMessageId call.parseBody
        ⟨false, call.serviceId, false, call.expectedResponseMessageId, body⟩ = .ok value :=
      checkEnvelope_eq_ok.mpr ⟨rfl, rfl, rfl, rfl, parsed⟩
    simp only [decoded, Except.bind, checked]
    rfl
  · intro passes
    cases decoded : decodePacket mctp packet with
    | error reason =>
        rw [decoded] at passes
        cases passes
    | ok response =>
        simp only [decoded, Except.bind] at passes
        cases checked : checkEnvelope call.serviceId call.expectedResponseMessageId call.parseBody
            response with
        | error reason =>
            rw [checked] at passes
            cases passes
        | ok value =>
            rcases decodePacket_eq_ok.mp decoded with ⟨header, length, recognised, found⟩
            rcases checkEnvelope_eq_ok.mp checked with ⟨isRequest, service, isError, message, parsed⟩
            rw [isRequest, service, isError, message] at found
            exact ⟨header, response.body, value, length, recognised, found, parsed⟩

instance (call : Call mctp) (packet : List U8) : Decidable (call.Acceptable packet) :=
  decidable_of_iff _ acceptable_iff.symm

instance (line : Line) (call : Call mctp) : Decidable (LeftoverRejected line call) :=
  match leftover : firstFrame serialEndFlag line.unread with
  | none => isTrue (fun packet cut => nomatch leftover.symm.trans cut)
  | some first =>
      decidable_of_iff (call.isSent = true -> first.length ≤ call.arriving -> first.length ≤ 256 ->
        ¬ call.Acceptable first) (by
        constructor
        · intro rejected packet cut
          cases leftover.symm.trans cut
          exact rejected
        · intro rejected
          exact rejected first leftover)

/-- What is left on the line can always be cut into packets. -/
theorem step_endsInFlag (lawful : mctp.Lawful) {line : Line} (call : Call mctp)
    (ends : EndsInFlag serialEndFlag line.unread) :
    EndsInFlag serialEndFlag (step line call).unread := by
  rw [step]
  split
  · have isFrame := lawful.isFrame _ _ _ _ _ call.reply.framed
    exact (EndsInFlag.append isFrame).drop (call.readCount line)
  · exact ends

/-- On a line that holds nothing but packets, a call is paired exactly when it
does not accept a packet that was left over. -/
theorem paired_iff (lawful : mctp.Lawful) {line : Line} (call : Call mctp)
    (ends : EndsInFlag serialEndFlag line.unread) :
    Paired line call <-> LeftoverRejected line call := by
  constructor
  · rintro paired packet cut sent arrives short ⟨header, body, value, length, recognised, found, parsed⟩
    have returned : (call.outcome line).1 = .ok (value, body) :=
      outcome_eq_ok.mpr ⟨sent, packet, header, firstFrame_append cut call.reply.frame, arrives, short,
        length, recognised, found, parsed⟩
    rw [(paired value body returned).1] at cut
    cases cut
  · intro rejected value body returned
    obtain ⟨sent, packet, header, cut, arrives, short, length, recognised, found, parsed⟩ :=
      outcome_eq_ok.mp returned
    by_cases pending : line.unread = []
    · -- Only the own reply can be read, and it unframes to what the controller sent.
      have isFrame := lawful.isFrame _ _ _ _ _ call.reply.framed
      have own : packet = call.reply.frame := by
        have whole := isFrame.firstFrame_append []
        rw [List.append_nil] at whole
        rw [pending, List.nil_append, whole] at cut
        exact (Option.some.inj cut).symm
      have unframed := lawful.deserialize _ _ _ _ _ call.reply.framed
      rw [own, unframed] at recognised
      have same : call.reply.header ++ call.reply.body = header ++ body := by
        injection recognised with inner
        injection inner with message
        injection message
      have sides := List.append_inj same (call.reply.length_header.trans length.symm)
      exact ⟨pending, sides.2.symm⟩
    · rcases ends.exists_firstFrame pending with ⟨leftover, first⟩
      have same : leftover = packet :=
        Option.some.inj ((firstFrame_append first call.reply.frame).symm.trans cut)
      rw [same] at first
      exact absurd ⟨header, body, value, length, recognised, found, parsed⟩
        (rejected packet first sent arrives short)

/-! ## Whole histories -/

/-- Whatever calls are made, and whenever the replies arrive: every call is
paired if and only if none of them accepts a packet that was left over. -/
theorem paired_along_iff (lawful : mctp.Lawful) (calls : List (Call mctp)) :
    Along (total step) Paired idle calls <-> Along (total step) LeftoverRejected idle calls := by
  have kept : forall (line : Line) (call : Call mctp) (next : Line),
      EndsInFlag serialEndFlag line.unread -> total step line call = some next ->
      EndsInFlag serialEndFlag next.unread := by
    intro line call next ends stepped
    cases stepped
    exact step_endsInFlag lawful call ends
  have start : EndsInFlag serialEndFlag idle.unread := .inl rfl
  constructor
  · exact Along.of_invariant (fun line => EndsInFlag serialEndFlag line.unread)
      (fun line call next ends _ stepped => kept line call next ends stepped)
      (fun line call ends paired => (paired_iff lawful call ends).mp paired) start
  · exact Along.of_invariant (fun line => EndsInFlag serialEndFlag line.unread)
      (fun line call next ends _ stepped => kept line call next ends stepped)
      (fun line call ends rejected => (paired_iff lawful call ends).mpr rejected) start

/-! ## Two histories -/

/-- A reply over the serial framing. -/
def serialReply (serviceId : U8) (messageId : U16) (body : List U8) (short : body.length ≤ 59) :
    Reply SerialMedium.mctp where
  header := buildOdpHeader false serviceId messageId
  body
  frame := SerialMedium.encode _ odpMessageType (buildOdpHeader false serviceId messageId ++ body)
  length_header := by simp [buildOdpHeader]
  framed := if_pos (by
    simp only [buildOdpHeader, List.length_append, List.length_reverse, length_leBytes]
    omega)

/-- A call of `invoke_request` for message 1 that returns the reply's body, here one octet. -/
def query (serviceId : U8) (answer : U8) (arriving : Nat) : Call SerialMedium.mctp where
  Value := List U8
  serviceId
  messageId := 1
  expectedResponseMessageId := 1
  requestBody := []
  parseBody := .ok
  reply := serialReply serviceId 1 [answer] (Nat.le_add_left 1 58)
  accepts := 1
  arriving
  failure := .other .timedOut

/-- One call is answered in time, one too late, and the next one asks another service. -/
def lateForOther : List (Call SerialMedium.mctp) := [query 8 1 100, query 8 2 0, query 9 3 100]

theorem lateForOther_paired :
    parsedBody idle (query 8 1 100) = some [1] ∧
      SerialMedium.mctp.Lawful ∧ Along (total step) Paired idle lateForOther :=
  ⟨by decide +kernel, SerialMedium.lawful,
    (paired_along_iff SerialMedium.lawful lateForOther).mpr (by decide +kernel)⟩

/-- A reply that comes too late is taken for the reply to the next call of the
same kind. -/
theorem not_always_paired :
    ¬ forall mctp : MctpRs, mctp.Lawful -> forall calls : List (Call mctp),
      (forall call, call ∈ calls -> call.expectedResponseMessageId = call.messageId) ->
      Along (total step) Paired idle calls := by
  intro always
  have every := along_iff_forall_step.mp
    (always SerialMedium.mctp SerialMedium.lawful [query 8 1 0, query 8 2 100] (by simp [query]))
  have paired := every [query 8 1 0] (query 8 2 100) [] (step idle (query 8 1 0)) rfl rfl
  have taken : parsedBody (step idle (query 8 1 0)) (query 8 2 100) = some [1] := by
    decide +kernel
  have own := paired.parsedBody_eq taken
  exact absurd own (by decide)

end Ec
end SecureServices
