import SecureServices.Ec.Relay

namespace SecureServices
namespace Ec

open Library

/-!
# One invocation over a serial port

A port during one call is described by what its environment decides: the bytes
that arrive before a read fails, how that read fails, and how many packets it
takes.  Over such a port a call comes to one question about the bytes that
arrive, and whatever it does it leaves a later part of them unread.
-/

/-- A serial port during one call. -/
structure Uart where
  /-- The bytes that reads return, before one fails. -/
  arrived : List U8
  /-- How the read after them fails. -/
  failure : ReadExactError
  /-- How many packets are taken, before a write fails. -/
  accepts : Nat
  transmitted : List U8

instance : EmbeddedIo Uart where
  readExact := fun uart =>
    match uart.arrived with
    | [] => (.error uart.failure, uart)
    | byte :: rest => (.ok byte, { uart with arrived := rest })
  writeAll := fun uart packet =>
    match uart.accepts with
    | 0 => (.error (), uart)
    | accepts + 1 => (.ok (), { uart with accepts, transmitted := uart.transmitted ++ packet })

/-! ## Receiving -/

open MctpSerialTransport

theorem recvLoop_nil {room : Nat} {filled : List U8} {uart : Uart} (silent : uart.arrived = []) :
    recvLoop (room + 1) filled uart = (.error (readError uart.failure), uart) := by
  simp only [recvLoop, EmbeddedIo.readExact, silent]

theorem recvLoop_cons {room : Nat} {filled rest : List U8} {uart : Uart} {byte : U8}
    (arrived : uart.arrived = byte :: rest) :
    recvLoop (room + 1) filled uart =
      if byte = serialEndFlag then (.ok (filled ++ [byte]), { uart with arrived := rest })
      else recvLoop room (filled ++ [byte]) { uart with arrived := rest } := by
  simp only [recvLoop, EmbeddedIo.readExact, arrived]

/-- The receive loop returns the first frame among the bytes that arrive, if
the buffer has room for it. -/
theorem recvLoop_eq_ok {room : Nat} {filled packet : List U8} {uart : Uart} :
    (recvLoop room filled uart).1 = .ok packet <->
      exists frame, firstFrame serialEndFlag uart.arrived = some frame ∧ frame.length ≤ room ∧
        packet = filled ++ frame := by
  induction room generalizing filled uart with
  | zero =>
      constructor
      · intro impossible
        cases impossible
      · rintro ⟨frame, cut, short, _⟩
        rcases isFrame_of_firstFrame cut with ⟨⟨inner, rfl, _⟩, _⟩
        rw [List.length_append, List.length_singleton] at short
        omega
  | succ room inductionHypothesis =>
      cases arrived : uart.arrived with
      | nil =>
          rw [recvLoop_nil arrived]
          simp [firstFrame]
      | cons byte rest =>
          rw [recvLoop_cons arrived, firstFrame]
          by_cases same : byte = serialEndFlag
          · rw [if_pos same, if_pos same]
            simp [eq_comm]
          · rw [if_neg same, if_neg same, inductionHypothesis]
            simp only [Option.map_eq_some_iff]
            constructor
            · rintro ⟨frame, cut, short, rfl⟩
              exact ⟨byte :: frame, ⟨frame, cut, rfl⟩, Nat.succ_le_succ short, by simp⟩
            · rintro ⟨_, ⟨frame, cut, rfl⟩, short, rfl⟩
              exact ⟨frame, cut, Nat.le_of_succ_le_succ short, by simp⟩

/-- However the receive loop ends, it has taken its bytes from the front. -/
theorem recvLoop_arrived (room : Nat) (filled : List U8) (uart : Uart) :
    exists count, (recvLoop room filled uart).2.arrived = uart.arrived.drop count := by
  induction room generalizing filled uart with
  | zero => exact ⟨0, rfl⟩
  | succ room inductionHypothesis =>
      cases arrived : uart.arrived with
      | nil =>
          rw [recvLoop_nil arrived]
          exact ⟨0, arrived⟩
      | cons byte rest =>
          rw [recvLoop_cons arrived]
          by_cases same : byte = serialEndFlag
          · rw [if_pos same]
            exact ⟨1, rfl⟩
          · rw [if_neg same]
            rcases inductionHypothesis (filled ++ [byte]) { uart with arrived := rest } with ⟨count, taken⟩
            exact ⟨count + 1, taken⟩

/-! ## Sending -/

namespace EcRelay

/-- All packets are produced, and the port takes them all. -/
def sendable (packets : List (Except MctpPacketError (List U8))) (accepts : Nat) : Bool :=
  packets.all Except.isOk && decide (packets.length ≤ accepts)

theorem sendPackets_spec (packets : List (Except MctpPacketError (List U8))) (uart : Uart) :
    ((sendPackets (MctpSerialTransport.mk uart) packets).1.isOk = sendable packets uart.accepts) ∧
      (sendPackets (MctpSerialTransport.mk uart) packets).2.uart.arrived = uart.arrived := by
  induction packets generalizing uart with
  | nil => exact ⟨by simp [sendPackets, sendable, Except.isOk, Except.toBool], rfl⟩
  | cons first rest inductionHypothesis =>
      cases first with
      | error reason => exact ⟨by simp [sendPackets, sendable, Except.isOk, Except.toBool], rfl⟩
      | ok packet =>
          cases accepts : uart.accepts with
          | zero =>
              have refused : OdpTransport.sendPacket (MctpSerialTransport.mk uart) packet =
                  (.error .transportWrite, ⟨uart⟩) := by
                simp only [OdpTransport.sendPacket, sendPacket, EmbeddedIo.writeAll, accepts]
              rw [sendPackets, refused]
              exact ⟨by simp [sendable, Except.isOk, Except.toBool], rfl⟩
          | succ room =>
              have taken : OdpTransport.sendPacket (MctpSerialTransport.mk uart) packet =
                  (.ok (), ⟨{ uart with accepts := room, transmitted := uart.transmitted ++ packet }⟩) := by
                simp only [OdpTransport.sendPacket, sendPacket, EmbeddedIo.writeAll, accepts]
              rw [sendPackets, taken]
              refine ⟨(inductionHypothesis _).1.trans ?_, (inductionHypothesis _).2⟩
              simp [sendable, Except.isOk, Except.toBool]

/-! ## Whole invocations -/

variable {mctp : MctpRs} {Value : Type}

/-- The request is framed and written out completely. -/
def sends (mctp : MctpRs) (requestHeader requestBody : List U8) (accepts : Nat) : Bool :=
  match mctp.serializePacket (serialReplyContext mctp.spEid mctp.ecEid) odpMessageType requestHeader
      requestBody with
  | .error _ => false
  | .ok packets => sendable packets accepts

/-- The relay over a serial port. -/
abbrev serialRelay (mctp : MctpRs) (uart : Uart) : EcRelay mctp (MctpSerialTransport Uart) := ⟨⟨uart⟩⟩

/-- An invocation either fails before it reads, or reads one packet. -/
theorem invoke_cases (uart : Uart) (requestHeader requestBody : List U8)
    (parseResponse : OdpResponse -> Except EcRelayError Value) :
    (sends mctp requestHeader requestBody uart.accepts = false ∧
      (exists reason,
        (invoke (serialRelay mctp uart) requestHeader requestBody parseResponse).1 = .error reason) ∧
      (invoke (serialRelay mctp uart) requestHeader requestBody parseResponse).2.transport.uart.arrived =
        uart.arrived) ∨
    (sends mctp requestHeader requestBody uart.accepts = true ∧
      exists port : Uart, port.arrived = uart.arrived ∧
        (invoke (serialRelay mctp uart) requestHeader requestBody parseResponse).1 =
          ((recvLoop 256 [] port).1.bind (decodePacket mctp)).bind parseResponse ∧
        (invoke (serialRelay mctp uart) requestHeader requestBody parseResponse).2.transport.uart =
          (recvLoop 256 [] port).2) := by
  unfold invoke sends
  cases mctp.serializePacket (serialReplyContext mctp.spEid mctp.ecEid) odpMessageType requestHeader
      requestBody with
  | error reason => exact .inl ⟨rfl, ⟨_, rfl⟩, rfl⟩
  | ok packets =>
      rcases sendPackets_spec packets uart with ⟨outcome, kept⟩
      cases sent : sendPackets (MctpSerialTransport.mk uart) packets with
      | mk result transport =>
          rw [sent] at outcome kept
          cases result with
          | error reason =>
              simp only [sent]
              exact .inl ⟨outcome.symm, ⟨reason, rfl⟩, kept⟩
          | ok _ =>
              refine .inr ⟨outcome.symm, transport.uart, kept, ?_⟩
              simp only [sent, OdpTransport.recvFramedPacket, recvFramedPacket]
              cases (recvLoop 256 [] transport.uart) with
              | mk received port =>
                  cases received with
                  | error reason => exact ⟨rfl, rfl⟩
                  | ok packet => exact ⟨rfl, rfl⟩

/-- The value an invocation returns is parsed from the first packet among the
bytes that arrive. -/
theorem invoke_eq_ok {uart : Uart} {requestHeader requestBody : List U8}
    {parseResponse : OdpResponse -> Except EcRelayError Value} {value : Value} :
    (invoke (serialRelay mctp uart) requestHeader requestBody parseResponse).1 = .ok value <->
      sends mctp requestHeader requestBody uart.accepts = true ∧
        exists packet response, firstFrame serialEndFlag uart.arrived = some packet ∧
          packet.length ≤ 256 ∧ decodePacket mctp packet = .ok response ∧
          parseResponse response = .ok value := by
  rcases invoke_cases uart requestHeader requestBody parseResponse with
    ⟨unsent, ⟨reason, failed⟩, _⟩ | ⟨sent, port, arrived, result, _⟩
  · rw [failed, unsent]
    simp
  · rw [result, sent, ← arrived]
    constructor
    · intro returned
      cases received : (recvLoop 256 [] port).1 with
      | error reason =>
          rw [received] at returned
          cases returned
      | ok packet =>
          rw [received] at returned
          rcases recvLoop_eq_ok.mp received with ⟨_, cut, short, rfl⟩
          cases decoded : decodePacket mctp packet with
          | error reason => simp [Except.bind, decoded] at returned
          | ok response =>
              refine ⟨rfl, packet, response, cut, short, decoded, ?_⟩
              simpa [Except.bind, decoded] using returned
    · rintro ⟨_, packet, response, cut, short, decoded, parsed⟩
      have received : (recvLoop 256 [] port).1 = .ok packet :=
        recvLoop_eq_ok.mpr ⟨packet, cut, short, rfl⟩
      simp only [received, Except.bind, decoded, parsed]

/-- An invocation, too, takes its bytes from the front. -/
theorem invoke_arrived (uart : Uart) (requestHeader requestBody : List U8)
    (parseResponse : OdpResponse -> Except EcRelayError Value) :
    exists count,
      (invoke (serialRelay mctp uart) requestHeader requestBody parseResponse).2.transport.uart.arrived =
        uart.arrived.drop count := by
  rcases invoke_cases uart requestHeader requestBody parseResponse with
    ⟨_, _, kept⟩ | ⟨_, port, arrived, _, after⟩
  · exact ⟨0, kept⟩
  · rw [after, ← arrived]
    exact recvLoop_arrived 256 [] port

end EcRelay

/-- The checks of a request pass exactly for a success response to it whose
body the caller can parse. -/
theorem checkEnvelope_eq_ok {Value : Type} {serviceId : U8} {messageId : U16}
    {parseBody : List U8 -> Except EcRelayError Value} {response : OdpResponse} {value : Value} :
    checkEnvelope serviceId messageId parseBody response = .ok value <->
      response.isRequest = false ∧ response.serviceId = serviceId ∧ response.isError = false ∧
        response.messageId = messageId ∧ parseBody response.body = .ok value := by
  unfold checkEnvelope
  split_ifs <;> simp_all

end Ec
end SecureServices
