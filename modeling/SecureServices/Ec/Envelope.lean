import SecureServices.Ec.SerialMedium
import SecureServices.Ec.SerialPort
import SecureServices.Ec.Forwarding

namespace SecureServices
namespace Ec

open Library

/-!
# Which messages reach the parser

A message of the relay's type passes five checks before a caller's parser sees
it: one in the transport half of the relay, for its length, and four in the
request half, for the fields of its header.  The order of the checks decides
what a caller is told about a message that fails several of them.  Here the
fields are those of the number that the first four bytes spell, and the parser
has no part in the decision.
-/

/-- What the checks make of a message for a request to a service: the bytes for
the parser, or the error. -/
def gate (serviceId : U8) (expectedResponseMessageId : U16) (message : List U8) :
    Except EcRelayError (List U8) :=
  let word := bigEndian (message.take 4)
  if message.length < 4 then .error .bodyTooShort
  else if word.testBit 25 then .error .unexpectedOdpRequest
  else if word / 2 ^ 16 % 2 ^ 8 ≠ serviceId.toNat then .error .unexpectedOdpService
  else if word.testBit 15 then .error (.remote (BitVec.ofNat 16 (word % 2 ^ 15)))
  else if word % 2 ^ 15 ≠ expectedResponseMessageId.toNat then .error .unexpectedOdpService
  else .ok (message.drop 4)

/-! ## The fields of the header -/

theorem flag_eq_testBit {index : Nat} (inside : index < 32) (raw : U32) :
    (raw &&& bitAt 32 index != 0) = raw.toNat.testBit index := by
  rw [Bool.eq_iff_iff, bne_iff_ne, ne_eq, and_bitAt_eq_zero_iff inside, Bool.not_eq_false]
  rfl

theorem service_eq_div (raw : U32) :
    ((raw >>> 16) &&& 0xFF).setWidth 8 = BitVec.ofNat 8 (raw.toNat / 2 ^ 16 % 2 ^ 8) := by
  apply BitVec.eq_of_toNat_eq
  have mask : (0xFF : U32).toNat = 2 ^ 8 - 1 := rfl
  rw [BitVec.toNat_setWidth, BitVec.toNat_and, BitVec.toNat_ushiftRight, mask,
    Nat.and_two_pow_sub_one_eq_mod, Nat.shiftRight_eq_div_pow, BitVec.toNat_ofNat]

theorem message_eq_mod (raw : U32) :
    (raw &&& 0x7FFF).setWidth 16 = BitVec.ofNat 16 (raw.toNat % 2 ^ 15) := by
  apply BitVec.eq_of_toNat_eq
  have mask : (0x7FFF : U32).toNat = 2 ^ 15 - 1 := rfl
  rw [BitVec.toNat_setWidth, BitVec.toNat_and, mask, Nat.and_two_pow_sub_one_eq_mod,
    BitVec.toNat_ofNat]

/-- The flags and fields of a header are those of the number that its four
bytes spell, the most significant first. -/
theorem parseOdpHeader_eq {message : List U8} (long : ¬ message.length < 4) :
    parseOdpHeader message =
      .ok ((bigEndian (message.take 4)).testBit 25,
        BitVec.ofNat 8 (bigEndian (message.take 4) / 2 ^ 16 % 2 ^ 8),
        (bigEndian (message.take 4)).testBit 15,
        BitVec.ofNat 16 (bigEndian (message.take 4) % 2 ^ 15)) := by
  have fits : 8 * (message.take 4).length ≤ 32 := by
    rw [List.length_take]
    omega
  have value := toNat_ofLeBytes_reverse fits
  rw [parseOdpHeader, if_neg long, ← value, ← service_eq_div, ← message_eq_mod,
    ← flag_eq_testBit (by decide), ← flag_eq_testBit (by decide)]
  rfl

theorem ofNat_ne_iff {width value : Nat} (small : value < 2 ^ width) (word : BitVec width) :
    BitVec.ofNat width value ≠ word <-> value ≠ word.toNat := by
  rw [not_iff_not]
  constructor
  · rintro rfl
    rw [BitVec.toNat_ofNat, Nat.mod_eq_of_lt small]
  · rintro rfl
    exact BitVec.eq_of_toNat_eq (by rw [BitVec.toNat_ofNat, Nat.mod_eq_of_lt word.isLt])

/-! ## The checks of the relay -/

/-- The checks of both halves, with nothing left to the parser. -/
theorem decodePacket_gate {mctp : MctpRs} {packet message : List U8} (serviceId : U8)
    (expectedResponseMessageId : U16)
    (recognised : mctp.deserializePacket packet = .ok (some ⟨odpMessageType, message⟩)) :
    (EcRelay.decodePacket mctp packet).bind (checkEnvelope serviceId expectedResponseMessageId .ok) =
      gate serviceId expectedResponseMessageId message := by
  unfold EcRelay.decodePacket gate
  rw [recognised]
  dsimp only
  rw [if_neg (not_not.mpr rfl)]
  by_cases short : message.length < 4
  · rw [if_pos short, if_pos short]
    rfl
  · rw [if_neg short, if_neg short, parseOdpHeader_eq short]
    have service := ofNat_ne_iff (Nat.mod_lt (bigEndian (message.take 4) / 2 ^ 16) (Nat.two_pow_pos 8))
      serviceId
    have id := ofNat_ne_iff (Nat.lt_of_lt_of_le
      (Nat.mod_lt (bigEndian (message.take 4)) (Nat.two_pow_pos 15))
      (Nat.pow_le_pow_right Nat.zero_lt_two (by decide : 15 ≤ 16))) expectedResponseMessageId
    change checkEnvelope serviceId expectedResponseMessageId .ok _ = _
    unfold checkEnvelope
    simp only [service, id]

/-- A call whose request is written and whose reply is a packet with a message
of the relay's type. -/
structure Delivers {mctp : MctpRs} {T : Type} [OdpTransport T] (relay : EcRelay mctp T)
    (requestHeader requestBody message : List U8) (after : EcRelay mctp T) : Prop where
  exchanged : exists packets sent packet,
    mctp.serializePacket (serialReplyContext mctp.spEid mctp.ecEid) odpMessageType requestHeader
      requestBody = .ok packets ∧
    EcRelay.sendPackets relay.transport packets = (.ok (), sent) ∧
    OdpTransport.recvFramedPacket sent 256 = (.ok packet, after.transport) ∧
    mctp.deserializePacket packet = .ok (some ⟨odpMessageType, message⟩)

/-- Every request to which a message of the relay's type is delivered returns
what the gate makes of the message: its error, or what the parser makes of
exactly the bytes after the header. -/
theorem invokeRequestWithResponseId_gate {mctp : MctpRs} {T : Type} [OdpTransport T]
    (relay after : EcRelay mctp T) (serviceId : U8)
    (requestMessageId expectedResponseMessageId : U16) (requestBody message : List U8)
    (delivers : Delivers relay (buildOdpHeader true serviceId requestMessageId) requestBody message after)
    {Value : Type} (parseBody : List U8 -> Except EcRelayError Value) :
    invokeRequestWithResponseId relay serviceId requestMessageId expectedResponseMessageId requestBody
        parseBody =
      ((gate serviceId expectedResponseMessageId message).bind parseBody, after) := by
  rcases delivers.exchanged with ⟨packets, sent, packet, serialized, written, read, recognised⟩
  have invoked : EcRelay.invoke relay (buildOdpHeader true serviceId requestMessageId) requestBody
      (checkEnvelope serviceId expectedResponseMessageId parseBody) =
        ((EcRelay.decodePacket mctp packet).bind
          (checkEnvelope serviceId expectedResponseMessageId parseBody), after) := by
    unfold EcRelay.invoke
    simp only [serialized, written, read]
  refine invoked.trans (Prod.ext ?_ rfl)
  rw [← decodePacket_gate serviceId expectedResponseMessageId recognised]
  cases EcRelay.decodePacket mctp packet with
  | error reason => rfl
  | ok response => exact checkEnvelope_eq serviceId expectedResponseMessageId parseBody response

/-- A message with all reserved bits of its header set. -/
def reservedBits : List U8 := [0xFD, 0x08, 0x00, 0x01, 0x2A]

/-- A relay at a port on which the message arrives in one packet. -/
def listening (message : List U8) : EcRelay SerialMedium.mctp (MctpSerialTransport Uart) where
  transport :=
    { uart :=
        { arrived := SerialMedium.encode (serialReplyContext 0x0A 0x08) odpMessageType message
          failure := .other .timedOut
          accepts := 1
          transmitted := [] } }

/-- The port once the request has been written. -/
def written (message : List U8) : MctpSerialTransport Uart :=
  (EcRelay.sendPackets (listening message).transport
    [.ok (SerialMedium.encode (serialReplyContext 0x08 0x0A) odpMessageType (buildOdpHeader true 8 1))]).2

theorem reservedBits_gate :
    exists after, Delivers (listening reservedBits) (buildOdpHeader true 8 1) [] reservedBits after ∧
      gate 8 1 reservedBits = .ok [0x2A] ∧
      invokeRequestWithResponseId (listening reservedBits) 8 1 1 [] Except.ok =
        ((gate 8 1 reservedBits).bind .ok, after) := by
  have arrived : (OdpTransport.recvFramedPacket (written reservedBits) 256).1 =
      .ok (SerialMedium.encode (serialReplyContext 0x0A 0x08) odpMessageType reservedBits) := by
    decide +kernel
  have unframed : forall message : List U8, message.length ≤ 63 ->
      SerialMedium.mctp.deserializePacket
        (SerialMedium.encode (serialReplyContext 0x0A 0x08) odpMessageType message) =
          .ok (some ⟨odpMessageType, message⟩) :=
    fun _ short => SerialMedium.deserialize_encode (serialReplyContext 0x0A 0x08) odpMessageType short
  have recognised := unframed reservedBits (by decide)
  generalize SerialMedium.encode (serialReplyContext 0x0A 0x08) odpMessageType reservedBits = frame
    at arrived recognised
  generalize received : OdpTransport.recvFramedPacket (written reservedBits) 256 = outcome at arrived
  rcases outcome with ⟨result, transport⟩
  cases arrived
  have delivers : Delivers (listening reservedBits) (buildOdpHeader true 8 1) [] reservedBits
      ⟨transport⟩ := ⟨_, written reservedBits, frame, rfl, rfl, received, recognised⟩
  exact ⟨_, delivers, by decide +kernel, invokeRequestWithResponseId_gate _ _ 8 1 1 [] _ delivers .ok⟩

end Ec
end SecureServices
