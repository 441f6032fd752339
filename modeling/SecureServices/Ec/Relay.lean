import SecureServices.Library.Framing

namespace SecureServices
namespace Ec

open Library

/-!
# The relay to the embedded controller

From `ec-service-lib/src/services/ec_relay.rs`.  A request is an ODP header
and a body, framed by the `mctp-rs` crate and written to a serial port; one
framed packet is read back, unframed, checked and handed to the caller's
parser.  The crate is not part of the repository and enters as the parameter
`MctpRs`.  The serial port and the transport are type classes, as they are
traits in the source, so the relay is written once for every transport.
-/

/-! ## The ODP header -/

/-- `ODP_MESSAGE_TYPE`. -/
def odpMessageType : U8 := 0x7D

/-- `build_odp_header`. -/
def buildOdpHeader (isRequest : Bool) (serviceId : U8) (messageId : U16) : List U8 :=
  let raw : U32 := if isRequest then 1 <<< 25 else 0
  let raw := raw ||| (serviceId.setWidth 32 <<< 16)
  let raw := raw ||| (messageId.setWidth 32 &&& 0x7FFF)
  (leBytes 4 raw).reverse

/-- `parse_odp_header`: request flag, service, error flag and message. -/
def parseOdpHeader (bytes : List U8) : Except String (Bool × U8 × Bool × U16) :=
  if bytes.length < 4 then .error "OdpHeader buffer < 4 bytes"
  else
    let raw := ofLeBytes 32 (bytes.take 4).reverse
    let isRequest := raw &&& (1 <<< 25) != 0
    let serviceId := ((raw >>> 16) &&& 0xFF).setWidth 8
    let isError := raw &&& (1 <<< 15) != 0
    let messageId := (raw &&& 0x7FFF).setWidth 16
    .ok (isRequest, serviceId, isError, messageId)

/-- The header is read from the first four bytes. -/
theorem parseOdpHeader_append {header : List U8} (length : header.length = 4) (body : List U8) :
    parseOdpHeader (header ++ body) = parseOdpHeader header := by
  have long : ¬ (header ++ body).length < 4 := by
    rw [List.length_append]
    omega
  have exact : ¬ header.length < 4 := by omega
  have front : (header ++ body).take 4 = header.take 4 :=
    List.take_append_of_le_length (Nat.le_of_eq length.symm)
  rw [parseOdpHeader, parseOdpHeader, if_neg long, if_neg exact, front]

/-- `enum EcRelayError`. -/
inductive EcRelayError where
  | transportWrite
  | transportRead
  | transportReadTimeout
  | mctpSerialize (text : String)
  | mctpDecode (text : String)
  | mctpRecvIncomplete
  | unexpectedMessageType
  | unexpectedOdpService
  | odpHeaderParse (text : String)
  | unexpectedOdpRequest
  | remote (code : U16)
  | bodyTooShort
  | bodyTooLong
deriving DecidableEq, Repr

/-- `take_array`. -/
def takeArray (count : Nat) (body : List U8) : Except EcRelayError (Bytes count × List U8) :=
  if long : count ≤ body.length then
    .ok (⟨body.take count, List.length_take_of_le long⟩, body.drop count)
  else .error .bodyTooShort

/-- `take_exact_array`. -/
def takeExactArray (count : Nat) (body : List U8) : Except EcRelayError (Bytes count) := do
  let (exact, rest) <- takeArray count body
  if rest.isEmpty then return exact else .error .bodyTooLong

/-! ## The framing crate -/

/-- `mctp_rs::MctpPacketError`, without what its last three variants carry. -/
inductive MctpPacketError where
  | headerParseError (text : String)
  | serializeError (text : String)
  | commandParseError (text : String)
  | mediumError
  | protocolError
  | unsupportedMessageType
deriving DecidableEq, Repr

/-- `mctp_error_str`. -/
def mctpErrorStr : MctpPacketError -> String
  | .headerParseError text => text
  | .serializeError text => text
  | .commandParseError text => text
  | .mediumError => "medium error"
  | .protocolError => "protocol error"
  | .unsupportedMessageType => "unsupported message type"

/-- `mctp_rs::MctpReplyContext`; the serial medium has no context of its own. -/
structure MctpReplyContext where
  sourceEndpointId : U8
  destinationEndpointId : U8
  packetSequenceNumber : U8
  messageTag : U8
deriving DecidableEq, Repr

/-- What a received packet carries: its message type and the bytes after it. -/
structure MctpMessage where
  messageType : U8
  body : List U8
deriving DecidableEq, Repr

/-- The parts of `mctp-rs` that the relay calls, each on a fresh packet
context over the serial medium.  Serialising yields packets one by one, and
an item may be an error. -/
structure MctpRs where
  spEid : U8
  ecEid : U8
  serializePacket : MctpReplyContext -> (messageType : U8) -> (header body : List U8) ->
    Except MctpPacketError (List (Except MctpPacketError (List U8)))
  deserializePacket : List U8 -> Except MctpPacketError (Option MctpMessage)

/-- `serial_reply_context`: the sequence number and the tag are constants. -/
def serialReplyContext (source destination : U8) : MctpReplyContext where
  sourceEndpointId := source
  destinationEndpointId := destination
  packetSequenceNumber := 0
  messageTag := 0

/-! ## Transports -/

/-- `embedded_io::ErrorKind`, as far as the transport tells kinds apart. -/
inductive ErrorKind where
  | timedOut
  | other
deriving DecidableEq, Repr

/-- `embedded_io::ReadExactError`. -/
inductive ReadExactError where
  | unexpectedEof
  | other (kind : ErrorKind)
deriving DecidableEq, Repr

/-- `embedded_io::Read + embedded_io::Write`: reading one byte, and writing a slice. -/
class EmbeddedIo (U : Type) where
  readExact : U -> Except ReadExactError U8 × U
  writeAll : U -> List U8 -> Except Unit Unit × U

/-- `trait OdpTransport`.  The receive buffer is given by its length. -/
class OdpTransport (T : Type) where
  sendPacket : T -> List U8 -> Except EcRelayError Unit × T
  recvFramedPacket : T -> Nat -> Except EcRelayError (List U8) × T

/-- `struct MctpSerialTransport`. -/
structure MctpSerialTransport (U : Type) where
  uart : U

/-- `SERIAL_END_FLAG`. -/
def serialEndFlag : U8 := 0x7E

namespace MctpSerialTransport

variable {U : Type} [EmbeddedIo U]

/-- `send_packet`. -/
def sendPacket (transport : MctpSerialTransport U) (packet : List U8) :
    Except EcRelayError Unit × MctpSerialTransport U :=
  match EmbeddedIo.writeAll transport.uart packet with
  | (.ok _, uart) => (.ok (), ⟨uart⟩)
  | (.error _, uart) => (.error .transportWrite, ⟨uart⟩)

/-- The `map_err` of `recv_framed_packet`. -/
def readError : ReadExactError -> EcRelayError
  | .other .timedOut => .transportReadTimeout
  | _ => .transportRead

/-- The loop of `recv_framed_packet`, with the room left in the buffer. -/
def recvLoop : (room : Nat) -> (filled : List U8) -> U -> Except EcRelayError (List U8) × U
  | 0, _, uart => (.error .mctpRecvIncomplete, uart)
  | room + 1, filled, uart =>
      match EmbeddedIo.readExact uart with
      | (.error fault, after) => (.error (readError fault), after)
      | (.ok byte, after) =>
          if byte = serialEndFlag then (.ok (filled ++ [byte]), after)
          else recvLoop room (filled ++ [byte]) after

/-- `recv_framed_packet`. -/
def recvFramedPacket (transport : MctpSerialTransport U) (capacity : Nat) :
    Except EcRelayError (List U8) × MctpSerialTransport U :=
  let (result, uart) := recvLoop capacity [] transport.uart
  (result, ⟨uart⟩)

instance : OdpTransport (MctpSerialTransport U) where
  sendPacket := sendPacket
  recvFramedPacket := recvFramedPacket

end MctpSerialTransport

/-! ## Invocations -/

/-- `struct OdpResponse`. -/
structure OdpResponse where
  isRequest : Bool
  serviceId : U8
  isError : Bool
  messageId : U16
  body : List U8
deriving DecidableEq, Repr

/-- `trait Relay`. -/
class Relay (R : Type) where
  invoke : {Value : Type} -> R -> (requestHeader requestBody : List U8) ->
    (OdpResponse -> Except EcRelayError Value) -> Except EcRelayError Value × R

section Requests

variable {R Value : Type} [Relay R]

/-- The closure of `invoke_request_with_response_id`. -/
def checkEnvelope (serviceId : U8) (expectedResponseMessageId : U16)
    (parseBody : List U8 -> Except EcRelayError Value) (response : OdpResponse) :
    Except EcRelayError Value :=
  if response.isRequest then .error .unexpectedOdpRequest
  else if response.serviceId ≠ serviceId then .error .unexpectedOdpService
  else if response.isError then .error (.remote response.messageId)
  else if response.messageId ≠ expectedResponseMessageId then .error .unexpectedOdpService
  else parseBody response.body

/-- `Relay::invoke_request_with_response_id`. -/
def invokeRequestWithResponseId (relay : R) (serviceId : U8)
    (requestMessageId expectedResponseMessageId : U16) (requestBody : List U8)
    (parseBody : List U8 -> Except EcRelayError Value) : Except EcRelayError Value × R :=
  Relay.invoke relay (buildOdpHeader true serviceId requestMessageId) requestBody
    (checkEnvelope serviceId expectedResponseMessageId parseBody)

/-- `Relay::invoke_request`. -/
def invokeRequest (relay : R) (serviceId : U8) (messageId : U16) (requestBody : List U8)
    (parseBody : List U8 -> Except EcRelayError Value) : Except EcRelayError Value × R :=
  invokeRequestWithResponseId relay serviceId messageId messageId requestBody parseBody

end Requests

/-- `struct EcRelay`.  The assembly buffer is overwritten by every call before
it is read, and is left out. -/
structure EcRelay (mctp : MctpRs) (T : Type) where
  transport : T

namespace EcRelay

variable {mctp : MctpRs} {T Value : Type} [OdpTransport T]

/-- The loop of `invoke` that writes the packets out as they are produced. -/
def sendPackets (transport : T) :
    List (Except MctpPacketError (List U8)) -> Except EcRelayError Unit × T
  | [] => (.ok (), transport)
  | .error reason :: _ => (.error (.mctpSerialize (mctpErrorStr reason)), transport)
  | .ok packet :: rest =>
      match OdpTransport.sendPacket transport packet with
      | (.error reason, after) => (.error reason, after)
      | (.ok _, after) => sendPackets after rest

/-- The third step of `invoke`: unframe a packet and read its header. -/
def decodePacket (mctp : MctpRs) (packet : List U8) : Except EcRelayError OdpResponse :=
  match mctp.deserializePacket packet with
  | .error reason => .error (.mctpDecode (mctpErrorStr reason))
  | .ok none => .error .mctpRecvIncomplete
  | .ok (some message) =>
      if message.messageType ≠ odpMessageType then .error .unexpectedMessageType
      else if message.body.length < 4 then .error .bodyTooShort
      else
        match parseOdpHeader message.body with
        | .error text => .error (.odpHeaderParse text)
        | .ok (isRequest, serviceId, isError, messageId) =>
            .ok { isRequest, serviceId, isError, messageId, body := message.body.drop 4 }

/-- `EcRelay::invoke`. -/
def invoke (relay : EcRelay mctp T) (requestHeader requestBody : List U8)
    (parseResponse : OdpResponse -> Except EcRelayError Value) :
    Except EcRelayError Value × EcRelay mctp T :=
  match mctp.serializePacket (serialReplyContext mctp.spEid mctp.ecEid) odpMessageType requestHeader
      requestBody with
  | .error reason => (.error (.mctpSerialize (mctpErrorStr reason)), relay)
  | .ok packets =>
      match sendPackets relay.transport packets with
      | (.error reason, transport) => (.error reason, ⟨transport⟩)
      | (.ok _, transport) =>
          match OdpTransport.recvFramedPacket transport 256 with
          | (.error reason, transport) => (.error reason, ⟨transport⟩)
          | (.ok packet, transport) => ((decodePacket mctp packet).bind parseResponse, ⟨transport⟩)

instance : Relay (EcRelay mctp T) where
  invoke := invoke

/-- A packet decodes to a response exactly when the crate recognises a message
of the relay's type that is long enough for a header. -/
theorem decodePacket_eq_ok {packet : List U8} {response : OdpResponse} :
    decodePacket mctp packet = .ok response <->
      exists header, header.length = 4 ∧
        mctp.deserializePacket packet = .ok (some ⟨odpMessageType, header ++ response.body⟩) ∧
        parseOdpHeader header =
          .ok (response.isRequest, response.serviceId, response.isError, response.messageId) := by
  constructor
  · intro decoded
    unfold decodePacket at decoded
    split at decoded
    · cases decoded
    · cases decoded
    · rename_i message recognised
      split_ifs at decoded with otherType short
      have length : (message.body.take 4).length = 4 := List.length_take_of_le (Nat.le_of_not_lt short)
      have parsed := parseOdpHeader_append length (message.body.drop 4)
      rw [List.take_append_drop] at parsed
      split at decoded
      · cases decoded
      · rename_i found
        cases decoded
        refine ⟨message.body.take 4, length, ?_, parsed.symm.trans found⟩
        rw [recognised, List.take_append_drop, ← not_not.mp otherType]
  · rintro ⟨header, length, recognised, found⟩
    have long : ¬ (header ++ response.body).length < 4 := by
      rw [List.length_append]
      omega
    have rest : (header ++ response.body).drop 4 = response.body := List.drop_left' length
    unfold decodePacket
    rw [recognised]
    simp only [ne_eq, not_true_eq_false, if_false, long, parseOdpHeader_append length, found, rest]

end EcRelay

end Ec
end SecureServices
