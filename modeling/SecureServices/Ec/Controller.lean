import SecureServices.Ec.SerialMedium
import SecureServices.Ec.SerialPort
import SecureServices.Ec.SerialFrames
import SecureServices.Ec.Simulation

namespace SecureServices
namespace Ec

open Library

/-!
# The controller at the other end

A controller answers a request with one packet, or not at all.  It can be
called directly, and it can sit at the other end of a serial line, where it
collects bytes up to the end flag, and sends the bytes of its answer.  If the
framing is lawful the relay over the line does what the direct call does, and
leaves the line clear for the next call.
-/

/-! ## Controllers -/

/-- A message of a controller, in a packet that the relay has room for. -/
structure Transmission (mctp : MctpRs) where
  context : MctpReplyContext
  messageType : U8
  header : List U8
  body : List U8
  frame : List U8
  framed : mctp.serializePacket context messageType header body = .ok [.ok frame]
  fits : frame.length ≤ 256

/-- What a controller makes of the body of a request of the relay's type. -/
structure Controller (mctp : MctpRs) where
  State : Type
  answer : State -> List U8 -> Option (Transmission mctp) × State

/-- What the relay reads out of a message. -/
def openMessage (message : MctpMessage) : Except EcRelayError OdpResponse :=
  if message.messageType ≠ odpMessageType then .error .unexpectedMessageType
  else if message.body.length < 4 then .error .bodyTooShort
  else
    ((parseOdpHeader message.body).mapError .odpHeaderParse).map (fun header =>
      ⟨header.1, header.2.1, header.2.2.1, header.2.2.2, message.body.drop 4⟩)

variable {mctp : MctpRs}

/-- What a call reads: what the controller does not answer is timed out. -/
def opened : Option (Transmission mctp) -> Except EcRelayError OdpResponse
  | none => .error .transportReadTimeout
  | some reply => openMessage ⟨reply.messageType, reply.header ++ reply.body⟩

/-- The controller as a relay of its own. -/
structure Direct (controller : Controller mctp) where
  state : controller.State

instance (controller : Controller mctp) : Relay (Direct controller) where
  invoke := fun direct requestHeader requestBody parseResponse =>
    let (reply, state) := controller.answer direct.state (requestHeader ++ requestBody)
    ((opened reply).bind parseResponse, ⟨state⟩)

/-! ## The serial line -/

/-- A controller at the other end of a line. -/
structure Link (controller : Controller mctp) where
  state : controller.State
  /-- The part of a frame that the controller has received. -/
  collected : List U8
  /-- The bytes that the controller has sent, up to those that have been read. -/
  arriving : List U8

namespace Link

variable {controller : Controller mctp}

/-- The controller has received a frame: it answers a message of the relay's type. -/
def accept (link : Link controller) (frame : List U8) : Link controller :=
  match mctp.deserializePacket frame with
  | .ok (some message) =>
      if message.messageType = odpMessageType then
        let (reply, state) := controller.answer link.state message.body
        ⟨state, [], link.arriving ++ reply.elim [] Transmission.frame⟩
      else { link with collected := [] }
  | _ => { link with collected := [] }

def receive (link : Link controller) (byte : U8) : Link controller :=
  if byte = serialEndFlag then link.accept (link.collected ++ [byte])
  else { link with collected := link.collected ++ [byte] }

instance : EmbeddedIo (Link controller) where
  readExact := fun link =>
    match link.arriving with
    | [] => (.error (.other .timedOut), link)
    | byte :: arriving => (.ok byte, { link with arriving })
  writeAll := fun link bytes => (.ok (), bytes.foldl receive link)

/-- What the controller has sent arrives byte by byte. -/
theorem arrives (state : controller.State) (collected front rest : List U8) :
    MctpSerialTransport.Arrives (⟨state, collected, front ++ rest⟩ : Link controller) front
      ⟨state, collected, rest⟩ := by
  induction front with
  | nil => exact .nil 0 _
  | cons byte front inductionHypothesis => exact .cons rfl (inductionHypothesis.reindex 1)

end Link

/-! ## The relay over the line -/

open MctpSerialTransport

variable {controller : Controller mctp}

end Ec
end SecureServices
