import SecureServices.Ec.Relay

namespace SecureServices
namespace Ec

open Library

/-!
# What the relay asks of the framing

The relay reads up to the end flag and then trusts the crate to give back the
message that was framed.  `Lawful` states both, for messages of one packet.
The serial framing below meets it: an MCTP packet between a revision, a byte
count and a checksum, with the reserved octets stuffed, up to the end flag.
-/

/-- Unframing a message of one packet gives it back, and the end flag stands
at the end of the packet only. -/
structure MctpRs.Lawful (mctp : MctpRs) : Prop where
  deserialize : forall context messageType header body frame,
    mctp.serializePacket context messageType header body = .ok [.ok frame] ->
      mctp.deserializePacket frame = .ok (some ⟨messageType, header ++ body⟩)
  isFrame : forall context messageType header body frame,
    mctp.serializePacket context messageType header body = .ok [.ok frame] ->
      IsFrame serialEndFlag frame

namespace SerialMedium

/-- The frame check sequence, least significant bit first. -/
def frameCheck (octets : List U8) : U16 :=
  let shift := fun check : U16 =>
    if check.getLsbD 0 then (check >>> 1) ^^^ 0x8408 else check >>> 1
  ~~~ octets.foldl (fun check octet => Nat.repeat shift 8 (check ^^^ octet.setWidth 16)) 0xFFFF

/-- The checksum as it is sent, high octet first. -/
def trailer (octets : List U8) : List U8 := (leBytes 2 (frameCheck octets)).reverse

/-- Start and end of message, sequence number and tag. -/
def packetFlags (context : MctpReplyContext) : U8 :=
  0xC0 ||| (context.packetSequenceNumber <<< 4) ||| context.messageTag

/-- What stands before the payload. -/
def preamble (context : MctpReplyContext) (messageType : U8) (payload : List U8) : List U8 :=
  [0x01, BitVec.ofNat 8 (payload.length + 5), 0x01, context.destinationEndpointId,
    context.sourceEndpointId, packetFlags context, messageType]

def encode (context : MctpReplyContext) (messageType : U8) (payload : List U8) : List U8 :=
  let octets := preamble context messageType payload ++ payload
  stuff (octets ++ trailer octets) ++ [flagOctet]

/-- A message that needs more than one packet is refused. -/
def serialize (context : MctpReplyContext) (messageType : U8) (header body : List U8) :
    Except MctpPacketError (List (Except MctpPacketError (List U8))) :=
  if (header ++ body).length ≤ 63 then .ok [.ok (encode context messageType (header ++ body))]
  else .error (.serializeError "buffer too small for odp raw body")

def deserialize (frame : List U8) : Except MctpPacketError (Option MctpMessage) :=
  match unstuff frame.dropLast with
  | some (revision :: count :: version :: destination :: source :: flags :: messageType :: rest) =>
      let body := rest.take (rest.length - 2)
      let octets := [revision, count, version, destination, source, flags, messageType] ++ body
      if revision ≠ 0x01 ∨ count.toNat ≠ body.length + 5 then .error .mediumError
      else if rest.drop (rest.length - 2) ≠ trailer octets then .error .mediumError
      else .ok (some ⟨messageType, body⟩)
  | _ => .error .mediumError

def mctp : MctpRs where
  spEid := 0x08
  ecEid := 0x0A
  serializePacket := serialize
  deserializePacket := deserialize

theorem deserialize_encode (context : MctpReplyContext) (messageType : U8) {payload : List U8}
    (short : payload.length ≤ 63) :
    deserialize (encode context messageType payload) = .ok (some ⟨messageType, payload⟩) := by
  have two : (trailer (preamble context messageType payload ++ payload)).length = 2 := by
    simp [trailer]
  have length : (payload ++ trailer (preamble context messageType payload ++ payload)).length - 2 =
      payload.length := by
    rw [List.length_append, two]
    omega
  have count : (BitVec.ofNat 8 (payload.length + 5)).toNat = payload.length + 5 := by
    rw [BitVec.toNat_ofNat]
    omega
  rw [deserialize, encode, List.dropLast_concat, unstuff_stuff, List.append_assoc]
  simp only [preamble, List.cons_append, List.nil_append] at length ⊢
  rw [length]
  simp only [List.take_left', List.drop_left', ne_eq, not_true_eq_false, count, or_self, if_false]

/-- The serial framing is what the relay relies on. -/
theorem lawful : mctp.Lawful where
  deserialize := by
    intro context messageType header body frame framed
    change serialize context messageType header body = _ at framed
    rw [serialize] at framed
    split at framed
    · cases framed
      exact deserialize_encode context messageType ‹_›
    · cases framed
  isFrame := by
    intro context messageType header body frame framed
    change serialize context messageType header body = _ at framed
    rw [serialize] at framed
    split at framed
    · cases framed
      exact isFrame_stuff _
    · cases framed

end SerialMedium
end Ec
end SecureServices
