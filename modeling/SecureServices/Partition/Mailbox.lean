import SecureServices.Partition.Services

namespace SecureServices
namespace Partition
namespace Ucsi

open Library Ffa

/-!
# The mailbox

What `ucsi.rs` does to its 48 bytes, by the fields of the mailbox.  The source
writes into parts of an array at fixed offsets, one write over another; the
operating system reads fields.
-/

/-- The fields of the mailbox, in their order. -/
structure Mailbox where
  version : U16
  reserved : Bytes 2
  cci : U32
  control : Bytes 8
  messageIn : Bytes 16
  messageOut : Bytes 16
deriving DecidableEq

namespace Mailbox

/-- The bytes of the fields. -/
def encode (mailbox : Mailbox) : Bytes mailboxLen :=
  ⟨leBytes 2 mailbox.version ++ mailbox.reserved.val ++ leBytes 4 mailbox.cci ++ mailbox.control.val ++
    mailbox.messageIn.val ++ mailbox.messageOut.val, by
      simp [mailbox.reserved.property, mailbox.control.property, mailbox.messageIn.property,
        mailbox.messageOut.property]⟩

/-- A part of an array. -/
def part {count : Nat} (bytes : Bytes count) (start size : Nat) (inside : start + size ≤ count) : Bytes size :=
  ⟨(bytes.val.drop start).take size, by
    rw [List.length_take, List.length_drop, bytes.property]
    omega⟩

/-- The fields of the bytes. -/
def decode (bytes : Bytes mailboxLen) : Mailbox where
  version := ofLeBytes 16 (part bytes 0 2 (by decide)).val
  reserved := part bytes 2 2 (by decide)
  cci := ofLeBytes 32 (part bytes 4 4 (by decide)).val
  control := part bytes 8 8 (by decide)
  messageIn := part bytes 16 16 (by decide)
  messageOut := part bytes 32 16 (by decide)

/-- No byte lies outside the fields. -/
theorem encode_decode (bytes : Bytes mailboxLen) : (decode bytes).encode = bytes := by
  apply Subtype.ext
  have version : leBytes 2 (decode bytes).version = (bytes.val.drop 0).take 2 :=
    leBytes_ofLeBytes (part bytes 0 2 (by decide)).property
  have cci : leBytes 4 (decode bytes).cci = (bytes.val.drop 4).take 4 :=
    leBytes_ofLeBytes (part bytes 4 4 (by decide)).property
  have last : (bytes.val.drop 32).take 16 = bytes.val.drop 32 := by
    apply List.take_of_length_le
    rw [List.length_drop, bytes.property]
    decide
  have join : forall start size, (bytes.val.drop start).take size ++ bytes.val.drop (start + size) =
      bytes.val.drop start := by
    intro start size
    rw [← List.drop_drop]
    exact List.take_append_drop size (bytes.val.drop start)
  calc (decode bytes).encode.val
    _ = (bytes.val.drop 0).take 2 ++ (bytes.val.drop 2).take 2 ++ (bytes.val.drop 4).take 4 ++
          (bytes.val.drop 8).take 8 ++ (bytes.val.drop 16).take 16 ++ (bytes.val.drop 32).take 16 := by
        rw [← version, ← cci]
        rfl
    _ = bytes.val := by
        rw [last]
        simp only [List.append_assoc]
        rw [join 16 16, join 8 8, join 4 4, join 2 2, join 0 2]
        rfl

theorem part_eq {count size : Nat} {bytes : Bytes count} {field : Bytes size} {front back : List U8} {start : Nat}
    {inside : start + size ≤ count} (parts : bytes.val = front ++ field.val ++ back)
    (at_start : front.length = start) : part bytes start size inside = field := by
  apply Subtype.ext
  change (bytes.val.drop start).take size = field.val
  rw [parts, List.append_assoc, List.drop_left' at_start]
  exact List.take_left' field.property

theorem ofLeBytes_part {size count : Nat} {word : BitVec (8 * count)} {bytes : Bytes size} {front back : List U8}
    {start : Nat} {inside : start + count ≤ size} (parts : bytes.val = front ++ leBytes count word ++ back)
    (at_start : front.length = start) : ofLeBytes (8 * count) (part bytes start count inside).val = word := by
  have field : bytes.val = front ++ (⟨leBytes count word, length_leBytes count word⟩ : Bytes count).val ++ back :=
    parts
  rw [part_eq field at_start]
  exact ofLeBytes_leBytes count word

/-- Every field is read from its own bytes. -/
theorem decode_encode (mailbox : Mailbox) : decode mailbox.encode = mailbox := by
  rcases mailbox with ⟨version, reserved, cci, control, messageIn, messageOut⟩
  unfold decode
  congr 1
  · have parts : (encode ⟨version, reserved, cci, control, messageIn, messageOut⟩).val = [] ++ leBytes 2 version ++
        (reserved.val ++ leBytes 4 cci ++ control.val ++ messageIn.val ++ messageOut.val) := by
      simp [encode]
    exact ofLeBytes_part parts rfl
  · have parts : (encode ⟨version, reserved, cci, control, messageIn, messageOut⟩).val = leBytes 2 version ++
        reserved.val ++ (leBytes 4 cci ++ control.val ++ messageIn.val ++ messageOut.val) := by
      simp [encode]
    exact part_eq parts (length_leBytes 2 version)
  · have parts : (encode ⟨version, reserved, cci, control, messageIn, messageOut⟩).val =
        (leBytes 2 version ++ reserved.val) ++ leBytes 4 cci ++
          (control.val ++ messageIn.val ++ messageOut.val) := by
      simp [encode]
    exact ofLeBytes_part parts (by simp [reserved.property])
  · have parts : (encode ⟨version, reserved, cci, control, messageIn, messageOut⟩).val =
        (leBytes 2 version ++ reserved.val ++ leBytes 4 cci) ++ control.val ++
          (messageIn.val ++ messageOut.val) := by
      simp [encode]
    exact part_eq parts (by simp [reserved.property])
  · exact part_eq rfl (by simp [reserved.property, control.property])
  · have parts : (encode ⟨version, reserved, cci, control, messageIn, messageOut⟩).val =
        (leBytes 2 version ++ reserved.val ++ leBytes 4 cci ++ control.val ++ messageIn.val) ++ messageOut.val ++
          [] := by
      simp [encode]
    exact part_eq parts (by simp [reserved.property, control.property, messageIn.property])

end Mailbox

/-! ## Writing at an offset -/

/-- A write replaces what stands at its offset. -/
theorem copyFromSlice_parts {count : Nat} {array : Bytes count} {front old back bytes : List U8} {offset : Nat}
    {inside : offset + bytes.length ≤ count} (parts : array.val = front ++ old ++ back)
    (at_offset : front.length = offset) (same : bytes.length = old.length) :
    (array.copyFromSlice offset bytes inside).val = front ++ bytes ++ back := by
  have start : array.val.take offset = front := by
    rw [parts, List.append_assoc]
    exact List.take_left' at_offset
  have rest : array.val.drop (offset + bytes.length) = back := by
    rw [parts]
    apply List.drop_left'
    rw [List.length_append, at_offset, same]
  change array.val.take offset ++ bytes ++ array.val.drop (offset + bytes.length) = _
  rw [start, rest]

/-- The message of a fixture, and zeros behind it. -/
def Fixture.padded (fixture : Fixture) : Bytes 16 :=
  ⟨fixture.messageIn ++ List.replicate (16 - fixture.messageIn.length) 0, by
    have fits := fixture.fits
    rw [List.length_append, List.length_replicate]
    omega⟩

/-- The mailbox after a command: of what the operating system wrote only the
reserved bytes and the control field are left. -/
def Mailbox.completed (mailbox : Mailbox) (fixture : Fixture) : Mailbox where
  version := Ucsi.version
  reserved := mailbox.reserved
  cci := fixture.cci
  control := mailbox.control
  messageIn := fixture.padded
  messageOut := ⟨List.replicate 16 0, List.length_replicate⟩

section Writes

variable (mailbox : Mailbox) (fixture : Fixture)

/-- What stands before the messages in the end. -/
def heading : List U8 :=
  leBytes 2 version ++ mailbox.reserved.val ++ leBytes 4 fixture.cci ++ mailbox.control.val

theorem length_heading : (heading mailbox fixture).length = messageInOffset := by
  simp [heading, mailbox.reserved.property, mailbox.control.property]

/-- The version and the control indication are written. -/
theorem headed_parts {array : Bytes mailboxLen} {inside : cciOffset + (leBytes 4 fixture.cci).length ≤ mailboxLen}
    (written : array.val = [] ++ leBytes 2 version ++ (mailbox.reserved.val ++ leBytes 4 mailbox.cci ++
      mailbox.control.val ++ mailbox.messageIn.val ++ mailbox.messageOut.val)) :
    (array.copyFromSlice cciOffset (leBytes 4 fixture.cci) inside).val =
      heading mailbox fixture ++ (mailbox.messageIn.val ++ mailbox.messageOut.val) ++ [] := by
  have parts : array.val = (leBytes 2 version ++ mailbox.reserved.val) ++ leBytes 4 mailbox.cci ++
      (mailbox.control.val ++ mailbox.messageIn.val ++ mailbox.messageOut.val) := by
    rw [written]
    simp
  rw [copyFromSlice_parts parts (by simp [mailbox.reserved.property]) (by simp)]
  simp [heading]

/-- The messages are cleared and the message is written. -/
theorem message_parts {array : Bytes mailboxLen}
    {cleared : messageInOffset + (List.replicate (mailboxLen - messageInOffset) (0 : U8)).length ≤ mailboxLen}
    {inside : messageInOffset + fixture.messageIn.length ≤ mailboxLen}
    (written : array.val = heading mailbox fixture ++ (mailbox.messageIn.val ++ mailbox.messageOut.val) ++ []) :
    ((array.copyFromSlice messageInOffset (List.replicate (mailboxLen - messageInOffset) 0) cleared).copyFromSlice
      messageInOffset fixture.messageIn inside).val =
      heading mailbox fixture ++ fixture.messageIn ++ List.replicate (32 - fixture.messageIn.length) 0 := by
  have zeros : (array.copyFromSlice messageInOffset (List.replicate (mailboxLen - messageInOffset) 0) cleared).val =
      heading mailbox fixture ++ List.replicate (mailboxLen - messageInOffset) 0 ++ [] := by
    apply copyFromSlice_parts written (length_heading mailbox fixture)
    rw [List.length_replicate, List.length_append, mailbox.messageIn.property, mailbox.messageOut.property]
    rfl
  have split : List.replicate (mailboxLen - messageInOffset) (0 : U8) =
      List.replicate fixture.messageIn.length 0 ++ List.replicate (32 - fixture.messageIn.length) 0 := by
    have fits := fixture.fits
    rw [List.replicate_append_replicate]
    congr 1
    change 32 = _
    omega
  have parts : (array.copyFromSlice messageInOffset (List.replicate (mailboxLen - messageInOffset) 0)
      cleared).val = heading mailbox fixture ++ List.replicate fixture.messageIn.length 0 ++
        List.replicate (32 - fixture.messageIn.length) 0 := by
    rw [zeros, split, List.append_nil, List.append_assoc]
  exact copyFromSlice_parts parts (length_heading mailbox fixture) List.length_replicate.symm

/-- The four writes of the source are one assignment of fields. -/
theorem complete_encode : complete mailbox.encode fixture = (mailbox.completed fixture).encode := by
  apply Subtype.ext
  have parts : mailbox.encode.val = [] ++ leBytes 2 mailbox.version ++ (mailbox.reserved.val ++
      leBytes 4 mailbox.cci ++ mailbox.control.val ++ mailbox.messageIn.val ++ mailbox.messageOut.val) := by
    simp [Mailbox.encode]
  have written : (mailbox.encode.copyFromSlice versionOffset (leBytes 2 version) (by decide)).val = _ :=
    copyFromSlice_parts parts rfl (by simp)
  have fits := fixture.fits
  have zeros : List.replicate (16 - fixture.messageIn.length) (0 : U8) ++ List.replicate 16 0 =
      List.replicate (32 - fixture.messageIn.length) 0 := by
    rw [List.replicate_append_replicate]
    congr 1
    omega
  calc (complete mailbox.encode fixture).val
    _ = heading mailbox fixture ++ fixture.messageIn ++ List.replicate (32 - fixture.messageIn.length) 0 :=
        message_parts mailbox fixture (headed_parts mailbox fixture written)
    _ = (mailbox.completed fixture).encode.val := by
        rw [← zeros, ← List.append_assoc, List.append_assoc (heading mailbox fixture)]
        rfl

end Writes

/-! ## What the operating system sees -/

/-- The command that the control field holds. -/
def Mailbox.fixture (mailbox : Mailbox) : Fixture :=
  Ucsi.fixture (mailbox.control.val.getD 0 0) (mailbox.control.val.getD 2 0)

/-- The mailbox with which a mailbox is answered. -/
def Mailbox.answer (mailbox : Mailbox) : Mailbox := mailbox.completed mailbox.fixture

/-- How many bytes of message a control indication announces. -/
def dataLength (cci : U32) : Nat := (cci.extractLsb' 8 8).toNat

/-- The flags `cmd_complete` and `not_supported`. -/
def isComplete (cci : U32) : Bool := cci.getLsbD 31

def isNotSupported (cci : U32) : Bool := cci.getLsbD 25

/-- Every fixture announces what it holds, and is either complete or not
supported. -/
theorem fixture_announces (opcode connector : U8) :
    dataLength (fixture opcode connector).cci = (fixture opcode connector).messageIn.length ∧
      isComplete (fixture opcode connector).cci = !isNotSupported (fixture opcode connector).cci ∧
      (isNotSupported (fixture opcode connector).cci = true -> (fixture opcode connector).messageIn = []) := by
  unfold fixture
  split
  · decide
  · split
    · decide
    · split
      · decide
      · decide

/-- Ringing again with the mailbox that came back changes nothing. -/
theorem Mailbox.answer_answer (mailbox : Mailbox) : mailbox.answer.answer = mailbox.answer := rfl

/-- The mailbox of a response, which starts with the payload. -/
def answered (payload : DirectMessagePayload) : Bytes mailboxLen :=
  ⟨payload.slice 0 mailboxLen (by decide), payload.length_slice _⟩

/-- The payload that starts with a mailbox. -/
def Mailbox.payload (mailbox : Mailbox) : DirectMessagePayload :=
  DirectMessagePayload.fromIter mailbox.encode.val (by
    rw [mailbox.encode.property]
    decide)

theorem answered_payload (mailbox : Mailbox) : answered mailbox.payload = mailbox.encode := by
  apply Subtype.ext
  change ((mailbox.encode.val ++ _).drop 0).take 48 = _
  rw [List.drop_zero]
  exact List.take_left' mailbox.encode.property

/-- The arms of the source read the control field. -/
theorem fixture_decode (bytes : Bytes mailboxLen) :
    fixture (bytes.val.getD controlOffset 0) (bytes.val.getD (controlOffset + 2) 0) =
      (Mailbox.decode bytes).fixture := by
  have reads : forall index, index < 8 ->
      bytes.val.getD (controlOffset + index) 0 = (Mailbox.decode bytes).control.val.getD index 0 := by
    intro index inside
    simp [Mailbox.decode, Mailbox.part, inside]
  rw [Mailbox.fixture, ← reads 0 (by decide), ← reads 2 (by decide), Nat.add_zero]

theorem ffaMsgSendDirectReq2_eq (message : MsgSendDirectReq2) :
    ffaMsgSendDirectReq2 message =
      if message.payload.u8At 0 ≠ doorbell then .error (.other "UCSI: unexpected doorbell tag")
      else .ok (.fromReqWithPayload message (Mailbox.decode (mailbox message.payload)).answer.payload) := by
  have completed := complete_encode (Mailbox.decode (mailbox message.payload))
    (Mailbox.decode (mailbox message.payload)).fixture
  rw [Mailbox.encode_decode] at completed
  have same : complete (mailbox message.payload) (fixture ((mailbox message.payload).val.getD controlOffset 0)
      ((mailbox message.payload).val.getD (controlOffset + 2) 0)) =
        (Mailbox.decode (mailbox message.payload)).answer.encode := by
    rw [fixture_decode]
    exact completed
  simp only [ffaMsgSendDirectReq2, same]
  rfl

/-- The mailbox protocol.  The service answers exactly the requests that ring the
doorbell, and goes by the fields of the mailbox behind it: the reserved bytes and
the control field come back as they were, the version is set, and the control
indication and the message are those of the command, whatever they were before.
The indication announces as many bytes as the message has, and says either that
the command is complete or that it is not supported.  Behind the mailbox there is
nothing, and ringing with the mailbox that came back gives it once more. -/
theorem mailbox_answered (message : MsgSendDirectReq2) :
    ((ffaMsgSendDirectReq2 message).isOk = true <-> message.payload.u8At 0 = doorbell) ∧
    forall response, ffaMsgSendDirectReq2 message = .ok response ->
      response.Answers message ∧
      (exists sent received : Mailbox, mailbox message.payload = sent.encode ∧
        answered response.payload = received.encode ∧
        received = {
          version := 0x0120
          reserved := sent.reserved
          cci := sent.fixture.cci
          control := sent.control
          messageIn := sent.fixture.padded
          messageOut := ⟨List.replicate 16 0, List.length_replicate⟩ } ∧
        dataLength received.cci = sent.fixture.messageIn.length ∧
        isComplete received.cci = !isNotSupported received.cci ∧
        (isNotSupported received.cci = true -> received.messageIn.val = List.replicate 16 0)) ∧
      response.payload.bytes.drop mailboxLen = List.replicate 64 0 ∧
      forall again : MsgSendDirectReq2, again.payload.u8At 0 = doorbell ->
        mailbox again.payload = answered response.payload ->
          ffaMsgSendDirectReq2 again = .ok (.fromReqWithPayload again response.payload) := by
  rw [ffaMsgSendDirectReq2_eq]
  by_cases rung : message.payload.u8At 0 = doorbell
  · rw [if_neg (not_not.mpr rung)]
    refine ⟨⟨fun _ => rung, fun _ => rfl⟩, fun response returned => ?_⟩
    cases returned
    rcases fixture_announces ((Mailbox.decode (mailbox message.payload)).control.val.getD 0 0)
      ((Mailbox.decode (mailbox message.payload)).control.val.getD 2 0) with ⟨length, complete, empty⟩
    refine ⟨MsgSendDirectResp2.fromReqWithPayload_answers message _, ⟨Mailbox.decode (mailbox message.payload),
      (Mailbox.decode (mailbox message.payload)).answer, (Mailbox.encode_decode _).symm, answered_payload _, rfl,
      length, complete, fun unsupported => ?_⟩, ?_, fun again ring same => ?_⟩
    · have nothing : (Mailbox.decode (mailbox message.payload)).fixture.messageIn = [] := empty unsupported
      change (Mailbox.decode (mailbox message.payload)).fixture.messageIn ++ List.replicate _ 0 = _
      rw [nothing]
      rfl
    · change ((Mailbox.decode (mailbox message.payload)).answer.encode.val ++ List.replicate _ 0).drop 48 = _
      have whole := (Mailbox.decode (mailbox message.payload)).answer.encode.property
      rw [List.drop_left' whole, whole]
      rfl
    · have back : mailbox again.payload = (Mailbox.decode (mailbox message.payload)).answer.encode :=
        same.trans (answered_payload _)
      rw [ffaMsgSendDirectReq2_eq, if_neg (not_not.mpr ring), back, Mailbox.decode_encode,
        Mailbox.answer_answer]
      rfl
  · rw [if_pos rung]
    exact ⟨⟨fun ok => (nomatch ok), fun ring => absurd ring rung⟩, fun response returned => nomatch returned⟩

end Ucsi
end Partition
end SecureServices
