import SecureServices.Ffa.Functions

namespace SecureServices
namespace Partition

open Library Ffa

/-!
# Services that answer on their own

FwMgmt, Ucsi and the TPM stub from `ec-service-lib/src/services`, and the
battery of `platform/qemu-sp`.  None of them keeps a state.  Only FwMgmt makes
secure monitor calls of its own.
-/

/-! ## FwMgmt -/

namespace FwMgmt

/-- `FwMgmt::UUID`. -/
def uuid : Uuid := ⟨0x330c1273fde5475798195b6539037502⟩

/-- `struct FwStateRsp`. -/
structure FwStateRsp where
  fwVersion : U16
  secureState : U8
  bootStatus : U8
deriving DecidableEq, Repr

/-- `From<FwStateRsp> for DirectMessagePayload`. -/
def FwStateRsp.intoPayload (rsp : FwStateRsp) : DirectMessagePayload :=
  DirectMessagePayload.fromIter (leBytes 2 rsp.fwVersion ++ [rsp.secureState] ++ [rsp.bootStatus])
    (by simp)

/-- `struct ServiceListRsp`; the status is a signed value in two's complement. -/
structure ServiceListRsp where
  status : U64
  debugMask : U16
  batteryMask : U8
  fanMask : U8
  thermalMask : U8
  hidMask : U8
  keyMask : U16
deriving DecidableEq, Repr

/-- `From<ServiceListRsp> for DirectMessagePayload`. -/
def ServiceListRsp.intoPayload (rsp : ServiceListRsp) : DirectMessagePayload :=
  DirectMessagePayload.fromIter
    (leBytes 8 rsp.status ++ leBytes 2 rsp.debugMask ++ [rsp.batteryMask] ++ [rsp.fanMask] ++
      [rsp.thermalMask] ++ [rsp.hidMask] ++ leBytes 2 rsp.keyMask)
    (by simp)

/-- `From<GetBidRsp> for DirectMessagePayload`. -/
def getBidPayload (status bid : U64) : DirectMessagePayload :=
  DirectMessagePayload.ofRegisters [status, bid] (Nat.le_add_left 2 12)

/-- `From<GenericRsp> for DirectMessagePayload`. -/
def genericPayload (status : U64) : DirectMessagePayload :=
  DirectMessagePayload.ofRegisters [status] (Nat.le_add_left 1 13)

/-- `get_fw_state`. -/
def getFwState : FwStateRsp := ⟨0x0100, 0x0, 0x1⟩

/-- `get_svc_list`. -/
def getSvcList : ServiceListRsp := ⟨0x0, 0x1, 0x1, 0x1, 0x1, 0x0, 0x7⟩

/-- `exec()?`, and then a response with status zero. -/
def reportDone {T : Type} (answer : Except Error T × SmcWorld) :
    Except Error DirectMessagePayload × SmcWorld :=
  (answer.1.map (fun _ => genericPayload 0x0), answer.2)

/-- `map_share`, which does not use its arguments. -/
def mapShare (_address _length : U64) : Smc DirectMessagePayload := fun world =>
  reportDone (MemRetrieveReq.new.exec world)

/-- `test_notify`. -/
def testNotify (message : MsgSendDirectReq2) : Smc DirectMessagePayload := fun world =>
  reportDone
    ((NotificationSet.mk message.destinationId message.sourceId 0b10 0b10).exec world)

/-- `process_indirect`. -/
def processIndirect (_seqNum : U16) (_rxBuffer _txBuffer : U64) : Except Error DirectMessagePayload :=
  .error (.other "process_indirect not supported")

/-- The payload that a command produces. -/
def command (message : MsgSendDirectReq2) : Smc DirectMessagePayload := fun world =>
  let payload := message.payload
  match (payload.u8At 0).toNat with
  | 0x0 =>
      (processIndirect ((payload.u8At 1).setWidth 16) (payload.registerAt 4) (payload.registerAt 5), world)
  | 0x1 => (.ok getFwState.intoPayload, world)
  | 0x2 => (.ok getSvcList.intoPayload, world)
  | 0x3 => (.ok (getBidPayload 0x0 0xdead0001), world)
  | 0x4 => testNotify message world
  | 0x5 => mapShare (payload.registerAt 1) (payload.registerAt 2) world
  | _ => (.error (.other "Unknown FwMgmt Command"), world)

/-- `Service::ffa_msg_send_direct_req2`. -/
def ffaMsgSendDirectReq2 (message : MsgSendDirectReq2) : Smc MsgSendDirectResp2 := fun world =>
  let (payload, after) := command message world
  (payload.map (fun payload => .fromReqWithPayload message payload), after)

theorem answers {message : MsgSendDirectReq2} {world : SmcWorld} {response : MsgSendDirectResp2}
    (returned : (ffaMsgSendDirectReq2 message world).1 = .ok response) : response.Answers message := by
  change (command message world).1.map _ = _ at returned
  cases produced : (command message world).1 with
  | error reason =>
      rw [produced] at returned
      cases returned
  | ok payload =>
      rw [produced] at returned
      cases returned
      exact MsgSendDirectResp2.fromReqWithPayload_answers message payload

/-- FwMgmt makes no messaging call while it handles a request. -/
theorem command_quiet (message : MsgSendDirectReq2) (world : SmcWorld) :
    world.Quiet (command message world).2 := by
  unfold command
  dsimp only
  split
  · exact .refl world
  · exact .refl world
  · exact .refl world
  · exact .refl world
  · exact execSimple_quiet (NotificationSet.mk ..) (fun _ => .ok ()) world rfl
  · exact execSimple_quiet MemRetrieveReq.new .ok world rfl
  · exact .refl world

end FwMgmt

/-! ## Ucsi -/

namespace Ucsi

/-- `UCSI_UUID`. -/
def uuid : Uuid := ⟨0x65467f50827f4e4f8770dbf4c3f77f45⟩

abbrev mailboxLen : Nat := 48
abbrev mailboxPayloadStart : Nat := 1
abbrev versionOffset : Nat := 0
abbrev cciOffset : Nat := 4
abbrev controlOffset : Nat := 8
abbrev messageInOffset : Nat := 16

def version : U16 := 0x0120
def doorbell : U8 := 0x00
def connectorOne : U8 := 1

/-- What a command puts into the mailbox; its data fits behind the offset. -/
structure Fixture where
  cci : U32
  messageIn : List U8
  fits : messageIn.length ≤ 16

/-- The `match` on the opcode, with the constants of its arms. -/
def fixture (opcode connector : U8) : Fixture :=
  if opcode = 0x06 then
    ⟨0x80001000, [0x46, 0x40, 0x00, 0x00, 0x01, 0x00, 0x00, 0x00, 0x00, 0x00, 0x20, 0x01, 0x00, 0x03,
      0x00, 0x02], by decide⟩
  else if opcode = 0x07 ∧ connector = connectorOne then ⟨0x80000200, [0x64, 0x03], by decide⟩
  else if opcode = 0x12 ∧ connector = connectorOne then
    ⟨0x80000B00, [0x00, 0x00, 0x29, 0x20, 0x00, 0x00, 0x00, 0x00, 0x00, 0x00, 0x00], by decide⟩
  else ⟨0x02000000, [], by decide⟩

/-- The mailbox of the request. -/
def mailbox (payload : DirectMessagePayload) : Bytes mailboxLen :=
  ⟨payload.slice mailboxPayloadStart mailboxLen (by decide), payload.length_slice _⟩

/-- The mailbox after the command: version, control indication and message are
written, and everything after the message is cleared. -/
def complete (mailbox : Bytes mailboxLen) (fixture : Fixture) : Bytes mailboxLen :=
  ((((mailbox.copyFromSlice versionOffset (leBytes 2 version) (by decide)).copyFromSlice cciOffset
    (leBytes 4 fixture.cci) (by rw [length_leBytes]; decide)).copyFromSlice messageInOffset
    (List.replicate (mailboxLen - messageInOffset) 0) (by decide))).copyFromSlice messageInOffset
    fixture.messageIn (by
      have fits := fixture.fits
      change 16 + fixture.messageIn.length ≤ 48
      omega)

/-- `Service::ffa_msg_send_direct_req2`. -/
def ffaMsgSendDirectReq2 (message : MsgSendDirectReq2) : Except Error MsgSendDirectResp2 :=
  if message.payload.u8At 0 ≠ doorbell then .error (.other "UCSI: unexpected doorbell tag")
  else
    let mailbox := mailbox message.payload
    let fixture := fixture (mailbox.val.getD controlOffset 0) (mailbox.val.getD (controlOffset + 2) 0)
    let completed := complete mailbox fixture
    .ok (.fromReqWithPayload message
      (DirectMessagePayload.fromIter completed.val (by rw [completed.property]; decide)))

theorem answers {message : MsgSendDirectReq2} {response : MsgSendDirectResp2}
    (returned : ffaMsgSendDirectReq2 message = .ok response) : response.Answers message := by
  rw [ffaMsgSendDirectReq2] at returned
  split at returned
  · cases returned
  · cases returned
    exact MsgSendDirectResp2.fromReqWithPayload_answers message _

end Ucsi

/-! ## The TPM stub -/

namespace TpmServiceStub

/-- `TpmServiceStub::UUID`. -/
def uuid : Uuid := ⟨0x17b862a418064faf86b3089a58353861⟩

/-- `Service::ffa_msg_send_direct_req2`, which never fails. -/
def ffaMsgSendDirectReq2 (message : MsgSendDirectReq2) : MsgSendDirectResp2 :=
  .fromReqWithPayload message
    (DirectMessagePayload.ofRegisters [ErrorCode.notSupported.toU64] (Nat.le_add_left 1 13))

end TpmServiceStub

/-! ## The battery of the QEMU platform -/

namespace QemuBattery

/-- `Battery::UUID`. -/
def uuid : Uuid := ⟨0x25cb5207ac36427daaef3aa78877d27e⟩

/-- The payload of `get_bst`. -/
def bstPayload : DirectMessagePayload :=
  DirectMessagePayload.fromIter
    (leBytes 4 (0x1 : U32) ++ leBytes 4 (500 : U32) ++ leBytes 4 (5000 : U32) ++ leBytes 4 (12000 : U32))
    (by simp)

/-- `Service::ffa_msg_send_direct_req2`: the second command reads the battery
state, and the other fourteen are tests that report success. -/
def ffaMsgSendDirectReq2 (message : MsgSendDirectReq2) : Except Error MsgSendDirectResp2 :=
  match (message.payload.u8At 0).toNat with
  | 0x2 => .ok (.fromReqWithPayload message bstPayload)
  | 0x1 | 0x3 | 0x4 | 0x5 | 0x6 | 0x7 | 0x8 | 0x9 | 0xa | 0xb | 0xc | 0xd | 0xe | 0xf =>
      .ok (.fromReqWithPayload message
        (DirectMessagePayload.ofRegisters [0x0] (Nat.le_add_left 1 13)))
  | _ => .error (.other "Unknown Battery Command")

theorem answers {message : MsgSendDirectReq2} {response : MsgSendDirectResp2}
    (returned : ffaMsgSendDirectReq2 message = .ok response) : response.Answers message := by
  unfold ffaMsgSendDirectReq2 at returned
  split at returned
  case h_16 => cases returned
  all_goals
    cases returned
    exact MsgSendDirectResp2.fromReqWithPayload_answers message _

end QemuBattery

end Partition
end SecureServices
