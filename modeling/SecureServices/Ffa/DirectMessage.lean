import SecureServices.Ffa.Smc

namespace SecureServices
namespace Ffa

open Library

/-!
# Direct messages

The register payload, the two direct message types and their codecs, from
`odp-ffa/src/function/msg`.  A payload always has 112 bytes, and is only ever
built from at most that many, so both facts are part of the types: the
out-of-range writes and reads at which the source would panic cannot be
written down.
-/

/-- `uuid::Uuid`, as the 128-bit number its sixteen bytes spell in
big-endian order. -/
structure Uuid where
  asU128 : U128
deriving DecidableEq, Repr

namespace Uuid

/-- `Uuid::from_u128_le`: the bytes are those of the value in little-endian order. -/
def fromU128Le (value : U128) : Uuid := ⟨swapBytes 16 value⟩

/-- `Uuid::from_u64_pair`. -/
def fromU64Pair (high low : U64) : Uuid := ⟨high ++ low⟩

/-- `Uuid::as_u64_pair`. -/
def asU64Pair (uuid : Uuid) : U64 × U64 :=
  (uuid.asU128.extractLsb' 64 64, uuid.asU128.extractLsb' 0 64)

/-- The pair of a UUID that was decoded from a little-endian value has the
halves of that value in the other order, each with its bytes reversed. -/
theorem asU64Pair_fromU128Le (high low : U64) :
    (fromU128Le (high ++ low)).asU64Pair = (swapBytes 8 low, swapBytes 8 high) := by
  have bit128 : forall bit, bit < 128 -> (swapBytes 16 (high ++ low)).getLsbD bit =
      (high ++ low).getLsbD (8 * (16 - 1 - bit / 8) + bit % 8) :=
    fun _ inside => @getLsbD_swapBytes 16 (high ++ low) _ inside
  have bit64 : forall (word : U64) bit, bit < 64 -> (swapBytes 8 word).getLsbD bit =
      word.getLsbD (8 * (8 - 1 - bit / 8) + bit % 8) :=
    fun word _ inside => @getLsbD_swapBytes 8 word _ inside
  have upper : (swapBytes 16 (high ++ low)).extractLsb' 64 64 = swapBytes 8 low := by
    apply BitVec.eq_of_getLsbD_eq
    intro bit inside
    have mirrored : 8 * (16 - 1 - (64 + bit) / 8) + (64 + bit) % 8 =
        8 * (8 - 1 - bit / 8) + bit % 8 := by
      omega
    rw [bit64 low bit inside, BitVec.getLsbD_extractLsb', bit128 _ (by omega), mirrored,
      BitVec.getLsbD_append, if_pos (by omega), decide_eq_true inside, Bool.true_and]
  have lower : (swapBytes 16 (high ++ low)).extractLsb' 0 64 = swapBytes 8 high := by
    apply BitVec.eq_of_getLsbD_eq
    intro bit inside
    have mirrored : 8 * (16 - 1 - (0 + bit) / 8) + (0 + bit) % 8 - 64 =
        8 * (8 - 1 - bit / 8) + bit % 8 := by
      omega
    rw [bit64 high bit inside, BitVec.getLsbD_extractLsb', bit128 _ (by omega),
      BitVec.getLsbD_append, if_neg (by omega), mirrored, decide_eq_true inside, Bool.true_and]
  exact Prod.ext upper lower

end Uuid

/-- `struct DirectMessagePayload([u8; 14 * 8])`. -/
structure DirectMessagePayload where
  bytes : List U8
  length_bytes : bytes.length = 112
deriving DecidableEq

namespace DirectMessagePayload

/-- `FromIterator<u8>`: the bytes given, then zeros. -/
def fromIter (bytes : List U8) (fits : bytes.length ≤ 112) : DirectMessagePayload where
  bytes := bytes ++ List.replicate (112 - bytes.length) 0
  length_bytes := by
    rw [List.length_append, List.length_replicate]
    omega

/-- A payload of whole registers, as the responses of the services are built. -/
def ofRegisters (registers : List U64) (fits : registers.length ≤ 14) : DirectMessagePayload :=
  fromIter (registerBytes registers) (by
    rw [length_registerBytes]
    omega)

-- Offsets and register indices are written as literals throughout.
instance offset_neZero : NeZero 112 := ⟨by decide⟩

instance index_neZero : NeZero 14 := ⟨by decide⟩

/-- `u8_at`. -/
def u8At (payload : DirectMessagePayload) (offset : Fin 112) : U8 :=
  payload.bytes.getD offset 0

/-- The bytes `start .. start + count`, which must lie inside the payload. -/
def slice (payload : DirectMessagePayload) (start count : Nat) (_inside : start + count ≤ 112) :
    List U8 :=
  (payload.bytes.drop start).take count

theorem length_slice (payload : DirectMessagePayload) {start count : Nat}
    (inside : start + count ≤ 112) : (payload.slice start count inside).length = count := by
  rw [slice, List.length_take, List.length_drop, payload.length_bytes]
  omega

/-- `u32_at`. -/
def u32At (payload : DirectMessagePayload) (offset : Nat) (inside : offset + 4 ≤ 112) : U32 :=
  ofLeBytes 32 (payload.slice offset 4 inside)

/-- `register_at`. -/
def registerAt (payload : DirectMessagePayload) (index : Fin 14) : U64 :=
  ofLeBytes 64 (payload.slice (8 * index) 8 (by omega))

/-- `registers_iter`. -/
def registersIter (payload : DirectMessagePayload) : List U64 :=
  (List.finRange 14).map payload.registerAt

/-- Reading back a register of a payload that was built from registers. -/
theorem registerAt_ofRegisters (registers : List U64) (fits : registers.length ≤ 14)
    (index : Fin 14) (inside : index.val < registers.length) :
    (ofRegisters registers fits).registerAt index = registers[index.val] := by
  rw [registerAt, slice, ofRegisters, fromIter, slice_registerBytes registers _ inside]
  exact ofLeBytes_leBytes 8 registers[index.val]

end DirectMessagePayload

/-- `struct DirectMessage`. -/
structure DirectMessage where
  sourceId : U16
  destinationId : U16
  uuid : Uuid
  payload : DirectMessagePayload
deriving DecidableEq

namespace DirectMessage

/-- `TryFrom<DirectMessage> for SmcParams`, on a little-endian target. -/
def tryIntoParams (message : DirectMessage) : Except Error SmcParams :=
  SmcParams.tryFromIter
    ([(message.sourceId.setWidth 64 <<< 16) ||| message.destinationId.setWidth 64,
      swapBytes 8 message.uuid.asU64Pair.1, swapBytes 8 message.uuid.asU64Pair.2] ++
      message.payload.registersIter)

/-- `TryFrom<SmcParams> for DirectMessage`, which cannot fail. -/
def ofParams (params : SmcParams) : DirectMessage where
  sourceId := (params.x1 >>> 16).setWidth 16
  destinationId := (params.x1 &&& 0xFFFF).setWidth 16
  uuid := Uuid.fromU64Pair (swapBytes 8 params.x2) (swapBytes 8 params.x3)
  payload := DirectMessagePayload.ofRegisters
    [params.x4, params.x5, params.x6, params.x7, params.x8, params.x9, params.x10, params.x11,
      params.x12, params.x13, params.x14, params.x15, params.x16, params.x17] (Nat.le_refl 14)

/-- Encoding a direct message never runs out of registers. -/
theorem tryIntoParams_isOk (message : DirectMessage) :
    exists params, message.tryIntoParams = .ok params := by
  have fits : ¬ ([(message.sourceId.setWidth 64 <<< 16) ||| message.destinationId.setWidth 64,
      swapBytes 8 message.uuid.asU64Pair.1, swapBytes 8 message.uuid.asU64Pair.2] ++
      message.payload.registersIter).length > 17 := by
    simp [DirectMessagePayload.registersIter]
  rw [tryIntoParams, SmcParams.tryFromIter, if_neg fits]
  exact ⟨_, rfl⟩

end DirectMessage

/-- `struct MsgSendDirectReq2(DirectMessage)`. -/
structure MsgSendDirectReq2 where
  message : DirectMessage
deriving DecidableEq

/-- `struct MsgSendDirectResp2(DirectMessage)`. -/
structure MsgSendDirectResp2 where
  message : DirectMessage
deriving DecidableEq

instance : FfaFunction MsgSendDirectReq2 where
  functionId := .msgSendDirectReq2
  tryIntoParams := fun request => request.message.tryIntoParams

instance : FfaFunction MsgSendDirectResp2 where
  functionId := .msgSendDirectResp2
  tryIntoParams := fun response => response.message.tryIntoParams

namespace MsgSendDirectReq2

def sourceId (request : MsgSendDirectReq2) : U16 := request.message.sourceId
def destinationId (request : MsgSendDirectReq2) : U16 := request.message.destinationId
def uuid (request : MsgSendDirectReq2) : Uuid := request.message.uuid
def payload (request : MsgSendDirectReq2) : DirectMessagePayload := request.message.payload

/-- `try_from_smc_call`. -/
def tryFromSmcCall (call : SmcCall) : Except Error MsgSendDirectReq2 :=
  if call.id = .msgSendDirectReq2 then .ok ⟨DirectMessage.ofParams call.params⟩
  else .error (.unexpectedFunctionId call.id)

end MsgSendDirectReq2

namespace MsgSendDirectResp2

def sourceId (response : MsgSendDirectResp2) : U16 := response.message.sourceId
def destinationId (response : MsgSendDirectResp2) : U16 := response.message.destinationId
def uuid (response : MsgSendDirectResp2) : Uuid := response.message.uuid
def payload (response : MsgSendDirectResp2) : DirectMessagePayload := response.message.payload

/-- `from_req_with_payload`: the response goes back the way the request came. -/
def fromReqWithPayload (request : MsgSendDirectReq2) (payload : DirectMessagePayload) :
    MsgSendDirectResp2 where
  message :=
    { sourceId := request.message.destinationId
      destinationId := request.message.sourceId
      uuid := request.message.uuid
      payload }

/-- A response that answers a request: endpoints swapped, same service. -/
structure Answers (response : MsgSendDirectResp2) (request : MsgSendDirectReq2) : Prop where
  source : response.sourceId = request.destinationId
  destination : response.destinationId = request.sourceId
  service : response.uuid = request.uuid

theorem fromReqWithPayload_answers (request : MsgSendDirectReq2)
    (payload : DirectMessagePayload) : (fromReqWithPayload request payload).Answers request :=
  ⟨rfl, rfl, rfl⟩

end MsgSendDirectResp2

end Ffa
end SecureServices
