import SecureServices.Ffa.Functions

namespace SecureServices
namespace Ffa

open Library

/-!
# Decoding what was encoded

The functions of `odp-ffa/src/function` that are converted from registers as
well as into them.  Ids, flags and bitmaps share registers in different
arrangements, a UUID travels in two byte-swapped halves, and a direct payload
is flattened into fourteen registers.

A value survives the way into the registers and back.  For direct messages
the registers survive the other way round as well, as long as the register of
the two endpoint ids holds nothing else.
-/

/-- `TryFrom<SmcParams>` for a function. -/
class FfaDecode (F : Type) where
  tryFromParams : SmcParams -> Except Error F

/-! ## The codecs -/

instance : FfaDecode DirectMessage where
  tryFromParams := fun params => .ok (.ofParams params)

instance : FfaDecode MsgSendDirectReq2 where
  tryFromParams := fun params => (FfaDecode.tryFromParams params).map MsgSendDirectReq2.mk

instance : FfaDecode MsgSendDirectResp2 where
  tryFromParams := fun params => (FfaDecode.tryFromParams params).map MsgSendDirectResp2.mk

instance : FfaDecode MemRetrieveReq where
  tryFromParams := fun params => .ok {
    totalLength := params.x1
    fragLength := params.x2
    txAddress := params.x3
    pageCount := params.x4 }

instance : FfaDecode NotificationSet where
  tryFromParams := fun params => .ok {
    senderId := (params.x1 >>> 16).setWidth 16
    receiverId := (params.x1 &&& 0xFFFF).setWidth 16
    flags := params.x2.setWidth 32
    notificationBitmap := (params.x4 <<< 32) ||| (params.x3 &&& 0xFFFFFFFF) }

instance : FfaDecode Yield where
  tryFromParams := fun params => .ok {
    vcpuId := (params.x1 &&& 0xFFFF).setWidth 16
    endpointId := ((params.x1 >>> 16) &&& 0xFFFF).setWidth 16
    timeout := (params.x3 <<< 32) ||| params.x2 }

/-- `struct MsgSend2`. -/
structure MsgSend2 where
  senderId : U16
  flags : U32
deriving DecidableEq, Repr

instance : FfaFunction MsgSend2 where
  functionId := .msgSend2
  tryIntoParams := fun function => .ok {
    x1 := function.senderId.setWidth 64 <<< 16
    x2 := function.flags.setWidth 64 }

instance : FfaDecode MsgSend2 where
  tryFromParams := fun params => .ok {
    senderId := (params.x1 >>> 16).setWidth 16
    flags := params.x2.setWidth 32 }

/-- `struct NotificationGet`. -/
structure NotificationGet where
  receiverCpuId : U16
  receiverEndpointId : U16
  flags : U32
deriving DecidableEq, Repr

instance : FfaFunction NotificationGet where
  functionId := .notificationGet
  tryIntoParams := fun function => .ok {
    x1 := (function.receiverCpuId.setWidth 64 <<< 16) ||| function.receiverEndpointId.setWidth 64
    x2 := function.flags.setWidth 64 }

instance : FfaDecode NotificationGet where
  tryFromParams := fun params => .ok {
    receiverCpuId := (params.x1 >>> 16).setWidth 16
    receiverEndpointId := (params.x1 &&& 0xFFFF).setWidth 16
    flags := params.x2.setWidth 32 }

/-- `struct RxTxMap`. -/
structure RxTxMap where
  txAddress : U64
  rxAddress : U64
  pageCount : U32
deriving DecidableEq, Repr

instance : FfaFunction RxTxMap where
  functionId := .rxTxMap
  tryIntoParams := fun function => .ok {
    x1 := function.txAddress
    x2 := function.rxAddress
    x3 := function.pageCount.setWidth 64 }

instance : FfaDecode RxTxMap where
  tryFromParams := fun params => .ok {
    txAddress := params.x1
    rxAddress := params.x2
    pageCount := params.x3.setWidth 32 }

/-- `struct Version`. -/
structure Version where
  major : U16
  minor : U16
deriving DecidableEq, Repr

instance : FfaFunction Version where
  functionId := .version
  tryIntoParams := fun function => .ok {
    x1 := (function.major.setWidth 64 <<< 16) ||| function.minor.setWidth 64 }

instance : FfaDecode Version where
  tryFromParams := fun params => .ok {
    major := (params.x1 >>> 16).setWidth 16
    minor := (params.x1 &&& 0xFFFF).setWidth 16 }

/-- `struct Features`. -/
structure Features where
  featureId : U64
  inputProperties : U64
deriving DecidableEq, Repr

instance : FfaFunction Features where
  functionId := .features
  tryIntoParams := fun function => .ok {
    x1 := function.featureId
    x2 := function.inputProperties }

instance : FfaDecode Features where
  tryFromParams := fun params => .ok {
    featureId := params.x1
    inputProperties := params.x2 }

/-! ## Parts of registers -/

/-- The mask of the lower half of a register. -/
theorem low_mask (word : U64) : (word &&& 0xFFFF).setWidth 16 = word.setWidth 16 := by
  have ones : (0xFFFF : U64) = (BitVec.allOnes 16).setWidth 64 := by decide
  rw [and_ones_eq word 0xFFFF ones, BitVec.setWidth_setWidth_of_le _ (by decide),
    BitVec.setWidth_setWidth_of_le _ (by decide)]

/-- The two ids of a register are read back. -/
theorem ids_of_pack (high low : U16) :
    (((high.setWidth 64 <<< 16) ||| low.setWidth 64) >>> 16).setWidth 16 = high ∧
      (((high.setWidth 64 <<< 16) ||| low.setWidth 64) &&& 0xFFFF).setWidth 16 = low := by
  constructor
  · exact high_of_pack (by decide) high low
  · rw [low_mask, low_of_pack (by decide) high low]

/-- What the encoder of direct messages puts into each register. -/
theorem DirectMessage.tryIntoParams_eq (message : DirectMessage) :
    message.tryIntoParams = .ok {
      x1 := (message.sourceId.setWidth 64 <<< 16) ||| message.destinationId.setWidth 64
      x2 := swapBytes 8 message.uuid.asU64Pair.1
      x3 := swapBytes 8 message.uuid.asU64Pair.2
      x4 := message.payload.registerAt 0
      x5 := message.payload.registerAt 1
      x6 := message.payload.registerAt 2
      x7 := message.payload.registerAt 3
      x8 := message.payload.registerAt 4
      x9 := message.payload.registerAt 5
      x10 := message.payload.registerAt 6
      x11 := message.payload.registerAt 7
      x12 := message.payload.registerAt 8
      x13 := message.payload.registerAt 9
      x14 := message.payload.registerAt 10
      x15 := message.payload.registerAt 11
      x16 := message.payload.registerAt 12
      x17 := message.payload.registerAt 13 } := rfl

theorem Uuid.fromU64Pair_asU64Pair (uuid : Uuid) :
    Uuid.fromU64Pair uuid.asU64Pair.1 uuid.asU64Pair.2 = uuid := by
  rcases uuid with ⟨value⟩
  apply congrArg Uuid.mk
  exact BitVec.extractLsb'_append_extractLsb'

theorem Uuid.asU64Pair_fromU64Pair (high low : U64) :
    (Uuid.fromU64Pair high low).asU64Pair = (high, low) := by
  apply Prod.ext
  · exact BitVec.extractLsb'_append_eq_left
  · exact BitVec.extractLsb'_append_eq_right

/-- A payload is put together from its own registers. -/
theorem DirectMessagePayload.ofRegisters_registersIter (payload : DirectMessagePayload)
    (fits : payload.registersIter.length ≤ 14) : ofRegisters payload.registersIter fits = payload := by
  rcases payload with ⟨bytes, length⟩
  have whole : registerBytes (registersIter ⟨bytes, length⟩) = bytes :=
    registerBytes_chunks 14 length
  simp only [ofRegisters, fromIter, whole, length, Nat.sub_self, List.replicate_zero, List.append_nil]

/-- And fourteen registers are read back from the payload made of them. -/
theorem DirectMessagePayload.registersIter_ofRegisters {registers : List U64}
    (length : registers.length = 14) :
    (ofRegisters registers (Nat.le_of_eq length)).registersIter = registers := by
  apply List.ext_getElem
  · simp [registersIter, length]
  · intro index inside other
    have position : index < 14 := length ▸ other
    simp only [registersIter, List.getElem_map, List.getElem_finRange]
    exact registerAt_ofRegisters registers _ ⟨index, position⟩ other

/-! ## Round trips -/

/-- A value can be encoded, and decoding the registers gives the value again. -/
def RoundTrips {F : Type} [FfaDecode F] (encode : F -> Except Error SmcParams) : Prop :=
  forall value, exists params, encode value = .ok params ∧ FfaDecode.tryFromParams params = .ok value

theorem DirectMessage.ofParams_of_tryIntoParams {message : DirectMessage} {params : SmcParams}
    (encoded : message.tryIntoParams = .ok params) : DirectMessage.ofParams params = message := by
  rw [tryIntoParams_eq] at encoded
  cases encoded
  rcases message with ⟨source, destination, uuid, payload⟩
  simp only [ofParams, (ids_of_pack source destination).1, (ids_of_pack source destination).2,
    swapBytes_swapBytes, Uuid.fromU64Pair_asU64Pair]
  exact congrArg (DirectMessage.mk source destination uuid) (payload.ofRegisters_registersIter _)

theorem DirectMessage.roundTrips : RoundTrips DirectMessage.tryIntoParams := by
  intro message
  rcases message.tryIntoParams_isOk with ⟨params, encoded⟩
  exact ⟨params, encoded, congrArg _ (ofParams_of_tryIntoParams encoded)⟩

/-- A value that wraps a direct message. -/
theorem roundTrips_of_wrapper {F : Type} [FfaDecode F] {encode : F -> Except Error SmcParams}
    (wrap : DirectMessage -> F) (unwrap : F -> DirectMessage)
    (inverse : forall value, wrap (unwrap value) = value)
    (encodes : forall value, encode value = (unwrap value).tryIntoParams)
    (decodes : forall params, FfaDecode.tryFromParams params = .ok (wrap (.ofParams params))) :
    RoundTrips encode := by
  intro value
  rcases DirectMessage.roundTrips (unwrap value) with ⟨params, encoded, decoded⟩
  refine ⟨params, (encodes value).trans encoded, ?_⟩
  rw [decodes, DirectMessage.ofParams_of_tryIntoParams encoded, inverse]

theorem DirectMessage.tryIntoParams_ofParams {params : SmcParams} (small : params.x1.toNat < 2 ^ 32) :
    (DirectMessage.ofParams params).tryIntoParams = .ok params := by
  have registers := DirectMessagePayload.registersIter_ofRegisters
    (show [params.x4, params.x5, params.x6, params.x7, params.x8, params.x9, params.x10, params.x11,
      params.x12, params.x13, params.x14, params.x15, params.x16, params.x17].length = 14 from rfl)
  have ids : (((params.x1 >>> 16).setWidth 16).setWidth 64 <<< 16) |||
      ((params.x1 &&& 0xFFFF).setWidth 16).setWidth 64 = params.x1 := by
    rw [low_mask]
    exact pack_of_halves small
  simp only [tryIntoParams, ofParams, Uuid.asU64Pair_fromU64Pair, swapBytes_swapBytes, ids, registers]
  rfl

/-- The mask of the lower half of a bitmap. -/
theorem word_ones : (0xFFFFFFFF : U64) = (BitVec.allOnes 32).setWidth 64 := by decide

theorem flags_of_wide (flags : U32) : (flags.setWidth 64).setWidth 32 = flags :=
  BitVec.setWidth_setWidth_of_le flags (by decide)

theorem NotificationSet.roundTrips : RoundTrips (FfaFunction.tryIntoParams (F := NotificationSet)) := by
  intro value
  refine ⟨_, rfl, ?_⟩
  have bitmap : ((value.notificationBitmap >>> 32) <<< 32) |||
      ((value.notificationBitmap &&& 0xFFFFFFFF) &&& 0xFFFFFFFF) = value.notificationBitmap := by
    rw [BitVec.and_assoc, BitVec.and_self, and_ones_eq _ 0xFFFFFFFF word_ones]
    exact upper_or_lower 32 value.notificationBitmap
  simp only [FfaDecode.tryFromParams, ids_of_pack, flags_of_wide, bitmap]

theorem Yield.roundTrips : RoundTrips (FfaFunction.tryIntoParams (F := Yield)) := by
  intro value
  refine ⟨_, rfl, ?_⟩
  have timeout : ((value.timeout >>> 32) <<< 32) ||| (value.timeout.setWidth 32).setWidth 64 =
      value.timeout := upper_or_lower 32 value.timeout
  have endpoint : (((value.endpointId.setWidth 64 <<< 16) ||| value.vcpuId.setWidth 64) >>> 16 &&&
      0xFFFF).setWidth 16 = value.endpointId := by
    rw [low_mask]
    exact (ids_of_pack value.endpointId value.vcpuId).1
  simp only [FfaDecode.tryFromParams, endpoint, ids_of_pack, timeout]

theorem MsgSend2.roundTrips : RoundTrips (FfaFunction.tryIntoParams (F := MsgSend2)) := by
  intro value
  refine ⟨_, rfl, ?_⟩
  have sender := (ids_of_pack value.senderId 0#16).1
  rw [BitVec.setWidth_zero, BitVec.or_zero] at sender
  simp only [FfaDecode.tryFromParams, sender, flags_of_wide]

theorem NotificationGet.roundTrips : RoundTrips (FfaFunction.tryIntoParams (F := NotificationGet)) := by
  intro value
  refine ⟨_, rfl, ?_⟩
  simp only [FfaDecode.tryFromParams, ids_of_pack, flags_of_wide]

theorem RxTxMap.roundTrips : RoundTrips (FfaFunction.tryIntoParams (F := RxTxMap)) := by
  intro value
  refine ⟨_, rfl, ?_⟩
  simp only [FfaDecode.tryFromParams, flags_of_wide]

theorem Version.roundTrips : RoundTrips (FfaFunction.tryIntoParams (F := Version)) := by
  intro value
  refine ⟨_, rfl, ?_⟩
  simp only [FfaDecode.tryFromParams, ids_of_pack]

/-- Every codec with two directions decodes what it encoded, and direct
messages are encoded into the registers that they were decoded from. -/
theorem codecs_round_trip :
    RoundTrips DirectMessage.tryIntoParams ∧
      RoundTrips (FfaFunction.tryIntoParams (F := MsgSendDirectReq2)) ∧
      RoundTrips (FfaFunction.tryIntoParams (F := MsgSendDirectResp2)) ∧
      RoundTrips (FfaFunction.tryIntoParams (F := MsgSend2)) ∧
      RoundTrips (FfaFunction.tryIntoParams (F := Yield)) ∧
      RoundTrips (FfaFunction.tryIntoParams (F := NotificationSet)) ∧
      RoundTrips (FfaFunction.tryIntoParams (F := NotificationGet)) ∧
      RoundTrips (FfaFunction.tryIntoParams (F := RxTxMap)) ∧
      RoundTrips (FfaFunction.tryIntoParams (F := Version)) ∧
      RoundTrips (FfaFunction.tryIntoParams (F := Features)) ∧
      RoundTrips (FfaFunction.tryIntoParams (F := MemRetrieveReq)) ∧
      forall params : SmcParams, params.x1.toNat < 2 ^ 32 ->
        (DirectMessage.ofParams params).tryIntoParams = .ok params := by
  refine ⟨DirectMessage.roundTrips, ?_, ?_, MsgSend2.roundTrips, Yield.roundTrips,
    NotificationSet.roundTrips, NotificationGet.roundTrips, RxTxMap.roundTrips, Version.roundTrips,
    fun value => ⟨_, rfl, rfl⟩, fun value => ⟨_, rfl, rfl⟩, ?_⟩
  · exact roundTrips_of_wrapper MsgSendDirectReq2.mk MsgSendDirectReq2.message (fun _ => rfl)
      (fun _ => rfl) (fun _ => rfl)
  · exact roundTrips_of_wrapper MsgSendDirectResp2.mk MsgSendDirectResp2.message (fun _ => rfl)
      (fun _ => rfl) (fun _ => rfl)
  · intro params small
    exact DirectMessage.tryIntoParams_ofParams small

end Ffa
end SecureServices
