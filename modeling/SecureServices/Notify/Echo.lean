import SecureServices.Notify.Outcome

namespace SecureServices
namespace Notify

open Library Ffa

/-!
# What a response says about the UUIDs of its request

A request carries its two UUIDs as little-endian values in registers 1 to 4.
A response is built from the halves of the decoded UUIDs, which are big-endian,
and nothing converts them back as the codec of the direct messages does.  Each
register therefore comes back with its bytes reversed, and the request is
echoed only when that makes no difference.
-/

/-- The UUIDs that registers 1 to 4 of a payload encode for a request. -/
def decodeUuids (payload : DirectMessagePayload) : Uuid × Uuid :=
  (Uuid.fromU128Le (payload.registerAt 2 ++ payload.registerAt 1),
    Uuid.fromU128Le (payload.registerAt 4 ++ payload.registerAt 3))

/-- The registers that carry UUIDs. -/
def CarriesUuid (index : Fin 14) : Prop := 1 ≤ index.val ∧ index.val ≤ 4

instance (index : Fin 14) : Decidable (CarriesUuid index) :=
  inferInstanceAs (Decidable (_ ∧ _))

/-- Registers 1 to 4 of the response are those of the request. -/
def EchoesRegisters (message : MsgSendDirectReq2) (response : MsgSendDirectResp2) : Prop :=
  forall index, CarriesUuid index ->
    response.payload.registerAt index = message.payload.registerAt index

/-- The response decodes to the sender and receiver of the request. -/
def EchoesUuids (message : MsgSendDirectReq2) (response : MsgSendDirectResp2) : Prop :=
  decodeUuids response.payload =
    ((NotifyReq.ofMessage message).senderUuid, (NotifyReq.ofMessage message).receiverUuid)

/-- Reversing the bytes of a register that carries a UUID makes no difference. -/
def Palindromic (message : MsgSendDirectReq2) : Prop :=
  forall index, CarriesUuid index ->
    swapBytes 8 (message.payload.registerAt index) = message.payload.registerAt index

instance (message : MsgSendDirectReq2) : Decidable (Palindromic message) :=
  inferInstanceAs (Decidable (forall _index, _ -> _ = _))

/-! ## The registers of a response -/

/-- What holds of the four registers, two for each UUID. -/
theorem carriesUuid_cases {Property : Fin 14 -> Prop} :
    (forall index, CarriesUuid index -> Property index) <->
      (Property 1 ∧ Property 2) ∧ Property 3 ∧ Property 4 := by
  constructor
  · intro every
    exact ⟨⟨every 1 (by decide), every 2 (by decide)⟩, every 3 (by decide), every 4 (by decide)⟩
  · rintro ⟨⟨first, second⟩, third, fourth⟩ ⟨index, inside⟩ ⟨low, high⟩
    have listed : index = 1 ∨ index = 2 ∨ index = 3 ∨ index = 4 := by
      dsimp only at low high
      omega
    rcases listed with rfl | rfl | rfl | rfl
    · exact first
    · exact second
    · exact third
    · exact fourth

/-- Each register that carries a UUID comes back with its bytes reversed. -/
theorem respond_reverses (message : MsgSendDirectReq2) (id : MessageID) (status : ErrorCode) :
    forall index, CarriesUuid index ->
      (NfySetupRsp.respond id (NotifyReq.ofMessage message) status).intoPayload.registerAt index =
        swapBytes 8 (message.payload.registerAt index) := by
  have sender := Uuid.asU64Pair_fromU128Le (message.payload.registerAt 2) (message.payload.registerAt 1)
  have receiver := Uuid.asU64Pair_fromU128Le (message.payload.registerAt 4) (message.payload.registerAt 3)
  have read := DirectMessagePayload.registerAt_ofRegisters
    [0, (NotifyReq.ofMessage message).senderUuid.asU64Pair.1,
      (NotifyReq.ofMessage message).senderUuid.asU64Pair.2,
      (NotifyReq.ofMessage message).receiverUuid.asU64Pair.1,
      (NotifyReq.ofMessage message).receiverUuid.asU64Pair.2, messageInfoDirResp + id.toU64,
      status.toU64] (Nat.le_add_left 7 7)
  rw [carriesUuid_cases]
  refine ⟨⟨?_, ?_⟩, ?_, ?_⟩
  · exact (read 1 (show 1 < 7 by decide)).trans (congrArg Prod.fst sender)
  · exact (read 2 (show 2 < 7 by decide)).trans (congrArg Prod.snd sender)
  · exact (read 3 (show 3 < 7 by decide)).trans (congrArg Prod.fst receiver)
  · exact (read 4 (show 4 < 7 by decide)).trans (congrArg Prod.snd receiver)

/-! ## Decoding -/

/-- Decoding loses nothing. -/
theorem fromU128Le_append_inj {high low high' low' : U64} :
    Uuid.fromU128Le (high ++ low) = Uuid.fromU128Le (high' ++ low') <-> low = low' ∧ high = high' := by
  constructor
  · intro same
    have pairs := congrArg Uuid.asU64Pair same
    rw [Uuid.asU64Pair_fromU128Le, Uuid.asU64Pair_fromU128Le] at pairs
    have reverse : Function.Injective (swapBytes 8) :=
      Function.LeftInverse.injective swapBytes_swapBytes
    exact ⟨reverse (Prod.mk.inj pairs).1, reverse (Prod.mk.inj pairs).2⟩
  · rintro ⟨rfl, rfl⟩
    rfl

/-- The response decodes to the UUIDs of the request exactly when it has the
same registers. -/
theorem echoesUuids_iff {message : MsgSendDirectReq2} {response : MsgSendDirectResp2} :
    EchoesUuids message response <-> EchoesRegisters message response := by
  unfold EchoesUuids EchoesRegisters decodeUuids
  rw [carriesUuid_cases, Prod.mk.injEq]
  exact and_congr fromU128Le_append_inj fromU128Le_append_inj

theorem echoesRegisters_iff {table after : Table} {message : MsgSendDirectReq2}
    {response : MsgSendDirectResp2}
    (handled : ffaMsgSendDirectReq2 table message = some (.ok response, after)) :
    EchoesRegisters message response <-> Palindromic message := by
  rcases ffaMsgSendDirectReq2_cases handled with ⟨_, _, impossible⟩ | ⟨id, status, _, _, same⟩
  · cases impossible
  · cases same
    have reversed := respond_reverses message id status
    constructor
    · intro echoes index carries
      exact (reversed index carries).symm.trans (echoes index carries)
    · intro palindromic index carries
      exact (reversed index carries).trans (palindromic index carries)

/-- A response echoes the UUIDs of its request, in its registers and for the
decoder of the requests, exactly when each of the four registers reads the same
with its bytes reversed. -/
theorem echoes_iff_palindromic (table after : Table) (message : MsgSendDirectReq2)
    (response : MsgSendDirectResp2)
    (handled : ffaMsgSendDirectReq2 table message = some (.ok response, after)) :
    (EchoesRegisters message response <-> Palindromic message) ∧
      (EchoesUuids message response <-> Palindromic message) :=
  ⟨echoesRegisters_iff handled, echoesUuids_iff.trans (echoesRegisters_iff handled)⟩

/-- A message with a message id that is handled gets a response. -/
theorem exists_response {table : Table} {message : MsgSendDirectReq2}
    (completes : (ffaMsgSendDirectReq2 table message).isSome = true)
    (identified : (messageId (NotifyReq.ofMessage message).msgInfo).isSome = true) :
    exists response after, ffaMsgSendDirectReq2 table message = some (.ok response, after) := by
  rcases Option.isSome_iff_exists.mp completes with ⟨⟨result, after⟩, handled⟩
  rcases ffaMsgSendDirectReq2_cases handled with ⟨noId, _⟩ | ⟨id, status, _, _, rfl⟩
  · rw [noId] at identified
    cases identified
  · exact ⟨_, after, handled⟩

/-- A setup for the receiver whose low register is the same in both byte
orders. -/
def palindromicSetup : MsgSendDirectReq2 :=
  compose 1 0x0708090A0A090807 .setup [⟨9, 3, .global⟩] (by decide)

theorem palindromicSetup_echoes :
    exists response after,
      ffaMsgSendDirectReq2 Table.new palindromicSetup = some (.ok response, after) ∧
      Palindromic palindromicSetup ∧
      (EchoesRegisters palindromicSetup response <-> Palindromic palindromicSetup) ∧
      (EchoesUuids palindromicSetup response <-> Palindromic palindromicSetup) := by
  rcases @exists_response Table.new palindromicSetup (by decide +kernel) (by decide +kernel) with
    ⟨response, after, handled⟩
  exact ⟨response, after, handled, by decide +kernel, echoes_iff_palindromic _ after _ response handled⟩

/-- A setup for the receiver with the low register 7. -/
def plainSetup : MsgSendDirectReq2 := compose 1 7 .setup [⟨9, 3, .global⟩] (by decide)

/-- The response to it carries 7 in the highest byte of that register. -/
theorem not_always_echoes :
    ¬ forall table after message response,
      ffaMsgSendDirectReq2 table message = some (.ok response, after) ->
        EchoesRegisters message response := by
  intro always
  rcases @exists_response Table.new plainSetup (by decide +kernel) (by decide +kernel) with
    ⟨response, after, handled⟩
  have palindromic := (echoesRegisters_iff handled).mp (always _ after _ response handled)
  have different : swapBytes 8 (plainSetup.payload.registerAt 3) ≠ plainSetup.payload.registerAt 3 := by
    decide +kernel
  exact different (palindromic 3 (by decide))

end Notify
end SecureServices
