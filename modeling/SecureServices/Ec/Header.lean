import SecureServices.Library.Fields
import SecureServices.Ec.Envelope

namespace SecureServices
namespace Ec

open Library

/-!
# The header as a word with fields

The header is built with shifts and masks and parsed with others.  Both deal
with one word of three fields: building packs them, and parsing reads them.
Requests and successful answers leave every other bit clear.
-/

/-- The fields of a header that is no error. -/
def odpFields : List BitField := [.bit 25, .bits 16 23, .bits 0 14]

theorem odpFields_layout : Layout 32 odpFields := by decide

/-- The word that a header spells. -/
def odpWord (isRequest : Bool) (serviceId : U8) (messageId : U16) : U32 :=
  pack 32 (odpFields.zip [isRequest.toNat, serviceId.toNat, messageId.toNat % 2 ^ 15])

/-- No bit is set outside the fields. -/
def ReservedClear (header : List U8) : Prop :=
  forall bit, bit = 15 ∨ bit = 24 ∨ (26 ≤ bit ∧ bit ≤ 31) -> (bigEndian header).testBit bit = false

/-! ## Building packs the fields -/

theorem buildOdpHeader_eq (isRequest : Bool) (serviceId : U8) (messageId : U16) :
    buildOdpHeader isRequest serviceId messageId = (leBytes 4 (odpWord isRequest serviceId messageId)).reverse := by
  have flag : BitVec.ofNat 32 (isRequest.toNat <<< 25) =
      (if isRequest then 1 <<< 25 else 0 : U32) := by
    cases isRequest <;> rfl
  have service : BitVec.ofNat 32 (serviceId.toNat <<< 16) = serviceId.setWidth 32 <<< 16 := by
    have small : serviceId.toNat < 2 ^ 32 := Nat.lt_of_lt_of_le serviceId.isLt (by decide)
    apply BitVec.eq_of_toNat_eq
    rw [BitVec.toNat_ofNat, BitVec.toNat_shiftLeft, BitVec.toNat_setWidth, Nat.mod_eq_of_lt small]
  have message : BitVec.ofNat 32 ((messageId.toNat % 2 ^ 15) <<< 0) = messageId.setWidth 32 &&& 0x7FFF := by
    have mask : (0x7FFF : U32).toNat = 2 ^ 15 - 1 := rfl
    have small : messageId.toNat < 2 ^ 32 := Nat.lt_of_lt_of_le messageId.isLt (by decide)
    have masked : messageId.toNat % 2 ^ 15 < 2 ^ 32 := Nat.lt_of_le_of_lt (Nat.mod_le _ _) small
    apply BitVec.eq_of_toNat_eq
    rw [BitVec.toNat_ofNat, Nat.shiftLeft_zero, BitVec.toNat_and, mask, Nat.and_two_pow_sub_one_eq_mod,
      BitVec.toNat_setWidth, Nat.mod_eq_of_lt small, Nat.mod_eq_of_lt masked]
  have word : odpWord isRequest serviceId messageId =
      BitVec.ofNat 32 (isRequest.toNat <<< 25) ||| (BitVec.ofNat 32 (serviceId.toNat <<< 16) |||
        (BitVec.ofNat 32 ((messageId.toNat % 2 ^ 15) <<< 0) ||| 0#32)) := rfl
  rw [word, flag, service, message, BitVec.or_zero, ← BitVec.or_assoc]
  rfl

theorem length_buildOdpHeader (isRequest : Bool) (serviceId : U8) (messageId : U16) :
    (buildOdpHeader isRequest serviceId messageId).length = 4 := by
  rw [buildOdpHeader_eq, List.length_reverse, length_leBytes]

/-! ## Parsing reads them -/

/-- The number that a header spells is its word. -/
theorem bigEndian_header {header : List U8} (length : header.length = 4) :
    bigEndian header = (ofLeBytes 32 header.reverse).toNat :=
  (toNat_ofLeBytes_reverse (by rw [length])).symm

theorem parseOdpHeader_read {header : List U8} (length : header.length = 4) (rest : List U8) :
    parseOdpHeader (header ++ rest) =
      .ok ((ofLeBytes 32 header.reverse).getLsbD 25,
        BitVec.ofNat 8 ((BitField.bits 16 23).read (ofLeBytes 32 header.reverse)),
        (ofLeBytes 32 header.reverse).getLsbD 15,
        BitVec.ofNat 16 ((BitField.bits 0 14).read (ofLeBytes 32 header.reverse))) := by
  have long : ¬ header.length < 4 := by omega
  have whole : header.take 4 = header := List.take_of_length_le (Nat.le_of_eq length)
  have service := Nat.shiftRight_eq_div_pow (ofLeBytes 32 header.reverse).toNat 16
  rw [parseOdpHeader_append length, parseOdpHeader_eq long, whole, bigEndian_header length, ← service]
  rfl

/-- The word of a built header. -/
theorem ofLeBytes_buildOdpHeader (isRequest : Bool) (serviceId : U8) (messageId : U16) :
    ofLeBytes 32 (buildOdpHeader isRequest serviceId messageId).reverse =
      odpWord isRequest serviceId messageId := by
  rw [buildOdpHeader_eq, List.reverse_reverse]
  exact ofLeBytes_leBytes 4 (odpWord isRequest serviceId messageId)

/-! ## Both directions -/

theorem odpWord_fits (isRequest : Bool) (serviceId : U8) (messageId : U16) :
    Fits (odpFields.zip [isRequest.toNat, serviceId.toNat, messageId.toNat % 2 ^ 15]) := by
  intro field value member
  simp only [odpFields, List.zip_cons_cons, List.zip_nil_left, List.mem_cons, Prod.mk.injEq,
    List.not_mem_nil, or_false] at member
  rcases member with ⟨rfl, rfl⟩ | ⟨rfl, rfl⟩ | ⟨rfl, rfl⟩
  · exact Bool.toNat_lt isRequest
  · exact serviceId.isLt
  · exact Nat.mod_lt _ (Nat.two_pow_pos 15)

theorem parseOdpHeader_buildOdpHeader (isRequest : Bool) (serviceId : U8) {messageId : U16}
    (small : messageId.toNat < 2 ^ 15) (rest : List U8) :
    parseOdpHeader (buildOdpHeader isRequest serviceId messageId ++ rest) =
      .ok (isRequest, serviceId, false, messageId) := by
  have values := map_read_pack odpFields_layout (by rfl) (odpWord_fits isRequest serviceId messageId)
  have stored : odpFields.map (fun field => field.read (odpWord isRequest serviceId messageId)) =
      [isRequest.toNat, serviceId.toNat, messageId.toNat % 2 ^ 15] := values
  simp only [odpFields, List.map_cons, List.map_nil, List.cons.injEq, and_true] at stored
  rcases stored with ⟨flag, service, message⟩
  have clear : (odpWord isRequest serviceId messageId).getLsbD 15 = false := by
    rw [Bool.eq_false_iff]
    intro set
    rcases (getLsbD_pack_iff (odpWord_fits isRequest serviceId messageId) (by decide)).mp set with
      ⟨field, value, member, within, _⟩
    have outside : forall field, field ∈ odpFields -> ¬ field.Contains 15 := by decide
    exact outside field (List.of_mem_zip member).1 within
  rw [parseOdpHeader_read (length_buildOdpHeader isRequest serviceId messageId), ofLeBytes_buildOdpHeader,
    service, message, clear, BitField.read_bit_eq_toNat.mp flag, Nat.mod_eq_of_lt small, BitVec.ofNat_toNat,
    BitVec.ofNat_toNat, BitVec.setWidth_eq, BitVec.setWidth_eq]

/-- A header with no other bits set is built from its fields. -/
theorem buildOdpHeader_parseOdpHeader {header : List U8} (length : header.length = 4)
    (clear : ReservedClear header) :
    exists isRequest serviceId messageId,
      parseOdpHeader header = .ok (isRequest, serviceId, false, messageId) ∧
        buildOdpHeader isRequest serviceId messageId = header := by
  have parsed := parseOdpHeader_read length []
  rw [List.append_nil] at parsed
  generalize spelled : ofLeBytes 32 header.reverse = word at parsed
  have unset : forall bit, bit = 15 ∨ bit = 24 ∨ (26 ≤ bit ∧ bit ≤ 31) -> word.getLsbD bit = false := by
    intro bit reserved
    have zero := clear bit reserved
    rw [bigEndian_header length, spelled] at zero
    exact zero
  have covered : forall bit, bit < 32 -> word.getLsbD bit = true ->
      exists field, field ∈ odpFields ∧ field.Contains bit := by
    intro bit inside set
    by_contra none
    have outside : bit = 15 ∨ bit = 24 ∨ (26 ≤ bit ∧ bit ≤ 31) := by
      simp only [odpFields, List.mem_cons, List.not_mem_nil, or_false, BitField.Contains, not_exists,
        not_and, forall_eq_or_imp, forall_eq, BitField.bit, BitField.bits] at none
      omega
    rw [unset bit outside] at set
    cases set
  refine ⟨_, _, _, parsed.trans (by rw [unset 15 (Or.inl rfl)]), ?_⟩
  have service : (BitVec.ofNat 8 ((BitField.bits 16 23).read word)).toNat = (BitField.bits 16 23).read word :=
    Nat.mod_eq_of_lt ((BitField.bits 16 23).read_lt word)
  have message : (BitVec.ofNat 16 ((BitField.bits 0 14).read word)).toNat % 2 ^ 15 =
      (BitField.bits 0 14).read word := by
    have small := (BitField.bits 0 14).read_lt word
    change (BitField.bits 0 14).read word < 2 ^ 15 at small
    rw [BitVec.toNat_ofNat, Nat.mod_mod_of_dvd _ (by decide), Nat.mod_eq_of_lt small]
  have same : odpWord (word.getLsbD 25) (BitVec.ofNat 8 ((BitField.bits 16 23).read word))
      (BitVec.ofNat 16 ((BitField.bits 0 14).read word)) = word := by
    unfold odpWord
    rw [service, message, ← BitField.read_bit]
    exact pack_read covered
  rw [buildOdpHeader_eq, same, ← spelled, leBytes_ofLeBytes (by rw [List.length_reverse, length]),
    List.reverse_reverse]

/-- Building and parsing are inverse to each other, on all message ids of 15
bits and on all headers with no other bits set. -/
theorem odpHeader_codec :
    (forall (isRequest : Bool) (serviceId : U8) (messageId : U16) (rest : List U8),
      messageId.toNat < 2 ^ 15 ->
        parseOdpHeader (buildOdpHeader isRequest serviceId messageId ++ rest) =
          .ok (isRequest, serviceId, false, messageId)) ∧
    (forall header : Bytes 4, ReservedClear header.val ->
      exists isRequest serviceId messageId,
        parseOdpHeader header.val = .ok (isRequest, serviceId, false, messageId) ∧
          buildOdpHeader isRequest serviceId messageId = header.val) ∧
    (forall (isRequest isRequest' : Bool) (serviceId serviceId' : U8) (messageId messageId' : U16),
      messageId.toNat < 2 ^ 15 -> messageId'.toNat < 2 ^ 15 ->
        buildOdpHeader isRequest serviceId messageId = buildOdpHeader isRequest' serviceId' messageId' ->
          isRequest = isRequest' ∧ serviceId = serviceId' ∧ messageId = messageId') := by
  refine ⟨?_, ?_, ?_⟩
  · intro isRequest serviceId messageId rest small
    exact parseOdpHeader_buildOdpHeader isRequest serviceId small rest
  · rintro ⟨header, length⟩ clear
    exact buildOdpHeader_parseOdpHeader length clear
  · intro isRequest isRequest' serviceId serviceId' messageId messageId' small small' same
    have first := parseOdpHeader_buildOdpHeader isRequest serviceId small []
    have second := parseOdpHeader_buildOdpHeader isRequest' serviceId' small' []
    rw [same, second] at first
    cases first
    exact ⟨rfl, rfl, rfl⟩

end Ec
end SecureServices
