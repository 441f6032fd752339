import SecureServices.Espi.Registers

namespace SecureServices
namespace Espi

open Library

/-!
# Which registers round-trip

A register is read back from its word if its values fit and its fields do not
meet.  The fields of all registers but one are apart from each other.  In the
capabilities of the flash channel the erase block size and the supported
payload size share a bit, so that these two come back only if both set it or
both leave it clear.
-/

variable {bitRegister : BitRegister}

/-! ## Fields that are apart -/

section Apart

variable {R : Type} [Register R]

/-- The fields that are smaller than the types of their values. -/
def cramped (register : R) : List (BitField × Stored) :=
  ((Register.fields R).zip (Register.values register)).filter (fun pair => ¬ pair.2.size ≤ pair.1.size)

/-- Only in a cramped field a value may not fit. -/
theorem fits_of_cramped {register : R}
    (each : forall pair, pair ∈ cramped register -> pair.2.bits < 2 ^ pair.1.size) :
    Fits (contents register) := by
  intro _ _ member
  unfold contents at member
  rw [List.zip_map_right] at member
  rcases List.mem_map.mp member with ⟨⟨field, value⟩, listed, same⟩
  cases same
  by_cases room : value.size ≤ field.size
  · exact Nat.lt_of_lt_of_le value.small (Nat.pow_le_pow_right Nat.zero_lt_two room)
  · exact each (field, value) (List.mem_filter.mpr ⟨listed, decide_eq_true room⟩)

/-- What the conversions rely on, put together. -/
theorem roundTrips_iff_read (lawful : bitRegister.Lawful) {register : R} (fits : Fits (contents register)) :
    RoundTrips bitRegister register <->
      Register.tryFromValues ((Register.fields R).map
        (fun field => field.read (pack (Register.width R) (contents register)))) = some register := by
  unfold RoundTrips tryInto tryFrom
  rw [lawful.inserts _ _ fits, Option.bind_some]
  simp only [lawful.extracts]

/-- A register whose fields are apart round-trips if its values fit. -/
theorem roundTrips_of_layout (lawful : bitRegister.Lawful)
    (layout : Layout (Register.width R) (Register.fields R)) {register : R}
    (each : forall pair, pair ∈ cramped register -> pair.2.bits < 2 ^ pair.1.size) :
    RoundTrips bitRegister register := by
  have fits := fits_of_cramped each
  have count : (Register.fields R).length = ((Register.values register).map Stored.bits).length := by
    rw [List.length_map, Register.count]
  rw [roundTrips_iff_read lawful fits, contents, map_read_pack layout count fits]
  exact Register.back register

/-- With room for every value, nothing more is needed. -/
theorem roundTrips_of_roomy (lawful : bitRegister.Lawful)
    (layout : Layout (Register.width R) (Register.fields R)) {register : R} (roomy : cramped register = []) :
    RoundTrips bitRegister register := by
  apply roundTrips_of_layout lawful layout
  rw [roomy]
  exact fun _ impossible => absurd impossible List.not_mem_nil

end Apart

theorem GeneralCapabilities.roundTrips (lawful : bitRegister.Lawful) {register : GeneralCapabilities}
    (wait : register.maxWaitStateAllowed.toNat < 2 ^ 4) : RoundTrips bitRegister register := by
  apply roundTrips_of_layout lawful (by decide)
  have only : cramped register = [(.bits 12 15, stored register.maxWaitStateAllowed)] := rfl
  intro pair member
  rw [only] at member
  cases List.mem_singleton.mp member
  exact wait

theorem VwireChannelCapabilities.roundTrips (lawful : bitRegister.Lawful) {register : VwireChannelCapabilities}
    (count : register.maxVwCount.toNat < 2 ^ 6) (support : register.maxVwCountSupport.toNat < 2 ^ 6) :
    RoundTrips bitRegister register := by
  apply roundTrips_of_layout lawful (by decide)
  have only : cramped register =
      [(.bits 16 21, stored register.maxVwCount), (.bits 8 13, stored register.maxVwCountSupport)] := rfl
  intro pair member
  rw [only] at member
  rcases List.mem_pair.mp member with rfl | rfl
  · exact count
  · exact support

/-! ## Fields that share a bit -/

namespace FlashChannelCapabilities

theorem fits (register : FlashChannelCapabilities) : Fits (contents register) := by
  apply fits_of_cramped
  have none : cramped register = [] := rfl
  rw [none]
  exact fun _ impossible => absurd impossible List.not_mem_nil

/-- The part of the word in which the two sizes lie. -/
def shared (supported : MaxPayloadSizeSupport) (erase : FlashEraseBlockSize) : U32 :=
  pack 32 [(.bits 4 6, supported.number), (.bits 2 4, erase.number)]

/-- All fields but two are read back. -/
theorem map_read (register : FlashChannelCapabilities) :
    (Register.fields FlashChannelCapabilities).map
        (fun field => field.read (pack 32 (contents register))) =
      [register.maxReadRequestSize.number, register.flashSharingMode.number,
        register.maxPayloadSizeSelected.number,
        (BitField.bits 4 6).read (shared register.maxPayloadSizeSupported register.flashBlockEraseSize),
        (BitField.bits 2 4).read (shared register.maxPayloadSizeSupported register.flashBlockEraseSize),
        register.channelReady.toNat, register.channelEnable.toNat] := by
  have fits := register.fits
  have alone : forall (field : BitField) (value : Nat),
      (contents register).filter (fun pair => ¬ field.Apart pair.1) = [(field, value)] ->
        field.low + field.size ≤ 32 -> field.read (pack 32 (contents register)) = value :=
    fun _ _ single inside => read_pack_alone fits single inside
  have request := alone (.bits 12 14) register.maxReadRequestSize.number rfl (by decide)
  have mode := alone (.bits 11 11) register.flashSharingMode.number rfl (by decide)
  have selected := alone (.bits 8 10) register.maxPayloadSizeSelected.number rfl (by decide)
  have ready := alone (.bit 1) register.channelReady.toNat rfl (by decide)
  have enable := alone (.bit 0) register.channelEnable.toNat rfl (by decide)
  have supported : (BitField.bits 4 6).read (pack 32 (contents register)) =
      (BitField.bits 4 6).read (shared register.maxPayloadSizeSupported register.flashBlockEraseSize) :=
    read_pack_filter fits _
  have erase : (BitField.bits 2 4).read (pack 32 (contents register)) =
      (BitField.bits 2 4).read (shared register.maxPayloadSizeSupported register.flashBlockEraseSize) :=
    read_pack_filter fits _
  simp only [Register.fields, List.map_cons, List.map_nil, request, mode, selected, supported, erase, ready,
    enable]

/-- The erase block size sets the shared bit exactly if the supported payload
size does. -/
def SharesBit (register : FlashChannelCapabilities) : Prop :=
  (register.flashBlockEraseSize = .size128KBytes ∨ register.flashBlockEraseSize = .size256KBytes) <->
    (register.maxPayloadSizeSupported = .size64Bytes ∨ register.maxPayloadSizeSupported = .size256Bytes)

/-- Both sizes come back from the word exactly if they agree on the bit. -/
theorem shared_read_iff (supported : MaxPayloadSizeSupport) (erase : FlashEraseBlockSize) :
    (FieldType.tryFromBits ((BitField.bits 4 6).read (shared supported erase)) = some supported ∧
        FieldType.tryFromBits ((BitField.bits 2 4).read (shared supported erase)) = some erase) <->
      ((erase = .size128KBytes ∨ erase = .size256KBytes) <->
        (supported = .size64Bytes ∨ supported = .size256Bytes)) := by
  cases supported <;> cases erase <;> decide

theorem roundTrips_iff (lawful : bitRegister.Lawful) (register : FlashChannelCapabilities) :
    RoundTrips bitRegister register <-> register.SharesBit := by
  have whole := roundTrips_iff_read lawful register.fits
  have reads := register.map_read
  rw [SharesBit, ← shared_read_iff, whole]
  change Register.tryFromValues ((Register.fields FlashChannelCapabilities).map
    (fun field => field.read (pack 32 (contents register)))) = some register <-> _
  rw [reads]
  generalize (BitField.bits 4 6).read _ = supported
  generalize (BitField.bits 2 4).read _ = erase
  rcases register with ⟨request, mode, selected, support, size, ready, enable⟩
  have request' : FieldType.tryFromBits request.number = some request := FieldType.back request
  have mode' : FieldType.tryFromBits mode.number = some mode := FieldType.back mode
  have selected' : FieldType.tryFromBits selected.number = some selected := FieldType.back selected
  have ready' : FieldType.tryFromBits ready.toNat = some ready := FieldType.back ready
  have enable' : FieldType.tryFromBits enable.toNat = some enable := FieldType.back enable
  simp [Register.tryFromValues, request', mode', selected', ready', enable', Option.bind_eq_some_iff]

end FlashChannelCapabilities

/-! ## All registers -/

/-- A value of one of the register types. -/
inductive EspiRegister where
  | deviceId (register : DeviceId)
  | generalCapabilities (register : GeneralCapabilities)
  | peripheralChannelCapabilities (register : PeripheralChannelCapabilities)
  | vwireChannelCapabilities (register : VwireChannelCapabilities)
  | oobChannelCapabilities (register : OobChannelCapabilities)
  | flashChannelCapabilities (register : FlashChannelCapabilities)
  | statusRegister (register : StatusRegister)

namespace EspiRegister

/-- The numbers fit into the bits that are declared for them. -/
def NumbersFit : EspiRegister -> Prop
  | deviceId register => register.versionId.toNat < 2 ^ 8
  | generalCapabilities register => register.maxWaitStateAllowed.toNat < 2 ^ 4
  | vwireChannelCapabilities register =>
      register.maxVwCount.toNat < 2 ^ 6 ∧ register.maxVwCountSupport.toNat < 2 ^ 6
  | _ => True

/-- Converting the register to its word and back gives it again. -/
def RoundTrips (bitRegister : BitRegister) : EspiRegister -> Prop
  | deviceId register => Espi.RoundTrips bitRegister register
  | generalCapabilities register => Espi.RoundTrips bitRegister register
  | peripheralChannelCapabilities register => Espi.RoundTrips bitRegister register
  | vwireChannelCapabilities register => Espi.RoundTrips bitRegister register
  | oobChannelCapabilities register => Espi.RoundTrips bitRegister register
  | flashChannelCapabilities register => Espi.RoundTrips bitRegister register
  | statusRegister register => Espi.RoundTrips bitRegister register

/-- Two fields that share a bit agree on it. -/
def SharesBit : EspiRegister -> Prop
  | flashChannelCapabilities register => register.SharesBit
  | _ => True

end EspiRegister

/-- A register whose numbers fit round-trips exactly if its fields agree on the
bits that they share. -/
theorem roundTrips_iff_sharesBit (bitRegister : BitRegister) (lawful : bitRegister.Lawful)
    (register : EspiRegister) (fit : register.NumbersFit) :
    register.RoundTrips bitRegister <-> register.SharesBit := by
  cases register with
  | deviceId register => exact iff_of_true (roundTrips_of_roomy lawful (by decide) rfl) trivial
  | generalCapabilities register => exact iff_of_true (GeneralCapabilities.roundTrips lawful fit) trivial
  | peripheralChannelCapabilities register =>
      exact iff_of_true (roundTrips_of_roomy lawful (by decide) rfl) trivial
  | vwireChannelCapabilities register =>
      exact iff_of_true (VwireChannelCapabilities.roundTrips lawful fit.1 fit.2) trivial
  | oobChannelCapabilities register => exact iff_of_true (roundTrips_of_roomy lawful (by decide) rfl) trivial
  | flashChannelCapabilities register => exact register.roundTrips_iff lawful
  | statusRegister register => exact iff_of_true (roundTrips_of_roomy lawful (by decide) rfl) trivial

/-- Conversions that do what the declarations rely on. -/
def plain : BitRegister where
  insert := fun width fields => if Fits fields then some (pack width fields) else none
  extract := fun _ field word => field.read word

theorem plain_lawful : plain.Lawful where
  rejects := fun _ _ misfit => if_neg misfit
  inserts := fun _ _ fits => if_pos fits
  extracts := fun _ _ _ => rfl

/-- A device at its highest frequency with both I/O modes. -/
def fastDevice : GeneralCapabilities where
  crcCheckingEnable := true
  responseModifierEnable := false
  alertMode := .alertPin
  ioModeSelect := .dual
  ioModeSupport := .singleDualQuad
  openDrainAlertSelected := false
  operatingFrequency := .freq66Mhz
  openDrainAlertSupported := true
  maxFrequencySupported := .freq66Mhz
  maxWaitStateAllowed := 15
  flashAccessChannelSupport := true
  oobMessageChannelSupport := false
  virtualWireChannelSupport := true
  peripheralChannelSupport := true

theorem fastDevice_roundTrips : (EspiRegister.generalCapabilities fastDevice).RoundTrips plain := by
  have fits : fastDevice.maxWaitStateAllowed.toNat < 2 ^ 4 := by decide
  exact (roundTrips_iff_sharesBit plain plain_lawful (.generalCapabilities fastDevice) fits).mpr trivial

/-- A flash channel with erase blocks of 4 KiB and payloads of 64 bytes. -/
def smallFlash : FlashChannelCapabilities where
  maxReadRequestSize := .size64Bytes
  flashSharingMode := .masterAttached
  maxPayloadSizeSelected := .size64Bytes
  maxPayloadSizeSupported := .size64Bytes
  flashBlockEraseSize := .size4KBytes
  channelReady := false
  channelEnable := false

/-- Its erase blocks come back as 256 KiB. -/
theorem not_always_roundTrips :
    ¬ forall (bitRegister : BitRegister), bitRegister.Lawful -> forall register : EspiRegister,
      register.NumbersFit -> register.RoundTrips bitRegister := by
  intro always
  have same : (tryInto plain smallFlash).bind (tryFrom plain) = some smallFlash :=
    always plain plain_lawful (.flashChannelCapabilities smallFlash) trivial
  have other : (tryInto plain smallFlash).bind (tryFrom plain) =
      some { smallFlash with flashBlockEraseSize := .size256KBytes } := by decide +kernel
  rw [same] at other
  exact absurd other (by decide)

end Espi
end SecureServices
