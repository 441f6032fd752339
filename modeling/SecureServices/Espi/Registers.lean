import SecureServices.Espi.Types

namespace SecureServices
namespace Espi

open Library

/-!
# Configuration registers and the status register

From `espi-device/src/config_register.rs` and `status_register.rs`.  A
register is declared by its fields and their bits; the conversions to a word
and back are generated by the `bit_register` macro, which is not part of the
repository.  It enters as the parameter `BitRegister`, and what the
declarations rely on as `BitRegister.Lawful`.
-/

/-! ## Generated conversions -/

/-- How a word is put together, and how a field of it is read.  The texts of
the errors are left out. -/
structure BitRegister where
  insert : (width : Nat) -> List (BitField × Nat) -> Option (BitVec width)
  extract : (width : Nat) -> BitField -> BitVec width -> Nat

/-- Values that do not fit are rejected, all others are placed in a word of
zeros at the bits of their fields; and a field is read at the same bits. -/
structure BitRegister.Lawful (bitRegister : BitRegister) : Prop where
  rejects : forall width fields, ¬ Fits fields -> bitRegister.insert width fields = none
  inserts : forall width fields, Fits fields -> bitRegister.insert width fields = some (pack width fields)
  extracts : forall width field word, bitRegister.extract width field word = BitField.read field word

/-- What a declaration says about a register: its fields in a word of some
width, and the types of their values. -/
class Register (R : Type) where
  width : Nat
  fields : List BitField
  values : R -> List Stored
  tryFromValues : List Nat -> Option R
  count : forall register, (values register).length = fields.length
  back : forall register, tryFromValues ((values register).map Stored.bits) = some register

section Conversions

variable (bitRegister : BitRegister) {R : Type} [Register R]

/-- The bits of a register, field by field. -/
def contents (register : R) : List (BitField × Nat) :=
  (Register.fields R).zip ((Register.values register).map Stored.bits)

/-- `TryInto` of a register. -/
def tryInto (register : R) : Option (BitVec (Register.width R)) :=
  bitRegister.insert (Register.width R) (contents register)

/-- `TryFrom` of a register. -/
def tryFrom (word : BitVec (Register.width R)) : Option R :=
  Register.tryFromValues ((Register.fields R).map (fun field => bitRegister.extract (Register.width R) field word))

/-- Converting to the word and back gives the register. -/
def RoundTrips (register : R) : Prop := (tryInto bitRegister register).bind (tryFrom bitRegister) = some register

end Conversions

/-! ## Declarations -/

open FieldType

/-- `struct DeviceId`. -/
structure DeviceId where
  versionId : U8
deriving DecidableEq, Repr

instance : Register DeviceId where
  width := 32
  fields := [.bits 0 7]
  values := fun register => [stored register.versionId]
  tryFromValues := fun
    | [versionId] => do return { versionId := <- tryFromBits versionId }
    | _ => none
  count := fun _ => rfl
  back := fun register => by
    simp only [List.map_cons, List.map_nil, stored, FieldType.back]
    rfl

/-- `struct GeneralCapabilities`. -/
structure GeneralCapabilities where
  crcCheckingEnable : Bool
  responseModifierEnable : Bool
  alertMode : AlertMode
  ioModeSelect : IoMode
  ioModeSupport : IoModeSupport
  openDrainAlertSelected : Bool
  operatingFrequency : Frequency
  openDrainAlertSupported : Bool
  maxFrequencySupported : Frequency
  maxWaitStateAllowed : U8
  flashAccessChannelSupport : Bool
  oobMessageChannelSupport : Bool
  virtualWireChannelSupport : Bool
  peripheralChannelSupport : Bool
deriving DecidableEq, Repr

instance : Register GeneralCapabilities where
  width := 32
  fields := [.bit 31, .bit 30, .bit 28, .bits 26 27, .bits 24 25, .bit 23, .bits 20 22, .bit 19, .bits 16 18,
    .bits 12 15, .bit 3, .bit 2, .bit 1, .bit 0]
  values := fun register => [stored register.crcCheckingEnable, stored register.responseModifierEnable,
    stored register.alertMode, stored register.ioModeSelect, stored register.ioModeSupport,
    stored register.openDrainAlertSelected, stored register.operatingFrequency,
    stored register.openDrainAlertSupported, stored register.maxFrequencySupported,
    stored register.maxWaitStateAllowed, stored register.flashAccessChannelSupport,
    stored register.oobMessageChannelSupport, stored register.virtualWireChannelSupport,
    stored register.peripheralChannelSupport]
  tryFromValues := fun
    | [crcCheckingEnable, responseModifierEnable, alertMode, ioModeSelect, ioModeSupport,
        openDrainAlertSelected, operatingFrequency, openDrainAlertSupported, maxFrequencySupported,
        maxWaitStateAllowed, flashAccessChannelSupport, oobMessageChannelSupport, virtualWireChannelSupport,
        peripheralChannelSupport] => do
        return {
          crcCheckingEnable := <- tryFromBits crcCheckingEnable
          responseModifierEnable := <- tryFromBits responseModifierEnable
          alertMode := <- tryFromBits alertMode
          ioModeSelect := <- tryFromBits ioModeSelect
          ioModeSupport := <- tryFromBits ioModeSupport
          openDrainAlertSelected := <- tryFromBits openDrainAlertSelected
          operatingFrequency := <- tryFromBits operatingFrequency
          openDrainAlertSupported := <- tryFromBits openDrainAlertSupported
          maxFrequencySupported := <- tryFromBits maxFrequencySupported
          maxWaitStateAllowed := <- tryFromBits maxWaitStateAllowed
          flashAccessChannelSupport := <- tryFromBits flashAccessChannelSupport
          oobMessageChannelSupport := <- tryFromBits oobMessageChannelSupport
          virtualWireChannelSupport := <- tryFromBits virtualWireChannelSupport
          peripheralChannelSupport := <- tryFromBits peripheralChannelSupport }
    | _ => none
  count := fun _ => rfl
  back := fun register => by
    simp only [List.map_cons, List.map_nil, stored, FieldType.back]
    rfl

/-- `struct PeripheralChannelCapabilities`. -/
structure PeripheralChannelCapabilities where
  maxReadRequestSize : MaxReadRequestSize
  maxPayloadSizeSelected : MaxPayloadSize
  maxPayloadSizeSupported : MaxPayloadSizeSupport
  busMasterEnable : Bool
  channelReady : Bool
  channelEnable : Bool
deriving DecidableEq, Repr

instance : Register PeripheralChannelCapabilities where
  width := 32
  fields := [.bits 12 14, .bits 8 10, .bits 4 6, .bit 2, .bit 1, .bit 0]
  values := fun register => [stored register.maxReadRequestSize, stored register.maxPayloadSizeSelected,
    stored register.maxPayloadSizeSupported, stored register.busMasterEnable,
    stored register.channelReady, stored register.channelEnable]
  tryFromValues := fun
    | [maxReadRequestSize, maxPayloadSizeSelected, maxPayloadSizeSupported, busMasterEnable, channelReady,
        channelEnable] => do
        return {
          maxReadRequestSize := <- tryFromBits maxReadRequestSize
          maxPayloadSizeSelected := <- tryFromBits maxPayloadSizeSelected
          maxPayloadSizeSupported := <- tryFromBits maxPayloadSizeSupported
          busMasterEnable := <- tryFromBits busMasterEnable
          channelReady := <- tryFromBits channelReady
          channelEnable := <- tryFromBits channelEnable }
    | _ => none
  count := fun _ => rfl
  back := fun register => by
    simp only [List.map_cons, List.map_nil, stored, FieldType.back]
    rfl

/-- `struct VwireChannelCapabilities`. -/
structure VwireChannelCapabilities where
  maxVwCount : U8
  maxVwCountSupport : U8
  channelReady : Bool
  channelEnable : Bool
deriving DecidableEq, Repr

instance : Register VwireChannelCapabilities where
  width := 32
  fields := [.bits 16 21, .bits 8 13, .bit 1, .bit 0]
  values := fun register => [stored register.maxVwCount, stored register.maxVwCountSupport,
    stored register.channelReady, stored register.channelEnable]
  tryFromValues := fun
    | [maxVwCount, maxVwCountSupport, channelReady, channelEnable] => do
        return {
          maxVwCount := <- tryFromBits maxVwCount
          maxVwCountSupport := <- tryFromBits maxVwCountSupport
          channelReady := <- tryFromBits channelReady
          channelEnable := <- tryFromBits channelEnable }
    | _ => none
  count := fun _ => rfl
  back := fun register => by
    simp only [List.map_cons, List.map_nil, stored, FieldType.back]
    rfl

/-- `struct OobChannelCapabilities`. -/
structure OobChannelCapabilities where
  maxPayloadSize : MaxPayloadSize
  maxPayloadSizeSupport : MaxPayloadSizeSupport
  channelReady : Bool
  channelEnable : Bool
deriving DecidableEq, Repr

instance : Register OobChannelCapabilities where
  width := 32
  fields := [.bits 8 10, .bits 4 6, .bit 1, .bit 0]
  values := fun register => [stored register.maxPayloadSize, stored register.maxPayloadSizeSupport,
    stored register.channelReady, stored register.channelEnable]
  tryFromValues := fun
    | [maxPayloadSize, maxPayloadSizeSupport, channelReady, channelEnable] => do
        return {
          maxPayloadSize := <- tryFromBits maxPayloadSize
          maxPayloadSizeSupport := <- tryFromBits maxPayloadSizeSupport
          channelReady := <- tryFromBits channelReady
          channelEnable := <- tryFromBits channelEnable }
    | _ => none
  count := fun _ => rfl
  back := fun register => by
    simp only [List.map_cons, List.map_nil, stored, FieldType.back]
    rfl

/-- `struct FlashChannelCapabilities`. -/
structure FlashChannelCapabilities where
  maxReadRequestSize : MaxReadRequestSize
  flashSharingMode : FlashSharingMode
  maxPayloadSizeSelected : MaxPayloadSize
  maxPayloadSizeSupported : MaxPayloadSizeSupport
  flashBlockEraseSize : FlashEraseBlockSize
  channelReady : Bool
  channelEnable : Bool
deriving DecidableEq, Repr

instance : Register FlashChannelCapabilities where
  width := 32
  fields := [.bits 12 14, .bits 11 11, .bits 8 10, .bits 4 6, .bits 2 4, .bit 1, .bit 0]
  values := fun register => [stored register.maxReadRequestSize, stored register.flashSharingMode,
    stored register.maxPayloadSizeSelected, stored register.maxPayloadSizeSupported,
    stored register.flashBlockEraseSize, stored register.channelReady, stored register.channelEnable]
  tryFromValues := fun
    | [maxReadRequestSize, flashSharingMode, maxPayloadSizeSelected, maxPayloadSizeSupported,
        flashBlockEraseSize, channelReady, channelEnable] => do
        return {
          maxReadRequestSize := <- tryFromBits maxReadRequestSize
          flashSharingMode := <- tryFromBits flashSharingMode
          maxPayloadSizeSelected := <- tryFromBits maxPayloadSizeSelected
          maxPayloadSizeSupported := <- tryFromBits maxPayloadSizeSupported
          flashBlockEraseSize := <- tryFromBits flashBlockEraseSize
          channelReady := <- tryFromBits channelReady
          channelEnable := <- tryFromBits channelEnable }
    | _ => none
  count := fun _ => rfl
  back := fun register => by
    simp only [List.map_cons, List.map_nil, stored, FieldType.back]
    rfl

/-- `struct StatusRegister`. -/
structure StatusRegister where
  pcFree : Bool
  npFree : Bool
  vwireFree : Bool
  oobFree : Bool
  pcAvail : Bool
  npAvail : Bool
  vwireAvail : Bool
  oobAvail : Bool
  flashCFree : Bool
  flashNpFree : Bool
  flashCAvail : Bool
  flashNpAvail : Bool
deriving DecidableEq, Repr

instance : Register StatusRegister where
  width := 16
  fields := [.bit 0, .bit 1, .bit 2, .bit 3, .bit 4, .bit 5, .bit 6, .bit 7, .bit 8, .bit 9, .bit 12, .bit 13]
  values := fun register => [stored register.pcFree, stored register.npFree, stored register.vwireFree,
    stored register.oobFree, stored register.pcAvail, stored register.npAvail,
    stored register.vwireAvail, stored register.oobAvail, stored register.flashCFree,
    stored register.flashNpFree, stored register.flashCAvail, stored register.flashNpAvail]
  tryFromValues := fun
    | [pcFree, npFree, vwireFree, oobFree, pcAvail, npAvail, vwireAvail, oobAvail, flashCFree, flashNpFree,
        flashCAvail, flashNpAvail] => do
        return {
          pcFree := <- tryFromBits pcFree
          npFree := <- tryFromBits npFree
          vwireFree := <- tryFromBits vwireFree
          oobFree := <- tryFromBits oobFree
          pcAvail := <- tryFromBits pcAvail
          npAvail := <- tryFromBits npAvail
          vwireAvail := <- tryFromBits vwireAvail
          oobAvail := <- tryFromBits oobAvail
          flashCFree := <- tryFromBits flashCFree
          flashNpFree := <- tryFromBits flashNpFree
          flashCAvail := <- tryFromBits flashCAvail
          flashNpAvail := <- tryFromBits flashNpAvail }
    | _ => none
  count := fun _ => rfl
  back := fun register => by
    simp only [List.map_cons, List.map_nil, stored, FieldType.back]
    rfl

end Espi
end SecureServices
