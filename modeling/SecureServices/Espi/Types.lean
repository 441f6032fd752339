import SecureServices.Library.Fields

namespace SecureServices
namespace Espi

open Library

/-!
# Types of register fields

From `espi-device/src/register_enum_types.rs`.  A field of a register has a
type that is turned into bits, and tried to be turned back.  An enumeration
has the number of each variant as the source gives it, and no variant for any
other number.  How many bits a type needs is a part of it.
-/

/-- A type that can be stored in a field. -/
class FieldType (T : Type) where
  intoBits : T -> Nat
  tryFromBits : Nat -> Option T
  /-- As many bits as every value needs. -/
  size : Nat
  small : forall value, intoBits value < 2 ^ size
  back : forall value, tryFromBits (intoBits value) = some value

/-- The bits of a value, and how many its type needs. -/
structure Stored where
  bits : Nat
  size : Nat
  small : bits < 2 ^ size

def stored {T : Type} [FieldType T] (value : T) : Stored where
  bits := FieldType.intoBits value
  size := FieldType.size T
  small := FieldType.small value

instance : FieldType Bool where
  intoBits := Bool.toNat
  tryFromBits := fun
    | 0 => some false
    | 1 => some true
    | _ => none
  size := 1
  small := Bool.toNat_lt
  back := fun value => by cases value <;> rfl

instance : FieldType U8 where
  intoBits := BitVec.toNat
  tryFromBits := fun bits => if bits < 2 ^ 8 then some (BitVec.ofNat 8 bits) else none
  size := 8
  small := BitVec.isLt
  back := fun value => by rw [if_pos value.isLt, BitVec.ofNat_toNat, BitVec.setWidth_eq]

/-- The variant with a number. -/
def variant {T : Type} (variants : List T) (number : T -> Nat) (bits : Nat) : Option T :=
  variants.find? (fun value => number value == bits)

/-- `enum FlashSharingMode`. -/
inductive FlashSharingMode where
  | masterAttached | shaveAttached
deriving DecidableEq, Repr

namespace FlashSharingMode

def number : FlashSharingMode -> Nat
  | masterAttached => 0b0
  | shaveAttached => 0b1

instance : FieldType FlashSharingMode where
  intoBits := number
  tryFromBits := variant [masterAttached, shaveAttached] number
  size := 1
  small := fun value => by cases value <;> decide
  back := fun value => by cases value <;> rfl

end FlashSharingMode

/-- `enum IoMode`. -/
inductive IoMode where
  | single | dual | quad
deriving DecidableEq, Repr

namespace IoMode

def number : IoMode -> Nat
  | single => 0b00
  | dual => 0b01
  | quad => 0b10

instance : FieldType IoMode where
  intoBits := number
  tryFromBits := variant [single, dual, quad] number
  size := 2
  small := fun value => by cases value <;> decide
  back := fun value => by cases value <;> rfl

end IoMode

/-- `enum Frequency`. -/
inductive Frequency where
  | freq20Mhz | freq25Mhz | freq33Mhz | freq50Mhz | freq66Mhz
deriving DecidableEq, Repr

namespace Frequency

def number : Frequency -> Nat
  | freq20Mhz => 0b000
  | freq25Mhz => 0b001
  | freq33Mhz => 0b010
  | freq50Mhz => 0b011
  | freq66Mhz => 0b100

instance : FieldType Frequency where
  intoBits := number
  tryFromBits := variant [freq20Mhz, freq25Mhz, freq33Mhz, freq50Mhz, freq66Mhz] number
  size := 3
  small := fun value => by cases value <;> decide
  back := fun value => by cases value <;> rfl

end Frequency

/-- `enum MaxPayloadSize`. -/
inductive MaxPayloadSize where
  | size64Bytes | size128Bytes | size256Bytes
deriving DecidableEq, Repr

namespace MaxPayloadSize

def number : MaxPayloadSize -> Nat
  | size64Bytes => 0b001
  | size128Bytes => 0b010
  | size256Bytes => 0b011

instance : FieldType MaxPayloadSize where
  intoBits := number
  tryFromBits := variant [size64Bytes, size128Bytes, size256Bytes] number
  size := 2
  small := fun value => by cases value <;> decide
  back := fun value => by cases value <;> rfl

end MaxPayloadSize

/-- `enum MaxReadRequestSize`. -/
inductive MaxReadRequestSize where
  | size64Bytes | size128Bytes | size256Bytes | size512Bytes | size1024Bytes | size2048Bytes | size4096Bytes
deriving DecidableEq, Repr

namespace MaxReadRequestSize

def number : MaxReadRequestSize -> Nat
  | size64Bytes => 0b001
  | size128Bytes => 0b010
  | size256Bytes => 0b011
  | size512Bytes => 0b100
  | size1024Bytes => 0b101
  | size2048Bytes => 0b110
  | size4096Bytes => 0b111

instance : FieldType MaxReadRequestSize where
  intoBits := number
  tryFromBits := variant [size64Bytes, size128Bytes, size256Bytes, size512Bytes, size1024Bytes, size2048Bytes,
    size4096Bytes] number
  size := 3
  small := fun value => by cases value <;> decide
  back := fun value => by cases value <;> rfl

end MaxReadRequestSize

/-- `enum FlashEraseBlockSize`. -/
inductive FlashEraseBlockSize where
  | size4KBytes | size64KBytes | size4KAnd64KBytes | size128KBytes | size256KBytes
deriving DecidableEq, Repr

namespace FlashEraseBlockSize

def number : FlashEraseBlockSize -> Nat
  | size4KBytes => 0b001
  | size64KBytes => 0b010
  | size4KAnd64KBytes => 0b011
  | size128KBytes => 0b100
  | size256KBytes => 0b101

instance : FieldType FlashEraseBlockSize where
  intoBits := number
  tryFromBits := variant [size4KBytes, size64KBytes, size4KAnd64KBytes, size128KBytes, size256KBytes] number
  size := 3
  small := fun value => by cases value <;> decide
  back := fun value => by cases value <;> rfl

end FlashEraseBlockSize

/-- `enum AlertMode`. -/
inductive AlertMode where
  | ioPin | alertPin
deriving DecidableEq, Repr

namespace AlertMode

def number : AlertMode -> Nat
  | ioPin => 0
  | alertPin => 1

instance : FieldType AlertMode where
  intoBits := number
  tryFromBits := variant [ioPin, alertPin] number
  size := 1
  small := fun value => by cases value <;> decide
  back := fun value => by cases value <;> rfl

end AlertMode

/-- `enum IoModeSupport`. -/
inductive IoModeSupport where
  | single | singleDual | singleQuad | singleDualQuad
deriving DecidableEq, Repr

namespace IoModeSupport

def number : IoModeSupport -> Nat
  | single => 0b00
  | singleDual => 0b01
  | singleQuad => 0b10
  | singleDualQuad => 0b11

instance : FieldType IoModeSupport where
  intoBits := number
  tryFromBits := variant [single, singleDual, singleQuad, singleDualQuad] number
  size := 2
  small := fun value => by cases value <;> decide
  back := fun value => by cases value <;> rfl

end IoModeSupport

/-- `enum MaxPayloadSizeSupport`. -/
inductive MaxPayloadSizeSupport where
  | size64Bytes | size128Bytes | size256Bytes
deriving DecidableEq, Repr

namespace MaxPayloadSizeSupport

def number : MaxPayloadSizeSupport -> Nat
  | size64Bytes => 0b001
  | size128Bytes => 0b010
  | size256Bytes => 0b011

instance : FieldType MaxPayloadSizeSupport where
  intoBits := number
  tryFromBits := variant [size64Bytes, size128Bytes, size256Bytes] number
  size := 2
  small := fun value => by cases value <;> decide
  back := fun value => by cases value <;> rfl

end MaxPayloadSizeSupport

end Espi
end SecureServices
