import Mathlib.Tactic.FinCases
import SecureServices.Library.Words

namespace SecureServices
namespace Espi

open Library

/-!
# Command bytes

`espi-device/src/espi_types`: the operation code of a command and the cycle type
of a packet, which is read back on the other side.  Each channel has its own
cycle types, and the completions of two channels have the same bytes.  The
arms of a decoder are tried in order, and the arms of the completions look at
some of the bits only.
-/

/-! ## Cycle types -/

/-- `enum CompletionType`. -/
inductive CompletionType where
  | middle | first | last | only
deriving DecidableEq, Repr

/-- `CompletionType::encode`. -/
def CompletionType.encode : CompletionType -> U8
  | middle => 0b00
  | first => 0b01
  | last => 0b10
  | only => 0b11

/-- `TryFrom<u8> for CompletionType`. -/
def CompletionType.tryFrom (value : U8) : Except String CompletionType :=
  if value = 0b00 then .ok .middle
  else if value = 0b01 then .ok .first
  else if value = 0b10 then .ok .last
  else if value = 0b11 then .ok .only
  else .error "Invalid completion type"

/-- `enum Routing`. -/
inductive Routing where
  | local
deriving DecidableEq, Repr

/-- `trait CycleType`: into a byte, and perhaps back. -/
class CycleType (T : Type) where
  encode : T -> U8
  tryFrom : U8 -> Except String T

/-- `enum PeripheralChannelCycleType`. -/
inductive PeripheralChannelCycleType where
  | memRead32 | memRead64 | memWrite32 | memWrite64
  | message (routing : Routing)
  | messageWithData (routing : Routing)
  | successfulCompletionWithoutData
  | successfulCompletionWithData (completion : CompletionType)
  | unsuccessfulCompletionWithoutData (completion : CompletionType)
deriving DecidableEq, Repr

namespace PeripheralChannelCycleType

/-- `From<PeripheralChannelCycleType> for u8`. -/
def encode : PeripheralChannelCycleType -> U8
  | .memRead32 => 0b00000000
  | .memRead64 => 0b00000010
  | .memWrite32 => 0b00000001
  | .memWrite64 => 0b00000011
  | .message .local => 0b00010000
  | .messageWithData .local => 0b00010001
  | .successfulCompletionWithoutData => 0b00000110
  | .successfulCompletionWithData ct => 0b00001001 ||| (ct.encode <<< 1)
  | .unsuccessfulCompletionWithoutData ct => 0b00001000 ||| (ct.encode <<< 1)

/-- `TryFrom<u8> for PeripheralChannelCycleType`. -/
def tryFrom (value : U8) : Except String PeripheralChannelCycleType :=
  if value = 0b00000000 then .ok .memRead32
  else if value = 0b00000010 then .ok .memRead64
  else if value = 0b00000001 then .ok .memWrite32
  else if value = 0b00000011 then .ok .memWrite64
  else if value = 0b00010000 then .ok (.message .local)
  else if value = 0b00010001 then .ok (.messageWithData .local)
  else if value = 0b00000110 then .ok .successfulCompletionWithoutData
  else if value &&& 0b00001001 = 0b00001001 then
    (CompletionType.tryFrom ((value &&& 0b00000110) >>> 1)).map .successfulCompletionWithData
  else if value &&& 0b00001000 = 0b00001000 then
    (CompletionType.tryFrom ((value &&& 0b00000110) >>> 1)).map .unsuccessfulCompletionWithoutData
  else .error "Invalid peripheral channel cycle type"

instance : CycleType PeripheralChannelCycleType where
  encode := encode
  tryFrom := tryFrom

end PeripheralChannelCycleType

/-- `enum OutOfBandChannelCycleType`. -/
inductive OutOfBandChannelCycleType where
  | outOfBand
deriving DecidableEq, Repr

namespace OutOfBandChannelCycleType

/-- `From<OutOfBandChannelCycleType> for u8`. -/
def encode : OutOfBandChannelCycleType -> U8
  | .outOfBand => 0b00100001

/-- `TryFrom<u8> for OutOfBandChannelCycleType`. -/
def tryFrom (value : U8) : Except String OutOfBandChannelCycleType :=
  if value = 0b00100001 then .ok .outOfBand else .error "Invalid out-of-band channel cycle type"

instance : CycleType OutOfBandChannelCycleType where
  encode := encode
  tryFrom := tryFrom

end OutOfBandChannelCycleType

/-- `enum FlashChannelCycleType`. -/
inductive FlashChannelCycleType where
  | flashRead | flashWrite | flashErase
  | successfulCompletionWithoutData
  | successfulCompletionWithData (completion : CompletionType)
  | unsuccessfulCompletionWithoutData (completion : CompletionType)
deriving DecidableEq, Repr

namespace FlashChannelCycleType

/-- `From<FlashChannelCycleType> for u8`. -/
def encode : FlashChannelCycleType -> U8
  | .flashRead => 0b00001011
  | .flashWrite => 0b00001100
  | .flashErase => 0b00001101
  | .successfulCompletionWithoutData => 0b00000110
  | .successfulCompletionWithData ct => 0b00001001 ||| (ct.encode <<< 1)
  | .unsuccessfulCompletionWithoutData ct => 0b00001000 ||| (ct.encode <<< 1)

/-- `TryFrom<u8> for FlashChannelCycleType`. -/
def tryFrom (value : U8) : Except String FlashChannelCycleType :=
  if value = 0b00001011 then .ok .flashRead
  else if value = 0b00001100 then .ok .flashWrite
  else if value = 0b00001101 then .ok .flashErase
  else if value = 0b00000110 then .ok .successfulCompletionWithoutData
  else if value &&& 0b00001001 = 0b00001001 then
    (CompletionType.tryFrom ((value &&& 0b00000110) >>> 1)).map .successfulCompletionWithData
  else if value &&& 0b00001000 = 0b00001000 then
    (CompletionType.tryFrom ((value &&& 0b00000110) >>> 1)).map .unsuccessfulCompletionWithoutData
  else .error "Invalid flash channel cycle type"

instance : CycleType FlashChannelCycleType where
  encode := encode
  tryFrom := tryFrom

end FlashChannelCycleType

/-- Two bits are a completion type. -/
theorem CompletionType.tryFrom_masked (value : U8) :
    exists completion, CompletionType.tryFrom ((value &&& 0b00000110) >>> 1) = .ok completion ∧
      completion.encode <<< 1 = value &&& 0b00000110 := by
  have encoded : forall value : U8, (CompletionType.tryFrom ((value &&& 0b00000110) >>> 1)).map
      (fun completion : CompletionType => completion.encode <<< 1) = .ok (value &&& 0b00000110) := by
    decide +kernel
  have same := encoded value
  cases parsed : CompletionType.tryFrom ((value &&& 0b00000110) >>> 1) with
  | error message =>
      rw [parsed] at same
      cases same
  | ok completion =>
      rw [parsed] at same
      exact ⟨completion, rfl, Except.ok.inj same⟩

/-- What a cycle type of the flash channel is read back as: three of the
completions have the byte of a request. -/
def FlashChannelCycleType.readBack : FlashChannelCycleType -> FlashChannelCycleType
  | .successfulCompletionWithData .first => .flashRead
  | .unsuccessfulCompletionWithoutData .last => .flashWrite
  | .successfulCompletionWithData .last => .flashErase
  | cycleType => cycleType

/-- A byte is accepted as the cycle type whose own byte it is, up to the high
bits, which a completion does not look at. -/
def ReadsLowBits (T : Type) [CycleType T] : Prop :=
  forall (byte : U8) (cycleType : T), CycleType.tryFrom byte = .ok cycleType ->
    CycleType.encode cycleType = byte ∨ byte.getLsbD 3 = true ∧ CycleType.encode cycleType = byte &&& 0x0F

/-- The arms of the completions, as both decoders try them. -/
theorem encode_completion {T : Type} [CycleType T] {byte base : U8} {cycleType : T}
    {complete : CompletionType -> T}
    (encodes : forall completion, CycleType.encode (complete completion) = base ||| (completion.encode <<< 1))
    (parsed : (CompletionType.tryFrom ((byte &&& 0b00000110) >>> 1)).map complete = .ok cycleType) :
    CycleType.encode cycleType = base ||| (byte &&& 0b00000110) := by
  rcases CompletionType.tryFrom_masked byte with ⟨completion, same, bits⟩
  rw [same] at parsed
  cases parsed
  rw [encodes, bits]

theorem successful_bits (byte : U8) (arm : byte &&& 0b00001001 = 0b00001001) :
    byte.getLsbD 3 = true ∧ 0b00001001 ||| (byte &&& 0b00000110) = byte &&& 0x0F := by
  revert byte
  decide +kernel

theorem unsuccessful_bits (byte : U8) (notEarlier : ¬ byte &&& 0b00001001 = 0b00001001)
    (arm : byte &&& 0b00001000 = 0b00001000) :
    byte.getLsbD 3 = true ∧ 0b00001000 ||| (byte &&& 0b00000110) = byte &&& 0x0F := by
  revert byte
  decide +kernel

/-- Both decoders end with the arms of the completions. -/
theorem readsLowBits_completions {T : Type} [CycleType T] {byte : U8} {cycleType : T} {message : String}
    {successful unsuccessful : CompletionType -> T}
    (encodesSuccessful : forall completion,
      CycleType.encode (successful completion) = 0b00001001 ||| (completion.encode <<< 1))
    (encodesUnsuccessful : forall completion,
      CycleType.encode (unsuccessful completion) = 0b00001000 ||| (completion.encode <<< 1))
    (parsed : (if byte &&& 0b00001001 = 0b00001001 then
        (CompletionType.tryFrom ((byte &&& 0b00000110) >>> 1)).map successful
      else if byte &&& 0b00001000 = 0b00001000 then
        (CompletionType.tryFrom ((byte &&& 0b00000110) >>> 1)).map unsuccessful
      else .error message) = .ok cycleType) :
    byte.getLsbD 3 = true ∧ CycleType.encode cycleType = byte &&& 0x0F := by
  split at parsed
  next arm =>
    rw [encode_completion encodesSuccessful parsed]
    exact successful_bits byte arm
  next notEarlier =>
    split at parsed
    next arm =>
      rw [encode_completion encodesUnsuccessful parsed]
      exact unsuccessful_bits byte notEarlier arm
    next => cases parsed

theorem peripheral_readsLowBits : ReadsLowBits PeripheralChannelCycleType := by
  intro byte cycleType parsed
  change PeripheralChannelCycleType.tryFrom byte = _ at parsed
  rw [PeripheralChannelCycleType.tryFrom] at parsed
  by_cases listed : byte ∈ ([0b00000000, 0b00000010, 0b00000001, 0b00000011, 0b00010000, 0b00010001,
    0b00000110] : List U8)
  · left
    fin_cases listed <;> (cases parsed; rfl)
  · right
    simp only [List.mem_cons, List.not_mem_nil, or_false, not_or] at listed
    rcases listed with ⟨n1, n2, n3, n4, n5, n6, n7⟩
    rw [if_neg n1, if_neg n2, if_neg n3, if_neg n4, if_neg n5, if_neg n6, if_neg n7] at parsed
    exact readsLowBits_completions (fun _ => rfl) (fun _ => rfl) parsed

theorem flash_readsLowBits : ReadsLowBits FlashChannelCycleType := by
  intro byte cycleType parsed
  change FlashChannelCycleType.tryFrom byte = _ at parsed
  rw [FlashChannelCycleType.tryFrom] at parsed
  by_cases listed : byte ∈ ([0b00001011, 0b00001100, 0b00001101, 0b00000110] : List U8)
  · left
    fin_cases listed <;> (cases parsed; rfl)
  · right
    simp only [List.mem_cons, List.not_mem_nil, or_false, not_or] at listed
    rcases listed with ⟨n1, n2, n3, n4⟩
    rw [if_neg n1, if_neg n2, if_neg n3, if_neg n4] at parsed
    exact readsLowBits_completions (fun _ => rfl) (fun _ => rfl) parsed

/-! ## Operation codes -/

/-- `enum ShortOpLength`. -/
inductive ShortOpLength where
  | u8 | u16 | u32
deriving DecidableEq, Repr

/-- `ShortOpLength::encode`. -/
def ShortOpLength.encode : ShortOpLength -> U8
  | u8 => 0x01
  | u16 => 0x02
  | u32 => 0x03

/-- `enum EspiCommandOpCode`. -/
inductive EspiCommandOpCode where
  | putPc | getPc | putNp | getNp | putVwire | getVwire | putOob | getOob
  | putFlashC | getFlashNp | putFlashNp | getFlashC
  | getStatus | getConfiguration | setConfiguration | inbandReset
  | putIoRdShort (len : ShortOpLength)
  | putIoWrShort (len : ShortOpLength)
  | putMemRd32Short (len : ShortOpLength)
  | putMemWr32Short (len : ShortOpLength)
deriving DecidableEq, Repr

namespace EspiCommandOpCode

/-- `EspiCommandOpCode::encode`. -/
def encode : EspiCommandOpCode -> U8
  | putPc => 0x00
  | getPc => 0x01
  | putNp => 0x02
  | getNp => 0x03
  | putVwire => 0x04
  | getVwire => 0x05
  | putOob => 0x06
  | getOob => 0x07
  | putFlashC => 0x08
  | getFlashNp => 0x09
  | putFlashNp => 0x0A
  | getFlashC => 0x0B
  | getStatus => 0x25
  | getConfiguration => 0x21
  | setConfiguration => 0x22
  | inbandReset => 0xFF
  | putIoRdShort len => 0x40 ||| len.encode
  | putIoWrShort len => 0x44 ||| len.encode
  | putMemRd32Short len => 0x48 ||| len.encode
  | putMemWr32Short len => 0x4C ||| len.encode

/-- A short operation has its length in the two low bits and is known by the
others. -/
def short (byte : U8) (operation : ShortOpLength -> EspiCommandOpCode) : Option EspiCommandOpCode :=
  if byte &&& 0x03 = 0x01 then some (operation .u8)
  else if byte &&& 0x03 = 0x02 then some (operation .u16)
  else if byte &&& 0x03 = 0x03 then some (operation .u32)
  else none

/-- The command with a byte, as a device has to read it. -/
def ofByte (byte : U8) : Option EspiCommandOpCode :=
  if byte &&& 0xFC = 0x40 then short byte putIoRdShort
  else if byte &&& 0xFC = 0x44 then short byte putIoWrShort
  else if byte &&& 0xFC = 0x48 then short byte putMemRd32Short
  else if byte &&& 0xFC = 0x4C then short byte putMemWr32Short
  else
    [putPc, getPc, putNp, getNp, putVwire, getVwire, putOob, getOob, putFlashC, getFlashNp, putFlashNp, getFlashC,
      getStatus, getConfiguration, setConfiguration, inbandReset].find? (fun command => command.encode == byte)

theorem ofByte_encode (command : EspiCommandOpCode) : ofByte command.encode = some command := by
  rcases command with _ | _ | _ | _ | _ | _ | _ | _ | _ | _ | _ | _ | _ | _ | _ | _ | ⟨_ | _ | _⟩ | ⟨_ | _ | _⟩ |
    ⟨_ | _ | _⟩ | ⟨_ | _ | _⟩ <;> rfl

end EspiCommandOpCode

/-! ## What is read back -/

/-- The bytes of the cycle types.  On the peripheral and the out-of-band channel
every cycle type is read back.  On the flash channel a completion is read as a
request if it has data and is the first or the last, or has none, failed and is
the last.  Whatever byte is accepted stands for the cycle type with that byte,
but of a completion the four high bits are ignored.  The operation codes tell
all commands and all lengths apart. -/
theorem cycle_types_read_back :
    (forall cycleType : PeripheralChannelCycleType,
      CycleType.tryFrom (CycleType.encode cycleType) = .ok cycleType) ∧
    (forall cycleType : OutOfBandChannelCycleType,
      CycleType.tryFrom (CycleType.encode cycleType) = .ok cycleType) ∧
    (forall cycleType : FlashChannelCycleType,
      CycleType.tryFrom (CycleType.encode cycleType) = .ok cycleType.readBack) ∧
    ReadsLowBits PeripheralChannelCycleType ∧ ReadsLowBits OutOfBandChannelCycleType ∧
      ReadsLowBits FlashChannelCycleType ∧
    Function.Injective EspiCommandOpCode.encode := by
  refine ⟨?_, ?_, ?_, peripheral_readsLowBits, ?_, flash_readsLowBits, ?_⟩
  · rintro (_ | _ | _ | _ | ⟨⟨⟩⟩ | ⟨⟨⟩⟩ | _ | ⟨_ | _ | _ | _⟩ | ⟨_ | _ | _ | _⟩) <;> rfl
  · rintro ⟨⟩
    rfl
  · rintro (_ | _ | _ | _ | ⟨_ | _ | _ | _⟩ | ⟨_ | _ | _ | _⟩) <;> rfl
  · intro byte cycleType parsed
    change OutOfBandChannelCycleType.tryFrom byte = _ at parsed
    rw [OutOfBandChannelCycleType.tryFrom] at parsed
    split at parsed
    next same =>
      cases parsed
      exact Or.inl same.symm
    next => cases parsed
  · intro one other same
    have read := one.ofByte_encode
    rw [same, other.ofByte_encode] at read
    exact (Option.some.inj read).symm

end Espi
end SecureServices
