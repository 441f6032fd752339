import Mathlib.Data.Nat.Find
import SecureServices.Ec.SerialFrames

namespace SecureServices
namespace Ec

open Library

/-!
# The PL011 serial port

`qemu-sp-uart/src/lib.rs`, the port under the transport.  Both directions poll
the flag register.  A read gives up after a budget of polls, and a write waits
as long as it takes, so that a port that is written to has to be one that
drains.
-/

/-- `trait Mmio`.  An access may change the device behind it. -/
class Mmio (M : Type) where
  read32 : M -> (offset : Nat) -> U32 × M
  read8 : M -> (offset : Nat) -> U8 × M
  write8 : M -> (offset : Nat) -> U8 -> M

def uartDr : Nat := 0x000
def uartFr : Nat := 0x018

/-- `FR_RXFE`: there is nothing to read. -/
def frRxfe : U32 := 1 <<< 4

/-- `FR_TXFF`: there is no room to write. -/
def frTxff : U32 := 1 <<< 5

/-- `enum Error`. -/
inductive Pl011Error where
  | timeout
deriving DecidableEq, Repr

def Pl011Error.kind : Pl011Error -> ErrorKind
  | timeout => .timedOut

/-- `struct Pl011Uart`. -/
structure Pl011Uart (M : Type) where
  mmio : M

namespace Pl011Uart

variable {M : Type} [Mmio M]

/-- `RX_POLL_BUDGET`. -/
def rxPollBudget : U32 := 10000000

/-- `read_byte_bounded`. -/
def readByteBounded : (budget : Nat) -> Pl011Uart M -> Except Pl011Error U8 × Pl011Uart M
  | 0, uart => (.error .timeout, uart)
  | budget + 1, uart =>
      let (fr, mmio) := Mmio.read32 uart.mmio uartFr
      if fr &&& frRxfe = 0 then
        let (byte, mmio) := Mmio.read8 mmio uartDr
        (.ok byte, ⟨mmio⟩)
      else readByteBounded budget ⟨mmio⟩

/-- `read_byte_blocking`. -/
def readByteBlocking (uart : Pl011Uart M) : Except Pl011Error U8 × Pl011Uart M :=
  readByteBounded rxPollBudget.toNat uart

/-- `Read::read`, with the bytes that it puts into a buffer of this length. -/
def read (uart : Pl011Uart M) (length : Nat) : Except Pl011Error (List U8) × Pl011Uart M :=
  if length = 0 then (.ok [], uart)
  else
    match uart.readByteBlocking with
    | (.ok byte, after) => (.ok [byte], after)
    | (.error fault, after) => (.error fault, after)

/-- `Read::read_exact`, which `embedded_io` derives from `read`, for one byte. -/
def readExact (uart : Pl011Uart M) : Except ReadExactError U8 × Pl011Uart M :=
  match uart.read 1 with
  | (.ok [], after) => (.error .unexpectedEof, after)
  | (.ok (byte :: _), after) => (.ok byte, after)
  | (.error fault, after) => (.error (.other fault.kind), after)

/-- The device after so many polls of the flag register. -/
def polled : Nat -> M -> M
  | 0, mmio => mmio
  | polls + 1, mmio => polled polls (Mmio.read32 mmio uartFr).2

/-- The flags that the poll with this number reads. -/
def flags (poll : Nat) (mmio : M) : U32 := (Mmio.read32 (polled poll mmio) uartFr).1

/-- A byte is read as soon as a poll within the budget finds one. -/
theorem readByteBounded_of_ready {poll budget : Nat} {mmio : M} (inside : poll < budget)
    (empty : forall earlier, earlier < poll -> flags earlier mmio &&& frRxfe ≠ 0)
    (ready : flags poll mmio &&& frRxfe = 0) :
    readByteBounded budget ⟨mmio⟩ =
      (.ok (Mmio.read8 (polled (poll + 1) mmio) uartDr).1,
        ⟨(Mmio.read8 (polled (poll + 1) mmio) uartDr).2⟩) := by
  induction poll generalizing budget mmio with
  | zero =>
      rcases Nat.exists_eq_add_of_lt inside with ⟨spare, rfl⟩
      rw [readByteBounded]
      exact if_pos ready
  | succ poll inductionHypothesis =>
      rcases Nat.exists_eq_add_of_lt inside with ⟨spare, rfl⟩
      have later := inductionHypothesis (show poll < poll + 1 + spare by omega)
        (fun earlier less => empty (earlier + 1) (Nat.succ_lt_succ less)) ready
      rw [readByteBounded]
      exact (if_neg (empty 0 (Nat.succ_pos poll))).trans later

/-- And the read times out if none of them does. -/
theorem readByteBounded_of_silent {budget : Nat} {mmio : M}
    (empty : forall poll, poll < budget -> flags poll mmio &&& frRxfe ≠ 0) :
    readByteBounded budget ⟨mmio⟩ = (.error .timeout, ⟨polled budget mmio⟩) := by
  induction budget generalizing mmio with
  | zero => rfl
  | succ budget inductionHypothesis =>
      have later := inductionHypothesis (fun poll less => empty (poll + 1) (Nat.succ_lt_succ less))
      rw [readByteBounded]
      exact (if_neg (empty 0 (Nat.succ_pos budget))).trans later

theorem readExact_eq (uart : Pl011Uart M) :
    uart.readExact = (uart.readByteBounded rxPollBudget.toNat).map
      (fun result => result.mapError (fun fault => .other fault.kind)) id := by
  rw [readExact, read, if_neg Nat.one_ne_zero, readByteBlocking]
  generalize readByteBounded rxPollBudget.toNat uart = outcome
  rcases outcome with ⟨fault | byte, after⟩
  · rfl
  · rfl

/-- A read takes the byte that the first poll within the budget finds, and
times out if none of them finds one. -/
theorem readExact_polls (mmio : M) :
    (forall poll, poll < rxPollBudget.toNat ->
      (forall earlier, earlier < poll -> flags earlier mmio &&& frRxfe ≠ 0) ->
      flags poll mmio &&& frRxfe = 0 ->
        readExact ⟨mmio⟩ = (.ok (Mmio.read8 (polled (poll + 1) mmio) uartDr).1,
          ⟨(Mmio.read8 (polled (poll + 1) mmio) uartDr).2⟩)) ∧
    ((forall poll, poll < rxPollBudget.toNat -> flags poll mmio &&& frRxfe ≠ 0) ->
      readExact ⟨mmio⟩ = (.error (.other .timedOut), ⟨polled rxPollBudget.toNat mmio⟩)) := by
  rw [readExact_eq]
  generalize rxPollBudget.toNat = budget
  constructor
  · intro poll inside empty ready
    rw [readByteBounded_of_ready inside empty ready]
    rfl
  · intro empty
    rw [readByteBounded_of_silent empty]
    rfl

/-- The transport sees every failed read as a timeout. -/
theorem readError_of_readExact {uart after : Pl011Uart M} {fault : ReadExactError}
    (fails : uart.readExact = (.error fault, after)) :
    MctpSerialTransport.readError fault = .transportReadTimeout := by
  rw [readExact_eq] at fails
  generalize uart.readByteBounded rxPollBudget.toNat = outcome at fails
  rcases outcome with ⟨cause | byte, last⟩
  · cases fails
    cases cause
    rfl
  · cases fails

end Pl011Uart

/-- A device on which every wait for room to write ends. -/
class DrainingMmio (M : Type) extends Mmio M where
  drains : forall mmio : M, exists poll, Pl011Uart.flags poll mmio &&& frTxff = 0

namespace Pl011Uart

variable {M : Type} [DrainingMmio M]

/-- The `while` loop before a byte is written. -/
def awaitRoom (mmio : M) : M := polled (Nat.find (DrainingMmio.drains mmio) + 1) mmio

/-- `write_bytes`. -/
def writeBytes (uart : Pl011Uart M) (bytes : List U8) : Pl011Uart M :=
  ⟨bytes.foldl (fun mmio byte => Mmio.write8 (awaitRoom mmio) uartDr byte) uart.mmio⟩

instance : EmbeddedIo (Pl011Uart M) where
  readExact := readExact
  writeAll := fun uart bytes => (.ok (), uart.writeBytes bytes)

end Pl011Uart

/-! ## Nothing is lost -/

open MctpSerialTransport

/-- A call returns the shortest part of the stream that ends in the flag, if it
fits, and takes no more; it stops after as many bytes as fit if there is no flag
among them; and it reports the failed read if that comes first.  So a stream of
frames comes out frame by frame.  Over a PL011 the failed read is a timeout. -/
theorem recvFramedPacket_loses_nothing {U : Type} [EmbeddedIo U] (uart : U) (capacity : Nat) :
    (forall frame after, Arrives uart frame after -> IsFrame serialEndFlag frame ->
      frame.length ≤ capacity -> recvFramedPacket ⟨uart⟩ capacity = (.ok frame, ⟨after⟩)) ∧
    (forall bytes after, Arrives uart bytes after -> serialEndFlag ∉ bytes -> bytes.length = capacity ->
      recvFramedPacket ⟨uart⟩ capacity = (.error .mctpRecvIncomplete, ⟨after⟩)) ∧
    (forall bytes middle fault after, Arrives uart bytes middle -> serialEndFlag ∉ bytes ->
      bytes.length < capacity -> EmbeddedIo.readExact middle = (.error fault, after) ->
        recvFramedPacket ⟨uart⟩ capacity = (.error (readError fault), ⟨after⟩)) ∧
    ((exists frame after, Arrives uart frame after ∧ IsFrame serialEndFlag frame ∧ frame.length ≤ capacity) ∨
      (exists bytes after, Arrives uart bytes after ∧ serialEndFlag ∉ bytes ∧ bytes.length = capacity) ∨
      exists bytes middle fault after, Arrives uart bytes middle ∧ serialEndFlag ∉ bytes ∧
        bytes.length < capacity ∧ EmbeddedIo.readExact middle = (.error fault, after)) ∧
    (forall (frames : List (List U8)) after,
      (forall frame, frame ∈ frames -> IsFrame serialEndFlag frame ∧ frame.length ≤ capacity) ->
      Arrives uart frames.flatten after ->
        recvPackets capacity frames.length ⟨uart⟩ = (frames.map .ok, ⟨after⟩)) ∧
    (forall {M : Type} [Mmio M] (port after : Pl011Uart M) (fault : ReadExactError),
      port.readExact = (.error fault, after) -> readError fault = .transportReadTimeout) := by
  refine ⟨?_, ?_, ?_, arrives_cases uart capacity, ?_, ?_⟩
  · intro frame after arrives isFrame fits
    exact recvFramedPacket_of_frame arrives isFrame fits
  · rintro bytes after arrives absent rfl
    exact recvFramedPacket_of_full arrives absent
  · intro bytes middle fault after arrives absent short fails
    exact recvFramedPacket_of_fault arrives absent short fails
  · intro frames after fit arrives
    exact recvPackets_of_frames fit arrives
  · intro M _ port after fault fails
    exact Pl011Uart.readError_of_readExact fails

end Ec
end SecureServices
