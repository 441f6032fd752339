import SecureServices.Library.Delivery
import SecureServices.Ec.Relay

namespace SecureServices
namespace Ec

open Library

/-!
# Cutting a serial stream into packets

`recv_framed_packet` reads byte by byte until the end flag, or until its buffer
is full.  What a port delivers decides how it ends; no byte is dropped, and none
is carried over from one call to the next.
-/

namespace MctpSerialTransport

variable {U : Type} [EmbeddedIo U]

/-- The port delivers these bytes, one a read. -/
abbrev Arrives (uart : U) (bytes : List U8) (after : U) : Prop :=
  Delivers (fun _ => EmbeddedIo.readExact) 0 uart bytes after

theorem Arrives.split {uart after : U} {front rest : List U8} (whole : Arrives uart (front ++ rest) after) :
    exists middle, Arrives uart front middle ∧ Arrives middle rest after := by
  rcases Delivers.split whole with ⟨middle, early, late⟩
  exact ⟨middle, early, late.reindex 0⟩

theorem Arrives.single {uart after : U} {byte : U8} (arrives : Arrives uart [byte] after) :
    EmbeddedIo.readExact uart = (.ok byte, after) := by
  cases arrives with
  | cons reads rest =>
      cases rest
      exact reads

/-! ## One call -/

/-- Bytes without a flag are kept, and the loop goes on. -/
theorem recvLoop_of_arrives {uart after : U} {bytes : List U8} (arrives : Arrives uart bytes after)
    (absent : serialEndFlag ∉ bytes) (room : Nat) (filled : List U8) :
    recvLoop (bytes.length + room) filled uart = recvLoop room (filled ++ bytes) after := by
  induction bytes generalizing uart filled with
  | nil =>
      cases arrives
      rw [List.length_nil, Nat.zero_add, List.append_nil]
  | cons byte bytes inductionHypothesis =>
      cases arrives with
      | cons reads rest =>
          have other : byte ≠ serialEndFlag := fun same => absent (same ▸ List.mem_cons_self)
          have later := fun member => absent (List.mem_cons_of_mem byte member)
          rw [List.length_cons, Nat.add_right_comm, recvLoop, reads]
          dsimp only
          rw [if_neg other, inductionHypothesis (rest.reindex 0) later, List.append_assoc,
            List.singleton_append]

/-- A frame that fits is returned, and nothing after it is read. -/
theorem recvFramedPacket_of_frame {uart after : U} {frame : List U8} (arrives : Arrives uart frame after)
    (isFrame : IsFrame serialEndFlag frame) {capacity : Nat} (fits : frame.length ≤ capacity) :
    recvFramedPacket ⟨uart⟩ capacity = (.ok frame, ⟨after⟩) := by
  rcases isFrame with ⟨inner, rfl, absent⟩
  rcases arrives.split with ⟨middle, early, last⟩
  rw [List.length_append, List.length_singleton] at fits
  rcases Nat.exists_eq_add_of_le fits with ⟨spare, rfl⟩
  rw [recvFramedPacket, Nat.add_assoc, recvLoop_of_arrives early absent, Nat.add_comm 1, recvLoop,
    last.single]
  dsimp only
  rw [if_pos rfl, List.nil_append]

/-- A buffer that fills up without a flag. -/
theorem recvFramedPacket_of_full {uart after : U} {bytes : List U8} (arrives : Arrives uart bytes after)
    (absent : serialEndFlag ∉ bytes) :
    recvFramedPacket ⟨uart⟩ bytes.length = (.error .mctpRecvIncomplete, ⟨after⟩) := by
  have filled := recvLoop_of_arrives arrives absent 0 []
  rw [Nat.add_zero] at filled
  rw [recvFramedPacket, filled, recvLoop]

/-- A read that fails before either. -/
theorem recvFramedPacket_of_fault {uart middle after : U} {bytes : List U8} {fault : ReadExactError}
    (arrives : Arrives uart bytes middle) (absent : serialEndFlag ∉ bytes) {capacity : Nat}
    (short : bytes.length < capacity) (fails : EmbeddedIo.readExact middle = (.error fault, after)) :
    recvFramedPacket ⟨uart⟩ capacity = (.error (readError fault), ⟨after⟩) := by
  rcases Nat.exists_eq_add_of_lt short with ⟨spare, rfl⟩
  rw [recvFramedPacket, Nat.add_assoc, recvLoop_of_arrives arrives absent, recvLoop, fails]

/-- One of the three happens, whatever the port does. -/
theorem arrives_cases (uart : U) (capacity : Nat) :
    (exists frame after, Arrives uart frame after ∧ IsFrame serialEndFlag frame ∧ frame.length ≤ capacity) ∨
      (exists bytes after, Arrives uart bytes after ∧ serialEndFlag ∉ bytes ∧ bytes.length = capacity) ∨
      exists bytes middle fault after, Arrives uart bytes middle ∧ serialEndFlag ∉ bytes ∧
        bytes.length < capacity ∧ EmbeddedIo.readExact middle = (.error fault, after) := by
  have cut : forall {bytes : List U8} {after : U}, Arrives uart bytes after -> bytes.length ≤ capacity ->
      serialEndFlag ∈ bytes -> exists frame after, Arrives uart frame after ∧
        IsFrame serialEndFlag frame ∧ frame.length ≤ capacity := by
    intro bytes after arrives short member
    rcases exists_isFrame_of_mem member with ⟨frame, rest, rfl, isFrame⟩
    rcases arrives.split with ⟨middle, early, _⟩
    rw [List.length_append] at short
    exact ⟨frame, middle, early, isFrame, by omega⟩
  rcases delivers_or_fails (fun _ => EmbeddedIo.readExact) 0 capacity uart with
    ⟨bytes, after, length, arrives⟩ | ⟨bytes, middle, fault, after, short, arrives, fails⟩
  · by_cases member : serialEndFlag ∈ bytes
    · exact .inl (cut arrives (Nat.le_of_eq length) member)
    · exact .inr (.inl ⟨bytes, after, arrives, member, length⟩)
  · by_cases member : serialEndFlag ∈ bytes
    · exact .inl (cut arrives (Nat.le_of_lt short) member)
    · exact .inr (.inr ⟨bytes, middle, fault, after, arrives, member, short, fails⟩)

/-! ## Successive calls -/

/-- The results of so many calls, one after the other. -/
def recvPackets (capacity : Nat) : Nat -> MctpSerialTransport U ->
    List (Except EcRelayError (List U8)) × MctpSerialTransport U
  | 0, transport => ([], transport)
  | count + 1, transport =>
      let (packet, transport) := recvFramedPacket transport capacity
      let (packets, transport) := recvPackets capacity count transport
      (packet :: packets, transport)

/-- A stream of frames is returned frame by frame. -/
theorem recvPackets_of_frames {uart after : U} {capacity : Nat} {frames : List (List U8)}
    (fit : forall frame, frame ∈ frames -> IsFrame serialEndFlag frame ∧ frame.length ≤ capacity)
    (arrives : Arrives uart frames.flatten after) :
    recvPackets capacity frames.length ⟨uart⟩ = (frames.map .ok, ⟨after⟩) := by
  induction frames generalizing uart with
  | nil =>
      cases arrives
      rfl
  | cons frame frames inductionHypothesis =>
      rw [List.flatten_cons] at arrives
      rcases arrives.split with ⟨middle, first, others⟩
      rcases fit frame List.mem_cons_self with ⟨isFrame, fits⟩
      have later := inductionHypothesis (fun other member => fit other (List.mem_cons_of_mem frame member)) others
      rw [List.length_cons, recvPackets, recvFramedPacket_of_frame first isFrame fits]
      dsimp only
      rw [later, List.map_cons]

end MctpSerialTransport

end Ec
end SecureServices
