import SecureServices.Library.Words

namespace SecureServices
namespace Library

/-!
# Streams of frames that end in a flag

A receiver that reads item by item until a flag appears cuts its stream after
the first flag.  A frame is a run of items in which the flag stands at the end
and nowhere else.  A stream made of frames, read from any position on, is
either used up or still ends in the flag, so a complete frame is always left
in it: what a receiver abandons halfway is never lost, only shortened.

The second half is octet stuffing, which makes any bytes fit into a frame.
-/

section Flag

variable {Item : Type*} {flag : Item}

/-- The stream up to and including its first flag. -/
def firstFrame [DecidableEq Item] (flag : Item) : List Item -> Option (List Item)
  | [] => none
  | item :: rest => if item = flag then some [item] else (firstFrame flag rest).map (item :: ·)

/-- The flag ends the frame and does not occur before. -/
def IsFrame (flag : Item) (frame : List Item) : Prop :=
  exists inner, frame = inner ++ [flag] ∧ flag ∉ inner

/-- The stream is used up, or ends in the flag. -/
def EndsInFlag (flag : Item) (stream : List Item) : Prop :=
  stream = [] ∨ exists front, stream = front ++ [flag]

theorem EndsInFlag.drop {stream : List Item} (ends : EndsInFlag flag stream) (count : Nat) :
    EndsInFlag flag (stream.drop count) := by
  rcases ends with rfl | ⟨front, rfl⟩
  · exact .inl (List.drop_nil)
  · by_cases within : count ≤ front.length
    · exact .inr ⟨front.drop count, List.drop_append_of_le_length within⟩
    · refine .inl (List.drop_eq_nil_of_le ?_)
      rw [List.length_append, List.length_singleton]
      omega

theorem EndsInFlag.append {stream frame : List Item} (isFrame : IsFrame flag frame) :
    EndsInFlag flag (stream ++ frame) := by
  rcases isFrame with ⟨inner, rfl, _⟩
  exact .inr ⟨stream ++ inner, (List.append_assoc stream inner [flag]).symm⟩

/-- A stream with a flag in it starts with a frame. -/
theorem exists_isFrame_of_mem {stream : List Item} (member : flag ∈ stream) :
    exists frame rest, stream = frame ++ rest ∧ IsFrame flag frame := by
  rcases List.eq_append_cons_of_mem member with ⟨inner, rest, rfl, absent⟩
  exact ⟨inner ++ [flag], rest, List.append_cons inner flag rest, inner, rfl, absent⟩

variable [DecidableEq Item]

theorem IsFrame.firstFrame_append {frame : List Item} (isFrame : IsFrame flag frame)
    (rest : List Item) : firstFrame flag (frame ++ rest) = some frame := by
  rcases isFrame with ⟨inner, rfl, absent⟩
  induction inner with
  | nil => simp [firstFrame]
  | cons item inner inductionHypothesis =>
      have other : item ≠ flag := fun same => absent (same ▸ List.mem_cons_self)
      have later := inductionHypothesis (fun member => absent (List.mem_cons_of_mem item member))
      rw [List.cons_append, List.cons_append, firstFrame, if_neg other, later]
      rfl

/-- What was cut off is a frame, and the stream goes on after it. -/
theorem isFrame_of_firstFrame {stream frame : List Item} (cut : firstFrame flag stream = some frame) :
    IsFrame flag frame ∧ exists rest, stream = frame ++ rest := by
  induction stream generalizing frame with
  | nil => cases cut
  | cons item stream inductionHypothesis =>
      rw [firstFrame] at cut
      by_cases same : item = flag
      · rw [if_pos same] at cut
        cases cut
        exact ⟨⟨[], by rw [same]; rfl, List.not_mem_nil⟩, stream, rfl⟩
      · rw [if_neg same] at cut
        rcases Option.map_eq_some_iff.mp cut with ⟨tail, found, rfl⟩
        rcases inductionHypothesis found with ⟨⟨inner, rfl, absent⟩, rest, rfl⟩
        refine ⟨⟨item :: inner, rfl, fun member => ?_⟩, rest, rfl⟩
        rcases List.mem_cons.mp member with equal | later
        · exact same equal.symm
        · exact absent later

/-- As long as the stream is not used up, a frame can be cut off it. -/
theorem EndsInFlag.exists_firstFrame {stream : List Item} (ends : EndsInFlag flag stream)
    (pending : stream ≠ []) : exists frame, firstFrame flag stream = some frame := by
  rcases ends.resolve_left pending with ⟨front, rfl⟩
  clear ends pending
  induction front with
  | nil => exact ⟨[flag], by simp [firstFrame]⟩
  | cons item front inductionHypothesis =>
      rcases inductionHypothesis with ⟨frame, found⟩
      rw [List.cons_append, firstFrame, found]
      by_cases same : item = flag
      · exact ⟨[item], if_pos same⟩
      · exact ⟨item :: frame, if_neg same⟩

/-- Only the part of the stream that arrives can be cut, and it is cut in the
same place. -/
theorem firstFrame_take {stream frame : List Item} (count : Nat) :
    firstFrame flag (stream.take count) = some frame <->
      firstFrame flag stream = some frame ∧ frame.length ≤ count := by
  induction stream generalizing count frame with
  | nil => simp [firstFrame]
  | cons item stream inductionHypothesis =>
      cases count with
      | zero =>
          rw [List.take_zero, Nat.le_zero, List.length_eq_zero_iff]
          constructor
          · intro impossible
            cases impossible
          · rintro ⟨cut, rfl⟩
            rcases isFrame_of_firstFrame cut with ⟨⟨inner, impossible, _⟩, _⟩
            simp at impossible
      | succ count =>
          rw [List.take_succ_cons, firstFrame, firstFrame]
          by_cases same : item = flag
          · rw [if_pos same, if_pos same]
            refine ⟨fun cut => ⟨cut, ?_⟩, And.left⟩
            cases cut
            exact Nat.le_add_left 1 count
          · rw [if_neg same, if_neg same]
            simp only [Option.map_eq_some_iff, inductionHypothesis]
            constructor
            · rintro ⟨tail, ⟨found, short⟩, rfl⟩
              exact ⟨⟨tail, found, rfl⟩, Nat.succ_le_succ short⟩
            · rintro ⟨⟨tail, found, rfl⟩, short⟩
              exact ⟨tail, ⟨found, Nat.le_of_succ_le_succ short⟩, rfl⟩

/-- A frame at the head of a stream stays its first frame however the stream
goes on. -/
theorem firstFrame_append {stream frame : List Item} (cut : firstFrame flag stream = some frame)
    (rest : List Item) : firstFrame flag (stream ++ rest) = some frame := by
  rcases isFrame_of_firstFrame cut with ⟨isFrame, tail, rfl⟩
  rw [List.append_assoc]
  exact isFrame.firstFrame_append (tail ++ rest)

end Flag

/-! ## Octet stuffing -/

/-- The octet that ends a frame. -/
def flagOctet : U8 := 0x7E

/-- The octet that announces a stuffed one. -/
def escapeOctet : U8 := 0x7D

/-- Replace the two reserved octets by an escape and a code. -/
def stuff : List U8 -> List U8
  | [] => []
  | octet :: rest =>
      if octet = flagOctet ∨ octet = escapeOctet then escapeOctet :: (octet ^^^ 0x20) :: stuff rest
      else octet :: stuff rest

/-- Undo `stuff`; an escape at the very end is refused. -/
def unstuff : List U8 -> Option (List U8)
  | [] => some []
  | [octet] => if octet = escapeOctet then none else some [octet]
  | octet :: code :: rest =>
      if octet = escapeOctet then (unstuff rest).map ((code ^^^ 0x20) :: ·)
      else (unstuff (code :: rest)).map (octet :: ·)

theorem flagOctet_not_mem_stuff (octets : List U8) : flagOctet ∉ stuff octets := by
  induction octets with
  | nil => exact List.not_mem_nil
  | cons octet rest inductionHypothesis =>
      rw [stuff]
      split
      · rename_i reserved
        rcases reserved with rfl | rfl <;>
          simpa [flagOctet, escapeOctet] using inductionHypothesis
      · rename_i plain
        intro member
        rcases List.mem_cons.mp member with equal | later
        · exact plain (.inl equal.symm)
        · exact inductionHypothesis later

theorem unstuff_cons_of_plain {octet : U8} (plain : octet ≠ escapeOctet) (rest : List U8) :
    unstuff (octet :: rest) = (unstuff rest).map (octet :: ·) := by
  cases rest with
  | nil => exact if_neg plain
  | cons code rest => rw [unstuff, if_neg plain]

@[simp] theorem unstuff_stuff (octets : List U8) : unstuff (stuff octets) = some octets := by
  induction octets with
  | nil => rfl
  | cons octet rest inductionHypothesis =>
      rw [stuff]
      split
      · rw [unstuff, if_pos rfl, inductionHypothesis, Option.map_some, BitVec.xor_assoc,
          BitVec.xor_self, BitVec.xor_zero]
      · rename_i plain
        rw [unstuff_cons_of_plain (fun same => plain (.inr same)), inductionHypothesis, Option.map_some]

theorem isFrame_stuff (octets : List U8) : IsFrame flagOctet (stuff octets ++ [flagOctet]) :=
  ⟨stuff octets, rfl, flagOctet_not_mem_stuff octets⟩

end Library
end SecureServices
