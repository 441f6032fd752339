import SecureServices.Library.Delivery
import SecureServices.Tpm.Packet

namespace SecureServices
namespace Tpm

open Library

/-!
# How a response is read

Reading a byte takes it off the device, so that `read_tpm_response` must not
call its source once too often, nor twice for one offset.  The number of calls
depends on the bytes that they return.  The calls are made visible by a record
next to the source; the buffer is given by the bytes that have been read and by
what it held before.
-/

variable {Source : Type} {readByte : Nat -> Action Source Stop U8}

/-! ## Filling the buffer -/

theorem fill_zero (first : Nat) (state : List U8 × Source) : fill readByte first 0 state = (.ok (), state) := rfl

theorem fill_succ_of_ok {first : Nat} {source middle : Source} {byte : U8} {buffer : List U8}
    (reads : readByte first source = (.ok byte, middle)) (inside : first < buffer.length) (count : Nat) :
    fill readByte first (count + 1) (buffer, source) =
      fill readByte (first + 1) count (buffer.set first byte, middle) :=
  Action.forRange_of_ok ((Action.bind_of_ok (Action.beside_eq reads buffer)).trans (if_pos inside)) count

theorem fill_succ_of_error {first : Nat} {source after : Source} {reason : Stop}
    (fails : readByte first source = (.error reason, after)) (count : Nat) (buffer : List U8) :
    fill readByte first (count + 1) (buffer, source) = (.error reason, (buffer, after)) :=
  Action.forRange_of_error (Action.bind_of_error (Action.beside_eq fails buffer)) count

/-- Bytes that are delivered are stored one after the other. -/
theorem fill_of_delivers {before read buffer bytes : List U8} {source after : Source}
    (filled : Filled before read buffer) (delivers : Delivers readByte read.length source bytes after)
    (fits : (read ++ bytes).length ≤ before.length) (more : Nat) :
    exists stored, Filled before (read ++ bytes) stored ∧
      fill readByte read.length (bytes.length + more) (buffer, source) =
        fill readByte (read ++ bytes).length more (stored, after) := by
  induction bytes generalizing read buffer source with
  | nil =>
      cases delivers
      rw [List.append_nil, List.length_nil, Nat.zero_add]
      exact ⟨buffer, filled, rfl⟩
  | cons byte bytes inductionHypothesis =>
      cases delivers with
      | @cons _ _ middle _ _ _ reads rest =>
          have shift : (read ++ [byte]).length = read.length + 1 := List.length_append
          have inside : read.length < before.length := by
            rw [List.length_append, List.length_cons] at fits
            omega
          have stores : read.length < buffer.length := (filled.length (Nat.le_of_lt inside)).symm ▸ inside
          rw [List.append_cons] at fits ⊢
          rcases inductionHypothesis (filled.set inside byte) (shift ▸ rest) fits with ⟨stored, whole, runs⟩
          refine ⟨stored, whole, ?_⟩
          rw [List.length_cons, Nat.add_right_comm, fill_succ_of_ok reads stores, ← runs, shift]

/-! ## The two steps -/

variable {buffer : List U8} {source after : Source}

/-- The length of the buffer is checked before anything is read. -/
theorem readTpmResponse_of_size (wrong : isPacketSize buffer.length = false) :
    readTpmResponse readByte (buffer, source) = (.error (.error .invalidParameters), (buffer, source)) := by
  refine (Action.bind_of_ok rfl).trans (Action.bind_of_error ?_)
  rw [Action.require, wrong]
  rfl

/-- What comes after the check. -/
theorem readTpmResponse_sized (sized : isPacketSize buffer.length = true) :
    readTpmResponse readByte (buffer, source) = Action.andThen (fill readByte 0 tpmHeaderSize)
      (fun _ => do
        let length <- checkedLength buffer.length
        fill readByte tpmHeaderSize (min length buffer.length - tpmHeaderSize)
        pure length) (buffer, source) := by
  have passed : Action.require (isPacketSize buffer.length) (Stop.error .invalidParameters) (buffer, source) =
      (.ok (), (buffer, source)) := by
    rw [sized]
    rfl
  exact (Action.bind_of_ok rfl).trans (Action.bind_of_ok passed)

theorem checkedLength_eq {capacity : Nat} (sized : isPacketSize capacity = true)
    (whole : tpmHeaderSize ≤ buffer.length) :
    checkedLength capacity (buffer, source) =
      if declaresLength buffer capacity then (.ok (declaredLength buffer), (buffer, source))
      else (.error (.error .invalidParameters), (buffer, source)) := by
  refine (Action.bind_of_ok rfl).trans ?_
  rw [tpmPacketLength, if_neg (Nat.not_lt.mpr whole), sized]
  cases declaresLength buffer capacity <;> rfl

/-- A call that fails while the header is read. -/
theorem readTpmResponse_of_early {bytes : List U8} {middle : Source} {reason : Stop}
    (sized : isPacketSize buffer.length = true) (delivers : Delivers readByte 0 source bytes middle)
    (short : bytes.length < tpmHeaderSize) (fails : readByte bytes.length middle = (.error reason, after)) :
    readTpmResponse readByte (buffer, source) =
      (.error reason, (bytes ++ buffer.drop bytes.length, after)) := by
  have room := (isPacketSize_iff.mp sized).1
  have start : Filled buffer [] buffer := rfl
  rcases Nat.exists_eq_add_of_lt short with ⟨spare, count⟩
  rcases fill_of_delivers start delivers (Nat.le_trans (Nat.le_of_lt short) room) (spare + 1) with
    ⟨stored, filled, runs⟩
  rw [List.nil_append] at filled runs
  rw [readTpmResponse_sized sized]
  apply Action.bind_of_error
  rw [count, Nat.add_assoc]
  exact runs.trans (filled ▸ fill_succ_of_error fails spare stored)

/-- The header is read, and then either its length is refused, or the rest is
read, too. -/
theorem readTpmResponse_of_header {header : List U8} (sized : isPacketSize buffer.length = true)
    (delivers : Delivers readByte 0 source header after) (length : header.length = tpmHeaderSize) :
    exists stored, Filled buffer header stored ∧
      readTpmResponse readByte (buffer, source) =
        if declaresLength header buffer.length then
          Action.andThen (fill readByte tpmHeaderSize (declaredLength header - tpmHeaderSize))
            (fun _ => pure (declaredLength header)) (stored, after)
        else (.error (.error .invalidParameters), (stored, after)) := by
  have room := (isPacketSize_iff.mp sized).1
  have start : Filled buffer [] buffer := rfl
  rcases fill_of_delivers start delivers (length.trans_le room) 0 with ⟨stored, filled, runs⟩
  rw [List.nil_append] at filled
  rw [List.length_nil, Nat.add_zero, length, List.nil_append, length, fill_zero] at runs
  have declared : declaredLength stored = declaredLength header :=
    declaredLength_of_start ⟨_, filled.symm⟩ (Nat.le_of_eq length.symm)
  have whole : tpmHeaderSize ≤ stored.length := by
    rw [filled.length (length.trans_le room)]
    exact room
  have checked : checkedLength buffer.length (stored, after) = _ := checkedLength_eq sized whole
  rw [declaresLength_of_declaredLength declared, declared] at checked
  refine ⟨stored, filled, ?_⟩
  rw [readTpmResponse_sized sized]
  refine (Action.bind_of_ok runs).trans ?_
  by_cases fits : declaresLength header buffer.length = true
  · rw [if_pos fits] at checked ⊢
    refine (Action.bind_of_ok checked).trans ?_
    rw [Nat.min_eq_left (declaresLength_iff.mp fits).2]
    rfl
  · rw [if_neg fits] at checked ⊢
    exact Action.bind_of_error checked

/-- The header and some of the rest have been read, and the loop goes on. -/
theorem readTpmResponse_of_rest {bytes : List U8} (sized : isPacketSize buffer.length = true)
    (delivers : Delivers readByte 0 source bytes after) (long : tpmHeaderSize ≤ bytes.length)
    (fits : declaresLength bytes buffer.length = true) (most : bytes.length ≤ declaredLength bytes) :
    exists stored, Filled buffer bytes stored ∧
      readTpmResponse readByte (buffer, source) =
        Action.andThen (fill readByte bytes.length (declaredLength bytes - bytes.length))
          (fun _ => pure (declaredLength bytes)) (stored, after) := by
  have length : (bytes.take tpmHeaderSize).length = tpmHeaderSize := List.length_take_of_le long
  have declared : declaredLength bytes = declaredLength (bytes.take tpmHeaderSize) :=
    declaredLength_of_start (List.take_prefix _ _) (Nat.le_of_eq length.symm)
  have room := (declaresLength_iff.mp fits).2
  rw [← List.take_append_drop tpmHeaderSize bytes] at delivers
  rcases delivers.split with ⟨opened, early, late⟩
  rcases readTpmResponse_of_header sized early length with ⟨started, begun, runs⟩
  rw [declaresLength_of_declaredLength declared] at fits
  rw [if_pos fits, ← declared] at runs
  rw [Nat.zero_add] at late
  have count : declaredLength bytes - tpmHeaderSize =
      (bytes.drop tpmHeaderSize).length + (declaredLength bytes - bytes.length) := by
    rw [List.length_drop]
    omega
  rcases fill_of_delivers begun late (by rw [List.take_append_drop]; omega)
    (declaredLength bytes - bytes.length) with ⟨stored, filled, fills⟩
  rw [List.take_append_drop] at filled fills
  rw [length] at fills
  refine ⟨stored, filled, ?_⟩
  rw [runs, count]
  unfold Action.andThen
  rw [fills]

/-- A call that fails while the rest is read. -/
theorem readTpmResponse_of_late {bytes : List U8} {middle : Source} {reason : Stop}
    (sized : isPacketSize buffer.length = true) (delivers : Delivers readByte 0 source bytes middle)
    (long : tpmHeaderSize ≤ bytes.length) (fits : declaresLength bytes buffer.length = true)
    (short : bytes.length < declaredLength bytes)
    (fails : readByte bytes.length middle = (.error reason, after)) :
    readTpmResponse readByte (buffer, source) =
      (.error reason, (bytes ++ buffer.drop bytes.length, after)) := by
  rcases readTpmResponse_of_rest sized delivers long fits (Nat.le_of_lt short) with ⟨stored, filled, runs⟩
  rcases Nat.exists_eq_add_of_lt short with ⟨spare, count⟩
  have more : declaredLength bytes - bytes.length = spare + 1 := by omega
  rw [more] at runs
  exact runs.trans (Action.bind_of_error (filled ▸ fill_succ_of_error fails spare stored))

/-- As many bytes as the header declares. -/
theorem readTpmResponse_of_packet {bytes : List U8} (sized : isPacketSize buffer.length = true)
    (delivers : Delivers readByte 0 source bytes after) (fits : declaresLength bytes buffer.length = true)
    (whole : bytes.length = declaredLength bytes) :
    readTpmResponse readByte (buffer, source) =
      (.ok bytes.length, (bytes ++ buffer.drop bytes.length, after)) := by
  have long := (declaresLength_iff.mp fits).1
  rw [← whole] at long
  rcases readTpmResponse_of_rest sized delivers long fits (Nat.le_of_eq whole) with ⟨stored, filled, runs⟩
  rw [← whole, Nat.sub_self] at runs
  rw [runs, ← show stored = bytes ++ buffer.drop bytes.length from filled]
  exact Action.bind_of_ok (fill_zero bytes.length (stored, after))

/-! ## The calls of the source -/

/-- Some call fails, or the header is refused, or as many bytes as it declares
are delivered. -/
theorem delivers_cases (readByte : Nat -> Action Source Stop U8) (source : Source) (capacity : Nat) :
    (exists bytes middle reason after, Delivers readByte 0 source bytes middle ∧
      readByte bytes.length middle = (.error reason, after) ∧
      (bytes.length < tpmHeaderSize ∨
        declaresLength bytes capacity = true ∧ bytes.length < declaredLength bytes)) ∨
      (exists bytes after, Delivers readByte 0 source bytes after ∧ bytes.length = tpmHeaderSize ∧
        declaresLength bytes capacity = false) ∨
      exists bytes after, Delivers readByte 0 source bytes after ∧
        declaresLength bytes capacity = true ∧ bytes.length = declaredLength bytes := by
  rcases delivers_or_fails readByte 0 tpmHeaderSize source with
    ⟨header, opened, length, early⟩ | ⟨bytes, middle, reason, after, short, delivers, fails⟩
  · cases fits : declaresLength header capacity with
    | false => exact .inr (.inl ⟨header, opened, early, length, fits⟩)
    | true =>
        have long := (declaresLength_iff.mp fits).1
        have declared : forall rest, declaredLength (header ++ rest) = declaredLength header :=
          fun rest => declaredLength_of_start ⟨rest, rfl⟩ (Nat.le_of_eq length.symm)
        have same : forall rest, declaresLength (header ++ rest) capacity = true :=
          fun rest => (declaresLength_of_declaredLength (declared rest) capacity).trans fits
        rcases delivers_or_fails readByte header.length (declaredLength header - header.length) opened with
          ⟨rest, after, count, late⟩ | ⟨rest, middle, reason, after, short, late, fails⟩
        · refine .inr (.inr ⟨header ++ rest, after, early.append (by rwa [Nat.zero_add]), same rest, ?_⟩)
          rw [declared, List.length_append]
          omega
        · rw [← List.length_append] at fails
          refine .inl ⟨header ++ rest, middle, reason, after, early.append (by rwa [Nat.zero_add]), fails,
            .inr ⟨same rest, ?_⟩⟩
          rw [declared, List.length_append]
          omega
  · rw [Nat.zero_add] at fails
    exact .inl ⟨bytes, middle, reason, after, delivers, fails, .inl short⟩

/-- A buffer of an impossible size is left alone, and nothing is read.  In any
other the source is called with one offset after the other, as far as a call
that fails, or the header if it is refused, or the bytes that it declares; and
these are at the start of the buffer, which is unchanged after them. -/
theorem readTpmResponse_reads (readByte : Nat -> Action Source Stop U8) (buffer : List U8) (source : Source) :
    (isPacketSize buffer.length = false ->
      readTpmResponse (recorded readByte) (buffer, (source, [])) =
        (.error (.error .invalidParameters), (buffer, (source, [])))) ∧
    (isPacketSize buffer.length = true ->
      (forall bytes middle reason after, Delivers readByte 0 source bytes middle ->
        readByte bytes.length middle = (.error reason, after) ->
        (bytes.length < tpmHeaderSize ∨
          declaresLength bytes buffer.length = true ∧ bytes.length < declaredLength bytes) ->
          readTpmResponse (recorded readByte) (buffer, (source, [])) =
            (.error reason,
              (bytes ++ buffer.drop bytes.length, (after, List.range (bytes.length + 1))))) ∧
      (forall bytes after, Delivers readByte 0 source bytes after -> bytes.length = tpmHeaderSize ->
        declaresLength bytes buffer.length = false ->
          readTpmResponse (recorded readByte) (buffer, (source, [])) =
            (.error (.error .invalidParameters),
              (bytes ++ buffer.drop tpmHeaderSize, (after, List.range tpmHeaderSize)))) ∧
      (forall bytes after, Delivers readByte 0 source bytes after ->
        declaresLength bytes buffer.length = true -> bytes.length = declaredLength bytes ->
          readTpmResponse (recorded readByte) (buffer, (source, [])) =
            (.ok bytes.length,
              (bytes ++ buffer.drop bytes.length, (after, List.range bytes.length))))) ∧
    ((exists bytes middle reason after, Delivers readByte 0 source bytes middle ∧
        readByte bytes.length middle = (.error reason, after) ∧
        (bytes.length < tpmHeaderSize ∨
          declaresLength bytes buffer.length = true ∧ bytes.length < declaredLength bytes)) ∨
      (exists bytes after, Delivers readByte 0 source bytes after ∧ bytes.length = tpmHeaderSize ∧
        declaresLength bytes buffer.length = false) ∨
      exists bytes after, Delivers readByte 0 source bytes after ∧
        declaresLength bytes buffer.length = true ∧ bytes.length = declaredLength bytes) := by
  have record : forall {bytes : List U8} {after : Source}, Delivers readByte 0 source bytes after ->
      Delivers (recorded readByte) 0 (source, []) bytes (after, List.range bytes.length) := by
    intro bytes after delivers
    have written := delivers.recorded []
    rwa [List.nil_append, ← List.range_eq_range'] at written
  refine ⟨fun wrong => readTpmResponse_of_size wrong, fun sized => ⟨?_, ?_, ?_⟩,
    delivers_cases readByte source buffer.length⟩
  · intro bytes middle reason after delivers fails inside
    have failed := recorded_eq fails (List.range bytes.length)
    rw [← List.range_succ] at failed
    by_cases short : bytes.length < tpmHeaderSize
    · exact readTpmResponse_of_early sized (record delivers) short failed
    · rcases inside.resolve_left short with ⟨fits, less⟩
      exact readTpmResponse_of_late sized (record delivers) (Nat.le_of_not_lt short) fits less failed
  · intro bytes after delivers length misfit
    have calls := record delivers
    rcases readTpmResponse_of_header sized calls length with ⟨stored, filled, runs⟩
    rw [misfit, filled, length] at runs
    exact runs
  · intro bytes after delivers fits whole
    exact readTpmResponse_of_packet sized (record delivers) fits whole

end Tpm
end SecureServices
