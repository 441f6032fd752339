import SecureServices.Library.Action
import SecureServices.Tpm.Model

namespace SecureServices
namespace Tpm

open Library Ffa

/-!
# TPM packets

A command or a response of the TPM starts with a header of ten bytes, in which
four bytes declare the length of the whole packet.  Both directions are copied
in two steps: the header, then the rest, once the declared length has been
checked against the room there is.

`tpm_packet_length` and `read_tpm_response` of `tpm_sst.rs` are here, for any
buffer and any source of bytes.  A buffer is a list, and every access to it is
checked: an index outside the buffer ends the computation in a fault, which is
not an error of the code but the end of the service.
-/

/-- `TPM_HEADER_SIZE`. -/
abbrev tpmHeaderSize : Nat := 10

/-- What ends the service. -/
inductive Fault where
  | outOfBounds | yieldRefused
deriving DecidableEq, Repr

/-- Why a routine does not go on: an error that it returns, or a fault. -/
inductive Stop where
  | error (code : ErrorCode)
  | fault (fault : Fault)
deriving DecidableEq, Repr

/-- The code with which a routine returns early. -/
def Stop.returned : Stop -> Option ErrorCode
  | .error code => some code
  | .fault _ => none

/-- An early return is never a success, and no access is out of bounds. -/
def Stop.isSound : Stop -> Bool
  | .error code => code != .ok
  | .fault cause => cause != .outOfBounds

/-- `(TPM_HEADER_SIZE..=CRB_DATA_BUFFER_SIZE).contains`. -/
def isPacketSize (size : Nat) : Bool := tpmHeaderSize ≤ size && size ≤ crbDataBufferSize

/-- `u32::from_be_bytes` of the bytes from 2 to 5. -/
def declaredLength (packet : List U8) : Nat := (ofLeBytes 32 ((packet.drop 2).take 4).reverse).toNat

/-- The declared length is one that a buffer of this size has room for. -/
def declaresLength (packet : List U8) (capacity : Nat) : Bool :=
  tpmHeaderSize ≤ declaredLength packet && declaredLength packet ≤ capacity

/-- `tpm_packet_length`. -/
def tpmPacketLength (header : List U8) (capacity : Nat) : Except ErrorCode Nat :=
  if header.length < tpmHeaderSize then .error .invalidParameters
  else if !isPacketSize capacity || !declaresLength header capacity then .error .invalidParameters
  else .ok (declaredLength header)

/-- The bytes are a packet: their number is the one that they declare. -/
def IsPacket (packet : List U8) : Prop :=
  isPacketSize packet.length = true ∧ declaredLength packet = packet.length

theorem isPacketSize_iff {size : Nat} :
    isPacketSize size = true <-> tpmHeaderSize ≤ size ∧ size ≤ crbDataBufferSize := by
  rw [isPacketSize, Bool.and_eq_true, decide_eq_true_eq, decide_eq_true_eq]

theorem declaresLength_iff {packet : List U8} {capacity : Nat} :
    declaresLength packet capacity = true <->
      tpmHeaderSize ≤ declaredLength packet ∧ declaredLength packet ≤ capacity := by
  rw [declaresLength, Bool.and_eq_true, decide_eq_true_eq, decide_eq_true_eq]

/-- Only the length in the header matters. -/
theorem declaresLength_of_declaredLength {first second : List U8}
    (same : declaredLength first = declaredLength second) (capacity : Nat) :
    declaresLength first capacity = declaresLength second capacity := by
  rw [declaresLength, same, declaresLength]

theorem IsPacket.header {packet : List U8} (isPacket : IsPacket packet) : tpmHeaderSize ≤ packet.length :=
  (isPacketSize_iff.mp isPacket.1).1

theorem declaredLength_of_start {header packet : List U8} (start : header <+: packet)
    (whole : tpmHeaderSize ≤ header.length) : declaredLength packet = declaredLength header := by
  rcases start with ⟨rest, rfl⟩
  rw [tpmHeaderSize] at whole
  unfold declaredLength
  rw [List.drop_append_of_le_length (by omega), List.take_append_of_le_length]
  rw [List.length_drop]
  omega

/-! ## A buffer next to a source -/

section Buffer

variable {Source : Type}

def loadByte (offset : Nat) : Action (List U8 × Source) Stop U8 := fun state =>
  match state.1[offset]? with
  | some byte => (.ok byte, state)
  | none => (.error (.fault .outOfBounds), state)

def storeByte (offset : Nat) (byte : U8) : Action (List U8 × Source) Stop Unit := fun state =>
  if offset < state.1.length then (.ok (), (state.1.set offset byte, state.2))
  else (.error (.fault .outOfBounds), state)

/-- The packet length by the header in the buffer. -/
def checkedLength (capacity : Nat) : Action (List U8 × Source) Stop Nat := do
  let header <- Action.inspect Prod.fst
  match tpmPacketLength header capacity with
  | .ok length => pure length
  | .error code => Action.stop (.error code)

/-- Copy a number of bytes to the same offsets of the buffer. -/
def fill (readByte : Nat -> Action Source Stop U8) (first count : Nat) :
    Action (List U8 × Source) Stop Unit :=
  Action.forRange (fun offset => do
    let byte <- (readByte offset).beside
    storeByte offset byte) first count

/-- `read_tpm_response`. -/
def readTpmResponse (readByte : Nat -> Action Source Stop U8) : Action (List U8 × Source) Stop Nat := do
  let capacity <- Action.inspect (fun state => state.1.length)
  Action.require (isPacketSize capacity) (.error .invalidParameters)
  fill readByte 0 tpmHeaderSize
  let length <- checkedLength capacity
  -- The iterator ends with the buffer, whatever the length.
  fill readByte tpmHeaderSize (min length capacity - tpmHeaderSize)
  pure length

/-- Use the first bytes of the buffer as a buffer. -/
def onSlice {Result : Type} (count : Nat) (action : Action (List U8 × Source) Stop Result) :
    Action (List U8 × Source) Stop Result := fun state =>
  if count ≤ state.1.length then
    let (result, (part, after)) := action (state.1.take count, state.2)
    (result, (part ++ state.1.drop count, after))
  else (.error (.fault .outOfBounds), state)

/-! ## What the routines ensure -/

variable {returned : Unit -> List U8 × Source -> Prop} {stopped : Stop -> List U8 × Source -> Prop}

theorem ensures_loadByte {offset : Nat} {returned : U8 -> List U8 × Source -> Prop}
    {state : List U8 × Source} (inside : offset < state.1.length) :
    (loadByte offset).Ensures returned stopped state <-> returned state.1[offset] state := by
  apply Action.ensures_of_ok
  unfold loadByte
  rw [List.getElem?_eq_getElem inside]

theorem ensures_storeByte {offset : Nat} {byte : U8} {state : List U8 × Source}
    (inside : offset < state.1.length) :
    (storeByte offset byte).Ensures returned stopped state <->
      returned () (state.1.set offset byte, state.2) := by
  apply Action.ensures_of_ok
  unfold storeByte
  rw [if_pos inside]

theorem ensures_checkedLength {capacity : Nat} {returned : Nat -> List U8 × Source -> Prop}
    {state : List U8 × Source} (sized : isPacketSize capacity = true)
    (whole : tpmHeaderSize ≤ state.1.length) :
    (checkedLength capacity).Ensures returned stopped state <->
      (declaresLength state.1 capacity = true -> returned (declaredLength state.1) state) ∧
      (declaresLength state.1 capacity = false -> stopped (.error .invalidParameters) state) := by
  rw [checkedLength, Action.ensures_bind, Action.ensures_inspect, tpmPacketLength,
    if_neg (Nat.not_lt.mpr whole), sized]
  cases declaresLength state.1 capacity <;> simp

theorem ensures_onSlice {Result : Type} {count : Nat} {action : Action (List U8 × Source) Stop Result}
    {returned : Result -> List U8 × Source -> Prop} {state : List U8 × Source}
    (fits : count ≤ state.1.length) :
    (onSlice count action).Ensures returned stopped state <->
      action.Ensures (fun result after => returned result (after.1 ++ state.1.drop count, after.2))
        (fun reason after => stopped reason (after.1 ++ state.1.drop count, after.2))
        (state.1.take count, state.2) := by
  have back := @Action.ensures_of_map _ _ _ returned stopped state (onSlice count action) _ action
    (state.1.take count, state.2) (fun after => (after.1 ++ state.1.drop count, after.2))
  apply back
  unfold onSlice
  rw [if_pos fits]

/-- The buffer starts with the bytes, and is as before after them. -/
def Filled (before read buffer : List U8) : Prop := buffer = read ++ before.drop read.length

theorem Filled.length {before read buffer : List U8} (filled : Filled before read buffer)
    (fits : read.length ≤ before.length) : buffer.length = before.length := by
  rw [filled, List.length_append, List.length_drop]
  omega

/-- Storing the next byte. -/
theorem Filled.set {before read buffer : List U8} (filled : Filled before read buffer)
    (inside : read.length < before.length) (byte : U8) :
    Filled before (read ++ [byte]) (buffer.set read.length byte) := by
  unfold Filled at *
  rw [filled, List.set_append_right _ _ (Nat.le_refl _), Nat.sub_self, List.drop_eq_getElem_cons inside,
    List.set_cons_zero, List.length_append, List.length_singleton, List.append_assoc]
  rfl

/-- Copying bytes from a source.  The invariant speaks about the bytes that the
source has given. -/
theorem fill_ensures {readByte : Nat -> Action Source Stop U8} {first count : Nat}
    (Invariant : List U8 -> Source -> Prop) (Failed : List U8 -> Stop -> Source -> Prop)
    {before : List U8} (fits : first + count ≤ before.length)
    (reads : forall read source, first ≤ read.length -> read.length < first + count -> Invariant read source ->
      (readByte read.length).Ensures (fun byte => Invariant (read ++ [byte])) (Failed read) source)
    {read buffer : List U8} {source : Source} (length : read.length = first)
    (filled : Filled before read buffer) (initially : Invariant read source) :
    (fill readByte first count).Ensures
      (fun _ after => exists read, read.length = first + count ∧ Filled before read after.1 ∧
        Invariant read after.2)
      (fun reason after => exists read, first ≤ read.length ∧ read.length < first + count ∧
        Filled before read after.1 ∧ Failed read reason after.2)
      (buffer, source) := by
  unfold fill
  apply Action.ensures_forRange (fun index (after : List U8 × Source) => exists read,
    read.length = index ∧ Filled before read after.1 ∧ Invariant read after.2)
  · rintro index lower upper ⟨buffer, source⟩ ⟨read, rfl, filled, holds⟩
    rw [Action.ensures_bind, Action.ensures_beside]
    apply (reads read source lower upper holds).mono
    · intro byte after kept
      have inside : read.length < buffer.length := by
        rw [filled.length (by omega)]
        omega
      rw [ensures_storeByte inside]
      refine ⟨read ++ [byte], ?_, filled.set (by omega) byte, kept⟩
      rw [List.length_append, List.length_singleton]
    · intro reason after failed
      exact ⟨read, lower, upper, filled, failed⟩
  · exact ⟨read, length, filled, initially⟩

/-- Copying what the header declares beyond itself.  The header stays where it
is, so that the bytes read are as many as they declare. -/
theorem fill_rest_ensures {readByte : Nat -> Action Source Stop U8}
    (Invariant : List U8 -> Source -> Prop) (Failed : List U8 -> Stop -> Source -> Prop)
    {before header buffer : List U8} (length : header.length = tpmHeaderSize)
    (declares : tpmHeaderSize ≤ declaredLength header) (fits : declaredLength header ≤ before.length)
    (reads : forall read source, read.length < before.length ->
      (tpmHeaderSize ≤ read.length -> read.length < declaredLength read) -> Invariant read source ->
      (readByte read.length).Ensures (fun byte => Invariant (read ++ [byte])) (Failed read) source)
    {source : Source} (filled : Filled before header buffer) (initially : Invariant header source) :
    (fill readByte tpmHeaderSize (declaredLength header - tpmHeaderSize)).Ensures
      (fun _ after => exists read, read.length = declaredLength header ∧
        declaredLength read = read.length ∧ Filled before read after.1 ∧ Invariant read after.2)
      (fun reason after => exists read, read.length < before.length ∧ Filled before read after.1 ∧
        Failed read reason after.2)
      (buffer, source) := by
  apply (fill_ensures (fun read source => header <+: read ∧ Invariant read source)
    Failed (by omega) ?_ length filled ⟨List.prefix_rfl, initially⟩).mono
  · rintro _ ⟨full, source⟩ ⟨read, length, filled, start, holds⟩
    have same := declaredLength_of_start start (by omega)
    exact ⟨read, by omega, by omega, filled, holds⟩
  · rintro reason ⟨full, source⟩ ⟨read, _, short, filled, failed⟩
    exact ⟨read, by omega, filled, failed⟩
  · rintro read source lower upper ⟨start, holds⟩
    have same := declaredLength_of_start start (by omega)
    apply (reads read source (by omega) (fun _ => by omega) holds).mono
    · exact fun byte after kept => ⟨start.trans (List.prefix_append read [byte]), kept⟩
    · exact fun _ _ failed => failed

/-- Reading a response into a buffer of a possible size.  Either the source
gave as many bytes as they declare; or it failed after some; or the header does
not declare a length that fits. -/
theorem readTpmResponse_ensures {readByte : Nat -> Action Source Stop U8}
    (Invariant : List U8 -> Source -> Prop) (Failed : List U8 -> Stop -> Source -> Prop)
    {buffer : List U8} (sized : isPacketSize buffer.length = true)
    (reads : forall read source, read.length < buffer.length ->
      (tpmHeaderSize ≤ read.length -> read.length < declaredLength read) -> Invariant read source ->
      (readByte read.length).Ensures (fun byte => Invariant (read ++ [byte])) (Failed read) source)
    {source : Source} (initially : Invariant [] source) :
    (readTpmResponse readByte).Ensures
      (fun length after => exists read, read.length = length ∧ IsPacket read ∧ length ≤ buffer.length ∧
        Filled buffer read after.1 ∧ Invariant read after.2)
      (fun reason after => exists read, Filled buffer read after.1 ∧
        ((read.length < buffer.length ∧ Failed read reason after.2) ∨
          (reason = .error .invalidParameters ∧ read.length = tpmHeaderSize ∧
            declaresLength read buffer.length = false ∧ Invariant read after.2)))
      (buffer, source) := by
  have room := isPacketSize_iff.mp sized
  rw [readTpmResponse, Action.ensures_bind, Action.ensures_inspect, Action.ensures_bind,
    Action.ensures_require]
  refine ⟨fun _ => ?_, fun wrong => absurd sized (by simp [wrong])⟩
  have start : Filled buffer [] buffer := rfl
  rw [Action.ensures_bind]
  apply (fill_ensures Invariant Failed (by omega) ?_ List.length_nil start initially).mono
  · rintro _ ⟨current, source⟩ ⟨header, length, filled, holds⟩
    have whole : tpmHeaderSize ≤ current.length := by
      rw [filled.length (by omega)]
      omega
    have declared : declaredLength current = declaredLength header := by
      apply declaredLength_of_start _ (by omega)
      exact ⟨_, filled.symm⟩
    rw [Action.ensures_bind, ensures_checkedLength sized whole,
      declaresLength_of_declaredLength declared, declared]
    constructor
    · intro fits
      rcases declaresLength_iff.mp fits with ⟨declares, inside⟩
      rw [Nat.min_eq_left inside, Action.ensures_bind]
      apply (fill_rest_ensures Invariant Failed length declares inside reads filled holds).mono
      · rintro _ ⟨full, source⟩ ⟨read, total, exact, filled, holds⟩
        rw [Action.ensures_pure]
        have possible : isPacketSize read.length = true := isPacketSize_iff.mpr (by omega)
        exact ⟨read, total, ⟨possible, exact⟩, inside, filled, holds⟩
      · rintro reason ⟨full, source⟩ ⟨read, short, filled, failed⟩
        exact ⟨read, filled, .inl ⟨short, failed⟩⟩
    · intro misfit
      exact ⟨header, filled, .inr ⟨rfl, length, misfit, holds⟩⟩
  · rintro reason ⟨current, source⟩ ⟨read, _, short, filled, failed⟩
    exact ⟨read, filled, .inl ⟨by omega, failed⟩⟩
  · intro read source _ short holds
    apply reads read source (by omega) ?_ holds
    omega

end Buffer

end Tpm
end SecureServices
