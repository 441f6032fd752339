import SecureServices.Tpm.Transaction

namespace SecureServices
namespace Tpm

open Library Ffa

/-!
# A host that writes meanwhile

The sizes, the header and the body of a command are read one after the other
from memory that the host can write at any moment.  What the host changes after
a byte has been read does not matter: every check is made on the copy that is
sent.

The first half of `start` only reads internal registers, so that the copy is
determined by what the host had written before each of these reads.  The
second half uses the copy and the external registers only, until the response
is copied back.
-/

variable {Device : Type}

/-! ## What is read -/

/-- The internal registers after a number of accesses, each preceded by the
host, as long as only the host writes. -/
def contents (host : Host) (crb : PtpCrbRegisters) : Nat -> PtpCrbRegisters
  | 0 => crb
  | turn + 1 => host turn (contents host crb turn)

/-- The response size that `start` reads, which is its first access. -/
def responseSizeRead (host : Host) (crb : PtpCrbRegisters) : Nat :=
  (contents host crb 1).crbControlResponseSize.toNat

/-- The command size that `start` reads, which is its second access. -/
def commandSizeRead (host : Host) (crb : PtpCrbRegisters) : Nat :=
  (contents host crb 2).crbControlCommandSize.toNat

/-- The bytes that `start` reads from the data buffer, one access each, from
the third on. -/
def bytesRead (host : Host) (crb : PtpCrbRegisters) (count : Nat) : List U8 :=
  (List.range count).map (fun offset =>
    if inside : offset < crbDataBufferSize then
      (contents host crb (offset + 3)).crbDataBuffer ⟨offset, inside⟩
    else 0)

@[simp] theorem length_bytesRead (host : Host) (crb : PtpCrbRegisters) (count : Nat) :
    (bytesRead host crb count).length = count := by
  simp [bytesRead]

theorem bytesRead_succ (host : Host) (crb : PtpCrbRegisters) {count : Nat}
    (inside : count < crbDataBufferSize) :
    bytesRead host crb (count + 1) =
      bytesRead host crb count ++ [(contents host crb (count + 3)).crbDataBuffer ⟨count, inside⟩] := by
  rw [bytesRead, List.range_succ, List.map_append, List.map_singleton, dif_pos inside]
  rfl

theorem bytesRead_start (host : Host) (crb : PtpCrbRegisters) {fewer more : Nat} (le : fewer ≤ more) :
    bytesRead host crb fewer <+: bytesRead host crb more := by
  have split : List.range fewer <+: List.range more := by
    rw [List.prefix_iff_eq_take, List.length_range, List.take_range, Nat.min_eq_left le]
  exact split.map _

/-- The bench when only sizes and bytes have been read. -/
def reading (host : Host) (crb : PtpCrbRegisters) (device : Device) (count : Nat) : Bench Device :=
  ⟨contents host crb (count + 2), count + 2, device, []⟩

/-- Reading the next bytes. -/
theorem fillRead_ensures {host : Host} {crb : PtpCrbRegisters} (device : Device) (first count : Nat)
    {before buffer : List U8} (fits : first + count ≤ before.length)
    (size : before.length = crbDataBufferSize) (filled : Filled before (bytesRead host crb first) buffer) :
    (fill (fetchByte host) first count).Ensures
      (fun _ after => Filled before (bytesRead host crb (first + count)) after.1 ∧
        after.2 = reading host crb device (first + count))
      (fun _ _ => False) (buffer, reading host crb device first) := by
  apply (fill_ensures (fun read bench => read = bytesRead host crb read.length ∧
    bench = reading host crb device read.length) (fun _ _ _ => False) fits ?_
    (length_bytesRead host crb first) filled ?_).mono
  · rintro _ after ⟨read, length, filled, bytes, state⟩
    rw [length] at bytes state
    rw [bytes] at filled
    exact ⟨filled, state⟩
  · rintro _ _ ⟨_, _, _, _, impossible⟩
    exact impossible
  · rintro read _ _ upper ⟨bytes, rfl⟩
    have inside : read.length < crbDataBufferSize := by omega
    rw [ensures_fetchByte inside, List.length_append, List.length_singleton]
    refine ⟨?_, rfl⟩
    rw [bytesRead_succ host crb inside, ← bytes]
    rfl
  · rw [length_bytesRead]
    exact ⟨rfl, rfl⟩

/-- The length that the header declares, as it was read. -/
def lengthRead (host : Host) (crb : PtpCrbRegisters) : Nat :=
  declaredLength (bytesRead host crb tpmHeaderSize)

/-- The command that is copied to the local buffer. -/
def commandRead (host : Host) (crb : PtpCrbRegisters) : List U8 := bytesRead host crb (lengthRead host crb)

/-- The sizes and the length that were read are possible ones. -/
structure Accepted (host : Host) (crb : PtpCrbRegisters) : Prop where
  command : isPacketSize (commandSizeRead host crb) = true
  response : isPacketSize (responseSizeRead host crb) = true
  length : declaresLength (bytesRead host crb tpmHeaderSize) (commandSizeRead host crb) = true

theorem lengthRead_bounds {host : Host} {crb : PtpCrbRegisters}
    (sized : isPacketSize (commandSizeRead host crb) = true)
    (fits : declaresLength (bytesRead host crb tpmHeaderSize) (commandSizeRead host crb) = true) :
    tpmHeaderSize ≤ lengthRead host crb ∧ lengthRead host crb ≤ crbDataBufferSize := by
  have small := (isPacketSize_iff.mp sized).2
  rcases declaresLength_iff.mp fits with ⟨lower, upper⟩
  exact ⟨lower, upper.trans small⟩

theorem Accepted.bounds {host : Host} {crb : PtpCrbRegisters} (accepted : Accepted host crb) :
    tpmHeaderSize ≤ lengthRead host crb ∧ lengthRead host crb ≤ crbDataBufferSize :=
  lengthRead_bounds accepted.command accepted.length

/-- The command in the local buffer is a packet, whatever the host did. -/
theorem Accepted.isPacket {host : Host} {crb : PtpCrbRegisters} (accepted : Accepted host crb) :
    IsPacket (commandRead host crb) := by
  have bounds := accepted.bounds
  have start := bytesRead_start host crb bounds.1
  constructor
  · rw [commandRead, length_bytesRead]
    exact isPacketSize_iff.mpr bounds
  · rw [commandRead, declaredLength_of_start start (by simp), length_bytesRead]
    rfl

/-- The first half of `start`. -/
theorem fetchCommand_ensures {host : Host} {crb : PtpCrbRegisters} {device : Device}
    (sized : isPacketSize (commandSizeRead host crb) = true) :
    (fetchCommand host (commandSizeRead host crb)).Ensures
      (fun length after =>
        declaresLength (bytesRead host crb tpmHeaderSize) (commandSizeRead host crb) = true ∧
          length = lengthRead host crb ∧
          Filled zeroBuffer (commandRead host crb) after.1 ∧
          after.2 = reading host crb device length)
      (fun reason after =>
        declaresLength (bytesRead host crb tpmHeaderSize) (commandSizeRead host crb) = false ∧
          reason = .error .invalidParameters ∧ after.2 = reading host crb device tpmHeaderSize)
      (zeroBuffer, reading host crb device 0) := by
  have size := length_zeroBuffer
  have start : Filled zeroBuffer (bytesRead host crb 0) zeroBuffer := rfl
  have room : 0 + tpmHeaderSize ≤ zeroBuffer.length := by
    rw [size]
    decide
  rw [fetchCommand, Action.ensures_bind]
  apply (fillRead_ensures device 0 tpmHeaderSize room size start).mono
  · rintro _ ⟨buffer, _⟩ ⟨filled, rfl⟩
    rw [Nat.zero_add] at filled ⊢
    have length : buffer.length = crbDataBufferSize := by
      rw [filled.length (by rw [length_bytesRead, size]; decide), size]
    have same : declaredLength buffer = lengthRead host crb :=
      declaredLength_of_start ⟨_, filled.symm⟩ (by rw [length_bytesRead])
    rw [Action.ensures_bind, ensures_checkedLength sized (by rw [length]; decide),
      declaresLength_of_declaredLength same]
    refine ⟨fun fits => ?_, fun misfit => ⟨misfit, rfl, rfl⟩⟩
    have bounds := lengthRead_bounds sized fits
    rw [same, Action.ensures_bind]
    apply (fillRead_ensures device tpmHeaderSize _ (by rw [size]; omega) size filled).mono
    · rintro _ after ⟨filled, state⟩
      rw [Nat.add_sub_cancel' bounds.1] at filled state
      exact Action.ensures_pure.mpr ⟨fits, rfl, filled, state⟩
    · exact fun _ _ impossible => impossible.elim
  · exact fun _ _ impossible => impossible.elim

theorem ensures_responseSize {host : Host} {crb : PtpCrbRegisters} {device : Device}
    {returned : Nat -> Bench Device -> Prop} {stopped : Stop -> Bench Device -> Prop} :
    (fetch host (fun crb => crb.crbControlResponseSize.toNat)).Ensures returned stopped (.initial crb device) <->
      returned (responseSizeRead host crb) ⟨contents host crb 1, 1, device, []⟩ :=
  ensures_fetch

theorem ensures_commandSize {host : Host} {crb : PtpCrbRegisters} {device : Device}
    {returned : Nat -> Bench Device -> Prop} {stopped : Stop -> Bench Device -> Prop} :
    (fetch host (fun crb => crb.crbControlCommandSize.toNat)).Ensures returned stopped
        ⟨contents host crb 1, 1, device, []⟩ <->
      returned (commandSizeRead host crb) (reading host crb device 0) :=
  ensures_fetch

/-- `start` refuses what it has read, or executes the command in the local
buffer. -/
theorem start_ensures {host : Host} {tpm : ExternalTpm Device} {locality : Locality} {isCrbInterface : Bool}
    {crb : PtpCrbRegisters} {device : Device} {returned : ErrorCode -> Bench Device -> Prop}
    {stopped : Stop -> Bench Device -> Prop}
    (refused : ¬ Accepted host crb -> forall count, returned .invalidParameters (reading host crb device count))
    (executed : Accepted host crb -> forall buffer,
      Filled zeroBuffer (commandRead host crb) buffer ->
      (returning (execute host tpm locality isCrbInterface (responseSizeRead host crb)
          (lengthRead host crb))).Ensures
        (fun code after => returned code after.2) (fun reason after => stopped reason after.2)
        (buffer, reading host crb device (lengthRead host crb))) :
    (start host tpm locality isCrbInterface).Ensures returned stopped (.initial crb device) := by
  rw [start, ensures_returning, Action.ensures_bind, ensures_responseSize, Action.ensures_bind,
    ensures_commandSize, Action.ensures_bind, Action.ensures_require]
  constructor
  · intro sized
    rw [Bool.and_eq_true] at sized
    rw [Action.ensures_withLocal, Action.ensures_bind]
    apply (fetchCommand_ensures sized.1).mono
    · rintro _ ⟨buffer, _⟩ ⟨fits, rfl, filled, rfl⟩
      have outcome := executed ⟨sized.1, sized.2, fits⟩ buffer filled
      rw [ensures_returning] at outcome
      exact outcome
    · rintro _ ⟨buffer, _⟩ ⟨misfit, rfl, rfl⟩
      apply refused
      intro accepted
      rw [accepted.length] at misfit
      cases misfit
  · intro missized
    apply refused
    intro accepted
    rw [accepted.command, accepted.response] at missized
    cases missized

/-! ## What the host cannot bring about -/

/-- A TPM that promises nothing. -/
def Conduct.arbitrary : Conduct Device where
  Ready := fun _ _ => True
  Passed := fun _ _ => True
  Executed := fun _ _ => True
  Answering := fun _ _ => True
  Failed := fun _ => True

theorem Conduct.arbitrary_kept (tpm : ExternalTpm Device) (locality : Locality) (command : List U8)
    (isCrbInterface : Bool) : Conduct.arbitrary.Kept tpm locality command isCrbInterface := by
  cases isCrbInterface with
  | true =>
      constructor
      case executes => exact fun _ _ => Action.Ensures.always
      all_goals intros; trivial
  | false =>
      constructor
      case bursts => exact fun _ _ _ _ => Action.Ensures.always
      case done => exact fun _ _ => Action.Ensures.always
      case executes => exact fun _ _ => Action.Ensures.always
      case answerBursts => exact fun _ _ _ _ => Action.Ensures.always
      case status => exact fun _ _ _ _ => ⟨trivial, fun _ => trivial⟩
      all_goals intros; trivial

theorem length_commandRead (host : Host) (crb : PtpCrbRegisters) :
    (commandRead host crb).length = lengthRead host crb := length_bytesRead host crb _

/-- The transaction that `start` makes when it accepts a command, for any
conduct of the TPM. -/
theorem start_ensures_conduct {conduct : Conduct Device} {tpm : ExternalTpm Device} {locality : Locality}
    {isCrbInterface : Bool} (host : Host) (crb : PtpCrbRegisters)
    (kept : Accepted host crb -> conduct.Kept tpm locality (commandRead host crb) isCrbInterface)
    {device : Device} (ready : conduct.Ready 0 device)
    (Stored : List U8 -> Nat -> PtpCrbRegisters -> Prop)
    (copies : forall response, CopiesOn host response (Stored response))
    (stored : forall response, Stored response 0 (contents host crb (lengthRead host crb + 2))) :
    (start host tpm locality isCrbInterface).Ensures
      (fun code after =>
        (¬ Accepted host crb ∧ code = .invalidParameters ∧ exists count, after = reading host crb device count) ∨
        (Accepted host crb ∧ code = .ok ∧
          Responded conduct isCrbInterface (commandRead host crb) (responseSizeRead host crb) Stored after) ∨
        (Accepted host crb ∧ Unresponded conduct isCrbInterface (commandRead host crb)
          (responseSizeRead host crb) (contents host crb (lengthRead host crb + 2)) (.error code) after))
      (fun reason after => exists fault, reason = .fault fault ∧ Accepted host crb ∧
        Unresponded conduct isCrbInterface (commandRead host crb) (responseSizeRead host crb)
          (contents host crb (lengthRead host crb + 2)) (.fault fault) after)
      (.initial crb device) := by
  apply start_ensures
  · intro rejected count
    exact .inl ⟨rejected, rfl, count, rfl⟩
  · intro accepted buffer filled
    have bounds := accepted.bounds
    have size : buffer.length = crbDataBufferSize := by
      rw [filled.length (by rw [length_commandRead, length_zeroBuffer]; exact bounds.2), length_zeroBuffer]
    have starts : commandRead host crb <+: buffer := ⟨_, filled.symm⟩
    have midway : Midway conduct.Ready isCrbInterface (commandRead host crb) buffer
        (contents host crb (lengthRead host crb + 2)) 0
        (buffer, reading host crb device (lengthRead host crb)) := ⟨rfl, rfl, ready, .nil⟩
    have transaction := execute_ensures (kept accepted) starts size accepted.response copies stored midway
    rw [length_commandRead] at transaction
    rw [ensures_returning]
    apply transaction.mono
    · rintro code after ⟨success, responded⟩
      exact .inr (.inl ⟨accepted, success, responded⟩)
    · rintro (code | fault) after unresponded
      · exact .inr (.inr ⟨accepted, unresponded⟩)
      · exact ⟨fault, rfl, accepted, unresponded⟩

/-- What is safe about a record of accesses and a result. -/
structure Safe (host : Host) (crb : PtpCrbRegisters) (isCrbInterface : Bool)
    (outcome : Except Stop ErrorCode) (accesses : List Access) : Prop where
  prefixes : sentBytes accesses ≠ [] -> exists packet, IsPacket packet ∧ sentBytes accesses <+: packet
  completed : TransferCompleted accesses ∨ outcome = .ok .ok -> IsPacket (sentBytes accesses)
  offsets : isCrbInterface = true -> sentOffsets accesses = List.range (sentBytes accesses).length
  refused : ¬ Accepted host crb -> outcome = .ok .invalidParameters ∧ accesses = []
  inside : outcome ≠ .error (.fault .outOfBounds)
  copied : exists count, count ≤ responseSizeRead host crb ∧ copiedOffsets accesses = List.range count

theorem Safe.of_refused {host : Host} {crb : PtpCrbRegisters} (isCrbInterface : Bool) :
    Safe host crb isCrbInterface (.ok .invalidParameters) [] where
  prefixes := fun impossible => absurd rfl impossible
  completed := by
    rintro (⟨_, impossible, _⟩ | impossible)
    · exact absurd impossible List.not_mem_nil
    · cases impossible
  offsets := fun _ => rfl
  refused := fun _ => ⟨rfl, rfl⟩
  inside := by intro impossible; cases impossible
  copied := ⟨0, Nat.zero_le _, rfl⟩

theorem Safe.of_transferred {host : Host} {crb : PtpCrbRegisters} {isCrbInterface : Bool}
    {outcome : Except Stop ErrorCode} {accesses : List Access} (accepted : Accepted host crb)
    (transferred : Transferred isCrbInterface (commandRead host crb) (responseSizeRead host crb) accesses)
    (whole : outcome = .ok .ok -> sentBytes accesses = commandRead host crb)
    (inside : outcome ≠ .error (.fault .outOfBounds)) : Safe host crb isCrbInterface outcome accesses where
  prefixes := fun _ => ⟨commandRead host crb, accepted.isPacket, transferred.started⟩
  completed := by
    rintro (complete | success)
    · rw [transferred.completed complete]
      exact accepted.isPacket
    · rw [whole success]
      exact accepted.isPacket
  offsets := by
    intro crbInterface
    rw [transferred.offsets, if_pos crbInterface]
  refused := fun rejected => absurd accepted rejected
  inside := inside
  copied := transferred.copied

/-- Whatever the host writes between two reads of `start`, and whatever the
TPM does: a command that has been sent is as long as it says itself, and of a
possible length; what cannot be sent is refused before the TPM is touched; no
access is out of bounds; and the response is copied back only as far as the
size that was read at the start. -/
theorem start_safe (host : Host) (tpm : ExternalTpm Device) (locality : Locality) (isCrbInterface : Bool)
    (crb : PtpCrbRegisters) (device : Device) :
    let run := start host tpm locality isCrbInterface (.initial crb device)
    Safe host crb isCrbInterface run.1 run.2.accesses := by
  have ready : Conduct.arbitrary.Ready 0 device := trivial
  have promised := Conduct.arbitrary_kept tpm locality (commandRead host crb) isCrbInterface
  have known := start_ensures_conduct host crb (fun _ => promised) ready (fun _ _ _ => True)
    (fun _ _ _ _ _ _ _ => trivial) (fun _ => trivial)
  rcases (start host tpm locality isCrbInterface).outcome_cases (.initial crb device) with
    ⟨code, after, outcome⟩ | ⟨reason, after, outcome⟩
  · dsimp only
    rw [outcome]
    rcases known.1 code after outcome with
      ⟨_, rfl, count, rfl⟩ | ⟨accepted, rfl, responded⟩ | ⟨accepted, stopped⟩
    · exact .of_refused isCrbInterface
    · rcases responded with ⟨response, _, _, within, _, _, sent⟩
      apply Safe.of_transferred accepted (sent.transferred within) (fun _ => sent.bytes)
      intro impossible
      cases impossible
    · rcases stopped with ⟨sound, _, ended⟩
      apply Safe.of_transferred accepted ended.transferred
      · intro success
        cases success
        cases sound
      · intro impossible
        cases impossible
  · dsimp only
    rw [outcome]
    rcases known.2 reason after outcome with ⟨fault, rfl, accepted, sound, _, ended⟩
    apply Safe.of_transferred accepted ended.transferred
    · intro impossible
      cases impossible
    · intro outside
      cases outside
      cases sound

end Tpm
end SecureServices
