import SecureServices.Tpm.Translation

namespace SecureServices
namespace Tpm

open Library Ffa

/-!
# One transaction with the TPM

Once the command is in the local buffer, `start` sends it, has it executed and
copies the response back.  This half is the same for every TPM: what the TPM
promises is a parameter, a property of its state for each phase.  A TPM that
promises nothing is one of them, and so is one that keeps to the protocol of
its interface.

What happened is read off the record of accesses.
-/

variable {Device : Type}

/-! ## What is recorded -/

namespace Access

/-- The byte that a write sends to the TPM. -/
def sentByte : Access -> Option U8
  | .write (.crbDataBuffer _) value => some (value.setWidth 8)
  | .write .dataFifo value => some (value.setWidth 8)
  | _ => none

/-- Where in the external data buffer a write sends a byte. -/
def sentOffset : Access -> Option Nat
  | .write (.crbDataBuffer index) _ => some index
  | _ => none

/-- Where in the internal data buffer a byte of the response is copied. -/
def copiedOffset : Access -> Option Nat
  | .store index _ => some index
  | _ => none

/-- The accesses of which a transfer of a command consists.  The first other
one comes after the transfer. -/
def isTransfer : Access -> Bool
  | .write (.crbDataBuffer _) _ => true
  | .write .dataFifo _ => true
  | .read .burstCountLow _ => true
  | .read .burstCountHigh _ => true
  | _ => false

/-- Neither a byte of the command nor one of the response. -/
def isControl (access : Access) : Bool :=
  access.sentByte.isNone && access.sentOffset.isNone && access.copiedOffset.isNone

end Access

def sentBytes (accesses : List Access) : List U8 := accesses.filterMap Access.sentByte

def sentOffsets (accesses : List Access) : List Nat := accesses.filterMap Access.sentOffset

def copiedOffsets (accesses : List Access) : List Nat := accesses.filterMap Access.copiedOffset

/-- The transfer of the command is complete. -/
def TransferCompleted (accesses : List Access) : Prop :=
  exists access, access ∈ accesses ∧ access.isTransfer = false

/-- The first bytes of the command have been sent, and nothing else happened. -/
structure Sending (isCrbInterface : Bool) (command : List U8) (index : Nat) (accesses : List Access) : Prop where
  bytes : sentBytes accesses = command.take index
  offsets : sentOffsets accesses = if isCrbInterface then List.range index else []
  transfers : forall access, access ∈ accesses -> access.isTransfer = true

/-- The command has been sent, or a part of it; and a part of the response has
been copied back. -/
structure Transferred (isCrbInterface : Bool) (command : List U8) (room : Nat) (accesses : List Access) :
    Prop where
  started : sentBytes accesses <+: command
  completed : TransferCompleted accesses -> sentBytes accesses = command
  offsets : sentOffsets accesses = if isCrbInterface then List.range (sentBytes accesses).length else []
  copied : exists count, count ≤ room ∧ copiedOffsets accesses = List.range count

section Sending

variable {isCrbInterface : Bool} {command : List U8} {index room : Nat} {accesses added : List Access}

theorem Sending.nil : Sending isCrbInterface command 0 [] where
  bytes := rfl
  offsets := by cases isCrbInterface <;> rfl
  transfers := fun _ impossible => absurd impossible List.not_mem_nil

/-- Going on with a transfer. -/
theorem Sending.append {next : Nat} (sending : Sending isCrbInterface command index accesses)
    (bytes : command.take index ++ sentBytes added = command.take next)
    (offsets : sentOffsets accesses ++ sentOffsets added = if isCrbInterface then List.range next else [])
    (transfers : forall access, access ∈ added -> access.isTransfer = true) :
    Sending isCrbInterface command next (accesses ++ added) where
  bytes := by rw [sentBytes, List.filterMap_append, ← sentBytes, ← sentBytes, sending.bytes, bytes]
  offsets := by rw [sentOffsets, List.filterMap_append, ← sentOffsets, ← sentOffsets, offsets]
  transfers := by
    intro access member
    rcases List.mem_append.mp member with earlier | later
    · exact sending.transfers access earlier
    · exact transfers access later

/-- Accesses of neither kind are not in the lists. -/
theorem nothing_of_isControl (control : forall access, access ∈ added -> access.isControl = true) :
    sentBytes added = [] ∧ sentOffsets added = [] ∧ copiedOffsets added = [] := by
  simp only [Access.isControl, Bool.and_eq_true, Option.isNone_iff_eq_none] at control
  refine ⟨?_, ?_, ?_⟩
  · exact List.filterMap_eq_nil_iff.mpr (fun access member => (control access member).1.1)
  · exact List.filterMap_eq_nil_iff.mpr (fun access member => (control access member).1.2)
  · exact List.filterMap_eq_nil_iff.mpr (fun access member => (control access member).2)

/-- Reading a burst count in between. -/
theorem Sending.pause (sending : Sending isCrbInterface command index accesses)
    (transfers : forall access, access ∈ added -> access.isTransfer = true)
    (control : forall access, access ∈ added -> access.isControl = true) :
    Sending isCrbInterface command index (accesses ++ added) := by
  have nothing := nothing_of_isControl control
  apply sending.append _ _ transfers
  · rw [nothing.1, List.append_nil]
  · rw [nothing.2.1, List.append_nil, sending.offsets]

theorem Sending.extends {first last : Bench Device}
    (sending : Sending isCrbInterface command index first.accesses)
    (extended : Extends (fun access => access.isTransfer = true ∧ access.isControl = true) first last) :
    Sending isCrbInterface command index last.accesses := by
  rcases extended.accesses with ⟨added, recorded, both⟩
  rw [recorded]
  exact sending.pause (fun access member => (both access member).1) (fun access member => (both access member).2)

theorem truncate_extend (byte : U8) : (byte.setWidth 32).setWidth 8 = byte :=
  BitVec.setWidth_setWidth_of_le byte (by decide)

/-- Sending the next byte to the data buffer. -/
theorem Sending.nextCrb (sending : Sending true command index accesses) (inside : index < command.length)
    (fits : index < crbDataBufferSize) :
    Sending true command (index + 1)
      (accesses ++ [.write (.crbDataBuffer ⟨index, fits⟩) (command[index].setWidth 32)]) := by
  apply sending.append
  · change command.take index ++ [(command[index].setWidth 32).setWidth 8] = _
    rw [truncate_extend, List.take_append_getElem]
  · rw [sending.offsets, if_pos rfl, if_pos rfl, List.range_succ]
    rfl
  · intro access member
    rw [List.mem_singleton.mp member]
    rfl

/-- Sending the next byte to the FIFO. -/
theorem Sending.nextFifo (sending : Sending false command index accesses) (inside : index < command.length) :
    Sending false command (index + 1) (accesses ++ [.write .dataFifo (command[index].setWidth 32)]) := by
  apply sending.append
  · change command.take index ++ [(command[index].setWidth 32).setWidth 8] = _
    rw [truncate_extend, List.take_append_getElem]
  · rw [sending.offsets]
    rfl
  · intro access member
    rw [List.mem_singleton.mp member]
    rfl

theorem isTransfer_of_copied {access : Access} (transfers : access.isTransfer = true) :
    access.copiedOffset = none := by
  cases access with
  | read port value => rfl
  | write port value => rfl
  | store index byte => cases transfers

theorem Sending.transferred (sending : Sending isCrbInterface command index accesses)
    (within : index ≤ command.length) : Transferred isCrbInterface command room accesses where
  started := by
    rw [sending.bytes]
    exact List.take_prefix index command
  completed := by
    rintro ⟨access, member, other⟩
    rw [sending.transfers access member] at other
    cases other
  offsets := by rw [sending.offsets, sending.bytes, List.length_take, Nat.min_eq_left within]
  copied := by
    refine ⟨0, Nat.zero_le room, List.filterMap_eq_nil_iff.mpr ?_⟩
    exact fun access member => isTransfer_of_copied (sending.transfers access member)

end Sending

/-- The command has been sent, and a number of bytes has been copied back. -/
structure Sent (isCrbInterface : Bool) (command : List U8) (count : Nat) (accesses : List Access) : Prop where
  bytes : sentBytes accesses = command
  offsets : sentOffsets accesses = if isCrbInterface then List.range command.length else []
  copied : copiedOffsets accesses = List.range count

section Sent

variable {isCrbInterface : Bool} {command : List U8} {count room : Nat} {accesses added : List Access}

theorem Sending.sent (sending : Sending isCrbInterface command command.length accesses) :
    Sent isCrbInterface command 0 accesses where
  bytes := by rw [sending.bytes, List.take_length]
  offsets := sending.offsets
  copied := List.filterMap_eq_nil_iff.mpr
    (fun access member => isTransfer_of_copied (sending.transfers access member))

theorem Sent.transferred (sent : Sent isCrbInterface command count accesses) (within : count ≤ room) :
    Transferred isCrbInterface command room accesses where
  started := by rw [sent.bytes]
  completed := fun _ => sent.bytes
  offsets := by rw [sent.offsets, sent.bytes]
  copied := ⟨count, within, sent.copied⟩

theorem Sent.control (sent : Sent isCrbInterface command count accesses)
    (control : forall access, access ∈ added -> access.isControl = true) :
    Sent isCrbInterface command count (accesses ++ added) := by
  have nothing := nothing_of_isControl control
  constructor
  · rw [sentBytes, List.filterMap_append, ← sentBytes, ← sentBytes, nothing.1, List.append_nil, sent.bytes]
  · rw [sentOffsets, List.filterMap_append, ← sentOffsets, ← sentOffsets, nothing.2.1, List.append_nil,
      sent.offsets]
  · rw [copiedOffsets, List.filterMap_append, ← copiedOffsets, ← copiedOffsets, nothing.2.2,
      List.append_nil, sent.copied]

theorem Sent.extends {first last : Bench Device} (sent : Sent isCrbInterface command count first.accesses)
    (extended : Extends (fun access => access.isControl = true) first last) :
    Sent isCrbInterface command count last.accesses := by
  rcases extended.accesses with ⟨added, recorded, control⟩
  rw [recorded]
  exact sent.control control

/-- Copying the next byte back. -/
theorem Sent.store (sent : Sent isCrbInterface command count accesses) (inside : count < crbDataBufferSize)
    (byte : U8) : Sent isCrbInterface command (count + 1) (accesses ++ [.store ⟨count, inside⟩ byte]) := by
  constructor
  · rw [sentBytes, List.filterMap_append, ← sentBytes, sent.bytes]
    exact List.append_nil command
  · rw [sentOffsets, List.filterMap_append, ← sentOffsets, sent.offsets]
    exact List.append_nil _
  · rw [copiedOffsets, List.filterMap_append, ← copiedOffsets, sent.copied, List.range_succ]
    rfl

end Sent

/-! ## What a TPM promises -/

/-- A property of the TPM's state for each phase, and the reasons for which it
may make a routine stop.  `Ready` is given the number of bytes of the command
that have been sent, `Answering` the bytes of the response that have been
read. -/
structure Conduct (Device : Type) where
  Ready : Nat -> Device -> Prop
  Passed : ErrorCode -> Device -> Prop
  Executed : ErrorCode -> Device -> Prop
  Answering : List U8 -> Device -> Prop
  Failed : Stop -> Prop

/-- After these bytes of a response there are more to come. -/
def Wanted (read : List U8) : Prop := tpmHeaderSize ≤ read.length -> read.length < declaredLength read

section Conduct

variable (conduct : Conduct Device) (tpm : ExternalTpm Device) (locality : Locality) (command : List U8)

/-- The promises of a TPM with a CRB interface are kept, for this command. -/
structure Conduct.KeptCrb : Prop where
  data : forall index device (inside : index < command.length) (fits : index < crbDataBufferSize),
    conduct.Ready index device ->
    conduct.Ready (index + 1) (tpm.write device locality (.crbDataBuffer ⟨index, fits⟩) (command[index].setWidth 32))
  done : forall device, conduct.Ready command.length device -> conduct.Passed .ok device
  executes : forall bench : Bench Device, conduct.Passed .ok bench.device ->
    (startCommand tpm locality true).Ensures (fun code after => conduct.Executed code after.device)
      (fun reason _ => conduct.Failed reason) bench
  begins : forall device, conduct.Executed .ok device -> conduct.Answering [] device
  answers : forall read device (inside : read.length < crbDataBufferSize), Wanted read ->
    conduct.Answering read device ->
    conduct.Answering (read ++ [(tpm.read device locality (.crbDataBuffer ⟨read.length, inside⟩)).1.setWidth 8])
      (tpm.read device locality (.crbDataBuffer ⟨read.length, inside⟩)).2

/-- The promises of a TPM with a FIFO interface are kept, for this command. -/
structure Conduct.KeptFifo : Prop where
  data : forall index device (inside : index < command.length), conduct.Ready index device ->
    conduct.Ready (index + 1) (tpm.write device locality .dataFifo (command[index].setWidth 32))
  bursts : forall index (bench : Bench Device), index < command.length -> conduct.Ready index bench.device ->
    (fifoReadBurstCount tpm locality).Ensures (fun _ after => conduct.Ready index after.device)
      (fun reason _ => conduct.Failed reason) bench
  done : forall bench : Bench Device, conduct.Ready command.length bench.device ->
    (waitRegisterBits tpm locality false .status ptpFifoStsValid ptpFifoStsExpect ptpTimeoutC).Ensures
      (fun code after => conduct.Passed code after.device) (fun reason _ => conduct.Failed reason) bench
  failed : forall code device, conduct.Failed (.error code) -> conduct.Passed code device
  executes : forall bench : Bench Device, conduct.Passed .ok bench.device ->
    (startCommand tpm locality false).Ensures (fun code after => conduct.Executed code after.device)
      (fun reason _ => conduct.Failed reason) bench
  begins : forall device, conduct.Executed .ok device -> conduct.Answering [] device
  answerBursts : forall read (bench : Bench Device), Wanted read -> conduct.Answering read bench.device ->
    (fifoReadBurstCount tpm locality).Ensures (fun _ after => conduct.Answering read after.device)
      (fun reason _ => conduct.Failed reason) bench
  status : forall read device, Wanted read -> conduct.Answering read device ->
    conduct.Answering read (tpm.read device locality .status).2 ∧
      ((tpm.read device locality .status).1.setWidth 8 &&& ptpFifoStsData.setWidth 8 = 0 ->
        conduct.Failed (.error .denied))
  answers : forall read device, Wanted read -> conduct.Answering read device ->
    conduct.Answering (read ++ [(tpm.read device locality .dataFifo).1.setWidth 8])
      (tpm.read device locality .dataFifo).2

def Conduct.Kept : Bool -> Prop
  | true => conduct.KeptCrb tpm locality command
  | false => conduct.KeptFifo tpm locality command

variable {conduct tpm locality command}

theorem Conduct.Kept.executes {isCrbInterface : Bool} (kept : conduct.Kept tpm locality command isCrbInterface)
    (bench : Bench Device) (passed : conduct.Passed .ok bench.device) :
    (startCommand tpm locality isCrbInterface).Ensures (fun code after => conduct.Executed code after.device)
      (fun reason _ => conduct.Failed reason) bench := by
  cases isCrbInterface with
  | true => exact Conduct.KeptCrb.executes kept bench passed
  | false => exact Conduct.KeptFifo.executes kept bench passed

theorem Conduct.Kept.begins {isCrbInterface : Bool} (kept : conduct.Kept tpm locality command isCrbInterface)
    (device : Device) (executed : conduct.Executed .ok device) : conduct.Answering [] device := by
  cases isCrbInterface with
  | true => exact Conduct.KeptCrb.begins kept device executed
  | false => exact Conduct.KeptFifo.begins kept device executed

end Conduct

/-! ## Sending the command -/

/-- In the middle of the transfer. -/
structure Midway (Ready : Nat -> Device -> Prop) (isCrbInterface : Bool) (command buffer : List U8)
    (crb : PtpCrbRegisters) (index : Nat) (state : List U8 × Bench Device) : Prop where
  buffer : state.1 = buffer
  crb : state.2.crb = crb
  ready : Ready index state.2.device
  sending : Sending isCrbInterface command index state.2.accesses

section Transfer

variable {conduct : Conduct Device} {tpm : ExternalTpm Device} {locality : Locality}
  {command buffer : List U8} {crb : PtpCrbRegisters}

/-- The byte to send next is in the local buffer. -/
theorem ensures_loadCommand {state : List U8 × Bench Device} {returned : U8 -> List U8 × Bench Device -> Prop}
    {stopped : Stop -> List U8 × Bench Device -> Prop} (starts : command <+: buffer)
    (same : state.1 = buffer) {index : Nat} (inside : index < command.length) :
    (loadByte index).Ensures returned stopped state <-> returned command[index] state := by
  subst same
  rw [ensures_loadByte (Nat.lt_of_lt_of_le inside starts.length_le), starts.getElem inside]

theorem sendCrb_ensures (kept : conduct.KeptCrb tpm locality command) (starts : command <+: buffer)
    (fits : command.length ≤ crbDataBufferSize) {state : List U8 × Bench Device}
    (midway : Midway conduct.Ready true command buffer crb 0 state) :
    (Action.forRange (fun offset => do
        let index <- dataIndex offset
        let byte <- loadByte offset
        (writePort tpm locality (.crbDataBuffer index) (byte.setWidth 32)).beside) 0 command.length).Ensures
      (fun _ => Midway conduct.Ready true command buffer crb command.length) (fun _ _ => False) state := by
  apply (Action.ensures_forRange (Midway conduct.Ready true command buffer crb) ?_ midway).mono
  · intro _ after reached
    rw [Nat.zero_add] at reached
    exact reached
  · exact fun _ _ impossible => impossible
  · intro index _ upper state midway
    rw [Nat.zero_add] at upper
    rw [Action.ensures_bind, ensures_dataIndex (Nat.lt_of_lt_of_le upper fits), Action.ensures_bind,
      ensures_loadCommand starts midway.buffer upper, Action.ensures_beside, ensures_writePort]
    exact ⟨midway.buffer, midway.crb, kept.data _ _ upper _ midway.ready, midway.sending.nextCrb upper _⟩

/-- One burst. -/
theorem sendBurst_ensures (kept : conduct.KeptFifo tpm locality command) (starts : command <+: buffer)
    (remainingBurst : Nat) {index : Nat} (within : index ≤ command.length) {state : List U8 × Bench Device}
    (midway : Midway conduct.Ready false command buffer crb index state) :
    (sendBurst tpm locality command.length remainingBurst index).Ensures
      (fun next after => next = min (index + remainingBurst) command.length ∧
        Midway conduct.Ready false command buffer crb next after)
      (fun _ _ => False) state := by
  induction remainingBurst generalizing index state with
  | zero =>
      rw [sendBurst, Action.ensures_pure]
      exact ⟨(Nat.min_eq_left within).symm, midway⟩
  | succ remainingBurst inductionHypothesis =>
      rw [sendBurst]
      split
      next inside =>
        rw [Action.ensures_bind, ensures_loadCommand starts midway.buffer inside, Action.ensures_bind,
          Action.ensures_beside, ensures_writePort]
        apply (inductionHypothesis inside ?_).mono
        · rintro next after ⟨reached, midway⟩
          exact ⟨by omega, midway⟩
        · exact fun _ _ impossible => impossible
        · exact ⟨midway.buffer, midway.crb, kept.data _ _ inside midway.ready, midway.sending.nextFifo inside⟩
      next outside =>
        rw [Action.ensures_pure]
        have done : index = min (index + (remainingBurst + 1)) command.length := by omega
        exact ⟨done, midway⟩

/-- Reading a burst count in the middle of a transfer. -/
theorem burstCount_ensures (kept : conduct.KeptFifo tpm locality command) {index : Nat}
    (inside : index < command.length) {state : List U8 × Bench Device}
    (midway : Midway conduct.Ready false command buffer crb index state) :
    ((fifoReadBurstCount tpm locality).beside).Ensures
      (fun count after => count ≠ 0 ∧ Midway conduct.Ready false command buffer crb index after)
      (fun reason after => reason.isSound = true ∧ conduct.Failed reason ∧
        Midway (fun _ _ => True) false command buffer crb index after) state := by
  have performs := @fifoReadBurstCount_performs Device
    (fun access => access.isTransfer = true ∧ access.isControl = true) tpm locality
    (fun _ => ⟨rfl, rfl⟩) (fun _ => ⟨rfl, rfl⟩) state.2
  rw [Action.ensures_beside]
  apply (performs.and (kept.bursts index state.2 inside midway.ready)).mono
  · rintro count after ⟨⟨nonzero, extended⟩, ready⟩
    exact ⟨nonzero, midway.buffer, extended.crb.trans midway.crb, ready, midway.sending.extends extended⟩
  · rintro reason after ⟨⟨sound, extended⟩, failed⟩
    exact ⟨sound, failed, midway.buffer, extended.crb.trans midway.crb, trivial, midway.sending.extends extended⟩

/-- Burst after burst.  There are enough bursts to send the command, since
none of them is empty. -/
theorem sendBursts_ensures (kept : conduct.KeptFifo tpm locality command) (starts : command <+: buffer)
    (bursts : Nat) {index : Nat} (within : index ≤ command.length) (enough : command.length - index ≤ bursts)
    {state : List U8 × Bench Device} (midway : Midway conduct.Ready false command buffer crb index state) :
    (sendBursts tpm locality command.length bursts index).Ensures
      (fun _ => Midway conduct.Ready false command buffer crb command.length)
      (fun reason after => reason.isSound = true ∧ conduct.Failed reason ∧
        exists reached, reached ≤ command.length ∧
          Midway (fun _ _ => True) false command buffer crb reached after) state := by
  induction bursts generalizing index state with
  | zero =>
      have done : index = command.length := by omega
      rw [sendBursts, Action.ensures_pure]
      exact done ▸ midway
  | succ bursts inductionHypothesis =>
      rw [sendBursts]
      split
      next inside =>
        rw [Action.ensures_bind]
        apply (burstCount_ensures kept inside midway).mono
        · rintro count middle ⟨nonzero, midway⟩
          have positive : 0 < count.toNat := by
            apply Nat.pos_of_ne_zero
            intro zero
            exact nonzero (BitVec.eq_of_toNat_eq zero)
          rw [Action.ensures_bind]
          apply (sendBurst_ensures kept starts count.toNat within midway).mono
          · rintro next after ⟨reached, midway⟩
            exact inductionHypothesis (by omega) (by omega) midway
          · exact fun _ _ impossible => impossible.elim
        · rintro reason after ⟨sound, failed, midway⟩
          exact ⟨sound, failed, index, within, midway⟩
      next outside =>
        have done : index = command.length := by omega
        rw [Action.ensures_pure]
        exact done ▸ midway

/-- The state after a transfer that did not have to be complete. -/
structure Ended (isCrbInterface : Bool) (command : List U8) (crb : PtpCrbRegisters) (room : Nat)
    (bench : Bench Device) : Prop where
  crb : bench.crb = crb
  transferred : Transferred isCrbInterface command room bench.accesses

/-- The transfer as a whole.  If its status is a success, the whole command
has been sent. -/
theorem copyCommandData_ensures {isCrbInterface : Bool}
    (kept : conduct.Kept tpm locality command isCrbInterface)
    (starts : command <+: buffer) (fits : command.length ≤ crbDataBufferSize) (room : Nat)
    {state : List U8 × Bench Device}
    (midway : Midway conduct.Ready isCrbInterface command buffer crb 0 state) :
    (copyCommandData tpm locality isCrbInterface command.length).Ensures
      (fun code after => after.1 = buffer ∧ conduct.Passed code after.2.device ∧
        Ended isCrbInterface command crb room after.2 ∧
        (code = .ok -> Sent isCrbInterface command 0 after.2.accesses))
      (fun reason after => reason.isSound = true ∧ conduct.Failed reason ∧
        Ended isCrbInterface command crb room after.2) state := by
  cases isCrbInterface with
  | true =>
      rw [copyCommandData, if_pos rfl, Action.ensures_bind]
      apply (sendCrb_ensures kept starts fits midway).mono
      · intro _ after midway
        rw [Action.ensures_pure]
        exact ⟨midway.buffer, kept.done _ midway.ready, ⟨midway.crb, midway.sending.transferred (Nat.le_refl _)⟩,
          fun _ => midway.sending.sent⟩
      · exact fun _ _ impossible => impossible.elim
  | false =>
      rw [copyCommandData, if_neg (by decide), ensures_returning, Action.ensures_bind]
      apply (sendBursts_ensures kept starts command.length (Nat.zero_le _) (by omega) midway).mono
      · intro _ middle midway
        have performs := @waitRegisterBits_performs Device (fun access => access.isControl = true) tpm locality
          false .status ptpFifoStsValid ptpFifoStsExpect ptpTimeoutC (fun _ => rfl) middle.2
        rw [Action.ensures_beside]
        apply (performs.and (kept.done middle.2 midway.ready)).mono
        · rintro code after ⟨⟨_, extended⟩, passed⟩
          have sent := midway.sending.sent.extends extended
          exact ⟨midway.buffer, passed, ⟨extended.crb.trans midway.crb, sent.transferred (Nat.zero_le room)⟩,
            fun _ => sent⟩
        · rintro (code | fault) after ⟨⟨sound, extended⟩, failed⟩
          all_goals have sent := midway.sending.sent.extends extended
          all_goals have ended : Ended false command crb room after :=
            ⟨extended.crb.trans midway.crb, sent.transferred (Nat.zero_le room)⟩
          · exact ⟨midway.buffer, kept.failed code _ failed, ended, fun _ => sent⟩
          · exact ⟨sound, failed, ended⟩
      · rintro (code | fault) after ⟨sound, failed, reached, within, midway⟩
        all_goals have ended : Ended false command crb room after.2 :=
          ⟨midway.crb, midway.sending.transferred within⟩
        · refine ⟨midway.buffer, kept.failed code _ failed, ended, fun success => ?_⟩
          rw [success] at sound
          cases sound
        · exact ⟨sound, failed, ended⟩

end Transfer

/-! ## Reading the response -/

abbrev Access.IsControl (access : Access) : Prop := access.isControl = true

theorem readPort_extends (tpm : ExternalTpm Device) (locality : Locality) (port : Port) (bench : Bench Device) :
    Extends Access.IsControl bench
      { bench with
        device := (tpm.read bench.device locality port).2
        accesses := bench.accesses ++ [.read port (tpm.read bench.device locality port).1] } := by
  apply Extends.single
  rfl

section Response

variable {conduct : Conduct Device} {tpm : ExternalTpm Device} {locality : Locality} {command : List U8}
  {start : Bench Device}

/-- The response as far as it has been read. -/
structure Answered (conduct : Conduct Device) (start : Bench Device) (read : List U8) (bench : Bench Device) :
    Prop where
  answering : conduct.Answering read bench.device
  extended : Extends Access.IsControl start bench

/-- Reading has stopped. -/
structure Unanswered (conduct : Conduct Device) (start : Bench Device) (reason : Stop) (bench : Bench Device) :
    Prop where
  sound : reason.isSound = true
  failed : conduct.Failed reason
  extended : Extends Access.IsControl start bench

theorem readCrbByte_ensures (kept : conduct.KeptCrb tpm locality command) {read : List U8}
    {bench : Bench Device}
    (inside : read.length < crbDataBufferSize) (wanted : Wanted read)
    (answered : Answered conduct start read bench) :
    (readCrbByte tpm locality read.length).Ensures
      (fun byte => Answered conduct start (read ++ [byte])) (Unanswered conduct start) bench := by
  rw [readCrbByte, Action.ensures_bind, ensures_dataIndex inside, Action.ensures_bind, ensures_readPort,
    Action.ensures_pure]
  constructor
  · exact kept.answers read bench.device inside wanted answered.answering
  · exact answered.extended.trans (readPort_extends tpm locality _ bench)

theorem renewBurst_ensures (kept : conduct.KeptFifo tpm locality command) {read : List U8}
    {state : U16 × Bench Device} (wanted : Wanted read) (answered : Answered conduct start read state.2) :
    (renewBurst tpm locality).Ensures (fun _ after => Answered conduct start read after.2)
      (fun reason after => Unanswered conduct start reason after.2) state := by
  have performs := @fifoReadBurstCount_performs Device Access.IsControl tpm locality
    (fun _ => rfl) (fun _ => rfl) state.2
  rw [renewBurst, Action.ensures_bind, Action.ensures_inspect]
  split
  · rw [Action.ensures_bind, Action.ensures_beside]
    apply (performs.and (kept.answerBursts read state.2 wanted answered.answering)).mono
    · rintro count after ⟨⟨_, extended⟩, answering⟩
      rw [Action.ensures_assign]
      exact ⟨answering, answered.extended.trans extended⟩
    · rintro reason after ⟨⟨sound, extended⟩, failed⟩
      exact ⟨sound, failed, answered.extended.trans extended⟩
  · rw [Action.ensures_pure]
    exact answered

theorem readFifoByte_ensures (kept : conduct.KeptFifo tpm locality command) {read : List U8}
    {state : U16 × Bench Device} (offset : Nat) (wanted : Wanted read)
    (answered : Answered conduct start read state.2) :
    (readFifoByte tpm locality offset).Ensures
      (fun byte after => Answered conduct start (read ++ [byte]) after.2)
      (fun reason after => Unanswered conduct start reason after.2) state := by
  rw [readFifoByte, Action.ensures_bind]
  apply (renewBurst_ensures kept wanted answered).mono
  · intro _ middle answered
    have status := kept.status read middle.2.device wanted answered.answering
    have statusRead : Extends Access.IsControl start _ :=
      answered.extended.trans (readPort_extends tpm locality .status middle.2)
    rw [Action.ensures_bind, Action.ensures_beside, ensures_readPort, Action.ensures_bind,
      Action.ensures_require]
    constructor
    · intro _
      rw [Action.ensures_bind, Action.ensures_beside, ensures_readPort, Action.ensures_bind,
        Action.ensures_inspect, Action.ensures_bind, Action.ensures_assign, Action.ensures_pure]
      exact ⟨kept.answers read _ wanted status.1, statusRead.trans (readPort_extends tpm locality .dataFifo _)⟩
    · intro clear
      have noData :
          (tpm.read middle.2.device locality .status).1.setWidth 8 &&& ptpFifoStsData.setWidth 8 = 0 := by
        simpa using clear
      exact ⟨rfl, status.2 noData, statusRead⟩
  · exact fun _ _ stopped => stopped

/-- Reading a response through either interface, once it is known for one byte.
The interface may keep something of its own next to the bench. -/
theorem readResponse_ensures {Source : Type} {readByte : Nat -> Action Source Stop U8}
    (bench : Source -> Bench Device) {buffer : List U8} (sized : isPacketSize buffer.length = true)
    (reads : forall read source, read.length < buffer.length -> Wanted read ->
      Answered conduct start read (bench source) ->
      (readByte read.length).Ensures (fun byte after => Answered conduct start (read ++ [byte]) (bench after))
        (fun reason after => Unanswered conduct start reason (bench after)) source)
    {source : Source} (initially : Answered conduct start [] (bench source)) :
    (readTpmResponse readByte).Ensures
      (fun length after => exists read, read.length = length ∧ IsPacket read ∧ length ≤ buffer.length ∧
        Filled buffer read after.1 ∧ Answered conduct start read (bench after.2))
      (fun reason after => Unanswered conduct start reason (bench after.2) ∨
        (reason = .error .invalidParameters ∧ exists read, read.length = tpmHeaderSize ∧
          declaresLength read buffer.length = false ∧ Answered conduct start read (bench after.2)))
      (buffer, source) := by
  apply (readTpmResponse_ensures (fun read source => Answered conduct start read (bench source))
    (fun _ reason source => Unanswered conduct start reason (bench source)) sized reads initially).mono
  · exact fun _ _ answered => answered
  · rintro reason after ⟨read, _, ⟨_, failed⟩ | ⟨invalid, length, misfit, answered⟩⟩
    · exact .inl failed
    · exact .inr ⟨invalid, read, length, misfit, answered⟩

/-- Reading a response.  It is rejected if its header declares a length that
does not fit. -/
theorem copyResponseData_ensures {isCrbInterface : Bool}
    (kept : conduct.Kept tpm locality command isCrbInterface)
    {buffer : List U8} (sized : isPacketSize buffer.length = true)
    (begins : conduct.Answering [] start.device) :
    (copyResponseData tpm locality isCrbInterface).Ensures
      (fun length after => exists read, read.length = length ∧ IsPacket read ∧ length ≤ buffer.length ∧
        Filled buffer read after.1 ∧ Answered conduct start read after.2)
      (fun reason after => Unanswered conduct start reason after.2 ∨
        (reason = .error .invalidParameters ∧ exists read, read.length = tpmHeaderSize ∧
          declaresLength read buffer.length = false ∧ Answered conduct start read after.2))
      (buffer, start) := by
  have room := (isPacketSize_iff.mp sized).2
  have initially : Answered conduct start [] start := ⟨begins, .refl start⟩
  cases isCrbInterface with
  | true =>
      rw [copyResponseData, if_pos rfl]
      apply readResponse_ensures id sized _ initially
      intro read bench inside wanted answered
      exact readCrbByte_ensures kept (Nat.lt_of_lt_of_le inside room) wanted answered
  | false =>
      rw [copyResponseData, if_neg (by decide), Action.ensures_withInner]
      apply readResponse_ensures Prod.snd sized _ initially
      intro read source _ wanted answered
      exact readFifoByte_ensures kept read.length wanted answered

end Response

/-! ## The whole transaction -/

section Transaction

variable {conduct : Conduct Device} {host : Host} {tpm : ExternalTpm Device} {locality : Locality}
  {isCrbInterface : Bool} {command buffer : List U8} {crb : PtpCrbRegisters}

/-- The property of the internal registers is kept by copying the next byte of
the response, after the host. -/
def CopiesOn (host : Host) (response : List U8) (Stored : Nat -> PtpCrbRegisters -> Prop) : Prop :=
  forall turn crb index (inside : index < response.length) (fits : index < crbDataBufferSize), Stored index crb ->
    Stored (index + 1) { host turn crb with
      crbDataBuffer := Function.update (host turn crb).crbDataBuffer ⟨index, fits⟩ response[index] }

theorem copyBack_ensures {response : List U8} {Stored : Nat -> PtpCrbRegisters -> Prop}
    (copies : CopiesOn host response Stored) (starts : response <+: buffer)
    (fits : response.length ≤ crbDataBufferSize) {bench : Bench Device} (stored : Stored 0 bench.crb)
    (sent : Sent isCrbInterface command 0 bench.accesses) :
    (copyBack host response.length).Ensures
      (fun _ after => Stored response.length after.2.crb ∧
        Sent isCrbInterface command response.length after.2.accesses)
      (fun _ _ => False) (buffer, bench) := by
  rw [copyBack]
  apply (Action.ensures_forRange (fun index (after : List U8 × Bench Device) => after.1 = buffer ∧
    Stored index after.2.crb ∧ Sent isCrbInterface command index after.2.accesses) ?_ ⟨rfl, stored, sent⟩).mono
  · rintro _ after ⟨_, copied⟩
    rw [Nat.zero_add] at copied
    exact copied
  · exact fun _ _ impossible => impossible
  · rintro index _ upper state ⟨same, stored, sent⟩
    rw [Nat.zero_add] at upper
    have inside : index < crbDataBufferSize := Nat.lt_of_lt_of_le upper fits
    rw [Action.ensures_bind, ensures_loadCommand starts same upper, Action.ensures_bind,
      ensures_dataIndex inside, Action.ensures_beside, ensures_putByte]
    exact ⟨same, copies _ _ index upper inside stored, sent.store inside _⟩

/-- Why a transaction did not succeed.  The last reason needs that the command
has been sent completely. -/
inductive Conduct.Explains (conduct : Conduct Device) (room : Nat) (complete : Prop) : Stop -> Prop where
  | failed {reason : Stop} : conduct.Failed reason -> Explains conduct room complete reason
  | passed {code : ErrorCode} {device : Device} : code ≠ .ok -> conduct.Passed code device ->
      Explains conduct room complete (.error code)
  | executed {code : ErrorCode} {device : Device} : code ≠ .ok -> conduct.Executed code device ->
      Explains conduct room complete (.error code)
  | rejected {header : List U8} {device : Device} : complete -> header.length = tpmHeaderSize ->
      declaresLength header room = false -> conduct.Answering header device ->
      Explains conduct room complete (.error .invalidParameters)

/-- The response has been copied back. -/
def Responded (conduct : Conduct Device) (isCrbInterface : Bool) (command : List U8) (room : Nat)
    (Stored : List U8 -> Nat -> PtpCrbRegisters -> Prop) (bench : Bench Device) : Prop :=
  exists response device, IsPacket response ∧ response.length ≤ room ∧ conduct.Answering response device ∧
    Stored response response.length bench.crb ∧ Sent isCrbInterface command response.length bench.accesses

/-- Nothing has been copied back. -/
def Unresponded (conduct : Conduct Device) (isCrbInterface : Bool) (command : List U8) (room : Nat)
    (crb : PtpCrbRegisters) (reason : Stop) (bench : Bench Device) : Prop :=
  reason.isSound = true ∧ conduct.Explains room (sentBytes bench.accesses = command) reason ∧
    Ended isCrbInterface command crb room bench

section

variable {room : Nat} {Stored : List U8 -> Nat -> PtpCrbRegisters -> Prop} {bench : Bench Device}

/-- The end of a transaction, once the TPM has executed the command. -/
theorem respond_ensures (kept : conduct.Kept tpm locality command isCrbInterface)
    (size : buffer.length = crbDataBufferSize) (sized : isPacketSize room = true)
    (copies : forall response, CopiesOn host response (Stored response))
    (stored : forall response, Stored response 0 crb) (same : bench.crb = crb)
    (sent : Sent isCrbInterface command 0 bench.accesses) (begins : conduct.Answering [] bench.device) :
    (onSlice room (copyResponseData tpm locality isCrbInterface) >>= fun responseDataLen =>
        copyBack host responseDataLen >>= fun _ => pure ErrorCode.ok).Ensures
      (fun code after => code = .ok ∧ Responded conduct isCrbInterface command room Stored after.2)
      (fun reason after => Unresponded conduct isCrbInterface command room crb reason after.2)
      (buffer, bench) := by
  have small := (isPacketSize_iff.mp sized).2
  have fits : room ≤ buffer.length := size.symm ▸ small
  have length : (buffer.take room).length = room := List.length_take_of_le fits
  rw [Action.ensures_bind, ensures_onSlice fits]
  apply (copyResponseData_ensures kept (length.symm ▸ sized) begins).mono
  · rintro _ ⟨filled, after⟩ ⟨response, rfl, packet, within, isFilled, answered⟩
    rw [length] at within
    have start : response <+: filled ++ buffer.drop room := by
      change filled = _ at isFilled
      rw [isFilled, List.append_assoc]
      exact List.prefix_append response _
    have before : Stored response 0 after.crb := by
      rw [answered.extended.crb, same]
      exact stored response
    rw [Action.ensures_bind]
    apply (copyBack_ensures (copies response) start (within.trans small) before
      (sent.extends answered.extended)).mono
    · rintro _ last ⟨copied, sent⟩
      rw [Action.ensures_pure]
      exact ⟨rfl, response, after.device, packet, within, answered.answering, copied, sent⟩
    · exact fun _ _ impossible => impossible.elim
  · rintro reason ⟨filled, after⟩ (failed | ⟨rfl, header, whole, misfit, answered⟩)
    · have transferred := (sent.extends failed.extended).transferred (Nat.zero_le room)
      exact ⟨failed.sound, .failed failed.failed, failed.extended.crb.trans same, transferred⟩
    · have still := sent.extends answered.extended
      rw [length] at misfit
      exact ⟨rfl, .rejected still.bytes whole misfit answered.answering, answered.extended.crb.trans same,
        still.transferred (Nat.zero_le room)⟩

/-- A transaction either succeeds, and the response has been copied back; or
nothing has been copied back. -/
theorem execute_ensures (kept : conduct.Kept tpm locality command isCrbInterface) (starts : command <+: buffer)
    (size : buffer.length = crbDataBufferSize) (sized : isPacketSize room = true)
    (copies : forall response, CopiesOn host response (Stored response))
    (stored : forall response, Stored response 0 crb)
    (midway : Midway conduct.Ready isCrbInterface command buffer crb 0 (buffer, bench)) :
    (execute host tpm locality isCrbInterface room command.length).Ensures
      (fun code after => code = .ok ∧ Responded conduct isCrbInterface command room Stored after.2)
      (fun reason after => Unresponded conduct isCrbInterface command room crb reason after.2)
      (buffer, bench) := by
  have fits : command.length ≤ crbDataBufferSize := size ▸ starts.length_le
  rw [execute, Action.ensures_bind]
  apply (copyCommandData_ensures kept starts fits room midway).mono
  · rintro code ⟨_, middle⟩ ⟨rfl, passed, ended, complete⟩
    rw [Action.ensures_bind, ensures_proceed]
    refine ⟨fun success => ?_, fun failure => ?_⟩
    · subst success
      have performs := @startCommand_performs Device Access.IsControl tpm locality isCrbInterface
        (fun _ => rfl) (fun _ => rfl) (fun _ => rfl) (fun _ => rfl) middle
      rw [Action.ensures_bind, Action.ensures_beside]
      apply (performs.and (kept.executes middle passed)).mono
      · rintro code after ⟨⟨_, extended⟩, executed⟩
        have sent := (complete rfl).extends extended
        have same := extended.crb.trans ended.crb
        rw [Action.ensures_bind, ensures_proceed]
        constructor
        · intro success
          subst success
          exact respond_ensures kept size sized copies stored same sent (kept.begins _ executed)
        · intro failure
          exact ⟨by simpa [Stop.isSound] using failure, .executed failure executed, same,
            sent.transferred (Nat.zero_le room)⟩
      · rintro reason after ⟨⟨sound, extended⟩, failed⟩
        have sent := (complete rfl).extends extended
        exact ⟨sound, .failed failed, extended.crb.trans ended.crb, sent.transferred (Nat.zero_le room)⟩
    · exact ⟨by simpa [Stop.isSound] using failure, .passed failure passed, ended⟩
  · rintro reason ⟨_, after⟩ ⟨sound, failed, ended⟩
    exact ⟨sound, .failed failed, ended⟩

end

end Transaction

end Tpm
end SecureServices
