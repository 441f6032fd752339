import SecureServices.Tpm.Driver
import SecureServices.Tpm.Handshake

namespace SecureServices
namespace Tpm

open Library Ffa

/-!
# What a transaction leaves alone

A transaction reads and writes the data registers of the TPM, starts the
command, and waits.  What these accesses do not change about the TPM, `start`
does not change, however it ends.
-/

/-- The registers that a transaction reads. -/
def Port.isRead : Port -> Bool
  | .crbDataBuffer _ | .crbControlStart | .status | .burstCountLow | .burstCountHigh | .dataFifo => true
  | _ => false

/-- The registers that a transaction writes, and with what. -/
def Port.isWritten (value : U32) : Port -> Bool
  | .crbDataBuffer _ | .dataFifo => true
  | .crbControlStart => value == ptpCrbControlStart
  | .status => value == ptpFifoStsGo
  | _ => false

/-- The TPM keeps the property while a transaction goes on, and no yield is
refused. -/
structure Undisturbed {Device : Type} (tpm : ExternalTpm Device) (locality : Locality) (Good : Device -> Prop) :
    Prop where
  read : forall device (port : Port), port.isRead = true -> Good device -> Good (tpm.read device locality port).2
  write : forall device (port : Port) value, port.isWritten value = true -> Good device ->
    Good (tpm.write device locality port value)
  startTimeout : forall device timeout, Good device -> Good (tpm.startTimeout device timeout).2
  yield : forall device, Good device -> (tpm.yield device).1 = true ∧ Good (tpm.yield device).2

/-- The reasons other than a refused yield. -/
def NotRefused (reason : Stop) : Prop := reason ≠ .fault .yieldRefused

theorem notRefused_error (code : ErrorCode) : NotRefused (.error code) := nofun

theorem notRefused_outOfBounds : NotRefused (.fault .outOfBounds) := nofun

/-! ## Buffers -/

section Buffers

variable {Source : Type} {Invariant : Source -> Prop}

theorem dataIndex_keeps {State : Type} {Holds : State -> Prop} (offset : Nat) :
    (dataIndex offset : Action State Stop _).Keeps Holds NotRefused := by
  unfold dataIndex
  split
  · exact Action.keeps_pure
  · exact Action.keeps_stop notRefused_outOfBounds

theorem proceed_keeps {State : Type} {Holds : State -> Prop} (code : ErrorCode) :
    (proceed code : Action State Stop Unit).Keeps Holds NotRefused :=
  Action.keeps_require (notRefused_error code)

theorem loadByte_keeps (offset : Nat) :
    (loadByte offset : Action (List U8 × Source) Stop U8).Keeps (Action.Beside Invariant) NotRefused := by
  intro state holds
  by_cases inside : offset < state.1.length
  · rw [ensures_loadByte inside]
    exact holds
  · apply (Action.ensures_of_error ?_).mpr
    · exact ⟨notRefused_outOfBounds, holds⟩
    · rw [loadByte, List.getElem?_eq_none (Nat.le_of_not_lt inside)]

theorem storeByte_keeps (offset : Nat) (byte : U8) :
    (storeByte offset byte : Action (List U8 × Source) Stop Unit).Keeps (Action.Beside Invariant)
      NotRefused := by
  intro state holds
  by_cases inside : offset < state.1.length
  · rw [ensures_storeByte inside]
    exact holds
  · apply (Action.ensures_of_error ?_).mpr
    · exact ⟨notRefused_outOfBounds, holds⟩
    · rw [storeByte, if_neg inside]

theorem checkedLength_keeps (capacity : Nat) :
    (checkedLength capacity : Action (List U8 × Source) Stop Nat).Keeps (Action.Beside Invariant)
      NotRefused := by
  refine Action.keeps_bind Action.keeps_inspect (fun header => ?_)
  cases tpmPacketLength header capacity with
  | error code => exact Action.keeps_stop (notRefused_error code)
  | ok length => exact Action.keeps_pure

theorem fill_keeps {readByte : Nat -> Action Source Stop U8}
    (keeps : forall offset, (readByte offset).Keeps Invariant NotRefused) (first count : Nat) :
    (fill readByte first count).Keeps (Action.Beside Invariant) NotRefused :=
  Action.keeps_forRange fun offset =>
    Action.keeps_bind (Action.keeps_beside (keeps offset)) (fun byte => storeByte_keeps offset byte)

theorem readTpmResponse_keeps {readByte : Nat -> Action Source Stop U8}
    (keeps : forall offset, (readByte offset).Keeps Invariant NotRefused) :
    (readTpmResponse readByte).Keeps (Action.Beside Invariant) NotRefused := by
  refine Action.keeps_bind Action.keeps_inspect (fun capacity => ?_)
  refine Action.keeps_bind (Action.keeps_require (notRefused_error _)) (fun _ => ?_)
  refine Action.keeps_bind (fill_keeps keeps _ _) (fun _ => ?_)
  refine Action.keeps_bind (checkedLength_keeps capacity) (fun length => ?_)
  exact Action.keeps_bind (fill_keeps keeps _ _) (fun _ => Action.keeps_pure)

theorem onSlice_keeps {Result : Type} {action : Action (List U8 × Source) Stop Result}
    (keeps : action.Keeps (Action.Beside Invariant) NotRefused) (count : Nat) :
    (onSlice count action).Keeps (Action.Beside Invariant) NotRefused := by
  intro state holds
  by_cases fits : count ≤ state.1.length
  · rw [ensures_onSlice fits]
    exact keeps (state.1.take count, state.2) holds
  · apply (Action.ensures_of_error ?_).mpr
    · exact ⟨notRefused_outOfBounds, holds⟩
    · rw [onSlice, if_neg fits]

end Buffers

/-! ## The transaction -/

section Transaction

variable {Device : Type} {tpm : ExternalTpm Device} {locality : Locality} {Good : Device -> Prop}

/-- The property of the TPM next to the registers. -/
def OnDevice (Good : Device -> Prop) (bench : Bench Device) : Prop := Good bench.device

theorem readPort_keeps (calm : Undisturbed tpm locality Good) {port : Port} (isRead : port.isRead = true) :
    (readPort tpm locality port).Keeps (OnDevice Good) NotRefused :=
  fun _ good => ensures_readPort.mpr (calm.read _ port isRead good)

theorem writePort_keeps (calm : Undisturbed tpm locality Good) {port : Port} {value : U32}
    (isWritten : port.isWritten value = true) :
    (writePort tpm locality port value).Keeps (OnDevice Good) NotRefused :=
  fun _ good => ensures_writePort.mpr (calm.write _ port value isWritten good)

theorem startTimeout_keeps (calm : Undisturbed tpm locality Good) (timeout : Nat) :
    (startTimeout tpm timeout).Keeps (OnDevice Good) NotRefused :=
  fun _ good => ensures_startTimeout.mpr (calm.startTimeout _ timeout good)

theorem yield_keeps (calm : Undisturbed tpm locality Good) :
    (yield tpm).Keeps (OnDevice Good) NotRefused := by
  intro bench good
  have kept := calm.yield bench.device good
  rw [ensures_yield]
  exact ⟨fun _ => kept.2, fun refused => Bool.noConfusion (kept.1.symm.trans refused)⟩

theorem pollUntil_keeps (calm : Undisturbed tpm locality Good) {Result : Type}
    {poll : Routine Device (Option Result)} (keeps : poll.Keeps (OnDevice Good) NotRefused)
    (polls : Nat) : (pollUntil tpm poll polls).Keeps (OnDevice Good) NotRefused := by
  induction polls with
  | zero =>
      refine Action.keeps_bind keeps (fun answer => ?_)
      cases answer with
      | none => exact Action.keeps_stop (notRefused_error _)
      | some result => exact Action.keeps_pure
  | succ polls inductionHypothesis =>
      refine Action.keeps_bind keeps (fun answer => ?_)
      cases answer with
      | none => exact Action.keeps_bind (yield_keeps calm) (fun _ => inductionHypothesis)
      | some result => exact Action.keeps_pure

theorem fifoReadBurstCount_keeps (calm : Undisturbed tpm locality Good) :
    (fifoReadBurstCount tpm locality).Keeps (OnDevice Good) NotRefused := by
  refine Action.keeps_bind (startTimeout_keeps calm _) (fun polls => ?_)
  refine pollUntil_keeps calm ?_ polls
  refine Action.keeps_bind (readPort_keeps calm rfl) (fun low => ?_)
  exact Action.keeps_bind (readPort_keeps calm rfl) (fun high => Action.keeps_pure)

theorem waitRegisterBits_keeps (calm : Undisturbed tpm locality Good) (isCrbInterface : Bool) {port : Port}
    (isRead : port.isRead = true) (bitSet bitClear : U32) (timeout : Nat) :
    (waitRegisterBits tpm locality isCrbInterface port bitSet bitClear timeout).Keeps
      (OnDevice Good) NotRefused := by
  refine Action.keeps_recover (Action.keeps_bind (startTimeout_keeps calm _) (fun polls => ?_))
  refine pollUntil_keeps calm ?_ polls
  exact Action.keeps_bind (readPort_keeps calm isRead) (fun value => Action.keeps_pure)

theorem startCommand_keeps (calm : Undisturbed tpm locality Good) (isCrbInterface : Bool) :
    (startCommand tpm locality isCrbInterface).Keeps (OnDevice Good) NotRefused := by
  unfold startCommand
  split
  · exact Action.keeps_bind (writePort_keeps calm rfl) (fun _ => waitRegisterBits_keeps calm _ rfl _ _ _)
  · exact Action.keeps_bind (writePort_keeps calm rfl) (fun _ => waitRegisterBits_keeps calm _ rfl _ _ _)

theorem sendBurst_keeps (calm : Undisturbed tpm locality Good) (length remainingBurst index : Nat) :
    (sendBurst tpm locality length remainingBurst index).Keeps (Action.Beside (OnDevice Good)) NotRefused := by
  induction remainingBurst generalizing index with
  | zero => exact Action.keeps_pure
  | succ remainingBurst inductionHypothesis =>
      unfold sendBurst
      split
      · refine Action.keeps_bind (loadByte_keeps index) (fun byte => ?_)
        refine Action.keeps_bind (Action.keeps_beside (writePort_keeps calm rfl)) (fun _ => ?_)
        exact inductionHypothesis (index + 1)
      · exact Action.keeps_pure

theorem sendBursts_keeps (calm : Undisturbed tpm locality Good) (length bursts index : Nat) :
    (sendBursts tpm locality length bursts index).Keeps (Action.Beside (OnDevice Good)) NotRefused := by
  induction bursts generalizing index with
  | zero => exact Action.keeps_pure
  | succ bursts inductionHypothesis =>
      unfold sendBursts
      split
      · refine Action.keeps_bind (Action.keeps_beside (fifoReadBurstCount_keeps calm)) (fun burstCount => ?_)
        exact Action.keeps_bind (sendBurst_keeps calm length _ index) inductionHypothesis
      · exact Action.keeps_pure

theorem copyCommandData_keeps (calm : Undisturbed tpm locality Good) (isCrbInterface : Bool) (length : Nat) :
    (copyCommandData tpm locality isCrbInterface length).Keeps (Action.Beside (OnDevice Good)) NotRefused := by
  unfold copyCommandData
  split
  · refine Action.keeps_bind (Action.keeps_forRange fun offset => ?_) (fun _ => Action.keeps_pure)
    refine Action.keeps_bind (dataIndex_keeps offset) (fun index => ?_)
    refine Action.keeps_bind (loadByte_keeps offset) (fun byte => ?_)
    exact Action.keeps_beside (writePort_keeps calm rfl)
  · refine Action.keeps_recover (Action.keeps_bind (sendBursts_keeps calm length length 0) (fun _ => ?_))
    exact Action.keeps_beside (waitRegisterBits_keeps calm _ rfl _ _ _)

theorem readCrbByte_keeps (calm : Undisturbed tpm locality Good) (offset : Nat) :
    (readCrbByte tpm locality offset).Keeps (OnDevice Good) NotRefused := by
  refine Action.keeps_bind (dataIndex_keeps offset) (fun index => ?_)
  exact Action.keeps_bind (readPort_keeps calm rfl) (fun value => Action.keeps_pure)

theorem renewBurst_keeps (calm : Undisturbed tpm locality Good) :
    (renewBurst tpm locality).Keeps (Action.Beside (OnDevice Good)) NotRefused := by
  refine Action.keeps_bind Action.keeps_inspect (fun remainingBurst => ?_)
  split
  · refine Action.keeps_bind (Action.keeps_beside (fifoReadBurstCount_keeps calm)) (fun burstCount => ?_)
    exact Action.keeps_assign
  · exact Action.keeps_pure

theorem readFifoByte_keeps (calm : Undisturbed tpm locality Good) (offset : Nat) :
    (readFifoByte tpm locality offset).Keeps (Action.Beside (OnDevice Good)) NotRefused := by
  refine Action.keeps_bind (renewBurst_keeps calm) (fun _ => ?_)
  refine Action.keeps_bind (Action.keeps_beside (readPort_keeps calm rfl)) (fun status => ?_)
  refine Action.keeps_bind (Action.keeps_require (notRefused_error _)) (fun _ => ?_)
  refine Action.keeps_bind (Action.keeps_beside (readPort_keeps calm rfl)) (fun value => ?_)
  refine Action.keeps_bind Action.keeps_inspect (fun remainingBurst => ?_)
  exact Action.keeps_bind Action.keeps_assign (fun _ => Action.keeps_pure)

theorem copyResponseData_keeps (calm : Undisturbed tpm locality Good) (isCrbInterface : Bool) :
    (copyResponseData tpm locality isCrbInterface).Keeps (Action.Beside (OnDevice Good)) NotRefused := by
  unfold copyResponseData
  split
  · exact readTpmResponse_keeps (readCrbByte_keeps calm)
  · exact Action.keeps_withInner (readTpmResponse_keeps (readFifoByte_keeps calm))

theorem fetch_keeps {Value : Type} (host : Host) (register : PtpCrbRegisters -> Value) :
    (fetch host register).Keeps (OnDevice Good) NotRefused :=
  fun _ good => ensures_fetch.mpr good

theorem fetchByte_keeps (host : Host) (offset : Nat) :
    (fetchByte host offset).Keeps (OnDevice Good) NotRefused :=
  Action.keeps_bind (dataIndex_keeps offset) (fun _ => fetch_keeps host _)

theorem copyBack_keeps (host : Host) (count : Nat) :
    (copyBack host count).Keeps (Action.Beside (OnDevice Good)) NotRefused := by
  refine Action.keeps_forRange fun offset => ?_
  refine Action.keeps_bind (loadByte_keeps offset) (fun byte => ?_)
  refine Action.keeps_bind (dataIndex_keeps offset) (fun index => ?_)
  exact Action.keeps_beside (fun _ good => ensures_putByte.mpr good)

theorem fetchCommand_keeps (host : Host) (capacity : Nat) :
    (fetchCommand host capacity).Keeps (Action.Beside (OnDevice Good)) NotRefused := by
  refine Action.keeps_bind (fill_keeps (fetchByte_keeps host) _ _) (fun _ => ?_)
  refine Action.keeps_bind (checkedLength_keeps capacity) (fun length => ?_)
  exact Action.keeps_bind (fill_keeps (fetchByte_keeps host) _ _) (fun _ => Action.keeps_pure)

theorem execute_keeps (calm : Undisturbed tpm locality Good) (host : Host) (isCrbInterface : Bool)
    (responseCapacity length : Nat) :
    (execute host tpm locality isCrbInterface responseCapacity length).Keeps (Action.Beside (OnDevice Good))
      NotRefused := by
  refine Action.keeps_bind (copyCommandData_keeps calm isCrbInterface length) (fun copied => ?_)
  refine Action.keeps_bind (proceed_keeps copied) (fun _ => ?_)
  refine Action.keeps_bind (Action.keeps_beside (startCommand_keeps calm isCrbInterface)) (fun started => ?_)
  refine Action.keeps_bind (proceed_keeps started) (fun _ => ?_)
  refine Action.keeps_bind (onSlice_keeps (copyResponseData_keeps calm isCrbInterface) _) (fun count => ?_)
  exact Action.keeps_bind (copyBack_keeps host count) (fun _ => Action.keeps_pure)

/-- A transaction does not disturb what its accesses do not disturb. -/
theorem start_keeps (calm : Undisturbed tpm locality Good) (host : Host) (isCrbInterface : Bool) :
    (start host tpm locality isCrbInterface).Keeps (OnDevice Good) NotRefused := by
  refine Action.keeps_recover (Action.keeps_bind (fetch_keeps host _) (fun responseCapacity => ?_))
  refine Action.keeps_bind (fetch_keeps host _) (fun commandCapacity => ?_)
  refine Action.keeps_bind (Action.keeps_require (notRefused_error _)) (fun _ => ?_)
  refine Action.keeps_withLocal (Action.keeps_bind (fetchCommand_keeps host _) (fun length => ?_))
  exact execute_keeps calm host isCrbInterface _ length

end Transaction

end Tpm
end SecureServices
