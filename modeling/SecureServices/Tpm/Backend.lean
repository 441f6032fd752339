import SecureServices.Tpm.Effects
import SecureServices.Ffa.Functions

namespace SecureServices
namespace Tpm

open Library Ffa

/-!
# A backend that waits

The backend of `tpm_sst.rs` polls the registers of the TPM and yields to the
caller between two polls.  How often it polls is up to the hardware, so a
backend comes with the number of yields of every operation.  Each yield is a
secure monitor call whose result is unwrapped: an answer that is not a
success ends the service in a panic.

The service itself sees only the operations.  What they all preserve of the
backend's state, every request preserves.
-/

variable {Sst : Type}

/-! ## Properties of the backend -/

/-- Every operation preserves the property of the backend's state. -/
structure TpmSstOps.Keeps (ops : TpmSstOps Sst) (Property : Sst -> Prop) : Prop where
  goIdle : forall sst locality, Property sst -> Property (ops.goIdle sst locality).2
  cmdReady : forall sst locality, Property sst -> Property (ops.cmdReady sst locality).2
  start : forall sst locality crb, Property sst -> Property (ops.start sst locality crb).2.2
  localityRequest : forall sst locality, Property sst -> Property (ops.localityRequest sst locality).2
  localityRelinquish : forall sst locality, Property sst ->
    Property (ops.localityRelinquish sst locality).2

section

variable {ops : TpmSstOps Sst} {Property : Sst -> Prop}

theorem cleanInternalCrb_sst (machine : Machine Sst) : (cleanInternalCrb machine).sst = machine.sst := by
  rw [cleanInternalCrb]
  split <;> rfl

theorem onOk_keeps {answer : ErrorCode × Machine Sst} {change : Machine Sst -> Machine Sst}
    (same : (change answer.2).sst = answer.2.sst) (kept : Property answer.2.sst) :
    Property (onOk answer change).2.sst := by
  rw [onOk]
  split
  · exact same ▸ kept
  · exact kept

theorem runCommand_keeps (keeps : ops.Keeps Property) {machine : Machine Sst} (locality : Locality)
    (holds : Property machine.sst) : Property (runCommand ops machine locality).2.sst := by
  have idle : Property (callGoIdle ops machine locality).2.sst := keeps.goIdle _ locality holds
  have ready : Property (callCmdReady ops machine locality).2.sst := keeps.cmdReady _ locality holds
  have start : Property (callStart ops machine locality).2.sst := keeps.start _ locality _ holds
  unfold runCommand
  dsimp only
  cases machine.service.currentState with
  | idle =>
      dsimp only
      split_ifs
      · exact onOk_keeps rfl ready
      · exact holds
  | ready =>
      dsimp only
      split_ifs
      · exact onOk_keeps rfl idle
      · exact ready
      · exact onOk_keeps rfl start
      · exact holds
  | complete =>
      dsimp only
      split_ifs
      · exact onOk_keeps rfl idle
      · exact onOk_keeps rfl ready
      · exact holds
      · exact start
      · exact holds
      · exact holds

theorem concludeLocality_sst (locality : Locality) (newActive : Option Locality)
    (answer : ErrorCode × Machine Sst) :
    (concludeLocality locality newActive answer).2.sst = answer.2.sst := by
  unfold concludeLocality
  dsimp only
  split_ifs <;> rfl

theorem handleLocalityRequest_keeps (keeps : ops.Keeps Property) {machine : Machine Sst}
    (locality : Locality) (holds : Property machine.sst) :
    Property (handleLocalityRequest ops machine locality).2.sst := by
  unfold handleLocalityRequest
  dsimp only
  split_ifs
  · exact holds
  · rw [concludeLocality_sst]
    exact keeps.localityRelinquish _ locality holds
  · exact holds
  · rw [concludeLocality_sst]
    exact keeps.localityRequest _ locality holds
  · exact holds

theorem startHandler_keeps (keeps : ops.Keeps Property) {machine : Machine Sst} (request : TpmRequest)
    (holds : Property machine.sst) : Property (startHandler ops machine request).2.sst := by
  have operated : Property (startOperation ops machine request).2.sst := by
    unfold startOperation
    split
    · exact holds
    · rename_i locality _
      split_ifs
      · exact holds
      · unfold handleCommand
        dsimp only
        split_ifs
        · exact holds
        · exact runCommand_keeps keeps locality holds
      · exact holds
      · exact handleLocalityRequest_keeps keeps locality holds
      · exact holds
  rw [startHandler, cleanInternalCrb_sst]
  exact operated

/-- A request preserves what the operations of the backend preserve. -/
theorem request_keeps (keeps : ops.Keeps Property) {machine : Machine Sst} (message : MsgSendDirectReq2)
    (holds : Property machine.sst) : Property (ffaMsgSendDirectReq2 ops machine message).2.sst := by
  unfold ffaMsgSendDirectReq2 dispatch
  cases TpmFunction.ofOpcode (TpmRequest.ofMessage message).opcode with
  | none => exact holds
  | some function =>
      cases function with
      | start => exact startHandler_keeps keeps (TpmRequest.ofMessage message) holds
      | manageLocality =>
          dsimp only
          split_ifs
          · unfold manageLocalityHandler
            split
            · exact holds
            · split_ifs <;> exact holds
          · exact holds
      | getInterfaceVersion => exact holds
      | getFeatureInfo | registerForNotification | unregisterForNotification | finishNotified =>
          dsimp only
          split_ifs <;> exact holds

end

/-! ## Yielding -/

/-- `YIELD_TIMEOUT_HINT_NS`. -/
def yieldTimeoutHintNs : U64 := 0

/-- A backend, and how many times each of its operations yields. -/
structure TpmSst (Sst : Type) where
  ops : TpmSstOps Sst
  yields : Sst -> Operation -> Locality -> Nat

/-- The backend's state in the world in which it makes its calls. -/
structure Wired (Sst : Type) where
  sst : Sst
  smc : SmcWorld
  panicked : Bool

namespace Wired

/-- `Yield::new(YIELD_TIMEOUT_HINT_NS).exec().unwrap()`. -/
def yield (wired : Wired Sst) : Wired Sst :=
  let answer := (Yield.new yieldTimeoutHintNs).exec wired.smc
  { wired with smc := answer.2, panicked := !answer.1.isOk }

/-- A number of yields.  After a panic nothing more is called. -/
def wait : Nat -> Wired Sst -> Wired Sst
  | 0, wired => wired
  | count + 1, wired => if wired.panicked then wired else wait count wired.yield

end Wired

/-- The backend in its world: each operation waits, and then takes effect. -/
def TpmSst.wire (backend : TpmSst Sst) : TpmSstOps (Wired Sst) :=
  let waited := fun (wired : Wired Sst) operation locality =>
    wired.wait (backend.yields wired.sst operation locality)
  let perform := fun (wired : Wired Sst) (answer : ErrorCode × Sst) => (answer.1, { wired with sst := answer.2 })
  { goIdle := fun wired locality =>
      perform (waited wired .goIdle locality) (backend.ops.goIdle wired.sst locality)
    cmdReady := fun wired locality =>
      perform (waited wired .cmdReady locality) (backend.ops.cmdReady wired.sst locality)
    start := fun wired locality crb =>
      let (status, crb, sst) := backend.ops.start wired.sst locality crb
      (status, crb, { waited wired .start locality with sst })
    localityRequest := fun wired locality =>
      perform (waited wired .localityRequest locality) (backend.ops.localityRequest wired.sst locality)
    localityRelinquish := fun wired locality =>
      perform (waited wired .localityRelinquish locality) (backend.ops.localityRelinquish wired.sst locality)
    isIdleBypassSupported := fun wired => backend.ops.isIdleBypassSupported wired.sst
    init := fun wired => { wired with sst := backend.ops.init wired.sst } }

/-- Since the given world the backend has only yielded, and if yields succeed
it has not panicked. -/
def Calm (start : SmcWorld) (wired : Wired Sst) : Prop :=
  start.Quiet wired.smc ∧
    ((forall index, isAccepted (start.others .msgYield index) = true) -> wired.panicked = false)

theorem Calm.yield {start : SmcWorld} {wired : Wired Sst} (calm : Calm start wired) :
    Calm start wired.yield := by
  have quiet : wired.smc.Quiet wired.yield.smc :=
    execSimple_quiet (Yield.new yieldTimeoutHintNs) (fun _ => .ok ()) wired.smc rfl
  refine ⟨calm.1.trans quiet, fun succeed => ?_⟩
  have answered : ((Yield.new yieldTimeoutHintNs).exec wired.smc).1.isOk =
      isAccepted (wired.smc.answer .msgYield) := by
    rw [Yield.exec, execSimple_of_params rfl]
    exact exec_isOk (fun _ => rfl) _
  have accepted : isAccepted (wired.smc.answer .msgYield) = true := by
    rw [SmcWorld.answer, if_neg (by decide), calm.1.others]
    exact succeed _
  rw [Wired.yield, answered, accepted]
  rfl

theorem Calm.wait {start : SmcWorld} {wired : Wired Sst} (calm : Calm start wired) (count : Nat) :
    Calm start (wired.wait count) := by
  induction count generalizing wired with
  | zero => exact calm
  | succ count inductionHypothesis =>
      rw [Wired.wait]
      split
      · exact calm
      · exact inductionHypothesis calm.yield

/-- The operations of a backend in its world do nothing but yield. -/
theorem TpmSst.wire_keeps (backend : TpmSst Sst) (start : SmcWorld) : backend.wire.Keeps (Calm start) where
  goIdle := fun _ _ calm => calm.wait _
  cmdReady := fun _ _ calm => calm.wait _
  start := fun _ _ _ calm => calm.wait _
  localityRequest := fun _ _ calm => calm.wait _
  localityRelinquish := fun _ _ calm => calm.wait _

end Tpm
end SecureServices
