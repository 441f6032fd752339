import SecureServices.Tpm.Interfaces
import SecureServices.Tpm.Confinement

namespace SecureServices
namespace Tpm

open Library Ffa

/-!
# The library as the backend of the service

The service calls its backend through `TpmSstOps` and knows nothing else about
it.  Here the state translation library becomes such a backend.  While the
service waits for `start` the host may write; between two requests its writes
are part of the run of the service, so that `start` is taken with a host that
waits.

Of a backend the service needs that `start` writes data buffers only, and only
when it reports success.  The library does this with every TPM.
-/

variable {Device : Type}

/-- `struct TpmSst` with the TPM that it drives.  After a refused yield there
is no service any more. -/
structure Driver (Device : Type) where
  isCrbInterface : Bool
  isIdleBypassSupported : Bool
  device : Device
  panicked : Bool

namespace Driver

variable (tpm : ExternalTpm Device)

/-- Run a routine on the registers of a locality.  A routine that ends in a
fault does not return a code; the one here is not read by anyone. -/
def run (driver : Driver Device) (crb : PtpCrbRegisters) (routine : Routine Device ErrorCode) :
    ErrorCode × PtpCrbRegisters × Driver Device :=
  match routine (.initial crb driver.device) with
  | (.ok code, after) => (code, after.crb, { driver with device := after.device })
  | (.error _, after) => (.aborted, after.crb, { driver with device := after.device, panicked := true })

/-- A request that does not concern the internal registers. -/
def request (driver : Driver Device) (routine : Routine Device ErrorCode) : ErrorCode × Driver Device :=
  let (code, _, after) := driver.run .zero routine
  (code, after)

/-- `init`, which reads the interface identifier of the first locality. -/
def init (driver : Driver Device) : Driver Device :=
  let (interfaceId, device) := tpm.read driver.device 0 .interfaceId
  { driver with
    isCrbInterface := interfaceId &&& interfaceTypeMask == 1
    isIdleBypassSupported := interfaceId &&& idleBypassMask != 0
    device }

/-- `impl TpmSstOps for TpmSst`. -/
def ops : TpmSstOps (Driver Device) where
  goIdle := fun driver locality => driver.request (goIdle tpm locality driver.isCrbInterface)
  cmdReady := fun driver locality => driver.request (cmdReady tpm locality driver.isCrbInterface)
  start := fun driver locality crb => driver.run crb (start .quiet tpm locality driver.isCrbInterface)
  localityRequest := fun driver locality => driver.request (localityRequest tpm locality driver.isCrbInterface)
  localityRelinquish := fun driver locality =>
    driver.request (localityRelinquish tpm locality driver.isCrbInterface)
  isIdleBypassSupported := fun driver => driver.isIdleBypassSupported
  init := init tpm

/-- Whatever the TPM does, `start` writes to the data buffer only, and only
when it returns a success. -/
theorem start_writes (locality : Locality) (isCrbInterface : Bool) (crb : PtpCrbRegisters) (device : Device) :
    (start .quiet tpm locality isCrbInterface).Ensures
      (fun code after => after.crb.SameRegisters crb ∧ (code ≠ .ok -> after.crb = crb))
      (fun _ after => after.crb = crb) (.initial crb device) := by
  have ready : Conduct.arbitrary.Ready 0 device := trivial
  have copies : forall response : List U8, CopiesOn .quiet response (fun _ after => after.SameRegisters crb) := by
    intro response turn after index inside fits same
    have rewritten : PtpCrbRegisters.SameRegisters
        { after with
          crbDataBuffer := Function.update after.crbDataBuffer ⟨index, fits⟩ response[index] } after := rfl
    exact rewritten.trans same
  have initially : (contents .quiet crb (lengthRead .quiet crb + 2)).SameRegisters crb := by
    rw [contents_quiet]
    exact .refl crb
  apply (start_ensures_conduct .quiet crb
    (fun _ => Conduct.arbitrary_kept tpm locality (commandRead .quiet crb) isCrbInterface) ready
    (fun _ _ after => after.SameRegisters crb) copies (fun _ => initially)).mono
  · rintro code after (⟨_, _, count, rfl⟩ | ⟨_, success, responded⟩ | ⟨_, _, _, ended⟩)
    · have same : (reading .quiet crb device count).crb = crb := contents_quiet crb _
      rw [same]
      exact ⟨.refl crb, fun _ => rfl⟩
    · rcases responded with ⟨_, _, _, _, _, stored, _⟩
      exact ⟨stored, fun failure => absurd success failure⟩
    · rw [ended.crb, contents_quiet]
      exact ⟨.refl crb, fun _ => rfl⟩
  · rintro _ after ⟨_, rfl, _, _, _, ended⟩
    rw [ended.crb, contents_quiet]

/-- The library is a backend on which the service can rely. -/
theorem ops_responds : (ops tpm).Responds := by
  have started : forall driver locality crb, ((ops tpm).start driver locality crb).2.1.SameRegisters crb ∧
      (((ops tpm).start driver locality crb).1 ≠ .ok -> ((ops tpm).start driver locality crb).2.1 = crb) := by
    intro driver locality crb
    have writes := start_writes tpm locality driver.isCrbInterface crb driver.device
    change (driver.run crb _).2.1.SameRegisters crb ∧
      ((driver.run crb _).1 ≠ .ok -> (driver.run crb _).2.1 = crb)
    unfold run
    rcases Action.outcome_cases (start .quiet tpm locality driver.isCrbInterface) (.initial crb driver.device)
      with ⟨code, after, outcome⟩ | ⟨reason, after, outcome⟩
    · rw [outcome]
      exact writes.1 code after outcome
    · have same := writes.2 reason after outcome
      rw [outcome]
      dsimp only
      rw [same]
      exact ⟨.refl crb, fun _ => rfl⟩
  constructor
  · exact fun driver locality crb => (started driver locality crb).1
  · intro driver locality crb failure
    exact congrArg PtpCrbRegisters.crbDataBuffer ((started driver locality crb).2 failure)

end Driver

end Tpm
end SecureServices
