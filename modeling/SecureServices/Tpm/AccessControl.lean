import SecureServices.Tpm.Effects
import SecureServices.Library.Trace

namespace SecureServices
namespace Tpm

open Library Ffa

/-!
# Access control over whole traces

Every backend call that concerns a locality is permitted at the moment it is
made.  The machine records the calls together with the ownership of the
localities at that moment, so permission is a property of one call and of the
calls before it.  Which localities may be open follows from the requests and
life cycle calls of the run, not from the record.
-/

variable {Sst : Type} (ops : TpmSstOps Sst)

/-! ## Calls -/

/-- The call gives up the locality, and the backend agreed. -/
def Call.GivesUp (call : Call) (locality : Locality) : Prop :=
  call.operation = .localityRelinquish ∧ call.locality = locality ∧ call.result = .ok

/-- The call asks for the locality, and the backend agreed. -/
def Call.Obtains (call : Call) (locality : Locality) : Prop :=
  call.operation = .localityRequest ∧ call.locality = locality ∧ call.result = .ok

/-- The locality was obtained by some call, and not given up by a later one. -/
def Granted (calls : List Call) (locality : Locality) : Prop :=
  exists earlier call later, calls = earlier ++ call :: later ∧ call.Obtains locality ∧
    forall other, other ∈ later -> ¬ other.GivesUp locality

/-- What each operation needs, given the calls before it. -/
def Permitted (before : List Call) (call : Call) : Prop :=
  call.localityStates call.locality = .opened ∧
    match call.operation with
    | .goIdle | .cmdReady | .start => Granted before call.locality
    | .localityRelinquish => call.activeLocality = some call.locality
    | .localityRequest => forall owner, call.activeLocality = some owner -> owner = call.locality

/-- Every recorded call was permitted when it was made. -/
def Controlled (calls : List Call) : Prop :=
  forall before call after, calls = before ++ call :: after -> Permitted before call

theorem Controlled.snoc {calls : List Call} {call : Call} (controlled : Controlled calls)
    (permitted : Permitted calls call) : Controlled (calls ++ [call]) :=
  EachAfter.snoc controlled permitted

/-- A locality stays granted until it is given up. -/
theorem Granted.snoc {calls : List Call} {locality : Locality} (granted : Granted calls locality)
    {call : Call} (kept : ¬ call.GivesUp locality) : Granted (calls ++ [call]) locality :=
  Since.snoc granted kept

theorem Granted.of_obtains {calls : List Call} {call : Call} {locality : Locality}
    (obtains : call.Obtains locality) : Granted (calls ++ [call]) locality :=
  Since.of_marks calls obtains

/-- The calls so far were permitted, and the active locality is granted. -/
structure Accounted (machine : Machine Sst) : Prop where
  controlled : Controlled machine.calls
  owned : forall locality, machine.service.activeLocality = some locality -> Granted machine.calls locality

/-- A step that makes no call and does not change the owner. -/
theorem Accounted.quiet {machine after : Machine Sst} (accounted : Accounted machine)
    (active : after.service.activeLocality = machine.service.activeLocality)
    (calls : after.calls = machine.calls) : Accounted after := by
  constructor
  · rw [calls]
    exact accounted.controlled
  · intro locality now
    rw [calls]
    exact accounted.owned locality (active.symm.trans now)

/-- A step that ends with no owner. -/
theorem Accounted.released {machine after : Machine Sst} (accounted : Accounted machine)
    (active : after.service.activeLocality = none) (calls : after.calls = machine.calls) :
    Accounted after := by
  refine ⟨calls ▸ accounted.controlled, fun locality now => ?_⟩
  rw [active] at now
  cases now

theorem step_accounted {machine : Machine Sst} {input : Input} (accounted : Accounted machine) :
    Accounted (step ops machine input) := by
  cases input with
  | hostWrite crbs => exact accounted.quiet rfl rfl
  | init => exact accounted.released (init_spec ops machine).1 (init_spec ops machine).2.2.2
  | deinit => exact accounted.released (deinit_spec machine).1 (deinit_spec machine).2.2.2
  | request message =>
      cases request_effect ops machine message with
      | quiet active _ _ calls => exact accounted.quiet active calls
      | manage _ _ _ active _ _ calls => exact accounted.quiet active calls
      | command operation locality result kind isOpen owned active _ calls =>
          have granted := accounted.owned locality owned
          constructor
          · rw [calls]
            refine accounted.controlled.snoc ⟨isOpen, ?_⟩
            rcases kind with rfl | rfl | rfl <;> exact granted
          · intro owner now
            rw [calls]
            refine (accounted.owned owner (active.symm.trans now)).snoc (fun givesUp => ?_)
            have impossible := givesUp.1
            rcases kind with rfl | rfl | rfl <;> cases impossible
      | relinquish locality result _ _ _ isOpen owned active _ _ calls =>
          constructor
          · rw [calls]
            exact accounted.controlled.snoc ⟨isOpen, owned⟩
          · intro owner now
            by_cases success : result = .ok
            · rw [active, if_pos success] at now
              cases now
            · rw [active, if_neg success] at now
              rw [calls]
              exact (accounted.owned owner now).snoc (fun givesUp => success givesUp.2.2)
      | request locality result isOpen free active _ _ _ calls =>
          constructor
          · rw [calls]
            refine accounted.controlled.snoc ⟨isOpen, fun owner before => ?_⟩
            rcases free with none | own
            · exact nomatch none.symm.trans before
            · exact Option.some.inj (before.symm.trans own)
          · intro owner now
            rw [calls]
            by_cases success : result = .ok
            · rw [active, if_pos success] at now
              cases now
              exact Granted.of_obtains ⟨rfl, rfl, success⟩
            · rw [active, if_neg success] at now
              exact (accounted.owned owner now).snoc (fun givesUp => nomatch givesUp.1)

/-! ## Open localities -/

/-- The input closes the locality, or starts the service afresh. -/
def Closes (locality : Locality) : Input -> Prop
  | .request message => Manages message locality .closed
  | .hostWrite _ => False
  | .init | .deinit => True

/-- A request from a secure endpoint opened the locality, and no later input
closed it again. -/
def OpenedBySecure (inputs : List Input) (locality : Locality) : Prop :=
  exists earlier message later, inputs = earlier ++ .request message :: later ∧
    Manages message locality .opened ∧ 0xFF00 ≤ message.sourceId.toNat ∧
    forall input, input ∈ later -> ¬ Closes locality input

theorem OpenedBySecure.snoc {inputs : List Input} {locality : Locality}
    (opened : OpenedBySecure inputs locality) {input : Input} (kept : ¬ Closes locality input) :
    OpenedBySecure (inputs ++ [input]) locality := by
  rcases opened with ⟨earlier, message, later, rfl, manages, secure, notClosed⟩
  refine ⟨earlier, message, later ++ [input], by simp, manages, secure, fun other member => ?_⟩
  rcases List.mem_append.mp member with before | last
  · exact notClosed other before
  · rw [List.mem_singleton.mp last]
    exact kept

/-- The source check admits only the upper range of endpoint ids. -/
theorem secure_of_mayManageLocality {sourceId : U16} (allowed : mayManageLocality sourceId = true) :
    0xFF00 ≤ sourceId.toNat := by
  have masked : sourceId &&& 0xFF00 = 0xFF00 := beq_iff_eq.mp allowed
  calc 0xFF00 = (sourceId &&& 0xFF00).toNat := by rw [masked]; rfl
    _ = sourceId.toNat &&& (0xFF00 : U16).toNat := BitVec.toNat_and ..
    _ ≤ sourceId.toNat := Nat.and_le_left

/-- Localities beyond the first two are open only because they were opened. -/
def OpenAccounted (inputs : List Input) (machine : Machine Sst) : Prop :=
  forall locality, 2 ≤ locality.val -> machine.service.localityStates locality = .opened ->
    OpenedBySecure inputs locality

theorem step_openAccounted {inputs : List Input} {machine : Machine Sst} {input : Input}
    (accounted : OpenAccounted inputs machine) :
    OpenAccounted (inputs ++ [input]) (step ops machine input) := by
  intro locality high isOpen
  cases input with
  | hostWrite crbs => exact (accounted locality high isOpen).snoc not_false
  | init =>
      rw [step, (init_spec ops machine).2.2.1 locality high] at isOpen
      cases isOpen
  | deinit =>
      rw [step, (deinit_spec machine).2.2.1 locality] at isOpen
      cases isOpen
  | request message =>
      by_cases closes : Manages message locality .closed
      · rw [step_manages ops closes] at isOpen
        simp [Machine.setLocality] at isOpen
      · have keeps : machine.service.localityStates locality = .opened ->
            OpenedBySecure (inputs ++ [.request message]) locality :=
          fun before => (accounted locality high before).snoc closes
        cases request_effect ops machine message with
        | quiet _ states _ _ => exact keeps (states ▸ isOpen)
        | command _ _ _ _ _ _ _ states _ => exact keeps (states ▸ isOpen)
        | relinquish _ _ _ _ _ _ _ _ states _ _ => exact keeps (states ▸ isOpen)
        | request _ _ _ _ _ states _ _ _ => exact keeps (states ▸ isOpen)
        | manage managed state manages _ states _ _ =>
            rw [states] at isOpen
            by_cases same : locality = managed
            · subst same
              rw [Function.update_self] at isOpen
              subst isOpen
              exact ⟨inputs, message, [], rfl, manages, secure_of_mayManageLocality manages.2.1,
                fun _ member => absurd member List.not_mem_nil⟩
            · rw [Function.update_of_ne same] at isOpen
              exact keeps isOpen

/-- In every run, every backend call was permitted when it was made, and a
locality beyond the first two is open only if a secure endpoint opened it since
the service was last started or the locality was last closed. -/
theorem access_controlled (sst : Sst) (address : U64) (crbs : Locality -> PtpCrbRegisters)
    (inputs : List Input) :
    Controlled (inputs.foldl (step ops) (boot ops sst address crbs)).calls ∧
      OpenAccounted inputs (inputs.foldl (step ops) (boot ops sst address crbs)) := by
  have bootCalls : (boot ops sst address crbs).calls = [] := (init_spec ops _).2.2.2
  have bootActive : (boot ops sst address crbs).service.activeLocality = none := (init_spec ops _).1
  have booted : Accounted (boot ops sst address crbs) := by
    refine ⟨?_, fun locality now => nomatch bootActive.symm.trans now⟩
    rw [bootCalls]
    exact EachAfter.nil
  have accounted : Accounted (inputs.foldl (step ops) (boot ops sst address crbs)) :=
    foldl_history (fun _ => Accounted) booted (fun _ _ _ before => step_accounted ops before) inputs
  refine ⟨accounted.controlled, foldl_history OpenAccounted ?_ (fun _ _ _ => step_openAccounted ops) inputs⟩
  intro locality high isOpen
  rw [boot, (init_spec ops _).2.2.1 locality high] at isOpen
  cases isOpen

end Tpm
end SecureServices
