import SecureServices.Tpm.Effects

namespace SecureServices
namespace Tpm

open Library Ffa

/-!
# Ownership of a locality

Two state machines meet in the service: which locality is active, and how far
its command has got.  Neither is reset with the other.  A locality can be
given up in the middle of a command, and the next owner then finds the
command machine where the last one left it.  And a locality can be closed
while it is active, so that its owner is locked out without having lost it.

Both are properties of runs.  The first holds in every run in which a
locality is only given up while the command machine is idle.  The second
holds in exactly those runs in which the active locality is never closed.
-/

variable {Sst : Type} (ops : TpmSstOps Sst)

/-! ## A granted locality starts from idle -/

/-- When a step makes a locality active that was not, the command machine is
idle after it, and the status register of the locality says so. -/
def GrantsIdle (machine : Machine Sst) (input : Input) : Prop :=
  forall locality, (step ops machine input).service.activeLocality = some locality ->
    machine.service.activeLocality ≠ some locality ->
    (step ops machine input).service.currentState = .idle ∧
      ((step ops machine input).crbs locality).crbControlStatus = ptpCrbControlAreaStatusTpmIdle

/-- The active locality is not given up in the middle of a command: when the
host asks for that and the backend agrees, the command machine is idle. -/
def RelinquishesIdle (machine : Machine Sst) : Input -> Prop
  | .request message => forall locality,
      Starts message tpm2FfaStartFuncQualifierLocality locality ->
      machine.service.localityStates locality = .opened ->
      machine.service.activeLocality = some locality ->
      hasBits (machine.crbs locality).localityControl ptpCrbLocalityControlRelinquish = true ->
      (ops.localityRelinquish machine.sst locality).1 = .ok -> machine.service.currentState = .idle
  | .hostWrite _ | .init | .deinit => True

/-- While no locality is active the command machine is idle. -/
def IdleUnowned (machine : Machine Sst) : Prop :=
  machine.service.activeLocality = none -> machine.service.currentState = .idle

theorem step_idleUnowned {machine : Machine Sst} {input : Input} (unowned : IdleUnowned machine)
    (allowed : RelinquishesIdle ops machine input) : IdleUnowned (step ops machine input) := by
  cases input with
  | hostWrite crbs => exact unowned
  | init => exact fun _ => (init_spec ops machine).2.1
  | deinit => exact fun _ => (deinit_spec machine).2.1
  | request message =>
      intro free
      cases request_effect ops machine message with
      | quiet active _ current _ =>
          rw [current]
          exact unowned (active.symm.trans free)
      | command _ _ _ _ _ owned active _ _ =>
          rw [active, owned] at free
          cases free
      | relinquish locality result asked control answered isOpen owned active _ current _ =>
          rw [current]
          by_cases success : result = .ok
          · exact allowed locality asked isOpen owned control (answered ▸ success)
          · rw [active, if_neg success, owned] at free
            cases free
      | request locality result _ _ active _ current _ _ =>
          by_cases success : result = .ok
          · rw [active, if_pos success] at free
            cases free
          · rw [active, if_neg success] at free
            rw [current]
            exact unowned free
      | manage _ _ _ active _ current _ =>
          rw [current]
          exact unowned (active.symm.trans free)

theorem step_grantsIdle {machine : Machine Sst} {input : Input} (unowned : IdleUnowned machine) :
    GrantsIdle ops machine input := by
  intro locality now before
  cases input with
  | hostWrite crbs => exact absurd now before
  | init =>
      rw [step, (init_spec ops machine).1] at now
      cases now
  | deinit =>
      rw [step, (deinit_spec machine).1] at now
      cases now
  | request message =>
      cases request_effect ops machine message with
      | quiet active _ _ _ => exact absurd (active.symm.trans now) before
      | command _ _ _ _ _ _ active _ _ => exact absurd (active.symm.trans now) before
      | relinquish _ result _ _ _ _ _ active _ _ _ =>
          by_cases success : result = .ok
          · rw [active, if_pos success] at now
            cases now
          · rw [active, if_neg success] at now
            exact absurd now before
      | request owner result _ free active _ current status _ =>
          by_cases success : result = .ok
          · rw [active, if_pos success] at now
            cases now
            have idle := unowned (free.resolve_right before)
            refine ⟨current.trans idle, ?_⟩
            rw [status success, if_pos idle]
          · rw [active, if_neg success] at now
            exact absurd now before
      | manage _ _ _ active _ _ _ => exact absurd (active.symm.trans now) before

theorem boot_idleUnowned (sst : Sst) (address : U64) (crbs : Locality -> PtpCrbRegisters) :
    IdleUnowned (boot ops sst address crbs) := fun _ => (init_spec ops _).2.1

/-- In every run in which no locality is given up in the middle of a command,
every newly granted locality starts from idle. -/
theorem grants_idle_along (sst : Sst) (address : U64) (crbs : Locality -> PtpCrbRegisters)
    (inputs : List Input)
    (allowed : Along (total (step ops)) (RelinquishesIdle ops) (boot ops sst address crbs) inputs) :
    Along (total (step ops)) (GrantsIdle ops) (boot ops sst address crbs) inputs := by
  refine Along.of_invariant IdleUnowned ?_ ?_ (boot_idleUnowned ops sst address crbs) allowed
  · intro machine input next unowned safe stepped
    cases stepped
    exact step_idleUnowned ops unowned safe
  · intro machine input unowned _
    exact step_grantsIdle ops unowned

instance (machine : Machine Sst) (input : Input) : Decidable (RelinquishesIdle ops machine input) :=
  match input with
  | .request _ => inferInstanceAs (Decidable (forall _locality : Locality, _ -> _))
  | .hostWrite _ | .init | .deinit => isTrue trivial

/-- Locality 0 is taken, given up while idle, and locality 1 is taken. -/
def idleHandover : List Input :=
  [writeControl 1, .request (compose 1 .start 1 0), writeControl 2, .request (compose 1 .start 1 0),
    writeControl 1, .request (compose 1 .start 1 1)]

theorem idleHandover_grants_idle :
    (idleHandover.foldl (step agreeable) (boot agreeable () 0 (fun _ => .zero))).service.activeLocality =
        some 1 ∧
      Along (total (step agreeable)) (GrantsIdle agreeable) (boot agreeable () 0 (fun _ => .zero))
        idleHandover :=
  ⟨by decide +kernel, grants_idle_along agreeable () 0 (fun _ => .zero) idleHandover (by decide +kernel)⟩

/-- Locality 0 is taken, made ready for a command and given up, and locality 1
is about to be taken. -/
def readyHandover : List Input :=
  [writeControl 1, .request (compose 1 .start 1 0), writeRequest 1, .request (compose 1 .start 0 0),
    writeControl 2, .request (compose 1 .start 1 0), writeControl 1]

/-- A locality that is taken after another one was given up in the middle of a
command inherits the state of that command. -/
theorem not_always_grants_idle :
    ¬ forall (Sst : Type) (ops : TpmSstOps Sst) sst address crbs inputs,
      Along (total (step ops)) (GrantsIdle ops) (boot ops sst address crbs) inputs := by
  intro always
  have grants := along_iff_forall_step.mp
    (always Unit agreeable () 0 (fun _ => .zero) (readyHandover ++ [.request (compose 1 .start 1 1)]))
    readyHandover (.request (compose 1 .start 1 1)) []
    (readyHandover.foldl (step agreeable) (boot agreeable () 0 (fun _ => .zero))) rfl rfl
  have idle := (grants 1 (by decide +kernel) (by decide +kernel)).1
  exact absurd idle (by decide +kernel)

/-! ## The active locality is open -/

/-- The active locality, if there is one, is open. -/
def ActiveOpen (machine : Machine Sst) : Prop :=
  forall locality, machine.service.activeLocality = some locality ->
    machine.service.localityStates locality = .opened

/-- The step closes the active locality. -/
def ClosesActive (machine : Machine Sst) : Input -> Prop
  | .request message => exists locality,
      Manages message locality .closed ∧ machine.service.activeLocality = some locality
  | .hostWrite _ | .init | .deinit => False

theorem not_activeOpen_of_closesActive {machine : Machine Sst} {input : Input}
    (closes : ClosesActive machine input) : ¬ ActiveOpen (step ops machine input) := by
  intro isOpen
  cases input with
  | hostWrite crbs => exact closes
  | init => exact closes
  | deinit => exact closes
  | request message =>
      rcases closes with ⟨locality, manages, owned⟩
      rw [step_manages ops manages] at isOpen
      have opened := isOpen locality owned
      simp [Machine.setLocality] at opened

theorem step_activeOpen {machine : Machine Sst} {input : Input} (isOpen : ActiveOpen machine)
    (allowed : ¬ ClosesActive machine input) : ActiveOpen (step ops machine input) := by
  cases input with
  | hostWrite crbs => exact isOpen
  | init => exact fun locality now => nomatch (init_spec ops machine).1.symm.trans now
  | deinit => exact fun locality now => nomatch (deinit_spec machine).1.symm.trans now
  | request message =>
      intro locality now
      cases request_effect ops machine message with
      | quiet active states _ _ =>
          rw [states]
          exact isOpen locality (active.symm.trans now)
      | command _ _ _ _ _ _ active states _ =>
          rw [states]
          exact isOpen locality (active.symm.trans now)
      | relinquish _ result _ _ _ _ _ active states _ _ =>
          by_cases success : result = .ok
          · rw [active, if_pos success] at now
            cases now
          · rw [active, if_neg success] at now
            rw [states]
            exact isOpen locality now
      | request owner result ownerOpen _ active states _ _ _ =>
          rw [states]
          by_cases success : result = .ok
          · rw [active, if_pos success] at now
            cases now
            exact ownerOpen
          · rw [active, if_neg success] at now
            exact isOpen locality now
      | manage managed state manages active states _ _ =>
          rw [active] at now
          rw [states]
          by_cases same : locality = managed
          · subst same
            rw [Function.update_self]
            cases state with
            | opened => rfl
            | closed => exact absurd ⟨locality, manages, now⟩ allowed
          · rw [Function.update_of_ne same]
            exact isOpen locality now

/-- The active locality is open in every state of a run exactly when no step
of the run closes the locality that is active then. -/
theorem always_activeOpen_iff (sst : Sst) (address : U64) (crbs : Locality -> PtpCrbRegisters)
    (inputs : List Input) :
    Always (step ops) ActiveOpen (boot ops sst address crbs) inputs <->
      Along (total (step ops)) (fun machine input => ¬ ClosesActive machine input)
        (boot ops sst address crbs) inputs := by
  refine always_iff_along (fun machine input isOpen => ⟨fun after closes => ?_, fun allowed => ?_⟩)
    (fun locality now => ?_) inputs
  · exact not_activeOpen_of_closesActive ops closes after
  · exact step_activeOpen ops isOpen allowed
  · exact nomatch (init_spec ops _).1.symm.trans now

/-- Locality 0 is taken and then closed. -/
def closedOwner : List Input :=
  [writeControl 1, .request (compose 1 .start 1 0), .request (compose 0xFF00 .manageLocality 1 0)]

/-- The active locality can be closed, and stays active. -/
theorem not_always_activeOpen :
    ¬ forall (Sst : Type) (ops : TpmSstOps Sst) sst address crbs inputs,
      Always (step ops) ActiveOpen (boot ops sst address crbs) inputs := by
  intro always
  have isOpen := always Unit agreeable () 0 (fun _ => .zero) closedOwner closedOwner []
    (List.append_nil _).symm 0 (by decide +kernel)
  exact absurd isOpen (by decide +kernel)

end Tpm
end SecureServices
