import SecureServices.Tpm.Plan
import SecureServices.Library.Trace

namespace SecureServices
namespace Tpm

open Library Ffa

/-!
# The order of backend calls

The command machine of the service has three states and no memory.  The law
that a command register interface follows is about the past: a command is
started only after the TPM was made ready, and not after it was sent back to
idle; and unless idle can be skipped, every command is given a round of its own.

The invariant says for each state what the record of calls must contain.  It
does not mention localities, because the command machine does not either.
-/

variable {Sst : Type} (ops : TpmSstOps Sst)

/-- The call made the operation, and the backend agreed. -/
def Call.Completes (operation : Operation) (call : Call) : Prop :=
  call.operation = operation ∧ call.result = .ok

/-- The TPM was made ready, and has not gone idle since. -/
def MadeReady (calls : List Call) : Prop :=
  Since (Call.Completes .cmdReady) (Call.Completes .goIdle) calls

/-- The TPM went idle and was then made ready. -/
def WentRound (calls : List Call) : Prop :=
  Followed (Call.Completes .goIdle) (Call.Completes .cmdReady) calls

/-- A start finds the TPM ready. -/
def StartsReady (before : List Call) (call : Call) : Prop :=
  call.operation = .start -> MadeReady before

/-- A completed start finds that the TPM went round. -/
def StartsRound (before : List Call) (call : Call) : Prop :=
  call.Completes .start -> WentRound before

/-- What has happened since a completed start, by the state reached. -/
def TpmState.Reached (state : TpmState) (calls : List Call) : Prop :=
  match state with
  | .idle => exists call, call ∈ calls ∧ call.Completes .goIdle
  | .ready => WentRound calls
  | .complete => True

/-- Every start found the TPM ready, and unless the command machine is idle
the TPM is ready now. -/
structure Prepared (machine : Machine Sst) : Prop where
  starts : EachAfter StartsReady machine.calls
  ready : machine.service.currentState ≠ .idle -> MadeReady machine.calls

/-- Since every completed start, each further completed start was preceded by
a round, and the TPM has gone as far as the command machine says. -/
def Spaced (machine : Machine Sst) : Prop :=
  SinceEach (Call.Completes .start)
    (fun later => EachAfter StartsRound later ∧ machine.service.currentState.Reached later) machine.calls

/-! ## Steps -/

theorem TpmState.Reached.snoc {state : TpmState} {calls : List Call} (reached : state.Reached calls)
    (last : Call) : state.Reached (calls ++ [last]) := by
  cases state with
  | idle =>
      rcases reached with ⟨call, member, completes⟩
      exact ⟨call, List.mem_append_left [last] member, completes⟩
  | ready => exact Followed.snoc reached last
  | complete => trivial

section

variable {ops} {machine : Machine Sst} {operation : Operation} {locality : Locality} {result : ErrorCode}

/-- A start is made only after the command machine has left idle. -/
theorem not_idle_of_start {bypass : Bool}
    (sound : (Plan.call .start locality).Sound machine.service bypass) :
    machine.service.currentState ≠ .idle := by
  intro idle
  have allowed := sound.2
  rw [idle] at allowed
  exact allowed

theorem not_completes {other : Operation} (different : operation ≠ other) :
    ¬ (machine.call operation locality result).Completes other := by
  intro completes
  exact different completes.1

theorem Prepared.attempt (prepared : Prepared machine) {bypass : Bool}
    (sound : (Plan.call operation locality).Sound machine.service bypass) :
    Prepared (attempt ops machine operation locality).2 := by
  constructor
  · rw [attempt_calls]
    apply prepared.starts.snoc
    intro starts
    cases starts
    exact prepared.ready (not_idle_of_start sound)
  · rw [attempt_calls, attempt_service]
    intro moved
    by_cases success : (Tpm.attempt ops machine operation locality).1 = .ok
    · rw [if_pos success] at moved
      cases operation with
      | goIdle => exact absurd rfl moved
      | cmdReady => exact Since.of_marks machine.calls ⟨rfl, success⟩
      | start => exact (prepared.ready (not_idle_of_start sound)).snoc (not_completes (by decide))
      | localityRequest => exact (prepared.ready moved).snoc (not_completes (by decide))
      | localityRelinquish => exact (prepared.ready moved).snoc (not_completes (by decide))
    · rw [if_neg success] at moved
      exact (prepared.ready moved).snoc (fun completes => success completes.2)

/-- Without the bypass, a completed start finds that the TPM went round. -/
theorem startsRound_of_reached {later : List Call}
    (sound : (Plan.call operation locality).Sound machine.service false)
    (reached : machine.service.currentState.Reached later) :
    StartsRound later (machine.call operation locality result) := by
  intro completes
  cases completes.1
  have allowed := sound.2
  cases state : machine.service.currentState with
  | idle =>
      rw [state] at allowed
      exact absurd allowed not_false
  | ready =>
      rw [state] at reached
      exact reached
  | complete =>
      rw [state] at allowed
      exact absurd allowed Bool.false_ne_true

/-- Without the bypass, the command machine gets ready from idle. -/
theorem reached_ready {later : List Call} {last : Call}
    (sound : (Plan.call .cmdReady locality).Sound machine.service false)
    (reached : machine.service.currentState.Reached later) (completes : last.Completes .cmdReady) :
    WentRound (later ++ [last]) := by
  have allowed := sound.2
  cases state : machine.service.currentState with
  | idle =>
      rw [state] at reached
      rcases reached with ⟨call, member, idled⟩
      exact Followed.of_second member idled completes
  | ready =>
      rw [state] at reached
      exact Followed.snoc reached last
  | complete =>
      rw [state] at allowed
      exact absurd allowed Bool.false_ne_true

theorem Spaced.attempt (spaced : Spaced machine)
    (sound : (Plan.call operation locality).Sound machine.service false) :
    Spaced (attempt ops machine operation locality).2 := by
  unfold Spaced
  rw [attempt_calls, attempt_service]
  refine SinceEach.snoc spaced ?_ ?_
  · rintro later ⟨each, reached⟩
    refine ⟨each.snoc (startsRound_of_reached sound reached), ?_⟩
    split
    next success =>
      cases operation with
      | goIdle => exact ⟨_, List.mem_append_right later (List.mem_singleton.mpr rfl), rfl, success⟩
      | cmdReady => exact reached_ready sound reached ⟨rfl, success⟩
      | start => trivial
      | localityRequest => exact reached.snoc _
      | localityRelinquish => exact reached.snoc _
    next => exact reached.snoc _
  · intro completes
    have success : (Tpm.attempt ops machine operation locality).1 = .ok := completes.2
    refine ⟨EachAfter.nil, ?_⟩
    rw [if_pos success]
    cases completes.1
    trivial

/-- What does not depend on the registers is kept by every plan that makes no
call, and by cleaning up after one that does. -/
theorem perform_keeps {Property : Machine Sst -> Prop}
    (same : forall before after : Machine Sst, after.calls = before.calls ->
      after.service.currentState = before.service.currentState -> Property before -> Property after)
    {message : MsgSendDirectReq2} (holds : Property machine)
    (attempted : forall operation locality,
      (Plan.call operation locality).Sound machine.service (ops.isIdleBypassSupported machine.sst) ->
      Property (attempt ops machine operation locality).2) :
    Property (advance ops machine (.request message)) := by
  have sound := planFor_sound ops machine message
  rw [advance_request]
  cases planned : machine.planFor ops message with
  | answer status => exact holds
  | refuse status =>
      apply same machine _ _ _ holds
      · exact cleanInternalCrb_calls machine
      · rw [perform, cleanInternalCrb_service]
  | call operation locality =>
      rw [planned] at sound
      apply same _ _ _ _ (attempted operation locality sound)
      · exact cleanInternalCrb_calls _
      · rw [perform, cleanInternalCrb_service]
  | manage locality state =>
      apply same machine _ _ _ holds <;> rfl
  | register registered =>
      apply same machine _ _ _ holds <;> rfl

end

theorem advance_prepared {machine : Machine Sst} (prepared : Prepared machine) (event : Event) :
    Prepared (advance ops machine event) := by
  cases event with
  | write bits => exact ⟨prepared.starts, prepared.ready⟩
  | request message =>
      apply perform_keeps _ prepared
      · intro operation locality sound
        exact prepared.attempt sound
      · intro before after calls state kept
        constructor
        · rw [calls]
          exact kept.starts
        · rw [calls, state]
          exact kept.ready

theorem advance_spaced {machine : Machine Sst} (spaced : Spaced machine)
    (noBypass : ops.isIdleBypassSupported machine.sst = false) (event : Event) :
    Spaced (advance ops machine event) := by
  cases event with
  | write bits => exact spaced
  | request message =>
      apply perform_keeps _ spaced
      · intro operation locality sound
        rw [noBypass] at sound
        exact spaced.attempt sound
      · intro before after calls state kept
        rw [Spaced, calls, state]
        exact kept

/-! ## Runs -/

/-- The backend does not support skipping idle, at any point of the run. -/
def NoBypass (sst : Sst) (address : U64) (crbs : Locality -> PtpCrbRegisters) (events : List Event) :
    Prop :=
  Always (advance ops) (fun machine => ops.isIdleBypassSupported machine.sst = false)
    (boot ops sst address crbs) events

/-- In every run after `init`, every start call is preceded by a call that made
the TPM ready with none that sent it idle in between; and where idle cannot be
skipped, the TPM goes idle and is made ready between any two completed starts. -/
theorem commands_disciplined (sst : Sst) (address : U64) (crbs : Locality -> PtpCrbRegisters)
    (events : List Event) :
    (forall before call after, (afterRun ops sst address crbs events).calls = before ++ call :: after ->
      call.operation = .start -> MadeReady before) ∧
    (NoBypass ops sst address crbs events ->
      forall before first middle second after,
        (afterRun ops sst address crbs events).calls = before ++ first :: (middle ++ second :: after) ->
        first.Completes .start -> second.Completes .start -> WentRound middle) := by
  have bootCalls : (boot ops sst address crbs).calls = [] := (init_spec ops _).2.2.2
  have bootState : (boot ops sst address crbs).service.currentState = .idle := (init_spec ops _).2.1
  constructor
  · have prepared : Prepared (afterRun ops sst address crbs events) := by
      apply foldl_history (fun _ => Prepared) _ (fun _ _ event before => advance_prepared ops before event)
      constructor
      · rw [bootCalls]
        exact EachAfter.nil
      · intro moved
        exact absurd bootState moved
    exact prepared.starts
  · intro noBypass before first middle second after split firstStart secondStart
    have spaced : Spaced (afterRun ops sst address crbs events) := by
      refine foldl_of_always (fun _ event kept free => advance_spaced ops kept free event) ?_ noBypass
      rw [Spaced, bootCalls]
      exact SinceEach.nil
    exact (spaced before first (middle ++ second :: after) split firstStart).1 middle second after rfl
      secondStart

end Tpm
end SecureServices
