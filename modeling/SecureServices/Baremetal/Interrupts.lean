import Mathlib.Algebra.Order.Group.Multiset
import SecureServices.Library.Words
import SecureServices.Library.Run

namespace SecureServices
namespace Baremetal

open Library

/-!
# Interrupts

`hafnium/src/lib.rs` and `aarch64-haf`: the calls that ask the hypervisor for an
interrupt, the exception vectors, and the critical sections.  A section and an
exception both put the interrupt mask aside and give it back, and they nest in
every way that the mask allows.  The machine below takes the inputs of one core
in any order, so that a run of it is any interleaving of sections, handlers and
devices.
-/

/-! ## The mask -/

/-- The register `DAIF`: which exceptions are masked. -/
structure Daif where
  d : Bool
  a : Bool
  i : Bool
  f : Bool
deriving DecidableEq, Repr

/-- `DAIF.get()`.  The bits stand in positions nine to six. -/
def Daif.get (daif : Daif) : U64 :=
  (BitVec.ofBool daif.d ++ BitVec.ofBool daif.a ++ BitVec.ofBool daif.i ++ BitVec.ofBool daif.f).setWidth 64 <<< 6

/-- `DAIF.set(..)`.  No other bit is stored. -/
def Daif.set (value : U64) : Daif where
  d := value.getLsbD 9
  a := value.getLsbD 8
  i := value.getLsbD 7
  f := value.getLsbD 6

@[simp] theorem Daif.set_get (daif : Daif) : Daif.set daif.get = daif := by
  rcases daif with ⟨_ | _, _ | _, _ | _, _ | _⟩ <;> decide

/-- `RawRestoreState`, by the feature `restore-state-u64`. -/
abbrev RawRestoreState := U64

/-- `DAIF::I::Masked + DAIF::F::Masked`, written to the register as a whole. -/
def sectionMask : Daif := Daif.set (0x80 ||| 0x40)

/-- `AArch64CriticalSection::acquire`: the old value, and the register after it. -/
def acquire (daif : Daif) : RawRestoreState × Daif := (daif.get, sectionMask)

/-- `AArch64CriticalSection::release`. -/
def release (restoreState : RawRestoreState) : Daif := Daif.set restoreState

/-- `enable_arch_interrupts`. -/
def enableArchInterrupts : Daif := Daif.set 0

/-- `disable_arch_interrupts`. -/
def disableArchInterrupts : Daif := Daif.set (0x200 ||| 0x100 ||| 0x80 ||| 0x40)

/-- A section masks the interrupts and nothing else: debug exceptions and system
errors are unmasked in it, even if they were masked outside. -/
theorem sectionMask_eq : sectionMask = { d := false, a := false, i := true, f := true } := by decide

/-! ## The hypervisor calls -/

/-- `enum HfCall`. -/
inductive HfCall where
  | mailboxWritableGet | mailboxWaiterGet | interruptEnable | interruptGet | interruptInject
  | interruptDeactivate | interruptReconfigure
deriving DecidableEq, Repr

/-- `HfCall as u64`. -/
def HfCall.code : HfCall -> U64
  | .mailboxWritableGet => 0xff01
  | .mailboxWaiterGet => 0xff02
  | .interruptEnable => 0xff03
  | .interruptGet => 0xff04
  | .interruptInject => 0xff05
  | .interruptDeactivate => 0xff08
  | .interruptReconfigure => 0xff09

/-- `struct InterruptId`. -/
structure InterruptId where
  value : U32
deriving DecidableEq, Repr

/-- `INVALID_ID`. -/
def invalidId : InterruptId := ⟨0xffffffff⟩

/-- `enum InterruptType`. -/
inductive InterruptType where
  | irq | fiq
deriving DecidableEq, Repr

/-- `InterruptType as u64`. -/
def InterruptType.code : InterruptType -> U64
  | .irq => 0
  | .fiq => 1

/-- `enum InterruptReconfigureCommand`. -/
inductive InterruptReconfigureCommand where
  | targetPe | secState | enable
deriving DecidableEq, Repr

/-- `InterruptReconfigureCommand as u64`. -/
def InterruptReconfigureCommand.code : InterruptReconfigureCommand -> U64
  | .targetPe => 0
  | .secState => 1
  | .enable => 2

/-- The other side of `hvc`: what stands in `x0` afterwards, for the four
registers before. -/
structure Hypervisor (S : Type) where
  hvc : U64 -> U64 -> U64 -> U64 -> S -> U64 × S

/-- An error is the number that the hypervisor returned, an `i64`. -/
abbrev HfResult := Except (BitVec 64) Unit

section Calls

variable {S : Type} (hypervisor : Hypervisor S)

/-- `hf_call`. -/
def hfCall (arg0 : HfCall) (arg1 arg2 arg3 : U64) (state : S) : U64 × S :=
  hypervisor.hvc arg0.code arg1 arg2 arg3 state

/-- A call that returns zero if it succeeded. -/
def hfCallUnit (arg0 : HfCall) (arg1 arg2 arg3 : U64) (state : S) : HfResult × S :=
  match hfCall hypervisor arg0 arg1 arg2 arg3 state with
  | (result, after) => (if result = 0 then .ok () else .error result, after)

/-- `hf_interrupt_set`. -/
def hfInterruptSet (intid : InterruptId) (intType : InterruptType) (enable : Bool) : S -> HfResult × S :=
  hfCallUnit hypervisor .interruptEnable (intid.value.setWidth 64) (if enable then 1 else 0) intType.code

/-- `hf_interrupt_get`.  Of the result only the low half is read. -/
def hfInterruptGet (state : S) : Option InterruptId × S :=
  match hfCall hypervisor .interruptGet 0 0 0 state with
  | (result, after) =>
      let intid : InterruptId := ⟨result.setWidth 32⟩
      (if intid = invalidId then none else some intid, after)

/-- `hf_interrupt_deactivate`.  The identifier is passed twice. -/
def hfInterruptDeactivate (intid : InterruptId) : S -> HfResult × S :=
  hfCallUnit hypervisor .interruptDeactivate (intid.value.setWidth 64) (intid.value.setWidth 64) 0

/-- `hf_interrupt_reconfigure`. -/
def hfInterruptReconfigure (intid : InterruptId) (command : InterruptReconfigureCommand) (value : U64) :
    S -> HfResult × S :=
  hfCallUnit hypervisor .interruptReconfigure (intid.value.setWidth 64) command.code value

/-! ## The vectors -/

/-- The exceptions of the vector table. -/
inductive Exception where
  | syncCurrent | irqCurrent | fiqCurrent | serrCurrent
  | syncLower | irqLower | fiqLower | serrLower
deriving DecidableEq, Repr

/-- The mask of the current level says which exceptions from that level are
taken. -/
def Exception.masked (exception : Exception) (daif : Daif) : Bool :=
  match exception with
  | .irqCurrent => daif.i
  | .fiqCurrent => daif.f
  | .serrCurrent => daif.a
  | _ => false

/-- Why a vector panics. -/
inductive VectorPanic where
  | noPendingInterrupts
  | deactivationFailed (intid : InterruptId) (result : BitVec 64)
  | unexpected (exception : Exception)
deriving DecidableEq, Repr

/-- `irq_current`, up to the call of the handler with this identifier. -/
def irqCurrent (state : S) : Except VectorPanic InterruptId × S :=
  match hfInterruptGet hypervisor state with
  | (none, after) => (.error .noPendingInterrupts, after)
  | (some interruptId, acknowledged) =>
      match hfInterruptDeactivate hypervisor interruptId acknowledged with
      | (.error result, after) => (.error (.deactivationFailed interruptId result), after)
      | (.ok (), after) => (.ok interruptId, after)

/-- The vectors: all of them but `irq_current` panic. -/
def vector : Exception -> S -> Except VectorPanic InterruptId × S
  | .irqCurrent => irqCurrent hypervisor
  | exception => fun state => (.error (.unexpected exception), state)

/-- Any other exception than an interrupt of the current level. -/
def Exception.Fatal (exception : Exception) : Prop := exception ≠ .irqCurrent

theorem vector_of_fatal {exception : Exception} (fatal : exception.Fatal) (state : S) :
    vector hypervisor exception state = (.error (.unexpected exception), state) := by
  cases exception with
  | irqCurrent => exact absurd rfl fatal
  | _ => rfl

end Calls

/-! ## One core -/

/-- What waits on the stack to be given back: the token of a section, or the
mask from before an exception. -/
inductive Frame where
  | critical (saved : RawRestoreState)
  | exception (spsr : Daif)
deriving DecidableEq, Repr

/-- The core: its mask, its stack, the hypervisor, and the identifiers for which
the handler was called. -/
structure Core (S : Type) where
  daif : Daif
  frames : List Frame
  hypervisor : S
  handled : List InterruptId

/-- The interrupts that a device may raise.  The identifier that stands for none
is not among them. -/
abbrev Line := { intid : InterruptId // intid ≠ invalidId }

/-- What may happen next. -/
inductive Input where
  | raise (line : Line)
  | exception (kind : Exception)
  | eret
  | acquire
  | release
  | enable
  | disable
deriving DecidableEq, Repr

variable {S : Type}

/-- Entry to an exception masks everything.  An input that cannot happen here
changes nothing: a masked exception is not taken, and only what stands on top of
the stack is given back. -/
def step (hypervisor : Hypervisor S) (raise : Line -> S -> S) (core : Core S) : Input -> Option (Core S)
  | .raise line => some { core with hypervisor := raise line core.hypervisor }
  | .exception kind =>
      if kind.masked core.daif then some core
      else
        match vector hypervisor kind core.hypervisor with
        | (.error _, _) => none
        | (.ok intid, after) => some {
            daif := { d := true, a := true, i := true, f := true }
            frames := .exception core.daif :: core.frames
            hypervisor := after
            handled := core.handled ++ [intid] }
  | .eret =>
      match core.frames with
      | .exception spsr :: frames => some { core with daif := spsr, frames }
      | _ => some core
  | .acquire =>
      let (restoreState, daif) := acquire core.daif
      some { core with daif, frames := .critical restoreState :: core.frames }
  | .release =>
      match core.frames with
      | .critical saved :: frames => some { core with daif := release saved, frames }
      | _ => some core
  | .enable => some { core with daif := enableArchInterrupts }
  | .disable => some { core with daif := disableArchInterrupts }

/-- A hypervisor that keeps its pending and its acknowledged interrupts in lists,
and answers anything else with an error. -/
def queue : Hypervisor (List Line × List Line) where
  hvc x0 x1 x2 _x3 state :=
    match x0, state with
    | 0xff04, (line :: pending, active) => (line.val.value.setWidth 64, pending, line :: active)
    | 0xff08, (pending, active) =>
        if valid : (⟨x1.setWidth 32⟩ : InterruptId) ≠ invalidId then
          if x1 = x2 ∧ ⟨_, valid⟩ ∈ active then (0, pending, active.erase ⟨_, valid⟩) else (-1, state)
        else (-1, state)
    | _, state => (-1, state)

def queueRaise (line : Line) (state : List Line × List Line) : List Line × List Line :=
  (state.1 ++ [line], state.2)

variable {hypervisor : Hypervisor S} {raise : Line -> S -> S} {core next : Core S} {input : Input}

/-! ## Sections -/

/-- A section is open, here or in what an exception interrupted. -/
def Core.SectionOpen (core : Core S) : Prop := exists saved, .critical saved ∈ core.frames

/-- The mask of a section is that of sections, and no exception interrupted one. -/
def Nested (daif : Daif) : List Frame -> Prop
  | [] => True
  | .critical saved :: frames => daif = sectionMask ∧ Nested (release saved) frames
  | .exception spsr :: frames => spsr.i = false ∧ Nested spsr frames

/-- Interrupts are switched on and off outside of sections only. -/
def Input.Polite (core : Core S) : Input -> Prop
  | .enable | .disable => ¬ core.SectionOpen
  | _ => True

/-- In a nested stack with an open section, the section is what runs. -/
theorem Nested.masked_of_section {daif : Daif} {frames : List Frame} (nested : Nested daif frames)
    {saved : RawRestoreState} (isOpen : Frame.critical saved ∈ frames) : daif = sectionMask := by
  induction frames generalizing daif with
  | nil => cases isOpen
  | cons frame frames inductionHypothesis =>
      cases frame with
      | critical token => exact nested.1
      | exception spsr =>
          have below : Frame.critical saved ∈ frames := by
            rcases List.mem_cons.mp isOpen with same | below
            · cases same
            · exact below
          have unmasked := nested.1
          rw [inductionHypothesis nested.2 below] at unmasked
          exact absurd unmasked (by decide)

/-- Without a section on top, the mask may be anything. -/
theorem Nested.of_not_sectionOpen {daif other : Daif} {frames : List Frame} (nested : Nested daif frames)
    (closed : ¬ exists saved, Frame.critical saved ∈ frames) : Nested other frames := by
  cases frames with
  | nil => trivial
  | cons frame frames =>
      cases frame with
      | critical saved => exact absurd ⟨saved, List.mem_cons_self⟩ closed
      | exception spsr => exact nested

/-- Every way in which an exception is taken and does not panic. -/
theorem step_exception {kind : Exception} (stepped : step hypervisor raise core (.exception kind) = some next) :
    next = core ∨ core.daif.i = false ∧ exists intid after,
      irqCurrent hypervisor core.hypervisor = (.ok intid, after) ∧
      next = {
        daif := { d := true, a := true, i := true, f := true }
        frames := .exception core.daif :: core.frames
        hypervisor := after
        handled := core.handled ++ [intid] } := by
  rw [step] at stepped
  split at stepped
  next => exact Or.inl (Option.some.inj stepped).symm
  next unmasked =>
    right
    by_cases fatal : kind.Fatal
    · rw [vector_of_fatal hypervisor fatal] at stepped
      cases stepped
    · obtain rfl : kind = .irqCurrent := not_not.mp fatal
      refine ⟨by simpa [Exception.masked] using unmasked, ?_⟩
      rcases outcome : irqCurrent hypervisor core.hypervisor with ⟨_ | intid, after⟩
      · rw [vector, outcome] at stepped
        cases stepped
      · rw [vector, outcome] at stepped
        exact ⟨intid, after, rfl, (Option.some.inj stepped).symm⟩

theorem step_nested (nested : Nested core.daif core.frames) (polite : input.Polite core)
    (stepped : step hypervisor raise core input = some next) : Nested next.daif next.frames := by
  cases input with
  | raise line =>
      cases stepped
      exact nested
  | exception kind =>
      rcases step_exception stepped with rfl | ⟨unmasked, intid, after, _, rfl⟩
      · exact nested
      · exact ⟨unmasked, nested⟩
  | eret =>
      rw [step] at stepped
      split at stepped
      next spsr frames top =>
        cases stepped
        rw [top] at nested
        exact nested.2
      next =>
        cases stepped
        exact nested
  | acquire =>
      cases stepped
      refine ⟨rfl, ?_⟩
      change Nested (Daif.set core.daif.get) core.frames
      rw [Daif.set_get]
      exact nested
  | release =>
      rw [step] at stepped
      split at stepped
      next saved frames top =>
        cases stepped
        rw [top] at nested
        exact nested.2
      next =>
        cases stepped
        exact nested
  | enable | disable =>
      cases stepped
      exact nested.of_not_sectionOpen polite

/-- No handler is called while a section is open. -/
theorem step_handled_of_section (nested : Nested core.daif core.frames) (isOpen : core.SectionOpen)
    (stepped : step hypervisor raise core input = some next) : next.handled = core.handled := by
  rcases isOpen with ⟨saved, inside⟩
  have masked := nested.masked_of_section inside
  cases input with
  | exception kind =>
      rcases step_exception stepped with rfl | ⟨unmasked, _⟩
      · rfl
      · rw [masked] at unmasked
        exact absurd unmasked (by decide)
  | eret =>
      rw [step] at stepped
      split at stepped <;> (cases stepped; rfl)
  | release =>
      rw [step] at stepped
      split at stepped <;> (cases stepped; rfl)
  | _ =>
      cases stepped
      rfl

/-! ## What is given back -/

/-- The mask below these frames. -/
def outside (daif : Daif) : List Frame -> Daif
  | [] => daif
  | .critical saved :: frames => outside (release saved) frames
  | .exception spsr :: frames => outside spsr frames

/-- At this depth of the stack, something is opened or nothing happens. -/
def Input.Opens (depth : Nat) (core : Core S) (input : Input) : Prop :=
  core.frames.length = depth -> input ≠ .eret ∧ input ≠ .release ∧ input ≠ .enable ∧ input ≠ .disable

/-- The stack stands on this one, with this mask below what was added. -/
def Core.Over (base : List Frame) (mask : Daif) (core : Core S) : Prop :=
  exists above, core.frames = above ++ base ∧ outside core.daif above = mask

theorem step_over {base : List Frame} {mask : Daif} (standing : core.Over base mask)
    (opens : input.Opens base.length core) (stepped : step hypervisor raise core input = some next) :
    next.Over base mask := by
  rcases standing with ⟨above, stack, below⟩
  cases input with
  | raise line =>
      cases stepped
      exact ⟨above, stack, below⟩
  | exception kind =>
      rcases step_exception stepped with rfl | ⟨_, intid, after, _, rfl⟩
      · exact ⟨above, stack, below⟩
      · exact ⟨.exception core.daif :: above, congrArg (List.cons _) stack, below⟩
  | acquire =>
      cases stepped
      refine ⟨.critical core.daif.get :: above, congrArg (List.cons _) stack, ?_⟩
      change outside (Daif.set core.daif.get) above = mask
      rw [Daif.set_get]
      exact below
  | eret =>
      cases above with
      | nil => exact absurd rfl (opens (congrArg List.length stack)).1
      | cons frame above =>
          rw [step, stack] at stepped
          cases frame with
          | critical saved =>
              cases stepped
              exact ⟨_, stack, below⟩
          | exception spsr =>
              cases stepped
              exact ⟨above, rfl, below⟩
  | release =>
      cases above with
      | nil => exact absurd rfl (opens (congrArg List.length stack)).2.1
      | cons frame above =>
          rw [step, stack] at stepped
          cases frame with
          | critical saved =>
              cases stepped
              exact ⟨above, rfl, below⟩
          | exception spsr =>
              cases stepped
              exact ⟨_, stack, below⟩
  | enable | disable =>
      cases above with
      | nil =>
          have shallow := opens (congrArg List.length stack)
          simp at shallow
      | cons frame above =>
          cases stepped
          exact ⟨frame :: above, stack, by cases frame <;> exact below⟩

/-- A part of a run that starts and ends at one depth of the stack, and in
between only opens things at that depth, leaves the stack and the mask as they
were. -/
theorem run_restores {final : Core S} {inputs : List Input}
    (opens : Along (step hypervisor raise) (fun before input => input.Opens core.frames.length before) core inputs)
    (reached : run (step hypervisor raise) core inputs = some final)
    (level : final.frames.length = core.frames.length) :
    final.frames = core.frames ∧ final.daif = core.daif := by
  have initially : core.Over core.frames core.daif := ⟨[], rfl, rfl⟩
  have standing : final.Over core.frames core.daif :=
    run_invariant (fun _ _ _ kept allowed stepped => step_over kept allowed stepped) initially opens reached
  rcases standing with ⟨above, stack, below⟩
  have nothing : above = [] := by
    rw [stack, List.length_append] at level
    exact List.length_eq_zero_iff.mp (by omega)
  rw [nothing] at stack below
  exact ⟨stack, below⟩

/-- The critical sections of a core.  Whatever the hypervisor and the devices do,
however sections, exceptions and handlers are interleaved, and whatever the mask
was: in a section exactly the interrupts are masked, no handler is called while
a section is open anywhere, and a section or an exception gives the mask back
that it found.  Interrupts are not switched on or off inside a section. -/
theorem critical_sections_hold (hypervisor : Hypervisor S) (raise : Line -> S -> S) {start : Core S}
    {inputs : List Input} (boot : start.frames = [])
    (polite : Along (step hypervisor raise) (fun core input => input.Polite core) start inputs) :
    Along (step hypervisor raise) (fun core input =>
      (core.SectionOpen ->
        core.daif = { d := false, a := false, i := true, f := true } ∧
        forall next, step hypervisor raise core input = some next -> next.handled = core.handled) ∧
      forall (rest : List Input) (final : Core S),
        Along (step hypervisor raise) (fun before input => input.Opens core.frames.length before) core rest ->
        run (step hypervisor raise) core rest = some final -> final.frames.length = core.frames.length ->
          final.frames = core.frames ∧ final.daif = core.daif) start inputs := by
  have nested : Nested start.daif start.frames := by
    rw [boot]
    trivial
  apply Along.of_invariant (fun core => Nested core.daif core.frames) _ _ nested polite
  · exact fun _ _ _ kept allowed stepped => step_nested kept allowed stepped
  · intro core input kept _
    refine ⟨fun isOpen => ⟨?_, fun next stepped => step_handled_of_section kept isOpen stepped⟩, ?_⟩
    · rw [← sectionMask_eq]
      exact kept.masked_of_section isOpen.choose_spec
    · exact fun rest final opens reached level => run_restores opens reached level

/-- A section that is opened in a handler, after interrupts were switched on. -/
theorem section_masks :
    exists core, run (step queue queueRaise) ⟨disableArchInterrupts, [], ([⟨⟨33⟩, by decide⟩], []), []⟩
        [.enable, .exception .irqCurrent, .acquire] = some core ∧
      core.daif = { d := false, a := false, i := true, f := true } := by
  have nothing : forall saved, .critical saved ∉ ([] : List Frame) := fun _ => List.not_mem_nil
  have polite : Along (step queue queueRaise) (fun core input => input.Polite core)
      ⟨disableArchInterrupts, [], ([⟨⟨33⟩, by decide⟩], []), []⟩
      [.enable, .exception .irqCurrent, .acquire, .release] := by
    refine ⟨fun ⟨saved, inside⟩ => nothing saved inside, fun _ _ => ⟨trivial, fun _ _ => ⟨trivial, fun _ _ => ?_⟩⟩⟩
    exact ⟨trivial, fun _ _ => trivial⟩
  have holds := critical_sections_hold queue queueRaise rfl polite
  have reached : run (step queue queueRaise) ⟨disableArchInterrupts, [], ([⟨⟨33⟩, by decide⟩], []), []⟩
      [.enable, .exception .irqCurrent, .acquire] = some ⟨sectionMask,
        [.critical 0x3c0, .exception enableArchInterrupts], ([], []), [⟨33⟩]⟩ := rfl
  refine ⟨_, reached, ?_⟩
  exact ((along_iff_forall_step.mp holds _ .release [] _ rfl reached).1 ⟨0x3c0, List.mem_cons_self⟩).1

/-! ## Accounting -/

/-- What the partition relies on in the hypervisor, by the interrupts that are
pending and those that were acknowledged and not yet deactivated: a device adds
to the pending ones, `InterruptGet` acknowledges one of them or returns the
number that stands for none, and `InterruptDeactivate` takes back one that was
acknowledged. -/
structure HfProtocol (hypervisor : Hypervisor S) (raise : Line -> S -> S) where
  pending : S -> Multiset Line
  active : S -> Multiset Line
  raise_pending : forall line state, pending (raise line state) = pending state + {line}
  raise_active : forall line state, active (raise line state) = active state
  get_none : forall state, pending state = 0 ->
    (hfCall hypervisor .interruptGet 0 0 0 state).1.setWidth 32 = invalidId.value
  get_some : forall state, pending state ≠ 0 -> exists line : Line,
    (hfCall hypervisor .interruptGet 0 0 0 state).1.setWidth 32 = line.val.value ∧
    pending state = pending (hfCall hypervisor .interruptGet 0 0 0 state).2 + {line} ∧
    active (hfCall hypervisor .interruptGet 0 0 0 state).2 = active state + {line}
  deactivate : forall (line : Line) state (others : Multiset Line), active state = others + {line} ->
    (hfCall hypervisor .interruptDeactivate (line.val.value.setWidth 64) (line.val.value.setWidth 64) 0
      state).1 = 0 ∧
    pending (hfCall hypervisor .interruptDeactivate (line.val.value.setWidth 64)
      (line.val.value.setWidth 64) 0 state).2 = pending state ∧
    active (hfCall hypervisor .interruptDeactivate (line.val.value.setWidth 64)
      (line.val.value.setWidth 64) 0 state).2 = others

namespace HfProtocol

/-- With nothing pending there is nothing to get. -/
theorem hfInterruptGet_none (protocol : HfProtocol hypervisor raise) {state : S}
    (idle : protocol.pending state = 0) : (hfInterruptGet hypervisor state).1 = none := by
  have number := protocol.get_none state idle
  rw [hfInterruptGet]
  dsimp only
  rw [number, if_pos rfl]

/-- With something pending, one of it is acknowledged. -/
theorem hfInterruptGet_some (protocol : HfProtocol hypervisor raise) {state : S}
    (busy : protocol.pending state ≠ 0) :
    exists line : Line, exists after, hfInterruptGet hypervisor state = (some line.val, after) ∧
      protocol.pending state = protocol.pending after + {line} ∧
      protocol.active after = protocol.active state + {line} := by
  rcases protocol.get_some state busy with ⟨line, number, taken, acknowledged⟩
  refine ⟨line, _, ?_, taken, acknowledged⟩
  rw [hfInterruptGet]
  dsimp only
  rw [number, if_neg line.property]

/-- What was acknowledged can be deactivated. -/
theorem hfInterruptDeactivate_ok (protocol : HfProtocol hypervisor raise) {state : S} {line : Line}
    {others : Multiset Line} (acknowledged : protocol.active state = others + {line}) :
    exists after, hfInterruptDeactivate hypervisor line.val state = (.ok (), after) ∧
      protocol.pending after = protocol.pending state ∧ protocol.active after = others := by
  rcases protocol.deactivate line state others acknowledged with ⟨zero, same, taken⟩
  refine ⟨_, ?_, same, taken⟩
  rw [hfInterruptDeactivate, hfCallUnit]
  dsimp only
  rw [zero, if_pos rfl]

/-- With something pending, one of it is acknowledged and deactivated, and its
handler is called. -/
theorem irqCurrent_ok (protocol : HfProtocol hypervisor raise) {state : S}
    (busy : protocol.pending state ≠ 0) :
    exists line : Line, exists after, irqCurrent hypervisor state = (.ok line.val, after) ∧
      protocol.pending state = protocol.pending after + {line} ∧
      protocol.active after = protocol.active state := by
  rcases protocol.hfInterruptGet_some busy with ⟨line, acknowledged, got, taken, active⟩
  rcases protocol.hfInterruptDeactivate_ok active with ⟨after, deactivated, same, back⟩
  refine ⟨line, after, ?_, by rw [same]; exact taken, back⟩
  rw [irqCurrent, got]
  dsimp only
  rw [deactivated]

theorem irqCurrent_error (protocol : HfProtocol hypervisor raise) {state : S}
    (idle : protocol.pending state = 0) : (irqCurrent hypervisor state).1 = .error .noPendingInterrupts := by
  have nothing := protocol.hfInterruptGet_none idle
  rw [irqCurrent]
  rcases got : hfInterruptGet hypervisor state with ⟨_ | intid, after⟩
  · rfl
  · rw [got] at nothing
    cases nothing

end HfProtocol

def queueProtocol : HfProtocol queue queueRaise where
  pending state := state.1
  active state := state.2
  raise_pending := fun _ _ => (Multiset.coe_add _ _).symm
  raise_active := fun _ _ => rfl
  get_none := by
    rintro ⟨pending, active⟩ idle
    cases pending with
    | nil => simp [queue, hfCall, HfCall.code, invalidId]
    | cons line rest => cases Multiset.coe_eq_zero _ |>.mp idle
  get_some := by
    rintro ⟨pending, active⟩ busy
    cases pending with
    | nil => exact absurd rfl busy
    | cons line rest =>
        refine ⟨line, ?_, ?_, ?_⟩
        · change (line.val.value.setWidth 64).setWidth 32 = line.val.value
          simp
        · rw [add_comm]
          rfl
        · rw [add_comm]
          rfl
  deactivate := by
    rintro ⟨⟨value⟩, valid⟩ ⟨pending, active⟩ others acknowledged
    have member : (⟨⟨value⟩, valid⟩ : Line) ∈ active := by
      have inside : (⟨⟨value⟩, valid⟩ : Line) ∈ (active : Multiset Line) := by
        rw [acknowledged]
        exact Multiset.mem_add.mpr (Or.inr (Multiset.mem_singleton_self _))
      exact inside
    have same : (value.setWidth 64).setWidth 32 = value := by simp
    have taken : queue.hvc 0xff08 (value.setWidth 64) (value.setWidth 64) 0 (pending, active) =
        (0, pending, active.erase ⟨⟨value⟩, valid⟩) := by
      simp [queue, same, valid, member]
    have result : hfCall queue .interruptDeactivate (value.setWidth 64) (value.setWidth 64) 0 (pending, active) =
        (0, pending, active.erase ⟨⟨value⟩, valid⟩) := taken
    rw [result]
    refine ⟨rfl, rfl, ?_⟩
    have parted : (active : Multiset Line) = (active.erase ⟨⟨value⟩, valid⟩ : List Line) + {⟨⟨value⟩, valid⟩} := by
      rw [add_comm]
      exact Multiset.coe_eq_coe.mpr (List.perm_cons_erase member)
    exact add_right_cancel (parted.symm.trans acknowledged)

/-- The interrupts that an input brings. -/
def Input.brings : Input -> Multiset InterruptId
  | .raise line => {line.val}
  | _ => 0

/-- The exception is taken, and it is not an interrupt that is pending. -/
def Input.Strikes (protocol : HfProtocol hypervisor raise) (core : Core S) (input : Input) : Prop :=
  exists kind, input = .exception kind ∧ kind.masked core.daif = false ∧
    (kind.Fatal ∨ protocol.pending core.hypervisor = 0)

/-- The identifiers that were handled or are still waiting. -/
def Core.accounted (protocol : HfProtocol hypervisor raise) (core : Core S) : Multiset InterruptId :=
  (core.handled : Multiset InterruptId) + (protocol.pending core.hypervisor).map Subtype.val

/-- A step panics exactly if an exception strikes. -/
theorem step_isSome_iff (protocol : HfProtocol hypervisor raise) (core : Core S) (input : Input) :
    (step hypervisor raise core input).isSome = true <-> ¬ input.Strikes protocol core := by
  cases input with
  | exception kind =>
      have strikes : Input.Strikes protocol core (.exception kind) <->
          kind.masked core.daif = false ∧ (kind.Fatal ∨ protocol.pending core.hypervisor = 0) := by
        constructor
        · rintro ⟨_, same, unmasked, reason⟩
          cases same
          exact ⟨unmasked, reason⟩
        · exact fun ⟨unmasked, reason⟩ => ⟨kind, rfl, unmasked, reason⟩
      rw [strikes, step]
      cases masked : kind.masked core.daif with
      | true => simp
      | false =>
          by_cases fatal : kind.Fatal
          · simp [vector_of_fatal hypervisor fatal, fatal]
          · obtain rfl : kind = .irqCurrent := not_not.mp fatal
            by_cases idle : protocol.pending core.hypervisor = 0
            · have panicked := protocol.irqCurrent_error idle
              rcases outcome : irqCurrent hypervisor core.hypervisor with ⟨result, after⟩
              rw [outcome] at panicked
              cases panicked
              simp [vector, outcome, idle]
            · rcases protocol.irqCurrent_ok idle with ⟨line, after, called, _⟩
              simp [vector, called, idle, fatal]
  | eret => rw [step]; split <;> simp [Input.Strikes]
  | release => rw [step]; split <;> simp [Input.Strikes]
  | _ => simp [step, Input.Strikes]

/-- Nothing to account for. -/
theorem accounted_of_same (protocol : HfProtocol hypervisor raise) (brings : input.brings = 0)
    (handled : next.handled = core.handled) (same : next.hypervisor = core.hypervisor) :
    next.accounted protocol = core.accounted protocol + input.brings ∧
      protocol.active next.hypervisor = protocol.active core.hypervisor := by
  rw [Core.accounted, Core.accounted, handled, same, brings, add_zero]
  exact ⟨rfl, rfl⟩

/-- A step accounts for the interrupt that it brings, and leaves none active. -/
theorem step_accounted (protocol : HfProtocol hypervisor raise)
    (stepped : step hypervisor raise core input = some next) :
    next.accounted protocol = core.accounted protocol + input.brings ∧
      protocol.active next.hypervisor = protocol.active core.hypervisor := by
  cases input with
  | raise line =>
      cases stepped
      refine ⟨?_, protocol.raise_active line core.hypervisor⟩
      rw [Core.accounted, Core.accounted, protocol.raise_pending, Multiset.map_add, Multiset.map_singleton,
        add_assoc]
      rfl
  | exception kind =>
      rcases step_exception stepped with rfl | ⟨_, intid, after, called, rfl⟩
      · exact accounted_of_same protocol rfl rfl rfl
      · have busy : protocol.pending core.hypervisor ≠ 0 := by
          intro idle
          have panicked := protocol.irqCurrent_error idle
          rw [called] at panicked
          cases panicked
        rcases protocol.irqCurrent_ok busy with ⟨line, other, same, taken, active⟩
        cases called.symm.trans same
        refine ⟨?_, active⟩
        have moved : (core.handled : Multiset InterruptId) + {line.val} +
              (protocol.pending after).map Subtype.val =
            core.handled + ((protocol.pending after).map Subtype.val + {line.val}) := by
          rw [add_assoc, add_comm ({line.val} : Multiset InterruptId)]
        rw [Core.accounted, Core.accounted, taken, Multiset.map_add, Multiset.map_singleton, ← Multiset.coe_add]
        exact moved.trans (add_zero _).symm
  | eret =>
      rw [step] at stepped
      split at stepped <;> (cases stepped; exact accounted_of_same protocol rfl rfl rfl)
  | release =>
      rw [step] at stepped
      split at stepped <;> (cases stepped; exact accounted_of_same protocol rfl rfl rfl)
  | _ =>
      cases stepped
      exact accounted_of_same protocol rfl rfl rfl

/-- The interrupts of a core, for a hypervisor that keeps to its side.  However
devices, sections, handlers and exceptions are interleaved, the core panics
exactly when an exception strikes that is not a pending interrupt.  Until then
every interrupt that a device raised has been handed to the handler once or is
still pending, the handler was called for nothing else, and no interrupt stays
acknowledged without being deactivated. -/
theorem interrupts_accounted (protocol : HfProtocol hypervisor raise) (start : Core S) (inputs : List Input) :
    ((run (step hypervisor raise) start inputs).isSome = true <->
      Along (step hypervisor raise) (fun core input => ¬ input.Strikes protocol core) start inputs) ∧
    forall final, run (step hypervisor raise) start inputs = some final ->
      (final.handled : Multiset InterruptId) + (protocol.pending final.hypervisor).map Subtype.val =
        (start.handled : Multiset InterruptId) + (protocol.pending start.hypervisor).map Subtype.val +
          (inputs.map Input.brings).sum ∧
      protocol.active final.hypervisor = protocol.active start.hypervisor := by
  have always : Along (step hypervisor raise) (fun _ _ => True) start inputs :=
    along_of_forall (fun _ _ => trivial) start inputs
  refine ⟨?_, fun final reached => ⟨?_, ?_⟩⟩
  · rw [run_isSome_iff_along]
    exact always.congr (fun core input _ => step_isSome_iff protocol core input)
  · have grows : forall core input next, True -> step hypervisor raise core input = some next ->
        next.accounted protocol = core.accounted protocol + input.brings :=
      fun _ _ _ _ stepped => (step_accounted protocol stepped).1
    exact run_gains grows always reached
  · have kept : forall core input next,
        protocol.active core.hypervisor = protocol.active start.hypervisor -> True ->
        step hypervisor raise core input = some next ->
          protocol.active next.hypervisor = protocol.active start.hypervisor :=
      fun _ _ _ same _ stepped => (step_accounted protocol stepped).2.trans same
    exact run_invariant kept rfl always reached

/-- An interrupt of a section waits until the section is closed. -/
theorem queued_accounted :
    (run (step queue queueRaise) ⟨enableArchInterrupts, [], ([], []), []⟩
      [.acquire, .raise ⟨⟨33⟩, by decide⟩, .exception .irqCurrent, .release, .exception .irqCurrent, .eret]).map
        Core.handled = some [⟨33⟩] ∧
    Along (step queue queueRaise) (fun core input => ¬ input.Strikes queueProtocol core)
      ⟨enableArchInterrupts, [], ([], []), []⟩
      [.acquire, .raise ⟨⟨33⟩, by decide⟩, .exception .irqCurrent, .release, .exception .irqCurrent, .eret] :=
  ⟨by decide, (interrupts_accounted queueProtocol ⟨enableArchInterrupts, [], ([], []), []⟩ _).1.mp (by decide)⟩

end Baremetal
end SecureServices
