import SecureServices.Tpm.Plan

namespace SecureServices
namespace Tpm

open Library Ffa

/-!
# The registers show the state of the service

The host learns from the registers of a locality whether it owns it, and
whether the TPM is idle.  They are set by two routines: one zeroes a block when
its locality is granted or given up, the other adds bits to the block of the
active locality after every start request.  In between, the backend and the
host write to the same memory.

As long as the backend writes only data buffers, and the host only its own
control registers and the data buffers, the registers of all five blocks agree
with the service after every request.
-/

variable {Sst : Type} (ops : TpmSstOps Sst)

/-! ## Everything but the data buffer -/

/-- The blocks differ at most in the data buffer. -/
def PtpCrbRegisters.SameRegisters (left right : PtpCrbRegisters) : Prop :=
  left = { right with crbDataBuffer := left.crbDataBuffer }

namespace PtpCrbRegisters.SameRegisters

variable {left middle right : PtpCrbRegisters}

theorem refl (crb : PtpCrbRegisters) : SameRegisters crb crb := rfl

theorem symm (same : SameRegisters left right) : SameRegisters right left := by
  unfold SameRegisters at *
  rw [same]

theorem trans (first : SameRegisters left middle) (second : SameRegisters middle right) :
    SameRegisters left right := by
  unfold SameRegisters at *
  rw [first, second]

/-- Blocks with the same registers and the same buffer are the same. -/
theorem eq_of_buffer (same : SameRegisters left right)
    (buffer : left.crbDataBuffer = right.crbDataBuffer) : left = right := by
  unfold SameRegisters at same
  rw [same, buffer]

/-- A register reads the same in both blocks. -/
theorem read {Value : Type} (same : SameRegisters left right) (register : PtpCrbRegisters -> Value)
    (ignores : forall crb buffer, register { crb with crbDataBuffer := buffer } = register crb) :
    register left = register right := by
  unfold SameRegisters at same
  rw [same, ignores]

end PtpCrbRegisters.SameRegisters

/-- Rewriting the buffer of one block changes no register of any. -/
theorem PtpCrbRegisters.SameRegisters.update {crbs : Locality -> PtpCrbRegisters} {locality : Locality}
    {crb : PtpCrbRegisters} (same : crb.SameRegisters (crbs locality)) (other : Locality) :
    (Function.update crbs locality crb other).SameRegisters (crbs other) := by
  by_cases here : other = locality
  · subst here
    rw [Function.update_self]
    exact same
  · rw [Function.update_of_ne here]
    exact .refl _

/-- `start` writes only to the data buffer of the block it is given. -/
def TpmSstOps.WritesOnlyBuffer (ops : TpmSstOps Sst) : Prop :=
  forall sst locality crb, (ops.start sst locality crb).2.1.SameRegisters crb

/-- No backend call changes a register. -/
theorem invoke_registers {ops : TpmSstOps Sst} (only : ops.WritesOnlyBuffer) (machine : Machine Sst)
    (operation : Operation) (locality other : Locality) :
    ((invoke ops machine operation locality).2.crbs other).SameRegisters (machine.crbs other) := by
  cases operation with
  | start => exact (only machine.sst locality (machine.crbs locality)).update other
  | goIdle => exact .refl _
  | cmdReady => exact .refl _
  | localityRequest => exact .refl _
  | localityRelinquish => exact .refl _

theorem Machine.wipe_registers (machine : Machine Sst) (locality other : Locality) :
    ((machine.wipe locality).crbs other).SameRegisters (machine.crbs other) := by
  unfold Machine.wipe
  split
  · have cleared : PtpCrbRegisters.SameRegisters
        { machine.crbs locality with crbDataBuffer := fun _ => 0 } (machine.crbs locality) := rfl
    exact cleared.update other
  · exact .refl _

/-! ## What the registers show -/

/-- The locality state register of the active locality. -/
def assignedState (locality : Locality) : U32 :=
  ptpCrbLocalityStateActiveLocality locality ||| ptpCrbLocalityStateTpmRegValidStatus |||
    ptpCrbLocalityStateLocalityAssigned

/-- The control status register of the active locality. -/
def shownStatus (state : TpmState) : U32 :=
  if state = .idle then ptpCrbControlAreaStatusTpmIdle else 0

/-- The block shows that its locality is active. -/
structure ShowsActive (state : TpmState) (locality : Locality) (crb : PtpCrbRegisters) : Prop where
  assigned : crb.localityState = assignedState locality
  granted : hasBits crb.localityStatus ptpCrbLocalityStatusGranted = true
  status : crb.crbControlStatus = shownStatus state

/-- The block shows that its locality is not active. -/
structure ShowsInactive (crb : PtpCrbRegisters) : Prop where
  unassigned : crb.localityState = 0
  ungranted : crb.localityStatus = 0
  status : crb.crbControlStatus = ptpCrbControlAreaStatusTpmIdle

/-- The registers of every block show the state of the service. -/
def Reflects (machine : Machine Sst) : Prop :=
  forall locality,
    (machine.service.activeLocality = some locality ->
      ShowsActive machine.service.currentState locality (machine.crbs locality)) ∧
    (machine.service.activeLocality ≠ some locality -> ShowsInactive (machine.crbs locality))

/-- The registers will show the state of the service once they are cleaned.
Cleaning adds bits to the locality state register, so that no other bit may be
set there; it overwrites the control status register. -/
def Cleanable (machine : Machine Sst) : Prop :=
  forall locality,
    (machine.service.activeLocality = some locality ->
      (machine.crbs locality).localityState = 0 ∨
        (machine.crbs locality).localityState = assignedState locality) ∧
    (machine.service.activeLocality ≠ some locality -> ShowsInactive (machine.crbs locality))

theorem ShowsInactive.of_same {left right : PtpCrbRegisters} (same : left.SameRegisters right)
    (shows : ShowsInactive right) : ShowsInactive left where
  unassigned := (same.read PtpCrbRegisters.localityState (fun _ _ => rfl)).trans shows.unassigned
  ungranted := (same.read PtpCrbRegisters.localityStatus (fun _ _ => rfl)).trans shows.ungranted
  status := (same.read PtpCrbRegisters.crbControlStatus (fun _ _ => rfl)).trans shows.status

theorem Reflects.cleanable {machine : Machine Sst} (reflects : Reflects machine) : Cleanable machine := by
  intro locality
  exact ⟨fun owned => Or.inr ((reflects locality).1 owned).assigned, (reflects locality).2⟩

/-- Whether the registers can be cleaned depends on the registers only. -/
theorem Cleanable.of_same {machine after : Machine Sst} (cleanable : Cleanable machine)
    (active : after.service.activeLocality = machine.service.activeLocality)
    (registers : forall locality, (after.crbs locality).SameRegisters (machine.crbs locality)) :
    Cleanable after := by
  intro locality
  rw [active, (registers locality).read PtpCrbRegisters.localityState (fun _ _ => rfl)]
  exact ⟨(cleanable locality).1, fun other => ((cleanable locality).2 other).of_same (registers locality)⟩

/-! ## Cleaning -/

theorem hasBits_or_granted (status : U32) :
    hasBits (status ||| ptpCrbLocalityStatusGranted) ptpCrbLocalityStatusGranted = true := by
  have kept : (status ||| ptpCrbLocalityStatusGranted) &&& ptpCrbLocalityStatusGranted =
      ptpCrbLocalityStatusGranted := by
    ext index
    simp only [BitVec.getElem_and, BitVec.getElem_or]
    cases ptpCrbLocalityStatusGranted[index] <;> simp
  rw [hasBits, kept]
  rfl

/-- Adding the bits of the active locality a second time changes nothing. -/
theorem assignedState_or (locality : Locality) :
    assignedState locality ||| ptpCrbLocalityStateActiveLocality locality |||
      ptpCrbLocalityStateTpmRegValidStatus ||| ptpCrbLocalityStateLocalityAssigned =
    assignedState locality := by
  revert locality
  decide

theorem cleanInternalCrb_of_ne {machine : Machine Sst} {locality : Locality}
    (other : machine.service.activeLocality ≠ some locality) :
    (cleanInternalCrb machine).crbs locality = machine.crbs locality := by
  unfold cleanInternalCrb
  split
  · rfl
  next owner owned =>
    apply Function.update_of_ne
    intro same
    rw [same] at other
    exact other owned

theorem Cleanable.reflects {machine : Machine Sst} (cleanable : Cleanable machine) :
    Reflects (cleanInternalCrb machine) := by
  intro locality
  rw [cleanInternalCrb_service]
  constructor
  · intro owned
    constructor
    · have added : ((cleanInternalCrb machine).crbs locality).localityState =
          (machine.crbs locality).localityState ||| ptpCrbLocalityStateActiveLocality locality |||
            ptpCrbLocalityStateTpmRegValidStatus ||| ptpCrbLocalityStateLocalityAssigned := by
        simp only [cleanInternalCrb, owned, Machine.setCrb, Function.update_self, setBufferRegisters]
      rcases (cleanable locality).1 owned with fresh | assigned
      · have first : 0 ||| ptpCrbLocalityStateActiveLocality locality =
            ptpCrbLocalityStateActiveLocality locality := BitVec.zero_or
        rw [added, fresh, first, assignedState]
      · rw [added, assigned, assignedState_or]
    · have added : ((cleanInternalCrb machine).crbs locality).localityStatus =
          (machine.crbs locality).localityStatus ||| ptpCrbLocalityStatusGranted := by
        simp only [cleanInternalCrb, owned, Machine.setCrb, Function.update_self, setBufferRegisters]
      rw [added]
      exact hasBits_or_granted _
    · exact cleanInternalCrb_status owned
  · intro other
    rw [cleanInternalCrb_of_ne other]
    exact (cleanable locality).2 other

/-! ## Steps -/

/-- A block that was zeroed shows that its locality is not active. -/
theorem initInternalCrb_shows (machine : Machine Sst) (locality : Locality) :
    ShowsInactive ((initInternalCrb machine locality).crbs locality) := by
  have zeroed : (initInternalCrb machine locality).crbs locality =
      setBufferRegisters machine.service locality
        { PtpCrbRegisters.zero with
          interfaceId := machine.service.interfaceIdDefault
          crbControlStatus := ptpCrbControlAreaStatusTpmIdle } := Function.update_self ..
  rw [zeroed]
  exact ⟨rfl, rfl, rfl⟩

theorem initInternalCrb_of_ne (machine : Machine Sst) {locality other : Locality}
    (different : other ≠ locality) :
    (initInternalCrb machine locality).crbs other = machine.crbs other := Function.update_of_ne different ..

/-- Zeroing a block makes the registers cleanable, whether its locality becomes
active or stops being so. -/
theorem Cleanable.init {machine : Machine Sst} (cleanable : Cleanable machine) {locality : Locality}
    (unowned : machine.service.activeLocality = none ∨ machine.service.activeLocality = some locality)
    {newActive : Option Locality} (granted : newActive = none ∨ newActive = some locality) :
    Cleanable ((initInternalCrb machine locality).setActive newActive) := by
  intro other
  by_cases same : other = locality
  · subst same
    have shows := initInternalCrb_shows machine other
    exact ⟨fun _ => Or.inl shows.unassigned, fun _ => shows⟩
  · have kept := initInternalCrb_of_ne machine same
    have unnamed : forall owner : Option Locality, owner = none ∨ owner = some locality ->
        owner ≠ some other := by
      rintro owner (rfl | rfl) named
      · cases named
      · exact same (Option.some.inj named).symm
    constructor
    · intro owned
      exact absurd owned (unnamed newActive granted)
    · intro _
      change ShowsInactive ((initInternalCrb machine locality).crbs other)
      rw [kept]
      exact (cleanable other).2 (unnamed _ unowned)

theorem attempt_cleanable {ops : TpmSstOps Sst} (only : ops.WritesOnlyBuffer) {machine : Machine Sst}
    (reflects : Reflects machine) {operation : Operation} {locality : Locality} {bypass : Bool}
    (sound : (Plan.call operation locality).Sound machine.service bypass) :
    Cleanable (attempt ops machine operation locality).2 := by
  have service := invoke_service ops machine operation locality
  have invoked : Cleanable (invoke ops machine operation locality).2 :=
    reflects.cleanable.of_same (by rw [service]) (invoke_registers only machine operation locality)
  by_cases success : (attempt ops machine operation locality).1 = .ok
  · rw [attempt_of_ok ops success]
    have wiped := (invoke ops machine operation locality).2.wipe_registers locality
    have owner := congrArg TpmService.activeLocality
      ((invoke ops machine operation locality).2.wipe_service locality)
    cases operation with
    | goIdle => exact invoked.of_same owner wiped
    | cmdReady => exact invoked.of_same owner wiped
    | start => exact invoked
    | localityRequest =>
        apply invoked.init _ (Or.inr rfl)
        rw [service]
        exact sound
    | localityRelinquish =>
        apply invoked.init _ (Or.inl rfl)
        rw [service]
        exact Or.inr sound
  · rw [attempt_of_ne ops success]
    exact invoked

/-- A request leaves the registers as the service is. -/
theorem request_reflects {ops : TpmSstOps Sst} (only : ops.WritesOnlyBuffer) {machine : Machine Sst}
    (reflects : Reflects machine) (message : MsgSendDirectReq2) :
    Reflects (advance ops machine (.request message)) := by
  have sound := planFor_sound ops machine message
  rw [advance_request]
  cases planned : machine.planFor ops message with
  | answer status => exact reflects
  | refuse status => exact reflects.cleanable.reflects
  | call operation locality =>
      rw [planned] at sound
      exact (attempt_cleanable only reflects sound).reflects
  | manage locality state => exact reflects
  | register registered => exact reflects

/-! ## The host -/

/-- The host writes nothing but its control registers and data buffers. -/
def HostWrite.OnlyControls (write : HostWrite) : Prop :=
  forall locality, write.mask locality =
    { PtpCrbRegisters.zero with
      localityControl := (write.mask locality).localityControl
      crbControlRequest := (write.mask locality).crbControlRequest
      crbControlCancel := (write.mask locality).crbControlCancel
      crbControlStart := (write.mask locality).crbControlStart
      crbDataBuffer := (write.mask locality).crbDataBuffer }

@[simp] theorem overwrite_zero_mask {width : Nat} (old value : BitVec width) :
    overwrite old 0 value = old := by
  simp [overwrite]

/-- Such a write leaves the registers alone that show the state. -/
theorem write_reflects {machine : Machine Sst} (reflects : Reflects machine) {write : HostWrite}
    (controls : write.OnlyControls) : Reflects (advance ops machine (.write write)) := by
  have kept : forall locality,
      (write.apply machine.crbs locality).localityState = (machine.crbs locality).localityState ∧
      (write.apply machine.crbs locality).localityStatus = (machine.crbs locality).localityStatus ∧
      (write.apply machine.crbs locality).crbControlStatus = (machine.crbs locality).crbControlStatus := by
    intro locality
    rw [HostWrite.apply, controls locality]
    exact ⟨overwrite_zero_mask _ _, overwrite_zero_mask _ _, overwrite_zero_mask _ _⟩
  intro locality
  rcases kept locality with ⟨state, granted, status⟩
  rcases reflects locality with ⟨active, inactive⟩
  constructor
  · intro owned
    rcases active owned with ⟨assigned, shows, current⟩
    exact ⟨state.trans assigned, (congrArg (hasBits · _) granted).trans shows, status.trans current⟩
  · intro other
    rcases inactive other with ⟨unassigned, ungranted, current⟩
    exact ⟨state.trans unassigned, granted.trans ungranted, status.trans current⟩

theorem foldl_initInternalCrb_shows (localities : List Locality) (machine : Machine Sst)
    {locality : Locality} (member : locality ∈ localities) :
    ShowsInactive ((localities.foldl initInternalCrb machine).crbs locality) := by
  induction localities using List.reverseRecOn with
  | nil => exact absurd member List.not_mem_nil
  | append_singleton done last inductionHypothesis =>
      rw [List.foldl_append]
      change ShowsInactive ((initInternalCrb (done.foldl initInternalCrb machine) last).crbs locality)
      by_cases same : locality = last
      · rw [same]
        exact initInternalCrb_shows _ last
      · rw [initInternalCrb_of_ne _ same]
        apply inductionHypothesis
        rcases List.mem_append.mp member with earlier | final
        · exact earlier
        · exact absurd (List.mem_singleton.mp final) same

theorem boot_reflects (sst : Sst) (address : U64) (crbs : Locality -> PtpCrbRegisters) :
    Reflects (boot ops sst address crbs) := by
  intro locality
  constructor
  · intro owned
    cases owned
  · intro _
    exact foldl_initInternalCrb_shows (List.finRange numLocalities) _ (List.mem_finRange locality)

/-- At most one block shows that its locality is granted. -/
theorem Reflects.granted_unique {machine : Machine Sst} (reflects : Reflects machine)
    {first second : Locality}
    (firstGranted : hasBits (machine.crbs first).localityStatus ptpCrbLocalityStatusGranted = true)
    (secondGranted : hasBits (machine.crbs second).localityStatus ptpCrbLocalityStatusGranted = true) :
    first = second := by
  have owner : forall locality,
      hasBits (machine.crbs locality).localityStatus ptpCrbLocalityStatusGranted = true ->
      machine.service.activeLocality = some locality := by
    intro locality granted
    by_contra other
    rw [((reflects locality).2 other).ungranted] at granted
    cases granted
  exact Option.some.inj ((owner first firstGranted).symm.trans (owner second secondGranted))

/-- In every run after `init` in which the backend writes only data buffers and
the host only its control registers and data buffers, the registers show the
state of the service after every event, and at most one locality is shown as
granted. -/
theorem registers_reflect_service (only : ops.WritesOnlyBuffer) (sst : Sst) (address : U64)
    (crbs : Locality -> PtpCrbRegisters) (events : List Event)
    (controls : forall write, Event.write write ∈ events -> write.OnlyControls) :
    Reflects (afterRun ops sst address crbs events) ∧
      forall first second,
        hasBits ((afterRun ops sst address crbs events).crbs first).localityStatus
          ptpCrbLocalityStatusGranted = true ->
        hasBits ((afterRun ops sst address crbs events).crbs second).localityStatus
          ptpCrbLocalityStatusGranted = true -> first = second := by
  have reflects : Reflects (afterRun ops sst address crbs events) := by
    induction events using List.reverseRecOn with
    | nil => exact boot_reflects ops sst address crbs
    | append_singleton done event inductionHypothesis =>
        rw [afterRun_snoc]
        have before := inductionHypothesis
          (fun write member => controls write (List.mem_append_left [event] member))
        cases event with
        | request message => exact request_reflects only before message
        | write bits =>
            apply write_reflects ops before
            exact controls bits (List.mem_append_right done (List.mem_singleton.mpr rfl))
  exact ⟨reflects, fun first second => reflects.granted_unique⟩

/-- The host sets the control registers of every block. -/
def HostWrite.controls (control request start : U32) : HostWrite where
  mask := fun _ =>
    { PtpCrbRegisters.zero with
      localityControl := BitVec.allOnes 32
      crbControlRequest := BitVec.allOnes 32
      crbControlStart := BitVec.allOnes 32 }
  value := fun _ =>
    { PtpCrbRegisters.zero with
      localityControl := control
      crbControlRequest := request
      crbControlStart := start }

theorem HostWrite.controls_onlyControls (control request start : U32) :
    (HostWrite.controls control request start).OnlyControls := fun _ => rfl

/-- A backend that agrees to everything and answers each command with the same
byte throughout. -/
def responding (response : U8) : TpmSstOps Unit :=
  { agreeable with start := fun _ _ crb => (.ok, { crb with crbDataBuffer := fun _ => response }, ()) }

theorem responding_writesOnlyBuffer (response : U8) : (responding response).WritesOnlyBuffer :=
  fun _ _ _ => rfl

/-- Locality 1 is taken, made ready, and executes a command. -/
def execution : List Event :=
  [.write (.controls 1 0 0), .request (compose 1 .start 1 1), .write (.controls 0 1 0),
    .request (compose 1 .start 0 1), .write (.controls 0 0 1), .request (compose 1 .start 0 1)]

theorem execution_reflected :
    (afterRun (responding 7) () 0 (fun _ => .zero) execution).service.currentState = .complete ∧
      Reflects (afterRun (responding 7) () 0 (fun _ => .zero) execution) := by
  refine ⟨by decide +kernel, ?_⟩
  apply And.left
  apply registers_reflect_service (responding 7) (responding_writesOnlyBuffer 7)
  intro write member
  simp only [execution, List.mem_cons, List.not_mem_nil, or_false, reduceCtorEq, false_or,
    Event.write.injEq] at member
  rcases member with rfl | rfl | rfl
  all_goals exact HostWrite.controls_onlyControls _ _ _

end Tpm
end SecureServices
