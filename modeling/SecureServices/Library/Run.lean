import Mathlib.Algebra.BigOperators.Group.List.Basic
import Mathlib.Data.List.Induction

namespace SecureServices
namespace Library

/-!
# Runs of a deterministic machine

A machine is a step function that may stop: `none` is a crash, after which no
input is processed.  `run` folds it over a list of inputs.  A restriction on
the inputs of a run is a predicate on the state before a step and the input
of that step, and `Along` asks it of every step.  The two invariant rules
below are the only inductions over runs that clients need.
-/

variable {State Input : Type*}

/-- The state after a list of inputs, if no step crashed. -/
def run (step : State -> Input -> Option State) : State -> List Input -> Option State
  | state, [] => some state
  | state, input :: rest => (step state input).bind (fun next => run step next rest)

/-- Every step of the run meets `Allowed`, taken at the state before it. -/
def Along (step : State -> Input -> Option State) (Allowed : State -> Input -> Prop) :
    State -> List Input -> Prop
  | _state, [] => True
  | state, input :: rest =>
      Allowed state input ∧ forall next, step state input = some next -> Along step Allowed next rest

instance Along.decidable (step : State -> Input -> Option State) (Allowed : State -> Input -> Prop)
    [forall state input, Decidable (Allowed state input)] :
    (state : State) -> (inputs : List Input) -> Decidable (Along step Allowed state inputs)
  | _state, [] => isTrue trivial
  | state, input :: rest =>
      match stepped : step state input with
      | none => decidable_of_iff (Allowed state input) (by simp [Along, stepped])
      | some next =>
          have := Along.decidable step Allowed next rest
          decidable_of_iff (Allowed state input ∧ Along step Allowed next rest) (by
            simp [Along, stepped])

/-- A machine none of whose steps crashes. -/
def total (step : State -> Input -> State) : State -> Input -> Option State :=
  fun state input => some (step state input)

variable {step : State -> Input -> Option State}

/-- The state in which a run ends, for a run that is known to complete. -/
def finalState (step : State -> Input -> Option State) (state : State) (inputs : List Input) : State :=
  (run step state inputs).getD state

theorem run_eq_finalState {state : State} {inputs : List Input}
    (completes : (run step state inputs).isSome = true) :
    run step state inputs = some (finalState step state inputs) := by
  rcases Option.isSome_iff_exists.mp completes with ⟨final, reached⟩
  rw [finalState, reached, Option.getD_some]

@[simp] theorem run_nil (state : State) : run step state [] = some state := rfl

theorem run_cons (state : State) (input : Input) (rest : List Input) :
    run step state (input :: rest) = (step state input).bind (fun next => run step next rest) := rfl

/-- One more step at the end. -/
theorem run_snoc {state last next : State} {inputs : List Input} {input : Input}
    (ran : run step state inputs = some last) (stepped : step last input = some next) :
    run step state (inputs ++ [input]) = some next := by
  induction inputs generalizing state with
  | nil =>
      cases ran
      rw [List.nil_append, run_cons, stepped]
      rfl
  | cons first rest inductionHypothesis =>
      rw [run_cons] at ran
      rcases Option.bind_eq_some_iff.mp ran with ⟨middle, early, late⟩
      rw [List.cons_append, run_cons, early, Option.bind_some]
      exact inductionHypothesis late

/-- An invariant that every allowed step preserves holds at the end of every
run whose steps are all allowed. -/
theorem run_invariant {Allowed : State -> Input -> Prop} {Invariant : State -> Prop}
    (preserved : forall state input next, Invariant state -> Allowed state input ->
      step state input = some next -> Invariant next)
    {state final : State} {inputs : List Input} (start : Invariant state)
    (allowed : Along step Allowed state inputs) (reached : run step state inputs = some final) :
    Invariant final := by
  induction inputs generalizing state with
  | nil =>
      cases reached
      exact start
  | cons input rest inductionHypothesis =>
      rw [run_cons] at reached
      rcases Option.bind_eq_some_iff.mp reached with ⟨next, stepped, reached⟩
      exact inductionHypothesis (preserved state input next start allowed.1 stepped)
        (allowed.2 next stepped) reached

/-- A machine that takes every input of a good state to a good state completes
every run. -/
theorem run_completes {Invariant : State -> Prop}
    (progress : forall state input, Invariant state ->
      exists next, step state input = some next ∧ Invariant next)
    {state : State} (start : Invariant state) (inputs : List Input) :
    exists final, run step state inputs = some final ∧ Invariant final := by
  induction inputs generalizing state with
  | nil => exact ⟨state, rfl, start⟩
  | cons input rest inductionHypothesis =>
      rcases progress state input start with ⟨next, stepped, kept⟩
      rcases inductionHypothesis kept with ⟨final, reached, good⟩
      refine ⟨final, ?_, good⟩
      rw [run_cons, stepped, Option.bind_some]
      exact reached

/-- A quantity to which every allowed step adds what its input brings has grown
by all that the inputs brought. -/
theorem run_gains {Allowed : State -> Input -> Prop} {Quantity : Type*} [AddCommMonoid Quantity]
    {quantity : State -> Quantity} {gain : Input -> Quantity}
    (grows : forall state input next, Allowed state input -> step state input = some next ->
      quantity next = quantity state + gain input)
    {state final : State} {inputs : List Input} (allowed : Along step Allowed state inputs)
    (reached : run step state inputs = some final) :
    quantity final = quantity state + (inputs.map gain).sum := by
  induction inputs generalizing state with
  | nil =>
      cases reached
      rw [List.map_nil, List.sum_nil, add_zero]
  | cons input rest inductionHypothesis =>
      rw [run_cons] at reached
      rcases Option.bind_eq_some_iff.mp reached with ⟨next, stepped, reached⟩
      rw [inductionHypothesis (allowed.2 next stepped) reached, grows state input next allowed.1 stepped,
        List.map_cons, List.sum_cons, add_assoc]

/-- A run completes exactly if none of its steps crashes. -/
theorem run_isSome_iff_along {state : State} {inputs : List Input} :
    (run step state inputs).isSome = true <->
      Along step (fun before input => (step before input).isSome = true) state inputs := by
  induction inputs generalizing state with
  | nil => exact ⟨fun _ => trivial, fun _ => rfl⟩
  | cons input rest inductionHypothesis =>
      rw [run_cons]
      cases stepped : step state input with
      | none => simp [Along, stepped]
      | some next => simp [Along, stepped, inductionHypothesis]

/-- Restrictions that agree at every allowed step agree along every allowed run. -/
theorem Along.congr {Allowed Property Other : State -> Input -> Prop}
    (same : forall state input, Allowed state input -> (Property state input <-> Other state input))
    {state : State} {inputs : List Input} (allowed : Along step Allowed state inputs) :
    Along step Property state inputs <-> Along step Other state inputs := by
  induction inputs generalizing state with
  | nil => exact Iff.rfl
  | cons input rest inductionHypothesis =>
      rw [Along, Along, same state input allowed.1]
      apply and_congr_right
      intro _
      apply forall_congr'
      intro next
      apply forall_congr'
      intro stepped
      exact inductionHypothesis (allowed.2 next stepped)

/-- A restriction that holds at every step of a run holds at any one of them. -/
theorem along_iff_forall_step {Allowed : State -> Input -> Prop} {state : State}
    {inputs : List Input} :
    Along step Allowed state inputs <->
      forall before input after middle, inputs = before ++ input :: after ->
        run step state before = some middle -> Allowed middle input := by
  induction inputs generalizing state with
  | nil => simp [Along]
  | cons first rest inductionHypothesis =>
      constructor
      · rintro ⟨here, later⟩ before input after middle split reached
        cases before with
        | nil =>
            cases split
            cases reached
            exact here
        | cons other before =>
            cases split
            rcases Option.bind_eq_some_iff.mp reached with ⟨next, stepped, reached⟩
            exact inductionHypothesis.mp (later next stepped) before input after middle rfl reached
      · intro every
        refine ⟨every [] first rest state rfl rfl, fun next stepped => ?_⟩
        refine inductionHypothesis.mpr (fun before input after middle split reached => ?_)
        refine every (first :: before) input after middle (congrArg _ split) ?_
        rw [run_cons, stepped]
        exact reached

/-- A restriction on each input by itself is a restriction along the run. -/
theorem Along.and_mem {Allowed : State -> Input -> Prop} {Good : Input -> Prop} {state : State}
    {inputs : List Input} (allowed : Along step Allowed state inputs)
    (good : forall input, input ∈ inputs -> Good input) :
    Along step (fun before input => Allowed before input ∧ Good input) state inputs := by
  induction inputs generalizing state with
  | nil => trivial
  | cons input rest inductionHypothesis =>
      refine ⟨⟨allowed.1, good input List.mem_cons_self⟩, fun next stepped => ?_⟩
      exact inductionHypothesis (allowed.2 next stepped)
        (fun other member => good other (List.mem_cons_of_mem input member))

/-- What holds at every state holds along every run. -/
theorem along_of_forall {Allowed : State -> Input -> Prop}
    (every : forall state input, Allowed state input) (state : State) (inputs : List Input) :
    Along step Allowed state inputs := by
  induction inputs generalizing state with
  | nil => trivial
  | cons input rest inductionHypothesis =>
      exact ⟨every state input, fun next _ => inductionHypothesis next⟩

/-- A property of single steps that follows from an invariant of the allowed
runs holds along every allowed run. -/
theorem Along.of_invariant {Allowed Property : State -> Input -> Prop} (Invariant : State -> Prop)
    (preserved : forall state input next, Invariant state -> Allowed state input ->
      step state input = some next -> Invariant next)
    (holds : forall state input, Invariant state -> Allowed state input -> Property state input)
    {state : State} {inputs : List Input} (start : Invariant state)
    (allowed : Along step Allowed state inputs) : Along step Property state inputs := by
  induction inputs generalizing state with
  | nil => trivial
  | cons input rest inductionHypothesis =>
      refine ⟨holds state input start allowed.1, fun next stepped => ?_⟩
      exact inductionHypothesis (preserved state input next start allowed.1 stepped)
        (allowed.2 next stepped)

/-- When a step from a good state leads to a good state exactly if it is
allowed, a run stays good exactly if all its steps are allowed.  The machine
does not crash, since after a crash every input would be good. -/
theorem reached_iff_along {Invariant Property : State -> Prop} {Allowed : State -> Input -> Prop}
    (progress : forall state input, Invariant state ->
      exists next, step state input = some next ∧ Invariant next)
    (exact : forall state input next, Property state -> step state input = some next ->
      (Property next <-> Allowed state input))
    {state : State} (invariant : Invariant state) (start : Property state) (inputs : List Input) :
    (forall before after final, inputs = before ++ after -> run step state before = some final ->
      Property final) <-> Along step Allowed state inputs := by
  induction inputs generalizing state with
  | nil =>
      refine ⟨fun _ => trivial, fun _ before after final split reached => ?_⟩
      rw [(List.append_eq_nil_iff.mp split.symm).1] at reached
      cases reached
      exact start
  | cons input rest inductionHypothesis =>
      rcases progress state input invariant with ⟨next, stepped, kept⟩
      constructor
      · intro every
        have reached : run step state [input] = some next := by
          rw [run_cons, stepped, Option.bind_some, run_nil]
        have good : Property next := every [input] rest next rfl reached
        refine ⟨(exact state input next start stepped).mp good, fun other same => ?_⟩
        cases stepped.symm.trans same
        apply (inductionHypothesis kept good).mp
        intro before after final split reached
        apply every (input :: before) after final (congrArg _ split)
        rw [run_cons, stepped, Option.bind_some, reached]
      · rintro ⟨allowed, later⟩ before after final split reached
        have good := (exact state input next start stepped).mpr allowed
        cases before with
        | nil =>
            cases reached
            exact start
        | cons first before =>
            cases split
            rw [run_cons, stepped, Option.bind_some] at reached
            exact (inductionHypothesis kept good).mpr (later next stepped) before after final rfl reached

/-! ## Machines that do not crash -/

section Total

variable {next : State -> Input -> State}

/-- An invariant that may speak about the inputs so far. -/
theorem foldl_history (Invariant : List Input -> State -> Prop) {state : State}
    (start : Invariant [] state)
    (preserved : forall done middle input, Invariant done middle ->
      Invariant (done ++ [input]) (next middle input)) (inputs : List Input) :
    Invariant inputs (inputs.foldl next state) := by
  induction inputs using List.reverseRecOn with
  | nil => exact start
  | append_singleton done input inductionHypothesis =>
      rw [List.foldl_append]
      exact preserved done _ input inductionHypothesis

/-- The property holds in every state that the run goes through. -/
def Always (next : State -> Input -> State) (Property : State -> Prop) (state : State)
    (inputs : List Input) : Prop :=
  forall before after, inputs = before ++ after -> Property (before.foldl next state)

/-- A condition on all prefixes, by the length of the prefix. -/
theorem forall_prefix_of_forall_take {inputs : List Input} {Property : List Input -> Prop}
    (every : forall count : Fin (inputs.length + 1), Property (inputs.take count)) :
    forall before after, inputs = before ++ after -> Property before := by
  intro before after split
  have short : before.length < inputs.length + 1 := by
    rw [split, List.length_append]
    omega
  have same : inputs.take before.length = before := by
    rw [split]
    exact List.take_left
  have taken := every ⟨before.length, short⟩
  rw [same] at taken
  exact taken

/-- An invariant whose steps may use what holds throughout the run. -/
theorem foldl_of_always {Invariant Property : State -> Prop} {state : State} {inputs : List Input}
    (preserved : forall middle input, Invariant middle -> Property middle -> Invariant (next middle input))
    (start : Invariant state) (always : Always next Property state inputs) :
    Invariant (inputs.foldl next state) := by
  induction inputs using List.reverseRecOn with
  | nil => exact start
  | append_singleton done input inductionHypothesis =>
      rw [List.foldl_append]
      apply preserved
      · apply inductionHypothesis
        intro before after split
        apply always before (after ++ [input])
        rw [split, List.append_assoc]
      · exact always done [input] rfl

theorem run_total (state : State) (inputs : List Input) :
    run (total next) state inputs = some (inputs.foldl next state) := by
  induction inputs generalizing state with
  | nil => rfl
  | cons input rest inductionHypothesis => exact inductionHypothesis (next state input)

/-- A machine that does not crash stays good exactly if all its steps are
allowed. -/
theorem always_iff_along {Property : State -> Prop} {Allowed : State -> Input -> Prop}
    (exact : forall state input, Property state -> (Property (next state input) <-> Allowed state input))
    {state : State} (start : Property state) (inputs : List Input) :
    Always next Property state inputs <-> Along (total next) Allowed state inputs := by
  have exactly : forall middle input reached, Property middle -> total next middle input = some reached ->
      (Property reached <-> Allowed middle input) := by
    intro middle input reached good stepped
    cases stepped
    exact exact middle input good
  have progress : forall middle input, True -> exists reached, total next middle input = some reached ∧ True :=
    fun middle input _ => ⟨next middle input, rfl, trivial⟩
  have rule := reached_iff_along progress exactly trivial start inputs
  rw [← rule]
  constructor
  · intro always before after final split reached
    rw [run_total] at reached
    cases reached
    exact always before after split
  · intro every before after split
    exact every before after _ split (run_total state before)

end Total

end Library
end SecureServices
