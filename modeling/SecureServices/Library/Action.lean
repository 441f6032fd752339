import Mathlib.Data.List.Basic

namespace SecureServices
namespace Library

/-!
# Computations that may stop early

A routine that drives hardware reads and writes a state, may return early with
an error, and leaves behind what it did until then.  Such a routine is a
function from states to a result or a reason, together with the state left
behind.  What it ensures is stated as a weakest precondition with two
postconditions, one for a result and one for a reason, and the rules below
compute it along the text of the routine.
-/

/-- A computation on a state that returns a result, or stops for a reason.
Either way the state that it left behind survives. -/
def Action (State Stop Result : Type) : Type := State -> Except Stop Result × State

namespace Action

variable {State Outer Local Stop Result Next : Type}

/-- Go on from the result, if there is one. -/
def andThen (action : Action State Stop Result) (next : Result -> Action State Stop Next) :
    Action State Stop Next := fun state =>
  match action state with
  | (.ok result, after) => next result after
  | (.error reason, after) => (.error reason, after)

instance : Monad (Action State Stop) where
  pure result := fun state => (.ok result, state)
  bind := andThen

def stop (reason : Stop) : Action State Stop Result := fun state => (.error reason, state)

/-- Look at the state. -/
def inspect (view : State -> Result) : Action State Stop Result := fun state => (.ok (view state), state)

/-- Stop unless the condition holds. -/
def require (condition : Bool) (reason : Stop) : Action State Stop Unit :=
  if condition then pure () else stop reason

/-- Turn the reasons that have a result of their own into that result. -/
def recover (action : Action State Stop Result) (result : Stop -> Option Result) :
    Action State Stop Result := fun state =>
  match action state with
  | (.ok value, after) => (.ok value, after)
  | (.error reason, after) =>
      match result reason with
      | some value => (.ok value, after)
      | none => (.error reason, after)

/-- Run next to a part of the state that is not touched. -/
def beside (action : Action State Stop Result) : Action (Local × State) Stop Result :=
  fun (own, state) =>
    let (result, after) := action state
    (result, (own, after))

/-- Set the part of the state that other routines run beside. -/
def assign (value : Local) : Action (Local × State) Stop Unit := fun state => (.ok (), (value, state.2))

/-- Run with a variable of its own, which is gone afterwards. -/
def withLocal (initial : Local) (action : Action (Local × State) Stop Result) :
    Action State Stop Result := fun state =>
  let (result, (_, after)) := action (initial, state)
  (result, after)

/-- The same, beside a part of the state. -/
def withInner (initial : Local) (action : Action (Outer × (Local × State)) Stop Result) :
    Action (Outer × State) Stop Result := fun state =>
  let (result, (outer, (_, after))) := action (state.1, (initial, state.2))
  (result, (outer, after))

/-- `for index in first..first + count`. -/
def forRange (body : Nat -> Action State Stop Unit) : Nat -> Nat -> Action State Stop Unit
  | _, 0 => pure ()
  | first, count + 1 => do
      body first
      forRange body (first + 1) count

/-! ## Single runs -/

section Runs

variable {first : Action State Stop Result} {next : Result -> Action State Stop Next} {state after : State}

theorem bind_of_ok {result : Result} (outcome : first state = (.ok result, after)) :
    (first >>= next) state = next result after := by
  change andThen first next state = _
  rw [andThen, outcome]

theorem bind_of_error {reason : Stop} (outcome : first state = (.error reason, after)) :
    (first >>= next) state = (.error reason, after) := by
  change andThen first next state = _
  rw [andThen, outcome]

theorem beside_eq {action : Action State Stop Result} {result : Except Stop Result}
    (outcome : action state = (result, after)) (own : Local) :
    action.beside (own, state) = (result, (own, after)) := by
  rw [beside]
  dsimp only
  rw [outcome]

theorem forRange_of_ok {body : Nat -> Action State Stop Unit} {index : Nat}
    (outcome : body index state = (.ok (), after)) (count : Nat) :
    forRange body index (count + 1) state = forRange body (index + 1) count after :=
  bind_of_ok outcome

theorem forRange_of_error {body : Nat -> Action State Stop Unit} {index : Nat} {reason : Stop}
    (outcome : body index state = (.error reason, after)) (count : Nat) :
    forRange body index (count + 1) state = (.error reason, after) :=
  bind_of_error outcome

end Runs

/-! ## Weakest preconditions -/

/-- From this state the computation returns with the first postcondition, or
stops with the second. -/
def Ensures (action : Action State Stop Result) (returned : Result -> State -> Prop)
    (stopped : Stop -> State -> Prop) (state : State) : Prop :=
  (forall result after, action state = (.ok result, after) -> returned result after) ∧
    forall reason after, action state = (.error reason, after) -> stopped reason after

section Rules

variable {returned : Result -> State -> Prop} {stopped : Stop -> State -> Prop} {state : State}
  {action : Action State Stop Result}

theorem ensures_of_ok {result : Result} {after : State} (outcome : action state = (.ok result, after)) :
    action.Ensures returned stopped state <-> returned result after := by
  constructor
  · intro holds
    exact holds.1 result after outcome
  · intro holds
    constructor
    · intro value last same
      rw [outcome] at same
      cases same
      exact holds
    · intro reason last impossible
      rw [outcome] at impossible
      cases impossible

theorem ensures_of_error {reason : Stop} {after : State} (outcome : action state = (.error reason, after)) :
    action.Ensures returned stopped state <-> stopped reason after := by
  constructor
  · intro holds
    exact holds.2 reason after outcome
  · intro holds
    constructor
    · intro value last impossible
      rw [outcome] at impossible
      cases impossible
    · intro cause last same
      rw [outcome] at same
      cases same
      exact holds

/-- Every run ends, one way or the other. -/
theorem outcome_cases (action : Action State Stop Result) (state : State) :
    (exists result after, action state = (.ok result, after)) ∨
      exists reason after, action state = (.error reason, after) := by
  rcases action state with ⟨reason | result, after⟩
  · exact .inr ⟨reason, after, rfl⟩
  · exact .inl ⟨result, after, rfl⟩

/-- A computation that cannot stop returns. -/
theorem Ensures.returns (holds : action.Ensures returned (fun _ _ => False) state) :
    exists result after, action state = (.ok result, after) ∧ returned result after := by
  rcases action.outcome_cases state with ⟨result, after, outcome⟩ | ⟨reason, after, outcome⟩
  · exact ⟨result, after, outcome, holds.1 result after outcome⟩
  · exact (holds.2 reason after outcome).elim

@[simp] theorem ensures_pure {result : Result} :
    (pure result : Action State Stop Result).Ensures returned stopped state <-> returned result state :=
  ensures_of_ok rfl

@[simp] theorem ensures_stop {reason : Stop} :
    (stop reason : Action State Stop Result).Ensures returned stopped state <-> stopped reason state :=
  ensures_of_error rfl

@[simp] theorem ensures_inspect {view : State -> Result} :
    (inspect view : Action State Stop Result).Ensures returned stopped state <-> returned (view state) state :=
  ensures_of_ok rfl

@[simp] theorem ensures_bind {first : Action State Stop Next} {next : Next -> Action State Stop Result} :
    (first >>= next).Ensures returned stopped state <->
      first.Ensures (fun result => (next result).Ensures returned stopped) stopped state := by
  have chained : (first >>= next) state = andThen first next state := rfl
  unfold andThen at chained
  rcases first.outcome_cases state with ⟨result, after, outcome⟩ | ⟨reason, after, outcome⟩
  · rw [outcome] at chained
    rw [ensures_of_ok outcome]
    unfold Ensures
    rw [chained]
  · rw [outcome] at chained
    rw [ensures_of_error outcome, ensures_of_error chained]

theorem Ensures.always : action.Ensures (fun _ _ => True) (fun _ _ => True) state :=
  ⟨fun _ _ _ => trivial, fun _ _ _ => trivial⟩

theorem Ensures.mono (holds : action.Ensures returned stopped state)
    {returned' : Result -> State -> Prop} {stopped' : Stop -> State -> Prop}
    (result : forall value after, returned value after -> returned' value after)
    (reason : forall cause after, stopped cause after -> stopped' cause after) :
    action.Ensures returned' stopped' state :=
  ⟨fun value after outcome => result value after (holds.1 value after outcome),
    fun cause after outcome => reason cause after (holds.2 cause after outcome)⟩

/-- Two facts about one run. -/
theorem Ensures.and {returned' : Result -> State -> Prop} {stopped' : Stop -> State -> Prop}
    (left : action.Ensures returned stopped state) (right : action.Ensures returned' stopped' state) :
    action.Ensures (fun value after => returned value after ∧ returned' value after)
      (fun cause after => stopped cause after ∧ stopped' cause after) state :=
  ⟨fun value after outcome => ⟨left.1 value after outcome, right.1 value after outcome⟩,
    fun cause after outcome => ⟨left.2 cause after outcome, right.2 cause after outcome⟩⟩

theorem ensures_require {condition : Bool} {reason : Stop} {returned : Unit -> State -> Prop} :
    (require condition reason).Ensures returned stopped state <->
      (condition = true -> returned () state) ∧ (condition = false -> stopped reason state) := by
  cases condition <;> simp [require]

theorem ensures_recover {result : Stop -> Option Result} :
    (action.recover result).Ensures returned stopped state <->
      action.Ensures returned
        (fun reason after =>
          match result reason with
          | some value => returned value after
          | none => stopped reason after) state := by
  rcases action.outcome_cases state with ⟨value, after, outcome⟩ | ⟨reason, after, outcome⟩
  · rw [ensures_of_ok outcome]
    apply ensures_of_ok
    unfold recover
    rw [outcome]
  · rw [ensures_of_error outcome]
    cases own : result reason with
    | none =>
        apply ensures_of_error
        unfold recover
        rw [outcome]
        dsimp only
        rw [own]
    | some value =>
        apply ensures_of_ok
        unfold recover
        rw [outcome]
        dsimp only
        rw [own]

/-- A computation that runs another one somewhere else. -/
theorem ensures_of_map {Elsewhere : Type} {inner : Action Elsewhere Stop Result} {there : Elsewhere}
    {back : Elsewhere -> State} (runs : action state = ((inner there).1, back (inner there).2)) :
    action.Ensures returned stopped state <->
      inner.Ensures (fun result after => returned result (back after))
        (fun reason after => stopped reason (back after)) there := by
  rcases inner.outcome_cases there with ⟨value, after, outcome⟩ | ⟨reason, after, outcome⟩
  · rw [outcome] at runs
    rw [ensures_of_ok outcome, ensures_of_ok runs]
  · rw [outcome] at runs
    rw [ensures_of_error outcome, ensures_of_error runs]

@[simp] theorem ensures_beside {returned : Result -> Local × State -> Prop}
    {stopped : Stop -> Local × State -> Prop} {pair : Local × State} :
    (action.beside).Ensures returned stopped pair <->
      action.Ensures (fun result after => returned result (pair.1, after))
        (fun reason after => stopped reason (pair.1, after)) pair.2 :=
  ensures_of_map rfl

@[simp] theorem ensures_assign {value : Local} {returned : Unit -> Local × State -> Prop}
    {stopped : Stop -> Local × State -> Prop} {pair : Local × State} :
    (assign value : Action (Local × State) Stop Unit).Ensures returned stopped pair <->
      returned () (value, pair.2) :=
  ensures_of_ok rfl

@[simp] theorem ensures_withLocal {initial : Local} {inner : Action (Local × State) Stop Result} :
    (withLocal initial inner).Ensures returned stopped state <->
      inner.Ensures (fun result after => returned result after.2)
        (fun reason after => stopped reason after.2) (initial, state) :=
  ensures_of_map rfl

@[simp] theorem ensures_withInner {initial : Local} {inner : Action (Outer × (Local × State)) Stop Result}
    {returned : Result -> Outer × State -> Prop} {stopped : Stop -> Outer × State -> Prop}
    {pair : Outer × State} :
    (withInner initial inner).Ensures returned stopped pair <->
      inner.Ensures (fun result after => returned result (after.1, after.2.2))
        (fun reason after => stopped reason (after.1, after.2.2)) (pair.1, (initial, pair.2)) :=
  ensures_of_map rfl

/-- The rule of the bounded loop.  The invariant speaks about the number of
the next iteration. -/
theorem ensures_forRange {body : Nat -> Action State Stop Unit} {first count : Nat}
    (Invariant : Nat -> State -> Prop) {stopped : Stop -> State -> Prop}
    (iterate : forall index, first ≤ index -> index < first + count -> forall state, Invariant index state ->
      (body index).Ensures (fun _ => Invariant (index + 1)) stopped state)
    {state : State} (initially : Invariant first state) :
    (forRange body first count).Ensures (fun _ => Invariant (first + count)) stopped state := by
  induction count generalizing first state with
  | zero => exact ensures_pure.mpr initially
  | succ count inductionHypothesis =>
      rw [forRange, ensures_bind]
      apply (iterate first (Nat.le_refl first) (by omega) state initially).mono
      · intro _ after kept
        have rest := inductionHypothesis
          (fun index lower upper => iterate index (by omega) (by omega)) kept
        rw [Nat.add_right_comm] at rest
        exact rest
      · exact fun _ _ holds => holds

end Rules

/-! ## Invariants -/

/-- From a state with the invariant the computation ends in one, and a reason
for which it stops is of a kind. -/
def Keeps (action : Action State Stop Result) (Invariant : State -> Prop) (Reason : Stop -> Prop) : Prop :=
  forall state, Invariant state ->
    action.Ensures (fun _ => Invariant) (fun reason after => Reason reason ∧ Invariant after) state

/-- The invariant holds of the part of the state that a routine runs on. -/
def Beside (Invariant : State -> Prop) (state : Local × State) : Prop := Invariant state.2

section Keeps

variable {action : Action State Stop Result} {Invariant : State -> Prop} {Reason : Stop -> Prop}

theorem keeps_pure {result : Result} : (pure result : Action State Stop Result).Keeps Invariant Reason :=
  fun _ holds => ensures_pure.mpr holds

theorem keeps_stop {reason : Stop} (kind : Reason reason) :
    (stop reason : Action State Stop Result).Keeps Invariant Reason :=
  fun _ holds => ensures_stop.mpr ⟨kind, holds⟩

theorem keeps_inspect {view : State -> Result} : (inspect view).Keeps Invariant Reason :=
  fun _ holds => ensures_inspect.mpr holds

theorem keeps_bind {first : Action State Stop Next} {next : Next -> Action State Stop Result}
    (earlier : first.Keeps Invariant Reason) (later : forall result, (next result).Keeps Invariant Reason) :
    (first >>= next).Keeps Invariant Reason := by
  intro state holds
  rw [ensures_bind]
  apply (earlier state holds).mono
  · exact fun result after kept => later result after kept
  · exact fun _ _ stopped => stopped

theorem keeps_require {condition : Bool} {reason : Stop} (kind : Reason reason) :
    (require condition reason : Action State Stop Unit).Keeps Invariant Reason := by
  cases condition with
  | true => exact keeps_pure
  | false => exact keeps_stop kind

theorem keeps_recover {result : Stop -> Option Result} (keeps : action.Keeps Invariant Reason) :
    (action.recover result).Keeps Invariant Reason := by
  intro state holds
  rw [ensures_recover]
  apply (keeps state holds).mono
  · exact fun _ _ kept => kept
  · intro reason after stopped
    cases result reason with
    | none => exact stopped
    | some _ => exact stopped.2

theorem keeps_beside (keeps : action.Keeps Invariant Reason) :
    (action.beside : Action (Local × State) Stop Result).Keeps (Beside Invariant) Reason :=
  fun _ holds => ensures_beside.mpr (keeps _ holds)

theorem keeps_assign {value : Local} :
    (assign value : Action (Local × State) Stop Unit).Keeps (Beside Invariant) Reason :=
  fun _ holds => ensures_assign.mpr holds

theorem keeps_withLocal {initial : Local} {inner : Action (Local × State) Stop Result}
    (keeps : inner.Keeps (Beside Invariant) Reason) :
    (withLocal initial inner).Keeps Invariant Reason :=
  fun _ holds => ensures_withLocal.mpr (keeps _ holds)

theorem keeps_withInner {initial : Local} {inner : Action (Outer × (Local × State)) Stop Result}
    (keeps : inner.Keeps (Beside (Beside Invariant)) Reason) :
    (withInner initial inner).Keeps (Beside Invariant) Reason :=
  fun _ holds => ensures_withInner.mpr (keeps _ holds)

theorem keeps_forRange {body : Nat -> Action State Stop Unit} {first count : Nat}
    (keeps : forall index, (body index).Keeps Invariant Reason) :
    (forRange body first count).Keeps Invariant Reason :=
  fun _ holds => ensures_forRange (fun _ => Invariant) (fun index _ _ state held => keeps index state held) holds

end Keeps

end Action
end Library
end SecureServices
