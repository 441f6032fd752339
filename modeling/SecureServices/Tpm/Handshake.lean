import SecureServices.Tpm.Translation

namespace SecureServices
namespace Tpm

open Library Ffa

/-!
# Handshakes

A request to the external TPM is a write to a control register, and the wait
for one or two registers to show that the TPM has done it.  The two interfaces
differ in which registers these are.  `start_command` has the same form.

For a TPM of which nothing is known, the record says what happened: the code
that is returned can be read off the values that the TPM has shown.  For a TPM
that answers every wait before the clock gives up, the handshake succeeds.
-/

/-- A wait for bits of a register. -/
structure Awaited where
  port : Port
  bitSet : U32
  bitClear : U32
  timeout : Nat

/-- A request, and what it waits for. -/
structure Handshake where
  port : Port
  value : U32
  awaited : List Awaited

/-- The registers and values of each request. -/
def Operation.handshake : Operation -> Bool -> Handshake
  | .goIdle, true => ⟨.crbControlRequest, ptpCrbControlAreaRequestGoIdle,
      [⟨.crbControlRequest, 0, ptpCrbControlAreaRequestGoIdle, ptpTimeoutC⟩,
        ⟨.crbControlStatus, ptpCrbControlAreaStatusTpmIdle, 0, ptpTimeoutC⟩]⟩
  | .cmdReady, true => ⟨.crbControlRequest, ptpCrbControlAreaRequestCommandReady,
      [⟨.crbControlRequest, 0, ptpCrbControlAreaRequestCommandReady, ptpTimeoutC⟩,
        ⟨.crbControlStatus, 0, ptpCrbControlAreaStatusTpmIdle, ptpTimeoutC⟩]⟩
  | .start, true => ⟨.crbControlStart, ptpCrbControlStart,
      [⟨.crbControlStart, 0, ptpCrbControlStart, ptpTimeoutMax⟩]⟩
  | .localityRequest, true => ⟨.localityControl, ptpCrbLocalityControlRequestAccess,
      [⟨.localityStatus, ptpCrbLocalityStatusGranted, 0, ptpTimeoutA⟩]⟩
  | .localityRelinquish, true => ⟨.localityControl, ptpCrbLocalityControlRelinquish,
      [⟨.localityStatus, 0, ptpCrbLocalityStatusGranted, ptpTimeoutA⟩]⟩
  | .goIdle, false | .cmdReady, false => ⟨.status, ptpFifoStsReady,
      [⟨.status, ptpFifoStsReady, 0, ptpTimeoutB⟩]⟩
  | .start, false => ⟨.status, ptpFifoStsGo,
      [⟨.status, ptpFifoStsValid ||| ptpFifoStsData, 0, ptpTimeoutMax⟩]⟩
  | .localityRequest, false => ⟨.access, ptpFifoAccRquuse,
      [⟨.access, ptpFifoAccActive ||| ptpFifoValid, 0, ptpTimeoutA⟩]⟩
  | .localityRelinquish, false => ⟨.access, ptpFifoAccActive,
      [⟨.access, ptpFifoValid, ptpFifoAccActive, ptpTimeoutA⟩]⟩

/-- The value that a register shows is the one that is waited for. -/
def Awaited.isMet (awaited : Awaited) (isCrbInterface : Bool) (value : U32) : Bool :=
  let regRead := if isCrbInterface then value else (value.setWidth 8).setWidth 32
  regRead &&& awaited.bitSet == awaited.bitSet && regRead &&& awaited.bitClear == 0

section

variable {Device : Type} (tpm : ExternalTpm Device) (locality : Locality) (isCrbInterface : Bool)

/-- Wait for one after the other, as long as each is met in time. -/
def waitAll : List Awaited -> Routine Device ErrorCode
  | [] => pure .ok
  | awaited :: rest => do
      let status <- waitRegisterBits tpm locality isCrbInterface awaited.port awaited.bitSet awaited.bitClear
        awaited.timeout
      if status == .ok then waitAll rest else pure status

def shake (handshake : Handshake) : Routine Device ErrorCode := do
  writePort tpm locality handshake.port handshake.value
  waitAll tpm locality isCrbInterface handshake.awaited

/-- The request of the library for each operation; the command of `start` has
been copied by then. -/
def routineOf : Operation -> Routine Device ErrorCode
  | .goIdle => goIdle tpm locality isCrbInterface
  | .cmdReady => cmdReady tpm locality isCrbInterface
  | .start => startCommand tpm locality isCrbInterface
  | .localityRequest => localityRequest tpm locality isCrbInterface
  | .localityRelinquish => localityRelinquish tpm locality isCrbInterface

/-- Passing a code on changes nothing. -/
theorem pass_on (routine : Routine Device ErrorCode) :
    (routine >>= fun status => if status == .ok then pure .ok else pure status) = routine := by
  funext bench
  rcases routine.outcome_cases bench with ⟨code, after, outcome⟩ | ⟨reason, after, outcome⟩
  · rw [Action.bind_of_ok outcome, outcome]
    cases code <;> rfl
  · rw [Action.bind_of_error outcome, outcome]

theorem waitAll_single (awaited : Awaited) :
    waitAll tpm locality isCrbInterface [awaited] =
      waitRegisterBits tpm locality isCrbInterface awaited.port awaited.bitSet awaited.bitClear awaited.timeout :=
  pass_on _

theorem waitAll_pair (first second : Awaited) :
    waitAll tpm locality isCrbInterface [first, second] = (do
      let status <- waitRegisterBits tpm locality isCrbInterface first.port first.bitSet first.bitClear first.timeout
      if status == .ok then
        waitRegisterBits tpm locality isCrbInterface second.port second.bitSet second.bitClear second.timeout
      else pure status) := by
  rw [← waitAll_single tpm locality isCrbInterface second]
  rfl

/-- Every request is its handshake. -/
theorem routineOf_eq (operation : Operation) :
    routineOf tpm locality isCrbInterface operation =
      shake tpm locality isCrbInterface (operation.handshake isCrbInterface) := by
  cases isCrbInterface with
  | true =>
      cases operation with
      | goIdle | cmdReady =>
          simp only [shake, Operation.handshake, waitAll_pair]
          rfl
      | start | localityRequest | localityRelinquish =>
          simp only [shake, Operation.handshake, waitAll_single]
          rfl
  | false =>
      cases operation with
      | goIdle | cmdReady | start | localityRequest | localityRelinquish =>
          simp only [shake, Operation.handshake, waitAll_single]
          rfl

/-! ## What is recorded -/

/-- Between the two there were these accesses, and no others. -/
structure Adds (added : List Access) (before after : Bench Device) : Prop where
  crb : after.crb = before.crb
  turn : after.turn = before.turn
  accesses : after.accesses = before.accesses ++ added

/-- The values that a port has shown. -/
def shown (port : Port) (values : List U32) : List Access := values.map (Access.read port)

/-- How waits can end, and what has been read by then.  Each wait reads its
register until the value is the one that it waits for. -/
inductive Waits (isCrbInterface : Bool) : List Awaited -> Except Stop ErrorCode -> List Access -> Prop
  | done : Waits isCrbInterface [] (.ok .ok) []
  | met {awaited : Awaited} {rest : List Awaited} {misses : List U32} {value : U32}
      {outcome : Except Stop ErrorCode} {later : List Access} :
      (forall missed, missed ∈ misses -> awaited.isMet isCrbInterface missed = false) ->
      awaited.isMet isCrbInterface value = true -> Waits isCrbInterface rest outcome later ->
      Waits isCrbInterface (awaited :: rest) outcome (shown awaited.port (misses ++ [value]) ++ later)
  | expired {awaited : Awaited} {rest : List Awaited} {misses : List U32} : misses ≠ [] ->
      (forall missed, missed ∈ misses -> awaited.isMet isCrbInterface missed = false) ->
      Waits isCrbInterface (awaited :: rest) (.ok .denied) (shown awaited.port misses)
  | refused {awaited : Awaited} {rest : List Awaited} {misses : List U32} : misses ≠ [] ->
      (forall missed, missed ∈ misses -> awaited.isMet isCrbInterface missed = false) ->
      Waits isCrbInterface (awaited :: rest) (.error (.fault .yieldRefused)) (shown awaited.port misses)

section Recorded

variable {tpm locality isCrbInterface} {before middle after : Bench Device} {earlier later : List Access}

theorem Adds.trans (first : Adds earlier before middle) (second : Adds later middle after) :
    Adds (earlier ++ later) before after where
  crb := second.crb.trans first.crb
  turn := second.turn.trans first.turn
  accesses := by rw [second.accesses, first.accesses, List.append_assoc]

/-- One access, after which the TPM is in any state. -/
theorem Adds.single (bench : Bench Device) (access : Access) (device : Device) :
    Adds [access] bench { bench with device, accesses := bench.accesses ++ [access] } :=
  ⟨rfl, rfl, rfl⟩

/-- The poll of `wait_register_bits`. -/
abbrev pollBits (tpm : ExternalTpm Device) (locality : Locality) (isCrbInterface : Bool) (awaited : Awaited) :
    Routine Device (Option ErrorCode) := do
  let value <- readPort tpm locality awaited.port
  pure (if awaited.isMet isCrbInterface value then some ErrorCode.ok else none)

theorem ensures_pollBits {awaited : Awaited} {returned : Option ErrorCode -> Bench Device -> Prop}
    {stopped : Stop -> Bench Device -> Prop} {bench : Bench Device} :
    (pollBits tpm locality isCrbInterface awaited).Ensures returned stopped bench <->
      returned
        (if awaited.isMet isCrbInterface (tpm.read bench.device locality awaited.port).1 then some ErrorCode.ok
          else none)
        { bench with
          device := (tpm.read bench.device locality awaited.port).2
          accesses := bench.accesses ++ [.read awaited.port (tpm.read bench.device locality awaited.port).1] } := by
  rw [Action.ensures_bind, ensures_readPort, Action.ensures_pure]

theorem ensures_waitRegisterBits {awaited : Awaited} {returned : ErrorCode -> Bench Device -> Prop}
    {stopped : Stop -> Bench Device -> Prop} {bench : Bench Device} :
    (waitRegisterBits tpm locality isCrbInterface awaited.port awaited.bitSet awaited.bitClear
        awaited.timeout).Ensures returned stopped bench <->
      (pollUntil tpm (pollBits tpm locality isCrbInterface awaited)
          (tpm.startTimeout bench.device awaited.timeout).1).Ensures returned
        (fun reason after =>
          match reason with
          | .error code => returned code after
          | .fault fault => stopped (.fault fault) after)
        { bench with device := (tpm.startTimeout bench.device awaited.timeout).2 } := by
  rw [waitRegisterBits, ensures_returning, Action.ensures_bind, ensures_startTimeout]
  rfl

theorem ensures_yield {returned : Unit -> Bench Device -> Prop} {stopped : Stop -> Bench Device -> Prop}
    {bench : Bench Device} :
    (yield tpm).Ensures returned stopped bench <->
      ((tpm.yield bench.device).1 = true -> returned () { bench with device := (tpm.yield bench.device).2 }) ∧
      ((tpm.yield bench.device).1 = false ->
        stopped (.fault .yieldRefused) { bench with device := (tpm.yield bench.device).2 }) := by
  have outcome : yield tpm bench =
      (if (tpm.yield bench.device).1 then .ok () else .error (.fault .yieldRefused),
        { bench with device := (tpm.yield bench.device).2 }) := rfl
  cases success : (tpm.yield bench.device).1 with
  | true =>
      rw [success, if_pos rfl] at outcome
      rw [Action.ensures_of_ok outcome]
      simp
  | false =>
      rw [success, if_neg (by decide)] at outcome
      rw [Action.ensures_of_error outcome]
      simp

/-- A loop that polls ends with the first value that it waits for. -/
theorem pollUntil_recorded (awaited : Awaited) (polls : Nat) (bench : Bench Device) :
    (pollUntil tpm (pollBits tpm locality isCrbInterface awaited) polls).Ensures
      (fun code after => code = .ok ∧ exists misses value,
        (forall missed, missed ∈ misses -> awaited.isMet isCrbInterface missed = false) ∧
        awaited.isMet isCrbInterface value = true ∧ Adds (shown awaited.port (misses ++ [value])) bench after)
      (fun reason after => (reason = .error .denied ∨ reason = .fault .yieldRefused) ∧
        exists misses, misses ≠ [] ∧
          (forall missed, missed ∈ misses -> awaited.isMet isCrbInterface missed = false) ∧
          Adds (shown awaited.port misses) bench after)
      bench := by
  induction polls generalizing bench with
  | zero =>
      rw [pollUntil, Action.ensures_bind, ensures_pollBits]
      cases met : awaited.isMet isCrbInterface (tpm.read bench.device locality awaited.port).1 with
      | true =>
          rw [if_pos rfl, Action.ensures_pure]
          exact ⟨rfl, [], _, fun _ impossible => absurd impossible List.not_mem_nil, met, .single bench _ _⟩
      | false =>
          rw [if_neg (by decide), Action.ensures_stop]
          refine ⟨.inl rfl, [_], List.cons_ne_nil _ _, fun missed member => ?_, .single bench _ _⟩
          rw [List.mem_singleton.mp member]
          exact met
  | succ polls inductionHypothesis =>
      rw [pollUntil, Action.ensures_bind, ensures_pollBits]
      cases met : awaited.isMet isCrbInterface (tpm.read bench.device locality awaited.port).1 with
      | true =>
          rw [if_pos rfl, Action.ensures_pure]
          exact ⟨rfl, [], _, fun _ impossible => absurd impossible List.not_mem_nil, met, .single bench _ _⟩
      | false =>
          have missed : forall other, other ∈ [(tpm.read bench.device locality awaited.port).1] ->
              awaited.isMet isCrbInterface other = false := by
            intro other member
            rw [List.mem_singleton.mp member]
            exact met
          rw [if_neg (by decide), Action.ensures_bind, ensures_yield]
          constructor
          · intro _
            apply (inductionHypothesis _).mono
            · rintro code after ⟨success, misses, value, others, hit, adds⟩
              refine ⟨success, _ :: misses, value, ?_, hit, Adds.trans (.single bench _ _) adds⟩
              exact List.forall_mem_cons.mpr ⟨met, others⟩
            · rintro reason after ⟨kind, misses, _, others, adds⟩
              refine ⟨kind, _ :: misses, List.cons_ne_nil _ _, ?_, Adds.trans (.single bench _ _) adds⟩
              exact List.forall_mem_cons.mpr ⟨met, others⟩
          · intro _
            exact ⟨.inr rfl, [_], List.cons_ne_nil _ _, missed, .single bench _ _⟩

theorem waitAll_recorded (awaited : List Awaited) (bench : Bench Device) :
    (waitAll tpm locality isCrbInterface awaited).Ensures
      (fun code after => exists reads, Waits isCrbInterface awaited (.ok code) reads ∧ Adds reads bench after)
      (fun reason after => exists reads,
        Waits isCrbInterface awaited (.error reason) reads ∧ Adds reads bench after)
      bench := by
  induction awaited generalizing bench with
  | nil =>
      rw [waitAll, Action.ensures_pure]
      exact ⟨[], .done, rfl, rfl, (List.append_nil _).symm⟩
  | cons awaited rest inductionHypothesis =>
      rw [waitAll, Action.ensures_bind, ensures_waitRegisterBits]
      apply (pollUntil_recorded awaited _ _).mono
      · rintro code middle ⟨rfl, misses, value, missed, met, adds⟩
        rw [if_pos (by decide)]
        apply (inductionHypothesis middle).mono
        · rintro code after ⟨reads, waits, more⟩
          exact ⟨_, .met missed met waits, Adds.trans ⟨adds.crb, adds.turn, adds.accesses⟩ more⟩
        · rintro reason after ⟨reads, waits, more⟩
          exact ⟨_, .met missed met waits, Adds.trans ⟨adds.crb, adds.turn, adds.accesses⟩ more⟩
      · rintro reason after ⟨rfl | rfl, misses, some, missed, adds⟩
        · dsimp only
          rw [if_neg (by decide), Action.ensures_pure]
          exact ⟨_, .expired some missed, adds.crb, adds.turn, adds.accesses⟩
        · exact ⟨_, .refused some missed, adds.crb, adds.turn, adds.accesses⟩

end Recorded

/-- Whatever the TPM and the clock do, a request writes its value once, and
then reads the registers that it waits for and no others; it returns a success
exactly if each has shown the value that it waits for, a denial if the last one
has not, and ends the service only when a yield is refused. -/
theorem requests_recorded (operation : Operation) (bench : Bench Device) :
    let handshake := operation.handshake isCrbInterface
    let (outcome, after) := routineOf tpm locality isCrbInterface operation bench
    exists reads, Waits isCrbInterface handshake.awaited outcome reads ∧
      Adds (.write handshake.port handshake.value :: reads) bench after := by
  have ensured : (routineOf tpm locality isCrbInterface operation).Ensures
      (fun code after => exists reads,
        Waits isCrbInterface (operation.handshake isCrbInterface).awaited (.ok code) reads ∧
          Adds (.write (operation.handshake isCrbInterface).port (operation.handshake isCrbInterface).value :: reads)
            bench after)
      (fun reason after => exists reads,
        Waits isCrbInterface (operation.handshake isCrbInterface).awaited (.error reason) reads ∧
          Adds (.write (operation.handshake isCrbInterface).port (operation.handshake isCrbInterface).value :: reads)
            bench after) bench := by
    rw [routineOf_eq, shake, Action.ensures_bind, ensures_writePort]
    apply (waitAll_recorded _ _).mono
    · rintro code after ⟨reads, waits, adds⟩
      exact ⟨reads, waits, Adds.trans (.single bench _ _) adds⟩
    · rintro reason after ⟨reads, waits, adds⟩
      exact ⟨reads, waits, Adds.trans (.single bench _ _) adds⟩
  rcases (routineOf tpm locality isCrbInterface operation).outcome_cases bench with
    ⟨code, after, outcome⟩ | ⟨reason, after, outcome⟩
  · rw [outcome]
    exact ensured.1 code after outcome
  · rw [outcome]
    exact ensured.2 reason after outcome

/-! ## A TPM that answers -/

/-- One of the next reads of the register shows the value before the clock gives
up, no yield until then is refused, and afterwards the TPM is done. -/
def Answers (awaited : Awaited) (Done : Device -> Prop) : Nat -> Device -> Prop
  | 0, device =>
      awaited.isMet isCrbInterface (tpm.read device locality awaited.port).1 = true ∧
        Done (tpm.read device locality awaited.port).2
  | polls + 1, device =>
      let (value, after) := tpm.read device locality awaited.port
      if awaited.isMet isCrbInterface value then Done after
      else (tpm.yield after).1 = true ∧ Answers awaited Done polls (tpm.yield after).2

/-- The TPM answers one wait after the other. -/
def AnswersAll (Done : Device -> Prop) : List Awaited -> Device -> Prop
  | [], device => Done device
  | awaited :: rest, device =>
      let (polls, started) := tpm.startTimeout device awaited.timeout
      Answers tpm locality isCrbInterface awaited (AnswersAll Done rest) polls started

/-- The TPM does what it is asked for. -/
def Completes (handshake : Handshake) (Done : Device -> Prop) (device : Device) : Prop :=
  AnswersAll tpm locality isCrbInterface Done handshake.awaited
    (tpm.write device locality handshake.port handshake.value)

section Completes

variable {tpm locality isCrbInterface}

theorem pollUntil_answers {awaited : Awaited} {Done : Device -> Prop} {polls : Nat} {bench : Bench Device}
    (answers : Answers tpm locality isCrbInterface awaited Done polls bench.device) :
    (pollUntil tpm (pollBits tpm locality isCrbInterface awaited) polls).Ensures
      (fun code after => code = .ok ∧ Done after.device) (fun _ _ => False) bench := by
  induction polls generalizing bench with
  | zero =>
      rw [pollUntil, Action.ensures_bind, ensures_pollBits, if_pos answers.1, Action.ensures_pure]
      exact ⟨rfl, answers.2⟩
  | succ polls inductionHypothesis =>
      rw [pollUntil, Action.ensures_bind, ensures_pollBits]
      unfold Answers at answers
      dsimp only at answers
      split at answers
      next met =>
        rw [if_pos met, Action.ensures_pure]
        exact ⟨rfl, answers⟩
      next unmet =>
        rw [if_neg unmet, Action.ensures_bind, ensures_yield]
        constructor
        · exact fun _ => inductionHypothesis answers.2
        · exact fun refused => Bool.noConfusion (answers.1.symm.trans refused)

theorem waitAll_answers {awaited : List Awaited} {Done : Device -> Prop} {bench : Bench Device}
    (answers : AnswersAll tpm locality isCrbInterface Done awaited bench.device) :
    (waitAll tpm locality isCrbInterface awaited).Ensures (fun code after => code = .ok ∧ Done after.device)
      (fun _ _ => False) bench := by
  induction awaited generalizing bench with
  | nil =>
      rw [waitAll, Action.ensures_pure]
      exact ⟨rfl, answers⟩
  | cons awaited rest inductionHypothesis =>
      have first : Answers tpm locality isCrbInterface awaited (AnswersAll tpm locality isCrbInterface Done rest)
          (tpm.startTimeout bench.device awaited.timeout).1 (tpm.startTimeout bench.device awaited.timeout).2 :=
        answers
      rw [waitAll, Action.ensures_bind, ensures_waitRegisterBits]
      apply (pollUntil_answers first).mono
      · rintro code middle ⟨rfl, more⟩
        rw [if_pos (by decide)]
        exact inductionHypothesis more
      · exact fun _ _ impossible => impossible.elim

/-- A request that the TPM completes succeeds. -/
theorem routineOf_completes {operation : Operation} {Done : Device -> Prop} {bench : Bench Device}
    (completes : Completes tpm locality isCrbInterface (operation.handshake isCrbInterface) Done bench.device) :
    (routineOf tpm locality isCrbInterface operation).Ensures
      (fun code after => code = .ok ∧ Done after.device) (fun _ _ => False) bench := by
  rw [routineOf_eq, shake, Action.ensures_bind, ensures_writePort]
  exact waitAll_answers completes

end Completes

end

end Tpm
end SecureServices
