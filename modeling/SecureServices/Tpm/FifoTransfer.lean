import SecureServices.Tpm.Transaction

namespace SecureServices
namespace Tpm

open Library Ffa

/-!
# How a command goes through the FIFO

The FIFO branch of `copy_command_data` has two loops that share an index: the
outer one asks for a burst count, and the inner one sends as many bytes, or
what is left of the command.  A run of it is described by its bursts.  A count
that is returned is not zero, so every burst sends something, and the command
comes to its end unless a count cannot be read.
-/

/-- One burst: the count that was read, and the bytes that were sent. -/
structure Burst where
  count : U16
  bytes : List U8
deriving DecidableEq, Repr

/-- The bytes of the bursts, in order. -/
def burstBytes (bursts : List Burst) : List U8 := bursts.flatMap Burst.bytes

/-- What a routine returns that stops for this reason. -/
def Stop.outcome : Stop -> Except Stop ErrorCode
  | .error code => .ok code
  | .fault cause => .error (.fault cause)

variable {Device : Type}

/-- The bench after these bytes have been written to the FIFO. -/
def writeFifo (tpm : ExternalTpm Device) (locality : Locality) : List U8 -> Bench Device -> Bench Device
  | [], bench => bench
  | byte :: rest, bench =>
      writeFifo tpm locality rest (writePort tpm locality .dataFifo (byte.setWidth 32) bench).2

/-- Burst after burst: a count is read, and then no more bytes are sent than it
says. -/
inductive Bursts (tpm : ExternalTpm Device) (locality : Locality) :
    Bench Device -> List Burst -> Bench Device -> Prop
  | nil (bench : Bench Device) : Bursts tpm locality bench [] bench
  | cons {bench counted after : Bench Device} {burst : Burst} {rest : List Burst}
      (counts : fifoReadBurstCount tpm locality bench = (.ok burst.count, counted))
      (within : burst.bytes.length ≤ burst.count.toNat)
      (later : Bursts tpm locality (writeFifo tpm locality burst.bytes counted) rest after) :
      Bursts tpm locality bench (burst :: rest) after

variable {tpm : ExternalTpm Device} {locality : Locality}

/-! ## One burst -/

/-- A count that is returned is not zero, and reading it sends nothing. -/
theorem fifoReadBurstCount_control (tpm : ExternalTpm Device) (locality : Locality) :
    Performs Access.IsControl (fun count => count ≠ 0) (fifoReadBurstCount tpm locality) :=
  fifoReadBurstCount_performs (fun _ => rfl) (fun _ => rfl)

theorem burstCount_pos {bench after : Bench Device} {count : U16}
    (counts : fifoReadBurstCount tpm locality bench = (.ok count, after)) : 0 < count.toNat := by
  have nonzero := ((fifoReadBurstCount_control tpm locality bench).1 count after counts).1
  apply Nat.pos_of_ne_zero
  intro zero
  exact nonzero (BitVec.eq_of_toNat_eq zero)

/-- The burst ends with its count or with the command, whichever comes first. -/
theorem sendBurst_eq (tpm : ExternalTpm Device) (locality : Locality) {command : List U8} {len : Nat}
    (fits : len ≤ command.length) (count index : Nat) (bench : Bench Device) :
    let bytes := ((command.take len).drop index).take count
    sendBurst tpm locality len count index (command, bench) =
      (.ok (index + bytes.length), (command, writeFifo tpm locality bytes bench)) := by
  induction count generalizing index bench with
  | zero => rfl
  | succ count inductionHypothesis =>
      rw [sendBurst]
      by_cases more : index < len
      · have inside : index < command.length := Nat.lt_of_lt_of_le more fits
        have short : index < (command.take len).length := by
          rw [List.length_take]
          omega
        have loads : loadByte index (command, bench) = (.ok command[index], (command, bench)) := by
          unfold loadByte
          rw [List.getElem?_eq_getElem inside]
        rw [if_pos more, List.drop_eq_getElem_cons short, List.take_succ_cons, List.getElem_take]
        refine (Action.bind_of_ok loads).trans ((Action.bind_of_ok rfl).trans ?_)
        rw [inductionHypothesis, List.length_cons, Nat.add_right_comm, Nat.add_assoc]
        rfl
      · have ended : (command.take len).drop index = [] := by
          apply List.drop_eq_nil_of_le
          rw [List.length_take]
          omega
        rw [if_neg more, ended]
        rfl

/-! ## All bursts -/

/-- What is left after a burst. -/
theorem drop_after_burst (items : List U8) (index count : Nat) :
    items.drop (index + ((items.drop index).take count).length) = (items.drop index).drop count := by
  rw [List.length_take, ← List.drop_drop, ← List.drop_eq_drop_min]

/-- One round of the outer loop sends some of the rest. -/
theorem sendBursts_round {command : List U8} {len index : Nat} (fits : len ≤ command.length)
    (more : index < len) {bench counted : Bench Device} {granted : U16}
    (counts : fifoReadBurstCount tpm locality bench = (.ok granted, counted)) :
    exists bytes, 0 < bytes.length ∧ bytes.length ≤ granted.toNat ∧
      bytes ++ (command.take len).drop (index + bytes.length) = (command.take len).drop index ∧
      forall fuel, sendBursts tpm locality len (fuel + 1) index (command, bench) =
        sendBursts tpm locality len fuel (index + bytes.length)
          (command, writeFifo tpm locality bytes counted) := by
  have positive := burstCount_pos counts
  refine ⟨((command.take len).drop index).take granted.toNat, ?_, List.length_take_le _ _, ?_, ?_⟩
  · rw [List.length_take, List.length_drop, List.length_take]
    omega
  · rw [drop_after_burst, List.take_append_drop]
  · intro fuel
    have sends := sendBurst_eq tpm locality fits granted.toNat index counted
    rw [sendBursts, if_pos more]
    exact (Action.bind_of_ok (Action.beside_eq counts command)).trans (Action.bind_of_ok sends)

/-- How the outer loop ends from an index on, however many rounds it is allowed
beyond those that it needs. -/
inductive Sends (tpm : ExternalTpm Device) (locality : Locality) (command : List U8) (len index : Nat)
    (bench : Bench Device) : Prop
  | complete (bursts : List Burst) (last : Bench Device) (run : Bursts tpm locality bench bursts last)
      (sent : burstBytes bursts = (command.take len).drop index)
      (ends : forall fuel, len ≤ index + fuel ->
        sendBursts tpm locality len fuel index (command, bench) = (.ok (), (command, last)))
  | broken (bursts : List Burst) (last after : Bench Device) (reason : Stop)
      (run : Bursts tpm locality bench bursts last)
      (started : burstBytes bursts <+: (command.take len).drop index)
      (fewer : (burstBytes bursts).length < len - index)
      (fails : fifoReadBurstCount tpm locality last = (.error reason, after))
      (ends : forall fuel, len ≤ index + fuel ->
        sendBursts tpm locality len fuel index (command, bench) = (.error reason, (command, after)))

/-- A round first, and then as before. -/
theorem Sends.cons {command : List U8} {len index : Nat} {bench counted : Bench Device} {burst : Burst}
    (more : index < len) (counts : fifoReadBurstCount tpm locality bench = (.ok burst.count, counted))
    (within : burst.bytes.length ≤ burst.count.toNat)
    (split : burst.bytes ++ (command.take len).drop (index + burst.bytes.length) =
      (command.take len).drop index)
    (some : 0 < burst.bytes.length)
    (goes : forall fuel, sendBursts tpm locality len (fuel + 1) index (command, bench) =
      sendBursts tpm locality len fuel (index + burst.bytes.length)
        (command, writeFifo tpm locality burst.bytes counted))
    (rest : Sends tpm locality command len (index + burst.bytes.length)
      (writeFifo tpm locality burst.bytes counted)) : Sends tpm locality command len index bench := by
  have step : forall {result}, (forall fuel, len ≤ index + burst.bytes.length + fuel ->
      sendBursts tpm locality len fuel (index + burst.bytes.length)
        (command, writeFifo tpm locality burst.bytes counted) = result) ->
      forall fuel, len ≤ index + fuel ->
        sendBursts tpm locality len fuel index (command, bench) = result := by
    intro result ends fuel enough
    rcases Nat.exists_eq_succ_of_ne_zero (show fuel ≠ 0 by omega) with ⟨spare, rfl⟩
    exact (goes spare).trans (ends spare (by omega))
  cases rest with
  | complete bursts last run sent ends =>
      refine .complete (burst :: bursts) last (.cons counts within run) ?_ (step ends)
      rw [← split, ← sent]
      rfl
  | broken bursts last after reason run started fewer fails ends =>
      refine .broken (burst :: bursts) last after reason (.cons counts within run) ?_ ?_ fails (step ends)
      · rw [← split]
        exact (List.prefix_append_right_inj burst.bytes).mpr started
      · rw [burstBytes, List.flatMap_cons, List.length_append]
        change _ + (burstBytes bursts).length < _
        omega

/-- The bursts send the rest of the command, unless a count cannot be read. -/
theorem sendBursts_run {command : List U8} {len : Nat} (fits : len ≤ command.length) (index : Nat)
    (bench : Bench Device) : Sends tpm locality command len index bench := by
  induction remaining : len - index using Nat.strong_induction_on generalizing index bench with
  | _ count inductionHypothesis =>
      by_cases more : index < len
      · rcases (fifoReadBurstCount tpm locality).outcome_cases bench with
          ⟨granted, counted, counts⟩ | ⟨reason, after, fails⟩
        · rcases sendBursts_round fits more counts with ⟨bytes, some, within, split, goes⟩
          have rest := inductionHypothesis (len - (index + bytes.length)) (by omega) (index + bytes.length)
            (writeFifo tpm locality bytes counted) rfl
          exact @Sends.cons _ _ _ _ _ _ _ _ ⟨granted, bytes⟩ more counts within split some goes rest
        · refine .broken [] bench after reason (.nil bench) List.nil_prefix (Nat.sub_pos_of_lt more) fails ?_
          intro fuel enough
          rcases Nat.exists_eq_succ_of_ne_zero (show fuel ≠ 0 by omega) with ⟨spare, rfl⟩
          rw [sendBursts, if_pos more]
          exact Action.bind_of_error (Action.beside_eq fails command)
      · refine .complete [] bench (.nil bench) ?_ ?_
        · symm
          apply List.drop_eq_nil_of_le
          rw [List.length_take]
          omega
        · intro fuel _enough
          cases fuel with
          | zero => rfl
          | succ spare =>
              rw [sendBursts, if_neg more]
              rfl

/-! ## What is recorded -/

/-- A routine that only controls the TPM sends no byte of the command. -/
theorem sentBytes_of_control {Result : Type} {Good : Result -> Prop} {routine : Routine Device Result}
    (control : Performs Access.IsControl Good routine) (bench : Bench Device) :
    sentBytes (routine bench).2.accesses = sentBytes bench.accesses := by
  have kept : forall {after : Bench Device}, Extends Access.IsControl bench after ->
      sentBytes after.accesses = sentBytes bench.accesses := by
    intro after extended
    rcases extended.accesses with ⟨added, recorded, controls⟩
    have nothing := (nothing_of_isControl controls).1
    rw [recorded, sentBytes, List.filterMap_append, ← sentBytes, ← sentBytes, nothing, List.append_nil]
  rcases routine.outcome_cases bench with ⟨result, after, outcome⟩ | ⟨reason, after, outcome⟩
  · rw [outcome]
    exact kept ((control bench).1 result after outcome).2
  · rw [outcome]
    exact kept ((control bench).2 reason after outcome).2

theorem sentBytes_writeFifo (bytes : List U8) (bench : Bench Device) :
    sentBytes (writeFifo tpm locality bytes bench).accesses = sentBytes bench.accesses ++ bytes := by
  induction bytes generalizing bench with
  | nil => exact (List.append_nil _).symm
  | cons byte bytes inductionHypothesis =>
      have sent : sentBytes (bench.accesses ++ [.write .dataFifo (byte.setWidth 32)]) =
          sentBytes bench.accesses ++ [byte] := by
        simp [sentBytes, Access.sentByte]
      rw [writeFifo, inductionHypothesis]
      change sentBytes (bench.accesses ++ [.write .dataFifo (byte.setWidth 32)]) ++ bytes = _
      rw [sent, List.append_assoc]
      rfl

theorem Bursts.sentBytes {bench last : Bench Device} {bursts : List Burst}
    (run : Bursts tpm locality bench bursts last) :
    Tpm.sentBytes last.accesses = Tpm.sentBytes bench.accesses ++ burstBytes bursts := by
  induction run with
  | nil bench => exact (List.append_nil _).symm
  | @cons bench counted after burst rest counts within later inductionHypothesis =>
      have same := sentBytes_of_control (fifoReadBurstCount_control tpm locality) bench
      rw [counts] at same
      rw [inductionHypothesis, sentBytes_writeFifo, same, List.append_assoc]
      rfl

theorem Bursts.count_pos {bench last : Bench Device} {bursts : List Burst}
    (run : Bursts tpm locality bench bursts last) :
    forall burst, burst ∈ bursts -> 0 < burst.count.toNat ∧ burst.bytes.length ≤ burst.count.toNat := by
  induction run with
  | nil bench => exact fun _ impossible => absurd impossible List.not_mem_nil
  | cons counts within later inductionHypothesis =>
      intro burst member
      rcases List.mem_cons.mp member with rfl | other
      · exact ⟨burstCount_pos counts, within⟩
      · exact inductionHypothesis burst other

/-! ## The whole branch -/

section Returning

variable {State : Type} {routine : Action State Stop ErrorCode} {state after : State}

theorem returning_of_ok {code : ErrorCode} (outcome : routine state = (.ok code, after)) :
    returning routine state = (.ok code, after) := by
  unfold returning Action.recover
  rw [outcome]

theorem returning_of_error {reason : Stop} (outcome : routine state = (.error reason, after)) :
    returning routine state = (reason.outcome, after) := by
  unfold returning Action.recover
  rw [outcome]
  cases reason <;> rfl

/-- What is not returned is a fault. -/
theorem outcome_of_returning {reason : Stop} (outcome : returning routine state = (.error reason, after)) :
    reason.outcome = .error reason := by
  cases reason with
  | fault cause => rfl
  | error code =>
      rcases routine.outcome_cases state with ⟨other, last, ends⟩ | ⟨cause, last, ends⟩
      · rw [returning_of_ok ends] at outcome
        cases outcome
      · rw [returning_of_error ends] at outcome
        cases cause <;> cases outcome

end Returning

/-- The FIFO branch sends the bytes of its bursts, which are the first ones of
the command; and either these are all, and it waits for the TPM to expect no
more, or a count cannot be read, and it ends there.  The bound of the loop in
the model does not matter. -/
def FifoTransferred (tpm : ExternalTpm Device) (locality : Locality) (command : List U8) (len : Nat)
    (bench : Bench Device) : Prop :=
  let run := copyCommandData tpm locality false len (command, bench)
  (exists bursts last, Bursts tpm locality bench bursts last ∧
    (forall burst, burst ∈ bursts -> 0 < burst.count.toNat ∧ burst.bytes.length ≤ burst.count.toNat) ∧
    burstBytes bursts <+: command.take len ∧
    sentBytes run.2.2.accesses = sentBytes bench.accesses ++ burstBytes bursts ∧
    (((burstBytes bursts).length = len ∧
        run = (waitRegisterBits tpm locality false .status ptpFifoStsValid ptpFifoStsExpect
          ptpTimeoutC).beside (command, last)) ∨
      exists reason after, (burstBytes bursts).length < len ∧
        fifoReadBurstCount tpm locality last = (.error reason, after) ∧
        run = (reason.outcome, (command, after)))) ∧
  forall fuel, len ≤ fuel ->
    sendBursts tpm locality len fuel 0 (command, bench) = sendBursts tpm locality len len 0 (command, bench)

/-- All bytes have been sent, and what remains is the wait. -/
theorem copyCommandData_of_sent {command : List U8} {len : Nat} {bench last : Bench Device}
    (ends : sendBursts tpm locality len len 0 (command, bench) = (.ok (), (command, last))) :
    copyCommandData tpm locality false len (command, bench) =
      (waitRegisterBits tpm locality false .status ptpFifoStsValid ptpFifoStsExpect ptpTimeoutC).beside
        (command, last) := by
  rcases (waitRegisterBits tpm locality false .status ptpFifoStsValid ptpFifoStsExpect
    ptpTimeoutC).outcome_cases last with ⟨code, after, outcome⟩ | ⟨reason, after, outcome⟩
  · rw [Action.beside_eq outcome]
    exact returning_of_ok ((Action.bind_of_ok ends).trans (Action.beside_eq outcome command))
  · have fault : reason.outcome = .error reason := by
      unfold waitRegisterBits at outcome
      exact outcome_of_returning outcome
    rw [Action.beside_eq outcome, ← fault]
    exact returning_of_error ((Action.bind_of_ok ends).trans (Action.beside_eq outcome command))

/-- Whatever burst counts the TPM reports, the FIFO branch transfers the
command in order, with no byte skipped or repeated. -/
theorem copyCommandData_fifo (tpm : ExternalTpm Device) (locality : Locality) {command : List U8} {len : Nat}
    (fits : len ≤ command.length) (bench : Bench Device) :
    FifoTransferred tpm locality command len bench := by
  have start : len ≤ 0 + len := Nat.le_of_eq (Nat.zero_add len).symm
  have more : forall {fuel}, len ≤ fuel -> len ≤ 0 + fuel :=
    fun {fuel} enough => (Nat.zero_add fuel).symm ▸ enough
  rcases sendBursts_run fits 0 bench with
    ⟨bursts, last, steps, sent, ends⟩ | ⟨bursts, last, after, reason, steps, started, fewer, fails, ends⟩
  · have whole : copyCommandData tpm locality false len (command, bench) = _ :=
      copyCommandData_of_sent (ends len start)
    have waits : Performs Access.IsControl (fun _ => True) (waitRegisterBits tpm locality false .status
        ptpFifoStsValid ptpFifoStsExpect ptpTimeoutC) := waitRegisterBits_performs (fun _ => rfl)
    have complete : burstBytes bursts = command.take len := sent
    refine ⟨⟨bursts, last, steps, steps.count_pos, complete ▸ List.prefix_rfl, ?_,
      .inl ⟨?_, whole⟩⟩, ?_⟩
    · rw [whole, ← steps.sentBytes]
      exact sentBytes_of_control waits last
    · rw [complete, List.length_take_of_le fits]
    · intro fuel enough
      rw [ends fuel (more enough), ends len start]
  · have whole : copyCommandData tpm locality false len (command, bench) = (reason.outcome, (command, after)) :=
      returning_of_error (Action.bind_of_error (ends len start))
    have same := sentBytes_of_control (fifoReadBurstCount_control tpm locality) last
    rw [fails] at same
    refine ⟨⟨bursts, last, steps, steps.count_pos, started, ?_,
      .inr ⟨reason, after, fewer, fails, whole⟩⟩, ?_⟩
    · rw [whole, ← steps.sentBytes]
      exact same
    · intro fuel enough
      rw [ends fuel (more enough), ends len start]

/-- A TPM that reports these burst counts, one after the other, and no more. -/
def scriptedTpm : ExternalTpm (List U8) where
  read := fun counts _ port =>
    match port with
    | .burstCountLow => ((counts.headD 0).setWidth 32, counts)
    | .burstCountHigh => (0, counts.tail)
    | .status => (ptpFifoStsValid, counts)
    | _ => (0, counts)
  write := fun counts _ _ _ => counts
  startTimeout := fun counts _ => (0, counts)
  yield := fun counts => (true, counts)

theorem copyCommandData_scripted :
    FifoTransferred scriptedTpm 0 [0x80, 0x01, 0, 0, 0] 4 (.initial .zero [3, 2]) :=
  copyCommandData_fifo scriptedTpm 0 (by decide) (.initial .zero [3, 2])

example : (copyCommandData scriptedTpm 0 false 4 ([0x80, 0x01, 0, 0, 0], .initial .zero [3])).1 =
    .ok .denied := rfl

end Tpm
end SecureServices
