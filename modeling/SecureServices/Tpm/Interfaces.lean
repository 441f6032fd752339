import SecureServices.Tpm.Interference

namespace SecureServices
namespace Tpm

open Library Ffa

/-!
# CRB and FIFO

The two interfaces of a TPM have nothing in common but the packets: one is a
window of memory, the other a stream that is drained in bursts.  When the TPM
keeps to the protocol of its interface, and the host waits, `start` comes to
the same with both.

What it comes to is a function of the internal registers and of the response
alone, and each interface is compared with this function.
-/

variable {Device : Type}

/-! ## What `start` is for -/

/-- The bytes of the data buffer. -/
def PtpCrbRegisters.bytes (crb : PtpCrbRegisters) : List U8 := List.ofFn crb.crbDataBuffer

theorem PtpCrbRegisters.length_bytes (crb : PtpCrbRegisters) : crb.bytes.length = crbDataBufferSize :=
  List.length_ofFn

/-- The command in the data buffer, as long as it says itself. -/
def PtpCrbRegisters.command (crb : PtpCrbRegisters) : List U8 := crb.bytes.take (declaredLength crb.bytes)

/-- The registers with a response at the start of the data buffer. -/
def PtpCrbRegisters.withResponse (crb : PtpCrbRegisters) (response : List U8) : PtpCrbRegisters :=
  { crb with crbDataBuffer := fun index => response[index.val]?.getD (crb.crbDataBuffer index) }

/-- The status, the command that the TPM gets, and the internal registers
afterwards, for a TPM that has a response. -/
def translate (crb : PtpCrbRegisters) (response : List U8) : ErrorCode × List U8 × PtpCrbRegisters :=
  if !isPacketSize crb.crbControlCommandSize.toNat || !isPacketSize crb.crbControlResponseSize.toNat ||
      !declaresLength crb.bytes crb.crbControlCommandSize.toNat then
    (.invalidParameters, [], crb)
  else if !declaresLength response crb.crbControlResponseSize.toNat then
    (.invalidParameters, crb.command, crb)
  else (.ok, crb.command, crb.withResponse (response.take (declaredLength response)))

theorem translate_unchanged {crb : PtpCrbRegisters} {response : List U8}
    (failure : (translate crb response).1 ≠ .ok) : (translate crb response).2.2 = crb := by
  unfold translate at *
  split_ifs at *
  · rfl
  · rfl
  · exact absurd rfl failure

/-! ## A host that waits -/

theorem contents_quiet (crb : PtpCrbRegisters) (turn : Nat) : contents .quiet crb turn = crb := by
  induction turn with
  | zero => rfl
  | succ turn inductionHypothesis => exact inductionHypothesis

theorem bytesRead_quiet (crb : PtpCrbRegisters) {count : Nat} (fits : count ≤ crbDataBufferSize) :
    bytesRead .quiet crb count = crb.bytes.take count := by
  apply List.ext_getElem
  · rw [length_bytesRead, List.length_take, crb.length_bytes, Nat.min_eq_left fits]
  · intro index inside _
    have small : index < crbDataBufferSize := by
      rw [length_bytesRead] at inside
      omega
    simp only [bytesRead, List.getElem_map, List.getElem_range, dif_pos small, contents_quiet,
      List.getElem_take, PtpCrbRegisters.bytes, List.getElem_ofFn]

theorem lengthRead_quiet (crb : PtpCrbRegisters) :
    lengthRead .quiet crb = declaredLength crb.bytes := by
  rw [lengthRead, bytesRead_quiet crb (by decide)]
  symm
  apply declaredLength_of_start (List.take_prefix _ _)
  rw [List.length_take, crb.length_bytes]
  decide

/-- Copying a response back, byte by byte. -/
theorem copiesOn_quiet (crb : PtpCrbRegisters) (response : List U8) :
    CopiesOn .quiet response (fun index after => after = crb.withResponse (response.take index)) := by
  rintro turn _ index inside fits rfl
  unfold PtpCrbRegisters.withResponse Host.quiet
  dsimp only
  congr 1
  funext position
  by_cases here : position = ⟨index, fits⟩
  · subst here
    rw [Function.update_self, List.getElem?_take_of_lt (Nat.lt_succ_self index),
      List.getElem?_eq_getElem inside]
    rfl
  · have other : position.val ≠ index := fun same => here (Fin.ext same)
    have before : position.val < index + 1 <-> position.val < index := by omega
    rw [Function.update_of_ne here, List.getElem?_take, List.getElem?_take]
    simp only [before]

theorem accepted_quiet_iff (crb : PtpCrbRegisters) :
    Accepted .quiet crb <->
      isPacketSize crb.crbControlCommandSize.toNat = true ∧
        isPacketSize crb.crbControlResponseSize.toNat = true ∧
        declaresLength crb.bytes crb.crbControlCommandSize.toNat = true := by
  have declared : declaresLength (bytesRead .quiet crb tpmHeaderSize) (commandSizeRead .quiet crb) =
      declaresLength crb.bytes crb.crbControlCommandSize.toNat :=
    declaresLength_of_declaredLength (lengthRead_quiet crb) _
  constructor
  · rintro ⟨command, response, length⟩
    exact ⟨command, response, declared ▸ length⟩
  · rintro ⟨command, response, length⟩
    exact ⟨command, response, declared.symm ▸ length⟩

theorem commandRead_quiet {crb : PtpCrbRegisters} (accepted : Accepted .quiet crb) :
    commandRead .quiet crb = crb.command := by
  rw [commandRead, bytesRead_quiet crb accepted.bounds.2, lengthRead_quiet, PtpCrbRegisters.command]

theorem translate_of_refused {crb : PtpCrbRegisters} (rejected : ¬ Accepted .quiet crb) (response : List U8) :
    translate crb response = (.invalidParameters, [], crb) := by
  rw [accepted_quiet_iff] at rejected
  unfold translate
  rw [if_pos]
  by_contra accepted
  simp only [Bool.or_eq_true, Bool.not_eq_true', not_or, Bool.not_eq_false] at accepted
  exact rejected ⟨accepted.1.1, accepted.1.2, accepted.2⟩

theorem translate_of_accepted {crb : PtpCrbRegisters} (accepted : Accepted .quiet crb) (response : List U8) :
    translate crb response =
      if declaresLength response (responseSizeRead .quiet crb) then
        (.ok, commandRead .quiet crb, crb.withResponse (response.take (declaredLength response)))
      else (.invalidParameters, commandRead .quiet crb, crb) := by
  rw [commandRead_quiet accepted]
  have parts := (accepted_quiet_iff crb).mp accepted
  unfold translate
  have size : responseSizeRead .quiet crb = crb.crbControlResponseSize.toNat := rfl
  rw [parts.1, parts.2.1, parts.2.2, size]
  cases declaresLength response crb.crbControlResponseSize.toNat <;> rfl

/-! ## A TPM that answers -/

/-- The TPM does not fail, and what it answers is the response. -/
structure Conduct.Answers (conduct : Conduct Device) (response : List U8) : Prop where
  failed : forall reason, ¬ conduct.Failed reason
  passed : forall code device, conduct.Passed code device -> code = .ok
  executed : forall code device, conduct.Executed code device -> code = .ok
  answering : forall read device, conduct.Answering read device -> read <+: response

/-- With a TPM that answers, `start` does what it is for. -/
theorem start_translates {conduct : Conduct Device} {tpm : ExternalTpm Device} {locality : Locality}
    {isCrbInterface : Bool} {crb : PtpCrbRegisters}
    (kept : conduct.Kept tpm locality crb.command isCrbInterface) {response : List U8}
    (answers : conduct.Answers response) {device : Device} (ready : conduct.Ready 0 device) :
    (start .quiet tpm locality isCrbInterface).Ensures
      (fun code after => translate crb response = (code, sentBytes after.accesses, after.crb) ∧
        sentOffsets after.accesses = if isCrbInterface then List.range (sentBytes after.accesses).length else [])
      (fun _ _ => False) (.initial crb device) := by
  have initially : forall answer : List U8,
      contents .quiet crb (lengthRead .quiet crb + 2) = crb.withResponse (answer.take 0) :=
    fun answer => contents_quiet crb _
  have promised : Accepted .quiet crb -> conduct.Kept tpm locality (commandRead .quiet crb) isCrbInterface :=
    fun accepted => (commandRead_quiet accepted).symm ▸ kept
  apply (start_ensures_conduct .quiet crb promised ready
    (fun answer index after => after = crb.withResponse (answer.take index)) (copiesOn_quiet crb) initially).mono
  · rintro code after (⟨rejected, rfl, count, rfl⟩ | ⟨accepted, rfl, responded⟩ | ⟨accepted, unresponded⟩)
    · rw [translate_of_refused rejected, reading, contents_quiet]
      refine ⟨rfl, ?_⟩
      cases isCrbInterface <;> rfl
    · rcases responded with ⟨answer, _, packet, within, answering, copied, sent⟩
      have starts := answers.answering _ _ answering
      have whole : tpmHeaderSize ≤ answer.length := packet.header
      have declared : declaredLength response = answer.length := by
        rw [declaredLength_of_start starts whole, packet.2]
      have fits : declaresLength response (responseSizeRead .quiet crb) = true := by
        rw [declaresLength_iff, declared]
        exact ⟨whole, within⟩
      refine ⟨?_, (sent.transferred within).offsets⟩
      rw [translate_of_accepted accepted, if_pos fits, declared, ← List.prefix_iff_eq_take.mp starts, copied,
        sent.bytes, List.take_length]
    · rcases unresponded with ⟨_, explained, ended⟩
      cases explained with
      | failed failed => exact absurd failed (answers.failed _)
      | passed failure passed => exact absurd (answers.passed _ _ passed) failure
      | executed failure executed => exact absurd (answers.executed _ _ executed) failure
      | rejected complete length misfit answering =>
          have starts := answers.answering _ _ answering
          have declared := declaredLength_of_start starts (Nat.le_of_eq length.symm)
          have same := (declaresLength_of_declaredLength declared _).trans misfit
          refine ⟨?_, ended.transferred.offsets⟩
          rw [translate_of_accepted accepted, same, complete, ended.crb, contents_quiet]
          rfl
  · rintro _ after ⟨fault, rfl, _, _, explained, _⟩
    cases explained with
    | failed failed => exact answers.failed _ failed

/-! ## The two protocols -/

/-- A TPM with a CRB interface that executes the command and has a response:
after the transfer the wait for the start bit is satisfied, and from then on
the data buffer starts with the response.  `Ready` is given the number of bytes
of the command that it has got. -/
structure CrbProtocol (tpm : ExternalTpm Device) (locality : Locality) (command response : List U8) where
  Ready : Nat -> Device -> Prop
  Started : Device -> Prop
  Responding : Device -> Prop
  data : forall index device (inside : index < command.length) (fits : index < crbDataBufferSize),
    Ready index device ->
    Ready (index + 1) (tpm.write device locality (.crbDataBuffer ⟨index, fits⟩) (command[index].setWidth 32))
  starts : forall device, Ready command.length device ->
    Started (tpm.write device locality .crbControlStart ptpCrbControlStart)
  satisfied : forall bench : Bench Device, Started bench.device ->
    (waitRegisterBits tpm locality true .crbControlStart 0 ptpCrbControlStart ptpTimeoutMax).Ensures
      (fun code after => code = .ok ∧ Responding after.device) (fun _ _ => False) bench
  answers : forall device (index : Fin crbDataBufferSize) (inside : index.val < response.length),
    Responding device -> (tpm.read device locality (.crbDataBuffer index)).1.setWidth 8 = response[index.val] ∧
      Responding (tpm.read device locality (.crbDataBuffer index)).2

/-- A TPM with a FIFO interface that executes the command and has a response:
every wait is satisfied, every burst count is reported in time, and there is
data as long as bytes of the response remain.  `Responding` is given these
bytes. -/
structure FifoProtocol (tpm : ExternalTpm Device) (locality : Locality) (command response : List U8) where
  Ready : Nat -> Device -> Prop
  Received : Device -> Prop
  Started : Device -> Prop
  Responding : List U8 -> Device -> Prop
  data : forall index device (inside : index < command.length), Ready index device ->
    Ready (index + 1) (tpm.write device locality .dataFifo (command[index].setWidth 32))
  bursts : forall index (bench : Bench Device), index < command.length -> Ready index bench.device ->
    (fifoReadBurstCount tpm locality).Ensures (fun _ after => Ready index after.device) (fun _ _ => False) bench
  received : forall bench : Bench Device, Ready command.length bench.device ->
    (waitRegisterBits tpm locality false .status ptpFifoStsValid ptpFifoStsExpect ptpTimeoutC).Ensures
      (fun code after => code = .ok ∧ Received after.device) (fun _ _ => False) bench
  starts : forall device, Received device -> Started (tpm.write device locality .status ptpFifoStsGo)
  satisfied : forall bench : Bench Device, Started bench.device ->
    (waitRegisterBits tpm locality false .status (ptpFifoStsValid ||| ptpFifoStsData) 0 ptpTimeoutMax).Ensures
      (fun code after => code = .ok ∧ Responding response after.device) (fun _ _ => False) bench
  answerBursts : forall rest (bench : Bench Device), rest ≠ [] -> Responding rest bench.device ->
    (fifoReadBurstCount tpm locality).Ensures (fun _ after => Responding rest after.device)
      (fun _ _ => False) bench
  status : forall rest device, rest ≠ [] -> Responding rest device ->
    Responding rest (tpm.read device locality .status).2 ∧
      (tpm.read device locality .status).1.setWidth 8 &&& ptpFifoStsData.setWidth 8 ≠ 0
  answers : forall byte rest device, Responding (byte :: rest) device ->
    (tpm.read device locality .dataFifo).1.setWidth 8 = byte ∧
      Responding rest (tpm.read device locality .dataFifo).2

section Protocols

variable {tpm : ExternalTpm Device} {locality : Locality} {command response : List U8}

/-- Where more bytes are wanted, the response has more. -/
theorem Wanted.inside {read : List U8} (wanted : Wanted read) (starts : read <+: response)
    (whole : tpmHeaderSize ≤ response.length) (declared : declaredLength response ≤ response.length) :
    read.length < response.length := by
  by_cases header : tpmHeaderSize ≤ read.length
  · have more := wanted header
    rw [← declaredLength_of_start starts header] at more
    omega
  · omega

/-- The next byte of a response. -/
theorem prefix_concat {read : List U8} (starts : read <+: response) (inside : read.length < response.length) :
    read ++ [response[read.length]] <+: response := by
  rw [List.prefix_iff_eq_take, List.length_append, List.length_singleton]
  nth_rewrite 1 [List.prefix_iff_eq_take.mp starts]
  exact List.take_append_getElem inside

def CrbProtocol.conduct (protocol : CrbProtocol tpm locality command response) : Conduct Device where
  Ready := protocol.Ready
  Passed := fun code device => code = .ok ∧ protocol.Ready command.length device
  Executed := fun code device => code = .ok ∧ protocol.Responding device
  Answering := fun read device => read <+: response ∧ protocol.Responding device
  Failed := fun _ => False

def FifoProtocol.conduct (protocol : FifoProtocol tpm locality command response) : Conduct Device where
  Ready := protocol.Ready
  Passed := fun code device => code = .ok ∧ protocol.Received device
  Executed := fun code device => code = .ok ∧ protocol.Responding response device
  Answering := fun read device => read <+: response ∧ protocol.Responding (response.drop read.length) device
  Failed := fun _ => False

theorem CrbProtocol.answers_response (protocol : CrbProtocol tpm locality command response) :
    protocol.conduct.Answers response where
  failed := fun _ impossible => impossible
  passed := fun _ _ passed => passed.1
  executed := fun _ _ executed => executed.1
  answering := fun _ _ answering => answering.1

theorem FifoProtocol.answers_response (protocol : FifoProtocol tpm locality command response) :
    protocol.conduct.Answers response where
  failed := fun _ impossible => impossible
  passed := fun _ _ passed => passed.1
  executed := fun _ _ executed => executed.1
  answering := fun _ _ answering => answering.1

theorem CrbProtocol.kept (protocol : CrbProtocol tpm locality command response)
    (whole : tpmHeaderSize ≤ response.length) (declared : declaredLength response ≤ response.length) :
    protocol.conduct.Kept tpm locality command true := by
  refine Conduct.KeptCrb.mk protocol.data (fun _ ready => ⟨rfl, ready⟩) ?_ ?_ ?_
  · rintro bench ⟨_, ready⟩
    rw [startCommand, if_pos rfl, Action.ensures_bind, ensures_writePort]
    exact protocol.satisfied _ (protocol.starts _ ready)
  · rintro device ⟨_, responding⟩
    exact ⟨List.nil_prefix, responding⟩
  · rintro read device fits wanted ⟨starts, responding⟩
    have inside := wanted.inside starts whole declared
    have byte := protocol.answers device ⟨read.length, fits⟩ inside responding
    refine ⟨?_, byte.2⟩
    rw [byte.1]
    exact prefix_concat starts inside

theorem FifoProtocol.kept (protocol : FifoProtocol tpm locality command response)
    (whole : tpmHeaderSize ≤ response.length) (declared : declaredLength response ≤ response.length) :
    protocol.conduct.Kept tpm locality command false := by
  have remains : forall read : List U8, Wanted read -> read <+: response -> response.drop read.length ≠ [] := by
    intro read wanted starts
    rw [ne_eq, List.drop_eq_nil_iff]
    exact Nat.not_le.mpr (wanted.inside starts whole declared)
  refine Conduct.KeptFifo.mk protocol.data protocol.bursts protocol.received
    (fun _ _ impossible => impossible.elim) ?_ ?_ ?_ ?_ ?_
  · rintro bench ⟨_, received⟩
    rw [startCommand, if_neg (by decide), Action.ensures_bind, ensures_writePort]
    exact protocol.satisfied _ (protocol.starts _ received)
  · rintro device ⟨_, responding⟩
    exact ⟨List.nil_prefix, responding⟩
  · rintro read bench wanted ⟨starts, responding⟩
    apply (protocol.answerBursts _ bench (remains read wanted starts) responding).mono
    · exact fun _ _ responding => ⟨starts, responding⟩
    · exact fun _ _ impossible => impossible
  · rintro read device wanted ⟨starts, responding⟩
    have status := protocol.status _ device (remains read wanted starts) responding
    exact ⟨⟨starts, status.1⟩, fun clear => status.2 clear⟩
  · rintro read device wanted ⟨starts, responding⟩
    have inside := wanted.inside starts whole declared
    rw [List.drop_eq_getElem_cons inside] at responding
    have byte := protocol.answers _ _ device responding
    constructor
    · rw [byte.1]
      exact prefix_concat starts inside
    · rw [List.length_append, List.length_singleton]
      exact byte.2

end Protocols

/-- A TPM with a CRB interface and one with a FIFO interface that have the same
response: `start` returns the same status, has sent the same command, and
leaves the same registers to the host. -/
theorem interfaces_agree {Crb Fifo : Type} {crbTpm : ExternalTpm Crb} {fifoTpm : ExternalTpm Fifo}
    {locality : Locality} {crb : PtpCrbRegisters} {response : List U8}
    (window : CrbProtocol crbTpm locality crb.command response)
    (stream : FifoProtocol fifoTpm locality crb.command response)
    (whole : tpmHeaderSize ≤ response.length) (declared : declaredLength response ≤ response.length)
    {crbDevice : Crb} {fifoDevice : Fifo} (crbReady : window.Ready 0 crbDevice)
    (fifoReady : stream.Ready 0 fifoDevice) :
    let left := start .quiet crbTpm locality true (.initial crb crbDevice)
    let right := start .quiet fifoTpm locality false (.initial crb fifoDevice)
    left.1 = right.1 ∧ left.1.isOk = true ∧
      sentBytes left.2.accesses = sentBytes right.2.accesses ∧
      sentOffsets left.2.accesses = List.range (sentBytes left.2.accesses).length ∧
      left.2.crb = right.2.crb ∧ (left.1 ≠ .ok .ok -> left.2.crb = crb) := by
  rcases (start_translates (window.kept whole declared) window.answers_response crbReady).returns with
    ⟨code, after, left, translated, offsets⟩
  rcases (start_translates (stream.kept whole declared) stream.answers_response fifoReady).returns with
    ⟨code', after', right, translated', _⟩
  have unchanged := @translate_unchanged crb response
  rw [translated] at translated' unchanged
  simp only [Prod.mk.injEq] at translated'
  dsimp only
  rw [left, right]
  refine ⟨by rw [translated'.1], rfl, translated'.2.1, offsets, translated'.2.2, fun failure => ?_⟩
  exact unchanged (fun success => failure (congrArg Except.ok success))

/-! ## Two TPMs -/

def sampleResponse : List U8 := [0x80, 0x01, 0, 0, 0, 12, 0, 0, 0, 0, 0xAB, 0xCD]

/-- The registers with a command of ten bytes. -/
def sampleCrb : PtpCrbRegisters :=
  { PtpCrbRegisters.zero with
    crbControlCommandSize := 0xF80
    crbControlResponseSize := 0xF80
    crbDataBuffer := fun index => [0x80, 0x01, 0, 0, 0, 10, 0, 0, 0x01, 0x44].getD index 0 }

/-- A TPM that has its response at once, in its data buffer. -/
def windowTpm : ExternalTpm Unit where
  read := fun _ _ port =>
    match port with
    | .crbDataBuffer index => ((sampleResponse.getD index 0).setWidth 32, ())
    | _ => (0, ())
  write := fun _ _ _ _ => ()
  startTimeout := fun _ _ => (0, ())
  yield := fun _ => (true, ())

/-- A TPM that takes and gives bursts of four bytes.  Its state is what remains
of the response, once the command has been started. -/
def streamTpm : ExternalTpm (Option (List U8)) where
  read := fun device _ port =>
    match port, device with
    | .burstCountLow, _ => (4, device)
    | .status, some (_ :: _) => (ptpFifoStsValid ||| ptpFifoStsData, device)
    | .status, _ => (ptpFifoStsValid, device)
    | .dataFifo, some (byte :: rest) => (byte.setWidth 32, some rest)
    | _, _ => (0, device)
  write := fun device _ port _ => if port = .status then some sampleResponse else device
  startTimeout := fun device _ => (0, device)
  yield := fun device => (true, device)

/-- A poll that succeeds at once ends the loop. -/
theorem pollUntil_at_once {tpm : ExternalTpm Device} {Result : Type} {poll : Routine Device (Option Result)}
    {polls : Nat} {returned : Result -> Bench Device -> Prop} {stopped : Stop -> Bench Device -> Prop}
    {bench : Bench Device}
    (success : poll.Ensures (fun answer after => exists result, answer = some result ∧ returned result after)
      stopped bench) : (pollUntil tpm poll polls).Ensures returned stopped bench := by
  cases polls with
  | zero | succ =>
      rw [pollUntil, Action.ensures_bind]
      apply success.mono
      · rintro _ after ⟨result, rfl, holds⟩
        exact Action.ensures_pure.mpr holds
      · exact fun _ _ holds => holds

theorem streamTpm_bursts (locality : Locality) (bench : Bench (Option (List U8))) :
    (fifoReadBurstCount streamTpm locality).Ensures (fun _ after => after.device = bench.device)
      (fun _ _ => False) bench := by
  rw [fifoReadBurstCount, Action.ensures_bind, ensures_startTimeout]
  apply pollUntil_at_once
  rw [Action.ensures_bind, ensures_readPort, Action.ensures_bind, ensures_readPort, Action.ensures_pure]
  exact ⟨4, by simp [streamTpm], rfl⟩

def windowProtocol (locality : Locality) (command : List U8) :
    CrbProtocol windowTpm locality command sampleResponse where
  Ready := fun _ _ => True
  Started := fun _ => True
  Responding := fun _ => True
  data := fun _ _ _ _ _ => trivial
  starts := fun _ _ => trivial
  satisfied := fun _ _ => (Action.ensures_of_ok rfl).mpr ⟨rfl, trivial⟩
  answers := by
    intro _ index inside _
    refine ⟨?_, trivial⟩
    change ((sampleResponse.getD index 0).setWidth 32).setWidth 8 = _
    rw [truncate_extend, List.getD_eq_getElem?_getD, List.getElem?_eq_getElem inside]
    rfl

def streamProtocol (locality : Locality) (command : List U8) :
    FifoProtocol streamTpm locality command sampleResponse where
  Ready := fun _ device => device = none
  Received := fun device => device = none
  Started := fun device => device = some sampleResponse
  Responding := fun rest device => device = some rest
  data := by
    rintro _ _ _ rfl
    rfl
  bursts := by
    rintro index ⟨crb, turn, _, accesses⟩ _ rfl
    exact streamTpm_bursts locality _
  received := by
    rintro ⟨crb, turn, _, accesses⟩ rfl
    exact (Action.ensures_of_ok rfl).mpr ⟨rfl, rfl⟩
  starts := by
    rintro _ rfl
    rfl
  satisfied := by
    rintro ⟨crb, turn, _, accesses⟩ rfl
    exact (Action.ensures_of_ok rfl).mpr ⟨rfl, rfl⟩
  answerBursts := by
    rintro rest ⟨crb, turn, _, accesses⟩ _ rfl
    exact streamTpm_bursts locality _
  status := by
    rintro rest _ remains rfl
    rcases rest with _ | ⟨byte, rest⟩
    · exact absurd rfl remains
    · have shown : (ptpFifoStsValid ||| ptpFifoStsData).setWidth 8 &&& ptpFifoStsData.setWidth 8 ≠ 0 := by decide
      exact ⟨rfl, shown⟩
  answers := by
    rintro byte rest _ rfl
    exact ⟨truncate_extend byte, rfl⟩

/-- The two TPMs execute the command alike. -/
theorem samples_agree :
    let left := start .quiet windowTpm 0 true (.initial sampleCrb ())
    let right := start .quiet streamTpm 0 false (.initial sampleCrb none)
    left.1.toOption = some .ok ∧ left.1 = right.1 ∧ left.1.isOk = true ∧
      sentBytes left.2.accesses = sentBytes right.2.accesses ∧
      sentOffsets left.2.accesses = List.range (sentBytes left.2.accesses).length ∧
      left.2.crb = right.2.crb ∧ (left.1 ≠ .ok .ok -> left.2.crb = sampleCrb) := by
  refine ⟨by decide +kernel, ?_⟩
  exact interfaces_agree (windowProtocol 0 sampleCrb.command) (streamProtocol 0 sampleCrb.command) (by decide)
    (by decide) trivial rfl

end Tpm
end SecureServices
