import SecureServices.Tpm.Packet

namespace SecureServices
namespace Tpm

open Library Ffa

/-!
# The state translation library

`TpmSst` of `tpm_sst.rs` translates a request at the registers that the host
sees into transactions with the real TPM, which has a CRB interface or a FIFO
interface.  The host's registers are the internal ones, those of the real TPM
the external ones.

Two parties act while the library runs.  The host may write to the internal
registers at any moment, so that every access finds what its writes since the
access before have left.  The external TPM is a state of its own that answers
every access.  Both are arbitrary.  So is the clock: a timeout is the number of
times that it lets a loop poll again.

The accesses that a host or a TPM can tell apart are recorded; the record is
read by no definition of the library.
-/

/-! ## Registers -/

def ptpFifoStsValid : U32 := 1 <<< 7
def ptpFifoStsData : U32 := 1 <<< 4
def ptpFifoStsExpect : U32 := 1 <<< 3
def ptpFifoStsReady : U32 := 1 <<< 6
def ptpFifoStsGo : U32 := 1 <<< 5
def ptpFifoAccRquuse : U32 := 1 <<< 1
def ptpFifoAccActive : U32 := 1 <<< 5
def ptpFifoValid : U32 := 1 <<< 7

/-- Timeouts, in microseconds. -/
def ptpTimeoutA : Nat := 750 * 1000
def ptpTimeoutB : Nat := 2000 * 1000
def ptpTimeoutC : Nat := 200 * 1000
def ptpTimeoutD : Nat := 30 * 1000
def ptpTimeoutMax : Nat := 90000 * 1000

def interfaceTypeMask : U32 := 0x00F
def idleBypassMask : U32 := 0x200

/-- The external registers that the library uses, of `PtpCrbRegisters` and of
`PtpFifoRegisters`. -/
inductive Port where
  | interfaceId
  | localityControl | localityStatus | crbControlRequest | crbControlStatus | crbControlStart
  | crbDataBuffer (index : Fin crbDataBufferSize)
  | access | status | burstCountLow | burstCountHigh | dataFifo
deriving DecidableEq, Repr

/-- The external TPM and the clock, on a state of their own. -/
structure ExternalTpm (Device : Type) where
  read : Device -> Locality -> Port -> U32 × Device
  write : Device -> Locality -> Port -> U32 -> Device
  startTimeout : Device -> Nat -> Nat × Device
  yield : Device -> Bool × Device

/-- The writes of the host before each access to the internal registers. -/
abbrev Host := Nat -> PtpCrbRegisters -> PtpCrbRegisters

/-- A host that waits for the answer. -/
def Host.quiet : Host := fun _ crb => crb

/-- One access to an external register, or to the internal data buffer after
the command has been executed. -/
inductive Access where
  | read (port : Port) (value : U32)
  | write (port : Port) (value : U32)
  | store (index : Fin crbDataBufferSize) (byte : U8)
deriving DecidableEq, Repr

/-- The internal registers of the locality with the number of accesses to them,
the external TPM, and the record. -/
structure Bench (Device : Type) where
  crb : PtpCrbRegisters
  turn : Nat
  device : Device
  accesses : List Access

def Bench.initial {Device : Type} (crb : PtpCrbRegisters) (device : Device) : Bench Device :=
  ⟨crb, 0, device, []⟩

section

variable {Device : Type}

abbrev Routine (Device Result : Type) := Action (Bench Device) Stop Result

/-- A routine with the local buffer. -/
abbrev Buffered (Device Result : Type) := Action (List U8 × Bench Device) Stop Result

/-- Return the code of an early return. -/
def returning {State : Type} (routine : Action State Stop ErrorCode) : Action State Stop ErrorCode :=
  routine.recover Stop.returned

/-- Go on if the code is a success, and return it otherwise. -/
def proceed {State : Type} (code : ErrorCode) : Action State Stop Unit :=
  Action.require (code == .ok) (.error code)

/-- An index into a data buffer. -/
def dataIndex {State : Type} (offset : Nat) : Action State Stop (Fin crbDataBufferSize) :=
  if inside : offset < crbDataBufferSize then pure ⟨offset, inside⟩
  else Action.stop (.fault .outOfBounds)

/-! ## Internal registers -/

section Internal

variable (host : Host)

/-- Read an internal register, after the host. -/
def fetch {Value : Type} (register : PtpCrbRegisters -> Value) : Routine Device Value := fun bench =>
  let crb := host bench.turn bench.crb
  (.ok (register crb), { bench with crb, turn := bench.turn + 1 })

def fetchByte (offset : Nat) : Routine Device U8 := do
  let index <- dataIndex offset
  fetch host (fun crb => crb.crbDataBuffer index)

/-- Write a byte of the internal data buffer, after the host. -/
def putByte (index : Fin crbDataBufferSize) (byte : U8) : Routine Device Unit := fun bench =>
  let crb := host bench.turn bench.crb
  (.ok (), { bench with
    crb := { crb with crbDataBuffer := Function.update crb.crbDataBuffer index byte }
    turn := bench.turn + 1
    accesses := bench.accesses ++ [.store index byte] })

/-- Copy the first bytes of the local buffer to the internal data buffer. -/
def copyBack (count : Nat) : Buffered Device Unit :=
  Action.forRange (fun offset => do
    let byte <- loadByte offset
    let index <- dataIndex offset
    (putByte host index byte).beside) 0 count

end Internal

/-! ## External registers -/

section External

variable (tpm : ExternalTpm Device) (locality : Locality)

def readPort (port : Port) : Routine Device U32 := fun bench =>
  let (value, device) := tpm.read bench.device locality port
  (.ok value, { bench with device, accesses := bench.accesses ++ [.read port value] })

def writePort (port : Port) (value : U32) : Routine Device Unit := fun bench =>
  (.ok (), { bench with
    device := tpm.write bench.device locality port value
    accesses := bench.accesses ++ [.write port value] })

/-- How often the clock lets a loop poll again. -/
def startTimeout (timeout : Nat) : Routine Device Nat := fun bench =>
  let (polls, device) := tpm.startTimeout bench.device timeout
  (.ok polls, { bench with device })

/-- `Yield::new(YIELD_TIMEOUT_HINT_NS).exec().unwrap()`. -/
def yield : Routine Device Unit := fun bench =>
  let (success, device) := tpm.yield bench.device
  (if success then .ok () else .error (.fault .yieldRefused), { bench with device })

/-- The loop that two functions have: poll until there is a result, yield in
between, and give up when the time is over. -/
def pollUntil {Result : Type} (poll : Routine Device (Option Result)) : Nat -> Routine Device Result
  | 0 => do
      match <- poll with
      | some result => pure result
      | none => Action.stop (.error .denied)
  | polls + 1 => do
      match <- poll with
      | some result => pure result
      | none =>
          yield tpm
          pollUntil poll polls

/-- `fifo_read_burst_count`. -/
def fifoReadBurstCount : Routine Device U16 := do
  let polls <- startTimeout tpm ptpTimeoutD
  pollUntil tpm (do
    let low <- readPort tpm locality .burstCountLow
    let high <- readPort tpm locality .burstCountHigh
    let burstCount : U16 := ((high.setWidth 8).setWidth 16 <<< 8) ||| (low.setWidth 8).setWidth 16
    pure (if burstCount != 0 then some burstCount else none)) polls

variable (isCrbInterface : Bool)

/-- `wait_register_bits`. -/
def waitRegisterBits (register : Port) (bitSet bitClear : U32) (timeout : Nat) :
    Routine Device ErrorCode :=
  returning do
    let polls <- startTimeout tpm timeout
    pollUntil tpm (do
      let value <- readPort tpm locality register
      let regRead := if isCrbInterface then value else (value.setWidth 8).setWidth 32
      pure (if regRead &&& bitSet == bitSet && regRead &&& bitClear == 0 then some ErrorCode.ok else none))
      polls

/-! ## Requests to the external TPM -/

/-- `go_idle`. -/
def goIdle : Routine Device ErrorCode :=
  if isCrbInterface then do
    writePort tpm locality .crbControlRequest ptpCrbControlAreaRequestGoIdle
    let status <- waitRegisterBits tpm locality isCrbInterface .crbControlRequest 0
      ptpCrbControlAreaRequestGoIdle ptpTimeoutC
    if status == .ok then
      waitRegisterBits tpm locality isCrbInterface .crbControlStatus ptpCrbControlAreaStatusTpmIdle 0 ptpTimeoutC
    else pure status
  else do
    writePort tpm locality .status ptpFifoStsReady
    waitRegisterBits tpm locality isCrbInterface .status ptpFifoStsReady 0 ptpTimeoutB

/-- `cmd_ready`. -/
def cmdReady : Routine Device ErrorCode :=
  if isCrbInterface then do
    writePort tpm locality .crbControlRequest ptpCrbControlAreaRequestCommandReady
    let status <- waitRegisterBits tpm locality isCrbInterface .crbControlRequest 0
      ptpCrbControlAreaRequestCommandReady ptpTimeoutC
    if status == .ok then
      waitRegisterBits tpm locality isCrbInterface .crbControlStatus 0 ptpCrbControlAreaStatusTpmIdle ptpTimeoutC
    else pure status
  else do
    writePort tpm locality .status ptpFifoStsReady
    waitRegisterBits tpm locality isCrbInterface .status ptpFifoStsReady 0 ptpTimeoutB

/-- `locality_request`. -/
def localityRequest : Routine Device ErrorCode :=
  if isCrbInterface then do
    writePort tpm locality .localityControl ptpCrbLocalityControlRequestAccess
    waitRegisterBits tpm locality isCrbInterface .localityStatus ptpCrbLocalityStatusGranted 0 ptpTimeoutA
  else do
    writePort tpm locality .access ptpFifoAccRquuse
    waitRegisterBits tpm locality isCrbInterface .access (ptpFifoAccActive ||| ptpFifoValid) 0 ptpTimeoutA

/-- `locality_relinquish`. -/
def localityRelinquish : Routine Device ErrorCode :=
  if isCrbInterface then do
    writePort tpm locality .localityControl ptpCrbLocalityControlRelinquish
    waitRegisterBits tpm locality isCrbInterface .localityStatus 0 ptpCrbLocalityStatusGranted ptpTimeoutA
  else do
    writePort tpm locality .access ptpFifoAccActive
    waitRegisterBits tpm locality isCrbInterface .access ptpFifoValid ptpFifoAccActive ptpTimeoutA

/-! ## A transaction -/

/-- Send from an index on, up to the burst count or the end of the command. -/
def sendBurst (commandDataLen : Nat) : Nat -> Nat -> Buffered Device Nat
  | 0, index => pure index
  | remainingBurst + 1, index =>
      if index < commandDataLen then do
        let byte <- loadByte index
        (writePort tpm locality .dataFifo (byte.setWidth 32)).beside
        sendBurst commandDataLen remainingBurst (index + 1)
      else pure index

/-- Send burst after burst.  A burst count is not zero, so that a command has
at most as many bursts as bytes. -/
def sendBursts (commandDataLen : Nat) : Nat -> Nat -> Buffered Device Unit
  | 0, _ => pure ()
  | bursts + 1, index =>
      if index < commandDataLen then do
        let burstCount <- (fifoReadBurstCount tpm locality).beside
        let next <- sendBurst tpm locality commandDataLen burstCount.toNat index
        sendBursts commandDataLen bursts next
      else pure ()

/-- `copy_command_data`. -/
def copyCommandData (commandDataLen : Nat) : Buffered Device ErrorCode :=
  if isCrbInterface then do
    Action.forRange (fun offset => do
      let index <- dataIndex offset
      let byte <- loadByte offset
      (writePort tpm locality (.crbDataBuffer index) (byte.setWidth 32)).beside) 0 commandDataLen
    pure .ok
  else
    returning do
      sendBursts tpm locality commandDataLen commandDataLen 0
      (waitRegisterBits tpm locality isCrbInterface .status ptpFifoStsValid ptpFifoStsExpect ptpTimeoutC).beside

/-- `start_command`. -/
def startCommand : Routine Device ErrorCode :=
  if isCrbInterface then do
    writePort tpm locality .crbControlStart ptpCrbControlStart
    waitRegisterBits tpm locality isCrbInterface .crbControlStart 0 ptpCrbControlStart ptpTimeoutMax
  else do
    writePort tpm locality .status ptpFifoStsGo
    waitRegisterBits tpm locality isCrbInterface .status (ptpFifoStsValid ||| ptpFifoStsData) 0 ptpTimeoutMax

/-- The closure that reads a response from the CRB. -/
def readCrbByte (offset : Nat) : Routine Device U8 := do
  let index <- dataIndex offset
  let value <- readPort tpm locality (.crbDataBuffer index)
  pure (value.setWidth 8)

/-- Get a new burst when the last one is used up. -/
def renewBurst : Action (U16 × Bench Device) Stop Unit := do
  let remainingBurst <- Action.inspect Prod.fst
  if remainingBurst == 0 then
    let burstCount <- (fifoReadBurstCount tpm locality).beside
    Action.assign burstCount
  else pure ()

/-- The closure that reads a response from the FIFO, with what remains of the
burst. -/
def readFifoByte (_offset : Nat) : Action (U16 × Bench Device) Stop U8 := do
  renewBurst tpm locality
  let status <- (readPort tpm locality .status).beside
  Action.require (status.setWidth 8 &&& ptpFifoStsData.setWidth 8 != 0) (.error .denied)
  let value <- (readPort tpm locality .dataFifo).beside
  let remainingBurst <- Action.inspect Prod.fst
  Action.assign (remainingBurst - 1)
  pure (value.setWidth 8)

/-- `copy_response_data`. -/
def copyResponseData : Buffered Device Nat :=
  if isCrbInterface then readTpmResponse (readCrbByte tpm locality)
  else Action.withInner 0 (readTpmResponse (readFifoByte tpm locality))

end External

/-- The first half of `TpmSst::start`: copy the command to the local buffer. -/
def fetchCommand (host : Host) (commandCapacity : Nat) : Buffered Device Nat := do
  fill (fetchByte host) 0 tpmHeaderSize
  let commandDataLen <- checkedLength commandCapacity
  fill (fetchByte host) tpmHeaderSize (commandDataLen - tpmHeaderSize)
  pure commandDataLen

/-- The second half: have the TPM execute it, and copy the response back. -/
def execute (host : Host) (tpm : ExternalTpm Device) (locality : Locality) (isCrbInterface : Bool)
    (responseCapacity commandDataLen : Nat) : Buffered Device ErrorCode := do
  proceed (<- copyCommandData tpm locality isCrbInterface commandDataLen)
  proceed (<- (startCommand tpm locality isCrbInterface).beside)
  let responseDataLen <- onSlice responseCapacity (copyResponseData tpm locality isCrbInterface)
  copyBack host responseDataLen
  pure .ok

/-- `[0u8; CRB_DATA_BUFFER_SIZE]`. -/
def zeroBuffer : List U8 := List.replicate crbDataBufferSize 0

theorem length_zeroBuffer : zeroBuffer.length = crbDataBufferSize := List.length_replicate

/-- `TpmSst::start`. -/
def start (host : Host) (tpm : ExternalTpm Device) (locality : Locality) (isCrbInterface : Bool) :
    Routine Device ErrorCode :=
  returning do
    let responseCapacity <- fetch host (fun crb => crb.crbControlResponseSize.toNat)
    let commandCapacity <- fetch host (fun crb => crb.crbControlCommandSize.toNat)
    Action.require (isPacketSize commandCapacity && isPacketSize responseCapacity) (.error .invalidParameters)
    Action.withLocal zeroBuffer (do
      let commandDataLen <- fetchCommand host commandCapacity
      execute host tpm locality isCrbInterface responseCapacity commandDataLen)

/-! ## Rules -/

section Rules

variable {Result : Type} {returned : Result -> Bench Device -> Prop} {stopped : Stop -> Bench Device -> Prop}
  {bench : Bench Device}

theorem ensures_returning {State : Type} {routine : Action State Stop ErrorCode}
    {returned : ErrorCode -> State -> Prop} {stopped : Stop -> State -> Prop} {state : State} :
    (returning routine).Ensures returned stopped state <->
      routine.Ensures returned
        (fun reason after =>
          match reason with
          | .error code => returned code after
          | .fault fault => stopped (.fault fault) after) state := by
  rw [returning, Action.ensures_recover]
  apply iff_of_eq
  congr 1
  funext reason after
  cases reason <;> rfl

theorem ensures_proceed {State : Type} {code : ErrorCode} {returned : Unit -> State -> Prop}
    {stopped : Stop -> State -> Prop} {state : State} :
    (proceed code).Ensures returned stopped state <->
      (code = .ok -> returned () state) ∧ (code ≠ .ok -> stopped (.error code) state) := by
  rw [proceed, Action.ensures_require]
  cases code <;> simp

theorem ensures_dataIndex {State : Type} {offset : Nat}
    {returned : Fin crbDataBufferSize -> State -> Prop} {stopped : Stop -> State -> Prop} {state : State}
    (inside : offset < crbDataBufferSize) :
    (dataIndex offset).Ensures returned stopped state <-> returned ⟨offset, inside⟩ state := by
  rw [dataIndex, dif_pos inside, Action.ensures_pure]

theorem ensures_fetch {host : Host} {register : PtpCrbRegisters -> Result} :
    (fetch host register).Ensures returned stopped bench <->
      returned (register (host bench.turn bench.crb))
        { bench with crb := host bench.turn bench.crb, turn := bench.turn + 1 } :=
  Action.ensures_of_ok rfl

theorem ensures_fetchByte {host : Host} {offset : Nat} {returned : U8 -> Bench Device -> Prop}
    (inside : offset < crbDataBufferSize) :
    (fetchByte host offset).Ensures returned stopped bench <->
      returned ((host bench.turn bench.crb).crbDataBuffer ⟨offset, inside⟩)
        { bench with crb := host bench.turn bench.crb, turn := bench.turn + 1 } := by
  rw [fetchByte, Action.ensures_bind, ensures_dataIndex inside, ensures_fetch]

theorem ensures_putByte {host : Host} {index : Fin crbDataBufferSize} {byte : U8}
    {returned : Unit -> Bench Device -> Prop} :
    (putByte host index byte).Ensures returned stopped bench <->
      returned () { bench with
        crb := { host bench.turn bench.crb with
          crbDataBuffer := Function.update (host bench.turn bench.crb).crbDataBuffer index byte }
        turn := bench.turn + 1
        accesses := bench.accesses ++ [.store index byte] } :=
  Action.ensures_of_ok rfl

theorem ensures_startTimeout {tpm : ExternalTpm Device} {timeout : Nat}
    {returned : Nat -> Bench Device -> Prop} :
    (startTimeout tpm timeout).Ensures returned stopped bench <->
      returned (tpm.startTimeout bench.device timeout).1
        { bench with device := (tpm.startTimeout bench.device timeout).2 } :=
  Action.ensures_of_ok rfl

theorem ensures_readPort {tpm : ExternalTpm Device} {locality : Locality} {port : Port}
    {returned : U32 -> Bench Device -> Prop} :
    (readPort tpm locality port).Ensures returned stopped bench <->
      returned (tpm.read bench.device locality port).1
        { bench with
          device := (tpm.read bench.device locality port).2
          accesses := bench.accesses ++ [.read port (tpm.read bench.device locality port).1] } :=
  Action.ensures_of_ok rfl

theorem ensures_writePort {tpm : ExternalTpm Device} {locality : Locality} {port : Port} {value : U32}
    {returned : Unit -> Bench Device -> Prop} :
    (writePort tpm locality port value).Ensures returned stopped bench <->
      returned ()
        { bench with
          device := tpm.write bench.device locality port value
          accesses := bench.accesses ++ [.write port value] } :=
  Action.ensures_of_ok rfl

end Rules

/-! ## What the routines perform -/

/-- Between the two, there were only external accesses of a kind. -/
structure Extends (Allowed : Access -> Prop) (before after : Bench Device) : Prop where
  crb : after.crb = before.crb
  turn : after.turn = before.turn
  accesses : exists added, after.accesses = before.accesses ++ added ∧
    forall access, access ∈ added -> Allowed access

/-- The routine makes external accesses of a kind only, whatever the TPM
answers; a result that it returns is good, and a reason for which it stops
sound. -/
def Performs {Result : Type} (Allowed : Access -> Prop) (Good : Result -> Prop)
    (routine : Routine Device Result) : Prop :=
  forall bench, routine.Ensures (fun result after => Good result ∧ Extends Allowed bench after)
    (fun reason after => reason.isSound = true ∧ Extends Allowed bench after) bench

section Performs

variable {Allowed : Access -> Prop} {Result Next : Type} {Good : Result -> Prop}
  {first middle last : Bench Device}

theorem Extends.refl (bench : Bench Device) : Extends Allowed bench bench :=
  ⟨rfl, rfl, [], (List.append_nil _).symm, fun _ impossible => absurd impossible List.not_mem_nil⟩

theorem Extends.trans (before : Extends Allowed first middle) (after : Extends Allowed middle last) :
    Extends Allowed first last := by
  rcases before.accesses with ⟨earlier, recorded, allowed⟩
  rcases after.accesses with ⟨later, recorded', allowed'⟩
  refine ⟨after.crb.trans before.crb, after.turn.trans before.turn, earlier ++ later, ?_, ?_⟩
  · rw [recorded', recorded, List.append_assoc]
  · intro access member
    rcases List.mem_append.mp member with early | late
    · exact allowed access early
    · exact allowed' access late

/-- One more access. -/
theorem Extends.single {bench : Bench Device} {access : Access} (allowed : Allowed access) (device : Device) :
    Extends Allowed bench { bench with device, accesses := bench.accesses ++ [access] } := by
  refine ⟨rfl, rfl, [access], rfl, fun other member => ?_⟩
  rw [List.mem_singleton.mp member]
  exact allowed

theorem Performs.pure {result : Result} (good : Good result) :
    Performs Allowed Good (pure result : Routine Device Result) :=
  fun bench => Action.ensures_pure.mpr ⟨good, Extends.refl bench⟩

theorem Performs.denied : Performs Allowed Good (Action.stop (.error .denied) : Routine Device Result) :=
  fun bench => Action.ensures_stop.mpr ⟨rfl, Extends.refl bench⟩

theorem Performs.bind {routine : Routine Device Result} {next : Result -> Routine Device Next}
    {Final : Next -> Prop} (earlier : Performs Allowed Good routine)
    (later : forall result, Good result -> Performs Allowed Final (next result)) :
    Performs Allowed Final (routine >>= next) := by
  intro bench
  rw [Action.ensures_bind]
  apply (earlier bench).mono
  · rintro result middle ⟨good, before⟩
    apply (later result good middle).mono
    · exact fun _ _ ⟨final, after⟩ => ⟨final, before.trans after⟩
    · exact fun _ _ ⟨sound, after⟩ => ⟨sound, before.trans after⟩
  · exact fun _ _ stopped => stopped

section

variable {tpm : ExternalTpm Device} {locality : Locality}

theorem readPort_performs {port : Port} (allowed : forall value, Allowed (.read port value)) :
    Performs Allowed (fun _ => True) (readPort tpm locality port) :=
  fun _ => ensures_readPort.mpr ⟨trivial, .single (allowed _) _⟩

theorem writePort_performs {port : Port} {value : U32} (allowed : Allowed (.write port value)) :
    Performs Allowed (fun _ => True) (writePort tpm locality port value) :=
  fun _ => ensures_writePort.mpr ⟨trivial, .single allowed _⟩

theorem startTimeout_performs {timeout : Nat} :
    Performs Allowed (fun _ => True) (startTimeout tpm timeout) :=
  fun bench => ensures_startTimeout.mpr ⟨trivial, rfl, rfl, (Extends.refl bench).accesses⟩

theorem yield_performs : Performs Allowed (fun _ => True) (yield tpm) := by
  intro bench
  have same : Extends Allowed bench { bench with device := (tpm.yield bench.device).2 } :=
    ⟨rfl, rfl, (Extends.refl bench).accesses⟩
  have outcome : yield tpm bench =
      (if (tpm.yield bench.device).1 then .ok () else .error (.fault .yieldRefused),
        { bench with device := (tpm.yield bench.device).2 }) := rfl
  by_cases success : (tpm.yield bench.device).1 = true
  · rw [if_pos success] at outcome
    rw [Action.ensures_of_ok outcome]
    exact ⟨trivial, same⟩
  · rw [if_neg success] at outcome
    rw [Action.ensures_of_error outcome]
    exact ⟨rfl, same⟩

/-- Polling makes the accesses of its polls, and returns one of their results. -/
theorem pollUntil_performs {poll : Routine Device (Option Result)}
    (performs : Performs Allowed (fun answer => forall result, answer = some result -> Good result) poll)
    (polls : Nat) : Performs Allowed Good (pollUntil tpm poll polls) := by
  induction polls with
  | zero =>
      apply performs.bind
      rintro (_ | result) good
      · exact .denied
      · exact .pure (good result rfl)
  | succ polls inductionHypothesis =>
      apply performs.bind
      rintro (_ | result) good
      · exact yield_performs.bind (fun _ _ => inductionHypothesis)
      · exact .pure (good result rfl)

/-- A burst count that is returned is not zero. -/
theorem fifoReadBurstCount_performs (low : forall value, Allowed (.read .burstCountLow value))
    (high : forall value, Allowed (.read .burstCountHigh value)) :
    Performs Allowed (fun count => count ≠ 0) (fifoReadBurstCount tpm locality) := by
  apply startTimeout_performs.bind
  intro polls _
  apply pollUntil_performs
  apply (readPort_performs low).bind
  intro lowByte _
  apply (readPort_performs high).bind
  intro highByte _
  apply Performs.pure
  intro count
  split
  next nonzero =>
    intro same
    cases same
    simpa using nonzero
  next => exact fun impossible => by cases impossible

theorem returning_performs {routine : Routine Device ErrorCode}
    (performs : Performs Allowed (fun _ => True) routine) :
    Performs Allowed (fun _ => True) (returning routine) := by
  intro bench
  rw [ensures_returning]
  apply (performs bench).mono
  · exact fun _ _ holds => holds
  · rintro (code | fault) after ⟨sound, extended⟩
    · exact ⟨trivial, extended⟩
    · exact ⟨sound, extended⟩

theorem waitRegisterBits_performs {isCrbInterface : Bool} {register : Port} {bitSet bitClear : U32}
    {timeout : Nat} (allowed : forall value, Allowed (.read register value)) :
    Performs Allowed (fun _ => True)
      (waitRegisterBits tpm locality isCrbInterface register bitSet bitClear timeout) := by
  apply returning_performs
  apply startTimeout_performs.bind
  intro polls _
  apply pollUntil_performs
  apply (readPort_performs allowed).bind
  exact fun _ _ => .pure (fun _ _ => trivial)

theorem startCommand_performs {isCrbInterface : Bool}
    (crbWrite : forall value, Allowed (.write .crbControlStart value))
    (crbRead : forall value, Allowed (.read .crbControlStart value))
    (fifoWrite : forall value, Allowed (.write .status value))
    (fifoRead : forall value, Allowed (.read .status value)) :
    Performs Allowed (fun _ => True) (startCommand tpm locality isCrbInterface) := by
  unfold startCommand
  split
  · exact (writePort_performs (crbWrite _)).bind (fun _ _ => waitRegisterBits_performs crbRead)
  · exact (writePort_performs (fifoWrite _)).bind (fun _ _ => waitRegisterBits_performs fifoRead)

end

end Performs

end

end Tpm
end SecureServices
