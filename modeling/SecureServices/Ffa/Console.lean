import SecureServices.Library.Chunks
import SecureServices.Ffa.Functions

namespace SecureServices
namespace Ffa

open Library

/-!
# The console

`odp-ffa/src/function/console.rs`.  A string is cut twice: into calls of at
most 128 bytes, and each of those into registers of eight.  The first register
of a call says how many bytes there are, and sixteen more hold them.
-/

/-- `FFA_MAX_CHAR_COUNT`. -/
def ffaMaxCharCount : Nat := 128

/-- `struct Console`.  The bytes are private, and only `new` sets them. -/
structure Console where
  bytes : List U8
  length_bytes : bytes.length ≤ ffaMaxCharCount
deriving DecidableEq

/-- `Console::new`. -/
def Console.new (bytes : List U8) : Console × List U8 :=
  let parts := bytes.splitAt (min ffaMaxCharCount bytes.length)
  (⟨parts.1, by
    simp only [parts, List.splitAt_eq, List.length_take]
    omega⟩, parts.2)

/-- One register of text: what is missing from the chunk is zero. -/
def charData (chunk : List U8) : U64 :=
  let len := min 8 chunk.length
  ofLeBytes 64 (chunk.take len ++ List.replicate (8 - len) 0)

instance : FfaFunction Console where
  functionId := .consoleLog
  tryIntoParams := fun console =>
    SmcParams.tryFromIter
      (BitVec.ofNat 64 console.bytes.length :: (chunks 8 console.bytes).map charData)

/-- `Console::exec`. -/
def Console.exec (console : Console) : Smc Unit :=
  if console.bytes.isEmpty then fun world => (.ok (), world)
  else execSimple console (fun _ => .ok ())

/-- `fmt::Error`, which does not say what went wrong. -/
inductive FmtError where
  | failed
deriving DecidableEq, Repr

theorem Console.new_bytes (bytes : List U8) : (Console.new bytes).1.bytes = bytes.take ffaMaxCharCount := by
  change (bytes.splitAt (min ffaMaxCharCount bytes.length)).1 = _
  rw [List.splitAt_eq, ← List.take_eq_take_min]

theorem Console.new_remaining (bytes : List U8) : (Console.new bytes).2 = bytes.drop ffaMaxCharCount := by
  change (bytes.splitAt (min ffaMaxCharCount bytes.length)).2 = _
  rw [List.splitAt_eq, ← List.drop_eq_drop_min]

/-- `ConsoleWriter::write_str`, the loop.  Every round takes bytes off. -/
def writeBytes (bytes : List U8) (world : SmcWorld) : Except FmtError Unit × SmcWorld :=
  if bytes.isEmpty then (.ok (), world)
  else
    let console := Console.new bytes
    match console.1.exec world with
    | (.error _, after) => (.error .failed, after)
    | (.ok (), after) => writeBytes console.2 after
termination_by bytes.length
decreasing_by
  rename_i nonempty
  have some : 0 < bytes.length := List.length_pos_iff.mpr (by simpa using nonempty)
  rw [Console.new_remaining, List.length_drop, ffaMaxCharCount]
  omega

/-- `str::as_bytes`. -/
def asBytes (text : String) : List U8 := text.toUTF8.toList.map UInt8.toBitVec

/-- `ConsoleWriter::write_str`. -/
def ConsoleWriter.writeStr (text : String) : SmcWorld -> Except FmtError Unit × SmcWorld :=
  writeBytes (asBytes text)

/-! ## The registers of a call -/

/-- The registers that hold the text. -/
def SmcParams.dataRegisters (params : SmcParams) : List U64 :=
  [params.x2, params.x3, params.x4, params.x5, params.x6, params.x7, params.x8, params.x9, params.x10,
    params.x11, params.x12, params.x13, params.x14, params.x15, params.x16, params.x17]

/-- The bytes that the call hands over: as many as the first register says. -/
def SmcParams.text (params : SmcParams) : List U8 :=
  (registerBytes params.dataRegisters).take params.x1.toNat

/-- The bytes after these. -/
def SmcParams.padding (params : SmcParams) : List U8 :=
  (registerBytes params.dataRegisters).drop params.x1.toNat

theorem leBytes_charData {chunk : List U8} (fits : chunk.length ≤ 8) :
    leBytes 8 (charData chunk) = chunk ++ List.replicate (8 - chunk.length) 0 := by
  rw [charData, Nat.min_eq_right fits, List.take_length]
  apply leBytes_ofLeBytes
  rw [List.length_append, List.length_replicate]
  omega

/-- The bytes of the registers are the text, and zeros up to the end of the
last one. -/
theorem registerBytes_charData (bytes : List U8) :
    registerBytes ((chunks 8 bytes).map charData) =
      bytes ++ List.replicate (8 * (bytes.length ⌈/⌉ 8) - bytes.length) 0 := by
  have positive : 0 < 8 := by decide
  have split : forall items : List U8, items ≠ [] ->
      items.length ⌈/⌉ 8 = (items.drop 8).length ⌈/⌉ 8 + 1 := by
    intro items nonempty
    have cut := congrArg List.length (chunks_of_ne_nil positive nonempty)
    rwa [List.length_cons, length_chunks, length_chunks] at cut
  induction bytes using chunks_induction positive with
  | empty => rw [chunks_nil]; rfl
  | cut items nonempty inductionHypothesis =>
      rw [chunks_of_ne_nil positive nonempty, List.map_cons, registerBytes, List.flatMap_cons,
        leBytes_charData (List.length_take_le 8 items)]
      change _ ++ registerBytes _ = _
      rw [inductionHypothesis, split items nonempty]
      by_cases whole : 8 ≤ items.length
      · have full : (items.take 8).length = 8 := List.length_take_of_le whole
        rw [full, Nat.sub_self, List.replicate_zero, List.append_nil, ← List.append_assoc,
          List.take_append_drop, List.length_drop]
        congr 2
        omega
      · have short := Nat.le_of_not_le whole
        rw [List.take_of_length_le short, List.drop_of_length_le short]
        simp

/-- A call with at least one byte is encoded into the registers, with zeros
behind the text. -/
theorem Console.tryIntoParams_eq (console : Console) :
    exists params, FfaFunction.tryIntoParams console = .ok params ∧
      params.x1.toNat = console.bytes.length ∧
      registerBytes params.dataRegisters =
        console.bytes ++ List.replicate (ffaMaxCharCount - console.bytes.length) 0 := by
  rcases console with ⟨bytes, bound⟩
  have registers : bytes.length ⌈/⌉ 8 ≤ 16 := by
    rw [ceilDiv_le_iff_le_mul (by decide)]
    exact bound
  have count : ((chunks 8 bytes).map charData).length = bytes.length ⌈/⌉ 8 := by
    rw [List.length_map, length_chunks]
  have fits : ¬ (BitVec.ofNat 64 bytes.length :: (chunks 8 bytes).map charData).length > 17 := by
    rw [List.length_cons, count]
    omega
  refine ⟨_, if_neg fits, ?_, ?_⟩
  · change (BitVec.ofNat 64 bytes.length).toNat = bytes.length
    rw [BitVec.toNat_ofNat, Nat.mod_eq_of_lt (Nat.lt_of_le_of_lt bound (by decide))]
  · have filled := map_getD_range (0 : U64) (count.trans_le registers)
    change registerBytes ((List.range 16).map (fun index => ((chunks 8 bytes).map charData).getD index 0)) = _
    rw [filled, registerBytes_append, registerBytes_charData, registerBytes_zeros, count,
      List.append_assoc, List.replicate_append_replicate]
    have enough : bytes.length ≤ 8 * (bytes.length ⌈/⌉ 8) :=
      (ceilDiv_le_iff_le_mul (by decide)).mp (Nat.le_refl _)
    congr 2
    change _ = 128 - bytes.length
    omega

/-! ## The calls of a string -/

/-- The call hands over exactly these bytes. -/
structure SmcCall.Logs (call : SmcCall) (bytes : List U8) : Prop where
  id : call.id = .consoleLog
  count : call.params.x1.toNat = bytes.length
  nonempty : 1 ≤ bytes.length
  bounded : bytes.length ≤ ffaMaxCharCount
  text : call.params.text = bytes
  padding : forall byte, byte ∈ call.params.padding -> byte = 0

/-- The answer to the console call with this number, counted from here. -/
def SmcWorld.upcoming (world : SmcWorld) (index : Nat) : SmcResult :=
  world.others .consoleLog (world.calls.countP (fun call => call.id == .consoleLog) + index)

/-- The world after these calls. -/
def SmcWorld.issueAll (world : SmcWorld) (calls : List SmcCall) : SmcWorld :=
  { world with calls := world.calls ++ calls }

theorem SmcWorld.upcoming_issue (world : SmcWorld) {call : SmcCall} (logs : call.id = .consoleLog)
    (index : Nat) : (world.issue call).upcoming index = world.upcoming (index + 1) := by
  have counted : (world.calls ++ [call]).countP (fun call => call.id == .consoleLog) =
      world.calls.countP (fun call => call.id == .consoleLog) + 1 := by
    rw [List.countP_append, List.countP_singleton, logs]
    rfl
  rw [upcoming, upcoming, SmcWorld.issue, counted, Nat.add_right_comm, Nat.add_assoc]

theorem SmcWorld.issueAll_issue (world : SmcWorld) (call : SmcCall) (calls : List SmcCall) :
    (world.issue call).issueAll calls = world.issueAll (call :: calls) := by
  rw [issueAll, SmcWorld.issue, issueAll, List.append_assoc]
  rfl

/-- A console with text issues one call, and succeeds if the answer says so. -/
theorem Console.exec_issues {console : Console} (nonempty : console.bytes ≠ []) :
    exists call : SmcCall, call.Logs console.bytes ∧
      forall world, (console.exec world).2 = world.issue call ∧
        (console.exec world).1.isOk = isAccepted (world.upcoming 0) := by
  rcases console.tryIntoParams_eq with ⟨params, encoded, count, bytes⟩
  have some : 0 < console.bytes.length := List.length_pos_iff.mpr nonempty
  have notEmpty : ¬ console.bytes.isEmpty = true := by simpa using nonempty
  refine ⟨⟨.consoleLog, params⟩, ⟨rfl, count, some, console.length_bytes, ?_, ?_⟩, ?_⟩
  · change (registerBytes params.dataRegisters).take params.x1.toNat = console.bytes
    rw [bytes, count]
    exact List.take_left' rfl
  · intro byte member
    change byte ∈ (registerBytes params.dataRegisters).drop params.x1.toNat at member
    rw [bytes, count, List.drop_left' rfl] at member
    exact (List.mem_replicate.mp member).2
  · intro world
    rw [exec, if_neg notEmpty, execSimple_of_params encoded]
    exact ⟨rfl, exec_isOk (fun _ => rfl) (world.upcoming 0)⟩

/-- Whatever the monitor answers, it is not for want of registers. -/
theorem handleResultSimple_ne_tooManySmcParams (call : SmcCall) :
    handleResultSimple call (fun _ => .ok ()) ≠ .error .tooManySmcParams := by
  unfold handleResultSimple
  split
  · simp
  · simp
  · simp
  · cases parsed : tryParseErrorCode call.params.x2 with
    | ok code => simp
    | error reason => simp [tryParseErrorCode_eq_error parsed]
  · simp

/-- No console asks for more registers than there are. -/
theorem Console.exec_ne_tooManySmcParams (console : Console) (world : SmcWorld) :
    (console.exec world).1 ≠ .error .tooManySmcParams := by
  rw [exec]
  split
  next => simp
  next =>
    rcases console.tryIntoParams_eq with ⟨params, encoded, _count, _bytes⟩
    rw [execSimple_of_params encoded, SmcCall.tryFromResult_eq]
    generalize world.answer (FfaFunction.functionId Console) = result
    cases parsed : tryParseFunctionId (result 0) with
    | error reason => simp [Except.map, tryParseFunctionId_eq_error parsed]
    | ok id => exact handleResultSimple_ne_tooManySmcParams ⟨id, paramsOf result⟩

theorem writeBytes_nil (world : SmcWorld) : writeBytes [] world = (.ok (), world) := by
  rw [writeBytes]
  rfl

/-- One round of the loop. -/
theorem writeBytes_step {bytes : List U8} (nonempty : bytes ≠ []) :
    exists call : SmcCall, call.Logs (bytes.take ffaMaxCharCount) ∧
      forall world, writeBytes bytes world =
        if isAccepted (world.upcoming 0) then writeBytes (bytes.drop ffaMaxCharCount) (world.issue call)
        else (.error .failed, world.issue call) := by
  have first : (Console.new bytes).1.bytes ≠ [] := by
    rw [Console.new_bytes]
    simp [nonempty, ffaMaxCharCount]
  have notEmpty : ¬ bytes.isEmpty = true := by simpa using nonempty
  rcases Console.exec_issues first with ⟨call, logs, issues⟩
  rw [Console.new_bytes] at logs
  refine ⟨call, logs, fun world => ?_⟩
  rcases issues world with ⟨issued, accepted⟩
  rw [writeBytes, if_neg notEmpty, ← accepted, ← Console.new_remaining, ← issued]
  dsimp only
  generalize (Console.new bytes).1.exec world = outcome
  rcases outcome with ⟨_ | _, after⟩
  · rfl
  · rfl

/-- The calls hand over one chunk each, until one of them fails. -/
theorem writeBytes_run (bytes : List U8) :
    exists calls, List.Forall₂ SmcCall.Logs calls (chunks ffaMaxCharCount bytes) ∧
      forall world : SmcWorld,
        ((forall index, index < calls.length -> isAccepted (world.upcoming index) = true) ->
          writeBytes bytes world = (.ok (), world.issueAll calls)) ∧
        (forall index, index < calls.length ->
          (forall earlier, earlier < index -> isAccepted (world.upcoming earlier) = true) ->
          isAccepted (world.upcoming index) = false ->
            writeBytes bytes world = (.error .failed, world.issueAll (calls.take (index + 1)))) := by
  have positive : 0 < ffaMaxCharCount := by decide
  induction bytes using chunks_induction positive with
  | empty =>
      rw [chunks_nil]
      refine ⟨[], .nil, fun world => ⟨fun _ => ?_, fun index inside => nomatch inside⟩⟩
      rw [writeBytes_nil, SmcWorld.issueAll, List.append_nil]
  | cut bytes nonempty inductionHypothesis =>
      rcases writeBytes_step nonempty with ⟨call, logs, step⟩
      rcases inductionHypothesis with ⟨calls, rest, run⟩
      rw [chunks_of_ne_nil positive nonempty]
      refine ⟨call :: calls, .cons logs rest, fun world => ?_⟩
      have later := world.upcoming_issue logs.id
      rcases run (world.issue call) with ⟨succeeds, fails⟩
      rw [step]
      constructor
      · intro accepted
        rw [if_pos (accepted 0 (Nat.succ_pos _)), ← world.issueAll_issue]
        apply succeeds
        intro index inside
        rw [later]
        exact accepted (index + 1) (Nat.succ_lt_succ inside)
      · intro index inside earlier failed
        cases index with
        | zero =>
            rw [if_neg (by simp [failed])]
            rfl
        | succ index =>
            rw [if_pos (earlier 0 (Nat.succ_pos _)), List.take_succ_cons, ← world.issueAll_issue]
            apply fails index (Nat.lt_of_succ_lt_succ inside)
            · intro before less
              rw [later]
              exact earlier (before + 1) (Nat.succ_lt_succ less)
            · rw [later]
              exact failed

/-- A string is transmitted exactly: in as few calls as hold it, each full
but the last, which carry its bytes in order and nothing else. -/
theorem writeStr_transmits (text : String) :
    (exists calls : List SmcCall,
      calls.length = (asBytes text).length ⌈/⌉ ffaMaxCharCount ∧
      (forall call, call ∈ calls -> call.id = .consoleLog ∧
        1 ≤ call.params.x1.toNat ∧ call.params.x1.toNat ≤ ffaMaxCharCount ∧
        forall byte, byte ∈ call.params.padding -> byte = 0) ∧
      (calls.map (fun call => call.params.text)).flatten = asBytes text ∧
      forall world : SmcWorld,
        ((forall index, index < calls.length -> isAccepted (world.upcoming index) = true) ->
          ConsoleWriter.writeStr text world = (.ok (), world.issueAll calls)) ∧
        (forall index, index < calls.length ->
          (forall earlier, earlier < index -> isAccepted (world.upcoming earlier) = true) ->
          isAccepted (world.upcoming index) = false ->
            ConsoleWriter.writeStr text world =
              (.error .failed, world.issueAll (calls.take (index + 1))))) ∧
    forall (console : Console) (world : SmcWorld), (console.exec world).1 ≠ .error .tooManySmcParams := by
  refine ⟨?_, Console.exec_ne_tooManySmcParams⟩
  rcases writeBytes_run (asBytes text) with ⟨calls, logs, run⟩
  have texts : calls.map (fun call => call.params.text) = chunks ffaMaxCharCount (asBytes text) := by
    rw [← List.forall₂_eq_eq_eq, List.forall₂_map_left_iff]
    exact logs.imp (fun _ _ logs => logs.text)
  refine ⟨calls, ?_, ?_, ?_, run⟩
  · rw [logs.length_eq, length_chunks]
  · intro call member
    rcases List.getElem_of_mem member with ⟨index, inside, rfl⟩
    have carries := logs.get inside (logs.length_eq ▸ inside)
    exact ⟨carries.id, carries.nonempty.trans_eq carries.count.symm, carries.count.trans_le carries.bounded,
      carries.padding⟩
  · rw [texts, flatten_chunks (by decide)]

end Ffa
end SecureServices
