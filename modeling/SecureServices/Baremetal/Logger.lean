import SecureServices.Ffa.Console

namespace SecureServices
namespace Baremetal

open Library Ffa

/-!
# The log

`println!` of `odp-ffa`, `ec-service-lib/src/sp_logger.rs` and the panic handlers
of the platforms.  All of them end in the console, which may refuse a call; then
the printing panics, and the panic handler prints as well.  What a computation
prints is stated by the text that the console is given and the calls that it
refuses, so that texts one after the other are the composition of such
statements.
-/

/-! ## Formatted text -/

/-- A computation that prints.  Its error is the one on which `unwrap` panics. -/
abbrev Printing := SmcWorld -> Except FmtError Unit × SmcWorld

/-- The second, unless the first failed. -/
def Printing.andThen (first second : Printing) : Printing :=
  fun world =>
    match first world with
    | (.error reason, after) => (.error reason, after)
    | (.ok (), after) => second after

/-- `ConsoleWriter.write_fmt(..)`, of the pieces into which the formatter cuts
the text. -/
def ConsoleWriter.writeFmt : List String -> Printing
  | [] => fun world => (.ok (), world)
  | piece :: pieces => Printing.andThen (Ffa.ConsoleWriter.writeStr piece) (writeFmt pieces)

/-- `_print`. -/
def print (args : List String) : Printing := ConsoleWriter.writeFmt args

/-- `println!`. -/
def println (args : List String) : Printing := (print args).andThen (print ["\n"])

/-! ## Records -/

/-- `log::Level`. -/
inductive Level where
  | error | warn | info | debug | trace
deriving DecidableEq, Repr

def Level.name : Level -> String
  | .error => "ERROR"
  | .warn => "WARN"
  | .info => "INFO"
  | .debug => "DEBUG"
  | .trace => "TRACE"

/-- `{:<5}`: the name, and one space at a time up to five characters. -/
def Level.padded (level : Level) : List String :=
  level.name :: List.replicate (5 - level.name.length) " "

/-- `log::Record`, as far as the logger reads it. -/
structure Record where
  level : Level
  modulePath : Option String
  args : List String
deriving DecidableEq, Repr

/-- `"{:<5} - {} - {}"`. -/
def Record.pieces (record : Record) : List String :=
  record.level.padded ++ [" - ", record.modulePath.getD "unknown", " - "] ++ record.args

/-- `SpLogger::log` of `ec-service-lib`.  The logger is always enabled. -/
def SpLogger.log (record : Record) : Printing := println record.pieces

/-- `SpLogger::log` of `odp-ffa`, which does not end the line. -/
def SpLogger.logUnterminated (record : Record) : Printing := print record.pieces

/-! ## Panics -/

/-- `core::panic::Location`. -/
structure Location where
  file : String
  line : Nat
  column : Nat
deriving DecidableEq, Repr

/-- `core::panic::PanicInfo`. -/
structure PanicInfo where
  location : Option Location
  message : List String
deriving DecidableEq, Repr

/-- What the panic handler logs, under the path of its module. -/
def panicRecord (modulePath : String) (info : PanicInfo) : Record :=
  let location := info.location.getD { file := "???", line := 0, column := 0 }
  { level := .error
    modulePath := some modulePath
    args := ["Kernel panic!\n\nPanic location:\n      File '", location.file, "', line ", toString location.line,
      ", column ", toString location.column, "\n\n"] ++ info.message }

/-- `panic_prevent_reenter`: what becomes of the flag, if the function returns. -/
def panicPreventReenter (panicInProgress : Bool) : Option Bool :=
  if panicInProgress then none else some true

/-- The function returns only once. -/
theorem panicPreventReenter_eq_some {before after : Bool} :
    panicPreventReenter before = some after <-> before = false ∧ after = true := by
  cases before with
  | false => simp [panicPreventReenter, eq_comm]
  | true => simp [panicPreventReenter]

/-- `unwrap` of what printing returned. -/
def unwrapPrinted (printed : Except FmtError Unit × SmcWorld) (panics : SmcWorld -> SmcWorld) : SmcWorld :=
  match printed with
  | (.ok (), after) => after
  | (.error _, after) => panics after

/-- `fn panic`: the world in which the core waits forever.  Printing may panic
again, on the second description. -/
def panicHandler (modulePath : String) (unwrapInfo : PanicInfo) (panicInProgress : Bool) (info : PanicInfo)
    (world : SmcWorld) : SmcWorld :=
  match _entered : panicPreventReenter panicInProgress with
  | none => world
  | some inProgress =>
      unwrapPrinted (SpLogger.log (panicRecord modulePath info) world)
        (panicHandler modulePath unwrapInfo inProgress unwrapInfo)
termination_by (!panicInProgress).toNat
decreasing_by
  rcases panicPreventReenter_eq_some.mp _entered with ⟨rfl, rfl⟩
  exact Nat.zero_lt_one

/-! ## What the console shows -/

/-- The calls to the console. -/
def consoleCalls (world : SmcWorld) : List SmcCall :=
  world.calls.filter (fun call => call.id == .consoleLog)

/-- What the console was given to show. -/
def consoleText (world : SmcWorld) : List U8 :=
  ((consoleCalls world).map (fun call => call.params.text)).flatten

/-- How many of its calls the console has refused. -/
def refusals (world : SmcWorld) : Nat :=
  (List.range (consoleCalls world).length).countP (fun index => !isAccepted (world.others .consoleLog index))

/-- The other calls. -/
def otherCalls (world : SmcWorld) : List SmcCall :=
  world.calls.filter (fun call => call.id != .consoleLog)

/-- The console was called with this text and refused some of the calls, and
these other calls were issued. -/
structure Wrote (before after : SmcWorld) (text : List U8) (refused : Nat) (issued : List SmcCall) : Prop where
  text : consoleText after = consoleText before ++ text
  refusals : refusals after = refusals before + refused
  messages : after.messages = before.messages
  others : after.others = before.others
  issued : otherCalls after = otherCalls before ++ issued

theorem Wrote.refl (world : SmcWorld) : Wrote world world [] 0 [] :=
  ⟨(List.append_nil _).symm, rfl, rfl, rfl, (List.append_nil _).symm⟩

theorem Wrote.trans {first second third : SmcWorld} {early late : List U8} {some more : Nat}
    {issued others : List SmcCall} (earlier : Wrote first second early some issued)
    (later : Wrote second third late more others) :
    Wrote first third (early ++ late) (some + more) (issued ++ others) where
  text := by rw [later.text, earlier.text, List.append_assoc]
  refusals := by rw [later.refusals, earlier.refusals, Nat.add_assoc]
  messages := later.messages.trans earlier.messages
  others := later.others.trans earlier.others
  issued := by rw [later.issued, earlier.issued, List.append_assoc]

theorem wrote_issue (world : SmcWorld) {call : SmcCall} {bytes : List U8} (logs : call.Logs bytes) :
    Wrote world (world.issue call) bytes (if isAccepted (world.upcoming 0) then 0 else 1) [] := by
  have isConsole : (call.id == .consoleLog) = true := by rw [logs.id]; rfl
  have calls : consoleCalls (world.issue call) = consoleCalls world ++ [call] := by
    rw [consoleCalls, SmcWorld.issue, List.filter_append, List.filter_singleton, isConsole]
    rfl
  refine ⟨?_, ?_, rfl, rfl, ?_⟩
  · rw [consoleText, calls, List.map_append, List.flatten_append, consoleText]
    simp [logs.text]
  · have next : world.upcoming 0 = world.others .consoleLog (consoleCalls world).length := by
      rw [SmcWorld.upcoming, consoleCalls, ← List.countP_eq_length_filter]
      rfl
    have same : (world.issue call).others = world.others := rfl
    rw [refusals, refusals, calls, same, List.length_append, List.length_singleton, List.range_succ, List.countP_append,
      List.countP_singleton, next]
    cases isAccepted (world.others .consoleLog (consoleCalls world).length) <;> rfl
  · have notOther : (call.id != .consoleLog) = false := by rw [logs.id]; rfl
    rw [otherCalls, SmcWorld.issue, List.filter_append, List.filter_singleton, notOther]
    rfl

theorem wrote_issue_other (world : SmcWorld) {call : SmcCall} (other : call.id ≠ .consoleLog) :
    Wrote world (world.issue call) [] 0 [call] := by
  have notConsole : (call.id == .consoleLog) = false := beq_eq_false_iff_ne.mpr other
  have calls : consoleCalls (world.issue call) = consoleCalls world := by
    rw [consoleCalls, SmcWorld.issue, List.filter_append, List.filter_singleton, notConsole, consoleCalls]
    exact List.append_nil _
  refine ⟨?_, ?_, rfl, rfl, ?_⟩
  · rw [consoleText, calls, List.append_nil, consoleText]
  · rw [refusals, calls, Nat.add_zero, refusals]
    rfl
  · have isOther : (call.id != .consoleLog) = true := bne_iff_ne.mpr other
    rw [otherCalls, SmcWorld.issue, List.filter_append, List.filter_singleton, isOther]
    rfl

/-- The text is printed whole, with every call accepted, or up to a call that
is refused. -/
def Printing.Transmits (printing : Printing) (text : List U8) : Prop :=
  forall world after,
    (printing world = (.ok (), after) -> Wrote world after text 0 []) ∧
    (forall reason, printing world = (.error reason, after) ->
      exists cut, cut <+: text ∧ Wrote world after cut 1 [])

theorem Printing.transmits_nothing : Printing.Transmits (fun world => (.ok (), world)) [] := by
  intro world after
  constructor
  · intro printed
    cases printed
    exact Wrote.refl world
  · intro reason printed
    cases printed

/-- One text after the other. -/
theorem Printing.Transmits.andThen {first second : Printing} {early late : List U8}
    (earlier : first.Transmits early) (later : second.Transmits late) :
    (first.andThen second).Transmits (early ++ late) := by
  intro world after
  rcases begun : first world with ⟨reason | done, middle⟩
  · have stops : first.andThen second world = (.error reason, middle) := by rw [Printing.andThen, begun]
    rw [stops]
    refine ⟨fun printed => (nomatch printed), fun other printed => ?_⟩
    cases printed
    rcases (earlier world _).2 _ begun with ⟨cut, part, wrote⟩
    exact ⟨cut, part.trans (List.prefix_append early late), wrote⟩
  · have goesOn : first.andThen second world = second middle := by rw [Printing.andThen, begun]
    have wrote := (earlier world middle).1 begun
    rw [goesOn]
    refine ⟨fun printed => wrote.trans ((later middle after).1 printed), fun reason printed => ?_⟩
    rcases (later middle after).2 reason printed with ⟨cut, part, wroteMore⟩
    refine ⟨early ++ cut, (List.prefix_append_right_inj early).mpr part, ?_⟩
    have both := wrote.trans wroteMore
    rwa [Nat.zero_add] at both

/-! ## Text call by call -/

/-- One round of `write_str`. -/
def writeConsole (console : Console) : Printing :=
  fun world =>
    match console.exec world with
    | (.error _, after) => (.error .failed, after)
    | (.ok (), after) => (.ok (), after)

/-- One computation after the other, until one fails. -/
def inSequence : List Printing -> Printing
  | [] => fun world => (.ok (), world)
  | printing :: rest => printing.andThen (inSequence rest)

theorem inSequence_append (early late : List Printing) :
    inSequence (early ++ late) = (inSequence early).andThen (inSequence late) := by
  induction early with
  | nil => rfl
  | cons first rest inductionHypothesis =>
      rw [List.cons_append, inSequence, inductionHypothesis, inSequence]
      funext world
      simp only [Printing.andThen]
      rcases first world with ⟨reason | done, middle⟩ <;> rfl

/-- Text is printed by calls, each with a part of it. -/
theorem writeBytes_calls (bytes : List U8) :
    exists consoles : List Console, consoles.flatMap Console.bytes = bytes ∧
      writeBytes bytes = inSequence (consoles.map writeConsole) := by
  have positive : 0 < ffaMaxCharCount := by decide
  induction bytes using chunks_induction positive with
  | empty => exact ⟨[], rfl, funext writeBytes_nil⟩
  | cut bytes nonempty inductionHypothesis =>
      rcases inductionHypothesis with ⟨consoles, text, calls⟩
      refine ⟨(Console.new bytes).1 :: consoles, ?_, ?_⟩
      · rw [List.flatMap_cons, text, Console.new_bytes]
        exact List.take_append_drop _ _
      · have notEmpty : ¬ bytes.isEmpty = true := by simpa using nonempty
        funext world
        rw [writeBytes, if_neg notEmpty, List.map_cons, inSequence, ← calls, ← Console.new_remaining]
        simp only [Printing.andThen, writeConsole]
        rcases (Console.new bytes).1.exec world with ⟨reason | done, after⟩ <;> rfl

theorem writeFmt_calls (pieces : List String) :
    exists consoles : List Console, consoles.flatMap Console.bytes = pieces.flatMap asBytes ∧
      ConsoleWriter.writeFmt pieces = inSequence (consoles.map writeConsole) := by
  induction pieces with
  | nil => exact ⟨[], rfl, rfl⟩
  | cons piece pieces inductionHypothesis =>
      rcases writeBytes_calls (asBytes piece) with ⟨early, earlyText, earlyCalls⟩
      rcases inductionHypothesis with ⟨late, lateText, lateCalls⟩
      refine ⟨early ++ late, ?_, ?_⟩
      · rw [List.flatMap_append, earlyText, lateText, List.flatMap_cons]
      · rw [List.map_append, inSequence_append, ← earlyCalls, ← lateCalls]
        rfl

/-- A call hands over its bytes, or fails. -/
theorem writeConsole_transmits (console : Console) : (writeConsole console).Transmits console.bytes := by
  intro world after
  by_cases empty : console.bytes = []
  · have nothing : writeConsole console world = (.ok (), world) := by
      rw [writeConsole, Console.exec, if_pos (by simp [empty])]
    rw [nothing, empty]
    exact Printing.transmits_nothing world after
  · rcases Console.exec_issues empty with ⟨call, logs, issues⟩
    rcases issues world with ⟨issued, accepted⟩
    have wrote := wrote_issue world logs
    rw [← accepted, ← issued] at wrote
    rw [writeConsole]
    rcases printed : console.exec world with ⟨reason | done, middle⟩
    · rw [printed] at wrote
      constructor
      · intro same
        cases same
      · intro other same
        cases same
        exact ⟨console.bytes, List.prefix_refl _, wrote⟩
    · rw [printed] at wrote
      constructor
      · intro same
        cases same
        exact wrote
      · intro other same
        cases same

theorem inSequence_transmits (consoles : List Console) :
    (inSequence (consoles.map writeConsole)).Transmits (consoles.flatMap Console.bytes) := by
  induction consoles with
  | nil => exact Printing.transmits_nothing
  | cons console consoles inductionHypothesis =>
      rw [List.flatMap_cons]
      exact (writeConsole_transmits console).andThen inductionHypothesis

/-! ## Lines -/

/-- The line of a record. -/
def Record.line (record : Record) : String := String.join record.pieces ++ "\n"

theorem toList_eq_data (bytes : ByteArray) : bytes.toList = bytes.data.toList := by
  have reads : forall index (read : List UInt8),
      ByteArray.toList.loop bytes index read = read.reverse ++ bytes.data.toList.drop index := by
    intro index read
    fun_induction ByteArray.toList.loop bytes index read with
    | case1 index read inside inductionHypothesis =>
        have here : bytes.data.toList.drop index = bytes.get! index :: bytes.data.toList.drop (index + 1) := by
          have bound : index < bytes.data.toList.length := inside
          rw [List.drop_eq_getElem_cons bound]
          congr 1
          simp [ByteArray.get!, inside]
        rw [inductionHypothesis, here, List.reverse_cons, List.append_assoc]
        rfl
    | case2 index read outside =>
        have short : bytes.data.toList.length ≤ index := Nat.le_of_not_lt outside
        rw [List.drop_of_length_le short, List.append_nil]
  exact reads 0 []

theorem asBytes_append (first second : String) : asBytes (first ++ second) = asBytes first ++ asBytes second := by
  rw [asBytes, asBytes, asBytes, toList_eq_data, toList_eq_data, toList_eq_data, ← List.map_append]
  congr 1

theorem asBytes_join (pieces : List String) : asBytes (String.join pieces) = pieces.flatMap asBytes := by
  induction pieces with
  | nil =>
      change asBytes "" = []
      rw [asBytes, toList_eq_data]
      rfl
  | cons piece pieces inductionHypothesis =>
      rw [List.flatMap_cons, ← inductionHypothesis, ← asBytes_append]
      simp

/-- A line is printed by calls that may stand apart. -/
theorem log_calls (record : Record) :
    exists consoles : List Console, consoles.flatMap Console.bytes = asBytes record.line ∧
      SpLogger.log record = inSequence (consoles.map writeConsole) := by
  rcases writeFmt_calls record.pieces with ⟨early, earlyText, earlyCalls⟩
  rcases writeFmt_calls ["\n"] with ⟨late, lateText, lateCalls⟩
  refine ⟨early ++ late, ?_, ?_⟩
  · rw [List.flatMap_append, earlyText, lateText, Record.line, asBytes_append, asBytes_join]
    simp
  · rw [List.map_append, inSequence_append, ← earlyCalls, ← lateCalls]
    rfl

/-- The logger transmits the line of a record. -/
theorem log_transmits (record : Record) : (SpLogger.log record).Transmits (asBytes record.line) := by
  rcases log_calls record with ⟨consoles, text, calls⟩
  rw [← text, calls]
  exact inSequence_transmits consoles

/-! ## The last words -/

section LastWords

variable (modulePath : String) (unwrapInfo : PanicInfo)

/-- A description of the panic, whole unless the console refused a call. -/
def LastWords (info : PanicInfo) (text : List U8) (refused : Nat) : Prop :=
  text <+: asBytes (panicRecord modulePath info).line ∧ refused ≤ 1 ∧
    (refused = 0 -> text = asBytes (panicRecord modulePath info).line)

/-- A panic while a panic is being described says nothing. -/
theorem panicHandler_again (info : PanicInfo) (world : SmcWorld) :
    panicHandler modulePath unwrapInfo true info world = world := by
  rw [panicHandler]
  rfl

theorem panicHandler_first (info : PanicInfo) (world : SmcWorld) :
    panicHandler modulePath unwrapInfo false info world =
      (SpLogger.log (panicRecord modulePath info) world).2 := by
  rw [panicHandler]
  change unwrapPrinted _ (panicHandler modulePath unwrapInfo true unwrapInfo) = _
  rcases SpLogger.log (panicRecord modulePath info) world with ⟨reason | done, after⟩
  · exact panicHandler_again modulePath unwrapInfo unwrapInfo after
  · rfl

theorem panicHandler_wrote (info : PanicInfo) (world : SmcWorld) :
    exists text refused, LastWords modulePath info text refused ∧
      Wrote world (panicHandler modulePath unwrapInfo false info world) text refused [] := by
  rw [panicHandler_first]
  have transmits := log_transmits (panicRecord modulePath info) world
  rcases printed : SpLogger.log (panicRecord modulePath info) world with ⟨reason | done, after⟩
  · rcases (transmits after).2 reason printed with ⟨cut, part, wrote⟩
    exact ⟨cut, 1, ⟨part, Nat.le_refl 1, fun none => nomatch none⟩, wrote⟩
  · exact ⟨_, 0, ⟨List.prefix_refl _, Nat.zero_le 1, fun _ => rfl⟩, (transmits after).1 printed⟩

end LastWords

end Baremetal
end SecureServices
