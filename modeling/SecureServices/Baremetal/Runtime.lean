import SecureServices.Library.Run
import SecureServices.Baremetal.Logger

namespace SecureServices
namespace Baremetal

open Library Ffa

/-!
# Runs of a partition

The program of the partition and the handlers of its interrupts share one
console and one panic handler.  A handler runs with everything masked, and so
as a whole, but between any two calls of the program: a line that the program
prints may be cut open by the line of a handler.  A panic of the program leaves
the interrupts as they were, so that handlers run on while the core waits.  A
panic in a handler leaves them masked.
-/

/-- Who does something. -/
inductive Context where
  | program | handler
deriving DecidableEq, Repr

/-- What is done, as far as the console can tell: a line in one go, one call of a
line, some other call, or a panic. -/
inductive Doing where
  | log (record : Record)
  | write (console : Console)
  | issue (call : { call : SmcCall // call.id ≠ .consoleLog })
  | panic (info : PanicInfo)
deriving DecidableEq

structure Event where
  context : Context
  doing : Doing
deriving DecidableEq

/-- The program runs, or waits in the panic handler and only handlers run, or
the core waits in the panic handler inside a handler. -/
inductive Mode where
  | running | waiting | stuck
deriving DecidableEq, Repr

/-- Whether something is done in a mode. -/
def Mode.allows : Mode -> Context -> Bool
  | .running, _ => true
  | .waiting, .handler => true
  | _, _ => false

structure Runtime where
  world : SmcWorld
  mode : Mode

section Runs

variable (modulePath : String) (unwrapInfo : PanicInfo)

/-- A panic.  Another one is in progress exactly if the program does not run. -/
def panicked (mode : Mode) (context : Context) (info : PanicInfo) (world : SmcWorld) : Runtime where
  world := panicHandler modulePath unwrapInfo (mode != .running) info world
  mode :=
    match context with
    | .program => .waiting
    | .handler => .stuck

/-- After printing, which panics if it fails. -/
def afterPrinting (mode : Mode) (context : Context) (printed : Except FmtError Unit × SmcWorld) : Runtime :=
  match printed with
  | (.ok (), after) => { world := after, mode }
  | (.error _, after) => panicked modulePath unwrapInfo mode context unwrapInfo after

def perform (mode : Mode) (context : Context) (doing : Doing) (world : SmcWorld) : Runtime :=
  match doing with
  | .log record => afterPrinting modulePath unwrapInfo mode context (SpLogger.log record world)
  | .write console => afterPrinting modulePath unwrapInfo mode context (writeConsole console world)
  | .issue call => { world := world.issue call.val, mode }
  | .panic info => panicked modulePath unwrapInfo mode context info world

def Runtime.step (runtime : Runtime) (event : Event) : Runtime :=
  if runtime.mode.allows event.context then
    perform modulePath unwrapInfo runtime.mode event.context event.doing runtime.world
  else runtime

end Runs

/-! ## One event -/

/-- What is shown, if nothing panics. -/
def Doing.text : Doing -> List U8
  | .log record => asBytes record.line
  | .write console => console.bytes
  | _ => []

/-- The other calls. -/
def Doing.issued : Doing -> List SmcCall
  | .issue call => [call.val]
  | _ => []

/-- It does not panic by itself. -/
def Doing.Calm (doing : Doing) : Prop := forall info, doing ≠ .panic info

section Steps

variable {modulePath : String} {unwrapInfo : PanicInfo}

/-- It panics with this description: at once, or after a part of its text at the
end of which the console refused a call. -/
def Doing.Breaks (unwrapInfo : PanicInfo) (doing : Doing) (cut : List U8) (refused : Nat) (info : PanicInfo) :
    Prop :=
  match doing with
  | .panic own => cut = [] ∧ refused = 0 ∧ info = own
  | .issue _ => False
  | _ => cut <+: doing.text ∧ refused = 1 ∧ info = unwrapInfo

/-- What happens if something is done: it is done, or it panics. -/
theorem perform_cases (mode : Mode) (context : Context) (doing : Doing) (world : SmcWorld) :
    (doing.Calm ∧ exists after, perform modulePath unwrapInfo mode context doing world = { world := after, mode } ∧
      Wrote world after doing.text 0 doing.issued) ∨
    exists after cut refused info, doing.Breaks unwrapInfo cut refused info ∧
      perform modulePath unwrapInfo mode context doing world =
        panicked modulePath unwrapInfo mode context info after ∧
      Wrote world after cut refused [] := by
  cases doing with
  | log record =>
      have transmits := log_transmits record world
      rcases printed : SpLogger.log record world with ⟨reason | done, after⟩
      · rcases (transmits after).2 reason printed with ⟨cut, part, wrote⟩
        refine Or.inr ⟨after, cut, 1, unwrapInfo, ⟨part, rfl, rfl⟩, ?_, wrote⟩
        rw [perform, printed, afterPrinting]
      · refine Or.inl ⟨fun info same => (nomatch same), after, ?_, (transmits after).1 printed⟩
        rw [perform, printed, afterPrinting]
  | write console =>
      have transmits := writeConsole_transmits console world
      rcases printed : writeConsole console world with ⟨reason | done, after⟩
      · rcases (transmits after).2 reason printed with ⟨cut, part, wrote⟩
        refine Or.inr ⟨after, cut, 1, unwrapInfo, ⟨part, rfl, rfl⟩, ?_, wrote⟩
        rw [perform, printed, afterPrinting]
      · refine Or.inl ⟨fun info same => (nomatch same), after, ?_, (transmits after).1 printed⟩
        rw [perform, printed, afterPrinting]
  | issue call =>
      exact Or.inl ⟨fun info same => (nomatch same), _, rfl, wrote_issue_other world call.property⟩
  | panic info =>
      exact Or.inr ⟨world, [], 0, info, ⟨rfl, rfl, rfl⟩, rfl, Wrote.refl world⟩

end Steps

/-! ## What the console shows -/

def textOf (events : List Event) : List U8 := events.flatMap (fun event => event.doing.text)

def issuedBy (events : List Event) : List SmcCall := events.flatMap (fun event => event.doing.issued)

def handlers (events : List Event) : List Event := events.filter (fun event => event.context = .handler)

def Calm (events : List Event) : Prop := forall event, event ∈ events -> event.doing.Calm

/-- How a run went, by its events, the mode in the end, the text on the console,
how many calls the console refused, and the other calls. -/
inductive Story (modulePath : String) (unwrapInfo : PanicInfo) :
    List Event -> Mode -> List U8 -> Nat -> List SmcCall -> Prop
  | runs {events} (calm : Calm events) :
      Story modulePath unwrapInfo events .running (textOf events) 0 (issuedBy events)
  | waits {before event during cut refused info words more} (calm : Calm before)
      (program : event.context = .program) (breaks : event.doing.Breaks unwrapInfo cut refused info)
      (last : LastWords modulePath info words more) (calmly : Calm (handlers during)) :
      Story modulePath unwrapInfo (before ++ event :: during) .waiting
        (textOf before ++ cut ++ words ++ textOf (handlers during)) (refused + more)
        (issuedBy before ++ issuedBy (handlers during))
  | breaksOff {before event after cut refused info words more} (calm : Calm before)
      (handler : event.context = .handler) (breaks : event.doing.Breaks unwrapInfo cut refused info)
      (last : LastWords modulePath info words more) :
      Story modulePath unwrapInfo (before ++ event :: after) .stuck (textOf before ++ cut ++ words)
        (refused + more) (issuedBy before)
  | fallsSilent {before event during final after cut refused info words more rest again reason}
      (calm : Calm before) (program : event.context = .program)
      (breaks : event.doing.Breaks unwrapInfo cut refused info) (last : LastWords modulePath info words more)
      (calmly : Calm (handlers during)) (handler : final.context = .handler)
      (breaksAgain : final.doing.Breaks unwrapInfo rest again reason) :
      Story modulePath unwrapInfo (before ++ event :: (during ++ final :: after)) .stuck
        (textOf before ++ cut ++ words ++ textOf (handlers during) ++ rest) (refused + more + again)
        (issuedBy before ++ issuedBy (handlers during))

theorem textOf_snoc (events : List Event) (event : Event) :
    textOf (events ++ [event]) = textOf events ++ event.doing.text := by
  rw [textOf, List.flatMap_append, List.flatMap_singleton, textOf]

theorem issuedBy_snoc (events : List Event) (event : Event) :
    issuedBy (events ++ [event]) = issuedBy events ++ event.doing.issued := by
  rw [issuedBy, List.flatMap_append, List.flatMap_singleton, issuedBy]

theorem Calm.snoc {events : List Event} {event : Event} (calm : Calm events) (last : event.doing.Calm) :
    Calm (events ++ [event]) := by
  intro other member
  rcases List.mem_append.mp member with earlier | new
  · exact calm other earlier
  · rw [List.mem_singleton.mp new]
    exact last

theorem handlers_snoc_of_handler {events : List Event} {event : Event} (handler : event.context = .handler) :
    handlers (events ++ [event]) = handlers events ++ [event] := by
  rw [handlers, List.filter_append, List.filter_singleton, decide_eq_true handler, handlers]
  rfl

theorem handlers_snoc_of_program {events : List Event} {event : Event} (program : event.context = .program) :
    handlers (events ++ [event]) = handlers events := by
  have other : event.context ≠ .handler := by simp [program]
  rw [handlers, List.filter_append, List.filter_singleton, decide_eq_false other, handlers]
  exact List.append_nil _

/-- A run that went like this, from this world to this runtime. -/
def Shown (modulePath : String) (unwrapInfo : PanicInfo) (start : SmcWorld) (events : List Event)
    (runtime : Runtime) : Prop :=
  exists text refused issued, Story modulePath unwrapInfo events runtime.mode text refused issued ∧
    Wrote start runtime.world text refused issued

section Shown

variable {modulePath : String} {unwrapInfo : PanicInfo} {start world : SmcWorld} {events : List Event}

/-- While the program runs. -/
theorem shown_step_running (calm : Calm events) (soFar : Wrote start world (textOf events) 0 (issuedBy events))
    (event : Event) :
    Shown modulePath unwrapInfo start (events ++ [event])
      (perform modulePath unwrapInfo .running event.context event.doing world) := by
  rcases perform_cases .running event.context event.doing world with
    ⟨calmly, after, performed, wrote⟩ | ⟨after, cut, refused, info, breaks, performed, wrote⟩
  · rw [performed]
    refine ⟨_, _, _, .runs (calm.snoc calmly), ?_⟩
    rw [textOf_snoc, issuedBy_snoc]
    exact soFar.trans wrote
  · rw [performed]
    rcases panicHandler_wrote modulePath unwrapInfo info after with ⟨words, more, last, said⟩
    have all := (soFar.trans wrote).trans said
    rw [Nat.zero_add, List.append_nil, List.append_nil] at all
    cases who : event.context with
    | program =>
        have noText : textOf (handlers []) = [] := rfl
        have noCalls : issuedBy (handlers []) = [] := rfl
        refine ⟨_, _, _, .waits calm who breaks last (fun _ member => nomatch member), ?_⟩
        rw [noText, noCalls, List.append_nil, List.append_nil]
        exact all
    | handler => exact ⟨_, _, _, .breaksOff calm who breaks last, all⟩

/-- While the program waits, a handler. -/
theorem shown_step_waiting {before during : List Event} {event last : Event} {cut words : List U8}
    {refused more : Nat} {info : PanicInfo} (calm : Calm before) (program : event.context = .program)
    (breaks : event.doing.Breaks unwrapInfo cut refused info) (said : LastWords modulePath info words more)
    (calmly : Calm (handlers during))
    (soFar : Wrote start world (textOf before ++ cut ++ words ++ textOf (handlers during)) (refused + more)
      (issuedBy before ++ issuedBy (handlers during))) (handler : last.context = .handler) :
    Shown modulePath unwrapInfo start (before ++ event :: (during ++ [last]))
      (perform modulePath unwrapInfo .waiting last.context last.doing world) := by
  rcases perform_cases .waiting last.context last.doing world with
    ⟨quietly, after, performed, wrote⟩ | ⟨after, rest, again, reason, breaksAgain, performed, wrote⟩
  · rw [performed]
    have stays : Calm (handlers (during ++ [last])) := by
      rw [handlers_snoc_of_handler handler]
      exact calmly.snoc quietly
    refine ⟨_, _, _, .waits calm program breaks said stays, ?_⟩
    rw [handlers_snoc_of_handler handler, textOf_snoc, issuedBy_snoc, ← List.append_assoc, ← List.append_assoc]
    exact soFar.trans wrote
  · have silent : (panicked modulePath unwrapInfo .waiting last.context reason after) =
        { world := after, mode := .stuck } := by
      rw [handler]
      exact congrArg (fun world => Runtime.mk world .stuck)
        (panicHandler_again modulePath unwrapInfo reason after)
    rw [performed, silent]
    have all := soFar.trans wrote
    rw [List.append_nil] at all
    exact ⟨_, _, _, .fallsSilent calm program breaks said calmly handler breaksAgain, all⟩

theorem Shown.step {runtime : Runtime} (shown : Shown modulePath unwrapInfo start events runtime) (event : Event) :
    Shown modulePath unwrapInfo start (events ++ [event]) (runtime.step modulePath unwrapInfo event) := by
  rcases runtime with ⟨world, mode⟩
  rcases shown with ⟨text, refused, issued, story, wrote⟩
  change Story modulePath unwrapInfo events mode text refused issued at story
  change Wrote start world text refused issued at wrote
  cases story with
  | runs calm => exact shown_step_running calm wrote event
  | waits calm program breaks last calmly =>
      rw [List.append_assoc, List.cons_append]
      cases who : event.context with
      | program =>
          have nothing : Runtime.step modulePath unwrapInfo { world, mode := .waiting } event =
              { world, mode := .waiting } := by
            rw [Runtime.step, who]
            rfl
          rw [nothing]
          refine ⟨_, _, _, .waits calm program breaks last ?_, ?_⟩
          · rw [handlers_snoc_of_program who]
            exact calmly
          · rw [handlers_snoc_of_program who]
            exact wrote
      | handler =>
          have performed : Runtime.step modulePath unwrapInfo { world, mode := .waiting } event =
              perform modulePath unwrapInfo .waiting event.context event.doing world := by
            rw [Runtime.step, who]
            rfl
          rw [performed]
          exact shown_step_waiting calm program breaks last calmly wrote who
  | breaksOff calm handler breaks last =>
      rw [List.append_assoc, List.cons_append]
      exact ⟨_, _, _, .breaksOff calm handler breaks last, wrote⟩
  | fallsSilent calm program breaks last calmly handler breaksAgain =>
      rw [List.append_assoc, List.cons_append, List.append_assoc, List.cons_append]
      exact ⟨_, _, _, .fallsSilent calm program breaks last calmly handler breaksAgain, wrote⟩

end Shown

end Baremetal
end SecureServices
