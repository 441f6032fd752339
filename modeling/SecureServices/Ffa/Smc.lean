import SecureServices.Ffa.Types

namespace SecureServices
namespace Ffa

open Library

/-!
# The secure monitor call

`ffa_smc` hands seventeen argument registers to the monitor and gets eighteen
result registers back.  What the monitor answers is not under the partition's
control, so a world fixes one result for every call that will ever be made,
and remembers the calls in the order in which they are issued.  The answers to
messaging calls are numbered apart from the rest, since these are the stream
of messages that the partition receives.  Statements about a run of the
partition quantify over all worlds.

Logging is left out: a log line is a console call of its own and no function
below reads its outcome.
-/

/-- `struct SmcParams`. -/
structure SmcParams where
  x1 : U64 := 0
  x2 : U64 := 0
  x3 : U64 := 0
  x4 : U64 := 0
  x5 : U64 := 0
  x6 : U64 := 0
  x7 : U64 := 0
  x8 : U64 := 0
  x9 : U64 := 0
  x10 : U64 := 0
  x11 : U64 := 0
  x12 : U64 := 0
  x13 : U64 := 0
  x14 : U64 := 0
  x15 : U64 := 0
  x16 : U64 := 0
  x17 : U64 := 0
deriving DecidableEq, Repr

/-- `SmcParams::try_from_iter`: missing registers are zero, and an eighteenth
item is refused. -/
def SmcParams.tryFromIter (items : List U64) : Except Error SmcParams :=
  if items.length > 17 then .error .tooManySmcParams
  else .ok {
    x1 := items.getD 0 0, x2 := items.getD 1 0, x3 := items.getD 2 0, x4 := items.getD 3 0
    x5 := items.getD 4 0, x6 := items.getD 5 0, x7 := items.getD 6 0, x8 := items.getD 7 0
    x9 := items.getD 8 0, x10 := items.getD 9 0, x11 := items.getD 10 0, x12 := items.getD 11 0
    x13 := items.getD 12 0, x14 := items.getD 13 0, x15 := items.getD 14 0
    x16 := items.getD 15 0, x17 := items.getD 16 0 }

/-- `type SmcResult = [u64; 18]`. -/
abbrev SmcResult := Fin 18 -> U64

instance SmcResult.neZero : NeZero 18 := ⟨by decide⟩

/-- `struct SmcCall`. -/
structure SmcCall where
  id : FunctionId
  params : SmcParams
deriving DecidableEq, Repr

/-- `TryFrom<SmcResult> for SmcCall`. -/
def SmcCall.tryFromResult (result : SmcResult) : Except Error SmcCall := do
  let id <- tryParseFunctionId (result 0)
  let params <- SmcParams.tryFromIter ((List.finRange 17).map (fun index => result index.succ))
  return { id, params }

/-- The registers of a result, after the identifier. -/
def paramsOf (result : SmcResult) : SmcParams where
  x1 := result 1
  x2 := result 2
  x3 := result 3
  x4 := result 4
  x5 := result 5
  x6 := result 6
  x7 := result 7
  x8 := result 8
  x9 := result 9
  x10 := result 10
  x11 := result 11
  x12 := result 12
  x13 := result 13
  x14 := result 14
  x15 := result 15
  x16 := result 16
  x17 := result 17

/-- Only the identifier decides whether a result decodes. -/
theorem SmcCall.tryFromResult_eq (result : SmcResult) :
    SmcCall.tryFromResult result =
      (tryParseFunctionId (result 0)).map (fun id => { id, params := paramsOf result }) := by
  cases parsed : tryParseFunctionId (result 0) with
  | error reason => simp only [SmcCall.tryFromResult, parsed, Except.map]; rfl
  | ok id => simp only [SmcCall.tryFromResult, parsed, Except.map]; rfl

/-! ## Issuing calls -/

/-- The monitor's answers to the messaging calls, its answers to the other
calls of each function, and the calls issued so far. -/
structure SmcWorld where
  messages : Nat -> SmcResult
  others : FunctionId -> Nat -> SmcResult
  calls : List SmcCall

/-- A computation that may issue calls. -/
abbrev Smc (T : Type) := SmcWorld -> Except Error T × SmcWorld

/-- `trait Function`: a call's identifier and its argument registers. -/
class FfaFunction (F : Type) where
  functionId : FunctionId
  tryIntoParams : F -> Except Error SmcParams

/-- The world after one more call. -/
def SmcWorld.issue (world : SmcWorld) (call : SmcCall) : SmcWorld :=
  { world with calls := world.calls ++ [call] }

/-- How many messaging calls have been issued. -/
def SmcWorld.messageCount (world : SmcWorld) : Nat :=
  world.calls.countP (fun call => call.id.isMessaging)

/-- The answer the next call will get. -/
def SmcWorld.answer (world : SmcWorld) (id : FunctionId) : SmcResult :=
  if id.isMessaging then world.messages world.messageCount
  else world.others id (world.calls.countP (fun call => call.id == id))

/-- `ffa_smc`: a function that cannot be encoded issues no call. -/
def ffaSmc {F : Type} [FfaFunction F] (function : F) : Smc SmcResult :=
  fun world =>
    match FfaFunction.tryIntoParams function with
    | .error reason => (.error reason, world)
    | .ok params =>
        (.ok (world.answer (FfaFunction.functionId F)),
          world.issue { id := FfaFunction.functionId F, params })

/-- `handle_result_simple`. -/
def handleResultSimple {T : Type} (result : SmcCall) (onSuccess : SmcCall -> Except Error T) :
    Except Error T :=
  match result.id with
  | .success32 | .success64 | .msgSendDirectReq2 => onSuccess result
  | .error =>
      match tryParseErrorCode result.params.x2 with
      | .ok code => .error (.errorCode code)
      | .error reason => .error reason
  | id => .error (.unexpectedFunctionId id)

/-- `exec_simple`. -/
def execSimple {F T : Type} [FfaFunction F] (function : F)
    (onSuccess : SmcCall -> Except Error T) : Smc T :=
  fun world =>
    match ffaSmc function world with
    | (.error reason, after) => (.error reason, after)
    | (.ok result, after) =>
        match SmcCall.tryFromResult result with
        | .error reason => (.error reason, after)
        | .ok call => (handleResultSimple call onSuccess, after)

/-- What the monitor may answer for `exec_simple` to reach its continuation. -/
def FunctionId.isAccepted : FunctionId -> Bool
  | .success32 | .success64 | .msgSendDirectReq2 => true
  | _ => false

/-- An encodable function issues exactly its own call, and the continuation
runs on the decoded answer exactly when that answer's identifier is accepted. -/
theorem execSimple_of_params {F T : Type} [FfaFunction F] {function : F} {params : SmcParams}
    (encoded : FfaFunction.tryIntoParams function = .ok params)
    (onSuccess : SmcCall -> Except Error T) (world : SmcWorld) :
    execSimple function onSuccess world =
      ((match SmcCall.tryFromResult (world.answer (FfaFunction.functionId F)) with
        | .error reason => .error reason
        | .ok call => handleResultSimple call onSuccess),
        world.issue { id := FfaFunction.functionId F, params }) := by
  simp only [execSimple, ffaSmc, encoded]
  cases SmcCall.tryFromResult (world.answer (FfaFunction.functionId F)) <;> rfl

end Ffa
end SecureServices
