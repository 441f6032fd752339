import SecureServices.Ffa.Functions

namespace SecureServices
namespace Ffa

open Library

/-!
# Error codes of refused calls

A refused call is answered with `FFA_ERROR`, whose identifier is one of the
32-bit convention, and with an error code in the low half of the second
register.  The code is decoded from the whole register as a 64-bit integer, so
that it is recognised only if the monitor has extended the sign into the upper
half.
-/

/-- The number of the variant in the source. -/
def ErrorCode.toInt : ErrorCode -> Int
  | ok => 0
  | notSupported => -1
  | invalidParameters => -2
  | noMemory => -3
  | busy => -4
  | interrupted => -5
  | denied => -6
  | retry => -7
  | aborted => -8
  | noData => -9
  | notReady => -10

theorem ErrorCode.toU64_eq (code : ErrorCode) : code.toU64 = BitVec.ofInt 64 code.toInt := by
  cases code <;> rfl

/-- The low half of the register, as the 32-bit convention reads it. -/
def errorHalf (register : U64) : U32 := register.setWidth 32

/-- The upper half of the register repeats the sign of the lower one. -/
def SignExtended (register : U64) : Prop := (errorHalf register).signExtend 64 = register

instance (register : U64) : Decidable (SignExtended register) := inferInstanceAs (Decidable (_ = _))

/-- Decoding an error code finds the variant with this very number. -/
theorem tryParseErrorCode_eq_ok {value : U64} {code : ErrorCode} :
    tryParseErrorCode value = .ok code <-> code.toU64 = value := by
  constructor
  · intro parsed
    unfold tryParseErrorCode at parsed
    cases search : ErrorCode.all.find? (fun code => code.toU64 == value) with
    | none =>
        rw [search] at parsed
        cases parsed
    | some found =>
        rw [search] at parsed
        cases parsed
        have selected := List.find?_some search
        exact beq_iff_eq.mp selected
  · rintro rfl
    cases code <;> rfl

/-- The lower half names a variant: the register has its number exactly if it
is sign-extended. -/
theorem ErrorCode.toU64_eq_iff {register : U64} {code : ErrorCode}
    (named : (errorHalf register).toInt = code.toInt) : code.toU64 = register <-> SignExtended register := by
  rw [SignExtended, BitVec.signExtend, named, code.toU64_eq]

/-- The error to which a refused call with this code comes. -/
def refusal (register : U64) : Error :=
  match tryParseErrorCode register with
  | .ok code => .errorCode code
  | .error reason => reason

theorem refusal_eq_iff {register : U64} {code : ErrorCode} :
    refusal register = .errorCode code <-> tryParseErrorCode register = .ok code := by
  unfold refusal
  cases parsed : tryParseErrorCode register with
  | ok other => simp
  | error reason => simp [tryParseErrorCode_eq_error parsed]

section Refused

variable {F T : Type} [FfaFunction F] {function : F} {params : SmcParams}

/-- A call that is answered with the identifier of an error fails, whatever the
other registers are. -/
theorem execSimple_of_refused (encoded : FfaFunction.tryIntoParams function = .ok params)
    (onSuccess : SmcCall -> Except Error T) {world : SmcWorld}
    (refused : world.answer (FfaFunction.functionId F) 0 = FunctionId.error.toU64) :
    (execSimple function onSuccess world).1 = .error (refusal (world.answer (FfaFunction.functionId F) 2)) := by
  rw [execSimple_of_params encoded, SmcCall.tryFromResult_eq, refused, tryParseFunctionId_toU64]
  change handleResultSimple ⟨.error, paramsOf (world.answer (FfaFunction.functionId F))⟩ onSuccess = _
  unfold handleResultSimple refusal
  dsimp only [paramsOf]
  cases tryParseErrorCode (world.answer (FfaFunction.functionId F) 2) with
  | ok code => rfl
  | error reason => rfl

end Refused

/-- A refused call reports the error that the lower half of the register names,
exactly if the register is sign-extended. -/
theorem refused_reports_iff {F T : Type} [FfaFunction F] (function : F) (params : SmcParams)
    (encoded : FfaFunction.tryIntoParams function = .ok params) (onSuccess : SmcCall -> Except Error T)
    (world : SmcWorld) (code : ErrorCode)
    (refused : world.answer (FfaFunction.functionId F) 0 = FunctionId.error.toU64)
    (named : (errorHalf (world.answer (FfaFunction.functionId F) 2)).toInt = code.toInt) :
    (execSimple function onSuccess world).1 = .error (.errorCode code) <->
      SignExtended (world.answer (FfaFunction.functionId F) 2) := by
  rw [execSimple_of_refused encoded onSuccess refused, Except.error.injEq, refusal_eq_iff,
    tryParseErrorCode_eq_ok, ErrorCode.toU64_eq_iff named]

/-- A monitor that answers every call with an error and this second register. -/
def refusing (register : U64) : SmcWorld where
  messages := fun _ => (fun _ => 0)
  others := fun _ _ index => if index = 0 then FunctionId.error.toU64 else if index = 2 then register else 0
  calls := []

theorem refused_invalidParameters :
    (execSimple (Yield.new 0) (fun _ => (.ok () : Except Error Unit)) (refusing 0xFFFFFFFFFFFFFFFE)).1 =
      .error (.errorCode .invalidParameters) :=
  (refused_reports_iff (Yield.new 0) _ rfl _ (refusing 0xFFFFFFFFFFFFFFFE) .invalidParameters rfl (by decide)).mpr
    (by decide)

/-- The same code with the upper half clear is not recognised. -/
theorem not_always_reported :
    ¬ forall {F T : Type} [FfaFunction F] (function : F) (params : SmcParams),
      FfaFunction.tryIntoParams function = .ok params ->
      forall (onSuccess : SmcCall -> Except Error T) (world : SmcWorld) (code : ErrorCode),
        world.answer (FfaFunction.functionId F) 0 = FunctionId.error.toU64 ->
        (errorHalf (world.answer (FfaFunction.functionId F) 2)).toInt = code.toInt ->
          (execSimple function onSuccess world).1 = .error (.errorCode code) := by
  intro always
  have reported := always (Yield.new 0) _ rfl (fun _ => (.ok () : Except Error Unit)) (refusing 0xFFFFFFFE)
    .invalidParameters rfl (by decide)
  exact absurd reported (by decide)

end Ffa
end SecureServices
