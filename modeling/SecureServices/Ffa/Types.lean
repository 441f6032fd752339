import SecureServices.Library.Words

namespace SecureServices
namespace Ffa

open Library

/-!
# FF-A identifiers and errors

The enumerations of `odp-ffa/src/lib.rs`, with their wire values.  Decoding a
wire value searches the listed variants, which is what the derived
`TryFromPrimitive` conversions of the source do.
-/

/-- `enum ErrorCode`, represented on the wire as a signed 64-bit integer. -/
inductive ErrorCode where
  | ok | notSupported | invalidParameters | noMemory | busy | interrupted | denied
  | retry | aborted | noData | notReady
deriving DecidableEq, Repr

namespace ErrorCode

/-- The two's complement pattern of the variant's `i64` value. -/
def toU64 : ErrorCode -> U64
  | ok => BitVec.ofInt 64 0
  | notSupported => BitVec.ofInt 64 (-1)
  | invalidParameters => BitVec.ofInt 64 (-2)
  | noMemory => BitVec.ofInt 64 (-3)
  | busy => BitVec.ofInt 64 (-4)
  | interrupted => BitVec.ofInt 64 (-5)
  | denied => BitVec.ofInt 64 (-6)
  | retry => BitVec.ofInt 64 (-7)
  | aborted => BitVec.ofInt 64 (-8)
  | noData => BitVec.ofInt 64 (-9)
  | notReady => BitVec.ofInt 64 (-10)

def all : List ErrorCode :=
  [ok, notSupported, invalidParameters, noMemory, busy, interrupted, denied, retry, aborted,
    noData, notReady]

theorem toU64_injective {left right : ErrorCode} (same : left.toU64 = right.toU64) :
    left = right := by
  cases left <;> cases right <;> first | rfl | exact absurd same (by decide)

end ErrorCode

/-- `enum FunctionId`. -/
inductive FunctionId where
  | error | success32 | success64 | interrupt | version | features | rxRelease | rxTxMap
  | rxTxUnmap | partitionInfoGet | idGet | msgWait | msgYield | msgRun | msgSend
  | msgSendDirectReq | msgSendDirectResp | msgSend2 | msgPoll | memDonate | memLend | memShare
  | memRetrieveReq | memRetrieveResp | memRelinquish | memReclaim | memFragRx | memFragTx
  | notificationBind | notificationSet | notificationGet | memPermGet | memPermSet | consoleLog
  | msgSendDirectReq2 | msgSendDirectResp2
deriving DecidableEq, Repr

namespace FunctionId

def toU64 : FunctionId -> U64
  | error => 0x84000060
  | success32 => 0x84000061
  | success64 => 0xC4000061
  | interrupt => 0x84000062
  | version => 0x84000063
  | features => 0x84000064
  | rxRelease => 0x84000065
  | rxTxMap => 0xC4000066
  | rxTxUnmap => 0x84000067
  | partitionInfoGet => 0x84000068
  | idGet => 0x84000069
  | msgWait => 0x8400006B
  | msgYield => 0x8400006C
  | msgRun => 0x8400006D
  | msgSend => 0x8400006E
  | msgSendDirectReq => 0xC400006F
  | msgSendDirectResp => 0xC4000070
  | msgSend2 => 0x84000086
  | msgPoll => 0x8400006A
  | memDonate => 0xC4000071
  | memLend => 0xC4000072
  | memShare => 0xC4000073
  | memRetrieveReq => 0x84000074
  | memRetrieveResp => 0x84000075
  | memRelinquish => 0x84000076
  | memReclaim => 0x84000077
  | memFragRx => 0x8400007A
  | memFragTx => 0x8400007B
  | notificationBind => 0x8400007F
  | notificationSet => 0x84000081
  | notificationGet => 0x84000082
  | memPermGet => 0x84000088
  | memPermSet => 0x84000089
  | consoleLog => 0xC400008A
  | msgSendDirectReq2 => 0xC400008D
  | msgSendDirectResp2 => 0xC400008E

def all : List FunctionId :=
  [error, success32, success64, interrupt, version, features, rxRelease, rxTxMap, rxTxUnmap,
    partitionInfoGet, idGet, msgWait, msgYield, msgRun, msgSend, msgSendDirectReq,
    msgSendDirectResp, msgSend2, msgPoll, memDonate, memLend, memShare, memRetrieveReq,
    memRetrieveResp, memRelinquish, memReclaim, memFragRx, memFragTx, notificationBind,
    notificationSet, notificationGet, memPermGet, memPermSet, consoleLog, msgSendDirectReq2,
    msgSendDirectResp2]

/-- The messaging calls: those that hand the processor to another endpoint
together with, or in order to receive, a message. -/
def isMessaging : FunctionId -> Bool
  | msgWait | msgSend | msgSend2 | msgPoll | msgRun | msgSendDirectReq | msgSendDirectResp
  | msgSendDirectReq2 | msgSendDirectResp2 => true
  | _ => false

end FunctionId

/-- `enum Error`.  A `&'static str` payload is its text. -/
inductive Error where
  | invalidFunctionId (value : U64)
  | unexpectedFunctionId (id : FunctionId)
  | invalidErrorCode (value : U64)
  | errorCode (code : ErrorCode)
  | hafniumError (value : U64)
  | tooManySmcParams
  | other (text : String)
deriving DecidableEq, Repr

/-- `try_parse_function_id`. -/
def tryParseFunctionId (value : U64) : Except Error FunctionId :=
  match FunctionId.all.find? (fun id => id.toU64 == value) with
  | some id => .ok id
  | none => .error (.invalidFunctionId value)

/-- `try_parse_error_code`: the whole register is read as an `i64`. -/
def tryParseErrorCode (value : U64) : Except Error ErrorCode :=
  match ErrorCode.all.find? (fun code => code.toU64 == value) with
  | some code => .ok code
  | none => .error (.invalidErrorCode value)

@[simp] theorem tryParseFunctionId_toU64 (id : FunctionId) :
    tryParseFunctionId id.toU64 = .ok id := by
  cases id <;> rfl

/-- A decoded identifier is the one whose wire value was read. -/
theorem tryParseFunctionId_eq_ok {value : U64} {id : FunctionId}
    (parsed : tryParseFunctionId value = .ok id) : id.toU64 = value := by
  cases search : FunctionId.all.find? (fun id => id.toU64 == value) with
  | none =>
      rw [tryParseFunctionId, search] at parsed
      cases parsed
  | some found =>
      rw [tryParseFunctionId, search] at parsed
      cases parsed
      have selected := List.find?_some search
      exact beq_iff_eq.mp selected

/-- A value that is no identifier is reported as it is. -/
theorem tryParseFunctionId_eq_error {value : U64} {reason : Error}
    (refused : tryParseFunctionId value = .error reason) : reason = .invalidFunctionId value := by
  unfold tryParseFunctionId at refused
  split at refused
  · cases refused
  · cases refused
    rfl

theorem tryParseErrorCode_eq_error {value : U64} {reason : Error}
    (refused : tryParseErrorCode value = .error reason) : reason = .invalidErrorCode value := by
  unfold tryParseErrorCode at refused
  split at refused
  · cases refused
  · cases refused
    rfl

end Ffa
end SecureServices
