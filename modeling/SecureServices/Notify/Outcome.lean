import SecureServices.Notify.Table

namespace SecureServices
namespace Notify

open Library Ffa

/-!
# What one request does

Every request ends in one of six ways, listed by `Outcome` together with all
that is then known of the table before it.  Four are the completed loops of
the operations.  A refused request leaves the table alone, with one exception
that is visible in the source: `find_or_create_entry` runs before the tuples of
a registration are validated, and the entry it claims is not given back.
-/

/-- The ways in which a request can end. -/
inductive Outcome (table : Table) (req : NotifyReq) : MessageID -> ErrorCode -> Table -> Prop where
  | registered {id : MessageID} {entry : Fin notifyMaxServices} {claimed after : Table}
      (kind : id = .setup ∨ id = .add) (counted : 1 ≤ req.count)
      (located : table.findOrCreateEntry req.receiverUuid = some (entry, claimed))
      (completed : req.tuples.foldlM (registerTuple claimed entry req.srcId) claimed = .ok after) :
      Outcome table req id .ok after
  | unregistered {id : MessageID} {entry : Fin notifyMaxServices} {after : Table}
      (kind : id = .remove ∨ id = .destroy)
      (located : table.nfyFindEntry req.receiverUuid = some entry)
      (completed : req.tuples.foldlM (unregisterTuple table entry req.srcId) table = .ok after) :
      Outcome table req id .ok after
  | assigned {entry : Fin notifyMaxServices} {after : Table}
      (located : table.nfyFindEntry req.receiverUuid = some entry)
      (completed : assignMappings table entry req.tuples = .ok after) :
      Outcome table req .assign .ok after
  | unassigned {entry : Fin notifyMaxServices} {after : Table}
      (located : table.nfyFindEntry req.receiverUuid = some entry)
      (completed : unassignMappings table entry req.tuples = .ok after) :
      Outcome table req .unassign .ok after
  | unchanged {id : MessageID} {status : ErrorCode} (failed : status ≠ .ok) :
      Outcome table req id status table
  | leaked {id : MessageID} {entry : Fin notifyMaxServices} {status : ErrorCode}
      (kind : id = .setup ∨ id = .add) (counted : 1 ≤ req.count ∧ req.count ≤ notifyMaxTuplesPerReq)
      (unknown : table.nfyFindEntry req.receiverUuid = none)
      (empty : table.nfyFindEmptySlot = some entry)
      (stopped : req.tuples.foldlM (registerTuple (table.claimEntry entry req.receiverUuid) entry req.srcId)
        (table.claimEntry entry req.receiverUuid) = .error (.refused status))
      (failed : status ≠ .ok) :
      Outcome table req id status (table.claimEntry entry req.receiverUuid)

/-! ## No loop is refused with the success code -/

theorem registerTuple_refused {table temp : Table} {entry : Fin notifyMaxServices} {srcId : U16}
    {tuple : NotifyTuple} {status : ErrorCode}
    (stopped : registerTuple table entry srcId temp tuple = .error (.refused status)) :
    status ≠ .ok := by
  rcases registerTuple_eq_error stopped with same | ⟨same, _⟩
  · cases same
    decide
  · cases same
    decide

theorem unregisterTuple_refused {table temp : Table} {entry : Fin notifyMaxServices} {srcId : U16}
    {tuple : NotifyTuple} {status : ErrorCode}
    (stopped : unregisterTuple table entry srcId temp tuple = .error (.refused status)) :
    status ≠ .ok := by
  rcases unregisterTuple_eq_error stopped with same | ⟨impossible, _⟩
  · cases same
    decide
  · cases impossible

theorem assignMappings_refused {table : Table} {entry : Fin notifyMaxServices}
    {tuples : List NotifyTuple} {status : ErrorCode}
    (stopped : assignMappings table entry tuples = .error (.refused status)) : status ≠ .ok := by
  unfold assignMappings at stopped
  cases checked : tuples.foldlM (assignCheck table entry) table.globalBitmap with
  | error reason =>
      rw [checked] at stopped
      cases stopped
      rcases exists_of_foldlM_error checked with ⟨_, tuple, _, simBitmap, _, _, stopped⟩
      cases assignCheck_eq_error stopped
      decide
  | ok simBitmap =>
      rw [checked] at stopped
      cases applied : tuples.foldlM (assignApply entry) table with
      | error reason =>
          rw [applied] at stopped
          cases stopped
          rcases exists_of_foldlM_error applied with ⟨_, tuple, _, temp, _, _, stopped⟩
          cases (assignApply_eq_error stopped).1
      | ok updated =>
          rw [applied] at stopped
          cases stopped

theorem unassignMappings_refused {table : Table} {entry : Fin notifyMaxServices}
    {tuples : List NotifyTuple} {status : ErrorCode}
    (stopped : unassignMappings table entry tuples = .error (.refused status)) : status ≠ .ok := by
  unfold unassignMappings at stopped
  cases checked : tuples.foldlM (unassignCheck table entry) () with
  | error reason =>
      rw [checked] at stopped
      cases stopped
      rcases exists_of_foldlM_error checked with ⟨_, tuple, _, _, _, _, stopped⟩
      rw [unassignCheck_eq] at stopped
      split at stopped
      · cases stopped
        decide
      · cases stopped
  | ok found =>
      rw [checked] at stopped
      rcases exists_of_foldlM_error stopped with ⟨_, tuple, _, temp, _, _, stopped⟩
      cases (unassignApply_eq_error stopped).1

/-! ## Every request has an outcome -/

theorem settle_eq_some {start after : Table} {loop : Except Stop Table} {status : ErrorCode}
    (settled : settle start loop = some (status, after)) :
    (loop = .ok after ∧ status = .ok) ∨ (loop = .error (.refused status) ∧ after = start) := by
  cases loop with
  | ok committed =>
      cases settled
      exact Or.inl ⟨rfl, rfl⟩
  | error reason =>
      cases reason with
      | refused code =>
          cases settled
          exact Or.inr ⟨rfl, rfl⟩
      | panicked => cases settled

/-- The outcome of a request that runs its loop for a known service, and is
refused for any other. -/
theorem found_cases {table after : Table} {found : Option (Fin notifyMaxServices)}
    {loop : Fin notifyMaxServices -> Except Stop Table} {status : ErrorCode}
    (processed : found.elim (some (.invalidParameters, table)) (fun entry => settle table (loop entry)) =
      some (status, after)) :
    (exists entry, found = some entry ∧ loop entry = .ok after ∧ status = .ok) ∨
      after = table ∧
        (status = .invalidParameters ∨ exists entry, loop entry = .error (.refused status)) := by
  cases found with
  | none =>
      cases processed
      exact Or.inr ⟨rfl, Or.inl rfl⟩
  | some entry =>
      rcases settle_eq_some processed with ⟨completed, succeeded⟩ | ⟨stopped, unchanged⟩
      · exact Or.inl ⟨entry, rfl, completed, succeeded⟩
      · exact Or.inr ⟨unchanged, Or.inr ⟨entry, stopped⟩⟩

theorem unregisterRequest_eq (table : Table) (req : NotifyReq) :
    unregisterRequest table req = (table.nfyFindEntry req.receiverUuid).elim (some (.invalidParameters, table))
      (fun entry => settle table (req.tuples.foldlM (unregisterTuple table entry req.srcId) table)) := by
  unfold unregisterRequest
  cases table.nfyFindEntry req.receiverUuid with
  | none => rfl
  | some entry => rfl

theorem assignRequest_eq (table : Table) (req : NotifyReq) :
    assignRequest table req = (table.nfyFindEntry req.receiverUuid).elim (some (.invalidParameters, table))
      (fun entry => settle table (assignMappings table entry req.tuples)) := by
  unfold assignRequest
  cases table.nfyFindEntry req.receiverUuid with
  | none => rfl
  | some entry => rfl

theorem unassignRequest_eq (table : Table) (req : NotifyReq) :
    unassignRequest table req = (table.nfyFindEntry req.receiverUuid).elim (some (.invalidParameters, table))
      (fun entry => settle table (unassignMappings table entry req.tuples)) := by
  unfold unassignRequest
  cases table.nfyFindEntry req.receiverUuid with
  | none => rfl
  | some entry => rfl

theorem registerRequest_outcome {table after : Table} {req : NotifyReq} {id : MessageID}
    {status : ErrorCode} (kind : id = .setup ∨ id = .add)
    (processed : registerRequest table req = some (status, after)) :
    Outcome table req id status after := by
  unfold registerRequest at processed
  by_cases counted : 1 ≤ req.count ∧ req.count ≤ notifyMaxTuplesPerReq
  · rw [if_neg (not_not.mpr counted)] at processed
    cases located : table.findOrCreateEntry req.receiverUuid with
    | none =>
        rw [located] at processed
        cases processed
        exact .unchanged (by decide)
    | some found =>
        rcases found with ⟨entry, claimed⟩
        rw [located] at processed
        rcases settle_eq_some processed with ⟨completed, rfl⟩ | ⟨stopped, rfl⟩
        · exact .registered kind counted.1 located completed
        · rcases exists_of_foldlM_error stopped with ⟨_, tuple, _, temp, _, _, refused⟩
          have failed := registerTuple_refused refused
          unfold Table.findOrCreateEntry at located
          cases known : table.nfyFindEntry req.receiverUuid with
          | some index =>
              rw [known] at located
              cases located
              exact .unchanged failed
          | none =>
              rw [known] at located
              rcases Option.map_eq_some_iff.mp located with ⟨index, empty, same⟩
              cases same
              exact .leaked kind counted known empty stopped failed
  · rw [if_pos counted] at processed
    cases processed
    exact .unchanged (by decide)

theorem unregisterRequest_outcome {table after : Table} {req : NotifyReq} {id : MessageID}
    {status : ErrorCode} (kind : id = .remove ∨ id = .destroy)
    (processed : unregisterRequest table req = some (status, after)) :
    Outcome table req id status after := by
  rw [unregisterRequest_eq] at processed
  rcases found_cases processed with
    ⟨entry, located, completed, rfl⟩ | ⟨rfl, rfl | ⟨entry, stopped⟩⟩
  · exact .unregistered kind located completed
  · exact .unchanged (by decide)
  · rcases exists_of_foldlM_error stopped with ⟨_, tuple, _, temp, _, _, refused⟩
    exact .unchanged (unregisterTuple_refused refused)

theorem assignRequest_outcome {table after : Table} {req : NotifyReq} {status : ErrorCode}
    (processed : assignRequest table req = some (status, after)) :
    Outcome table req .assign status after := by
  rw [assignRequest_eq] at processed
  rcases found_cases processed with
    ⟨entry, located, completed, rfl⟩ | ⟨rfl, rfl | ⟨entry, stopped⟩⟩
  · exact .assigned located completed
  · exact .unchanged (by decide)
  · exact .unchanged (assignMappings_refused stopped)

theorem unassignRequest_outcome {table after : Table} {req : NotifyReq} {status : ErrorCode}
    (processed : unassignRequest table req = some (status, after)) :
    Outcome table req .unassign status after := by
  rw [unassignRequest_eq] at processed
  rcases found_cases processed with
    ⟨entry, located, completed, rfl⟩ | ⟨rfl, rfl | ⟨entry, stopped⟩⟩
  · exact .unassigned located completed
  · exact .unchanged (by decide)
  · exact .unchanged (unassignMappings_refused stopped)

/-- Inversion of a processed request, for every message id. -/
theorem process_outcome {table after : Table} {req : NotifyReq} {id : MessageID} {status : ErrorCode}
    (processed : process table req id = some (status, after)) : Outcome table req id status after := by
  cases id with
  | setup => exact registerRequest_outcome (Or.inl rfl) processed
  | add => exact registerRequest_outcome (Or.inr rfl) processed
  | destroy => exact unregisterRequest_outcome (Or.inr rfl) processed
  | remove => exact unregisterRequest_outcome (Or.inl rfl) processed
  | assign => exact assignRequest_outcome processed
  | unassign => exact unassignRequest_outcome processed

/-! ## Runs of the service -/

/-- One message, as a step of the machine whose state is the table. -/
def step (table : Table) (message : MsgSendDirectReq2) : Option Table :=
  (ffaMsgSendDirectReq2 table message).map Prod.snd

/-- The handler answers a message without a message id with an error and does
nothing; any other message is processed and answered with its status. -/
theorem ffaMsgSendDirectReq2_cases {table after : Table} {message : MsgSendDirectReq2}
    {result : Except Error MsgSendDirectResp2}
    (handled : ffaMsgSendDirectReq2 table message = some (result, after)) :
    (messageId (NotifyReq.ofMessage message).msgInfo = none ∧ after = table ∧
      result = .error (.other "Invalid notify message ID")) ∨
    exists id status, messageId (NotifyReq.ofMessage message).msgInfo = some id ∧
      process table (NotifyReq.ofMessage message) id = some (status, after) ∧
      result = .ok (.fromReqWithPayload message
        (NfySetupRsp.respond id (NotifyReq.ofMessage message) status).intoPayload) := by
  unfold ffaMsgSendDirectReq2 at handled
  cases selected : messageId (NotifyReq.ofMessage message).msgInfo with
  | none =>
      simp only [selected] at handled
      cases handled
      exact Or.inl ⟨rfl, rfl, rfl⟩
  | some id =>
      simp only [selected] at handled
      rcases Option.map_eq_some_iff.mp handled with ⟨⟨status, final⟩, processed, same⟩
      cases same
      exact Or.inr ⟨id, status, rfl, processed, rfl⟩

/-- A step is a message without an id, which changes nothing, or a processed
request. -/
theorem step_cases {table after : Table} {message : MsgSendDirectReq2}
    (stepped : step table message = some after) :
    (messageId (NotifyReq.ofMessage message).msgInfo = none ∧ after = table) ∨
    exists id status, messageId (NotifyReq.ofMessage message).msgInfo = some id ∧
      process table (NotifyReq.ofMessage message) id = some (status, after) := by
  rcases Option.map_eq_some_iff.mp stepped with ⟨⟨result, final⟩, handled, same⟩
  cases same
  rcases ffaMsgSendDirectReq2_cases handled with ⟨noId, same, _⟩ | ⟨id, status, selected, processed, _⟩
  · exact Or.inl ⟨noId, same⟩
  · exact Or.inr ⟨id, status, selected, processed⟩

/-! ## Wire form -/

/-- The register from which `extract_tuple` reads a tuple. -/
def NotifyTuple.toU64 (tuple : NotifyTuple) : U64 :=
  (tuple.cookie.setWidth 64 <<< 32) ||| (tuple.id.setWidth 64 <<< 23) |||
    (match tuple.ntype with | .global => 0 | .perVcpu => 1)

/-- A request as an endpoint sends it, for the receiver whose UUID has the
given low register. -/
def compose (sourceId : U16) (receiver : U64) (id : MessageID) (tuples : List NotifyTuple)
    (fits : tuples.length ≤ notifyMaxTuplesPerReq) : MsgSendDirectReq2 where
  message :=
    { sourceId
      destinationId := 0
      uuid := ⟨0xe474d87e57314044a727cb3e8cf3c8df⟩
      payload := DirectMessagePayload.ofRegisters
        ([0, 0, 0, receiver, 0, id.toU64, tuples.length] ++ tuples.map NotifyTuple.toU64) (by
          simp only [List.length_append, List.length_map]
          exact Nat.add_le_add_left fits 7) }

/-- The status register of a response, which is the seventh payload register. -/
def responseStatus (response : MsgSendDirectResp2) : U64 := response.payload.registerAt 6

theorem responseStatus_respond (message : MsgSendDirectReq2) (id : MessageID) (req : NotifyReq)
    (status : ErrorCode) :
    responseStatus (.fromReqWithPayload message (NfySetupRsp.respond id req status).intoPayload) =
      status.toU64 := by
  have read := DirectMessagePayload.registerAt_ofRegisters
    [0, req.senderUuid.asU64Pair.1, req.senderUuid.asU64Pair.2, req.receiverUuid.asU64Pair.1,
      req.receiverUuid.asU64Pair.2, messageInfoDirResp + id.toU64, status.toU64]
    (Nat.le_add_left 7 7) 6 (Nat.lt_succ_self 6)
  exact read

/-- The handler reported success. -/
def granted : Except Error MsgSendDirectResp2 -> Bool
  | .ok response => responseStatus response == ErrorCode.ok.toU64
  | .error _ => false

theorem granted_respond (message : MsgSendDirectReq2) (id : MessageID) (req : NotifyReq)
    (status : ErrorCode) :
    granted (.ok (.fromReqWithPayload message (NfySetupRsp.respond id req status).intoPayload)) =
      decide (status = .ok) := by
  rw [granted, responseStatus_respond]
  exact Bool.eq_iff_iff.mpr (by
    rw [beq_iff_eq, decide_eq_true_iff]
    exact ⟨ErrorCode.toU64_injective, congrArg ErrorCode.toU64⟩)

end Notify
end SecureServices
