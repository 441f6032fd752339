import SecureServices.Notify.Loops

namespace SecureServices
namespace Notify

open Library Ffa

/-!
# Every request is completed

Three statements of the service can panic: the shift of a removal, and the
lookups that the second passes of an assignment unwrap.  The shift is safe
because no stored id reaches 64, which is an invariant of the service; the
lookups are safe because the first pass has made them already.
-/

/-- Every stored id has a bit in the bitmap. -/
def Bounded (table : Table) : Prop := forall slot, (table.mapping slot).id.toNat < 64

theorem Bounded.new : Bounded Table.new := fun _ => Nat.zero_lt_succ 63

theorem Bounded.set {table : Table} (bounded : Bounded table) (slot : Slot) {mapping : NfyMapping}
    (small : mapping.id.toNat < 64) (bitmap : U64) :
    Bounded ((table.setMapping slot mapping).setBitmap bitmap) := by
  intro other
  rw [Table.mapping_setBitmap, Table.mapping_setMapping]
  by_cases same : other = slot
  · rw [same, Function.update_self]
    exact small
  · rw [Function.update_of_ne same]
    exact bounded other

theorem Bounded.claimEntry {table : Table} (bounded : Bounded table) (entry : Fin notifyMaxServices)
    (uuid : Uuid) : Bounded (table.claimEntry entry uuid) := by
  intro slot
  by_cases same : slot.1 = entry
  · rw [Table.mapping, same, Table.claimEntry_entry]
    exact Nat.zero_lt_succ 63
  · rw [Table.mapping, Table.claimEntry_of_ne table uuid same]
    exact bounded slot

theorem Bounded.findOrCreateEntry {table claimed : Table} (bounded : Bounded table) {receiver : Uuid}
    {entry : Fin notifyMaxServices}
    (located : table.findOrCreateEntry receiver = some (entry, claimed)) : Bounded claimed := by
  rcases Table.findOrCreateEntry_cases located with ⟨_, rfl⟩ | ⟨_, _, rfl⟩
  · exact bounded
  · exact bounded.claimEntry entry receiver

/-! ## Loops -/

/-- The loop does not panic, and what it commits is bounded. -/
structure Settles (loop : Except Stop Table) : Prop where
  calm : loop ≠ .error .panicked
  bounded : forall committed, loop = .ok committed -> Bounded committed

/-- A loop that settles gives the request a status. -/
theorem Settles.settle {start : Table} {loop : Except Stop Table} (settles : Settles loop)
    (bounded : Bounded start) :
    exists status after, settle start loop = some (status, after) ∧ Bounded after := by
  cases loop with
  | ok committed => exact ⟨.ok, committed, rfl, settles.bounded committed rfl⟩
  | error stop =>
      cases stop with
      | refused code => exact ⟨code, start, rfl, bounded⟩
      | panicked => exact absurd rfl settles.calm

/-- So does a request that runs such a loop for a known service. -/
theorem found_settles {table : Table} (bounded : Bounded table) {found : Option (Fin notifyMaxServices)}
    {loop : Fin notifyMaxServices -> Except Stop Table}
    (settles : forall entry, found = some entry -> Settles (loop entry)) :
    exists status after,
      found.elim (some (.invalidParameters, table)) (fun entry => settle table (loop entry)) =
        some (status, after) ∧ Bounded after := by
  cases found with
  | none => exact ⟨.invalidParameters, table, rfl, bounded⟩
  | some entry => exact (settles entry rfl).settle bounded

theorem register_settles {table : Table} (bounded : Bounded table) (entry : Fin notifyMaxServices)
    (srcId : U16) (tuples : List NotifyTuple) :
    Settles (tuples.foldlM (registerTuple table entry srcId) table) := by
  constructor
  · intro panicked
    rcases exists_of_foldlM_error panicked with ⟨_, tuple, _, temp, _, _, stopped⟩
    rcases registerTuple_eq_error stopped with impossible | ⟨impossible, _⟩
    · cases impossible
    · cases impossible
  · intro committed completed
    refine foldlM_invariant (fun _ temp => Bounded temp) bounded ?_ completed
    intro _ tuple _ temp next _ _ kept stepped
    rcases registerTuple_eq_ok stepped with ⟨_, small, _, index, _, rfl⟩
    exact kept.set (entry, index) small _

theorem unregister_bounded {table temp : Table} (bounded : Bounded table) {entry : Fin notifyMaxServices}
    {srcId : U16} {tuples : List NotifyTuple}
    (completed : tuples.foldlM (unregisterTuple table entry srcId) table = .ok temp) : Bounded temp := by
  refine foldlM_invariant (fun _ temp => Bounded temp) bounded ?_ completed
  intro _ tuple _ temp next _ _ kept stepped
  rcases unregisterTuple_eq_ok stepped with ⟨index, _, _, _, _, _, rfl⟩
  exact kept.set (entry, index) (by decide) _

/-- The shift of a removal is in range, because the id it removes was stored. -/
theorem unregister_settles {table : Table} (bounded : Bounded table) (entry : Fin notifyMaxServices)
    (srcId : U16) (tuples : List NotifyTuple) :
    Settles (tuples.foldlM (unregisterTuple table entry srcId) table) := by
  refine ⟨fun panicked => ?_, fun _ completed => unregister_bounded bounded completed⟩
  rcases exists_of_foldlM_error panicked with ⟨done, tuple, _, temp, _, reached, stopped⟩
  have kept := unregister_bounded bounded reached
  rcases unregisterTuple_eq_error stopped with impossible | ⟨_, index, large⟩
  · cases impossible
  · exact Nat.not_le.mpr (kept (entry, index)) large

/-- What the first pass of an assignment established for each tuple. -/
theorem assign_checked {table : Table} {entry : Fin notifyMaxServices} {tuples : List NotifyTuple}
    {simBitmap : U64}
    (checked : tuples.foldlM (assignCheck table entry) table.globalBitmap = .ok simBitmap) :
    forall tuple, tuple ∈ tuples ->
      (exists index, table.nfyFindMatchingCookie entry tuple.cookie = some index) ∧
        tuple.id.toNat < 64 := by
  refine forall_mem_of_foldlM (fun simBitmap tuple next stepped => ?_) checked
  rcases assignCheck_eq_ok stepped with ⟨index, found, small, _⟩
  exact ⟨⟨index, found⟩, small⟩

/-- A second pass that leaves the lookups alone, and stops only where a lookup
fails, finds every cookie that the table has. -/
theorem secondPass_completes {table : Table} {receiver : Uuid} {entry : Fin notifyMaxServices}
    {pass : Table -> NotifyTuple -> Except Stop Table}
    (keeps : forall {done : List NotifyTuple} {temp : Table},
      done.foldlM pass table = .ok temp -> Keeps table receiver done temp)
    (stops : forall {temp : Table} {tuple : NotifyTuple} {reason : Stop},
      pass temp tuple = .error reason -> temp.nfyFindMatchingCookie entry tuple.cookie = none)
    {tuples : List NotifyTuple}
    (present : forall tuple, tuple ∈ tuples ->
      exists index, table.nfyFindMatchingCookie entry tuple.cookie = some index) :
    exists applied, tuples.foldlM pass table = .ok applied := by
  cases stored : tuples.foldlM pass table with
  | ok applied => exact ⟨applied, rfl⟩
  | error reason =>
      rcases exists_of_foldlM_error stored with ⟨done, tuple, rest, temp, split, reached, stopped⟩
      rcases present tuple (List.mem_iff_append.mpr ⟨done, rest, split⟩) with ⟨index, found⟩
      have again := ((keeps reached).lookup entry tuple.cookie).trans found
      cases (stops stopped).symm.trans again

theorem assignApply_completes {table : Table} {receiver : Uuid} {entry : Fin notifyMaxServices}
    (located : table.nfyFindEntry receiver = some entry) {tuples : List NotifyTuple}
    (present : forall tuple, tuple ∈ tuples ->
      exists index, table.nfyFindMatchingCookie entry tuple.cookie = some index) :
    exists applied, tuples.foldlM (assignApply entry) table = .ok applied :=
  secondPass_completes (assignApply_keeps located) (fun stopped => (assignApply_eq_error stopped).2)
    present

theorem assignMappings_settles {table : Table} (bounded : Bounded table) {receiver : Uuid}
    {entry : Fin notifyMaxServices} (located : table.nfyFindEntry receiver = some entry)
    (tuples : List NotifyTuple) : Settles (assignMappings table entry tuples) := by
  constructor
  · intro panicked
    unfold assignMappings at panicked
    cases checked : tuples.foldlM (assignCheck table entry) table.globalBitmap with
    | error reason =>
        rw [checked] at panicked
        cases panicked
        rcases exists_of_foldlM_error checked with ⟨_, tuple, _, simBitmap, _, _, stopped⟩
        cases assignCheck_eq_error stopped
    | ok simBitmap =>
        have present := fun tuple member => (assign_checked checked tuple member).1
        rcases assignApply_completes located present with ⟨applied, stored⟩
        rw [checked] at panicked
        change (tuples.foldlM (assignApply entry) table >>= _) = _ at panicked
        rw [stored] at panicked
        cases panicked
  · intro committed completed
    rcases assignMappings_eq_ok completed with ⟨simBitmap, applied, checked, stored, rfl⟩
    have kept : Bounded applied := by
      refine foldlM_invariant (fun _ temp => Bounded temp) bounded ?_ stored
      intro done tuple rest temp next split _ kept stepped
      have member := List.mem_iff_append.mpr ⟨done, rest, split⟩
      rcases assignApply_eq_ok stepped with ⟨index, _, rfl⟩
      exact kept.set (entry, index) (assign_checked checked tuple member).2 temp.globalBitmap
    exact kept

/-- What the first pass of a removal of ids established for each tuple. -/
theorem unassign_checked {table : Table} {entry : Fin notifyMaxServices} {tuples : List NotifyTuple}
    (checked : tuples.foldlM (unassignCheck table entry) () = .ok ()) :
    forall tuple, tuple ∈ tuples ->
      exists index, table.nfyFindMatchingCookie entry tuple.cookie = some index := by
  refine forall_mem_of_foldlM (fun _ tuple _ stepped => ?_) checked
  rw [unassignCheck_eq] at stepped
  split at stepped
  · cases stepped
  · rename_i index found
    exact ⟨index, found⟩

theorem unassignApply_completes {table : Table} {receiver : Uuid} {entry : Fin notifyMaxServices}
    (located : table.nfyFindEntry receiver = some entry) {tuples : List NotifyTuple}
    (present : forall tuple, tuple ∈ tuples ->
      exists index, table.nfyFindMatchingCookie entry tuple.cookie = some index) :
    exists applied, tuples.foldlM (unassignApply entry) table = .ok applied :=
  secondPass_completes (unassignApply_keeps located) (fun stopped => (unassignApply_eq_error stopped).2)
    present

theorem unassignMappings_settles {table : Table} (bounded : Bounded table) {receiver : Uuid}
    {entry : Fin notifyMaxServices} (located : table.nfyFindEntry receiver = some entry)
    (tuples : List NotifyTuple) : Settles (unassignMappings table entry tuples) := by
  constructor
  · intro panicked
    unfold unassignMappings at panicked
    cases checked : tuples.foldlM (unassignCheck table entry) () with
    | error reason =>
        rw [checked] at panicked
        cases panicked
        rcases exists_of_foldlM_error checked with ⟨_, tuple, _, _, _, _, stopped⟩
        rw [unassignCheck_eq] at stopped
        split at stopped <;> cases stopped
    | ok _ =>
        rcases unassignApply_completes located (unassign_checked checked) with ⟨applied, stored⟩
        rw [checked] at panicked
        change tuples.foldlM (unassignApply entry) table = _ at panicked
        rw [stored] at panicked
        cases panicked
  · intro committed completed
    refine foldlM_invariant (fun _ temp => Bounded temp) bounded ?_ (unassignMappings_eq_ok completed)
    intro done tuple rest temp next split _ kept stepped
    rcases unassignApply_eq_ok stepped with ⟨index, _, rfl⟩
    exact kept.set (entry, index) (show (0 : U16).toNat < 64 by decide) _

/-! ## Requests -/

/-- Every request of a bounded table gets a status and leaves a bounded table. -/
theorem process_progress {table : Table} (bounded : Bounded table) (req : NotifyReq) (id : MessageID) :
    exists status after, process table req id = some (status, after) ∧ Bounded after := by
  cases id with
  | setup | add =>
      change exists status after, registerRequest table req = some (status, after) ∧ Bounded after
      unfold registerRequest
      split
      · exact ⟨.invalidParameters, table, rfl, bounded⟩
      · cases located : table.findOrCreateEntry req.receiverUuid with
        | none => exact ⟨.noMemory, table, rfl, bounded⟩
        | some place =>
            have start := bounded.findOrCreateEntry located
            exact (register_settles start place.1 req.srcId req.tuples).settle start
  | destroy | remove =>
      change exists status after, unregisterRequest table req = some (status, after) ∧ Bounded after
      rw [unregisterRequest_eq]
      exact found_settles bounded (fun entry _ => unregister_settles bounded entry req.srcId req.tuples)
  | assign =>
      change exists status after, assignRequest table req = some (status, after) ∧ Bounded after
      rw [assignRequest_eq]
      exact found_settles bounded (fun _ located => assignMappings_settles bounded located req.tuples)
  | unassign =>
      change exists status after, unassignRequest table req = some (status, after) ∧ Bounded after
      rw [unassignRequest_eq]
      exact found_settles bounded (fun _ located => unassignMappings_settles bounded located req.tuples)

/-- Every message to a bounded table is handled, and a response answers it. -/
theorem ffaMsgSendDirectReq2_progress {table : Table} (bounded : Bounded table)
    (message : MsgSendDirectReq2) :
    exists result after, ffaMsgSendDirectReq2 table message = some (result, after) ∧ Bounded after ∧
      forall response, result = .ok response -> response.Answers message := by
  cases selected : messageId (NotifyReq.ofMessage message).msgInfo with
  | none =>
      refine ⟨.error (.other "Invalid notify message ID"), table, ?_, bounded, fun _ impossible => ?_⟩
      · simp only [ffaMsgSendDirectReq2, selected]
      · cases impossible
  | some id =>
      obtain ⟨status, after, processed, kept⟩ :=
        process_progress bounded (NotifyReq.ofMessage message) id
      refine ⟨.ok (.fromReqWithPayload message
        (NfySetupRsp.respond id (NotifyReq.ofMessage message) status).intoPayload), after, ?_, kept,
        fun response same => ?_⟩
      · simp only [ffaMsgSendDirectReq2, selected, processed, Option.map_some]
      · cases same
        exact MsgSendDirectResp2.fromReqWithPayload_answers message _

end Notify
end SecureServices
