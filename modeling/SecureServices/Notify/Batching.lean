import SecureServices.Notify.WellFormed

namespace SecureServices
namespace Notify

open Library Ffa

/-!
# A request of many tuples is its tuples one by one

The four operations treat a request in different ways: some look the cookies
up in the table as it was, some validate every tuple before they change
anything.  With distinct cookies none of this can be observed.  Each operation
continues, at every tuple, as a request for that tuple alone would from the
table that the tuples before it leave, and the loop rule puts the tuples of a
request together.
-/

/-! ## Lookups during a request -/

/-- A lookup asks of each mapping whether it is in use with the cookie. -/
theorem Table.nfyFindMatchingCookie_eq_of_iff {left right : Table} {entry : Fin notifyMaxServices}
    {cookie : U32}
    (same : forall index, ((left.mapping (entry, index)).inUse = true ∧
        (left.mapping (entry, index)).cookie = cookie) <->
      ((right.mapping (entry, index)).inUse = true ∧ (right.mapping (entry, index)).cookie = cookie)) :
    left.nfyFindMatchingCookie entry cookie = right.nfyFindMatchingCookie entry cookie := by
  unfold nfyFindMatchingCookie
  congr 1
  funext index
  rw [Bool.eq_iff_iff, Bool.and_eq_true, Bool.and_eq_true, beq_iff_eq, beq_iff_eq]
  exact same index

/-- A lookup for a service reads only the flag and the service of each entry. -/
theorem Table.SameEntries.nfyFindEntry {left right : Table} (same : left.SameEntries right)
    (uuid : Uuid) : left.nfyFindEntry uuid = right.nfyFindEntry uuid := by
  unfold Table.nfyFindEntry
  congr 1
  funext entry
  rw [(same entry).1, (same entry).2]

/-- A registration does not change what a cookie of no tuple names. -/
theorem register_lookup {table temp : Table} {entry : Fin notifyMaxServices} {srcId : U16}
    {done : List NotifyTuple} {cookie : U32}
    (reached : done.foldlM (registerTuple table entry srcId) table = .ok temp)
    (fresh : forall tuple, tuple ∈ done -> tuple.cookie ≠ cookie) :
    temp.nfyFindMatchingCookie entry cookie = table.nfyFindMatchingCookie entry cookie := by
  apply Table.nfyFindMatchingCookie_eq_of_iff
  intro index
  rcases (register_mapping reached).2 (entry, index) with unchanged | ⟨_, free, tuple, member, filled⟩
  · rw [unchanged]
  · simp [filled, free, fresh tuple member]

/-- Neither does a removal. -/
theorem unregister_lookup {table temp : Table} {receiver : Uuid} {entry : Fin notifyMaxServices}
    {srcId : U16} {done : List NotifyTuple} {cookie : U32}
    (located : table.nfyFindEntry receiver = some entry)
    (reached : done.foldlM (unregisterTuple table entry srcId) table = .ok temp)
    (fresh : forall tuple, tuple ∈ done -> tuple.cookie ≠ cookie) :
    temp.nfyFindMatchingCookie entry cookie = table.nfyFindMatchingCookie entry cookie := by
  apply Table.nfyFindMatchingCookie_eq_of_iff
  intro index
  have mappings := (unregister_mapping located reached).2 (entry, index)
  by_cases named : exists tuple, tuple ∈ done ∧ table.addressed receiver tuple = some (entry, index)
  · rcases named with ⟨tuple, member, same⟩
    rw [mappings.1 ⟨tuple, member, same⟩, (Table.addressed_spec same).2]
    simp [NfyMapping.default, fresh tuple member]
  · rw [mappings.2 (fun tuple member same => named ⟨tuple, member, same⟩)]

/-- Both loops use the table that they started from only to look a cookie up. -/
theorem registerTuple_congr {left right temp : Table} {entry : Fin notifyMaxServices} {srcId : U16}
    {tuple : NotifyTuple} (same : left.nfyFindMatchingCookie entry tuple.cookie =
      right.nfyFindMatchingCookie entry tuple.cookie) :
    registerTuple left entry srcId temp tuple = registerTuple right entry srcId temp tuple := by
  unfold registerTuple
  rw [same]

theorem unregisterTuple_congr {left right temp : Table} {entry : Fin notifyMaxServices} {srcId : U16}
    {tuple : NotifyTuple} (same : left.nfyFindMatchingCookie entry tuple.cookie =
      right.nfyFindMatchingCookie entry tuple.cookie) :
    unregisterTuple left entry srcId temp tuple = unregisterTuple right entry srcId temp tuple := by
  unfold unregisterTuple
  rw [same]

/-! ## One more tuple -/

/-- With distinct cookies, a tuple has the cookie of no tuple before it. -/
theorem distinct_from_earlier {tuples done rest : List NotifyTuple} {tuple : NotifyTuple}
    (distinct : (tuples.map NotifyTuple.cookie).Nodup) (split : tuples = done ++ tuple :: rest) :
    forall earlier, earlier ∈ done -> earlier.cookie ≠ tuple.cookie := by
  intro earlier member
  rw [split, List.map_append, List.map_cons] at distinct
  exact (List.nodup_append.mp distinct).2.2 _ (List.mem_map_of_mem member) _ List.mem_cons_self

theorem register_snoc {table : Table} {entry : Fin notifyMaxServices} {srcId : U16}
    {done : List NotifyTuple} {tuple : NotifyTuple}
    (fresh : forall earlier, earlier ∈ done -> earlier.cookie ≠ tuple.cookie) :
    (done ++ [tuple]).foldlM (registerTuple table entry srcId) table =
      done.foldlM (registerTuple table entry srcId) table >>= fun temp =>
        [tuple].foldlM (registerTuple temp entry srcId) temp := by
  rw [List.foldlM_append]
  cases reached : done.foldlM (registerTuple table entry srcId) table with
  | error reason =>
      change Except.error reason = Except.error reason
      rfl
  | ok temp =>
      change [tuple].foldlM (registerTuple table entry srcId) temp =
        [tuple].foldlM (registerTuple temp entry srcId) temp
      rw [foldlM_singleton, foldlM_singleton, registerTuple_congr (register_lookup reached fresh)]

theorem unregister_snoc {table : Table} {receiver : Uuid} {entry : Fin notifyMaxServices} {srcId : U16}
    {done : List NotifyTuple} {tuple : NotifyTuple}
    (located : table.nfyFindEntry receiver = some entry)
    (fresh : forall earlier, earlier ∈ done -> earlier.cookie ≠ tuple.cookie) :
    (done ++ [tuple]).foldlM (unregisterTuple table entry srcId) table =
      done.foldlM (unregisterTuple table entry srcId) table >>= fun temp =>
        [tuple].foldlM (unregisterTuple temp entry srcId) temp := by
  rw [List.foldlM_append]
  cases reached : done.foldlM (unregisterTuple table entry srcId) table with
  | error reason =>
      change Except.error reason = Except.error reason
      rfl
  | ok temp =>
      change [tuple].foldlM (unregisterTuple table entry srcId) temp =
        [tuple].foldlM (unregisterTuple temp entry srcId) temp
      rw [foldlM_singleton, foldlM_singleton,
        unregisterTuple_congr (unregister_lookup located reached fresh)]

/-- The validation of one more tuple reads the same mapping in the table and
in what the earlier tuples leave of it. -/
theorem assignCheck_of_keeps {table temp : Table} {receiver : Uuid} {entry : Fin notifyMaxServices}
    {done : List NotifyTuple} {tuple : NotifyTuple} (simBitmap : U64)
    (kept : Keeps table receiver done temp)
    (fresh : forall earlier, earlier ∈ done -> earlier.cookie ≠ tuple.cookie) :
    assignCheck temp entry simBitmap tuple = assignCheck table entry simBitmap tuple := by
  unfold assignCheck
  rw [kept.lookup]
  cases found : table.nfyFindMatchingCookie entry tuple.cookie with
  | none => rfl
  | some index =>
      have unnamed : forall earlier, earlier ∈ done ->
          table.addressed receiver earlier ≠ some (entry, index) := by
        intro earlier member named
        apply fresh earlier member
        rw [← (Table.addressed_spec named).2, (Table.nfyFindMatchingCookie_spec found).2]
      dsimp only
      rw [(kept.2 (entry, index)).2 unnamed]

/-- The two passes over one tuple, for a table with another bitmap. -/
theorem assignMappings_singleton (table : Table) (entry : Fin notifyMaxServices) (tuple : NotifyTuple)
    (bitmap : U64) :
    assignMappings (table.setBitmap bitmap) entry [tuple] =
      assignCheck table entry bitmap tuple >>= fun simBitmap =>
        assignApply entry table tuple >>= fun applied => .ok (applied.setBitmap simBitmap) := by
  unfold assignMappings
  rw [foldlM_singleton, foldlM_singleton]
  change (assignCheck table entry bitmap tuple >>= _) = _
  cases checked : assignCheck table entry bitmap tuple with
  | error reason => rfl
  | ok simBitmap =>
      change (assignApply entry (table.setBitmap bitmap) tuple >>= _) =
        (assignApply entry table tuple >>= _)
      have lookup : (table.setBitmap bitmap).nfyFindMatchingCookie entry tuple.cookie =
          table.nfyFindMatchingCookie entry tuple.cookie := rfl
      unfold assignApply
      rw [lookup]
      cases found : table.nfyFindMatchingCookie entry tuple.cookie with
      | none => rfl
      | some index => rfl

theorem assign_snoc {table : Table} {receiver : Uuid} {entry : Fin notifyMaxServices}
    {done : List NotifyTuple} {tuple : NotifyTuple}
    (located : table.nfyFindEntry receiver = some entry)
    (fresh : forall earlier, earlier ∈ done -> earlier.cookie ≠ tuple.cookie) :
    assignMappings table entry (done ++ [tuple]) =
      assignMappings table entry done >>= fun temp => assignMappings temp entry [tuple] := by
  cases checked : done.foldlM (assignCheck table entry) table.globalBitmap with
  | error reason =>
      unfold assignMappings
      rw [List.foldlM_append, checked]
      rfl
  | ok simBitmap =>
      have present := fun earlier member => (assign_checked checked earlier member).1
      rcases assignApply_completes located present with ⟨applied, stored⟩
      have first : assignMappings table entry done = .ok (applied.setBitmap simBitmap) := by
        unfold assignMappings
        rw [checked]
        change (done.foldlM (assignApply entry) table >>= _) = _
        rw [stored]
        rfl
      have kept := assignApply_keeps located stored
      rw [first]
      change _ = assignMappings (applied.setBitmap simBitmap) entry [tuple]
      rw [assignMappings_singleton, assignCheck_of_keeps simBitmap kept fresh]
      unfold assignMappings
      rw [List.foldlM_append, List.foldlM_append, checked, stored]
      change ([tuple].foldlM (assignCheck table entry) simBitmap >>= fun next =>
        [tuple].foldlM (assignApply entry) applied >>= _) = _
      rw [foldlM_singleton, foldlM_singleton]
      rfl

/-- A removal of ids makes no use of distinct cookies. -/
theorem unassign_snoc {table : Table} {receiver : Uuid} {entry : Fin notifyMaxServices}
    {done : List NotifyTuple} {tuple : NotifyTuple}
    (located : table.nfyFindEntry receiver = some entry) :
    unassignMappings table entry (done ++ [tuple]) =
      unassignMappings table entry done >>= fun temp => unassignMappings temp entry [tuple] := by
  cases checked : done.foldlM (unassignCheck table entry) () with
  | error reason =>
      unfold unassignMappings
      rw [List.foldlM_append, checked]
      rfl
  | ok _ =>
      rcases unassignApply_completes located (unassign_checked checked) with ⟨applied, stored⟩
      have first : unassignMappings table entry done = .ok applied := by
        unfold unassignMappings
        rw [checked]
        exact stored
      have kept := unassignApply_keeps located stored
      rw [first]
      change _ = unassignMappings applied entry [tuple]
      unfold unassignMappings
      rw [List.foldlM_append, List.foldlM_append, checked, stored]
      change ([tuple].foldlM (unassignCheck table entry) () >>= fun _ =>
        [tuple].foldlM (unassignApply entry) applied) = _
      rw [foldlM_singleton, foldlM_singleton, foldlM_singleton, unassignCheck_eq, unassignCheck_eq,
        kept.lookup]

/-! ## The loop of a request -/

/-- The loop that a request of each kind runs over its tuples. -/
def loop (entry : Fin notifyMaxServices) (srcId : U16) (id : MessageID) (table : Table)
    (tuples : List NotifyTuple) : Except Stop Table :=
  match id with
  | .setup | .add => tuples.foldlM (registerTuple table entry srcId) table
  | .remove | .destroy => tuples.foldlM (unregisterTuple table entry srcId) table
  | .assign => assignMappings table entry tuples
  | .unassign => unassignMappings table entry tuples

/-- With distinct cookies, the loop of a request treats each tuple as a
request for that tuple alone. -/
theorem loop_eq_foldlM {table : Table} {receiver : Uuid} {entry : Fin notifyMaxServices}
    (located : table.nfyFindEntry receiver = some entry) (srcId : U16) (id : MessageID)
    {tuples : List NotifyTuple} (distinct : (tuples.map NotifyTuple.cookie).Nodup) :
    loop entry srcId id table tuples =
      tuples.foldlM (fun temp tuple => loop entry srcId id temp [tuple]) table := by
  apply eq_foldlM_of_snoc
  · cases id <;> rfl
  · intro done tuple rest split
    have fresh := distinct_from_earlier distinct split
    cases id with
    | setup | add => exact register_snoc fresh
    | remove | destroy => exact unregister_snoc located fresh
    | assign => exact assign_snoc located fresh
    | unassign => exact unassign_snoc located

/-- No loop adds or drops an entry. -/
theorem loop_sameEntries {table final : Table} {receiver : Uuid} {entry : Fin notifyMaxServices}
    (located : table.nfyFindEntry receiver = some entry) {srcId : U16} {id : MessageID}
    {tuples : List NotifyTuple} (completed : loop entry srcId id table tuples = .ok final) :
    final.SameEntries table := by
  cases id with
  | setup | add => exact (register_mapping completed).1
  | remove | destroy => exact (unregister_mapping located completed).1
  | assign => exact (assignMappings_keeps located completed).1
  | unassign => exact (unassignMappings_keeps located completed).1

theorem loop_refused {table : Table} {entry : Fin notifyMaxServices} {srcId : U16} {id : MessageID}
    {tuples : List NotifyTuple} {status : ErrorCode}
    (stopped : loop entry srcId id table tuples = .error (.refused status)) : status ≠ .ok := by
  cases id with
  | setup | add =>
      rcases exists_of_foldlM_error stopped with ⟨_, tuple, _, temp, _, _, refused⟩
      exact registerTuple_refused refused
  | remove | destroy =>
      rcases exists_of_foldlM_error stopped with ⟨_, tuple, _, temp, _, _, refused⟩
      exact unregisterTuple_refused refused
  | assign => exact assignMappings_refused stopped
  | unassign => exact unassignMappings_refused stopped

/-! ## The entry of a request -/

/-- The entry that a request of each kind works on, in the table in which it
has been claimed if it had to be. -/
def Table.locate (table : Table) (receiver : Uuid) :
    MessageID -> Except ErrorCode (Fin notifyMaxServices × Table)
  | .setup | .add => (table.findOrCreateEntry receiver).elim (.error .noMemory) .ok
  | .remove | .destroy | .assign | .unassign =>
      (table.nfyFindEntry receiver).elim (.error .invalidParameters) (fun entry => .ok (entry, table))

/-- A request whose entry is not found is refused, any other runs its loop. -/
def settleLocated (table : Table) (body : Fin notifyMaxServices -> Table -> Except Stop Table) :
    Except ErrorCode (Fin notifyMaxServices × Table) -> Option (ErrorCode × Table)
  | .error code => some (code, table)
  | .ok (entry, claimed) => settle claimed (body entry claimed)

theorem process_eq {table : Table} {req : NotifyReq} (id : MessageID)
    (counted : 1 ≤ req.count ∧ req.count ≤ notifyMaxTuplesPerReq) :
    process table req id =
      settleLocated table (fun entry claimed => loop entry req.srcId id claimed req.tuples)
        (table.locate req.receiverUuid id) := by
  cases id with
  | setup | add =>
      change registerRequest table req = _
      unfold registerRequest Table.locate
      rw [if_neg (not_not.mpr counted)]
      cases table.findOrCreateEntry req.receiverUuid with
      | none => rfl
      | some place => rfl
  | remove | destroy =>
      change unregisterRequest table req = _
      unfold unregisterRequest Table.locate
      cases table.nfyFindEntry req.receiverUuid with
      | none => rfl
      | some entry => rfl
  | assign =>
      change assignRequest table req = _
      unfold assignRequest Table.locate
      cases table.nfyFindEntry req.receiverUuid with
      | none => rfl
      | some entry => rfl
  | unassign =>
      change unassignRequest table req = _
      unfold unassignRequest Table.locate
      cases table.nfyFindEntry req.receiverUuid with
      | none => rfl
      | some entry => rfl

theorem Table.findOrCreateEntry_of_known {table : Table} {receiver : Uuid}
    {entry : Fin notifyMaxServices} (known : table.nfyFindEntry receiver = some entry) :
    table.findOrCreateEntry receiver = some (entry, table) := by
  unfold Table.findOrCreateEntry
  rw [known]

theorem Table.locate_of_known {table : Table} {receiver : Uuid} {entry : Fin notifyMaxServices}
    (known : table.nfyFindEntry receiver = some entry) (id : MessageID) :
    table.locate receiver id = .ok (entry, table) := by
  unfold Table.locate
  rw [known, Table.findOrCreateEntry_of_known known]
  cases id <;> rfl

theorem DistinctServices.nfyFindEntry {table : Table} (distinct : DistinctServices table)
    {entry : Fin notifyMaxServices} (inUse : (table.entries entry).inUse = true) :
    table.nfyFindEntry (table.entries entry).serviceUuid = some entry := by
  cases found : table.nfyFindEntry (table.entries entry).serviceUuid with
  | none => exact absurd rfl (Table.nfyFindEntry_eq_none found inUse)
  | some other =>
      have selected := Table.nfyFindEntry_spec found
      rw [distinct other entry selected.2 inUse selected.1]

/-- Once it is claimed, the entry is the one that is found. -/
theorem DistinctServices.known_of_claimed {table claimed : Table} (distinct : DistinctServices table)
    {receiver : Uuid} {entry : Fin notifyMaxServices}
    (located : table.findOrCreateEntry receiver = some (entry, claimed)) :
    claimed.nfyFindEntry receiver = some entry := by
  rcases Table.findOrCreateEntry_cases located with ⟨known, rfl⟩ | ⟨unknown, _, rfl⟩
  · exact known
  · have entryOf := Table.claimEntry_entry table entry receiver
    have inUse := congrArg NfyEntry.inUse entryOf
    have found := (distinct.claimEntry unknown entry).nfyFindEntry inUse
    rw [entryOf] at found
    exact found

/-- Every kind of request works on the entry that a registration would, if it
works on any. -/
theorem Table.locate_cases (table : Table) (receiver : Uuid) (id : MessageID) :
    (exists place, table.locate receiver id = .ok place ∧
      table.findOrCreateEntry receiver = some place) ∨
    exists code, table.locate receiver id = .error code ∧ code ≠ .ok := by
  unfold Table.locate
  cases id with
  | setup | add =>
      cases table.findOrCreateEntry receiver with
      | none => exact Or.inr ⟨.noMemory, rfl, by decide⟩
      | some place => exact Or.inl ⟨place, rfl, rfl⟩
  | remove | destroy | assign | unassign =>
      cases known : table.nfyFindEntry receiver with
      | none => exact Or.inr ⟨.invalidParameters, rfl, by decide⟩
      | some entry => exact Or.inl ⟨(entry, table), rfl, Table.findOrCreateEntry_of_known known⟩

/-! ## Requests for one tuple each -/

/-- The status that a response reports, and the table that the request leaves. -/
def answer (table : Table) (message : MsgSendDirectReq2) : Option (U64 × Table) :=
  match ffaMsgSendDirectReq2 table message with
  | some (.ok response, after) => some (responseStatus response, after)
  | _ => none

/-- Requests sent one after another, up to the first that does not succeed. -/
def oneByOne (table : Table) : List MsgSendDirectReq2 -> Option (U64 × Table)
  | [] => some (ErrorCode.ok.toU64, table)
  | message :: rest =>
      (answer table message).bind (fun (status, after) =>
        if status = ErrorCode.ok.toU64 then oneByOne after rest else some (status, after))

/-- A request of the same kind, source and receiver for one tuple alone. -/
structure Single (message single : MsgSendDirectReq2) (tuple : NotifyTuple) : Prop where
  kind : messageId (NotifyReq.ofMessage single).msgInfo = messageId (NotifyReq.ofMessage message).msgInfo
  source : (NotifyReq.ofMessage single).srcId = (NotifyReq.ofMessage message).srcId
  receiver : (NotifyReq.ofMessage single).receiverUuid = (NotifyReq.ofMessage message).receiverUuid
  tuples : (NotifyReq.ofMessage single).tuples = [tuple]

theorem answer_eq (table : Table) {message : MsgSendDirectReq2} {id : MessageID}
    (selected : messageId (NotifyReq.ofMessage message).msgInfo = some id) :
    answer table message = (process table (NotifyReq.ofMessage message) id).map
      (fun (status, after) => (status.toU64, after)) := by
  unfold answer ffaMsgSendDirectReq2
  simp only [selected]
  cases process table (NotifyReq.ofMessage message) id with
  | none => rfl
  | some outcome =>
      rw [Option.map_some, Option.map_some]
      dsimp only
      rw [responseStatus_respond]

/-- The status of an answer is the one the request was processed with. -/
theorem process_of_answer {table after : Table} {message : MsgSendDirectReq2} {id : MessageID}
    {status : ErrorCode} (selected : messageId (NotifyReq.ofMessage message).msgInfo = some id)
    (answered : answer table message = some (status.toU64, after)) :
    process table (NotifyReq.ofMessage message) id = some (status, after) := by
  rw [answer_eq table selected] at answered
  rcases Option.map_eq_some_iff.mp answered with ⟨⟨code, final⟩, processed, same⟩
  rcases Prod.mk.inj same with ⟨sameStatus, rfl⟩
  rw [processed, ErrorCode.toU64_injective sameStatus]

theorem Single.process_eq {table : Table} {message single : MsgSendDirectReq2} {tuple : NotifyTuple}
    (alone : Single message single tuple) (id : MessageID) :
    process table (NotifyReq.ofMessage single) id =
      settleLocated table
        (fun entry claimed => loop entry (NotifyReq.ofMessage message).srcId id claimed [tuple])
        (table.locate (NotifyReq.ofMessage message).receiverUuid id) := by
  have counted : 1 ≤ (NotifyReq.ofMessage single).count := by
    have length := congrArg List.length alone.tuples
    rw [NotifyReq.tuples, List.length_take, List.length_singleton] at length
    omega
  rw [Notify.process_eq id ⟨counted, Nat.min_le_right _ _⟩, alone.source, alone.receiver, alone.tuples]

theorem oneByOne_of_ok {table after : Table} {message : MsgSendDirectReq2}
    (answered : answer table message = some (ErrorCode.ok.toU64, after))
    (rest : List MsgSendDirectReq2) : oneByOne table (message :: rest) = oneByOne after rest := by
  rw [oneByOne, answered, Option.bind_some]
  exact if_pos rfl

theorem oneByOne_of_error {table after : Table} {message : MsgSendDirectReq2} {status : ErrorCode}
    (answered : answer table message = some (status.toU64, after)) (failed : status ≠ .ok)
    (rest : List MsgSendDirectReq2) :
    oneByOne table (message :: rest) = some (status.toU64, after) := by
  rw [oneByOne, answered, Option.bind_some]
  exact if_neg (fun same => failed (ErrorCode.toU64_injective same))

/-- Requests for one tuple each, sent to a table that knows their receiver,
are a loop over the tuples. -/
theorem oneByOne_of_known {message : MsgSendDirectReq2} {id : MessageID}
    {entry : Fin notifyMaxServices}
    (selected : messageId (NotifyReq.ofMessage message).msgInfo = some id)
    {singles : List MsgSendDirectReq2} {tuples : List NotifyTuple}
    (alone : List.Forall₂ (Single message) singles tuples) {table : Table} (bounded : Bounded table)
    (known : table.nfyFindEntry (NotifyReq.ofMessage message).receiverUuid = some entry) :
    exists status final, oneByOne table singles = some (ErrorCode.toU64 status, final) ∧
      ((tuples.foldlM (fun temp tuple =>
          loop entry (NotifyReq.ofMessage message).srcId id temp [tuple]) table = .ok final ∧
        status = .ok) ∨
      (tuples.foldlM (fun temp tuple =>
          loop entry (NotifyReq.ofMessage message).srcId id temp [tuple]) table =
          .error (.refused status) ∧
        status ≠ .ok)) := by
  induction alone generalizing table with
  | nil => exact ⟨.ok, table, rfl, Or.inl ⟨rfl, rfl⟩⟩
  | @cons single tuple singles tuples head rest inductionHypothesis =>
      rcases process_progress bounded (NotifyReq.ofMessage single) id with
        ⟨status, after, processed, stillBounded⟩
      have answered := answer_eq table (head.kind.trans selected)
      rw [processed, Option.map_some] at answered
      rw [head.process_eq, Table.locate_of_known known] at processed
      change settle table (loop entry (NotifyReq.ofMessage message).srcId id table [tuple]) = _ at processed
      rcases settle_eq_some processed with ⟨completed, rfl⟩ | ⟨stopped, rfl⟩
      · have knownAfter := ((loop_sameEntries known completed).nfyFindEntry _).trans known
        rcases inductionHypothesis stillBounded knownAfter with ⟨status, final, answers, looped⟩
        refine ⟨status, final, (oneByOne_of_ok answered singles).trans answers, ?_⟩
        rw [List.foldlM_cons, completed]
        exact looped
      · have failed := loop_refused stopped
        refine ⟨status, after, oneByOne_of_error answered failed singles, Or.inr ⟨?_, failed⟩⟩
        rw [List.foldlM_cons, stopped]
        rfl

/-- The first request of several claims the entry that the others find. -/
theorem oneByOne_of_claimed {table claimed : Table} {message : MsgSendDirectReq2} {id : MessageID}
    {entry : Fin notifyMaxServices}
    (selected : messageId (NotifyReq.ofMessage message).msgInfo = some id)
    {singles : List MsgSendDirectReq2} {tuples : List NotifyTuple}
    (alone : List.Forall₂ (Single message) singles tuples) (nonempty : tuples ≠ [])
    (located : table.locate (NotifyReq.ofMessage message).receiverUuid id = .ok (entry, claimed))
    (known : claimed.nfyFindEntry (NotifyReq.ofMessage message).receiverUuid = some entry) :
    oneByOne table singles = oneByOne claimed singles := by
  cases alone with
  | nil => exact absurd rfl nonempty
  | cons head rest =>
      rw [oneByOne, oneByOne, answer_eq table (head.kind.trans selected),
        answer_eq claimed (head.kind.trans selected), head.process_eq, head.process_eq, located,
        Table.locate_of_known known]
      rfl

/-- Every request whose tuples have distinct cookies is answered as its tuples
are when they are sent one by one.  If they all succeed it leaves the same
table, and otherwise it reports the status of the first that fails. -/
theorem batch_eq_oneByOne (messages : List MsgSendDirectReq2) (table : Table)
    (message : MsgSendDirectReq2) (singles : List MsgSendDirectReq2)
    (reached : run step Table.new messages = some table)
    (identified : (messageId (NotifyReq.ofMessage message).msgInfo).isSome = true)
    (counted : 1 ≤ (NotifyReq.ofMessage message).count)
    (distinct : (NotifyReq.ofMessage message).DistinctCookies)
    (alone : List.Forall₂ (Single message) singles (NotifyReq.ofMessage message).tuples) :
    exists status final after, oneByOne table singles = some (status, final) ∧
      answer table message = some (status, after) ∧
      (status = ErrorCode.ok.toU64 -> after = final) := by
  have wellFormed := wellFormed_of_reached reached
  have nonempty := tuples_ofMessage_ne_nil counted
  rcases Option.isSome_iff_exists.mp identified with ⟨id, selected⟩
  rw [answer_eq table selected, process_eq id ⟨counted, Nat.min_le_right _ _⟩]
  rcases table.locate_cases (NotifyReq.ofMessage message).receiverUuid id with
    ⟨⟨entry, claimed⟩, located, created⟩ | ⟨code, located, failed⟩
  · have known := wellFormed.distinctServices.known_of_claimed created
    rcases oneByOne_of_known selected alone (wellFormed.bounded.findOrCreateEntry created) known with
      ⟨status, final, answers, looped⟩
    rw [← loop_eq_foldlM known _ id distinct] at looped
    rw [oneByOne_of_claimed selected alone nonempty located known, located, answers]
    change exists status' final' after, _ ∧ (settle claimed (loop entry _ id claimed _)).map _ = _ ∧ _
    rcases looped with ⟨completed, rfl⟩ | ⟨stopped, failed⟩
    · rw [completed]
      exact ⟨ErrorCode.ok.toU64, final, final, rfl, rfl, fun _ => rfl⟩
    · rw [stopped]
      exact ⟨status.toU64, final, claimed, rfl, rfl,
        fun same => absurd (ErrorCode.toU64_injective same) failed⟩
  · have refused : forall single tuple, Single message single tuple ->
        answer table single = some (code.toU64, table) := by
      intro single tuple head
      rw [answer_eq table (head.kind.trans selected), head.process_eq, located]
      rfl
    rw [located]
    generalize (NotifyReq.ofMessage message).tuples = tuples at alone nonempty
    cases alone with
    | nil => exact absurd rfl nonempty
    | cons head rest =>
        exact ⟨code.toU64, table, table, oneByOne_of_error (refused _ _ head) failed _, rfl, fun _ => rfl⟩

/-- A registration of two tuples, and the registrations of each. -/
def pairOfTuples : MsgSendDirectReq2 :=
  compose 1 7 .add [⟨11, 3, .global⟩, ⟨12, 4, .perVcpu⟩] (by decide)

def eachOfTuples : List MsgSendDirectReq2 :=
  [compose 1 7 .add [⟨11, 3, .global⟩] (by decide), compose 1 7 .add [⟨12, 4, .perVcpu⟩] (by decide)]

theorem pairOfTuples_eq_oneByOne :
    exists table, run step Table.new [compose 2 7 .setup [⟨5, 6, .global⟩] (by decide)] = some table ∧
      exists status final after, oneByOne table eachOfTuples = some (status, final) ∧
        answer table pairOfTuples = some (status, after) ∧
        (status = ErrorCode.ok.toU64 -> after = final) := by
  have reached := run_eq_finalState
    (show (run step Table.new [compose 2 7 .setup [⟨5, 6, .global⟩] (by decide)]).isSome = true by
      decide +kernel)
  have tuples : (NotifyReq.ofMessage pairOfTuples).tuples = [⟨11, 3, .global⟩, ⟨12, 4, .perVcpu⟩] := by
    decide +kernel
  have alone : List.Forall₂ (Single pairOfTuples) eachOfTuples
      (NotifyReq.ofMessage pairOfTuples).tuples := by
    rw [tuples]
    refine .cons ⟨?_, ?_, ?_, ?_⟩ (.cons ⟨?_, ?_, ?_, ?_⟩ .nil) <;> decide +kernel
  exact ⟨_, reached, batch_eq_oneByOne _ _ pairOfTuples eachOfTuples reached (by decide +kernel)
    (by decide +kernel) (by decide +kernel) alone⟩

end Notify
end SecureServices
